/-!
# Regular patterns

A regular pattern describes a set of texts. Membership is decided by taking the derivative of the
pattern by one character after the other, so that the decision is a recursion on the text.

## Main definitions

* `Pattern`: the regular patterns over classes of characters
* `Pattern.derivative`: what may follow a character
* `Pattern.accepts`: the decision
-/

namespace CauseTrail.Text

/-- A regular pattern over classes of characters. -/
inductive Pattern where
  | never
  | empty
  | one (p : Char → Bool)
  | seq (a b : Pattern)
  | alt (a b : Pattern)
  | star (a : Pattern)

namespace Pattern

/-- Whether the empty text is in the pattern. -/
def nullable : Pattern → Bool
  | never => false
  | empty => true
  | one _ => false
  | seq a b => a.nullable && b.nullable
  | alt a b => a.nullable || b.nullable
  | star _ => true

/-- Sequence, with the trivial cases resolved. -/
def seq' : Pattern → Pattern → Pattern
  | never, _ => never
  | empty, b => b
  | a, b => seq a b

/-- Alternative, with the trivial cases resolved. -/
def alt' : Pattern → Pattern → Pattern
  | never, b => b
  | a, never => a
  | a, b => alt a b

/-- The texts that complete `c` to a text of the pattern. -/
def derivative (c : Char) : Pattern → Pattern
  | never => never
  | empty => never
  | one p => if p c then empty else never
  | seq a b =>
    if a.nullable then alt' (seq' (a.derivative c) b) (b.derivative c)
    else seq' (a.derivative c) b
  | alt a b => alt' (a.derivative c) (b.derivative c)
  | star a => seq' (a.derivative c) (star a)

/-- Whether the text is in the pattern. -/
def accepts : Pattern → List Char → Bool
  | r, [] => r.nullable
  | r, c :: cs => (r.derivative c).accepts cs

/-- The given text alone. -/
def text (s : String) : Pattern :=
  s.toList.foldr (fun c r => seq (one (· == c)) r) empty

/-- One of the characters of the given text. -/
def oneOf (s : String) : Pattern := one fun c => s.toList.contains c

/-- One ASCII digit. -/
def digit : Pattern := one fun c => decide ('0' ≤ c ∧ c ≤ '9')

/-- The pattern or nothing. -/
def optional (a : Pattern) : Pattern := alt a empty

/-- The pattern once or more. -/
def plus (a : Pattern) : Pattern := seq a (star a)

/-- The patterns one after the other. -/
def all : List Pattern → Pattern
  | [] => empty
  | [a] => a
  | a :: as => seq a (all as)

/-- One of the patterns. -/
def anyOf : List Pattern → Pattern
  | [] => never
  | [a] => a
  | a :: as => alt a (anyOf as)

/-- One of the given texts. -/
def texts (ss : List String) : Pattern := anyOf (ss.map text)

example : (all [digit, star (oneOf "ab")]).accepts "1abba".toList := by decide

end Pattern

end CauseTrail.Text
