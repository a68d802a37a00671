import CauseTrail.Text.Blank

/-!
# Type names in debug texts

The debug text of a value starts with the name of its type, followed by its fields. The name is
what stands before the first delimiter, without the blanks around it. A text that starts with a
delimiter has the empty name.

## Main definitions

* `TypeName.isDelimiter`: space, opening parenthesis, opening brace and the line ends
* `TypeName.token`: the characters before the first delimiter
* `TypeName.ofDebug`: the type name of a debug text
-/

namespace CauseTrail.TypeName

/-- Whether a character ends a type name. -/
def isDelimiter (c : Char) : Bool :=
  c = ' ' || c = '(' || c = '\x7b' || c = '\r' || c = '\n'

/-- The characters before the first delimiter. -/
def token (cs : List Char) : List Char := cs.takeWhile fun c => !isDelimiter c

/-- The characters of the type name. -/
def chars (cs : List Char) : List Char := Text.trim (token cs)

/-- The type name of a debug text. -/
def ofDebug (debug : String) : String := String.ofList (chars debug.toList)

example : ofDebug "MyStruct \x7b field: 1 \x7d" = "MyStruct" := by decide
example : ofDebug "\tMyStruct(5)" = "MyStruct" := by decide
example : ofDebug " MyStruct" = "" := by decide

end CauseTrail.TypeName
