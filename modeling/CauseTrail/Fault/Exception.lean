import CauseTrail.Value.Literal

/-!
# Exceptions and their texts

An exception has the name of its class and the values it was raised with. Its debug text is the
name with the literals of the values; its display text is the plain text of a single value, and
the literal of the tuple of the values otherwise. Some families form their texts in their own way.
A class of its own may answer with any text, or raise an exception in place of it, for either text
on its own.

## Main definitions

* `Failure`: what is raised where a text or a cause was asked for
* `Exception`: an exception without what caused it
* `Exception.ofClass`: an exception of a known class, in the family of that class
* `Exception.custom`: an exception that answers for its texts itself
* `Exception.familyDebug`, `Exception.familyDisplay`: the texts that the family forms
* `Exception.debug`, `Exception.display`: the answers for the two texts
-/

namespace CauseTrail

/-- What is raised in place of an answer: the class and the message. -/
structure Failure where
  className : String
  message : String
deriving DecidableEq, Repr

/-- What an error answers when it is asked for a text. -/
abbrev Answer := Except Failure String

namespace Exception

/-- The families of exceptions, by how they form their texts. -/
inductive Family where
  /-- The texts follow from the values. -/
  | plain
  /-- A failed look-up: a single value is displayed as its literal. -/
  | lookup
  /-- A grammatical mistake: the first value is its message, and null if it has none; a second and
  last one tells its place. -/
  | grammar
  /-- A conversion between texts that failed: the values tell the coding, if there is one, what was
  converted, from where to where it does not fit, and why. -/
  | conversion
  /-- A refusal by the operating system, with the file it concerns and a second one. -/
  | system (file? second? : Option Value)
  /-- An error of this library, which names its message. -/
  | own
deriving Repr

end Exception

/-- An exception without what caused it. An answer that is fixed stands in place of the text that
the family forms. -/
structure Exception where
  className : String
  args : List Value
  family : Exception.Family
  debug? : Option Answer := none
  display? : Option Answer := none
deriving Repr

namespace Exception

/-- The classes that the numbers of the operating system stand for. -/
def systemClasses : List (Nat × String) :=
  [(1, "PermissionError"), (2, "FileNotFoundError"), (3, "ProcessLookupError"),
    (4, "InterruptedError"), (10, "ChildProcessError"), (11, "BlockingIOError"),
    (13, "PermissionError"), (17, "FileExistsError"), (20, "NotADirectoryError"),
    (21, "IsADirectoryError"), (32, "BrokenPipeError"), (103, "ConnectionAbortedError"),
    (104, "ConnectionResetError"), (108, "BrokenPipeError"), (110, "TimeoutError"),
    (111, "ConnectionRefusedError"), (114, "BlockingIOError"), (115, "BlockingIOError")]

/-- The class of a refusal by the operating system, whatever its number. -/
def systemClass : String := "OSError"

/-- The class that a number of the operating system stands for. -/
def classOfNumber (number : Value) : String :=
  ((systemClasses.find? fun c => number.integer? = some (c.1 : Int)).map (·.2)).getD systemClass

/-- The other names of the general class. -/
def systemAliases : List String := [systemClass, "IOError", "EnvironmentError"]

/-- The classes of refusals by the operating system. -/
def isSystemClass (name : String) : Bool :=
  name = "ConnectionError" || systemClasses.any fun c => c.2 = name

/-- A refusal by the operating system. With two to five values the first is its number and the
third the file it concerns: a file takes the place of the values behind the second, and the
general class makes way for the one of the number. -/
def ofSystem (name : String) (args : List Value) : Exception :=
  let general := systemAliases.contains name
  match args with
  | number :: reason :: more =>
    let className :=
      if !general then name else if 3 < more.length then systemClass else classOfNumber number
    -- a blocked call may tell a count of characters in the place of a file
    let numeric := more.head?.any fun f => f.integer?.isSome
    let file? := if 3 < more.length ∨ (className = "BlockingIOError" ∧ numeric) then none
      else more.head?.filter (!·.isNull)
    let second? := file?.bind fun _ => more[2]?.filter (!·.isNull)
    let args := if file?.isSome then [number, reason] else args
    { className, args, family := .system file? second? }
  | _ => { className := if general then systemClass else name, args, family := .system none none }

/-- The classes of this library's own errors. -/
def ownClasses : List String :=
  ["ErrorChainSDKError", "ConfigurationError", "TransportError", "InvalidErrorValue"]

/-- The classes of this library's and of the language's own that an error of this library belongs
to, from the general to the particular. -/
def ownAncestors (name : String) : List String :=
  if name = "ErrorChainSDKError" then [name]
  else if name = "InvalidErrorValue" then ["ErrorChainSDKError", name, "TypeError"]
  else ["ErrorChainSDKError", name]

/-- An exception of a known class. -/
def ofClass (name : String) (args : List Value) : Exception :=
  if systemAliases.contains name || isSystemClass name then ofSystem name args
  else if ownClasses.contains name then { className := name, args := args.take 1, family := .own }
  else
    let family : Family :=
      if name = "KeyError" then .lookup
      else if ["SyntaxError", "IndentationError", "TabError"].contains name then .grammar
      else if ["UnicodeEncodeError", "UnicodeDecodeError", "UnicodeTranslateError"].contains name
        then .conversion
      else .plain
    { className := name, args, family }

/-- An exception of a class of its own, of which either answer may be fixed. -/
def custom (name : String) (args : List Value) (debug? display? : Option Answer) : Exception :=
  { className := name, args, family := .plain, debug?, display? }

/-- The display text that the values alone make. -/
def displayOfArgs : List Value → String
  | [] => ""
  | [x] => x.plain
  | xs => (Value.tuple xs).literal

/-- The members of a collection: the characters of a text and the keys of a mapping. -/
def members : Value → List Value
  | .list xs | .tuple xs | .set xs => xs
  | .text s => s.toList.map fun c => .text (String.singleton c)
  | .map es => es.map (·.1)
  | _ => []

/-- The place of a grammatical mistake as its message tells it: the name of a file, without the
directories before it, and the number of a line, each if it is one. -/
def placeText (file line : Value) : String :=
  let name? := match file with
    | .text s => some (String.ofList (s.toList.reverse.takeWhile (· ≠ '/')).reverse)
    | _ => none
  let line? := match line with
    | .int n => some s!"line {n}"
    | _ => none
  match name?.toList ++ line?.toList with
  | [] => ""
  | parts => " (" ++ ", ".intercalate parts ++ ")"

/-- The display text of a grammatical mistake. -/
def displayOfGrammar : List Value → String
  | [] => Value.null.plain
  | [message, place] =>
    match members place with
    | file :: line :: _ => message.plain ++ placeText file line
    | _ => message.plain
  | message :: _ => message.plain

/-- The place where a conversion failed. If that is a single unit, its text is told as well. -/
def unitsText (unit : String) (texts : List String) (start stop : Int) : String :=
  match if stop = start + 1 then texts[start.toNat]? else none with
  | some text => s!"{unit} {text} in position {start}"
  | none => s!"{unit}s in position {start}-{stop - 1}"

/-- The characters of a text that was converted, as they are told. -/
def charactersText (s : String) (start stop : Int) : String :=
  unitsText "character" (s.toList.map fun c =>
    "'" ++ String.ofList (Text.numberEscape c.toNat) ++ "'") start stop

/-- The bytes that were converted, as they are told. -/
def bytesText (bs : List UInt8) (start stop : Int) : String :=
  unitsText "byte" (bs.map fun b => "0x" ++ String.ofList (Text.hexDigits 2 b.toNat)) start stop

/-- The display text of a failed conversion. -/
def displayOfConversion (args : List Value) : String :=
  let told? : Option String :=
    match args with
    | [coding, .text s, start, stop, reason] => do
      let chars := charactersText s (← start.integer?) (← stop.integer?)
      return s!"'{coding.plain}' codec can't encode {chars}: {reason.plain}"
    | [coding, .bytes bs, start, stop, reason] => do
      let bytes := bytesText bs (← start.integer?) (← stop.integer?)
      return s!"'{coding.plain}' codec can't decode {bytes}: {reason.plain}"
    | [.text s, start, stop, reason] => do
      let chars := charactersText s (← start.integer?) (← stop.integer?)
      return s!"can't translate {chars}: {reason.plain}"
    | _ => none
  told?.getD (displayOfArgs args)

/-- The display text that the family of an exception forms. -/
def familyDisplay (e : Exception) : String :=
  match e.family, e.args with
  | .lookup, [x] => x.literal
  | .grammar, args => displayOfGrammar args
  | .conversion, args => displayOfConversion args
  | .system none _, [number, reason] | .system none _, [number, reason, _]
  | .system none _, [number, reason, _, _] | .system none _, [number, reason, _, _, _] =>
    s!"[Errno {number.plain}] {reason.plain}"
  | .system (some file) second?, number :: reason :: _ =>
    s!"[Errno {number.plain}] {reason.plain}: {file.literal}" ++
      (second?.map fun f => " -> " ++ f.literal).getD ""
  | _, args => displayOfArgs args

/-- The debug text that the family of an exception forms. -/
def familyDebug (e : Exception) : String :=
  match e.family with
  | .own => Value.call e.className ["message=" ++ Text.quote e.familyDisplay]
  | _ => Value.call e.className (Value.literals e.args)

/-- What an exception answers for its display text. -/
def display (e : Exception) : Answer := e.display?.getD (.ok e.familyDisplay)

/-- What an exception answers for its debug text. -/
def debug (e : Exception) : Answer := e.debug?.getD (.ok e.familyDebug)

end Exception

end CauseTrail
