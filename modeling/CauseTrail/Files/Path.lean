/-!
# Paths

A path is written as names set apart by slashes. Empty names and single dots say nothing and are
dropped; two dots name the parent and are kept, because what they lead to depends on the files.
A path that begins with a slash is absolute; exactly two slashes at the beginning are kept apart
from one.

## Main definitions

* `Path`: the paths
* `Path.ofText`, `Path.text`: reading and writing
* `Path.join`: a path taken from the place of another one
* `Path.parent`, `Path.name`, `Path.suffix`: parts of a path

## Main results

* `Path.join_absolute`: an absolute path is the same from everywhere
-/

namespace CauseTrail

/-- Where a path begins: at the working directory, at the top, or at the top written with two
slashes. -/
inductive Path.Anchor where
  | here
  | top
  | doubleTop
deriving DecidableEq, Repr, Inhabited

/-- A path: where it begins and the names along it. -/
structure Path where
  anchor : Path.Anchor
  names : List String
deriving DecidableEq, Repr, Inhabited

namespace Path

/-- The pieces of a text between its slashes. -/
def pieces : List Char → List (List Char)
  | [] => [[]]
  | c :: cs =>
    if c = '/' then [] :: pieces cs
    else
      match pieces cs with
      | [] => [[c]]
      | p :: ps => (c :: p) :: ps

/-- Whether a piece names something. -/
def isName (p : List Char) : Bool := p ≠ [] && p ≠ ['.']

/-- The anchor of a text. -/
def anchorOf : List Char → Anchor
  | '/' :: '/' :: '/' :: _ => .top
  | '/' :: '/' :: _ => .doubleTop
  | '/' :: _ => .top
  | _ => .here

/-- The path that a text spells. -/
def ofText (s : String) : Path :=
  let cs := s.toList
  ⟨anchorOf cs, ((pieces cs).filter isName).map String.ofList⟩

/-- What an anchor is written as. -/
def Anchor.text : Anchor → String
  | .here => ""
  | .top => "/"
  | .doubleTop => "//"

/-- The text of a path; the path that says nothing is a dot. -/
def text (p : Path) : String :=
  if p.anchor = .here ∧ p.names = [] then "."
  else p.anchor.text ++ "/".intercalate p.names

/-- Whether a path begins at the top. -/
def isAbsolute (p : Path) : Bool := p.anchor ≠ .here

/-- The path `q`, taken from the place `p`. -/
def join (p q : Path) : Path := if q.isAbsolute then q else ⟨p.anchor, p.names ++ q.names⟩

/-- The path with one more name. -/
def child (p : Path) (name : String) : Path := p.join (ofText name)

/-- The path without its last name. -/
def parent (p : Path) : Path := ⟨p.anchor, p.names.dropLast⟩

/-- The last name of a path. -/
def name (p : Path) : String := p.names.getLast?.getD ""

/-- What follows the last dot of a name, the dot included, unless the name begins or ends with
that dot. -/
def suffixOf (name : List Char) : List Char :=
  let after := name.reverse.takeWhile (· ≠ '.')
  let stem := name.length - after.length - 1
  if after = [] ∨ name.length ≤ after.length ∨ stem = 0 then [] else '.' :: after.reverse

/-- The suffix of a path. -/
def suffix (p : Path) : String := String.ofList (suffixOf p.name.toList)

/-- The path without `..`: each of them takes away the name before it. -/
def lexical (p : Path) : Path :=
  ⟨p.anchor, p.names.foldl (fun ns n => if n = ".." then ns.dropLast else ns ++ [n]) []⟩

theorem join_absolute {p q : Path} (h : q.isAbsolute = true) : p.join q = q := by
  simp [join, h]

theorem join_relative {p q : Path} (h : q.isAbsolute = false) :
    p.join q = ⟨p.anchor, p.names ++ q.names⟩ := by
  simp [join, h]

example : (ofText "a/./b//c/").text = "a/b/c" := by decide +kernel
example : (ofText "").text = "." := by decide +kernel
example : (ofText "x/e.tar.json").suffix = ".json" := by decide +kernel
example : (ofText ".json").suffix = "" ∧ (ofText "e.").suffix = "" := by decide +kernel

end Path

end CauseTrail
