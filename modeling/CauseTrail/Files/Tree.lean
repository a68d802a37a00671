import CauseTrail.Files.Path
import CauseTrail.Text.Quoted
import CauseTrail.Text.Utf8

/-!
# File trees

A file tree says what is found at each location, a location being the names on the way from the
top. There are no links: a path leads to a location by its names alone, but each name that is
passed has to be a directory. Nothing is forbidden: every file can be read and written, and every
directory searched. What goes wrong on the way is told with the path as it was given.

## Main definitions

* `FileTree`: the file trees
* `FileTree.find`: what a path leads to
* `FileTree.isFile`, `FileTree.isDirectory`, `FileTree.exists'`: questions about a path
* `FileTree.read`, `FileTree.write`, `FileTree.append`: the content of a file
* `FileTree.makeDirectory`: a new directory with those above it

## Main results

* `FileTree.content?_put`, `FileTree.content?_put_of_ne`: a change touches one location
-/

namespace CauseTrail

/-- The names on the way from the top to a place. -/
abbrev Location := List String

/-- What is found at a place. -/
inductive Entry where
  | file (bytes : List UInt8)
  | directory
deriving DecidableEq, Repr

/-- Why a path is of no use. -/
inductive FileFault where
  | notFound
  | alreadyThere
  | notADirectory
  | isADirectory
  | nameTooLong
  /-- The path holds the character that ends texts inside the system. -/
  | terminator
deriving DecidableEq, Repr

namespace FileFault

/-- The number by which the system knows a fault; none if the system is not even asked. -/
def number? : FileFault → Option Nat
  | notFound => some 2
  | alreadyThere => some 17
  | notADirectory => some 20
  | isADirectory => some 21
  | nameTooLong => some 36
  | terminator => none

/-- The wording of a fault. -/
def message : FileFault → String
  | notFound => "No such file or directory"
  | alreadyThere => "File exists"
  | notADirectory => "Not a directory"
  | isADirectory => "Is a directory"
  | nameTooLong => "File name too long"
  | terminator => "embedded null byte"

end FileFault

/-- A refusal: the fault and the path it concerns. -/
structure FileError where
  fault : FileFault
  path : Path
deriving DecidableEq, Repr

/-- The wording of a refusal. -/
def FileError.message (e : FileError) : String :=
  match e.fault.number? with
  | some n => s!"[Errno {n}] {e.fault.message}: " ++ Text.quote e.path.text
  | none => e.fault.message

/-- What is found where. -/
structure FileTree where
  content? : Location → Option Entry

namespace FileTree

/-- The tree with an entry put at a place. -/
def put (t : FileTree) (l : Location) (e : Entry) : FileTree :=
  ⟨fun k => if k = l then some e else t.content? k⟩

@[simp] theorem content?_put (t : FileTree) (l : Location) (e : Entry) :
    (t.put l e).content? l = some e := by
  simp [put]

theorem content?_put_of_ne (t : FileTree) {k l : Location} (e : Entry) (h : k ≠ l) :
    (t.put l e).content? k = t.content? k := by
  simp [put, h]

/-- The tree that has the given directory, and those above it, and nothing else. -/
def ofDirectory (l : Location) : FileTree :=
  ⟨fun k => if k <+: l then some .directory else none⟩

/-- The greatest number of bytes of a name. -/
def maxNameBytes : Nat := 255

/-- The greatest number of bytes of a path. -/
def maxPathBytes : Nat := 4095

/-- The place that names lead to. Each name but the last one has to be that of a directory. -/
def follow (t : FileTree) : (start : Location) → List String → Except FileFault Location
  | here, [] => .ok here
  | here, n :: ns =>
    match t.content? here with
    | none => .error .notFound
    | some (.file _) => .error .notADirectory
    | some .directory =>
      if maxNameBytes < (Text.utf8 n).length then .error .nameTooLong
      else follow t (if n = ".." then here.dropLast else here ++ [n]) ns

/-- The place that a path leads to from the directory `here`. -/
def locate (t : FileTree) (here : Location) (p : Path) : Except FileFault Location :=
  if p.text.toList.contains '\x00' then .error .terminator
  else if maxPathBytes < (Text.utf8 p.text).length then .error .nameTooLong
  else t.follow (if p.isAbsolute then [] else here) p.names

/-- The place that a path leads to, with what is found there. -/
def find (t : FileTree) (here : Location) (p : Path) :
    Except FileFault (Location × Option Entry) := do
  let l ← t.locate here p
  return (l, t.content? l)

/-- Whether a fault means no more than that there is nothing at a path. -/
def isAbsence : FileFault → Bool
  | .notFound | .notADirectory | .terminator => true
  | _ => false

/-- The answer to a question about what a path leads to. -/
def ask (t : FileTree) (here : Location) (p : Path) (question : Option Entry → Bool) :
    Except FileError Bool :=
  match t.find here p with
  | .ok (_, e?) => .ok (question e?)
  | .error fault => if isAbsence fault then .ok false else .error ⟨fault, p⟩

/-- Whether a path leads to a file. -/
def isFile (t : FileTree) (here : Location) (p : Path) : Except FileError Bool :=
  t.ask here p fun e? => match e? with
    | some (.file _) => true
    | _ => false

/-- Whether a path leads to a directory. -/
def isDirectory (t : FileTree) (here : Location) (p : Path) : Except FileError Bool :=
  t.ask here p fun e? => e? == some .directory

/-- Whether a path leads to anything. -/
def exists' (t : FileTree) (here : Location) (p : Path) : Except FileError Bool :=
  t.ask here p Option.isSome

/-- The content of the file that a path leads to. -/
def read (t : FileTree) (here : Location) (p : Path) : Except FileError (List UInt8) :=
  match t.find here p with
  | .error fault => .error ⟨fault, p⟩
  | .ok (_, none) => .error ⟨.notFound, p⟩
  | .ok (_, some .directory) => .error ⟨.isADirectory, p⟩
  | .ok (_, some (.file bytes)) => .ok bytes

/-- The tree after the content of a file was changed. A file that is missing counts as empty and
is made; its directory has to be there. -/
def change (t : FileTree) (here : Location) (p : Path) (f : List UInt8 → List UInt8) :
    Except FileError FileTree :=
  match t.find here p with
  | .error fault => .error ⟨fault, p⟩
  | .ok (_, some .directory) => .error ⟨.isADirectory, p⟩
  | .ok (l, some (.file bytes)) => .ok (t.put l (.file (f bytes)))
  | .ok (l, none) =>
    match t.content? l.dropLast with
    | some .directory => .ok (t.put l (.file (f [])))
    | some (.file _) => .error ⟨.notADirectory, p⟩
    | none => .error ⟨.notFound, p⟩

/-- The tree with the content of a file replaced. -/
def write (t : FileTree) (here : Location) (p : Path) (bytes : List UInt8) :
    Except FileError FileTree :=
  t.change here p fun _ => bytes

/-- The tree with bytes added at the end of a file. -/
def append (t : FileTree) (here : Location) (p : Path) (bytes : List UInt8) :
    Except FileError FileTree :=
  t.change here p (· ++ bytes)

/-- The tree with a directory added below an existing one. -/
def addDirectory (t : FileTree) (here : Location) (p : Path) : Except FileError FileTree :=
  match t.find here p with
  | .error fault => .error ⟨fault, p⟩
  | .ok (_, some _) => .error ⟨.alreadyThere, p⟩
  | .ok (l, none) =>
    match t.content? l.dropLast with
    | some .directory => .ok (t.put l .directory)
    | some (.file _) => .error ⟨.notADirectory, p⟩
    | none => .error ⟨.notFound, p⟩

/-- The tree with a directory added, which may be there already unless it has to be fresh. -/
def placeDirectory (t : FileTree) (here : Location) (p : Path) (fresh : Bool) :
    Except FileError FileTree :=
  match t.addDirectory here p with
  | .ok t => .ok t
  | .error e =>
    if !fresh && (t.isDirectory here p).toOption = some true then .ok t else .error e

/-- The outcome of a change that may fail halfway: the tree that is left, and what went wrong. -/
abbrev Outcome := FileTree × Except FileError Unit

/-- The outcome of a change that is made as a whole or not at all. -/
def outcome (t : FileTree) : Except FileError FileTree → Outcome
  | .ok after => (after, .ok ())
  | .error e => (t, .error e)

/-- The tree after a directory was made, and those above it that are missing. `depth` bounds how
many are missing. -/
def placeDirectories (t : FileTree) (here : Location) : (depth : Nat) → Path →
    (fresh : Bool) → Outcome
  | 0, p, fresh => t.outcome (t.placeDirectory here p fresh)
  | depth + 1, p, fresh =>
    match t.addDirectory here p with
    | .error ⟨.notFound, path⟩ =>
      if p.parent = p then (t, .error ⟨.notFound, path⟩)
      else
        match placeDirectories t here depth p.parent false with
        | (t, .error e) => (t, .error e)
        | (t, .ok _) => t.outcome (t.placeDirectory here p fresh)
    | _ => t.outcome (t.placeDirectory here p fresh)

/-- The tree after a directory was made, with those above it. It may be there already unless it has
to be fresh. -/
def makeDirectory (t : FileTree) (here : Location) (p : Path) (fresh : Bool) : Outcome :=
  t.placeDirectories here p.names.length p fresh

end FileTree

end CauseTrail
