import CauseTrail.Command.Arguments
import CauseTrail.Command.Run

/-!
# The places a command looks at

A command looks at few files only. The places of these files, and of the directories above them,
are all that has to be known of the file system before the command runs, and all that can be
different afterwards.

## Main definitions

* `Command.paths`: the paths that a command looks at
* `Host.places`: the places of paths, each behind those above it
* `FileTree.ofEntries`: the file tree of some places
-/

namespace CauseTrail

/-- The paths that a command looks at. -/
def Command.paths (h : Host) : Command → List Path
  | .create directory .. => [newFile h directory]
  | .options file? directory? .. =>
    let named := (h.environment.get? ({} : Loader).fileVariable).toList
    let directory := (directory?.map Path.ofText).getD h.here
    (file?.toList ++ named).map Path.ofText ++ directory :: Loader.candidates directory
  | _ => []

/-- The beginnings of a list, the shortest one first. -/
def Location.upTo : Location → List Location
  | [] => [[]]
  | n :: ns => [] :: (upTo ns).map (n :: ·)

/-- The places of paths, each behind those above it. -/
def Host.places (h : Host) (paths : List Path) : List Location :=
  (paths.flatMap fun p =>
    (Location.upTo (h.here.join p).names).map fun ns => (Path.mk .top ns).lexical.names).eraseDups

/-- The file tree of some places. -/
def FileTree.ofEntries (entries : List (Location × Entry)) : FileTree :=
  entries.foldl (fun t e => t.put e.1 e.2) ⟨fun _ => none⟩

end CauseTrail
