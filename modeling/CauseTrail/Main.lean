import CauseTrail.Command.Places

/-!
# The program

The program reads the environment, the files that the command of its arguments looks at, the time
and random bits, runs the command, writes the files that it changed, and prints its report.
-/

namespace CauseTrail.Program

/-- The environment, of the bytes in which each variable ends with a zero. -/
def environmentOf (bytes : List UInt8) : Environment :=
  (bytes.splitBy fun a _ => a ≠ 0).filterMap fun piece =>
    match Text.ofUtf8? (piece.filter (· ≠ 0)) with
    | .ok s =>
      match Given.splitValue s.toList with
      | (name, some text) => some (String.ofList name, String.ofList text)
      | _ => none
    | .error _ => none

/-- The identifier of random bits: those that tell its kind are set. -/
def randomId (bits : Nat) : Uuid :=
  let high := bits >>> 80 % 0x1000000000000
  let middle := bits >>> 64 % 0x1000
  let low := bits % 0x4000000000000000
  .ofNat (high <<< 80 + (0x4000 + middle) <<< 64 + (0x8000000000000000 + low))

/-- The number of big-endian bytes. -/
def numberOf (bytes : List UInt8) : Nat := bytes.foldl (fun n b => n * 256 + b.toNat) 0

/-- What is found at a place. -/
def entryAt (l : Location) : IO (Option Entry) := do
  let place := (Path.mk .top l).text
  try
    let bytes ← IO.FS.readBinFile place
    return some (.file bytes.toList)
  catch _ =>
    try
      let _ ← (← IO.FS.realPath place).readDir
      return some .directory
    catch _ => return none

/-- The file tree of some places. -/
def treeAt (places : List Location) : IO FileTree := do
  let entries ← places.filterMapM fun l => do return (← entryAt l).map (l, ·)
  return .ofEntries entries

/-- Makes a place what it is in a file tree. -/
def settle (before after : FileTree) (l : Location) : IO Unit := do
  let place := (Path.mk .top l).text
  if before.content? l ≠ after.content? l then
    match after.content? l with
    | some .directory => IO.FS.createDir place
    | some (.file bytes) => IO.FS.writeBinFile place ⟨bytes.toArray⟩
    | none => return

/-- The time at which the program began. -/
def startTime : IO Timestamp := do
  let began := (← (← IO.FS.realPath "/proc/self").metadata).modified
  return { Timestamp.afterMidnight ⟨1970, 1, 1⟩ began.sec.toNat with
    micro := began.nsec.toNat / 1000 }

/-- Runs a command line and tells how it exits. -/
def exitOf (arguments : List String) : IO UInt32 := do
  let environment := environmentOf (← IO.FS.readBinFile "/proc/self/environ").toList
  let directory := (Path.ofText (toString (← IO.currentDir))).names
  let unseen : Host := ⟨.ofEntries [], directory, environment⟩
  let command? := Command.ofArguments? unseen arguments
  let places := unseen.places ((command?.map (Command.paths unseen)).getD [])
  let files ← treeAt places
  let bits := numberOf (← IO.getRandomBytes 16).toList
  let time ← startTime
  let t : Telemetry := {
    host := { unseen with files := files }
    sources := ⟨fun n => randomId (bits + n), fun _ => time⟩ }
  let (t, report) := t.commandLine "Lean 4" arguments
  places.forM (settle files t.host.files)
  IO.print (String.ofList report.out)
  IO.eprint (String.ofList report.err)
  match report.escaped? with
  | some e => IO.eprintln e.message
  | none => if report.exit = 2 then IO.eprintln "Usage: cli [OPTIONS] COMMAND [ARGS]..."
  return report.exit.toUInt32

end CauseTrail.Program

/-- Runs the program on its arguments. -/
def main (arguments : List String) : IO UInt32 := CauseTrail.Program.exitOf arguments
