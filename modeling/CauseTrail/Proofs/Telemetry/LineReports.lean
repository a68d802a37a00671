import CauseTrail.Proofs.Event.LineObstacles
import CauseTrail.Proofs.Files.Faults
import CauseTrail.Proofs.Telemetry.CaptureOutcome
import CauseTrail.Proofs.Telemetry.FileLines
import CauseTrail.Proofs.Telemetry.Sending

/-!
# Events that become lines of a file, or not

A transport that appends to a file adds the line of an event, or reports that the file cannot be
written. Two more things can happen: an annotation has something inside that cannot be written, and
the file is not even asked for; or the path holds the terminator, and is not even looked up. What is
wrong is told then as it is, and not as a report of the transport. A client and a hub pass on what
the transport tells, and nothing that they add to an event makes a difference.

## Main definitions

* `DeliveryError.IsReport`: what transports tell as failures of their own
* `Telemetry.Fate`: the four things that can become of an event
* `Telemetry.FilesEvents`: what becomes of an event that is handed over, sent or captured

## Main results

* `Telemetry.fate_deliver`: what becomes of an event depends on its annotations, the path and
  the file
* `Telemetry.Fate.isReport_iff`: whether nothing but reports can come
* `Telemetry.filesEvents`: events that are handed over, sent and captured
-/

namespace CauseTrail

/-- A failure that a transport tells as its own. The others are those of a step on the way, told as
they are. -/
def DeliveryError.IsReport : DeliveryError → Prop
  | .refused | .unwritable .. | .untruncatable .. => True
  | .unencodable _ | .inaccessible _ | .markup _ => False

/-- The host with a line behind what the file at a path holds. -/
def Host.withLine (h : Host) (path : Path) (line : String) : Host :=
  let place := path.place h.directory
  { h with files := h.files.put place (.file (h.files.bytesAt place ++ Text.utf8 (line ++ "\n"))) }

namespace Telemetry

variable {t u after after' : Telemetry} {r : Ref Transport} {c : Ref Client} {h : Ref Hub}
  {e : Ref Event} {path : Path} {α : Type} {result : Except DeliveryError α}

/-- What becomes of an event that is to be a line of a file, by what the file tree was before. -/
inductive Fate (t : Telemetry) (path : Path) (e : Ref Event) (after : Telemetry) :
    Except DeliveryError α → Prop where
  /-- The line of the event stands behind what the file held, and no other file is touched. -/
  | appended {line : String} {a : α} (writes : (t.event e).Writable)
      (opens : t.host.files.Opens t.host.directory path) (told : (after.event e).Told line)
      (host : after.host = t.host.withLine path line) : Fate t path e after (.ok a)
  /-- The file cannot be written. -/
  | unwritable (writes : (t.event e).Writable) (free : '\x00' ∉ path.text.toList)
      (shut : ¬ t.host.files.Opens t.host.directory path) (host : after.host = t.host)
      {x : FileError} (same : x.path = path) :
      Fate t path e after (.error (.unwritable path (after.event e).id x))
  /-- The first thing in the annotations that cannot be written is told. -/
  | unencodable {x : Json.WriteError} (first : (t.event e).obstacles.head? = some x)
      (host : after.host = t.host) : Fate t path e after (.error (.unencodable x))
  | terminator (writes : (t.event e).Writable) (held : '\x00' ∈ path.text.toList)
      (host : after.host = t.host) :
      Fate t path e after (.error (.inaccessible ⟨.terminator, path⟩))

/-- What becomes of an event does not depend on what was added to it before, nor on what is done
besides after. -/
theorem Fate.of_deliver {a : α} {result : Except DeliveryError Unit}
    (fate : u.Fate path e after result) (host : u.host = t.host)
    (same : (u.event e).obstacles = (t.event e).obstacles) (host' : after'.host = after.host)
    (event' : after'.event e = after.event e) :
    t.Fate path e after' ((fun _ => a) <$> result) := by
  have writable : (u.event e).Writable → (t.event e).Writable := by
    intro writes
    rwa [← Event.obstacles_eq_nil_iff, same, Event.obstacles_eq_nil_iff] at writes
  cases fate with
  | appended writes opens told done =>
    rw [← event'] at told
    rw [host] at opens
    exact .appended (writable writes) opens told (by rw [host', done, host])
  | unwritable writes free shut done there =>
    rw [← event']
    rw [host] at shut
    exact .unwritable (writable writes) free shut (by rw [host', done, host]) there
  | unencodable first done => exact .unencodable (same ▸ first) (by rw [host', done, host])
  | terminator writes held done =>
    exact .terminator (writable writes) held (by rw [host', done, host])

/-- **What becomes of an event** that is handed to a transport of lines in a file. -/
theorem fate_deliver (lines : t.transport r = .jsonl path) (e : Ref Event) :
    t.Fate path e (t.deliver r e).1 (t.deliver r e).2 := by
  cases line : (t.event e).line with
  | error x =>
    have refused : t.deliver r e = (t, .error (.unencodable x)) := by
      simp only [deliver, lines, line]
    rw [refused]
    refine .unencodable ?_ rfl
    rw [← Event.error?_line, line]
    rfl
  | ok bytes =>
    have writes : (t.event e).Writable := Event.exists_line_iff.mp ⟨bytes, line⟩
    cases added : t.host.files.append t.host.directory path bytes with
    | error x =>
      have refused : t.deliver r e = (t, .error (fileFailure path (t.event e).id x)) := by
        simp only [deliver, lines, line, added]
      obtain ⟨same, shut, -⟩ := FileTree.change_eq_error added
      have unnumbered := FileTree.number?_eq_none_iff_of_change added
      rw [refused, fileFailure]
      split
      · next number =>
        have free : '\x00' ∉ path.text.toList := fun held =>
          Option.isSome_iff_ne_none.mp number (unnumbered.mpr held)
        exact .unwritable writes free shut rfl same
      · next none =>
        have held := unnumbered.mp (Option.not_isSome_iff_eq_none.mp none)
        rw [FileTree.append, FileTree.change_of_terminator held] at added
        obtain rfl := Except.error.inj added
        exact .terminator writes held rfl
    | ok files =>
      obtain ⟨text, written, rfl⟩ := Except.map_eq_ok_iff.mp line
      have opens := FileTree.opens_of_change added
      obtain rfl := FileTree.append_eq_put added
      rw [deliver, lines]
      simp only [line, added]
      exact .appended writes opens (Event.told_of_write written) rfl

/-- **Nothing but reports** come just when the event can be written and the path does not hold the
terminator. -/
theorem Fate.isReport_iff (fate : t.Fate path e after result) :
    (∀ x, result = .error x → x.IsReport) ↔
      (t.event e).Writable ∧ '\x00' ∉ path.text.toList := by
  cases fate with
  | appended writes opens => exact iff_of_true (fun x failed => nomatch failed) ⟨writes, opens.free⟩
  | unwritable writes free =>
    refine iff_of_true ?_ ⟨writes, free⟩
    rintro x ⟨⟩
    trivial
  | unencodable first =>
    refine iff_of_false (fun all => all _ rfl) ?_
    rintro ⟨writes, -⟩
    rw [Event.obstacles_eq_nil_iff.mpr writes] at first
    cases first
  | terminator writes held => exact iff_of_false (fun all => all _ rfl) fun both => both.2 held

/-- What becomes of an event, with the condition under which nothing but reports can come. -/
structure Ruled (t : Telemetry) (path : Path) (e : Ref Event) (after : Telemetry)
    (result : Except DeliveryError α) : Prop where
  fate : t.Fate path e after result
  isReport_iff : (∀ x, result = .error x → x.IsReport) ↔
    (t.event e).Writable ∧ '\x00' ∉ path.text.toList

theorem Fate.ruled (fate : t.Fate path e after result) : t.Ruled path e after result :=
  ⟨fate, fate.isReport_iff⟩

/-! ## Clients and hubs -/

theorem obstacles_filledIn (t : Telemetry) (c : Ref Client) (e : Ref Event) :
    ((t.filledIn c e).event e).obstacles = (t.event e).obstacles := by
  rw [event_filledIn, if_pos rfl]
  rfl

theorem obstacles_prepared (t : Telemetry) (c : Ref Client) (e : Ref Event) :
    ((t.prepared c e).event e).obstacles = (t.event e).obstacles := by
  rw [event_prepared]
  rfl

/-- What becomes of an event that an enabled client sends. -/
theorem fate_send (base : (t.client c).transport = r) (lines : t.transport r = .jsonl path)
    (enabled : (t.client c).options.enabled = true) (e : Ref Event) :
    t.Fate path e (t.send c e).1 (t.send c e).2 := by
  obtain ⟨log, ready⟩ := t.filledIn_eq c e
  have same : (t.filledIn c e).transport r = .jsonl path := by rw [ready]; exact lines
  have fate := fate_deliver same e
  have sent : t.send c e = (((t.filledIn c e).deliver r e).1,
      (fun _ => (t.event e).id) <$> ((t.filledIn c e).deliver r e).2) := by
    rw [send_eq enabled, base]
    rcases (t.filledIn c e).deliver r e with ⟨s, x | ⟨⟩⟩ <;> rfl
  rw [sent]
  exact fate.of_deliver (by rw [ready]) (obstacles_filledIn t c e) rfl rfl

/-- What becomes of an event that is captured with an active client. -/
theorem fate_captureEvent (active : t.activeClient? h = some c)
    (base : (t.client c).transport = r) (lines : t.transport r = .jsonl path) (e : Ref Event) :
    ∃ result, (t.captureEvent h e).2 = result.mapError .delivery ∧
      t.Fate path e (t.captureEvent h e).1 result := by
  obtain ⟨log, ready⟩ := t.prepared_eq c e
  have same : (t.prepared c e).transport r = .jsonl path := by rw [ready]; exact lines
  have fate := fate_deliver same e
  have captured : t.captureEvent h e = t.captureWith h c e := by rw [captureEvent, active]
  have enabled := (activeClient?_eq_some_iff.mp active).enabled
  refine ⟨(fun _ => ((t.prepared c e).event e).id) <$> ((t.prepared c e).deliver r e).2, ?_, ?_⟩
  · rw [captured, captureWith_eq enabled, base]
    rcases (t.prepared c e).deliver r e with ⟨s, x | ⟨⟩⟩ <;> rfl
  · refine fate.of_deliver (by rw [ready]) (obstacles_prepared t c e) ?_ ?_
    all_goals
      -- to record the identifier touches a hub at most
      rw [captured, captureWith_eq enabled, base]
      rcases (t.prepared c e).deliver r e with ⟨s, x | ⟨⟩⟩
      · rfl
      · simp only [record]
        split <;> rfl

/-- What becomes of an event that is handed to a transport of lines in a file, sent by a client over
it, or captured through a hub with such a client. -/
structure FilesEvents (t : Telemetry) (r : Ref Transport) (path : Path) (e : Ref Event) : Prop where
  deliver : t.Ruled path e (t.deliver r e).1 (t.deliver r e).2
  send : ∀ c, (t.client c).transport = r → (t.client c).options.enabled = true →
    t.Ruled path e (t.send c e).1 (t.send c e).2
  /-- A hub tells what the transport tells. -/
  capture : ∀ h c, t.activeClient? h = some c → (t.client c).transport = r →
    ∃ result, (t.captureEvent h e).2 = result.mapError .delivery ∧
      t.Ruled path e (t.captureEvent h e).1 result
  /-- A client that is disabled does nothing, and so does a hub without an active client. -/
  disabled : ∀ c, (t.client c).options.enabled = false → t.send c e = (t, .ok .nil)
  inactive : ∀ h, t.activeClient? h = none → t.captureEvent h e = (t, .ok .nil)

/-- **Events that are to be lines of a file** become such, are reported to be not, or meet what no
transport reports: something that cannot be written, or a path that holds the terminator. -/
theorem filesEvents (lines : t.transport r = .jsonl path) (e : Ref Event) :
    t.FilesEvents r path e where
  deliver := (fate_deliver lines e).ruled
  send c base enabled := (fate_send base lines enabled e).ruled
  capture h c active base := by
    obtain ⟨result, told, fate⟩ := fate_captureEvent active base lines e
    exact ⟨result, told, fate.ruled⟩
  disabled c disabled := send_disabled e disabled
  inactive h inactive := captureEvent_inactive e inactive

/-- A hub with a client over lines in a file at a path, in a directory that is there. Of its events
one says nothing, one has a date for a key, and one has annotations that JSON has no kinds for. -/
def filingHub (path : Path) : Telemetry where
  host := ⟨.ofDirectory ["app"], ["app"], []⟩
  sources := oneHub.sources
  events := ((Registry.empty.add (.ofRecords [] .error)).add
    { Event.ofRecords [] .error with extra := [(.date ⟨2024, 1, 2⟩, .int 1)] }).add
    { Event.ofRecords [] .error with
      extra := [(.float .nan, .set [.tuple [.int 1]]), (.null, .date ⟨2024, 1, 2⟩)] }
  transports := Registry.empty.add (.jsonl path)
  clients := Registry.empty.add ⟨{}, ⟨0⟩⟩
  hubs := Registry.empty.add (.ofClient (some ⟨0⟩))

/-- A path that can be written to. -/
def usualPath : Path := ⟨.here, ["out.jsonl"]⟩

/-- A path that holds the terminator. -/
def terminatedPath : Path := ⟨.here, ["o\x00ut.jsonl"]⟩

/-- The laws for a path that can be written to and for one that holds the terminator. -/
theorem filesEvents_filingHub : (filingHub usualPath).transport ⟨0⟩ = .jsonl usualPath ∧
    (filingHub usualPath).activeClient? ⟨0⟩ = some ⟨0⟩ ∧
    (filingHub usualPath).FilesEvents ⟨0⟩ usualPath ⟨1⟩ ∧
    (filingHub terminatedPath).FilesEvents ⟨0⟩ terminatedPath ⟨2⟩ :=
  ⟨rfl, rfl, filesEvents rfl ⟨1⟩, filesEvents rfl ⟨2⟩⟩

/-- **Two events that no report is made of**: to a path that holds the terminator none can be added,
and none with a date for a key to any. Both are told as they are. -/
theorem not_isReport_filingHub :
    let odd : DeliveryError := .inaccessible ⟨.terminator, terminatedPath⟩
    let dated : DeliveryError := .unencodable (.badKey "datetime.date")
    ((filingHub terminatedPath).deliver ⟨0⟩ ⟨0⟩).2 = .error odd ∧
      ((filingHub terminatedPath).send ⟨0⟩ ⟨0⟩).2 = .error odd ∧
      ((filingHub terminatedPath).captureEvent ⟨0⟩ ⟨0⟩).2 = .error (.delivery odd) ∧
      ¬ odd.IsReport ∧ odd.message = "embedded null byte" ∧
    ((filingHub usualPath).deliver ⟨0⟩ ⟨1⟩).2 = .error dated ∧
      ((filingHub usualPath).send ⟨0⟩ ⟨1⟩).2 = .error dated ∧
      ((filingHub usualPath).captureEvent ⟨0⟩ ⟨1⟩).2 = .error (.delivery dated) ∧
      ¬ dated.IsReport :=
  ⟨rfl, rfl, rfl, id, rfl, rfl, rfl, rfl, id⟩

end Telemetry

end CauseTrail
