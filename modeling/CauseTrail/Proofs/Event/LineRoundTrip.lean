import CauseTrail.Proofs.Event.PayloadRoundTrip
import CauseTrail.Proofs.Json.Line
import CauseTrail.Telemetry.Delivery

/-!
# Events as lines of JSON

An event whose annotations JSON has is read back from its line: its payload is an object with
different names, so the line is read as the payload, and the payload as the event.

## Main definitions

* `Event.Native`: an event whose annotations are of kinds that JSON has
* `Event.Told`: what the line of an event says

## Main results

* `Event.Native.payload`: the payload of a native event is a native value
* `Event.told_of_write`: the line of an event stands alone, and a native event is read back from it
-/

namespace CauseTrail

/-- A native value has no not-a-number in it. -/
theorem Json.Native.nanFree {v : Value} (h : Json.Native v) : v.nanFree = true := by
  induction h with
  | null | bool | int | text => rfl
  | list _ ih =>
    rw [Value.nanFree, Value.nanFreeAll_iff]
    exact ih
  | map _ _ _ ih =>
    rw [Value.nanFree, Value.nanFreeEntries_iff]
    intro e he
    obtain ⟨m, hm, rfl⟩ := List.mem_map.mp he
    exact ⟨rfl, ih m hm⟩

/-- A text that may be missing is a text or null, and JSON has both. -/
theorem Json.native_ofText? (s? : Option String) : Json.Native (.ofText? s?) := by
  cases s? with
  | none => exact .null
  | some s => exact .text s

namespace Record

/-- The members of the payload of a record. -/
def members (r : Record) : List (String × Value) :=
  [("type", .text r.type)] ++ (r.value?.map fun s => ("value", Value.text s)).toList ++
    (r.module?.map fun s => ("module", Value.text s)).toList ++
    (r.threadId?.map fun s => ("thread_id", Value.text s)).toList ++
    (r.mechanism?.map fun m => ("mechanism", Value.map m)).toList

theorem payload_eq (r : Record) : r.payload = r.members.map fun m => (.text m.1, m.2) := by
  rcases r with ⟨type, _ | value, _ | module, _ | thread, _ | mechanism⟩ <;> rfl

theorem nodup_members (r : Record) : (r.members.map Prod.fst).Nodup := by
  rcases r with ⟨type, _ | value, _ | module, _ | thread, _ | mechanism⟩ <;>
    simp [members]

/-- A record whose mechanism JSON has. -/
def Native (r : Record) : Prop := ∀ m ∈ r.mechanism?, Json.Native (.map m)

theorem Native.payload {r : Record} (h : r.Native) : Json.Native (.map r.payload) := by
  rw [payload_eq]
  refine .map r.members r.nodup_members fun m hm => ?_
  simp only [members, List.mem_append, List.mem_singleton, Option.mem_toList,
    Option.map_eq_some_iff] at hm
  obtain (((rfl | ⟨s, -, rfl⟩) | ⟨s, -, rfl⟩) | ⟨s, -, rfl⟩) | ⟨m, hm, rfl⟩ := hm
  · exact .text _
  · exact .text s
  · exact .text s
  · exact .text s
  · exact h m hm

end Record

namespace Event

/-- An event that a line tells: its timestamp is tellable, no two of its tags have one name, and
its annotations are of kinds that JSON has. -/
structure Native (e : Event) : Prop where
  timestamp : ∀ t ∈ e.timestamp?, t.Tellable
  tags : (e.tags.map Prod.fst).Nodup
  extra : Json.Native (.map e.extra)
  records : ∀ r ∈ e.records, r.Native

theorem Native.tellable {e : Event} (h : e.Native) : e.Tellable :=
  ⟨h.timestamp, h.tags, fun r hr m hm => (h.records r hr m hm).nanFree, h.extra.nanFree⟩

/-- The members of the payload of an event. -/
def members (e : Event) : List (String × Value) :=
  [("event_id", .text e.id.hex),
    ("level", .text e.level.name),
    ("exception", .map [(.text "values", .list (e.records.map fun r => .map r.payload))]),
    ("message", .ofText? e.message?),
    ("logger", .ofText? e.logger?),
    ("platform", .text e.platform),
    ("timestamp", .ofText? (e.timestamp?.map (·.iso))),
    ("server_name", .ofText? e.serverName?),
    ("release", .ofText? e.release?),
    ("environment", .ofText? e.environment?),
    ("tags", .map (e.tags.map fun t => (.text t.1, .text t.2))),
    ("extra", .map e.extra),
    ("fingerprint", .list (e.fingerprint.map .text))]

theorem payload_eq (e : Event) : e.payload = e.members.map fun m => (.text m.1, m.2) := rfl

theorem native_exception {records : List Record} (h : ∀ r ∈ records, r.Native) :
    Json.Native (.map [(.text "values", .list (records.map fun r => .map r.payload))]) := by
  have items : ∀ v ∈ records.map fun r => Value.map r.payload, Json.Native v := by
    intro v hv
    obtain ⟨r, hr, rfl⟩ := List.mem_map.mp hv
    exact (h r hr).payload
  refine .map [("values", .list (records.map fun r => .map r.payload))] (by simp) fun m hm => ?_
  obtain rfl := List.mem_singleton.mp hm
  exact .list items

theorem native_tags {tags : List (String × String)} (h : (tags.map Prod.fst).Nodup) :
    Json.Native (.map (tags.map fun t => (.text t.1, .text t.2))) := by
  have texts : (tags.map fun t => (t.1, Value.text t.2)).map (fun m => (Value.text m.1, m.2)) =
      tags.map fun t => (Value.text t.1, Value.text t.2) := by simp
  rw [← texts]
  refine .map _ (by simpa [Function.comp_def] using h) fun m hm => ?_
  obtain ⟨t, -, rfl⟩ := List.mem_map.mp hm
  exact .text t.2

theorem native_fingerprint (marks : List String) : Json.Native (.list (marks.map .text)) := by
  refine .list fun v hv => ?_
  obtain ⟨s, -, rfl⟩ := List.mem_map.mp hv
  exact .text s

/-- The payload of a native event is a native value. -/
theorem Native.payload {e : Event} (h : e.Native) : Json.Native (.map e.payload) := by
  rw [payload_eq]
  refine .map e.members (by simp [members]) fun m hm => ?_
  simp only [members, List.mem_cons, List.not_mem_nil, or_false] at hm
  rcases hm with rfl | rfl | rfl | rfl | rfl | rfl | rfl | rfl | rfl | rfl | rfl | rfl | rfl
  · exact .text _
  · exact .text _
  · exact native_exception h.records
  · exact Json.native_ofText? _
  · exact Json.native_ofText? _
  · exact .text _
  · exact Json.native_ofText? _
  · exact Json.native_ofText? _
  · exact Json.native_ofText? _
  · exact Json.native_ofText? _
  · exact native_tags h.tags
  · exact h.extra
  · exact native_fingerprint _

/-- What a line says of an event: it is the event's payload, it has no line feed inside, and a
native event is read back from it. -/
structure Told (e : Event) (line : String) : Prop where
  written : Json.write .line (.map e.payload) = .ok line
  alone : '\n' ∉ line.toList
  back : e.Native → ∃ v, Json.read line = .ok v ∧ ofPayload? v = .ok e ∧ e.equal e = true

/-- A line that was written tells its event. -/
theorem told_of_write {e : Event} {line : String}
    (h : Json.write .line (.map e.payload) = .ok line) : e.Told line := by
  refine ⟨h, (Json.onLine_write h).notMem_newline, fun native => ?_⟩
  exact ⟨_, native.payload.read_write h, ofPayload?_payload e native.tellable⟩

end Event

end CauseTrail
