import CauseTrail.Proofs.Event.LineRoundTrip
import CauseTrail.Proofs.Json.Obstacles

/-!
# Events that make no line

An event can be written as a line unless an annotation, of one of its records or of the event, has
something inside that cannot be written: a key that makes no name, or an integer with too many
digits. What a client or a hub adds to an event makes no difference.

## Main definitions

* `Event.Obstacle`: something in the annotations of an event stands in the way of its line
* `Event.Writable`: nothing does
* `Event.obstacles`: all that does, in the order of writing

## Main results

* `Event.error?_line`: the first obstacle is what refuses the line
* `Event.exists_line_iff`: an event makes a line just when it is writable
-/

namespace CauseTrail

/-- Something in an annotation of an event stands in the way of writing it. -/
inductive Event.Obstacle (e : Event) (x : Json.WriteError) : Prop where
  | mechanism {r : Record} {m : Mapping} (there : r ∈ e.records) (given : r.mechanism? = some m)
      (inside : Json.Obstacle x (.map m))
  | extra (inside : Json.Obstacle x (.map e.extra))

/-- Nothing in the annotations of an event stands in the way of writing it: all keys make names, and
no integer has too many digits. -/
def Event.Writable (e : Event) : Prop := ∀ x, ¬ e.Obstacle x

/-- What stands in the way of writing the annotation of a record. -/
def Record.obstacles (r : Record) : List Json.WriteError :=
  (r.mechanism?.map fun m => Json.obstacles (.map m)).getD []

/-- What stands in the way of writing the annotations of an event, in the order of writing. -/
def Event.obstacles (e : Event) : List Json.WriteError :=
  e.records.flatMap Record.obstacles ++ Json.obstacles (.map e.extra)

namespace Json

theorem obstacles_ofText? (s? : Option String) : obstacles (.ofText? s?) = [] := by
  cases s? <;> rfl

theorem obstacles_texts (texts : List String) : obstacles (.list (texts.map .text)) = [] := by
  rw [obstacles, obstaclesOfItems_eq, List.flatMap_eq_nil_iff]
  intro v there
  obtain ⟨s, -, rfl⟩ := List.mem_map.mp there
  rfl

/-- Under names that are texts only the members' values count. -/
theorem obstacles_named (members : List (String × Value)) :
    obstacles (.map (members.map fun m => (.text m.1, m.2))) =
      members.flatMap fun m => obstacles m.2 := by
  rw [obstacles, obstaclesOfMembers_eq, List.flatMap_map]
  rfl

theorem obstacles_tags (tags : List (String × String)) :
    obstacles (.map (tags.map fun t => (.text t.1, .text t.2))) = [] := by
  rw [obstacles, obstaclesOfMembers_eq, List.flatMap_eq_nil_iff]
  intro e there
  obtain ⟨t, -, rfl⟩ := List.mem_map.mp there
  rfl

theorem obstacles_record (r : Record) : obstacles (.map r.payload) = r.obstacles := by
  rw [Record.payload_eq, obstacles_named, Record.obstacles]
  rcases r with ⟨type, _ | value, _ | module, _ | thread, _ | mechanism⟩ <;>
    simp [Record.members, obstacles]

/-- Among records, only their annotations can be in the way. -/
theorem obstacles_exception (records : List Record) :
    obstacles (.map [(.text "values", .list (records.map fun r => .map r.payload))]) =
      records.flatMap Record.obstacles := by
  have values := obstacles_named [("values", .list (records.map fun r => .map r.payload))]
  refine values.trans ?_
  rw [List.flatMap_singleton, obstacles, obstaclesOfItems_eq, List.flatMap_map]
  simp only [obstacles_record]

end Json

namespace Event

/-- An event's own members are texts under names, so only its annotations count. -/
theorem obstacles_payload (e : Event) : Json.obstacles (.map e.payload) = e.obstacles := by
  have text (s : String) : Json.obstacles (.text s) = [] := rfl
  rw [payload_eq, Json.obstacles_named, members]
  simp only [List.flatMap_cons, List.flatMap_nil, text, Json.obstacles_exception,
    Json.obstacles_ofText?, Json.obstacles_tags, Json.obstacles_texts, List.append_nil,
    List.nil_append, obstacles]

/-- **What refuses the line** of an event is the first obstacle in its annotations. -/
theorem error?_line (e : Event) : e.line.error? = e.obstacles.head? := by
  rw [line, Except.error?_map, Json.error?_write, obstacles_payload]

variable {e : Event}

theorem obstacles_eq_nil_iff : e.obstacles = [] ↔ e.Writable := by
  have records : e.records.flatMap Record.obstacles = [] ↔
      ∀ r ∈ e.records, ∀ m, r.mechanism? = some m → ∀ x, ¬ Json.Obstacle x (.map m) := by
    rw [List.flatMap_eq_nil_iff]
    refine forall₂_congr fun r _ => ?_
    rw [Record.obstacles]
    cases r.mechanism? with
    | none => simp
    | some m => simp [Json.obstacles_eq_nil_iff]
  rw [obstacles, List.append_eq_nil_iff, records, Json.obstacles_eq_nil_iff]
  constructor
  · rintro ⟨mechanisms, extra⟩ x (⟨there, given, inside⟩ | inside)
    · exact mechanisms _ there _ given x inside
    · exact extra x inside
  · intro none
    exact ⟨fun r there m given x inside => none x (.mechanism there given inside),
      fun x inside => none x (.extra inside)⟩

/-- An event makes a line just when nothing stands in the way. -/
theorem exists_line_iff : (∃ bytes, e.line = .ok bytes) ↔ e.Writable := by
  rw [← Except.error?_eq_none_iff, error?_line, List.head?_eq_none_iff, obstacles_eq_nil_iff]

end Event

end CauseTrail
