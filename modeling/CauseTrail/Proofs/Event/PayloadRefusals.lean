import CauseTrail.Proofs.Event.PayloadNormal
import CauseTrail.Proofs.Text.Numerals

/-!
# Which payloads are refused

There are four mistakes for which a payload is refused: an identifier or a timestamp that cannot be
read, records that are listed in a value without members, and a level that has no such name. The
first of them in this order is told, whatever else the payload holds, and every payload without
these mistakes is read. What a payload gives as its identifier is told by at most 32 digits of base
sixteen, so that no number is too large for one.

## Main definitions

* `Uuid.Misread`: what is wrong with a text that spells no identifier
* `Value.HasMembers`: the values that can be gone through
* `Mapping.Mistaken`: the mistakes of a payload, each with the error that tells it
* `Event.RefusesFirst`: how a payload is refused or read

## Main results

* `Uuid.ofText?_eq_ok_iff`, `Uuid.ofText?_eq_error_iff`: which texts spell identifiers
* `Event.ofPayload?_refusesFirst`: the first mistake is told, and without one the payload is read
-/

namespace CauseTrail

/-! ## Identifiers -/

namespace Uuid

variable {s : String} {u : Uuid} {e : ReadError} {ds : List Nat}

/-- What is wrong with a text that spells no identifier: what is left of it has another length, or
is no numeral. -/
def Misread (s : String) : ReadError → Prop
  | .length => (payload s).length ≠ 32
  | .digits text => (payload s).length = 32 ∧ (∀ ds, ¬ Text.Spelled (payload s) ds) ∧
      text = String.ofList (payload s)

theorem not_mem_payload (s : String) : '-' ∉ payload s := by
  intro there
  simpa using (List.mem_filter.mp there).2

/-- **An identifier never exceeds its bits**, whatever its numeral looks like. -/
theorem number_lt (length : (payload s).length = 32) (spelled : Text.Spelled (payload s) ds) :
    Text.number 16 ds < 2 ^ 128 := by
  calc Text.number 16 ds < 16 ^ (payload s).length := spelled.number_lt
    _ = 16 ^ 32 := by rw [length]
    _ = 2 ^ 128 := by decide

theorem ofText?_of_some {i : Int} (length : (payload s).length = 32)
    (number : Text.integer? 16 (payload s) = some i) : ofText? s = .ok (ofNat i.toNat) := by
  simp [ofText?, length, number]

theorem ofText?_of_none (length : (payload s).length = 32)
    (none : Text.integer? 16 (payload s) = none) :
    ofText? s = .error (.digits (String.ofList (payload s))) := by
  simp [ofText?, length, none]

/-- An identifier is read of 32 characters that spell its number. -/
theorem ofText?_eq_ok_iff : ofText? s = .ok u ↔ (payload s).length = 32 ∧
    ∃ ds, Text.Spelled (payload s) ds ∧ u.bits.toNat = Text.number 16 ds := by
  by_cases length : (payload s).length = 32
  · have spell (i : Int) := Text.integer?_eq_some_iff (i := i) (not_mem_payload s)
    constructor
    · intro read
      cases number : Text.integer? 16 (payload s) with
      | none =>
        rw [ofText?_of_none length number] at read
        cases read
      | some i =>
        rw [ofText?_of_some length number] at read
        obtain ⟨ds, spelled, rfl⟩ := (spell i).mp number
        obtain rfl := Except.ok.inj read
        refine ⟨length, ds, spelled, ?_⟩
        exact Nat.mod_eq_of_lt (number_lt length spelled)
    · rintro ⟨-, ds, spelled, same⟩
      rw [ofText?_of_some length ((spell _).mpr ⟨ds, spelled, rfl⟩)]
      refine congrArg Except.ok ?_
      rw [ofNat, Int.toNat_natCast, ← same, BitVec.ofNat_toNat, BitVec.setWidth_eq]
  · simp [ofText?, length]

theorem ofText?_eq_error_iff : ofText? s = .error e ↔ Misread s e := by
  by_cases length : (payload s).length = 32
  · have none : Text.integer? 16 (payload s) = none ↔ ∀ ds, ¬ Text.Spelled (payload s) ds := by
      simp [Option.eq_none_iff_forall_ne_some, Text.integer?_eq_some_iff (not_mem_payload s)]
    cases number : Text.integer? 16 (payload s) with
    | none =>
      have unspelled := none.mp number
      rw [ofText?_of_none length number]
      cases e with
      | length => simp [Misread, length]
      | digits text => simp [Misread, length, unspelled, eq_comm]
    | some i =>
      obtain ⟨ds, spelled, -⟩ := (Text.integer?_eq_some_iff (not_mem_payload s)).mp number
      rw [ofText?_of_some length number]
      cases e with
      | length => simp [Misread, length]
      | digits text =>
        simp only [reduceCtorEq, Misread, false_iff]
        rintro ⟨-, unspelled, -⟩
        exact unspelled ds spelled
  · cases e <;> simp [ofText?, Misread, length]

end Uuid

/-! ## Mistakes -/

/-- Whether a value has members that can be gone through. -/
def Value.HasMembers : Value → Prop
  | null | bool _ | int _ | float _ | date _ | timestamp _ => False
  | text _ | bytes _ | list _ | tuple _ | set _ | map _ => True

/-- The mistakes for which a payload is refused. -/
inductive Mistake where
  | id
  | timestamp
  | records
  | level
deriving DecidableEq, Repr

namespace Mistake

/-- The mistakes that are looked for before. -/
def before : Mistake → List Mistake
  | id => []
  | timestamp => [id]
  | records => [id, timestamp]
  | level => [id, timestamp, records]

/-- The field in which a mistake is made. -/
def field : Mistake → String
  | id => "event_id"
  | timestamp => "timestamp"
  | records => "exception"
  | level => "level"

end Mistake

/-- Whether an error says that a value is of a wrong kind, and not that it is a wrong one. -/
def PayloadError.OfKind : PayloadError → Prop
  | .notAMapping _ | .notACollection _ => True
  | .id _ | .timestamp _ | .level _ => False

/-- The mistakes of a payload, each with the error that tells it. -/
inductive Mapping.Mistaken (m : Mapping) : Mistake → PayloadError → Prop where
  /-- An identifier is given and spells none. -/
  | id {v : Value} {e : Uuid.ReadError} (there : m.get? Mistake.id.field = some v)
      (given : v.truthy = true) (misread : Uuid.Misread v.plain e) : Mistaken m .id (.id e)
  /-- A text is given as the timestamp and tells none. -/
  | timestamp {s : String} {e : Timestamp.ReadError}
      (there : m.get? Mistake.timestamp.field = some (.text s))
      (misread : Timestamp.ofIso? s = .error e) : Mistaken m .timestamp (.timestamp e)
  /-- Records are listed in a value without members. -/
  | records {es : Mapping} {v : Value} (there : m.get? Mistake.records.field = some (.map es))
      (listed : es.get? "values" = some v) (single : ¬ v.HasMembers) :
      Mistaken m .records (.notACollection v.qualifiedKind)
  /-- No level has the name that is given, or the one that stands for a missing one. -/
  | level (unknown : ∀ l : Level, l.name ≠ m.plainTextD Mistake.level.field Level.error.name) :
      Mistaken m .level (.level (m.plainTextD Mistake.level.field Level.error.name))

namespace Mapping.Mistaken

variable {m m' : Mapping} {k : Mistake} {x : PayloadError}

/-- A mistake depends on its field alone. -/
theorem congr (h : m.Mistaken k x) (same : m'.get? k.field = m.get? k.field) :
    m'.Mistaken k x := by
  cases h with
  | id there given misread => exact .id (same.trans there) given misread
  | timestamp there misread => exact .timestamp (same.trans there) misread
  | records there listed single => exact .records (same.trans there) listed single
  | level unknown =>
    have name : m'.plainTextD Mistake.level.field Level.error.name =
        m.plainTextD Mistake.level.field Level.error.name := by
      rw [plainTextD, plainTextD, same]
    rw [← name] at unknown ⊢
    exact .level unknown

theorem ofKind_iff (h : m.Mistaken k x) : x.OfKind ↔ k = .records := by
  cases h <;> simp [PayloadError.OfKind]

end Mapping.Mistaken

/-! ## Reading the fields -/

theorem Level.ofName?_eq_none_iff {s : String} : ofName? s = none ↔ ∀ l : Level, l.name ≠ s := by
  have all : ∀ l : Level, l ∈ Level.all := fun l => by cases l <;> decide
  simp [ofName?, List.find?_eq_none, all]

namespace Event

variable {m : Mapping} {x : PayloadError}

theorem readId_eq_error_iff : readId (m.get? "event_id") = .error x ↔ m.Mistaken .id x := by
  constructor
  · intro failed
    cases there : m.get? "event_id" with
    | none => simp [there, readId] at failed
    | some v =>
      rw [there, readId] at failed
      split at failed
      · next given =>
        cases read : Uuid.ofText? v.plain with
        | error e =>
          rw [read] at failed
          obtain rfl := Except.error.inj failed
          exact .id there given (Uuid.ofText?_eq_error_iff.mp read)
        | ok u =>
          rw [read] at failed
          cases failed
      · cases failed
  · intro mistaken
    cases mistaken with
    | id there given misread =>
      have there : m.get? "event_id" = _ := there
      rw [there, readId, if_pos given, Uuid.ofText?_eq_error_iff.mpr misread]
      rfl

/-- Reading a time fails just when it is mistaken. -/
theorem readTimestamp_eq_error_iff :
    readTimestamp (m.get? "timestamp") = .error x ↔ m.Mistaken .timestamp x := by
  constructor
  · intro failed
    rw [readTimestamp.eq_def] at failed
    split at failed
    · next s there =>
      split at failed
      · cases failed
      · next e misread =>
        obtain rfl := Except.error.inj failed
        exact .timestamp there misread
    · cases failed
    · cases failed
  · intro mistaken
    cases mistaken with
    | timestamp there misread =>
      have there : m.get? "timestamp" = _ := there
      simp only [there, readTimestamp, misread]

/-- Only a value with members lists records. -/
theorem memberMappings_eq_error_iff {v : Value} :
    memberMappings v = .error x ↔ ¬ v.HasMembers ∧ x = .notACollection v.qualifiedKind := by
  cases v <;> simp [memberMappings, Value.HasMembers, eq_comm]

/-- Reading records fails just when what is listed is mistaken. -/
theorem readRecords_eq_error_iff :
    readRecords (m.get? "exception") = .error x ↔ m.Mistaken .records x := by
  constructor
  · intro failed
    rw [readRecords.eq_def] at failed
    split at failed
    · next es there =>
      split at failed
      · cases failed
      · next v listed =>
        cases members : memberMappings v with
        | error y =>
          rw [members] at failed
          obtain rfl := Except.error.inj failed
          obtain ⟨single, rfl⟩ := memberMappings_eq_error_iff.mp members
          exact .records there listed single
        | ok ms =>
          rw [members] at failed
          cases failed
    · cases failed
  · intro mistaken
    cases mistaken with
    | records there listed single =>
      have there : m.get? "exception" = _ := there
      have members := memberMappings_eq_error_iff.mpr ⟨single, rfl⟩
      simp only [there, readRecords, listed, members, Except.error_map]

theorem readLevel_eq_error_iff : readLevel m = .error x ↔ m.Mistaken .level x := by
  constructor
  · intro failed
    rw [readLevel] at failed
    split at failed
    · cases failed
    · next none =>
      obtain rfl := Except.error.inj failed
      exact .level (Level.ofName?_eq_none_iff.mp none)
  · intro mistaken
    cases mistaken with
    | level unknown =>
      have none := Level.ofName?_eq_none_iff.mpr unknown
      simp only [Mistake.field] at none ⊢
      simp only [readLevel, none]

/-! ## Events -/

/-- A part that is read is free of its mistake. -/
theorem exists_ok_iff {α : Type} {read : Except PayloadError α} {k : Mistake}
    (failed : ∀ {x}, read = .error x ↔ m.Mistaken k x) :
    (∃ a, read = .ok a) ↔ ∀ x, ¬ m.Mistaken k x := by
  simp only [← failed]
  cases read <;> simp

/-- The mistake that is told is the first one. -/
theorem ofPayload?_eq_error_iff : ofPayload? (.map m) = .error x ↔
    ∃ k, m.Mistaken k x ∧ ∀ j ∈ k.before, ∀ y, ¬ m.Mistaken j y := by
  have id := exists_ok_iff (m := m) readId_eq_error_iff
  have timestamp := exists_ok_iff (m := m) readTimestamp_eq_error_iff
  have records := exists_ok_iff (m := m) readRecords_eq_error_iff
  rw [ofPayload?, ofMapping?]
  simp only [Except.bind_eq_error_iff, readId_eq_error_iff, readTimestamp_eq_error_iff,
    readRecords_eq_error_iff, readLevel_eq_error_iff]
  constructor
  · -- the part that fails, with those before it that were read
    rintro (h | ⟨_, hi, h | ⟨_, ht, h | ⟨_, hr, h | ⟨_, -, h⟩⟩⟩⟩)
    · exact ⟨.id, h, by simp [Mistake.before]⟩
    · exact ⟨.timestamp, h, by simpa [Mistake.before] using id.mp ⟨_, hi⟩⟩
    · exact ⟨.records, h, by simpa [Mistake.before] using ⟨id.mp ⟨_, hi⟩, timestamp.mp ⟨_, ht⟩⟩⟩
    · refine ⟨.level, h, ?_⟩
      simpa [Mistake.before] using ⟨id.mp ⟨_, hi⟩, timestamp.mp ⟨_, ht⟩, records.mp ⟨_, hr⟩⟩
    · cases h
  · rintro ⟨k, mistaken, first⟩
    cases k with
    | id => exact .inl mistaken
    | timestamp =>
      obtain ⟨u, hi⟩ := id.mpr (first .id (by decide))
      exact .inr ⟨u, hi, .inl mistaken⟩
    | records =>
      obtain ⟨u, hi⟩ := id.mpr (first .id (by decide))
      obtain ⟨t, ht⟩ := timestamp.mpr (first .timestamp (by decide))
      exact .inr ⟨u, hi, .inr ⟨t, ht, .inl mistaken⟩⟩
    | level =>
      obtain ⟨u, hi⟩ := id.mpr (first .id (by decide))
      obtain ⟨t, ht⟩ := timestamp.mpr (first .timestamp (by decide))
      obtain ⟨r, hr⟩ := records.mpr (first .records (by decide))
      exact .inr ⟨u, hi, .inr ⟨t, ht, .inr ⟨r, hr, .inl mistaken⟩⟩⟩

theorem readId_and_readLevel {e : Event} (read : ofPayload? (.map m) = .ok e) :
    readId (m.get? "event_id") = .ok e.id ∧ readLevel m = .ok e.level := by
  rw [ofPayload?, ofMapping?] at read
  obtain ⟨id, hi, read⟩ := Except.bind_eq_ok_iff.mp read
  obtain ⟨timestamp?, -, read⟩ := Except.bind_eq_ok_iff.mp read
  obtain ⟨records, -, read⟩ := Except.bind_eq_ok_iff.mp read
  obtain ⟨level, hl, read⟩ := Except.bind_eq_ok_iff.mp read
  obtain rfl := Except.ok.inj read
  exact ⟨hi, hl⟩

/-- A payload is read just when it has no mistake. -/
theorem exists_ofPayload?_iff :
    (∃ e, ofPayload? (.map m) = .ok e) ↔ ∀ k x, ¬ m.Mistaken k x := by
  constructor
  · rintro ⟨e, read⟩ k
    obtain ⟨timestamp, records, -, -⟩ := fields_of_ofPayload? read
    obtain ⟨id, level⟩ := readId_and_readLevel read
    cases k with
    | id => exact (exists_ok_iff readId_eq_error_iff).mp ⟨_, id⟩
    | timestamp => exact (exists_ok_iff readTimestamp_eq_error_iff).mp ⟨_, timestamp⟩
    | records => exact (exists_ok_iff readRecords_eq_error_iff).mp ⟨_, records⟩
    | level => exact (exists_ok_iff readLevel_eq_error_iff).mp ⟨_, level⟩
  · intro none
    cases read : ofPayload? (.map m) with
    | ok e => exact ⟨e, rfl⟩
    | error x =>
      obtain ⟨k, mistaken, -⟩ := ofPayload?_eq_error_iff.mp read
      exact absurd mistaken (none k x)

/-- How a payload is refused or read. -/
structure RefusesFirst (m : Mapping) : Prop where
  /-- It is refused just when it has a mistake. -/
  refused_iff : (∃ x, ofPayload? (.map m) = .error x) ↔ ∃ k x, m.Mistaken k x
  /-- The mistake that is told is the first one. -/
  error_iff : ∀ x, ofPayload? (.map m) = .error x ↔
    ∃ k, m.Mistaken k x ∧ ∀ j ∈ k.before, ∀ y, ¬ m.Mistaken j y
  /-- Whatever else a payload holds, the same field makes the same mistake. -/
  alone : ∀ k x, m.Mistaken k x → ∀ m' : Mapping, m'.get? k.field = m.get? k.field →
    m'.Mistaken k x
  /-- Only records are told to be of a wrong kind, all other mistakes are wrong values. -/
  ofKind_iff : ∀ k x, m.Mistaken k x → (x.OfKind ↔ k = .records)
  /-- Every other payload is read, whatever is in its fields. -/
  read_iff : (∃ e, ofPayload? (.map m) = .ok e) ↔ ∀ k x, ¬ m.Mistaken k x
  /-- An identifier that is given is the number that its text spells. -/
  given : ∀ e v, ofPayload? (.map m) = .ok e → m.get? Mistake.id.field = some v →
    v.truthy = true → (Uuid.payload v.plain).length = 32 ∧
      ∃ ds, Text.Spelled (Uuid.payload v.plain) ds ∧ e.id.bits.toNat = Text.number 16 ds
  /-- No text of the right length spells a number that is too large for an identifier. -/
  inRange : ∀ s ds, (Uuid.payload s).length = 32 → Text.Spelled (Uuid.payload s) ds →
    Text.number 16 ds < 2 ^ 128
  /-- An identifier that does not count as given is nil. -/
  missing : ∀ e, ofPayload? (.map m) = .ok e →
    (∀ v, m.get? Mistake.id.field = some v → v.truthy = false) → e.id = .nil

/-- **Which payloads are refused.** The first mistake of a payload is told, and a payload without
mistakes is read. -/
theorem ofPayload?_refusesFirst (m : Mapping) : RefusesFirst m := by
  constructor
  case refused_iff =>
    constructor
    · rintro ⟨x, failed⟩
      obtain ⟨k, mistaken, -⟩ := ofPayload?_eq_error_iff.mp failed
      exact ⟨k, x, mistaken⟩
    · rintro ⟨k, x, mistaken⟩
      cases read : ofPayload? (.map m) with
      | error y => exact ⟨y, rfl⟩
      | ok e => exact absurd mistaken (exists_ofPayload?_iff.mp ⟨e, read⟩ k x)
  case error_iff => exact fun x => ofPayload?_eq_error_iff
  case alone => exact fun k x mistaken m' same => mistaken.congr same
  case ofKind_iff => exact fun k x mistaken => mistaken.ofKind_iff
  case read_iff => exact exists_ofPayload?_iff
  case given =>
    intro e v read there given
    obtain ⟨id, -⟩ := readId_and_readLevel read
    have there : m.get? "event_id" = some v := there
    rw [there, readId, if_pos given, Except.mapError_eq_ok_iff] at id
    exact Uuid.ofText?_eq_ok_iff.mp id
  case inRange => exact fun s ds length spelled => Uuid.number_lt length spelled
  case missing =>
    intro e read ungiven
    obtain ⟨id, -⟩ := readId_and_readLevel read
    cases there : m.get? "event_id" with
    | none =>
      rw [there] at id
      exact (Except.ok.inj id).symm
    | some v =>
      rw [there, readId, ungiven v there] at id
      exact (Except.ok.inj id).symm

/-- Records that are null are no records that are missing, and hide an unknown level. -/
example :
    ofPayload? (.map [(.text "level", .null), (.text "exception", .map [(.text "values", .null)])]) =
      .error (.notACollection "NoneType") := by
  cbv

end Event

end CauseTrail
