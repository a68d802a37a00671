import CauseTrail.Event.Payload
import CauseTrail.Proofs.Calendar.IsoRoundTrip
import CauseTrail.Proofs.Text.Trimming
import CauseTrail.Proofs.Value.Mapping
import CauseTrail.Proofs.Value.SelfEqual

/-!
# Reading events back

The payload of an event is read as that event. A record leaves out the fields that are not set,
an event writes null for them, and either way the reader finds nothing set; what is set to an
empty text or an empty mapping is written and found.

## Main definitions

* `Event.Tellable`: an event that its payload tells

## Main results

* `Uuid.ofText?_hex`: an identifier is read back from its digits
* `Record.ofMapping_payload`: a record is read back from its payload
* `Event.ofPayload?_payload`: a tellable event is read back from its payload and equals itself
-/

namespace CauseTrail

/-! ## Identifiers -/

namespace Uuid

theorem without_eq_self {c : Char} {cs : List Char} (h : c ∉ cs) (word : List Char) :
    without (c :: word) 0 cs = cs := by
  induction cs with
  | nil => rfl
  | cons d ds ih =>
    obtain ⟨hd, hds⟩ : c ≠ d ∧ c ∉ ds := by simpa using h
    rw [without, if_neg (by simp [List.isPrefixOf, hd]), ih hds]

theorem stripBraces_eq_self {cs : List Char} (h : ∀ c ∈ cs, c ≠ '\x7b' ∧ c ≠ '\x7d') :
    stripBraces cs = cs :=
  Text.dropWhile_ends_eq_self fun c hc => by simp [h c hc]

/-- The digits of an identifier have nothing around them that the reader takes away. -/
theorem payload_hex (u : Uuid) : payload u.hex = Text.hexDigits 32 u.bits.toNat := by
  have other {p : Char → Prop} (h : ∀ d < 16, p (Text.hexDigit d)) :
      ∀ c ∈ Text.hexDigits 32 u.bits.toNat, p c := Text.forall_mem_hexDigits h _ _
  have noU : 'u' ∉ Text.hexDigits 32 u.bits.toNat := fun hu =>
    other (p := (· ≠ 'u')) (by decide) _ hu rfl
  have digits : u.hex.toList = Text.hexDigits 32 u.bits.toNat := String.toList_ofList
  have urn : without "urn:".toList 0 u.hex.toList = u.hex.toList :=
    without_eq_self (digits ▸ noU) ['r', 'n', ':']
  have uuid : without "uuid:".toList 0 u.hex.toList = u.hex.toList :=
    without_eq_self (digits ▸ noU) ['u', 'i', 'd', ':']
  rw [payload, urn, uuid, digits, stripBraces_eq_self (other (by decide)), List.filter_eq_self]
  exact other (p := fun c => decide (c ≠ '-') = true) (by decide)

end Uuid

namespace Text

/-- Hexadecimal digits make a numeral without sign and prefix. -/
theorem integer?_hexDigits (width : Nat) {n : Nat} (hw : 0 < width) (h : n < 16 ^ width) :
    integer? 16 (hexDigits width n) = some n := by
  have other {p : Char → Prop} (hp : ∀ d < 16, p (hexDigit d)) :
      ∀ c ∈ hexDigits width n, p c := forall_mem_hexDigits hp _ _
  have read : digits? 16 0 true (hexDigits width n) = some n := digits?_hexDigits (fun _ => hw) h
  have signs := other (p := fun c => c ≠ '+' ∧ c ≠ '-' ∧ c.toLower ≠ 'x') (by decide)
  rw [integer?, strip, Text.dropWhile_ends_eq_self (other (by decide))]
  cases digits : hexDigits width n with
  | nil => simp [digits, digits?] at read
  | cons a more =>
    rw [digits] at read signs
    have natural : natural? 16 (a :: more) = some n := by
      cases more with
      | nil => simpa [natural?] using read
      | cons x more =>
        -- behind a zero could stand the letter of a base, which is no digit
        have noPrefix : 'x' ≠ x.toLower := (signs x (by simp)).2.2.symm
        simp [natural?, baseLetter?, noPrefix, read]
    simp [(signs a (by simp)).1, (signs a (by simp)).2.1, natural]

end Text

theorem Uuid.ofText?_hex (u : Uuid) : Uuid.ofText? u.hex = .ok u := by
  have bound : u.bits.toNat < 16 ^ 32 := u.bits.isLt
  have read := Text.integer?_hexDigits 32 (by decide) bound
  simp [ofText?, payload_hex, read, ofNat]

/-! ## Records -/

@[simp] theorem Value.plain_text (s : String) : (Value.text s).plain = s := rfl

/-- A text that may be missing is read back, whether it is left out or written as null. -/
theorem Value.isNull_ofText? (s? : Option String) :
    (if (Value.ofText? s?).isNull then none else some (Value.ofText? s?).plain) = s? := by
  cases s? <;> rfl

namespace Record

/-- **Reading a record back.** Any of its fields may be left open. -/
theorem ofMapping_payload (r : Record) : ofMapping r.payload = r := by
  rcases r with ⟨type, _ | value, _ | module, _ | thread, _ | mechanism⟩ <;>
    simp [payload, ofMapping, Mapping.plainText?, Mapping.plainTextD, Value.isNull]

theorem memberMappings_payload (records : List Record) :
    Event.memberMappings (.list (records.map fun r => .map r.payload)) =
      .ok (records.map payload) := by
  simp [Event.memberMappings, List.filterMap_map]

end Record

/-! ## Events -/

namespace Event

/-- Tags are read back in their order where no two have one name. -/
theorem foldl_setTag (acc tags : List (String × String))
    (h : ((acc ++ tags).map Prod.fst).Nodup) :
    tags.foldl (fun acc t => setTag acc t.1 t.2) acc = acc ++ tags := by
  induction tags generalizing acc with
  | nil => simp
  | cons t tags ih =>
    have fresh : (acc.any fun u => u.1 = t.1) = false := by
      rw [List.map_append, List.nodup_append] at h
      rw [List.any_eq_false]
      intro u hu
      simpa using h.2.2 u.1 (List.mem_map_of_mem hu) t.1 (by simp)
    have step : setTag acc t.1 t.2 = acc ++ [t] := by simp [setTag, fresh]
    rw [List.foldl_cons, step, ih _ (by simpa using h), List.append_assoc, List.singleton_append]

/-- Tags under names that differ are read back. -/
theorem readTags_map {tags : List (String × String)} (h : (tags.map Prod.fst).Nodup) :
    readTags (some (.map (tags.map fun t => (.text t.1, .text t.2)))) = tags := by
  rw [readTags, List.foldl_map]
  exact foldl_setTag [] tags h

theorem readFingerprint_map (marks : List String) :
    readFingerprint (some (.list (marks.map .text))) = marks := by
  simp [readFingerprint, Function.comp_def]

theorem readId_hex (u : Uuid) : readId (some (.text u.hex)) = .ok u := by
  have written : u.hex ≠ "" := by
    intro empty
    have count : u.hex.toList.length = 32 := by
      rw [Uuid.hex, String.toList_ofList, Text.length_hexDigits]
    rw [empty] at count
    cases count
  have read := u.ofText?_hex
  simp only [readId, Value.truthy, written, ne_eq, not_false_eq_true, decide_true, reduceIte,
    Value.plain_text, read]
  rfl

/-- A time that its text tells is read back, and so is none. -/
theorem readTimestamp_iso {t? : Option Timestamp} (h : ∀ t ∈ t?, t.Tellable) :
    readTimestamp (some (.ofText? (t?.map (·.iso)))) = .ok t? := by
  cases t? with
  | none => rfl
  | some t =>
    have read := Timestamp.ofIso?_iso (h t rfl)
    simp [Value.ofText?, readTimestamp, read]

/-- An event that its payload tells: its timestamp is tellable, no two of its tags have one name,
and it equals itself. -/
structure Tellable (e : Event) : Prop where
  timestamp : ∀ t ∈ e.timestamp?, t.Tellable
  tags : (e.tags.map Prod.fst).Nodup
  nanFree : e.NanFree

/-- An event is read back from its payload, with the time that its time is read as. -/
theorem ofPayload?_payload_of_readTimestamp {e : Event} {t? : Option Timestamp}
    (timestamp : readTimestamp (some (.ofText? (e.timestamp?.map Timestamp.iso))) = .ok t?)
    (tags : (e.tags.map Prod.fst).Nodup) :
    ofPayload? (.map e.payload) = .ok { e with timestamp? := t? } := by
  have id := readId_hex e.id
  have tags := readTags_map tags
  have level : readLevel e.payload = .ok e.level := by
    simp [readLevel, payload, Mapping.plainTextD, Level.ofName?_name]
  have records : readRecords (e.payload.get? "exception") = .ok e.records := by
    simp [payload, readRecords, Record.memberMappings_payload, Function.comp_def,
      Record.ofMapping_payload]
  rw [ofPayload?, ofMapping?, level, records]
  simp [payload, id, timestamp, tags, Mapping.plainText?, Mapping.plainTextD,
    readFingerprint_map, readExtra, Value.isNull_ofText?]

/-- An event with a time that its text tells is read back. -/
theorem ofPayload?_payload_eq {e : Event} (h : ∀ t ∈ e.timestamp?, t.Tellable)
    (tags : (e.tags.map Prod.fst).Nodup) : ofPayload? (.map e.payload) = .ok e :=
  ofPayload?_payload_of_readTimestamp (readTimestamp_iso h) tags

/-- **Reading an event back.** The payload of a tellable event is read as that event, which equals
itself. -/
theorem ofPayload?_payload (e : Event) (h : e.Tellable) :
    ofPayload? (.map e.payload) = .ok e ∧ e.equal e = true :=
  ⟨ofPayload?_payload_eq h.timestamp h.tags, equal_self h.nanFree⟩

/-- An event of a leap day, with an offset to the microsecond, with fields that are set to nothing
and with annotations of several kinds. -/
def leapDayEvent : Event where
  records := [⟨"KeyError", some "", none, some "7", some []⟩, ⟨"", none, some "store", none, none⟩]
  level := .fatal
  id := .ofNat 0xabc
  message? := some ""
  logger? := none
  platform := "python"
  timestamp? := some ⟨⟨2024, 2, 29⟩, 23, 59, 59, 7, some (-19815000250)⟩
  serverName? := some "\u00e9"
  release? := none
  environment? := none
  tags := [("b", "1"), ("a", "")]
  extra := [(.int 1, .list [.null, .float (.finite true 3 (-1))]), (.text "k", .tuple [.bool true])]
  fingerprint := []

/-- The laws for the event of the leap day. -/
theorem ofPayload?_payload_leapDayEvent :
    leapDayEvent.Tellable ∧ ofPayload? (.map leapDayEvent.payload) = .ok leapDayEvent ∧
      leapDayEvent.equal leapDayEvent = true := by
  have tellable : leapDayEvent.Tellable := by
    refine ⟨by decide, by decide, ⟨?_, ?_⟩⟩
    · intro r hr m hm
      simp only [leapDayEvent, List.mem_cons, List.not_mem_nil, or_false] at hr
      rcases hr with rfl | rfl
      · obtain rfl := Option.some.inj hm
        simp [Value.nanFree, Value.nanFreeEntries]
      · cases hm
    · simp [leapDayEvent, Value.nanFree, Value.nanFreeAll, Value.nanFreeEntries]
  exact ⟨tellable, ofPayload?_payload leapDayEvent tellable⟩

end Event

end CauseTrail
