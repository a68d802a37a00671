import CauseTrail.Event.Basic

/-!
# Values that equal themselves

Not-a-number is the one number that differs from itself, and a value differs from itself where it
holds that number. All other values equal themselves, and so do the records and events that are
annotated with them.

## Main definitions

* `Value.nanFree`: whether not-a-number is nowhere in a value
* `Event.NanFree`: an event without not-a-number in its annotations

## Main results

* `Value.equal_self`, `Event.equal_self`: what is free of not-a-number equals itself
-/

namespace CauseTrail

theorem Binary64.equal_self {x : Binary64} (h : x ≠ .nan) : x.equal x = true := by
  cases x with
  | nan => exact absurd rfl h
  | infinite => simp [equal]
  | finite => simp [equal]

namespace Value

mutual

/-- Whether not-a-number is nowhere in a value. -/
def nanFree : Value → Bool
  | float x => decide (x ≠ .nan)
  | list xs | tuple xs | set xs => nanFreeAll xs
  | map es => nanFreeEntries es
  | _ => true

/-- Whether no member has not-a-number in it. -/
def nanFreeAll : List Value → Bool
  | [] => true
  | x :: xs => x.nanFree && nanFreeAll xs

/-- Whether no key and no value of an entry has not-a-number in it. -/
def nanFreeEntries : List (Value × Value) → Bool
  | [] => true
  | (k, v) :: es => k.nanFree && v.nanFree && nanFreeEntries es

end

theorem nanFreeAll_iff {xs : List Value} : nanFreeAll xs = true ↔ ∀ x ∈ xs, x.nanFree = true := by
  induction xs with
  | nil => simp [nanFreeAll]
  | cons x xs ih => simp [nanFreeAll, ih]

theorem nanFreeEntries_iff {es : List (Value × Value)} :
    nanFreeEntries es = true ↔ ∀ e ∈ es, e.1.nanFree = true ∧ e.2.nanFree = true := by
  induction es with
  | nil => simp [nanFreeEntries]
  | cons e es ih =>
    rw [nanFreeEntries, Bool.and_eq_true, Bool.and_eq_true, ih, List.forall_mem_cons]

mutual

/-- A value without not-a-number equals itself. -/
theorem equal_self : ∀ v : Value, v.nanFree = true → v.equal v = true
  | null, _ => by simp [equal]
  | bool b, _ => by cases b <;> simp [equal, equal.scalarEqual]
  | int n, _ => by simp [equal, equal.scalarEqual]
  | float x, h => by
    rw [equal]
    exact Binary64.equal_self (by simpa [nanFree] using h)
  | text s, _ => by simp [equal]
  | bytes bs, _ => by simp [equal]
  | date d, _ => by simp [equal]
  | timestamp t, _ => by simp [equal, t.same_self]
  | list xs, h => by
    rw [equal]
    exact equalList_self xs (by simpa [nanFree] using h)
  | tuple xs, h => by
    rw [equal]
    exact equalList_self xs (by simpa [nanFree] using h)
  -- Members and entries are found in any order, so they are looked for in the whole.
  | set xs, h => by
    have inside := containedIn_of_subset xs xs (by simpa [nanFree] using h) fun x hx => hx
    simp [equal, inside]
  | map es, h => by
    have inside := entriesIn_of_subset es es (by simpa [nanFree] using h) fun e he => he
    simp [equal, inside]

theorem equalList_self : ∀ xs : List Value, nanFreeAll xs = true → equalList xs xs = true
  | [], _ => by simp [equalList]
  | x :: xs, h => by
    obtain ⟨hx, hxs⟩ : x.nanFree = true ∧ nanFreeAll xs = true := by simpa [nanFreeAll] using h
    simp [equalList, equal_self x hx, equalList_self xs hxs]

/-- Members without not-a-number are found in a list that has them. -/
theorem containedIn_of_subset : ∀ xs ys : List Value, nanFreeAll xs = true →
    (∀ x ∈ xs, x ∈ ys) → containedIn xs ys = true
  | [], _, _, _ => by simp [containedIn]
  | x :: xs, ys, h, sub => by
    obtain ⟨hx, hxs⟩ : x.nanFree = true ∧ nanFreeAll xs = true := by simpa [nanFreeAll] using h
    have found : (ys.any fun y => x.equal y) = true :=
      List.any_eq_true.mpr ⟨x, sub x (by simp), equal_self x hx⟩
    have rest := containedIn_of_subset xs ys hxs fun y hy => sub y (by simp [hy])
    rw [containedIn, found, rest]
    rfl

/-- Entries without not-a-number are found in a mapping that has them. -/
theorem entriesIn_of_subset : ∀ es fs : List (Value × Value), nanFreeEntries es = true →
    (∀ e ∈ es, e ∈ fs) → entriesIn es fs = true
  | [], _, _, _ => by simp [entriesIn]
  | (k, v) :: es, fs, h, sub => by
    obtain ⟨⟨hk, hv⟩, hes⟩ :
        (k.nanFree = true ∧ v.nanFree = true) ∧ nanFreeEntries es = true := by
      simpa [nanFreeEntries] using h
    have found : (fs.any fun f => k.equal f.1 && v.equal f.2) = true :=
      List.any_eq_true.mpr ⟨(k, v), sub _ (by simp), by simp [equal_self k hk, equal_self v hv]⟩
    have rest := entriesIn_of_subset es fs hes fun f hf => sub f (by simp [hf])
    rw [entriesIn, found, rest]
    rfl

end

end Value

/-! ## Records and events -/

/-- A record without not-a-number in its mechanism. -/
def Record.NanFree (r : Record) : Prop := ∀ m ∈ r.mechanism?, (Value.map m).nanFree = true

theorem Record.equal_self {r : Record} (h : r.NanFree) : r.equal r = true := by
  cases mechanism : r.mechanism? with
  | none => simp [equal, mechanism]
  | some m => simp [equal, mechanism, Value.equal_self _ (h m mechanism)]

namespace Event

/-- An event without not-a-number in its annotations and in the mechanisms of its records. -/
structure NanFree (e : Event) : Prop where
  records : ∀ r ∈ e.records, r.NanFree
  extra : (Value.map e.extra).nanFree = true

theorem equalRecords_self {records : List Record} (h : ∀ r ∈ records, r.NanFree) :
    equalRecords records records = true := by
  induction records with
  | nil => rfl
  | cons r rs ih =>
    rw [equalRecords, Record.equal_self (h r (by simp)), ih fun r hr => h r (by simp [hr])]
    rfl

theorem equalTimestamps_self (t? : Option Timestamp) : equalTimestamps t? t? = true := by
  cases t? with
  | none => rfl
  | some t => exact t.same_self

theorem equalTags_self (tags : List (String × String)) : equalTags tags tags = true := by
  simp [equalTags]

/-- An event without not-a-number equals itself. -/
theorem equal_self {e : Event} (h : e.NanFree) : e.equal e = true := by
  simp [equal, equalRecords_self h.records, equalTimestamps_self, equalTags_self,
    Value.equal_self _ h.extra]

end Event

end CauseTrail
