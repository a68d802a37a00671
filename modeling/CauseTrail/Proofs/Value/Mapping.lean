import CauseTrail.Value.Basic

/-!
# Mappings key by key

What is found under a name after entries were inserted, and that no mapping that is put together
entry by entry has one key twice.

## Main definitions

* `Mapping.Distinct`: a mapping without two entries under one key

## Main results

* `Mapping.get?_insert`, `Mapping.get?_update`: the last entry under a name is the one that counts
* `Mapping.distinct_ofEntries`: a mapping that was put together has every key once
-/

namespace CauseTrail

namespace Value

/-- Nothing but a text equals that text. -/
theorem equal_text_iff {k : Value} {s : String} : k.equal (.text s) = true ↔ k = .text s := by
  cases k <;> simp [equal, integer?, equal.scalarEqual]

/-- A text equals nothing but that text. -/
theorem text_equal_iff {k : Value} {s : String} : (text s).equal k = true ↔ k = .text s := by
  cases k <;> simp [equal, eq_comm]

end Value

namespace Mapping

variable {m other : Mapping} {k v : Value} {name : String}

/-! ## Names -/

@[simp] theorem get?_nil (name : String) : get? [] name = none := rfl

theorem get?_cons (e : Value × Value) (m : Mapping) (name : String) :
    get? (e :: m) name = if e.1.equal (.text name) then some e.2 else get? m name := by
  rw [get?, lookup?, List.find?_cons]
  cases e.1.equal (.text name) <;> rfl

/-- The first entry under a name is the one that is found. -/
@[simp] theorem get?_cons_text (key : String) (v : Value) (m : Mapping) (name : String) :
    get? ((.text key, v) :: m) name = if key = name then some v else m.get? name := by
  rw [get?_cons]
  simp only [Value.equal_text_iff, Value.text.injEq]

theorem get?_append (m other : Mapping) (name : String) :
    get? (m ++ other) name = (m.get? name).or (other.get? name) := by
  induction m with
  | nil => rfl
  | cons e m ih =>
    rw [List.cons_append, get?_cons, get?_cons, ih]
    split <;> rfl

theorem get?_eq_some (h : get? m name = some v) : (.text name, v) ∈ m := by
  induction m with
  | nil => cases h
  | cons e m ih =>
    rw [get?_cons] at h
    split at h
    · next key =>
      obtain rfl := Option.some.inj h
      rw [← Value.equal_text_iff.mp key]
      exact List.mem_cons_self
    · exact List.mem_cons_of_mem e (ih h)

/-! ## Insertion -/

theorem get?_insert (m : Mapping) (k v : Value) (name : String) :
    get? (insert m k v) name = if k.equal (.text name) then some v else m.get? name := by
  induction m with
  | nil => exact get?_cons (k, v) [] name
  | cons e m ih =>
    rw [insert]
    by_cases same : e.1.equal k = true
    · -- the entry keeps its key, which is a name if and only if the new key is that name
      have named : e.1.equal (.text name) = k.equal (.text name) := by
        rw [Bool.eq_iff_iff, Value.equal_text_iff, Value.equal_text_iff]
        constructor
        · rintro key
          exact Value.text_equal_iff.mp (key ▸ same)
        · rintro key
          exact Value.equal_text_iff.mp (key ▸ same)
      rw [if_pos same, get?_cons, get?_cons, named]
      split <;> rfl
    · have apart : e.1.equal (.text name) = true → ¬ k.equal (.text name) = true := by
        intro key key'
        rw [Value.equal_text_iff] at key'
        exact same (key' ▸ key)
      rw [if_neg same, get?_cons, get?_cons, ih]
      by_cases key : e.1.equal (.text name) = true
      · rw [if_pos key, if_neg (apart key), if_pos key]
      · rw [if_neg key, if_neg key]

/-- The last entry of the other mapping under a name counts, and without one the entry there was. -/
theorem get?_update (m other : Mapping) (name : String) :
    get? (m.update other) name = (get? other.reverse name).or (m.get? name) := by
  induction other generalizing m with
  | nil => rfl
  | cons e other ih =>
    have one : get? [e] name = if e.1.equal (.text name) then some e.2 else none :=
      get?_cons e [] name
    rw [update, List.foldl_cons, ← update, ih, get?_insert, List.reverse_cons, get?_append,
      Option.or_assoc, one]
    cases e.1.equal (.text name) <;> rfl

theorem get?_ofEntries (es : List (Value × Value)) (name : String) :
    get? (ofEntries es) name = get? es.reverse name := by
  rw [ofEntries, get?_update, get?_nil, Option.or_none]

/-! ## Distinct keys -/

/-- No two entries have one key. -/
def Distinct (m : Mapping) : Prop := List.Pairwise (fun a b => a.1.equal b.1 = false) m

theorem distinct_nil : Distinct [] := List.Pairwise.nil

/-- Every key of a mapping with one more entry was there or is the new one. -/
theorem mem_keys_insert {e : Value × Value} (h : e ∈ insert m k v) :
    (∃ e' ∈ m, e.1 = e'.1) ∨ e.1 = k := by
  induction m with
  | nil =>
    obtain rfl := List.mem_singleton.mp h
    exact .inr rfl
  | cons a m ih =>
    rw [insert] at h
    split at h
    · rcases List.mem_cons.mp h with rfl | there
      · exact .inl ⟨a, List.mem_cons_self, rfl⟩
      · exact .inl ⟨e, List.mem_cons_of_mem a there, rfl⟩
    · rcases List.mem_cons.mp h with rfl | there
      · exact .inl ⟨e, List.mem_cons_self, rfl⟩
      · rcases ih there with ⟨e', he', key⟩ | key
        · exact .inl ⟨e', List.mem_cons_of_mem a he', key⟩
        · exact .inr key

/-- Every key of a mapping laid over another one is a key of one of them. -/
theorem mem_keys_update {e : Value × Value} (h : e ∈ m.update other) :
    (∃ e' ∈ m, e.1 = e'.1) ∨ ∃ e' ∈ other, e.1 = e'.1 := by
  induction other generalizing m with
  | nil => exact .inl ⟨e, h, rfl⟩
  | cons a other ih =>
    rcases ih h with ⟨e', there, key⟩ | ⟨e', there, key⟩
    · rcases mem_keys_insert there with ⟨e'', there', key'⟩ | key'
      · exact .inl ⟨e'', there', key.trans key'⟩
      · exact .inr ⟨a, List.mem_cons_self, key.trans key'⟩
    · exact .inr ⟨e', List.mem_cons_of_mem a there, key⟩

/-- An entry under a new key comes last. -/
theorem insert_of_new (h : ∀ e ∈ m, e.1.equal k = false) : insert m k v = m ++ [(k, v)] := by
  induction m with
  | nil => rfl
  | cons e m ih =>
    obtain ⟨other, others⟩ := List.forall_mem_cons.mp h
    rw [insert, if_neg (by simp [other]), ih others, List.cons_append]

theorem Distinct.insert (d : m.Distinct) (k v : Value) : Distinct (insert m k v) := by
  induction m with
  | nil => exact List.pairwise_singleton _ _
  | cons e m ih =>
    obtain ⟨apart, rest⟩ := List.pairwise_cons.mp d
    rw [Mapping.insert]
    split
    · exact List.pairwise_cons.mpr ⟨apart, rest⟩
    · next other =>
      refine List.pairwise_cons.mpr ⟨fun a there => ?_, ih rest⟩
      rcases mem_keys_insert there with ⟨a', there', key⟩ | key
      · rw [key]
        exact apart a' there'
      · rw [key]
        exact Bool.eq_false_iff.mpr other

theorem Distinct.update (d : m.Distinct) (other : Mapping) : (m.update other).Distinct := by
  induction other generalizing m with
  | nil => exact d
  | cons e other ih => exact ih (d.insert e.1 e.2)

/-- **A mapping that is put together** entry by entry has every key once. -/
theorem distinct_ofEntries (es : List (Value × Value)) : (ofEntries es).Distinct :=
  distinct_nil.update es

/-- Where every key is there once, the last entry under a name is the first one. -/
theorem Distinct.get?_reverse (d : m.Distinct) (name : String) :
    get? (List.reverse m) name = m.get? name := by
  induction m with
  | nil => rfl
  | cons e m ih =>
    obtain ⟨apart, rest⟩ := List.pairwise_cons.mp d
    rw [List.reverse_cons, get?_append, ih rest, get?_cons, get?_cons, get?_nil]
    by_cases named : e.1.equal (.text name) = true
    · -- no later entry has this name
      have missing : get? m name = none := by
        cases found : get? m name with
        | none => rfl
        | some v =>
          have other := apart _ (get?_eq_some found)
          rw [named] at other
          cases other
      rw [missing, Option.none_or, if_pos named]
    · rw [if_neg named, Option.or_none, if_neg named]

/-- Where every key is there once, an entry under a name is the one that is found. -/
theorem Distinct.get?_eq_some_iff (d : m.Distinct) : m.get? name = some v ↔ (.text name, v) ∈ m := by
  refine ⟨get?_eq_some, fun there => ?_⟩
  induction m with
  | nil => cases there
  | cons e m ih =>
    obtain ⟨apart, rest⟩ := List.pairwise_cons.mp d
    rcases List.mem_cons.mp there with rfl | there
    · rw [get?_cons_text, if_pos rfl]
    · rw [get?_cons, if_neg (by simp [apart _ there]), ih rest there]

/-- A mapping with new keys laid over another one comes behind it. -/
theorem update_of_distinct (d : Distinct (m ++ other)) : m.update other = m ++ other := by
  induction other generalizing m with
  | nil => exact (List.append_nil m).symm
  | cons e other ih =>
    have fresh : ∀ e' ∈ m, e'.1.equal e.1 = false := fun e' there =>
      (List.pairwise_append.mp d).2.2 e' there e List.mem_cons_self
    rw [List.append_cons] at d
    rw [update, List.foldl_cons, ← update, insert_of_new fresh, ih d, ← List.append_cons]

/-- A mapping that has every key once is what its entries are put together to. -/
theorem Distinct.ofEntries_eq_self (d : m.Distinct) : ofEntries m = m :=
  update_of_distinct (m := []) d

end Mapping

end CauseTrail
