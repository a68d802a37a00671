import CauseTrail.Config.Loader
import CauseTrail.Proofs.Value.Mapping
import CauseTrail.Refusal

/-!
# The keys of a file

What is read from a file, in either format, has no key twice: a reader puts its mappings together
entry by entry, and the path for events is put under its own key.

## Main definitions

* `Value.KeysDistinct`: a value that is a mapping has every key once

## Main results

* `Json.keysDistinct_of_read`, `Yaml.keysDistinct_of_read`: what a text of either format gives
* `Loader.distinct_of_fileValues`: what the chosen file gives
-/

namespace CauseTrail

/-- A mapping has every key once; what is no mapping has no keys. -/
def Value.KeysDistinct : Value → Prop
  | .map m => Mapping.Distinct m
  | _ => True

/-! ## JSON -/

namespace Json

variable {v : Value} {rest cs : List Char}

theorem keysDistinct_of_numberValue {negative : Bool} {p : NumberParts}
    (h : numberValue negative p = .ok v) : v.KeysDistinct := by
  rw [numberValue.eq_def] at h
  dsimp only at h
  split at h
  · split at h
    · cases h
    · obtain rfl := Except.ok.inj h
      trivial
  · obtain rfl := Except.ok.inj h
    trivial

theorem keysDistinct_of_readNumber (h : readNumber cs = .ok (v, rest)) : v.KeysDistinct := by
  simp only [readNumber] at h
  split at h
  · cases h
  · obtain ⟨w, number, same⟩ := Except.map_eq_ok_iff.mp h
    obtain ⟨rfl, -⟩ := Prod.mk.inj same
    exact keysDistinct_of_numberValue number

theorem keysDistinct_of_word? (h : word? cs = some (v, rest)) : v.KeysDistinct := by
  obtain ⟨w, hw, found⟩ := List.exists_of_findSome?_eq_some h
  split at found
  · obtain ⟨rfl, -⟩ := Prod.mk.inj (Option.some.inj found)
    have scalars : ∀ w ∈ words, w.2.KeysDistinct := by simp [words, Value.KeysDistinct]
    exact scalars w hw
  · cases found

theorem keysDistinct_of_readValue {fuel : Nat} (h : readValue fuel cs = .ok (v, rest)) :
    v.KeysDistinct := by
  cases fuel with
  | zero => cases h
  | succ fuel =>
    rw [readValue.eq_def] at h
    dsimp only at h
    split at h
    · -- a text
      obtain ⟨_, -, h⟩ := Except.bind_eq_ok_iff.mp h
      obtain ⟨rfl, -⟩ := Prod.mk.inj (Except.ok.inj h)
      trivial
    · -- an object, with or without members
      split at h
      · obtain ⟨rfl, -⟩ := Prod.mk.inj (Except.ok.inj h)
        exact Mapping.distinct_nil
      · obtain ⟨es, -, h⟩ := Except.bind_eq_ok_iff.mp h
        obtain ⟨rfl, -⟩ := Prod.mk.inj (Except.ok.inj h)
        exact Mapping.distinct_ofEntries _
    · -- an array
      split at h
      · obtain ⟨rfl, -⟩ := Prod.mk.inj (Except.ok.inj h)
        trivial
      · obtain ⟨_, -, h⟩ := Except.bind_eq_ok_iff.mp h
        obtain ⟨rfl, -⟩ := Prod.mk.inj (Except.ok.inj h)
        trivial
    · -- a word or a number
      split at h
      · next found =>
        obtain rfl := Except.ok.inj h
        exact keysDistinct_of_word? found
      · exact keysDistinct_of_readNumber h

/-- A JSON text gives every key of a mapping once. -/
theorem keysDistinct_of_read {s : String} (h : read s = .ok v) : v.KeysDistinct := by
  have all := Except.mapError_eq_ok_iff.mp h
  rw [readAll.eq_def] at all
  split at all
  · cases all
  · obtain ⟨⟨w, rest⟩, value, all⟩ := Except.bind_eq_ok_iff.mp all
    dsimp only at all
    split at all
    · obtain rfl := Except.ok.inj all
      exact keysDistinct_of_readValue value
    · cases all

end Json

/-! ## YAML -/

namespace Yaml

variable {v : Value}

namespace Node

theorem exists_of_ofScalar {α : Type} {a : α} {n : Node} {reader : String → Except ReadError α}
    (h : ofScalar n reader = .ok a) : ∃ s, reader s = .ok a := by
  rw [ofScalar] at h
  split at h
  · cases h
  · exact ⟨_, Except.mapError_eq_ok_iff.mp h⟩

theorem exists_of_deeper {α : Type} {o : Outcome α} {f : α → Value} (h : deeper (f <$> o) = .ok v) :
    ∃ a, f a = v := by
  obtain ⟨a, -, rfl⟩ := Except.map_eq_ok_iff.mp (Except.mapError_eq_ok_iff.mp h)
  exact ⟨a, rfl⟩

theorem keysDistinct_of_timestampOf {s : String} (h : timestampOf s = .ok v) :
    v.KeysDistinct := by
  rw [timestampOf.eq_def] at h
  split at h
  · cases h
  · obtain ⟨d, -, rfl⟩ := Except.map_eq_ok_iff.mp (Except.mapError_eq_ok_iff.mp h)
    trivial
  · split at h
    · cases h
    · obtain ⟨t, -, rfl⟩ := Except.map_eq_ok_iff.mp (Except.mapError_eq_ok_iff.mp h)
      trivial

theorem keysDistinct_of_valueAt {fuel : Nat} {n : Node} (h : valueAt fuel n = .ok v) :
    v.KeysDistinct := by
  cases fuel with
  | zero => cases h
  | succ fuel =>
    rw [valueAt.eq_def] at h
    dsimp only at h
    cases tag : n.tag <;> simp only [tag] at h
    case mapping =>
      obtain ⟨es, rfl⟩ := exists_of_deeper h
      exact Mapping.distinct_ofEntries es
    case sequence =>
      split at h
      · obtain ⟨xs, rfl⟩ := exists_of_deeper h
        trivial
      · cases h
    case set | orderedPairs | pairs =>
      obtain ⟨_, rfl⟩ := exists_of_deeper h
      trivial
    case merge | default | unknown => cases h
    case timestamp =>
      obtain ⟨s, read⟩ := exists_of_ofScalar h
      exact keysDistinct_of_timestampOf read
    case null | string =>
      obtain ⟨s, read⟩ := exists_of_ofScalar h
      obtain rfl := Except.ok.inj read
      trivial
    case truth | integer | number | binary =>
      obtain ⟨s, read⟩ := exists_of_ofScalar h
      obtain ⟨_, -, rfl⟩ := Except.map_eq_ok_iff.mp read
      trivial

end Node

/-- A YAML text gives every key of a mapping once. -/
theorem keysDistinct_of_read {s : String} (h : read s = .ok v) : v.KeysDistinct := by
  obtain ⟨tokens, -, h⟩ := Except.bind_eq_ok_iff.mp h
  obtain ⟨node?, -, h⟩ := Except.bind_eq_ok_iff.mp h
  split at h
  · obtain rfl := Except.ok.inj h
    trivial
  · exact Node.keysDistinct_of_valueAt (Except.mapError_eq_ok_iff.mp h)

end Yaml

/-! ## Files -/

namespace Loader

variable {m : Mapping} {p : Path} {h : Host}

theorem distinct_anchorPath (d : m.Distinct) (p : Path) : (anchorPath p m).Distinct := by
  rw [anchorPath.eq_def]
  split
  · dsimp only
    split
    · exact d
    · exact d.insert _ _
  · exact d

/-- A file is read with keys that differ, whatever is repeated in it. -/
theorem keysDistinct_of_parse {f : Format} {s : String} {v : Value} (read : parse p f s = .ok v) :
    v.KeysDistinct := by
  cases f with
  | json =>
    simp only [parse] at read
    split at read
    · next w found =>
      obtain rfl := Except.ok.inj read
      exact Json.keysDistinct_of_read found
    · cases read
    · cases read
  | yaml =>
    simp only [parse] at read
    split at read
    · next w found =>
      obtain rfl := Except.ok.inj read
      exact Yaml.keysDistinct_of_read found
    · cases read
    · cases read

theorem distinct_of_rawOptions (read : rawOptions h p = .ok m) : m.Distinct := by
  rw [rawOptions] at read
  split at read
  · cases read
  · obtain ⟨s, -, read⟩ := Except.bind_eq_ok_iff.mp read
    obtain ⟨v, parsed, read⟩ := Except.bind_eq_ok_iff.mp read
    obtain ⟨m', mapping, read⟩ := Except.bind_eq_ok_iff.mp read
    obtain rfl := Except.ok.inj read
    have keys := keysDistinct_of_parse parsed
    refine distinct_anchorPath ?_ p
    rw [mappingOf.eq_def] at mapping
    split at mapping
    · obtain rfl := Except.ok.inj mapping
      exact Mapping.distinct_nil
    · obtain rfl := Except.ok.inj mapping
      exact keys
    · cases mapping

/-- **What the chosen file gives** has every key once; without a file nothing is given. -/
theorem distinct_of_fileValues {file? : Option Path} (read : fileValues h file? = .ok m) :
    m.Distinct := by
  cases file? with
  | none =>
    rw [fileValues] at read
    obtain rfl := Except.ok.inj read
    exact Mapping.distinct_nil
  | some p =>
    rw [fileValues] at read
    exact distinct_of_rawOptions read

end Loader

end CauseTrail
