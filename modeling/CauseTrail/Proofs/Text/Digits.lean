import CauseTrail.Calendar.Iso
import CauseTrail.Text.Numeral
import Mathlib

/-!
# Numbers written and read in digits

A number is written in as many decimal or hexadecimal digits as are asked for, and each reader of
digits takes them in and leaves what follows.

## Main results

* `Timestamp.digits?_padDigits`: decimal digits of a known count
* `Text.digits?_hexDigits`: hexadecimal digits as a numeral of the base sixteen
-/

namespace CauseTrail

/-! ## Decimal digits -/

namespace Text

theorem asciiDigit?_of_isDigit {c : Char} (h : c.isDigit = true) :
    asciiDigit? c = some (c.toNat - '0'.toNat) := by
  have bounds : '0' ≤ c ∧ c ≤ '9' := by
    simpa [Char.isDigit, Char.le_def, UInt32.le_iff_toNat_le] using h
  rw [asciiDigit?, if_pos bounds]

/-- A digit is none of the characters that are no digits. -/
theorem ne_of_isDigit {c d : Char} (hc : c.isDigit = true) (hd : d.isDigit = false) : c ≠ d := by
  rintro rfl
  rw [hc] at hd
  cases hd

end Text

section Padded

variable {width n : Nat}

theorem toList_padDigits (width n : Nat) :
    (padDigits width n).toList =
      List.replicate (width - (Nat.toDigits 10 n).length) '0' ++ Nat.toDigits 10 n := by
  have digits : (toString n).toList = Nat.toDigits 10 n := Nat.toList_repr
  rw [padDigits, String.toList_append, String.toList_ofList, digits, ← digits,
    String.length_toList]

theorem isDigit_of_mem_padDigits {c : Char} (h : c ∈ (padDigits width n).toList) :
    c.isDigit = true := by
  rw [toList_padDigits, List.mem_append] at h
  rcases h with h | h
  · rw [List.eq_of_mem_replicate h]
    rfl
  · exact Nat.isDigit_of_mem_toDigits (by decide) (by decide) h

theorem length_padDigits (hw : 0 < width) (h : n < 10 ^ width) :
    (padDigits width n).toList.length = width := by
  have := (Nat.length_toDigits_le_iff (b := 10) (by decide) hw).mpr h
  rw [toList_padDigits, List.length_append, List.length_replicate]
  omega

theorem ofDigitChars_padDigits (width n : Nat) :
    Nat.ofDigitChars 10 (padDigits width n).toList 0 = n := by
  rw [toList_padDigits, Nat.ofDigitChars_append, Nat.ofDigitChars_replicate_zero, Nat.mul_zero,
    Nat.ofDigitChars_ten_toDigits]

/-- Two digits are two characters. -/
theorem exists_padDigits_two (h : n < 100) :
    ∃ a b : Char, (padDigits 2 n).toList = [a, b] ∧ a.isDigit = true ∧ b.isDigit = true := by
  have count : (padDigits 2 n).toList.length = 2 := length_padDigits (by decide) h
  obtain ⟨a, b, eq⟩ := List.length_eq_two.mp count
  refine ⟨a, b, eq, ?_, ?_⟩ <;>
  · have inside (c : Char) (h : c ∈ [a, b]) : c.isDigit = true :=
      isDigit_of_mem_padDigits (eq ▸ h)
    exact inside _ (by simp)

end Padded

namespace Timestamp

/-- Digits are read up to their count. -/
theorem digits?_append {ds : List Char} (h : ∀ c ∈ ds, c.isDigit = true) (value : Nat)
    (rest : List Char) :
    digits? ds.length value (ds ++ rest) = some (Nat.ofDigitChars 10 ds value, rest) := by
  induction ds generalizing value with
  | nil => simp [digits?]
  | cons c ds ih =>
    have head := Text.asciiDigit?_of_isDigit (h c (by simp))
    have tail := ih (fun c hc => h c (by simp [hc])) (10 * value + (c.toNat - '0'.toNat))
    simpa [digits?, head, Nat.ofDigitChars_cons] using tail

/-- **Decimal digits** written to a width are read back from the front of a text. -/
theorem digits?_padDigits (width : Nat) {n : Nat} (hw : 0 < width) (h : n < 10 ^ width)
    (rest : List Char) :
    digits? width 0 ((padDigits width n).toList ++ rest) = some (n, rest) := by
  have count := length_padDigits hw h
  have all (c : Char) (hc : c ∈ (padDigits width n).toList) : c.isDigit = true :=
    isDigit_of_mem_padDigits hc
  have taken := digits?_append all 0 rest
  rwa [count, ofDigitChars_padDigits] at taken

end Timestamp

/-! ## Hexadecimal digits -/

namespace Text

/-- What holds of the sixteen digits holds of all that are written. -/
theorem forall_mem_hexDigits {p : Char → Prop} (h : ∀ d < 16, p (hexDigit d)) (width n : Nat) :
    ∀ c ∈ hexDigits width n, p c := by
  induction width generalizing n with
  | zero => simp [hexDigits]
  | succ width ih =>
    intro c hc
    rw [hexDigits, List.mem_append, List.mem_singleton] at hc
    rcases hc with hc | rfl
    · exact ih _ c hc
    · exact h _ (Nat.mod_lt _ (by decide))

@[simp] theorem length_hexDigits (width n : Nat) : (hexDigits width n).length = width := by
  induction width generalizing n with
  | zero => rfl
  | succ width ih => simp [hexDigits, ih]

theorem hexValue?_hexDigit : ∀ d < 16, hexValue? (hexDigit d) = some d := by decide

theorem digitIn?_hexDigit : ∀ d < 16, digitIn? 16 (hexDigit d) = some d := by decide

theorem hexDigit_ne_underscore : ∀ d < 16, hexDigit d ≠ '_' := by decide

/-- Behind characters that make a number the reading of digits goes on from that number. -/
theorem digits?_append {base value result : Nat} {needed : Bool} {cs : List Char}
    (h : digits? base value needed cs = some result) (more : List Char) :
    digits? base value needed (cs ++ more) = digits? base result false more := by
  induction cs generalizing value needed with
  | nil =>
    cases needed with
    | true => cases h
    | false => cases h; rfl
  | cons c cs ih =>
    rw [digits?] at h
    rw [List.cons_append, digits?]
    by_cases underscore : c = '_'
    · -- an underscore stands between digits only
      cases needed with
      | true => simp [underscore] at h
      | false => simpa [underscore] using ih (by simpa [underscore] using h)
    · cases digit : digitIn? base c with
      | none => simp [underscore, digit] at h
      | some d => simpa [underscore, digit] using ih (by simpa [underscore, digit] using h)

/-- **Hexadecimal digits** are read as the number that was written. -/
theorem digits?_hexDigits {width n : Nat} {needed : Bool} (hw : needed = true → 0 < width)
    (h : n < 16 ^ width) : digits? 16 0 needed (hexDigits width n) = some n := by
  induction width generalizing n needed with
  | zero =>
    obtain rfl : n = 0 := by simpa using h
    cases needed with
    | true => exact absurd (hw rfl) (by decide)
    | false => rfl
  | succ width ih =>
    have last : n % 16 < 16 := Nat.mod_lt _ (by decide)
    have joined : 16 * (n / 16) + n % 16 = n := Nat.div_add_mod n 16
    have step (value : Nat) (needed : Bool) :
        digits? 16 value needed [hexDigit (n % 16)] = some (16 * value + n % 16) := by
      simp [digits?, hexDigit_ne_underscore _ last, digitIn?_hexDigit _ last]
    rcases Nat.eq_zero_or_pos width with rfl | hpos
    · -- the one digit that is needed
      have small : n % 16 = n := Nat.mod_eq_of_lt (by simpa using h)
      rw [hexDigits, hexDigits, List.nil_append, step, Nat.mul_zero, Nat.zero_add, small]
    · have front : digits? 16 0 needed (hexDigits width (n / 16)) = some (n / 16) :=
        ih (fun _ => hpos) (by rw [Nat.pow_succ] at h; omega)
      rw [hexDigits, digits?_append front, step, joined]

end Text

end CauseTrail
