import CauseTrail.Json.Printer
import CauseTrail.Json.Reader
import CauseTrail.Proofs.Text.Digits
import CauseTrail.Refusal

/-!
# Texts between quotes

A character is written as itself, as a letter behind a backslash, as the four digits of its number,
or as the digits of two surrogates, which on a line of ASCII more characters are than elsewhere. The
reader tells the cases apart by their first characters, and takes in one character at each step.

## Main results

* `Json.readText_escapeChar`: what is written for a character is read as that character
* `Json.readText_writeText`: a text between quotes is read back
-/

namespace CauseTrail.Json

/-! ## The four digits of a number -/

theorem hex4?_hexDigits {n : Nat} (h : n < 0x10000) (more : List Char) :
    hex4? (Text.hexDigits 4 n ++ more) = some (n, more) := by
  have digit (m : Nat) : Text.hexValue? (Text.hexDigit (m % 16)) = some (m % 16) :=
    Text.hexValue?_hexDigit _ (Nat.mod_lt _ (by decide))
  have whole : ((n / 16 / 16 / 16 % 16 * 16 + n / 16 / 16 % 16) * 16 + n / 16 % 16) * 16 +
      n % 16 = n := by omega
  simp [Text.hexDigits, hex4?, digit, whole]

/-- The number of a character is no surrogate. -/
theorem toNat_ne_surrogate (c : Char) :
    c.toNat < 0xd800 ∨ 0xdfff < c.toNat ∧ c.toNat < 0x110000 := by
  have valid := c.valid
  have number : c.val.toNat = c.toNat := rfl
  simp only [UInt32.isValidChar, Nat.isValidChar, number] at valid
  omega

/-! ## One character -/

variable {start acc more : List Char} {c : Char} {fuel : Nat}

/-- A letter behind a backslash stands for the character it was written for. -/
theorem simpleEscape?_of_escapeLetter? {e : Char} (h : escapeLetter? c = some e) :
    simpleEscape? e = some c ∧ e ≠ 'u' := by
  unfold escapeLetter? at h
  split_ifs at h
  all_goals
    subst_vars
    obtain rfl := Option.some.inj h
    decide

theorem readText_letter {e : Char} (h : escapeLetter? c = some e) :
    readText start (fuel + 1) acc ('\\' :: e :: more) = readText start fuel (c :: acc) more := by
  obtain ⟨letter, notNumber⟩ := simpleEscape?_of_escapeLetter? h
  simp [readText, letter]

/-- A number that is no surrogate stands for its character. -/
theorem readText_unit (h : c.toNat < 0x10000) (hm : more ≠ []) :
    readText start (fuel + 1) acc ('\\' :: 'u' :: (Text.hexDigits 4 c.toNat ++ more)) =
      readText start fuel (c :: acc) more := by
  have digits := hex4?_hexDigits h more
  have valid : c.toNat < 0xd800 ∨ 0xdfff < c.toNat := by
    have := toNat_ne_surrogate c
    omega
  obtain ⟨d, ds, rfl⟩ := List.exists_cons_of_ne_nil hm
  simp [readText, digits, valid, Char.ofNat_toNat]

/-- Two surrogates are read together. -/
theorem readText_surrogates {high low : Nat} (hh : 0xd800 ≤ high ∧ high < 0xdc00)
    (hl : 0xdc00 ≤ low ∧ low ≤ 0xdfff) :
    readText start (fuel + 1) acc ('\\' :: 'u' :: (Text.hexDigits 4 high ++
        '\\' :: 'u' :: (Text.hexDigits 4 low ++ more))) =
      readText start fuel (joinSurrogates high low :: acc) more := by
  have first := hex4?_hexDigits (n := high) (by omega)
    ('\\' :: 'u' :: (Text.hexDigits 4 low ++ more))
  have second := hex4?_hexDigits (n := low) (by omega) more
  have surrogate : ¬(high < 0xd800 ∨ 0xdfff < high) := by omega
  have notLow : ¬0xdc00 ≤ high := by omega
  simp only [readText, first, if_neg surrogate, if_neg notLow, lowSurrogate?, second, if_pos hl]

/-- The two surrogates of a character make that character. -/
theorem joinSurrogates_eq (h : 0x10000 ≤ c.toNat) :
    joinSurrogates (0xd800 + (c.toNat - 0x10000) / 0x400) (0xdc00 + (c.toNat - 0x10000) % 0x400) =
      c := by
  have number : 0x10000 + (0xd800 + (c.toNat - 0x10000) / 0x400 - 0xd800) * 0x400 +
      (0xdc00 + (c.toNat - 0x10000) % 0x400 - 0xdc00) = c.toNat := by omega
  rw [joinSurrogates, number, Char.ofNat_toNat]

/-- A character beyond four digits is read back from two halves. -/
theorem readText_pair (h : 0x10000 ≤ c.toNat) :
    readText start (fuel + 1) acc
        ('\\' :: 'u' :: (Text.hexDigits 4 (0xd800 + (c.toNat - 0x10000) / 0x400) ++
          '\\' :: 'u' :: (Text.hexDigits 4 (0xdc00 + (c.toNat - 0x10000) % 0x400) ++ more))) =
      readText start fuel (c :: acc) more := by
  have valid := toNat_ne_surrogate c
  rw [readText_surrogates (by omega) (by omega), joinSurrogates_eq h]

/-- **What is written for a character** is read as that character, in one step. -/
theorem readText_escapeChar (asciiOnly : Bool) (c : Char) (hm : more ≠ []) :
    readText start (fuel + 1) acc (escapeChar asciiOnly c ++ more) =
      readText start fuel (c :: acc) more := by
  cases letter : escapeLetter? c with
  | some e =>
    simp only [escapeChar, letter]
    exact readText_letter letter
  | none =>
    by_cases beyond : c.toNat < 0x20 ∨ (asciiOnly ∧ 0x7e < c.toNat)
    · simp only [escapeChar, letter, beyond, if_true, numberEscape]
      rcases Nat.lt_or_ge c.toNat 0x10000 with small | large
      · rw [if_pos small]
        exact readText_unit small hm
      · rw [if_neg (Nat.not_lt.mpr large)]
        simpa using readText_pair large
    · -- a character that stands for itself is neither of the two that the reader looks for
      obtain ⟨d, ds, rfl⟩ := List.exists_cons_of_ne_nil hm
      have notQuote : c ≠ '"' := by
        rintro rfl
        cases letter
      have notBackslash : c ≠ '\\' := by
        rintro rfl
        cases letter
      have notControl : ¬c.toNat < 0x20 := fun control => beyond (.inl control)
      have itself : escapeChar asciiOnly c = [c] := by
        simp only [escapeChar, letter, if_neg beyond]
      simp [itself, readText, notBackslash, notControl]

theorem escapeChar_ne_nil (asciiOnly : Bool) (c : Char) : escapeChar asciiOnly c ≠ [] := by
  unfold escapeChar
  split
  · simp
  · split
    · unfold numberEscape
      split <;> simp
    · simp

/-! ## A whole text -/

/-- A text is read up to the quote that closes it. -/
theorem readText_flatMap {asciiOnly : Bool} (cs : List Char)
    (h : (cs.flatMap (escapeChar asciiOnly)).length < fuel) :
    readText start fuel acc (cs.flatMap (escapeChar asciiOnly) ++ '"' :: more) =
      .ok (acc.reverse ++ cs, more) := by
  -- Induction on the characters: each takes one step of the reader and is written as one character
  -- or more, so the fuel lasts.
  induction cs generalizing fuel acc with
  | nil =>
    obtain ⟨fuel, rfl⟩ : ∃ n, fuel = n + 1 := ⟨fuel - 1, by simp at h; omega⟩
    simp [readText]
  | cons c cs ih =>
    have := List.length_pos_iff.mpr (escapeChar_ne_nil asciiOnly c)
    rw [List.flatMap_cons, List.length_append] at h
    obtain ⟨fuel, rfl⟩ : ∃ n, fuel = n + 1 := ⟨fuel - 1, by omega⟩
    rw [List.flatMap_cons, List.append_assoc, readText_escapeChar asciiOnly c (by simp),
      ih (by omega)]
    simp

/-- **A text between quotes** is read back, behind the quote that opens it. -/
theorem readText_writeText (asciiOnly : Bool) (s : String) (start more : List Char) :
    ∃ body, writeText asciiOnly s ++ more = '"' :: body ∧
      readText start (body.length + 1) [] body = .ok (s.toList, more) := by
  refine ⟨s.toList.flatMap (escapeChar asciiOnly) ++ '"' :: more, by simp [writeText], ?_⟩
  have size : (s.toList.flatMap (escapeChar asciiOnly)).length <
      (s.toList.flatMap (escapeChar asciiOnly) ++ '"' :: more).length + 1 := by
    rw [List.length_append]
    omega
  exact readText_flatMap s.toList size

end CauseTrail.Json
