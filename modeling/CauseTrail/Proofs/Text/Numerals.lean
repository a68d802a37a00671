import CauseTrail.Proofs.Text.Digits
import CauseTrail.Proofs.Text.Trimming

/-!
# Which texts are hexadecimal numerals

A row of digits has at least one digit, and single underscores between digits only. A hexadecimal
numeral is a row that may have a zero and the letter `x` before it, with an underscore behind the
letter or not, a plus sign before all that, and blanks around the whole. The reader of integers
accepts these texts and no others, if there is no minus sign, and what it gives is below the power
of sixteen of as many digits as there are characters.

## Main definitions

* `Text.Row`: the rows of digits of a base
* `Text.Hexadecimal`: the numerals of base sixteen without sign and blanks
* `Text.Spelled`: the numerals of base sixteen

## Main results

* `Text.digits?_eq_some_iff`: the reader of digits accepts the rows
* `Text.integer?_eq_some_iff`: the reader of integers accepts the numerals
* `Text.Spelled.number_lt`: a numeral is no larger than its characters allow
-/

namespace CauseTrail.Text

/-- The digits of a row of characters, in which single underscores may stand between digits. -/
inductive Row (base : Nat) : List Char → List Nat → Prop where
  | last {c : Char} {d : Nat} (digit : digitIn? base c = some d) : Row base [c] [d]
  | next {c : Char} {d : Nat} {cs : List Char} {ds : List Nat} (digit : digitIn? base c = some d)
      (more : Row base cs ds) : Row base (c :: cs) (d :: ds)
  | underscore {c : Char} {d : Nat} {cs : List Char} {ds : List Nat}
      (digit : digitIn? base c = some d) (more : Row base cs ds) :
      Row base (c :: '_' :: cs) (d :: ds)

/-- A letter that tells base sixteen, behind a zero of any script. -/
structure Lead (zero x : Char) : Prop where
  zero : digitIn? 16 zero = some 0
  letter : x.toLower = 'x'

/-- The digits of a numeral of base sixteen without sign and blanks. -/
inductive Hexadecimal : List Char → List Nat → Prop where
  | bare {cs : List Char} {ds : List Nat} (row : Row 16 cs ds) : Hexadecimal cs ds
  | lettered {zero x : Char} {cs : List Char} {ds : List Nat} (lead : Lead zero x)
      (row : Row 16 cs ds) : Hexadecimal (zero :: x :: cs) ds
  | underscored {zero x : Char} {cs : List Char} {ds : List Nat} (lead : Lead zero x)
      (row : Row 16 cs ds) : Hexadecimal (zero :: x :: '_' :: cs) ds

/-- The digits of a numeral of base sixteen, which may have a plus sign and blanks around it. -/
inductive Spelled : List Char → List Nat → Prop where
  | mk {front sign body back : List Char} {ds : List Nat}
      (before : ∀ c ∈ front, isSpace c = true) (plus : sign = [] ∨ sign = ['+'])
      (digits : Hexadecimal body ds) (behind : ∀ c ∈ back, isSpace c = true) :
      Spelled (front ++ (sign ++ body) ++ back) ds

/-- The number that digits make, the first one counting most. -/
def number (base : Nat) (ds : List Nat) : Nat := Nat.ofDigits base ds.reverse

variable {base value n d : Nat} {c : Char} {cs : List Char} {ds : List Nat}

/-! ## Digits -/

theorem lt_of_digitIn? (digit : digitIn? base c = some d) : d < base := by
  have small := (Option.filter_eq_some_iff.mp digit).2
  simpa using small

theorem digitIn?_underscore : digitIn? base '_' = none := by
  have none : (if '_'.toNat < 0x80 then hexValue? '_' else digitValue? '_') = none := by decide
  rw [digitIn?, none, Option.filter_none]

/-- The characters that count as blanks, as numbers. -/
theorem toNat_mem_of_isSpace (space : isSpace c = true) :
    c.toNat ∈ [9, 10, 11, 12, 13, 32, 0x85, 0xa0, 0x1680, 0x2028, 0x2029, 0x202f, 0x205f,
      0x3000] ++ List.range' 0x2000 11 := by
  simp only [isSpace, Bool.or_eq_true, Bool.and_eq_true, decide_eq_true_eq,
    List.contains_iff_mem] at space
  rcases space with ((rfl | ⟨low, high⟩) | there) | ⟨low, high⟩
  · decide
  · have low : 9 ≤ c.toNat := low
    have high : c.toNat ≤ 13 := high
    simp only [List.cons_append, List.mem_cons]
    omega
  · simp only [List.mem_append]
    simp only [List.mem_cons, List.not_mem_nil, or_false] at there ⊢
    tauto
  · rw [List.mem_append, List.mem_range'_1]
    omega

theorem not_isSpace_of_digitIn? (digit : digitIn? base c = some d) : isSpace c = false := by
  have none : ∀ n ∈ [9, 10, 11, 12, 13, 32, 0x85, 0xa0, 0x1680, 0x2028, 0x2029, 0x202f, 0x205f,
      0x3000] ++ List.range' 0x2000 11,
      (n < 0x80 → n < 0x30) ∧ zeros.find? (fun z => decide (z ≤ n ∧ n < z + 10)) = none := by
    decide
  by_contra space
  rw [Bool.not_eq_false] at space
  obtain ⟨ascii, other⟩ := none _ (toNat_mem_of_isSpace space)
  obtain ⟨digit, -⟩ := Option.filter_eq_some_iff.mp digit
  split at digit
  · next low =>
    have small := ascii low
    have noDigit : hexValue? c = Option.none := by
      have first : ¬ '0' ≤ c := fun h => absurd (show 0x30 ≤ c.toNat from h) (by omega)
      have second : ¬ 'a' ≤ c := fun h => absurd (show 0x61 ≤ c.toNat from h) (by omega)
      have third : ¬ 'A' ≤ c := fun h => absurd (show 0x41 ≤ c.toNat from h) (by omega)
      simp [hexValue?, first, second, third]
    rw [noDigit] at digit
    cases digit
  · rw [digitValue?, other] at digit
    cases digit

/-! ## Rows -/

namespace Row

theorem exists_cons (row : Row base cs ds) :
    ∃ c rest d, cs = c :: rest ∧ digitIn? base c = some d := by
  cases row with
  | last digit | next digit | underscore digit => exact ⟨_, _, _, rfl, digit⟩

theorem exists_concat (row : Row base cs ds) :
    ∃ c d, cs.getLast? = some c ∧ digitIn? base c = some d := by
  have behind {a : Char} {rest : List Char} (h : ∃ c d, rest.getLast? = some c ∧
      digitIn? base c = some d) : ∃ c d, (a :: rest).getLast? = some c ∧
      digitIn? base c = some d := by
    obtain ⟨c, d, last, digit⟩ := h
    exact ⟨c, d, by rw [List.getLast?_cons, last]; rfl, digit⟩
  induction row with
  | last digit => exact ⟨_, _, rfl, digit⟩
  | next _ _ ih => exact behind ih
  | underscore _ _ ih => exact behind (behind ih)

theorem length_le (row : Row base cs ds) : ds.length ≤ cs.length := by
  induction row with
  | last => exact le_rfl
  | next _ _ ih => exact Nat.succ_le_succ ih
  | underscore _ _ ih => exact Nat.succ_le_succ (Nat.le_succ_of_le ih)

theorem lt_of_mem (row : Row base cs ds) : ∀ d ∈ ds, d < base := by
  induction row with
  | last digit => exact List.forall_mem_singleton.mpr (lt_of_digitIn? digit)
  | next digit _ ih | underscore digit _ ih =>
    exact List.forall_mem_cons.mpr ⟨lt_of_digitIn? digit, ih⟩

end Row

/-! ## The reader of digits -/

/-- Behind a digit a text ends, or goes on with a digit or with an underscore and a digit. -/
theorem digits?_false_eq_some_iff : digits? base value false cs = some n ↔
    (cs = [] ∧ value = n) ∨ digits? base value true cs = some n ∨
      ∃ rest, cs = '_' :: rest ∧ digits? base value true rest = some n := by
  cases cs with
  | nil => simp [digits?]
  | cons c rest =>
    by_cases underscore : c = '_'
    · simp [digits?, underscore]
    · simp [digits?, underscore]

/-- A row begins with a digit, which counts with the value there was. -/
theorem digits?_cons_eq_some_iff : digits? base value true (c :: cs) = some n ↔
    ∃ d, digitIn? base c = some d ∧ digits? base (base * value + d) false cs = some n := by
  by_cases underscore : c = '_'
  · simp [digits?, underscore, digitIn?_underscore]
  · simp [digits?, underscore, Option.bind_eq_some_iff]

theorem number_cons (base d : Nat) (ds : List Nat) :
    number base (d :: ds) = base ^ ds.length * d + number base ds := by
  rw [number, List.reverse_cons, Nat.ofDigits_append, Nat.ofDigits_singleton, List.length_reverse,
    number, Nat.add_comm]

/-- **The reader of digits** accepts rows, and reads them behind the value there was. -/
theorem digits?_eq_some_iff : digits? base value true cs = some n ↔
    ∃ ds, Row base cs ds ∧ base ^ ds.length * value + number base ds = n := by
  have shift (d value : Nat) (ds : List Nat) :
      base ^ ds.length * (base * value + d) + number base ds =
        base ^ (d :: ds).length * value + number base (d :: ds) := by
    rw [number_cons, List.length_cons]
    ring
  constructor
  · -- an underscore takes two characters at once, so the induction is on the length
    intro read
    induction count : cs.length using Nat.strong_induction_on generalizing cs value with
    | _ k ih =>
      cases cs with
      | nil => cases read
      | cons c cs =>
        obtain ⟨d, digit, read⟩ := digits?_cons_eq_some_iff.mp read
        rw [List.length_cons] at count
        rcases digits?_false_eq_some_iff.mp read with ⟨rfl, rfl⟩ | read | ⟨rest, rfl, read⟩
        · exact ⟨[d], .last digit, by simp [number]⟩
        · obtain ⟨ds, row, rfl⟩ := ih cs.length (by omega) read rfl
          exact ⟨d :: ds, .next digit row, (shift d value ds).symm⟩
        · rw [List.length_cons] at count
          obtain ⟨ds, row, rfl⟩ := ih rest.length (by omega) read rfl
          exact ⟨d :: ds, .underscore digit row, (shift d value ds).symm⟩
  · rintro ⟨ds, row, rfl⟩
    induction row generalizing value with
    | last digit =>
      rw [digits?_cons_eq_some_iff]
      exact ⟨_, digit, by simp [digits?, number]⟩
    | next digit more ih =>
      rw [digits?_cons_eq_some_iff]
      refine ⟨_, digit, digits?_false_eq_some_iff.mpr (.inr (.inl ?_))⟩
      rw [ih, shift]
    | underscore digit more ih =>
      rw [digits?_cons_eq_some_iff]
      refine ⟨_, digit, digits?_false_eq_some_iff.mpr (.inr (.inr ⟨_, rfl, ?_⟩))⟩
      rw [ih, shift]

/-! ## Numerals without sign -/

theorem eq_of_toLower_eq {x : Char} (letter : x.toLower = 'x') : x = 'x' ∨ x = 'X' := by
  rw [Char.toLower] at letter
  split at letter
  · right
    have code : (x.toNat + 32) % 4294967296 = 120 := by
      simpa using congrArg (fun c => c.val.toNat) letter
    have small : x.toNat < 4294967296 := x.val.toNat_lt
    have capital : x.toNat = 'X'.toNat := show x.toNat = 88 by omega
    exact Char.toNat_inj.mp capital
  · exact .inl letter

theorem digitIn?_letter {x : Char} (letter : x.toLower = 'x') : digitIn? 16 x = none := by
  rcases eq_of_toLower_eq letter with rfl | rfl <;> decide

/-- Behind a zero and the letter of the base, one underscore is passed over. -/
theorem natural?_of_lead {zero x : Char} (lead : Lead zero x) :
    natural? 16 (zero :: x :: cs) = some n ↔
      digits? 16 0 true cs = some n ∨ ∃ rest, cs = '_' :: rest ∧
        digits? 16 0 true rest = some n := by
  have named : digitIn? 16 zero = some 0 ∧ baseLetter? 16 = some x.toLower :=
    ⟨lead.zero, by rw [lead.letter]; rfl⟩
  by_cases marked : ∃ rest, cs = '_' :: rest
  · obtain ⟨rest, rfl⟩ := marked
    have none : digits? 16 0 true ('_' :: rest) = none := by simp [digits?]
    simp [natural?, named, none]
  · have unmarked : ∀ rest, cs ≠ '_' :: rest := not_exists.mp marked
    simp [natural?, named, unmarked]

/-- Any other numeral is a row of digits. -/
theorem natural?_of_bare (bare : ∀ zero x rest, cs = zero :: x :: rest → ¬ Lead zero x) :
    natural? 16 cs = digits? 16 0 true cs := by
  rw [natural?.eq_def]
  split
  · next zero x rest =>
    exact if_neg fun named =>
      bare zero x rest rfl ⟨named.1, (Option.some.inj named.2).symm⟩
  · rfl

/-- **The reader of numerals** accepts those of base sixteen. -/
theorem natural?_eq_some_iff :
    natural? 16 cs = some n ↔ ∃ ds, Hexadecimal cs ds ∧ number 16 ds = n := by
  have rows (cs : List Char) : digits? 16 0 true cs = some n ↔
      ∃ ds, Row 16 cs ds ∧ number 16 ds = n := by
    simp [digits?_eq_some_iff]
  by_cases leads : ∃ zero x rest, cs = zero :: x :: rest ∧ Lead zero x
  · obtain ⟨zero, x, rest, rfl, lead⟩ := leads
    rw [natural?_of_lead lead, rows]
    constructor
    · rintro (⟨ds, row, same⟩ | ⟨rest', rfl, read⟩)
      · exact ⟨ds, .lettered lead row, same⟩
      · obtain ⟨ds, row, same⟩ := (rows rest').mp read
        exact ⟨ds, .underscored lead row, same⟩
    · rintro ⟨ds, digits, same⟩
      cases digits with
      | bare row =>
        -- the letter is no digit, so that no row begins in this way
        cases row with
        | next _ more =>
          obtain ⟨c, rest', d, begins, digit⟩ := more.exists_cons
          obtain ⟨rfl, -⟩ := List.cons.inj begins
          rw [digitIn?_letter lead.letter] at digit
          cases digit
        | underscore => exact absurd lead.letter (by decide)
      | lettered _ row => exact .inl ⟨ds, row, same⟩
      | underscored _ row => exact .inr ⟨_, rfl, (rows _).mpr ⟨ds, row, same⟩⟩
  · have bare : ∀ zero x rest, cs = zero :: x :: rest → ¬ Lead zero x :=
      fun zero x rest same lead => leads ⟨zero, x, rest, same, lead⟩
    rw [natural?_of_bare bare, rows]
    constructor
    · rintro ⟨ds, row, same⟩
      exact ⟨ds, .bare row, same⟩
    · rintro ⟨ds, digits, same⟩
      cases digits with
      | bare row => exact ⟨ds, row, same⟩
      | lettered lead | underscored lead => exact absurd lead (bare _ _ _ rfl)

/-! ## Blanks and signs -/

namespace Hexadecimal

theorem exists_cons (h : Hexadecimal cs ds) :
    ∃ c rest d, cs = c :: rest ∧ digitIn? 16 c = some d := by
  cases h with
  | bare row => exact row.exists_cons
  | lettered lead | underscored lead => exact ⟨_, _, 0, rfl, lead.zero⟩

theorem exists_concat (h : Hexadecimal cs ds) :
    ∃ c d, cs.getLast? = some c ∧ digitIn? 16 c = some d := by
  cases h with
  | bare row => exact row.exists_concat
  | lettered _ row | underscored _ row =>
    obtain ⟨c, d, last, digit⟩ := row.exists_concat
    exact ⟨c, d, by simp [List.getLast?_cons, last], digit⟩

theorem length_le (h : Hexadecimal cs ds) : ds.length ≤ cs.length := by
  cases h with
  | bare row => exact row.length_le
  | lettered _ row | underscored _ row =>
    have count := row.length_le
    simp only [List.length_cons]
    omega

theorem lt_of_mem (h : Hexadecimal cs ds) : ∀ d ∈ ds, d < 16 := by
  cases h with
  | bare row | lettered _ row | underscored _ row => exact row.lt_of_mem

end Hexadecimal

/-- A numeral without a minus sign is read behind its plus sign, or from its beginning. -/
theorem integer?_of_strip {sign body : List Char} (plus : sign = [] ∨ sign = ['+'])
    (stripped : strip cs = sign ++ body) (unsigned : body.head? ≠ some '+')
    (free : body.head? ≠ some '-') : integer? 16 cs = (natural? 16 body).map Int.ofNat := by
  rw [integer?, stripped]
  rcases plus with rfl | rfl
  · rw [List.nil_append]
    split
    · exact absurd rfl unsigned
    · exact absurd rfl free
    · rfl
  · rfl

/-- **The reader of integers** accepts the numerals of base sixteen, if there is no minus sign. -/
theorem integer?_eq_some_iff {i : Int} (free : '-' ∉ cs) :
    integer? 16 cs = some i ↔ ∃ ds, Spelled cs ds ∧ (number 16 ds : Int) = i := by
  constructor
  · intro read
    obtain ⟨front, back, split, before, behind⟩ := exists_dropWhile_ends isSpace cs
    have free' : '-' ∉ strip cs := by
      intro there
      apply free
      rw [split]
      exact List.mem_append_left _ (List.mem_append_right _ there)
    obtain ⟨sign, body, parts, plus, read⟩ : ∃ sign body, strip cs = sign ++ body ∧
        (sign = [] ∨ sign = ['+']) ∧ (natural? 16 body).map Int.ofNat = some i := by
      rw [integer?] at read
      split at read
      · next body same => exact ⟨['+'], body, same, .inr rfl, read⟩
      · next body same =>
        rw [same] at free'
        exact absurd List.mem_cons_self free'
      · exact ⟨[], strip cs, rfl, .inl rfl, read⟩
    obtain ⟨n, natural, rfl⟩ := Option.map_eq_some_iff.mp read
    obtain ⟨ds, digits, rfl⟩ := natural?_eq_some_iff.mp natural
    have whole : cs = front ++ (sign ++ body) ++ back := by rw [← parts]; exact split
    rw [whole]
    exact ⟨ds, .mk before plus digits behind, rfl⟩
  · rintro ⟨ds, ⟨before, plus, digits, behind⟩, rfl⟩
    next front sign body back =>
    obtain ⟨c, rest, d, rfl, digit⟩ := digits.exists_cons
    obtain ⟨z, e, last, digit'⟩ := digits.exists_concat
    have starts : ∀ a, (sign ++ c :: rest).head? = some a → isSpace a = false := by
      rcases plus with rfl | rfl
      · rintro a ⟨⟩
        exact not_isSpace_of_digitIn? digit
      · rintro a ⟨⟩
        decide
    have stops : ∀ a, (sign ++ c :: rest).getLast? = some a → isSpace a = false := by
      intro a ends
      rw [List.getLast?_append, last, Option.some_or] at ends
      obtain rfl := Option.some.inj ends
      exact not_isSpace_of_digitIn? digit'
    have stripped : strip (front ++ (sign ++ c :: rest) ++ back) = sign ++ c :: rest :=
      dropWhile_ends_eq before behind starts stops
    have other {x : Char} (none : digitIn? 16 x = none) : (c :: rest).head? ≠ some x := by
      rintro ⟨⟩
      rw [none] at digit
      cases digit
    rw [integer?_of_strip plus stripped (other (by decide)) (other (by decide)),
      natural?_eq_some_iff.mpr ⟨ds, digits, rfl⟩]
    rfl

/-- **A numeral** is no larger than its characters allow. -/
theorem Spelled.number_lt (h : Spelled cs ds) : number 16 ds < 16 ^ cs.length := by
  obtain ⟨-, -, digits, -⟩ := h
  next front sign body back =>
  have fewer : ds.length ≤ (front ++ (sign ++ body) ++ back).length := by
    have count := digits.length_le
    simp only [List.length_append]
    omega
  have small : ∀ d ∈ ds.reverse, d < 16 := fun d there =>
    digits.lt_of_mem d (List.mem_reverse.mp there)
  calc number 16 ds < 16 ^ ds.reverse.length :=
        Nat.ofDigits_lt_base_pow_length (by decide) small
    _ = 16 ^ ds.length := by rw [List.length_reverse]
    _ ≤ 16 ^ (front ++ (sign ++ body) ++ back).length := Nat.pow_le_pow_right (by decide) fewer

end CauseTrail.Text
