import CauseTrail.Text.Blank
import Mathlib.Data.List.TakeWhile

/-!
# What trimming leaves

Trimming leaves the one part of a text that has nothing but blanks around it and is not bordered by
a blank itself. A text of blanks alone leaves the empty one. Characters that are no blanks are all
kept, as many times as they occur.

## Main definitions

* `Text.Tight`: a text that is not bordered by a blank
* `Text.Trimmed`: a text without the blanks around it

## Main results

* `Text.dropWhile_ends_eq`: what is left of a text without the characters of any kind around it
* `Text.trimmed_iff`: trimming leaves that part, and there is no other one
* `Text.trim_trim`, `Text.count_trim`: trimming again changes nothing, and no other character is lost
-/

namespace CauseTrail.Text

/-- A text that neither begins nor ends with a blank. -/
structure Tight (cs : List Char) : Prop where
  first : ∀ c, cs.head? = some c → isBlank c = false
  last : ∀ c, cs.getLast? = some c → isBlank c = false

/-- A part of a text with nothing but blanks before and behind it, which borders on no blank of its
own. -/
structure Trimmed (cs part : List Char) : Prop where
  around : ∃ front back, cs = front ++ part ++ back ∧ (∀ c ∈ front, isBlank c = true) ∧
    ∀ c ∈ back, isBlank c = true
  tight : Tight part

variable {cs part : List Char}

/-! ## What is dropped at both ends -/

section Ends

variable {p : Char → Bool} {front back : List Char} {c : Char}

/-- Nothing is dropped but what a test holds of. -/
theorem exists_dropWhile_ends (p : Char → Bool) (cs : List Char) : ∃ front back,
    cs = front ++ ((cs.dropWhile p).reverse.dropWhile p).reverse ++ back ∧
      (∀ c ∈ front, p c = true) ∧ ∀ c ∈ back, p c = true := by
  refine ⟨cs.takeWhile p, ((cs.dropWhile p).reverse.takeWhile p).reverse, ?_, ?_, ?_⟩
  · rw [List.append_assoc, ← List.reverse_append, List.takeWhile_append_dropWhile,
      List.reverse_reverse, List.takeWhile_append_dropWhile]
  · exact fun c there => List.mem_takeWhile_imp there
  · exact fun c there => List.mem_takeWhile_imp (List.mem_reverse.mp there)

theorem not_of_getLast?_dropWhile_ends
    (last : ((cs.dropWhile p).reverse.dropWhile p).reverse.getLast? = some c) : p c = false := by
  rw [List.getLast?_reverse] at last
  have := List.head?_dropWhile_not p (cs.dropWhile p).reverse
  simpa [last] using this

theorem not_of_head?_dropWhile_ends
    (first : ((cs.dropWhile p).reverse.dropWhile p).reverse.head? = some c) : p c = false := by
  -- the first character that is left is the first one behind what is dropped before it
  have begins : (cs.dropWhile p).head? = some c := by
    rw [List.head?_reverse] at first
    rw [← List.getLast?_reverse,
      ← List.takeWhile_append_dropWhile (p := p) (l := (cs.dropWhile p).reverse),
      List.getLast?_append, first, Option.some_or]
  have := List.head?_dropWhile_not p cs
  simpa [begins] using this

/-- A part that the test holds of at neither end is all that is left of it with others around it. -/
theorem dropWhile_ends_eq (before : ∀ c ∈ front, p c = true) (behind : ∀ c ∈ back, p c = true)
    (first : ∀ c, part.head? = some c → p c = false)
    (last : ∀ c, part.getLast? = some c → p c = false) :
    (((front ++ part ++ back).dropWhile p).reverse.dropWhile p).reverse = part := by
  rw [List.append_assoc, List.dropWhile_append_of_pos before]
  cases part with
  | nil =>
    rw [List.nil_append, List.dropWhile_eq_nil_iff.mpr behind]
    rfl
  | cons c part =>
    have starts : p c = false := first c rfl
    have kept : (c :: part).reverse.dropWhile p = (c :: part).reverse := by
      cases ends : (c :: part).reverse with
      | nil => rfl
      | cons z init =>
        have stops : p z = false := last z (by rw [List.getLast?_eq_head?_reverse, ends]; rfl)
        rw [List.dropWhile_cons_of_neg (by simp [stops])]
    have behind' : ∀ c ∈ back.reverse, p c = true := fun c there =>
      behind c (List.mem_reverse.mp there)
    rw [List.cons_append, List.dropWhile_cons_of_neg (by simp [starts]), ← List.cons_append,
      List.reverse_append, List.dropWhile_append_of_pos behind', kept, List.reverse_reverse]

/-- Nothing is dropped where the test holds of nothing. -/
theorem dropWhile_ends_eq_self (free : ∀ c ∈ cs, p c = false) :
    ((cs.dropWhile p).reverse.dropWhile p).reverse = cs := by
  have whole := dropWhile_ends_eq (List.forall_mem_nil _) (List.forall_mem_nil _)
    (fun c first => free c (List.mem_of_mem_head? first))
    (fun c last => free c (List.mem_of_getLast? last))
  rwa [List.nil_append, List.append_nil] at whole

end Ends

/-! ## Both ends -/

/-- **Trimming** leaves the part of a text with blanks around it that is not bordered by a blank,
and no other part is of that kind. -/
theorem trimmed_iff : Trimmed cs part ↔ trim cs = part := by
  constructor
  · rintro ⟨⟨front, back, rfl, blankFront, blankBack⟩, tight⟩
    exact dropWhile_ends_eq blankFront blankBack tight.first tight.last
  · rintro rfl
    exact ⟨exists_dropWhile_ends isBlank cs, ⟨fun c first => not_of_head?_dropWhile_ends first,
      fun c last => not_of_getLast?_dropWhile_ends last⟩⟩

theorem trim_eq_self (tight : Tight cs) : trim cs = cs :=
  trimmed_iff.mp ⟨⟨[], [], by simp, by simp, by simp⟩, tight⟩

theorem tight_trim (cs : List Char) : Tight (trim cs) := (trimmed_iff.mpr rfl).tight

theorem trim_trim (cs : List Char) : trim (trim cs) = trim cs := trim_eq_self (tight_trim cs)

theorem trim_sublist (cs : List Char) : (trim cs).Sublist cs := by
  obtain ⟨⟨front, back, split, -, -⟩, -⟩ := trimmed_iff.mpr (rfl : trim cs = trim cs)
  have inside : trim cs <:+: cs := ⟨front, back, split.symm⟩
  exact inside.sublist

/-- A character that is no blank is kept wherever it stands. -/
theorem count_trim {c : Char} (kept : isBlank c = false) (cs : List Char) :
    (trim cs).count c = cs.count c := by
  obtain ⟨⟨front, back, split, blankFront, blankBack⟩, -⟩ :=
    trimmed_iff.mpr (rfl : trim cs = trim cs)
  have absent {ds : List Char} (blank : ∀ d ∈ ds, isBlank d = true) : ds.count c = 0 := by
    apply List.count_eq_zero_of_not_mem
    intro there
    rw [blank c there] at kept
    cases kept
  have total := congrArg (List.count c) split
  rw [List.count_append, List.count_append, absent blankFront, absent blankBack] at total
  omega

end CauseTrail.Text
