import CauseTrail.Console.Emoji
import Mathlib.Data.List.Infix
import Mathlib.Data.List.ReduceOption

/-!
# Texts with emoji for their codes

A text is made of signs, and is read back from them. What is shown of it differs from what is
written just when one of its codes is that of an emoji: no emoji has a colon, so such a code takes
two of them away, and colons are all that has to be counted. Line ends stay, since there are none
in a code and none in an emoji.

Nothing here depends on which emoji there are.

## Main definitions

* `Emoji.Uncoded`: no code of a text is that of an emoji
* `Emoji.HoldsCode`: the code of an emoji stands in a text

## Main results

* `Emoji.signs_induction`: induction on the signs of a text
* `Emoji.replace_eq_iff`: when a text is shown as it is
* `Emoji.count_newline_replace`: it has as many line ends
-/

namespace CauseTrail.Emoji

variable {cs front rest : Seamed} {name : List Char} {ss : List Sign}

/-- A text without seams. -/
@[simp] theorem reduceOption_map_some (cs : List Char) : (cs.map some).reduceOption = cs := by
  rw [List.reduceOption, List.filterMap_map, Function.comp_def]
  exact List.filterMap_some

/-! ## Signs -/

/-- A name in a code ends at a colon, and there are no gaps in it. -/
theorem exists_of_name? (found : name? cs = some name) :
    (∃ rest, cs = name.map some ++ some ':' :: rest) ∧ ∀ c ∈ name, Text.isGap c = false := by
  induction cs generalizing name with
  | nil => cases found
  | cons c? cs ih =>
    cases c? with
    | none => cases found
    | some c =>
      rw [name?] at found
      split at found
      next colon =>
        obtain rfl := Option.some.inj found
        exact ⟨⟨cs, by rw [colon]; rfl⟩, by simp⟩
      next =>
        split at found
        next => cases found
        next solid =>
          obtain ⟨name, behind, rfl⟩ := Option.map_eq_some_iff.mp found
          obtain ⟨⟨rest, rfl⟩, solids⟩ := ih behind
          refine ⟨⟨rest, rfl⟩, ?_⟩
          rintro b (_ | ⟨_, there⟩)
          · exact Bool.eq_false_iff.mpr solid
          · exact solids b there

theorem signsFrom_skip (k : Nat) (cs : Seamed) : signsFrom k cs = signs (cs.drop k) := by
  induction k generalizing cs with
  | zero => rfl
  | succ k ih =>
    cases cs with
    | nil => rfl
    | cons c? cs => rw [signsFrom, ih, List.drop_succ_cons]

theorem signs_seam (cs : Seamed) : signs (none :: cs) = signs cs := rfl

/-- A code is one sign, and what is behind it is read as a text by itself. -/
theorem signs_code (found : name? (name.map some ++ some ':' :: rest) = some name) :
    signs (some ':' :: (name.map some ++ some ':' :: rest)) = .code name :: signs rest := by
  have behind : (name.map some ++ some ':' :: rest).drop (name.length + 1) = rest := by
    simp [List.drop_append]
  rw [signs, signsFrom, if_pos rfl, found]
  simp only
  rw [signsFrom_skip, behind]

/-- A character is a sign by itself unless it begins a code. -/
theorem signs_char {c : Char} (plain : c = ':' → name? cs = none) :
    signs (some c :: cs) = .char c :: signs cs := by
  rw [signs, signsFrom]
  split
  · next colon => rw [plain colon, signs]
  · rw [signs]

/-- **Induction on the signs** of a text. -/
@[elab_as_elim]
theorem signs_induction {motive : Seamed → Prop} (nil : motive [])
    (seam : ∀ cs, motive cs → motive (none :: cs))
    (code : ∀ name rest, name? (name.map some ++ some ':' :: rest) = some name → motive rest →
      motive (some ':' :: (name.map some ++ some ':' :: rest)))
    (char : ∀ c cs, (c = ':' → name? cs = none) → motive cs → motive (some c :: cs))
    (cs : Seamed) : motive cs := by
  -- a code is one sign of several characters, so the induction is on the length
  induction size : cs.length using Nat.strongRecOn generalizing cs with
  | ind size ih =>
    match cs with
    | [] => exact nil
    | none :: cs => exact seam cs (ih cs.length (by rw [← size]; exact Nat.lt_succ_self _) cs rfl)
    | some c :: cs =>
      have shorter := ih cs.length (by rw [← size]; exact Nat.lt_succ_self _) cs rfl
      cases found : name? cs with
      | none => exact char c cs (fun _ => found) shorter
      | some name =>
        by_cases colon : c = ':'
        · subst colon
          obtain ⟨⟨rest, rfl⟩, -⟩ := exists_of_name? found
          exact code name rest found (ih rest.length (by rw [← size]; simp; omega) rest rfl)
        · exact char c cs (fun same => absurd same colon) shorter

/-- A text is read back from its signs. -/
theorem flatMap_source (cs : Seamed) : (signs cs).flatMap Sign.source = cs.reduceOption := by
  induction cs using signs_induction with
  | nil => rfl
  | seam cs ih => rw [signs_seam, ih, List.reduceOption_cons_of_none]
  | code name rest found ih =>
    rw [signs_code found, List.flatMap_cons, ih, List.reduceOption_cons_of_some,
      List.reduceOption_append, List.reduceOption_cons_of_some]
    simp [Sign.source, List.reduceOption]
  | char c cs plain ih =>
    rw [signs_char plain, List.flatMap_cons, ih, List.reduceOption_cons_of_some]
    rfl

/-- A code stands in the text with its colons, and there are no gaps in it. -/
theorem infix_of_code_mem (there : .code name ∈ signs cs) :
    some ':' :: (name.map some ++ [some ':']) <:+: cs ∧ ∀ c ∈ name, Text.isGap c = false := by
  induction cs using signs_induction with
  | nil => cases there
  | seam cs ih => exact (ih there).imp_left (List.infix_cons ·)
  | code name' rest found ih =>
    rw [signs_code found, List.mem_cons] at there
    rcases there with same | behind
    · obtain rfl := Sign.code.inj same
      refine ⟨⟨[], rest, by simp⟩, (exists_of_name? found).2⟩
    · refine (ih behind).imp_left fun inside => inside.trans ?_
      exact ⟨some ':' :: (name'.map some ++ [some ':']), [], by simp⟩
  | char c cs plain ih =>
    rw [signs_char plain, List.mem_cons] at there
    rcases there with same | behind
    · cases same
    · exact (ih behind).imp_left (List.infix_cons ·)

/-- No code begins in a text without colons. -/
theorem replace_append (plain : some ':' ∉ front) (cs : Seamed) :
    replace (front ++ cs) = front.reduceOption ++ replace cs := by
  induction front with
  | nil => rfl
  | cons c? front ih =>
    rw [List.mem_cons, not_or] at plain
    cases c? with
    | none =>
      rw [List.cons_append, replace, signs_seam, ← replace, ih plain.2,
        List.reduceOption_cons_of_none]
    | some c =>
      have other : c ≠ ':' := fun same => plain.1 (same ▸ rfl)
      rw [List.cons_append, replace, signs_char fun same => absurd same other, List.flatMap_cons,
        ← replace, ih plain.2, List.reduceOption_cons_of_some]
      rfl

/-! ## What is shown -/

/-- No code of the text is that of an emoji. -/
def Uncoded (cs : Seamed) : Prop := ∀ name, .code name ∈ signs cs → ofName? name = none

namespace Sign

variable {s : Sign}

/-- What is shown of a sign has less colons, unless it is the sign. -/
theorem count_colon_shown (s : Sign) :
    s.shown = s.source ∨ s.shown.count ':' < s.source.count ':' := by
  cases s with
  | char c => exact .inl rfl
  | code name =>
    rw [shown]
    split
    next emoji found =>
      right
      rw [List.count_eq_zero.mpr emoji.uncoded]
      simp [source]
    next => exact .inl rfl

/-- A code is shown as it is just when it is none of an emoji. -/
theorem shown_code_eq_iff : (code name).shown = (code name).source ↔ ofName? name = none := by
  rw [shown]
  split
  next emoji found =>
    refine iff_of_false (fun same => emoji.uncoded ?_) (by rw [found]; simp)
    rw [same]
    exact List.mem_cons_self ..
  next found => exact iff_of_true rfl found

theorem count_newline_shown (single : ∀ name, s = .code name → '\n' ∉ name) :
    s.shown.count '\n' = s.source.count '\n' := by
  cases s with
  | char c => rfl
  | code name =>
    rw [shown]
    split
    next emoji found =>
      have none := List.count_eq_zero.mpr (single name rfl)
      rw [List.count_eq_zero.mpr emoji.single]
      simp [source, none]
    next => rfl

end Sign

/-- Signs are shown as they are written if as many colons are. -/
theorem count_colon_flatMap_shown (ss : List Sign) :
    (∀ s ∈ ss, s.shown = s.source) ∨
      (ss.flatMap Sign.shown).count ':' < (ss.flatMap Sign.source).count ':' := by
  induction ss with
  | nil => exact .inl (by simp)
  | cons s ss ih =>
    rw [List.flatMap_cons, List.flatMap_cons, List.count_append, List.count_append]
    have counts (all : ∀ s ∈ ss, s.shown = s.source) :
        ss.flatMap Sign.shown = ss.flatMap Sign.source :=
      List.flatMap_congr all
    rcases s.count_colon_shown with same | less <;> rcases ih with all | fewer
    · exact .inl (List.forall_mem_cons.mpr ⟨same, all⟩)
    · right
      rw [same]
      omega
    · right
      rw [counts all]
      omega
    · right
      omega

/-- **Colons tell** whether a text has a code that is that of an emoji. -/
theorem count_colon_replace (cs : Seamed) :
    Uncoded cs ∨ (replace cs).count ':' < cs.reduceOption.count ':' := by
  rw [← flatMap_source, replace]
  refine (count_colon_flatMap_shown (signs cs)).imp_left fun all name there => ?_
  exact Sign.shown_code_eq_iff.mp (all _ there)

theorem replace_of_uncoded (uncoded : Uncoded cs) : replace cs = cs.reduceOption := by
  rw [← flatMap_source, replace]
  refine List.flatMap_congr fun s there => ?_
  cases s with
  | char c => rfl
  | code name => exact Sign.shown_code_eq_iff.mpr (uncoded name there)

/-- **A text is shown as it is** if no code of it is that of an emoji. -/
theorem replace_eq_iff : replace cs = cs.reduceOption ↔ Uncoded cs := by
  refine ⟨fun same => ?_, replace_of_uncoded⟩
  rcases count_colon_replace cs with uncoded | less
  · exact uncoded
  · exact absurd (congrArg (List.count ':') same) less.ne

/-- What is shown has the line ends of the text. -/
theorem count_newline_replace (cs : Seamed) :
    (replace cs).count '\n' = cs.reduceOption.count '\n' := by
  rw [← flatMap_source, replace, List.count_flatMap, List.count_flatMap]
  refine congrArg List.sum (List.map_congr_left fun s there => Sign.count_newline_shown ?_)
  rintro name rfl inside
  exact absurd ((infix_of_code_mem there).2 _ inside) (by decide)

/-! ## Texts that hold codes -/

/-- The code of an emoji stands in the text. It need not be read as one: the colon before it may be
the last one of another code. -/
def HoldsCode (text : List Char) : Prop :=
  ∃ name, ':' :: (name ++ [':']) <:+: text ∧ (∀ c ∈ name, Text.isGap c = false) ∧
    ofName? name ≠ none

/-- A text that holds no code of an emoji has none among its signs. -/
theorem uncoded_of_not_holdsCode (none : ¬ HoldsCode cs.reduceOption) : Uncoded cs := by
  intro name there
  by_contra known
  obtain ⟨inside, solid⟩ := infix_of_code_mem there
  have text : (some ':' :: (name.map some ++ [some ':'])).reduceOption <:+: cs.reduceOption :=
    inside.filterMap id
  rw [List.reduceOption_cons_of_some, List.reduceOption_append, reduceOption_map_some] at text
  exact none ⟨name, text, solid, known⟩

/-- A code takes two colons. -/
theorem two_le_count_of_holdsCode {text : List Char} (holds : HoldsCode text) :
    2 ≤ text.count ':' := by
  obtain ⟨name, inside, -⟩ := holds
  calc 2
    _ ≤ (':' :: (name ++ [':'])).count ':' := by simp
    _ ≤ text.count ':' := inside.sublist.count_le ':'

/-- A text without a character lies before or behind each place where the character stands. -/
theorem infix_append_cons {c : Char} {word front back : List Char} (other : c ∉ word)
    (inside : word <:+: front ++ c :: back) : word <:+: front ∨ word <:+: back := by
  obtain ⟨before, behind, split⟩ := inside
  rw [List.append_eq_append_iff] at split
  rcases split with ⟨rest, rfl, -⟩ | ⟨rest, reaches, split⟩
  · exact .inl ⟨before, rest, rfl⟩
  · cases rest with
    | nil => exact .inl ⟨before, [], by rw [reaches, List.append_nil, List.append_nil]⟩
    | cons b rest =>
      obtain ⟨rfl, rfl⟩ := List.cons.inj split
      rcases List.append_eq_append_iff.mp reaches with ⟨mid, -, rfl⟩ | ⟨mid, -, split⟩
      · simp at other
      · cases mid with
        | nil =>
          obtain rfl := split
          simp at other
        | cons a mid =>
          obtain ⟨-, rfl⟩ := List.cons.inj split
          exact .inr ⟨mid, behind, rfl⟩

/-- No code reaches over a gap. -/
theorem holdsCode_append_cons {c : Char} {front back : List Char} (gap : Text.isGap c = true)
    (holds : HoldsCode (front ++ c :: back)) : HoldsCode front ∨ HoldsCode back := by
  obtain ⟨name, inside, solid, known⟩ := holds
  have other : c ∉ ':' :: (name ++ [':']) := by
    intro there
    simp only [List.mem_cons, List.mem_append, List.not_mem_nil, or_false] at there
    rcases there with rfl | there | rfl
    · exact absurd gap (by decide)
    · rw [solid c there] at gap
      cases gap
    · exact absurd gap (by decide)
  exact (infix_append_cons other inside).imp (⟨name, ·, solid, known⟩) (⟨name, ·, solid, known⟩)

end CauseTrail.Emoji
