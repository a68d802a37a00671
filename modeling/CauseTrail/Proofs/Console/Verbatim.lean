import CauseTrail.Proofs.Console.Escaping
import Mathlib.Data.List.Infix
import Mathlib.Data.List.TakeWhile

/-!
# Texts that are printed as they are

What the console shows of an escaped text has the characters of the text in their order, whatever
brackets there are: only backslashes may go or come. One goes before an opening bracket that begins
no tag, and one comes at the end of a text that ends in a single backslash. Emoji are shown for
their codes, and printing then drops the characters that move the cursor and writes tabs as spaces.
A text with none of these five is printed as it is, and no other text is.

## Main definitions

* `Markup.LosesSlash`: a backslash of a text is dropped
* `Markup.Verbatim`: a text that is printed as it is
* `Console.lines`: texts one below the other

## Main results

* `Markup.filter_told`: nothing but backslashes is dropped or added by markup
* `Markup.told_eq_iff`: when an escaped text is shown as it is
* `Console.expandTabs_replace_eq_iff`: when it is printed as it is
* `Console.lines_eq_iff`: texts are told by how they stand on the console
-/

namespace CauseTrail

namespace Markup

variable {cs front back inner : List Char} {c : Char} {ps : List Piece}

/-! ## Backslashes that are dropped -/

/-- A backslash stands before an opening bracket that begins no tag. -/
def LosesSlash (cs : List Char) : Prop := ∃ back, '\\' :: '[' :: back <:+ cs ∧ inner? back = none

theorem not_losesSlash_nil : ¬ LosesSlash [] := by
  rintro ⟨back, ends, -⟩
  simp at ends

/-- A backslash is lost at the first character or behind it. -/
theorem losesSlash_cons : LosesSlash (c :: cs) ↔
    (c = '\\' ∧ ∃ back, cs = '[' :: back ∧ inner? back = none) ∨ LosesSlash cs := by
  simp only [LosesSlash, List.suffix_cons_iff, List.cons.injEq, or_and_right, exists_or]
  refine or_congr_left ⟨?_, ?_⟩
  · rintro ⟨back, ⟨rfl, rfl⟩, plain⟩
    exact ⟨rfl, back, rfl, plain⟩
  · rintro ⟨rfl, back, rfl, plain⟩
    exact ⟨back, ⟨rfl, rfl⟩, plain⟩

/-- A text without opening brackets loses nothing, unless a bracket follows. -/
theorem losesSlash_append (unopened : '[' ∉ front) (next : ∀ rest, cs ≠ '[' :: rest) :
    LosesSlash (front ++ cs) ↔ LosesSlash cs := by
  induction front with
  | nil => rfl
  | cons c front ih =>
    rw [List.mem_cons, not_or] at unopened
    rw [List.cons_append, losesSlash_cons, ih unopened.2]
    refine or_iff_right ?_
    rintro ⟨-, back, opens, -⟩
    cases front with
    | nil => exact next back opens
    | cons b front => exact unopened.2 (List.mem_cons.mpr (.inl (List.cons.inj opens).1.symm))

theorem losesSlash_slashes_bracket (n : Nat) :
    LosesSlash (List.replicate n '\\' ++ '[' :: cs) ↔
      (n ≠ 0 ∧ inner? cs = none) ∨ LosesSlash cs := by
  induction n with
  | zero => simp [losesSlash_cons]
  | succ n ih =>
    rw [List.replicate_succ, List.cons_append, losesSlash_cons, ih]
    cases n with
    | zero => simp
    | succ n => simp [List.replicate_succ]

theorem unopened_of_upToBracket (closed : upToBracket cs = some inner) : '[' ∉ inner := by
  induction cs generalizing inner with
  | nil => cases closed
  | cons c cs ih =>
    rw [upToBracket] at closed
    split at closed
    next =>
      obtain rfl := Option.some.inj closed
      exact List.not_mem_nil
    next =>
      split at closed
      next => cases closed
      next other =>
        obtain ⟨inner, behind, rfl⟩ := Option.map_eq_some_iff.mp closed
        rw [List.mem_cons, not_or]
        exact ⟨Ne.symm other, ih behind⟩

/-- No tag has an opening bracket in it. -/
theorem IsInner.unopened (tag : IsInner inner) : '[' ∉ inner := by
  cases inner with
  | nil => exact List.not_mem_nil
  | cons c inner =>
    have closed := tag []
    rw [List.cons_append, inner?] at closed
    split at closed
    next begins =>
      obtain ⟨inner', behind, same⟩ := Option.map_eq_some_iff.mp closed
      obtain rfl := (List.cons.inj same).2
      rw [List.mem_cons, not_or]
      exact ⟨by rintro rfl; exact absurd begins (by decide), unopened_of_upToBracket behind⟩
    next => cases closed

/-- The backslashes that a text loses are those of its brackets. -/
theorem exists_bracket_mem_iff (n : Nat) (cs : List Char) :
    (∃ k, .bracket (k + 1) ∈ piecesFrom 0 n cs) ↔ LosesSlash (List.replicate n '\\' ++ cs) := by
  have slashes (n : Nat) : '[' ∉ List.replicate n '\\' := by simp
  -- Induction on the pieces: backslashes are counted until it is known what they stand before.
  induction cs using pieces_induction generalizing n with
  | nil =>
    rw [piecesFrom_nil, losesSlash_append (slashes n) (by simp)]
    simp [not_losesSlash_nil]
  | slash cs ih =>
    have same : List.replicate n '\\' ++ '\\' :: cs = List.replicate (n + 1) '\\' ++ cs := by
      rw [List.replicate_succ', List.append_assoc, List.singleton_append]
    rw [piecesFrom_slash, same]
    exact ih (n + 1)
  | tag inner rest isInner ih =>
    have behind : LosesSlash (inner ++ ']' :: rest) ↔ LosesSlash (']' :: rest) :=
      losesSlash_append isInner.unopened (by simp)
    have none : inner? (inner ++ ']' :: rest) ≠ none := by simp [isInner rest]
    rw [piecesFrom_tag isInner, losesSlash_slashes_bracket, behind]
    simp only [List.mem_cons, reduceCtorEq, false_or, none, and_false, ih 0]
    simp [losesSlash_cons]
  | bracket cs plain ih =>
    rw [piecesFrom_bracket plain, losesSlash_slashes_bracket]
    simp only [List.mem_cons, Piece.bracket.injEq, exists_or, ih 0, plain, and_true]
    refine or_congr ⟨?_, ?_⟩ Iff.rfl
    · rintro ⟨k, rfl⟩
      exact Nat.succ_ne_zero k
    · intro some
      exact ⟨n - 1, Nat.succ_pred_eq_of_ne_zero some⟩
  | char c cs slash bracket ih =>
    rw [piecesFrom_char slash bracket, losesSlash_append (slashes n) (by simp [bracket]),
      losesSlash_cons]
    simp [ih 0, slash]

/-! ## What is shown of an escaped text -/

/-- A text is read back from its pieces. -/
theorem flatMap_source (n : Nat) (cs : List Char) :
    (piecesFrom 0 n cs).flatMap Piece.source = List.replicate n '\\' ++ cs := by
  have slashes (n : Nat) :
      (List.replicate n (Piece.char '\\')).flatMap Piece.source = List.replicate n '\\' := by
    rw [List.flatMap_replicate]
    simp [Piece.source]
  induction cs using pieces_induction generalizing n with
  | nil => rw [piecesFrom_nil, slashes, List.append_nil]
  | slash cs ih =>
    rw [piecesFrom_slash, ih, List.replicate_succ', List.append_assoc, List.singleton_append]
  | tag inner rest isInner ih =>
    rw [piecesFrom_tag isInner, List.flatMap_cons, ih]
    simp [Piece.source]
  | bracket cs plain ih =>
    rw [piecesFrom_bracket plain, List.flatMap_cons, ih]
    simp [Piece.source]
  | char c cs slash bracket ih =>
    rw [piecesFrom_char slash bracket, List.flatMap_append, slashes, List.flatMap_cons, ih]
    rfl

/-- Pieces are shown as they are written if none of them loses a backslash. -/
theorem flatMap_shown_append_eq_iff :
    ps.flatMap Piece.shown ++ back = ps.flatMap Piece.source ↔
      (∀ k, .bracket (k + 1) ∉ ps) ∧ back = [] := by
  induction ps with
  | nil => simp
  | cons p ps ih =>
    rw [List.flatMap_cons, List.flatMap_cons, List.append_assoc]
    cases p with
    | char c => simpa [Piece.shown] using ih
    | tag n inner => simpa [Piece.shown] using ih
    | bracket n =>
      cases n with
      | zero => simpa [Piece.shown, Piece.source] using ih
      | succ n =>
        refine iff_of_false ?_ fun kept => kept.1 n (List.mem_cons_self ..)
        simp [Piece.shown, Piece.source, List.replicate_succ']

/-- **An escaped text is shown as it is** if it loses no backslash and is given none. -/
theorem told_eq_iff : told cs = cs ↔ ¬ LosesSlash cs ∧ endSlashes cs ≠ 1 := by
  have written := flatMap_source 0 cs
  rw [List.replicate_zero, List.nil_append] at written
  have lost := exists_bracket_mem_iff 0 cs
  rw [List.replicate_zero, List.nil_append] at lost
  calc told cs = cs
    _ ↔ told cs = (pieces cs).flatMap Piece.source := by rw [pieces, written]
    _ ↔ (∀ k, .bracket (k + 1) ∉ pieces cs) ∧ List.replicate (guards cs) '\\' = [] :=
      flatMap_shown_append_eq_iff
    _ ↔ ¬ LosesSlash cs ∧ endSlashes cs ≠ 1 := by
      rw [← lost, not_exists, List.replicate_eq_nil_iff, guards_eq_zero_iff, pieces]

/-- **No text is taken for markup**: but for backslashes, all of an escaped text is shown. -/
theorem filter_told (cs : List Char) : (told cs).filter (· ≠ '\\') = cs.filter (· ≠ '\\') := by
  have slashes (n : Nat) : (List.replicate n '\\').filter (· ≠ '\\') = [] := by simp
  have piece (p : Piece) : p.shown.filter (· ≠ '\\') = p.source.filter (· ≠ '\\') := by
    cases p with
    | bracket n => simp only [Piece.shown, Piece.source, List.filter_append, slashes]
    | char c => rfl
    | tag n inner => rfl
  have written := flatMap_source 0 cs
  rw [List.replicate_zero, List.nil_append] at written
  calc (told cs).filter (· ≠ '\\')
    _ = (pieces cs).flatMap fun p => p.shown.filter (· ≠ '\\') := by
      rw [told, List.filter_append, slashes, List.append_nil, List.filter_flatMap]
    _ = (pieces cs).flatMap fun p => p.source.filter (· ≠ '\\') := by simp only [piece]
    _ = cs.filter (· ≠ '\\') := by
      rw [pieces, ← List.filter_flatMap, written]

theorem mem_told (other : c ≠ '\\') : c ∈ told cs ↔ c ∈ cs := by
  have same : c ∈ (told cs).filter (· ≠ '\\') ↔ c ∈ cs.filter (· ≠ '\\') := by rw [filter_told]
  simpa [other] using same

theorem count_told (other : c ≠ '\\') : (told cs).count c = cs.count c := by
  have kept (cs : List Char) : (cs.filter (· ≠ '\\')).count c = cs.count c :=
    List.count_filter (decide_eq_true other)
  rw [← kept, filter_told, kept]

/-- A text that is printed as it is. -/
structure Verbatim (cs : List Char) : Prop where
  /-- No backslash stands before an opening bracket that begins no tag. -/
  kept : ¬ LosesSlash cs
  /-- The text does not end in a single backslash. -/
  unguarded : endSlashes cs ≠ 1
  /-- No code is that of an emoji. -/
  uncoded : Emoji.Uncoded (seamed cs)
  /-- No character moves the cursor. -/
  shown : ∀ c ∈ cs, isShown c = true
  /-- There are no tabs. -/
  untabbed : '\t' ∉ cs

/-- A text without backslashes is shown as it is, with as many brackets as it likes. -/
theorem told_of_unslashed (unslashed : '\\' ∉ cs) : told cs = cs := by
  refine told_eq_iff.mpr ⟨?_, ?_⟩
  · rintro ⟨back, ends, -⟩
    exact unslashed (ends.subset (List.mem_cons_self ..))
  · have none : endSlashes cs = 0 := by
      rw [endSlashes, List.length_eq_zero_iff, List.eq_nil_iff_forall_not_mem]
      intro c there
      have isSlash := List.mem_takeWhile_imp (p := (· = '\\')) there
      have isIn := List.mem_reverse.mp ((List.takeWhile_prefix _).subset there)
      exact unslashed (of_decide_eq_true isSlash ▸ isIn)
    rw [none]
    decide

/-- A text without backslashes is printed as it is if it holds no emoji, tab or character that is
dropped. -/
theorem verbatim_of_unslashed (unslashed : '\\' ∉ cs) (codeless : ¬ Emoji.HoldsCode cs)
    (shown : ∀ c ∈ cs, isShown c = true) (untabbed : '\t' ∉ cs) : Verbatim cs where
  kept := (told_eq_iff.mp (told_of_unslashed unslashed)).1
  unguarded := (told_eq_iff.mp (told_of_unslashed unslashed)).2
  uncoded := Emoji.uncoded_of_not_holdsCode (by
    rwa [reduceOption_seamed, told_of_unslashed unslashed])
  shown := shown
  untabbed := untabbed

end Markup

/-! ## Printing -/

namespace Console

open Markup

variable {cs front : List Char} {c : Char}

/-- A tab reaches to the next column of its own. -/
theorem expandFrom_tab (column : Nat) (cs : List Char) : expandFrom column ('\t' :: cs) =
    List.replicate (tabSize - column % tabSize) ' ' ++
      expandFrom (column + (tabSize - column % tabSize)) cs := by
  rw [expandFrom, if_pos rfl]

/-- Any other character stays, and moves the column. -/
theorem exists_expandFrom_cons (other : c ≠ '\t') (column : Nat) (cs : List Char) :
    ∃ column', expandFrom column (c :: cs) = c :: expandFrom column' cs := by
  rw [expandFrom, if_neg other]
  split <;> exact ⟨_, rfl⟩

theorem expandFrom_of_untabbed (untabbed : '\t' ∉ cs) (column : Nat) :
    expandFrom column cs = cs := by
  induction cs generalizing column with
  | nil => rfl
  | cons c cs ih =>
    rw [List.mem_cons, not_or] at untabbed
    obtain ⟨column', same⟩ := exists_expandFrom_cons (Ne.symm untabbed.1) column cs
    rw [same, ih untabbed.2]

/-- What is printed are characters of the text and spaces for its tabs. -/
theorem mem_of_mem_expandFrom {column : Nat} (printed : c ∈ expandFrom column cs) :
    c ≠ '\t' ∧ (c = ' ' ∨ c ∈ cs) := by
  induction cs generalizing column with
  | nil => cases printed
  | cons b cs ih =>
    by_cases tab : b = '\t'
    · rw [tab, expandFrom_tab, List.mem_append] at printed
      rcases printed with space | behind
      · obtain rfl := List.eq_of_mem_replicate space
        exact ⟨by decide, .inl rfl⟩
      · exact (ih behind).imp_right (.imp_right (List.mem_cons_of_mem _))
    · obtain ⟨column', same⟩ := exists_expandFrom_cons tab column cs
      rw [same, List.mem_cons] at printed
      rcases printed with rfl | behind
      · exact ⟨tab, .inr (List.mem_cons_self ..)⟩
      · exact (ih behind).imp_right (.imp_right (List.mem_cons_of_mem _))

/-- Printing adds and drops nothing but tabs and spaces. -/
theorem count_expandFrom (tab : c ≠ '\t') (space : c ≠ ' ') (column : Nat) (cs : List Char) :
    (expandFrom column cs).count c = cs.count c := by
  induction cs generalizing column with
  | nil => rfl
  | cons b cs ih =>
    by_cases isTab : b = '\t'
    · rw [isTab, expandFrom_tab, List.count_append, ih, List.count_cons_of_ne (Ne.symm tab)]
      simp [List.count_replicate, Ne.symm space]
    · obtain ⟨column', same⟩ := exists_expandFrom_cons isTab column cs
      rw [same, List.count_cons, List.count_cons, ih]

/-- An escaped text is printed as it is, behind a text that is, if it is shown as it is and printing
has nothing left to do. -/
theorem expandTabs_told_eq_iff (shown : ∀ c ∈ front, isShown c = true) (untabbed : '\t' ∉ front) :
    expandTabs ((front ++ told cs).filter isShown) = front ++ cs ↔
      told cs = cs ∧ (∀ c ∈ cs, isShown c = true) ∧ '\t' ∉ cs := by
  -- escaping brings neither tabs nor characters that are dropped
  have printed (shown' : ∀ c ∈ cs, isShown c = true) (untabbed' : '\t' ∉ cs) :
      expandTabs ((front ++ told cs).filter isShown) = front ++ told cs := by
    have all : ∀ c ∈ front ++ told cs, isShown c = true := by
      intro c there
      rcases List.mem_append.mp there with there | there
      · exact shown c there
      by_cases slash : c = '\\'
      · rw [slash]
        decide
      · exact shown' c ((mem_told slash).mp there)
    rw [List.filter_eq_self.mpr all]
    refine expandFrom_of_untabbed ?_ 0
    rw [List.mem_append, mem_told (by decide)]
    exact not_or.mpr ⟨untabbed, untabbed'⟩
  constructor
  · intro same
    have there {c : Char} (holds : c ∈ cs) : c ≠ '\t' ∧ isShown c = true := by
      have printed : c ∈ expandTabs ((front ++ told cs).filter isShown) := by
        rw [same]
        exact List.mem_append_right _ holds
      obtain ⟨tab, rfl | kept⟩ := mem_of_mem_expandFrom printed
      · exact ⟨tab, by decide⟩
      · exact ⟨tab, (List.mem_filter.mp kept).2⟩
    have shown' : ∀ c ∈ cs, isShown c = true := fun c holds => (there holds).2
    have untabbed' : '\t' ∉ cs := fun holds => (there holds).1 rfl
    rw [printed shown' untabbed', List.append_cancel_left_eq] at same
    exact ⟨same, shown', untabbed'⟩
  · rintro ⟨same, shown', untabbed'⟩
    rw [printed shown' untabbed', same]

theorem count_expandTabs_filter (other : c ≠ '\t' ∧ c ≠ ' ' ∧ isShown c = true) (cs : List Char) :
    (expandTabs (cs.filter isShown)).count c = cs.count c := by
  rw [expandTabs, count_expandFrom other.1 other.2.1, List.count_filter other.2.2]

/-- **An escaped text is printed as it is**, behind a text that is, just when it is verbatim. -/
theorem expandTabs_replace_eq_iff (shown : ∀ c ∈ front, isShown c = true)
    (untabbed : '\t' ∉ front) :
    expandTabs ((front ++ Emoji.replace (seamed cs)).filter isShown) = front ++ cs ↔
      Verbatim cs := by
  have whole (uncoded : Emoji.Uncoded (seamed cs)) : Emoji.replace (seamed cs) = told cs := by
    rw [Emoji.replace_of_uncoded uncoded, reduceOption_seamed]
  constructor
  · intro same
    have uncoded : Emoji.Uncoded (seamed cs) := by
      -- an emoji would have taken colons away, and nothing brings them back
      have colons := congrArg (List.count ':') same
      rw [count_expandTabs_filter (by decide), List.count_append, List.count_append,
        Nat.add_left_cancel_iff] at colons
      refine (Emoji.count_colon_replace (seamed cs)).resolve_right ?_
      rw [reduceOption_seamed, count_told (by decide), colons]
      exact lt_irrefl _
    rw [whole uncoded, expandTabs_told_eq_iff shown untabbed, told_eq_iff] at same
    exact ⟨same.1.1, same.1.2, uncoded, same.2.1, same.2.2⟩
  · intro verbatim
    rw [whole verbatim.uncoded, expandTabs_told_eq_iff shown untabbed, told_eq_iff]
    exact ⟨⟨verbatim.kept, verbatim.unguarded⟩, verbatim.shown, verbatim.untabbed⟩

/-- What is printed has the line ends of the text. -/
theorem count_newline_expandTabs (front cs : List Char) :
    (expandTabs ((front ++ Emoji.replace (seamed cs)).filter isShown)).count '\n' =
      (front ++ cs).count '\n' := by
  rw [count_expandTabs_filter (by decide), List.count_append, Emoji.count_newline_replace,
    reduceOption_seamed, count_told (by decide), List.count_append]

/-- Texts as they stand on the console, each with a line end behind it. -/
def lines (texts : List (List Char)) : List Char := texts.flatMap (· ++ ['\n'])

theorem lines_append (a b : List (List Char)) : lines (a ++ b) = lines a ++ lines b :=
  List.flatMap_append

theorem lines_singleton (text : List Char) : lines [text] = text ++ ['\n'] :=
  List.append_nil _

/-- There is a line end for each text and for each that is in one. -/
theorem count_newline_lines (texts : List (List Char)) :
    (lines texts).count '\n' = texts.length + texts.flatten.count '\n' := by
  induction texts with
  | nil => rfl
  | cons text texts ih =>
    rw [lines, List.flatMap_cons, ← lines, List.count_append, ih, List.count_append,
      List.count_singleton_self, List.length_cons, List.flatten_cons, List.count_append]
    omega

/-- Two texts with as many line ends end at the same place. -/
theorem eq_of_append_newline {a b x y : List Char} (counts : a.count '\n' = b.count '\n')
    (same : a ++ '\n' :: x = b ++ '\n' :: y) : a = b ∧ x = y := by
  induction a generalizing b with
  | nil =>
    cases b with
    | nil => exact ⟨rfl, (List.cons.inj same).2⟩
    | cons c b =>
      obtain rfl := (List.cons.inj same).1
      simp at counts
  | cons c a ih =>
    cases b with
    | nil =>
      obtain rfl := (List.cons.inj same).1
      simp at counts
    | cons d b =>
      obtain ⟨rfl, behind⟩ := List.cons.inj same
      rw [List.count_cons, List.count_cons, Nat.add_right_cancel_iff] at counts
      obtain ⟨rfl, rfl⟩ := ih counts behind
      exact ⟨rfl, rfl⟩

/-- **What stands on the console** tells the texts apart, as long as it is known how many lines
each of them has. -/
theorem lines_eq_iff {a b : List (List Char)}
    (counts : a.map (List.count '\n') = b.map (List.count '\n')) : lines a = lines b ↔ a = b := by
  refine ⟨fun same => ?_, congrArg lines⟩
  induction a generalizing b with
  | nil => exact (List.map_eq_nil_iff.mp counts.symm).symm
  | cons text a ih =>
    cases b with
    | nil => cases counts
    | cons text' b =>
      obtain ⟨first, others⟩ := List.cons.inj counts
      simp only [lines, List.flatMap_cons, List.append_assoc, List.singleton_append] at same
      obtain ⟨rfl, behind⟩ := eq_of_append_newline first same
      rw [ih others behind]

end Console

end CauseTrail
