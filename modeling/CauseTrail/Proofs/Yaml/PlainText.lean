import CauseTrail.Proofs.Yaml.Quoting

/-!
# Texts without quotes

A text that is written as it is has no line ends, so what is written over several lines was broken
at single blanks, and the reader makes blanks of the line ends again. It goes on over them because
the lines are indented, and no word of the text begins or ends like something else.

## Main definitions

* `Unmarked`: the texts that can be written as they are
* `Gap.Inside`: the gap that is left within such a text

## Main results

* `Yaml.plain_foldedFrom`: a text is read back up to where it ends
* `Yaml.plain_line`, `Yaml.plain_key`: it ends with its line, and in front of the mark of a value
-/

namespace CauseTrail.Yaml

variable {c d previous : Char} {cs back rest tail : List Char} {gap : Gap} {column margin : Nat}

/-- A text that can be written as it is, as far as its characters go. -/
structure Unmarked (cs : List Char) : Prop where
  nonempty : cs ≠ []
  ordinary : cs.all (!isSpecial ·) = true
  tight : looseEnds cs = false
  inLine : '\n' ∉ cs
  begins : beginsWithMark cs = false
  holds : holdsMark true cs = false

/-- What is written as it is can be, and calls for no other tag. -/
theorem unmarked_of_styleOf (plain : styleOf cs = .plain) :
    Unmarked cs ∧ Tag.ofPlain (String.ofList cs) = .string := by
  rw [styleOf] at plain
  split at plain
  · cases plain
  · next ordinary =>
    split at plain
    · next bare =>
      rw [Bool.or_eq_true, not_or, Bool.not_eq_true] at ordinary
      simp only [isBare, Bool.and_eq_true, Bool.not_eq_true', decide_eq_true_eq] at bare
      obtain ⟨⟨⟨⟨tight, inLine⟩, begins⟩, holds⟩, tag⟩ := bare
      refine ⟨⟨?_, ?_, tight, ?_, begins, holds⟩, tag⟩
      · rintro rfl
        cases tag
      · simpa using ordinary.1
      · simpa using inLine
    · cases plain

/-- What is written without escapes is ASCII, and has no blank beside a line end. -/
theorem ordinary_of_styleOf (style : styleOf cs ≠ .double) :
    cs.all (!isSpecial ·) = true ∧ blankAtBreak cs = false := by
  rw [styleOf] at style
  split at style
  · exact absurd rfl style
  · next fine =>
    rw [Bool.or_eq_true, not_or, Bool.not_eq_true, Bool.not_eq_true] at fine
    exact ⟨by simpa using fine.1, fine.2⟩

/-! ## Steps of the reader -/

theorem plain_newline : plain false margin gap back ('\n' :: cs) =
    plain false margin (gap.addBreak '\n') back cs := by
  conv => lhs; unfold plain
  simp [atDocumentMark, isBreak]

theorem plain_blank : plain false margin gap back (' ' :: cs) =
    plain false margin (gap.addBlank ' ') back cs := by
  conv => lhs; unfold plain
  simp [atDocumentMark, isBreak]

/-- A character that goes on with the text is put behind what the gap stands for. -/
theorem plain_char (free : gap.atLineStart = false) (goesOn : isPlain false (c :: cs) = true)
    (fresh : gap = .none ∨ gap.goesOn false margin = true ∧ c ≠ '#') :
    plain false margin gap back (c :: cs) = (gap.text ++ c :: (plain false margin .none cs cs).1,
      (plain false margin .none cs cs).2) := by
  obtain ⟨blank, inLine⟩ : isBlank c = false ∧ isBreak c = false := by
    simp only [isPlain, Bool.and_eq_true, Bool.not_eq_true'] at goesOn
    exact goesOn.1.1
  have word : c ≠ ' ' := by
    rintro rfl
    cases blank
  conv => lhs; unfold plain
  obtain rfl | ⟨inside, sign⟩ := fresh
  · simp [Gap.atLineStart, inLine, word, goesOn]
  · cases gap <;> simp [free, inLine, word, goesOn, inside, sign]

/-! ## The end of a text -/

/-- A text ends with its line if the next one is not indented. -/
theorem plain_line (indented : 0 < margin)
    (next : ∀ d, rest.head? = some d → isBreak d = false ∧ d ≠ ' ') :
    plain false margin .none ('\n' :: rest) ('\n' :: rest) = ([], '\n' :: rest) := by
  rw [plain_newline]
  cases rest with
  | nil => rfl
  | cons d rest =>
    obtain ⟨inLine, word⟩ := next d rfl
    have outside : ¬ margin ≤ 0 := Nat.not_le.mpr indented
    conv => lhs; unfold plain
    simp [inLine, word, Gap.addBreak, Gap.goesOn, outside]

/-- A text ends in front of the mark of a value. -/
theorem plain_key : plain false margin .none (':' :: ' ' :: rest) (':' :: ' ' :: rest) =
    ([], ':' :: ' ' :: rest) := by
  simp [plain, Gap.atLineStart, isBreak, isPlain, isBlank, atBlank]

/-! ## Within a text -/

/-- A gap is one that is left within a text without quotes, behind the character `previous` and in
front of `cs`. -/
def Gap.Inside (previous : Char) (cs : List Char) : Gap → Prop
  | none => True
  | blanks _ => previous = ' ' ∧ cs ≠ []
  | lines first? more column => first? = some '\n' ∧ more = [] ∧ column = 2 ∧ previous = ' ' ∧
      cs.head?.any (· ≠ ' ') = true

namespace Gap

theorem Inside.atLineStart (inside : gap.Inside previous cs) : gap.atLineStart = false := by
  cases gap with
  | none | blanks => rfl
  | lines =>
    obtain ⟨-, -, rfl, -⟩ := inside
    rfl

/-- Behind a gap a word begins, and the line belongs to the text. -/
theorem Inside.fresh (inside : gap.Inside previous cs) (indented : margin ≤ 2) :
    gap = none ∨ gap.goesOn false margin = true ∧ previous = ' ' := by
  cases gap with
  | none => exact .inl rfl
  | blanks => exact .inr ⟨rfl, inside.1⟩
  | lines =>
    obtain ⟨-, -, rfl, same, -⟩ := inside
    exact .inr ⟨by simp [goesOn, indented], same⟩

/-- A blank stands behind a blank or behind a character of a word. -/
theorem Inside.of_blank (inside : gap.Inside previous (' ' :: cs)) (more : cs ≠ []) :
    (gap.addBlank ' ').Inside ' ' cs ∧ (gap.addBlank ' ').text = gap.text ++ [' '] := by
  cases gap with
  | none => exact ⟨⟨rfl, more⟩, rfl⟩
  | blanks => exact ⟨⟨rfl, more⟩, by simp [addBlank, text]⟩
  | lines =>
    obtain ⟨-, -, -, -, word⟩ := inside
    cases word

end Gap

theorem holdsMark_cons {wordBegins : Bool} (free : holdsMark wordBegins (c :: cs) = false) :
    (c = ':' → atWordEnd cs = false) ∧ (c = '#' → wordBegins = false) ∧
      holdsMark (separates c) cs = false := by
  simp only [holdsMark, Bool.or_eq_false_iff, Bool.and_eq_false_iff,
    decide_eq_false_iff_not] at free
  obtain ⟨⟨colon, sign⟩, rest⟩ := free
  exact ⟨fun same => colon.resolve_left (not_not_intro same),
    fun same => sign.resolve_left (not_not_intro same), rest⟩

/-- Where no word ends in the text, none ends where it is written. -/
theorem atBlank_foldedFrom (ordinary : cs.all (!isSpecial ·) = true) (word : atWordEnd cs = false) :
    atBlank (foldedFrom false column previous cs ++ tail) = false := by
  cases cs with
  | nil => cases word
  | cons d cs =>
    obtain ⟨plain, -⟩ : isSpecial d = false ∧ cs.all (!isSpecial ·) = true := by
      simpa using ordinary
    obtain ⟨blank, newline⟩ : d ≠ ' ' ∧ d ≠ '\n' := by
      simpa [atWordEnd, separates] using word
    rw [foldedFrom_char blank newline (by simp), List.cons_append, atBlank,
      isBlank_of_ordinary plain blank, isBreak_of_ordinary plain newline]
    rfl

/-- **A text without quotes** is read back up to its end, from any place within it. -/
theorem plain_foldedFrom (ordinary : cs.all (!isSpecial ·) = true) (inLine : '\n' ∉ cs)
    (tight : cs.getLast? ≠ some ' ') (free : holdsMark (separates previous) cs = false)
    (inside : gap.Inside previous cs) (indented : margin ≤ 2)
    (ends : plain false margin .none tail tail = ([], tail))
    (last : cs = [] → gap = .none ∧ back = tail) :
    plain false margin gap back (foldedFrom false column previous cs ++ tail) =
      (gap.text ++ cs, tail) := by
  -- Induction on the text. Where it is empty the scalar ends at `back`, so nothing may be left in
  -- the gap then; elsewhere `back` is of no account.
  induction cs generalizing gap previous column back with
  | nil =>
    obtain ⟨rfl, rfl⟩ := last rfl
    rw [foldedFrom, List.nil_append, ends]
    rfl
  | cons c cs ih =>
    obtain ⟨ascii, ordinary⟩ : isSpecial c = false ∧ cs.all (!isSpecial ·) = true := by
      simpa using ordinary
    obtain ⟨newline, inLine'⟩ : c ≠ '\n' ∧ '\n' ∉ cs := by
      simpa [eq_comm] using inLine
    obtain ⟨colon, sign, free⟩ := holdsMark_cons free
    have tight' : cs.getLast? ≠ some ' ' := by
      intro blank
      rw [List.getLast?_cons, blank] at tight
      exact tight rfl
    by_cases blank : c = ' '
    · subst blank
      have more : cs ≠ [] := by
        rintro rfl
        exact tight rfl
      rw [foldedFrom_blank]
      split
      · next broken =>
        simp only [Bool.and_eq_true, decide_eq_true_eq] at broken
        obtain ⟨⟨word, wordNext⟩, -⟩ := broken
        obtain rfl : gap = .none := by
          obtain none | ⟨-, same⟩ := inside.fresh indented
          · exact none
          · exact absurd same word
        have inside' : Gap.Inside ' ' cs (.lines (some '\n') [] 2) :=
          ⟨rfl, rfl, rfl, rfl, wordNext⟩
        have read : plain false margin .none back ('\n' :: ' ' :: ' ' ::
            (foldedFrom false indent ' ' cs ++ tail)) =
            plain false margin (.lines (some '\n') [] 2) back
              (foldedFrom false indent ' ' cs ++ tail) := by
          rw [plain_newline, plain_blank, plain_blank]
          rfl
        rw [List.cons_append, List.cons_append, List.cons_append, read,
          ih ordinary inLine' tight' free inside' fun none => absurd none more]
        rfl
      · obtain ⟨inside', text⟩ := inside.of_blank more
        rw [List.cons_append, plain_blank,
          ih ordinary inLine' tight' free inside' fun none => absurd none more, text,
          List.append_assoc]
        rfl
    · have goesOn : isPlain false (c :: (foldedFrom false (column + 1) c cs ++ tail)) = true := by
        have inWord : (decide (c = ':') &&
            atBlank (foldedFrom false (column + 1) c cs ++ tail)) = false := by
          by_cases same : c = ':'
          · rw [atBlank_foldedFrom ordinary (colon same), Bool.and_false]
          · simp [same]
        simp [isPlain, isBlank_of_ordinary ascii blank, isBreak_of_ordinary ascii newline, inWord]
      have fresh : gap = .none ∨ gap.goesOn false margin = true ∧ c ≠ '#' := by
        obtain none | ⟨belongs, same⟩ := inside.fresh indented
        · exact .inl none
        · refine .inr ⟨belongs, fun mark => ?_⟩
          have apart := sign mark
          rw [same] at apart
          cases apart
      have inside' : Gap.none.Inside c cs := trivial
      rw [foldedFrom_char blank newline (by simp), List.cons_append,
        plain_char inside.atLineStart goesOn fresh,
        ih ordinary inLine' tight' free inside' fun nil => ⟨rfl, by subst nil; rfl⟩]
      rfl

/-! ## A whole text -/

/-- A text that is written as it is begins with no mark of another notation. -/
theorem Unmarked.begin (unmarked : Unmarked (c :: cs)) :
    "#,[]\x7b\x7d&*!|>'\"%@\x60".toList.contains c = false ∧
      (c = '-' ∨ c = '?' ∨ c = ':' → atWordEnd cs = false) := by
  have begins := unmarked.begins
  simp only [beginsWithMark, Bool.or_eq_false_iff, Bool.and_eq_false_iff] at begins
  obtain ⟨-, marks, signs⟩ := begins
  refine ⟨marks, ?_⟩
  rintro (rfl | rfl | rfl)
  · simpa using signs
  · simpa using signs
  · exact (holdsMark_cons unmarked.holds).1 rfl

/-- The first character is one of a word. -/
theorem Unmarked.head (unmarked : Unmarked (c :: cs)) :
    isSpecial c = false ∧ c ≠ ' ' ∧ c ≠ '\n' ∧ c ≠ '#' := by
  have ordinary : isSpecial c = false := by
    have all := unmarked.ordinary
    simp only [List.all_cons, Bool.and_eq_true, Bool.not_eq_true'] at all
    exact all.1
  obtain ⟨blank, newline⟩ : c ≠ ' ' ∧ c ≠ '\n' := by
    have tight := unmarked.tight
    simp only [looseEnds, Bool.or_eq_false_iff, List.head?_cons, Option.any_some] at tight
    simpa [separates] using tight.1
  refine ⟨ordinary, blank, newline, ?_⟩
  rintro rfl
  cases unmarked.begin.1

/-- What follows the first character ends with a word and holds no mark. -/
theorem Unmarked.behind (unmarked : Unmarked (c :: cs)) : cs.all (!isSpecial ·) = true ∧
    '\n' ∉ cs ∧ cs.getLast? ≠ some ' ' ∧ holdsMark (separates c) cs = false := by
  have ordinary := unmarked.ordinary
  rw [List.all_cons, Bool.and_eq_true] at ordinary
  refine ⟨ordinary.2, fun there => unmarked.inLine (List.mem_cons_of_mem c there), fun blank => ?_,
    (holdsMark_cons unmarked.holds).2.2⟩
  have tight := unmarked.tight
  rw [looseEnds, List.getLast?_cons, blank] at tight
  simp [separates] at tight

/-- **A text without quotes** is read back behind its first character. -/
theorem plain_unmarked (unmarked : Unmarked (c :: cs)) (indented : margin ≤ 2)
    (ends : plain false margin .none tail tail = ([], tail)) :
    plain false margin .none (foldedFrom false column c cs ++ tail)
      (foldedFrom false column c cs ++ tail) = (cs, tail) := by
  obtain ⟨ordinary, inLine, tight, free⟩ := unmarked.behind
  have inside : Gap.none.Inside c cs := trivial
  exact plain_foldedFrom ordinary inLine tight free inside indented ends
    fun nil => ⟨rfl, by subst nil; rfl⟩

end CauseTrail.Yaml
