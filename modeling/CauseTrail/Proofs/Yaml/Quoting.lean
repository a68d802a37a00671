import CauseTrail.Yaml.Printer
import CauseTrail.Yaml.Scalar
import Mathlib.Algebra.Group.Nat.Defs

/-!
# Texts between quotes

A text between quotes may be written over several lines. The reader keeps the blanks and line ends
that it has met since the last character in a gap, and what a gap stands for is settled by the
character behind it. So the writing of a text is read back from any of its places on, once the gap
there is the one that the part before the place leaves.

Between single quotes a line is broken at a single blank, and each run of line ends has one more.
Between double quotes line ends are escapes, and a line is broken where the break stands for
nothing.

## Main definitions

* `Gap.Behind`: the gap that is left within a text between single quotes
* `Gap.Within`: the gap that is left within a text between double quotes

## Main results

* `Yaml.quoted_foldedFrom`: a text between single quotes is read back
* `Yaml.quoted_escapedFrom`: a text between double quotes is read back
-/

namespace CauseTrail.Yaml

variable {c d previous : Char} {cs more rest word : List Char} {gap : Gap} {column : Nat}
  {double : Bool}

/-! ## Classes of characters -/

theorem isBreak_of_ordinary (ordinary : isSpecial c = false) (inLine : c ≠ '\n') :
    isBreak c = false := by
  have apart (d : Char) (special : isSpecial d = true) : c ≠ d := by
    rintro rfl
    rw [ordinary] at special
    cases special
  simp [isBreak, inLine, apart '\u0085' (by decide), apart '\u2028' (by decide),
    apart '\u2029' (by decide)]

theorem isBlank_of_ordinary (ordinary : isSpecial c = false) (word : c ≠ ' ') :
    isBlank c = false := by
  have tab : c ≠ '\t' := by
    rintro rfl
    cases ordinary
  simp [isBlank, word, tab]

/-- A blank stands at a line end just when two separators of different kinds meet. -/
theorem blankAtBreak_cons (c : Char) (cs : List Char) : blankAtBreak (c :: cs) =
    ((separates c && cs.head?.any fun d => separates d && decide (c ≠ d)) || blankAtBreak cs) := by
  cases cs with
  | nil => simp [blankAtBreak]
  | cons d cs => simp [blankAtBreak, Bool.and_assoc]

/-! ## Steps of the writer -/

section Folding

variable {quotes : Bool}

theorem foldedFrom_blank : foldedFrom quotes column previous (' ' :: cs) =
    if previous ≠ ' ' && cs.head?.any (· ≠ ' ') && width < column then
      '\n' :: ' ' :: ' ' :: foldedFrom quotes indent ' ' cs
    else ' ' :: foldedFrom quotes (column + 1) ' ' cs := by
  rw [foldedFrom, if_pos rfl]
  rfl

theorem foldedFrom_newline : foldedFrom quotes column previous ('\n' :: cs) =
    (if previous = '\n' then [] else ['\n']) ++ '\n' ::
      ((if cs.head? = some '\n' then [] else [' ', ' ']) ++ foldedFrom quotes indent '\n' cs) := by
  rw [foldedFrom, if_neg (by decide), if_pos rfl]
  split <;> simp [indentation]

theorem foldedFrom_char (blank : c ≠ ' ') (inLine : c ≠ '\n') (quote : ¬(quotes ∧ c = '\'')) :
    foldedFrom quotes column previous (c :: cs) = c :: foldedFrom quotes (column + 1) c cs := by
  rw [foldedFrom, if_neg blank, if_neg inLine, if_neg (by simpa using quote)]

theorem foldedFrom_quote : foldedFrom true column previous ('\'' :: cs) =
    '\'' :: '\'' :: foldedFrom true (column + 2) '\'' cs := by
  rw [foldedFrom, if_neg (by decide), if_neg (by decide), if_pos (by decide)]

end Folding

/-! ## Steps of the reader -/

theorem quoted_break (free : (gap.atLineStart && atDocumentMark (c :: cs)) = false)
    (break' : isBreak c = true) :
    quoted double (.text gap) (c :: cs) = quoted double (.text (gap.addBreak c)) cs := by
  conv => lhs; unfold quoted
  simp only [free, break', Bool.false_eq_true, if_false, if_true]

theorem quoted_blank (free : (gap.atLineStart && atDocumentMark (c :: cs)) = false)
    (inLine : isBreak c = false) (blank : isBlank c = true) :
    quoted double (.text gap) (c :: cs) = quoted double (.text (gap.addBlank c)) cs := by
  conv => lhs; unfold quoted
  simp only [free, inLine, blank, Bool.false_eq_true, if_false, if_true]

/-- A character that stands for itself is put behind what the gap stands for. -/
theorem quoted_char (free : (gap.atLineStart && atDocumentMark (c :: cs)) = false)
    (inLine : isBreak c = false) (word : isBlank c = false) (single : double = false → c ≠ '\'')
    (twice : double = true → c ≠ '"' ∧ c ≠ '\\') : quoted double (.text gap) (c :: cs) =
      before (gap.text ++ [c]) (quoted double (.text .none) cs) := by
  rw [quoted]
  · simp only [free, inLine, word, Bool.false_eq_true, if_false]
  · exact fun two same => (twice two).1 same
  · exact fun two same => (twice two).2 same
  · exact fun one same => single one same
  · exact fun _ one same => absurd same (single one)

theorem quoted_twoQuotes : quoted false (.text gap) ('\'' :: '\'' :: cs) =
    before (gap.text ++ ['\'']) (quoted false (.text .none) cs) := by
  simp [quoted, atDocumentMark, isBreak, isBlank]

theorem quoted_close (closed : rest.head? ≠ some '\'') :
    quoted false (.text gap) ('\'' :: rest) = .ok (gap.text, rest) := by
  cases rest with
  | nil => simp [quoted, atDocumentMark, isBreak, isBlank]
  | cons d rest =>
    have other : d ≠ '\'' := fun same => closed (by rw [same]; rfl)
    simp [quoted, atDocumentMark, isBreak, isBlank, other]

/-- A character between a gap and the rest of a text. -/
theorem before_text (gap : Gap) (c : Char) (cs rest : List Char) :
    before (gap.text ++ [c]) (.ok (Gap.none.text ++ cs, rest)) =
      .ok (gap.text ++ c :: cs, rest) := by
  simp [before, Gap.text]

/-- The indentation of a line is dropped. -/
theorem quoted_indentation {first? : Option Char} {ends : List Char} :
    quoted double (.text (.lines first? ends 0)) (' ' :: ' ' :: cs) =
      quoted double (.text (.lines first? ends 2)) cs := by
  rw [quoted_blank (by simp [atDocumentMark]) (by decide) (by decide),
    quoted_blank (by simp [atDocumentMark]) (by decide) (by decide)]
  rfl

theorem quoted_newline :
    quoted double (.text gap) ('\n' :: cs) = quoted double (.text (gap.addBreak '\n')) cs :=
  quoted_break (by simp [atDocumentMark]) (by decide)

/-! ## Single quotes -/

/-- A gap is the one that is left within a text between single quotes, behind the character
`previous` and in front of `cs`. -/
def Gap.Behind (previous : Char) (cs : List Char) : Gap → Prop
  | none => previous ≠ '\n'
  | blanks _ => previous = ' ' ∧ cs.head? ≠ some '\n'
  | lines first? more column => first? = some '\n' ∧
      ((more = [] ∧ column ≠ 0 ∧ previous = ' ' ∧ cs.head?.any separates = false) ∨
        (more ≠ [] ∧ previous = '\n' ∧ cs.head? ≠ some ' ' ∧ (column = 0 ↔ cs.head? = some '\n')))

namespace Gap

theorem text_lines (h : more ≠ []) : (lines (some '\n') more column).text = more.reverse := by
  simp [text, h]

/-- In front of anything else than a line end a line has begun with its indentation. -/
theorem Behind.atLineStart (behind : gap.Behind previous cs) (inLine : cs.head? ≠ some '\n') :
    gap.atLineStart = false := by
  cases gap with
  | none | blanks => rfl
  | lines first? more column =>
    have indented : column ≠ 0 := by
      obtain ⟨-, ⟨-, indented, -⟩ | ⟨-, -, -, bare⟩⟩ := behind
      · exact indented
      · exact fun zero => inLine (bare.mp zero)
    cases column with
    | zero => exact absurd rfl indented
    | succ => rfl

/-- A blank stands behind a blank or behind a character of a word. -/
theorem Behind.of_blank (behind : gap.Behind previous (' ' :: cs)) (apart : cs.head? ≠ some '\n') :
    (gap.addBlank ' ').Behind ' ' cs ∧ (gap.addBlank ' ').text = gap.text ++ [' '] := by
  cases gap with
  | none => exact ⟨⟨rfl, apart⟩, rfl⟩
  | blanks bs => exact ⟨⟨rfl, apart⟩, by simp [addBlank, text]⟩
  | lines =>
    obtain ⟨-, ⟨-, -, -, word⟩ | ⟨-, -, word, -⟩⟩ := behind
    · cases word
    · exact absurd rfl word

/-- Between a word and a blank there is no gap. -/
theorem Behind.eq_none (behind : gap.Behind previous (' ' :: cs)) (word : previous ≠ ' ') :
    gap = none := by
  cases gap with
  | none => rfl
  | blanks => exact absurd behind.1 word
  | lines =>
    obtain ⟨-, ⟨-, -, same, -⟩ | ⟨-, -, next, -⟩⟩ := behind
    · exact absurd same word
    · exact absurd rfl next

end Gap

/-- A line end of the text is read with the indentation behind it. -/
theorem quoted_newlines (behind : gap.Behind previous ('\n' :: cs)) (next : cs.head? ≠ some ' ') :
    ∃ gap' : Gap, gap'.Behind '\n' cs ∧ gap'.text = gap.text ++ ['\n'] ∧ ∀ more,
      quoted false (.text gap) ((if previous = '\n' then [] else ['\n']) ++ '\n' ::
        ((if cs.head? = some '\n' then [] else [' ', ' ']) ++ more)) =
      quoted false (.text gap') more := by
  -- The line ends that are read by then, of which the first one is not in the text.
  obtain ⟨ends, some, text, read⟩ : ∃ ends : List Char, ends ≠ [] ∧
      ends.reverse = gap.text ++ ['\n'] ∧ ∀ more,
        quoted false (.text gap) ((if previous = '\n' then [] else ['\n']) ++ '\n' :: more) =
          quoted false (.text (.lines (some '\n') ends 0)) more := by
    cases gap with
    | none =>
      refine ⟨['\n'], by simp, rfl, fun more => ?_⟩
      rw [if_neg behind, List.singleton_append, quoted_newline, quoted_newline]
      rfl
    | blanks => exact absurd rfl behind.2
    | lines first? ends column =>
      obtain ⟨rfl, ⟨-, -, -, word⟩ | ⟨some, rfl, -, bare⟩⟩ := behind
      · cases word
      · obtain rfl := bare.mpr rfl
        refine ⟨'\n' :: ends, by simp, by simp [Gap.text_lines some], fun more => ?_⟩
        rw [if_pos rfl, List.nil_append, quoted_newline]
        rfl
  by_cases again : cs.head? = .some '\n'
  · refine ⟨.lines (.some '\n') ends 0, ⟨rfl, .inr ⟨some, rfl, next, by simp [again]⟩⟩,
      by rw [Gap.text_lines some, text], fun more => ?_⟩
    rw [if_pos again, List.nil_append, read]
  · refine ⟨.lines (.some '\n') ends 2, ⟨rfl, .inr ⟨some, rfl, next, by simp [again]⟩⟩,
      by rw [Gap.text_lines some, text], fun more => ?_⟩
    rw [if_neg again, read]
    exact quoted_indentation

/-- **A text between single quotes** is read back, from any place within it. -/
theorem quoted_foldedFrom (ordinary : cs.all (!isSpecial ·) = true)
    (apart : blankAtBreak cs = false) (behind : gap.Behind previous cs)
    (closed : rest.head? ≠ some '\'') :
    quoted false (.text gap) (foldedFrom true column previous cs ++ '\'' :: rest) =
      .ok (gap.text ++ cs, rest) := by
  -- Induction on the text, along which the writer goes: the column only tells where it breaks a
  -- line, so nothing has to be known of it.
  induction cs generalizing gap previous column with
  | nil =>
    rw [foldedFrom, List.nil_append, quoted_close closed, List.append_nil]
  | cons c cs ih =>
    obtain ⟨plain, ordinary⟩ : isSpecial c = false ∧ cs.all (!isSpecial ·) = true := by
      simpa using ordinary
    rw [blankAtBreak_cons, Bool.or_eq_false_iff] at apart
    obtain ⟨beside, apart⟩ := apart
    by_cases blank : c = ' '
    · subst blank
      have next : cs.head? ≠ some '\n' := by
        intro there
        rw [there] at beside
        cases beside
      rw [foldedFrom_blank]
      split
      · next broken =>
        simp only [Bool.and_eq_true, decide_eq_true_eq] at broken
        obtain ⟨⟨word, more⟩, -⟩ := broken
        obtain rfl := behind.eq_none word
        have wordNext : cs.head?.any separates = false := by
          cases cs with
          | nil => rfl
          | cons d cs =>
            have inLine : d ≠ '\n' := fun same => next (by rw [same]; rfl)
            simpa [separates, inLine] using more
        have behind' : Gap.Behind ' ' cs (.lines (some '\n') [] 2) :=
          ⟨rfl, .inl ⟨rfl, by decide, rfl, wordNext⟩⟩
        rw [List.cons_append, List.cons_append, List.cons_append, quoted_newline,
          show Gap.addBreak '\n' .none = .lines (some '\n') [] 0 from rfl, quoted_indentation,
          ih ordinary apart behind']
        rfl
      · obtain ⟨behind', text⟩ := behind.of_blank next
        rw [List.cons_append, quoted_blank (by simp [atDocumentMark]) (by decide) (by decide),
          ih ordinary apart behind', text, List.append_assoc]
        rfl
    · by_cases newline : c = '\n'
      · subst newline
        have next : cs.head? ≠ some ' ' := by
          intro there
          rw [there] at beside
          cases beside
        obtain ⟨gap', behind', text, read⟩ := quoted_newlines behind next
        rw [foldedFrom_newline, List.append_assoc, List.cons_append, List.append_assoc, read,
          ih ordinary apart behind', text, List.append_assoc]
        rfl
      · have none : Gap.Behind c cs .none := newline
        by_cases quote : c = '\''
        · subst quote
          rw [foldedFrom_quote, List.cons_append, List.cons_append, quoted_twoQuotes,
            ih ordinary apart none]
          exact before_text gap _ cs rest
        · have free : gap.atLineStart = false := behind.atLineStart (by simpa using newline)
          rw [foldedFrom_char blank newline (by simp [quote]), List.cons_append,
            quoted_char (by rw [free, Bool.false_and]) (isBreak_of_ordinary plain newline)
              (isBlank_of_ordinary plain blank) (fun _ => quote) (by simp),
            ih ordinary apart none]
          exact before_text gap c cs rest

/-! ## Escapes -/

theorem hexValue?_capital : ∀ d < 16, Text.hexValue? (Text.hexDigit d).toUpper = some d := by
  decide

theorem capitalDigits_succ (width n : Nat) : capitalDigits (width + 1) n =
    capitalDigits width (n / 16) ++ [(Text.hexDigit (n % 16)).toUpper] := by
  simp [capitalDigits, Text.hexDigits]

/-- The digits of a number are read in front of others. -/
theorem quoted_capitalDigits (width n value left : Nat) (cs : List Char) :
    quoted true (.number (width + (left + 1)) value) (capitalDigits width n ++ cs) =
      quoted true (.number (left + 1) (16 ^ width * value + n % 16 ^ width)) cs := by
  induction width generalizing n left cs with
  | zero => simp [capitalDigits, Text.hexDigits, Nat.mod_one]
  | succ width ih =>
    have digit := hexValue?_capital (n % 16) (Nat.mod_lt _ (by decide))
    have whole : 16 * (16 ^ width * value + n / 16 % 16 ^ width) + n % 16 =
        16 ^ (width + 1) * value + n % 16 ^ (width + 1) := by
      rw [Nat.pow_succ, Nat.mul_comm (16 ^ width) 16, Nat.mod_mul, Nat.mul_add, Nat.mul_assoc]
      omega
    rw [capitalDigits_succ, List.append_assoc,
      show width + 1 + (left + 1) = width + (left + 1 + 1) by omega, ih, List.singleton_append,
      quoted_digit digit]
    simp [whole]

theorem toNat_le (c : Char) : c.toNat ≤ 0x10ffff := by
  have valid := c.valid
  have number : c.val.toNat = c.toNat := rfl
  simp only [UInt32.isValidChar, Nat.isValidChar, number] at valid
  omega

/-- The number of a character is read as that character. -/
theorem quoted_number {width : Nat} (fits : c.toNat < 16 ^ (width + 1)) :
    quoted true (.number (width + 1) 0) (capitalDigits (width + 1) c.toNat ++ cs) =
      before [c] (quoted true (.text .none) cs) := by
  have front : c.toNat / 16 % 16 ^ width = c.toNat / 16 :=
    Nat.mod_eq_of_lt (by rw [Nat.pow_succ] at fits; omega)
  have digit := hexValue?_capital (c.toNat % 16) (Nat.mod_lt _ (by decide))
  have whole : 16 * (c.toNat / 16) + c.toNat % 16 = c.toNat := Nat.div_add_mod _ _
  have least := toNat_le c
  rw [capitalDigits_succ, List.append_assoc, ← Nat.zero_add 1, quoted_capitalDigits, front,
    List.singleton_append, quoted_digit digit]
  simp [whole, Nat.not_lt.mpr least, Char.ofNat_toNat]

theorem quoted_backslash (free : gap.atLineStart = false) : quoted true (.text gap) ('\\' :: cs) =
    before gap.text (quoted true .backslash cs) := by
  simp [quoted, free, isBreak, isBlank]

/-- The letters that are written behind a backslash are read as what they are written for. -/
theorem find?_escapes : ∀ p ∈ escapeLetters, isBreak p.2 = false ∧
    escapes.find? (fun e => decide (e.1 = p.2)) = some (p.2, p.1) := by
  decide

theorem before_before (as bs : List Char) (x : Except ScanError (List Char × List Char)) :
    before as (before bs x) = before (as ++ bs) x := by
  cases x <;> simp [before]

/-- The escape of a character is read as that character. -/
theorem quoted_escape (escape : escapeOf? c = some word) (free : gap.atLineStart = false) :
    quoted true (.text gap) (word ++ cs) =
      before (gap.text ++ [c]) (quoted true (.text .none) cs) := by
  have digits {letter : Char} {width : Nat} (counted : escapeDigits? letter = some (width + 1))
      (fits : c.toNat < 16 ^ (width + 1)) (inLine : isBreak letter = false)
      (other : escapes.find? (fun e => decide (e.1 = letter)) = none) :
      quoted true (.text gap) ('\\' :: letter :: capitalDigits (width + 1) c.toNat ++ cs) =
        before (gap.text ++ [c]) (quoted true (.text .none) cs) := by
    rw [List.cons_append, List.cons_append, quoted_backslash free, quoted, inLine, other, counted]
    simp only [Bool.false_eq_true, if_false, quoted_number fits, before_before]
  rw [escapeOf?] at escape
  cases found : escapeLetters.lookup c with
  | some letter =>
    rw [found] at escape
    obtain rfl := Option.some.inj escape
    obtain ⟨front, back, same, -⟩ := List.lookup_eq_some_iff.mp found
    have there : (c, letter) ∈ escapeLetters := by rw [same]; simp
    obtain ⟨inLine, known⟩ := find?_escapes _ there
    rw [List.cons_append, quoted_backslash free, List.singleton_append, quoted, known, inLine]
    simp only [Bool.false_eq_true, if_false, before_before]
  | none =>
    rw [found] at escape
    simp only at escape
    split at escape
    · cases escape
    · split at escape
      · next small =>
        obtain rfl := Option.some.inj escape
        exact digits rfl small (by decide) (by decide)
      · split at escape
        · next small =>
          obtain rfl := Option.some.inj escape
          exact digits rfl small (by decide) (by decide)
        · obtain rfl := Option.some.inj escape
          have small := toNat_le c
          exact digits rfl (by omega) (by decide) (by decide)

/-! ## Double quotes -/

/-- A character without an escape is plain ASCII and neither a quote nor a backslash. -/
theorem ordinary_of_unescaped (unescaped : escapeOf? c = none) :
    isSpecial c = false ∧ c ≠ '\n' ∧ c ≠ '"' ∧ c ≠ '\\' := by
  have apart (d : Char) (escaped : (escapeOf? d).isSome = true) : c ≠ d := by
    rintro rfl
    rw [unescaped] at escaped
    cases escaped
  refine ⟨?_, apart '\n' (by decide), apart '"' (by decide), apart '\\' (by decide)⟩
  rw [escapeOf?] at unescaped
  split at unescaped
  · cases unescaped
  · simp only at unescaped
    split at unescaped
    · next inside =>
      simp [isSpecial, inside.1, inside.2]
    · split at unescaped
      · cases unescaped
      · split at unescaped <;> cases unescaped

/-- A gap is one that is left within a text between double quotes, in front of `cs`. -/
def Gap.Within (cs : List Char) : Gap → Prop
  | lines first? more column => first? = Option.none ∧ more = [] ∧ column ≠ 0 ∧ cs.head? ≠ some ' '
  | _ => True

theorem Gap.Within.atLineStart (within : gap.Within cs) : gap.atLineStart = false := by
  cases gap with
  | none | blanks => rfl
  | lines first? more column =>
    cases column with
    | zero => exact absurd rfl within.2.2.1
    | succ => rfl

/-- A blank that begins no line is kept. -/
theorem Gap.Within.of_blank (more : List Char) (within : gap.Within (' ' :: cs)) :
    (gap.addBlank ' ').Within more ∧ (gap.addBlank ' ').text = gap.text ++ [' '] := by
  cases gap with
  | none => exact ⟨trivial, rfl⟩
  | blanks bs => exact ⟨trivial, by simp [addBlank, text]⟩
  | lines => exact absurd rfl within.2.2.2

theorem escapedFrom_escape (first escaped : Bool) (column : Nat) (cs : List Char)
    (escape : escapeOf? c = some word) :
    (∃ column', escapedFrom first escaped column (c :: cs) =
      word ++ escapedFrom false true column' cs) ∨
    escapedFrom first escaped column (c :: cs) =
      word ++ (brokenLine cs.head? ++ escapedFrom false true (columnAfterBreak cs.head?) cs) := by
  rw [escapedFrom, escape]
  simp only [List.append_assoc]
  split
  · exact .inr rfl
  · exact .inl ⟨_, rfl⟩

theorem escapedFrom_char (first escaped : Bool) (column : Nat) (cs : List Char)
    (unescaped : escapeOf? c = none) :
    ∃ column', escapedFrom first escaped column (c :: cs) =
        c :: escapedFrom false false column' cs ∨
      escapedFrom first escaped column (c :: cs) =
        brokenLine (some c) ++ c :: escapedFrom false false column' cs := by
  rw [escapedFrom, unescaped]
  simp only
  split
  · exact ⟨_, .inr rfl⟩
  · exact ⟨_, .inl rfl⟩

/-- A blank is not broken off where a line has just begun. -/
theorem escapedFrom_blank {first escaped : Bool} (short : column ≤ width) :
    escapedFrom first escaped column (' ' :: cs) =
      ' ' :: escapedFrom false false (column + 1) cs := by
  have unescaped : escapeOf? ' ' = none := by decide
  rw [escapedFrom, unescaped]
  simp [Nat.not_lt.mpr short]

/-- A line that is broken off stands for nothing, but for the mark of a blank behind it. -/
theorem quoted_brokenLine {next? : Option Char} (free : gap.atLineStart = false) :
    quoted true (.text gap) (brokenLine next? ++ more) = before gap.text
      (if next? = some ' ' then quoted true .backslash more
        else quoted true (.text (.lines none [] 2)) more) := by
  have newline (more : List Char) : quoted true .backslash ('\n' :: ' ' :: ' ' :: more) =
      quoted true (.text (.lines none [] 2)) more := by
    rw [quoted, if_pos (by decide)]
    exact quoted_indentation
  have none (x : Except ScanError (List Char × List Char)) : before [] x = x := by
    cases x <;> rfl
  split
  · next blank =>
    have written : brokenLine next? ++ more =
        '\\' :: '\n' :: ' ' :: ' ' :: '\\' :: more := by simp [brokenLine, blank, indentation]
    rw [written, quoted_backslash free, newline, quoted_backslash rfl]
    exact congrArg _ (none _)
  · next other =>
    have written : brokenLine next? ++ more = '\\' :: '\n' :: ' ' :: ' ' :: more := by
      simp [brokenLine, other, indentation]
    rw [written, quoted_backslash free, newline]

theorem quoted_markedBlank : quoted true .backslash (' ' :: cs) =
    before [' '] (quoted true (.text .none) cs) := by
  have known : escapes.find? (fun e => decide (e.1 = ' ')) = some (' ', ' ') := by decide
  rw [quoted, known]
  simp only [show isBreak ' ' = false by decide, Bool.false_eq_true, if_false]

/-- A text between double quotes is read back, from any place within it: behind a gap, and behind
the mark of a blank. -/
theorem quoted_escapedFrom_aux (cs rest : List Char) :
    (∀ gap : Gap, gap.Within cs → ∀ first escaped column,
      quoted true (.text gap) (escapedFrom first escaped column cs ++ '"' :: rest) =
        .ok (gap.text ++ cs, rest)) ∧
    (cs.head? = some ' ' → ∀ escaped column, column ≤ width →
      quoted true .backslash (escapedFrom false escaped column cs ++ '"' :: rest) =
        .ok (cs, rest)) := by
  -- The second part is for a blank behind a broken line, which has a mark of its own in front: the
  -- writer does not break the line there again, as the column is small.
  induction cs with
  | nil =>
    refine ⟨fun gap within first escaped column => ?_, fun blank => absurd blank (by simp)⟩
    simp [escapedFrom, quoted, within.atLineStart, isBreak, isBlank]
  | cons c cs ih =>
    obtain ⟨ih, marked⟩ := ih
    constructor
    · intro gap within first escaped column
      have free := within.atLineStart
      cases escape : escapeOf? c with
      | some word =>
        obtain ⟨column', written⟩ | written := escapedFrom_escape _ _ _ _ escape
        · rw [written, List.append_assoc, quoted_escape escape free, ih .none trivial]
          exact before_text gap c cs rest
        · rw [written, List.append_assoc, List.append_assoc, quoted_escape escape free,
            quoted_brokenLine rfl]
          by_cases blank : cs.head? = some ' '
          · have short : columnAfterBreak cs.head? ≤ width := by rw [blank]; decide
            rw [if_pos blank, marked blank true _ short]
            exact before_text gap c cs rest
          · rw [if_neg blank, ih (.lines none [] 2) ⟨rfl, rfl, by decide, blank⟩]
            exact before_text gap c cs rest
      | none =>
        obtain ⟨ordinary, inLine, quote, backslash⟩ := ordinary_of_unescaped escape
        obtain ⟨column', written | written⟩ := escapedFrom_char _ _ _ _ escape
        · rw [written, List.cons_append]
          by_cases blank : c = ' '
          · subst blank
            obtain ⟨within', text⟩ := within.of_blank cs
            rw [quoted_blank (by rw [free, Bool.false_and]) (by decide) (by decide),
              ih _ within', text, List.append_assoc]
            rfl
          · rw [quoted_char (by rw [free, Bool.false_and]) (isBreak_of_ordinary ordinary inLine)
              (isBlank_of_ordinary ordinary blank) (by simp) (fun _ => ⟨quote, backslash⟩),
              ih .none trivial]
            exact before_text gap c cs rest
        · rw [written, List.append_assoc, quoted_brokenLine free, List.cons_append]
          by_cases blank : c = ' '
          · subst blank
            rw [if_pos rfl, quoted_markedBlank, ih .none trivial]
            simp [before, Gap.text]
          · rw [if_neg (by simpa using blank), quoted_char (by simp [Gap.atLineStart])
              (isBreak_of_ordinary ordinary inLine) (isBlank_of_ordinary ordinary blank) (by simp)
              (fun _ => ⟨quote, backslash⟩), ih .none trivial]
            simp [before, Gap.text]
    · intro blank escaped column short
      obtain rfl : c = ' ' := by simpa using blank
      rw [escapedFrom_blank short, List.cons_append, quoted_markedBlank, ih .none trivial]
      rfl

/-- **A text between double quotes** is read back. -/
theorem quoted_escapedFrom (column : Nat) (cs rest : List Char) :
    quoted true (.text .none) (escapedFrom true false column cs ++ '"' :: rest) = .ok (cs, rest) :=
  (quoted_escapedFrom_aux cs rest).1 .none trivial true false column

end CauseTrail.Yaml
