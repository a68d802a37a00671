import CauseTrail.Console.Screen
import CauseTrail.Proofs.Console.Emoji
import CauseTrail.Refusal
import Mathlib.Data.List.Basic

/-!
# Escaped texts between others

An escaped text has the pieces of the text that was escaped, but for the backslashes before its
tags: they have become odd in number, so that the tags are shown as texts. This holds wherever the
escaped text stands, as long as what stands behind it does not complete a tag that begins in it. So
an escaped text is printed whatever it is, under whatever tags are open there.

Not all of it is printed as it is: of the backslashes before an opening bracket that begins no tag
one is dropped, and a text that ends in a single backslash is printed with two.

## Main definitions

* `Markup.Inert`: a text that completes nothing that stands in front of it
* `Markup.Piece.guarded`: a piece of a text after the text was escaped
* `Markup.Shows`: what pieces show under open tags
* `Markup.told`: what is shown of an escaped text

## Main results

* `Markup.pieces_induction`: induction on the pieces of a text
* `Markup.pieces_escapeChars`: the pieces of an escaped text, wherever it stands
* `Markup.shows_escapeChars`: an escaped text is shown, whatever is open there
-/

namespace CauseTrail.Markup

variable {cs inner front back : List Char} {text : Seamed} {ps qs : List Piece}
  {stack : List String}

/-! ## Tags -/

/-- What is between the brackets of a tag, whatever stands behind it. -/
def IsInner (inner : List Char) : Prop := ∀ rest, inner? (inner ++ ']' :: rest) = some inner

theorem exists_of_upToBracket (closed : upToBracket cs = some inner) :
    ∃ rest, cs = inner ++ ']' :: rest ∧
      ∀ rest', upToBracket (inner ++ ']' :: rest') = some inner := by
  induction cs generalizing inner with
  | nil => cases closed
  | cons c cs ih =>
    rw [upToBracket] at closed
    split at closed
    next last =>
      obtain rfl := Option.some.inj closed
      exact ⟨cs, by rw [last]; rfl, fun rest' => rfl⟩
    next other =>
      split at closed
      next => cases closed
      next unopened =>
        obtain ⟨inner, behind, rfl⟩ := Option.map_eq_some_iff.mp closed
        obtain ⟨rest, rfl, same⟩ := ih behind
        refine ⟨rest, rfl, fun rest' => ?_⟩
        rw [List.cons_append, upToBracket, if_neg other, if_neg unopened, same, Option.map_some]

/-- What is found to be a tag is one whatever stands behind it. -/
theorem exists_of_inner? (closed : inner? cs = some inner) :
    ∃ rest, cs = inner ++ ']' :: rest ∧ IsInner inner := by
  cases cs with
  | nil => cases closed
  | cons c cs =>
    rw [inner?] at closed
    split at closed
    next begins =>
      obtain ⟨inner, behind, rfl⟩ := Option.map_eq_some_iff.mp closed
      obtain ⟨rest, rfl, same⟩ := exists_of_upToBracket behind
      refine ⟨rest, rfl, fun rest' => ?_⟩
      rw [List.cons_append, inner?, if_pos begins, same, Option.map_some]
    next => cases closed

theorem upToBracket_slashes (n : Nat) (cs : List Char) :
    upToBracket (List.replicate n '\\' ++ cs) = none ↔ upToBracket cs = none := by
  induction n with
  | zero => rfl
  | succ n ih => simpa [List.replicate_succ, upToBracket] using ih

/-- A text without the end of a tag has none behind its first character either. -/
theorem inner?_of_upToBracket (unclosed : upToBracket cs = none) : inner? cs = none := by
  cases cs with
  | nil => rfl
  | cons c cs =>
    rw [inner?]
    split
    next begins =>
      have unopened : c ≠ '[' := by rintro rfl; exact absurd begins (by decide)
      have other : c ≠ ']' := by rintro rfl; exact absurd begins (by decide)
      rwa [upToBracket, if_neg other, if_neg unopened] at unclosed
    next => rfl

/-! ## Pieces -/

section Pieces

variable {c : Char} {n : Nat}

theorem piecesFrom_skip (k n : Nat) (cs : List Char) :
    piecesFrom k n cs = piecesFrom 0 n (cs.drop k) := by
  induction k generalizing cs with
  | zero => rfl
  | succ k ih =>
    cases cs with
    | nil => rfl
    | cons c cs => rw [piecesFrom, ih, List.drop_succ_cons]

theorem piecesFrom_nil (n : Nat) : piecesFrom 0 n [] = List.replicate n (.char '\\') := rfl

theorem piecesFrom_slash (n : Nat) (cs : List Char) :
    piecesFrom 0 n ('\\' :: cs) = piecesFrom 0 (n + 1) cs := by
  rw [piecesFrom, if_pos rfl]

theorem piecesFrom_slashes (k n : Nat) (cs : List Char) :
    piecesFrom 0 n (List.replicate k '\\' ++ cs) = piecesFrom 0 (n + k) cs := by
  induction k generalizing n with
  | zero => rfl
  | succ k ih =>
    rw [List.replicate_succ, List.cons_append, piecesFrom_slash, ih, Nat.succ_add_eq_add_succ]

/-- A tag is one piece with the backslashes before it. -/
theorem piecesFrom_tag (tag : IsInner inner) (n : Nat) (rest : List Char) :
    piecesFrom 0 n ('[' :: (inner ++ ']' :: rest)) = .tag n inner :: piecesFrom 0 0 rest := by
  have behind : (inner ++ ']' :: rest).drop (inner.length + 1) = rest := by simp
  rw [piecesFrom, if_neg (by decide), if_pos rfl, tag rest]
  simp only
  rw [piecesFrom_skip, behind]

theorem pieces_tag (tag : IsInner inner) (rest : List Char) :
    pieces ('[' :: (inner ++ ']' :: rest)) = .tag 0 inner :: pieces rest :=
  piecesFrom_tag tag 0 rest

theorem piecesFrom_bracket (plain : inner? cs = none) (n : Nat) :
    piecesFrom 0 n ('[' :: cs) = .bracket n :: piecesFrom 0 0 cs := by
  rw [piecesFrom, if_neg (by decide), if_pos rfl, plain]

/-- A character that is neither a bracket nor a backslash sets the backslashes before it free. -/
theorem piecesFrom_char (slash : c ≠ '\\') (bracket : c ≠ '[') (n : Nat) (cs : List Char) :
    piecesFrom 0 n (c :: cs) =
      List.replicate n (.char '\\') ++ .char c :: piecesFrom 0 0 cs := by
  rw [piecesFrom, if_neg slash, if_neg bracket]

end Pieces

/-- **Induction on the pieces** of a text. -/
@[elab_as_elim]
theorem pieces_induction {motive : List Char → Prop} (nil : motive [])
    (slash : ∀ cs, motive cs → motive ('\\' :: cs))
    (tag : ∀ inner rest, IsInner inner → motive rest → motive ('[' :: (inner ++ ']' :: rest)))
    (bracket : ∀ cs, inner? cs = none → motive cs → motive ('[' :: cs))
    (char : ∀ c cs, c ≠ '\\' → c ≠ '[' → motive cs → motive (c :: cs)) (cs : List Char) :
    motive cs := by
  -- a tag is one piece of several characters, so the induction is on the length
  induction size : cs.length using Nat.strongRecOn generalizing cs with
  | ind size ih =>
    cases cs with
    | nil => exact nil
    | cons c cs =>
      have shorter := ih cs.length (by rw [← size]; exact Nat.lt_succ_self _) cs rfl
      by_cases isSlash : c = '\\'
      · exact isSlash ▸ slash cs shorter
      by_cases isBracket : c = '['
      · subst isBracket
        cases closed : inner? cs with
        | none => exact bracket cs closed shorter
        | some inner =>
          obtain ⟨rest, rfl, isInner⟩ := exists_of_inner? closed
          exact tag inner rest isInner
            (ih rest.length (by rw [← size]; simp; omega) rest rfl)
      · exact char c cs isSlash isBracket shorter

/-! ## Escaping -/

/-- A piece of a text after the text was escaped. -/
def Piece.guarded : Piece → Piece
  | tag slashes inner => .tag (2 * slashes + 1) inner
  | p => p

/-- What is written for a text that stands behind `n` backslashes. -/
def escapedFrom (n : Nat) (cs : List Char) : List Char :=
  (piecesFrom 0 n cs).flatMap Piece.escaped

section EscapedFrom

variable {c : Char} {n : Nat}

theorem flatMap_escaped_slashes (n : Nat) :
    (List.replicate n (Piece.char '\\')).flatMap Piece.escaped = List.replicate n '\\' := by
  induction n with
  | zero => rfl
  | succ n ih => rw [List.replicate_succ, List.flatMap_cons, ih]; rfl

theorem escapedFrom_nil (n : Nat) : escapedFrom n [] = List.replicate n '\\' := by
  rw [escapedFrom, piecesFrom_nil, flatMap_escaped_slashes]

theorem escapedFrom_slash (n : Nat) (cs : List Char) :
    escapedFrom n ('\\' :: cs) = escapedFrom (n + 1) cs := by
  rw [escapedFrom, piecesFrom_slash, escapedFrom]

/-- A tag is written with its backslashes doubled and one more. -/
theorem escapedFrom_tag (tag : IsInner inner) (n : Nat) (rest : List Char) :
    escapedFrom n ('[' :: (inner ++ ']' :: rest)) =
      List.replicate (2 * n + 1) '\\' ++ '[' :: (inner ++ ']' :: escapedFrom 0 rest) := by
  rw [escapedFrom, piecesFrom_tag tag, List.flatMap_cons, Piece.escaped, escapedFrom]
  simp

theorem escapedFrom_bracket (plain : inner? cs = none) (n : Nat) :
    escapedFrom n ('[' :: cs) = List.replicate n '\\' ++ '[' :: escapedFrom 0 cs := by
  rw [escapedFrom, piecesFrom_bracket plain, List.flatMap_cons, escapedFrom]
  simp [Piece.escaped, Piece.source]

theorem escapedFrom_char (slash : c ≠ '\\') (bracket : c ≠ '[') (n : Nat) (cs : List Char) :
    escapedFrom n (c :: cs) = List.replicate n '\\' ++ c :: escapedFrom 0 cs := by
  rw [escapedFrom, piecesFrom_char slash bracket, List.flatMap_append, flatMap_escaped_slashes,
    List.flatMap_cons, escapedFrom]
  rfl

/-- Backslashes in front of a text are never less when it is escaped. -/
theorem exists_escapedFrom_succ (n : Nat) (cs : List Char) :
    ∃ rest, escapedFrom (n + 1) cs = '\\' :: rest := by
  induction cs using pieces_induction generalizing n with
  | nil => exact ⟨_, escapedFrom_nil (n + 1)⟩
  | slash cs ih =>
    rw [escapedFrom_slash]
    exact ih (n + 1)
  | tag inner rest isInner => exact ⟨_, escapedFrom_tag isInner (n + 1) rest⟩
  | bracket cs plain => exact ⟨_, escapedFrom_bracket plain (n + 1)⟩
  | char c cs slash bracket => exact ⟨_, escapedFrom_char slash bracket (n + 1) cs⟩

end EscapedFrom

/-- A text that completes nothing that stands in front of it: neither a tag nor the backslashes
before one. -/
structure Inert (back : List Char) : Prop where
  unclosed : upToBracket back = none
  unopened : ∀ n, piecesFrom 0 n back = List.replicate n (.char '\\') ++ pieces back

theorem inert_nil : Inert [] where
  unclosed := rfl
  unopened _ := (List.append_nil _).symm

theorem Inert.slashes (inert : Inert back) (k : Nat) :
    Inert (List.replicate k '\\' ++ back) where
  unclosed := (upToBracket_slashes k back).mpr inert.unclosed
  unopened n := by
    rw [pieces, piecesFrom_slashes, piecesFrom_slashes, inert.unopened, inert.unopened (0 + k),
      Nat.zero_add, ← List.append_assoc, List.replicate_append_replicate]

/-- A tag that is not closed is not closed when the text is escaped. -/
theorem upToBracket_escapedFrom (inert : Inert back) (n : Nat)
    (unclosed : upToBracket cs = none) : upToBracket (escapedFrom n cs ++ back) = none := by
  induction cs using pieces_induction generalizing n with
  | nil =>
    rw [escapedFrom_nil]
    exact (upToBracket_slashes n back).mpr inert.unclosed
  | slash cs ih =>
    rw [escapedFrom_slash]
    exact ih (n + 1) (by simpa [upToBracket] using unclosed)
  | tag inner rest isInner =>
    -- what is written here opens a bracket before it closes one
    rw [escapedFrom_tag isInner, List.append_assoc, upToBracket_slashes]
    rfl
  | bracket cs plain =>
    rw [escapedFrom_bracket plain, List.append_assoc, upToBracket_slashes]
    rfl
  | char c cs slash bracket ih =>
    have other : c ≠ ']' := by rintro rfl; cases unclosed
    rw [upToBracket, if_neg other, if_neg bracket, Option.map_eq_none_iff] at unclosed
    rw [escapedFrom_char slash bracket, List.append_assoc, upToBracket_slashes, List.cons_append,
      upToBracket, if_neg other, if_neg bracket, ih 0 unclosed, Option.map_none]

/-- A bracket that begins no tag begins none when the text is escaped. -/
theorem inner?_escapedFrom (inert : Inert back) (plain : inner? cs = none) :
    inner? (escapedFrom 0 cs ++ back) = none := by
  induction cs using pieces_induction with
  | nil => exact inner?_of_upToBracket inert.unclosed
  | slash cs =>
    obtain ⟨rest, begins⟩ := exists_escapedFrom_succ 0 cs
    rw [escapedFrom_slash, begins]
    rfl
  | tag inner rest isInner =>
    rw [escapedFrom_tag isInner]
    rfl
  | bracket cs none =>
    rw [escapedFrom_bracket none]
    rfl
  | char c cs slash bracket =>
    rw [escapedFrom_char slash bracket, List.replicate_zero, List.nil_append, List.cons_append,
      inner?]
    rw [inner?] at plain
    split at plain
    next begins =>
      rw [if_pos begins, upToBracket_escapedFrom inert 0 (Option.map_eq_none_iff.mp plain),
        Option.map_none]
    next other => rw [if_neg other]

/-- An escaped text has the pieces of the text, with its tags guarded. -/
theorem piecesFrom_escapedFrom (inert : Inert back) (n : Nat) (cs : List Char) :
    pieces (escapedFrom n cs ++ back) = (piecesFrom 0 n cs).map Piece.guarded ++ pieces back := by
  induction cs using pieces_induction generalizing n with
  | nil =>
    rw [escapedFrom_nil, pieces, piecesFrom_slashes, Nat.zero_add, inert.unopened, piecesFrom_nil,
      List.map_replicate]
    rfl
  | slash cs ih => rw [escapedFrom_slash, ih, piecesFrom_slash]
  | tag inner rest isInner ih =>
    rw [escapedFrom_tag isInner, List.append_assoc, List.cons_append, List.append_assoc,
      List.cons_append, pieces, piecesFrom_slashes, piecesFrom_tag isInner, ← pieces, ih,
      piecesFrom_tag isInner, Nat.zero_add]
    rfl
  | bracket cs plain ih =>
    rw [escapedFrom_bracket plain, List.append_assoc, List.cons_append, pieces, piecesFrom_slashes,
      piecesFrom_bracket (inner?_escapedFrom inert plain), ← pieces, ih, piecesFrom_bracket plain,
      Nat.zero_add]
    rfl
  | char c cs slash bracket ih =>
    rw [escapedFrom_char slash bracket, List.append_assoc, List.cons_append, pieces,
      piecesFrom_slashes, piecesFrom_char slash bracket, ← pieces, ih,
      piecesFrom_char slash bracket, Nat.zero_add]
    simp [Piece.guarded]

/-! ### The end of an escaped text -/

/-- How many backslashes a text ends in. -/
def endSlashes (cs : List Char) : Nat := (cs.reverse.takeWhile (· = '\\')).length

/-- Only what is behind the last other character counts. -/
theorem endSlashes_append_cons {c : Char} (other : c ≠ '\\') (front back : List Char) :
    endSlashes (front ++ c :: back) = endSlashes back := by
  have stops (cs rest : List Char) :
      (cs ++ c :: rest).takeWhile (· = '\\') = cs.takeWhile (· = '\\') := by
    induction cs with
    | nil => simp [other]
    | cons b cs ih => simp only [List.cons_append, List.takeWhile_cons, ih]
  rw [endSlashes, List.reverse_append, List.reverse_cons, List.append_assoc,
    List.singleton_append, stops, endSlashes]

/-- A text ends in as many backslashes after it was escaped, tags and all. -/
theorem endSlashes_escapedFrom (n : Nat) (cs : List Char) :
    endSlashes (escapedFrom n cs) = endSlashes (List.replicate n '\\' ++ cs) := by
  induction cs using pieces_induction generalizing n with
  | nil => rw [escapedFrom_nil, List.append_nil]
  | slash cs ih =>
    rw [escapedFrom_slash, ih, List.replicate_succ', List.append_assoc, List.singleton_append]
  | tag inner rest isInner ih =>
    rw [escapedFrom_tag isInner, ← List.cons_append, ← List.append_assoc,
      endSlashes_append_cons (by decide), ih, ← List.cons_append, ← List.append_assoc,
      endSlashes_append_cons (by decide)]
    rfl
  | bracket cs plain ih =>
    rw [escapedFrom_bracket plain, endSlashes_append_cons (by decide), ih,
      endSlashes_append_cons (by decide)]
    rfl
  | char c cs slash bracket ih =>
    rw [escapedFrom_char slash bracket, endSlashes_append_cons slash, ih,
      endSlashes_append_cons slash]
    rfl

/-- How many backslashes escaping adds at the end of a text. -/
def guards (cs : List Char) : Nat := if endSlashes cs = 1 then 1 else 0

theorem guards_le_one (cs : List Char) : guards cs ≤ 1 := by
  rw [guards]
  split <;> decide

theorem guards_eq_zero_iff : guards cs = 0 ↔ endSlashes cs ≠ 1 := by
  rw [guards]
  split <;> simp [*]

theorem guardEnd_eq (cs : List Char) : guardEnd cs = cs ++ List.replicate (guards cs) '\\' := by
  rw [guardEnd, guards, endSlashes]
  split
  next rest ends => simp [ends]
  next rest single ends =>
    have other : rest.takeWhile (· = '\\') = [] := by
      cases rest with
      | nil => rfl
      | cons c rest => exact List.takeWhile_cons_of_neg (by rintro h; simp_all)
    simp [ends, other]
  next none =>
    have other : cs.reverse.takeWhile (· = '\\') = [] := by
      cases ends : cs.reverse with
      | nil => rfl
      | cons c rest => exact List.takeWhile_cons_of_neg (by rintro h; simp_all)
    simp [other]

/-- **The pieces of an escaped text**, in front of a text that completes nothing. -/
theorem pieces_escapeChars (inert : Inert back) (cs : List Char) :
    pieces (escapeChars cs ++ back) =
      (pieces cs ++ List.replicate (guards cs) (Piece.char '\\')).map Piece.guarded ++
        pieces back := by
  -- the backslash at the end stands in front of what is behind, where it completes nothing either
  have inert' := inert.slashes (guards cs)
  have written : (pieces cs).flatMap Piece.escaped = escapedFrom 0 cs := rfl
  have same : guards (escapedFrom 0 cs) = guards cs := by
    rw [guards, endSlashes_escapedFrom]
    rfl
  rw [escapeChars, written, guardEnd_eq, same, List.append_assoc, piecesFrom_escapedFrom inert',
    pieces, piecesFrom_slashes, Nat.zero_add, inert.unopened, List.map_append, List.map_replicate,
    List.append_assoc]
  rfl

/-! ## Rendering -/

/-- What pieces show under open tags, the last one first. -/
def Shows (stack : List String) (ps : List Piece) (text : Seamed) : Prop :=
  ∀ position, renderPieces position stack ps = .ok text

/-- What a piece of an escaped text shows. -/
def Piece.shown : Piece → List Char
  | bracket slashes => List.replicate (slashes - 1) '\\' ++ ['[']
  | p => p.source

/-- What a piece of an escaped text shows, with seams around a tag. -/
def Piece.seamed : Piece → Seamed
  | tag slashes inner => none :: List.replicate slashes (some '\\') ++
      none :: ('[' :: inner ++ [']']).map some ++ [none]
  | p => p.shown.map some

theorem Piece.reduceOption_seamed (p : Piece) : p.seamed.reduceOption = p.shown := by
  cases p with
  | char c => rfl
  | bracket n => exact Emoji.reduceOption_map_some _
  | tag n inner =>
    have slashes : List.replicate n (some '\\') = (List.replicate n '\\').map some :=
      List.map_replicate.symm
    simp only [seamed, slashes, List.reduceOption_append, List.cons_append,
      List.reduceOption_cons_of_none, Emoji.reduceOption_map_some, List.reduceOption_nil,
      List.append_nil, List.append_assoc, shown, source]

namespace Shows

theorem nil (stack : List String) : Shows stack [] [] := fun _ => rfl

/-- The pieces of an escaped text are shown, and leave open tags alone. -/
theorem guarded (shows : Shows stack qs text) (ps : List Piece) :
    Shows stack (ps.map Piece.guarded ++ qs) (ps.flatMap Piece.seamed ++ text) := by
  induction ps with
  | nil => exact shows
  | cons p ps ih =>
    intro position
    cases p with
    | char c =>
      simp only [List.map_cons, Piece.guarded, List.cons_append, renderPieces, ih (position + 1),
        Except.ok_map, List.flatMap_cons, Piece.seamed, Piece.shown, Piece.source, List.map_nil,
        List.nil_append]
    | bracket n =>
      simp only [List.map_cons, Piece.guarded, List.cons_append, renderPieces,
        ih (position + n + 1), Except.ok_map, List.flatMap_cons, Piece.seamed, Piece.shown,
        List.map_append, List.map_replicate, List.map_nil, List.append_assoc, List.nil_append]
    | tag n inner =>
      have odd : (2 * n + 1) % 2 = 1 := by omega
      have half : (2 * n + 1) / 2 = n := by omega
      simp only [List.map_cons, Piece.guarded, List.cons_append, renderPieces, odd, half, if_true,
        ih _, Except.ok_map, List.flatMap_cons, Piece.seamed, List.append_assoc, List.nil_append]

/-- Characters are shown as they are. -/
theorem chars (shows : Shows stack qs text) (cs : List Char) :
    Shows stack (cs.map .char ++ qs) (cs.map some ++ text) := by
  have fixed : (cs.map Piece.char).map Piece.guarded = cs.map .char := by
    rw [List.map_map]
    rfl
  have same : (cs.map Piece.char).flatMap Piece.seamed = cs.map some := by
    rw [List.flatMap_map]
    exact (List.map_eq_flatMap ..).symm
  simpa only [fixed, same] using shows.guarded (cs.map .char)

/-- A tag that opens leaves a seam. -/
theorem opened (opens : (tagName inner).head? ≠ some '/')
    (shows : Shows (styleName (tagName inner) :: stack) qs text) :
    Shows stack (.tag 0 inner :: qs) (none :: none :: text) := by
  intro position
  rw [renderPieces, if_neg (by decide)]
  split
  next name same => exact absurd (by rw [same]; rfl) opens
  next => rw [shows, Except.ok_map]; rfl

/-- A tag that closes leaves a seam. -/
theorem closed {name : List Char} {rest : List String} (closes : tagName inner = '/' :: name)
    (open' : close? name stack = some rest) (shows : Shows rest qs text) :
    Shows stack (.tag 0 inner :: qs) (none :: none :: text) := by
  intro position
  rw [renderPieces]
  simp only [closes, open', shows _, Except.ok_map]
  rfl

/-- Pieces are shown as texts are, with their emoji, but for what the console drops. -/
theorem render (shows : Shows [] (pieces cs) text) :
    render cs = .ok ((Emoji.replace text).filter isShown) := by
  rw [Markup.render, shows 0, Except.ok_map]

end Shows

/-- What is shown of a text that was escaped. -/
def told (cs : List Char) : List Char :=
  (pieces cs).flatMap Piece.shown ++ List.replicate (guards cs) '\\'

/-- What is shown of a text that was escaped, with its seams. -/
def seamed (cs : List Char) : Seamed :=
  (pieces cs).flatMap Piece.seamed ++ (List.replicate (guards cs) '\\').map some

theorem reduceOption_seamed (cs : List Char) : (seamed cs).reduceOption = told cs := by
  have flat (ps : List Piece) :
      (ps.flatMap Piece.seamed).reduceOption = ps.flatMap Piece.shown := by
    induction ps with
    | nil => rfl
    | cons p ps ih =>
      rw [List.flatMap_cons, List.reduceOption_append, ih, p.reduceOption_seamed,
        List.flatMap_cons]
  rw [seamed, List.reduceOption_append, flat, Emoji.reduceOption_map_some, told]

/-- **An escaped text** is shown wherever it stands in front of a text that completes nothing. -/
theorem shows_escapeChars (inert : Inert back) (shows : Shows stack (pieces back) text)
    (cs : List Char) : Shows stack (pieces (escapeChars cs ++ back)) (seamed cs ++ text) := by
  have ends : (List.replicate (guards cs) (Piece.char '\\')).flatMap Piece.seamed =
      (List.replicate (guards cs) '\\').map some := by
    rcases Nat.le_one_iff_eq_zero_or_eq_one.mp (guards_le_one cs) with none | one
    · rw [none]
      rfl
    · rw [one]
      rfl
  rw [pieces_escapeChars inert, seamed, ← ends, ← List.flatMap_append]
  exact shows.guarded _

/-! ## Texts without brackets -/

/-- Whether a character is a piece whatever is around it. -/
def isPlain (c : Char) : Bool := c ≠ '\\' && c ≠ '['

theorem isPlain_iff {c : Char} : isPlain c = true ↔ c ≠ '\\' ∧ c ≠ '[' := by
  simp [isPlain]

/-- Characters that are neither brackets nor backslashes are pieces, whatever is behind them. -/
theorem pieces_append (plain : front.all isPlain = true) (cs : List Char) :
    pieces (front ++ cs) = front.map .char ++ pieces cs := by
  induction front with
  | nil => rfl
  | cons c front ih =>
    rw [List.all_cons, Bool.and_eq_true] at plain
    obtain ⟨slash, bracket⟩ := isPlain_iff.mp plain.1
    rw [List.cons_append, pieces, piecesFrom_char slash bracket, ← pieces, ih plain.2]
    rfl

end CauseTrail.Markup
