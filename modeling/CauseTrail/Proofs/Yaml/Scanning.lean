import CauseTrail.Proofs.Yaml.PlainText
import CauseTrail.Refusal
import CauseTrail.Yaml.Token

/-!
# The tokens of a mapping

An entry of a mapping is a line of its own, with the name at its beginning, and a value that may
take up more lines, which are indented. So each entry has four tokens: the mark of a key, the name,
the mark of a value and the value. The mark of a key is found late, behind the name, together with
the beginning of the mapping at the first entry.

## Main definitions

* `KeyText`: the names that can be the key of an entry
* `Writable`: the entries that are written and read back
* `entryTokens`: the tokens of an entry
* `Scan.AtLine`, `Scan.AfterLine`: a scan in front of an entry, and behind one

## Main results

* `Scan.run_entry`: the tokens of an entry are found one after the other
* `Scan.run_entries`: the tokens of all entries are found
-/

namespace CauseTrail.Yaml

/-! ## Entries -/

/-- A text can be written as it is in front of the mark of a value. -/
structure KeyText (cs : List Char) : Prop where
  plain : styleOf cs = .plain
  word : ' ' ∉ cs
  short : cs.length ≤ 1024

/-- A value is written as one scalar. -/
def IsScalar : Value → Prop
  | .null | .bool _ | .text _ => True
  | _ => False

/-- An entry can be written and read back. -/
structure Writable (e : Value × Value) : Prop where
  key : ∃ name, e.1 = .text name ∧ KeyText name.toList
  value : IsScalar e.2

/-- The token of a value. -/
def valueToken : Value → Token
  | .null => .scalar "null" true
  | .bool b => .scalar (if b then "true" else "false") true
  | v => .scalar v.plain (decide (styleOf v.plain.toList = .plain))

/-- The tokens of an entry. -/
def entryTokens (e : Value × Value) : List Token :=
  [.key, .scalar e.1.plain true, .value, valueToken e.2]

/-! ## Places -/

namespace Cursor

variable {p : Cursor} {rest : List Char} {c : Char}

theorem rest_advance (p : Cursor) (n : Nat) : (p.advance n).rest = p.rest.drop n := by
  induction n generalizing p with
  | zero => rfl
  | succ n ih =>
    have one : p.step.rest = p.rest.tail := by
      rw [step]
      split
      · next empty => rw [empty]; rfl
      · next c cs here =>
        rw [here]
        split
        · rfl
        · split <;> rfl
    rw [advance, ih, one, List.drop_tail]

theorem advance_add (p : Cursor) (m n : Nat) : p.advance (m + n) = (p.advance m).advance n := by
  induction m generalizing p with
  | zero => rw [Nat.zero_add, advance]
  | succ m ih => rw [Nat.succ_add, advance, ih, advance]

theorem moveTo_eq (front : List Char) (here : p.rest = front ++ rest) :
    p.moveTo rest = p.advance front.length := by
  rw [moveTo, here, List.length_append, Nat.add_sub_cancel]

theorem rest_moveTo (front : List Char) (here : p.rest = front ++ rest) :
    (p.moveTo rest).rest = rest := by
  rw [moveTo_eq front here, rest_advance, here, List.drop_left]

@[simp] theorem moveTo_rest (p : Cursor) : p.moveTo p.rest = p := by
  rw [moveTo, Nat.sub_self, advance]

/-- Along a line the column goes with the characters. -/
theorem moveTo_line (front : List Char) (here : p.rest = front ++ rest)
    (inLine : ∀ c ∈ front, isBreak c = false ∧ c ≠ '\ufeff') : p.moveTo rest =
      ⟨rest, p.index + front.length, p.line, p.column + front.length⟩ := by
  rw [moveTo_eq front here]
  -- each character is one step to the right, from wherever the line has come to
  induction front generalizing p with
  | nil =>
    obtain rfl := here
    rfl
  | cons c front ih =>
    obtain ⟨⟨plain, mark⟩, others⟩ := List.forall_mem_cons.mp inLine
    have one : p.step = ⟨front ++ rest, p.index + 1, p.line, p.column + 1⟩ := by
      rw [step, here]
      simp [plain, mark]
    rw [List.length_cons, advance, one, ih rfl others]
    simp only [Cursor.mk.injEq, true_and]
    omega

/-- Behind a line end a line begins. -/
theorem column_moveTo_break (front : List Char) (here : p.rest = front ++ c :: rest)
    (ends : isBreak c = true) : (p.moveTo rest).column = 0 := by
  have there : p.rest = (front ++ [c]) ++ rest := by simp [here]
  have last : (p.advance front.length).rest = c :: rest := by
    rw [rest_advance, here, List.drop_left]
  rw [moveTo_eq (front ++ [c]) there, List.length_append, advance_add]
  show (p.advance front.length).step.column = 0
  rw [step, last]
  simp [ends]

end Cursor

namespace Scan

variable {s : Scan} {c : Char} {cs rest more front : List Char} {t : Token}

/-! ## Gaps between tokens -/

theorem skip_stop (inLine : isBreak c = false) (blank : c ≠ ' ') (sign : c ≠ '#') :
    skip false (c :: cs) = (false, c :: cs) := by
  simp [skip, inLine, blank, sign]

/-- A comment is skipped with its line end. -/
theorem skip_comment {body : List Char} (inLine : ∀ c ∈ body, isBreak c = false) :
    skip false ('#' :: body ++ '\n' :: cs) = (true, (skip false cs).2) := by
  have behind : skip true (body ++ '\n' :: cs) = (true, (skip false cs).2) := by
    induction body with
    | nil => simp [skip, isBreak]
    | cons d body ih =>
      obtain ⟨plain, others⟩ := List.forall_mem_cons.mp inLine
      simp [skip, plain, ih others]
  rw [List.cons_append, skip, if_neg (by decide), if_neg (by simp), if_neg (by decide),
    if_pos rfl, behind]

/-- The collections that begin no further than a place stay open there. -/
theorem unwind_eq_self {column : Nat} (flat : ∀ n ∈ s.indents, n ≤ column) :
    s.unwind column = s := by
  have none : s.indents.takeWhile (column < ·) = [] := by
    cases indents : s.indents with
    | nil => rfl
    | cons n ns =>
      have bound := flat n (by simp [indents])
      rw [List.takeWhile_cons_of_neg (by simpa using bound)]
  rw [unwind, none]
  rfl

/-- A scan comes to its next token without closing a collection or missing a key. -/
theorem settle_eq (outer : s.outerKeys = []) (fresh : s.key?.all (!s.skipGap.isStale ·) = true)
    (flat : ∀ n ∈ s.indents, n ≤ s.skipGap.place.column) : s.settle = .ok s.skipGap := by
  have key : s.skipGap.refreshKey s.key? = .ok s.key? := by
    cases key : s.key? with
    | none => rfl
    | some k =>
      rw [key, Option.all_some, Bool.not_eq_true'] at fresh
      rw [refreshKey, fresh]
      rfl
  have kept : s.skipGap.dropStaleKeys = .ok s.skipGap := by
    have same : s.skipGap.outerKeys = [] := outer
    rw [dropStaleKeys, show s.skipGap.key? = s.key? from rfl, key, same]
    show Except.ok { s.skipGap with key? := s.key?, outerKeys := [] } = _
    rw [← outer]
    rfl
  have block : s.skipGap.inFlow = false := by
    rw [inFlow, show s.skipGap.outerKeys = [] from outer]
    rfl
  rw [settle, kept]
  show Except.ok _ = _
  rw [block, if_neg Bool.false_ne_true]
  exact congrArg Except.ok (unwind_eq_self (s := s.skipGap) flat)

/-- Where a token begins nothing is skipped. -/
theorem skipGap_eq_self (here : skip false s.place.rest = (false, s.place.rest)) :
    s.skipGap = s := by
  rw [skipGap, here]
  simp

/-- One token is found. -/
theorem run_succ {s' s'' : Scan} {fuel : Nat} (settled : s.settle = .ok s')
    (here : s'.place.rest = c :: cs) (found : s'.token c cs = .ok s'') :
    s.run (fuel + 1) = s''.run fuel := by
  rw [run, settled, Except.ok_bind, here]
  simp only [found, Except.ok_bind]

/-! ## Scalars -/

/-- A quote begins a scalar that ends at the next one of its kind. -/
theorem token_quote (s : Scan) (double : Bool) (cs : List Char) :
    s.token (if double then '"' else '\'') cs = (do
      let (text, rest) ← quoted double (.text .none) cs
      s.emitKeyed (.scalar (String.ofList text) false) rest) := by
  cases double <;> simp [token, atDocumentMark]

theorem startsPlain_of_unmarked (unmarked : Unmarked (c :: cs))
    (word : atWordEnd cs = false → atBlank rest = false) :
    startsPlain false (c :: rest) = true := by
  obtain ⟨marks, signs⟩ := unmarked.begin
  obtain ⟨ordinary, blank, newline, -⟩ := unmarked.head
  have others : ",[]\x7b\x7d#&*!|>'\"%@\x60".toList.contains c = false := by
    simp only [String.reduceToList, List.contains_eq_mem, List.mem_cons, List.not_mem_nil, or_false,
      Bool.decide_or, Bool.or_eq_false_iff, decide_eq_false_iff_not] at marks ⊢
    simp [marks]
  rw [startsPlain]
  split
  · next same => rw [word (signs (.inl same))]; rfl
  · split
    · next same => rw [word (signs (.inr same))]; rfl
    · rw [isBlank_of_ordinary ordinary blank, isBreak_of_ordinary ordinary newline, others]
      rfl

/-- A character that is no mark begins a plain scalar. -/
theorem token_plain (block : s.outerKeys = []) (unmarked : Unmarked (c :: cs))
    (line : s.place.column = 0 → atDocumentMark (c :: rest) = false)
    (word : atWordEnd cs = false → atBlank rest = false) :
    s.token c rest = s.emitKeyed
      (.scalar (String.ofList (c :: (plain false s.margin .none rest rest).1)) true)
      (plain false s.margin .none rest rest).2 := by
  obtain ⟨marks, signs⟩ := unmarked.begin
  have inBlock : s.inFlow = false := by rw [inFlow, block]; rfl
  have starts := startsPlain_of_unmarked unmarked word
  have noMark : (decide (s.place.column = 0) && atDocumentMark (c :: rest)) = false := by
    by_cases zero : s.place.column = 0 <;> simp [zero, line]
  have noSign (d : Char) (sign : d = '-' ∨ d = '?' ∨ d = ':') : ¬(c = d ∧ atBlank rest = true) := by
    rintro ⟨rfl, ends⟩
    rw [word (signs sign)] at ends
    cases ends
  have dash := noSign '-' (.inl rfl)
  have question := noSign '?' (.inr (.inl rfl))
  have colon := noSign ':' (.inr (.inr rfl))
  simp only [String.reduceToList, List.contains_eq_mem, List.mem_cons, List.not_mem_nil, or_false,
    Bool.decide_or, Bool.or_eq_false_iff, decide_eq_false_iff_not] at marks
  simp only [token, noMark, marks, inBlock, starts, dash, question, colon, and_false, if_false,
    Bool.false_and, Bool.false_eq_true, false_or, or_self, if_true, false_and]

/-- A text that is written as it is makes one token, up to where it ends. -/
theorem token_unmarked {n : Nat} {tail : List Char} (block : s.outerKeys = [])
    (unmarked : Unmarked cs)
    (line : s.place.column = 0 → atDocumentMark (foldedFrom false n ' ' cs ++ tail) = false)
    (indented : s.margin ≤ 2) (ends : plain false s.margin .none tail tail = ([], tail)) :
    ∃ c rest, foldedFrom false n ' ' cs ++ tail = c :: rest ∧ skip false (c :: rest) =
      (false, c :: rest) ∧
      s.token c rest = s.emitKeyed (.scalar (String.ofList cs) true) tail := by
  obtain ⟨c, cs, rfl⟩ := List.exists_cons_of_ne_nil unmarked.nonempty
  obtain ⟨plain, blank, newline, sign⟩ := unmarked.head
  have written : foldedFrom false n ' ' (c :: cs) = c :: foldedFrom false (n + 1) c cs :=
    foldedFrom_char blank newline (by simp)
  rw [written, List.cons_append] at line ⊢
  refine ⟨c, _, rfl, skip_stop (isBreak_of_ordinary plain newline) blank sign, ?_⟩
  rw [token_plain block unmarked line (atBlank_foldedFrom unmarked.behind.1),
    plain_unmarked unmarked indented ends]

/-- A value makes one token, up to the end of its line. -/
theorem token_value {n : Nat} {v : Value} (block : s.outerKeys = []) (inLine : s.place.column ≠ 0)
    (margin : s.margin = 1) (scalar : IsScalar v)
    (next : ∀ d, more.head? = some d → isBreak d = false ∧ d ≠ ' ') :
    ∃ c rest, writeScalar n v ++ '\n' :: more = c :: rest ∧ skip false (c :: rest) =
      (false, c :: rest) ∧ s.token c rest = s.emitKeyed (valueToken v) ('\n' :: more) := by
  have word {cs : List Char} (unmarked : Unmarked cs) := token_unmarked (n := n) block unmarked
    (fun zero => absurd zero inLine) (by omega) (plain_line (by omega) next)
  cases v with
  | null =>
    have written : writeScalar n .null = foldedFrom false n ' ' "null".toList := by
      simp [writeScalar, foldedFrom]
    rw [written]
    exact word ⟨by decide, by decide, by decide, by decide, by decide, by decide⟩
  | bool b =>
    have written : writeScalar n (.bool b) =
        foldedFrom false n ' ' (if b then "true" else "false").toList := by
      cases b <;> simp [writeScalar, foldedFrom]
    rw [written]
    cases b with
    | true => exact word ⟨by decide, by decide, by decide, by decide, by decide, by decide⟩
    | false => exact word ⟨by decide, by decide, by decide, by decide, by decide, by decide⟩
  | text t =>
    have written : writeScalar n (.text t) = writeText n t.toList := rfl
    have named : valueToken (.text t) =
        .scalar (String.ofList t.toList) (decide (styleOf t.toList = .plain)) := by
      rw [String.ofList_toList]
      rfl
    rw [written, writeText, named]
    cases style : styleOf t.toList with
    | plain => exact word (unmarked_of_styleOf style).1
    | single =>
      obtain ⟨ordinary, apart⟩ := ordinary_of_styleOf (by rw [style]; simp)
      have read : quoted false (.text .none)
          (foldedFrom true (n + 1) ' ' t.toList ++ '\'' :: '\n' :: more) =
          .ok (t.toList, '\n' :: more) :=
        quoted_foldedFrom ordinary apart (show ' ' ≠ '\n' by decide) (by simp)
      have found := token_quote s false
        (foldedFrom true (n + 1) ' ' t.toList ++ '\'' :: '\n' :: more)
      rw [read] at found
      exact ⟨'\'', _, by simp, skip_stop (by decide) (by decide) (by decide), found⟩
    | double =>
      have read := quoted_escapedFrom (n + 1) t.toList ('\n' :: more)
      have found := token_quote s true
        (escapedFrom true false (n + 1) t.toList ++ '"' :: '\n' :: more)
      rw [read] at found
      exact ⟨'"', _, by simp, skip_stop (by decide) (by decide) (by decide), found⟩
  | _ => exact scalar.elim

/-! ## One entry -/

/-- A scan stands in front of an entry. -/
structure AtLine (s : Scan) (cs : List Char) : Prop where
  rest : s.place.rest = cs
  column : s.place.column = 0
  allowed : s.keyAllowed = true
  key : s.key? = none
  outer : s.outerKeys = []
  flat : s.indents = [] ∨ s.indents = [0]

/-- A scan stands behind an entry, at the end of its line. -/
structure AfterLine (s : Scan) (cs : List Char) : Prop where
  rest : s.place.rest = '\n' :: cs
  key : s.key? = none
  outer : s.outerKeys = []
  flat : s.indents = [0]

/-- A name without blanks is written as it is. -/
theorem foldedFrom_eq_self {n : Nat} {previous : Char} (word : ' ' ∉ cs) (inLine : '\n' ∉ cs) :
    foldedFrom false n previous cs = cs := by
  induction cs generalizing n previous with
  | nil => rfl
  | cons c cs ih =>
    obtain ⟨blank, word⟩ : c ≠ ' ' ∧ ' ' ∉ cs := by simpa [eq_comm] using word
    obtain ⟨newline, inLine⟩ : c ≠ '\n' ∧ '\n' ∉ cs := by simpa [eq_comm] using inLine
    rw [foldedFrom_char blank newline (by simp), ih word inLine]

/-- A name in front of the mark of a value is no mark between documents. -/
theorem atDocumentMark_key {name tail : List Char} (begins : beginsWithMark name = false) :
    atDocumentMark (name ++ ':' :: tail) = false := by
  simp only [beginsWithMark, Bool.or_eq_false_iff] at begins
  obtain ⟨⟨dashes, dots⟩, -⟩ := begins
  rcases name with _ | ⟨a, _ | ⟨b, _ | ⟨c, name⟩⟩⟩
  · simp [atDocumentMark]
  · simp [atDocumentMark]
  · simp [atDocumentMark]
  · simp only [String.reduceToList, List.isPrefixOf_cons_cons, List.isPrefixOf_nil_left]
      at dashes dots
    unfold atDocumentMark
    split <;> simp_all

theorem AtLine.margin (here : s.AtLine cs) : s.margin ≤ 1 := by
  obtain none | one := here.flat
  · simp [Scan.margin, none]
  · simp [Scan.margin, one]

/-- The scan behind a name that may be a key. -/
def behindName (s : Scan) (name : List Char) (required : Bool) (tail : List Char) : Scan :=
  { s with
    tokens := .scalar (String.ofList name) true :: s.tokens
    place := ⟨tail, s.place.index + name.length, s.place.line, name.length⟩
    keyAllowed := false
    key? := some ⟨s.tokens.length, required, s.place.index, s.place.line, 0⟩ }

/-- A name makes one token, which may begin an entry. -/
theorem token_key {name tail : List Char} (here : s.AtLine (name ++ ':' :: ' ' :: tail))
    (key : KeyText name) :
    ∃ c rest required, s.place.rest = c :: rest ∧
      s.token c rest = .ok (s.behindName name required (':' :: ' ' :: tail)) := by
  obtain ⟨unmarked, -⟩ := unmarked_of_styleOf key.plain
  have written : foldedFrom false 0 ' ' name = name :=
    foldedFrom_eq_self key.word unmarked.inLine
  have margin := here.margin
  have ends : plain false s.margin .none (':' :: ' ' :: tail) (':' :: ' ' :: tail) =
      ([], ':' :: ' ' :: tail) := plain_key
  obtain ⟨c, rest, same, -, found⟩ := token_unmarked (n := 0) here.outer unmarked
    (fun _ => by rw [written]; exact atDocumentMark_key unmarked.begins) (by omega) ends
  have inLine : ∀ c ∈ name, isBreak c = false ∧ c ≠ '\ufeff' := by
    intro c there
    have ordinary : isSpecial c = false := by
      simpa using List.all_eq_true.mp unmarked.ordinary c there
    refine ⟨isBreak_of_ordinary ordinary fun newline => unmarked.inLine (newline ▸ there), ?_⟩
    rintro rfl
    cases ordinary
  have place := Cursor.moveTo_line name here.rest inLine
  rw [written] at same
  -- the place of the name is remembered, since its mark is found only behind it
  have saved : s.saveKey = .ok { s with key? := some ⟨s.tokens.length,
      !s.inFlow && decide (s.indents.head? = some s.place.column), s.place.index, s.place.line,
      s.place.column⟩ } := by
    rw [saveKey, if_pos here.allowed, dropKey, here.key]
    rfl
  refine ⟨c, rest, !s.inFlow && decide (s.indents.head? = some s.place.column),
    here.rest.trans same, ?_⟩
  rw [found, emitKeyed, saved, Except.ok_bind]
  simp only [emit, behindName, place, here.column, Nat.zero_add, Except.pure_eq_ok]

/-- The mark of the beginning of a mapping, which the first entry has in front. -/
def opening (s : Scan) : List Token := if s.indents = [] then [.blockMappingStart] else []

/-- The scan behind the mark of a value that follows a name, `n` characters behind the name. -/
def behindMark (s : Scan) (name : List Char) (n : Nat) (tail : List Char) : Scan :=
  { s with
    tokens := [.value, .scalar (String.ofList name) true, .key] ++ s.opening ++ s.tokens
    place := ⟨tail, s.place.index + name.length + n, s.place.line, name.length + n⟩
    indents := [0]
    keyAllowed := false }

theorem token_colon (s : Scan) (cs : List Char) :
    s.token ':' (' ' :: cs) = s.markedValue (' ' :: cs) := by
  simp [token, atDocumentMark, atBlank, isBlank]

/-- The mark of a value shows that the name was a key. -/
theorem token_mark {name tail : List Char} {required : Bool} (here : s.AtLine cs) :
    (s.behindName name required (':' :: ' ' :: tail)).token ':' (' ' :: tail) =
      .ok (s.behindMark name 1 (' ' :: tail)) := by
  have place : (Cursor.mk (':' :: ' ' :: tail) (s.place.index + name.length) s.place.line
      name.length).moveTo (' ' :: tail) =
      ⟨' ' :: tail, s.place.index + name.length + 1, s.place.line, name.length + 1⟩ :=
    Cursor.moveTo_line [':'] rfl (List.forall_mem_singleton.mpr (by decide))
  -- at the first entry the mapping begins as well, in front of the mark of the key
  obtain none | one := here.flat
  · have two : s.tokens.length + 1 + 1 - s.tokens.length = 2 := by omega
    simp [token_colon, markedValue, behindName, behindMark, insert, openBlock, Scan.margin, inFlow,
      here.outer, here.key, emit, place, opening, none, two]
  · simp [token_colon, markedValue, behindName, behindMark, insert, openBlock, Scan.margin, inFlow,
      here.outer, here.key, emit, place, opening, one]

/-- The mark of a value stands on the same line as the name, and near enough. -/
theorem settle_behindName {name tail : List Char} {required : Bool} (here : s.AtLine cs)
    (short : name.length ≤ 1024) : (s.behindName name required (':' :: tail)).settle =
      .ok (s.behindName name required (':' :: tail)) := by
  have stay : (s.behindName name required (':' :: tail)).skipGap =
      s.behindName name required (':' :: tail) :=
    skipGap_eq_self (skip_stop (by decide) (by decide) (by decide))
  have flat : ∀ n ∈ s.indents, n ≤ name.length := by
    obtain none | one := here.flat
    · simp [none]
    · simp [one]
  have fresh : (s.behindName name required (':' :: tail)).key?.all
      (!(s.behindName name required (':' :: tail)).isStale ·) = true := by
    simp [isStale, behindName, short]
  have settled := settle_eq (s := s.behindName name required (':' :: tail)) here.outer
    (by rw [stay]; exact fresh) (by rw [stay]; exact flat)
  rwa [stay] at settled

/-- The blank behind the mark of a value is skipped. -/
theorem settle_behindMark (name : List Char) {tail : List Char} (outer : s.outerKeys = [])
    (key : s.key? = none) (stop : skip false tail = (false, tail)) :
    (s.behindMark name 1 (' ' :: tail)).settle = .ok (s.behindMark name 2 tail) := by
  have place : (s.behindMark name 1 (' ' :: tail)).place.moveTo tail =
      (s.behindMark name 2 tail).place :=
    Cursor.moveTo_line [' '] rfl (List.forall_mem_singleton.mpr (by decide))
  have gap : (s.behindMark name 1 (' ' :: tail)).skipGap = s.behindMark name 2 tail := by
    have skipped : skip false (' ' :: tail) = (false, tail) := by
      rw [skip, if_neg (by decide), if_neg (by simp), if_pos rfl, stop]
    have here : (s.behindMark name 1 (' ' :: tail)).place.rest = ' ' :: tail := rfl
    rw [skipGap, here, skipped]
    simp only [place]
    rfl
  have settled := settle_eq (s := s.behindMark name 1 (' ' :: tail)) outer
    (by simp [behindMark, key]) (by simp [behindMark])
  rwa [gap] at settled

/-- An entry is written as the name, the mark of a value and the value. -/
theorem writeEntry_eq {e : Value × Value} (writable : Writable e) : ∃ name n,
    e.1 = .text name ∧ KeyText name.toList ∧
      writeEntry e = name.toList ++ ':' :: ' ' :: (writeScalar n e.2 ++ ['\n']) := by
  obtain ⟨k, v⟩ := e
  obtain ⟨⟨name, rfl, key⟩, -⟩ := writable
  have written : writeScalar 0 (.text name) = name.toList := by
    have plain := (unmarked_of_styleOf key.plain).1
    show writeText 0 name.toList = name.toList
    rw [writeText, key.plain]
    exact foldedFrom_eq_self key.word plain.inLine
  exact ⟨name, name.toList.length + 2, rfl, key, by simp [writeEntry, written]⟩

/-- **The tokens of an entry** are found one after the other. -/
theorem run_entry {e : Value × Value} {before : Scan} (fuel : Nat) (settled : before.settle = .ok s)
    (here : s.AtLine (writeEntry e ++ more)) (writable : Writable e)
    (next : ∀ d, more.head? = some d → isBreak d = false ∧ d ≠ ' ') :
    ∃ after : Scan, after.AfterLine more ∧
      after.tokens = (entryTokens e).reverse ++ s.opening ++ s.tokens ∧
      before.run (fuel + 3) = after.run fuel := by
  obtain ⟨name, n, named, key, written⟩ := writeEntry_eq writable
  obtain ⟨k, v⟩ := e
  obtain rfl : k = .text name := named
  have scalar : IsScalar v := writable.value
  have text : writeEntry (.text name, v) ++ more =
      name.toList ++ ':' :: ' ' :: (writeScalar n v ++ '\n' :: more) := by
    simp [written]
  rw [text] at here
  obtain ⟨c, rest, required, first, name'⟩ := token_key here key
  obtain ⟨d, rest', second, stop, value⟩ :=
    token_value (s := s.behindMark name.toList 2 (writeScalar n v ++ '\n' :: more)) (n := n)
      here.outer (by simp [behindMark]) rfl scalar next
  rw [second] at name' value
  have mark := settle_behindMark name.toList here.outer here.key stop
  have placed : ((s.behindMark name.toList 2 (d :: rest')).place.moveTo ('\n' :: more)).rest =
      '\n' :: more := Cursor.rest_moveTo _ second.symm
  refine ⟨{ (s.behindMark name.toList 2 (d :: rest')).emit (valueToken v) ('\n' :: more) with
    keyAllowed := false }, ⟨placed, here.key, here.outer, rfl⟩, ?_, ?_⟩
  · simp [emit, behindMark, entryTokens, Value.plain]
  · -- the name, the mark that makes a key of it, and the value
    rw [run_succ settled first name', run_succ (settle_behindName here key.short) rfl
      (token_mark here), run_succ mark rfl value]

/-! ## All entries -/

/-- Behind an entry the next one begins, if there is any. -/
theorem AfterLine.settle (behind : s.AfterLine cs) (stop : skip false cs = (false, cs)) :
    ∃ s' : Scan, s.settle = .ok s' ∧ s'.AtLine cs ∧ s'.indents = [0] ∧ s'.tokens = s.tokens := by
  have skipped : skip false s.place.rest = (true, cs) := by
    rw [behind.rest, skip, if_pos (by decide), stop]
  have gap : s.skipGap = { s with place := s.place.moveTo cs, keyAllowed := true } := by
    have block : s.inFlow = false := by rw [inFlow, behind.outer]; rfl
    rw [skipGap, skipped]
    simp [block]
  have settled := settle_eq behind.outer (by simp [behind.key]) (by simp [behind.flat])
  rw [gap] at settled
  refine ⟨_, settled, ⟨?_, ?_, rfl, behind.key, behind.outer, .inr behind.flat⟩, behind.flat, rfl⟩
  · exact Cursor.rest_moveTo ['\n'] behind.rest
  · exact Cursor.column_moveTo_break [] behind.rest (by decide)

/-- Lines of entries begin with a word, if there are any. -/
theorem head_writeEntries {m : Mapping} (writable : ∀ e ∈ m, Writable e) {d : Char}
    (first : (List.flatMap writeEntry m).head? = some d) :
    isBreak d = false ∧ d ≠ ' ' ∧ d ≠ '#' := by
  cases m with
  | nil => cases first
  | cons e m =>
    obtain ⟨name, n, -, key, written⟩ := writeEntry_eq (writable e List.mem_cons_self)
    have unmarked := (unmarked_of_styleOf key.plain).1
    obtain ⟨c, cs, same⟩ := List.exists_cons_of_ne_nil unmarked.nonempty
    rw [same] at unmarked written
    rw [List.flatMap_cons, written] at first
    obtain rfl := Option.some.inj first
    obtain ⟨ordinary, blank, newline, sign⟩ := unmarked.head
    exact ⟨isBreak_of_ordinary ordinary newline, blank, sign⟩

theorem skip_writeEntries {m : Mapping} (writable : ∀ e ∈ m, Writable e) :
    skip false (List.flatMap writeEntry m) = (false, List.flatMap writeEntry m) := by
  cases lines : List.flatMap writeEntry m with
  | nil => rfl
  | cons d cs =>
    obtain ⟨inLine, blank, sign⟩ := head_writeEntries writable (by rw [lines]; rfl)
    exact skip_stop inLine blank sign

/-- **The tokens of all entries** are found, and then the end of the mapping. -/
theorem run_entries {m : Mapping} {fuel : Nat} (writable : ∀ e ∈ m, Writable e)
    (behind : s.AfterLine (List.flatMap writeEntry m)) (enough : 3 * m.length < fuel) :
    s.run fuel = .ok (s.tokens.reverse ++ List.flatMap entryTokens m ++ [.blockEnd]) := by
  -- Induction on the entries: each takes three steps and leaves the scan behind its own line, in
  -- front of the next one; the step that is left over finds the end.
  induction m generalizing s fuel with
  | nil =>
    obtain ⟨s', settled, here, indents, tokens⟩ := behind.settle rfl
    obtain ⟨fuel, rfl⟩ : ∃ n, fuel = n + 1 := ⟨fuel - 1, by omega⟩
    have rest : s'.place.rest = [] := here.rest
    rw [run, settled, Except.ok_bind, rest]
    simp [unwindAll, dropKey, here.key, indents, tokens]
  | cons e m ih =>
    obtain ⟨first, others⟩ := List.forall_mem_cons.mp writable
    obtain ⟨s', settled, here, indents, tokens⟩ := behind.settle (skip_writeEntries writable)
    rw [List.flatMap_cons] at here
    obtain ⟨after, behind', found, ran⟩ := run_entry (fuel - 3) settled here first
      fun d next => ⟨(head_writeEntries others next).1, (head_writeEntries others next).2.1⟩
    rw [List.length_cons] at enough
    have none : s'.opening = [] := by rw [opening, indents]; rfl
    rw [show fuel = fuel - 3 + 3 by omega, ran, ih others behind' (by omega), found, none, tokens]
    simp

end Scan

end CauseTrail.Yaml
