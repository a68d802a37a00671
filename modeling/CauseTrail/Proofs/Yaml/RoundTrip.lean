import CauseTrail.Proofs.Text.ByteLines
import CauseTrail.Proofs.Value.Mapping
import CauseTrail.Proofs.Yaml.Scanning
import CauseTrail.Yaml.Reader

/-!
# Mappings written and read back

A mapping of names to texts, truth values and nulls is written in lines that are read back as the
same mapping, whatever the texts are, and whether or not comments stand in front.

## Main definitions

* `commentLines`: lines of comments
* `entryNode`: the node of an entry

## Main results

* `Yaml.ordinary_written`: what is written is plain ASCII
* `Yaml.Token.ofText_write`: the tokens of a written mapping
* `Yaml.Node.ofTokens?_entryTokens`: the node of these tokens
* `Yaml.read_write`: a written mapping is read back
-/

namespace CauseTrail.Yaml

variable {c : Char} {cs : List Char} {e : Value × Value} {m : Mapping}

/-! ## The characters that are written -/

theorem ordinary_of_all (ordinary : cs.all (!isSpecial ·) = true) :
    ∀ c ∈ cs, isSpecial c = false := by
  simpa using ordinary

/-- Nothing but blanks and line ends is written besides the characters of a text. -/
theorem mem_foldedFrom {quotes : Bool} {n : Nat} {previous : Char}
    (there : c ∈ foldedFrom quotes n previous cs) : c = ' ' ∨ c = '\n' ∨ c ∈ cs := by
  induction cs generalizing n previous with
  | nil => cases there
  | cons d cs ih =>
    have more {n : Nat} {previous : Char} (there : c ∈ foldedFrom quotes n previous cs) :
        c = ' ' ∨ c = '\n' ∨ c ∈ d :: cs :=
      (ih there).imp_right (Or.imp_right (List.mem_cons_of_mem d))
    by_cases blank : d = ' '
    · subst blank
      rw [foldedFrom_blank] at there
      split at there <;> simp only [List.mem_cons] at there <;> grind
    · by_cases newline : d = '\n'
      · subst newline
        rw [foldedFrom_newline] at there
        simp only [List.mem_append, List.mem_cons] at there
        grind
      · by_cases quote : quotes = true ∧ d = '\''
        · obtain ⟨rfl, rfl⟩ := quote
          rw [foldedFrom_quote] at there
          grind
        · rw [foldedFrom_char blank newline quote] at there
          grind

/-- The escape of a character is plain ASCII. -/
theorem ordinary_escape {word : List Char} (escape : escapeOf? c = some word) :
    ∀ d ∈ word, isSpecial d = false := by
  have digits (width n : Nat) : ∀ d ∈ capitalDigits width n, isSpecial d = false := by
    have digit : ∀ n < 16, isSpecial (Text.hexDigit n).toUpper = false := by decide
    intro d there
    induction width generalizing n with
    | zero => cases there
    | succ width ih =>
      rw [capitalDigits_succ, List.mem_append, List.mem_singleton] at there
      obtain front | rfl := there
      · exact ih _ front
      · exact digit _ (Nat.mod_lt _ (by decide))
  have number (letter : Char) (ordinary : isSpecial letter = false) (width n : Nat) :
      ∀ d ∈ '\\' :: letter :: capitalDigits width n, isSpecial d = false :=
    List.forall_mem_cons.mpr ⟨by decide, List.forall_mem_cons.mpr ⟨ordinary, digits width n⟩⟩
  rw [escapeOf?] at escape
  split at escape
  · next letter found =>
    obtain rfl := Option.some.inj escape
    obtain ⟨front, back, same, -⟩ := List.lookup_eq_some_iff.mp found
    have letters : ∀ p ∈ escapeLetters, isSpecial p.2 = false := by decide
    have ordinary := letters (c, letter) (by rw [same]; simp)
    simpa using ⟨by decide, ordinary⟩
  · simp only at escape
    split at escape
    · cases escape
    · split at escape
      · obtain rfl := Option.some.inj escape
        exact number 'x' (by decide) 2 _
      · split at escape
        · obtain rfl := Option.some.inj escape
          exact number 'u' (by decide) 4 _
        · obtain rfl := Option.some.inj escape
          exact number 'U' (by decide) 8 _

theorem ordinary_brokenLine (next? : Option Char) :
    ∀ d ∈ brokenLine next?, isSpecial d = false := by
  apply ordinary_of_all
  rw [brokenLine]
  split <;> decide

/-- A text between double quotes is written in plain ASCII. -/
theorem ordinary_escapedFrom {first escaped : Bool} {n : Nat} :
    ∀ d ∈ escapedFrom first escaped n cs, isSpecial d = false := by
  induction cs generalizing first escaped n with
  | nil => simp [escapedFrom]
  | cons c cs ih =>
    cases escape : escapeOf? c with
    | some word =>
      have ordinary := ordinary_escape escape
      have broken := ordinary_brokenLine cs.head?
      obtain ⟨n', written⟩ | written :=
        escapedFrom_escape first escaped n cs escape
      · rw [written]
        exact List.forall_mem_append.mpr ⟨ordinary, ih⟩
      · rw [written]
        exact List.forall_mem_append.mpr ⟨ordinary, List.forall_mem_append.mpr ⟨broken, ih⟩⟩
    | none =>
      have ordinary := (ordinary_of_unescaped escape).1
      have broken := ordinary_brokenLine (some c)
      obtain ⟨n', written | written⟩ :=
        escapedFrom_char first escaped n cs escape
      · rw [written]
        exact List.forall_mem_cons.mpr ⟨ordinary, ih⟩
      · rw [written]
        exact List.forall_mem_append.mpr ⟨broken, List.forall_mem_cons.mpr ⟨ordinary, ih⟩⟩

theorem ordinary_writeText (n : Nat) (cs : List Char) :
    ∀ c ∈ writeText n cs, isSpecial c = false := by
  have folded {quotes : Bool} {n : Nat} (style : styleOf cs ≠ .double) :
      ∀ c ∈ foldedFrom quotes n ' ' cs, isSpecial c = false := by
    intro c there
    obtain rfl | rfl | inside := mem_foldedFrom there
    · rfl
    · rfl
    · exact ordinary_of_all (ordinary_of_styleOf style).1 c inside
  rw [writeText]
  split
  · next style => exact folded (by rw [style]; simp)
  · next style =>
    refine List.forall_mem_append.mpr ⟨List.forall_mem_cons.mpr ⟨by decide, ?_⟩,
      List.forall_mem_singleton.mpr (by decide)⟩
    exact folded (by rw [style]; simp)
  · exact List.forall_mem_append.mpr
      ⟨List.forall_mem_cons.mpr ⟨by decide, ordinary_escapedFrom⟩,
        List.forall_mem_singleton.mpr (by decide)⟩

theorem ordinary_writeScalar (n : Nat) (v : Value) :
    ∀ c ∈ writeScalar n v, isSpecial c = false := by
  rw [writeScalar.eq_def]
  split
  · exact ordinary_of_all (by decide)
  · next b => cases b <;> exact ordinary_of_all (by decide)
  · exact ordinary_writeText n _

/-- **Whatever is written** is plain ASCII and line ends. -/
theorem ordinary_writeEntries (m : Mapping) :
    ∀ c ∈ List.flatMap writeEntry m, isSpecial c = false := by
  intro c there
  obtain ⟨e, -, inside⟩ := List.mem_flatMap.mp there
  rw [writeEntry] at inside
  simp only [List.mem_append, List.mem_cons, List.not_mem_nil, or_false] at inside
  obtain (name | rfl | rfl | value) | rfl := inside
  · exact ordinary_writeScalar _ _ c name
  · rfl
  · rfl
  · exact ordinary_writeScalar _ _ c value
  · rfl

/-! ## Texts of such characters -/

theorem ascii_of_ordinary (ordinary : isSpecial c = false) : c.toNat < 0x80 := by
  by_cases newline : c = '\n'
  · subst newline
    decide
  · have last : c ≤ '~' := by
      simp only [isSpecial, newline, ne_eq, not_false_eq_true, decide_true, Bool.true_and,
        Bool.or_eq_false_iff, decide_eq_false_iff_not, Char.not_lt] at ordinary
      exact ordinary.2
    have bound : c.toNat ≤ '~'.toNat := last
    exact Nat.lt_of_le_of_lt bound (by decide)

theorem isReadable_of_ordinary (ordinary : isSpecial c = false) : isReadable c = true := by
  by_cases newline : c = '\n'
  · subst newline
    decide
  · simp only [isSpecial, newline, ne_eq, not_false_eq_true, decide_true, Bool.true_and,
      Bool.or_eq_false_iff, decide_eq_false_iff_not, Char.not_lt] at ordinary
    simp [isReadable, ordinary]

theorem special_notMem (ordinary : ∀ c ∈ cs, isSpecial c = false) (special : isSpecial c = true) :
    c ∉ cs := by
  intro there
  rw [ordinary c there] at special
  cases special

/-- There are no other line ends in such a text. -/
theorem universalNewlines_of_ordinary (ordinary : ∀ c ∈ cs, isSpecial c = false) :
    Text.universalNewlines cs = cs := by
  induction cs with
  | nil => rfl
  | cons c cs ih =>
    obtain ⟨first, others⟩ := List.forall_mem_cons.mp ordinary
    have other : c ≠ '\r' := by
      rintro rfl
      cases first
    rw [Text.universalNewlines, ih others]
    · exact fun _ same => absurd same other
    · exact other

/-- Such a text is read from its bytes. -/
theorem ofUtf8?_of_ordinary (ordinary : ∀ c ∈ cs, isSpecial c = false) :
    Text.ofUtf8? (Text.utf8 (String.ofList cs)) = .ok (String.ofList cs) := by
  have ascii : ∀ c ∈ cs, c.toNat < 0x80 := fun c there => ascii_of_ordinary (ordinary c there)
  rw [Text.ofUtf8?, Text.utf8, String.toList_ofList, Text.decodeFrom_ascii ascii]
  rfl

/-! ## Tokens -/

/-- Lines of comments. -/
def commentLines (comments : List (List Char)) : List Char :=
  comments.flatMap fun body => '#' :: body ++ ['\n']

theorem ordinary_commentLines {comments : List (List Char)}
    (ordinary : ∀ body ∈ comments, ∀ c ∈ body, isSpecial c = false) :
    ∀ c ∈ commentLines comments, isSpecial c = false := by
  intro c there
  obtain ⟨body, comment, inside⟩ := List.mem_flatMap.mp there
  simp only [List.cons_append, List.mem_cons, List.mem_append, List.not_mem_nil, or_false] at inside
  obtain rfl | inside | rfl := inside
  · rfl
  · exact ordinary body comment c inside
  · rfl

namespace Scan

/-- Comments are passed over. -/
theorem skip_commentLines {comments : List (List Char)}
    (inLine : ∀ body ∈ comments, ∀ c ∈ body, isBreak c = false) :
    (skip false (commentLines comments ++ cs)).2 = (skip false cs).2 := by
  induction comments with
  | nil => rfl
  | cons body comments ih =>
    obtain ⟨first, others⟩ := List.forall_mem_cons.mp inLine
    have split : commentLines (body :: comments) ++ cs =
        '#' :: body ++ '\n' :: (commentLines comments ++ cs) := by
      simp [commentLines]
    rw [split, skip_comment first, ih others]

theorem start_eq (mark : cs.head? ≠ some '\ufeff') :
    start cs = ⟨⟨cs, 0, 0, 0⟩, [], [], true, none, []⟩ := by
  simp [start, mark]

/-- Behind comments the first entry begins a line. -/
theorem settle_start {comments : List (List Char)}
    (inLine : ∀ body ∈ comments, ∀ c ∈ body, isBreak c = false)
    (mark : (commentLines comments ++ cs).head? ≠ some '\ufeff')
    (stop : skip false cs = (false, cs)) :
    ∃ s : Scan, (start (commentLines comments ++ cs)).settle = .ok s ∧ s.AtLine cs ∧
      s.indents = [] ∧ s.tokens = [] := by
  rw [start_eq mark]
  have skipped : (skip false (commentLines comments ++ cs)).2 = cs := by
    rw [skip_commentLines inLine, stop]
  have gap : (Scan.mk ⟨commentLines comments ++ cs, 0, 0, 0⟩ [] [] true none []).skipGap =
      ⟨(Cursor.mk (commentLines comments ++ cs) 0 0 0).moveTo cs, [], [], true, none, []⟩ := by
    simp [skipGap, skipped]
  have column : ((Cursor.mk (commentLines comments ++ cs) 0 0 0).moveTo cs).column = 0 := by
    rcases comments.eq_nil_or_concat with rfl | ⟨comments, body, rfl⟩
    · exact congrArg Cursor.column (Cursor.moveTo_rest ⟨cs, 0, 0, 0⟩)
    · refine Cursor.column_moveTo_break (c := '\n') (commentLines comments ++ '#' :: body)
        ?_ (by decide)
      simp [commentLines]
  have settled := settle_eq (s := ⟨⟨commentLines comments ++ cs, 0, 0, 0⟩, [], [], true, none, []⟩)
    rfl rfl (by simp)
  rw [gap] at settled
  exact ⟨_, settled, ⟨Cursor.rest_moveTo _ rfl, column, rfl, rfl, rfl, .inl rfl⟩, rfl, rfl⟩

end Scan

theorem length_writeEntry (writable : Writable e) : 3 ≤ (writeEntry e).length := by
  obtain ⟨name, n, -, key, written⟩ := Scan.writeEntry_eq writable
  rw [written]
  simp only [List.length_append, List.length_cons, List.length_nil]
  omega

theorem length_writeEntries (writable : ∀ e ∈ m, Writable e) :
    3 * m.length ≤ (List.flatMap writeEntry m).length := by
  induction m with
  | nil => exact Nat.le_refl 0
  | cons e m ih =>
    obtain ⟨first, others⟩ := List.forall_mem_cons.mp writable
    have one := length_writeEntry first
    have more := ih others
    rw [List.flatMap_cons, List.length_append, List.length_cons]
    omega

/-- What is written, behind comments, is plain ASCII and line ends. -/
theorem ordinary_written {comments : List (List Char)}
    (ordinary : ∀ body ∈ comments, ∀ c ∈ body, isSpecial c = false) (m : Mapping) :
    ∀ c ∈ commentLines comments ++ List.flatMap writeEntry m, isSpecial c = false :=
  List.forall_mem_append.mpr ⟨ordinary_commentLines ordinary, ordinary_writeEntries m⟩

/-- **The tokens of a written mapping** are those of its entries. -/
theorem Token.ofText_write {comments : List (List Char)}
    (inLine : ∀ body ∈ comments, ∀ c ∈ body, isSpecial c = false ∧ c ≠ '\n') (some : m ≠ [])
    (writable : ∀ e ∈ m, Writable e) :
    Token.ofText (String.ofList (commentLines comments ++ List.flatMap writeEntry m)) =
      .ok (.blockMappingStart :: List.flatMap entryTokens m ++ [.blockEnd]) := by
  have ordinary := ordinary_written (fun body there c inside => (inLine body there c inside).1) m
  have readable : (commentLines comments ++ List.flatMap writeEntry m).all isReadable = true :=
    List.all_eq_true.mpr fun c there => isReadable_of_ordinary (ordinary c there)
  obtain ⟨s, settled, here, indents, tokens⟩ := Scan.settle_start
    (fun body there c inside =>
      isBreak_of_ordinary (inLine body there c inside).1 (inLine body there c inside).2)
    (fun mark => special_notMem ordinary (by decide) (List.mem_of_mem_head? mark))
    (Scan.skip_writeEntries writable)
  rw [Token.ofText, String.toList_ofList, readable]
  simp only [universalNewlines_of_ordinary ordinary, Bool.not_true, Bool.false_eq_true,
    if_false]
  obtain ⟨e, m, rfl⟩ := List.exists_cons_of_ne_nil some
  obtain ⟨first, others⟩ := List.forall_mem_cons.mp writable
  have enough := length_writeEntries writable
  rw [List.length_cons] at enough
  rw [List.flatMap_cons] at here
  have opening : s.opening = [.blockMappingStart] := by rw [Scan.opening, indents]; rfl
  obtain ⟨fuel, fueled⟩ : ∃ fuel,
      (commentLines comments ++ List.flatMap writeEntry (e :: m)).length + 2 = fuel + 3 := by
    rw [List.length_append]
    exact ⟨_, (Nat.sub_add_cancel (by omega)).symm⟩
  rw [List.length_append] at fueled
  obtain ⟨after, behind, found, ran⟩ := Scan.run_entry fuel settled here first
    fun d next => ⟨(Scan.head_writeEntries others next).1, (Scan.head_writeEntries others next).2.1⟩
  rw [List.length_append, fueled, ran, Scan.run_entries others behind (by omega), found, opening,
    tokens]
  simp

/-! ## Nodes -/

/-- The node of a value. -/
def valueNode : Value → Node
  | .null => .scalar .null "null"
  | .bool b => .scalar .truth (if b then "true" else "false")
  | v => .scalar .string v.plain

/-- The nodes of an entry. -/
def entryNode (e : Value × Value) : Node × Node := (.scalar .string e.1.plain, valueNode e.2)

namespace Node

variable {handles : Handles} {position : Position} {ts : List Token} {fuel : Nat}

theorem scalarTag_text (t : String) :
    scalarTag none (decide (styleOf t.toList = .plain)) t = .string := by
  by_cases style : styleOf t.toList = .plain
  · have string := (unmarked_of_styleOf style).2
    rw [String.ofList_toList] at string
    simp [scalarTag, style, string]
  · simp [scalarTag, style]

/-- A scalar is read as a node. -/
theorem readUnless_scalar {text : String} {isPlain : Bool} {stops : List Token}
    (apart : stops.contains (.scalar text isPlain) = false) :
    readUnless handles (fuel + 2) position stops ⟨.scalar text isPlain :: ts, []⟩ =
      .ok (.scalar (scalarTag none isPlain text) text, ⟨ts, []⟩) := by
  have other : Reading.at ⟨.scalar text isPlain :: ts, []⟩ stops = false := by
    simpa [Reading.at, Reading.next?] using apart
  rw [readUnless, other]
  simp [read, properties, Reading.next?, Reading.skip, Reading.name]

/-- A value that is a scalar is read as its node, with what is behind it left. -/
theorem readUnless_value {v : Value} (scalar : IsScalar v) :
    readUnless handles (fuel + 2) position [.key, .value, .blockEnd] ⟨valueToken v :: ts, []⟩ =
      .ok (valueNode v, ⟨ts, []⟩) := by
  cases v with
  | null =>
    have tag : scalarTag none true "null" = .null := by decide +kernel
    rw [valueToken, readUnless_scalar (by decide), tag]
    rfl
  | bool b =>
    have tag : scalarTag none true (if b then "true" else "false") = .truth := by
      cases b <;> decide +kernel
    rw [valueToken, readUnless_scalar (by simp), tag]
    rfl
  | text t =>
    have token : valueToken (.text t) = .scalar t (decide (styleOf t.toList = .plain)) := rfl
    rw [token, readUnless_scalar (by simp), scalarTag_text]
    rfl
  | _ => exact scalar.elim

/-- The tokens of entries are read as the nodes of these entries. -/
theorem readEntries_entryTokens (writable : ∀ e ∈ m, Writable e) (enough : m.length + 2 < fuel) :
    readEntries handles fuel ⟨List.flatMap entryTokens m ++ [.blockEnd], []⟩ =
      .ok (m.map entryNode, ⟨[], []⟩) := by
  -- Induction on the entries: each takes one of the fuel, and the last one needs two more for the
  -- nodes of its name and its value.
  induction m generalizing fuel with
  | nil =>
    obtain ⟨fuel, rfl⟩ : ∃ n, fuel = n + 1 := ⟨fuel - 1, by omega⟩
    rfl
  | cons e m ih =>
    obtain ⟨⟨⟨name, named, key⟩, scalar⟩, others⟩ := List.forall_mem_cons.mp writable
    rw [List.length_cons] at enough
    obtain ⟨fuel, rfl⟩ : ∃ n, fuel = n + 3 := ⟨fuel - 3, by omega⟩
    have text : e.1.plain = name := by rw [named]; rfl
    have plain : scalarTag none true name = .string := by
      simpa [key.plain] using scalarTag_text name
    have first : entryNode e = (.scalar .string name, valueNode e.2) := by
      rw [entryNode, text]
    have rest : readEntries handles (fuel + 2) ⟨List.flatMap entryTokens m ++ [.blockEnd], []⟩ =
        .ok (m.map entryNode, ⟨[], []⟩) := ih others (by omega)
    rw [List.flatMap_cons, List.append_assoc, entryTokens, text, readEntries]
    simp [Reading.next?, Reading.skip, readUnless_scalar, readUnless_value scalar, plain, first,
      rest]

theorem length_entryTokens (m : Mapping) : (List.flatMap entryTokens m).length = 4 * m.length := by
  induction m with
  | nil => rfl
  | cons e m ih =>
    rw [List.flatMap_cons, List.length_append, ih, List.length_cons, entryTokens]
    simp only [List.length_cons, List.length_nil]
    omega

/-- **The node of a written mapping** has the nodes of its entries. -/
theorem ofTokens?_entryTokens (writable : ∀ e ∈ m, Writable e) :
    ofTokens? (.blockMappingStart :: List.flatMap entryTokens m ++ [.blockEnd]) =
      .ok (some (.mapping .mapping (m.map entryNode))) := by
  have entries : readEntries commonHandles (4 * (4 * m.length + 1 + 1) + 3)
      ⟨List.flatMap entryTokens m ++ [.blockEnd], []⟩ = .ok (m.map entryNode, ⟨[], []⟩) :=
    readEntries_entryTokens writable (by omega)
  simp only [ofTokens?, readDocument, List.cons_append, List.length_cons, List.length_append,
    length_entryTokens, List.length_nil, read, properties]
  simp [Reading.next?, Reading.skip, Reading.name, collectionTag, entries]

/-! ## Values -/

theorem mergedEntries_entryNode (m : Mapping) :
    mergedEntries (m.map entryNode) = some ([], m.map entryNode) := by
  induction m with
  | nil => rfl
  | cons e m ih =>
    have other : Tag.string ≠ .merge := by decide
    simp [entryNode, mergedEntries, tag, other, ih]

theorem valueAt_valueNode {v : Value} (scalar : IsScalar v) :
    valueAt (fuel + 1) (valueNode v) = .ok v := by
  cases v with
  | null => rfl
  | bool b => cases b <;> rfl
  | text t => rfl
  | _ => exact scalar.elim

theorem allOf_ok {α β : Type} {f : α → Outcome β} {g : α → β} {xs : List α}
    (ok : ∀ x ∈ xs, f x = .ok (g x)) : allOf (xs.map f) = .ok (xs.map g) := by
  induction xs with
  | nil => rfl
  | cons x xs ih =>
    obtain ⟨first, others⟩ := List.forall_mem_cons.mp ok
    rw [List.map_cons, allOf, first, ih others]
    rfl

theorem value_entryNode (writable : ∀ e ∈ m, Writable e) (distinct : m.Distinct) :
    value (.mapping .mapping (m.map entryNode)) = .ok (.map m) := by
  obtain ⟨fuel, deep⟩ : ∃ fuel, (mapping .mapping (m.map entryNode)).depth = fuel + 1 :=
    ⟨_, rfl⟩
  have merged : merged (.mapping .mapping (m.map entryNode)) = some (m.map entryNode) := by
    rw [Node.merged, mergedEntries_entryNode]
    rfl
  have entries : entries (valueAt (fuel + 1)) (.mapping .mapping (m.map entryNode)) = .ok m := by
    rw [Node.entries, merged]
    simp only [List.map_map]
    rw [allOf_ok (g := id), List.map_id]
    intro e there
    obtain ⟨⟨name, named, -⟩, scalar⟩ := writable e there
    have key : valueAt (fuel + 1) (entryNode e).1 = .ok e.1 := by
      rw [entryNode, named]
      rfl
    have value : valueAt (fuel + 1) (entryNode e).2 = .ok e.2 := valueAt_valueNode scalar
    have isKey : isKeyTag (entryNode e).1.tag = true := rfl
    simp [key, value, isKey, both]
  have outcome : valueAt (fuel + 2) (.mapping .mapping (m.map entryNode)) = .ok (.map m) := by
    rw [valueAt.eq_def]
    simp [tag, entries, deeper, distinct.ofEntries_eq_self]
  rw [value, deep, outcome, Except.ok_mapError]

end Node

/-- **A written mapping** is read back, behind comments too. -/
theorem read_write {comments : List (List Char)}
    (inLine : ∀ body ∈ comments, ∀ c ∈ body, isSpecial c = false ∧ c ≠ '\n') (some : m ≠ [])
    (writable : ∀ e ∈ m, Writable e) (distinct : m.Distinct) :
    read (String.ofList (commentLines comments) ++ write m) = .ok (.map m) := by
  rw [write, ← String.ofList_append, read, Token.ofText_write inLine some writable,
    Except.ok_mapError, Except.ok_bind, Node.ofTokens?_entryTokens writable, Except.ok_mapError,
    Except.ok_bind]
  exact Node.value_entryNode writable distinct

end CauseTrail.Yaml
