import CauseTrail.Proofs.Json.Escapes

/-!
# Reading JSON back

A value of a kind that JSON has is read back from what is written for it, however that is laid out:
layouts differ in the blanks around items, which the reader skips. The fuel of the reader bounds how
deep values are nested and how many items stand beside one another; each of them takes a character
at least, so a fuel beyond the length of the text is enough.

## Main definitions

* `Json.Native`: a value of a kind that JSON has
* `Json.EndsNumber`: what may stand behind a number
* `Json.edge`, `Json.gap`: the blanks around items
* `Json.ReadsBack`: a value that is read from what is written for it

## Main results

* `Json.Native.readsBack`: a native value is read back, and what follows is left
* `Json.Native.read_write`: a native value is read back from its text
-/

namespace CauseTrail.Json

/-- A value of a kind that JSON has: null, a truth value, an integer that is not too long, a text,
an array, or an object with different names. -/
inductive Native : Value → Prop where
  | null : Native .null
  | bool (b : Bool) : Native (.bool b)
  | int {n : Int} (size : n.natAbs < 10 ^ Text.maxDigits) : Native (.int n)
  | text (s : String) : Native (.text s)
  | list {xs : List Value} (items : ∀ x ∈ xs, Native x) : Native (.list xs)
  | map (members : List (String × Value)) (names : (members.map Prod.fst).Nodup)
      (values : ∀ m ∈ members, Native m.2) :
      Native (.map (members.map fun m => (.text m.1, m.2)))

/-- What may stand behind a number: nothing that would go on with it. -/
def EndsNumber (rest : List Char) : Prop :=
  ∀ c ∈ rest.head?, isDigit c = false ∧ c ≠ '.' ∧ c ≠ 'e' ∧ c ≠ 'E'

/-- A value that is read from what is written for it, whatever stands behind. -/
def ReadsBack (l : Layout) (v : Value) : Prop :=
  ∀ depth cs, writeValue l depth v = .ok cs → ∀ fuel, cs.length < fuel →
    ∀ rest, EndsNumber rest → readValue fuel (cs ++ rest) = .ok (v, rest)

variable {l : Layout} {blanks : List Char}

/-! ## Blanks -/

/-- The blanks between a bracket and the items in it. -/
def edge (l : Layout) (depth : Nat) : List Char :=
  match l.indent? with
  | none => []
  | some step => '\n' :: List.replicate (step * depth) ' '

/-- The blanks behind a comma between items. -/
def gap (l : Layout) (depth : Nat) : List Char :=
  match l.indent? with
  | none => [' ']
  | some _ => edge l depth

theorem isSpace_of_mem_edge (l : Layout) (depth : Nat) : ∀ c ∈ edge l depth, isSpace c = true := by
  intro c there
  rw [edge] at there
  cases indented : l.indent? with
  | none =>
    rw [indented] at there
    cases there
  | some step =>
    rw [indented] at there
    rcases List.mem_cons.mp there with rfl | there
    · rfl
    · rw [List.eq_of_mem_replicate there]
      rfl

theorem isSpace_of_mem_gap (l : Layout) (depth : Nat) : ∀ c ∈ gap l depth, isSpace c = true := by
  intro c there
  rw [gap] at there
  cases indented : l.indent? with
  | none =>
    rw [indented] at there
    rw [List.mem_singleton.mp there]
    rfl
  | some step =>
    rw [indented] at there
    exact isSpace_of_mem_edge l depth c there

theorem skip_blanks (blank : ∀ c ∈ blanks, isSpace c = true) (cs : List Char) :
    skip (blanks ++ cs) = skip cs :=
  List.dropWhile_append_of_pos blank

theorem skip_cons {c : Char} (visible : isSpace c = false) (cs : List Char) :
    skip (c :: cs) = c :: cs :=
  List.dropWhile_cons_of_neg (by simp [visible])

/-- Blanks end a number, if what stands behind them does. -/
theorem EndsNumber.behind {rest : List Char} (ends : EndsNumber rest)
    (blank : ∀ c ∈ blanks, isSpace c = true) : EndsNumber (blanks ++ rest) := by
  cases blanks with
  | nil => exact ends
  | cons b bs =>
    intro c first
    obtain rfl := Option.some.inj first
    have space := blank b (by simp)
    simp only [isSpace, Bool.or_eq_true, decide_eq_true_eq] at space
    rcases space with ((rfl | rfl) | rfl) | rfl <;> decide

/-- Items stand between brackets with blanks around them. -/
theorem enclose_eq {items : List (List Char)} (some : items ≠ []) (depth : Nat)
    (left right : Char) :
    enclose l depth left right items =
      left :: (edge l (depth + 1) ++ ((',' :: gap l (depth + 1)).intercalate items ++
        (edge l depth ++ [right]))) := by
  cases indented : l.indent? <;> simp [enclose, edge, gap, some, indented]

/-! ## Numbers -/

section Numbers

variable {n : Nat} {rest : List Char}

theorem isDigit_of_isDigit {c : Char} (h : c.isDigit = true) : isDigit c = true := by
  simp [isDigit, Text.asciiDigit?_of_isDigit h]

theorem isDigit_of_mem_toDigits {c : Char} (h : c ∈ Nat.toDigits 10 n) : c.isDigit = true :=
  Nat.isDigit_of_mem_toDigits (by decide) (by decide) h

/-- A number that begins with a zero is zero. -/
theorem eq_zero_of_toDigits {cs : List Char} (h : Nat.toDigits 10 n = '0' :: cs) : n = 0 := by
  -- Beyond one digit, the first digit is that of the number without its last digit.
  induction n using Nat.strongRecOn generalizing cs with
  | ind n ih =>
    rcases Nat.lt_or_ge n 10 with small | large
    · rw [Nat.toDigits_of_lt_base small] at h
      have zero : ∀ m < 10, Nat.digitChar m = '0' → m = 0 := by decide
      exact zero n small (List.cons.inj h).1
    · rw [Nat.toDigits_of_base_le (by decide) large] at h
      obtain ⟨d, ds, front⟩ :=
        List.exists_cons_of_ne_nil (Nat.toDigits_ne_nil (n := n / 10) (b := 10))
      rw [front, List.cons_append] at h
      obtain ⟨rfl, -⟩ := List.cons.inj h
      have := ih (n / 10) (by omega) front
      omega

theorem exists_toDigits (n : Nat) :
    ∃ c cs, Nat.toDigits 10 n = c :: cs ∧ c.isDigit = true ∧ (c = '0' → cs = []) := by
  obtain ⟨c, cs, digits⟩ := List.exists_cons_of_ne_nil (Nat.toDigits_ne_nil (n := n) (b := 10))
  refine ⟨c, cs, digits, isDigit_of_mem_toDigits (n := n) (by simp [digits]), fun zero => ?_⟩
  subst zero
  rw [eq_zero_of_toDigits digits] at digits
  exact (List.cons.inj digits).2.symm

theorem fraction?_of_endsNumber (h : EndsNumber rest) : fraction? rest = none := by
  cases rest with
  | nil => rfl
  | cons c cs =>
    have point : c ≠ '.' := (h c rfl).2.1
    simp [fraction?, point]

theorem exponent?_of_endsNumber (h : EndsNumber rest) : exponent? rest = none := by
  cases rest with
  | nil => rfl
  | cons c cs =>
    have letter : ¬(c = 'e' ∨ c = 'E') := by
      rw [not_or]
      exact (h c rfl).2.2
    simp [exponent?, letter]

/-- The digits of a number are taken up to what ends it. -/
theorem numberParts?_toDigits (n : Nat) (h : EndsNumber rest) :
    numberParts? (Nat.toDigits 10 n ++ rest) = some (⟨Nat.toDigits 10 n, none, none⟩, rest) := by
  have all (c : Char) (hc : c ∈ Nat.toDigits 10 n) : isDigit c = true :=
    isDigit_of_isDigit (isDigit_of_mem_toDigits hc)
  have stop : rest.takeWhile isDigit = [] ∧ rest.dropWhile isDigit = rest := by
    cases rest with
    | nil => exact ⟨rfl, rfl⟩
    | cons c cs => simp [(h c rfl).1]
  have taken : (Nat.toDigits 10 n ++ rest).takeWhile isDigit = Nat.toDigits 10 n := by
    rw [List.takeWhile_append_of_pos all, stop.1, List.append_nil]
  have left : (Nat.toDigits 10 n ++ rest).dropWhile isDigit = rest := by
    rw [List.dropWhile_append_of_pos all, stop.2]
  obtain ⟨c, cs, digits, digit, alone⟩ := exists_toDigits n
  rw [digits, List.cons_append] at taken left ⊢
  by_cases zero : c = '0'
  · obtain rfl := alone zero
    subst zero
    simp [numberParts?, isDigit_of_isDigit digit, fraction?_of_endsNumber h,
      exponent?_of_endsNumber h]
  · simp [numberParts?, isDigit_of_isDigit digit, zero, taken, left, fraction?_of_endsNumber h,
      exponent?_of_endsNumber h]

/-- Digits have the value of the number that they were written for, if they are not too many. -/
theorem numberValue_toDigits (negative : Bool) (h : n < 10 ^ Text.maxDigits) :
    numberValue negative ⟨Nat.toDigits 10 n, none, none⟩ =
      .ok (.int (if negative then -(n : Int) else n)) := by
  have length : ¬Text.maxDigits < (Nat.toDigits 10 n).length :=
    Nat.not_lt.mpr ((Nat.length_toDigits_le_iff (by decide) (by decide)).mpr h)
  have number : numeral (Nat.toDigits 10 n) = n := Nat.ofDigitChars_ten_toDigits
  simp only [numberValue, length, if_false, number]

theorem toList_toString (n : Int) :
    (toString n).toList =
      if n < 0 then '-' :: Nat.toDigits 10 n.natAbs else Nat.toDigits 10 n.natAbs := by
  rw [Int.toString_eq_repr, Int.repr_eq_if]
  rcases Int.lt_or_le n 0 with negative | positive
  · have size : (-n).toNat = n.natAbs := by omega
    rw [if_neg (Int.not_le.mpr negative), if_pos negative, size, String.toList_append,
      Nat.toList_repr]
    rfl
  · have size : n.toNat = n.natAbs := by omega
    rw [if_pos positive, if_neg (Int.not_lt.mpr positive), size, Nat.toList_repr]

/-- No word begins as a number does. -/
theorem word?_of_isDigit {c : Char} (h : c.isDigit = true) (cs : List Char) :
    word? (c :: cs) = none ∧ word? ('-' :: c :: cs) = none := by
  have other {d : Char} (hd : d.isDigit = false) : d ≠ c := (Text.ne_of_isDigit h hd).symm
  have hN := other (d := 'N') rfl
  have hI := other (d := 'I') rfl
  have hn := other (d := 'n') rfl
  have ht := other (d := 't') rfl
  have hf := other (d := 'f') rfl
  have minus := other (d := '-') rfl
  constructor <;> simp [word?, words, hN, hI, hn, ht, hf, minus]

theorem readNumber_unsigned {c : Char} (h : c ≠ '-') (cs : List Char) :
    readNumber (c :: cs) =
      match numberParts? (c :: cs) with
      | none => .error (.lacking .value (c :: cs))
      | some (p, rest) => (·, rest) <$> numberValue false p := by
  unfold readNumber
  split
  next negative digits sign =>
    split at sign
    · next minus => exact absurd (List.cons.inj minus).1 h
    · cases sign
      rfl

/-- An integer is read back, in front of what ends a number. -/
theorem readNumber_toString {n : Int} (size : n.natAbs < 10 ^ Text.maxDigits) (h : EndsNumber rest) :
    readNumber ((toString n).toList ++ rest) = .ok (.int n, rest) := by
  have parts := numberParts?_toDigits n.natAbs h
  rw [toList_toString]
  generalize absolute : n.natAbs = m at *
  split
  · next negative =>
    have value : -(m : Int) = n := by omega
    simp [readNumber, parts, numberValue_toDigits true size, value]
  · next positive =>
    have value : (m : Int) = n := by omega
    have read := numberValue_toDigits false size
    obtain ⟨c, cs, digits, digit, -⟩ := exists_toDigits m
    have noSign : c ≠ '-' := Text.ne_of_isDigit digit rfl
    rw [digits, List.cons_append] at parts
    rw [digits] at read
    rw [digits, List.cons_append]
    simp [readNumber_unsigned noSign, parts, read, value]

end Numbers

/-! ## Values without parts -/

theorem readsBack_null : ReadsBack l .null := by
  intro depth cs h fuel size rest ends
  obtain rfl : cs = "null".toList := by simpa [writeValue] using h.symm
  obtain ⟨fuel, rfl⟩ : ∃ n, fuel = n + 1 := ⟨fuel - 1, by omega⟩
  simp [readValue, word?, words]

theorem readsBack_bool (b : Bool) : ReadsBack l (.bool b) := by
  intro depth cs h fuel size rest ends
  obtain ⟨fuel, rfl⟩ : ∃ n, fuel = n + 1 := ⟨fuel - 1, by omega⟩
  cases b with
  | false =>
    obtain rfl : cs = "false".toList := by simpa [writeValue] using h.symm
    simp [readValue, word?, words]
  | true =>
    obtain rfl : cs = "true".toList := by simpa [writeValue] using h.symm
    simp [readValue, word?, words]

/-- An integer of few digits is written. -/
theorem integerText_of_lt {n : Int} (small : n.natAbs < 10 ^ Text.maxDigits) :
    integerText n = .ok (toString n) := by
  refine integerText_eq_ok_iff.mpr ⟨decide_eq_false ?_, rfl⟩
  exact Nat.not_lt.mpr ((Nat.length_toDigits_le_iff (by decide) (by decide)).mpr small)

theorem readsBack_int {n : Int} (small : n.natAbs < 10 ^ Text.maxDigits) :
    ReadsBack l (.int n) := by
  intro depth cs h fuel size rest ends
  rw [writeValue, integerText_of_lt small] at h
  obtain rfl := Except.ok.inj h
  obtain ⟨fuel, rfl⟩ : ∃ n, fuel = n + 1 := ⟨fuel - 1, by omega⟩
  have number := readNumber_toString small ends
  obtain ⟨c, ds, digits, digit, -⟩ := exists_toDigits n.natAbs
  have other {d : Char} (hd : d.isDigit = false) : c ≠ d := Text.ne_of_isDigit digit hd
  obtain ⟨unsigned, signed⟩ := word?_of_isDigit digit (ds ++ rest)
  rw [toList_toString, digits] at number ⊢
  split at number
  · next negative =>
    rw [if_pos negative]
    rw [List.cons_append, List.cons_append] at number ⊢
    rw [readValue_other (by decide) (by decide) (by decide), signed]
    exact number
  · next positive =>
    rw [if_neg positive]
    rw [List.cons_append] at number ⊢
    rw [readValue_other (other rfl) (other rfl) (other rfl), unsigned]
    exact number

theorem readsBack_text (s : String) : ReadsBack l (.text s) := by
  intro depth cs h fuel size rest ends
  obtain rfl : cs = writeText l.asciiOnly s := by simpa [writeValue] using h.symm
  obtain ⟨fuel, rfl⟩ : ∃ n, fuel = n + 1 := ⟨fuel - 1, by omega⟩
  obtain ⟨body, opened, read⟩ :=
    readText_writeText l.asciiOnly s (writeText l.asciiOnly s ++ rest) rest
  rw [opened] at read ⊢
  simp [readValue, read]

/-! ## Arrays -/

/-- A value begins with no blank, no closing bracket and no byte order mark. -/
theorem head_of_readValue {fuel : Nat} {c : Char} {cs rest : List Char} {v : Value}
    (h : readValue fuel (c :: cs) = .ok (v, rest)) :
    isSpace c = false ∧ c ≠ ']' ∧ c ≠ '\ufeff' := by
  obtain ⟨fuel, rfl⟩ : ∃ n, fuel = n + 1 := by
    cases fuel with
    | zero => simp [readValue] at h
    | succ n => exact ⟨n, rfl⟩
  -- Each character that is ruled out is one with which the reader has nothing to begin.
  by_contra blank
  have cases : c = ' ' ∨ c = '\t' ∨ c = '\n' ∨ c = '\r' ∨ c = ']' ∨ c = '\ufeff' := by
    simp only [isSpace] at blank
    grind
  rcases cases with rfl | rfl | rfl | rfl | rfl | rfl <;>
    simp [readValue, word?, words, readNumber, numberParts?, isDigit, Text.asciiDigit?] at h

theorem EndsNumber.of_cons {c : Char} {rest : List Char}
    (h : isDigit c = false ∧ c ≠ '.' ∧ c ≠ 'e' ∧ c ≠ 'E') : EndsNumber (c :: rest) := by
  intro d hd
  obtain rfl := Option.some.inj hd
  exact h

/-- What is written for a value that reads back begins as a value does. -/
theorem ReadsBack.exists_cons {v : Value} (h : ReadsBack l v) {depth : Nat} {cs : List Char}
    (written : writeValue l depth v = .ok cs) :
    ∃ c ds, cs = c :: ds ∧ isSpace c = false ∧ c ≠ ']' ∧ c ≠ '\ufeff' := by
  have read := h depth cs written (cs.length + 1) (Nat.lt_succ_self _) [] (by simp [EndsNumber])
  rw [List.append_nil] at read
  cases cs with
  | nil => simp [readValue, word?, words, readNumber, numberParts?] at read
  | cons c ds => exact ⟨c, ds, rfl, head_of_readValue read⟩

/-- What is written begins with no blank. -/
theorem skip_of_readsBack {v : Value} (h : ReadsBack l v) {depth : Nat} {cs : List Char}
    (written : writeValue l depth v = .ok cs) (more : List Char) :
    skip (cs ++ more) = cs ++ more := by
  obtain ⟨c, ds, rfl, visible, -⟩ := h.exists_cons written
  exact skip_cons visible _

theorem exists_intercalate_cons (separator first : List Char) (more : List (List Char)) :
    ∃ tail, separator.intercalate (first :: more) = first ++ tail := by
  cases more with
  | nil => exact ⟨[], by simp⟩
  | cons second more =>
    exact ⟨separator ++ separator.intercalate (second :: more), by
      rw [List.intercalate_cons_cons, List.append_assoc]⟩

/-- What is written for items begins as a value does. -/
theorem exists_intercalate_writeItems {x : Value} {xs : List Value} (hx : ReadsBack l x)
    {depth : Nat} {items : List (List Char)} (written : writeItems l depth (x :: xs) = .ok items)
    (separator : List Char) :
    ∃ c more, separator.intercalate items = c :: more ∧ isSpace c = false ∧ c ≠ ']' := by
  obtain ⟨ix, hix, written⟩ := Except.bind_eq_ok_iff.mp written
  obtain ⟨ixs, -, same⟩ := Except.bind_eq_ok_iff.mp written
  obtain rfl := Except.ok.inj same
  obtain ⟨tail, joined⟩ := exists_intercalate_cons separator ix ixs
  obtain ⟨c, ds, rfl, visible, open', -⟩ := hx.exists_cons hix
  exact ⟨c, ds ++ tail, joined, visible, open'⟩

/-- Items are read up to the bracket behind the last of them, with blanks behind each. -/
theorem readItems_writeItems {xs : List Value} (hx : ∀ x ∈ xs, ReadsBack l x) (some : xs ≠ [])
    {depth : Nat} {items : List (List Char)} (written : writeItems l depth xs = .ok items)
    {blanks : List Char} (blank : ∀ c ∈ blanks, isSpace c = true)
    {last : List Char} (lastBlank : ∀ c ∈ last, isSpace c = true)
    (fuel : Nat) (size : ((',' :: blanks).intercalate items).length + 2 ≤ fuel)
    (acc : List Value) (rest : List Char) :
    readItems fuel acc ((',' :: blanks).intercalate items ++ (last ++ ']' :: rest)) =
      .ok (acc.reverse ++ xs, rest) := by
  -- Induction on the items that are left; each takes one of the fuel and a character or more.
  induction xs generalizing items fuel acc with
  | nil => exact absurd rfl some
  | cons x xs ih =>
    obtain ⟨ix, hix, written⟩ := Except.bind_eq_ok_iff.mp written
    obtain ⟨ixs, hixs, same⟩ := Except.bind_eq_ok_iff.mp written
    obtain rfl := Except.ok.inj same
    obtain ⟨fuel, rfl⟩ : ∃ n, fuel = n + 1 := ⟨fuel - 1, by omega⟩
    have first := hx x (by simp)
    cases xs with
    | nil =>
      obtain rfl : ixs = [] := by simpa [writeItems] using hixs.symm
      rw [List.intercalate_singleton] at size ⊢
      have ends : EndsNumber (last ++ ']' :: rest) :=
        EndsNumber.behind (.of_cons (by decide)) lastBlank
      have read := first depth ix hix fuel (by omega) (last ++ ']' :: rest) ends
      have closed : skip (last ++ ']' :: rest) = ']' :: rest := by
        rw [skip_blanks lastBlank, skip_cons rfl]
      simp [readItems, read, closed]
    | cons y ys =>
      obtain ⟨c, more, body, visible, -⟩ :=
        exists_intercalate_writeItems (hx y (by simp)) hixs (',' :: blanks)
      have some' : ixs ≠ [] := by
        rintro rfl
        cases body
      rw [List.intercalate_cons_of_ne_nil some'] at size ⊢
      rw [List.length_append, List.length_append, List.length_cons] at size
      have read := first depth ix hix fuel (by omega)
        (',' :: (blanks ++ ((',' :: blanks).intercalate ixs ++ (last ++ ']' :: rest))))
        (.of_cons (by decide))
      have others := ih (fun x hm => hx x (by simp [hm])) (by simp) hixs fuel (by omega)
        (x :: acc)
      have next : skip (blanks ++ ((',' :: blanks).intercalate ixs ++ (last ++ ']' :: rest))) =
          (',' :: blanks).intercalate ixs ++ (last ++ ']' :: rest) := by
        rw [skip_blanks blank, body, List.cons_append, skip_cons visible]
      have joined : ix ++ (',' :: blanks) ++ (',' :: blanks).intercalate ixs ++
          (last ++ ']' :: rest) =
          ix ++ ',' :: (blanks ++ ((',' :: blanks).intercalate ixs ++ (last ++ ']' :: rest))) := by
        simp
      rw [joined, readItems, read]
      simp only [Except.ok_bind]
      rw [skip_cons rfl]
      change readItems fuel (x :: acc) (skip (blanks ++ _)) = _
      rw [next, others]
      simp

/-- Behind a bracket that is not closed at once stand items. -/
theorem readValue_array {c : Char} {body cs : List Char} (h : skip body = c :: cs) (open' : c ≠ ']')
    (fuel : Nat) :
    readValue (fuel + 1) ('[' :: body) =
      (fun r => (.list r.1, r.2)) <$> readItems fuel [] (skip body) := by
  rw [readValue]
  split
  · next closed =>
    rw [h] at closed
    exact absurd (List.cons.inj closed).1 open'
  · cases readItems fuel [] (skip body) <;> rfl

theorem readsBack_list {xs : List Value} (hx : ∀ x ∈ xs, ReadsBack l x) :
    ReadsBack l (.list xs) := by
  intro depth cs h fuel size rest _
  obtain ⟨items, written, rfl⟩ := Except.map_eq_ok_iff.mp h
  obtain ⟨fuel, rfl⟩ : ∃ n, fuel = n + 1 := ⟨fuel - 1, by omega⟩
  cases xs with
  | nil =>
    obtain rfl : items = [] := by simpa [writeItems] using written.symm
    simp [enclose, readValue, skip, isSpace]
  | cons x xs =>
    obtain ⟨c, more, body, visible, open'⟩ :=
      exists_intercalate_writeItems (hx x (by simp)) written (',' :: gap l (depth + 1))
    have some : items ≠ [] := by
      rintro rfl
      cases body
    rw [enclose_eq some] at size ⊢
    simp only [List.length_cons, List.length_append, List.length_nil] at size
    have read := readItems_writeItems hx (by simp) written (isSpace_of_mem_gap l (depth + 1))
      (isSpace_of_mem_edge l depth) fuel (by omega) [] rest
    have starts : skip (edge l (depth + 1) ++ ((',' :: gap l (depth + 1)).intercalate items ++
        (edge l depth ++ ']' :: rest))) =
        (',' :: gap l (depth + 1)).intercalate items ++ (edge l depth ++ ']' :: rest) := by
      rw [skip_blanks (isSpace_of_mem_edge l (depth + 1)), body, List.cons_append,
        skip_cons visible]
    rw [List.cons_append, List.append_assoc, List.append_assoc, List.append_assoc,
      List.singleton_append, readValue_array (by rw [starts, body]; rfl) open', starts, read]
    rfl

/-! ## Objects -/

theorem insert_of_fresh {members : List (String × Value)} {name : String}
    (fresh : ∀ m ∈ members, m.1 ≠ name) (v : Value) :
    Mapping.insert (members.map fun m => (.text m.1, m.2)) (.text name) v =
      (members ++ [(name, v)]).map fun m => (.text m.1, m.2) := by
  induction members with
  | nil => rfl
  | cons m members ih =>
    have other : (Value.text m.1).equal (.text name) = false := by
      simpa [Value.equal] using fresh m (by simp)
    simp [Mapping.insert, other, ih fun m hm => fresh m (by simp [hm])]

/-- Entries with different names are the members of an object. -/
theorem update_of_names (acc members : List (String × Value))
    (names : ((acc ++ members).map Prod.fst).Nodup) :
    Mapping.update (acc.map fun m => (.text m.1, m.2)) (members.map fun m => (.text m.1, m.2)) =
      (acc ++ members).map fun m => (.text m.1, m.2) := by
  induction members generalizing acc with
  | nil => simp [Mapping.update]
  | cons m members ih =>
    have fresh : ∀ k ∈ acc, k.1 ≠ m.1 := by
      rw [List.map_append, List.nodup_append] at names
      intro k hk
      exact names.2.2 k.1 (List.mem_map_of_mem hk) m.1 (by simp)
    have rest := ih (acc ++ [m]) (by simpa using names)
    rw [List.append_assoc, List.singleton_append] at rest
    rw [← rest, ← insert_of_fresh fresh]
    rfl

/-- A member is read, and what stands behind it settles whether others follow. -/
theorem readMembers_member {v : Value} (hv : ReadsBack l v) {depth : Nat} {cs : List Char}
    (written : writeValue l depth v = .ok cs) {fuel : Nat} (size : cs.length < fuel)
    (name : String) (acc : List (Value × Value)) (more : List Char) (ends : EndsNumber more) :
    (∀ rest, skip more = '\x7d' :: rest →
      readMembers (fuel + 1) acc (writeText l.asciiOnly name ++ ": ".toList ++ cs ++ more) =
        .ok (((.text name, v) :: acc).reverse, rest)) ∧
    ∀ rest, skip more = ',' :: rest →
      readMembers (fuel + 1) acc (writeText l.asciiOnly name ++ ": ".toList ++ cs ++ more) =
        readMembers fuel ((.text name, v) :: acc) (skip rest) := by
  have joined : writeText l.asciiOnly name ++ ": ".toList ++ cs ++ more =
      writeText l.asciiOnly name ++ (':' :: ' ' :: (cs ++ more)) := by simp
  obtain ⟨body, opened, named⟩ := readText_writeText l.asciiOnly name
    (writeText l.asciiOnly name ++ (':' :: ' ' :: (cs ++ more))) (':' :: ' ' :: (cs ++ more))
  have valued := hv depth cs written fuel size more ends
  have blank : skip (' ' :: (cs ++ more)) = cs ++ more := skip_of_readsBack hv written more
  have start : skip (':' :: ' ' :: (cs ++ more)) = ':' :: ' ' :: (cs ++ more) := skip_cons rfl _
  rw [joined, opened, readMembers]
  rw [opened] at named
  constructor <;> intro rest behind <;>
    simp only [named, Except.ok_bind, start, blank, valued, behind, String.ofList_toList]

/-- What is written for members begins with a quote. -/
theorem exists_intercalate_writeMembers {members : List (String × Value)} {m : String × Value}
    {depth : Nat} {items : List (List Char)}
    (written : writeMembers l depth ((m :: members).map fun m => (.text m.1, m.2)) = .ok items)
    (separator : List Char) : ∃ more, separator.intercalate items = '"' :: more := by
  obtain ⟨name, named, written⟩ := Except.bind_eq_ok_iff.mp written
  obtain ⟨cs, -, written⟩ := Except.bind_eq_ok_iff.mp written
  obtain ⟨others, -, same⟩ := Except.bind_eq_ok_iff.mp written
  obtain rfl := Except.ok.inj same
  obtain ⟨tail, joined⟩ := exists_intercalate_cons separator
    (writeText l.asciiOnly name ++ ": ".toList ++ cs) others
  rw [joined, writeText]
  exact ⟨_, rfl⟩

/-- Members are read up to the brace behind the last of them, with blanks behind each. -/
theorem readMembers_writeMembers {members : List (String × Value)}
    (hm : ∀ m ∈ members, ReadsBack l m.2) (some : members ≠ []) {depth : Nat}
    {items : List (List Char)}
    (written : writeMembers l depth (members.map fun m => (.text m.1, m.2)) = .ok items)
    {blanks : List Char} (blank : ∀ c ∈ blanks, isSpace c = true)
    {last : List Char} (lastBlank : ∀ c ∈ last, isSpace c = true)
    (fuel : Nat) (size : ((',' :: blanks).intercalate items).length + 2 ≤ fuel)
    (acc : List (Value × Value)) (rest : List Char) :
    readMembers fuel acc ((',' :: blanks).intercalate items ++ (last ++ '\x7d' :: rest)) =
      .ok (acc.reverse ++ members.map fun m => (.text m.1, m.2), rest) := by
  -- Induction on the members that are left, as for items.
  induction members generalizing items fuel acc with
  | nil => exact absurd rfl some
  | cons m members ih =>
    obtain ⟨name, named, written⟩ := Except.bind_eq_ok_iff.mp written
    obtain rfl := Except.ok.inj named
    obtain ⟨cs, hcs, written⟩ := Except.bind_eq_ok_iff.mp written
    obtain ⟨others, hothers, same⟩ := Except.bind_eq_ok_iff.mp written
    obtain rfl := Except.ok.inj same
    obtain ⟨fuel, rfl⟩ : ∃ n, fuel = n + 1 := ⟨fuel - 1, by omega⟩
    have first := hm m (by simp)
    cases members with
    | nil =>
      obtain rfl : others = [] := by simpa [writeMembers] using hothers.symm
      rw [List.intercalate_singleton] at size ⊢
      rw [List.length_append] at size
      have brace : skip (last ++ '\x7d' :: rest) = '\x7d' :: rest := by
        rw [skip_blanks lastBlank, skip_cons rfl]
      have ends : EndsNumber (last ++ '\x7d' :: rest) :=
        EndsNumber.behind (.of_cons (by decide)) lastBlank
      have read := (readMembers_member first hcs (show cs.length < fuel by omega) m.1 acc
        (last ++ '\x7d' :: rest) ends).1 rest brace
      simpa using read
    | cons n ns =>
      obtain ⟨more, body⟩ := exists_intercalate_writeMembers hothers (',' :: blanks)
      have some' : others ≠ [] := by
        rintro rfl
        cases body
      rw [List.intercalate_cons_of_ne_nil some'] at size ⊢
      rw [List.length_append, List.length_append, List.length_append, List.length_cons] at size
      obtain ⟨-, read⟩ := readMembers_member first hcs (show cs.length < fuel by omega) m.1 acc
        (',' :: (blanks ++ ((',' :: blanks).intercalate others ++ (last ++ '\x7d' :: rest))))
        (.of_cons (by decide))
      have tail := ih (fun k hk => hm k (by simp [hk])) (by simp) hothers fuel (by omega)
        ((.text m.1, m.2) :: acc)
      -- Behind the comma stand blanks, and the next member begins with a quote.
      have next :
          skip (blanks ++ ((',' :: blanks).intercalate others ++ (last ++ '\x7d' :: rest))) =
          (',' :: blanks).intercalate others ++ (last ++ '\x7d' :: rest) := by
        rw [skip_blanks blank, body, List.cons_append, skip_cons rfl]
      have step := read _ (skip_cons rfl _)
      rw [next, tail] at step
      simpa using step

/-- Behind a brace that is not closed at once stand members. -/
theorem readValue_object {c : Char} {body cs : List Char} (h : skip body = c :: cs)
    (open' : c ≠ '\x7d') (fuel : Nat) :
    readValue (fuel + 1) ('\x7b' :: body) =
      (fun r => (.map (Mapping.ofEntries r.1), r.2)) <$> readMembers fuel [] (skip body) := by
  rw [readValue]
  split
  · next closed =>
    rw [h] at closed
    exact absurd (List.cons.inj closed).1 open'
  · cases readMembers fuel [] (skip body) <;> rfl

theorem readsBack_map {members : List (String × Value)} (names : (members.map Prod.fst).Nodup)
    (hm : ∀ m ∈ members, ReadsBack l m.2) :
    ReadsBack l (.map (members.map fun m => (.text m.1, m.2))) := by
  intro depth cs h fuel size rest _
  obtain ⟨items, written, rfl⟩ := Except.map_eq_ok_iff.mp h
  obtain ⟨fuel, rfl⟩ : ∃ n, fuel = n + 1 := ⟨fuel - 1, by omega⟩
  cases members with
  | nil =>
    obtain rfl : items = [] := by simpa [writeMembers] using written.symm
    simp [enclose, readValue, skip, isSpace]
  | cons m members =>
    obtain ⟨more, body⟩ := exists_intercalate_writeMembers written (',' :: gap l (depth + 1))
    have some : items ≠ [] := by
      rintro rfl
      cases body
    rw [enclose_eq some] at size ⊢
    simp only [List.length_cons, List.length_append, List.length_nil] at size
    have read := readMembers_writeMembers hm (by simp) written (isSpace_of_mem_gap l (depth + 1))
      (isSpace_of_mem_edge l depth) fuel (by omega) [] rest
    have starts : skip (edge l (depth + 1) ++ ((',' :: gap l (depth + 1)).intercalate items ++
        (edge l depth ++ '\x7d' :: rest))) =
        (',' :: gap l (depth + 1)).intercalate items ++ (edge l depth ++ '\x7d' :: rest) := by
      rw [skip_blanks (isSpace_of_mem_edge l (depth + 1)), body, List.cons_append, skip_cons rfl]
    rw [List.cons_append, List.append_assoc, List.append_assoc, List.append_assoc,
      List.singleton_append, readValue_object (by rw [starts, body]; rfl) (by decide), starts, read]
    -- the members are entered one by one, and no name is there already
    have entries := update_of_names [] (m :: members) names
    simp only [List.map_nil, List.nil_append] at entries
    simp only [Except.ok_map, List.reverse_nil, List.nil_append, Mapping.ofEntries, entries]

/-! ## All values -/

/-- **A native value** is read from what is written for it, and what stands behind is left. -/
theorem Native.readsBack {v : Value} (h : Native v) : ReadsBack l v := by
  induction h with
  | null => exact readsBack_null
  | bool b => exact readsBack_bool b
  | int size => exact readsBack_int size
  | text s => exact readsBack_text s
  | list _ ih => exact readsBack_list ih
  | map members names _ ih => exact readsBack_map names ih

/-- A native value is read from what is written for it with blanks behind it. -/
theorem Native.readAll_write {v : Value} (h : Native v) {cs : List Char}
    (written : writeValue l 0 v = .ok cs) (blank : ∀ c ∈ blanks, isSpace c = true) :
    readAll (cs ++ blanks) = .ok v := by
  have back : ReadsBack l v := h.readsBack
  have nothing : EndsNumber [] := by simp [EndsNumber]
  have ends : EndsNumber (blanks ++ []) := EndsNumber.behind nothing blank
  have more : skip (blanks ++ []) = [] := skip_blanks blank []
  have start := skip_of_readsBack back written blanks
  rw [List.append_nil] at ends more
  have value := back 0 cs written (2 * (cs ++ blanks).length + 2)
    (by rw [List.length_append]; omega) blanks ends
  obtain ⟨c, ds, rfl, -, -, noMark⟩ := back.exists_cons written
  unfold readAll
  split
  · next mark => exact absurd (List.cons.inj mark).1 noMark
  · rw [start, value, Except.ok_bind]
    simp only [more]

/-- **A native value** is read back from its text. -/
theorem Native.read_write {v : Value} (h : Native v) {s : String} (written : write l v = .ok s) :
    read s = .ok v := by
  obtain ⟨cs, written', rfl⟩ := Except.map_eq_ok_iff.mp written
  have whole : readAll (cs ++ []) = .ok v := h.readAll_write written' (by simp)
  rw [List.append_nil] at whole
  rw [read, String.toList_ofList, whole, Except.ok_mapError]

end CauseTrail.Json
