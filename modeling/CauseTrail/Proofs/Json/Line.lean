import CauseTrail.Proofs.Json.RoundTrip

/-!
# Lines of JSON

Whatever texts a value holds, its line has nothing but printable ASCII on it: all other characters
of a text are written by their numbers, and nothing else that is written goes beyond. So a line
holds no line feed, and its bytes are its characters.

## Main definitions

* `Json.OnLine`: characters that are printable ASCII

## Main results

* `Json.onLine_write`: the line of a value has printable ASCII on it
* `Json.OnLine.notMem_newline`: such a line holds no line feed
-/

namespace CauseTrail.Json

/-- Characters that may stand on a line: printable ASCII. -/
def OnLine (cs : List Char) : Prop := ∀ c ∈ cs, 0x20 ≤ c.toNat ∧ c.toNat ≤ 0x7e

instance (cs : List Char) : Decidable (OnLine cs) :=
  decidable_of_iff (cs.all fun c => Nat.ble 0x20 c.toNat && Nat.ble c.toNat 0x7e) (by simp [OnLine])

@[simp] theorem onLine_nil : OnLine [] := by simp [OnLine]

@[simp] theorem onLine_cons {c : Char} {cs : List Char} :
    OnLine (c :: cs) ↔ (0x20 ≤ c.toNat ∧ c.toNat ≤ 0x7e) ∧ OnLine cs :=
  List.forall_mem_cons

@[simp] theorem onLine_append {cs ds : List Char} : OnLine (cs ++ ds) ↔ OnLine cs ∧ OnLine ds :=
  List.forall_mem_append

theorem OnLine.intercalate {separator : List Char} (hs : OnLine separator)
    {items : List (List Char)} (h : ∀ i ∈ items, OnLine i) :
    OnLine (separator.intercalate items) := by
  induction items with
  | nil => simp
  | cons i items ih =>
    have others := ih fun j hj => h j (by simp [hj])
    by_cases last : items = []
    · simpa [last] using h i
    · rw [List.intercalate_cons_of_ne_nil last, onLine_append, onLine_append]
      exact ⟨⟨h i (by simp), hs⟩, others⟩

/-! ## Texts -/

theorem onLine_hexDigits (width n : Nat) : OnLine (Text.hexDigits width n) :=
  Text.forall_mem_hexDigits (by decide) width n

theorem onLine_numberEscape (n : Nat) : OnLine (numberEscape n) := by
  unfold numberEscape
  split <;> simp [onLine_hexDigits]

theorem onLine_escapeChar (c : Char) : OnLine (escapeChar true c) := by
  unfold escapeChar
  split
  · next e letter =>
    have : 0x20 ≤ e.toNat ∧ e.toNat ≤ 0x7e := by
      unfold escapeLetter? at letter
      split_ifs at letter
      all_goals
        obtain rfl := Option.some.inj letter
        decide
    simpa using this
  · split
    · exact onLine_numberEscape _
    · next beyond =>
      simp only [true_and, not_or, Nat.not_lt] at beyond
      simpa using beyond

theorem onLine_writeText (s : String) : OnLine (writeText true s) := by
  have body : OnLine (s.toList.flatMap (escapeChar true)) := by
    intro c hc
    obtain ⟨d, -, hd⟩ := List.mem_flatMap.mp hc
    exact onLine_escapeChar d c hd
  simp [writeText, body]

/-! ## Numbers -/

theorem onLine_of_isDigit {cs : List Char} (h : ∀ c ∈ cs, c.isDigit = true) : OnLine cs := by
  intro c hc
  have digit := h c hc
  simp only [Char.isDigit, Bool.and_eq_true, decide_eq_true_eq, UInt32.le_iff_toNat_le] at digit
  have number : c.val.toNat = c.toNat := rfl
  have low : '0'.val.toNat = 48 := rfl
  have high : '9'.val.toNat = 57 := rfl
  omega

theorem onLine_toDigits (n : Nat) : OnLine (Nat.toDigits 10 n) :=
  onLine_of_isDigit fun _ => isDigit_of_mem_toDigits

theorem onLine_toString_nat (n : Nat) : OnLine (toString n).toList := by
  have digits : (toString n).toList = Nat.toDigits 10 n := Nat.toList_repr
  rw [digits]
  exact onLine_toDigits n

theorem onLine_toString (n : Int) : OnLine (toString n).toList := by
  rw [toList_toString]
  split <;> simp [onLine_toDigits]

theorem onLine_padDigits (width n : Nat) : OnLine (padDigits width n).toList :=
  onLine_of_isDigit fun _ => isDigit_of_mem_padDigits

theorem onLine_replicate (n : Nat) : OnLine (List.replicate n '0') := by
  intro c hc
  rw [List.eq_of_mem_replicate hc]
  decide

theorem OnLine.of_subset {cs ds : List Char} (h : OnLine ds) (sub : ∀ c ∈ cs, c ∈ ds) : OnLine cs :=
  fun c hc => h c (sub c hc)

theorem onLine_positional (d : Decimal) : OnLine (FloatFormat.positional d).toList := by
  unfold FloatFormat.positional
  split
  · have zeros := onLine_replicate d.exponent.toNat
    have point : OnLine ".0".toList := by decide
    simp only [String.toList_append, String.toList_ofList, onLine_append]
    exact ⟨⟨onLine_toString_nat _, zeros⟩, point⟩
  · have padded := onLine_padDigits ((-d.exponent).toNat + 1) d.digits
    have point : OnLine ".".toList := by decide
    simp only [String.toList_append, String.toList_ofList, onLine_append]
    exact ⟨⟨padded.of_subset fun _ => List.mem_of_mem_take, point⟩,
      padded.of_subset fun _ => List.mem_of_mem_drop⟩

theorem onLine_scientific (f : FloatFormat) (d : Decimal) : OnLine (f.scientific d).toList := by
  have digits := onLine_toString_nat d.digits
  have sign (power : Int) : OnLine (if power < 0 then "-" else "+").toList := by
    split <;> decide
  have letter : OnLine "e".toList := by decide
  simp only [FloatFormat.scientific, String.toList_append, onLine_append]
  refine ⟨⟨⟨?_, letter⟩, sign _⟩, onLine_padDigits _ _⟩
  -- The first digit stands before the point, and all of them were digits.
  split
  · simp
  · next c one =>
    rw [one] at digits
    simpa using digits
  · next c cs _ more =>
    rw [more] at digits
    simpa using digits

theorem onLine_float (x : Binary64) : OnLine (x.text floatFormat).toList := by
  have sign (negative : Bool) : OnLine (if negative = true then "-" else "").toList := by
    cases negative <;> decide
  unfold Binary64.text
  split
  · decide
  · rw [String.toList_append, onLine_append]
    exact ⟨sign _, by decide⟩
  · rw [String.toList_append, onLine_append]
    exact ⟨sign _, by decide⟩
  · rw [String.toList_append, onLine_append]
    refine ⟨sign _, ?_⟩
    simp only [FloatFormat.decimalText]
    split
    · exact onLine_positional _
    · exact onLine_scientific _ _

/-! ## Values -/

/-- Brackets around items on one line are on one line, as this layout has no line ends. -/
theorem onLine_enclose {items : List (List Char)} (h : ∀ i ∈ items, OnLine i) (depth : Nat)
    {left right : Char} (hl : OnLine [left]) (hr : OnLine [right]) :
    OnLine (enclose .line depth left right items) := by
  by_cases none : items = []
  · subst none
    exact onLine_append.mpr ⟨hl, hr⟩
  · have comma : OnLine ", ".toList := by decide
    have separated := comma.intercalate h
    have line : enclose .line depth left right items =
        left :: (", ".toList.intercalate items ++ [right]) := enclose_eq none depth left right
    rw [line, ← List.singleton_append, onLine_append, onLine_append]
    exact ⟨hl, separated, hr⟩

mutual

/-- What is written for a value is printable ASCII. -/
theorem onLine_writeValue {depth : Nat} :
    ∀ (v : Value) {cs : List Char}, writeValue .line depth v = .ok cs → OnLine cs
  | .null, cs, h => by
    obtain rfl := Except.ok.inj h
    decide
  | .bool b, cs, h => by
    obtain rfl := Except.ok.inj h
    cases b <;> decide
  | .int n, cs, h => by
    obtain ⟨text, written, rfl⟩ := Except.map_eq_ok_iff.mp h
    obtain ⟨-, rfl⟩ := integerText_eq_ok_iff.mp written
    exact onLine_toString n
  | .float x, cs, h => by
    obtain rfl := Except.ok.inj h
    exact onLine_float x
  | .text s, cs, h | .bytes s, cs, h | .date s, cs, h | .timestamp s, cs, h => by
    obtain rfl := Except.ok.inj h
    exact onLine_writeText _
  | .set xs, cs, h => by
    rw [writeValue] at h
    split at h
    · cases h
    · obtain rfl := Except.ok.inj h
      exact onLine_writeText _
  | .list xs, cs, h | .tuple xs, cs, h => by
    obtain ⟨items, written, rfl⟩ := Except.map_eq_ok_iff.mp h
    exact onLine_enclose (onLine_writeItems xs written) depth (by decide) (by decide)
  | .map es, cs, h => by
    obtain ⟨items, written, rfl⟩ := Except.map_eq_ok_iff.mp h
    exact onLine_enclose (onLine_writeMembers es written) depth (by decide) (by decide)

theorem onLine_writeItems {depth : Nat} :
    ∀ (xs : List Value) {items : List (List Char)}, writeItems .line depth xs = .ok items →
      ∀ i ∈ items, OnLine i
  | [], items, h => by
    obtain rfl := Except.ok.inj h
    simp
  | x :: xs, items, h => by
    obtain ⟨cs, hcs, more⟩ := Except.bind_eq_ok_iff.mp h
    obtain ⟨others, hothers, same⟩ := Except.bind_eq_ok_iff.mp more
    obtain rfl := Except.ok.inj same
    exact List.forall_mem_cons.mpr ⟨onLine_writeValue x hcs, onLine_writeItems xs hothers⟩

theorem onLine_writeMembers {depth : Nat} :
    ∀ (es : List (Value × Value)) {items : List (List Char)},
      writeMembers .line depth es = .ok items → ∀ i ∈ items, OnLine i
  | [], items, h => by
    obtain rfl := Except.ok.inj h
    simp
  | (k, v) :: es, items, h => by
    obtain ⟨name, -, more⟩ := Except.bind_eq_ok_iff.mp h
    obtain ⟨cs, hcs, more⟩ := Except.bind_eq_ok_iff.mp more
    obtain ⟨others, hothers, same⟩ := Except.bind_eq_ok_iff.mp more
    obtain rfl := Except.ok.inj same
    have member : OnLine (writeText true name ++ ": ".toList ++ cs) := by
      rw [onLine_append, onLine_append]
      exact ⟨⟨onLine_writeText name, by decide⟩, onLine_writeValue v hcs⟩
    exact List.forall_mem_cons.mpr ⟨member, onLine_writeMembers es hothers⟩

end

/-- **The line of a value** has nothing but printable ASCII on it. -/
theorem onLine_write {v : Value} {s : String} (h : write .line v = .ok s) : OnLine s.toList := by
  obtain ⟨cs, hcs, rfl⟩ := Except.map_eq_ok_iff.mp h
  rw [String.toList_ofList]
  exact onLine_writeValue v hcs

theorem OnLine.notMem_newline {cs : List Char} (h : OnLine cs) : '\n' ∉ cs :=
  fun inside => absurd (h '\n' inside).1 (by decide)

end CauseTrail.Json
