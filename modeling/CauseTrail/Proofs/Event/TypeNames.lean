import CauseTrail.Event.Assembly
import CauseTrail.Proofs.Text.Trimming

/-!
# The name of a type in a debug text

The name of a type is looked for in the longest front of a debug text that holds no delimiter, and
is what remains of it without the blanks around it. So it holds no delimiter, is the name of its own
text, and does not depend on what follows the first delimiter. An exception that shows itself as the
name of its class with arguments in parentheses has that name in its record, whatever the arguments
are.

## Main definitions

* `TypeName.IsToken`: the longest front of a text without a delimiter
* `TypeName.Found`: what is known of the name that is found in a text

## Main results

* `TypeName.isToken_iff`, `TypeName.ofDebug_eq_iff`: the name is the trimmed longest front
* `TypeName.ofDebug_append`: what follows a delimiter plays no part
* `Exception.exists_debug_eq`: how an exception shows itself
* `TypeName.found_and_recorded`: the name that is found, and the one that is recorded
-/

namespace CauseTrail

namespace TypeName

/-- The longest front of a text that holds no delimiter. -/
structure IsToken (cs front : List Char) : Prop where
  begins : front <+: cs
  free : ∀ c ∈ front, isDelimiter c = false
  longest : ∀ other, other <+: cs → (∀ c ∈ other, isDelimiter c = false) → other <+: front

variable {cs front : List Char} {d : Char} {text name : String}

/-! ## The token -/

theorem not_isDelimiter_of_mem_token {c : Char} (there : c ∈ token cs) : isDelimiter c = false := by
  simpa using List.mem_takeWhile_imp there

/-- A front without a delimiter is within the token. -/
theorem prefix_token (begins : front <+: cs) (free : ∀ c ∈ front, isDelimiter c = false) :
    front <+: token cs := by
  obtain ⟨rest, rfl⟩ := begins
  rw [token, List.takeWhile_append_of_pos fun c there => by rw [free c there]; rfl]
  exact List.prefix_append _ _

theorem isToken_token (cs : List Char) : IsToken cs (token cs) where
  begins := List.takeWhile_prefix _
  free _ := not_isDelimiter_of_mem_token
  longest _ := prefix_token

theorem isToken_iff : IsToken cs front ↔ front = token cs := by
  constructor
  · intro isToken
    have within := prefix_token isToken.begins isToken.free
    have beyond := isToken.longest _ (isToken_token cs).begins (isToken_token cs).free
    exact within.eq_of_length (Nat.le_antisymm within.length_le beyond.length_le)
  · rintro rfl
    exact isToken_token cs

theorem token_eq_self (free : ∀ c ∈ cs, isDelimiter c = false) : token cs = cs :=
  (isToken_iff.mp ⟨List.prefix_refl cs, free, fun _ within _ => within⟩).symm

/-- What follows a delimiter plays no part. -/
theorem token_append (ends : isDelimiter d = true) (cs rest : List Char) :
    token (cs ++ d :: rest) = token cs := by
  induction cs with
  | nil => simp [token, ends]
  | cons c cs ih =>
    rw [token, token] at ih
    rw [List.cons_append, token, token, List.takeWhile_cons, List.takeWhile_cons, ih]

/-! ## The name -/

theorem toList_ofDebug (text : String) :
    (ofDebug text).toList = Text.trim (token text.toList) := by
  rw [ofDebug, String.toList_ofList, chars]

/-- **The name of a type** is what is left of the longest front without a delimiter when the blanks
around it are taken away. -/
theorem ofDebug_eq_iff :
    ofDebug text = name ↔ ∃ front, IsToken text.toList front ∧ Text.Trimmed front name.toList := by
  simp only [isToken_iff, exists_eq_left, Text.trimmed_iff]
  rw [← toList_ofDebug, String.toList_inj]

/-- A type name has none of the characters in it that end one. -/
theorem not_isDelimiter_of_mem_ofDebug {c : Char} (there : c ∈ (ofDebug text).toList) :
    isDelimiter c = false := by
  rw [toList_ofDebug] at there
  exact not_isDelimiter_of_mem_token ((Text.trim_sublist _).mem there)

theorem ofDebug_ofDebug (text : String) : ofDebug (ofDebug text) = ofDebug text := by
  rw [← String.toList_inj, toList_ofDebug,
    token_eq_self fun c => not_isDelimiter_of_mem_ofDebug, toList_ofDebug, Text.trim_trim]

/-- What stands behind the end of a type name makes no difference. -/
theorem ofDebug_append (ends : isDelimiter d = true) (text rest : String) :
    ofDebug (text ++ String.singleton d ++ rest) = ofDebug text := by
  rw [← String.toList_inj, toList_ofDebug, toList_ofDebug, String.toList_append,
    String.toList_append, String.toList_singleton, List.append_assoc, List.singleton_append,
    token_append ends]

/-- A text without delimiters that borders on no blank is a name. -/
theorem ofDebug_eq_self (free : ∀ c ∈ name.toList, isDelimiter c = false)
    (tight : Text.Tight name.toList) : ofDebug name = name := by
  rw [← String.toList_inj, toList_ofDebug, token_eq_self free, Text.trim_eq_self tight]

/-- The information separators are no blanks. -/
theorem not_isBlank_separator {c : Char} (low : '\x1c' ≤ c) (high : c ≤ '\x1f') :
    Text.isBlank c = false := by
  have apart : Text.blanks.all (fun d => !decide ('\x1c' ≤ d ∧ d ≤ '\x1f')) = true := by decide
  rw [Text.isBlank, List.contains_eq_mem, decide_eq_false_iff_not]
  intro there
  simpa [low, high] using List.all_eq_true.mp apart c there

/-- What is known of the name that is found in a text. -/
structure Found (text : String) : Prop where
  /-- It is the only text that is left of the longest front without a delimiter when the blanks
  around it are taken away. -/
  eq_iff : ∀ name, ofDebug text = name ↔
    ∃ front, IsToken text.toList front ∧ Text.Trimmed front name.toList
  /-- It holds no delimiter. -/
  free : ∀ c ∈ (ofDebug text).toList, isDelimiter c = false
  /-- It is the name that is found in itself. -/
  again : ofDebug (ofDebug text) = ofDebug text
  /-- It is found whatever follows, behind a delimiter. -/
  stops : ∀ d rest, isDelimiter d = true →
    ofDebug (text ++ String.singleton d ++ rest) = ofDebug text
  /-- It has all information separators of that front. -/
  separators : ∀ c, '\x1c' ≤ c → c ≤ '\x1f' → ∀ front, IsToken text.toList front →
    (ofDebug text).toList.count c = front.count c

theorem found (text : String) : Found text where
  eq_iff _ := ofDebug_eq_iff
  free _ := not_isDelimiter_of_mem_ofDebug
  again := ofDebug_ofDebug text
  stops _ rest ends := ofDebug_append ends text rest
  separators c low high front isToken := by
    obtain rfl := isToken_iff.mp isToken
    rw [toList_ofDebug, Text.count_trim (not_isBlank_separator low high)]

end TypeName

/-! ## Exceptions -/

/-- An exception whose debug text is not fixed shows itself as the name of its class with arguments
in parentheses. -/
theorem Exception.exists_debug_eq {e : Exception} (usual : e.debug? = none) :
    ∃ arguments, e.debug = .ok (e.className ++ "(" ++ arguments) := by
  have called (args : List String) :
      ∃ arguments, Value.call e.className args = e.className ++ "(" ++ arguments :=
    ⟨", ".intercalate args ++ ")", by rw [Value.call, String.append_assoc]⟩
  obtain ⟨arguments, shows⟩ : ∃ arguments, e.familyDebug = e.className ++ "(" ++ arguments := by
    rw [familyDebug]
    split
    · exact called _
    · exact called _
  exact ⟨arguments, by rw [debug, usual, Option.getD_none, shows]⟩

variable {r : Raised} {display arguments : String}

/-- The record of an exception that shows itself as the name of its class with arguments. -/
theorem Record.ofFault_raised
    (shows : r.error.debug = .ok (r.error.className ++ "(" ++ arguments))
    (free : ∀ c ∈ r.error.className.toList, TypeName.isDelimiter c = false)
    (tight : Text.Tight r.error.className.toList)
    (displays : (Fault.raised r).displayText = .ok display) :
    ofFault TypeName.ofDebug (.raised r) = .ok (.ofTexts r.error.className display) := by
  have parenthesis : "(" = String.singleton '(' := rfl
  have name : TypeName.ofDebug (r.error.className ++ "(" ++ arguments) = r.error.className := by
    rw [parenthesis, TypeName.ofDebug_append (by decide), TypeName.ofDebug_eq_self free tight]
  have debugs : (Fault.raised r).debugText = .ok (r.error.className ++ "(" ++ arguments) := by
    rw [Fault.debugText, shows, Except.ok_mapError]
  rw [ofFault_eq, debugs, Except.ok_bind, displays, Except.ok_bind, name, Except.pure_eq_ok]

/-- **Type names.** The name that is found in a text, for every text; and the name that the record
of an exception has, where the exception shows itself as the name of its class with arguments in
parentheses, as it does unless its debug text is fixed. -/
theorem TypeName.found_and_recorded :
    (∀ text, Found text) ∧
      (∀ e : Exception, e.debug? = none →
        ∃ arguments, e.debug = .ok (e.className ++ "(" ++ arguments)) ∧
      ∀ (r : Raised) (arguments display : String),
        r.error.debug = .ok (r.error.className ++ "(" ++ arguments) →
        (∀ c ∈ r.error.className.toList, isDelimiter c = false) →
        Text.Tight r.error.className.toList → (Fault.raised r).displayText = .ok display →
        ∃ record, Record.ofFault ofDebug (.raised r) = .ok record ∧
          record.type = r.error.className ∧ record.value? = some display := by
  refine ⟨found, fun _ => Exception.exists_debug_eq, ?_⟩
  intro r arguments display shows free tight displays
  exact ⟨_, Record.ofFault_raised shows free tight displays, rfl, rfl⟩

/-- An exception whose only argument holds delimiters. -/
def TypeName.bracketed : Raised := .mk (.ofClass "ValueError" [.text "a (b\n\x7bc"]) none none false

/-- The laws for a message with brackets and a line end. -/
theorem TypeName.found_and_recorded_bracketed :
    bracketed.error.debug = .ok "ValueError('a (b\\n\x7bc')" ∧
      ∃ record, Record.ofFault ofDebug (.raised bracketed) = .ok record ∧
        record.type = "ValueError" ∧ record.value? = some "a (b\n\x7bc" := by
  obtain ⟨arguments, shows⟩ := found_and_recorded.2.1 bracketed.error rfl
  refine ⟨by decide +kernel, ?_⟩
  have free : "ValueError".toList.all (!isDelimiter ·) = true := by decide
  apply found_and_recorded.2.2 bracketed arguments _ shows
  · intro c there
    simpa using List.all_eq_true.mp free c there
  · exact ⟨fun c first => by cases first; decide, fun c last => by cases last; decide⟩
  · rfl

/-- A separator stays at the end of a name, where a tab and a wide space before it do not. -/
example : TypeName.ofDebug "\t\u3000Lost\x1f\u2003\nLater (" = "Lost\x1f" := by decide

end CauseTrail
