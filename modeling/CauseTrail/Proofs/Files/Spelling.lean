import CauseTrail.Files.Path

/-!
# The texts of paths

The names of a path that was read from a text are proper: no name is empty or a single dot, or
holds a slash. A path of proper names is read back from its text, and paths that are put together of
such paths have proper names as well.

## Main definitions

* `Path.IsProper`: the names that can stand between slashes
* `Path.Proper`: the paths of such names

## Main results

* `Path.proper_ofText`: a path that was read has proper names
* `Path.ofText_text`: a path of proper names is read back from its text
-/

namespace CauseTrail.Path

variable {p q : Path} {cs more : List Char} {name : String} {names : List String}

/-- A name can stand between slashes. -/
def IsProper (name : String) : Prop := isName name.toList = true ∧ '/' ∉ name.toList

instance (name : String) : Decidable (IsProper name) := inferInstanceAs (Decidable (_ ∧ _))

/-- A path of proper names. -/
def Proper (p : Path) : Prop := ∀ name ∈ p.names, IsProper name

instance (p : Path) : Decidable p.Proper := inferInstanceAs (Decidable (∀ name ∈ p.names, _))

/-! ## Pieces -/

theorem pieces_slash (cs : List Char) : pieces ('/' :: cs) = [] :: pieces cs := by
  rw [pieces, if_pos rfl]

theorem pieces_ne_nil (cs : List Char) : pieces cs ≠ [] := by
  cases cs with
  | nil => simp [pieces]
  | cons c cs =>
    rw [pieces]
    split
    · simp
    · split <;> simp

/-- What stands in front of a slash is a piece. -/
theorem pieces_append (whole : '/' ∉ cs) (more : List Char) :
    pieces (cs ++ '/' :: more) = cs :: pieces more := by
  induction cs with
  | nil => exact pieces_slash more
  | cons c cs ih =>
    obtain ⟨other, whole⟩ : c ≠ '/' ∧ '/' ∉ cs := by simpa [eq_comm] using whole
    rw [List.cons_append, pieces, if_neg other, ih whole]

theorem pieces_of_whole (whole : '/' ∉ cs) : pieces cs = [cs] := by
  induction cs with
  | nil => rfl
  | cons c cs ih =>
    obtain ⟨other, whole⟩ : c ≠ '/' ∧ '/' ∉ cs := by simpa [eq_comm] using whole
    rw [pieces, if_neg other, ih whole]

theorem whole_of_mem_pieces {piece : List Char} (there : piece ∈ pieces cs) : '/' ∉ piece := by
  induction cs generalizing piece with
  | nil =>
    obtain rfl := List.mem_singleton.mp there
    simp
  | cons c cs ih =>
    rw [pieces] at there
    split at there
    · obtain rfl | there := List.mem_cons.mp there
      · simp
      · exact ih there
    · next other =>
      split at there
      · next none => exact absurd none (pieces_ne_nil cs)
      · next first others some =>
        rw [some] at ih
        obtain rfl | there := List.mem_cons.mp there
        · exact List.not_mem_cons_of_ne_of_not_mem (Ne.symm other) (ih List.mem_cons_self)
        · exact ih (List.mem_cons_of_mem first there)

/-- The pieces of names between slashes are these names. -/
theorem pieces_intercalate (some : names ≠ []) (whole : ∀ name ∈ names, '/' ∉ name.toList) :
    pieces ("/".intercalate names).toList = names.map String.toList := by
  rw [String.toList_intercalate]
  induction names with
  | nil => exact absurd rfl some
  | cons name names ih =>
    obtain ⟨first, others⟩ := List.forall_mem_cons.mp whole
    cases names with
    | nil => simpa using pieces_of_whole first
    | cons next names =>
      rw [List.map_cons, List.map_cons, List.intercalate_cons_cons, ← List.map_cons,
        List.append_assoc]
      exact (pieces_append first _).trans (congrArg _ (ih (by simp) others))

/-! ## Paths -/

/-- **A path that was read** has proper names. -/
theorem proper_ofText (s : String) : (ofText s).Proper := by
  intro name there
  obtain ⟨piece, kept, rfl⟩ := List.mem_map.mp there
  obtain ⟨there, named⟩ := List.mem_filter.mp kept
  rw [IsProper, String.toList_ofList]
  exact ⟨named, whole_of_mem_pieces there⟩

theorem Proper.join (first : p.Proper) (second : q.Proper) : (p.join q).Proper := by
  rw [Path.join]
  split
  · exact second
  · intro name there
    exact (List.mem_append.mp there).elim (first name) (second name)

theorem Proper.child (proper : p.Proper) (name : String) : (p.child name).Proper :=
  proper.join (proper_ofText name)

/-- A path without `..` has no other names than it had. -/
theorem mem_names_lexical (there : name ∈ p.lexical.names) : name ∈ p.names := by
  have kept (names before : List String) (there : name ∈ names.foldl
      (fun ns n => if n = ".." then ns.dropLast else ns ++ [n]) before) :
      name ∈ before ∨ name ∈ names := by
    induction names generalizing before with
    | nil => exact .inl there
    | cons n names ih =>
      rw [List.foldl_cons] at there
      split at there
      · exact (ih _ there).imp (fun front => List.dropLast_subset before front)
          (List.mem_cons_of_mem n)
      · obtain front | later := ih _ there
        · rw [List.mem_append, List.mem_singleton] at front
          exact front.imp_right fun last => List.mem_cons.mpr (.inl last)
        · exact .inr (List.mem_cons_of_mem n later)
  exact (kept p.names [] there).resolve_left List.not_mem_nil

theorem Proper.lexical (proper : p.Proper) : p.lexical.Proper :=
  fun name there => proper name (mem_names_lexical there)

/-- An anchor is told from the slashes in front of the first name. -/
theorem anchorOf_append (anchor : Anchor) (first : cs.head? ≠ some '/') :
    anchorOf (anchor.text.toList ++ cs) = anchor := by
  cases cs with
  | nil => cases anchor <;> rfl
  | cons c cs =>
    have other : c ≠ '/' := fun same => first (congrArg some same)
    cases anchor <;> simp [Anchor.text, anchorOf, other]

/-- The slashes of an anchor make no names. -/
theorem filter_pieces_append (anchor : Anchor) (cs : List Char) :
    (pieces (anchor.text.toList ++ cs)).filter isName = (pieces cs).filter isName := by
  cases anchor <;> simp [Anchor.text, pieces_slash, isName]

/-- **A path of proper names** is read back from its text. -/
theorem ofText_text (proper : p.Proper) : ofText p.text = p := by
  obtain ⟨anchor, names⟩ := p
  cases names with
  | nil => cases anchor <;> decide
  | cons name names =>
    have spelled : pieces ("/".intercalate (name :: names)).toList =
        (name :: names).map String.toList :=
      pieces_intercalate (List.cons_ne_nil name names) fun n there => (proper n there).2
    have named : ∀ piece ∈ (name :: names).map String.toList, isName piece = true := by
      intro piece there
      obtain ⟨n, here, rfl⟩ := List.mem_map.mp there
      exact (proper n here).1
    have first : ("/".intercalate (name :: names)).toList.head? ≠ some '/' := by
      intro slash
      obtain ⟨cs, same⟩ := List.head?_eq_some_iff.mp slash
      rw [same, pieces_slash] at spelled
      have empty := named [] (by rw [← spelled]; exact List.mem_cons_self)
      cases empty
    have back : String.ofList ∘ String.toList = id := funext fun n => String.ofList_toList
    rw [text, if_neg (by simp), ofText, String.toList_append]
    simp only [anchorOf_append anchor first, filter_pieces_append,
      spelled, List.filter_eq_self.mpr named, List.map_map, back, List.map_id]

end CauseTrail.Path
