import CauseTrail.Proofs.Files.Place

/-!
# Making files and directories

Directories are made only where there was nothing, so a tree keeps all that it held, however far the
making of a directory with those above it came. What is written into a file is found there by every
path that led to the place of the file before.

## Main definitions

* `FileTree.Keeps`: what is found in a tree is found in another one

## Main results

* `FileTree.keeps_makeDirectory`: a tree keeps what it held when a directory is made
* `FileTree.locate_put`: a way to a file does not change with the file
* `FileTree.read_put`: bytes are found by every path that leads to their place
-/

namespace CauseTrail.FileTree

variable {t t' t'' : FileTree} {here l : Location} {p : Path} {e : Entry} {fresh : Bool}

/-- All that is found in a tree is found in another one. -/
def Keeps (t t' : FileTree) : Prop := ∀ l e, t.content? l = some e → t'.content? l = some e

theorem Keeps.refl (t : FileTree) : t.Keeps t := fun _ _ found => found

theorem Keeps.trans (first : t.Keeps t') (second : t'.Keeps t'') : t.Keeps t'' :=
  fun l e found => second l e (first l e found)

theorem keeps_put (free : t.content? l = none) : t.Keeps (t.put l e) := by
  intro k e' found
  have other : k ≠ l := by
    rintro rfl
    rw [free] at found
    cases found
  rw [content?_put_of_ne t e other, found]

/-! ## Directories -/

theorem keeps_addDirectory (added : t.addDirectory here p = .ok t') : t.Keeps t' := by
  rw [addDirectory] at added
  split at added
  · cases added
  · cases added
  · next l found =>
    split at added
    · obtain rfl := Except.ok.inj added
      obtain ⟨k, -, same⟩ := Except.bind_eq_ok_iff.mp found
      obtain ⟨rfl, free⟩ := Prod.mk.inj (Except.ok.inj same)
      exact keeps_put free
    · cases added
    · cases added

theorem keeps_placeDirectory (placed : t.placeDirectory here p fresh = .ok t') : t.Keeps t' := by
  rw [placeDirectory] at placed
  split at placed
  · next added =>
    obtain rfl := Except.ok.inj placed
    exact keeps_addDirectory added
  · split at placed
    · obtain rfl := Except.ok.inj placed
      exact .refl t
    · cases placed

theorem keeps_outcome {made : Except FileError FileTree} (kept : ∀ t', made = .ok t' → t.Keeps t') :
    t.Keeps (t.outcome made).1 := by
  cases made with
  | error e => exact .refl t
  | ok t' => exact kept t' rfl

/-- However many directories are made above it, and whatever comes of it, a tree keeps what it
held. -/
theorem keeps_placeDirectories (depth : Nat) :
    t.Keeps (t.placeDirectories here depth p fresh).1 := by
  have last {t : FileTree} {p : Path} {fresh : Bool} :
      t.Keeps (t.outcome (t.placeDirectory here p fresh)).1 :=
    keeps_outcome fun t' => keeps_placeDirectory
  induction depth generalizing t p fresh with
  | zero => exact last
  | succ depth ih =>
    rw [placeDirectories]
    split
    · split
      · exact .refl t
      · -- the directories above come first, and may be all that is made
        have above : t.Keeps (t.placeDirectories here depth p.parent false).1 := ih
        split
        · next made => rwa [made] at above
        · next made =>
          rw [made] at above
          exact above.trans last
    · exact last

/-- **A tree keeps what it held** when a directory is made. -/
theorem keeps_makeDirectory : t.Keeps (t.makeDirectory here p fresh).1 :=
  keeps_placeDirectories p.names.length

/-! ## Files -/

/-- A way through directories does not change with what is no directory. -/
theorem follow_put {names : List String} {k : Location} (way : t.follow here names = .ok k)
    (free : t.content? l ≠ some .directory) : (t.put l e).follow here names = .ok k := by
  induction names generalizing here with
  | nil => exact way
  | cons n ns ih =>
    rw [follow] at way ⊢
    split at way
    · cases way
    · cases way
    · next passed =>
      have other : here ≠ l := by
        rintro rfl
        exact free passed
      rw [content?_put_of_ne t e other, passed]
      split at way
      · cases way
      · next short =>
        simp only [short, if_false]
        exact ih way

/-- A path that leads to what is no directory leads there still when that is changed. -/
theorem locate_put (way : t.locate here p = .ok l) (free : t.content? l ≠ some .directory) :
    (t.put l e).locate here p = .ok l := by
  rw [locate] at way ⊢
  split at way
  · cases way
  · next plain =>
    split at way
    · cases way
    · next short =>
      rw [if_neg plain, if_neg short]
      exact follow_put way free

/-- **Bytes are found** by every path that leads to their place. -/
theorem read_put {bytes : List UInt8} (way : (t.put l (.file bytes)).locate here p = .ok l) :
    (t.put l (.file bytes)).read here p = .ok bytes := by
  rw [read, find, way]
  simp

end CauseTrail.FileTree
