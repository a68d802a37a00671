import CauseTrail.Files.Tree
import CauseTrail.Refusal

/-!
# The place of a path

Where a path leads is settled by its names alone: what is found on the way decides only whether it
leads anywhere. So bytes that are added through a path come behind those that were found at one
and the same place.

## Main definitions

* `Path.place`: the place that the names of a path spell
* `FileTree.bytesAt`: the content of the file at a place

## Main results

* `FileTree.locate_eq_place`: a path that leads anywhere leads to its place
* `FileTree.change_eq_put`: a file is changed at the place of its path
* `FileTree.append_eq_put`: bytes are added behind the content of the file at the place of a path
-/

namespace CauseTrail

/-- The place one name further. -/
def Location.step (here : Location) (name : String) : Location :=
  if name = ".." then here.dropLast else here ++ [name]

/-- The place that the names of a path spell, seen from the directory `here`. -/
def Path.place (here : Location) (p : Path) : Location :=
  p.names.foldl Location.step (if p.isAbsolute then [] else here)

namespace FileTree

variable {t t' : FileTree} {here l : Location} {p : Path}

/-- The content of the file at a place, nothing if there is none. -/
def bytesAt (t : FileTree) (l : Location) : List UInt8 :=
  match t.content? l with
  | some (.file bytes) => bytes
  | _ => []

theorem follow_eq_foldl {names : List String} (h : t.follow here names = .ok l) :
    l = names.foldl Location.step here := by
  induction names generalizing here with
  | nil => exact (Except.ok.inj h).symm
  | cons n ns ih =>
    rw [follow] at h
    split at h
    · cases h
    · cases h
    · split at h
      · cases h
      · exact ih h

/-- A path that leads anywhere leads to its place. -/
theorem locate_eq_place (h : t.locate here p = .ok l) : l = p.place here := by
  rw [locate] at h
  split at h
  · cases h
  · split at h
    · cases h
    · exact follow_eq_foldl h

/-- A file is changed at the place of the path, which leads there and to no directory. -/
theorem change_eq_put {f : List UInt8 → List UInt8} (h : t.change here p f = .ok t') :
    t.locate here p = .ok (p.place here) ∧ t.content? (p.place here) ≠ some .directory ∧
      t' = t.put (p.place here) (.file (f (t.bytesAt (p.place here)))) := by
  rw [change] at h
  cases found : t.find here p with
  | error fault => simp [found] at h
  | ok place =>
    obtain ⟨l, hl, same⟩ := Except.bind_eq_ok_iff.mp found
    obtain rfl := locate_eq_place hl
    obtain rfl := Except.ok.inj same
    cases content : t.content? (p.place here) with
    | none =>
      have empty : t.bytesAt (p.place here) = [] := by rw [bytesAt, content]
      simp only [found, content] at h
      split at h
      · rw [empty]
        exact ⟨hl, by simp, (Except.ok.inj h).symm⟩
      · cases h
      · cases h
    | some entry =>
      cases entry with
      | directory => simp [found, content] at h
      | file old =>
        have kept : t.bytesAt (p.place here) = old := by rw [bytesAt, content]
        simp only [found, content] at h
        rw [kept]
        exact ⟨hl, by simp, (Except.ok.inj h).symm⟩

/-- **Bytes that are added** come behind the content of the file at the place of the path. -/
theorem append_eq_put {bytes : List UInt8} (h : t.append here p bytes = .ok t') :
    t' = t.put (p.place here) (.file (t.bytesAt (p.place here) ++ bytes)) :=
  (change_eq_put h).2.2

end FileTree

end CauseTrail
