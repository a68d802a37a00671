/-!
# Registries

Members that several parts share are kept in a registry, and each part holds a reference. Adding
a member gives a reference that no other member has; a change to a member is seen through every
reference to it and touches no other member.

## Main definitions

* `Ref`: the references
* `Registry`: the registries, with `Registry.add`, `Registry.set` and `Registry.modify`

## Main results

* `Registry.get_set`, `Registry.get_set_of_ne`: a change touches one member
* `Registry.modify_of_eq`, `Registry.modify_modify`: no change, and two changes in one
* `Registry.get_add`, `Registry.get_add_of_ne`: a new member touches no other
-/

namespace CauseTrail

/-- A reference to a member of a registry. -/
structure Ref (α : Type) where
  index : Nat
deriving Repr

namespace Ref

variable {α : Type}

@[ext] theorem ext {a b : Ref α} (h : a.index = b.index) : a = b := by
  cases a
  cases b
  exact congrArg Ref.mk h

instance : DecidableEq (Ref α) := fun a b =>
  if h : a.index = b.index then isTrue (ext h) else isFalse fun e => h (congrArg index e)

end Ref

/-- The members that were added, in order. -/
structure Registry (α : Type) where
  size : Nat
  get : Ref α → α

namespace Registry

variable {α : Type}

/-- The registry without members. -/
def empty [Inhabited α] : Registry α := ⟨0, fun _ => default⟩

/-- The reference that the next member gets. -/
def next (r : Registry α) : Ref α := ⟨r.size⟩

/-- Whether a member has been added under a reference. -/
def Holds (r : Registry α) (i : Ref α) : Prop := i.index < r.size

/-- The registry with a member replaced. -/
def set (r : Registry α) (i : Ref α) (a : α) : Registry α :=
  ⟨r.size, fun j => if j = i then a else r.get j⟩

/-- The registry with a member changed. -/
def modify (r : Registry α) (i : Ref α) (f : α → α) : Registry α := r.set i (f (r.get i))

/-- The registry with one member more, which is found under `r.next`. -/
def add (r : Registry α) (a : α) : Registry α :=
  ⟨r.size + 1, fun j => if j = r.next then a else r.get j⟩

@[simp] theorem size_set (r : Registry α) (i : Ref α) (a : α) : (r.set i a).size = r.size := rfl

@[simp] theorem get_set (r : Registry α) (i : Ref α) (a : α) : (r.set i a).get i = a := by
  simp [set]

theorem get_set_of_ne (r : Registry α) {i j : Ref α} (a : α) (h : j ≠ i) :
    (r.set i a).get j = r.get j := by
  simp [set, h]

@[simp] theorem get_modify (r : Registry α) (i : Ref α) (f : α → α) :
    (r.modify i f).get i = f (r.get i) :=
  r.get_set i _

theorem get_modify_of_ne (r : Registry α) {i j : Ref α} (f : α → α) (h : j ≠ i) :
    (r.modify i f).get j = r.get j :=
  r.get_set_of_ne _ h

theorem modify_congr {r : Registry α} {i : Ref α} {f g : α → α}
    (h : f (r.get i) = g (r.get i)) : r.modify i f = r.modify i g :=
  congrArg (r.set i) h

/-- A change that leaves a member as it is changes nothing. -/
theorem modify_of_eq {r : Registry α} {i : Ref α} {f : α → α} (h : f (r.get i) = r.get i) :
    r.modify i f = r := by
  have same : (fun j => if j = i then r.get i else r.get j) = r.get := by
    funext j
    split
    · next hj => rw [hj]
    · rfl
  rw [modify, h, set, same]

/-- Two changes to one member are one change. -/
theorem modify_modify (r : Registry α) (i : Ref α) (f g : α → α) :
    (r.modify i f).modify i g = r.modify i (g ∘ f) := by
  simp only [modify, set, if_true, Function.comp_apply]
  congr 1
  funext j
  split <;> rfl

@[simp] theorem size_add (r : Registry α) (a : α) : (r.add a).size = r.size + 1 := rfl

@[simp] theorem get_add (r : Registry α) (a : α) : (r.add a).get r.next = a := by
  simp [add]

theorem get_add_of_ne (r : Registry α) {j : Ref α} (a : α) (h : j ≠ r.next) :
    (r.add a).get j = r.get j := by
  simp [add, h]

theorem holds_add_iff (r : Registry α) (a : α) {i : Ref α} :
    (r.add a).Holds i ↔ r.Holds i ∨ i = r.next := by
  rw [Holds, size_add, Nat.lt_succ_iff_lt_or_eq, Holds]
  constructor
  · rintro (old | new)
    · exact .inl old
    · exact .inr (Ref.ext new)
  · rintro (old | rfl)
    · exact .inl old
    · exact .inr rfl

theorem Holds.ne_next {r : Registry α} {i : Ref α} (h : r.Holds i) : i ≠ r.next := by
  rintro rfl
  exact Nat.lt_irrefl _ h

theorem get_add_of_holds (r : Registry α) {i : Ref α} (a : α) (h : r.Holds i) :
    (r.add a).get i = r.get i :=
  r.get_add_of_ne a h.ne_next

end Registry

end CauseTrail
