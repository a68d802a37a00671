import CauseTrail.Json.Printer
import CauseTrail.Refusal

/-!
# What cannot be written

A value can be written as JSON unless a mapping inside it, at any depth, has a key that cannot be
the name of a member, or an integer inside it has too many digits. The first of these in the order of
writing is the one that is told. Nothing else is refused, neither a kind of values that JSON lacks
nor an infinity.

## Main definitions

* `Json.obstacles`: what stands in the way of writing a value, in the order of writing
* `Json.Obstacle`: something inside a value stands in the way

## Main results

* `Json.error?_writeValue`: the first obstacle is what refuses a value
* `Json.memberName_eq_error_iff`: the keys that are obstacles
* `Json.mem_obstacles_iff`: obstacles are found inside, at any depth
-/

namespace CauseTrail.Json

mutual

/-- What stands in the way of writing a value, in the order of writing. -/
def obstacles : Value → List WriteError
  | .int n => (integerText n).error?.toList
  | .set xs => if anyHoldsLong xs then [.tooLong] else []
  | .list xs | .tuple xs => obstaclesOfItems xs
  | .map es => obstaclesOfMembers es
  | _ => []

def obstaclesOfItems : List Value → List WriteError
  | [] => []
  | x :: xs => obstacles x ++ obstaclesOfItems xs

def obstaclesOfMembers : List (Value × Value) → List WriteError
  | [] => []
  | (k, v) :: es => (memberName k).error?.toList ++ (obstacles v ++ obstaclesOfMembers es)

end

variable {v : Value} {x : WriteError}

/-! ## What refuses a value -/

mutual

/-- The first obstacle is what refuses a value. -/
theorem error?_writeValue (l : Layout) (depth : Nat) :
    ∀ v, (writeValue l depth v).error? = (obstacles v).head?
  | .null | .bool _ | .float _ | .text _ | .bytes _ | .date _ | .timestamp _ => rfl
  | .int n => (Except.error?_map _ _).trans Option.head?_toList.symm
  | .set xs => by
    rw [writeValue, obstacles]
    split <;> rfl
  | .list xs | .tuple xs => (Except.error?_map _ _).trans (error?_writeItems l _ xs)
  | .map es => (Except.error?_map _ _).trans (error?_writeMembers l _ es)

theorem error?_writeItems (l : Layout) (depth : Nat) :
    ∀ xs, (writeItems l depth xs).error? = (obstaclesOfItems xs).head?
  | [] => rfl
  | x :: xs => by
    rw [writeItems, obstaclesOfItems, List.head?_append, ← error?_writeValue l depth x]
    refine Except.error?_bind fun _ => ?_
    exact (Except.error?_map _ _).trans (error?_writeItems l depth xs)

theorem error?_writeMembers (l : Layout) (depth : Nat) :
    ∀ es, (writeMembers l depth es).error? = (obstaclesOfMembers es).head?
  | [] => rfl
  | (k, v) :: es => by
    rw [writeMembers, obstaclesOfMembers, List.head?_append, List.head?_append,
      Option.head?_toList, ← error?_writeValue l depth v]
    refine Except.error?_bind fun _ => Except.error?_bind fun _ => ?_
    exact (Except.error?_map _ _).trans (error?_writeMembers l depth es)

end

/-- **What refuses a value** to be written is the first obstacle inside. -/
theorem error?_write (l : Layout) (v : Value) : (write l v).error? = (obstacles v).head? :=
  (Except.error?_map _ _).trans (error?_writeValue l 0 v)

/-! ## Obstacles inside -/

/-- Whether a key is of a kind that makes the name of a member. -/
def isName : Value → Bool
  | .null | .bool _ | .int _ | .float _ | .text _ => true
  | _ => false

/-- Something inside a value stands in the way of writing it. -/
inductive Obstacle : WriteError → Value → Prop where
  | integer {n : Int} (long : isLong n = true) : Obstacle .tooLong (.int n)
  /-- The text of a set has those of its members in it. -/
  | inSet {xs : List Value} (long : anyHoldsLong xs = true) : Obstacle .tooLong (.set xs)
  | key {es : Mapping} {k v : Value} (there : (k, v) ∈ es) (odd : isName k = false) :
      Obstacle (.badKey k.qualifiedKind) (.map es)
  | longKey {es : Mapping} {n : Int} {v : Value} (there : (.int n, v) ∈ es)
      (long : isLong n = true) : Obstacle .tooLong (.map es)
  | member {x : WriteError} {es : Mapping} {e : Value × Value} (there : e ∈ es)
      (inside : Obstacle x e.2) : Obstacle x (.map es)
  | item {x : WriteError} {xs : List Value} {v : Value} (there : v ∈ xs)
      (inside : Obstacle x v) : Obstacle x (.list xs)
  | part {x : WriteError} {xs : List Value} {v : Value} (there : v ∈ xs)
      (inside : Obstacle x v) : Obstacle x (.tuple xs)

theorem integerText_eq_error_iff {n : Int} :
    integerText n = .error x ↔ isLong n = true ∧ x = .tooLong := by
  rw [integerText]
  split
  · next long =>
    constructor
    · intro refused
      exact ⟨long, (Except.error.inj refused).symm⟩
    · rintro ⟨-, rfl⟩
      rfl
  · next short => exact iff_of_false (by rintro ⟨⟩) fun refused => short refused.1

/-- **A key stands in the way** if it is of a kind that makes no name, or an integer with too many
digits. -/
theorem memberName_eq_error_iff {k : Value} : memberName k = .error x ↔
    (isName k = false ∧ x = .badKey k.qualifiedKind) ∨
      ∃ n, k = .int n ∧ isLong n = true ∧ x = .tooLong := by
  cases k with
  | int n =>
    rw [memberName, integerText_eq_error_iff]
    constructor
    · intro refused
      exact .inr ⟨n, rfl, refused⟩
    · rintro (⟨⟨⟩, -⟩ | ⟨_, same, refused⟩)
      exact Value.int.inj same ▸ refused
  | null | bool | float | text =>
    refine iff_of_false (by rintro ⟨⟩) ?_
    rintro (⟨⟨⟩, -⟩ | ⟨_, ⟨⟩, -⟩)
  | bytes | date | timestamp | list | tuple | set | map =>
    constructor
    · intro refused
      exact .inl ⟨rfl, (Except.error.inj refused).symm⟩
    · rintro (⟨-, rfl⟩ | ⟨_, ⟨⟩, -⟩)
      rfl

theorem mem_toList_error? {α : Type} {r : Except WriteError α} :
    x ∈ r.error?.toList ↔ r = .error x := by
  cases r with
  | ok a => exact iff_of_false List.not_mem_nil (fun refused => nomatch refused)
  | error y => simp [Except.error?, @eq_comm _ x]

theorem obstaclesOfItems_eq (xs : List Value) : obstaclesOfItems xs = xs.flatMap obstacles := by
  induction xs with
  | nil => rfl
  | cons x xs ih => rw [obstaclesOfItems, ih, List.flatMap_cons]

theorem obstaclesOfMembers_eq (es : Mapping) : obstaclesOfMembers es =
    List.flatMap (fun e => (memberName e.1).error?.toList ++ obstacles e.2) es := by
  induction es with
  | nil => rfl
  | cons e es ih => rw [obstaclesOfMembers, ih, List.flatMap_cons, List.append_assoc]

mutual

theorem obstacle_of_mem : ∀ v, x ∈ obstacles v → Obstacle x v
  | .int n, found => by
    obtain ⟨long, rfl⟩ := integerText_eq_error_iff.mp (mem_toList_error?.mp found)
    exact .integer long
  | .set xs, found => by
    rw [obstacles] at found
    split at found
    · next long =>
      obtain rfl := List.mem_singleton.mp found
      exact .inSet long
    · cases found
  | .list xs, found => by
    obtain ⟨v, there, inside⟩ := exists_obstacle_item xs found
    exact .item there inside
  | .tuple xs, found => by
    obtain ⟨v, there, inside⟩ := exists_obstacle_item xs found
    exact .part there inside
  | .map es, found => by
    obtain ⟨⟨k, v⟩, there, refused | inside⟩ := exists_obstacle_member es found
    · obtain ⟨odd, rfl⟩ | ⟨n, rfl, long, rfl⟩ := memberName_eq_error_iff.mp refused
      · exact .key there odd
      · exact .longKey there long
    · exact .member there inside
  | .null, found | .bool _, found | .float _, found | .text _, found | .bytes _, found
  | .date _, found | .timestamp _, found => nomatch found

theorem exists_obstacle_item : ∀ xs, x ∈ obstaclesOfItems xs → ∃ v ∈ xs, Obstacle x v
  | v :: xs, found => by
    rcases List.mem_append.mp found with here | later
    · exact ⟨v, List.mem_cons_self, obstacle_of_mem v here⟩
    · obtain ⟨w, there, inside⟩ := exists_obstacle_item xs later
      exact ⟨w, List.mem_cons_of_mem v there, inside⟩

theorem exists_obstacle_member : ∀ es, x ∈ obstaclesOfMembers es →
    ∃ e ∈ es, memberName e.1 = .error x ∨ Obstacle x e.2
  | (k, v) :: es, found => by
    rcases List.mem_append.mp found with key | found
    · exact ⟨_, List.mem_cons_self, .inl (mem_toList_error?.mp key)⟩
    rcases List.mem_append.mp found with here | later
    · exact ⟨_, List.mem_cons_self, .inr (obstacle_of_mem v here)⟩
    · obtain ⟨e, there, inside⟩ := exists_obstacle_member es later
      exact ⟨e, List.mem_cons_of_mem _ there, inside⟩

end

theorem Obstacle.mem_obstacles (obstacle : Obstacle x v) : x ∈ obstacles v := by
  have named {y : WriteError} {es : Mapping} {k v : Value} (there : (k, v) ∈ es)
      (refused : memberName k = .error y) : y ∈ obstacles (.map es) := by
    rw [obstacles, obstaclesOfMembers_eq, List.mem_flatMap]
    exact ⟨_, there, List.mem_append_left _ (mem_toList_error?.mpr refused)⟩
  induction obstacle with
  | integer long => exact mem_toList_error?.mpr (integerText_eq_error_iff.mpr ⟨long, rfl⟩)
  | inSet long =>
    rw [obstacles, if_pos long]
    exact List.mem_singleton.mpr rfl
  | key there odd => exact named there (memberName_eq_error_iff.mpr (.inl ⟨odd, rfl⟩))
  | longKey there long =>
    exact named there (memberName_eq_error_iff.mpr (.inr ⟨_, rfl, long, rfl⟩))
  | member there _ ih =>
    rw [obstacles, obstaclesOfMembers_eq, List.mem_flatMap]
    exact ⟨_, there, List.mem_append_right _ ih⟩
  | item there _ ih | part there _ ih =>
    rw [obstacles, obstaclesOfItems_eq, List.mem_flatMap]
    exact ⟨_, there, ih⟩

/-- **The obstacles** are those at all depths. -/
theorem mem_obstacles_iff : x ∈ obstacles v ↔ Obstacle x v :=
  ⟨obstacle_of_mem v, Obstacle.mem_obstacles⟩

theorem obstacles_eq_nil_iff : obstacles v = [] ↔ ∀ x, ¬ Obstacle x v := by
  rw [List.eq_nil_iff_forall_not_mem]
  simp only [mem_obstacles_iff]

end CauseTrail.Json
