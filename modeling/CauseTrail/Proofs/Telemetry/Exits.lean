import CauseTrail.Proofs.Telemetry.Overlap

/-!
# Whose layer goes

A block that ends takes the top layer of its hub, whosever it is. It compares the depth of the hub
with the depth that it was given when it began, and notes a difference. Where the blocks of a hub end
in the reverse order of their beginning, or in another order for the first time, this tells its own
layer from that of another block. But once a block has ended out of order, the layer of a block that
is still open may be gone and another one may lie at its depth. The block then takes that one without
a note.

To say whose layer goes, the blocks are told apart by a number, and beside the layers of the hub a
list is kept of the blocks that put them.

## Main definitions

* `Block`, `Tally`: the blocks on a hub, and what is kept of them
* `Tallied`: any moves since a hub was made, each exit being that of a block that is open
* `Tally.Honest`: an exit that takes the layer of its own block, or is noted
* `Tally.Exits`: what an exit does, and when it is honest

## Main results

* `Tallied.sound`: the layers of the hub are those of the list, each one at the depth of its block
* `Tallied.exits`: an exit is honest unless the layer of its block is gone and the depth is right
  again
* `not_honest_reused`: there are such exits
-/

namespace CauseTrail

/-- A block on a hub: how many were begun before it, and the depth that it was given. -/
@[ext] structure Block where
  number : Nat
  depth : Nat
deriving DecidableEq, Repr

/-- What is kept of the blocks on a hub. -/
structure Tally where
  /-- The blocks whose layers lie above the bottom one, from the top. -/
  pile : List Block := []
  /-- The blocks that have not ended, the one that was begun last first. -/
  opened : List Block := []
  begun : Nat := 0
  /-- Whether a wrong depth was noted as one of the blocks ended. -/
  warned : Bool := false
deriving DecidableEq, Repr

namespace Tally

/-- What is kept after a block has begun. -/
def enter (k : Tally) (depth : Nat) : Tally :=
  { k with
    pile := ⟨k.begun, depth⟩ :: k.pile
    opened := ⟨k.begun, depth⟩ :: k.opened
    begun := k.begun + 1 }

/-- What is kept after a block has ended on a hub with some depth. -/
def leave (k : Tally) (b : Block) (depth : Nat) : Tally :=
  { k with
    pile := k.pile.tail
    opened := k.opened.erase b
    warned := k.warned || depth != b.depth }

/-- Each layer lies at the depth that its block was given: the bottom layer of a hub has the first
depth, and the layers above it follow. -/
def Heaped : List Block → Prop
  | [] => True
  | b :: below => b.depth = below.length + 2 ∧ Heaped below

/-- What is kept, as far as it says something about itself. -/
structure Sound (k : Tally) : Prop where
  heaped : Heaped k.pile
  length_eq : k.pile.length = k.opened.length
  /-- Blocks are told apart by their numbers. -/
  pile_lt : (k.pile.map Block.number).Pairwise (· > ·) ∧ ∀ b ∈ k.pile, b.number < k.begun
  opened_lt : (k.opened.map Block.number).Pairwise (· > ·) ∧ ∀ b ∈ k.opened, b.number < k.begun
  /-- Before anything was noted, the layers are those of the open blocks in their order. -/
  unwarned : k.warned = false → k.pile = k.opened

variable {k : Tally} {b top : Block} {below : List Block} {depth : Nat}

theorem Heaped.depth_le (heaped : Heaped below) (there : b ∈ below) :
    b.depth ≤ below.length + 1 := by
  induction below with
  | nil => cases there
  | cons top below ih =>
    obtain ⟨height, rest⟩ := heaped
    rcases List.mem_cons.mp there with rfl | deeper
    · exact Nat.le_of_eq height
    · -- the layer above it lies one higher
      have less := ih rest deeper
      rw [List.length_cons]
      omega

/-- The depth of a block tells whether it has the top layer, if it has any. -/
theorem Heaped.eq_top (heaped : Heaped (top :: below)) (there : b ∈ top :: below)
    (same : b.depth = top.depth) : b = top := by
  rcases List.mem_cons.mp there with rfl | deeper
  · rfl
  · -- the layers below the top one lie at smaller depths
    have less := heaped.2.depth_le deeper
    have height := heaped.1
    omega

theorem sound_empty : ({} : Tally).Sound where
  heaped := trivial
  length_eq := rfl
  pile_lt := ⟨.nil, by simp⟩
  opened_lt := ⟨.nil, by simp⟩
  unwarned _ := rfl

/-- A block that is new has a greater number than all before it. -/
theorem pairwise_enter {blocks : List Block}
    (lt : (blocks.map Block.number).Pairwise (· > ·) ∧ ∀ b ∈ blocks, b.number < k.begun) :
    (((⟨k.begun, depth⟩ :: blocks : List Block)).map Block.number).Pairwise (· > ·) ∧
      ∀ b ∈ (⟨k.begun, depth⟩ :: blocks : List Block), b.number < k.begun + 1 := by
  refine ⟨List.pairwise_cons.mpr ⟨fun n there => ?_, lt.1⟩, fun b there => ?_⟩
  · obtain ⟨b, old, rfl⟩ := List.mem_map.mp there
    exact lt.2 b old
  · rcases List.mem_cons.mp there with rfl | old
    · exact Nat.lt_succ_self _
    · exact Nat.lt_succ_of_lt (lt.2 b old)

theorem Sound.enter (sound : k.Sound) (height : depth = k.pile.length + 2) :
    (k.enter depth).Sound where
  heaped := ⟨height, sound.heaped⟩
  length_eq := congrArg Nat.succ sound.length_eq
  pile_lt := pairwise_enter sound.pile_lt
  opened_lt := pairwise_enter sound.opened_lt
  unwarned quiet := congrArg (List.cons (⟨k.begun, depth⟩ : Block)) (sound.unwarned quiet)

theorem Sound.leave (sound : k.Sound) (mine : b ∈ k.opened)
    (height : depth = k.pile.length + 1) : (k.leave b depth).Sound := by
  have some : 0 < k.pile.length := sound.length_eq ▸ List.length_pos_of_mem mine
  obtain ⟨top, below, pile⟩ := List.exists_cons_of_length_pos some
  have heaped := sound.heaped
  rw [pile] at heaped
  have part : (k.opened.erase b).Sublist k.opened := List.erase_sublist
  constructor
  case heaped =>
    show Heaped k.pile.tail
    rw [pile]
    exact heaped.2
  case length_eq =>
    show k.pile.tail.length = (k.opened.erase b).length
    rw [List.length_erase_of_mem mine, List.length_tail, sound.length_eq]
  case pile_lt =>
    show (k.pile.tail.map Block.number).Pairwise (· > ·) ∧ ∀ b ∈ k.pile.tail, b.number < k.begun
    have rest : k.pile.tail.Sublist k.pile := List.tail_sublist _
    exact ⟨sound.pile_lt.1.sublist (rest.map _),
      fun c there => sound.pile_lt.2 c (rest.subset there)⟩
  case opened_lt =>
    exact ⟨sound.opened_lt.1.sublist (part.map _),
      fun c there => sound.opened_lt.2 c (part.subset there)⟩
  case unwarned =>
    intro quiet
    obtain ⟨before, right⟩ : k.warned = false ∧ (depth != b.depth) = false :=
      Bool.or_eq_false_iff.mp quiet
    have same := sound.unwarned before
    have depths : b.depth = top.depth := by
      have mine' : depth = b.depth := by simpa using right
      have length : k.pile.length = below.length + 1 := congrArg List.length pile
      have topmost := heaped.1
      omega
    obtain rfl : b = top := heaped.eq_top (pile ▸ same ▸ mine) depths
    show k.pile.tail = k.opened.erase b
    rw [← same, pile, List.erase_cons_head, List.tail_cons]

end Tally

/-! ## Blocks in any order -/

/-- **Blocks that are told apart**: any moves since a hub was made, each exit being that of a block
that is open, with what is kept of the blocks. -/
inductive Tallied (h : Ref Hub) : System → Tally → Prop where
  | made {s : System} {c? : Option (Ref Client)} (held : s.state.hubs.Holds h)
      (layers : (s.state.hub h).layers = [c?]) : Tallied h s {}
  | enter {s : System} {k : Tally} (past : Tallied h s k) (c? : Option (Ref Client)) :
      Tallied h (s.after (.change (.enter h c?))) (k.enter (s.state.enter h c?).2)
  | leave {s : System} {k : Tally} {b : Block} (past : Tallied h s k) (mine : b ∈ k.opened) :
      Tallied h (s.after (.change (.leave h b.depth))) (k.leave b (s.state.hub h).depth)
  | other {s : System} {k : Tally} {move : Move} (past : Tallied h s k)
      (apart : move.isOnLayers h = false) : Tallied h (s.after move) k

variable {s : System} {h : Ref Hub} {k : Tally} {b : Block} {move : Move}

/-- What puts no layer on a hub and takes none away leaves its depth. -/
theorem System.depth_after (held : s.state.hubs.Holds h) (apart : move.isOnLayers h = false) :
    ((s.after move).state.hub h).depth = (s.state.hub h).depth := by
  rw [Hub.depth, Hub.depth]
  cases binds : move.binding? s h with
  | none => rw [layers_after_of_other held binds apart]
  | some c? =>
    rw [layers_after_of_binding held binds]
    exact (sameBelow_replaceTop c? _).length_eq

theorem Telemetry.layers_leave (t : Telemetry) (h : Ref Hub) (pushed : Nat) :
    ((t.leave h pushed).hub h).layers = (t.hub h).layers.tail := by
  rw [hub_leave, if_pos rfl]
  rfl

/-- A wrong depth is noted, and nothing else. -/
theorem Telemetry.log_leave (t : Telemetry) (h : Ref Hub) (pushed : Nat) :
    (t.leave h pushed).log = t.log ++
      if (t.hub h).depth = pushed then [] else [.depthMismatch (t.hub h).depth pushed] := by
  simp only [leave]
  split
  · exact (List.append_nil _).symm
  · rfl

namespace Tallied

theorem holds (past : Tallied h s k) : s.state.hubs.Holds h := by
  induction past with
  | made held => exact held
  | enter _ _ ih | leave _ _ ih | other _ _ ih => exact System.holds_after ih _

/-- **The layers of a hub** are the bottom one and those of the list above it, which say the truth
about each other. -/
theorem sound (past : Tallied h s k) :
    k.Sound ∧ (s.state.hub h).depth = k.pile.length + 1 := by
  induction past with
  | made held layers => exact ⟨Tally.sound_empty, congrArg List.length layers⟩
  | @enter s k past c? ih =>
    obtain ⟨sound, depth⟩ := ih
    have given : (s.state.enter h c?).2 = k.pile.length + 2 := by
      show ((s.state.enter h c?).1.hub h).depth = _
      rw [Telemetry.hub_enter, if_pos rfl, Hub.depth_push, depth]
    exact ⟨sound.enter given, given⟩
  | @leave s k b past mine ih =>
    obtain ⟨sound, depth⟩ := ih
    refine ⟨sound.leave mine depth, ?_⟩
    have some : 0 < k.pile.length := sound.length_eq ▸ List.length_pos_of_mem mine
    show ((s.state.leave h b.depth).hub h).layers.length = k.pile.tail.length + 1
    rw [Telemetry.layers_leave, List.length_tail, List.length_tail]
    rw [Hub.depth] at depth
    omega
  | other past apart ih =>
    exact ⟨ih.1, (System.depth_after past.holds apart).trans ih.2⟩

end Tallied

/-! ## Exits -/

namespace Tally

/-- An exit that takes the layer of its own block, or notes that the depth is a wrong one. -/
def Honest (k : Tally) (s : System) (h : Ref Hub) (b : Block) : Prop :=
  k.pile.head? = some b ∨
    (s.state.leave h b.depth).log =
      s.state.log ++ [.depthMismatch (s.state.hub h).depth b.depth]

/-- What the exit of an open block does, and when it is honest. -/
structure Exits (k : Tally) (s : System) (h : Ref Hub) (b : Block) : Prop where
  /-- The layer that goes is the top one. It is that of a block, at whose depth the hub is, and all
  others stay. -/
  takes : ∃ top below, k.pile = top :: below ∧ top.depth = (s.state.hub h).depth ∧
    ((s.state.leave h b.depth).hub h).layers = (s.state.hub h).layers.tail
  /-- Nothing is noted just when the depth is the one that the block was given. -/
  quiet_iff : (s.state.leave h b.depth).log = s.state.log ↔ (s.state.hub h).depth = b.depth
  /-- The exit is honest unless the depth is the one that the block was given though its layer is
  gone. -/
  honest_iff : k.Honest s h b ↔ b ∈ k.pile ∨ (s.state.hub h).depth ≠ b.depth
  /-- The layer of the block is not gone for as long as nothing was noted on the hub: until then the
  exit is honest, and takes its own layer just when the block is the one that was begun last. -/
  unwarned : k.warned = false → b ∈ k.pile ∧ k.Honest s h b ∧
    (k.opened.head? = some b ↔ (s.state.hub h).depth = b.depth)
  /-- If it is not honest, the layer of another block goes, which was given the same depth. -/
  others : ¬ k.Honest s h b → k.warned = true ∧
    ∃ c, k.pile.head? = some c ∧ c.number ≠ b.number ∧ c.depth = b.depth

end Tally

/-- The exit of a block that is open says that the depth is a wrong one just when it is. -/
theorem Telemetry.notes_leave_iff (t : Telemetry) (h : Ref Hub) (pushed : Nat) :
    (t.leave h pushed).log = t.log ++ [.depthMismatch (t.hub h).depth pushed] ↔
      (t.hub h).depth ≠ pushed := by
  rw [log_leave, List.append_cancel_left_eq]
  split <;> simp [*]

theorem Telemetry.quiet_leave_iff (t : Telemetry) (h : Ref Hub) (pushed : Nat) :
    (t.leave h pushed).log = t.log ↔ (t.hub h).depth = pushed := by
  rw [log_leave, List.append_right_eq_self]
  split <;> simp [*]

/-- **Whose layer goes.** The exit of an open block takes its own layer or is noted, unless its
layer is gone and another one lies at its depth. None is gone before the first note on the hub. -/
theorem Tallied.exits (past : Tallied h s k) (mine : b ∈ k.opened) : k.Exits s h b := by
  obtain ⟨sound, depth⟩ := past.sound
  have some : 0 < k.pile.length := sound.length_eq ▸ List.length_pos_of_mem mine
  obtain ⟨top, below, pile⟩ := List.exists_cons_of_length_pos some
  have heaped := sound.heaped
  rw [pile] at heaped
  have height : top.depth = (s.state.hub h).depth := by
    rw [depth, pile]
    exact heaped.1
  have noted := s.state.notes_leave_iff h b.depth
  have honest_iff : k.Honest s h b ↔ b ∈ k.pile ∨ (s.state.hub h).depth ≠ b.depth := by
    rw [Tally.Honest, noted, pile, List.head?_cons, Option.some.injEq]
    constructor
    · rintro (rfl | wrong)
      · exact .inl List.mem_cons_self
      · exact .inr wrong
    · rintro (there | wrong)
      · -- a layer at the depth of the hub is the top one
        by_cases right : (s.state.hub h).depth = b.depth
        · exact .inl (heaped.eq_top there (right.symm.trans height.symm)).symm
        · exact .inr right
      · exact .inr wrong
  constructor
  case takes => exact ⟨top, below, pile, height, s.state.layers_leave h b.depth⟩
  case quiet_iff => exact s.state.quiet_leave_iff h b.depth
  case honest_iff => exact honest_iff
  case unwarned =>
    intro quiet
    have same := sound.unwarned quiet
    have there : b ∈ k.pile := same ▸ mine
    refine ⟨there, honest_iff.mpr (.inl there), ?_⟩
    rw [← same, pile, List.head?_cons, Option.some.injEq, ← height]
    constructor
    · rintro rfl
      rfl
    · exact fun right => (heaped.eq_top (pile ▸ there) right.symm).symm
  case others =>
    intro dishonest
    obtain ⟨gone, right⟩ := not_or.mp (honest_iff.not.mp dishonest)
    constructor
    · -- before the first note its layer was there
      by_contra quiet
      rw [Bool.not_eq_true] at quiet
      exact gone (sound.unwarned quiet ▸ mine)
    · have depths : top.depth = b.depth := height.trans (not_not.mp right)
      refine ⟨top, by rw [pile, List.head?_cons], fun same => gone ?_, depths⟩
      obtain rfl : top = b := Block.ext same depths
      rw [pile]
      exact List.mem_cons_self

/-- Two blocks, of which the first one has ended before the second one, and a third one that has
begun since. -/
def reused : System :=
  ((((⟨Body.twoHubs, []⟩ : System).after (.change (.enter ⟨0⟩ none))).after
    (.change (.enter ⟨0⟩ (some ⟨0⟩)))).after (.change (.leave ⟨0⟩ 2))).after
    (.change (.enter ⟨0⟩ none))

/-- What is kept of the three blocks: the layer of the second one is gone, and the third one was
given its depth. -/
def reusedTally : Tally where
  pile := [⟨2, 3⟩, ⟨0, 2⟩]
  opened := [⟨2, 3⟩, ⟨1, 3⟩]
  begun := 3
  warned := true

theorem tallied_reused : Tallied ⟨0⟩ reused reusedTally := by
  have made : Tallied ⟨0⟩ ⟨Body.twoHubs, []⟩ {} := .made Nat.zero_lt_two rfl
  have first : (⟨0, 2⟩ : Block) ∈ [(⟨1, 3⟩ : Block), ⟨0, 2⟩] := by simp
  exact (((made.enter none).enter (some ⟨0⟩)).leave first).enter none

/-- The laws for a depth that is used again. -/
theorem Tallied.exits_reused :
    Tallied ⟨0⟩ reused reusedTally ∧ (⟨1, 3⟩ : Block) ∈ reusedTally.opened ∧
      reusedTally.Exits reused ⟨0⟩ ⟨1, 3⟩ := by
  have mine : (⟨1, 3⟩ : Block) ∈ reusedTally.opened := by simp [reusedTally]
  exact ⟨tallied_reused, mine, tallied_reused.exits mine⟩

/-- The second block takes the layer of the third one, and nothing is noted. -/
theorem not_honest_reused :
    Tallied ⟨0⟩ reused reusedTally ∧ (⟨1, 3⟩ : Block) ∈ reusedTally.opened ∧
      reusedTally.pile.head? = some ⟨2, 3⟩ ∧
      (reused.state.leave ⟨0⟩ 3).log = reused.state.log ∧
      ¬ reusedTally.Honest reused ⟨0⟩ ⟨1, 3⟩ := by
  have silent : (reused.state.leave ⟨0⟩ 3).log = reused.state.log := rfl
  refine ⟨tallied_reused, by simp [reusedTally], rfl, silent, ?_⟩
  rintro (own | noted)
  · exact absurd own (by decide)
  · rw [silent] at noted
    exact absurd (congrArg List.length noted) (by simp)

end CauseTrail
