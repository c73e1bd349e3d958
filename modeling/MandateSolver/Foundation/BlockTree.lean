import Mathlib.Data.List.Infix
import Mathlib.Data.List.Range

/-!
# Trees of blocks

The chain of a block is the block with all its ancestors, so two chains that have a block in
common have everything below it in common.
-/

namespace MandateSolver

open List

/-- The parent hash of a first block is not the hash of a block. -/
structure BlockTree (Hash : Type) where
  number : Hash → Nat
  parentHash : Hash → Option Hash
  parentHash_eq_none_iff : ∀ hash, parentHash hash = none ↔ number hash = 0
  number_of_parentHash : ∀ hash parent, parentHash hash = some parent →
    number hash = number parent + 1

namespace BlockTree

variable {Hash Event : Type} (tree : BlockTree Hash)

def ancestor : Nat → Hash → Hash
  | 0, hash => hash
  | steps + 1, hash =>
    match tree.parentHash hash with
    | none => hash
    | some parent => ancestor steps parent

def hashAt (tip : Hash) (number : Nat) : Hash :=
  tree.ancestor (tree.number tip - number) tip

/-- The blocks of a branch in a range. -/
def blocks (tip : Hash) (start stop : Nat) : List (Nat × Hash) :=
  (List.range' start (stop - start)).map fun number =>
    (number, tree.hashAt tip number)

/-- What is recorded in the blocks of a chain from one number up to, not
including, another, with the number of the block. -/
def recorded (content : Hash → List Event) (tip : Hash) (start stop : Nat) : List (Nat × Event) :=
  (List.range' start (stop - start)).flatMap fun number =>
    (content (tree.hashAt tip number)).map (number, ·)

/-- Two branches with the same blocks up to the bound. -/
def AgreeBelow (bound : Nat) (left right : Hash) : Prop :=
  ∀ number < bound, tree.hashAt left number = tree.hashAt right number

variable {tree} {content : Hash → List Event} {tip other : Hash} {start middle stop number : Nat}

/-! ## Ancestors -/

theorem ancestor_of_parentHash_none {hash : Hash} (steps : Nat)
    (first : tree.parentHash hash = none) : tree.ancestor steps hash = hash := by
  cases steps with
  | zero => rfl
  | succ steps => simp only [ancestor, first]

theorem ancestor_add (steps more : Nat) (hash : Hash) : tree.ancestor (steps + more) hash =
      tree.ancestor more (tree.ancestor steps hash) := by
  induction steps generalizing hash with
  | zero => rw [Nat.zero_add, ancestor]
  | succ steps ih =>
    rw [Nat.succ_add, ancestor, ancestor]
    cases child : tree.parentHash hash with
    | none => exact (ancestor_of_parentHash_none more child).symm
    | some parent => exact ih parent

theorem number_ancestor (steps : Nat) (hash : Hash) :
    tree.number (tree.ancestor steps hash) = tree.number hash - steps := by
  induction steps generalizing hash with
  | zero => rfl
  | succ steps ih =>
    cases child : tree.parentHash hash with
    | none =>
      have first := (tree.parentHash_eq_none_iff hash).mp child
      rw [ancestor_of_parentHash_none _ child, first, Nat.zero_sub]
    | some parent =>
      have above := tree.number_of_parentHash hash parent child
      simp only [ancestor, child, ih]
      omega

/-! ## Chains -/

@[simp] theorem hashAt_number : tree.hashAt tip (tree.number tip) = tip := by
  rw [hashAt, Nat.sub_self, ancestor]

theorem number_hashAt (known : number ≤ tree.number tip) :
    tree.number (tree.hashAt tip number) = number := by
  rw [hashAt, number_ancestor]
  omega

theorem hashAt_hashAt (below : number ≤ middle) (known : middle ≤ tree.number tip) :
    tree.hashAt (tree.hashAt tip middle) number = tree.hashAt tip number := by
  have steps : tree.number tip - number = (tree.number tip - middle) + (middle - number) := by omega
  simp only [hashAt, number_ancestor, steps, ancestor_add]
  congr 1
  omega

theorem hashAt_of_parentHash {parent : Hash} (child : tree.parentHash tip = some parent) :
    tree.hashAt tip (tree.number parent) = parent := by
  have above := tree.number_of_parentHash tip parent child
  have steps : tree.number tip - tree.number parent = 1 := by omega
  simp only [hashAt, steps, ancestor, child]

variable {left right : Hash}

theorem agreeBelow_of_common (known : number ≤ tree.number left)
    (known' : number ≤ tree.number right)
    (common : tree.hashAt left number = tree.hashAt right number) :
    tree.AgreeBelow (number + 1) left right := by
  intro _ below
  have le := Nat.le_of_lt_succ below
  rw [← hashAt_hashAt le known, common, hashAt_hashAt le known']

variable {bound : Nat} {keep : Nat × Event → Bool}

theorem AgreeBelow.mono {lower : Nat} (agree : tree.AgreeBelow bound left right)
    (le : lower ≤ bound) : tree.AgreeBelow lower left right :=
  fun number below => agree number (lt_of_lt_of_le below le)

theorem AgreeBelow.symm (agree : tree.AgreeBelow bound left right) :
    tree.AgreeBelow bound right left :=
  fun number below => (agree number below).symm

theorem agreeBelow_hashAt (known : number ≤ tree.number tip) :
    tree.AgreeBelow (number + 1) (tree.hashAt tip number) tip :=
  fun _ below => hashAt_hashAt (Nat.le_of_lt_succ below) known

theorem range'_split (le : start ≤ middle) (le' : middle ≤ stop) :
    List.range' start (stop - start) = List.range' start (middle - start) ++
        List.range' middle (stop - middle) := by
  have total : stop - start = (middle - start) + (stop - middle) := by omega
  have next : start + (middle - start) = middle := by omega
  rw [total, ← List.range'_append_1, next]

/-! ## Blocks of a chain -/

@[simp] theorem length_blocks : (tree.blocks tip start stop).length = stop - start := by
  simp [blocks]

theorem mem_blocks_iff {block : Nat × Hash} : block ∈ tree.blocks tip start stop ↔
      start ≤ block.1 ∧ block.1 < stop ∧ tree.hashAt tip block.1 = block.2 := by
  obtain ⟨number, _⟩ := block
  simp only [blocks, mem_map, mem_range'_1, Prod.mk.injEq]
  constructor
  · rintro ⟨number, inside, rfl, same⟩
    exact ⟨inside.1, by omega, same⟩
  · rintro ⟨above, _, same⟩
    exact ⟨number, ⟨above, by omega⟩, rfl, same⟩

theorem getElem_blocks {position : Nat} (inside : position < (tree.blocks tip start stop).length) :
    (tree.blocks tip start stop)[position] =
      (start + position, tree.hashAt tip (start + position)) := by
  simp [blocks]

section

variable (le : start ≤ middle) (le' : middle ≤ stop)
include le le'

theorem blocks_append :
    tree.blocks tip start middle ++ tree.blocks tip middle stop = tree.blocks tip start stop := by
  simp only [blocks, range'_split le le', map_append]

theorem take_blocks :
    (tree.blocks tip start stop).take (middle - start) = tree.blocks tip start middle := by
  rw [← blocks_append le le', take_left' length_blocks]

theorem drop_blocks :
    (tree.blocks tip start stop).drop (middle - start) = tree.blocks tip middle stop := by
  rw [← blocks_append le le', drop_left' length_blocks]

end

theorem blocks_succ : tree.blocks tip number (number + 1) = [(number, tree.hashAt tip number)] := by
  simp [blocks]

theorem tail_blocks (nonempty : start < stop) :
    (tree.blocks tip start stop).tail = tree.blocks tip (start + 1) stop := by
  rw [← blocks_append (Nat.le_succ start) nonempty, blocks_succ, singleton_append, tail_cons]

theorem blocks_eq_nil_iff : tree.blocks tip start stop = [] ↔ stop ≤ start := by
  rw [← length_eq_zero_iff, length_blocks]
  omega

theorem getLast?_blocks (nonempty : start ≤ number) :
    (tree.blocks tip start (number + 1)).getLast? = some (number, tree.hashAt tip number) := by
  rw [List.getLast?_eq_getElem?, length_blocks,
    List.getElem?_eq_getElem (by simp only [length_blocks]; omega),
    getElem_blocks]
  have last : start + (number + 1 - start - 1) = number := by omega
  rw [last]

theorem head?_blocks (nonempty : start < stop) : (tree.blocks tip start stop).head? =
      some (start, tree.hashAt tip start) := by
  rw [List.head?_eq_getElem?, List.getElem?_eq_getElem (by simp only [length_blocks]; omega),
    getElem_blocks, Nat.add_zero]

/-! ## What is recorded in a chain -/

theorem recorded_append (le : start ≤ middle) (le' : middle ≤ stop) :
    tree.recorded content tip start middle ++ tree.recorded content tip middle stop =
      tree.recorded content tip start stop := by
  simp only [recorded, range'_split le le', flatMap_append]

theorem recorded_eq_nil (le : stop ≤ start) : tree.recorded content tip start stop = [] := by
  simp [recorded, Nat.sub_eq_zero_of_le le]

theorem recorded_congr (agree : tree.AgreeBelow stop left right) :
    tree.recorded content left start stop = tree.recorded content right start stop := by
  apply flatMap_congr
  intro number mem
  have below : number < stop := by
    have := mem_range'_1.mp mem
    omega
  rw [agree number below]

theorem number_of_mem_recorded {entry : Nat × Event}
    (mem : entry ∈ tree.recorded content tip start stop) : start ≤ entry.1 ∧ entry.1 < stop := by
  simp only [recorded, mem_flatMap, mem_map, mem_range'_1] at mem
  obtain ⟨_, inside, _, _, rfl⟩ := mem
  exact ⟨inside.1, by simp only; omega⟩

theorem filter_recorded_of_all
    (all : ∀ entry, start ≤ entry.1 → entry.1 < stop → keep entry = true) :
    (tree.recorded content tip start stop).filter keep = tree.recorded content tip start stop := by
  apply filter_eq_self.mpr
  intro entry mem
  have inside := number_of_mem_recorded mem
  exact all entry inside.1 inside.2

theorem filter_recorded_of_none
    (none : ∀ entry, start ≤ entry.1 → entry.1 < stop → keep entry = false) :
    (tree.recorded content tip start stop).filter keep = [] := by
  apply filter_eq_nil_iff.mpr
  intro entry mem
  have inside := number_of_mem_recorded mem
  simp [none entry inside.1 inside.2]

theorem filter_recorded_below (le : bound ≤ stop) :
    (tree.recorded content tip start stop).filter (·.1 < bound) =
      tree.recorded content tip start bound := by
  rcases Nat.le_total start bound with above | below
  · rw [← recorded_append above le, filter_append,
      filter_recorded_of_all (by intro entry _ small; exact decide_eq_true small),
      filter_recorded_of_none, append_nil]
    intro entry large _
    exact decide_eq_false (by omega)
  · rw [recorded_eq_nil below, filter_recorded_of_none]
    intro entry large _
    exact decide_eq_false (by omega)

theorem filter_recorded_from {since : Nat} (le : start ≤ since) :
    (tree.recorded content tip start stop).filter (since ≤ ·.1) =
      tree.recorded content tip since stop := by
  rcases Nat.le_total since stop with above | below
  · rw [← recorded_append le above, filter_append,
      filter_recorded_of_none, filter_recorded_of_all, nil_append]
    · intro entry large _
      exact decide_eq_true large
    · intro entry _ small
      exact decide_eq_false (by omega)
  · rw [recorded_eq_nil below, filter_recorded_of_none]
    intro entry _ small
    exact decide_eq_false (by omega)

end BlockTree

end MandateSolver
