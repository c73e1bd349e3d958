import Mathlib.Order.Lattice.Nat

/-!
# Breadth-first search in a tree

A queue looks at a tree level by level, so the first goal of the first level that has one is
found.
-/

namespace MandateSolver.BreadthFirst

open List

variable {α : Type} (children : α → List α)

def walk : α → List Nat → Option α
  | node, [] => some node
  | node, position :: path =>
    match (children node)[position]? with
    | some child => walk child path
    | none => none

/-- The nodes at a depth with their paths, from left to right. -/
def level : Nat → α → List (List Nat × α)
  | 0, node => [([], node)]
  | depth + 1, node =>
    (children node).zipIdx.flatMap fun child =>
      (level depth child.1).map fun entry => (child.2 :: entry.1, entry.2)

/-- At the first position where they differ the first path turns further left. -/
def LeftOf (path other : List Nat) : Prop :=
  List.Lex (· < ·) path other

theorem LeftOf.irrefl (path : List Nat) : ¬ LeftOf path path :=
  lex_irrefl Nat.lt_irrefl path

theorem LeftOf.asymm {path other : List Nat} (left : LeftOf path other) : ¬ LeftOf other path :=
  lex_asymm Nat.lt_asymm left

variable {children} {depth : Nat} {node found : α} {path : List Nat} {height : α → Nat}

theorem mem_level_iff : (path, found) ∈ level children depth node ↔
      walk children node path = some found ∧ path.length = depth := by
  induction depth generalizing node path with
  | zero =>
    cases path with
    | nil => simp [level, walk, eq_comm]
    | cons position path => simp [level]
  | succ depth ih =>
    simp only [level, mem_flatMap, mem_map, Prod.exists, Prod.mk.injEq]
    constructor
    · intro listed
      obtain ⟨child, position, at_position, _, _, mem, rfl, rfl⟩ := listed
      rw [mem_zipIdx_iff_getElem?] at at_position
      obtain ⟨walked, length⟩ := ih.mp mem
      rw [walk, at_position, length_cons, length]
      exact ⟨walked, rfl⟩
    · intro reached
      cases path with
      | nil => simp at reached
      | cons position path =>
        obtain ⟨walked, length⟩ := reached
        rw [walk] at walked
        cases at_position : (children node)[position]? with
        | none =>
          rw [at_position] at walked
          cases walked
        | some child =>
          rw [at_position] at walked
          refine ⟨child, position, mem_zipIdx_iff_getElem?.mpr at_position,
            path, found, ?_, rfl, rfl⟩
          exact ih.mpr ⟨walked, Nat.succ.inj length⟩

theorem pairwise_level :
    (level children depth node).Pairwise fun left right => LeftOf left.1 right.1 := by
  induction depth generalizing node with
  | zero => exact pairwise_singleton _ _
  | succ depth ih =>
    rw [level, pairwise_flatMap]
    constructor
    · intro _ _
      rw [pairwise_map]
      apply ih.imp
      intro left right less
      exact .cons less
    · have ordered : (children node).zipIdx.Pairwise fun left right => left.2 < right.2 := by
        rw [← pairwise_map, zipIdx_map_snd]
        exact pairwise_lt_range'
      apply ordered.imp
      intro left right less _ mem _ otherMem
      obtain ⟨_, -, rfl⟩ := mem_map.mp mem
      obtain ⟨_, -, rfl⟩ := mem_map.mp otherMem
      exact .rel less

theorem nodes_level_succ : (level children (depth + 1) node).map Prod.snd =
      (children node).flatMap fun child => (level children depth child).map Prod.snd := by
  have forget := flatMap_map (f := Prod.fst) (l := (children node).zipIdx)
    fun child => (level children depth child).map Prod.snd
  rw [zipIdx_map_fst] at forget
  rw [forget, level, map_flatMap]
  simp only [map_map, Function.comp_def]

theorem nodes_next_level : (level children (depth + 1) node).map Prod.snd =
      ((level children depth node).map Prod.snd).flatMap children := by
  induction depth generalizing node with
  | zero =>
    rw [nodes_level_succ]
    simp [level]
  | succ depth ih =>
    rw [nodes_level_succ, nodes_level_succ, flatMap_assoc]
    simp only [ih]

theorem level_eq_nil
    (lower : ∀ node, ∀ child ∈ children node, height child < height node)
    (below : height node < depth) : level children depth node = [] := by
  induction depth generalizing node with
  | zero => exact absurd below (Nat.not_lt_zero _)
  | succ depth ih =>
    rw [level, flatMap_eq_nil_iff]
    intro child mem
    have inside := mem_map_of_mem (f := Prod.fst) mem
    rw [zipIdx_map_fst] at inside
    have less := lower node child.1 inside
    rw [ih (by omega), map_nil]

/-! ## The search -/

/-- The goal that a breadth-first search reaches. -/
def First (children : α → List α) (goal : α → Bool) (node : α) (path : List Nat) : Prop :=
  ∀ other last, walk children node other = some last → goal last = true →
    path.length ≤ other.length ∧ (path.length = other.length → ¬ LeftOf other path)

variable {goal : α → Bool} {search : List α → Option α}

/-- The first goal of a level is the leftmost one. -/
theorem find_level (listed : (path, found) ∈ level children depth node)
    (isGoal : goal found = true) :
    ∃ best last, ((level children depth node).map Prod.snd).find? goal = some last ∧
      (best, last) ∈ level children depth node ∧ goal last = true ∧
        ∀ other otherLast, (other, otherLast) ∈ level children depth node →
          goal otherLast = true → ¬ LeftOf other best := by
  have exists_goal : ((level children depth node).find? (goal ·.2)).isSome := by
    rw [List.find?_isSome]
    exact ⟨_, listed, isGoal⟩
  obtain ⟨⟨best, last⟩, taken⟩ := Option.isSome_iff_exists.mp exists_goal
  obtain ⟨lastGoal, _, _, split, skipped⟩ := List.find?_eq_some_iff_append.mp taken
  have ordered : (level children depth node).Pairwise
      fun left right => LeftOf left.1 right.1 := pairwise_level
  rw [split] at ordered
  refine ⟨best, last, ?_, split ▸ by simp, lastGoal, ?_⟩
  · rw [List.find?_map, Function.comp_def, taken]
    rfl
  · intro other otherLast otherListed otherGoal
    rw [split, mem_append, mem_cons] at otherListed
    rcases otherListed with earlier | same | later
    · have notGoal := skipped _ earlier
      simp [otherGoal] at notGoal
    · cases same
      exact LeftOf.irrefl _
    · have tail := (pairwise_append.mp ordered).2.1
      exact LeftOf.asymm ((pairwise_cons.mp tail).1 _ later)

section

variable (search_nil : search [] = none) (search_cons : ∀ node queue, search (node :: queue) =
    if goal node then some node else search (queue ++ children node))

include search_cons

/-- What stands in front is looked at first, and then its children after
everything else. -/
theorem search_append (front rest : List α) : search (front ++ rest) =
      (front.find? goal).or (search (rest ++ front.flatMap children)) := by
  induction front generalizing rest with
  | nil => simp
  | cons node front ih =>
    rw [cons_append, search_cons, List.find?_cons]
    cases goal node with
    | true => rfl
    | false =>
      rw [if_neg Bool.false_ne_true, append_assoc, ih, append_assoc, flatMap_cons]

theorem search_level (depth : Nat)
    (above : ∀ path last, walk children node path = some last → goal last = true →
      depth ≤ path.length) : search [node] = search ((level children depth node).map Prod.snd) := by
  induction depth with
  | zero => rfl
  | succ depth ih =>
    rw [ih fun path last walked isGoal =>
      Nat.le_of_succ_le (above path last walked isGoal)]
    have none : ((level children depth node).map Prod.snd).find? goal = none := by
      rw [List.find?_eq_none]
      intro last mem isGoal
      obtain ⟨⟨path, same⟩, listed, rfl⟩ := mem_map.mp mem
      obtain ⟨walked, length⟩ := mem_level_iff.mp listed
      have deeper := above path same walked isGoal
      omega
    have split := search_append search_cons ((level children depth node).map Prod.snd) []
    rw [append_nil, none, ← nodes_next_level] at split
    exact split

theorem search_eq_some_of_goal (walked : walk children node path = some found)
    (isGoal : goal found = true) :
    ∃ best last, search [node] = some last ∧ walk children node best = some last ∧
      goal last = true ∧ First children goal node best := by
  classical
  have someDepth : ∃ depth path last, walk children node path = some last ∧
      goal last = true ∧ path.length = depth := ⟨_, path, found, walked, isGoal, rfl⟩
  obtain ⟨_, _, shallowWalked, shallowGoal, length⟩ := Nat.find_spec someDepth
  have above : ∀ path last, walk children node path = some last →
      goal last = true → Nat.find someDepth ≤ path.length := by
    intro path last walked isGoal
    exact Nat.find_min' someDepth ⟨path, last, walked, isGoal, rfl⟩
  obtain ⟨best, last, taken, listed, lastGoal, leftmost⟩ :=
    find_level (mem_level_iff.mpr ⟨shallowWalked, length⟩) shallowGoal
  obtain ⟨bestWalked, bestLength⟩ := mem_level_iff.mp listed
  refine ⟨best, last, ?_, bestWalked, lastGoal, ?_⟩
  · have split := search_append search_cons
      ((level children (Nat.find someDepth) node).map Prod.snd) []
    rw [append_nil, taken, Option.some_or] at split
    rw [search_level search_cons (Nat.find someDepth) above, split]
  · intro other otherLast otherWalked otherGoal
    rw [bestLength]
    refine ⟨above other otherLast otherWalked otherGoal, ?_⟩
    intro same
    exact leftmost other otherLast (mem_level_iff.mpr ⟨otherWalked, same.symm⟩) otherGoal

include search_nil

theorem search_eq_none
    (lower : ∀ node, ∀ child ∈ children node, height child < height node)
    (noGoal : ∀ path last, walk children node path = some last → goal last = false) :
    search [node] = none := by
  have exhausted := search_level search_cons (height node + 1) fun path last walked isGoal => by
      rw [noGoal path last walked] at isGoal
      cases isGoal
  rw [exhausted, level_eq_nil lower (Nat.lt_succ_self _)]
  exact search_nil

end

end MandateSolver.BreadthFirst
