import Mathlib.Data.List.Basic

/-!
# Extremal elements of a list under a comparison

`maxBy` keeps the later of two equal elements and `minBy` the earlier one.
-/

namespace MandateSolver

open List

variable {α β : Type} {cmp : α → α → Ordering} {items : List α}

section

variable (cmp)

def maxBy : List α → Option α
  | [] => none
  | head :: tail =>
    some (tail.foldl (fun best item => if cmp best item = .gt then best else item) head)

def minBy : List α → Option α
  | [] => none
  | head :: tail =>
    some (tail.foldl (fun best item => if cmp best item = .gt then item else best) head)

/-- A maximum, the last of its equals. -/
def IsLastMax (items : List α) (best : α) : Prop :=
  ∃ before after, items = before ++ best :: after ∧ (∀ item ∈ before, cmp item best ≠ .gt) ∧
    ∀ item ∈ after, cmp item best = .lt

end

namespace IsLastMax

variable {best : α}

section

variable (isMax : IsLastMax cmp items best)
include isMax

theorem mem : best ∈ items := by
  obtain ⟨_, _, rfl, _, _⟩ := isMax
  simp

theorem not_gt [Std.ReflCmp cmp] : ∀ item ∈ items, cmp item best ≠ .gt := by
  obtain ⟨_, _, rfl, beforeLe, afterLt⟩ := isMax
  intro item mem
  rcases mem_append.mp mem with early | late
  · exact beforeLe item early
  · rcases mem_cons.mp late with rfl | later
    · simp [Std.ReflCmp.compare_self]
    · simp [afterLt item later]

/-- Dropping elements never changes the choice as long as the chosen element
itself is kept. -/
theorem filter {keep : α → Bool} (kept : keep best = true) :
    IsLastMax cmp (items.filter keep) best := by
  obtain ⟨before, after, rfl, beforeLe, afterLt⟩ := isMax
  refine ⟨before.filter keep, after.filter keep, ?_, ?_, ?_⟩
  · simp [kept]
  · intro item mem
    exact beforeLe item (mem_filter.mp mem).1
  · intro item mem
    exact afterLt item (mem_filter.mp mem).1

theorem unique [Std.OrientedCmp cmp] {other : α}
    (otherMax : IsLastMax cmp items other) : best = other := by
  obtain ⟨_, _, rfl, beforeLe, afterLt⟩ := isMax
  obtain ⟨_, _, same, otherBeforeLe, otherAfterLt⟩ := otherMax
  rcases append_eq_append_iff.mp same with
    ⟨middle, rfl, tailEq⟩ | ⟨middle, rfl, tailEq⟩
  · cases middle with
    | nil => simp_all
    | cons head middle =>
      obtain ⟨rfl, rfl⟩ := tailEq
      have ahead := afterLt other (by simp)
      exact absurd (Std.OrientedCmp.gt_iff_lt.mpr ahead) (otherBeforeLe best (by simp))
  · cases middle with
    | nil => simp_all
    | cons head middle =>
      obtain ⟨rfl, rfl⟩ := tailEq
      have ahead := otherAfterLt best (by simp)
      exact absurd (Std.OrientedCmp.gt_iff_lt.mpr ahead) (beforeLe other (by simp))

end

end IsLastMax

private theorem foldl_isLastMax [Std.TransCmp cmp] (head : α) (tail : List α) :
    IsLastMax cmp (head :: tail) (tail.foldl
      (fun best item => if cmp best item = .gt then best else item) head) := by
  induction tail generalizing head with
  | nil => exact ⟨[], [], by simp⟩
  | cons item tail ih =>
    simp only [foldl_cons]
    by_cases better : cmp head item = .gt
    · rw [if_pos better]
      obtain ⟨before, after, split, beforeLe, afterLt⟩ := ih head
      cases before with
      | nil =>
        simp only [nil_append, List.cons.injEq] at split
        refine ⟨[], item :: after, ?_, by simp, ?_⟩
        · simp [← split.1, ← split.2]
        · intro other mem
          rcases mem_cons.mp mem with rfl | later
          · rw [← split.1]
            exact Std.OrientedCmp.gt_iff_lt.mp better
          · exact afterLt other later
      | cons first before =>
        simp only [cons_append, List.cons.injEq] at split
        obtain ⟨rfl, tailEq⟩ := split
        refine ⟨head :: item :: before, after, ?_, ?_, afterLt⟩
        · simp [← tailEq]
        · intro other mem
          rcases mem_cons.mp mem with rfl | rest
          · exact beforeLe other (by simp)
          · rcases mem_cons.mp rest with rfl | early
            · have headLe := beforeLe head (by simp)
              intro itemGt
              exact headLe (Std.TransCmp.gt_trans better itemGt)
            · exact beforeLe other (by simp [early])
    · rw [if_neg better]
      have itemLe := (ih item).not_gt item (by simp)
      obtain ⟨before, after, split, beforeLe, afterLt⟩ := ih item
      refine ⟨head :: before, after, by simp [split], ?_, afterLt⟩
      intro other mem
      rcases mem_cons.mp mem with rfl | early
      · intro headGt
        exact better (Std.TransCmp.gt_of_gt_of_isGE headGt
          (Std.OrientedCmp.isGE_of_isLE (Ordering.isLE_iff_ne_gt.mpr itemLe)))
      · exact beforeLe other early

theorem maxBy_eq_some_iff [Std.TransCmp cmp] {best : α} :
    maxBy cmp items = some best ↔ IsLastMax cmp items best := by
  cases items with
  | nil =>
    constructor
    · simp [maxBy]
    · intro isMax
      simpa using isMax.mem
  | cons head tail =>
    have chosen : IsLastMax cmp (head :: tail) _ := foldl_isLastMax head tail
    constructor
    · intro equality
      simp only [maxBy, Option.some.injEq] at equality
      rwa [equality] at chosen
    · intro isMax
      simp only [maxBy, Option.some.injEq]
      exact chosen.unique isMax

theorem maxBy_eq_none_iff : maxBy cmp items = none ↔ items = [] := by
  cases items <;> simp [maxBy]

/-! ## Minimal elements -/

private theorem foldl_min_spec [Std.TransCmp cmp] (head : α) (tail : List α) :
    let best := tail.foldl
      (fun best item => if cmp best item = .gt then item else best) head
    best ∈ head :: tail ∧ ∀ item ∈ head :: tail, cmp best item ≠ .gt := by
  induction tail generalizing head with
  | nil => simp [Std.ReflCmp.compare_self]
  | cons item tail ih =>
    simp only [foldl_cons]
    by_cases worse : cmp head item = .gt
    · rw [if_pos worse]
      obtain ⟨mem, minimal⟩ := ih item
      refine ⟨mem_cons_of_mem _ mem, ?_⟩
      intro other otherMem
      rcases mem_cons.mp otherMem with rfl | rest
      · intro chosenGt
        exact minimal item (by simp) (Std.TransCmp.gt_trans chosenGt worse)
      · exact minimal other rest
    · rw [if_neg worse]
      obtain ⟨mem, minimal⟩ := ih head
      refine ⟨?_, ?_⟩
      · rcases mem_cons.mp mem with same | rest
        · exact mem_cons.mpr (Or.inl same)
        · exact mem_cons_of_mem _ (mem_cons_of_mem _ rest)
      · intro other otherMem
        rcases mem_cons.mp otherMem with rfl | rest
        · exact minimal other (by simp)
        · rcases mem_cons.mp rest with rfl | later
          · intro chosenGt
            have headLe := Ordering.isLE_iff_ne_gt.mpr (minimal head (by simp))
            exact worse (Std.TransCmp.gt_of_isGE_of_gt
              (Std.OrientedCmp.isGE_of_isLE headLe) chosenGt)
          · exact minimal other (by simp [later])

theorem minBy_spec [Std.TransCmp cmp] {best : α} (chosen : minBy cmp items = some best) :
    best ∈ items ∧ ∀ item ∈ items, cmp best item ≠ .gt := by
  cases items with
  | nil => simp [minBy] at chosen
  | cons head tail =>
    simp only [minBy, Option.some.injEq] at chosen
    subst chosen
    exact foldl_min_spec head tail

theorem minBy_eq_none_iff : minBy cmp items = none ↔ items = [] := by
  cases items <;> simp [minBy]

end MandateSolver
