import Mathlib.Data.List.Sort

/-!
# Stable sorting

Items that were in order already keep their order.
-/

namespace MandateSolver

open List

variable {α : Type} {flag : α → Bool} {items : List α}

/-- Items that already are in order stay as they are. -/
theorem filter_insertionSort {before : α → α → Prop} [DecidableRel before]
    [IsTrans α before] [Std.Total before] (ordered : (items.filter flag).Pairwise before) :
    (items.insertionSort before).filter flag = items.filter flag := by
  have kept : (items.filter flag).Sublist ((items.insertionSort before).filter flag) := by
    have filtered := (sublist_insertionSort ordered filter_sublist).filter flag
    rwa [filter_eq_self.mpr fun item mem =>
      of_mem_filter mem] at filtered
  have sameLength := ((perm_insertionSort before items).filter flag).length_eq
  exact (kept.eq_of_length sameLength.symm).symm

theorem eq_filter_append_filter
    (flaggedFirst : items.Pairwise fun left right =>
      flag right = true → flag left = true) :
    items = items.filter flag ++ items.filter (!flag ·) := by
  induction items with
  | nil => rfl
  | cons item items ih =>
    obtain ⟨first, rest⟩ := pairwise_cons.mp flaggedFirst
    cases flagged : flag item with
    | true =>
      rw [filter_cons_of_pos flagged, filter_cons_of_neg (by simp [flagged]), cons_append,
        ← ih rest]
    | false =>
      have noneFlagged : items.filter flag = [] := by
        apply filter_eq_nil_iff.mpr
        intro other mem isFlagged
        rw [first other mem isFlagged] at flagged
        simp at flagged
      have split := ih rest
      rw [noneFlagged, nil_append] at split
      rw [filter_cons_of_neg (by simp [flagged]), noneFlagged,
        filter_cons_of_pos (by simp [flagged]), nil_append,
        ← split]

@[simp] theorem filter_flaggedFirst (items : List α) (flag : α → Bool) :
    (items.filter flag ++ items.filter (!flag ·)).filter flag = items.filter flag := by
  simp [filter_filter]

@[simp] theorem filter_not_flaggedFirst (items : List α) (flag : α → Bool) :
    (items.filter flag ++ items.filter (!flag ·)).filter (!flag ·) = items.filter (!flag ·) := by
  simp [filter_filter]

end MandateSolver
