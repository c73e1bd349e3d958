import Mathlib.Data.List.Basic

/-!
# Lists in chunks of a fixed size

The last chunk may be shorter.  A list of results is often only used up to the
first failure, which is its leading part.
-/

namespace MandateSolver

open List

variable {α : Type} {results : List (Option α)} {result : Option α}

/-- A size of zero gives no chunks. -/
def chunks (size : Nat) (items : List α) : List (List α) :=
  if _more : 0 < size ∧ 0 < items.length then
    items.take size :: chunks size (items.drop size)
  else []
termination_by items.length
decreasing_by
  rw [List.length_drop]
  omega

def leading : List (Option α) → List α
  | some value :: results => value :: leading results
  | _ => []

theorem flatten_chunks {size : Nat} (positive : 0 < size) (items : List α) :
    (chunks size items).flatten = items := by
  fun_induction chunks size items with
  | case1 items more ih =>
    rw [flatten_cons, ih, take_append_drop]
  | case2 items finished =>
    have empty : items.length = 0 := by omega
    rw [length_eq_zero_iff.mp empty, flatten_nil]

theorem length_leading_le (results : List (Option α)) :
    (leading results).length ≤ results.length := by
  fun_induction leading results with
  | case1 value results ih => exact Nat.succ_le_succ ih
  | case2 results => exact Nat.zero_le _

theorem leading_append {first later : List (Option α)}
    (complete : (leading first).length = first.length) :
    leading (first ++ later) = leading first ++ leading later := by
  induction first with
  | nil => rfl
  | cons result first ih =>
    cases result with
    | none => simp [leading] at complete
    | some value =>
      simp only [leading, length_cons, Nat.add_right_cancel_iff] at complete
      simp only [cons_append, leading, ih complete]

theorem leading_map_some_append (values : List α) (later : List (Option α)) :
    leading (values.map some ++ later) = values ++ leading later := by
  induction values with
  | nil => rfl
  | cons value values ih =>
    simp only [map_cons, cons_append, leading, ih]

theorem leading_append_of_lt {first later : List (Option α)}
    (failed : (leading first).length < first.length) :
    leading (first ++ later) = leading first := by
  induction first with
  | nil => simp at failed
  | cons result first ih =>
    cases result with
    | none => rfl
    | some value =>
      simp only [leading, length_cons, Nat.add_lt_add_iff_right] at failed
      simp only [cons_append, leading, ih failed]

theorem isSome_of_lt_leading {position : Nat} (inside : position < (leading results).length)
    (found : results[position]? = some result) : result.isSome := by
  induction results generalizing position with
  | nil => cases found
  | cons first results ih =>
    cases first with
    | none => simp [leading] at inside
    | some value =>
      cases position with
      | zero =>
        rw [← Option.some.inj found, Option.isSome_some]
      | succ position =>
        exact ih (Nat.lt_of_succ_lt_succ inside) found

theorem eq_none_of_length_leading
    (found : results[(leading results).length]? = some result) : result = none := by
  induction results with
  | nil => cases found
  | cons first results ih =>
    cases first with
    | none => exact (Option.some.inj found).symm
    | some value => exact ih found

end MandateSolver
