import Mathlib.Data.List.Perm.Basic

/-!
# Double-ended queues

A deque is the list of its elements from front to back.  `swapRemove` keeps the order of the
others only for one of the first two elements.
-/

namespace MandateSolver.Deque

open List Option

variable {α β : Type}

def pushFront (limit : Nat) (item : α) (items : List α) : List α :=
  (item :: items).take limit

/-- Replaces the element at the index by the one at the front. -/
def swapRemoveFront : List α → Nat → Option (α × List α)
  | [], _ => none
  | first :: rest, 0 => some (first, rest)
  | first :: rest, index + 1 =>
    rest[index]?.map fun removed => (removed, rest.set index first)

variable {items rest : List α} {removed : α} {index : Nat} {before : α → α → Prop}

@[simp] theorem pushFront_map (convert : α → β) (limit : Nat) (item : α) (items : List α) :
    (pushFront limit item items).map convert =
      pushFront limit (convert item) (items.map convert) := by
  simp [pushFront]

theorem pushFront_dropped {limit : Nat} {item dropped : α}
    (ordered : (item :: items).Pairwise before) (mem : dropped ∈ item :: items)
    (gone : dropped ∉ pushFront limit item items) :
    (pushFront limit item items).length = limit ∧
      ∀ kept ∈ pushFront limit item items, before kept dropped := by
  unfold pushFront at gone ⊢
  generalize item :: items = all at ordered mem gone ⊢
  rw [← take_append_drop limit all] at ordered mem
  have behind := (mem_append.mp mem).resolve_left gone
  constructor
  · have long := length_pos_of_mem behind
    rw [length_drop] at long
    rw [length_take]
    omega
  · intro kept keptMember
    exact (pairwise_append.mp ordered).2.2 kept keptMember dropped behind

theorem exists_swapRemoveFront (inside : index < items.length) :
    ∃ result, swapRemoveFront items index = some result := by
  cases items with
  | nil => simp at inside
  | cons first rest =>
    cases index with
    | zero => exact ⟨_, rfl⟩
    | succ index =>
      have insideRest : index < rest.length := by simpa using inside
      exact ⟨_, map_eq_some_iff.mpr ⟨_, List.getElem?_eq_getElem insideRest, rfl⟩⟩

theorem swapRemoveFront_map (convert : α → β) (items : List α) (index : Nat) :
    swapRemoveFront (items.map convert) index = (swapRemoveFront items index).map fun result =>
        (convert result.1, result.2.map convert) := by
  cases items with
  | nil => rfl
  | cons first rest =>
    cases index with
    | zero => rfl
    | succ index =>
      simp only [map_cons, swapRemoveFront, List.getElem?_map,
        Option.map_map, map_set, Function.comp_def]

section

variable (found : swapRemoveFront items index = some (removed, rest))
include found

theorem swapRemoveFront_getElem : items[index]? = some removed := by
  cases items with
  | nil => simp [swapRemoveFront] at found
  | cons first others =>
    cases index with
    | zero =>
      cases found
      rfl
    | succ index =>
      obtain ⟨_, atIndex, equality⟩ := map_eq_some_iff.mp found
      cases equality
      exact atIndex

theorem swapRemoveFront_perm : items.Perm (removed :: rest) := by
  cases items with
  | nil => simp [swapRemoveFront] at found
  | cons first others =>
    cases index with
    | zero =>
      cases found
      exact List.Perm.refl _
    | succ index =>
      obtain ⟨_, atIndex, equality⟩ := map_eq_some_iff.mp found
      cases equality
      obtain ⟨inside, rfl⟩ := List.getElem?_eq_some_iff.mp atIndex
      calc
        (first :: others).Perm (first :: others[index] :: others.eraseIdx index) :=
            (getElem_cons_eraseIdx_perm inside).symm.cons first
        List.Perm _ (others[index] :: first :: others.eraseIdx index) := List.Perm.swap _ _ _
        List.Perm _ (others[index] :: others.set index first) :=
            (set_perm_cons_eraseIdx inside first).symm.cons _

end

/-- Only the first two elements can be removed without mixing up the others. -/
theorem swapRemoveFront_pairwise_iff
    (asymmetric : ∀ first second, before first second → ¬before second first)
    (ordered : items.Pairwise before) (found : swapRemoveFront items index = some (removed, rest)) :
    rest.Pairwise before ↔ index ≤ 1 := by
  match items, index, found with
  | first :: others, 0, found =>
    cases found
    simp [(pairwise_cons.mp ordered).2]
  | first :: second :: others, 1, found =>
    cases found
    have kept := (sublist_cons_self removed others).cons_cons first
    simp [ordered.sublist kept]
  | first :: second :: others, index + 2, found =>
    obtain ⟨_, atIndex, equality⟩ := map_eq_some_iff.mp found
    cases equality
    have inside : index < others.length := by
      have bound := (List.getElem?_eq_some_iff.mp atIndex).1
      simpa using bound
    have firstBeforeSecond := (pairwise_cons.mp ordered).1 second mem_cons_self
    constructor
    · intro stillOrdered
      have secondBeforeFirst := (pairwise_cons.mp stillOrdered).1 first
          (mem_set inside first)
      exact absurd secondBeforeFirst (asymmetric _ _ firstBeforeSecond)
    · omega

end MandateSolver.Deque
