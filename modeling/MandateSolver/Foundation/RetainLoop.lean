import Mathlib.Algebra.BigOperators.Group.List.Basic
import Mathlib.Algebra.GroupWithZero.Nat
import MandateSolver.Foundation.Outcome

/-!
# Loops that retain and change items

`retainMut` goes through a list with a state.  Every item is dropped or replaced, and items
that draw on a budget cannot draw more than the budget altogether.
-/

namespace MandateSolver

open List

variable {σ α β : Type} {items : List α}

def retainMut (step : σ → α → Option β × σ) : σ → List α → List β
  | _, [] => []
  | state, item :: rest =>
    match step state item with
    | (some kept, next) => kept :: retainMut step next rest
    | (none, next) => retainMut step next rest

namespace retainMut

variable {step : σ → α → Option β × σ}

/-- Every retained item stems from one item of the list, in the same order. -/
theorem sources {relates : α → β → Prop} (items : List α) (state : σ)
    (each : ∀ state item kept next, item ∈ items →
      step state item = (some kept, next) → relates item kept) :
    ∃ origins, origins.Sublist items ∧
      List.Forall₂ relates origins (retainMut step state items) := by
  induction items generalizing state with
  | nil => exact ⟨[], .refl _, .nil⟩
  | cons item rest ih =>
    have later := fun next => ih next fun state other kept following
      mem stepped => each state other kept following (mem_cons_of_mem _ mem) stepped
    unfold retainMut
    split
    · rename_i kept next stepped
      obtain ⟨origins, sublist, related⟩ := later next
      exact ⟨item :: origins, sublist.cons_cons item,
        .cons (each state item kept next mem_cons_self stepped) related⟩
    · rename_i next stepped
      obtain ⟨origins, sublist, related⟩ := later next
      exact ⟨origins, sublist.cons item, related⟩

theorem forall_mem {holds : β → Prop} (each : ∀ state item kept next,
      step state item = (some kept, next) → holds kept) (items : List α) (state : σ) :
    ∀ kept ∈ retainMut step state items, holds kept := by
  induction items generalizing state with
  | nil => simp [retainMut]
  | cons item rest ih =>
    unfold retainMut
    split
    · rename_i kept next stepped
      rw [forall_mem_cons]
      exact ⟨each state item kept next stepped, ih next⟩
    · rename_i next stepped
      exact ih next

/-- What is counted never exceeds the budget, when every round takes what it
counts out of the budget. -/
theorem sum_le (budget : σ → Nat) (counts : β → Bool) (amount : β → Nat)
    (retained : ∀ state item kept next, step state item = (some kept, next) →
      (if counts kept then amount kept else 0) + budget next ≤ budget state)
    (dropped : ∀ state item next, step state item = (none, next) → budget next ≤ budget state)
    (items : List α) (state : σ) :
    (((retainMut step state items).filter counts).map amount).sum ≤ budget state := by
  induction items generalizing state with
  | nil => simp [retainMut]
  | cons item rest ih =>
    unfold retainMut
    split
    · rename_i kept next stepped
      have paid := retained state item kept next stepped
      have later := ih next
      by_cases counted : counts kept
      · rw [if_pos counted] at paid
        rw [filter_cons_of_pos counted, map_cons, sum_cons]
        omega
      · rw [filter_cons_of_neg counted]
        omega
    · rename_i next stepped
      exact Nat.le_trans (ih next) (dropped state item next stepped)

end retainMut

/-! ## Items with a new key -/

section

variable {κ : Type} [DecidableEq κ] (key : α → κ)

def retainNew : List κ → List α → List α :=
  retainMut fun seen item =>
    if key item ∈ seen then (none, seen) else (some item, key item :: seen)

theorem retainNew_cons (seen : List κ) (item : α) (rest : List α) :
    retainNew key seen (item :: rest) = if key item ∈ seen then retainNew key seen rest
      else item :: retainNew key (key item :: seen) rest := by
  unfold retainNew
  rw [retainMut]
  split
  · rename_i kept next stepped
    split at stepped
    · simp at stepped
    · rename_i unseen
      obtain ⟨rfl, rfl⟩ : item = kept ∧ key item :: seen = next := by
        simpa using stepped
      rw [if_neg unseen]
  · rename_i next stepped
    split at stepped
    · rename_i already
      obtain rfl : seen = next := by simpa using stepped
      rw [if_pos already]
    · simp at stepped

theorem retainNew_of_nodup {seen : List κ} (distinct : (items.map key).Nodup)
    (unseen : ∀ item ∈ items, key item ∉ seen) : retainNew key seen items = items := by
  induction items generalizing seen with
  | nil => rfl
  | cons item rest ih =>
    obtain ⟨absent, distinct⟩ := nodup_cons.mp distinct
    obtain ⟨itemUnseen, restUnseen⟩ := forall_mem_cons.mp unseen
    rw [retainNew_cons, if_neg itemUnseen, ih distinct]
    intro later mem again
    rcases mem_cons.mp again with same | already
    · exact absent (same ▸ mem_map_of_mem mem)
    · exact restUnseen later mem already

end

section

variable {ε : Type}

def retainM (keep : α → Outcome ε Bool) : List α → Outcome ε (List α)
  | [] => .ok []
  | item :: items => do
    let kept ← keep item
    let rest ← retainM keep items
    return if kept then item :: rest else rest

theorem retainM_returns {keep : α → Outcome ε Bool}
    (checked : ∀ item ∈ items, Outcome.Returns (keep item) fun _ => True) :
    Outcome.Returns (retainM keep items) (List.Sublist · items) := by
  induction items with
  | nil => exact .ok (List.Sublist.refl _)
  | cons item items ih =>
    obtain ⟨first, rest⟩ := forall_mem_cons.mp checked
    apply first.bind
    intro kept _
    apply (ih rest).bind
    intro _ sublist
    cases kept with
    | true => exact .ok (sublist.cons_cons item)
    | false => exact .ok (sublist.cons item)

end

end MandateSolver
