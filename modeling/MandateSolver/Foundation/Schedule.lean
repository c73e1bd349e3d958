import Mathlib.Data.Nat.Init

/-!
# Infinite runs

A schedule says what happens at every point of time.  Something good happens in
the end if it gets no further away and every fair event brings it closer.
-/

namespace MandateSolver.Schedule

variable {σ α : Type} (step : σ → α → σ) (start : σ) (schedule : Nat → α)

/-- The state before the event at a point of time. -/
def state : Nat → σ
  | 0 => start
  | time + 1 => step (state time) (schedule time)

variable {step} {start} {schedule}

theorem state_of_preserved (property : σ → Prop) (initially : property start)
    (preserved : ∀ state event, property state → property (step state event))
    (time : Nat) : property (state step start schedule time) := by
  induction time with
  | zero => exact initially
  | succ time ih => exact preserved _ _ ih

theorem state_of_preserved_between (property : σ → Prop) {first last : Nat}
    (order : first ≤ last) (initially : property (state step start schedule first))
    (preserved : ∀ time, first ≤ time → time < last → property (state step start schedule time) →
      property (state step start schedule (time + 1))) :
    property (state step start schedule last) := by
  induction last, order using Nat.le_induction with
  | base => exact initially
  | succ last order ih =>
    apply preserved last order (Nat.lt_succ_self last)
    apply ih
    intro time after before
    exact preserved time after (Nat.lt_succ_of_lt before)

section

variable (waits : σ → Prop) (goal : σ → α → Prop) (rank : σ → Nat) {helpful : α → Prop}
  (keeps : ∀ time, waits (state step start schedule time) →
    goal (state step start schedule time) (schedule time) ∨
      waits (state step start schedule (time + 1)) ∧ rank (state step start schedule (time + 1)) ≤
          rank (state step start schedule time))
include keeps

/-- Until the goal is reached the rank does not grow. -/
theorem reaches_or_waits {first last : Nat} (order : first ≤ last)
    (waiting : waits (state step start schedule first)) :
    (∃ time ≥ first, goal (state step start schedule time) (schedule time)) ∨
      waits (state step start schedule last) ∧ rank (state step start schedule last) ≤
          rank (state step start schedule first) := by
  induction last, order using Nat.le_induction with
  | base => exact Or.inr ⟨waiting, Nat.le_refl _⟩
  | succ last order ih =>
    rcases ih with reached | ⟨still, below⟩
    · exact Or.inl reached
    · rcases keeps last still with reached | ⟨later, notMore⟩
      · exact Or.inl ⟨last, order, reached⟩
      · exact Or.inr ⟨later, Nat.le_trans notMore below⟩

theorem eventually_of_fair (fair : ∀ time, ∃ later ≥ time, helpful (schedule later))
    (helps : ∀ time, waits (state step start schedule time) → helpful (schedule time) →
      goal (state step start schedule time) (schedule time) ∨
        rank (state step start schedule (time + 1)) < rank (state step start schedule time))
    {time : Nat} (waiting : waits (state step start schedule time)) :
    ∃ later ≥ time, goal (state step start schedule later) (schedule later) := by
  generalize distance : rank (state step start schedule time) = bound
  induction bound using Nat.strong_induction_on generalizing time with
  | _ bound ih =>
    obtain ⟨chance, after, useful⟩ := fair time
    rcases reaches_or_waits waits goal rank keeps after waiting with reached | ⟨still, notMore⟩
    · exact reached
    rcases keeps chance still with reached | ⟨next, _⟩
    · exact ⟨chance, after, reached⟩
    rcases helps chance still useful with reached | closer
    · exact ⟨chance, after, reached⟩
    obtain ⟨later, _, reached⟩ := ih _ (distance ▸ Nat.lt_of_lt_of_le closer notMore) next rfl
    exact ⟨later, by omega, reached⟩

end

end MandateSolver.Schedule
