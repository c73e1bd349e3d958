import Mathlib.Data.List.Basic

/-!
# Runs of a step function

What holds in every state of a run follows from what a single step preserves.
-/

namespace MandateSolver.Run

open List

variable {σ α β : Type} (step : σ → α → σ) {property : σ → Prop}

/-- Every action is taken in a state in which the guard allows it. -/
def Along (guard : σ → α → Prop) : σ → List α → Prop
  | _, [] => True
  | state, action :: actions =>
    guard state action ∧ Along guard (step state action) actions

/-- The property holds in every state, from the first to the last. -/
def Throughout (property : σ → Prop) : σ → List α → Prop
  | state, [] => property state
  | state, action :: actions =>
    property state ∧ Throughout property (step state action) actions

/-- What a run shows. -/
def events (observe : σ → α → Option β) : σ → List α → List β
  | _, [] => []
  | state, action :: actions =>
    (observe state action).toList ++ events observe (step state action) actions

variable {step} {guard goal : σ → α → Prop} {observe : σ → α → Option β} {start : σ}
  {actions : List α}

theorem Throughout.head (holds : Throughout step property start actions) : property start := by
  cases actions with
  | nil => exact holds
  | cons action actions => exact holds.1

theorem Throughout.mono {weaker : σ → Prop} (holds : Throughout step property start actions)
    (implies : ∀ state, property state → weaker state) : Throughout step weaker start actions := by
  induction actions generalizing start with
  | nil => exact implies start holds
  | cons action actions ih =>
    exact ⟨implies start holds.1, ih holds.2⟩

theorem throughout_of_preserved (preserved : ∀ state action, property state → guard state action →
      property (step state action))
    (initially : property start) (allowed : Along step guard start actions) :
    Throughout step property start actions := by
  induction actions generalizing start with
  | nil => exact initially
  | cons action actions ih =>
    exact ⟨initially, ih (preserved start action initially allowed.1) allowed.2⟩

theorem Throughout.along (holds : Throughout step property start actions)
    (transition : ∀ state action, property state → property (step state action) →
      goal state action) : Along step goal start actions := by
  induction actions generalizing start with
  | nil => trivial
  | cons action actions ih =>
    exact ⟨transition start action holds.1 holds.2.head, ih holds.2⟩

theorem along_of_forall (always : ∀ state, ∀ action ∈ actions, guard state action) :
    Along step guard start actions := by
  induction actions generalizing start with
  | nil => trivial
  | cons action actions ih =>
    refine ⟨always start action mem_cons_self, ih ?_⟩
    intro state later mem
    exact always state later (mem_cons_of_mem action mem)

theorem Along.mono (holds : Along step guard start actions)
    (implies : ∀ state action, guard state action → goal state action) :
    Along step goal start actions := by
  induction actions generalizing start with
  | nil => trivial
  | cons action actions ih =>
    exact ⟨implies start action holds.1, ih holds.2⟩

theorem Along.at_action {first later : List α} {action : α}
    (holds : Along step goal start (first ++ action :: later)) :
    goal (first.foldl step start) action := by
  induction first generalizing start with
  | nil => exact holds.1
  | cons earlier first ih => exact ih holds.2

instance Along.decidable [∀ state action, Decidable (guard state action)] :
    (start : σ) → (actions : List α) → Decidable (Along step guard start actions)
  | _, [] => isTrue trivial
  | start, action :: actions =>
    @instDecidableAnd _ _ _ (Along.decidable (step start action) actions)

section

variable (property)
  (preserved : ∀ state action, property state → guard state action → property (step state action))
  (initially : property start) (allowed : Along step guard start actions)
include preserved initially allowed

theorem along_of_preserved
    (implies : ∀ state action, property state → guard state action → goal state action) :
    Along step goal start actions := by
  induction actions generalizing start with
  | nil => trivial
  | cons action actions ih =>
    exact ⟨implies start action initially allowed.1,
      ih (preserved start action initially allowed.1) allowed.2⟩

theorem foldl_of_preserved : property (actions.foldl step start) := by
  induction actions generalizing start with
  | nil => exact initially
  | cons action actions ih =>
    exact ih (preserved start action initially allowed.1) allowed.2

end

theorem along_map_iff {τ : Type} {view : σ → τ} {imageStep : τ → α → τ} {imageGuard : τ → α → Prop}
    (simulates : ∀ state action, view (step state action) = imageStep (view state) action) :
    Along step (fun state action => imageGuard (view state) action) start actions ↔
      Along imageStep imageGuard (view start) actions := by
  induction actions generalizing start with
  | nil => exact Iff.rfl
  | cons action actions ih =>
    unfold Along
    rw [ih, simulates]

/-! ## Events -/

theorem events_append (first later : List α) : events step observe start (first ++ later) =
      events step observe start first ++ events step observe (first.foldl step start) later := by
  induction first generalizing start with
  | nil => rfl
  | cons action first ih =>
    simp only [cons_append, events, ih, append_assoc, foldl_cons]

/-- The invariant may speak about the actions that are still to come. -/
theorem forall_events {property : β → Prop} (invariant : σ → List α → Prop)
    (preserved : ∀ state action actions, invariant state (action :: actions) →
      invariant (step state action) actions)
    (seen : ∀ state action actions, invariant state (action :: actions) →
      ∀ event, observe state action = some event → property event)
    (initially : invariant start actions) :
    ∀ event ∈ events step observe start actions, property event := by
  induction actions generalizing start with
  | nil => simp [events]
  | cons action actions ih =>
    intro event mem
    rcases mem_append.mp mem with now | later
    · exact seen start action actions initially event (Option.mem_toList.mp now)
    · exact ih (preserved start action actions initially) event later

/-- What an event has to do with the events before it.  The invariant knows all
that could be seen so far. -/
theorem forall_events_after (property : List β → β → Prop) (invariant : σ → List β → Prop)
    (preserved : ∀ state action seen, invariant state seen → guard state action →
      invariant (step state action) (seen ++ (observe state action).toList))
    (implies : ∀ state action seen event, invariant state seen →
      guard state action → observe state action = some event → property seen event)
    {seen : List β} (initially : invariant start seen)
    (allowed : Along step guard start actions) {before after : List β} {event : β}
    (occurs : events step observe start actions = before ++ event :: after) :
    property (seen ++ before) event := by
  induction actions generalizing start seen before with
  | nil => simp [events] at occurs
  | cons action actions ih =>
    have next := preserved start action seen initially allowed.1
    unfold events at occurs
    cases observed : observe start action with
    | none =>
      rw [observed] at next occurs
      rw [Option.toList_none, append_nil] at next
      exact ih next allowed.2 occurs
    | some first =>
      rw [observed] at next occurs
      cases before with
      | nil =>
        obtain ⟨rfl, -⟩ := List.cons.inj occurs
        rw [append_nil]
        exact implies start action seen first initially allowed.1 observed
      | cons head before =>
        obtain ⟨rfl, later⟩ := List.cons.inj occurs
        rw [append_cons]
        exact ih next allowed.2 later

theorem pairwise_events {relation : β → β → Prop} (invariant : σ → List α → Prop)
    (preserved : ∀ state action actions, invariant state (action :: actions) →
      invariant (step state action) actions)
    (seen : ∀ state action actions, invariant state (action :: actions) →
      ∀ event, observe state action = some event →
        ∀ later ∈ events step observe (step state action) actions, relation event later)
    (initially : invariant start actions) :
    (events step observe start actions).Pairwise relation := by
  induction actions generalizing start with
  | nil => exact List.Pairwise.nil
  | cons action actions ih =>
    unfold events
    rw [pairwise_append]
    refine ⟨?_, ih (preserved start action actions initially), ?_⟩
    · cases observe start action with
      | none => exact List.Pairwise.nil
      | some event => exact pairwise_singleton relation event
    · intro event now
      exact seen start action actions initially event (Option.mem_toList.mp now)

end MandateSolver.Run
