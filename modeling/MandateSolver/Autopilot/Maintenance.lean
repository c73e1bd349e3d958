import MandateSolver.Foundation.Runs
import MandateSolver.Foundation.Watch

/-!
# Waiting for the maintenance of a block

A background task runs all indexers for every block and then publishes its number.  The
number it starts with is that of the current block, for which nothing has run yet.
-/

namespace MandateSolver.Autopilot.Maintenance

/-! ## The task -/

/-- How the tasks of one block ended. -/
structure Results where
  (settlementIndexer dbCleanup : Except String Unit)
  (cowAmmIndexer ethflowIndexer : List (Except String Unit))

/-- All parts run at the same time.  Which of several errors is reported does not
matter, it is only logged. -/
def updateInner (results : Results) : Except String Unit := do
  results.settlementIndexer
  results.dbCleanup
  let _ ← results.cowAmmIndexer.mapM id
  let _ ← results.ethflowIndexer.mapM id

/-- A call that waits for a block. -/
structure Wait where
  targetBlock : Nat
  stream : Watch.Stream

/-- The task is gone when the channel of processed blocks is closed.  The blocks
whose updates have succeeded are only recorded here. -/
structure State where
  blocks : Watch Nat
  stream : Watch.Stream
  indexing : Option Nat
  lastProcessedBlock : Watch Nat
  waits : Nat → Option Wait
  succeeded : List Nat

def spawnMaintenanceTask (blocks : Watch Nat) : State where
  blocks := blocks
  stream := .new
  indexing := none
  lastProcessedBlock := .channel blocks.value
  waits _ := none
  succeeded := []

def State.abort (state : State) : State :=
  { state with
    indexing := none
    lastProcessedBlock := state.lastProcessedBlock.close }

def nextBlock (state : State) : State :=
  if state.indexing.isSome ∨ state.lastProcessedBlock.closed then state
  else match state.blocks.next state.stream with
    | .item block stream => { state with indexing := some block, stream := stream }
    | .pending => state
    -- "block stream terminated unexpectedly"
    | .ended => state.abort

/-- The update for a block ends.  The block is published only without an error. -/
def indexUntilBlock (state : State) (results : Results) : State :=
  match state.indexing with
  | none => state
  | some block => match updateInner results with
    | .error _ => { state with indexing := none }
    | .ok () =>
      { state with
        indexing := none
        lastProcessedBlock := state.lastProcessedBlock.send block
        succeeded := block :: state.succeeded }

/-! ## Waiting -/

def State.setWait (state : State) (id : Nat) (wait : Option Wait) : State :=
  { state with waits := Function.update state.waits id wait }

/-- What can happen to the maintenance. -/
inductive Event where
  /-- Another block becomes the current one. -/
  | newBlock (number : Nat)
  /-- There will be no further blocks. -/
  | blocksEnd
  | nextBlock
  | updated (results : Results)
  /-- One of the indexers panics. -/
  | panicked
  /-- `wait_until_block_processed` is called. -/
  | call (id target : Nat)
  /-- The stream of a waiting call is polled. -/
  | poll (id : Nat)
  | timeout (id : Nat)

/-- What an event changes. -/
def step (state : State) : Event → State
  | .newBlock number => { state with blocks := state.blocks.send number }
  | .blocksEnd => { state with blocks := state.blocks.close }
  | .nextBlock => nextBlock state
  | .updated results => indexUntilBlock state results
  | .panicked => if state.indexing.isSome then state.abort else state
  | .call id target =>
    if state.lastProcessedBlock.value ≥ target then state
    else state.setWait id (some ⟨target, .new⟩)
  | .poll id => match state.waits id with
    | none => state
    | some wait => match state.lastProcessedBlock.next wait.stream with
      | .item processedBlock stream =>
        if processedBlock ≥ wait.targetBlock then state.setWait id none
        else state.setWait id (some { wait with stream := stream })
      | .pending => state
      -- the caller panics as well
      | .ended => state.setWait id none
  | .timeout id => state.setWait id none

/-- The block that was waited for, when a call returns before its timeout. -/
def returned (state : State) : Event → Option Nat
  | .call _ target => if state.lastProcessedBlock.value ≥ target then some target else none
  | .poll id => match state.waits id with
    | none => none
    | some wait => match state.lastProcessedBlock.next wait.stream with
      | .item processedBlock _ =>
        if processedBlock ≥ wait.targetBlock then some wait.targetBlock else none
      | _ => none
  | _ => none

/-! ## What is published -/

/-- Only blocks whose maintenance succeeded are published. -/
def Published (initial : Nat) (state : State) : Prop :=
  state.lastProcessedBlock.value = initial ∨ state.lastProcessedBlock.value ∈ state.succeeded

variable {initial : Nat} {state : State}

section

variable (published : Published initial state)
include published

theorem Published.congr {after : State}
    (value : after.lastProcessedBlock.value = state.lastProcessedBlock.value)
    (succeeded : after.succeeded = state.succeeded) : Published initial after := by
  rw [Published, value, succeeded]
  exact published

theorem Published.nextBlock : Published initial (nextBlock state) := by
  unfold Maintenance.nextBlock
  split
  · exact published
  · split
    · exact published.congr rfl rfl
    · exact published
    · exact published.congr rfl rfl

theorem Published.indexUntilBlock
    (results : Results) : Published initial (indexUntilBlock state results) := by
  unfold Maintenance.indexUntilBlock
  split
  · exact published
  · split
    · exact published.congr rfl rfl
    · exact Or.inr List.mem_cons_self

theorem Published.step (event : Event) : Published initial (step state event) := by
  cases event with
  | newBlock number | blocksEnd => exact published.congr rfl rfl
  | nextBlock => exact published.nextBlock
  | updated results => exact published.indexUntilBlock results
  | panicked =>
    unfold Maintenance.step
    dsimp only
    split
    · exact published.congr rfl rfl
    · exact published
  | call id target =>
    unfold Maintenance.step
    dsimp only
    split
    · exact published
    · exact published.congr rfl rfl
  | poll id =>
    unfold Maintenance.step
    dsimp only
    split
    · exact published
    · split
      · split <;> exact published.congr rfl rfl
      · exact published
      · exact published.congr rfl rfl
  | timeout id => exact published.congr rfl rfl

end

theorem le_of_returned {event : Event} {target : Nat}
    (returns : returned state event = some target) : target ≤ state.lastProcessedBlock.value := by
  cases event with
  | call id block =>
    simp only [returned, Option.ite_none_right_eq_some, Option.some.injEq] at returns
    obtain ⟨reached, rfl⟩ := returns
    exact reached
  | poll id =>
    unfold returned at returns
    dsimp only at returns
    split at returns
    · cases returns
    · split at returns
      · rename_i wait _ _ processedBlock _ polled
        rw [Option.ite_none_right_eq_some, Option.some.injEq] at returns
        obtain ⟨reached, rfl⟩ := returns
        rw [← Watch.eq_of_next_eq_item polled]
        exact reached
      · cases returns
  | _ => cases returns

/-! ## The barrier -/

/-- A waiter returns once its block or a later one was processed. -/
def Awaited (target : Nat) (state : State) (event : Event) : Prop :=
  returned state event = some target → ∃ block ∈ state.succeeded, target ≤ block

/-- Waiting for a block is a barrier in every run exactly when the task was
started below this block. -/
theorem waitUntilBlockProcessed_awaits_iff (blocks : Watch Nat) (target : Nat) :
    (∀ events, Run.Along step (Awaited target) (spawnMaintenanceTask blocks) events) ↔
      blocks.value < target := by
  constructor
  · intro always
    by_contra reached
    -- the first call finds the block published that nothing has processed
    have early := (always [.call 0 target]).1
    obtain ⟨_, processed, -⟩ := early (if_pos (Nat.not_lt.mp reached))
    cases processed
  · intro _ events
    have allowed : Run.Along step (fun _ _ => True) (spawnMaintenanceTask blocks)
        events := Run.along_of_forall fun _ _ _ => trivial
    refine Run.along_of_preserved (Published blocks.value) ?_ (Or.inl rfl) allowed ?_
    · intro state event published _
      exact published.step event
    · intro state event published _ returns
      have reached := le_of_returned returns
      rcases published with _ | processed
      · omega
      · exact ⟨_, processed, reached⟩

/-- The task starts at block 10 and a call for this block returns at once. -/
theorem waitUntilBlockProcessed_returns_early :
    returned (spawnMaintenanceTask (.channel 10)) (.call 0 10) = some 10 ∧
      (spawnMaintenanceTask (.channel 10)).succeeded = [] :=
  ⟨by decide, rfl⟩

end MandateSolver.Autopilot.Maintenance
