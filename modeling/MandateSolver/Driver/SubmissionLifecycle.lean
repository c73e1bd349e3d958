import MandateSolver.Driver.Mempools

/-!
# The life of one submission

A call submits at most one settlement, polls it with every block and tries to cancel it
once.  The last submission of the solver is up to the other calls, so it is arbitrary here.
-/

namespace MandateSolver.Driver.Mempools

open List

/-! ## What a call does -/

/-- A request to the node that fails, or what keeps a call from making one. -/
inductive Failure where
  | nonce
  | gasPrice
  | gasLimit
  | submission
  | blockStream

/-- What a call does and what it learns.  Heads are blocks that it reads before it submits
and does not process, other blocks are those of its loop. -/
inductive Act where
  | head (number : Nat)
  | simulation (block : Nat) (reverts : Bool)
  | failed (cause : Failure)
  | settlement (submission : Submission)
  | accepted (txHash : Nat)
  | cancellation (submission : Submission)
  | block (number : Nat)
  | status (txHash : Nat) (answer : Option TxStatus)

def settlements (trace : List Act) : List Submission :=
  trace.filterMap fun
    | .settlement submission => some submission
    | _ => none

def cancellations (trace : List Act) : List Submission :=
  trace.filterMap fun
    | .cancellation submission => some submission
    | _ => none

/-- The blocks a trace sees. -/
def blocks (trace : List Act) : List Nat :=
  trace.filterMap fun
    | .block number => some number
    | _ => none

section

variable (first second : List Act)

@[simp] theorem settlements_append :
    settlements (first ++ second) = settlements first ++ settlements second :=
  filterMap_append

@[simp] theorem cancellations_append :
    cancellations (first ++ second) = cancellations first ++ cancellations second :=
  filterMap_append

@[simp] theorem blocks_append : blocks (first ++ second) = blocks first ++ blocks second :=
  filterMap_append

end

def Phase.gives : Phase → List Act
  | .sending settling => [.settlement settling.submission]
  | .cancelling _ _ _ cancellation => [.cancellation cancellation]
  | _ => []

namespace Task

def learns (task : Task) (event : Event) : List Act :=
  match task.phase, event with
  | .simulating, .simulated skipped current reverts =>
    [.head skipped, .head current, .simulation current reverts]
  | .fetchingNonce, .nonceFetched none => [.failed .nonce]
  | .estimatingGas _, .gasEstimated _ none => [.failed .gasPrice]
  | .estimatingGas _, .gasEstimated submissionBlock (some _) => [.head submissionBlock]
  | .pricing _ _ _ _, .inspected _ =>
    if task.request.gasLimit.toNat < 2 ^ 64 then [] else [.failed .gasLimit]
  | .sending _, .answered none => [.failed .submission]
  | .sending _, .answered (some txHash) => [.accepted txHash]
  | .waiting _ _, .streamFinished => [.failed .blockStream]
  | .waiting _ txHash, .block number status reverts =>
    [.block number, .status txHash status] ++
      -- the last of the three checks is only made for a pending settlement in time
      if status.getD .pending = .pending ∧ number < task.request.submissionDeadline then
        [.simulation number reverts]
      else []
  | .confirming _ txHash _, .confirmed status => [.status txHash status]
  | _, _ => []

/-- The solver's last submission and the event. -/
abbrev Answer := Option Submission × Event

/-- The task after one answer. -/
def advance (task : Task) (answer : Answer) : Task :=
  { task with phase := task.next answer.1 answer.2 }

def acts (task : Task) (answer : Answer) : List Act :=
  task.learns answer.2 ++
    if task.phase.inFlight.isSome then [] else (task.advance answer).phase.gives

/-- The task after all answers. -/
def after (task : Task) (answers : List Answer) : Task :=
  answers.foldl advance task

/-- All acts of a task. -/
def trace : Task → List Answer → List Act
  | _, [] => []
  | task, answer :: answers => task.acts answer ++ (task.advance answer).trace answers

end Task

/-! ## Its steps -/

/-- Nothing has been sent to the mempool. -/
def Phase.Preparing : Phase → Prop
  | .simulating | .fetchingNonce | .estimatingGas _ | .pricing _ _ _ _ => True
  | _ => False

/-- Nothing is submitted and no block is processed. -/
structure Quiet (trace : List Act) : Prop where
  settlements : settlements trace = []
  cancellations : cancellations trace = []
  blocks : blocks trace = []

/-- The transaction is in a block. -/
def TxStatus.Executed : Option TxStatus → Prop
  | some (.executed _) => True
  | _ => False

/-- All an answer can make of a call, with what the call does on the way. -/
inductive Moves (request : Request) : Phase → List Act → Phase → Prop
  | stays (phase : Phase) : Moves request phase [] phase
  | drops (phase : Phase) : Moves request phase [] .dropped
  | prepares {phase later : Phase} {acts : List Act} (preparing : phase.Preparing)
      (prepared : later.Preparing) (quiet : Quiet acts) : Moves request phase acts later
  | reverts (skipped block : Nat) :
      Moves request .simulating [.head skipped, .head block, .simulation block true]
        (.finished (.error (.simulationRevert block block)))
  | fails {phase : Phase} (preparing : phase.Preparing) (cause : Failure) :
      Moves request phase [.failed cause] (.finished (.error .other))
  | sends {phase : Phase} (preparing : phase.Preparing) (settling : Settling) :
      Moves request phase [.settlement settling.submission] (.sending settling)
  | rejects (settling : Settling) :
      Moves request (.sending settling) [.failed .submission] (.finished (.error .other))
  | accepts (settling : Settling) (txHash : Nat) :
      Moves request (.sending settling) [.accepted txHash] (.waiting settling txHash)
  | ends (settling : Settling) (txHash : Nat) :
      Moves request (.waiting settling txHash) [.failed .blockStream]
        (.confirming settling txHash .other)
  | mines (settling : Settling) (txHash number blockNumber : Nat) :
      Moves request (.waiting settling txHash)
        [.block number, .status txHash (some (.executed blockNumber))]
        (.finished (.ok ⟨txHash, blockNumber, settling.submissionBlock⟩))
  | minesRevert (settling : Settling) (txHash number blockNumber : Nat) :
      Moves request (.waiting settling txHash)
        [.block number, .status txHash (some (.reverted blockNumber))]
        (.confirming settling txHash (.revert txHash settling.submissionBlock blockNumber))
  | polls (settling : Settling) (txHash number : Nat) (status : Option TxStatus)
      (early : number < request.submissionDeadline) :
      Moves request (.waiting settling txHash)
        [.block number, .status txHash status, .simulation number false] (.waiting settling txHash)
  | expires (settling : Settling) (txHash number : Nat) (status : Option TxStatus)
      (lastSubmission : Option Submission) (late : request.submissionDeadline ≤ number) :
      Moves request (.waiting settling txHash) [.block number, .status txHash status]
        (.pricingCancellation settling txHash
          (.expired txHash settling.submissionBlock request.submissionDeadline) lastSubmission)
  | startsFailing (settling : Settling) (txHash number : Nat) (status : Option TxStatus)
      (lastSubmission : Option Submission) :
      Moves request (.waiting settling txHash)
        [.block number, .status txHash status, .simulation number true]
        (.pricingCancellation settling txHash
          (.simulationRevert settling.submissionBlock number) lastSubmission)
  | cancels (settling : Settling) (txHash : Nat) (error : Error)
      (lastSubmission : Option Submission) (cancellation : Submission)
      (sameNonce : cancellation.nonce = settling.submission.nonce) :
      Moves request (.pricingCancellation settling txHash error lastSubmission)
        [.cancellation cancellation] (.cancelling settling txHash error cancellation)
  | cancelled (settling : Settling) (txHash : Nat) (error : Error) (cancellation : Submission) :
      Moves request (.cancelling settling txHash error cancellation) []
        (.confirming settling txHash error)
  | confirms (settling : Settling) (txHash : Nat) (error : Error) (blockNumber : Nat) :
      Moves request (.confirming settling txHash error)
        [.status txHash (some (.executed blockNumber))]
        (.finished (.ok ⟨txHash, blockNumber, settling.submissionBlock⟩))
  | concludes (settling : Settling) (txHash : Nat) (error : Error)
      (status : Option TxStatus) (notExecuted : ¬TxStatus.Executed status) :
      Moves request (.confirming settling txHash error) [.status txHash status]
        (.finished (.error error))

namespace Task

/-- The loop body: the status comes first, then the deadline, then the simulation. -/
theorem waiting_moves (request : Request) (lastSubmission : Option Submission)
    (settling : Settling) (txHash number : Nat) (status : Option TxStatus) (reverts : Bool) :
    Moves request (.waiting settling txHash) ((Task.mk request (.waiting settling txHash)).acts
        (lastSubmission, .block number status reverts))
      ((Task.mk request (.waiting settling txHash)).advance
        (lastSubmission, .block number status reverts)).phase := by
  obtain _ | ⟨blockNumber⟩ | ⟨blockNumber⟩ | _ := status
  case some.executed => exact Moves.mines settling txHash number blockNumber
  case some.reverted => exact Moves.minesRevert settling txHash number blockNumber
  all_goals
    by_cases late : request.submissionDeadline ≤ number
    · simp only [acts, learns, advance, next, cancelReason, if_pos late, not_lt.mpr late,
        and_false, if_false]
      exact Moves.expires settling txHash number _ lastSubmission late
    · have early := not_le.mp late
      cases reverts with
      | false =>
        simp only [acts, learns, advance, next, cancelReason, if_neg late, early]
        exact Moves.polls settling txHash number _ early
      | true =>
        simp only [acts, learns, advance, next, cancelReason, if_neg late, early]
        exact Moves.startsFailing settling txHash number _ lastSubmission

theorem moves (task : Task) (answer : Answer) :
    Moves task.request task.phase (task.acts answer) (task.advance answer).phase := by
  obtain ⟨request, phase⟩ := task
  obtain ⟨lastSubmission, event⟩ := answer
  cases phase <;> cases event
  case simulating.simulated skipped block reverts =>
    cases reverts with
    | true => exact Moves.reverts skipped block
    | false => exact Moves.prepares trivial trivial ⟨rfl, rfl, rfl⟩
  case fetchingNonce.nonceFetched nonce =>
    cases nonce with
    | none =>
      refine Moves.fails ?_ .nonce
      trivial
    | some nonce => exact Moves.prepares trivial trivial ⟨rfl, rfl, rfl⟩
  case estimatingGas.gasEstimated nonce submissionBlock price =>
    cases price with
    | none =>
      refine Moves.fails ?_ .gasPrice
      trivial
    | some current => exact Moves.prepares trivial trivial ⟨rfl, rfl, rfl⟩
  case pricing.inspected =>
    by_cases fits : request.gasLimit.toNat < 2 ^ 64
    · simp only [acts, learns, advance, next, if_pos fits]
      refine Moves.sends ?_ _
      trivial
    · simp only [acts, learns, advance, next, if_neg fits]
      refine Moves.fails ?_ .gasLimit
      trivial
  case sending.answered settling txHash =>
    cases txHash with
    | none => exact Moves.rejects settling
    | some txHash => exact Moves.accepts settling txHash
  case waiting.block settling txHash number status reverts =>
    exact waiting_moves request lastSubmission settling txHash number status reverts
  case waiting.streamFinished settling txHash => exact Moves.ends settling txHash
  case pricingCancellation.inspected settling txHash error last content =>
    exact Moves.cancels settling txHash error last _ rfl
  case cancelling.answered settling _ error cancellation txHash =>
    exact Moves.cancelled settling _ error cancellation
  case confirming.confirmed settling txHash error status =>
    obtain _ | ⟨blockNumber⟩ | ⟨blockNumber⟩ | _ := status
    case some.executed => exact Moves.confirms settling txHash error blockNumber
    all_goals exact Moves.concludes settling txHash error _ id
  -- what a call does not wait for changes nothing, unless the call is dropped
  all_goals first | exact Moves.stays _ | exact Moves.drops _

end Task

/-! ## What holds of a call -/

/-- A settlement was submitted and cancelled once, and the last status of the settlement
is not that it was executed. -/
def CancelledOnce (trace : List Act) : Prop :=
  ∃ before settlement cancellation txHash status,
    trace = before ++ [.status txHash status] ∧ settlements before = [settlement] ∧
    cancellations before = [cancellation] ∧ cancellation.nonce = settlement.nonce ∧
    ¬TxStatus.Executed status

/-- The call has cancelled its settlement before it returns the error. -/
def Error.GivesUp (trace : List Act) : Error → Prop
  | .expired _ _ _ => True
  | .simulationRevert _ _ => settlements trace ≠ []
  | _ => False

variable {mempools : List Config} {config : Config} {task : Task}

section

variable (mempools) (config) (request : Request) (trace : List Act)

/-- What a call has seen when it returns the error. -/
def Error.SeenIn : Error → Prop
  | .disabled => request.mayRevert ∧ revertProtection mempools = .enabled ∧
      config.revertsCanGetMined
  | .simulationRevert _ block => Act.simulation block true ∈ trace
  | .revert txHash _ block => Act.status txHash (some (.reverted block)) ∈ trace
  | .expired txHash _ deadline => Act.accepted txHash ∈ trace ∧
      deadline = request.submissionDeadline ∧ ∃ number ∈ blocks trace, deadline ≤ number
  | .other => ∃ cause, Act.failed cause ∈ trace

/-- What holds of a call at any time, with what it has done so far.  Only the last block
that it processes can be at the deadline or after it. -/
structure Lifecycle (phase : Phase) : Prop where
  once : (settlements trace).length ≤ 1
  prompt : ∀ number ∈ (blocks trace).dropLast, number < request.submissionDeadline
  executed : ∀ success, phase = .finished (.ok success) → Act.accepted success.txHash ∈ trace ∧
      Act.status success.txHash (some (.executed success.includedInBlock)) ∈ trace
  seen : ∀ error, phase = .finished (.error error) → error.SeenIn mempools config request trace
  cancelled : ∀ error, phase = .finished (.error error) → error.GivesUp trace → CancelledOnce trace

/-- The settlement of the call is in the mempool. -/
structure Sent (settling : Settling) (txHash : Nat) : Prop where
  settlement : settlements trace = [settling.submission]
  accepted : Act.accepted txHash ∈ trace
  prompt : ∀ number ∈ (blocks trace).dropLast, number < request.submissionDeadline

/-- What a call has done by the time it is in a phase. -/
def Journal : Phase → Prop
  | .sending settling => settlements trace = [settling.submission] ∧
      cancellations trace = [] ∧ blocks trace = []
  | .waiting settling txHash =>
    Sent request trace settling txHash ∧ cancellations trace = [] ∧
      ∀ number ∈ blocks trace, number < request.submissionDeadline
  | .pricingCancellation settling txHash error _ =>
    Sent request trace settling txHash ∧ cancellations trace = [] ∧
      error.SeenIn mempools config request trace
  | .cancelling settling txHash error cancellation =>
    Sent request trace settling txHash ∧ cancellations trace = [cancellation] ∧
      cancellation.nonce = settling.submission.nonce ∧
      error.SeenIn mempools config request trace
  | .confirming settling txHash error =>
    Sent request trace settling txHash ∧
      (error.GivesUp trace → ∃ cancellation, cancellations trace = [cancellation] ∧
        cancellation.nonce = settling.submission.nonce) ∧
      error.SeenIn mempools config request trace
  | .finished result => Lifecycle mempools config request trace (.finished result)
  | .dropped => Lifecycle mempools config request trace .dropped
  | _ => Quiet trace

end

section

variable {request : Request} {trace acts : List Act} {phase : Phase} {settling : Settling}
  {txHash : Nat} {error : Error}

theorem Lifecycle.of_unfinished (once : (settlements trace).length ≤ 1)
    (prompt : ∀ number ∈ (blocks trace).dropLast, number < request.submissionDeadline)
    (unfinished : ∀ result, phase ≠ .finished result) :
    Lifecycle mempools config request trace phase where
  once := once
  prompt := prompt
  executed := fun _ finished => absurd finished (unfinished _)
  seen := fun _ finished => absurd finished (unfinished _)
  cancelled := fun _ finished => absurd finished (unfinished _)

theorem Sent.once (sent : Sent request trace settling txHash) : (settlements trace).length ≤ 1 := by
  rw [sent.settlement]
  exact le_refl 1

section

variable (quiet : Quiet trace)
include quiet

theorem Quiet.once : (Mempools.settlements trace).length ≤ 1 := by
  simp [quiet.settlements]

theorem Quiet.prompt :
    ∀ number ∈ (Mempools.blocks trace).dropLast, number < request.submissionDeadline := by
  simp [quiet.blocks]

theorem Quiet.append (also : Quiet acts) : Quiet (trace ++ acts) where
  settlements := by rw [settlements_append, quiet.settlements, also.settlements, append_nil]
  cancellations := by rw [cancellations_append, quiet.cancellations, also.cancellations, append_nil]
  blocks := by rw [blocks_append, quiet.blocks, also.blocks, append_nil]

end

theorem Journal.of_preparing (preparing : phase.Preparing) :
    Journal mempools config request trace phase ↔ Quiet trace := by
  cases phase <;> first | exact Iff.rfl | cases preparing

theorem Journal.lifecycle (journal : Journal mempools config request trace phase) :
    Lifecycle mempools config request trace phase := by
  cases phase with
  | simulating | fetchingNonce | estimatingGas | pricing =>
    exact .of_unfinished journal.once journal.prompt (by simp)
  | sending settling =>
    obtain ⟨settlement, -, noBlock⟩ := journal
    exact .of_unfinished (by simp [settlement]) (by simp [noBlock]) (by simp)
  | waiting | pricingCancellation | cancelling | confirming =>
    exact .of_unfinished journal.1.once journal.1.prompt (by simp)
  | finished | dropped => exact journal

section

variable (sent : Sent request trace settling txHash)
include sent

theorem Sent.append (noSettlement : settlements acts = []) (noBlock : blocks acts = []) :
    Sent request (trace ++ acts) settling txHash where
  settlement := by rw [settlements_append, noSettlement, List.append_nil, sent.settlement]
  accepted := List.mem_append_left acts sent.accepted
  prompt := by
    rw [blocks_append, noBlock, append_nil]
    exact sent.prompt

theorem Sent.poll (early : ∀ number ∈ blocks trace, number < request.submissionDeadline)
    {number : Nat} (noSettlement : settlements acts = []) (polled : blocks acts = [number]) :
    Sent request (trace ++ acts) settling txHash where
  settlement := by rw [settlements_append, noSettlement, append_nil, sent.settlement]
  accepted := mem_append_left _ sent.accepted
  prompt := by
    rw [blocks_append, polled, dropLast_concat]
    exact early

theorem Sent.givesUp {later : List Act} (givesUp : error.GivesUp later) : error.GivesUp trace := by
  cases error with
  | expired => trivial
  | simulationRevert =>
    change settlements trace ≠ []
    rw [sent.settlement]
    exact cons_ne_nil _ _
  | disabled | revert | other => cases givesUp

theorem Sent.executed (blockNumber : Nat)
    (asked : Act.status txHash (some (.executed blockNumber)) ∈ trace) :
    Lifecycle mempools config request trace
      (.finished (.ok ⟨txHash, blockNumber, settling.submissionBlock⟩)) where
  once := sent.once
  prompt := sent.prompt
  executed := by
    intro _ finished
    cases finished
    exact ⟨sent.accepted, asked⟩
  seen := fun _ finished => by cases finished
  cancelled := fun _ finished => by cases finished

end

theorem Lifecycle.of_error (once : (settlements trace).length ≤ 1)
    (prompt : ∀ number ∈ (blocks trace).dropLast, number < request.submissionDeadline)
    (seen : error.SeenIn mempools config request trace)
    (cancelled : error.GivesUp trace → CancelledOnce trace) :
    Lifecycle mempools config request trace (.finished (.error error)) where
  once := once
  prompt := prompt
  executed := fun _ finished => by cases finished
  seen := by
    intro returned finished
    cases finished
    exact seen
  cancelled := by
    intro returned finished
    cases finished
    exact cancelled

theorem Error.SeenIn.append (seen : error.SeenIn mempools config request trace)
    (acts : List Act) : error.SeenIn mempools config request (trace ++ acts) := by
  cases error with
  | disabled => exact seen
  | simulationRevert | revert => exact mem_append_left acts seen
  | expired =>
    obtain ⟨accepted, same, number, listed, late⟩ := seen
    refine ⟨mem_append_left acts accepted, same, number, ?_, late⟩
    rw [blocks_append]
    exact mem_append_left _ listed
  | other =>
    obtain ⟨cause, failed⟩ := seen
    exact ⟨cause, mem_append_left acts failed⟩

theorem Journal.moves {later : Phase} (journal : Journal mempools config request trace phase)
    (step : Moves request phase acts later) :
    Journal mempools config request (trace ++ acts) later := by
  cases step with
  | stays =>
    rw [append_nil]
    exact journal
  | drops =>
    rw [append_nil]
    exact .of_unfinished journal.lifecycle.once journal.lifecycle.prompt (by simp)
  | prepares preparing prepared also =>
    rw [Journal.of_preparing prepared]
    exact ((Journal.of_preparing preparing).mp journal).append also
  | reverts skipped block =>
    have quiet : Quiet (trace ++ [.head skipped, .head block, .simulation block true]) :=
      Quiet.append journal ⟨rfl, rfl, rfl⟩
    refine .of_error quiet.once quiet.prompt (mem_append_right _ (by simp)) ?_
    intro givesUp
    exact absurd quiet.settlements givesUp
  | fails preparing cause =>
    have quiet : Quiet (trace ++ [.failed cause]) :=
      ((Journal.of_preparing preparing).mp journal).append ⟨rfl, rfl, rfl⟩
    exact .of_error quiet.once quiet.prompt ⟨cause, by simp⟩ (fun givesUp => by cases givesUp)
  | sends preparing settling =>
    have quiet := (Journal.of_preparing preparing).mp journal
    refine ⟨?_, ?_, ?_⟩
    · rw [settlements_append, quiet.settlements]
      rfl
    · rw [cancellations_append, quiet.cancellations]
      rfl
    · rw [blocks_append, quiet.blocks]
      rfl
  | rejects settling =>
    obtain ⟨settlement, -, noBlock⟩ := journal
    refine .of_error ?_ ?_ ⟨.submission, by simp⟩ (fun givesUp => by cases givesUp)
    · rw [settlements_append, settlement]
      exact le_refl 1
    · rw [blocks_append, noBlock]
      exact fun number listed => absurd listed not_mem_nil
  | accepts settling txHash =>
    obtain ⟨settlement, noCancellation, noBlock⟩ := journal
    have stillNone : blocks (trace ++ [.accepted txHash]) = [] := by
      rw [blocks_append, noBlock]
      rfl
    refine ⟨⟨?_, by simp, by simp [stillNone]⟩, ?_, by simp [stillNone]⟩
    · rw [settlements_append, settlement]
      rfl
    · rw [cancellations_append, noCancellation]
      rfl
  | ends settling txHash =>
    obtain ⟨sent, -, -⟩ := journal
    refine ⟨sent.append rfl rfl, ?_, .blockStream, by simp⟩
    intro givesUp
    cases givesUp
  | mines settling txHash number blockNumber =>
    obtain ⟨sent, -, early⟩ := journal
    exact (sent.poll early rfl rfl).executed blockNumber (by simp)
  | minesRevert settling txHash number blockNumber =>
    obtain ⟨sent, -, early⟩ := journal
    refine ⟨sent.poll early rfl rfl, ?_, mem_append_right _ (by simp)⟩
    intro givesUp
    cases givesUp
  | polls settling txHash number status before =>
    obtain ⟨sent, noCancellation, early⟩ := journal
    refine ⟨sent.poll early rfl rfl, ?_, ?_⟩
    · rw [cancellations_append, noCancellation]
      rfl
    · intro seen listed
      rw [blocks_append, mem_append] at listed
      obtain earlier | isNumber := listed
      · exact early seen earlier
      · cases mem_singleton.mp isNumber
        exact before
  | expires settling txHash number status lastSubmission late =>
    obtain ⟨sent, noCancellation, early⟩ := journal
    refine ⟨sent.poll early rfl rfl, ?_, mem_append_left _ sent.accepted, rfl, number, ?_, late⟩
    · rw [cancellations_append, noCancellation]
      rfl
    · rw [blocks_append]
      exact mem_append_right _ mem_cons_self
  | startsFailing settling txHash number status lastSubmission =>
    obtain ⟨sent, noCancellation, early⟩ := journal
    refine ⟨sent.poll early rfl rfl, ?_, mem_append_right _ (by simp)⟩
    rw [cancellations_append, noCancellation]
    rfl
  | cancels settling txHash error lastSubmission cancellation sameNonce =>
    obtain ⟨sent, noCancellation, seen⟩ := journal
    refine ⟨sent.append rfl rfl, ?_, sameNonce, seen.append _⟩
    rw [cancellations_append, noCancellation]
    rfl
  | cancelled settling txHash error cancellation =>
    obtain ⟨sent, once, sameNonce, seen⟩ := journal
    rw [append_nil]
    exact ⟨sent, fun _ => ⟨cancellation, once, sameNonce⟩, seen⟩
  | confirms settling txHash error blockNumber =>
    obtain ⟨sent, -, -⟩ := journal
    exact (sent.append rfl rfl).executed blockNumber (by simp)
  | concludes settling txHash error status notExecuted =>
    obtain ⟨sent, cancelled, seen⟩ := journal
    have asked : Sent request (trace ++ [.status txHash status]) settling txHash :=
      sent.append rfl rfl
    refine .of_error asked.once asked.prompt (seen.append _) ?_
    intro givesUp
    obtain ⟨cancellation, once, sameNonce⟩ := cancelled (sent.givesUp givesUp)
    exact ⟨trace, settling.submission, cancellation, txHash, status, rfl,
      sent.settlement, once, sameNonce, notExecuted⟩

end

namespace Task

@[simp] theorem request_after (task : Task) (answers : List Answer) :
    (task.after answers).request = task.request := by
  induction answers generalizing task with
  | nil => rfl
  | cons answer answers ih => exact ih (task.advance answer)

theorem journal_after {mempools : List Config} {config : Config} {task : Task}
    {before : List Act} (answers : List Answer)
    (journal : Journal mempools config task.request before task.phase) :
    Journal mempools config task.request (before ++ task.trace answers)
      (task.after answers).phase := by
  induction answers generalizing task before with
  | nil =>
    rw [trace, append_nil]
    exact journal
  | cons answer answers ih =>
    rw [trace, ← append_assoc]
    have moved := journal.moves (task.moves answer)
    exact ih moved

theorem journal_start (mempools : List Config) (config : Config) (request : Request) :
    Journal mempools config request [] (start mempools config request).phase := by
  rw [start]
  split
  · rename_i withheld
    exact .of_error (Nat.zero_le 1) (by simp [blocks]) withheld (fun givesUp => by cases givesUp)
  · exact ⟨rfl, rfl, rfl⟩

/-! ## When a call returns -/

/-- The events that a call in a phase waits for. -/
def Awaits : Phase → Event → Prop
  | .simulating, .simulated _ _ _ | .fetchingNonce, .nonceFetched _
  | .estimatingGas _, .gasEstimated _ _ | .pricing _ _ _ _, .inspected _
  | .sending _, .answered _ | .waiting _ _, .block _ _ _ | .waiting _ _, .streamFinished
  | .pricingCancellation _ _ _ _, .inspected _ | .cancelling _ _ _ _, .answered _
  | .confirming _ _ _, .confirmed _ => True
  | _, _ => False

/-- The call has ended. -/
def Returned : Phase → Prop
  | .finished _ => True
  | _ => False

/-- The call has returned, or is in its loop and waits for the next block. -/
def Polling : Phase → Prop
  | .finished _ | .waiting _ _ => True
  | _ => False

/-- The call comes to the goal with so many of the answers that it waits for, whatever
they are, and needs no block for that. -/
def ComesTo (goal : Phase → Prop) : Nat → Task → Prop
  | 0, task => goal task.phase
  | count + 1, task =>
    goal task.phase ∨ (∃ event, Awaits task.phase event) ∧
      (∀ number status reverts, ¬Awaits task.phase (.block number status reverts)) ∧
      ∀ lastSubmission event, Awaits task.phase event →
        ComesTo goal count (task.advance (lastSubmission, event))

/-- How many answers a call needs until it returns or waits for a block. -/
def needs : Phase → Nat
  | .simulating => 5
  | .fetchingNonce => 4
  | .estimatingGas _ | .pricingCancellation _ _ _ _ => 3
  | .pricing _ _ _ _ | .cancelling _ _ _ _ => 2
  | .sending _ | .confirming _ _ _ => 1
  | .waiting _ _ | .finished _ | .dropped => 0

/-- The call has left its loop for good. -/
def Closing : Phase → Prop
  | .pricingCancellation _ _ _ _ | .cancelling _ _ _ _ | .confirming _ _ _ | .finished _ => True
  | _ => False

theorem needs_le (phase : Phase) : needs phase ≤ 5 := by
  cases phase <;> simp [needs]

section

variable {event : Event} {count : Nat}

/-- Outside its loop an awaited answer brings a call nearer to its end. -/
theorem needs_advance (awaited : Awaits task.phase event) (outside : ¬Polling task.phase)
    (lastSubmission : Option Submission) :
    let later := (task.advance (lastSubmission, event)).phase
    later ≠ .dropped ∧ needs later < needs task.phase ∧ (Closing task.phase → Closing later) := by
  obtain ⟨request, phase⟩ := task
  dsimp only at awaited outside ⊢
  unfold Awaits at awaited
  split at awaited
  case h_6 | h_7 => exact absurd trivial outside
  case h_11 => cases awaited
  case h_2 answer | h_3 answer | h_5 answer =>
    cases answer <;> simp [advance, next, needs, Closing]
  all_goals
    simp only [advance, next]
    repeat' split
    all_goals simp [needs, Closing]

theorem awaits_outside (undropped : task.phase ≠ .dropped) (outside : ¬Polling task.phase) :
    (∃ event, Awaits task.phase event) ∧
      ∀ number status reverts, ¬Awaits task.phase (.block number status reverts) := by
  cases phase : task.phase with
  | waiting | finished => simp [phase, Polling] at outside
  | dropped => exact absurd phase undropped
  | simulating => exact ⟨⟨.simulated 0 0 false, trivial⟩, fun _ _ _ => id⟩
  | fetchingNonce => exact ⟨⟨.nonceFetched none, trivial⟩, fun _ _ _ => id⟩
  | estimatingGas => exact ⟨⟨.gasEstimated 0 none, trivial⟩, fun _ _ _ => id⟩
  | pricing | pricingCancellation => exact ⟨⟨.inspected none, trivial⟩, fun _ _ _ => id⟩
  | sending | cancelling => exact ⟨⟨.answered none, trivial⟩, fun _ _ _ => id⟩
  | confirming => exact ⟨⟨.confirmed none, trivial⟩, fun _ _ _ => id⟩

/-- A call that is not dropped never gets stuck: it returns, or comes back to its loop. -/
theorem comesTo_polling (undropped : task.phase ≠ .dropped) (enough : needs task.phase ≤ count) :
    ComesTo Polling count task := by
  induction count generalizing task with
  | zero =>
    cases phase : task.phase
    all_goals simp_all [ComesTo, Polling, needs]
  | succ count ih =>
    by_cases polling : Polling task.phase
    · exact .inl polling
    obtain ⟨awaits, noBlock⟩ := awaits_outside undropped polling
    refine .inr ⟨awaits, noBlock, fun lastSubmission event awaited => ?_⟩
    obtain ⟨goesOn, nearer, -⟩ := needs_advance awaited polling lastSubmission
    exact ih goesOn (by omega)

theorem returned_of_closing {phase : Phase} (polling : Polling phase) (closing : Closing phase) :
    Returned phase := by
  cases phase with
  | finished => trivial
  | waiting => exact closing
  | _ => exact polling

/-- A call that has left its loop does not come back to it. -/
theorem ComesTo.returned (comes : ComesTo Polling count task) (closing : Closing task.phase) :
    ComesTo Returned count task := by
  induction count generalizing task with
  | zero => exact returned_of_closing comes closing
  | succ count ih =>
    by_cases polling : Polling task.phase
    · exact .inl (returned_of_closing polling closing)
    obtain ⟨awaits, noBlock, onward⟩ := comes.resolve_left polling
    refine .inr ⟨awaits, noBlock, fun lastSubmission event awaited => ?_⟩
    have stays := (needs_advance awaited polling lastSubmission).2.2 closing
    exact ih (onward lastSubmission event awaited) stays

end

/-- With a block at the deadline the loop is left. -/
theorem deadline_returns {request : Request} {number : Nat}
    (late : request.submissionDeadline ≤ number) (settling : Settling) (txHash : Nat)
    (lastSubmission : Option Submission) (status : Option TxStatus) (reverts : Bool) :
    ComesTo Returned 3 ((Task.mk request (.waiting settling txHash)).advance
      (lastSubmission, .block number status reverts)) := by
  apply (comesTo_polling _ _).returned
  all_goals obtain _ | ⟨blockNumber⟩ | ⟨blockNumber⟩ | _ := status
  all_goals simp [advance, next, cancelReason, late, needs, Closing]

/-- Whatever is answered to a call, in whatever order and for as long as it takes: it
submits one settlement at most, it only succeeds with an executed settlement, it cancels
what it gives up, and it processes no block after one at the deadline.  Until it is dropped,
five of the answers that it waits for bring it to its end or back to its loop, and after a
block at the deadline three bring it to its end. -/
theorem submit_lifecycle (mempools : List Config) (config : Config) (request : Request)
    (answers : List Answer) :
    Lifecycle mempools config request ((start mempools config request).trace answers)
        ((start mempools config request).after answers).phase ∧
      (((start mempools config request).after answers).phase ≠ .dropped →
        ComesTo Polling 5 ((start mempools config request).after answers)) ∧
      ∀ settling txHash,
        ((start mempools config request).after answers).phase = .waiting settling txHash →
        ∀ number, request.submissionDeadline ≤ number →
        ∀ lastSubmission status reverts,
          ComesTo Returned 3 (((start mempools config request).after answers).advance
            (lastSubmission, .block number status reverts)) := by
  refine ⟨?_, fun undropped => comesTo_polling undropped (needs_le _), ?_⟩
  · have journal := journal_after answers (journal_start mempools config request)
    exact journal.lifecycle
  · intro settling txHash waits number late lastSubmission status reverts
    have sameRequest : ((start mempools config request).after answers).request = request :=
      request_after _ answers
    generalize (start mempools config request).after answers = task at waits sameRequest ⊢
    obtain ⟨_, phase⟩ := task
    cases waits
    cases sameRequest
    exact deadline_returns late settling txHash lastSubmission status reverts

/-- The settlement stays pending until the deadline. -/
theorem submit_lifecycle_expired :
    let call := start [] ⟨.disabled⟩ ⟨7, false, 21000, 12⟩
    let answers : List Answer := [(none, .simulated 8 9 false), (none, .nonceFetched (some 3)),
      (none, .gasEstimated 10 (some ⟨100, 2⟩)), (none, .inspected none),
      (none, .answered (some 77)), (none, .block 11 (some .pending) false),
      (none, .block 12 none false), (none, .inspected none), (none, .answered none),
      (none, .confirmed none)]
    (call.after answers).phase = .finished (.error (.expired 77 10 12)) ∧
      CancelledOnce (call.trace answers) ∧
      ComesTo Polling 5 (call.after (answers.take 5)) := by
  intro call answers
  obtain ⟨lifecycle, -⟩ := submit_lifecycle [] ⟨.disabled⟩ ⟨7, false, 21000, 12⟩ answers
  obtain ⟨-, comes, -⟩ :=
    submit_lifecycle [] ⟨.disabled⟩ ⟨7, false, 21000, 12⟩ (answers.take 5)
  exact ⟨rfl, lifecycle.cancelled (.expired 77 10 12) rfl trivial, comes nofun⟩

end Task

namespace Mempool

variable {mempool : Mempool} {id : Nat}

end Mempool

end MandateSolver.Driver.Mempools
