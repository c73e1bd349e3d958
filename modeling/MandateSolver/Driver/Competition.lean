import MandateSolver.Driver.SettlementCache

/-!
# Settling solutions once

Every solver has its own cache and its own queue of settle requests.  An action is what a
solve call, a loop or a reveal does without being interrupted.
-/

namespace MandateSolver.Driver.Competition

/-! ## The process -/

/-- A request to settle a solution. -/
structure SettleRequest where
  auctionId : Int
  (solutionId submissionDeadline : Nat)

/-- The call data of a solution. -/
structure Revealed where
  (internalizedCalldata uninternalizedCalldata : List UInt8)

inductive Error where
  | solutionNotAvailable
  | deadlineExceeded
  | tooManyPendingSettlements

/-- Where the loop of a solver is. -/
inductive SettleLoop where
  | idle
  | removing (request : SettleRequest)
  | executing (settlement : Settlement)

/-- Where the solutions of the process are.  Solve calls hold solutions that
they have not stored yet, and watch the ones that they have. -/
structure Ledger (σ : Type) where
  handedOut : Nat
  solved : List (σ × Settlement)
  watched : List (σ × Nat)
  settlements : σ → List Settlement

/-- The driver with a loop for every solver. -/
structure Process (σ : Type) where
  ledger : Ledger σ
  queue : σ → List SettleRequest
  loop : σ → SettleLoop
  block : Nat

/-- The steps of the driver. -/
inductive Action (σ : Type) where
  | draw (solver : σ) (auctionId : Int) (mergedSolutions : List Nat)
      (internalized uninternalized : List UInt8)
  | store (solver : σ) (settlement : Settlement)
  | void (solver : σ) (solutionId : Nat)
  | settle (solver : σ) (request : SettleRequest)
  | receive (solver : σ)
  | remove (solver : σ)
  | finish (solver : σ)
  | reveal (solver : σ) (solutionId : Nat) (auctionId : Int)
  | newBlock (number : Nat)

def Action.isDraw {σ : Type} : Action σ → Bool
  | .draw _ _ _ _ _ => true
  | _ => false

/-- A settle request is decided once it is turned down or its settlement is
handed to the mempools.  The event says how many requests are queued at that
moment and which block is the current one. -/
inductive Event (σ : Type) where
  | settle (solver : σ) (request : SettleRequest) (pending block : Nat)
      (verdict : Except Error Settlement)
  | reveal (solver : σ) (solutionId : Nat) (auctionId : Int) (answer : Except Error Revealed)
  | void (solver : σ) (solutionId : Nat)

namespace Event

variable {σ : Type}

/-- The solution is handed to the mempools or voided. -/
def Ends (solutionId : Nat) : Event σ → Prop
  | .settle _ _ _ _ (.ok settlement) => settlement.solution.id = solutionId
  | .settle _ _ _ _ (.error _) | .reveal _ _ _ _ => False
  | .void _ voided => voided = solutionId

/-- A request for the solution. -/
def AsksFor (solutionId : Nat) : Event σ → Prop
  | .settle _ request _ _ _ => request.solutionId = solutionId
  | .reveal _ asked _ _ => asked = solutionId
  | .void _ _ => False

/-- A settle request only gets as far as being looked up when there is room in
the queue and its deadline has not passed. -/
def NotAvailable (queueSize : σ → Nat) : Event σ → Prop
  | .settle solver request pending block verdict =>
    verdict = .error .solutionNotAvailable ∨
      verdict = .error .deadlineExceeded ∧ request.submissionDeadline ≤ block ∨
      verdict = .error .tooManyPendingSettlements ∧ queueSize solver ≤ pending
  | .reveal _ _ _ answer => answer = .error .solutionNotAvailable
  | .void _ _ => True

def error : Event σ → Option Error
  | .settle _ _ _ _ (.error error) | .reveal _ _ _ (.error error) => some error
  | _ => none

/-- The event hands the solution to a mempool. -/
def submits (solutionId : Nat) : Event σ → Bool
  | .settle _ _ _ _ (.ok settlement) => settlement.solution.id = solutionId
  | _ => false

end Event

/-! ## What the actions do -/

section

variable {σ : Type} [DecidableEq σ]

namespace Ledger

section

variable (ledger : Ledger σ) (solver : σ)

/-- The counter behind the ids has 64 bits. -/
def draw (auctionId : Int)
    (mergedSolutions : List Nat) (internalized uninternalized : List UInt8) : Ledger σ :=
  { ledger with
    handedOut := ledger.handedOut + 1
    solved := (solver, ⟨auctionId, ⟨ledger.handedOut % 2 ^ 64, mergedSolutions⟩,
      internalized, uninternalized⟩) :: ledger.solved }

def setCache (cache : List Settlement) : Ledger σ :=
  { ledger with settlements := Function.update ledger.settlements solver cache }

def store (settlement : Settlement) : Ledger σ :=
  { ledger with
    solved := ledger.solved.erase (solver, settlement)
    watched := (solver, settlement.solution.id) :: ledger.watched
    settlements := Function.update ledger.settlements solver
      (SettlementCache.store settlement (ledger.settlements solver)) }

def void (solutionId : Nat) : Ledger σ :=
  { ledger with
    watched := ledger.watched.erase (solver, solutionId)
    settlements := Function.update ledger.settlements solver
      (SettlementCache.retainOthers id solutionId (ledger.settlements solver)) }

def reveal (solutionId : Nat) (auctionId : Int) : Except Error Revealed :=
  match (ledger.settlements solver).find? (SettlementCache.hasIds id auctionId solutionId) with
  | some settlement =>
    .ok ⟨settlement.internalized, settlement.uninternalized⟩
  | none => .error .solutionNotAvailable

end

end Ledger

namespace Process

/-- A driver that has just started. -/
def start : Process σ where
  ledger := ⟨0, [], [], fun _ => []⟩
  queue := fun _ => []
  loop := fun _ => .idle
  block := 0

section

variable (process : Process σ) (solver : σ)

def setLoop (loop : SettleLoop) : Process σ :=
  { process with loop := Function.update process.loop solver loop }

def setQueue (queue : List SettleRequest) : Process σ :=
  { process with queue := Function.update process.queue solver queue }

def decided (request : SettleRequest) (verdict : Except Error Settlement) : Event σ :=
  .settle solver request (process.queue solver).length process.block verdict

end

def settle (queueSize : σ → Nat) (process : Process σ) (solver : σ)
    (request : SettleRequest) : Process σ × Option (Event σ) :=
  if (process.queue solver).length < queueSize solver then
    (process.setQueue solver (process.queue solver ++ [request]), none)
  else
    (process, some (process.decided solver request (.error .tooManyPendingSettlements)))

section

variable (process : Process σ) (solver : σ)

/-- The loop takes the next request, unless its deadline has passed. -/
def receive : Process σ × Option (Event σ) :=
  match process.loop solver, process.queue solver with
  | .idle, request :: queue =>
    if request.submissionDeadline ≤ process.block then
      (process.setQueue solver queue,
        some (process.decided solver request (.error .deadlineExceeded)))
    else
      ((process.setQueue solver queue).setLoop solver (.removing request), none)
  | _, _ => (process, none)

def remove : Process σ × Option (Event σ) :=
  match process.loop solver with
  | .removing request =>
    match SettlementCache.remove id request.auctionId request.solutionId
        (process.ledger.settlements solver) with
    | some (settlement, rest) =>
      ({ process with ledger := process.ledger.setCache solver rest }.setLoop
          solver (.executing settlement),
        some (process.decided solver request (.ok settlement)))
    | none =>
      (process.setLoop solver .idle,
        some (process.decided solver request (.error .solutionNotAvailable)))
  | _ => (process, none)

def finish : Process σ :=
  match process.loop solver with
  | .executing _ => process.setLoop solver .idle
  | _ => process

end

section

variable (queueSize : σ → Nat) (process : Process σ)

/-- An action that is not possible at the moment does nothing. -/
def act : Action σ → Process σ × Option (Event σ)
  | .draw solver auctionId mergedSolutions internalized uninternalized =>
    ({ process with
        ledger := process.ledger.draw solver auctionId mergedSolutions
          internalized uninternalized }, none)
  | .store solver settlement =>
    if (solver, settlement) ∈ process.ledger.solved then
      ({ process with ledger := process.ledger.store solver settlement }, none)
    else (process, none)
  | .void solver solutionId =>
    if (solver, solutionId) ∈ process.ledger.watched then
      ({ process with ledger := process.ledger.void solver solutionId },
        some (.void solver solutionId))
    else (process, none)
  | .settle solver request => process.settle queueSize solver request
  | .receive solver => process.receive solver
  | .remove solver => process.remove solver
  | .finish solver => (process.finish solver, none)
  | .reveal solver solutionId auctionId =>
    (process, some (.reveal solver solutionId auctionId
      (process.ledger.reveal solver solutionId auctionId)))
  | .newBlock number => ({ process with block := number }, none)

/-- What an action changes. -/
def step (action : Action σ) : Process σ :=
  (process.act queueSize action).1

/-- What an action shows outside. -/
def observe (action : Action σ) : Option (Event σ) :=
  (process.act queueSize action).2

end

end Process

end

end MandateSolver.Driver.Competition
