import MandateSolver.Driver.Order
import MandateSolver.Foundation.Runs

/-!
# Submitting settlements to a mempool

Every settlement is submitted by a task of its own.  Tasks only meet in the last submissions
a mempool remembers.  Mempools share nothing, so one of them is followed here.
-/

namespace MandateSolver.Driver.Mempools

/-! ## Gas prices -/

/-- Fees per gas of a transaction. -/
structure GasPrice where
  (maxFeePerGas maxPriorityFeePerGas : Nat)
  deriving DecidableEq

def GasPrice.scaledByPct (price : GasPrice) (pct : Nat) : GasPrice where
  maxFeePerGas := price.maxFeePerGas * (100 + pct) / 100
  maxPriorityFeePerGas := price.maxPriorityFeePerGas * (100 + pct) / 100

def gasPriceBumpPct : Nat := 13

/-- A transaction as it was sent. -/
structure Submission where
  nonce : Nat
  gasPrice : GasPrice
  deriving DecidableEq

/-- A transaction in the pool of the node.  Only EIP-1559 transactions have a
priority fee. -/
structure PendingTx where
  (nonce maxFeePerGas : Nat)
  maxPriorityFeePerGas : Option Nat

/-- Transactions a node knows of. -/
structure TxPoolContent where
  (pending queued : List PendingTx)

def findPendingTxInMempool (content : TxPoolContent) (nonce : Nat) : Option PendingTx :=
  (content.pending ++ content.queued).find? (·.nonce = nonce)

/-- The pool is only asked for when nothing is remembered for the signer.  No
content means that it could not be inspected. -/
def minimumReplacementGasPrice (lastSubmission : Option Submission)
    (txPoolContent : Option TxPoolContent) (nextNonce : Nat) : Option GasPrice :=
  match lastSubmission with
  | some lastSubmission =>
    if lastSubmission.nonce = nextNonce then
      some (lastSubmission.gasPrice.scaledByPct gasPriceBumpPct)
    else none
  | none => do
    let content ← txPoolContent
    let pendingTx ← findPendingTxInMempool content nextNonce
    let maxPriorityFeePerGas ← pendingTx.maxPriorityFeePerGas
    let gasPrice : GasPrice := ⟨pendingTx.maxFeePerGas, maxPriorityFeePerGas⟩
    return gasPrice.scaledByPct gasPriceBumpPct

/-- The price of a settlement.  Only the first of the two fees is compared. -/
def settlementGasPrice (replacement : Option GasPrice) (current : GasPrice) : GasPrice :=
  match replacement with
  | some replacement =>
    if replacement.maxFeePerGas > current.maxFeePerGas then replacement
    else current
  | none => current

def cancellationGasPrice (replacement : Option GasPrice)
    (originalTxGasPrice : GasPrice) : GasPrice :=
  match replacement with
  | some replacement => replacement
  | none => originalTxGasPrice.scaledByPct gasPriceBumpPct

/-! ## Revert protection -/

inductive RevertProtection where
  | enabled
  | disabled
  deriving DecidableEq

structure Config where
  revertProtection : RevertProtection

def Config.revertsCanGetMined (config : Config) : Bool :=
  config.revertProtection = .disabled

def revertProtection (mempools : List Config) : RevertProtection :=
  if mempools.all Config.revertsCanGetMined then .disabled else .enabled

/-! ## A task -/

/-- What a node says of a transaction. -/
inductive TxStatus where
  | executed (blockNumber : Nat)
  | reverted (blockNumber : Nat)
  | pending
  deriving DecidableEq

/-- The result of a settlement. -/
structure SubmissionSuccess where
  (txHash includedInBlock submittedAtBlock : Nat)

inductive Error where
  | disabled
  | simulationRevert (submittedAtBlock revertedAtBlock : Nat)
  | revert (txId submittedAtBlock revertedAtBlock : Nat)
  | expired (txId submittedAtBlock submissionDeadline : Nat)
  | other

/-- The arguments of a call. -/
structure Request where
  solver : Address
  mayRevert : Bool
  gasLimit : U256
  submissionDeadline : Nat

/-- What was sent, and when. -/
structure Settling where
  submission : Submission
  submissionBlock : Nat

/-- What a task waits for, with everything it still needs afterwards.  When the
price is computed the last submission has been looked up already. -/
inductive Phase where
  | simulating
  | fetchingNonce
  | estimatingGas (nonce : Nat)
  | pricing (nonce submissionBlock : Nat) (current : GasPrice)
      (lastSubmission : Option Submission)
  | sending (settling : Settling)
  | waiting (settling : Settling) (txHash : Nat)
  | pricingCancellation (settling : Settling) (txHash : Nat) (error : Error)
      (lastSubmission : Option Submission)
  | cancelling (settling : Settling) (txHash : Nat) (error : Error) (cancellation : Submission)
  | confirming (settling : Settling) (txHash : Nat) (error : Error)
  | finished (result : Except Error SubmissionSuccess)
  | dropped

/-- Answers of the node, and what else can happen to a task.  A price, nonce or
status that could not be fetched is missing.  Before a settlement is simulated, the
block stream gives a block that is skipped, and the current block is read. -/
inductive Event where
  | submit (request : Request)
  | simulated (skippedBlock currentBlock : Nat) (reverts : Bool)
  | nonceFetched (nonce : Option Nat)
  | gasEstimated (currentBlock : Nat) (price : Option GasPrice)
  | inspected (txPoolContent : Option TxPoolContent)
  | answered (txHash : Option Nat)
  | block (number : Nat) (status : Option TxStatus) (reverts : Bool)
  | streamFinished
  | confirmed (status : Option TxStatus)
  | dropped

/-- A call under way. -/
structure Task where
  request : Request
  phase : Phase

namespace Task

/-- Risky settlements are kept from mempools that could mine their reverts. -/
def start (mempools : List Config) (mempool : Config) (request : Request) : Task :=
  ⟨request, if request.mayRevert ∧ revertProtection mempools = .enabled ∧
        mempool.revertsCanGetMined then .finished (.error .disabled)
    else .simulating⟩

def cancelReason (request : Request) (settling : Settling) (txHash blockNumber : Nat)
    (reverts : Bool) : Option Error :=
  if request.submissionDeadline ≤ blockNumber then
    some (.expired txHash settling.submissionBlock request.submissionDeadline)
  else if reverts then
    some (.simulationRevert settling.submissionBlock blockNumber)
  else none

/-- What a task does with an answer.  It reads the last submission of its solver
at this moment. -/
def next (task : Task) (lastSubmission : Option Submission) (event : Event) : Phase :=
  match task.phase, event with
  | .finished result, _ => .finished result
  | _, .dropped => .dropped
  | .simulating, .simulated _ currentBlock reverts =>
    if reverts then .finished (.error (.simulationRevert currentBlock currentBlock))
    else .fetchingNonce
  | .fetchingNonce, .nonceFetched none => .finished (.error .other)
  | .fetchingNonce, .nonceFetched (some nonce) => .estimatingGas nonce
  | .estimatingGas _, .gasEstimated _ none => .finished (.error .other)
  | .estimatingGas nonce, .gasEstimated submissionBlock (some current) =>
    .pricing nonce submissionBlock current lastSubmission
  | .pricing nonce submissionBlock current lastSubmission, .inspected content =>
    if task.request.gasLimit.toNat < 2 ^ 64 then
      let replacement := minimumReplacementGasPrice lastSubmission content nonce
      .sending ⟨⟨nonce, settlementGasPrice replacement current⟩, submissionBlock⟩
    else .finished (.error .other)
  | .sending _, .answered none => .finished (.error .other)
  | .sending settling, .answered (some txHash) => .waiting settling txHash
  | .waiting settling txHash, .streamFinished => .confirming settling txHash .other
  | .waiting settling txHash, .block number status reverts =>
    match status.getD .pending with
    | .executed blockNumber =>
      .finished (.ok ⟨txHash, blockNumber, settling.submissionBlock⟩)
    | .reverted blockNumber =>
      .confirming settling txHash (.revert txHash settling.submissionBlock blockNumber)
    | .pending =>
      match cancelReason task.request settling txHash number reverts with
      | some error => .pricingCancellation settling txHash error lastSubmission
      | none => .waiting settling txHash
  | .pricingCancellation settling txHash error lastSubmission, .inspected content =>
    let replacement := minimumReplacementGasPrice lastSubmission content
      settling.submission.nonce
    .cancelling settling txHash error ⟨settling.submission.nonce,
      cancellationGasPrice replacement settling.submission.gasPrice⟩
  | .cancelling settling txHash error _, .answered _ =>
    .confirming settling txHash error
  | .confirming settling txHash error, .confirmed status =>
    match status with
    | some (.executed blockNumber) =>
      .finished (.ok ⟨txHash, blockNumber, settling.submissionBlock⟩)
    | _ => .finished (.error error)
  | phase, _ => phase

end Task

def Phase.inFlight : Phase → Option Submission
  | .sending settling => some settling.submission
  | .cancelling _ _ _ cancellation => some cancellation
  | _ => none

/-! ## The mempool -/

/-- The shared state and its calls. -/
structure Mempool where
  lastSubmissions : EntryMap Address Submission
  tasks : EntryMap Nat Task

namespace Mempool

def new : Mempool :=
  ⟨⟨[], List.nodup_nil⟩, ⟨[], List.nodup_nil⟩⟩

/-- The submission the node accepts. -/
def accepted (task : Task) : Event → Option Submission
  | .answered (some _) => task.phase.inFlight
  | _ => none

/-- The submission sent to the node. -/
def submitted (task : Task) (lastSubmission : Option Submission) (event : Event) :
    Option Submission :=
  match task.phase.inFlight with
  | some _ => none
  | none => (task.next lastSubmission event).inFlight

/-- Only accepted transactions are remembered. -/
def record (mempool : Mempool) (solver : Address) : Option Submission → EntryMap Address Submission
  | some submission => mempool.lastSubmissions.insert solver submission
  | none => mempool.lastSubmissions

section

variable (mempools : List Config) (config : Config)

/-- What an answer changes. -/
def step (mempool : Mempool) (action : Nat × Event) : Mempool :=
  match mempool.tasks.get action.1 with
  | some task =>
    let solver := task.request.solver
    let phase := task.next (mempool.lastSubmissions.get solver) action.2
    { lastSubmissions := mempool.record solver (accepted task action.2)
      tasks := mempool.tasks.insert action.1 { task with phase } }
  | none =>
    match action.2 with
    | .submit request =>
      { mempool with
        tasks := mempool.tasks.insert action.1
          (Task.start mempools config request) }
    | _ => mempool

end

/-- What nodes see of a mempool. -/
inductive Traffic where
  | submitted (solver : Address) (submission : Submission)
  | accepted (solver : Address) (submission : Submission)
  deriving DecidableEq

/-- What the node sees. -/
def observe (mempool : Mempool) (action : Nat × Event) : Option Traffic :=
  match mempool.tasks.get action.1 with
  | some task =>
    let solver := task.request.solver
    match accepted task action.2 with
    | some submission => some (.accepted solver submission)
    | none =>
      (submitted task (mempool.lastSubmissions.get solver) action.2).map (.submitted solver)
  | none => none

/-- The last submission accepted from a solver. -/
def lastAccepted (solver : Address) (traffic : List Traffic) : Option Submission :=
  traffic.foldl (fun last event => match event with
      | .accepted sender submission => if sender = solver then some submission else last
      | .submitted _ _ => last)
    none

end Mempool

end MandateSolver.Driver.Mempools
