import MandateSolver.Driver.Mempools

/-!
# Replacing pending transactions

A node replaces a transaction only by one that raises both fees by an eighth.  A settlement
takes the current gas price as soon as its first fee is high enough.
-/

namespace MandateSolver.Driver.Mempools

/-! ## Outbidding -/

/-- Both fees are raised by an eighth at least. -/
def GasPrice.Outbids (price pending : GasPrice) : Prop :=
  (1.125 : ℚ) * pending.maxFeePerGas ≤ price.maxFeePerGas ∧
    (1.125 : ℚ) * pending.maxPriorityFeePerGas ≤ price.maxPriorityFeePerGas

instance (price pending : GasPrice) : Decidable (price.Outbids pending) :=
  inferInstanceAs (Decidable (_ ∧ _))

/-- What nodes ask of a replacement: an eighth more. -/
def RaisesEnough (fee : Nat) : Prop :=
  9 * fee ≤ 8 * (fee * 113 / 100)

instance (fee : Nat) : Decidable (RaisesEnough fee) :=
  inferInstanceAs (Decidable (_ ≤ _))

namespace GasPrice

/-- The computed replacement is accepted by the nodes. -/
def Raisable (pending : GasPrice) : Prop :=
  RaisesEnough pending.maxFeePerGas ∧ RaisesEnough pending.maxPriorityFeePerGas

instance (pending : GasPrice) : Decidable pending.Raisable :=
  inferInstanceAs (Decidable (_ ∧ _))

/-- The current price is low, so that the raised price of the pending transaction
is used, or it is high in both fees. -/
def Follows (current pending : GasPrice) : Prop :=
  if current.maxFeePerGas < (pending.scaledByPct gasPriceBumpPct).maxFeePerGas then
    pending.Raisable
  else current.Outbids pending

instance (current pending : GasPrice) : Decidable (current.Follows pending) :=
  inferInstanceAs (Decidable
    (if current.maxFeePerGas < _ then pending.Raisable else current.Outbids pending))

theorem eighth_le_iff {fee raised : Nat} : (1.125 : ℚ) * fee ≤ raised ↔ 9 * fee ≤ 8 * raised := by
  rw [← Nat.cast_le (α := ℚ)]
  push_cast
  constructor
  · intro less
    linarith
  · intro less
    linarith

theorem scaledByPct_outbids_iff {pending : GasPrice} :
    (pending.scaledByPct gasPriceBumpPct).Outbids pending ↔ pending.Raisable := by
  simp only [Outbids, eighth_le_iff]
  exact Iff.rfl

end GasPrice

section

variable {last : Submission} {content : Option TxPoolContent} {current : GasPrice}

/-- The price of a settlement replaces the last submission exactly if the current
price follows it. -/
theorem settlementGasPrice_outbids_iff :
    (settlementGasPrice (minimumReplacementGasPrice (some last) content last.nonce)
      current).Outbids last.gasPrice ↔ current.Follows last.gasPrice := by
  rw [minimumReplacementGasPrice, if_pos rfl, settlementGasPrice, GasPrice.Follows]
  by_cases low : current.maxFeePerGas < (last.gasPrice.scaledByPct gasPriceBumpPct).maxFeePerGas
  · rw [if_pos low, if_pos low]
    exact GasPrice.scaledByPct_outbids_iff
  · rw [if_neg low, if_neg low]

theorem cancellationGasPrice_outbids_iff :
    (cancellationGasPrice (minimumReplacementGasPrice (some last) content last.nonce)
      current).Outbids last.gasPrice ↔ last.gasPrice.Raisable := by
  rw [minimumReplacementGasPrice, if_pos rfl]
  exact GasPrice.scaledByPct_outbids_iff

end

/-! ## Runs without surprises -/

/-- The task has looked up the last submission, and the node has not answered to
what it makes of it. -/
def Phase.bidding : Phase → Bool
  | .pricing _ _ _ _ | .sending _ | .pricingCancellation _ _ _ _
  | .cancelling _ _ _ _ => true
  | _ => false

/-- The two points where a task looks up the last submission: with which nonce
it goes on, and what it needs of a pending transaction with that nonce. -/
def Task.looksUp (task : Task) (event : Event) : Option (Nat × (GasPrice → Bool)) :=
  match task.phase, event with
  | .estimatingGas nonce, .gasEstimated _ (some current) =>
    some (nonce, fun pending => current.Follows pending)
  | .waiting settling txHash, .block number status reverts =>
    if status.getD .pending = .pending ∧
        Task.cancelReason task.request settling txHash number reverts ≠ none then
      some (settling.submission.nonce, fun pending => pending.Raisable)
    else none
  | _, _ => none

def meets (last : Option Submission) (nonce : Nat) (condition : GasPrice → Bool) : Bool :=
  match last with
  | some last => last.nonce ≠ nonce || condition last.gasPrice
  | none => true

namespace Mempool

def quiet (mempool : Mempool) (id : Nat) (solver : Address) : Bool :=
  mempool.tasks.entries.all fun entry =>
    entry.1 = id || entry.2.request.solver ≠ solver || !entry.2.phase.bidding

/-- A task looks up the last submission only while no other one is about to
replace it, and what it finds can be outbid. -/
def careful (mempool : Mempool) (action : Nat × Event) : Bool :=
  match mempool.tasks.get action.1 with
  | none => true
  | some task =>
    match task.looksUp action.2 with
    | none => true
    | some (nonce, condition) =>
      mempool.quiet action.1 task.request.solver &&
        meets (mempool.lastSubmissions.get task.request.solver) nonce condition

end Mempool

/-! ## One step of a task -/

/-- The prices of a phase are those of the last submission. -/
def Phase.Priced (last : Option Submission) : Phase → Prop
  | .pricing nonce _ current seen =>
    seen = last ∧ meets last nonce fun pending => current.Follows pending
  | .pricingCancellation settling _ _ seen =>
    seen = last ∧ meets last settling.submission.nonce fun pending => pending.Raisable
  | _ => True

section

variable {task : Task} {last : Option Submission} {event : Event} {submission pending : Submission}
  {phase : Phase}

theorem priced_of_not_bidding (silent : phase.bidding = false) : phase.Priced last := by
  cases phase <;> trivial

theorem bidding_of_inFlight (sent : phase.inFlight = some submission) : phase.bidding = true := by
  cases phase <;> trivial

theorem bidding_of_next (noLookup : task.looksUp event = none)
    (bids : (task.next last event).bidding = true) : task.phase.bidding = true := by
  revert bids
  fun_cases Task.next task last event
  all_goals simp_all [Phase.bidding, Task.looksUp]

theorem priced_next (careful : ∀ nonce condition, task.looksUp event = some (nonce, condition) →
      meets last nonce condition = true)
    (priced : task.phase.Priced last) : (task.next last event).Priced last := by
  fun_cases Task.next task last event
  all_goals simp_all [Phase.Priced, Task.looksUp]

theorem submitted_cases (sends : Mempool.submitted task last event = some submission) :
    (∃ block current seen content, task.phase = .pricing submission.nonce block current seen ∧
      submission.gasPrice = settlementGasPrice
        (minimumReplacementGasPrice seen content submission.nonce) current) ∨
    ∃ settling txHash error seen content,
      task.phase = .pricingCancellation settling txHash error seen ∧
      submission.nonce = settling.submission.nonce ∧
      submission.gasPrice = cancellationGasPrice
        (minimumReplacementGasPrice seen content submission.nonce)
        settling.submission.gasPrice := by
  unfold Mempool.submitted at sends
  split at sends
  · cases sends
  · revert sends
    fun_cases Task.next task last event
    all_goals simp_all [Phase.inFlight]
    -- only the two cases that compute a price are left
    all_goals
      rintro rfl
      exact ⟨rfl, _, rfl⟩

theorem submitted_outbids (priced : task.phase.Priced (some pending))
    (sends : Mempool.submitted task (some pending) event = some submission)
    (sameNonce : pending.nonce = submission.nonce) :
    submission.gasPrice.Outbids pending.gasPrice := by
  rcases submitted_cases sends with
    ⟨_, current, seen, content, phase, price⟩ |
    ⟨settling, _, _, seen, content, phase, nonce, price⟩
  · rw [phase] at priced
    obtain ⟨rfl, follows⟩ := priced
    rw [price, ← sameNonce, settlementGasPrice_outbids_iff]
    simpa [meets, sameNonce] using follows
  · rw [phase] at priced
    obtain ⟨rfl, raisable⟩ := priced
    rw [price, ← sameNonce, cancellationGasPrice_outbids_iff]
    simpa [meets, sameNonce, nonce] using raisable

section

variable (accepted : Mempool.accepted task event = some submission)
include accepted

theorem bidding_of_accepted : task.phase.bidding = true := by
  unfold Mempool.accepted at accepted
  split at accepted
  · exact bidding_of_inFlight accepted
  · cases accepted

theorem not_bidding_of_accepted : (task.next last event).bidding = false := by
  unfold Mempool.accepted at accepted
  split at accepted
  · cases phase : task.phase with
    | sending | cancelling => simp [Task.next, phase, Phase.bidding]
    | _ => simp [phase, Phase.inFlight] at accepted
  · cases accepted

end

end

/-! ## Runs -/

namespace Mempool

section

variable {mempools : List Config} {config : Config} {mempool : Mempool}
  {traffic : List Traffic} {id other : Nat} {solver : Address} {task : Task}
  {action : Nat × Event} {submission : Submission} {sender : Address}

/-- What the mempool remembers is what happened, and at most one task of a solver
computes a price from it or waits for the node. -/
structure Tracks (mempool : Mempool) (traffic : List Traffic) : Prop where
  recorded : ∀ solver, mempool.lastSubmissions.get solver = lastAccepted solver traffic
  alone : ∀ id other task otherTask, mempool.tasks.get id = some task →
    mempool.tasks.get other = some otherTask → task.phase.bidding = true →
    otherTask.phase.bidding = true →
    task.request.solver = otherTask.request.solver → id = other
  priced : ∀ id task, mempool.tasks.get id = some task →
    task.phase.Priced (mempool.lastSubmissions.get task.request.solver)

theorem tracks_new : Tracks new [] where
  recorded _ := rfl
  alone _ _ _ _ found := by cases found
  priced _ _ found := by cases found

theorem lastAccepted_append_accepted :
    lastAccepted solver (traffic ++ [.accepted sender submission]) =
      if sender = solver then some submission else lastAccepted solver traffic := by
  simp [lastAccepted]

theorem lastAccepted_append_submitted :
    lastAccepted solver (traffic ++ [.submitted sender submission]) =
      lastAccepted solver traffic := by
  simp [lastAccepted]

/-! ### What a step changes -/

theorem get_record {accepted : Option Submission} :
    (mempool.record sender accepted).get solver =
      if sender = solver then accepted.or (mempool.lastSubmissions.get solver)
      else mempool.lastSubmissions.get solver := by
  cases accepted with
  | none => simp [record]
  | some submission =>
    by_cases same : sender = solver
    · subst same
      simp [record]
    · rw [if_neg same, record, EntryMap.get_insert_of_ne (Ne.symm same)]

theorem lastSubmissions_step (found : mempool.tasks.get action.1 = some task) :
    (step mempools config mempool action).lastSubmissions =
      mempool.record task.request.solver (accepted task action.2) := by
  simp only [step, found]

theorem lastSubmissions_step_of_none (missing : mempool.tasks.get action.1 = none) :
    (step mempools config mempool action).lastSubmissions =
      mempool.lastSubmissions := by
  simp only [step, missing]
  split <;> rfl

theorem recorded_step (recorded : ∀ solver,
      mempool.lastSubmissions.get solver = lastAccepted solver traffic) (solver : Address) :
    (step mempools config mempool action).lastSubmissions.get solver =
      lastAccepted solver (traffic ++ (observe mempool action).toList) := by
  cases found : mempool.tasks.get action.1 with
  | none =>
    rw [lastSubmissions_step_of_none found, recorded]
    simp [observe, found]
  | some task =>
    rw [lastSubmissions_step found, get_record, recorded]
    simp only [observe, found]
    cases accepted task action.2 with
    | some submission => simp [lastAccepted_append_accepted]
    | none =>
      cases submitted task (mempool.lastSubmissions.get task.request.solver) action.2 with
      | none => simp
      | some submission => simp [lastAccepted_append_submitted]

/-- Where a task can come from in one step. -/
inductive Reached (mempool : Mempool) (action : Nat × Event) (id : Nat) :
    Task → Prop
  | moved (task : Task) (same : id = action.1) (found : mempool.tasks.get id = some task) :
      Reached mempool action id { task with
        phase := task.next (mempool.lastSubmissions.get task.request.solver) action.2 }
  | new (task : Task) (silent : task.phase.bidding = false) : Reached mempool action id task
  | kept (task : Task) (distinct : id ≠ action.1) (found : mempool.tasks.get id = some task) :
      Reached mempool action id task

theorem not_bidding_start {request : Request} :
    (Task.start mempools config request).phase.bidding = false := by
  unfold Task.start
  split <;> rfl

theorem reached_step (found : (step mempools config mempool action).tasks.get id = some task) :
    Reached mempool action id task := by
  unfold step at found
  by_cases same : id = action.1
  · split at found
    · rename_i before isBefore
      rw [same, EntryMap.get_insert_self] at found
      obtain rfl := Option.some.inj found
      exact .moved before same (same ▸ isBefore)
    · rename_i missing
      split at found
      · rw [same, EntryMap.get_insert_self] at found
        obtain rfl := Option.some.inj found
        exact .new _ not_bidding_start
      · rw [same, missing] at found
        cases found
  · apply Reached.kept task same
    split at found
    · rwa [EntryMap.get_insert_of_ne same] at found
    · split at found
      · rwa [EntryMap.get_insert_of_ne same] at found
      · exact found

/-! ### What a step preserves -/

theorem quiet_iff : mempool.quiet id solver = true ↔
    ∀ other task, mempool.tasks.get other = some task → task.request.solver = solver →
      task.phase.bidding = true → other = id := by
  simp only [quiet, List.all_eq_true, EntryMap.get_eq_some_iff, Prod.forall]
  apply forall₂_congr
  intro other task
  cases task.phase.bidding <;> simp [or_iff_not_imp_right]

section

variable (tracks : Tracks mempool traffic) (careful : mempool.careful action = true)
include tracks careful

/-- A careful task has the solver's last submission for itself. -/
theorem alone_of_bidding (found : mempool.tasks.get action.1 = some task)
    (bids : (task.next (mempool.lastSubmissions.get task.request.solver)
      action.2).bidding = true) {otherTask : Task}
    (otherFound : mempool.tasks.get other = some otherTask)
    (otherBids : otherTask.phase.bidding = true)
    (sameSolver : otherTask.request.solver = task.request.solver) : other = action.1 := by
  cases lookup : task.looksUp action.2 with
  | none =>
    exact tracks.alone other action.1 otherTask task otherFound found otherBids
      (bidding_of_next lookup bids) sameSolver
  | some needed =>
    simp only [Mempool.careful, found, lookup, Bool.and_eq_true] at careful
    exact quiet_iff.mp careful.1 other otherTask otherFound sameSolver otherBids

theorem tracks_step :
    Tracks (step mempools config mempool action) (traffic ++ (observe mempool action).toList) where
  recorded := recorded_step tracks.recorded
  alone id other task otherTask found otherFound bids otherBids sameSolver := by
    cases reached_step found with
    | new _ silent => simp [silent] at bids
    | moved before same isBefore =>
      cases reached_step otherFound with
      | new _ silent => simp [silent] at otherBids
      | moved _ otherSame _ => rw [same, otherSame]
      | kept _ distinct isOther =>
        rw [same]
        subst same
        exact (alone_of_bidding tracks careful isBefore bids isOther otherBids sameSolver.symm).symm
    | kept _ distinct isTask =>
      cases reached_step otherFound with
      | new _ silent => simp [silent] at otherBids
      | kept _ _ isOther =>
        exact tracks.alone id other task otherTask isTask isOther bids otherBids sameSolver
      | moved before otherSame isBefore =>
        rw [otherSame]
        subst otherSame
        exact alone_of_bidding tracks careful isBefore otherBids isTask bids sameSolver
  priced id task found := by
    cases reached_step found with
    | new _ silent => exact priced_of_not_bidding silent
    | moved before same isBefore =>
      subst same
      rw [lastSubmissions_step isBefore, get_record, if_pos rfl]
      cases taken : accepted before action.2 with
      | some submission => exact priced_of_not_bidding (not_bidding_of_accepted taken)
      | none =>
        apply priced_next
        · intro nonce condition lookup
          simp only [Mempool.careful, isBefore, lookup, Bool.and_eq_true] at careful
          exact careful.2
        · exact tracks.priced _ _ isBefore
    | kept _ distinct isTask =>
      have before := tracks.priced id task isTask
      cases acting : mempool.tasks.get action.1 with
      | none => rwa [lastSubmissions_step_of_none acting]
      | some actor =>
        rw [lastSubmissions_step acting, get_record]
        cases taken : accepted actor action.2 with
        | none => simpa using before
        | some submission =>
          split
          · rename_i sameSolver
            apply priced_of_not_bidding
            by_contra bids
            rw [Bool.not_eq_false] at bids
            exact distinct (tracks.alone id action.1 task actor isTask acting bids
              (bidding_of_accepted taken) sameSolver.symm)
          · exact before

end

theorem observe_eq_submitted (sent : observe mempool action = some (.submitted solver submission)) :
    ∃ task, mempool.tasks.get action.1 = some task ∧ task.request.solver = solver ∧
      submitted task (mempool.lastSubmissions.get solver) action.2 = some submission := by
  unfold observe at sent
  split at sent
  · rename_i task found
    cases taken : accepted task action.2 with
    | some => simp [taken] at sent
    | none =>
      simp only [taken, Option.map_eq_some_iff] at sent
      obtain ⟨_, submits, rfl, rfl⟩ := sent
      exact ⟨task, found, rfl, submits⟩
  · cases sent

/-- A submission with the nonce of an accepted one outbids it. -/
def Outbidding (seen : List Traffic) : Traffic → Prop
  | .submitted solver submission =>
    ∀ last, lastAccepted solver seen = some last → last.nonce = submission.nonce →
      submission.gasPrice.Outbids last.gasPrice
  | .accepted _ _ => True

theorem outbidding_of_tracks {event : Traffic} (tracks : Tracks mempool traffic)
    (observed : observe mempool action = some event) : Outbidding traffic event := by
  cases event with
  | accepted => trivial
  | submitted solver submission =>
    intro _ isLast sameNonce
    obtain ⟨task, found, rfl, submits⟩ := observe_eq_submitted observed
    have priced := tracks.priced action.1 task found
    rw [tracks.recorded, isLast] at priced submits
    exact submitted_outbids priced submits sameNonce

end

end Mempool

section

open Mempool

/-- In a careful run every transaction outbids the last one that was accepted
with its nonce. -/
theorem replacements_outbid {mempools : List Config} {config : Config}
    {actions : List (Nat × Event)} {before after : List Traffic} {solver : Address}
    {submission last : Submission} (careful : Run.Along (step mempools config)
      (fun mempool action => mempool.careful action = true) new actions)
    (submits : Run.events (step mempools config) observe new actions =
      before ++ .submitted solver submission :: after)
    (isLast : lastAccepted solver before = some last) (sameNonce : last.nonce = submission.nonce) :
    submission.gasPrice.Outbids last.gasPrice := by
  have outbidding : Outbidding ([] ++ before) (.submitted solver submission) := by
    apply Run.forall_events_after Outbidding Tracks ?_ ?_ tracks_new careful submits
    · intro mempool action seen tracks careful
      exact tracks_step tracks careful
    · intro mempool action seen _ tracks _ observed
      exact outbidding_of_tracks tracks observed
  exact outbidding last isLast sameNonce

def abandoned (id nonce : Nat) (price : GasPrice) (txHash : Option Nat) : List (Nat × Event) :=
  [(id, .submit ⟨5, false, 21000, 100⟩), (id, .simulated 10 10 false),
    (id, .nonceFetched (some nonce)), (id, .gasEstimated 10 (some price)),
    (id, .inspected none), (id, .answered txHash), (id, .dropped)]

def fallingPrice : List (Nat × Event) :=
  abandoned 0 7 ⟨30000000000, 2000000000⟩ (some 1) ++
    abandoned 1 7 ⟨20000000000, 1000000000⟩ (some 2)

theorem replacements_outbid_falling_price :
    (GasPrice.mk 33900000000 2260000000).Outbids ⟨30000000000, 2000000000⟩ := by
  have careful : Run.Along (step [⟨.disabled⟩] ⟨.disabled⟩)
      (fun mempool action => mempool.careful action = true) new fallingPrice := by
    decide +kernel
  have submits : Run.events (step [⟨.disabled⟩] ⟨.disabled⟩) observe new fallingPrice =
      [.submitted 5 ⟨7, ⟨30000000000, 2000000000⟩⟩, .accepted 5 ⟨7, ⟨30000000000, 2000000000⟩⟩] ++
      .submitted 5 ⟨7, ⟨33900000000, 2260000000⟩⟩ ::
        [.accepted 5 ⟨7, ⟨33900000000, 2260000000⟩⟩] := by
    decide +kernel
  exact replacements_outbid careful submits rfl rfl

/-- The first fee has risen and the second one has fallen.  The node refuses to
replace the pending transaction. -/
def movingPrice : List (Nat × Event) :=
  abandoned 0 7 ⟨30000000000, 2000000000⟩ (some 1) ++ abandoned 1 7 ⟨40000000000, 1000000000⟩ none

theorem replacement_lowers_priority_fee : let before : List Traffic :=
      [.submitted 5 ⟨7, ⟨30000000000, 2000000000⟩⟩, .accepted 5 ⟨7, ⟨30000000000, 2000000000⟩⟩]
    Run.events (step [⟨.disabled⟩] ⟨.disabled⟩) observe new movingPrice =
        before ++ [.submitted 5 ⟨7, ⟨40000000000, 1000000000⟩⟩] ∧
      lastAccepted 5 before = some ⟨7, ⟨30000000000, 2000000000⟩⟩ ∧
      ¬(GasPrice.mk 40000000000 1000000000).Outbids ⟨30000000000, 2000000000⟩ := by
  decide +kernel

end

end MandateSolver.Driver.Mempools
