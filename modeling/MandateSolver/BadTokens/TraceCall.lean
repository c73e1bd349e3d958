import MandateSolver.Eth
import MandateSolver.Foundation.Bytes

/-!
# Detecting bad tokens by tracing transfers

A token is transferred into the settlement contract and out of it again.  The balance of the
recipient is compared in the wrong direction, so what gets lost on the way out is not
noticed.
-/

namespace MandateSolver.BadTokens

/-! ## The response -/

inductive TraceOutput where
  | call (gasUsed : UInt64)
  | create

/-- One frame of a trace. -/
structure TransactionTrace where
  error : Option String
  result : Option TraceOutput

/-- The answer to one traced call. -/
structure TraceResults where
  output : List UInt8
  trace : List TransactionTrace

/-- One trace for each request, in their order. -/
structure Answers where
  (settlementBefore transferIn settlementAfterIn recipientBefore transferOut
    settlementAfterOut recipientAfter approval : TraceResults)

def Answers.ofTraces : List TraceResults → Option Answers
  | [settlementBefore, transferIn, settlementAfterIn, recipientBefore, transferOut,
      settlementAfterOut, recipientAfter, approval] =>
      some ⟨settlementBefore, transferIn, settlementAfterIn, recipientBefore,
        transferOut, settlementAfterOut, recipientAfter, approval⟩
  | _ => none

inductive TraceError where
  | unexpectedNumberOfTraces
  | noTrace
  | noCallResult
  deriving DecidableEq

/-- Why a token is bad. -/
inductive Reason where
  | transferInFailed (takeFrom : Address) (reason : String)
  | transferOutFailed (recipient : Address) (reason : String)
  | balanceNotDecoded
  | settlementOverflow (amount : U256)
  | settlementReceivedLess (amount expected actual : U256)
  | settlementNotRestored (amount expected actual : U256)
  | recipientOverflow (amount : U256) (recipient : Address)
  | recipientReceivedLess (amount : U256) (recipient : Address) (expected actual : U256)
  | approvalFailed (reason : String)
  deriving DecidableEq

/-- The verdict on a token. -/
inductive TokenQuality where
  | good
  | bad (reason : Reason)
  deriving DecidableEq

/-- The transaction may fail; that there is no result is an error of the node. -/
def ensureTransactionOkAndGetGas (trace : TraceResults) :
    Outcome TraceError (Except String U256) := do
  let first ← .okOr .noTrace trace.trace.head?
  match first.error with
  | some error => return .error ("transaction failed: " ++ error)
  | none =>
    match first.result with
    | some (.call gasUsed) => return .ok (BitVec.ofNat 256 gasUsed.toNat)
    | _ => .err .noCallResult

def u256FromBeBytesStrict (bytes : List UInt8) : Option U256 :=
  if bytes.length ≠ 32 then none
  else some (BitVec.ofNat 256 (Bytes.ofBigEndian bytes))

/-! ## The verdict -/

/-- Early ends of the checks. -/
inductive Stop where
  | failed (error : TraceError)
  | bad (reason : Reason)

def checkTransaction (trace : TraceResults) (reason : String → Reason) : Outcome Stop U256 := do
  match ← (ensureTransactionOkAndGetGas trace).mapError .failed with
  | .ok gas => return gas
  | .error error => .err (.bad (reason error))

def decodeBalance (trace : TraceResults) : Outcome Stop U256 :=
  .okOr (.bad .balanceNotDecoded) (u256FromBeBytesStrict trace.output)

def saturatingSub (left right : U256) : U256 := (left.checkedSub right).getD 0

/-- The average of the two gas amounts is computed and not used. -/
def checkAnswers (recipient : Address) (answers : Answers) (amount : U256)
    (takeFrom : Address) : Outcome Stop Unit := do
  let _gasIn ← checkTransaction answers.transferIn (.transferInFailed takeFrom)
  let _gasOut ← checkTransaction answers.transferOut (.transferOutFailed recipient)
  let balanceBeforeIn ← decodeBalance answers.settlementBefore
  let balanceAfterIn ← decodeBalance answers.settlementAfterIn
  let balanceAfterOut ← decodeBalance answers.settlementAfterOut
  let balanceRecipientBefore ← decodeBalance answers.recipientBefore
  let balanceRecipientAfter ← decodeBalance answers.recipientAfter
  let computedBalanceAfterIn ←
    .okOr (.bad (.settlementOverflow amount)) (balanceBeforeIn.checkedAdd amount)
  .rejectIf (balanceAfterIn < saturatingSub computedBalanceAfterIn 1)
    (.bad (.settlementReceivedLess amount computedBalanceAfterIn balanceAfterIn))
  .rejectIf (balanceAfterOut ≠ balanceBeforeIn)
    (.bad (.settlementNotRestored amount balanceBeforeIn balanceAfterOut))
  let computedBalanceRecipientAfter ←
    .okOr (.bad (.recipientOverflow amount recipient)) (balanceRecipientBefore.checkedAdd amount)
  .rejectIf (computedBalanceRecipientAfter < saturatingSub balanceRecipientAfter 1)
    (.bad (.recipientReceivedLess amount recipient computedBalanceRecipientAfter
      balanceRecipientAfter))
  let _gas ← checkTransaction answers.approval .approvalFailed
  return ()

def handleResponse (recipient : Address) (traces : List TraceResults)
    (amount : U256) (takeFrom : Address) : Outcome TraceError TokenQuality :=
  match Answers.ofTraces traces with
  | none => .err .unexpectedNumberOfTraces
  | some answers =>
    match checkAnswers recipient answers amount takeFrom with
    | .ok () => .ok .good
    | .err (.bad reason) => .ok (.bad reason)
    | .err (.failed error) => .err error
    | .panic reason => .panic reason

/-! ## What a good token does -/

/-- A call that was not reverted. -/
def TraceResults.Succeeded (trace : TraceResults) : Prop :=
  ∃ gas, ensureTransactionOkAndGetGas trace = .ok (.ok gas)

/-- None of the three transactions was reverted. -/
structure Answers.Succeeded (answers : Answers) : Prop where
  transferIn : answers.transferIn.Succeeded
  transferOut : answers.transferOut.Succeeded
  approval : answers.approval.Succeeded

/-- Balances before and after the transfers. -/
structure Balances where
  (settlementBefore settlementAfterIn settlementAfterOut recipientBefore recipientAfter : U256)

/-- The balances can be read off the answers. -/
structure Answers.Read (answers : Answers) (balances : Balances) : Prop where
  settlementBefore : u256FromBeBytesStrict answers.settlementBefore.output =
    some balances.settlementBefore
  settlementAfterIn : u256FromBeBytesStrict answers.settlementAfterIn.output =
    some balances.settlementAfterIn
  settlementAfterOut : u256FromBeBytesStrict answers.settlementAfterOut.output =
    some balances.settlementAfterOut
  recipientBefore : u256FromBeBytesStrict answers.recipientBefore.output =
    some balances.recipientBefore
  recipientAfter : u256FromBeBytesStrict answers.recipientAfter.output =
    some balances.recipientAfter

/-- The settlement contract gets the amount, up to one unit, and none of it is
left after the second transfer. -/
structure Balances.PassesThrough (balances : Balances) (amount : U256) : Prop where
  received : balances.settlementBefore.toNat + amount.toNat ≤ balances.settlementAfterIn.toNat + 1
  restored : balances.settlementAfterOut = balances.settlementBefore

/-- The recipient gets the amount, up to one atom. -/
def Balances.Arrives (balances : Balances) (amount : U256) : Prop :=
  balances.recipientBefore.toNat + amount.toNat ≤ balances.recipientAfter.toNat + 1

section

variable (answers : Answers) (balances : Balances) (amount : U256)

/-- A token that takes no fee. -/
structure KeepsAmount :
    Prop where
  succeeded : answers.Succeeded
  read : answers.Read balances
  passesThrough : balances.PassesThrough amount
  arrives : balances.Arrives amount

/-- A token that takes a fee from the second transfer only. -/
structure LosesOnTheWayOut : Prop where
  succeeded : answers.Succeeded
  read : answers.Read balances
  passesThrough : balances.PassesThrough amount
  settlementFits : balances.settlementBefore.toNat + amount.toNat < 2 ^ 256
  recipientFits : balances.recipientBefore.toNat + amount.toNat < 2 ^ 256
  lost : ¬ balances.Arrives amount

end

section

variable {recipient takeFrom : Address} {answers : Answers} {balances : Balances}
  {traces : List TraceResults} {amount : U256}

theorem toNat_saturatingSub (left right : U256) :
    (saturatingSub left right).toNat = left.toNat - right.toNat :=
  U256.toNat_checkedSub_getD left right

theorem exists_checkTransaction_iff {trace : TraceResults} {reason : String → Reason} :
    (∃ gas, checkTransaction trace reason = .ok gas) ↔ trace.Succeeded := by
  unfold checkTransaction TraceResults.Succeeded
  cases ensureTransactionOkAndGetGas trace with
  | ok result => cases result <;> simp [Outcome.mapError]
  | err error | panic reason => simp [Outcome.mapError]

/-- Exactly what has to hold for a token to be good. -/
theorem checkAnswers_eq_ok_iff : checkAnswers recipient answers amount takeFrom = .ok () ↔
      answers.Succeeded ∧ ∃ balances, answers.Read balances ∧ balances.PassesThrough amount ∧
        balances.settlementBefore.toNat + amount.toNat < 2 ^ 256 ∧
        balances.recipientBefore.toNat + amount.toNat < 2 ^ 256 ∧
        balances.recipientAfter.toNat ≤ balances.recipientBefore.toNat + amount.toNat + 1 := by
  simp only [checkAnswers, decodeBalance, Outcome.bind_eq_ok_iff,
    Outcome.okOr_eq_ok_iff, Outcome.rejectIf_eq_ok_iff, U256.checkedAdd_eq_some_iff,
    BitVec.lt_def, toNat_saturatingSub]
  constructor
  · rintro ⟨_, transferIn, _, transferOut, before, beforeRead, afterIn, afterInRead,
      afterOut, afterOutRead, recipientBefore, recipientBeforeRead, recipientAfter,
      recipientAfterRead, computed, added, _, received, _, restored,
      recipientComputed, recipientAdded, _, excess, _, approval, -⟩
    have succeeded : answers.Succeeded := ⟨exists_checkTransaction_iff.mp ⟨_, transferIn⟩,
        exists_checkTransaction_iff.mp ⟨_, transferOut⟩,
        exists_checkTransaction_iff.mp ⟨_, approval⟩⟩
    rw [show (1 : U256).toNat = 1 from rfl] at received excess
    refine ⟨succeeded, ⟨before, afterIn, afterOut, recipientBefore, recipientAfter⟩,
      ⟨beforeRead, afterInRead, afterOutRead, recipientBeforeRead,
        recipientAfterRead⟩, ⟨?_, not_not.mp restored⟩, ?_, ?_, ?_⟩
    all_goals
      dsimp only
      omega
  · rintro ⟨succeeded, balances, read, passes, settlementFits, recipientFits, excess⟩
    obtain ⟨computed, added⟩ := U256.exists_toNat_eq settlementFits
    obtain ⟨recipientComputed, recipientAdded⟩ := U256.exists_toNat_eq recipientFits
    have received := passes.received
    obtain ⟨gasIn, transferIn⟩ := exists_checkTransaction_iff.mpr succeeded.transferIn
    obtain ⟨gasOut, transferOut⟩ := exists_checkTransaction_iff.mpr succeeded.transferOut
    obtain ⟨gas, approval⟩ := exists_checkTransaction_iff.mpr succeeded.approval
    refine ⟨gasIn, transferIn, gasOut, transferOut, _, read.settlementBefore, _,
      read.settlementAfterIn, _, read.settlementAfterOut, _, read.recipientBefore, _,
      read.recipientAfter, computed, added, (), ?_, (), not_not.mpr passes.restored,
      recipientComputed, recipientAdded, (), ?_, gas, approval, rfl⟩
    all_goals
      rw [show (1 : U256).toNat = 1 from rfl]
      omega

theorem handleResponse_eq_good_iff : handleResponse recipient traces amount takeFrom = .ok .good ↔
      ∃ answers, Answers.ofTraces traces = some answers ∧
        checkAnswers recipient answers amount takeFrom = .ok () := by
  unfold handleResponse
  cases Answers.ofTraces traces with
  | none => simp
  | some answers =>
    simp only [Option.some.injEq, exists_eq_left']
    cases checkAnswers recipient answers amount takeFrom with
    | ok value => simp
    | err stop => cases stop <;> simp
    | panic reason => simp

theorem Answers.Read.unique {other : Balances} (read : answers.Read balances)
    (otherRead : answers.Read other) : balances = other := by
  obtain ⟨_, _, _, _, _⟩ := balances
  obtain ⟨_, _, _, _, _⟩ := other
  obtain ⟨r1, r2, r3, r4, r5⟩ := read
  obtain ⟨o1, o2, o3, o4, o5⟩ := otherRead
  simp only [Balances.mk.injEq]
  exact ⟨Option.some.inj (r1.symm.trans o1), Option.some.inj (r2.symm.trans o2),
    Option.some.inj (r3.symm.trans o3), Option.some.inj (r4.symm.trans o4),
    Option.some.inj (r5.symm.trans o5)⟩

end

/-- A good verdict means what it should exactly for the traces that do not show
a loss on the way out behind transfers that look fine otherwise. -/
theorem handleResponse_good_iff (recipient : Address) (traces : List TraceResults)
    (amount : U256) (takeFrom : Address) :
    (handleResponse recipient traces amount takeFrom = .ok .good →
      ∃ answers balances, Answers.ofTraces traces = some answers ∧
        KeepsAmount answers balances amount) ↔
    ¬ ∃ answers balances, Answers.ofTraces traces = some answers ∧
      LosesOnTheWayOut answers balances amount := by
  rw [handleResponse_eq_good_iff]
  constructor
  · rintro keeps ⟨answers, balances, found, loses⟩
    have less := not_le.mp loses.lost
    have passed : checkAnswers recipient answers amount takeFrom = .ok () :=
      checkAnswers_eq_ok_iff.mpr ⟨loses.succeeded, balances, loses.read,
        loses.passesThrough, loses.settlementFits, loses.recipientFits, by omega⟩
    obtain ⟨_, _, otherFound, kept⟩ := keeps ⟨answers, found, passed⟩
    obtain rfl := Option.some.inj (found.symm.trans otherFound)
    obtain rfl := loses.read.unique kept.read
    exact loses.lost kept.arrives
  · rintro keeps ⟨answers, found, passed⟩
    obtain ⟨succeeded, balances, read, passes, settlementFits, recipientFits, -⟩ :=
      checkAnswers_eq_ok_iff.mp passed
    refine ⟨answers, balances, found, succeeded, read, passes, ?_⟩
    by_contra lost
    exact keeps ⟨answers, balances, found, succeeded, read, passes, settlementFits,
      recipientFits, lost⟩

def successfulTrace (output : List UInt8) : TraceResults :=
  ⟨output, [⟨none, some (.call 50000)⟩]⟩

def halvingTraces : List TraceResults :=
  [0, 1, 100, 0, 1, 0, 50, 1].map fun value =>
    successfulTrace (Bytes.bigEndian 32 value)

theorem handleResponse_halving : handleResponse 7 halvingTraces 100 8 = .ok .good ∧
      ¬ ∃ answers balances, Answers.ofTraces halvingTraces = some answers ∧
        KeepsAmount answers balances 100 := by
  refine ⟨by decide +kernel, ?_⟩
  rintro ⟨answers, balances, found, kept⟩
  cases Option.some.inj found
  have before := kept.read.recipientBefore
  have after := kept.read.recipientAfter
  have arrives := kept.arrives
  have beforeValue : balances.recipientBefore = 0 := by
    rw [← Option.some.injEq, ← before]
    decide +kernel
  have afterValue : balances.recipientAfter = 50 := by
    rw [← Option.some.injEq, ← after]
    decide +kernel
  rw [Balances.Arrives, beforeValue, afterValue] at arrives
  revert arrives
  decide

end MandateSolver.BadTokens
