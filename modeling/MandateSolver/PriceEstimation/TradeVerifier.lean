import MandateSolver.Model

/-!
# Verification of quotes

What the settlement contract lost in a simulation is corrected for its roles in the trade
and must stay below a limit.
-/

namespace MandateSolver.PriceEstimation

open Model (OrderKind)

/-! ## Queries and trades -/

/-- What is to be quoted. -/
structure PriceQuery where
  (sellToken buyToken : Address)
  kind : OrderKind
  inAmount : U256
  nonzero : inAmount ≠ 0

/-- The sender has the sell tokens. -/
structure Verification where
  (sender receiver : Address)

section

variable (I J : Type)

/-- A trade without prices. -/
structure LegacyTrade where
  interactions : List I
  solver : Address

/-- A trade with prices and further orders. -/
structure Trade where
  clearingPrices : EntryMap Address U256
  (preInteractions interactions : List I)
  solver : Address
  jitOrders : List J

inductive TradeKind where
  | legacy (trade : LegacyTrade I)
  | regular (trade : Trade I J)

structure QuoteExecution where
  (interactions preInteractions : List I)
  jitOrders : List J
  deriving DecidableEq

/-- The price that is returned. -/
structure Estimate where
  outAmount : U256
  gas : Nat
  solver : Address
  verified : Bool
  execution : QuoteExecution I J
  deriving DecidableEq

end

namespace TradeKind

variable {I J : Type}

def solver : TradeKind I J → Address
  | .legacy trade | .regular trade => trade.solver

def interactions : TradeKind I J → List I
  | .legacy trade | .regular trade => trade.interactions

def preInteractions : TradeKind I J → List I
  | .legacy _ => []
  | .regular trade => trade.preInteractions

def jitOrders : TradeKind I J → List J
  | .legacy _ => []
  | .regular trade => trade.jitOrders

def tokens (query : PriceQuery) : TradeKind I J → List Address
  | .legacy _ => [query.sellToken, query.buyToken]
  | .regular trade => trade.clearingPrices.entries.map Prod.fst

end TradeKind

inductive SimulationFailure where
  | sellTokenMissing
  | buyTokenMissing
  | negativeInput
  | inputExceedsMax
  deriving DecidableEq

inductive Error where
  | buffersPayForOrder
  | simulationFailed (failure : SimulationFailure)
  deriving DecidableEq

/-! ## The output of the simulation -/

/-- What the simulation returns. -/
structure SwapReturn where
  gasUsed : U256
  queriedBalances : List U256

abbrev TokensLost := Address → Option ℚ

/-- What is read from it. -/
structure SettleOutput where
  gasUsed : U256
  outAmount : Int
  tokensLost : TokensLost

def TokensLost.insert (lost : TokensLost) (token : Address) (amount : ℚ) : TokensLost :=
  fun other => if other = token then some amount else lost other

def TokensLost.andModify (lost : TokensLost) (token : Address) (change : ℚ → ℚ) : TokensLost :=
  fun other => if other = token then (lost token).map change else lost other

def foldBalances (queriedBalances : List U256) (update : TokensLost → Address → ℚ → TokensLost) :
    List Address → Nat → TokensLost → Outcome Error TokensLost
  | [], _, lost => .ok lost
  | token :: tokens, i, lost => do
    let balance ← .index queriedBalances i
    foldBalances queriedBalances update tokens (i + 1) (update lost token balance.toNat)

/-- The balances of the settlement contract before the trade come first, then
those of the trader before and after, and last the settlement contract's after
the trade. -/
def fromSwap (output : SwapReturn) (kind : OrderKind) (tokens : List Address) :
    Outcome Error SettleOutput := do
  let balances := output.queriedBalances
  let before ← foldBalances balances .insert tokens 0 fun _ => none
  let traderBalanceBefore ← .index balances tokens.length
  let traderBalanceAfter ← .index balances (tokens.length + 1)
  let tokensLost ← foldBalances balances
    (fun lost token balance => lost.andModify token (· - balance)) tokens
    (tokens.length + 2) before
  let outAmount : Int := match kind with
    | .sell => traderBalanceAfter.toNat - traderBalanceBefore.toNat
    | .buy => traderBalanceBefore.toNat - traderBalanceAfter.toNat
  return ⟨output.gasUsed, outAmount, tokensLost⟩

/-! ## Accuracy of the quote -/

def PriceQuery.amounts (query : PriceQuery) (outAmount : Int) : Int × Int :=
  match query.kind with
  | .sell => (query.inAmount.toNat, outAmount)
  | .buy => (outAmount, query.inAmount.toNat)

def i512ToU256 (input : Int) : Outcome Error U256 := do
  .rejectIf (input < 0) (.simulationFailed .negativeInput)
  .rejectIf (input ≥ U256.max.toNat) (.simulationFailed .inputExceedsMax)
  return BitVec.ofNat 256 input.toNat

section

variable {I J : Type}

def ensureQuoteAccuracy (inaccuracyLimit : ℚ) (query : PriceQuery)
    (trade : TradeKind I J) (summary : SettleOutput) :
    Outcome Error (Estimate I J) := do
  let (sellAmount, buyAmount) := query.amounts summary.outAmount
  let sellTokenLostLimit := inaccuracyLimit * sellAmount
  let buyTokenLostLimit := inaccuracyLimit * buyAmount
  let sellTokenLost ← .okOr (.simulationFailed .sellTokenMissing)
    (summary.tokensLost query.sellToken)
  let buyTokenLost ← .okOr (.simulationFailed .buyTokenMissing)
    (summary.tokensLost query.buyToken)
  .rejectIf (sellTokenLost ≥ sellTokenLostLimit ∨ buyTokenLost ≥ buyTokenLostLimit)
    .buffersPayForOrder
  let outAmount ← i512ToU256 summary.outAmount
  return {
    outAmount
    gas := min summary.gasUsed.toNat (2 ^ 64 - 1)
    solver := trade.solver
    verified := true
    execution := ⟨trade.interactions, trade.preInteractions, trade.jitOrders⟩ }

/-- The losses without what the settlement contract paid as the trader and with
what it got as the receiver. -/
def adjustedLosses (settlement : Address) (query : PriceQuery)
    (verification : Verification) (summary : SettleOutput) : TokensLost :=
  let (sellAmount, buyAmount) := query.amounts summary.outAmount
  let lost := if verification.sender = settlement
    then summary.tokensLost.andModify query.sellToken (· - sellAmount)
    else summary.tokensLost
  if verification.receiver = settlement
  then lost.andModify query.buyToken (· + buyAmount) else lost

/-- The zero address stands for the sender. -/
def Verification.ownerIsReceiver (verification : Verification) : Prop :=
  verification.receiver = 0 ∨ verification.receiver = verification.sender

instance (verification : Verification) : Decidable verification.ownerIsReceiver :=
  inferInstanceAs (Decidable (_ ∨ _))

/-- The trader's own balance shows the sell tokens as well when both tokens are
the same and the trader is the receiver. -/
def correctedOutAmount (query : PriceQuery) (verification : Verification)
    (outAmount : Int) : Outcome Error Int :=
  if query.sellToken = query.buyToken ∧ verification.ownerIsReceiver
  then .ok (query.inAmount.toNat + outAmount)
  else if outAmount < 0 then .err .buffersPayForOrder
  else .ok outAmount

def verifyInner (settlement : Address) (inaccuracyLimit : ℚ) (query : PriceQuery)
    (verification : Verification) (trade : TradeKind I J) (output : SwapReturn) :
    Outcome Error (Estimate I J) := do
  let summary ← fromSwap output query.kind (trade.tokens query)
  let tokensLost := adjustedLosses settlement query verification summary
  let outAmount ← correctedOutAmount query verification summary.outAmount
  ensureQuoteAccuracy inaccuracyLimit query trade { summary with outAmount, tokensLost }

end

end MandateSolver.PriceEstimation
