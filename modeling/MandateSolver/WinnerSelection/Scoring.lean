import MandateSolver.Foundation.EntryMap
import MandateSolver.Number

/-!
# Scores of proposed solutions

Only executed amounts are looked at: they serve as the clearing prices of the order.  A
solution with an order that cannot be scored has no score.
-/

namespace MandateSolver.WinnerSelection

open Outcome

/-! ## Orders, fee policies and the auction -/

/-- An order's identifier, split into the parts of its byte string. -/
structure OrderUid where
  digest : U256
  owner : Address
  validTo : U32
  deriving DecidableEq

inductive Side where
  | buy
  | sell
  deriving DecidableEq

/-- An order with its execution. -/
structure Order where
  uid : OrderUid
  (sellToken buyToken : Address)
  (sellAmount buyAmount executedSell executedBuy : U256)
  side : Side

structure Quote where
  (sellAmount buyAmount fee : U256)

/-- How a fee is computed. -/
inductive FeePolicy (F : Type) where
  | surplus (factor maxVolumeFactor : F)
  | priceImprovement (factor maxVolumeFactor : F) (quote : Quote)
  | volume (factor : F)

/-- What scores depend on. -/
structure AuctionContext (F : Type) where
  feePolicies : OrderUid → Option (List (FeePolicy F))
  surplusCapturingJitOrderOwners : Address → Bool
  nativePrices : Address → Option U256

/-- User orders count, and so do orders by the owners that capture surplus. -/
def AuctionContext.contributesToScore {F : Type} (context : AuctionContext F)
    (uid : OrderUid) : Bool :=
  (context.feePolicies uid).isSome || context.surplusCapturingJitOrderOwners uid.owner

structure DirectedTokenPair where
  (sell buy : Address)
  deriving DecidableEq

def nativeToken : Address := 0xeeeeeeeeeeeeeeeeeeeeeeeeeeeeeeeeeeeeeeee

def asErc20 (token wrapped : Address) : Address :=
  if token = nativeToken then wrapped else token

def priceInEth (price amount : U256) : U256 :=
  amount.saturatingMul price / 1000000000000000000

/-! ## Solutions -/

inductive RankType where
  | winner
  | nonWinner
  | filteredOut
  deriving DecidableEq

structure Scored where
  score : U256

structure Ranked where
  rankType : RankType
  score : U256
  deriving DecidableEq

/-- A proposed solution. -/
structure Solution (State : Type) where
  id : Nat
  solver : Address
  orders : List Order
  prices : Address → Option U256
  state : State

def Solution.withState {State Next : Type} (solution : Solution State)
    (state : Next) : Solution Next :=
  ⟨solution.id, solution.solver, solution.orders, solution.prices, state⟩

def Solution.withScore (solution : Solution Unit) (score : U256) : Solution Scored :=
  solution.withState ⟨score⟩

def Solution.withRank (solution : Solution Scored) (rankType : RankType) : Solution Ranked :=
  solution.withState ⟨rankType, solution.state.score⟩

def Solution.isWinner (solution : Solution Ranked) : Bool :=
  solution.state.rankType = .winner

/-! ## Surplus and fees of one order -/

inductive MathError where
  | overflow
  | divisionByZero
  | negative
  deriving DecidableEq

/-- Prices of the two tokens. -/
structure ClearingPrices where
  (sell buy : U256)

/-- The amounts a price must not be worse than. -/
structure PriceLimits where
  (sell buy : U256)

def mulDiv (left right divisor : U256) : Outcome MathError U256 := do
  let product ← .okOr .overflow (left.checkedMul right)
  .okOr .divisionByZero (product.checkedDiv divisor)

def mulCeilDiv (left right divisor : U256) : Outcome MathError U256 := do
  let product ← .okOr .overflow (left.checkedMul right)
  .okOr .divisionByZero (product.checkedCeilDiv divisor)

def surplusOver (order : Order) (prices : ClearingPrices)
    (limits : PriceLimits) : Outcome MathError U256 :=
  match order.side with
  | .buy => do
    let limitSell ← mulDiv limits.sell order.executedBuy limits.buy
    let sold ← mulDiv order.executedBuy prices.buy prices.sell
    .okOr .negative (limitSell.checkedSub sold)
  | .sell => do
    let limitBuy ← mulCeilDiv order.executedSell limits.buy limits.sell
    let bought ← mulCeilDiv order.executedSell prices.sell prices.buy
    .okOr .negative (bought.checkedSub limitBuy)

def surplusOverLimitPrice (order : Order) (prices : ClearingPrices) : Outcome MathError U256 :=
  surplusOver order prices ⟨order.sellAmount, order.buyAmount⟩

/-- The quote's amounts for the size of an order, never worse than the limits of
the order. -/
def adjustQuoteToLimits (side : Side) (limits : PriceLimits) (quote : Quote) :
    Outcome MathError PriceLimits :=
  match side with
  | .sell => do
    let fee ← mulDiv quote.fee quote.buyAmount quote.sellAmount
    let quoteBuyAmount ← .okOr .negative (quote.buyAmount.checkedSub fee)
    let scaledBuyAmount ← mulDiv quoteBuyAmount limits.sell quote.sellAmount
    return ⟨limits.sell, Max.max limits.buy scaledBuyAmount⟩
  | .buy => do
    let quoteSellAmount ←
      .okOr .overflow (quote.sellAmount.checkedAdd quote.fee)
    let scaledSellAmount ← mulDiv quoteSellAmount limits.buy quote.buyAmount
    return ⟨Min.min limits.sell scaledSellAmount, limits.buy⟩

section

variable (order : Order)

def adjustQuoteToOrderLimits (quote : Quote) : Outcome MathError PriceLimits :=
  adjustQuoteToLimits order.side ⟨order.sellAmount, order.buyAmount⟩ quote

section

variable (prices : ClearingPrices)

/-- No improvement over the quote counts as zero. -/
def priceImprovementOverQuote (quote : Quote) : Outcome MathError U256 := do
  let adjustedQuote ← adjustQuoteToOrderLimits order quote
  match surplusOver order prices adjustedQuote with
  | .err .negative => .ok 0
  | surplus => surplus

def sellAmount : Outcome MathError U256 :=
  match order.side with
  | .sell => .ok order.executedSell
  | .buy => mulDiv order.executedBuy prices.buy prices.sell

def buyAmount : Outcome MathError U256 :=
  match order.side with
  | .sell => mulCeilDiv order.executedSell prices.sell prices.buy
  | .buy => .ok order.executedBuy

end

def calculateCustomPrices (protocolFee : U256)
    (prices : ClearingPrices) : Outcome MathError ClearingPrices := do
  let sellAmount ← sellAmount order prices
  let buyAmount ← buyAmount order prices
  match order.side with
  | .sell =>
    let sell ← .okOr .overflow (buyAmount.checkedAdd protocolFee)
    return ⟨sell, sellAmount⟩
  | .buy =>
    let buy ← .okOr .negative (sellAmount.checkedSub protocolFee)
    return ⟨buyAmount, buy⟩

def calculateCustomPricesFromExecuted : ClearingPrices :=
  ⟨order.executedBuy, order.executedSell⟩

end

section

variable {F : Type} [Factor F]

/-- The factor applies to the surplus before the fee, which is what the
divisor undoes. -/
def surplusFee (surplus : U256) (factor : F) : Outcome MathError U256 :=
  .okOr .overflow (Factor.checkedMul surplus (factor / (1 - factor)))

def volumeFee (order : Order) (prices : ClearingPrices) (factor : F) : Outcome MathError U256 :=
  match order.side with
  | .sell => do
    let executed ← buyAmount order prices
    .okOr .overflow (Factor.checkedMul executed (factor / (1 - factor)))
  | .buy => do
    let executed ← sellAmount order prices
    .okOr .overflow (Factor.checkedMul executed (factor / (1 + factor)))

def protocolFee (order : Order) (policy : FeePolicy F)
    (customPrices : ClearingPrices) : Outcome MathError U256 :=
  match policy with
  | .surplus factor maxVolumeFactor => do
    let surplus ← surplusOverLimitPrice order customPrices
    let surplusFee ← surplusFee surplus factor
    let volumeFee ← volumeFee order customPrices maxVolumeFactor
    return Min.min surplusFee volumeFee
  | .priceImprovement factor maxVolumeFactor quote => do
    let improvement ← priceImprovementOverQuote order customPrices quote
    let surplusFee ← surplusFee improvement factor
    let volumeFee ← volumeFee order customPrices maxVolumeFactor
    return Min.min surplusFee volumeFee
  | .volume factor => volumeFee order customPrices factor

/-! ## Scores -/

inductive ScoreError where
  | context (message : String)
  | math (error : MathError)
  deriving DecidableEq

/-- The policies were applied in order, so they are undone from the last one
to the first, each at the prices without the fees found so far. -/
def protocolFees (order : Order) (context : AuctionContext F)
    (basePrices : ClearingPrices) : Outcome ScoreError U256 := do
  let policies := (context.feePolicies order.uid).getD []
  let (totalFee, _) ← policies.zipIdx.reverse.foldlM
    (fun (totalFee, currentPrices) (policy, index) => do
      let fee ← (protocolFee order policy currentPrices).mapError .math
      let totalFee ← .okOr (.context "overflow adding protocol fees")
        (U256.checkedAdd totalFee fee)
      if index ≠ 0 then
        let prices ←
          (calculateCustomPrices order totalFee basePrices).mapError .math
        return (totalFee, prices)
      else return (totalFee, currentPrices))
    ((0 : U256), basePrices)
  return totalFee

def computeOrderScore (order : Order) (prices : Address → Option U256)
    (context : AuctionContext F) : Outcome ScoreError U256 := do
  let nativePriceBuy ← .okOr (.context "missing native price for buy token")
    (context.nativePrices order.buyToken)
  let _ ← .okOr (.context "missing uniform clearing price for sell token")
    (prices order.sellToken)
  let _ ← .okOr (.context "missing uniform clearing price for buy token")
    (prices order.buyToken)
  let customPrices := calculateCustomPricesFromExecuted order
  let userSurplus ← (surplusOverLimitPrice order customPrices).mapError .math
  let fees ← protocolFees order context customPrices
  let surplus ← .okOr (.context "overflow adding fees to surplus")
    (userSurplus.checkedAdd fees)
  match order.side with
  | .sell => return priceInEth nativePriceBuy surplus
  | .buy =>
    -- The product has 512 bits, so only the quotient can be too large.
    .rejectIf (order.sellAmount = 0) (.context "division by zero converting surplus to buy tokens")
    let quotient :=
      surplus.toNat * order.buyAmount.toNat / order.sellAmount.toNat
    .rejectIf (2 ^ 256 ≤ quotient) (.context "overflow converting surplus to buy tokens")
    return priceInEth nativePriceBuy (BitVec.ofNat 256 quotient)

abbrev ScoreByDirection := List (DirectedTokenPair × U256)

/-- The scores of a solution, added up for every pair that its orders are counted for. -/
def scoreByPair {State : Type} (pairOf : Order → DirectedTokenPair) (solution : Solution State)
    (context : AuctionContext F) : Outcome ScoreError ScoreByDirection :=
  solution.orders.foldlM (fun scores order => do
    if context.contributesToScore order.uid then
      let score ← computeOrderScore order solution.prices context
      return upsert (pairOf order) (fun entry => (entry.getD 0).saturatingAdd score) scores
    else return scores) []

def Order.tokenPair (order : Order) : DirectedTokenPair :=
  ⟨order.sellToken, order.buyToken⟩

def scoreByTokenPair {State : Type} (solution : Solution State)
    (context : AuctionContext F) : Outcome ScoreError ScoreByDirection :=
  scoreByPair Order.tokenPair solution context

/-! ## Scoring never aborts -/

variable (order : Order) (prices : ClearingPrices)

@[simp] theorem noPanic_mulDiv (left right divisor : U256) :
    (mulDiv left right divisor).NoPanic := by
  simp [mulDiv]

@[simp] theorem noPanic_mulCeilDiv (left right divisor : U256) :
    (mulCeilDiv left right divisor).NoPanic := by
  simp [mulCeilDiv]

@[simp] theorem noPanic_surplusOver
    (limits : PriceLimits) : (surplusOver order prices limits).NoPanic := by
  unfold surplusOver
  cases order.side <;> simp

@[simp] theorem noPanic_adjustQuoteToOrderLimits (quote : Quote) :
    (adjustQuoteToOrderLimits order quote).NoPanic := by
  unfold adjustQuoteToOrderLimits adjustQuoteToLimits
  cases order.side <;> simp

@[simp] theorem noPanic_priceImprovementOverQuote (quote : Quote) :
    (priceImprovementOverQuote order prices quote).NoPanic := by
  apply (noPanic_adjustQuoteToOrderLimits order quote).seq
  intro adjustedQuote
  split
  · exact noPanic_ok _
  · exact noPanic_surplusOver order prices adjustedQuote

@[simp] theorem noPanic_sellAmount : (sellAmount order prices).NoPanic := by
  unfold sellAmount
  cases order.side <;> simp

@[simp] theorem noPanic_buyAmount : (buyAmount order prices).NoPanic := by
  unfold buyAmount
  cases order.side <;> simp

@[simp] theorem noPanic_calculateCustomPrices (fee : U256) (prices : ClearingPrices) :
    (calculateCustomPrices order fee prices).NoPanic := by
  unfold calculateCustomPrices
  cases order.side <;> simp

@[simp] theorem noPanic_volumeFee (factor : F) : (volumeFee order prices factor).NoPanic := by
  unfold volumeFee
  cases order.side <;> simp

@[simp] theorem noPanic_protocolFee (policy : FeePolicy F)
    (prices : ClearingPrices) : (protocolFee order policy prices).NoPanic := by
  cases policy <;> simp [protocolFee, surplusOverLimitPrice, surplusFee]

@[simp] theorem noPanic_protocolFees (context : AuctionContext F)
    (prices : ClearingPrices) : (protocolFees order context prices).NoPanic := by
  apply NoPanic.seq _ fun _ => noPanic_ok _
  apply NoPanic.foldlM
  intro _ entry _
  by_cases first : entry.2 = 0 <;> simp [first]

theorem noPanic_computeOrderScore (prices : Address → Option U256) (context : AuctionContext F) :
    (computeOrderScore order prices context).NoPanic := by
  unfold computeOrderScore
  cases order.side <;> simp [surplusOverLimitPrice]

theorem noPanic_scoreByTokenPair {State : Type} (solution : Solution State)
    (context : AuctionContext F) : (scoreByTokenPair solution context).NoPanic := by
  apply NoPanic.foldlM
  intro _ order _
  split
  · exact (noPanic_computeOrderScore order solution.prices context).seq fun _ => noPanic_ok _
  · exact noPanic_ok _

end

end MandateSolver.WinnerSelection
