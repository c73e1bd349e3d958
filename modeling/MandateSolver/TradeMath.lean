import MandateSolver.WinnerSelection.Scoring

/-!
# Trade arithmetic of driver and autopilot

Both services compute with the same checked operations in the same order.
-/

namespace MandateSolver.TradeMath

open WinnerSelection (MathError ClearingPrices PriceLimits mulDiv mulCeilDiv)

section

variable (side : WinnerSelection.Side) (executed : U256) (prices : ClearingPrices)

def surplusOver (limits : PriceLimits) : Outcome MathError U256 :=
  match side with
  | .buy => do
    let limitSell ← mulDiv limits.sell executed limits.buy
    let sold ← mulDiv executed prices.buy prices.sell
    .okOr .negative (limitSell.checkedSub sold)
  | .sell => do
    let limitBuy ← mulCeilDiv executed limits.buy limits.sell
    let bought ← mulCeilDiv executed prices.sell prices.buy
    .okOr .negative (bought.checkedSub limitBuy)

def sellAmount : Outcome MathError U256 :=
  match side with
  | .sell => .ok executed
  | .buy => mulDiv executed prices.buy prices.sell

def buyAmount : Outcome MathError U256 :=
  match side with
  | .sell => mulCeilDiv executed prices.sell prices.buy
  | .buy => .ok executed

end

def calculateCustomPrices (side : WinnerSelection.Side)
    (executed protocolFee : U256) (prices : ClearingPrices) :
    Outcome MathError ClearingPrices := do
  let bought ← buyAmount side executed prices
  let sell ← match side with
    | .sell => .okOr .overflow (bought.checkedAdd protocolFee)
    | .buy => .ok bought
  let sold ← sellAmount side executed prices
  let buy ← match side with
    | .sell => .ok sold
    | .buy => .okOr .negative (sold.checkedSub protocolFee)
  return ⟨sell, buy⟩

/-- The limits of an order. -/
structure Order where
  (sellAmount buyAmount : U256)
  side : WinnerSelection.Side

def adjustQuoteToOrderLimits (order : Order) (quote : WinnerSelection.Quote) :
    Outcome MathError PriceLimits :=
  WinnerSelection.adjustQuoteToLimits order.side ⟨order.sellAmount, order.buyAmount⟩ quote

section

variable {F : Type} [Factor F]

/-- The factor is given for the surplus before the fee. -/
def surplusFee (surplus : U256) (factor : F) : Outcome MathError U256 :=
  .okOr .overflow (Factor.checkedMul surplus (factor / (1 - factor)))

def volumeFee (side : WinnerSelection.Side) (executed : U256)
    (prices : ClearingPrices) (factor : F) : Outcome MathError U256 := do
  let executedInSurplusToken ← match side with
    | .buy => sellAmount side executed prices
    | .sell => buyAmount side executed prices
  let factor := match side with
    | .sell => factor / (1 - factor)
    | .buy => factor / (1 + factor)
  .okOr .overflow (Factor.checkedMul executedInSurplusToken factor)

end

end MandateSolver.TradeMath
