import MandateSolver.Driver.Order

/-!
# Scores computed by the driver

Fee policies are undone from the last one to the first.  Custom prices are computed anew
after every one of them, also where they are not used any more.
-/

namespace MandateSolver.Driver.Scoring

open WinnerSelection (MathError ClearingPrices PriceLimits)

inductive Error where
  | missingPrice (token : TokenAddress)
  | math (error : MathError)
  deriving DecidableEq

/-- A trade as the settlement contract sees it: the executed amount of a sell
order contains the fees. -/
structure Trade (F : Type) where
  (signedSell signedBuy : Asset)
  side : WinnerSelection.Side
  executed : U256
  customPrice : ClearingPrices
  policies : List (FeePolicy F)

/-- The plain product wraps around. -/
def inEth (price amount : U256) : U256 :=
  amount * price / 1000000000000000000

namespace Trade

variable {F : Type}

section

variable (trade : Trade F)

def surplusOver (limits : PriceLimits) : Outcome MathError U256 :=
  TradeMath.surplusOver trade.side trade.executed trade.customPrice limits

def userSurplus : Outcome Error U256 :=
  (trade.surplusOver ⟨trade.signedSell.amount, trade.signedBuy.amount⟩).mapError .math

def calculateCustomPrices (protocolFee : U256) : Outcome MathError ClearingPrices :=
  TradeMath.calculateCustomPrices trade.side trade.executed protocolFee trade.customPrice

/-- No improvement over the quote is not an error, but a quote that cannot be
adjusted is. -/
def priceImprovement (quote : Quote) : Outcome Error U256 := do
  let limits ← (TradeMath.adjustQuoteToOrderLimits
    ⟨trade.signedSell.amount, trade.signedBuy.amount, trade.side⟩
    ⟨quote.sell.amount, quote.buy.amount, quote.fee.amount⟩).mapError .math
  match trade.surplusOver limits with
  | .err .negative => .ok 0
  | surplus => surplus.mapError .math

end

variable [Factor F]

def fee (surplus : U256) (factor : F) : Outcome Error U256 :=
  (TradeMath.surplusFee surplus factor).mapError .math

section

variable (trade : Trade F)

def volumeFee (factor : F) : Outcome Error U256 :=
  (TradeMath.volumeFee trade.side trade.executed trade.customPrice factor).mapError .math

def protocolFee : FeePolicy F → Outcome Error U256
  | .surplus factor maxVolumeFactor => do
    let surplus ← trade.userSurplus
    let fee ← fee surplus factor
    let volumeFee ← trade.volumeFee maxVolumeFactor
    return Min.min fee volumeFee
  | .priceImprovement factor maxVolumeFactor quote => do
    let improvement ← trade.priceImprovement quote
    let fee ← fee improvement factor
    let volumeFee ← trade.volumeFee maxVolumeFactor
    return Min.min fee volumeFee
  | .volume factor => trade.volumeFee factor

def fees : Outcome Error U256 := do
  let (total, _) ← trade.policies.reverse.foldlM
    (fun (total, currentTrade) policy => do
      let fee ← protocolFee currentTrade policy
      let total ← .okOr (.math .overflow) (U256.checkedAdd total fee)
      let customPrice ← (trade.calculateCustomPrices total).mapError .math
      return (total, { currentTrade with customPrice }))
    ((0 : U256), trade)
  return total

def surplusInSurplusToken : Outcome Error U256 := do
  let surplus ← trade.userSurplus
  let fees ← trade.fees
  .okOr (.math .overflow) (surplus.checkedAdd fees)

/-- The surplus of a buy order is in sell tokens and is converted at the limit
price.  The product has 512 bits. -/
def surplusInBuyTokens : Outcome Error U256 := do
  let surplus ← trade.surplusInSurplusToken
  match trade.side with
  | .sell => return surplus
  | .buy =>
    .rejectIf (trade.signedSell.amount = 0) (.math .divisionByZero)
    let quotient := surplus.toNat * trade.signedBuy.amount.toNat /
      trade.signedSell.amount.toNat
    .rejectIf (2 ^ 256 ≤ quotient) (.math .overflow)
    return BitVec.ofNat 256 quotient

def score (nativePrices : TokenAddress → Option U256) : Outcome Error U256 := do
  let nativePriceBuy ← .okOr (.missingPrice trade.signedBuy.token)
    (nativePrices trade.signedBuy.token)
  let surplus ← trade.surplusInBuyTokens
  return inEth nativePriceBuy surplus

end

end Trade

end MandateSolver.Driver.Scoring
