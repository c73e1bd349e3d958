import MandateSolver.Driver.Order

/-!
# Solutions

The prices of a solution are only checked for being there for the tokens of user trades.
-/

namespace MandateSolver.Driver

open WinnerSelection (OrderUid asErc20 ClearingPrices)

/-! ## Parts of a solution -/

/-- The id of a solution and of its parts. -/
structure Id where
  id : Nat
  mergedSolutions : List Nat
  deriving DecidableEq

structure Allowance where
  token : TokenAddress
  spender : Address
  amount : U256
  deriving DecidableEq

/-- Calls and uses of liquidity. -/
inductive Interaction where
  | custom (target : Address) (value : U256) (callData : List UInt8)
      (allowances : List Allowance) (inputs outputs : List Asset)
      (internalize : Bool)
  | liquidity (liquidityId : Nat) (input output : Asset) (internalize : Bool)
  deriving DecidableEq

structure WrapperCall where
  address : Address
  data : List UInt8
  deriving DecidableEq

abbrev Prices := EntryMap TokenAddress U256

/-- A solution of the driver. -/
structure Solution (F : Type) where
  id : Id
  trades : List (Trade F)
  prices : Prices
  preInteractions : List EthInteraction
  interactions : List Interaction
  postInteractions : List EthInteraction
  (solver weth : Address)
  gas : Option U256
  flashloans : EntryMap OrderUid Flashloan
  wrappers : List WrapperCall
  deriving DecidableEq

inductive SolutionError where
  | invalidClearingPrices
  | protocolFee (error : FeeError)
  | invalidJitTrade (error : TradeError)
  deriving DecidableEq

/-- Who takes the protocol fees. -/
inductive FeeHandler where
  | driver
  | solver
  deriving DecidableEq

namespace Solution

section

variable {F : Type}

def userTrades (solution : Solution F) : List (Fulfillment F) :=
  solution.trades.filterMap fun trade => match trade with
    | .fulfillment fulfillment => some fulfillment
    | .jit _ => none

def clearingPrice (solution : Solution F) (token : TokenAddress) : Option U256 :=
  solution.prices.get (asErc20 token solution.weth)

/-! ## Building a solution -/

def jitAsOrder (order : JitOrder) : Order F where
  uid := order.uid
  receiver := some order.receiver
  validTo := order.validTo
  buy := order.buy
  sell := order.sell
  side := order.side
  kind := .limit
  appData := .hash order.appData
  fill := order.partiallyFillable
  preInteractions := []
  postInteractions := []
  sellTokenBalance := order.sellTokenBalance
  buyTokenBalance := order.buyTokenBalance
  signature := order.signature
  protocolFees := []

/-- Orders of owners that capture surplus are treated like user orders. -/
def convertJit (surplusCapturingJitOrderOwners : Address → Bool) :
    Trade F → Outcome SolutionError (Trade F)
  | .fulfillment fulfillment => .ok (.fulfillment fulfillment)
  | .jit jit =>
    if surplusCapturingJitOrderOwners jit.order.signer then do
      let fulfillment ← (Fulfillment.new (jitAsOrder jit.order) jit.executed
        (.dynamic jit.fee) 0).mapError .invalidJitTrade
      return .fulfillment fulfillment
    else .ok (.jit jit)

def pricesOrder (solution : Solution F) (order : Order F) : Bool :=
  (solution.clearingPrice order.sell.token).isSome &&
    (solution.clearingPrice order.buy.token).isSome

variable [Factor F]

def applyProtocolFees (solution : Solution F) : Trade F → Outcome SolutionError (Trade F)
  | .fulfillment fulfillment => do
    let order := fulfillment.order
    let sell ← .expect "no entry found for key"
      (solution.prices.get (asErc20 order.sell.token solution.weth))
    let buy ← .expect "no entry found for key"
      (solution.prices.get (asErc20 order.buy.token solution.weth))
    let fulfillment ←
      (fulfillment.withProtocolFees ⟨sell, buy⟩).mapError .protocolFee
    return .fulfillment fulfillment
  | .jit jit => .ok (.jit jit)

def new (parts : Solution F) (feeHandler : FeeHandler)
    (surplusCapturingJitOrderOwners : Address → Bool) :
    Outcome SolutionError (Solution F) := do
  let trades ← parts.trades.mapM (convertJit surplusCapturingJitOrderOwners)
  let solution := { parts with trades }
  .rejectIf (solution.userTrades.any fun trade =>
    !solution.pricesOrder trade.order) .invalidClearingPrices
  if feeHandler ≠ .driver then return solution
  else
    let trades ← solution.trades.mapM solution.applyProtocolFees
    return { solution with trades }

end

def soldOut (digest : U256) (sell buy : Asset) : Fulfillment ℚ where
  order :=
    { uid := ⟨digest, 5, 0⟩, receiver := none, validTo := 0, buy, sell
      side := .sell, kind := .limit, appData := .hash 0, fill := .no
      preInteractions := [], postInteractions := []
      sellTokenBalance := .erc20, buyTokenBalance := .erc20
      signature := ⟨.preSign, [], 5⟩, protocolFees := [] }
  executed := sell.amount
  fee := .dynamic 0
  haircutFee := 0
  valid := by
    simp [validExecution, validFee, Order.solverDeterminesFee, Order.target,
      U256.checkedAdd, sell.amount.isLt]

def trading (trade : Fulfillment ℚ) (prices : List (TokenAddress × U256)) : Solution ℚ where
  id := ⟨0, [0]⟩
  trades := [.fulfillment trade]
  prices := EntryMap.collect prices
  preInteractions := []
  interactions := []
  postInteractions := []
  solver := 7
  weth := 9
  gas := none
  flashloans := EntryMap.collect []
  wrappers := []

end Solution

end MandateSolver.Driver
