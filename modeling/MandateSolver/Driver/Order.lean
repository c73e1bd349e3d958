import MandateSolver.TradeMath

/-!
# Orders of the driver

The amounts a solver gets to see are the order's limits scaled to what is available, the
sell amount rounded down and the buy amount rounded up.
-/

namespace MandateSolver.Driver

open WinnerSelection (OrderUid nativeToken)

/-! ## Ratios -/

/-- The product of the first two numbers over the third, rounded down.  The
product itself may need up to 512 bits. -/
def mulRatio (x q d : U256) : Option U256 :=
  if d.isZero then none
  else match x.checkedMul q with
    | some product => some (product / d)
    | none =>
      let quotient := x.toNat * q.toNat / d.toNat
      if quotient < 2 ^ 256 then some (BitVec.ofNat 256 quotient) else none

def mulRatioCeil (x q d : U256) : Option U256 :=
  if d.isZero then none
  else match x.checkedMul q with
    | some product =>
      (product / d).checkedAdd (if product % d = 0 then 0 else 1)
    | none =>
      let product := x.toNat * q.toNat
      let quotient := product / d.toNat
      if quotient < 2 ^ 256 then
        U256.checkedAdd (BitVec.ofNat 256 quotient) (if product % d.toNat = 0 then 0 else 1)
      else none

section

variable {x q d result : U256}

theorem mulRatio_eq_some_iff : mulRatio x q d = some result ↔
      d ≠ 0 ∧ result.toNat = x.toNat * q.toNat / d.toNat := by
  unfold mulRatio
  by_cases zero : d = 0
  · simp [zero, U256.isZero]
  rw [if_neg (by simpa [U256.isZero] using zero), and_iff_right zero]
  split
  · rename_i product multiplied
    rw [Option.some.injEq, ← BitVec.toNat_inj, BitVec.toNat_udiv,
      U256.checkedMul_eq_some_iff.mp multiplied]
    exact eq_comm
  · dsimp only
    split
    · rename_i fits
      rw [Option.some.injEq, ← BitVec.toNat_inj, BitVec.toNat_ofNat, Nat.mod_eq_of_lt fits]
      exact eq_comm
    · constructor
      · simp
      · omega

theorem mulRatioCeil_eq_some_iff : mulRatioCeil x q d = some result ↔
      d ≠ 0 ∧ result.toNat = x.toNat * q.toNat ⌈/⌉ d.toNat := by
  unfold mulRatioCeil
  by_cases zero : d = 0
  · simp [zero, U256.isZero]
  have positive := BitVec.toNat_pos_of_ne_zero zero
  rw [if_neg (by simpa [U256.isZero] using zero), and_iff_right zero, ceilDiv_eq_div_add positive]
  split
  · rename_i product multiplied
    have product_eq := U256.checkedMul_eq_some_iff.mp multiplied
    have exact : product % d = 0 ↔ x.toNat * q.toNat % d.toNat = 0 := by
      rw [← product_eq, ← BitVec.toNat_inj]
      rfl
    rw [U256.checkedAdd_eq_some_iff, BitVec.toNat_udiv, product_eq]
    simp only [exact]
    split <;> rfl
  · dsimp only
    split
    · rename_i fits
      rw [U256.checkedAdd_eq_some_iff, BitVec.toNat_ofNat, Nat.mod_eq_of_lt fits]
      split <;> rfl
    · constructor
      · simp
      · omega

theorem eq_ite_of_eq_some_iff {found : Option U256} {divisor : U256} {value : Nat}
    (known : ∀ result, found = some result ↔ divisor ≠ 0 ∧ result.toNat = value) :
    found = if divisor ≠ 0 ∧ value < 2 ^ 256 then some (BitVec.ofNat 256 value) else none := by
  apply Option.ext
  intro result
  rw [known, Option.ite_none_right_eq_some, Option.some.injEq, and_assoc]
  apply and_congr_right
  intro _
  constructor
  · rintro rfl
    exact ⟨result.isLt, by simp⟩
  · rintro ⟨fits, rfl⟩
    rw [BitVec.toNat_ofNat, Nat.mod_eq_of_lt fits]

/-- Both functions return the exact ratio, rounded, when there is one that fits.  Where the
product fits as well, its narrow division is the wide one. -/
theorem mulRatio_exact (x q d : U256) :
    (mulRatio x q d = if d ≠ 0 ∧ x.toNat * q.toNat / d.toNat < 2 ^ 256 then
        some (BitVec.ofNat 256 (x.toNat * q.toNat / d.toNat)) else none) ∧
    (mulRatioCeil x q d = if d ≠ 0 ∧ x.toNat * q.toNat ⌈/⌉ d.toNat < 2 ^ 256 then
        some (BitVec.ofNat 256 (x.toNat * q.toNat ⌈/⌉ d.toNat)) else none) ∧
    ∀ product, x.checkedMul q = some product → (product / d).toNat = x.toNat * q.toNat / d.toNat ∧
      (product % d).toNat = x.toNat * q.toNat % d.toNat := by
  refine ⟨eq_ite_of_eq_some_iff fun _ => mulRatio_eq_some_iff,
    eq_ite_of_eq_some_iff fun _ => mulRatioCeil_eq_some_iff, ?_⟩
  intro product multiplied
  rw [← U256.checkedMul_eq_some_iff.mp multiplied]
  exact ⟨BitVec.toNat_udiv, BitVec.toNat_umod⟩

theorem toNat_mulRatio_le (x q d : U256) :
    ((mulRatio x q d).getD 0).toNat ≤ x.toNat * q.toNat / d.toNat := by
  cases found : mulRatio x q d with
  | none => exact Nat.zero_le _
  | some result => exact (mulRatio_eq_some_iff.mp found).2.le

theorem toNat_mulRatio (nonzero : (mulRatio x q d).getD 0 ≠ 0) :
    ((mulRatio x q d).getD 0).toNat = x.toNat * q.toNat / d.toNat := by
  cases found : mulRatio x q d with
  | none => simp [found] at nonzero
  | some result => exact (mulRatio_eq_some_iff.mp found).2

theorem toNat_mulRatioCeil_le (x q d : U256) :
    ((mulRatioCeil x q d).getD 0).toNat ≤ x.toNat * q.toNat ⌈/⌉ d.toNat := by
  cases found : mulRatioCeil x q d with
  | none => exact Nat.zero_le _
  | some result => exact (mulRatioCeil_eq_some_iff.mp found).2.le

theorem toNat_mulRatioCeil (nonzero : (mulRatioCeil x q d).getD 0 ≠ 0) :
    ((mulRatioCeil x q d).getD 0).toNat = x.toNat * q.toNat ⌈/⌉ d.toNat := by
  cases found : mulRatioCeil x q d with
  | none => simp [found] at nonzero
  | some result => exact (mulRatioCeil_eq_some_iff.mp found).2

end

/-! ## Orders -/

structure Quote where
  (sell buy fee : Asset)
  deriving DecidableEq

/-- How a fee is computed. -/
inductive FeePolicy (F : Type) where
  | surplus (factor maxVolumeFactor : F)
  | priceImprovement (factor maxVolumeFactor : F) (quote : Quote)
  | volume (factor : F)
  deriving DecidableEq

structure Flashloan where
  (liquidityProvider protocolAdapter receiver : Address)
  token : TokenAddress
  amount : U256
  deriving DecidableEq

structure ValidatedAppData where
  hash : U256
  flashloan : Option Flashloan
  deriving DecidableEq

inductive AppData where
  | hash (value : U256)
  | full (data : ValidatedAppData)
  deriving DecidableEq

/-- The amount is denominated in the target token. -/
inductive Partial where
  | yes (available : U256)
  | no
  deriving DecidableEq

inductive Kind where
  | market
  | limit
  deriving DecidableEq

inductive SellTokenBalance where
  | erc20
  | internal
  | external
  deriving DecidableEq

inductive BuyTokenBalance where
  | erc20
  | internal
  deriving DecidableEq

inductive Scheme where
  | eip712
  | ethSign
  | eip1271
  | preSign
  deriving DecidableEq

/-- The bytes that the contract checks. -/
structure Signature where
  scheme : Scheme
  data : List UInt8
  signer : Address
  deriving DecidableEq

/-- A call without conditions. -/
structure EthInteraction where
  target : Address
  value : U256
  callData : List UInt8
  deriving DecidableEq

/-- An order of an auction. -/
structure Order (F : Type) where
  uid : OrderUid
  receiver : Option Address
  validTo : U32
  (buy sell : Asset)
  side : WinnerSelection.Side
  kind : Kind
  appData : AppData
  fill : Partial
  (preInteractions postInteractions : List EthInteraction)
  sellTokenBalance : SellTokenBalance
  buyTokenBalance : BuyTokenBalance
  signature : Signature
  protocolFees : List (FeePolicy F)
  deriving DecidableEq

/-- What is left of an order. -/
structure Available where
  (sell buy : Asset)

namespace AppData

def hashValue : AppData → U256
  | .hash value => value
  | .full data => data.hash

def flashloan : AppData → Option Flashloan
  | .hash _ => none
  | .full data => data.flashloan

end AppData

def Available.isZero (available : Available) : Bool :=
  available.sell.amount.isZero || available.buy.amount.isZero

variable {F : Type}

namespace Order

variable (order : Order F)

/-- The amount that fills the order. -/
def target : U256 :=
  match order.side with
  | .buy => order.buy.amount
  | .sell => order.sell.amount

def signer : Address := order.signature.signer

def buysEth : Bool := order.buy.token = nativeToken

def solverDeterminesFee : Bool := order.kind = .limit

def available : Available :=
  match order.fill with
  | .no => ⟨order.sell, order.buy⟩
  | .yes available =>
    ⟨⟨(mulRatio order.sell.amount available order.target).getD 0, order.sell.token⟩,
      ⟨(mulRatioCeil order.buy.amount available order.target).getD 0, order.buy.token⟩⟩

end Order

/-! ## Trades -/

open WinnerSelection (MathError ClearingPrices PriceLimits mulDiv mulCeilDiv)

/-- Whether the solver determines the fee. -/
inductive Fee where
  | static
  | dynamic (fee : U256)
  deriving DecidableEq

inductive TradeError where
  | protocolFeeOnStaticOrder
  | invalidExecutedAmount
  | math (error : MathError)
  deriving DecidableEq

inductive FeeError where
  | protocolFeeOnStaticOrder
  | math (error : MathError)
  | fulfillment (error : TradeError)
  deriving DecidableEq

/-! ## Fulfillments -/

/-- The executed amount of a sell order does not contain the fee, but has to
leave room for it. -/
def validExecution {F : Type} (order : Order F) (executed : U256) (fee : Fee) : Bool :=
  let fee : U256 := match order.side, fee with
    | .sell, .dynamic fee => fee
    | _, _ => 0
  match executed.checkedAdd fee with
  | none => false
  | some executedWithFee =>
    match order.fill with
    | .yes available => executedWithFee ≤ available
    | .no => executedWithFee = order.target

def validFee {F : Type} (order : Order F) : Fee → Bool
  | .static => !order.solverDeterminesFee
  | .dynamic _ => order.solverDeterminesFee

/-- A valid execution of an order. -/
structure Fulfillment (F : Type) where
  order : Order F
  executed : U256
  fee : Fee
  haircutFee : U256
  valid : (validExecution order executed fee && validFee order fee) = true
  deriving DecidableEq

namespace Fulfillment

def new (order : Order F) (executed : U256) (fee : Fee) (haircutFee : U256) :
    Outcome TradeError (Fulfillment F) :=
  if valid : (validExecution order executed fee && validFee order fee) = true
  then .ok ⟨order, executed, fee, haircutFee, valid⟩
  else .err .invalidExecutedAmount

section

variable (fulfillment : Fulfillment F)

/-- Static fees count as zero. -/
def feeAmount : U256 :=
  match fulfillment.fee with
  | .static => 0
  | .dynamic fee => fee

def surplusFee : Option U256 :=
  match fulfillment.fee with
  | .static => none
  | .dynamic fee => some fee

section

variable (prices : ClearingPrices)

def haircutInSellToken : Outcome MathError U256 :=
  match fulfillment.order.side with
  | .sell => .ok fulfillment.haircutFee
  | .buy => mulDiv fulfillment.haircutFee prices.buy prices.sell

/-- What left the user's wallet.  The haircut raises what a buy order pays. -/
def sellAmount :
    Outcome MathError U256 := do
  let beforeFee ← match fulfillment.order.side with
    | .sell => .ok fulfillment.executed
    | .buy => mulDiv fulfillment.executed prices.buy prices.sell
  let withFee ← .okOr .overflow (beforeFee.checkedAdd fulfillment.feeAmount)
  let haircut ← match fulfillment.order.side with
    | .sell => .ok 0
    | .buy => fulfillment.haircutInSellToken prices
  .okOr .overflow (withFee.checkedAdd haircut)

/-- What the user received.  The haircut lowers what a sell order gets. -/
def buyAmount : Outcome MathError U256 :=
  match fulfillment.order.side with
  | .buy => .ok fulfillment.executed
  | .sell => do
    let base ← mulCeilDiv fulfillment.executed prices.sell prices.buy
    let haircutInBuy ← mulDiv fulfillment.haircutFee prices.sell prices.buy
    .okOr .negative (base.checkedSub haircutInBuy)

end

/-! ## Protocol fees -/

/-- Violated limits are no error here, the settlement's simulation finds them. -/
def surplusOverReferencePrice (limitSell limitBuy : U256) (prices : ClearingPrices) :
    Outcome TradeError U256 := do
  let executed := fulfillment.executed
  let executedSellAmount ← match fulfillment.order.side with
    | .buy => (mulDiv executed prices.buy prices.sell).mapError .math
    | .sell => .ok executed
  let fee ← .okOr .protocolFeeOnStaticOrder fulfillment.surplusFee
  let executedSellAmountWithFee ←
    .okOr (.math .overflow) (executedSellAmount.checkedAdd fee)
  match fulfillment.order.side with
  | .buy =>
    let limitSellAmount ←
      (mulDiv limitSell executed limitBuy).mapError .math
    return (limitSellAmount.checkedSub executedSellAmountWithFee).getD 0
  | .sell =>
    let limitBuyAmount ←
      (mulCeilDiv limitBuy executedSellAmountWithFee limitSell).mapError .math
    let executedBuyAmount ←
      (mulCeilDiv executed prices.sell prices.buy).mapError .math
    return (executedBuyAmount.checkedSub limitBuyAmount).getD 0

/-- The fee with the protocol fee on top.  A fee that is fixed in advance cannot
grow. -/
def raisedFee (protocolFee : U256) : Outcome FeeError Fee :=
  match fulfillment.surplusFee with
  | none =>
    if protocolFee ≠ 0 then .err .protocolFeeOnStaticOrder else .ok .static
  | some fee => do
    let raised ← .okOr (.math .overflow) (fee.checkedAdd protocolFee)
    return .dynamic raised

/-- Sell orders pay the protocol fee out of their executed amount. -/
def reducedExecuted (protocolFee : U256) : Outcome FeeError U256 :=
  match fulfillment.order.side with
  | .buy => .ok fulfillment.executed
  | .sell =>
    .okOr (.math .overflow) (fulfillment.executed.checkedSub protocolFee)

end

section

variable [Factor F] (fulfillment : Fulfillment F)

def feeFromSurplus (limits : PriceLimits)
    (prices : ClearingPrices) (factor : F) : Outcome FeeError U256 := do
  let surplus ← (fulfillment.surplusOverReferencePrice limits.sell limits.buy
    prices).mapError .fulfillment
  .okOr (.math .overflow) (Factor.checkedMul surplus factor)

def feeFromVolume (prices : ClearingPrices) (factor : F) : Outcome FeeError U256 := do
  let volume ← (match fulfillment.order.side with
    | .buy => fulfillment.sellAmount prices
    | .sell => fulfillment.buyAmount prices).mapError .math
  .okOr (.math .overflow) (Factor.checkedMul volume factor)

def calculateFee (limits : PriceLimits) (prices : ClearingPrices) (factor maxVolumeFactor : F) :
    Outcome FeeError U256 := do
  let feeFromSurplus ← fulfillment.feeFromSurplus limits prices factor
  let feeFromVolume ← fulfillment.feeFromVolume prices maxVolumeFactor
  return Min.min feeFromSurplus feeFromVolume

section

variable (prices : ClearingPrices)

def protocolFee :
    FeePolicy F → Outcome FeeError U256
  | .surplus factor maxVolumeFactor =>
    fulfillment.calculateFee ⟨fulfillment.order.sell.amount, fulfillment.order.buy.amount⟩ prices
      factor maxVolumeFactor
  | .priceImprovement factor maxVolumeFactor quote => do
    let order := fulfillment.order
    let limits ← (TradeMath.adjustQuoteToOrderLimits
      ⟨order.sell.amount, order.buy.amount, order.side⟩
      ⟨quote.sell.amount, quote.buy.amount, quote.fee.amount⟩).mapError .math
    fulfillment.calculateFee limits prices factor maxVolumeFactor
  | .volume factor => fulfillment.feeFromVolume prices factor

def protocolFeeInSellToken (policy : FeePolicy F) : Outcome FeeError U256 := do
  let fee ← fulfillment.protocolFee prices policy
  match fulfillment.order.side with
  | .buy => return fee
  | .sell => (mulDiv fee prices.buy prices.sell).mapError .math

def withProtocolFee (policy : FeePolicy F) : Outcome FeeError (Fulfillment F) := do
  let protocolFee ← fulfillment.protocolFeeInSellToken prices policy
  let fee ← fulfillment.raisedFee protocolFee
  let executed ← fulfillment.reducedExecuted protocolFee
  (new fulfillment.order executed fee fulfillment.haircutFee).mapError .fulfillment

def withProtocolFees : Outcome FeeError (Fulfillment F) :=
  fulfillment.order.protocolFees.foldlM
    (fun current policy => current.withProtocolFee prices policy) fulfillment

end

end

end Fulfillment

/-! ## Orders that a solver brings along -/

/-- An order that the solver brings along. -/
structure JitOrder where
  (sell buy : Asset)
  receiver : Address
  validTo : U32
  isPartiallyFillable : Bool
  appData : U256
  side : WinnerSelection.Side
  sellTokenBalance : SellTokenBalance
  buyTokenBalance : BuyTokenBalance
  signature : Signature
  uid : OrderUid
  deriving DecidableEq

def JitOrder.target (order : JitOrder) : U256 :=
  match order.side with
  | .buy => order.buy.amount
  | .sell => order.sell.amount

def JitOrder.signer (order : JitOrder) : Address := order.signature.signer

/-- Such an order is always executed as a whole, whatever the solver's response
said. -/
def JitOrder.partiallyFillable (_ : JitOrder) : Partial := .no

def validJit (order : JitOrder) (executed fee : U256) : Bool :=
  let feeTargetAmount : U256 := match order.side with
    | .buy => 0
    | .sell => fee
  match executed.checkedAdd feeTargetAmount with
  | none => false
  | some executedWithFee =>
    match order.partiallyFillable with
    | .yes available => executedWithFee ≤ available
    | .no => executedWithFee = order.target

/-- A valid execution of such an order. -/
structure Jit where
  order : JitOrder
  (executed fee : U256)
  valid : validJit order executed fee = true
  deriving DecidableEq

/-- Any trade of a solution. -/
inductive Trade (F : Type) where
  | fulfillment (trade : Fulfillment F)
  | jit (trade : Jit)
  deriving DecidableEq

end MandateSolver.Driver
