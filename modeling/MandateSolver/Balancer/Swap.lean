import MandateSolver.Number
import MandateSolver.Balancer.WeightedMath
import MandateSolver.Balancer.StableMath

/-!
# Balancer pools

Reserves are stored as the list of their entries in ascending order of the token.
-/

namespace MandateSolver.Balancer

open Outcome

def weightedSwapGasCost : Nat := 100000

def stableSwapGasCost : Nat := 183520

def addSwapFeeAmount (amount : U256) (swapFee : Bfp) : Outcome BalancerError U256 := do
  let amountWithFees ← (Bfp.fromWei amount).divUp swapFee.complement
  return amountWithFees.asUint256

def subtractSwapFeeAmount (amount : U256) (swapFee : Bfp) : Outcome BalancerError U256 := do
  let amount := Bfp.fromWei amount
  let feeAmount ← amount.mulUp swapFee
  let amountWithoutFees ← amount.sub feeAmount
  return amountWithoutFees.asUint256

/-- The balance of a token in a pool. -/
structure TokenState where
  balance : U256
  scalingFactor : Bfp

namespace TokenState

section

variable (state : TokenState)

def upscale (amount : U256) : Outcome BalancerError Bfp :=
  (Bfp.fromWei amount).mulDown state.scalingFactor

def upscaledBalance : Outcome BalancerError Bfp :=
  state.upscale state.balance

def downscaleUp (amount : Bfp) : Outcome BalancerError U256 := do
  let scaled ← amount.divUp state.scalingFactor
  return scaled.asUint256

def downscaleDown (amount : Bfp) : Outcome BalancerError U256 := do
  let scaled ← amount.divDown state.scalingFactor
  return scaled.asUint256

end

end TokenState

structure WeightedTokenState where
  common : TokenState
  weight : Bfp

inductive WeightedPoolVersion where
  | v0
  | v3Plus

/-- Try the given input amount, then up to six larger ones, until the output
covers the required amount. -/
def convergeInAmount (inAmount exactOutAmount : U256)
    (getAmountOut : U256 → Outcome Unit U256) : Outcome Unit U256 := do
  let outAmount ← getAmountOut inAmount
  if exactOutAmount ≤ outAmount then return inAmount
  else do
    let deficit ← ofOption
      ((exactOutAmount - outAmount).checkedMul inAmount)
    let bump ← deficit.ceilDiv (max outAmount 1)
    retry 6 (max bump 1)
where
  retry : Nat → U256 → Outcome Unit U256
    | 0, _ => .none
    | rounds + 1, bump => do
      let bumpedInAmount ← ofOption (inAmount.checkedAdd bump)
      let outAmount ← getAmountOut bumpedInAmount
      if exactOutAmount ≤ outAmount then return bumpedInAmount
      else retry rounds (bump * 10)

/-- A pool with token weights. -/
structure WeightedPool where
  address : Address
  swapFee : Bfp
  reserves : List (Address × WeightedTokenState)
  version : WeightedPoolVersion

namespace WeightedPool

def calcOutGivenIn : WeightedPoolVersion → Bfp → Bfp → Bfp → Bfp → Bfp → Outcome BalancerError Bfp
  | .v0 => WeightedMath.calcOutGivenIn
  | .v3Plus => WeightedMath.calcOutGivenInV3

def calcInGivenOut : WeightedPoolVersion → Bfp → Bfp → Bfp → Bfp → Bfp → Outcome BalancerError Bfp
  | .v0 => WeightedMath.calcInGivenOut
  | .v3Plus => WeightedMath.calcInGivenOutV3

def getAmountOut (pool : WeightedPool) (outToken : Address) (inAmount : U256)
    (inToken : Address) : Outcome Unit U256 := do
  let inReserves ← ofOption (pool.reserves.lookup inToken)
  let outReserves ← ofOption (pool.reserves.lookup outToken)
  let inAmountMinusFees ←
    (subtractSwapFeeAmount inAmount pool.swapFee).discardError
  let balanceIn ← inReserves.common.upscaledBalance.discardError
  let balanceOut ← outReserves.common.upscaledBalance.discardError
  let amountIn ← (inReserves.common.upscale inAmountMinusFees).discardError
  let outAmount ← (calcOutGivenIn pool.version balanceIn inReserves.weight
    balanceOut outReserves.weight amountIn).discardError
  (outReserves.common.downscaleDown outAmount).discardError

/-- The input amount, with the given search for one that is large enough. -/
def getAmountInBy (convergeInAmount : U256 → U256 → (U256 → Outcome Unit U256) → Outcome Unit U256)
    (pool : WeightedPool) (inToken : Address) (outAmount : U256) (outToken : Address) :
    Outcome Unit U256 := do
  let inReserves ← ofOption (pool.reserves.lookup inToken)
  let outReserves ← ofOption (pool.reserves.lookup outToken)
  let balanceIn ← inReserves.common.upscaledBalance.discardError
  let balanceOut ← outReserves.common.upscaledBalance.discardError
  let amountOut ← (outReserves.common.upscale outAmount).discardError
  let inAmount ← (calcInGivenOut pool.version balanceIn inReserves.weight
    balanceOut outReserves.weight amountOut).discardError
  let amountInBeforeFee ← (inReserves.common.downscaleUp inAmount).discardError
  let inAmount ←
    (addSwapFeeAmount amountInBeforeFee pool.swapFee).discardError
  convergeInAmount inAmount outAmount (fun amount => pool.getAmountOut outToken amount inToken)

def getAmountIn : WeightedPool → Address → U256 → Address → Outcome Unit U256 :=
  getAmountInBy convergeInAmount

end WeightedPool

/-- The amplification of a stable pool; the constructor of the source refuses
a zero precision. -/
structure AmplificationParameter where
  (factor precision : U256)
  precision_ne_zero : precision ≠ 0

namespace AmplificationParameter

def tryNew (factor precision : U256) : Option AmplificationParameter :=
  if nonzero : precision ≠ 0 then some ⟨factor, precision, nonzero⟩ else none

def withBase (parameter : AmplificationParameter) (base : U256) : Outcome Unit U256 := do
  let product ← ofOption (parameter.factor.checkedMul base)
  U256.div product parameter.precision

end AmplificationParameter

/-- A pool of tokens of similar value. -/
structure StablePool where
  address : Address
  swapFee : Bfp
  reserves : List (Address × TokenState)
  amplificationParameter : AmplificationParameter

namespace StablePool

/-- Scaled balances and the two traded indices. -/
structure BalancesWithIndices where
  (tokenIndexIn tokenIndexOut : Nat)
  balances : List Bfp

section

variable (pool : StablePool)

/-- Composable pools list their own token among their reserves. -/
def reservesWithoutBpt : List (Address × TokenState) :=
  pool.reserves.filter (fun reserve => reserve.1 ≠ pool.address)

def upscaleBalancesWithTokenIndices (inToken outToken : Address) :
    Outcome BalancerError BalancesWithIndices :=
  pool.reservesWithoutBpt.zipIdx.foldlM (fun state reserve => do
    let ((token, tokenState), index) := reserve
    let tokenIndexIn := if token = inToken then index else state.tokenIndexIn
    let tokenIndexOut :=
      if token = outToken then index else state.tokenIndexOut
    let balance ← tokenState.upscaledBalance
    return ⟨tokenIndexIn, tokenIndexOut, state.balances ++ [balance]⟩)
    ⟨0, 0, []⟩

def amplificationParameterU256 : Outcome Unit U256 :=
  pool.amplificationParameter.withBase StableMath.ampPrecision

def regularSwapGivenIn (outToken : Address)
    (inAmount : U256) (inToken : Address) : Outcome Unit U256 := do
  let inReserves ← ofOption (pool.reserves.lookup inToken)
  let outReserves ← ofOption (pool.reserves.lookup outToken)
  let state ←
    (pool.upscaleBalancesWithTokenIndices inToken outToken).discardError
  let inAmountMinusFees ←
    (subtractSwapFeeAmount inAmount pool.swapFee).discardError
  let amplification ← pool.amplificationParameterU256
  let amountIn ← (inReserves.upscale inAmountMinusFees).discardError
  let outAmount ← (StableMath.calcOutGivenIn amplification state.balances
    state.tokenIndexIn state.tokenIndexOut amountIn).discardError
  (outReserves.downscaleDown outAmount).discardError

def regularSwapGivenOut (inToken : Address)
    (outAmount : U256) (outToken : Address) : Outcome Unit U256 := do
  let inReserves ← ofOption (pool.reserves.lookup inToken)
  let outReserves ← ofOption (pool.reserves.lookup outToken)
  let state ←
    (pool.upscaleBalancesWithTokenIndices inToken outToken).discardError
  let amplification ← pool.amplificationParameterU256
  let amountOut ← (outReserves.upscale outAmount).discardError
  let inAmount ← (StableMath.calcInGivenOut amplification state.balances
    state.tokenIndexIn state.tokenIndexOut amountOut).discardError
  let amountInBeforeFee ← (inReserves.downscaleUp inAmount).discardError
  (addSwapFeeAmount amountInBeforeFee pool.swapFee).discardError

end

/-- Swaps with the pool's own token are not supported. -/
def swapWithBpt : Outcome Unit U256 := .none

def getAmountOut (pool : StablePool) (outToken : Address) (inAmount : U256)
    (inToken : Address) : Outcome Unit U256 :=
  if inToken = pool.address ∨ outToken = pool.address then swapWithBpt
  else pool.regularSwapGivenIn outToken inAmount inToken

def getAmountIn (pool : StablePool) (inToken : Address) (outAmount : U256)
    (outToken : Address) : Outcome Unit U256 :=
  if inToken = pool.address ∨ outToken = pool.address then swapWithBpt
  else do
    let inAmount ← pool.regularSwapGivenOut inToken outAmount outToken
    convergeInAmount inAmount outAmount (fun amount => pool.getAmountOut outToken amount inToken)

end StablePool

/-! ## Selling to a pool never aborts -/

variable (state : TokenState)

@[simp] theorem subtractSwapFeeAmount_noPanic (amount : U256) (swapFee : Bfp) :
    NoPanic (subtractSwapFeeAmount amount swapFee) := by
  simp [subtractSwapFeeAmount]

@[simp] theorem TokenState.upscale_noPanic (amount : U256) : NoPanic (state.upscale amount) := by
  simp [upscale]

@[simp] theorem TokenState.upscaledBalance_noPanic : NoPanic state.upscaledBalance :=
  state.upscale_noPanic _

@[simp] theorem TokenState.downscaleDown_noPanic (amount : Bfp) :
    NoPanic (state.downscaleDown amount) := by
  simp [downscaleDown]

@[simp] theorem WeightedPool.calcOutGivenIn_noPanic (version : WeightedPoolVersion)
    (balanceIn weightIn balanceOut weightOut amountIn : Bfp) :
    NoPanic (calcOutGivenIn version balanceIn weightIn balanceOut weightOut amountIn) := by
  cases version with
  | v0 =>
    exact WeightedMath.calcOutGivenInWith_noPanic Bfp.powUp_noPanic
      _ _ _ _ _
  | v3Plus =>
    exact WeightedMath.calcOutGivenInWith_noPanic Bfp.powUpV3_noPanic
      _ _ _ _ _

theorem WeightedPool.getAmountOut_noPanic (pool : WeightedPool)
    (outToken : Address) (inAmount : U256) (inToken : Address) :
    NoPanic (pool.getAmountOut outToken inAmount inToken) := by
  simp [getAmountOut]

@[simp] theorem AmplificationParameter.withBase_noPanic
    (parameter : AmplificationParameter) (base : U256) : NoPanic (parameter.withBase base) :=
  NoPanic.seq (by simp) fun _ => U256.noPanic_div_iff.mpr parameter.precision_ne_zero

@[simp] theorem StablePool.upscaleBalancesWithTokenIndices_noPanic (pool : StablePool)
    (inToken outToken : Address) :
    NoPanic (pool.upscaleBalancesWithTokenIndices inToken outToken) := by
  simp [upscaleBalancesWithTokenIndices]

theorem StablePool.getAmountOut_noPanic (pool : StablePool)
    (outToken : Address) (inAmount : U256) (inToken : Address) :
    NoPanic (pool.getAmountOut outToken inAmount inToken) := by
  unfold getAmountOut
  split <;> simp [swapWithBpt, regularSwapGivenIn,
    amplificationParameterU256, StableMath.calcOutGivenIn_noPanic]

end MandateSolver.Balancer
