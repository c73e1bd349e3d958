import MandateSolver.Eth
import MandateSolver.Foundation.ProductFormula

/-!
# Constant product pools

Asking a pool about a token it does not hold aborts; arithmetic failures give no amount.
-/

namespace MandateSolver

/-- A fraction of 32-bit words. -/
structure Ratio32 where
  (numer denom : U32)
  denom_ne_zero : denom ≠ 0
  deriving DecidableEq

namespace Ratio32

theorem reduced_denom_ne_zero {numer denom : U32} (nonzero : denom ≠ 0) :
    BitVec.ofNat 32 (denom.toNat / Nat.gcd numer.toNat denom.toNat) ≠ 0 := by
  have denomPos := BitVec.toNat_pos_of_ne_zero nonzero
  have quotientPos := Nat.div_pos (Nat.gcd_le_right numer.toNat denomPos)
    (Nat.gcd_pos_of_pos_right numer.toNat denomPos)
  have quotientLe := Nat.div_le_self denom.toNat (Nat.gcd numer.toNat denom.toNat)
  intro zero
  have value := congrArg BitVec.toNat zero
  simp only [BitVec.ofNat_eq_ofNat, BitVec.toNat_ofNat] at value
  omega

def new {ε : Type} (numer denom : U32) : Outcome ε Ratio32 :=
  if nonzero : denom ≠ 0 then
    .ok ⟨BitVec.ofNat 32 (numer.toNat / Nat.gcd numer.toNat denom.toNat),
      BitVec.ofNat 32 (denom.toNat / Nat.gcd numer.toNat denom.toNat),
      reduced_denom_ne_zero nonzero⟩
  else .panic (.assertion "denominator == 0")

def checkedSub32 (left right : U32) : Option U32 :=
  if right ≤ left then some (left - right) else none

end Ratio32

variable {pool : Pool}

namespace UniswapV2

def poolSwapGasCost : Nat := 60000

def poolMaxReserves : U256 := BitVec.ofNat 256 (2 ^ 112 - 1)

/-- A pool with constant product. -/
structure Pool where
  address : Address
  tokens : TokenPair
  reserves : U128 × U128
  fee : Ratio32

def checkFinalReserves (amountIn amountOut reserveIn reserveOut : U256) : Option (U256 × U256) := do
  let finalReserveIn ← reserveIn.checkedAdd amountIn
  let finalReserveOut ← reserveOut.checkedSub amountOut
  if poolMaxReserves < finalReserveIn then none
  else some (finalReserveIn, finalReserveOut)

namespace Pool

section

variable (pool)

/-- The reserve of the given token, that of the other one, and the other
token. -/
def getRelativeReserves (token : Address) : Outcome Unit (U256 × U256 × Address) :=
  if token = pool.tokens.first then
    .ok (pool.reserves.1.setWidth 256, pool.reserves.2.setWidth 256, pool.tokens.second)
  else if token = pool.tokens.second then
    .ok (pool.reserves.2.setWidth 256, pool.reserves.1.setWidth 256, pool.tokens.first)
  else .panic (.assertion "Token not part of pool")

def amountOut (amountIn reserveIn reserveOut : U256) : Option U256 :=
  if amountIn.isZero || reserveIn.isZero || reserveOut.isZero then none
  else do
    let feeFactor ← Ratio32.checkedSub32 pool.fee.denom pool.fee.numer
    let amountInWithFee ← amountIn.checkedMul (feeFactor.setWidth 256)
    let numerator ← U256.checkedMul amountInWithFee reserveOut
    let scaledReserve ← reserveIn.checkedMul (pool.fee.denom.setWidth 256)
    let denominator ← U256.checkedAdd scaledReserve amountInWithFee
    let amountOut ← U256.checkedDiv numerator denominator
    let _ ← checkFinalReserves amountIn amountOut reserveIn reserveOut
    return amountOut

def amountIn (amountOut reserveIn reserveOut : U256) : Option U256 :=
  if amountOut.isZero || reserveIn.isZero || reserveOut.isZero then none
  else do
    let product ← reserveIn.checkedMul amountOut
    let numerator ← U256.checkedMul product (pool.fee.denom.setWidth 256)
    let remaining ← reserveOut.checkedSub amountOut
    let feeFactor ← Ratio32.checkedSub32 pool.fee.denom pool.fee.numer
    let denominator ← U256.checkedMul remaining (feeFactor.setWidth 256)
    let quotient ← U256.checkedDiv numerator denominator
    let amountIn ← U256.checkedAdd quotient 1
    let _ ← checkFinalReserves amountIn amountOut reserveIn reserveOut
    return amountIn

def getAmountOut (outToken : Address) (inAmount : U256)
    (inToken : Address) : Outcome Unit U256 := do
  let (reserveIn, reserveOut, token) ← pool.getRelativeReserves inToken
  let outAmount ← Outcome.ofOption (pool.amountOut inAmount reserveIn reserveOut)
  if token = outToken then return outAmount
  else .panic (.assertion "")

def getAmountIn (inToken : Address) (outAmount : U256)
    (outToken : Address) : Outcome Unit U256 := do
  let (reserveOut, reserveIn, token) ← pool.getRelativeReserves outToken
  let inAmount ← Outcome.ofOption (pool.amountIn outAmount reserveIn reserveOut)
  if token = inToken then return inAmount
  else .panic (.assertion "")

end

theorem getRelativeReserves_of_tokens {pool : Pool} {token otherToken : Address}
    (matching : TokenPair.new otherToken token = some pool.tokens) :
    ∃ reserve otherReserve,
      pool.getRelativeReserves token = .ok (reserve, otherReserve, otherToken) := by
  have distinct := pool.tokens.first_ne_second
  unfold getRelativeReserves
  rcases TokenPair.new_eq_some_iff.mp matching with ⟨rfl, rfl⟩ | ⟨rfl, rfl⟩
  · rw [if_neg distinct.symm, if_pos rfl]
    exact ⟨_, _, rfl⟩
  · rw [if_pos rfl]
    exact ⟨_, _, rfl⟩

theorem getAmountOut_noPanic {pool : Pool} {outToken inToken : Address}
    (matching : TokenPair.new outToken inToken = some pool.tokens) (inAmount : U256) :
    Outcome.NoPanic (pool.getAmountOut outToken inAmount inToken) := by
  obtain ⟨_, _, reserves⟩ := getRelativeReserves_of_tokens matching
  rw [getAmountOut, reserves]
  simp

end Pool

end UniswapV2

/-! ## Prices -/

namespace Ratio32

theorem exists_factor_of_new {ε : Type} {numer denom : U32} {ratio : Ratio32}
    (built : (new numer denom : Outcome ε Ratio32) = .ok ratio) :
    ∃ factor, 0 < factor ∧ numer.toNat = ratio.numer.toNat * factor ∧
      denom.toNat = ratio.denom.toNat * factor := by
  unfold new at built
  split at built
  · rename_i nonzero
    obtain rfl := Outcome.ok.inj built
    have denomPos := BitVec.toNat_pos_of_ne_zero nonzero
    refine ⟨Nat.gcd numer.toNat denom.toNat, Nat.gcd_pos_of_pos_right numer.toNat denomPos, ?_, ?_⟩
    · have small := Nat.div_le_self numer.toNat (Nat.gcd numer.toNat denom.toNat)
      rw [BitVec.toNat_ofNat, Nat.mod_eq_of_lt (by omega),
        Nat.div_mul_cancel (Nat.gcd_dvd_left _ _)]
    · have small := Nat.div_le_self denom.toNat (Nat.gcd numer.toNat denom.toNat)
      rw [BitVec.toNat_ofNat, Nat.mod_eq_of_lt (by omega),
        Nat.div_mul_cancel (Nat.gcd_dvd_right _ _)]
  · cases built

end Ratio32

namespace UniswapV2

open ProductFormula Option Outcome

theorem exists_checkFinalReserves_iff {amountIn amountOut reserveIn reserveOut : U256}
    (bounded : reserveIn.toNat < 2 ^ 112) :
    (∃ final, checkFinalReserves amountIn amountOut reserveIn reserveOut = some final) ↔
      reserveIn.toNat + amountIn.toNat < 2 ^ 112 ∧ amountOut.toNat ≤ reserveOut.toNat := by
  have limit : poolMaxReserves.toNat = 2 ^ 112 - 1 := by decide
  simp only [checkFinalReserves, bind_eq_bind, bind_eq_some_iff,
    U256.checkedAdd_eq_some_iff, U256.checkedSub_eq_some_iff]
  constructor
  · intro checked
    obtain ⟨_, finalIn, isSum, finalOut, isRest, kept⟩ := checked
    split at kept
    · cases kept
    · rename_i small
      rw [not_lt, BitVec.le_def] at small
      omega
  · intro fits
    obtain ⟨finalIn, isSum⟩ := U256.exists_toNat_eq
      (show reserveIn.toNat + amountIn.toNat < 2 ^ 256 by omega)
    obtain ⟨finalOut, isRest⟩ := U256.exists_toNat_eq
      (show reserveOut.toNat - amountOut.toNat < 2 ^ 256 by omega)
    have small : ¬ poolMaxReserves < finalIn := by
      rw [not_lt, BitVec.le_def]
      omega
    exact ⟨(finalIn, finalOut), finalIn, isSum, finalOut, by omega, if_neg small⟩

namespace Pool

section

variable {reserveIn reserveOut amountIn amountOut : U256}

def weightedReserve (pool : Pool) (reserveIn : ℕ) : ℕ :=
  reserveIn * pool.fee.denom.toNat

def weightedPayment (pool : Pool) (amountIn : ℕ) : ℕ :=
  amountIn * (pool.fee.denom.toNat - pool.fee.numer.toNat)

theorem exists_feeFactor (feeBelowOne : pool.fee.numer < pool.fee.denom) :
    ∃ factor, Ratio32.checkedSub32 pool.fee.denom pool.fee.numer = some factor ∧
      factor.toNat = pool.fee.denom.toNat - pool.fee.numer.toNat ∧ 0 < factor.toNat := by
  have less : pool.fee.numer.toNat < pool.fee.denom.toNat := feeBelowOne
  refine ⟨pool.fee.denom - pool.fee.numer, ?_, ?_, ?_⟩
  · exact if_pos (le_of_lt feeBelowOne)
  · exact BitVec.toNat_sub_of_le (le_of_lt feeBelowOne)
  · rw [BitVec.toNat_sub_of_le (le_of_lt feeBelowOne)]
    omega

theorem isZero_or_iff {first second third : U256} :
    (first.isZero || second.isZero || third.isZero) = true ↔
      ¬(0 < first.toNat ∧ 0 < second.toNat ∧ 0 < third.toNat) := by
  have zero (value : U256) : value.isZero = true ↔ ¬0 < value.toNat := by
    rw [U256.isZero, decide_eq_true_eq, ← U256.toNat_eq_zero, Nat.not_lt, Nat.le_zero]
  rw [Bool.or_eq_true, Bool.or_eq_true, zero, zero, zero, ← not_and_or, ← not_and_or, and_assoc]

/-- No product of the formula leaves the range of the numbers. -/
theorem products_lt {reserveIn payment reserveOut factor denom : ℕ}
    (boundedIn : reserveIn < 2 ^ 112) (small : payment < 2 ^ 112)
    (boundedOut : reserveOut < 2 ^ 112) (factorFits : factor < 2 ^ 32)
    (denomFits : denom < 2 ^ 32) :
    payment * factor < 2 ^ 256 ∧ reserveIn * denom < 2 ^ 256 ∧
      payment * factor * reserveOut < 2 ^ 256 ∧ reserveIn * denom + payment * factor < 2 ^ 256 := by
  have withFee := Nat.mul_lt_mul'' small factorFits
  have scaled := Nat.mul_lt_mul'' boundedIn denomFits
  have numerator := Nat.mul_lt_mul'' withFee boundedOut
  omega

section

variable (feeBelowOne : pool.fee.numer < pool.fee.denom) (boundedIn : reserveIn.toNat < 2 ^ 112)
include feeBelowOne boundedIn

theorem amountOut_eq_some_iff (boundedOut : reserveOut.toNat < 2 ^ 112) :
    pool.amountOut amountIn reserveIn reserveOut = some amountOut ↔
      ((0 < amountIn.toNat ∧ 0 < reserveIn.toNat ∧ 0 < reserveOut.toNat) ∧
        reserveIn.toNat + amountIn.toNat < 2 ^ 112) ∧
      amountOut.toNat = received (pool.weightedReserve reserveIn.toNat)
        reserveOut.toNat (pool.weightedPayment amountIn.toNat) := by
  obtain ⟨factor, isFactor, factorEq, factorPos⟩ := exists_feeFactor feeBelowOne
  have denomPos := BitVec.toNat_pos_of_ne_zero pool.fee.denom_ne_zero
  unfold Pool.amountOut weightedReserve weightedPayment
  rw [isFactor, ← factorEq]
  split
  · rename_i zero
    constructor
    · intro absurd
      cases absurd
    · intro computed
      exact absurd computed.1.1 (isZero_or_iff.mp zero)
  · rename_i nonzero
    rw [isZero_or_iff, not_not] at nonzero
    have weightPos := Nat.mul_pos nonzero.2.1 denomPos
    rw [and_iff_right nonzero]
    simp only [bind_eq_bind, bind_some, bind_eq_some_iff,
      U256.checkedMul_eq_some_iff, U256.checkedAdd_eq_some_iff,
      U256.checkedDiv_eq_some_iff, pure_def, Option.some.injEq]
    constructor
    · intro computed
      obtain ⟨withFee, isWithFee, numerator, isNumerator, scaled, isScaled,
        denominator, isDenominator, _, ⟨_, isQuotient⟩, final, isFinal, rfl⟩ := computed
      obtain ⟨fits, _⟩ := (exists_checkFinalReserves_iff boundedIn).mp ⟨final, isFinal⟩
      rw [isNumerator, isDenominator, isScaled, isWithFee] at isQuotient
      exact ⟨fits, isQuotient⟩
    · intro computed
      obtain ⟨fits, isQuotient⟩ := computed
      have outFits : amountOut.toNat < reserveOut.toNat := by
        rw [isQuotient]
        exact received_lt weightPos nonzero.2.2
      obtain ⟨withFeeFits, scaledFits, numeratorFits, denominatorFits⟩ :=
        products_lt boundedIn (show amountIn.toNat < 2 ^ 112 by omega) boundedOut
          factor.isLt pool.fee.denom.isLt
      obtain ⟨withFee, isWithFee⟩ := U256.exists_toNat_eq withFeeFits
      obtain ⟨numerator, isNumerator⟩ := U256.exists_toNat_eq numeratorFits
      obtain ⟨scaled, isScaled⟩ := U256.exists_toNat_eq scaledFits
      obtain ⟨denominator, isDenominator⟩ := U256.exists_toNat_eq denominatorFits
      obtain ⟨final, isFinal⟩ := (exists_checkFinalReserves_iff boundedIn).mpr ⟨fits, outFits.le⟩
      refine ⟨withFee, isWithFee, numerator, by rw [isNumerator, isWithFee], scaled,
        isScaled, denominator, by rw [isDenominator, isScaled, isWithFee], amountOut,
        ⟨by omega, ?_⟩, final, isFinal, rfl⟩
      rw [isNumerator, isDenominator, isQuotient]
      rfl

theorem eq_of_amountIn_eq_some
    (computed : pool.amountIn amountOut reserveIn reserveOut = some amountIn) :
    (0 < reserveIn.toNat ∧ 0 < reserveOut.toNat) ∧
      reserveIn.toNat + amountIn.toNat < 2 ^ 112 ∧ amountOut.toNat < reserveOut.toNat ∧
      amountIn.toNat = pool.weightedReserve reserveIn.toNat * amountOut.toNat /
        ((reserveOut.toNat - amountOut.toNat) *
          (pool.fee.denom.toNat - pool.fee.numer.toNat)) + 1 := by
  obtain ⟨factor, isFactor, factorEq, factorPos⟩ := exists_feeFactor feeBelowOne
  unfold Pool.amountIn at computed
  rw [isFactor] at computed
  rw [← factorEq]
  split at computed
  · cases computed
  · rename_i nonzero
    rw [isZero_or_iff, not_not] at nonzero
    simp only [bind_eq_bind, bind_some, bind_eq_some_iff,
      U256.checkedMul_eq_some_iff, U256.checkedAdd_eq_some_iff,
      U256.checkedSub_eq_some_iff, U256.checkedDiv_eq_some_iff, pure_def,
      Option.some.injEq]
      at computed
    obtain ⟨product, isProduct, numerator, isNumerator, remaining, isRemaining,
      denominator, isDenominator, quotient, ⟨divides, isQuotient⟩, _, isAmount,
      final, isFinal, rfl⟩ := computed
    obtain ⟨fits, _⟩ := (exists_checkFinalReserves_iff boundedIn).mp ⟨final, isFinal⟩
    rw [isDenominator] at divides
    have left := Nat.pos_of_mul_pos_right divides
    refine ⟨nonzero.2, fits, by omega, ?_⟩
    rw [isAmount, isQuotient, isNumerator, isDenominator, isProduct, isRemaining,
      Nat.add_sub_cancel_left, Nat.mul_right_comm]
    rfl

end

end

/-! ## Amounts of the pool -/

/-- The pool's reserve of a token. -/
def reserve (pool : Pool) (token : Address) : ℕ :=
  if token = pool.tokens.first then pool.reserves.1.toNat else pool.reserves.2.toNat

/-- Reserves as in the contract, and a proper fee. -/
structure WithinLimits (pool : Pool) (numer denom : U32) : Prop where
  first : pool.reserves.1.toNat < 2 ^ 112
  second : pool.reserves.2.toNat < 2 ^ 112
  fee : (Ratio32.new numer denom : Outcome Unit Ratio32) = .ok pool.fee
  below : numer < denom

section

variable {numer denom : U32} {inToken outToken : Address}

theorem WithinLimits.reserve_lt (limits : pool.WithinLimits numer denom)
    (token : Address) : pool.reserve token < 2 ^ 112 := by
  unfold reserve
  split
  · exact limits.first
  · exact limits.second

theorem WithinLimits.exists_factor (limits : pool.WithinLimits numer denom) :
    pool.fee.numer < pool.fee.denom ∧ ∃ factor, 0 < factor ∧
      ∀ amount, amount * denom.toNat = pool.weightedReserve amount * factor ∧
        amount * (denom.toNat - numer.toNat) = pool.weightedPayment amount * factor := by
  obtain ⟨factor, positive, isNumer, isDenom⟩ := Ratio32.exists_factor_of_new limits.fee
  have below : numer.toNat < denom.toNat := limits.below
  refine ⟨?_, factor, positive, ?_⟩
  · rw [isNumer, isDenom] at below
    exact Nat.lt_of_mul_lt_mul_right below
  · intro amount
    unfold weightedReserve weightedPayment
    rw [isNumer, isDenom, ← Nat.sub_mul, Nat.mul_assoc, Nat.mul_assoc]
    exact ⟨rfl, rfl⟩

theorem getAmountOut_eq {reserveIn reserveOut : U256}
    (reserves : pool.getRelativeReserves inToken = .ok (reserveIn, reserveOut, outToken))
    (amountIn : U256) : pool.getAmountOut outToken amountIn inToken =
      .ofOption (pool.amountOut amountIn reserveIn reserveOut) := by
  simp only [Pool.getAmountOut, reserves, ok_bind]
  exact bind_pure _

theorem getAmountIn_eq {reserveIn reserveOut : U256}
    (reserves : pool.getRelativeReserves outToken = .ok (reserveOut, reserveIn, inToken))
    (amountOut : U256) : pool.getAmountIn inToken amountOut outToken =
      .ofOption (pool.amountIn amountOut reserveIn reserveOut) := by
  simp only [Pool.getAmountIn, reserves, ok_bind]
  exact bind_pure _

theorem exists_reserves (traded : TokenPair.new inToken outToken = some pool.tokens) :
    ∃ reserveIn reserveOut,
      (reserveIn.toNat = pool.reserve inToken ∧ reserveOut.toNat = pool.reserve outToken) ∧
      (∀ amountIn, pool.getAmountOut outToken amountIn inToken =
        .ofOption (pool.amountOut amountIn reserveIn reserveOut)) ∧
      ∀ amountOut, pool.getAmountIn inToken amountOut outToken =
        .ofOption (pool.amountIn amountOut reserveIn reserveOut) := by
  have distinct := pool.tokens.first_ne_second
  have wide (value : U128) : (value.setWidth 256).toNat = value.toNat :=
    BitVec.toNat_setWidth_of_le (by decide)
  have ofFirst : pool.getRelativeReserves pool.tokens.first =
      .ok (pool.reserves.1.setWidth 256, pool.reserves.2.setWidth 256,
        pool.tokens.second) := if_pos rfl
  have ofSecond : pool.getRelativeReserves pool.tokens.second =
      .ok (pool.reserves.2.setWidth 256, pool.reserves.1.setWidth 256, pool.tokens.first) := by
    rw [getRelativeReserves, if_neg distinct.symm, if_pos rfl]
  unfold reserve
  rcases TokenPair.new_eq_some_iff.mp traded with ⟨rfl, rfl⟩ | ⟨rfl, rfl⟩
  · rw [if_pos rfl, if_neg distinct.symm]
    exact ⟨_, _, ⟨wide _, wide _⟩, getAmountOut_eq ofFirst, getAmountIn_eq ofSecond⟩
  · rw [if_pos rfl, if_neg distinct.symm]
    exact ⟨_, _, ⟨wide _, wide _⟩, getAmountOut_eq ofSecond, getAmountIn_eq ofFirst⟩

/-- The contract takes the amount. -/
def Accepts (pool : Pool) (inToken outToken : Address) (amountIn : U256) : Prop :=
  (0 < amountIn.toNat ∧ 0 < pool.reserve inToken ∧ 0 < pool.reserve outToken) ∧
    pool.reserve inToken + amountIn.toNat < 2 ^ 112

section

variable (limits : pool.WithinLimits numer denom)
include limits

section

variable (traded : TokenPair.new inToken outToken = some pool.tokens) {amountIn : U256}
include traded

theorem getAmountOut_eq_ok_iff {amountOut : U256} :
    pool.getAmountOut outToken amountIn inToken = .ok amountOut ↔
      pool.Accepts inToken outToken amountIn ∧
        amountOut.toNat = received (pool.weightedReserve (pool.reserve inToken))
          (pool.reserve outToken) (pool.weightedPayment amountIn.toNat) := by
  obtain ⟨_, _, ⟨isIn, isOut⟩, priced, _⟩ := exists_reserves traded
  obtain ⟨feeBelowOne, _⟩ := limits.exists_factor
  have boundedIn := limits.reserve_lt inToken
  have boundedOut := limits.reserve_lt outToken
  rw [Accepts, ← isIn, ← isOut] at *
  rw [← amountOut_eq_some_iff feeBelowOne boundedIn boundedOut, priced, okOr_eq_ok_iff]

theorem getAmountOut_of_accepts
    (accepted : pool.Accepts inToken outToken amountIn) :
    ∃ amountOut, pool.getAmountOut outToken amountIn inToken = .ok amountOut := by
  have small : received (pool.weightedReserve (pool.reserve inToken))
      (pool.reserve outToken) (pool.weightedPayment amountIn.toNat) < pool.reserve outToken := by
    apply received_lt _ accepted.1.2.2
    exact Nat.mul_pos accepted.1.2.1 (BitVec.toNat_pos_of_ne_zero pool.fee.denom_ne_zero)
  have bounded := limits.reserve_lt outToken
  obtain ⟨amountOut, isOut⟩ := U256.exists_toNat_eq
    (show received (pool.weightedReserve (pool.reserve inToken))
      (pool.reserve outToken) (pool.weightedPayment amountIn.toNat) < 2 ^ 256 by omega)
  exact ⟨amountOut, (getAmountOut_eq_ok_iff limits traded).mpr ⟨accepted, isOut⟩⟩

theorem getAmountOut_of_not_accepts
    (rejected : ¬pool.Accepts inToken outToken amountIn) :
    pool.getAmountOut outToken amountIn inToken = .none := by
  have unpriced amountOut : pool.getAmountOut outToken amountIn inToken ≠ .ok amountOut := by
    intro priced
    exact rejected ((getAmountOut_eq_ok_iff limits traded).mp priced).1
  obtain ⟨reserveIn, reserveOut, _, priced, _⟩ := exists_reserves traded
  rw [priced] at unpriced ⊢
  cases computed : pool.amountOut amountIn reserveIn reserveOut with
  | none => rfl
  | some amountOut =>
    rw [computed] at unpriced
    exact absurd rfl (unpriced amountOut)

end

end

/-- Payments are priced by the product of the reserves, rounded to the advantage of
the pool.  They are turned down only if there is nothing to trade or the pool would
get too large. -/
theorem getAmountOut_follows_product (limits : pool.WithinLimits numer denom)
    (traded : TokenPair.new inToken outToken = some pool.tokens) :
    (∀ amountIn, if amountIn = 0 ∨ pool.reserve inToken = 0 ∨ pool.reserve outToken = 0 ∨
          2 ^ 112 - 1 < pool.reserve inToken + amountIn.toNat then
        pool.getAmountOut outToken amountIn inToken = .none
      else ∃ amountOut, pool.getAmountOut outToken amountIn inToken = .ok amountOut) ∧
    (∀ amountIn amountOut, pool.getAmountOut outToken amountIn inToken = .ok amountOut →
      amountOut.toNat < pool.reserve outToken ∧
        IsGreatest {amount : ℤ | Keeps (pool.reserve inToken * denom.toNat)
          (pool.reserve outToken) (amountIn.toNat * (denom.toNat - numer.toNat)) amount}
          amountOut.toNat) ∧
    ∀ amountIn larger amountOut otherOut, amountIn ≤ larger →
      pool.getAmountOut outToken amountIn inToken = .ok amountOut →
      pool.getAmountOut outToken larger inToken = .ok otherOut → amountOut ≤ otherOut := by
  obtain ⟨_, factor, factorPos, scaled⟩ := limits.exists_factor
  have denomPos := BitVec.toNat_pos_of_ne_zero pool.fee.denom_ne_zero
  refine ⟨?_, ?_, ?_⟩
  · intro amountIn
    split
    · rename_i unpriced
      rw [← U256.toNat_eq_zero] at unpriced
      apply getAmountOut_of_not_accepts limits traded
      unfold Accepts
      omega
    · rename_i priced
      rw [← U256.toNat_eq_zero] at priced
      apply getAmountOut_of_accepts limits traded
      unfold Accepts
      omega
  · intro amountIn amountOut priced
    obtain ⟨⟨⟨_, inPos, outPos⟩, _⟩, isOut⟩ := (getAmountOut_eq_ok_iff limits traded).mp priced
    have weightPos := Nat.mul_pos inPos denomPos
    rw [isOut, (scaled _).1, (scaled _).2]
    simp only [keeps_scale_iff factorPos]
    exact ⟨received_lt weightPos outPos, received_isGreatest weightPos⟩
  · intro amountIn larger amountOut otherOut le priced otherPriced
    obtain ⟨⟨⟨_, inPos, _⟩, _⟩, isOut⟩ := (getAmountOut_eq_ok_iff limits traded).mp priced
    obtain ⟨_, isOther⟩ := (getAmountOut_eq_ok_iff limits traded).mp otherPriced
    rw [BitVec.le_def, isOut, isOther]
    apply received_mono (Nat.mul_pos inPos denomPos)
    exact Nat.mul_le_mul_right _ le

def smallPool : Pool := ⟨7, ⟨11, 12, by decide⟩, (100, 200), ⟨3, 1000, by decide⟩⟩

theorem smallPool_withinLimits : smallPool.WithinLimits 6 2000 :=
  ⟨by decide, by decide, by decide +kernel, by decide⟩

theorem getAmountOut_follows_product_smallPool :
    IsGreatest {amount : ℤ | Keeps (100 * 2000) 200 (10 * (2000 - 6)) amount} 18 := by
  have follows := getAmountOut_follows_product smallPool_withinLimits
    (show TokenPair.new 11 12 = some smallPool.tokens by decide)
  exact (follows.2.1 10 18 (by decide +kernel)).2

/-- The payment asked for an amount is enough for it, and at most one more than any
payment that is enough. -/
theorem getAmountIn_sufficient_and_tight (limits : pool.WithinLimits numer denom)
    (traded : TokenPair.new inToken outToken = some pool.tokens) (amountOut amountIn : U256)
    (asked : pool.getAmountIn inToken amountOut outToken = .ok amountIn) :
    (∃ paid, pool.getAmountOut outToken amountIn inToken = .ok paid ∧ amountOut ≤ paid) ∧
    ∀ other paid, pool.getAmountOut outToken other inToken = .ok paid →
      amountOut ≤ paid → amountIn.toNat ≤ other.toNat + 1 := by
  obtain ⟨_, _, ⟨isIn, isOut⟩, _, priced⟩ := exists_reserves traded
  obtain ⟨feeBelowOne, _⟩ := limits.exists_factor
  have boundedIn := limits.reserve_lt inToken
  rw [← isIn] at boundedIn
  rw [priced, okOr_eq_ok_iff] at asked
  obtain ⟨⟨inPos, outPos⟩, fits, notAll, isAsked⟩ :=
    eq_of_amountIn_eq_some feeBelowOne boundedIn asked
  rw [isIn] at inPos fits isAsked
  rw [isOut] at outPos notAll isAsked
  have weightPos : 0 < pool.weightedReserve (pool.reserve inToken) :=
    Nat.mul_pos inPos (BitVec.toNat_pos_of_ne_zero pool.fee.denom_ne_zero)
  have feeLess : pool.fee.numer.toNat < pool.fee.denom.toNat := feeBelowOne
  have leftPos : 0 < (pool.reserve outToken - amountOut.toNat) *
      (pool.fee.denom.toNat - pool.fee.numer.toNat) :=
    Nat.mul_pos (by omega) (by omega)
  -- a payment is enough when it covers what is divided by the rest of the reserve
  have enough payment : amountOut.toNat ≤
      received (pool.weightedReserve (pool.reserve inToken)) (pool.reserve outToken)
        (pool.weightedPayment payment) ↔
      pool.weightedReserve (pool.reserve inToken) * amountOut.toNat ≤
        payment * ((pool.reserve outToken - amountOut.toNat) *
          (pool.fee.denom.toNat - pool.fee.numer.toNat)) := by
    rw [le_received_iff_covers weightPos notAll.le, weightedPayment, Nat.mul_assoc,
      Nat.mul_comm (pool.fee.denom.toNat - pool.fee.numer.toNat)]
  constructor
  · have accepted : pool.Accepts inToken outToken amountIn :=
      ⟨⟨isAsked ▸ Nat.succ_pos _, inPos, outPos⟩, fits⟩
    obtain ⟨paid, isPaid⟩ := getAmountOut_of_accepts limits traded accepted
    refine ⟨paid, isPaid, ?_⟩
    rw [BitVec.le_def, ((getAmountOut_eq_ok_iff limits traded).mp isPaid).2, enough, isAsked]
    exact (Nat.lt_mul_of_div_lt (Nat.lt_succ_self _) leftPos).le
  · intro other paid isPaid covers
    rw [BitVec.le_def, ((getAmountOut_eq_ok_iff limits traded).mp isPaid).2, enough] at covers
    rw [isAsked]
    exact Nat.succ_le_succ (Nat.div_le_of_le_mul (covers.trans_eq (Nat.mul_comm _ _)))

theorem getAmountIn_sufficient_and_tight_smallPool :
    ∃ paid, smallPool.getAmountOut 12 10 11 = .ok paid ∧ 17 ≤ paid := by
  have enough := getAmountIn_sufficient_and_tight smallPool_withinLimits
    (show TokenPair.new 11 12 = some smallPool.tokens by decide) 17 10
    (by decide +kernel)
  exact enough.1

end

end Pool

end UniswapV2

end MandateSolver
