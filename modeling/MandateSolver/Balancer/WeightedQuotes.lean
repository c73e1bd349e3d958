import MandateSolver.Balancer.Swap

/-!
# Quotes of weighted pools never abort

Plain operators wrap around silently.  Replacing them by operators that abort changes
nothing.  The input amount that is bumped by a factor of ten could only wrap for a pool
whose output amount would long have been enough.
-/

/-! ## On which side of one a power is -/

namespace MandateSolver.Bfp

variable {base exponent power : Bfp}

section

variable (computed : powUp base exponent = .ok power)
include computed

theorem powUp_value : ∃ raw, LogExpMath.pow base.wei exponent.wei = .ok raw ∧
      power.wei.toNat = raw.toNat + (raw.toNat * 10000 ⌈/⌉ 10 ^ 18 + 1) := by
  obtain ⟨raw, raised, rest⟩ := Outcome.bind_eq_ok_iff.mp computed
  obtain ⟨_, multiplied, rest⟩ := Outcome.bind_eq_ok_iff.mp rest
  obtain ⟨_, added, sum⟩ := Outcome.bind_eq_ok_iff.mp rest
  refine ⟨raw, raised, ?_⟩
  rw [add_eq_ok_iff.mp sum, add_eq_ok_iff.mp added, (mulUp_value multiplied).2]
  rfl

/-- The error margin alone keeps the power of a base of at least one away from one. -/
theorem powUp_ge (atLeastOne : 10 ^ 18 ≤ base.wei.toNat) : 10 ^ 18 + 10001 ≤ power.wei.toNat := by
  obtain ⟨raw, raised, _⟩ := powUp_value computed
  have rawGe := ((LogExpMath.pow_ends _ _).of_eq_ok raised).1 atLeastOne
  have marginGe : 10000 ≤ raw.toNat * 10000 ⌈/⌉ 10 ^ 18 := by
    rw [Nat.ceilDiv_eq_add_pred_div]
    omega
  omega

theorem powUp_le (atMost : base.wei.toNat ≤ 920000000000000000)
    (exponentGe : 250000000000000000 ≤ exponent.wei.toNat) : power.wei.toNat ≤ 99 * 10 ^ 16 := by
  obtain ⟨raw, raised, _⟩ := powUp_value computed
  have rawAtMost := ((LogExpMath.pow_ends _ _).of_eq_ok raised).2 atMost exponentGe
  have marginAtMost : raw.toNat * 10000 ⌈/⌉ 10 ^ 18 ≤ 10000 := by
    rw [Nat.ceilDiv_eq_add_pred_div]
    omega
  omega

end

theorem mulUp_self_le {number square : Bfp} (computed : number.mulUp number = .ok square)
    (atMostOne : number.wei.toNat ≤ 10 ^ 18) : square.wei.toNat ≤ number.wei.toNat := by
  rw [(mulUp_value computed).2, ceilDiv_le_iff_le_mul (by decide)]
  exact Nat.mul_le_mul_right _ atMostOne

theorem le_mulUp_self {number square : Bfp} (computed : number.mulUp number = .ok square)
    (atLeastOne : 10 ^ 18 ≤ number.wei.toNat) : number.wei.toNat ≤ square.wei.toNat := by
  have rounded : number.wei.toNat * number.wei.toNat ≤ 10 ^ 18 * square.wei.toNat := by
    rw [(mulUp_value computed).2]
    exact le_smul_ceilDiv (show 0 < 10 ^ 18 by decide)
  have lower := Nat.mul_le_mul_right number.wei.toNat atLeastOne
  exact Nat.le_of_mul_le_mul_left (lower.trans rounded) (by decide)

/-- Exponents that later versions treat on their own. -/
def IsShortcut (exponent : Bfp) : Prop :=
  exponent = one ∨ exponent = two ∨ exponent = four

section

variable (computed : powUpV3 base exponent = .ok power)
include computed

theorem powUpV3_cases :
    (exponent = one ∧ power = base) ∨ (exponent = two ∧ base.mulUp base = .ok power) ∨
      (exponent = four ∧ ∃ square, base.mulUp base = .ok square ∧ square.mulUp square = .ok power) ∨
      powUp base exponent = .ok power := by
  rw [powUpV3] at computed
  split at computed
  · rename_i isOne
    cases computed
    exact .inl ⟨isOne, rfl⟩
  split at computed
  · rename_i isTwo
    exact .inr (.inl ⟨isTwo, computed⟩)
  split at computed
  · rename_i isFour
    exact .inr (.inr (.inl ⟨isFour, Outcome.bind_eq_ok_iff.mp computed⟩))
  · exact .inr (.inr (.inr computed))

theorem powUpV3_ge (atLeastOne : 10 ^ 18 ≤ base.wei.toNat) :
    10 ^ 18 + 10001 ≤ power.wei.toNat ∨ IsShortcut exponent ∧ base.wei.toNat ≤ power.wei.toNat ∧
        (base.wei.toNat ≤ 10 ^ 18 → power.wei.toNat ≤ 10 ^ 18) := by
  obtain ⟨isOne, rfl⟩ | ⟨isTwo, squared⟩ | ⟨isFour, _, squared, again⟩ | general :=
    powUpV3_cases computed
  · exact .inr ⟨.inl isOne, le_refl _, id⟩
  · refine .inr ⟨.inr (.inl isTwo), le_mulUp_self squared atLeastOne, fun atMostOne => ?_⟩
    exact (mulUp_self_le squared atMostOne).trans atMostOne
  · have first := le_mulUp_self squared atLeastOne
    refine .inr ⟨.inr (.inr isFour),
      first.trans (le_mulUp_self again (atLeastOne.trans first)), fun atMostOne => ?_⟩
    have squareAtMost := (mulUp_self_le squared atMostOne).trans atMostOne
    exact (mulUp_self_le again squareAtMost).trans squareAtMost
  · exact .inl (powUp_ge general atLeastOne)

theorem powUpV3_le (atMost : base.wei.toNat ≤ 920000000000000000)
    (exponentGe : 250000000000000000 ≤ exponent.wei.toNat) : power.wei.toNat ≤ 99 * 10 ^ 16 := by
  obtain ⟨-, rfl⟩ | ⟨-, squared⟩ | ⟨-, _, squared, again⟩ | general := powUpV3_cases computed
  · omega
  · have first := mulUp_self_le squared (by omega)
    omega
  · have first := mulUp_self_le squared (by omega)
    have second := mulUp_self_le again (by omega)
    omega
  · exact powUp_le general atMost exponentGe

end

end MandateSolver.Bfp

namespace MandateSolver

open BitVec Bfp

open Outcome hiding none

/-! ## Operators that abort -/

namespace U256

variable {ε : Type} {left right : U256}

def orOverflow : Option U256 → Outcome ε U256
  | some result => .ok result
  | none => .panic .overflow

theorem orOverflow_checkedAdd (fits : left.toNat + right.toNat < 2 ^ 256) :
    (orOverflow (left.checkedAdd right) : Outcome ε U256) = .ok (left + right) := by
  rw [checkedAdd, if_pos fits, orOverflow]

theorem orOverflow_checkedSub (ordered : right ≤ left) :
    (orOverflow (left.checkedSub right) : Outcome ε U256) = .ok (left - right) := by
  rw [checkedSub, if_pos ordered, orOverflow]

theorem orOverflow_checkedMul (fits : left.toNat * right.toNat < 2 ^ 256) :
    (orOverflow (left.checkedMul right) : Outcome ε U256) = .ok (left * right) := by
  rw [checkedMul, if_pos fits, orOverflow]

end U256

namespace Bfp

def mulUpStrict (left right : Bfp) : Outcome BalancerError Bfp := do
  let product ← okOr .mulOverflow (left.wei.checkedMul right.wei)
  if product.isZero then return zero
  else do
    let predecessor ← U256.orOverflow (product.checkedSub 1)
    let quotient ← U256.div predecessor one18
    let result ← U256.orOverflow (quotient.checkedAdd 1)
    return ⟨result⟩

def divUpStrict (left right : Bfp) : Outcome BalancerError Bfp :=
  if right.isZero then .err .zeroDivision
  else if left.isZero then return zero
  else do
    let inflated ← okOr .divInternal (left.wei.checkedMul one18)
    let predecessor ← U256.orOverflow (inflated.checkedSub 1)
    let quotient ← U256.div predecessor right.wei
    let result ← U256.orOverflow (quotient.checkedAdd 1)
    return ⟨result⟩

def complementStrict (number : Bfp) : Outcome BalancerError Bfp :=
  if number.wei < one18 then do
    let difference ← U256.orOverflow (one18.checkedSub number.wei)
    return ⟨difference⟩
  else return zero

private theorem div_pred_strict {dividend divisor : U256} (nonzero : dividend ≠ 0) : (do
      let predecessor ← U256.orOverflow (dividend.checkedSub 1)
      let quotient ← U256.div predecessor divisor
      let result ← U256.orOverflow (quotient.checkedAdd 1)
      return ⟨result⟩ : Outcome BalancerError Bfp) =
    (do
      let quotient ← U256.div (dividend - 1) divisor
      return ⟨quotient + 1⟩) := by
  have positive := toNat_pos_of_ne_zero nonzero
  rw [U256.orOverflow_checkedSub positive, ok_bind, U256.div]
  split
  · rfl
  · have predecessor : (dividend - 1).toNat = dividend.toNat - 1 := toNat_sub_of_le positive
    have quotientAtMost := Nat.div_le_self (dividend - 1).toNat divisor.toNat
    have fits : ((dividend - 1) / divisor).toNat + (1 : U256).toNat < 2 ^ 256 := by
      change (dividend - 1).toNat / divisor.toNat + 1 < 2 ^ 256
      omega
    rw [ok_bind, ok_bind, U256.orOverflow_checkedAdd fits, ok_bind]

theorem mulUpStrict_eq (left right : Bfp) : left.mulUpStrict right = left.mulUp right := by
  rw [mulUpStrict]
  congr 1
  funext product
  split
  · rfl
  · rename_i nonzero
    rw [U256.isZero, decide_eq_true_iff] at nonzero
    exact div_pred_strict nonzero

theorem divUpStrict_eq (left right : Bfp) : left.divUpStrict right = left.divUp right := by
  rw [divUpStrict, divUp]
  split
  · rfl
  split
  · rfl
  rename_i leftNonzero
  cases multiplied : left.wei.checkedMul one18 with
  | none => rfl
  | some inflated =>
    have inflatedNonzero : inflated ≠ 0 := by
      intro inflatedZero
      rw [U256.checkedMul_eq_some_iff, inflatedZero] at multiplied
      apply leftNonzero
      have factorsZero := Nat.mul_eq_zero.mp multiplied.symm
      rw [isZero, U256.isZero, decide_eq_true_iff]
      exact U256.toNat_eq_zero.mp (factorsZero.resolve_right (by decide))
    exact div_pred_strict inflatedNonzero

theorem complementStrict_eq (number : Bfp) : number.complementStrict = .ok number.complement := by
  rw [complementStrict, complement]
  split
  · rename_i below
    rw [U256.orOverflow_checkedSub (Nat.le_of_lt below)]
    rfl
  · rfl

theorem divUp_le_iff {left right result : Bfp} (divided : left.divUp right = .ok result)
    (bound : Nat) : result.wei.toNat ≤ bound ↔
      left.wei.toNat * 10 ^ 18 ≤ right.wei.toNat * bound := by
  obtain ⟨positive, -, resultEq⟩ := divUp_value divided
  rw [resultEq, ceilDiv_le_iff_le_mul positive]

end Bfp

/-! ## Buying from a pool never aborts -/

namespace WeightedMath

variable {powUp : Bfp → Bfp → Outcome BalancerError Bfp}

theorem sub_of_le_maxOutRatio {balance amount limit : Bfp}
    (limitOk : balance.mulDown maxOutRatio = .ok limit)
    (within : amount.wei.toNat ≤ limit.wei.toNat) : ∃ rest, balance.sub amount = .ok rest := by
  obtain ⟨-, limitEq⟩ := mulDown_eq_ok_iff.mp limitOk
  have ratio : maxOutRatio.wei.toNat = 3 * 10 ^ 17 := by decide
  rw [ratio] at limitEq
  have ordered : amount.wei.toNat ≤ balance.wei.toNat := by omega
  refine ⟨⟨balance.wei - amount.wei⟩, sub_eq_ok_iff.mpr ?_⟩
  rw [toNat_sub_of_le ordered]
  omega

theorem base_ge {balance amount rest base : Bfp} (subtracted : balance.sub amount = .ok rest)
    (divided : balance.divUp rest = .ok base) : 10 ^ 18 ≤ base.wei.toNat := by
  have parts := sub_eq_ok_iff.mp subtracted
  obtain ⟨_, -⟩ := divUp_value divided
  by_contra below
  have atMost := (divUp_le_iff divided (10 ^ 18 - 1)).mp (by omega)
  omega

theorem calcInGivenOutWith_noPanic
    (powSafe : ∀ base exponent, NoPanic (powUp base exponent))
    (powGe : ∀ base exponent power, powUp base exponent = .ok power →
      10 ^ 18 ≤ base.wei.toNat → 10 ^ 18 ≤ power.wei.toNat)
    (balanceIn weightIn balanceOut weightOut amountOut : Bfp) :
    NoPanic (calcInGivenOutWith powUp
      balanceIn weightIn balanceOut weightOut amountOut) := by
  refine (mulDown_noPanic _ _).bind fun limit limitOk => ?_
  split
  · simp
  · rename_i within
    obtain ⟨rest, subtracted⟩ := sub_of_le_maxOutRatio limitOk (Nat.le_of_not_lt within)
    rw [subtracted, expectOk_ok]
    refine (divUp_noPanic _ _).bind fun base divided => ?_
    refine (divUp_noPanic _ _).seq fun exponent => ?_
    refine (powSafe _ _).bind fun power raised => ?_
    have powerGe := powGe base exponent power raised (base_ge subtracted divided)
    have difference : power.sub Bfp.one = .ok ⟨power.wei - Bfp.one18⟩ := by
      apply sub_eq_ok_iff.mpr
      rw [toNat_sub_of_le (show Bfp.one18 ≤ power.wei from powerGe)]
      exact (Nat.add_sub_cancel' powerGe).symm
    simp [difference]

end WeightedMath

namespace Balancer

/-! ## Pools for which a bump could wrap -/

section

variable {sold fee feeAmount rest scale balance before bought ratio : Nat}

/-- Selling a tenth of all amounts is within the limit of a pool that holds a quarter of
all amounts, scaled hardly at all. -/
theorem sold_bounds (large : 2 ^ 256 ≤ 10 * sold) (feeFits : sold * fee < 2 ^ 256)
    (feeEq : feeAmount = sold * fee ⌈/⌉ 10 ^ 18) (parts : sold = feeAmount + rest)
    (balanceFits : balance * scale < 2 ^ 256) (scalePositive : 0 < scale)
    (within : rest * scale / 10 ^ 18 ≤ balance * scale / 10 ^ 18 * (3 * 10 ^ 17) / 10 ^ 18) :
    scale ≤ 3 ∧ 2 ^ 256 ≤ 4 * balance ∧
      2 * (balance * scale / 10 ^ 18) ≤ 23 * (rest * scale / 10 ^ 18) := by
  have restLarge : 2 ^ 256 ≤ 11 * rest := by
    rw [Nat.ceilDiv_eq_add_pred_div] at feeEq
    omega
  have scaledWithin : 10 * (rest * scale) ≤ 3 * (balance * scale) + 10 ^ 19 := by omega
  have restScaled := Nat.mul_le_mul_left rest (show 1 ≤ scale from scalePositive)
  refine ⟨?_, ?_, by omega⟩
  · by_contra scaleAbove
    have atLeast := Nat.mul_le_mul_left rest (show 4 ≤ scale by omega)
    omega
  · have unscaled : 10 * rest ≤ 3 * balance + 10 ^ 19 := by
      apply Nat.le_of_mul_le_mul_right _ scalePositive
      rw [Nat.add_mul, Nat.mul_assoc, Nat.mul_assoc]
      apply scaledWithin.trans
      exact Nat.add_le_add_left (Nat.le_mul_of_pos_right _ scalePositive) _
    omega

theorem ratio_le (scaleAtMost : scale ≤ 3) (scalePositive : 0 < scale)
    (balanceLarge : 2 ^ 256 ≤ 4 * balance) (beforeFits : before * 10 ^ 18 < 2 ^ 256)
    (downscaled : bought * 10 ^ 18 ≤ scale * before)
    (multiplied : balance * scale / 10 ^ 18 * ratio ≤ 10 ^ 18 * bought) : ratio ≤ 13 := by
  have scaledBefore := Nat.mul_le_mul_right before scaleAtMost
  have balanceScaled := Nat.mul_le_mul_left balance (show 1 ≤ scale from scalePositive)
  by_contra ratioAbove
  have atLeast := Nat.mul_le_mul_left (balance * scale / 10 ^ 18) (show 14 ≤ ratio by omega)
  omega

end

variable {exponent : Bfp}

theorem inverse_ge_of_shortcut {inverse weightIn weightOut : Bfp}
    (exponentOk : weightOut.divUp weightIn = .ok exponent)
    (inverseOk : weightIn.divDown weightOut = .ok inverse)
    (shortcut : Bfp.IsShortcut exponent) : 250000000000000000 ≤ inverse.wei.toNat := by
  have exponentAtMost : exponent.wei.toNat ≤ 4 * 10 ^ 18 := by
    obtain rfl | rfl | rfl := shortcut
    · decide
    · decide
    · decide
  obtain ⟨outPositive, -, inverseEq⟩ := divDown_value inverseOk
  rw [divUp_le_iff exponentOk] at exponentAtMost
  rw [inverseEq, Nat.le_div_iff_mul_le outPositive]
  omega

namespace WeightedPool

def powUpOf : WeightedPoolVersion → Bfp → Bfp → Outcome BalancerError Bfp
  | .v0 => Bfp.powUp
  | .v3Plus => Bfp.powUpV3

variable {version : WeightedPoolVersion} {state : TokenState}

section

variable (version)
include version

theorem calcInGivenOut_eq :
    calcInGivenOut version = WeightedMath.calcInGivenOutWith (powUpOf version) := by
  cases version with
  | v0 | v3Plus => rfl

theorem calcOutGivenIn_eq :
    calcOutGivenIn version = WeightedMath.calcOutGivenInWith (powUpOf version) := by
  cases version with
  | v0 | v3Plus => rfl

theorem powUpOf_noPanic (base exponent : Bfp) : NoPanic (powUpOf version base exponent) := by
  cases version with
  | v0 => exact powUp_noPanic base exponent
  | v3Plus => exact powUpV3_noPanic base exponent

end

theorem powUpOf_ge {version : WeightedPoolVersion} {base power : Bfp}
    (raised : powUpOf version base exponent = .ok power) (atLeastOne : 10 ^ 18 ≤ base.wei.toNat) :
    10 ^ 18 + 10001 ≤ power.wei.toNat ∨ Bfp.IsShortcut exponent ∧ base.wei.toNat ≤ power.wei.toNat ∧
        (base.wei.toNat ≤ 10 ^ 18 → power.wei.toNat ≤ 10 ^ 18) := by
  cases version with
  | v0 => exact .inl (powUp_ge raised atLeastOne)
  | v3Plus => exact powUpV3_ge raised atLeastOne

theorem powUpOf_le {version : WeightedPoolVersion} {base power : Bfp}
    (raised : powUpOf version base exponent = .ok power)
    (atMost : base.wei.toNat ≤ 920000000000000000)
    (exponentGe : 250000000000000000 ≤ exponent.wei.toNat) : power.wei.toNat ≤ 99 * 10 ^ 16 := by
  cases version with
  | v0 => exact powUp_le raised atMost exponentGe
  | v3Plus => exact powUpV3_le raised atMost exponentGe

theorem calcInGivenOut_noPanic (version : WeightedPoolVersion)
    (balanceIn weightIn balanceOut weightOut amountOut : Bfp) :
    NoPanic (calcInGivenOut version balanceIn weightIn balanceOut weightOut amountOut) := by
  rw [calcInGivenOut_eq]
  apply WeightedMath.calcInGivenOutWith_noPanic (powUpOf_noPanic version)
  intro _ _ _ raised atLeastOne
  obtain above | ⟨-, above, -⟩ := powUpOf_ge raised atLeastOne
  · omega
  · omega

variable {amount : U256}

theorem upscale_value {result : Bfp} (computed : state.upscale amount = .ok result) :
    amount.toNat * state.scalingFactor.wei.toNat < 2 ^ 256 ∧
      result.wei.toNat = amount.toNat * state.scalingFactor.wei.toNat / 10 ^ 18 :=
  mulDown_eq_ok_iff.mp computed

variable {result : U256}

theorem downscaleUp_value {amount : Bfp} (computed : state.downscaleUp amount = .ok result) :
    0 < state.scalingFactor.wei.toNat ∧ amount.wei.toNat * 10 ^ 18 < 2 ^ 256 ∧
      result.toNat = amount.wei.toNat * 10 ^ 18 ⌈/⌉ state.scalingFactor.wei.toNat := by
  obtain ⟨_, divided, equal⟩ := bind_eq_ok_iff.mp computed
  cases equal
  exact divUp_value divided

theorem downscaleDown_value {amount : Bfp} (computed : state.downscaleDown amount = .ok result) :
    0 < state.scalingFactor.wei.toNat ∧
      result.toNat = amount.wei.toNat * 10 ^ 18 / state.scalingFactor.wei.toNat := by
  obtain ⟨_, divided, equal⟩ := bind_eq_ok_iff.mp computed
  cases equal
  obtain ⟨positive, -, value⟩ := divDown_value divided
  exact ⟨positive, value⟩

theorem subtractSwapFeeAmount_value {swapFee : Bfp}
    (computed : subtractSwapFeeAmount amount swapFee = .ok result) :
    ∃ feeAmount, amount.toNat * swapFee.wei.toNat < 2 ^ 256 ∧
      feeAmount = amount.toNat * swapFee.wei.toNat ⌈/⌉ 10 ^ 18 ∧
      amount.toNat = feeAmount + result.toNat := by
  obtain ⟨feeAmount, multiplied, rest⟩ := bind_eq_ok_iff.mp computed
  obtain ⟨_, subtracted, equal⟩ := bind_eq_ok_iff.mp rest
  cases equal
  obtain ⟨fits, feeEq⟩ := mulUp_value multiplied
  exact ⟨feeAmount.wei.toNat, fits, feeEq, sub_eq_ok_iff.mp subtracted⟩

theorem addSwapFeeAmount_value {swapFee : Bfp}
    (computed : addSwapFeeAmount amount swapFee = .ok result) :
    amount.toNat * 10 ^ 18 < 2 ^ 256 ∧
      result.toNat = amount.toNat * 10 ^ 18 ⌈/⌉ swapFee.complement.wei.toNat := by
  obtain ⟨_, divided, equal⟩ := bind_eq_ok_iff.mp computed
  cases equal
  obtain ⟨-, fits, value⟩ := divUp_value divided
  exact ⟨fits, value⟩

theorem received_le_of_short {exactOut out : U256}
    {amountOut received : Bfp} (upscaled : state.upscale exactOut = .ok amountOut)
    (downscaled : state.downscaleDown received = .ok out) (short : ¬exactOut ≤ out) :
    received.wei.toNat ≤ amountOut.wei.toNat := by
  obtain ⟨-, amountOutEq⟩ := upscale_value upscaled
  obtain ⟨scalePositive, outEq⟩ := downscaleDown_value downscaled
  have below := Nat.not_le.mp short
  rw [outEq, Nat.div_lt_iff_lt_mul scalePositive] at below
  rw [amountOutEq, Nat.le_div_iff_mul_le (by decide)]
  exact Nat.le_of_lt below

section

variable {swapFee balanceIn amountIn limit ratio bought : Bfp} {before inAmount sold rest : U256}

/-- The sold amount makes the pool huge and its scaling factor tiny, so only a tiny ratio
can be paid. -/
theorem ratio_le_of_large (balanceInOk : state.upscaledBalance = .ok balanceIn)
    (multiplied : balanceIn.mulUp ratio = .ok bought)
    (beforeOk : state.downscaleUp bought = .ok before)
    (inAmountOk : addSwapFeeAmount before swapFee = .ok inAmount)
    (large : 2 ^ 256 ≤ 10 * sold.toNat) (restOk : subtractSwapFeeAmount sold swapFee = .ok rest)
    (amountInOk : state.upscale rest = .ok amountIn)
    (limitOk : balanceIn.mulDown WeightedMath.maxInRatio = .ok limit)
    (within : amountIn.wei.toNat ≤ limit.wei.toNat) :
    ratio.wei.toNat ≤ 13 ∧ 2 * balanceIn.wei.toNat ≤ 23 * amountIn.wei.toNat := by
  obtain ⟨scalePositive, -, beforeEq⟩ := downscaleUp_value beforeOk
  obtain ⟨_, feeFits, feeEq, parts⟩ := subtractSwapFeeAmount_value restOk
  obtain ⟨balanceFits, balanceEq⟩ := upscale_value balanceInOk
  obtain ⟨-, amountInEq⟩ := upscale_value amountInOk
  obtain ⟨-, limitEq⟩ := mulDown_eq_ok_iff.mp limitOk
  obtain ⟨-, boughtEq⟩ := mulUp_value multiplied
  rw [limitEq, amountInEq, balanceEq] at within
  obtain ⟨scaleAtMost, balanceLarge, amountLarge⟩ :=
    sold_bounds large feeFits feeEq parts balanceFits scalePositive within
  have downscaled : bought.wei.toNat * 10 ^ 18 ≤ state.scalingFactor.wei.toNat * before.toNat := by
    rw [beforeEq]
    exact le_smul_ceilDiv scalePositive
  rw [balanceEq, amountInEq]
  refine ⟨?_, amountLarge⟩
  apply ratio_le scaleAtMost scalePositive balanceLarge
    (addSwapFeeAmount_value inAmountOk).1 downscaled
  rw [boughtEq, balanceEq]
  exact le_smul_ceilDiv (show 0 < 10 ^ 18 by decide)

theorem shortcut_of_ratio_le {balance amount rest base power : Bfp}
    (subtracted : balance.sub amount = .ok rest) (divided : balance.divUp rest = .ok base)
    (raised : powUpOf version base exponent = .ok power)
    (ratioOk : power.sub Bfp.one = .ok ratio) (ratioAtMost : ratio.wei.toNat ≤ 13) :
    Bfp.IsShortcut exponent ∧ amount.wei.toNat * 10 ^ 18 ≤ 13 * balance.wei.toNat ∧
      (amount.wei.toNat = 0 → ratio.wei.toNat = 0) := by
  have powerEq : power.wei.toNat = 10 ^ 18 + ratio.wei.toNat := sub_eq_ok_iff.mp ratioOk
  obtain _ | ⟨shortcut, _, powerAtMost⟩ :=
    powUpOf_ge raised (WeightedMath.base_ge subtracted divided)
  · omega
  · have parts := sub_eq_ok_iff.mp subtracted
    refine ⟨shortcut, ?_, ?_⟩
    · have baseSmall := (divUp_le_iff divided (10 ^ 18 + 13)).mp (by omega)
      linarith only [parts, baseSmall]
    · intro _
      have powerOne := powerAtMost ((divUp_le_iff divided _).mpr (by omega))
      omega

theorem inAmount_eq_zero (multiplied : balanceIn.mulUp ratio = .ok bought)
    (beforeOk : state.downscaleUp bought = .ok before)
    (inAmountOk : addSwapFeeAmount before swapFee = .ok inAmount)
    (isZero : ratio.wei.toNat = 0) : inAmount = 0 := by
  obtain ⟨-, boughtEq⟩ := mulUp_value multiplied
  obtain ⟨-, -, beforeEq⟩ := downscaleUp_value beforeOk
  obtain ⟨-, inAmountEq⟩ := addSwapFeeAmount_value inAmountOk
  rw [isZero, Nat.mul_zero, zero_ceilDiv] at boughtEq
  rw [boughtEq, Nat.zero_mul, zero_ceilDiv] at beforeEq
  rw [beforeEq, Nat.zero_mul, zero_ceilDiv] at inAmountEq
  exact U256.toNat_eq_zero.mp inAmountEq

/-- If both directions are computed for amounts this large, what is received covers
what was to be bought, except when nothing is paid for it. -/
theorem covers_of_large {inReserves outReserves : WeightedTokenState}
    {balanceOut amountOut received : Bfp} {exactOut out : U256}
    (balanceInOk : inReserves.common.upscaledBalance = .ok balanceIn)
    (amountOutOk : outReserves.common.upscale exactOut = .ok amountOut)
    (boughtOk : calcInGivenOut version balanceIn inReserves.weight
      balanceOut outReserves.weight amountOut = .ok bought)
    (beforeOk : inReserves.common.downscaleUp bought = .ok before)
    (inAmountOk : addSwapFeeAmount before swapFee = .ok inAmount)
    (large : 2 ^ 256 ≤ 10 * sold.toNat) (restOk : subtractSwapFeeAmount sold swapFee = .ok rest)
    (amountInOk : inReserves.common.upscale rest = .ok amountIn)
    (receivedOk : calcOutGivenIn version balanceIn inReserves.weight
      balanceOut outReserves.weight amountIn = .ok received)
    (outOk : outReserves.common.downscaleDown received = .ok out) :
    inAmount = 0 ∨ exactOut ≤ out := by
  simp only [calcInGivenOut_eq, WeightedMath.calcInGivenOutWith, bind_eq_ok_iff,
    ite_err_eq_ok_iff, expectOk_eq_ok_iff] at boughtOk
  obtain ⟨_, -, -, _, subtracted, _, divided, _, exponentOk, _, raised,
    ratio, ratioOk, multiplied⟩ := boughtOk
  simp only [calcOutGivenIn_eq, WeightedMath.calcOutGivenInWith, bind_eq_ok_iff,
    ite_err_eq_ok_iff, expectOk_eq_ok_iff] at receivedOk
  obtain ⟨_, limitOk, within, _, added, _, soldDivided, _, inverseOk,
    soldPower, soldRaised, soldMultiplied⟩ := receivedOk
  obtain ⟨ratioAtMost, amountLarge⟩ := ratio_le_of_large balanceInOk multiplied beforeOk
    inAmountOk large restOk amountInOk limitOk (Nat.le_of_not_lt within)
  obtain ⟨shortcut, _, ratioZero⟩ :=
    shortcut_of_ratio_le subtracted divided raised ratioOk ratioAtMost
  by_cases amountOutZero : amountOut.wei.toNat = 0
  · exact .inl (inAmount_eq_zero multiplied beforeOk inAmountOk (ratioZero amountOutZero))
  · -- Selling this much leaves a power that is clearly below one.
    right
    by_contra short
    have parts := add_eq_ok_iff.mp added
    have powerAtMost := powUpOf_le soldRaised
      ((divUp_le_iff soldDivided _).mpr (by linarith only [parts, amountLarge]))
      (inverse_ge_of_shortcut exponentOk inverseOk shortcut)
    have receivedAtMost := received_le_of_short amountOutOk outOk short
    obtain ⟨-, receivedEq⟩ := mulDown_eq_ok_iff.mp soldMultiplied
    rw [toNat_complement] at receivedEq
    have share := Nat.mul_le_mul_left balanceOut.wei.toNat
      (show 10 ^ 16 ≤ 10 ^ 18 - soldPower.wei.toNat by omega)
    omega

end

end WeightedPool

/-! ## The search for an input amount -/

def convergeInAmountStrict (inAmount exactOutAmount : U256)
    (getAmountOut : U256 → Outcome Unit U256) : Outcome Unit U256 := do
  let outAmount ← getAmountOut inAmount
  if exactOutAmount ≤ outAmount then return inAmount
  else do
    let missing ← U256.orOverflow (exactOutAmount.checkedSub outAmount)
    let deficit ← ofOption (missing.checkedMul inAmount)
    let bump ← deficit.ceilDiv (max outAmount 1)
    retry 6 (max bump 1)
where
  retry : Nat → U256 → Outcome Unit U256
    | 0, _ => .none
    | rounds + 1, bump => do
      let bumpedInAmount ← ofOption (inAmount.checkedAdd bump)
      let outAmount ← getAmountOut bumpedInAmount
      if exactOutAmount ≤ outAmount then return bumpedInAmount
      else do
        let next ← U256.orOverflow (bump.checkedMul 10)
        retry rounds next

section

variable {inAmount exactOutAmount : U256} {getAmountOut : U256 → Outcome Unit U256}

theorem max_one_ne_zero (amount : U256) : max amount 1 ≠ 0 := by
  apply toNat_ne_iff_ne.mp
  rw [U256.toNat_max]
  exact Nat.ne_of_gt (Nat.lt_of_lt_of_le Nat.zero_lt_one (Nat.le_max_right _ _))

theorem ceilDiv_max_one (deficit amount : U256) :
    (deficit.ceilDiv (max amount 1) : Outcome Unit U256) =
      .ok (deficit.divCeil (max amount 1)) := by
  rw [U256.ceilDiv, U256.checkedCeilDiv, U256.isZero,
    if_neg (by simpa using max_one_ne_zero amount), expect_some]

section

variable (safe : ∀ amount, NoPanic (getAmountOut amount))
include safe

theorem convergeInAmount_retry_noPanic (rounds : Nat) (bump : U256) :
    NoPanic (convergeInAmount.retry inAmount exactOutAmount getAmountOut rounds bump) := by
  induction rounds generalizing bump with
  | zero => simp [convergeInAmount.retry]
  | succ rounds ih =>
    refine NoPanic.seq (by simp) fun bumped => ?_
    refine (safe bumped).seq fun outAmount => ?_
    split
    · simp
    · exact ih _

theorem convergeInAmount_noPanic :
    NoPanic (convergeInAmount inAmount exactOutAmount getAmountOut) := by
  refine (safe inAmount).seq fun outAmount => ?_
  split
  · simp
  · refine NoPanic.seq (by simp) fun deficit => ?_
    rw [ceilDiv_max_one]
    exact convergeInAmount_retry_noPanic safe 6 _

end

section

variable (failsSmall : ∀ bump bumped outAmount, inAmount.checkedAdd bump = some bumped →
  getAmountOut bumped = .ok outAmount → ¬exactOutAmount ≤ outAmount →
  inAmount = 0 ∨ 10 * bump.toNat < 2 ^ 256)
include failsSmall

/-- While no round with a large bump fails, the bumps do not wrap. -/
theorem convergeInAmount_retry_strict (rounds : Nat) (bump : U256) (atMost : rounds ≤ 6)
    (small : inAmount = 0 → bump.toNat ≤ 10 ^ (6 - rounds)) :
    convergeInAmountStrict.retry inAmount exactOutAmount getAmountOut rounds bump =
      convergeInAmount.retry inAmount exactOutAmount getAmountOut rounds bump := by
  induction rounds generalizing bump with
  | zero => rfl
  | succ rounds ih =>
    refine bind_congr_ok fun bumped added => ?_
    refine bind_congr_ok fun outAmount computed => ?_
    split
    · rfl
    rename_i short
    rw [okOr_eq_ok_iff] at added
    have power : 10 ^ (6 - (rounds + 1)) ≤ 10 ^ 6 := Nat.pow_le_pow_right (by decide) (by omega)
    have bumpSmall : bump.toNat * 10 < 2 ^ 256 := by
      obtain isZero | fits := failsSmall bump bumped outAmount added computed short
      · have bumpAtMost := small isZero
        omega
      · omega
    rw [U256.orOverflow_checkedMul bumpSmall]
    apply ih _ (by omega)
    intro isZero
    have bumpAtMost := small isZero
    have next : 10 ^ (6 - rounds) = 10 ^ (6 - (rounds + 1)) * 10 := by
      rw [← Nat.pow_succ]
      congr 1
      omega
    have bumped : (bump * 10).toNat = bump.toNat * 10 := by
      exact Nat.mod_eq_of_lt bumpSmall
    rw [next, bumped]
    exact Nat.mul_le_mul_right 10 bumpAtMost

theorem convergeInAmountStrict_eq : convergeInAmountStrict inAmount exactOutAmount getAmountOut =
      convergeInAmount inAmount exactOutAmount getAmountOut := by
  refine bind_congr_ok fun outAmount computed => ?_
  split
  · rfl
  rename_i short
  have ordered := Nat.le_of_lt (Nat.not_le.mp short)
  rw [U256.orOverflow_checkedSub ordered, ok_bind]
  refine bind_congr_ok fun deficit multiplied => ?_
  rw [ceilDiv_max_one]
  apply convergeInAmount_retry_strict failsSmall 6 _ (le_refl 6)
  intro isZero
  -- A zero amount has no deficit, so the first bump is one.
  rw [okOr_eq_ok_iff, U256.checkedMul_eq_some_iff, isZero] at multiplied
  have noDeficit : deficit.toNat = 0 := multiplied
  rw [U256.toNat_max, U256.toNat_divCeil (max_one_ne_zero outAmount), noDeficit, zero_ceilDiv]
  decide

end

end

namespace WeightedPool

def getAmountInStrict : WeightedPool → Address → U256 → Address → Outcome Unit U256 :=
  getAmountInBy convergeInAmountStrict

section

variable (pool : WeightedPool) (inToken : Address) (outAmount : U256) (outToken : Address)

theorem getAmountInStrict_eq :
    pool.getAmountInStrict inToken outAmount outToken =
      pool.getAmountIn inToken outAmount outToken := by
  refine bind_congr_ok fun inReserves inListed => ?_
  refine bind_congr_ok fun outReserves outListed => ?_
  refine bind_congr_ok fun balanceIn balanceInOk => ?_
  refine bind_congr_ok fun balanceOut balanceOutOk => ?_
  refine bind_congr_ok fun amountOut amountOutOk => ?_
  refine bind_congr_ok fun bought boughtOk => ?_
  refine bind_congr_ok fun before beforeOk => ?_
  refine bind_congr_ok fun inAmount inAmountOk => ?_
  rw [okOr_eq_ok_iff] at inListed outListed
  rw [discardError_eq_ok_iff] at balanceInOk balanceOutOk amountOutOk
  rw [discardError_eq_ok_iff] at boughtOk beforeOk inAmountOk
  apply convergeInAmountStrict_eq
  intro bump _ _ added computed short
  simp only [getAmountOut, inListed, outListed, okOr_some, bind_eq_ok_iff,
    discardError_eq_ok_iff, balanceInOk, balanceOutOk, ok.injEq, exists_eq_left'] at computed
  obtain ⟨_, restOk, _, amountInOk, _, receivedOk, outOk⟩ := computed
  by_cases small : 10 * bump.toNat < 2 ^ 256
  · exact .inr small
  · have sum := U256.checkedAdd_eq_some_iff.mp added
    have covered := covers_of_large balanceInOk amountOutOk boughtOk beforeOk inAmountOk
      (by omega) restOk amountInOk receivedOk outOk
    exact .inl (covered.resolve_right short)

theorem getAmountIn_noPanic : NoPanic (pool.getAmountIn inToken outAmount outToken) := by
  have safe := fun amount => getAmountOut_noPanic pool outToken amount inToken
  simp [getAmountIn, getAmountInBy, TokenState.downscaleUp, addSwapFeeAmount,
    calcInGivenOut_noPanic, convergeInAmount_noPanic safe]

end

/-- Neither quote aborts, and neither would if every plain operator on the way aborted
instead of wrapping around. -/
theorem quotes_never_abort (pool : WeightedPool) (inToken outToken : Address) (amount : U256) :
    NoPanic (pool.getAmountOut outToken amount inToken) ∧
      NoPanic (pool.getAmountIn inToken amount outToken) ∧
      pool.getAmountInStrict inToken amount outToken = pool.getAmountIn inToken amount outToken ∧
      (∀ left right : Bfp, left.mulUpStrict right = left.mulUp right ∧
        left.divUpStrict right = left.divUp right ∧
        left.complementStrict = .ok left.complement) :=
  ⟨getAmountOut_noPanic pool outToken amount inToken,
    getAmountIn_noPanic pool inToken amount outToken,
    getAmountInStrict_eq pool inToken amount outToken,
    fun left right => ⟨mulUpStrict_eq left right, divUpStrict_eq left right,
      complementStrict_eq left⟩⟩

end WeightedPool

end Balancer

end MandateSolver
