import Mathlib.Algebra.Order.Floor.Div
import Mathlib.GroupTheory.GroupAction.Ring
import MandateSolver.Balancer.LogExpBounds

/-!
# Fixed point numbers of the Balancer contracts

`Bfp` is a number with 18 decimals stored as an unsigned 256-bit integer.
-/

namespace MandateSolver

open Outcome BitVec

/-- Fixed point number with 18 decimals. -/
structure Bfp where
  wei : U256
  deriving DecidableEq

namespace Bfp

def one18 : U256 := 1000000000000000000

def asUint256 (number : Bfp) : U256 := number.wei

def zero : Bfp := ⟨0⟩

def one : Bfp := ⟨one18⟩

def two : Bfp := ⟨one18 * 2⟩

def four : Bfp := ⟨one18 * 4⟩

def maxPowRelativeError : Bfp := ⟨10000⟩

def fromWei (number : U256) : Bfp := ⟨number⟩

def isZero (number : Bfp) : Bool := number.wei.isZero

section

variable (left right : Bfp)

def add : Outcome BalancerError Bfp := do
  let sum ← okOr .addOverflow (left.wei.checkedAdd right.wei)
  return ⟨sum⟩

def sub : Outcome BalancerError Bfp := do
  let difference ← okOr .subOverflow (left.wei.checkedSub right.wei)
  return ⟨difference⟩

def mulDown : Outcome BalancerError Bfp := do
  let product ← okOr .mulOverflow (left.wei.checkedMul right.wei)
  let quotient ← U256.div product one18
  return ⟨quotient⟩

def mulUp : Outcome BalancerError Bfp := do
  let product ← okOr .mulOverflow (left.wei.checkedMul right.wei)
  if product.isZero then return zero
  else do
    let quotient ← U256.div (product - 1) one18
    return ⟨quotient + 1⟩

def divDown : Outcome BalancerError Bfp :=
  if right.isZero then .err .zeroDivision
  else do
    let inflated ← okOr .divInternal (left.wei.checkedMul one18)
    let quotient ← U256.div inflated right.wei
    return ⟨quotient⟩

def divUp : Outcome BalancerError Bfp :=
  if right.isZero then .err .zeroDivision
  else if left.isZero then return zero
  else do
    let inflated ← okOr .divInternal (left.wei.checkedMul one18)
    let quotient ← U256.div (inflated - 1) right.wei
    return ⟨quotient + 1⟩

end

def complement (number : Bfp) : Bfp :=
  if number.wei < one18 then ⟨one18 - number.wei⟩ else zero

def powUp (base exponent : Bfp) : Outcome BalancerError Bfp := do
  let raw ← LogExpMath.pow base.wei exponent.wei
  let relative ← mulUp ⟨raw⟩ maxPowRelativeError
  let maxError ← add relative ⟨1⟩
  add ⟨raw⟩ maxError

/-- The later pool version multiplies out the exponents one, two and four. -/
def powUpV3 (base exponent : Bfp) : Outcome BalancerError Bfp :=
  if exponent = one then .ok base
  else if exponent = two then mulUp base base
  else if exponent = four then do
    let square ← mulUp base base
    mulUp square square
  else powUp base exponent

/-! ## No operation aborts -/

section

variable (left right : Bfp)

@[simp] theorem add_noPanic : NoPanic (add left right) := by
  simp [add]

@[simp] theorem sub_noPanic : NoPanic (sub left right) := by
  simp [sub]

@[simp] theorem mulDown_noPanic : NoPanic (mulDown left right) := by
  simp [mulDown, one18]

@[simp] theorem mulUp_noPanic : NoPanic (mulUp left right) := by
  apply NoPanic.seq (by simp)
  intro _
  split <;> simp [one18]

@[simp] theorem divDown_noPanic : NoPanic (divDown left right) := by
  unfold divDown
  split <;> simp_all [isZero, U256.isZero]

@[simp] theorem divUp_noPanic : NoPanic (divUp left right) := by
  unfold divUp
  split
  · simp
  · split <;> simp_all [isZero, U256.isZero]

@[simp] theorem powUp_noPanic : NoPanic (powUp left right) := by
  simp [powUp, LogExpMath.pow_noPanic]

@[simp] theorem powUpV3_noPanic : NoPanic (powUpV3 left right) := by
  unfold powUpV3
  split
  · simp
  · split
    · simp
    · split <;> simp

private theorem wei_ne_zero {number : Bfp} (nonzero : ¬number.isZero = true) : number.wei ≠ 0 := by
  simpa [isZero, U256.isZero] using nonzero

end

/-! ## Values -/

variable {left right result : Bfp}

theorem add_eq_ok_iff : add left right = .ok result ↔
      result.wei.toNat = left.wei.toNat + right.wei.toNat := by
  obtain ⟨result⟩ := result
  simp [add, bind_eq_ok_iff, U256.checkedAdd_eq_some_iff]

theorem sub_eq_ok_iff : sub left right = .ok result ↔
      left.wei.toNat = right.wei.toNat + result.wei.toNat := by
  obtain ⟨result⟩ := result
  simp [sub, bind_eq_ok_iff, U256.checkedSub_eq_some_iff]

theorem mulDown_eq_ok_iff : mulDown left right = .ok result ↔
      left.wei.toNat * right.wei.toNat < 2 ^ 256 ∧
        result.wei.toNat = left.wei.toNat * right.wei.toNat / 10 ^ 18 := by
  obtain ⟨result⟩ := result
  have quotient product : product / one18 = result ↔ result.toNat = product.toNat / 10 ^ 18 := by
    rw [← toNat_inj, eq_comm]
    rfl
  simp only [mulDown, bind_eq_ok_iff, okOr_eq_ok_iff,
    U256.div, if_neg (show one18 ≠ 0 by decide), ok_bind,
    pure_eq, ok.injEq, mk.injEq, quotient,
    U256.checkedMul_eq_some_iff]
  constructor
  · rintro ⟨product, productEq, equality⟩
    exact ⟨productEq ▸ product.isLt, productEq ▸ equality⟩
  · rintro ⟨fits, equality⟩
    refine ⟨left.wei * right.wei, ?_, ?_⟩
    · rw [toNat_mul, Nat.mod_eq_of_lt fits]
    · rw [toNat_mul, Nat.mod_eq_of_lt fits]
      exact equality

theorem toNat_div_pred_add_one {dividend divisor : U256} (nonzero : dividend ≠ 0)
    (positive : 0 < divisor.toNat) :
    ((dividend - 1) / divisor + 1).toNat = dividend.toNat ⌈/⌉ divisor.toNat := by
  have dividendPositive := toNat_pos_of_ne_zero nonzero
  have predecessor := toNat_sub_of_le (show (1 : U256).toNat ≤ dividend.toNat from dividendPositive)
  have quotientAtMost := Nat.div_le_self (dividend.toNat - 1) divisor.toNat
  have sum : ((dividend - 1) / divisor + 1).toNat = (dividend.toNat - 1) / divisor.toNat + 1 := by
    rw [toNat_add, toNat_udiv, predecessor]
    exact Nat.mod_eq_of_lt (show (dividend.toNat - 1) / divisor.toNat + 1 < 2 ^ 256 by omega)
  have shifted : dividend.toNat + divisor.toNat - 1 = dividend.toNat - 1 + divisor.toNat := by
    omega
  rw [sum, Nat.ceilDiv_eq_add_pred_div, shifted, Nat.add_div_right _ positive]

private theorem div_pred_value {dividend divisor : U256} {result : Bfp}
    (nonzero : dividend ≠ 0) (positive : 0 < divisor.toNat) (computed : (do
      let quotient ← U256.div (dividend - 1) divisor
      return ⟨quotient + 1⟩ : Outcome BalancerError Bfp) = .ok result) :
    result.wei.toNat = dividend.toNat ⌈/⌉ divisor.toNat := by
  have divisorNonzero : divisor ≠ 0 := by
    intro isZero
    simp [isZero] at positive
  rw [U256.div, if_neg divisorNonzero] at computed
  cases computed
  exact toNat_div_pred_add_one nonzero positive

theorem mulUp_value (computed : mulUp left right = .ok result) :
    left.wei.toNat * right.wei.toNat < 2 ^ 256 ∧
      result.wei.toNat = left.wei.toNat * right.wei.toNat ⌈/⌉ 10 ^ 18 := by
  obtain ⟨product, multiplied, rest⟩ := bind_eq_ok_iff.mp computed
  rw [okOr_eq_ok_iff, U256.checkedMul_eq_some_iff] at multiplied
  rw [← multiplied]
  refine ⟨product.isLt, ?_⟩
  split at rest
  · rename_i isZero
    cases rest
    rw [U256.isZero, decide_eq_true_iff] at isZero
    rw [isZero]
    rfl
  · rename_i nonzero
    rw [U256.isZero, decide_eq_true_iff] at nonzero
    exact div_pred_value nonzero (by decide) rest

theorem divDown_value (computed : divDown left right = .ok result) :
    0 < right.wei.toNat ∧ left.wei.toNat * 10 ^ 18 < 2 ^ 256 ∧
      result.wei.toNat = left.wei.toNat * 10 ^ 18 / right.wei.toNat := by
  rw [divDown] at computed
  split at computed
  · cases computed
  rename_i nonzero
  have positive := toNat_pos_of_ne_zero (wei_ne_zero nonzero)
  obtain ⟨inflated, multiplied, rest⟩ := bind_eq_ok_iff.mp computed
  rw [okOr_eq_ok_iff, U256.checkedMul_eq_some_iff] at multiplied
  rw [U256.div, if_neg (wei_ne_zero nonzero)] at rest
  cases rest
  have inflatedEq : inflated.toNat = left.wei.toNat * 10 ^ 18 := multiplied
  rw [← inflatedEq]
  exact ⟨positive, inflated.isLt, rfl⟩

theorem divUp_value (computed : divUp left right = .ok result) :
    0 < right.wei.toNat ∧ left.wei.toNat * 10 ^ 18 < 2 ^ 256 ∧
      result.wei.toNat = left.wei.toNat * 10 ^ 18 ⌈/⌉ right.wei.toNat := by
  rw [divUp] at computed
  split at computed
  · cases computed
  rename_i nonzero
  have positive := toNat_pos_of_ne_zero (wei_ne_zero nonzero)
  split at computed
  · rename_i leftZero
    cases computed
    rw [isZero, U256.isZero, decide_eq_true_iff] at leftZero
    simp [leftZero, zero, positive]
  rename_i leftNonzero
  obtain ⟨inflated, multiplied, rest⟩ := bind_eq_ok_iff.mp computed
  rw [okOr_eq_ok_iff, U256.checkedMul_eq_some_iff] at multiplied
  have inflatedEq : inflated.toNat = left.wei.toNat * 10 ^ 18 := multiplied
  have leftPositive := toNat_pos_of_ne_zero (wei_ne_zero leftNonzero)
  have inflatedNonzero : inflated ≠ 0 := by
    intro isZero
    rw [isZero] at inflatedEq
    simp at inflatedEq
    omega
  rw [← inflatedEq]
  exact ⟨positive, inflated.isLt, div_pred_value inflatedNonzero positive rest⟩

theorem toNat_complement (number : Bfp) :
    number.complement.wei.toNat = 10 ^ 18 - number.wei.toNat := by
  rw [complement]
  split
  · rename_i below
    exact toNat_sub_of_le (show number.wei.toNat ≤ one18.toNat from Nat.le_of_lt below)
  · rename_i notBelow
    have atLeast : 10 ^ 18 ≤ number.wei.toNat := Nat.not_lt.mp notBelow
    rw [Nat.sub_eq_zero_of_le atLeast]
    rfl

end Bfp

end MandateSolver
