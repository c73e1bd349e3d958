import Mathlib.Data.Nat.Cast.Order.Field
import Mathlib.Tactic.FieldSimp
import Mathlib.Tactic.Positivity
import Mathlib.Tactic.Ring
import MandateSolver.Balancer.FixedPoint

/-!
# Swaps of a weighted pool

The two pool versions differ only in how they compute a power, so each
direction is one definition over the power function.
-/

namespace MandateSolver.WeightedMath

def maxInRatio : Bfp := ⟨300000000000000000⟩

def maxOutRatio : Bfp := ⟨300000000000000000⟩

section

variable (powUp : Bfp → Bfp → Outcome BalancerError Bfp)

def calcOutGivenInWith (balanceIn weightIn balanceOut weightOut amountIn : Bfp) :
    Outcome BalancerError Bfp := do
  let maxAmountIn ← balanceIn.mulDown maxInRatio
  if maxAmountIn.wei < amountIn.wei then .err .maxInRatio
  else do
    let denominator ← Outcome.expectOk "See proof above."
      (balanceIn.add amountIn)
    let base ← balanceIn.divUp denominator
    let exponent ← weightIn.divDown weightOut
    let power ← powUp base exponent
    balanceOut.mulDown power.complement

def calcInGivenOutWith (balanceIn weightIn balanceOut weightOut amountOut : Bfp) :
    Outcome BalancerError Bfp := do
  let maxAmountOut ← balanceOut.mulDown maxOutRatio
  if maxAmountOut.wei < amountOut.wei then .err .maxOutRatio
  else do
    let denominator ← Outcome.expectOk
      "if amount_out > balance_out >= balance_out.mul_down(*MAX_OUT_RATIO) contradicting above inequality"
      (balanceOut.sub amountOut)
    let base ← balanceOut.divUp denominator
    let exponent ← weightOut.divUp weightIn
    let power ← powUp base exponent
    let ratio ← Outcome.expectOk
      "power=0 => base=0 => balance_out=0 => amount_out=0 => denominator div by zero"
      (power.sub Bfp.one)
    balanceIn.mulUp ratio

end

def calcOutGivenIn := calcOutGivenInWith Bfp.powUp

def calcInGivenOut := calcInGivenOutWith Bfp.powUp

def calcOutGivenInV3 := calcOutGivenInWith Bfp.powUpV3

def calcInGivenOutV3 := calcInGivenOutWith Bfp.powUpV3

theorem add_of_le_maxInRatio {balance amount limit : Bfp}
    (limitOk : balance.mulDown maxInRatio = .ok limit)
    (within : amount.wei.toNat ≤ limit.wei.toNat) : ∃ sum, balance.add amount = .ok sum := by
  obtain ⟨fits, limitEq⟩ := Bfp.mulDown_eq_ok_iff.mp limitOk
  have ratio : maxInRatio.wei.toNat = 3 * 10 ^ 17 := by decide
  rw [ratio] at fits limitEq
  refine ⟨⟨balance.wei + amount.wei⟩, Bfp.add_eq_ok_iff.mpr ?_⟩
  rw [BitVec.toNat_add]
  omega

theorem calcOutGivenInWith_noPanic {powUp : Bfp → Bfp → Outcome BalancerError Bfp}
    (powSafe : ∀ base exponent, Outcome.NoPanic (powUp base exponent))
    (balanceIn weightIn balanceOut weightOut amountIn : Bfp) :
    Outcome.NoPanic (calcOutGivenInWith powUp
      balanceIn weightIn balanceOut weightOut amountIn) := by
  refine (Bfp.mulDown_noPanic _ _).bind fun limit limitOk => ?_
  split
  · simp
  · rename_i within
    obtain ⟨sum, sumOk⟩ := add_of_le_maxInRatio limitOk (Nat.le_of_not_lt within)
    simp [sumOk, powSafe]

end MandateSolver.WeightedMath

namespace MandateSolver

open Outcome Bfp

namespace Bfp

/-- The number as a fraction. -/
def toRat (number : Bfp) : ℚ :=
  number.wei.toNat / 10 ^ 18

theorem toRat_nonneg (number : Bfp) : 0 ≤ number.toRat := by
  rw [toRat]
  positivity

/-! ## Rounding -/

theorem div_le_ceilDiv (value : Nat) {divisor : Nat} (positive : 0 < divisor) :
    (value : ℚ) / divisor ≤ (value ⌈/⌉ divisor) := by
  have cast : (0 : ℚ) < divisor := by exact_mod_cast positive
  have rounded : value ≤ divisor * (value ⌈/⌉ divisor) := le_smul_ceilDiv positive
  rw [div_le_iff₀ cast]
  have castRounded : (value : ℚ) ≤ divisor * (value ⌈/⌉ divisor) := by
    exact_mod_cast rounded
  linarith

variable {left right result : Bfp}

theorem toRat_mulDown_le (computed : left.mulDown right = .ok result) :
    result.toRat ≤ left.toRat * right.toRat := by
  obtain ⟨-, value⟩ := mulDown_eq_ok_iff.mp computed
  have rounded : ((left.wei.toNat * right.wei.toNat / 10 ^ 18 : Nat) : ℚ) ≤
      (left.wei.toNat * right.wei.toNat : Nat) / (10 ^ 18 : Nat) := Nat.cast_div_le
  rw [Nat.cast_mul, Nat.cast_pow, Nat.cast_ofNat] at rounded
  rw [toRat, toRat, toRat, value, div_mul_div_comm, ← div_div]
  gcongr

theorem le_toRat_mulUp (computed : left.mulUp right = .ok result) :
    left.toRat * right.toRat ≤ result.toRat := by
  obtain ⟨-, value⟩ := mulUp_value computed
  have rounded := div_le_ceilDiv (left.wei.toNat * right.wei.toNat) (show 0 < 10 ^ 18 by decide)
  rw [Nat.cast_mul, Nat.cast_pow, Nat.cast_ofNat] at rounded
  rw [toRat, toRat, toRat, value, div_mul_div_comm, ← div_div]
  gcongr

theorem le_toRat_divUp (computed : left.divUp right = .ok result) :
    left.toRat / right.toRat ≤ result.toRat := by
  obtain ⟨positive, -, value⟩ := divUp_value computed
  have rounded := div_le_ceilDiv (left.wei.toNat * 10 ^ 18) positive
  rw [Nat.cast_mul] at rounded
  rw [toRat, toRat, toRat, value, div_div_div_cancel_right₀ (by norm_num),
    le_div_iff₀ (by norm_num)]
  calc (left.wei.toNat : ℚ) / right.wei.toNat * 10 ^ 18
    _ = left.wei.toNat * 10 ^ 18 / right.wei.toNat := by ring
    _ ≤ _ := rounded

theorem toRat_add (computed : left.add right = .ok result) :
    result.toRat = left.toRat + right.toRat := by
  have value := add_eq_ok_iff.mp computed
  rw [toRat, toRat, toRat, value]
  push_cast
  ring

theorem toRat_sub (computed : left.sub right = .ok result) :
    result.toRat = left.toRat - right.toRat := by
  have value := sub_eq_ok_iff.mp computed
  rw [toRat, toRat, toRat, value]
  push_cast
  ring

theorem toRat_complement_le (number : Bfp) {bound : ℚ} (atMostOne : bound ≤ 1)
    (below : bound ≤ number.toRat) : number.complement.toRat ≤ 1 - bound := by
  rw [toRat, toNat_complement]
  rw [toRat] at below
  rcases Nat.le_total number.wei.toNat (10 ^ 18) with less | more
  · rw [Nat.cast_sub less]
    linarith
  · rw [Nat.sub_eq_zero_of_le more]
    simpa using atMostOne

/-! ## Powers -/

/-- An exponent whose power is computed by multiplications. -/
def Shortcut (exponent : Bfp) (degree : Nat) : Prop :=
  (degree = 1 ∨ degree = 2 ∨ degree = 4) ∧ exponent.wei.toNat = degree * 10 ^ 18

theorem pow_le_toRat_powUpV3 {base exponent power : Bfp} {degree : Nat} {exact : ℚ}
    (shortcut : Shortcut exponent degree) (computed : base.powUpV3 exponent = .ok power)
    (nonneg : 0 ≤ exact) (below : exact ≤ base.toRat) : exact ^ degree ≤ power.toRat := by
  have squared : ∀ {factor square : Bfp} {value : ℚ}, 0 ≤ value → value ≤ factor.toRat →
      factor.mulUp factor = .ok square → value ^ 2 ≤ square.toRat := by
    intro factor square value valueNonneg atMost multiplied
    calc value ^ 2
      _ ≤ factor.toRat ^ 2 := pow_le_pow_left₀ valueNonneg atMost 2
      _ = factor.toRat * factor.toRat := pow_two _
      _ ≤ square.toRat := le_toRat_mulUp multiplied
  obtain ⟨degrees, weiEq⟩ := shortcut
  have isExponent : ∀ other, other.wei.toNat = degree * 10 ^ 18 → exponent = other := by
    intro other otherEq
    rw [mk.injEq, ← BitVec.toNat_inj]
    exact weiEq.trans otherEq.symm
  obtain rfl | rfl | rfl := degrees
  · rw [powUpV3, if_pos (isExponent one rfl)] at computed
    cases computed
    rwa [pow_one]
  · have isTwo := isExponent two rfl
    rw [powUpV3, if_neg (by rw [isTwo]; decide), if_pos isTwo] at computed
    exact squared nonneg below computed
  · have isFour := isExponent four rfl
    rw [powUpV3, if_neg (by rw [isFour]; decide), if_neg (by rw [isFour]; decide),
      if_pos isFour] at computed
    obtain ⟨square, multiplied, again⟩ := bind_eq_ok_iff.mp computed
    have fourth := squared (by positivity) (squared nonneg below multiplied) again
    rwa [← pow_mul] at fourth

end Bfp

namespace WeightedMath

open Bfp (Shortcut)

variable {balanceIn weightIn balanceOut weightOut amount exponent result : Bfp} {degree : Nat}

theorem calcOutGivenInV3_le (shortcut : Shortcut exponent degree)
    (ratio : weightIn.divDown weightOut = .ok exponent)
    (computed : calcOutGivenInV3 balanceIn weightIn balanceOut weightOut amount = .ok result) :
    result.toRat ≤ balanceOut.toRat *
      (1 - (balanceIn.toRat / (balanceIn.toRat + amount.toRat)) ^ degree) := by
  simp only [calcOutGivenInV3, calcOutGivenInWith, ratio, bind_eq_ok_iff,
    ite_err_eq_ok_iff, expectOk_eq_ok_iff, ok_bind] at computed
  obtain ⟨_, -, -, _, added, _, divided, power, raised, multiplied⟩ := computed
  have sum := Bfp.toRat_add added
  have rounded := le_toRat_divUp divided
  rw [sum] at rounded
  have inNonneg := balanceIn.toRat_nonneg
  have amountNonneg := amount.toRat_nonneg
  have baseNonneg : 0 ≤ balanceIn.toRat / (balanceIn.toRat + amount.toRat) := by positivity
  have baseAtMost : balanceIn.toRat / (balanceIn.toRat + amount.toRat) ≤ 1 :=
    div_le_one_of_le₀ (by linarith) (by linarith)
  have powerAtLeast := pow_le_toRat_powUpV3 shortcut raised baseNonneg rounded
  calc result.toRat
    _ ≤ balanceOut.toRat * power.complement.toRat := Bfp.toRat_mulDown_le multiplied
    _ ≤ _ := mul_le_mul_of_nonneg_left
      (power.toRat_complement_le (pow_le_one₀ baseNonneg baseAtMost) powerAtLeast)
      balanceOut.toRat_nonneg

theorem le_calcInGivenOutV3 (shortcut : Shortcut exponent degree)
    (ratio : weightOut.divUp weightIn = .ok exponent)
    (computed : calcInGivenOutV3 balanceIn weightIn balanceOut weightOut amount = .ok result) :
    balanceIn.toRat * ((balanceOut.toRat / (balanceOut.toRat - amount.toRat)) ^ degree - 1) ≤
      result.toRat := by
  simp only [calcInGivenOutV3, calcInGivenOutWith, ratio, bind_eq_ok_iff,
    ite_err_eq_ok_iff, expectOk_eq_ok_iff, ok_bind] at computed
  obtain ⟨_, -, -, denominator, subtracted, _, divided, _, raised, growth,
    reduced, multiplied⟩ := computed
  have difference := toRat_sub subtracted
  have growthEq := toRat_sub reduced
  have rounded := le_toRat_divUp divided
  have baseNonneg := div_nonneg balanceOut.toRat_nonneg denominator.toRat_nonneg
  have powerAtLeast := pow_le_toRat_powUpV3 shortcut raised baseNonneg rounded
  rw [difference] at powerAtLeast
  have isOne : Bfp.one.toRat = 1 := by
    rw [Bfp.toRat, show Bfp.one.wei.toNat = 10 ^ 18 from rfl]
    norm_num
  calc balanceIn.toRat *
    _ ≤ balanceIn.toRat * growth.toRat :=
      mul_le_mul_of_nonneg_left (by linarith) balanceIn.toRat_nonneg
    _ ≤ result.toRat := Bfp.le_toRat_mulUp multiplied

/-- What is paid out for an exponent of one, two or four is at most the exact amount,
and what is asked for is at least the exact amount. -/
theorem shortcuts_favour_pool (balanceIn weightIn balanceOut weightOut amount exponent
      result : Bfp) (degree : Nat) (shortcut : Shortcut exponent degree) :
    (weightIn.divDown weightOut = .ok exponent →
      calcOutGivenInV3 balanceIn weightIn balanceOut weightOut amount = .ok result →
        result.toRat ≤ balanceOut.toRat *
          (1 - (balanceIn.toRat / (balanceIn.toRat + amount.toRat)) ^ degree)) ∧
    (weightOut.divUp weightIn = .ok exponent →
      calcInGivenOutV3 balanceIn weightIn balanceOut weightOut amount = .ok result →
        balanceIn.toRat * ((balanceOut.toRat / (balanceOut.toRat - amount.toRat)) ^ degree - 1) ≤
          result.toRat) :=
  ⟨fun ratio computed => calcOutGivenInV3_le shortcut ratio computed,
    fun ratio computed => le_calcInGivenOutV3 shortcut ratio computed⟩

/-- One for about three and a half, from a pool of ten and twenty. -/
theorem shortcuts_favour_pool_square :
    Bfp.toRat ⟨3471074380165289240⟩ ≤ Bfp.toRat ⟨20000000000000000000⟩ *
      (1 - (Bfp.toRat ⟨10000000000000000000⟩ /
        (Bfp.toRat ⟨10000000000000000000⟩ + Bfp.toRat ⟨1000000000000000000⟩)) ^ 2) :=
  (shortcuts_favour_pool ⟨10000000000000000000⟩ ⟨600000000000000000⟩
    ⟨20000000000000000000⟩ ⟨300000000000000000⟩ ⟨1000000000000000000⟩ Bfp.two
    ⟨3471074380165289240⟩ 2 ⟨.inr (.inl rfl), rfl⟩).1 (by decide +kernel) (by decide +kernel)

end WeightedMath

end MandateSolver
