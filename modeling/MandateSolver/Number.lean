import Mathlib.Algebra.Order.Floor.Div
import Mathlib.Data.Rat.Floor
import MandateSolver.Eth

/-!
# Saturating and rounded arithmetic

Sums that saturate at the largest 256-bit integer, divisions that round up,
and the multiplication by a fractional factor.
-/

namespace MandateSolver

open List BitVec

/-- Equal ratios round to the same number. -/
theorem div_eq_div_of_mul_eq {first second above below : Nat}
    (belowPositive : 0 < below) (secondPositive : 0 < second)
    (ratio : first * below = above * second) : first / second = above / below :=
  calc first / second
    _ = first * below / (second * below) := (Nat.mul_div_mul_right first second belowPositive).symm
    _ = above * second / (below * second) := by rw [ratio, Nat.mul_comm below]
    _ = above / below := Nat.mul_div_mul_right above below secondPositive

theorem ceilDiv_eq_ceilDiv_of_mul_eq {first second above below : Nat}
    (belowPositive : 0 < below) (secondPositive : 0 < second)
    (ratio : first * below = above * second) : first ⌈/⌉ second = above ⌈/⌉ below := by
  apply eq_of_forall_ge_iff
  intro bound
  have swapped : second * bound * below = below * bound * second := by ac_rfl
  rw [ceilDiv_le_iff_le_mul secondPositive, ceilDiv_le_iff_le_mul belowPositive,
    ← Nat.mul_le_mul_right_iff belowPositive, ratio, swapped]
  exact Nat.mul_le_mul_right_iff secondPositive

theorem ceilDiv_eq_div_add {value divisor : Nat} (positive : 0 < divisor) :
    value ⌈/⌉ divisor = value / divisor + if value % divisor = 0 then 0 else 1 := by
  have parts := Nat.div_add_mod value divisor
  have remainder := Nat.mod_lt value positive
  split
  · apply Nat.div_eq_of_lt_le
    · rw [Nat.add_zero, Nat.mul_comm]
      omega
    · rw [Nat.add_zero, Nat.add_mul, Nat.mul_comm _ divisor]
      omega
  · apply Nat.div_eq_of_lt_le
    · rw [Nat.add_mul, Nat.mul_comm _ divisor]
      omega
    · rw [Nat.add_mul, Nat.add_mul, Nat.mul_comm _ divisor]
      omega

namespace U256

def saturatingMul (left right : U256) : U256 :=
  (checkedMul left right).getD max

def divCeil (left right : U256) : U256 :=
  if left.toNat % right.toNat = 0 then left / right else left / right + 1

def checkedCeilDiv (left right : U256) : Option U256 :=
  if right.isZero then none else some (left.divCeil right)

def ceilDiv {ε : Type} (left right : U256) : Outcome ε U256 :=
  Outcome.expect "ceiling division arithmetic error" (left.checkedCeilDiv right)

variable (left right : U256)

theorem toNat_max : (Max.max left right).toNat = Max.max left.toNat right.toNat :=
  (show Monotone (BitVec.toNat (w := 256)) from fun _ _ ordered => ordered).map_max

theorem toNat_min : (Min.min left right).toNat = Min.min left.toNat right.toNat :=
  (show Monotone (BitVec.toNat (w := 256)) from fun _ _ ordered => ordered).map_min

theorem toNat_divCeil {left right : U256} (nonzero : right ≠ 0) :
    (left.divCeil right).toNat = left.toNat ⌈/⌉ right.toNat := by
  have positive := toNat_pos_of_ne_zero nonzero
  unfold U256.divCeil
  rw [ceilDiv_eq_div_add positive]
  split
  · rw [toNat_udiv, Nat.add_zero]
  · rename_i inexact
    have quotient : left.toNat / right.toNat + 1 ≤ left.toNat := by
      apply Nat.div_lt_self
      · exact Nat.pos_of_ne_zero fun zero => inexact (by simp [zero])
      · by_contra one
        have : right.toNat = 1 := by omega
        exact inexact (by rw [this, Nat.mod_one])
    exact Nat.mod_eq_of_lt (show left.toNat / right.toNat + 1 < 2 ^ 256 by omega)

theorem toNat_saturatingAdd : (saturatingAdd left right).toNat =
      min (left.toNat + right.toNat) (2 ^ 256 - 1) := by
  unfold saturatingAdd checkedAdd
  split
  · rename_i fits
    rw [Option.getD_some, toNat_add]
    omega
  · rw [Option.getD_none, max, toNat_allOnes]
    omega

def saturatingSum (values : List U256) : U256 :=
  values.foldl saturatingAdd 0

theorem toNat_foldl_saturatingAdd (start : U256) (values : List U256) :
    (values.foldl saturatingAdd start).toNat =
      min (start.toNat + (values.map BitVec.toNat).sum) (2 ^ 256 - 1) := by
  induction values generalizing start with
  | nil =>
    simp only [foldl_nil, map_nil, sum_nil]
    omega
  | cons value values ih =>
    rw [foldl_cons, ih, toNat_saturatingAdd, map_cons, sum_cons]
    omega

theorem saturatingSum_perm {left right : List U256} (permutation : left.Perm right) :
    saturatingSum left = saturatingSum right := by
  apply eq_of_toNat_eq
  unfold saturatingSum
  rw [toNat_foldl_saturatingAdd, toNat_foldl_saturatingAdd, (permutation.map BitVec.toNat).sum_eq]

def reduce {α : Type} (combine : α → α → α) : List α → Option α
  | [] => none
  | first :: rest => some (rest.foldl combine first)

theorem reduce_saturatingAdd (values : List U256) :
    (reduce saturatingAdd values).getD 0 = saturatingSum values := by
  cases values with
  | nil => rfl
  | cons first rest =>
    have zero : saturatingAdd 0 first = first := by
      apply eq_of_toNat_eq
      rw [toNat_saturatingAdd]
      change min (0 + first.toNat) (2 ^ 256 - 1) = first.toNat
      omega
    change rest.foldl saturatingAdd first = rest.foldl saturatingAdd (saturatingAdd 0 first)
    rw [zero]

end U256

/-- The numbers that fee factors are given as, with the multiplication of an
integer by one of them. -/
class Factor (F : Type) extends One F, Add F, Sub F, Div F where
  checkedMul : U256 → F → Option U256

/-- Multiplication by a factor that is kept exactly: 18 decimals of it count. -/
def U256.checkedMulRat (value : U256) (factor : ℚ) : Option U256 :=
  if factor < 0 then none
  else if factor = 1 then some value
  else
    let scaled := (factor * 10 ^ 18).floor.toNat
    if scaled < 2 ^ 256 then
      (value.checkedMul (BitVec.ofNat 256 scaled)).bind (·.checkedDiv 1000000000000000000)
    else none

instance : Factor ℚ where
  checkedMul := U256.checkedMulRat

/-! ## Decimals -/

/-- The decimal `digits * 10 ^ (-scale)`. -/
structure BigDecimal where
  (digits scale : Int)

namespace BigDecimal

def mul (left right : BigDecimal) : BigDecimal :=
  ⟨left.digits * right.digits, left.scale + right.scale⟩

def toU32 (decimal : BigDecimal) : Option U32 :=
  if decimal.digits < 0 then none
  else
    let integral :=
      if 0 ≤ decimal.scale then
        decimal.digits.toNat / 10 ^ decimal.scale.toNat
      else decimal.digits.toNat * 10 ^ decimal.scale.natAbs
    if integral < 2 ^ 32 then some (BitVec.ofNat 32 integral) else none

end BigDecimal

/-- A fraction of naturals. -/
structure Ratio where
  (numer denom : Nat)
  denom_pos : 0 < denom

def Ratio.new (numer denom : Nat) (denom_pos : 0 < denom) : Ratio where
  numer := numer / numer.gcd denom
  denom := denom / numer.gcd denom
  denom_pos := Nat.div_pos (Nat.le_of_dvd denom_pos (Nat.gcd_dvd_right _ _))
    (Nat.gcd_pos_of_pos_right _ denom_pos)

namespace Conv

def ratioToRational (ratio : Ratio) : Option Rational :=
  if fits : ratio.numer < 2 ^ 256 ∧ ratio.denom < 2 ^ 256 then
    some {
      numer := BitVec.ofNat 256 ratio.numer
      denom := BitVec.ofNat 256 ratio.denom
      denom_ne_zero := by
        intro zero
        have narrowed := congrArg BitVec.toNat zero
        rw [BitVec.toNat_ofNat, Nat.mod_eq_of_lt fits.2] at narrowed
        exact absurd narrowed (Nat.ne_of_gt ratio.denom_pos) }
  else none

def decimalToRational (decimal : BigDecimal) : Option Rational :=
  if decimal.digits < 0 ∨ 2 ^ 32 ≤ decimal.scale.natAbs then none
  else
    let uint := decimal.digits.toNat
    let factor := 10 ^ decimal.scale.natAbs
    ratioToRational <| if 0 ≤ decimal.scale then Ratio.new uint factor (Nat.pow_pos (by decide))
      else Ratio.new (uint * factor) 1 Nat.one_pos

example : decimalToRational ⟨42, 1⟩ = some ⟨21, 5, by decide⟩ := by
  decide +kernel

example : decimalToRational ⟨-42, 2⟩ = none := by
  decide +kernel

end Conv

end MandateSolver
