import Mathlib.Data.Nat.Log
import MandateSolver.Driver.Merge
import MandateSolver.Foundation.Bytes

/-!
# Conversions between the number types

Big integers and decimals become words by their bytes, each after a check of its
own.  Every check but the one of `I512` lets the whole range of a word through.
-/

namespace MandateSolver.Conversions

open Outcome Bytes

abbrev I512 := BitVec 512

/-! ## To words -/

/-- As few bytes as possible, but at least one. -/
def toBytesBe (input : Nat) : List UInt8 :=
  bigEndian (Nat.log 256 input + 1) input

def bigUintToU256 (input : Nat) : Outcome String U256 := do
  let bytes := toBytesBe input
  .rejectIf (¬ bytes.length ≤ 32) "too large"
  return BitVec.ofNat 256 (ofBigEndian bytes)

def bigIntToU256 (input : Int) : Outcome String U256 := do
  .rejectIf (input < 0) "negative"
  bigUintToU256 input.natAbs

def isInteger (decimal : BigDecimal) : Bool :=
  decimal.scale ≤ 0 || decimal.digits.tmod (10 ^ decimal.scale.toNat) == 0

def toBigint (decimal : BigDecimal) : Int :=
  if decimal.scale ≤ 0 then decimal.digits * 10 ^ (-decimal.scale).toNat
  else decimal.digits.tdiv (10 ^ decimal.scale.toNat)

def bigDecimalToU256 (decimal : BigDecimal) : Option U256 :=
  if isInteger decimal then (bigIntToU256 (toBigint decimal)).toOption else none

def I512.ofU256 (input : U256) : I512 :=
  input.setWidth 512

def i512ToU256 (input : I512) : Outcome String U256 := do
  .rejectIf (input.slt 0) "Negative input value"
  .rejectIf (¬ input.slt (I512.ofU256 U256.max)) "Input exceeds U256::MAX"
  return BitVec.ofNat 256 (ofBigEndian ((bigEndian 64 input.toNat).drop 32))

/-! ## From words -/

def u256ToBigUint (input : U256) : Nat :=
  ofBigEndian (bigEndian 32 input.toNat)

def u256ToBigInt (input : U256) : Int :=
  u256ToBigUint input

def u256ToBigRational (input : U256) : ℚ :=
  u256ToBigInt input

def u256ToBigDecimal (input : U256) : BigDecimal :=
  ⟨u256ToBigUint input, 0⟩

/-! ## The values they stand for -/

/-- The number it stands for. -/
def decimalValue (decimal : BigDecimal) : ℚ :=
  decimal.digits * 10 ^ (-decimal.scale)

/-- Succeeds for the natural numbers that fit into a word, and keeps them. -/
def Exact (value : ℚ) (converted : Option U256) : Prop :=
  ((∃ result, converted = some result) ↔ ∃ number : Nat, number < 2 ^ 256 ∧ value = number) ∧
    ∀ result, converted = some result → value = result.toNat

theorem exact_of_eq_some_iff {value : ℚ} {converted : Option U256}
    (spec : ∀ result, converted = some result ↔ value = result.toNat) : Exact value converted := by
  refine ⟨?_, fun result => (spec result).mp⟩
  constructor
  · rintro ⟨result, success⟩
    exact ⟨result.toNat, result.isLt, (spec result).mp success⟩
  · rintro ⟨number, fits, equal⟩
    refine ⟨BitVec.ofNat 256 number, (spec _).mpr ?_⟩
    rw [equal, BitVec.toNat_ofNat, Nat.mod_eq_of_lt fits]

@[simp]
theorem u256ToBigUint_eq (input : U256) : u256ToBigUint input = input.toNat := by
  rw [u256ToBigUint, ofBigEndian_bigEndian]
  exact Nat.mod_eq_of_lt input.isLt

@[simp]
theorem ofBigEndian_toBytesBe (input : Nat) : ofBigEndian (toBytesBe input) = input := by
  rw [toBytesBe, ofBigEndian_bigEndian]
  exact Nat.mod_eq_of_lt (Nat.lt_pow_succ_log_self (by decide) input)

theorem length_toBytesBe_le_iff (input : Nat) :
    (toBytesBe input).length ≤ 32 ↔ input < 2 ^ 256 := by
  rw [toBytesBe, length_bigEndian, Nat.succ_le_iff]
  rcases eq_or_ne input 0 with rfl | positive
  · simp
  · rw [Nat.log_lt_iff_lt_pow (by decide) positive]
    norm_num

variable {result : U256}

theorem bigUintToU256_eq_ok_iff {input : Nat} :
    bigUintToU256 input = .ok result ↔ input = result.toNat := by
  simp only [bigUintToU256, bind_eq_ok_iff, rejectIf_eq_ok_iff, length_toBytesBe_le_iff,
    ofBigEndian_toBytesBe, pure_eq, ok.injEq, not_not]
  constructor
  · rintro ⟨_, fits, rfl⟩
    rw [BitVec.toNat_ofNat, Nat.mod_eq_of_lt fits]
  · rintro rfl
    exact ⟨(), result.isLt, by simp⟩

theorem bigIntToU256_eq_ok_iff {input : Int} :
    bigIntToU256 input = .ok result ↔ input = result.toNat := by
  simp only [bigIntToU256, bind_eq_ok_iff, rejectIf_eq_ok_iff, bigUintToU256_eq_ok_iff,
    exists_const]
  omega

theorem decimalValue_eq_iff (decimal : BigDecimal) (number : Int) :
    decimalValue decimal = number ↔ isInteger decimal ∧ toBigint decimal = number := by
  unfold isInteger toBigint decimalValue
  by_cases whole : decimal.scale ≤ 0
  · obtain ⟨exponent, scale⟩ := Int.eq_ofNat_of_zero_le (Int.neg_nonneg.mpr whole)
    simp only [whole, scale, decide_true, Bool.true_or, true_and]
    norm_cast
  · obtain ⟨exponent, scale⟩ := Int.eq_ofNat_of_zero_le (Int.le_of_not_le whole)
    have power : (10 ^ exponent : Int) ≠ 0 := by positivity
    have multiple : (decimal.digits : ℚ) * 10 ^ (-decimal.scale) = number ↔
        decimal.digits = number * 10 ^ exponent := by
      rw [scale, zpow_neg, zpow_natCast, mul_inv_eq_iff_eq_mul₀ (by positivity)]
      norm_cast
    simp only [multiple, whole, decide_false, Bool.false_or, if_false, beq_iff_eq]
    rw [scale, Int.toNat_natCast]
    constructor
    · intro digits
      rw [digits, Int.mul_tmod_left, Int.mul_tdiv_cancel _ power]
      exact ⟨rfl, rfl⟩
    · rintro ⟨remainder, rfl⟩
      rw [← Int.add_zero (_ * _), ← remainder, Int.tdiv_mul_add_tmod]

theorem bigDecimalToU256_eq_some_iff (decimal : BigDecimal) (result : U256) :
    bigDecimalToU256 decimal = some result ↔ decimalValue decimal = result.toNat := by
  have value := decimalValue_eq_iff decimal result.toNat
  rw [Int.cast_natCast] at value
  rw [value, bigDecimalToU256, ← bigIntToU256_eq_ok_iff]
  split <;> simp [*]

theorem toInt_ofU256 (input : U256) : (I512.ofU256 input).toInt = input.toNat := by
  rw [I512.ofU256, BitVec.toInt_eq_toNat_of_lt] <;> rw [BitVec.toNat_setWidth_of_le (by decide)]
  omega

/-- The last word of the range is missing. -/
theorem i512ToU256_eq_ok_iff {input : I512} :
    i512ToU256 input = .ok result ↔ input.toInt = result.toNat ∧ result ≠ U256.max := by
  have range := BitVec.toInt_eq_toNat_cond input
  have largest : U256.max.toNat = 2 ^ 256 - 1 := rfl
  have zero : (0 : I512).toInt = 0 := BitVec.toInt_zero
  rw [i512ToU256, drop_bigEndian 32 32, ofBigEndian_bigEndian]
  simp only [bind_eq_ok_iff, rejectIf_eq_ok_iff, BitVec.slt_iff_toInt_lt, toInt_ofU256,
    exists_const, pure_eq, ok.injEq, ne_eq, ← BitVec.toNat_inj, BitVec.toNat_ofNat]
  split at range <;> omega

/-! ## Exactness -/

/-- Every conversion keeps every word, except that the one by way of `I512` fails
for the largest. -/
theorem conversions_exact (word : U256) (integer : Int) (decimal : BigDecimal) (input : I512) :
    (bigUintToU256 (u256ToBigUint word) = .ok word ∧
      bigIntToU256 (u256ToBigInt word) = .ok word ∧
      Driver.bigRationalToU256 (u256ToBigRational word) = .ok word ∧
      bigDecimalToU256 (u256ToBigDecimal word) = some word ∧
      (i512ToU256 (I512.ofU256 word) = .ok word ↔ word ≠ U256.max)) ∧
    Exact integer (bigIntToU256 integer).toOption ∧
    Exact (decimalValue decimal) (bigDecimalToU256 decimal) ∧
    (Exact input.toInt (i512ToU256 input).toOption ↔ input.toInt ≠ 2 ^ 256 - 1) := by
  refine ⟨⟨?_, ?_, ?_, ?_, ?_⟩, ?_, ?_, ?_⟩
  · rw [bigUintToU256_eq_ok_iff, u256ToBigUint_eq]
  · rw [bigIntToU256_eq_ok_iff, u256ToBigInt, u256ToBigUint_eq]
  · have bound := word.isLt
    simp [Driver.bigRationalToU256, u256ToBigRational, u256ToBigInt, bound]
  · rw [bigDecimalToU256_eq_some_iff]
    simp [decimalValue, u256ToBigDecimal]
  · rw [i512ToU256_eq_ok_iff, toInt_ofU256, and_iff_right rfl]
  · apply exact_of_eq_some_iff
    intro result
    rw [toOption_eq_some_iff, bigIntToU256_eq_ok_iff]
    norm_cast
  · exact exact_of_eq_some_iff (bigDecimalToU256_eq_some_iff decimal)
  · have largest : U256.max.toNat = 2 ^ 256 - 1 := rfl
    constructor
    · rintro ⟨succeeds, -⟩ last
      obtain ⟨result, success⟩ := succeeds.mpr ⟨2 ^ 256 - 1, by decide, by rw [last]; norm_num⟩
      obtain ⟨_, less⟩ := i512ToU256_eq_ok_iff.mp (toOption_eq_some_iff.mp success)
      rw [ne_eq, ← BitVec.toNat_inj] at less
      omega
    · intro notLast
      apply exact_of_eq_some_iff
      intro result
      rw [toOption_eq_some_iff, i512ToU256_eq_ok_iff, ne_eq, ← BitVec.toNat_inj]
      generalize input.toInt = number at notLast ⊢
      norm_cast
      omega

/-- The largest word does not come back from `I512`, although it is in range. -/
theorem i512ToU256_rejects_max :
    i512ToU256 (I512.ofU256 U256.max) = .err "Input exceeds U256::MAX" ∧
      (I512.ofU256 U256.max).toInt = 2 ^ 256 - 1 := by
  decide +kernel

end MandateSolver.Conversions
