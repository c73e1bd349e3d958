import MandateSolver.Driver.Merge
import MandateSolver.Driver.Scoring

/-!
# Slippage

The slippage is a share of the amount, kept within bounds in the native token.  A product
that wraps around makes it smaller, but a sum that wraps makes the amount smaller.
-/

namespace MandateSolver.Driver.Slippage

open Outcome hiding none

open Scoring (inEth)
open WinnerSelection (MathError)

/-- The tolerated slippage. -/
structure Parameters where
  relative : ℚ
  (max min : Option U256)
  prices : Prices

/-- The amounts of an interaction. -/
structure Interaction where
  (input output : Asset)

/-- The plain product wraps around. -/
def fromEth {ε : Type} (price amount : U256) : Outcome ε U256 :=
  U256.div (amount * 1000000000000000000) price

def clamp {ε : Type} (value low high : U256) : Outcome ε U256 :=
  if low ≤ high then .ok (if value < low then low else if high < value then high else value)
  else .panic (.assertion "assertion failed: min <= max")

namespace Parameters

variable (parameters : Parameters)

def capped (price amount : U256) : Outcome MathError U256 := do
  let relative ← (bigRationalToU256 ((inEth price amount).toNat * parameters.relative)).mapError
    fun _ => .divisionByZero
  let slippage ← clamp relative (parameters.min.getD 0) (parameters.max.getD U256.max)
  fromEth price slippage

/-- The price of the output is used if there is none for the input, and no bounds
without any price. -/
def slippage (interaction : Interaction) : Outcome MathError U256 :=
  match parameters.prices.get interaction.input.token with
  | some price => parameters.capped price interaction.input.amount
  | none =>
    match parameters.prices.get interaction.output.token with
    | some price => do
      let converted ← parameters.capped price interaction.output.amount
      let product ← .okOr .overflow (converted.checkedMul interaction.input.amount)
      .okOr .divisionByZero (product.checkedDiv interaction.output.amount)
    | none =>
      (bigRationalToU256 (interaction.input.amount.toNat * parameters.relative)).mapError
        fun _ => .divisionByZero

def applyTo (interaction : Interaction) : Outcome MathError (Asset × Asset) := do
  let slippage ← parameters.slippage interaction
  return ({ interaction.input with amount := interaction.input.amount + slippage },
    interaction.output)

/-! ## The slippage in numbers -/

def bounded (value : Nat) : Nat :=
  if value < (parameters.min.getD 0).toNat then (parameters.min.getD 0).toNat
  else if (parameters.max.getD U256.max).toNat < value then
    (parameters.max.getD U256.max).toNat
  else value

/-- The share of an amount that is valued at the price, within the bounds.  Both
conversions keep 256 bits of their product. -/
def share (price amount : Nat) : Nat :=
  parameters.bounded ⌊((amount * price % 2 ^ 256 / 10 ^ 18 : Nat) : ℚ) * parameters.relative⌋₊ *
    10 ^ 18 % 2 ^ 256 / price

/-- The slippage in exact numbers. -/
def allowance (interaction : Interaction) : Nat :=
  match parameters.prices.get interaction.input.token,
    parameters.prices.get interaction.output.token with
  | some price, _ => parameters.share price.toNat interaction.input.amount.toNat
  | none, some price =>
    parameters.share price.toNat interaction.output.amount.toNat *
      interaction.input.amount.toNat / interaction.output.amount.toNat
  | none, none => ⌊(interaction.input.amount.toNat : ℚ) * parameters.relative⌋₊

variable {parameters} {result : U256} {ε : Type}

theorem toNat_clamp {value : U256}
    (clamped : (clamp value (parameters.min.getD 0) (parameters.max.getD U256.max) :
      Outcome ε U256) = .ok result) : result.toNat = parameters.bounded value.toNat := by
  rw [clamp] at clamped
  split at clamped
  · cases clamped
    rw [bounded]
    split
    · rename_i below
      rw [if_pos (show value.toNat < _ from below)]
    · rename_i notBelow
      rw [if_neg (show ¬ value.toNat < _ from notBelow)]
      split
      · rename_i above
        rw [if_pos (show _ < value.toNat from above)]
      · rename_i notAbove
        rw [if_neg (show ¬ _ < value.toNat from notAbove)]
  · cases clamped

theorem toNat_fromEth {price amount : U256}
    (converted : (fromEth price amount : Outcome ε U256) = .ok result) :
    0 < price.toNat ∧ result.toNat = amount.toNat * 10 ^ 18 % 2 ^ 256 / price.toNat := by
  rw [fromEth, U256.div] at converted
  split at converted
  · cases converted
  · rename_i nonzero
    cases converted
    refine ⟨BitVec.toNat_pos_of_ne_zero nonzero, ?_⟩
    rw [BitVec.toNat_udiv, BitVec.toNat_mul]
    rfl

theorem toNat_inEth (price amount : U256) :
    (inEth price amount).toNat = amount.toNat * price.toNat % 2 ^ 256 / 10 ^ 18 := by
  rfl

section

variable (nonneg : 0 ≤ parameters.relative)
include nonneg

theorem toNat_bigRationalToU256 {amount scaled : U256} {wrap : String → MathError}
    (converted : (bigRationalToU256 (amount.toNat * parameters.relative)).mapError wrap =
      .ok scaled) : scaled.toNat = ⌊amount.toNat * parameters.relative⌋₊ := by
  obtain ⟨fits, same⟩ := (bigRationalToU256_eq_ok_iff nonneg).mp (mapError_eq_ok_iff.mp converted)
  rw [same, toNat_scaleUp fits]

theorem toNat_capped {price amount : U256}
    (computed : parameters.capped price amount = .ok result) :
    0 < price.toNat ∧ result.toNat = parameters.share price.toNat amount.toNat := by
  obtain ⟨_, scaled, bounds⟩ := bind_eq_ok_iff.mp computed
  obtain ⟨_, clamped, converted⟩ := bind_eq_ok_iff.mp bounds
  obtain ⟨positive, value⟩ := toNat_fromEth converted
  refine ⟨positive, ?_⟩
  rw [value, toNat_clamp clamped, toNat_bigRationalToU256 nonneg scaled, toNat_inEth, share]

theorem toNat_slippage {interaction : Interaction}
    (computed : parameters.slippage interaction = .ok result) :
    result.toNat = parameters.allowance interaction := by
  rw [slippage] at computed
  rw [allowance]
  split at computed
  · rename_i price found
    rw [found]
    exact (toNat_capped nonneg computed).2
  · rename_i notFound
    rw [notFound]
    split at computed
    · rename_i price found
      rw [found]
      obtain ⟨converted, capped, rest⟩ := bind_eq_ok_iff.mp computed
      obtain ⟨product, multiplied, divided⟩ := bind_eq_ok_iff.mp rest
      rw [okOr_eq_ok_iff] at multiplied divided
      rw [(U256.checkedDiv_eq_some_iff.mp divided).2,
        U256.checkedMul_eq_some_iff.mp multiplied, (toNat_capped nonneg capped).2]
    · rename_i unpriced
      rw [unpriced]
      exact toNat_bigRationalToU256 nonneg computed

end

/-! ## Bounds -/

theorem bounded_le_of_min (noMin : parameters.min = none) (value : Nat) :
    parameters.bounded value ≤ value ∧
      ∀ max, parameters.max = some max → parameters.bounded value ≤ max.toNat := by
  rw [bounded, noMin, Option.getD_none, show (0 : U256).toNat = 0 from rfl,
    if_neg (Nat.not_lt_zero value)]
  constructor
  · split
    · rename_i above
      exact above.le
    · exact Nat.le_refl _
  · intro max isMax
    rw [isMax]
    split
    · exact Nat.le_refl _
    · rename_i notAbove
      exact Nat.not_lt.mp notAbove

/-- Products that wrap and quotients that are rounded only make the share smaller. -/
theorem share_mul_price_le (parameters : Parameters) (price amount : Nat) :
    parameters.share price amount * price ≤ parameters.bounded
          ⌊((amount * price % 2 ^ 256 / 10 ^ 18 : Nat) : ℚ) * parameters.relative⌋₊ *
        10 ^ 18 :=
  (Nat.div_mul_le_self _ _).trans (Nat.mod_le _ _)

theorem share_le {price : Nat} (amount : Nat) (nonneg : 0 ≤ parameters.relative)
    (noMin : parameters.min = none) (positive : 0 < price) :
    (parameters.share price amount) ≤ parameters.relative * amount := by
  have priceCast : (0 : ℚ) < price := by exact_mod_cast positive
  have converted := share_mul_price_le parameters price amount
  set value := amount * price % 2 ^ 256 / 10 ^ 18 with value_eq
  have valueAtMost : value * 10 ^ 18 ≤ amount * price :=
    (Nat.div_mul_le_self _ _).trans (Nat.mod_le _ _)
  have relativeAtMost : (⌊(value : ℚ) * parameters.relative⌋₊) ≤ value * parameters.relative :=
    Nat.floor_le (mul_nonneg (Nat.cast_nonneg _) nonneg)
  have boundedAtMost := (bounded_le_of_min noMin ⌊value * parameters.relative⌋₊).1
  have products := calc (parameters.share price amount : ℚ) * price
      _ ≤ parameters.bounded ⌊value * parameters.relative⌋₊ * 10 ^ 18 := by
        exact_mod_cast converted
      _ ≤ ⌊value * parameters.relative⌋₊ * 10 ^ 18 := by
        exact_mod_cast Nat.mul_le_mul_right _ boundedAtMost
      _ ≤ value * parameters.relative * 10 ^ 18 := by linarith
      _ = parameters.relative * (value * 10 ^ 18 : Nat) := by push_cast; ring
      _ ≤ parameters.relative * (amount * price : Nat) :=
        mul_le_mul_of_nonneg_left (by exact_mod_cast valueAtMost) nonneg
      _ = parameters.relative * amount * price := by push_cast; ring
  exact le_of_mul_le_mul_right products priceCast

theorem share_in_eth_le {price amount : Nat} (noMin : parameters.min = none)
    {max : U256} (isMax : parameters.max = some max) :
    parameters.share price amount * price / 10 ^ 18 ≤ max.toNat := by
  apply Nat.div_le_of_le_mul
  rw [Nat.mul_comm (10 ^ 18)]
  apply (share_mul_price_le parameters price amount).trans
  exact Nat.mul_le_mul_right _ ((bounded_le_of_min noMin _).2 max isMax)

/-- The input amount grows within the bounds exactly if the sum does not wrap. -/
theorem applyTo_bounds_iff (parameters : Parameters) (interaction : Interaction)
    (maxInput exactOutput : Asset) (nonneg : 0 ≤ parameters.relative)
    (applied : parameters.applyTo interaction = .ok (maxInput, exactOutput)) :
    (exactOutput = interaction.output ∧ maxInput.token = interaction.input.token ∧
      interaction.input.amount.toNat ≤ maxInput.amount.toNat ∧
      (∀ price, parameters.prices.get interaction.input.token = some price → parameters.min = none →
          (maxInput.amount.toNat - interaction.input.amount.toNat : ℚ) ≤
              parameters.relative * interaction.input.amount.toNat ∧
            ∀ max, parameters.max = some max →
              (maxInput.amount.toNat - interaction.input.amount.toNat) * price.toNat /
                10 ^ 18 ≤ max.toNat) ∧
      (parameters.prices.get interaction.input.token = none →
        parameters.prices.get interaction.output.token = none →
          maxInput.amount.toNat = interaction.input.amount.toNat +
            ⌊parameters.relative * interaction.input.amount.toNat⌋₊)) ↔
      interaction.input.amount.toNat + parameters.allowance interaction < 2 ^ 256 := by
  obtain ⟨slippage, computed, returned⟩ := bind_eq_ok_iff.mp applied
  cases returned
  have value := toNat_slippage nonneg computed
  rw [BitVec.toNat_add, ← value]
  constructor
  · by_contra wraps
    omega
  · intro fits
    rw [Nat.mod_eq_of_lt fits]
    refine ⟨rfl, rfl, Nat.le_add_right _ _, ?_, ?_⟩
    · intro price priced noMin
      have isShare : slippage.toNat =
          parameters.share price.toNat interaction.input.amount.toNat := by
        rw [value, allowance, priced]
      have positive : 0 < price.toNat := by
        rw [Parameters.slippage, priced] at computed
        exact (toNat_capped nonneg computed).1
      rw [Nat.add_sub_cancel_left, isShare]
      refine ⟨?_, fun max isMax => share_in_eth_le noMin isMax⟩
      have atMost := share_le interaction.input.amount.toNat nonneg noMin positive
      push_cast
      linarith
    · intro unpriced outputUnpriced
      rw [value, allowance, unpriced, outputUnpriced, mul_comm parameters.relative]

/-- A tenth of nearly the largest amount wraps around. -/
theorem applyTo_wraps : (applyTo ⟨1 / 10, none, none, ⟨[], List.nodup_nil⟩⟩
        ⟨⟨U256.max, 0xa7⟩, ⟨200, 0xb7⟩⟩).toOption.map
      (fun result => decide (result.1.amount < U256.max)) = some true := by
  decide +kernel

/-- With a price of a tenth, half of the amount is at most three in the native token. -/
theorem applyTo_bounds_iff_capped :
    applyTo ⟨1 / 2, some 3, none, ⟨[(0xa7, 100000000000000000)], by decide⟩⟩
        ⟨⟨70, 0xa7⟩, ⟨200, 0xb7⟩⟩ = .ok (⟨100, 0xa7⟩, ⟨200, 0xb7⟩) ∧
      (100 - 70) * 100000000000000000 / 10 ^ 18 ≤ 3 := by
  have applied : applyTo ⟨1 / 2, some 3, none, ⟨[(0xa7, 100000000000000000)], by decide⟩⟩
      ⟨⟨70, 0xa7⟩, ⟨200, 0xb7⟩⟩ = .ok (⟨100, 0xa7⟩, ⟨200, 0xb7⟩) := by
    decide +kernel
  refine ⟨applied, ?_⟩
  have bounds := (applyTo_bounds_iff _ _ _ _ (by decide +kernel) applied).mpr (by decide +kernel)
  exact (bounds.2.2.2.1 100000000000000000 rfl rfl).2 3 rfl

end Parameters

end MandateSolver.Driver.Slippage
