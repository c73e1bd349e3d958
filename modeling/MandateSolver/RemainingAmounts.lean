import MandateSolver.Model

/-!
# Remaining amounts

The share that is not executed and the share that can be paid for are two ratios, and an
amount is rounded down after each of them.
-/

namespace MandateSolver.RemainingAmounts

open Outcome

open Model (OrderKind)

/-- A fraction of words. -/
structure Ratio where
  (numer denom : U256)
  deriving DecidableEq

namespace Ratio

def one : Ratio := ⟨1, 1⟩

def zero : Ratio := ⟨0, 1⟩

def scalarMul (ratio : Ratio) (scalar : U256) : Option U256 := do
  let product ← scalar.checkedMul ratio.numer
  product.checkedDiv ratio.denom

/-- The product has 512 bits, only the result has to fit. -/
def fullScalarMul (ratio : Ratio) (scalar : U256) : Option U256 :=
  if ratio.denom = 0 then none
  else
    let quotient := scalar.toNat * ratio.numer.toNat / ratio.denom.toNat
    if quotient < 2 ^ 256 then some (BitVec.ofNat 256 quotient) else none

variable {ratio : Ratio} {scalar result : U256}

theorem scalarMul_eq_some_iff : ratio.scalarMul scalar = some result ↔
      scalar.toNat * ratio.numer.toNat < 2 ^ 256 ∧ 0 < ratio.denom.toNat ∧
        result.toNat = scalar.toNat * ratio.numer.toNat / ratio.denom.toNat := by
  simp only [scalarMul, Option.bind_eq_bind, Option.bind_eq_some_iff,
    U256.checkedMul_eq_some_iff, U256.checkedDiv_eq_some_iff]
  constructor
  · rintro ⟨product, exact_product, positive, quotient⟩
    rw [← exact_product]
    exact ⟨product.isLt, positive, quotient⟩
  · rintro ⟨fits, positive, quotient⟩
    obtain ⟨product, exact_product⟩ := U256.exists_toNat_eq fits
    exact ⟨product, exact_product, positive, by rw [quotient, exact_product]⟩

theorem fullScalarMul_eq_some_iff : ratio.fullScalarMul scalar = some result ↔
      0 < ratio.denom.toNat ∧
        result.toNat = scalar.toNat * ratio.numer.toNat / ratio.denom.toNat := by
  rw [fullScalarMul]
  split
  · rename_i undefined
    simp [undefined]
  · rename_i defined
    rw [and_iff_right (BitVec.toNat_pos_of_ne_zero defined)]
    dsimp only
    split
    · rename_i fits
      rw [Option.some.injEq, ← BitVec.toNat_inj, BitVec.toNat_ofNat, Nat.mod_eq_of_lt fits, eq_comm]
    · rename_i overflows
      constructor
      · intro absurd
        cases absurd
      · omega

@[simp] theorem scalarMul_one : one.scalarMul scalar = some scalar := by
  simp [scalarMul_eq_some_iff, one, scalar.isLt]

@[simp] theorem scalarMul_zero : zero.scalarMul scalar = some 0 := by
  simp [scalarMul_eq_some_iff, zero]

@[simp] theorem fullScalarMul_one : one.fullScalarMul scalar = some scalar := by
  simp [fullScalarMul_eq_some_iff, one]

@[simp] theorem fullScalarMul_zero : zero.fullScalarMul scalar = some 0 := by
  simp [fullScalarMul_eq_some_iff, zero]

end Ratio

/-- The executed amount of a buy order is in the buy token, that of a sell order in
the sell token and without the fee. -/
structure Order where
  kind : OrderKind
  (buyAmount sellAmount feeAmount executedAmount : U256)
  partiallyFillable : Bool

/-- The amount that fills the order. -/
def Order.total (order : Order) : U256 :=
  match order.kind with
  | .buy => order.buyAmount
  | .sell => order.sellAmount

/-- What is left by execution and by balance. -/
structure Remaining where
  (execution balance : Ratio)
  deriving DecidableEq

namespace Remaining

def fromOrderWithBalance (order : Order) (sellBalance : U256) : Outcome String Remaining :=
  let total := order.total
  if order.partiallyFillable then do
    let left ← .okOr "executed larger than total"
      (total.checkedSub order.executedAmount)
    let execution : Ratio := ⟨left, total⟩
    let sellAmount ← .okOr "overflow scaling sell amount for execution"
      (execution.scalarMul order.sellAmount)
    let feeAmount ← .okOr "overflow scaling fee amount for execution"
      (execution.scalarMul order.feeAmount)
    let need ← .okOr "partially fillable need calculation overflow"
      (sellAmount.checkedAdd feeAmount)
    return ⟨execution, if sellBalance < need then ⟨sellBalance, need⟩ else .one⟩
  else do
    let sell ← .okOr "overflow sell + fee amount"
      (order.sellAmount.checkedAdd order.feeAmount)
    return ⟨if order.executedAmount.isZero then .one else .zero,
      if sell ≤ sellBalance then .one else .zero⟩

def remaining (shares : Remaining) (total : U256) : Outcome String U256 := do
  let orderExecution ← .okOr "overflow scaling for order execution"
    (shares.execution.scalarMul total)
  .okOr "overflow scaling for available balance" (shares.balance.fullScalarMul orderExecution)

variable {order : Order} {balance larger : U256} {shares : Remaining} {amount : U256}

theorem remaining_eq_ok_iff {total : U256} : shares.remaining total = .ok amount ↔
      ∃ scaled, shares.execution.scalarMul total = some scaled ∧
        shares.balance.fullScalarMul scaled = some amount := by
  simp only [remaining, bind_eq_ok_iff, okOr_eq_ok_iff]

/-! ## Partially fillable orders -/

def affordable (balance need : U256) : Ratio :=
  if balance < need then ⟨balance, need⟩ else .one

/-- The intermediate values for a partially fillable order. -/
structure Partial (order : Order) (left sell fee need : U256) : Prop where
  notExecuted : order.total.toNat = order.executedAmount.toNat + left.toNat
  scaledSell : Ratio.scalarMul ⟨left, order.total⟩ order.sellAmount = some sell
  scaledFee : Ratio.scalarMul ⟨left, order.total⟩ order.feeAmount = some fee
  sum : need.toNat = sell.toNat + fee.toNat

theorem fromOrderWithBalance_partial_iff (partially : order.partiallyFillable = true) :
    fromOrderWithBalance order balance = .ok shares ↔
      ∃ left sell fee need, Partial order left sell fee need ∧
        shares = ⟨⟨left, order.total⟩, affordable balance need⟩ := by
  simp only [fromOrderWithBalance, partially, if_true, bind_eq_ok_iff,
    okOr_eq_ok_iff, U256.checkedSub_eq_some_iff, U256.checkedAdd_eq_some_iff]
  constructor
  · rintro ⟨left, total, sell, sell_eq, fee, fee_eq, need, need_eq, same⟩
    cases same
    exact ⟨left, sell, fee, need, ⟨total, sell_eq, fee_eq, need_eq⟩, rfl⟩
  · rintro ⟨left, sell, fee, need, ⟨total, sell_eq, fee_eq, need_eq⟩, same⟩
    subst same
    exact ⟨left, total, sell, sell_eq, fee, fee_eq, need, need_eq, rfl⟩

theorem fullScalarMul_affordable (balance need scaled : U256) :
    ∃ amount, (affordable balance need).fullScalarMul scaled = some amount ∧
      amount.toNat = if balance < need then
          scaled.toNat * balance.toNat / need.toNat
        else scaled.toNat := by
  rw [affordable]
  split
  · rename_i short
    have less := short
    have fits : scaled.toNat * balance.toNat / need.toNat < 2 ^ 256 := by
      apply Nat.lt_of_le_of_lt _ scaled.isLt
      apply Nat.div_le_of_le_mul
      rw [Nat.mul_comm need.toNat]
      exact Nat.mul_le_mul_left _ less.le
    obtain ⟨amount, rounded⟩ := U256.exists_toNat_eq fits
    have positive := Nat.zero_lt_of_lt less
    exact ⟨amount, Ratio.fullScalarMul_eq_some_iff.mpr ⟨positive, rounded⟩, rounded⟩
  · exact ⟨scaled, Ratio.fullScalarMul_one, rfl⟩

theorem fullScalarMul_affordable_le {need scaled : U256}
    (computed : (affordable balance need).fullScalarMul scaled = some amount) :
    amount.toNat ≤ scaled.toNat := by
  obtain ⟨same, computes, value⟩ := fullScalarMul_affordable balance need scaled
  cases computed.symm.trans computes
  rw [value]
  split
  · rename_i short
    have less := short
    apply Nat.div_le_of_le_mul
    rw [Nat.mul_comm need.toNat]
    exact Nat.mul_le_mul_left _ less.le
  · exact Nat.le_refl _

theorem fullScalarMul_affordable_add_le {need sell fee soldAmount feeAmount : U256}
    (split_need : need.toNat = sell.toNat + fee.toNat)
    (sold : (affordable balance need).fullScalarMul sell = some soldAmount)
    (paid : (affordable balance need).fullScalarMul fee = some feeAmount) :
    soldAmount.toNat + feeAmount.toNat ≤ balance.toNat := by
  obtain ⟨_, computesSold, soldValue⟩ := fullScalarMul_affordable balance need sell
  cases sold.symm.trans computesSold
  obtain ⟨_, computesFee, feeValue⟩ := fullScalarMul_affordable balance need fee
  cases paid.symm.trans computesFee
  rw [soldValue, feeValue]
  split
  · rename_i short
    have positive := Nat.zero_lt_of_lt short
    calc sell.toNat * balance.toNat / need.toNat + fee.toNat * balance.toNat / need.toNat
      _ ≤ (sell.toNat * balance.toNat + fee.toNat * balance.toNat) / need.toNat :=
        Nat.div_add_div_le_add_div ..
      _ = balance.toNat := by
        rw [← Nat.add_mul, ← split_need, Nat.mul_div_cancel_left _ positive]
  · rename_i enough
    have covered : need.toNat ≤ balance.toNat := BitVec.not_lt.mp enough
    omega

theorem fullScalarMul_affordable_mono {need scaled : U256} (more : balance ≤ larger)
    (computed : (affordable balance need).fullScalarMul scaled = some amount) :
    ∃ other, (affordable larger need).fullScalarMul scaled = some other ∧
      amount.toNat ≤ other.toNat := by
  obtain ⟨other, computesOther, otherValue⟩ := fullScalarMul_affordable larger need scaled
  refine ⟨other, computesOther, ?_⟩
  have atMost := fullScalarMul_affordable_le computed
  obtain ⟨_, computes, value⟩ := fullScalarMul_affordable balance need scaled
  cases computed.symm.trans computes
  have increases := more
  rw [otherValue]
  split
  · rename_i short
    have shorter : balance < need := Nat.lt_of_le_of_lt increases short
    rw [value, if_pos shorter]
    exact Nat.div_le_div_right (Nat.mul_le_mul_left _ increases)
  · exact atMost

theorem scalarMul_execution_le {left scalar : U256} (bounded : left.toNat ≤ order.total.toNat)
    (computed : Ratio.scalarMul ⟨left, order.total⟩ scalar = some amount) :
    amount.toNat ≤ scalar.toNat := by
  obtain ⟨-, _, value⟩ := Ratio.scalarMul_eq_some_iff.mp computed
  rw [value]
  apply Nat.div_le_of_le_mul
  rw [Nat.mul_comm (Ratio.denom _).toNat]
  exact Nat.mul_le_mul_left _ bounded

/-! ## The amounts -/

/-- What is left of a partially fillable order is paid for by the balance, is not
executed yet, is never more than the original amount, and grows with the balance. -/
theorem remaining_of_partiallyFillable (partially : order.partiallyFillable = true)
    (computed : fromOrderWithBalance order balance = .ok shares) :
    (∀ sell fee, shares.remaining order.sellAmount = .ok sell →
      shares.remaining order.feeAmount = .ok fee → sell.toNat + fee.toNat ≤ balance.toNat) ∧
    (∀ amount, shares.remaining order.total = .ok amount →
      order.executedAmount.toNat + amount.toNat ≤ order.total.toNat) ∧
    (∀ total amount, shares.remaining total = .ok amount → amount.toNat ≤ total.toNat) ∧
    ∀ larger, balance ≤ larger → ∃ more, fromOrderWithBalance order larger = .ok more ∧
        ∀ total amount, shares.remaining total = .ok amount →
          ∃ other, more.remaining total = .ok other ∧ amount.toNat ≤ other.toNat := by
  obtain ⟨left, sell, fee, need, parts, rfl⟩ :=
    (fromOrderWithBalance_partial_iff partially).mp computed
  have leftAtMost : left.toNat ≤ order.total.toNat := by
    rw [parts.notExecuted]
    exact Nat.le_add_left _ _
  simp only [remaining_eq_ok_iff]
  refine ⟨?_, ?_, ?_, ?_⟩
  · rintro _ feeAmount ⟨scaledSell, sell_eq, sold⟩ ⟨scaledFee, fee_eq, paid⟩
    cases parts.scaledSell.symm.trans sell_eq
    cases parts.scaledFee.symm.trans fee_eq
    exact fullScalarMul_affordable_add_le parts.sum sold paid
  · rintro amount ⟨scaled, scaled_eq, amount_eq⟩
    obtain ⟨-, positive, value⟩ := Ratio.scalarMul_eq_some_iff.mp scaled_eq
    have exactly : scaled.toNat = left.toNat := by
      rw [value]
      exact Nat.mul_div_cancel_left _ positive
    have atMost := fullScalarMul_affordable_le amount_eq
    have total := parts.notExecuted
    omega
  · rintro total amount ⟨scaled, scaled_eq, amount_eq⟩
    exact (fullScalarMul_affordable_le amount_eq).trans
      (scalarMul_execution_le leftAtMost scaled_eq)
  · intro larger more
    refine ⟨⟨⟨left, order.total⟩, affordable larger need⟩,
      (fromOrderWithBalance_partial_iff partially).mpr ⟨left, sell, fee, need, parts, rfl⟩, ?_⟩
    rintro total amount ⟨scaled, scaled_eq, amount_eq⟩
    obtain ⟨other, other_eq, atLeast⟩ := fullScalarMul_affordable_mono more amount_eq
    exact ⟨other, ⟨scaled, scaled_eq, other_eq⟩, atLeast⟩

theorem remaining_all (total : U256) : remaining ⟨.one, .one⟩ total = .ok total := by
  simp [remaining]

theorem remaining_nothing {execution balance : Ratio}
    (shares : execution = .zero ∧ (balance = .one ∨ balance = .zero) ∨
      execution = .one ∧ balance = .zero) (total : U256) :
    remaining ⟨execution, balance⟩ total = .ok 0 := by
  rcases shares with ⟨rfl, rfl | rfl⟩ | ⟨rfl, rfl⟩ <;> simp [remaining]

/-- What is left of a fill-or-kill order is everything or nothing. -/
theorem remaining_of_fillOrKill (fillOrKill : order.partiallyFillable = false)
    (computed : fromOrderWithBalance order balance = .ok shares) :
    ((∀ total, shares.remaining total = .ok total) ∨ ∀ total, shares.remaining total = .ok 0) ∧
    ((∀ total, shares.remaining total = .ok total) ↔ order.executedAmount = 0 ∧
        order.sellAmount.toNat + order.feeAmount.toNat ≤ balance.toNat) := by
  simp only [fromOrderWithBalance, fillOrKill, Bool.false_eq_true, if_false,
    bind_eq_ok_iff, okOr_eq_ok_iff, U256.checkedAdd_eq_some_iff,
    pure_eq, ok.injEq] at computed
  obtain ⟨sell, sum, rfl⟩ := computed
  have covers : sell ≤ balance ↔
      order.sellAmount.toNat + order.feeAmount.toNat ≤ balance.toNat := by
    rw [← sum]
    rfl
  rw [← covers]
  have not_all : ¬ ∀ total, (Outcome.ok 0 : Outcome String U256) = .ok total := by
    intro all
    exact absurd (all 1) (by decide)
  by_cases whole : order.executedAmount = 0 ∧ sell ≤ balance
  · have all : ∀ total, remaining ⟨if order.executedAmount.isZero then .one else .zero,
        if sell ≤ balance then .one else .zero⟩ total = .ok total := by
      intro total
      rw [U256.isZero, decide_eq_true whole.1, if_pos whole.2]
      exact remaining_all total
    exact ⟨.inl all, fun _ => whole, fun _ => all⟩
  · have nothing : ∀ total, remaining ⟨if order.executedAmount.isZero then .one else .zero,
        if sell ≤ balance then .one else .zero⟩ total = .ok 0 := by
      apply remaining_nothing
      by_cases fresh : order.executedAmount = 0
      · have short : ¬ sell ≤ balance := fun enough => whole ⟨fresh, enough⟩
        exact .inr ⟨by simp [U256.isZero, fresh], if_neg short⟩
      · refine .inl ⟨by rw [U256.isZero, decide_eq_false fresh]; rfl, ?_⟩
        split
        · exact .inl rfl
        · exact .inr rfl
    refine ⟨.inr nothing, ?_, fun all => absurd all whole⟩
    intro all
    exact absurd (fun total => (nothing total).symm.trans (all total)) not_all

theorem remaining_bounds (order : Order) (balance : U256) (shares : Remaining)
    (computed : fromOrderWithBalance order balance = .ok shares) :
    (order.partiallyFillable = true → (∀ sell fee, shares.remaining order.sellAmount = .ok sell →
        shares.remaining order.feeAmount = .ok fee → sell.toNat + fee.toNat ≤ balance.toNat) ∧
      (∀ amount, shares.remaining order.total = .ok amount →
        order.executedAmount.toNat + amount.toNat ≤ order.total.toNat) ∧
      (∀ total amount, shares.remaining total = .ok amount → amount.toNat ≤ total.toNat) ∧
      ∀ larger, balance ≤ larger → ∃ more, fromOrderWithBalance order larger = .ok more ∧
          ∀ total amount, shares.remaining total = .ok amount →
            ∃ other, more.remaining total = .ok other ∧ amount.toNat ≤ other.toNat) ∧
    (order.partiallyFillable = false → ((∀ total, shares.remaining total = .ok total) ∨
        ∀ total, shares.remaining total = .ok 0) ∧
      ((∀ total, shares.remaining total = .ok total) ↔ order.executedAmount = 0 ∧
          order.sellAmount.toNat + order.feeAmount.toNat ≤ balance.toNat)) :=
  ⟨fun partially => remaining_of_partiallyFillable partially computed,
    fun fillOrKill => remaining_of_fillOrKill fillOrKill computed⟩

/-- Ten of the thirty that are left of ninety can be paid for. -/
theorem remaining_bounds_third : fromOrderWithBalance ⟨.sell, 180, 90, 9, 60, true⟩ 11 =
        .ok ⟨⟨30, 90⟩, ⟨11, 33⟩⟩ ∧
      Remaining.remaining ⟨⟨30, 90⟩, ⟨11, 33⟩⟩ 90 = .ok 10 ∧
      (60 : U256).toNat + (10 : U256).toNat ≤ (90 : U256).toNat := by
  have computed : fromOrderWithBalance ⟨.sell, 180, 90, 9, 60, true⟩ 11 =
      .ok ⟨⟨30, 90⟩, ⟨11, 33⟩⟩ := by decide
  have amount : Remaining.remaining ⟨⟨30, 90⟩, ⟨11, 33⟩⟩ 90 = .ok 10 := by decide
  refine ⟨computed, amount, ?_⟩
  have bounds := (remaining_bounds _ _ _ computed).1 rfl
  exact bounds.2.1 10 amount

end Remaining

end MandateSolver.RemainingAmounts
