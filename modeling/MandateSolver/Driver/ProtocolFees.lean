import MandateSolver.Driver.Order
import MandateSolver.WinnerSelection.ExactFees

/-!
# Protocol fees and limit prices

A protocol fee on the surplus takes at most the surplus over the order's limit, or over a
tighter one, so what is left for the user still respects the limit.
-/

namespace MandateSolver.Driver

open Outcome

open WinnerSelection (ClearingPrices PriceLimits MathError mulDiv mulCeilDiv
  mulDiv_eq_ok mulCeilDiv_eq_ok)

/-! ## Policies on the surplus -/

variable {F : Type}

section

variable [Factor F]

/-- A share that is never more than the whole. -/
def AtMostWhole (factor : F) : Prop :=
  ∀ amount share, Factor.checkedMul amount factor = some share → share ≤ amount

/-- The fee is a share of a surplus. -/
def FeePolicy.OnSurplus : FeePolicy F → Prop
  | .surplus factor _ | .priceImprovement factor _ _ => AtMostWhole factor
  | .volume _ => False

end

/-- Limits at which the order trades at its own limit or better. -/
def Order.Tightens {F : Type} (order : Order F) (limits : PriceLimits) : Prop :=
  match order.side with
  | .sell => limits.sell = order.sell.amount ∧ order.buy.amount ≤ limits.buy
  | .buy => limits.sell ≤ order.sell.amount ∧ limits.buy = order.buy.amount

namespace Fulfillment

variable {prices : ClearingPrices} {fulfillment after : Fulfillment F}

section

variable (fulfillment) (prices)

/-- The amount on the other side. -/
def traded : Nat :=
  match fulfillment.order.side with
  | .sell => fulfillment.executed.toNat * prices.sell.toNat ⌈/⌉ prices.buy.toNat
  | .buy => fulfillment.executed.toNat * prices.buy.toNat / prices.sell.toNat

/-- The limit price as the settlement contract checks it. -/
def WithinLimit : Prop :=
  let order := fulfillment.order
  match order.side with
  | .sell =>
    (fulfillment.executed.toNat + fulfillment.feeAmount.toNat) * order.buy.amount.toNat ≤
      fulfillment.traded prices * order.sell.amount.toNat
  | .buy =>
    fulfillment.traded prices + fulfillment.feeAmount.toNat ≤
      order.sell.amount.toNat * fulfillment.executed.toNat / order.buy.amount.toNat

end

section

/-- Fees are taken out of what was sold, or added to it. -/
structure Charged (before after : Fulfillment F) : Prop where
  order : after.order = before.order
  sell : before.order.side = .sell → after.executed.toNat + after.feeAmount.toNat =
        before.executed.toNat + before.feeAmount.toNat ∧
      after.executed ≤ before.executed
  buy : before.order.side = .buy →
    after.executed = before.executed ∧ before.feeAmount ≤ after.feeAmount

theorem Charged.refl (fulfillment : Fulfillment F) : Charged fulfillment fulfillment :=
  ⟨rfl, fun _ => ⟨rfl, le_refl _⟩, fun _ => ⟨rfl, le_refl _⟩⟩

theorem Charged.trans {first second third : Fulfillment F}
    (before : Charged first second) (after : Charged second third) :
    Charged first third where
  order := after.order.trans before.order
  sell side := by
    obtain ⟨total, less⟩ := before.sell side
    obtain ⟨laterTotal, stillLess⟩ := after.sell (before.order ▸ side)
    exact ⟨laterTotal.trans total, stillLess.trans less⟩
  buy side := by
    obtain ⟨same, more⟩ := before.buy side
    obtain ⟨stillSame, stillMore⟩ := after.buy (before.order ▸ side)
    exact ⟨stillSame.trans same, more.trans stillMore⟩

/-! ## Surplus -/

/-- A sell order that is charged up to its surplus still gets its limit. -/
theorem limit_le_of_surplus {executed reduced total sell buy price otherPrice
    share fee : Nat} (sellPositive : 0 < sell) (otherPositive : 0 < otherPrice)
    (within : share ≤ executed * price ⌈/⌉ otherPrice - buy * total ⌈/⌉ sell)
    (surplus : buy * total ⌈/⌉ sell ≤ executed * price ⌈/⌉ otherPrice)
    (rounded : fee * price ≤ share * otherPrice) (charged : executed = fee + reduced) :
    buy * total ≤ sell * (reduced * price ⌈/⌉ otherPrice) := by
  have left : executed * price ⌈/⌉ otherPrice ≤ reduced * price ⌈/⌉ otherPrice + share := by
    apply (ceilDiv_le_iff_le_mul otherPositive).mpr
    have kept : reduced * price ≤ otherPrice * (reduced * price ⌈/⌉ otherPrice) :=
      (ceilDiv_le_iff_le_mul otherPositive).mp (le_refl _)
    calc executed * price
      _ = fee * price + reduced * price := by rw [charged, Nat.add_mul]
      _ ≤ share * otherPrice + otherPrice * (reduced * price ⌈/⌉ otherPrice) :=
        Nat.add_le_add rounded kept
      _ = otherPrice * (reduced * price ⌈/⌉ otherPrice + share) := by
        rw [Nat.mul_add, Nat.mul_comm share, Nat.add_comm]
  apply (ceilDiv_le_iff_le_mul sellPositive).mp
  omega

variable {limits : PriceLimits} {surplus fee : U256}

theorem feeAmount_of_surplusFee (dynamic : fulfillment.surplusFee = some fee) :
    fulfillment.feeAmount = fee := by
  unfold surplusFee at dynamic
  unfold feeAmount
  split at dynamic
  · cases dynamic
  · exact Option.some.inj dynamic

theorem surplus_sell (side : fulfillment.order.side = .sell)
    (returned : fulfillment.surplusOverReferencePrice limits.sell limits.buy prices = .ok surplus) :
    limits.sell ≠ 0 ∧ prices.buy ≠ 0 ∧ surplus.toNat = fulfillment.traded prices -
        limits.buy.toNat * (fulfillment.executed.toNat + fulfillment.feeAmount.toNat) ⌈/⌉
          limits.sell.toNat := by
  unfold surplusOverReferencePrice at returned
  rw [side] at returned
  simp only [ok_bind, bind_eq_ok_iff, okOr_eq_ok_iff,
    mapError_eq_ok_iff, pure_eq, ok.injEq] at returned
  obtain ⟨_, dynamic, _, added, _, limited, _, received, rfl⟩ := returned
  obtain ⟨sellNonzero, limited⟩ := mulCeilDiv_eq_ok limited
  obtain ⟨buyNonzero, received⟩ := mulCeilDiv_eq_ok received
  refine ⟨sellNonzero, buyNonzero, ?_⟩
  rw [U256.toNat_checkedSub_getD, limited, received,
    U256.checkedAdd_eq_some_iff.mp added, feeAmount_of_surplusFee dynamic]
  simp only [traded, side]

theorem surplus_buy (side : fulfillment.order.side = .buy)
    (returned : fulfillment.surplusOverReferencePrice limits.sell limits.buy prices = .ok surplus) :
    surplus.toNat = limits.sell.toNat * fulfillment.executed.toNat / limits.buy.toNat -
        (fulfillment.traded prices + fulfillment.feeAmount.toNat) := by
  unfold surplusOverReferencePrice at returned
  rw [side] at returned
  simp only [bind_eq_ok_iff, okOr_eq_ok_iff, mapError_eq_ok_iff, pure_eq, ok.injEq] at returned
  obtain ⟨_, paid, _, dynamic, _, added, _, limited, rfl⟩ := returned
  rw [U256.toNat_checkedSub_getD, (mulDiv_eq_ok limited).2,
    U256.checkedAdd_eq_some_iff.mp added, (mulDiv_eq_ok paid).2,
    feeAmount_of_surplusFee dynamic]
  simp only [traded, side]

theorem adjustQuote_tightens {order : Order F} {quote : WinnerSelection.Quote}
    {limits : PriceLimits} (adjusted : TradeMath.adjustQuoteToOrderLimits
      ⟨order.sell.amount, order.buy.amount, order.side⟩ quote = .ok limits) :
    order.Tightens limits := by
  unfold TradeMath.adjustQuoteToOrderLimits WinnerSelection.adjustQuoteToLimits at adjusted
  unfold Order.Tightens
  cases side : order.side with
  | sell =>
    simp only [side, bind_eq_ok_iff, pure_eq, ok.injEq] at adjusted
    obtain ⟨_, -, _, -, scaled, -, rfl⟩ := adjusted
    exact ⟨rfl, le_max_left _ _⟩
  | buy =>
    simp only [side, bind_eq_ok_iff, pure_eq, ok.injEq] at adjusted
    obtain ⟨_, -, scaled, -, rfl⟩ := adjusted
    exact ⟨min_le_left _ _, rfl⟩

/-- The same with the exact fee. -/
structure Pays (fee : U256) (before after : Fulfillment F) : Prop where
  order : after.order = before.order
  raised : after.feeAmount.toNat = before.feeAmount.toNat + fee.toNat
  sell : before.order.side = .sell → before.executed.toNat = fee.toNat + after.executed.toNat
  buy : before.order.side = .buy → after.executed = before.executed

theorem Pays.charged
    (pays : Pays fee fulfillment after) : Charged fulfillment after where
  order := pays.order
  sell side := by
    have reduced := pays.sell side
    have raised := pays.raised
    refine ⟨by omega, ?_⟩
    show after.executed.toNat ≤ fulfillment.executed.toNat
    omega
  buy side := by
    have raised := pays.raised
    refine ⟨pays.buy side, ?_⟩
    show fulfillment.feeAmount.toNat ≤ after.feeAmount.toNat
    omega

theorem Pays.traded_of_free
    {prices : ClearingPrices} (side : fulfillment.order.side = .sell)
    (pays : Pays fee fulfillment after) (free : fee.toNat = 0) :
    after.traded prices = fulfillment.traded prices := by
  have reduced := pays.sell side
  have same : after.executed.toNat = fulfillment.executed.toNat := by omega
  simp only [Fulfillment.traded, pays.order, same]

end

/-! ## One policy -/

section

variable [Factor F] {policy : FeePolicy F} {fee previous : U256}

theorem calculateFee_le {limits : PriceLimits} {factor maxVolumeFactor : F}
    (whole : AtMostWhole factor)
    (calculated : fulfillment.calculateFee limits prices factor maxVolumeFactor = .ok fee) :
    ∃ surplus, fulfillment.surplusOverReferencePrice limits.sell limits.buy
      prices = .ok surplus ∧ fee ≤ surplus := by
  simp only [calculateFee, feeFromSurplus, bind_eq_ok_iff,
    okOr_eq_ok_iff, mapError_eq_ok_iff, pure_eq,
    ok.injEq] at calculated
  obtain ⟨share, ⟨surplus, found, multiplied⟩, volume, -, rfl⟩ := calculated
  exact ⟨surplus, found, (min_le_left share volume).trans (whole surplus share multiplied)⟩

/-- The fee is part of a surplus over limits that are not looser than the
order's. -/
theorem protocolFee_le (onSurplus : policy.OnSurplus)
    (calculated : fulfillment.protocolFee prices policy = .ok fee) :
    ∃ limits surplus, fulfillment.order.Tightens limits ∧
      fulfillment.surplusOverReferencePrice limits.sell limits.buy prices =
        .ok surplus ∧ fee ≤ surplus := by
  cases policy with
  | surplus factor maxVolumeFactor =>
    obtain ⟨surplus, found, less⟩ := calculateFee_le onSurplus calculated
    refine ⟨_, surplus, ?_, found, less⟩
    unfold Order.Tightens
    split
    · exact ⟨rfl, le_refl _⟩
    · exact ⟨le_refl _, rfl⟩
  | priceImprovement factor maxVolumeFactor quote =>
    obtain ⟨limits, adjusted, calculated⟩ := bind_eq_ok_iff.mp calculated
    obtain ⟨surplus, found, less⟩ := calculateFee_le onSurplus calculated
    exact ⟨limits, surplus, adjustQuote_tightens (mapError_eq_ok_iff.mp adjusted), found, less⟩
  | volume factor => exact onSurplus.elim

theorem withProtocolFee_pays (applied : fulfillment.withProtocolFee prices policy = .ok after)
    (dynamic : fulfillment.fee = .dynamic previous) :
    ∃ fee, fulfillment.protocolFeeInSellToken prices policy = .ok fee ∧
      Pays fee fulfillment after ∧ ∃ raised, after.fee = .dynamic raised := by
  obtain ⟨fee, calculated, applied⟩ := bind_eq_ok_iff.mp applied
  obtain ⟨_, raises, applied⟩ := bind_eq_ok_iff.mp applied
  obtain ⟨_, reduces, applied⟩ := bind_eq_ok_iff.mp applied
  simp only [raisedFee, surplusFee, dynamic, bind_eq_ok_iff,
    okOr_eq_ok_iff, pure_eq, ok.injEq] at raises
  obtain ⟨raised, added, rfl⟩ := raises
  simp only [new] at applied
  split at applied
  · cases applied
    refine ⟨fee, calculated, ⟨rfl, ?_, ?_, ?_⟩, raised, rfl⟩
    · simpa [feeAmount, dynamic] using U256.checkedAdd_eq_some_iff.mp added
    · intro side
      simp only [reducedExecuted, side, okOr_eq_ok_iff] at reduces
      exact U256.checkedSub_eq_some_iff.mp reduces
    · intro side
      simp only [reducedExecuted, side, ok.injEq] at reduces
      exact reduces.symm
  · cases applied

section

variable (pays : Pays fee fulfillment after) (onSurplus : policy.OnSurplus)
  (calculated : fulfillment.protocolFeeInSellToken prices policy = .ok fee)
  (within : fulfillment.WithinLimit prices)
include pays onSurplus calculated within

theorem withinLimit_sell (side : fulfillment.order.side = .sell) : after.WithinLimit prices := by
  simp only [protocolFeeInSellToken, side, bind_eq_ok_iff, mapError_eq_ok_iff] at calculated
  obtain ⟨share, calculated, converted⟩ := calculated
  obtain ⟨limits, surplus, tightens, found, less⟩ := protocolFee_le onSurplus calculated
  obtain ⟨sellNonzero, buyNonzero, surplusEq⟩ := surplus_sell side found
  have converted := (mulDiv_eq_ok converted).2
  have less : share.toNat ≤ surplus.toNat := less
  simp only [Order.Tightens, side] at tightens
  have reduced := pays.sell side
  have total := (pays.charged.sell side).1
  simp only [WithinLimit, pays.order, side] at within ⊢
  rw [total]
  have tradedEq : fulfillment.traded prices =
      fulfillment.executed.toNat * prices.sell.toNat ⌈/⌉ prices.buy.toNat := by
    simp only [traded, side]
  rw [tradedEq] at surplusEq
  by_cases positive : limits.buy.toNat *
        (fulfillment.executed.toNat + fulfillment.feeAmount.toNat) ⌈/⌉
      limits.sell.toNat ≤ fulfillment.executed.toNat * prices.sell.toNat ⌈/⌉ prices.buy.toNat
  · have rounded : fee.toNat * prices.sell.toNat ≤ share.toNat * prices.buy.toNat := by
      rw [converted]
      exact Nat.div_mul_le_self _ _
    have tight := limit_le_of_surplus (BitVec.toNat_pos_of_ne_zero sellNonzero)
      (BitVec.toNat_pos_of_ne_zero buyNonzero) (surplusEq ▸ less) positive
      rounded reduced
    have looser := tightens.2
    calc (fulfillment.executed.toNat + fulfillment.feeAmount.toNat) *
      _ ≤ (fulfillment.executed.toNat + fulfillment.feeAmount.toNat) *
          limits.buy.toNat := Nat.mul_le_mul_left _ looser
      _ = limits.buy.toNat * (fulfillment.executed.toNat + fulfillment.feeAmount.toNat) :=
        Nat.mul_comm _ _
      _ ≤ _ := tight
      _ = after.traded prices * fulfillment.order.sell.amount.toNat := by
        simp only [traded, pays.order, side, tightens.1]
        exact Nat.mul_comm _ _
  · -- Without a surplus there is no fee, and nothing changes.
    have nothing : share.toNat = 0 := by omega
    have free : fee.toNat = 0 := by
      rw [converted, nothing, Nat.zero_mul, Nat.zero_div]
    rw [pays.traded_of_free side free]
    exact within

theorem withinLimit_buy (side : fulfillment.order.side = .buy) : after.WithinLimit prices := by
  simp only [protocolFeeInSellToken, side, bind_eq_ok_iff, pure_eq, ok.injEq] at calculated
  obtain ⟨share, calculated, rfl⟩ := calculated
  obtain ⟨limits, surplus, tightens, found, less⟩ := protocolFee_le onSurplus calculated
  have surplusEq := surplus_buy side found
  have less : share.toNat ≤ surplus.toNat := less
  simp only [Order.Tightens, side] at tightens
  have tighter : limits.sell.toNat * fulfillment.executed.toNat /
      limits.buy.toNat ≤ fulfillment.order.sell.amount.toNat *
        fulfillment.executed.toNat / fulfillment.order.buy.amount.toNat := by
    rw [tightens.2]
    exact Nat.div_le_div_right (Nat.mul_le_mul_right _ tightens.1)
  have raised := pays.raised
  have traded : after.traded prices = fulfillment.traded prices := by
    simp only [Fulfillment.traded, pays.order, pays.buy side]
  simp only [WithinLimit, pays.order, side] at within ⊢
  rw [pays.buy side]
  omega

end

/-! ## All policies -/

theorem withProtocolFee_charged (onSurplus : policy.OnSurplus)
    (applied : fulfillment.withProtocolFee prices policy = .ok after)
    (dynamic : fulfillment.fee = .dynamic previous) :
    Charged fulfillment after ∧ (fulfillment.WithinLimit prices → after.WithinLimit prices) ∧
      ∃ raised, after.fee = .dynamic raised := by
  obtain ⟨fee, calculated, pays, stillDynamic⟩ := withProtocolFee_pays applied dynamic
  refine ⟨pays.charged, fun within => ?_, stillDynamic⟩
  cases side : fulfillment.order.side with
  | sell => exact withinLimit_sell pays onSurplus calculated within side
  | buy => exact withinLimit_buy pays onSurplus calculated within side

theorem foldlM_charged (policies : List (FeePolicy F))
    (onSurplus : ∀ policy ∈ policies, policy.OnSurplus)
    (applied : policies.foldlM (fun current policy => current.withProtocolFee prices policy)
      fulfillment = .ok after) (dynamic : fulfillment.fee = .dynamic previous) :
    Charged fulfillment after ∧ (fulfillment.WithinLimit prices → after.WithinLimit prices) := by
  induction policies generalizing fulfillment previous with
  | nil =>
    cases applied
    exact ⟨Charged.refl _, id⟩
  | cons policy policies ih =>
    obtain ⟨current, first, applied⟩ := bind_eq_ok_iff.mp applied
    obtain ⟨charged, keeps, _, stillDynamic⟩ := withProtocolFee_charged
      (onSurplus policy List.mem_cons_self) first dynamic
    obtain ⟨laterCharged, laterKeeps⟩ := ih
      (fun policy mem => onSurplus policy (List.mem_cons_of_mem _ mem))
      applied stillDynamic
    exact ⟨charged.trans laterCharged, laterKeeps ∘ keeps⟩

/-- Fees on the surplus are moved out of the executed amount of a sell order
and put on top of a buy order, and leave the user with the limit price. -/
theorem withProtocolFees_respectsUser (fulfillment after : Fulfillment F)
    (prices : ClearingPrices) {fee : U256} (dynamic : fulfillment.fee = .dynamic fee)
    (onSurplus : ∀ policy ∈ fulfillment.order.protocolFees, policy.OnSurplus)
    (applied : fulfillment.withProtocolFees prices = .ok after) :
    Charged fulfillment after ∧ (fulfillment.WithinLimit prices → after.WithinLimit prices) :=
  foldlM_charged fulfillment.order.protocolFees onSurplus applied dynamic

end

theorem atMostWhole_of_le_one {factor : ℚ} (small : factor ≤ 1) : AtMostWhole factor := by
  intro amount share multiplied
  simp only [Factor.checkedMul, U256.checkedMulRat] at multiplied
  split at multiplied
  · cases multiplied
  · split at multiplied
    · cases multiplied
      exact Nat.le_refl _
    · split at multiplied
      · rename_i fits
        obtain ⟨product, scaled, divided⟩ := Option.bind_eq_some_iff.mp multiplied
        have bound : (factor * 10 ^ 18).floor.toNat ≤ 10 ^ 18 := by
          have whole : (factor * 10 ^ 18).floor ≤ 10 ^ 18 := by
            show ⌊factor * 10 ^ 18⌋ ≤ 10 ^ 18
            apply Int.floor_le_iff.mpr
            push_cast
            linarith
          omega
        have exact := U256.checkedMul_eq_some_iff.mp scaled
        rw [BitVec.toNat_ofNat, Nat.mod_eq_of_lt fits] at exact
        obtain rfl := Option.some.inj divided
        have quotient : (product / 1000000000000000000#256).toNat =
          product.toNat / 10 ^ 18 := BitVec.toNat_udiv
        show (product / 1000000000000000000#256).toNat ≤ amount.toNat
        rw [quotient, exact]
        calc amount.toNat * (factor * 10 ^ 18).floor.toNat / 10 ^ 18
          _ ≤ amount.toNat * 10 ^ 18 / 10 ^ 18 := Nat.div_le_div_right (Nat.mul_le_mul_left _ bound)
          _ = amount.toNat := Nat.mul_div_cancel _ (by decide)
      · cases multiplied

def chargedTwice : Fulfillment ℚ where
  order :=
    { uid := ⟨0, 5, 0⟩, receiver := none, validTo := 0
      buy := ⟨90, 2⟩, sell := ⟨100, 1⟩
      side := .sell, kind := .limit, appData := .hash 0, fill := .no
      preInteractions := [], postInteractions := []
      sellTokenBalance := .erc20, buyTokenBalance := .erc20
      signature := ⟨.preSign, [], 5⟩
      protocolFees := [.surplus (1 / 2) 1,
        .priceImprovement (1 / 2) 1 ⟨⟨100, 1⟩, ⟨95, 2⟩, ⟨0, 1⟩⟩] }
  executed := 98
  fee := .dynamic 2
  haircutFee := 0
  valid := by decide

theorem withProtocolFees_respectsUser_chargedTwice :
    ∃ after, chargedTwice.withProtocolFees ⟨12, 10⟩ = .ok after ∧
      Charged chargedTwice after ∧ after.WithinLimit ⟨12, 10⟩ := by
  have returns : ∃ after, chargedTwice.withProtocolFees ⟨12, 10⟩ = .ok after :=
    ⟨{ chargedTwice with
        executed := 83, fee := .dynamic 17, valid := by decide },
      by decide +kernel⟩
  obtain ⟨after, applied⟩ := returns
  have half : AtMostWhole (1 / 2 : ℚ) := atMostWhole_of_le_one (by norm_num)
  have onSurplus : ∀ policy ∈ chargedTwice.order.protocolFees,
      policy.OnSurplus := by
    intro policy mem
    simp only [chargedTwice, List.mem_cons, List.not_mem_nil, or_false] at mem
    rcases mem with rfl | rfl
    · exact half
    · exact half
  have within := show (98 + 2) * 90 ≤ (98 * 12 ⌈/⌉ 10) * 100 by decide
  have respects := withProtocolFees_respectsUser chargedTwice after ⟨12, 10⟩ rfl onSurplus applied
  exact ⟨after, applied, respects.1, respects.2 within⟩

end Fulfillment

end MandateSolver.Driver
