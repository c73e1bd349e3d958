import MandateSolver.Driver.MergeResult
import MandateSolver.WinnerSelection.ExactFees

/-!
# Limit prices of merged solutions

The prices of one solution are multiplied by the factor and rounded down, so a trade may be
settled at another rate than the one its limit was checked against.
-/

namespace MandateSolver.Driver

open BitVec

open Outcome hiding none

open WinnerSelection (ClearingPrices mulDiv_eq_ok_iff mulCeilDiv_eq_ok_iff)

/-! ## Amounts in exact numbers -/

namespace Fulfillment

section

variable {F : Type}

section

variable (trade : Fulfillment F)

/-- What is paid is worth at most what is received, at the order's limit. -/
def RespectsLimit (prices : ClearingPrices) : Prop :=
  ∃ sold bought, trade.sellAmount prices = .ok sold ∧ trade.buyAmount prices = .ok bought ∧
      sold.toNat * trade.order.buy.amount.toNat ≤ bought.toNat * trade.order.sell.amount.toNat

instance decidableRespectsLimit (prices : ClearingPrices) :
    Decidable (trade.RespectsLimit prices) :=
  match soldEq : trade.sellAmount prices, boughtEq : trade.buyAmount prices with
  | .ok sold, .ok bought =>
    decidable_of_iff (sold.toNat * trade.order.buy.amount.toNat ≤
        bought.toNat * trade.order.sell.amount.toNat)
      (by simp [RespectsLimit, soldEq, boughtEq])
  | .err _, _ | .panic _, _ => isFalse (by simp [RespectsLimit, soldEq])
  | .ok _, .err _ | .ok _, .panic _ => isFalse (by simp [RespectsLimit, boughtEq])

section

variable (sell buy : Nat)

/-- The products of a trade are words. -/
def Fits : Prop :=
  match trade.order.side with
  | .sell => trade.executed.toNat * sell < 2 ^ 256 ∧ trade.haircutFee.toNat * sell < 2 ^ 256
  | .buy => trade.executed.toNat * buy < 2 ^ 256 ∧ trade.haircutFee.toNat * buy < 2 ^ 256

/-- What the trader pays. -/
def paid : Nat :=
  match trade.order.side with
  | .sell => trade.executed.toNat + trade.feeAmount.toNat
  | .buy => trade.executed.toNat * buy / sell + trade.feeAmount.toNat +
      trade.haircutFee.toNat * buy / sell

/-- Negative when the haircut is more than the trade buys. -/
def received : Int :=
  match trade.order.side with
  | .sell => (trade.executed.toNat * sell ⌈/⌉ buy : Nat) -
      (trade.haircutFee.toNat * sell / buy : Nat)
  | .buy => trade.executed.toNat

/-- The amounts respect the limit price, in exact numbers. -/
def CoversLimit : Prop :=
  trade.paid sell buy < 2 ^ 256 ∧ 0 ≤ trade.received sell buy ∧
    trade.paid sell buy * trade.order.buy.amount.toNat ≤
      trade.received sell buy * trade.order.sell.amount.toNat

end

end

variable {trade : Fulfillment F} {prices : ClearingPrices} {amount : U256}

theorem checkedAdd_eq_ok_iff {left right : U256} {error : WinnerSelection.MathError} :
    Outcome.okOr error (left.checkedAdd right) = .ok amount ↔
      amount.toNat = left.toNat + right.toNat := by
  rw [okOr_eq_ok_iff, U256.checkedAdd_eq_some_iff]

theorem sellAmount_eq_ok_iff_of_sell (side : trade.order.side = .sell) :
    trade.sellAmount prices = .ok amount ↔
      amount.toNat = trade.paid prices.sell.toNat prices.buy.toNat := by
  simp only [sellAmount, paid, side, bind_eq_ok_iff,
    checkedAdd_eq_ok_iff, ok.injEq, exists_eq_left']
  constructor
  · rintro ⟨_, added, same⟩
    simpa [added] using same
  · intro same
    exact ⟨amount, same, by simp⟩

theorem sellAmount_eq_ok_iff_of_buy (side : trade.order.side = .buy) (nonzero : prices.sell ≠ 0) :
    trade.sellAmount prices = .ok amount ↔ trade.Fits prices.sell.toNat prices.buy.toNat ∧
        amount.toNat = trade.paid prices.sell.toNat prices.buy.toNat := by
  simp only [sellAmount, haircutInSellToken, paid, Fits, side,
    bind_eq_ok_iff, checkedAdd_eq_ok_iff, mulDiv_eq_ok_iff]
  constructor
  · rintro ⟨before, ⟨fits, _, quotient⟩, withFee, added, haircut,
      ⟨haircutFits, _, haircutQuotient⟩, total⟩
    exact ⟨⟨fits, haircutFits⟩, by rw [total, added, quotient, haircutQuotient]⟩
  · rintro ⟨⟨fits, haircutFits⟩, total⟩
    obtain ⟨before, beforeEq⟩ := U256.exists_toNat_eq
      (Nat.lt_of_le_of_lt (Nat.div_le_self _ prices.sell.toNat) fits)
    obtain ⟨haircut, haircutEq⟩ := U256.exists_toNat_eq
      (Nat.lt_of_le_of_lt (Nat.div_le_self _ prices.sell.toNat) haircutFits)
    rw [← beforeEq, ← haircutEq] at total
    obtain ⟨withFee, withFeeEq⟩ := U256.exists_toNat_eq
      (show before.toNat + trade.feeAmount.toNat < 2 ^ 256 by omega)
    exact ⟨before, ⟨fits, nonzero, beforeEq⟩, withFee, withFeeEq, haircut,
      ⟨haircutFits, nonzero, haircutEq⟩, by rw [withFeeEq, total]⟩

theorem buyAmount_eq_ok_iff_of_buy (side : trade.order.side = .buy) :
    trade.buyAmount prices = .ok amount ↔ amount.toNat =
        trade.received prices.sell.toNat prices.buy.toNat := by
  simp only [buyAmount, received, side, ok.injEq]
  rw [Nat.cast_inj, toNat_inj]
  exact eq_comm

theorem buyAmount_eq_ok_iff_of_sell (side : trade.order.side = .sell) (nonzero : prices.buy ≠ 0) :
    trade.buyAmount prices = .ok amount ↔ trade.Fits prices.sell.toNat prices.buy.toNat ∧
        amount.toNat = trade.received prices.sell.toNat prices.buy.toNat := by
  simp only [buyAmount, received, Fits, side, bind_eq_ok_iff,
    okOr_eq_ok_iff, U256.checkedSub_eq_some_iff, mulDiv_eq_ok_iff,
    mulCeilDiv_eq_ok_iff]
  constructor
  · rintro ⟨base, ⟨fits, _, _⟩, haircut, ⟨haircutFits, _, _⟩, rest⟩
    omega
  · rintro ⟨⟨fits, haircutFits⟩, rest⟩
    have positive := toNat_pos_of_ne_zero nonzero
    obtain ⟨base, baseEq⟩ := U256.exists_toNat_eq (Nat.lt_of_le_of_lt
      ((ceilDiv_le_iff_le_mul positive).mpr (Nat.le_mul_of_pos_left _ positive))
      fits)
    obtain ⟨haircut, haircutEq⟩ := U256.exists_toNat_eq
      (Nat.lt_of_le_of_lt (Nat.div_le_self _ prices.buy.toNat) haircutFits)
    exact ⟨base, ⟨fits, nonzero, baseEq⟩, haircut, ⟨haircutFits, nonzero, haircutEq⟩, by omega⟩

theorem received_lt (nonzero : prices.buy ≠ 0)
    (fits : trade.Fits prices.sell.toNat prices.buy.toNat) :
    trade.received prices.sell.toNat prices.buy.toNat < 2 ^ 256 := by
  have positive := toNat_pos_of_ne_zero nonzero
  unfold received
  unfold Fits at fits
  cases side : trade.order.side with
  | buy =>
    dsimp only
    omega
  | sell =>
    rw [side] at fits
    have quotient := Nat.lt_of_le_of_lt
      ((ceilDiv_le_iff_le_mul positive).mpr (Nat.le_mul_of_pos_left _ positive))
      fits.1
    have haircut := Int.natCast_nonneg
      (trade.haircutFee.toNat * prices.sell.toNat / prices.buy.toNat)
    exact lt_of_le_of_lt (sub_le_self _ haircut) (by exact_mod_cast quotient)

theorem sellAmount_eq_ok_iff (nonzero : prices.sell ≠ 0) : trade.sellAmount prices = .ok amount ↔
      (trade.order.side = .buy → trade.Fits prices.sell.toNat prices.buy.toNat) ∧
        amount.toNat = trade.paid prices.sell.toNat prices.buy.toNat := by
  cases side : trade.order.side with
  | sell => simp [sellAmount_eq_ok_iff_of_sell side]
  | buy => simp [sellAmount_eq_ok_iff_of_buy side nonzero]

theorem buyAmount_eq_ok_iff (nonzero : prices.buy ≠ 0) : trade.buyAmount prices = .ok amount ↔
      (trade.order.side = .sell → trade.Fits prices.sell.toNat prices.buy.toNat) ∧
        amount.toNat = trade.received prices.sell.toNat prices.buy.toNat := by
  cases side : trade.order.side with
  | sell => simp [buyAmount_eq_ok_iff_of_sell side nonzero]
  | buy => simp [buyAmount_eq_ok_iff_of_buy side]

theorem respectsLimit_iff (sellNonzero : prices.sell ≠ 0) (buyNonzero : prices.buy ≠ 0) :
    trade.RespectsLimit prices ↔ trade.Fits prices.sell.toNat prices.buy.toNat ∧
        trade.CoversLimit prices.sell.toNat prices.buy.toNat := by
  unfold RespectsLimit CoversLimit
  simp only [sellAmount_eq_ok_iff sellNonzero, buyAmount_eq_ok_iff buyNonzero]
  constructor
  · rintro ⟨sold, bought, ⟨buyFits, paid⟩, ⟨sellFits, received⟩, covered⟩
    refine ⟨?_, paid ▸ sold.isLt, received ▸ Int.natCast_nonneg _, ?_⟩
    · cases side : trade.order.side with
      | sell => exact sellFits side
      | buy => exact buyFits side
    · rw [← paid, ← received]
      exact_mod_cast covered
  · rintro ⟨fits, paidFits, nonnegative, covered⟩
    obtain ⟨sold, paid⟩ := U256.exists_toNat_eq paidFits
    obtain ⟨number, received⟩ := Int.eq_ofNat_of_zero_le nonnegative
    have receivedFits : number < 2 ^ 256 := by
      have bound := received_lt buyNonzero fits
      rw [received] at bound
      exact_mod_cast bound
    obtain ⟨bought, boughtEq⟩ := U256.exists_toNat_eq receivedFits
    refine ⟨sold, bought, ⟨fun _ => fits, paid⟩, ⟨fun _ => fits, ?_⟩, ?_⟩
    · rw [boughtEq, received]
    · rw [received, ← paid, ← boughtEq] at covered
      exact_mod_cast covered

/-- Only the ratio of the prices matters for what is paid and received. -/
theorem coversLimit_congr {sell buy otherSell otherBuy : Nat}
    (positive : 0 < sell ∧ 0 < buy) (otherPositive : 0 < otherSell ∧ 0 < otherBuy)
    (ratio : otherSell * buy = sell * otherBuy) :
    trade.CoversLimit otherSell otherBuy ↔ trade.CoversLimit sell buy := by
  have samePaid : trade.paid otherSell otherBuy = trade.paid sell buy := by
    unfold paid
    cases trade.order.side with
    | sell => rfl
    | buy =>
      rw [div_eq_div_of_mul_eq positive.1 otherPositive.1
        (show trade.executed.toNat * otherBuy * sell =
          trade.executed.toNat * buy * otherSell by grind),
        div_eq_div_of_mul_eq positive.1 otherPositive.1
        (show trade.haircutFee.toNat * otherBuy * sell =
          trade.haircutFee.toNat * buy * otherSell by grind)]
  have sameReceived : trade.received otherSell otherBuy = trade.received sell buy := by
    unfold received
    cases trade.order.side with
    | buy => rfl
    | sell =>
      rw [ceilDiv_eq_ceilDiv_of_mul_eq positive.2 otherPositive.2
        (show trade.executed.toNat * otherSell * buy =
          trade.executed.toNat * sell * otherBuy by grind),
        div_eq_div_of_mul_eq positive.2 otherPositive.2
        (show trade.haircutFee.toNat * otherSell * buy =
          trade.haircutFee.toNat * sell * otherBuy by grind)]
  rw [CoversLimit, CoversLimit, samePaid, sameReceived]

end

end Fulfillment

/-! ## Prices of the merged solution -/

namespace Solution

section

variable {F : Type} {counter maxOrders : Nat} {first second merged : Solution F}

section

variable (solution : Solution F)

/-- The same at the clearing prices of a solution. -/
def RespectsLimit (trade : Fulfillment F) : Prop :=
  ∃ sell buy, solution.clearingPrice trade.order.sell.token = some sell ∧
    solution.clearingPrice trade.order.buy.token = some buy ∧ trade.RespectsLimit ⟨sell, buy⟩

instance decidableRespectsLimit (trade : Fulfillment F) :
    Decidable (solution.RespectsLimit trade) :=
  match sellEq : solution.clearingPrice trade.order.sell.token,
      buyEq : solution.clearingPrice trade.order.buy.token with
  | some sell, some buy =>
    decidable_of_iff (trade.RespectsLimit ⟨sell, buy⟩) (by simp [RespectsLimit, sellEq, buyEq])
  | none, _ => isFalse (by simp [RespectsLimit, sellEq])
  | some _, none => isFalse (by simp [RespectsLimit, buyEq])

/-- No clearing price is zero. -/
def Priced : Prop :=
  ∀ token price, solution.prices.get token = some price → price ≠ 0

instance decidablePriced : Decidable solution.Priced :=
  decidable_of_iff ((solution.prices.entries.all (·.2 ≠ 0)) = true) (by
    simp only [Priced, EntryMap.get_eq_some_iff, List.all_eq_true, decide_eq_true_eq, Prod.forall])

end

def growth (first second : Solution F) : ℚ :=
  match commonPrices (kept first second).prices (scaled first second).prices with
  | [] => 1
  | prices :: _ => prices.1.toNat / prices.2.toNat

theorem growth_eq {factor : ℚ} (isFactor : IsFactor (kept first second).prices
    (scaled first second).prices factor) : growth first second = factor := by
  unfold growth
  split
  · rename_i apart
    exact (isFactor.apart apart).symm
  · rename_i prices rest shape
    obtain ⟨nonzero, multiple⟩ := isFactor.common prices (by simp [shape])
    rw [multiple, mul_div_cancel_left₀ _ (toNat_cast_pos nonzero).ne']

def scaledPrice (first second : Solution F) (price : U256) : Nat :=
  ⌊(price.toNat : ℚ) * growth first second⌋₊

theorem scaledPrice_pos (grows : 1 ≤ growth first second) {price : U256}
    (nonzero : price ≠ 0) : 0 < scaledPrice first second price := by
  have positive : 1 ≤ (price.toNat : ℚ) := by
    rw [Nat.one_le_cast]
    exact toNat_pos_of_ne_zero nonzero
  rw [scaledPrice, Nat.floor_pos]
  exact one_le_mul_of_one_le_of_one_le positive grows

/-- Every price is kept or scaled by one factor. -/
structure MergedPrices (first second merged : Solution F) : Prop where
  weth : merged.weth = (kept first second).weth
  grows : 1 ≤ growth first second
  kept : ∀ token price, (kept first second).prices.get token = some price →
    merged.prices.get token = some price
  scaled : ∀ token price, (scaled first second).prices.get token = some price →
    ∃ other, merged.prices.get token = some other ∧ other.toNat = scaledPrice first second price

theorem merge_mergedPrices (merges : merge counter first second maxOrders = some (.ok merged)) :
    MergedPrices first second merged := by
  obtain ⟨_, prices, priced, rfl⟩ := merge_eq_ok merges
  obtain ⟨factor, isFactor, grows, scaling⟩ := mergePrices_eq_ok_some_iff.mp priced
  have fits := isFactor.returns_iff.mp ⟨prices, scaling⟩
  have growing := growth_eq isFactor
  refine ⟨rfl, growing ▸ grows, fun token price found => ?_, fun token price found => ?_⟩
  · exact (get_of_foldlM_scaleInto isFactor.nonneg scaling token).trans
      (by rw [found, Option.some_or])
  · refine ⟨scaleUp factor price, isFactor.get_of_get_second scaling found, ?_⟩
    rw [toNat_scaleUp (fits token price found), scaledPrice, growing]

/-- Rounding the scaled prices of the two tokens down leaves the rate between them
as it is, as it does when both are whole, and no product with them overflows. -/
def ScalesEvenly (first second : Solution F) (trade : Fulfillment F) : Prop :=
  ∀ sell buy, (scaled first second).clearingPrice trade.order.sell.token = some sell →
    (scaled first second).clearingPrice trade.order.buy.token = some buy →
    scaledPrice first second sell * buy.toNat = sell.toNat * scaledPrice first second buy ∧
      trade.Fits (scaledPrice first second sell) (scaledPrice first second buy)

section

variable (prices : MergedPrices first second merged) {trade : Fulfillment F}
include prices

theorem MergedPrices.respectsLimit_of_kept
    (respects : (Solution.kept first second).RespectsLimit trade) : merged.RespectsLimit trade := by
  obtain ⟨sell, buy, sellFound, buyFound, covered⟩ := respects
  refine ⟨sell, buy, ?_, ?_, covered⟩
  · rw [clearingPrice, prices.weth]
    exact prices.kept _ _ sellFound
  · rw [clearingPrice, prices.weth]
    exact prices.kept _ _ buyFound

theorem MergedPrices.respectsLimit_of_scaled
    (sameWeth : merged.weth = (Solution.scaled first second).weth)
    (priced : (Solution.scaled first second).Priced) (evenly : ScalesEvenly first second trade)
    (respects : (Solution.scaled first second).RespectsLimit trade) :
    merged.RespectsLimit trade := by
  obtain ⟨sell, buy, sellFound, buyFound, respects⟩ := respects
  obtain ⟨ratio, fits⟩ := evenly sell buy sellFound buyFound
  have sellNonzero := priced _ _ sellFound
  have buyNonzero := priced _ _ buyFound
  obtain ⟨otherSell, sellMerged, sellScaled⟩ := prices.scaled _ _ sellFound
  obtain ⟨otherBuy, buyMerged, buyScaled⟩ := prices.scaled _ _ buyFound
  have sellPositive := scaledPrice_pos prices.grows sellNonzero
  have buyPositive := scaledPrice_pos prices.grows buyNonzero
  rw [← sellScaled, ← buyScaled] at ratio fits
  rw [← sellScaled] at sellPositive
  rw [← buyScaled] at buyPositive
  have own := ((Fulfillment.respectsLimit_iff sellNonzero buyNonzero).mp respects).2
  have covered := (Fulfillment.coversLimit_congr
    ⟨toNat_pos_of_ne_zero sellNonzero, toNat_pos_of_ne_zero buyNonzero⟩
    ⟨sellPositive, buyPositive⟩ ratio).mpr own
  have nonzero {price : U256} (positive : 0 < price.toNat) : price ≠ 0 := by
    rintro rfl
    simp at positive
  refine ⟨otherSell, otherBuy, ?_, ?_, ?_⟩
  · rwa [clearingPrice, sameWeth]
  · rwa [clearingPrice, sameWeth]
  · exact (Fulfillment.respectsLimit_iff (nonzero sellPositive)
      (nonzero buyPositive)).mpr ⟨fits, covered⟩

end

/-- Trades of the solution whose prices are kept keep their limits anyway. -/
theorem merge_keepsLimits (merges : merge counter first second maxOrders = some (.ok merged))
    (sameWeth : first.weth = second.weth)
    (firstPriced : first.Priced) (secondPriced : second.Priced)
    (evenly : ∀ trade ∈ (scaled first second).userTrades, ScalesEvenly first second trade) :
    (∀ trade ∈ first.userTrades, first.RespectsLimit trade → merged.RespectsLimit trade) ∧
      ∀ trade ∈ second.userTrades, second.RespectsLimit trade → merged.RespectsLimit trade := by
  have prices := merge_mergedPrices merges
  have keptRespects : ∀ trade, (kept first second).RespectsLimit trade →
      merged.RespectsLimit trade := fun _ => prices.respectsLimit_of_kept
  have scaledRespects (weth : merged.weth = (scaled first second).weth)
      (priced : (scaled first second).Priced) : ∀ trade ∈ (scaled first second).userTrades,
        (scaled first second).RespectsLimit trade → merged.RespectsLimit trade :=
    fun trade mem => prices.respectsLimit_of_scaled weth priced (evenly trade mem)
  have keptWeth := prices.weth
  rcases kept_scaled first second with ⟨same, other⟩ | ⟨same, other⟩
  · rw [same] at keptRespects keptWeth
    rw [other] at scaledRespects
    exact ⟨fun trade _ => keptRespects trade,
      scaledRespects (keptWeth.trans sameWeth) secondPriced⟩
  · rw [same] at keptRespects keptWeth
    rw [other] at scaledRespects
    exact ⟨scaledRespects (keptWeth.trans sameWeth.symm) firstPriced,
      fun trade _ => keptRespects trade⟩

end

theorem merge_keepsLimits_doubledPrices :
    let trade := soldOut 2 ⟨6, 3⟩ ⟨3, 1⟩
    let first := trading (soldOut 1 ⟨3, 2⟩ ⟨3, 1⟩) [(1, 4), (2, 4)]
    let second := trading trade [(1, 2), (3, 1)]
    ∃ merged, merge 2 first second 10 = some (.ok merged) ∧
      second.RespectsLimit trade ∧ merged.RespectsLimit trade := by
  intro trade first second
  have merges : merge 2 first second 10 = some (.ok (mergedWith 2 first second
      (EntryMap.collect [(1, 4), (2, 4), (3, 2)]))) := by decide +kernel
  have respects : second.RespectsLimit trade := by decide +kernel
  have evenly : ScalesEvenly first second trade := by
    intro sell buy sellFound buyFound
    have sellPrice : (scaled first second).clearingPrice trade.order.sell.token = some 1 := by
      decide +kernel
    have buyPrice : (scaled first second).clearingPrice trade.order.buy.token = some 2 := by
      decide +kernel
    cases sellPrice.symm.trans sellFound
    cases buyPrice.symm.trans buyFound
    exact ⟨by decide +kernel, by decide +kernel, by decide +kernel⟩
  have keeps := merge_keepsLimits merges rfl (by decide +kernel) (by decide +kernel)
    (fun other mem => List.mem_singleton.mp mem ▸ evenly)
  exact ⟨_, merges, respects, keeps.2 trade List.mem_cons_self respects⟩

/-- The price of the third token is scaled by three halves and loses a third of
its value. -/
theorem merge_roundedPrice :
    let trade := soldOut 2 ⟨6, 3⟩ ⟨3, 1⟩
    let first := trading (soldOut 1 ⟨3, 2⟩ ⟨3, 1⟩) [(1, 3), (2, 3)]
    let second := trading trade [(1, 2), (3, 1)]
    Solution.new first .driver (fun _ => false) = .ok first ∧
      Solution.new second .driver (fun _ => false) = .ok second ∧
        ∃ merged, merge 2 first second 10 = some (.ok merged) ∧
          second.RespectsLimit trade ∧ ¬ merged.RespectsLimit trade := by
  intro trade first second
  refine ⟨by decide +kernel, by decide +kernel, mergedWith 2 first second
    (EntryMap.collect [(1, 3), (2, 3), (3, 1)]), by decide +kernel,
    by decide +kernel, by decide +kernel⟩

end Solution

end MandateSolver.Driver
