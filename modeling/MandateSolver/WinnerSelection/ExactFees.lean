import MandateSolver.WinnerSelection.Scoring

/-!
# Surplus and fees in exact numbers

Surplus and protocol fees depend on the prices only through the traded amount.  The
arbitrator's checked arithmetic computes these exact numbers whenever it returns a value.
-/

namespace MandateSolver.WinnerSelection

open Outcome BitVec

/-! ## The exact numbers -/

/-- The amount of the other token: received by a sell order and rounded up,
sold by a buy order and rounded down. -/
def counterAmount (side : Side) (executed sellPrice buyPrice : Nat) : Nat :=
  match side with
  | .sell => executed * sellPrice ⌈/⌉ buyPrice
  | .buy => executed * buyPrice / sellPrice

def withoutFee (side : Side) (traded fee : Nat) : Nat :=
  match side with
  | .sell => traded + fee
  | .buy => traded - fee

/-- A trade in exact numbers. -/
structure ExactTrade where
  side : Side
  (limitSell limitBuy executed : Nat)

namespace ExactTrade

def surplusOver (trade : ExactTrade) (limitSell limitBuy traded : Nat) : Nat :=
  let limit := counterAmount trade.side trade.executed limitBuy limitSell
  match trade.side with
  | .sell => traded - limit
  | .buy => limit - traded

def quotedSell (trade : ExactTrade) (quote : Quote) : Nat :=
  match trade.side with
  | .sell => trade.limitSell
  | .buy =>
    min trade.limitSell ((quote.sellAmount.toNat + quote.fee.toNat) *
      trade.limitBuy / quote.buyAmount.toNat)

def quotedFee (quote : Quote) : Nat :=
  quote.fee.toNat * quote.buyAmount.toNat / quote.sellAmount.toNat

def quotedBuy (trade : ExactTrade) (quote : Quote) : Nat :=
  match trade.side with
  | .sell =>
    max trade.limitBuy ((quote.buyAmount.toNat - quotedFee quote) *
      trade.limitSell / quote.sellAmount.toNat)
  | .buy => trade.limitBuy

/-- The fee is more than the quoted amount. -/
def outquoted (trade : ExactTrade) (quote : Quote) : Prop :=
  trade.side = .sell ∧ quote.buyAmount.toNat < quotedFee quote

instance (trade : ExactTrade) (quote : Quote) : Decidable (trade.outquoted quote) :=
  inferInstanceAs (Decidable (_ ∧ _))

def improvement (trade : ExactTrade) (quote : Quote) (traded : Nat) : Nat :=
  if trade.outquoted quote then 0
  else trade.surplusOver (trade.quotedSell quote) (trade.quotedBuy quote) traded

section

variable {F : Type} [Factor F]

def times (amount : Nat) (factor : F) : Nat :=
  ((Factor.checkedMul (BitVec.ofNat 256 amount) factor).getD 0).toNat

section

variable (trade : ExactTrade)

def volumeFee (factor : F) (traded : Nat) : Nat :=
  match trade.side with
  | .sell => times traded (factor / (1 - factor))
  | .buy => times traded (factor / (1 + factor))

def policyFee (traded : Nat) : FeePolicy F → Nat
  | .surplus factor maxVolumeFactor =>
    min (times (trade.surplusOver trade.limitSell trade.limitBuy traded) (factor / (1 - factor)))
      (trade.volumeFee maxVolumeFactor traded)
  | .priceImprovement factor maxVolumeFactor quote =>
    min (times (trade.improvement quote traded) (factor / (1 - factor)))
      (trade.volumeFee maxVolumeFactor traded)
  | .volume factor => trade.volumeFee factor traded

/-- One more policy is undone, given the fees of those behind it. -/
def addFee (traded : Nat) (policy : FeePolicy F) (total : Nat) : Nat :=
  total + trade.policyFee (withoutFee trade.side traded total) policy

def totalFee (traded : Nat) (policies : List (FeePolicy F)) : Nat :=
  policies.foldr (trade.addFee traded) 0

def inBuyTokens (amount : Nat) : Nat :=
  match trade.side with
  | .sell => amount
  | .buy => amount * trade.limitBuy / trade.limitSell

def scoredAmount (traded : Nat) (policies : List (FeePolicy F)) : Nat :=
  trade.inBuyTokens (trade.surplusOver trade.limitSell trade.limitBuy traded +
    trade.totalFee traded policies)

end

end

end ExactTrade

/-! ## What the checked arithmetic returns -/

variable {left right : U256}

theorem exists_product_iff (property : Nat → Prop) :
    (∃ product : U256, product.toNat = left.toNat * right.toNat ∧ property product.toNat) ↔
      left.toNat * right.toNat < 2 ^ 256 ∧ property (left.toNat * right.toNat) := by
  constructor
  · rintro ⟨product, exact, holds⟩
    exact ⟨exact ▸ product.isLt, exact ▸ holds⟩
  · rintro ⟨fits, holds⟩
    obtain ⟨product, exact⟩ := U256.exists_toNat_eq fits
    exact ⟨product, exact, exact ▸ holds⟩

variable {result surplus : U256} {order : Order} {prices : ClearingPrices}

theorem checkedCeilDiv_eq_some_iff : left.checkedCeilDiv right = some result ↔
      right ≠ 0 ∧ result.toNat = left.toNat ⌈/⌉ right.toNat := by
  by_cases zero : right = 0
  · simp [U256.checkedCeilDiv, U256.isZero, zero]
  · rw [← U256.toNat_divCeil zero, toNat_inj]
    simp [U256.checkedCeilDiv, U256.isZero, @eq_comm _ result]

theorem mulDiv_eq_ok_iff {divisor : U256} : mulDiv left right divisor = .ok result ↔
      left.toNat * right.toNat < 2 ^ 256 ∧ divisor ≠ 0 ∧
        result.toNat = left.toNat * right.toNat / divisor.toNat := by
  simp only [mulDiv, bind_eq_ok_iff, okOr_eq_ok_iff, U256.checkedMul_eq_some_iff,
    U256.checkedDiv_eq_some_iff, Nat.pos_iff_ne_zero, ne_eq, U256.toNat_eq_zero]
  exact exists_product_iff fun product => _ ∧ _ = product / _

theorem mulCeilDiv_eq_ok_iff {divisor : U256} : mulCeilDiv left right divisor = .ok result ↔
      left.toNat * right.toNat < 2 ^ 256 ∧ divisor ≠ 0 ∧
        result.toNat = left.toNat * right.toNat ⌈/⌉ divisor.toNat := by
  simp only [mulCeilDiv, bind_eq_ok_iff, okOr_eq_ok_iff, U256.checkedMul_eq_some_iff,
    checkedCeilDiv_eq_some_iff]
  exact exists_product_iff fun product => _ ∧ _ = product ⌈/⌉ _

theorem mulDiv_eq_ok {divisor : U256} (returned : mulDiv left right divisor = .ok result) :
    divisor ≠ 0 ∧ result.toNat = left.toNat * right.toNat / divisor.toNat :=
  (mulDiv_eq_ok_iff.mp returned).2

theorem mulCeilDiv_eq_ok {divisor : U256} (returned : mulCeilDiv left right divisor = .ok result) :
    divisor ≠ 0 ∧ result.toNat = left.toNat * right.toNat ⌈/⌉ divisor.toNat :=
  (mulCeilDiv_eq_ok_iff.mp returned).2

theorem mulDiv_comm (left right divisor : U256) :
    mulDiv left right divisor = mulDiv right left divisor := by
  unfold mulDiv U256.checkedMul
  rw [Nat.mul_comm, BitVec.mul_comm]

@[simp] theorem mulDiv_ne_negative {divisor : U256} :
    mulDiv left right divisor ≠ .err .negative := by
  simp [mulDiv, bind_eq_err_iff]

@[simp] theorem mulCeilDiv_ne_negative {divisor : U256} :
    mulCeilDiv left right divisor ≠ .err .negative := by
  simp [mulCeilDiv, bind_eq_err_iff]

/-- The executed amount on the order's side. -/
def Order.executed (order : Order) : U256 :=
  match order.side with
  | .buy => order.executedBuy
  | .sell => order.executedSell

def Order.counterExecuted (order : Order) : U256 :=
  match order.side with
  | .buy => order.executedSell
  | .sell => order.executedBuy

def Order.exactTrade (order : Order) : ExactTrade where
  side := order.side
  limitSell := order.sellAmount.toNat
  limitBuy := order.buyAmount.toNat
  executed := order.executed.toNat

def Order.tradedAt (order : Order) (prices : ClearingPrices) : Nat :=
  counterAmount order.side order.executed.toNat prices.sell.toNat prices.buy.toNat

def ClearingPrices.divisor (prices : ClearingPrices) : Side → U256
  | .sell => prices.buy
  | .buy => prices.sell

section

/-- The traded amount as every service computes it. -/
def Order.checkedTraded (order : Order) (prices : ClearingPrices) : Outcome MathError U256 :=
  match order.side with
  | .sell => mulCeilDiv order.executedSell prices.sell prices.buy
  | .buy => mulDiv order.executedBuy prices.buy prices.sell

theorem checkedTraded_eq_ok {traded : U256} (returned : order.checkedTraded prices = .ok traded) :
    prices.divisor order.side ≠ 0 ∧ traded.toNat = order.tradedAt prices := by
  unfold Order.checkedTraded at returned
  unfold Order.tradedAt Order.executed
  cases side : order.side with
  | sell =>
    rw [side] at returned
    exact mulCeilDiv_eq_ok returned
  | buy =>
    rw [side] at returned
    exact mulDiv_eq_ok returned

theorem checkedTraded_ne_negative : order.checkedTraded prices ≠ .err .negative := by
  unfold Order.checkedTraded
  cases order.side <;> simp

def checkedGain (side : Side) (limit traded : U256) : Option U256 :=
  match side with
  | .sell => traded.checkedSub limit
  | .buy => limit.checkedSub traded

theorem surplusOver_eq (limits : PriceLimits) : surplusOver order prices limits = (do
      let limit ← order.checkedTraded ⟨limits.buy, limits.sell⟩
      let traded ← order.checkedTraded prices
      .okOr .negative (checkedGain order.side limit traded)) := by
  unfold surplusOver Order.checkedTraded checkedGain
  cases order.side with
  | sell => rfl
  | buy => simp only [mulDiv_comm limits.sell]

variable {limits : PriceLimits}

theorem toNat_checkedGain_getD {limit traded : U256}
    (limited : order.checkedTraded ⟨limits.buy, limits.sell⟩ = .ok limit)
    (trades : order.checkedTraded prices = .ok traded) :
    ((checkedGain order.side limit traded).getD 0).toNat =
      order.exactTrade.surplusOver limits.sell.toNat limits.buy.toNat (order.tradedAt prices) := by
  have limited : limit.toNat = counterAmount order.side order.executed.toNat
    limits.buy.toNat limits.sell.toNat := (checkedTraded_eq_ok limited).2
  rw [← (checkedTraded_eq_ok trades).2]
  unfold ExactTrade.surplusOver Order.exactTrade
  simp only [← limited]
  cases order.side <;> exact U256.toNat_checkedSub_getD _ _

theorem surplusOver_eq_ok
    (returned : surplusOver order prices limits = .ok surplus) :
    prices.divisor order.side ≠ 0 ∧ surplus.toNat = order.exactTrade.surplusOver limits.sell.toNat
        limits.buy.toNat (order.tradedAt prices) := by
  rw [surplusOver_eq] at returned
  obtain ⟨_, limited, returned⟩ := bind_eq_ok_iff.mp returned
  obtain ⟨_, trades, gained⟩ := bind_eq_ok_iff.mp returned
  refine ⟨(checkedTraded_eq_ok trades).1, ?_⟩
  rw [← toNat_checkedGain_getD limited trades, okOr_eq_ok_iff.mp gained]
  rfl

theorem surplusOver_eq_negative (failed : surplusOver order prices limits = .err .negative) :
    order.exactTrade.surplusOver limits.sell.toNat limits.buy.toNat
      (order.tradedAt prices) = 0 := by
  rw [surplusOver_eq] at failed
  obtain ⟨_, limited, failed⟩ :=
    (bind_eq_err_iff.mp failed).resolve_left checkedTraded_ne_negative
  obtain ⟨_, trades, negative⟩ :=
    (bind_eq_err_iff.mp failed).resolve_left checkedTraded_ne_negative
  rw [← toNat_checkedGain_getD limited trades, (okOr_eq_err_iff.mp negative).1]
  rfl

variable {quote : Quote} {executed : U256}

theorem adjustQuoteToOrderLimits_eq_ok
    (returned : adjustQuoteToOrderLimits order quote = .ok limits) :
    ¬ order.exactTrade.outquoted quote ∧ limits.sell.toNat = order.exactTrade.quotedSell quote ∧
        limits.buy.toNat = order.exactTrade.quotedBuy quote := by
  cases side : order.side with
  | sell =>
    simp only [adjustQuoteToOrderLimits, adjustQuoteToLimits, side, bind_eq_ok_iff, okOr_eq_ok_iff,
      mulDiv_eq_ok_iff, U256.checkedSub_eq_some_iff] at returned
    obtain ⟨fee, ⟨_, _, charged⟩, quoteBuy, reduced, _, ⟨_, _, scaled⟩,
      returned⟩ := returned
    obtain rfl := ok.inj returned
    change fee.toNat = ExactTrade.quotedFee quote at charged
    have reduced : quoteBuy.toNat = quote.buyAmount.toNat - ExactTrade.quotedFee quote := by omega
    refine ⟨fun outquoted => absurd outquoted.2 (by omega), ?_⟩
    simp only [ExactTrade.quotedSell, ExactTrade.quotedBuy, Order.exactTrade,
      side, ← reduced, ← scaled]
    exact ⟨trivial, U256.toNat_max _ _⟩
  | buy =>
    simp only [adjustQuoteToOrderLimits, adjustQuoteToLimits, side, bind_eq_ok_iff, okOr_eq_ok_iff,
      mulDiv_eq_ok_iff, U256.checkedAdd_eq_some_iff] at returned
    obtain ⟨_, raised, _, ⟨_, _, scaled⟩, returned⟩ := returned
    obtain rfl := ok.inj returned
    refine ⟨fun outquoted => absurd outquoted.1 (by simp [Order.exactTrade, side]), ?_⟩
    simp only [ExactTrade.quotedSell, ExactTrade.quotedBuy, Order.exactTrade,
      side, ← raised, ← scaled]
    exact ⟨U256.toNat_min _ _, trivial⟩

theorem adjustQuoteToOrderLimits_eq_negative
    (failed : adjustQuoteToOrderLimits order quote = .err .negative) :
    order.exactTrade.outquoted quote := by
  -- Of all the steps only the subtraction of a sell quote's fee can go below.
  cases side : order.side with
  | sell =>
    simp [adjustQuoteToOrderLimits, adjustQuoteToLimits, side, bind_eq_err_iff] at failed
    obtain ⟨fee, charged, below⟩ := failed
    have charged : fee.toNat = ExactTrade.quotedFee quote := (mulDiv_eq_ok charged).2
    rw [U256.checkedSub_eq_none_iff] at below
    exact ⟨side, by omega⟩
  | buy => simp [adjustQuoteToOrderLimits, adjustQuoteToLimits, side, bind_eq_err_iff] at failed

section

variable (adjusted : adjustQuoteToOrderLimits order quote = .ok limits)
include adjusted

theorem improvement_of_surplusOver
    (gained : surplusOver order prices limits = .ok surplus) :
    surplus.toNat = order.exactTrade.improvement quote (order.tradedAt prices) := by
  obtain ⟨useful, sell, buy⟩ := adjustQuoteToOrderLimits_eq_ok adjusted
  rw [ExactTrade.improvement, if_neg useful, ← sell, ← buy]
  exact (surplusOver_eq_ok gained).2

theorem improvement_of_negative (negative : surplusOver order prices limits = .err .negative) :
    order.exactTrade.improvement quote (order.tradedAt prices) = 0 := by
  obtain ⟨useful, sell, buy⟩ := adjustQuoteToOrderLimits_eq_ok adjusted
  rw [ExactTrade.improvement, if_neg useful, ← sell, ← buy]
  exact surplusOver_eq_negative negative

end

theorem priceImprovementOverQuote_eq_ok {improvement : U256}
    (returned : priceImprovementOverQuote order prices quote = .ok improvement) :
    improvement.toNat = order.exactTrade.improvement quote (order.tradedAt prices) := by
  obtain ⟨limits, adjusted, gained⟩ := bind_eq_ok_iff.mp returned
  split at gained
  · rename_i negative
    obtain rfl := ok.inj gained
    exact (improvement_of_negative adjusted negative).symm
  · exact improvement_of_surplusOver adjusted gained

theorem counterAmount_sell (amount : Nat) (nonzero : executed ≠ 0) :
    counterAmount .sell executed.toNat amount executed.toNat = amount :=
  smul_ceilDiv (toNat_pos_of_ne_zero nonzero) amount

theorem counterAmount_buy (amount : Nat) (nonzero : executed ≠ 0) :
    counterAmount .buy executed.toNat executed.toNat amount = amount :=
  Nat.mul_div_cancel_left amount (toNat_pos_of_ne_zero nonzero)

/-- The executed amounts stand in for the prices that they were computed at. -/
theorem tradedAt_calculateCustomPricesFromExecuted
    (executes : order.counterExecuted.toNat = order.tradedAt prices) :
    order.tradedAt (calculateCustomPricesFromExecuted order) = order.tradedAt prices := by
  rw [← executes]
  unfold Order.tradedAt at executes ⊢
  unfold Order.counterExecuted Order.executed at executes ⊢
  cases side : order.side with
  | sell =>
    simp only [side] at executes ⊢
    by_cases zero : order.executedSell = 0
    · rw [executes, zero]
      simp [counterAmount]
    · exact counterAmount_sell _ zero
  | buy =>
    simp only [side] at executes ⊢
    by_cases zero : order.executedBuy = 0
    · rw [executes, zero]
      simp [counterAmount]
    · exact counterAmount_buy _ zero

theorem calculateCustomPrices_eq_ok {fee : U256} {next : ClearingPrices}
    (returned : calculateCustomPrices order fee prices = .ok next)
    (nonzero : next.divisor order.side ≠ 0) :
    order.tradedAt next = withoutFee order.side (order.tradedAt prices) fee.toNat := by
  obtain ⟨sold, sells, returned⟩ := bind_eq_ok_iff.mp returned
  obtain ⟨bought, buys, returned⟩ := bind_eq_ok_iff.mp returned
  cases side : order.side with
  | sell =>
    simp only [sellAmount, buyAmount, side, ok.injEq] at sells buys returned
    have traded : bought.toNat = counterAmount .sell _ _ _ := (mulCeilDiv_eq_ok buys).2
    obtain ⟨_, added, returned⟩ := bind_eq_ok_iff.mp returned
    obtain rfl := ok.inj returned
    rw [okOr_eq_ok_iff, U256.checkedAdd_eq_some_iff] at added
    subst sells
    rw [side] at nonzero
    change order.executedSell ≠ 0 at nonzero
    simp only [Order.tradedAt, Order.executed, side, withoutFee]
    rw [counterAmount_sell _ nonzero, added, traded]
  | buy =>
    simp only [sellAmount, buyAmount, side, ok.injEq] at sells buys returned
    have traded : sold.toNat = counterAmount .buy _ _ _ := (mulDiv_eq_ok sells).2
    obtain ⟨_, subtracted, returned⟩ := bind_eq_ok_iff.mp returned
    obtain rfl := ok.inj returned
    rw [okOr_eq_ok_iff, U256.checkedSub_eq_some_iff] at subtracted
    subst buys
    rw [side] at nonzero
    change order.executedBuy ≠ 0 at nonzero
    simp only [Order.tradedAt, Order.executed, side, withoutFee]
    rw [counterAmount_buy _ nonzero]
    omega

end

section

variable {F : Type} [Factor F]

variable {factor : F}

theorem times_of_checkedMul {amount result : U256}
    (multiplied : Factor.checkedMul amount factor = some result) :
    ExactTrade.times amount.toNat factor = result.toNat := by
  simp [ExactTrade.times, multiplied]

variable {fee : U256} {policy : FeePolicy F}

theorem surplusFee_eq_ok (returned : surplusFee surplus factor = .ok fee) :
    fee.toNat = ExactTrade.times surplus.toNat (factor / (1 - factor)) :=
  (times_of_checkedMul (okOr_eq_ok_iff.mp returned)).symm

def volumeShare (side : Side) (factor : F) : F :=
  match side with
  | .sell => factor / (1 - factor)
  | .buy => factor / (1 + factor)

theorem volumeFee_eq (factor : F) : volumeFee order prices factor = (do
      let traded ← order.checkedTraded prices
      .okOr .overflow (Factor.checkedMul traded (volumeShare order.side factor))) := by
  unfold volumeFee buyAmount sellAmount Order.checkedTraded volumeShare
  cases order.side <;> rfl

theorem volumeFee_eq_ok (returned : volumeFee order prices factor = .ok fee) :
    prices.divisor order.side ≠ 0 ∧
      fee.toNat = order.exactTrade.volumeFee factor (order.tradedAt prices) := by
  rw [volumeFee_eq] at returned
  obtain ⟨_, trades, returned⟩ := bind_eq_ok_iff.mp returned
  obtain ⟨nonzero, trades⟩ := checkedTraded_eq_ok trades
  refine ⟨nonzero, ?_⟩
  rw [← trades, ← times_of_checkedMul (okOr_eq_ok_iff.mp returned)]
  unfold ExactTrade.volumeFee Order.exactTrade volumeShare
  cases order.side <;> rfl

theorem cappedShare_eq_ok {ε : Type} {gain cap : Outcome ε U256}
    {share : U256 → Outcome ε U256} {exactGain exactCap : Nat} {defined : Prop} (returned : (do
      let value ← gain
      let cut ← share value
      let bound ← cap
      return Min.min cut bound) = .ok fee)
    (gained : ∀ value, gain = .ok value → value.toNat = exactGain)
    (shared : ∀ value cut, share value = .ok cut →
      cut.toNat = ExactTrade.times value.toNat (factor / (1 - factor)))
    (capped : ∀ value, cap = .ok value → defined ∧ value.toNat = exactCap) :
    defined ∧ fee.toNat = min (ExactTrade.times exactGain (factor / (1 - factor))) exactCap := by
  obtain ⟨value, gains, returned⟩ := bind_eq_ok_iff.mp returned
  obtain ⟨cut, shares, returned⟩ := bind_eq_ok_iff.mp returned
  obtain ⟨bound, caps, returned⟩ := bind_eq_ok_iff.mp returned
  obtain rfl := ok.inj returned
  obtain ⟨holds, bounded⟩ := capped bound caps
  refine ⟨holds, ?_⟩
  rw [U256.toNat_min, bounded, shared value cut shares, gained value gains]

theorem protocolFee_eq_ok
    (returned : protocolFee order policy prices = .ok fee) :
    prices.divisor order.side ≠ 0 ∧
      fee.toNat = order.exactTrade.policyFee (order.tradedAt prices) policy := by
  cases policy with
  | surplus factor maxVolumeFactor =>
    exact cappedShare_eq_ok returned (fun _ gained => (surplusOver_eq_ok gained).2)
      (fun _ _ => surplusFee_eq_ok) (fun _ => volumeFee_eq_ok)
  | priceImprovement factor maxVolumeFactor quote =>
    exact cappedShare_eq_ok returned (fun _ => priceImprovementOverQuote_eq_ok)
      (fun _ _ => surplusFee_eq_ok) (fun _ => volumeFee_eq_ok)
  | volume factor => exact volumeFee_eq_ok returned

/-! ## Undoing all policies -/

variable (order prices) in
/-- The state of the loop over the policies: what the policies still to come
add to the total, and what the current prices trade. -/
structure Unwinds (policies : List (FeePolicy F)) (result : Nat) (total : U256)
    (current : ClearingPrices) : Prop where
  result_eq : policies.foldr (order.exactTrade.addFee (order.tradedAt prices)) total.toNat = result
  tradedAt_current : policies ≠ [] → current.divisor order.side ≠ 0 →
    order.tradedAt current = withoutFee order.side (order.tradedAt prices) total.toNat

theorem Unwinds.start (policies : List (FeePolicy F)) : Unwinds order prices policies
      (order.exactTrade.totalFee (order.tradedAt prices) policies) 0 prices where
  result_eq := rfl
  tradedAt_current _ _ := by
    unfold withoutFee
    cases order.side <;> rfl

variable {total : U256} {context : AuctionContext F}

/-- One round of the loop.  The prices after the round only matter when
another one follows. -/
theorem Unwinds.step {policies : List (FeePolicy F)}
    {result : Nat} {next : U256} {current following : ClearingPrices}
    (unwinds : Unwinds order prices (policies ++ [policy]) result total current)
    (nonzero : current.divisor order.side ≠ 0)
    (charged : fee.toNat = order.exactTrade.policyFee (order.tradedAt current) policy)
    (added : total.checkedAdd fee = some next)
    (repriced : policies ≠ [] → calculateCustomPrices order next prices = .ok following) :
    Unwinds order prices policies result next following := by
  have traded := unwinds.tradedAt_current (by simp) nonzero
  rw [U256.checkedAdd_eq_some_iff] at added
  refine ⟨?_, fun more nonzero =>
    calculateCustomPrices_eq_ok (repriced more) nonzero⟩
  rw [← unwinds.result_eq, List.foldr_append, added, charged, traded]
  rfl

theorem Unwinds.finish {result : Nat} {current : ClearingPrices}
    (unwinds : Unwinds (F := F) order prices [] result total current) :
    total.toNat = result :=
  unwinds.result_eq

theorem protocolFees_eq_ok
    (returned : protocolFees order context prices = .ok total) :
    total.toNat = order.exactTrade.totalFee (order.tradedAt prices)
      ((context.feePolicies order.uid).getD []) := by
  obtain ⟨⟨total', current⟩, looped, returned⟩ := bind_eq_ok_iff.mp returned
  obtain rfl : total' = total := ok.inj returned
  refine (foldlM_zipIdx_reverse_induction
    (fun policies state => Unwinds order prices policies _ state.1 state.2)
    ?_ (Unwinds.start _) looped).finish
  rintro earlier policy ⟨total, current⟩ ⟨next, following⟩ unwinds stepped
  obtain ⟨fee, charged, stepped⟩ := bind_eq_ok_iff.mp stepped
  obtain ⟨sum, added, stepped⟩ := bind_eq_ok_iff.mp stepped
  rw [okOr_eq_ok_iff] at added
  obtain ⟨nonzero, charged⟩ := protocolFee_eq_ok (mapError_eq_ok_iff.mp charged)
  split at stepped
  · obtain ⟨repriced, calculated, stepped⟩ := bind_eq_ok_iff.mp stepped
    obtain ⟨rfl, rfl⟩ := Prod.mk.inj (ok.inj stepped)
    rw [mapError_eq_ok_iff] at calculated
    exact unwinds.step nonzero charged added fun _ => calculated
  · rename_i first
    obtain ⟨rfl, rfl⟩ := Prod.mk.inj (ok.inj stepped)
    exact unwinds.step nonzero charged added fun more =>
      absurd (List.length_pos_iff.mpr more).ne' first

theorem computeOrderScore_eq_ok {clearingPrices : Address → Option U256} {score : U256}
    (returned : computeOrderScore order clearingPrices context = .ok score) :
    ∃ price amount, context.nativePrices order.buyToken = some price ∧
      amount.toNat = order.exactTrade.scoredAmount
        (order.tradedAt (calculateCustomPricesFromExecuted order))
          ((context.feePolicies order.uid).getD []) ∧
      score = priceInEth price amount := by
  obtain ⟨price, priced, returned⟩ := bind_eq_ok_iff.mp returned
  obtain ⟨_, _, returned⟩ := bind_eq_ok_iff.mp returned
  obtain ⟨_, _, returned⟩ := bind_eq_ok_iff.mp returned
  obtain ⟨_, gained, returned⟩ := bind_eq_ok_iff.mp returned
  obtain ⟨_, taken, returned⟩ := bind_eq_ok_iff.mp returned
  obtain ⟨total, added, returned⟩ := bind_eq_ok_iff.mp returned
  have gained := (surplusOver_eq_ok (mapError_eq_ok_iff.mp gained)).2
  have taken := protocolFees_eq_ok taken
  rw [okOr_eq_ok_iff, U256.checkedAdd_eq_some_iff, gained, taken] at added
  refine ⟨price, ?_⟩
  rw [ExactTrade.scoredAmount]
  cases side : order.side with
  | sell =>
    rw [side] at returned
    exact ⟨total, okOr_eq_ok_iff.mp priced,
      by simpa [ExactTrade.inBuyTokens, Order.exactTrade, side] using added,
      (ok.inj returned).symm⟩
  | buy =>
    rw [side] at returned
    obtain ⟨_, _, returned⟩ := bind_eq_ok_iff.mp returned
    obtain ⟨_, fits, returned⟩ := bind_eq_ok_iff.mp returned
    rw [rejectIf_eq_ok_iff, not_le] at fits
    refine ⟨_, okOr_eq_ok_iff.mp priced, ?_, (ok.inj returned).symm⟩
    rw [toNat_ofNat, Nat.mod_eq_of_lt fits, added]
    simp [ExactTrade.inBuyTokens, Order.exactTrade, side]

end

end MandateSolver.WinnerSelection
