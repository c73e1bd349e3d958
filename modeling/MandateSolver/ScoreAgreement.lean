import MandateSolver.Autopilot.Transaction
import MandateSolver.Driver.Scoring
import MandateSolver.WinnerSelection.ExactFees

/-!
# Driver, arbitrator and autopilot agree on surplus and fees

The driver and the autopilot know the custom prices of a trade, the arbitrator only the
executed amounts.  Whatever they return are the same exact numbers.
-/

namespace MandateSolver

open Outcome BitVec

variable (limits : PriceLimits)

namespace TradeMath

open WinnerSelection (ClearingPrices PriceLimits Quote)

variable (order : WinnerSelection.Order) (prices : ClearingPrices)

/-! ## The arithmetic of the services is the arbitrator's -/

theorem surplusOver_eq : surplusOver order.side order.executed prices limits =
      WinnerSelection.surplusOver order prices limits := by
  unfold surplusOver WinnerSelection.surplusOver WinnerSelection.Order.executed
  cases order.side <;> rfl

theorem sellAmount_eq : sellAmount order.side order.executed prices =
      WinnerSelection.sellAmount order prices := by
  unfold sellAmount WinnerSelection.sellAmount WinnerSelection.Order.executed
  cases order.side <;> rfl

theorem buyAmount_eq : buyAmount order.side order.executed prices =
      WinnerSelection.buyAmount order prices := by
  unfold buyAmount WinnerSelection.buyAmount WinnerSelection.Order.executed
  cases order.side <;> rfl

/-- The arbitrator computes both amounts first, which changes nothing since one
of them is the executed amount. -/
theorem calculateCustomPrices_eq (protocolFee : U256) :
    calculateCustomPrices order.side order.executed protocolFee prices =
      WinnerSelection.calculateCustomPrices order protocolFee prices := by
  unfold calculateCustomPrices WinnerSelection.calculateCustomPrices
  rw [sellAmount_eq, buyAmount_eq]
  unfold WinnerSelection.sellAmount WinnerSelection.buyAmount
  cases order.side <;> rfl

theorem volumeFee_eq {F : Type} [Factor F] (factor : F) :
    volumeFee order.side order.executed prices factor =
      WinnerSelection.volumeFee order prices factor := by
  unfold volumeFee WinnerSelection.volumeFee
  rw [sellAmount_eq, buyAmount_eq]
  cases order.side <;> rfl

end TradeMath

/-! ## One execution, three views -/

open WinnerSelection

/-- The policy as autopilot and arbitrator have it, where the quote is only made
of amounts. -/
def Driver.FeePolicy.amounts {F : Type} : Driver.FeePolicy F → WinnerSelection.FeePolicy F
  | .surplus factor maxVolumeFactor => .surplus factor maxVolumeFactor
  | .priceImprovement factor maxVolumeFactor quote =>
    .priceImprovement factor maxVolumeFactor ⟨quote.sell.amount, quote.buy.amount, quote.fee.amount⟩
  | .volume factor => .volume factor

/-- An order that was executed at some custom prices, with the amount of the
other token that the settlement contract computes. -/
structure Execution (F : Type) where
  uid : OrderUid
  (sell buy : Asset)
  side : WinnerSelection.Side
  executed : U256
  (uniform custom : ClearingPrices)
  policies : List (Driver.FeePolicy F)
  counter : U256
  counter_eq : counter.toNat = counterAmount side executed.toNat custom.sell.toNat custom.buy.toNat

namespace Execution

variable {F : Type}

section

variable (execution : Execution F)

/-- As the driver sees it. -/
def driverTrade : Driver.Scoring.Trade F where
  signedSell := execution.sell
  signedBuy := execution.buy
  side := execution.side
  executed := execution.executed
  customPrice := execution.custom
  policies := execution.policies

/-- As the autopilot decodes it. -/
def settledTrade : Autopilot.Settlement.Trade where
  uid := execution.uid
  sell := execution.sell
  buy := execution.buy
  side := execution.side
  executed := execution.executed
  prices := ⟨execution.uniform, execution.custom⟩

/-- As the arbitrator sees it. -/
def order : Order where
  uid := execution.uid
  sellToken := execution.sell.token
  buyToken := execution.buy.token
  sellAmount := execution.sell.amount
  buyAmount := execution.buy.amount
  executedSell := match execution.side with
    | .sell => execution.executed
    | .buy => execution.counter
  executedBuy := match execution.side with
    | .sell => execution.counter
    | .buy => execution.executed
  side := execution.side

end

variable (execution : Execution F)

@[simp] theorem executed_order : execution.order.executed = execution.executed := by
  unfold Order.executed order
  cases execution.side <;> rfl

theorem tradedAt_custom : execution.order.tradedAt execution.custom = execution.counter.toNat := by
  unfold Order.tradedAt
  rw [executed_order, execution.counter_eq]
  rfl

theorem tradedAt_executed : execution.order.tradedAt
        (calculateCustomPricesFromExecuted execution.order) =
      execution.order.tradedAt execution.custom := by
  apply tradedAt_calculateCustomPricesFromExecuted
  rw [tradedAt_custom]
  unfold Order.counterExecuted order
  cases execution.side <;> rfl

/-! ## The driver -/

def driverTradeAt (prices : ClearingPrices) : Driver.Scoring.Trade F :=
  { execution.driverTrade with customPrice := prices }

variable (prices : ClearingPrices)

theorem driver_surplusOver_eq : (execution.driverTradeAt prices).surplusOver limits =
      surplusOver execution.order prices limits := by
  rw [← TradeMath.surplusOver_eq, executed_order]
  rfl

theorem driver_userSurplus_eq : (execution.driverTradeAt prices).userSurplus =
      (surplusOverLimitPrice execution.order prices).mapError
        .math := by
  unfold Driver.Scoring.Trade.userSurplus
  rw [driver_surplusOver_eq]
  rfl

variable {execution} in
theorem driver_userSurplus_eq_ok {surplus : U256}
    (returned : execution.driverTrade.userSurplus = .ok surplus) :
    surplus.toNat = execution.order.exactTrade.surplusOver
      execution.sell.amount.toNat execution.buy.amount.toNat
        (execution.order.tradedAt execution.custom) := by
  have gained := (execution.driver_userSurplus_eq _).symm.trans returned
  rw [mapError_eq_ok_iff] at gained
  exact (surplusOver_eq_ok gained).2

theorem driver_calculateCustomPrices_eq (fee : U256) :
    (execution.driverTradeAt prices).calculateCustomPrices fee =
      calculateCustomPrices execution.order fee prices := by
  rw [← TradeMath.calculateCustomPrices_eq, executed_order]
  rfl

theorem driver_priceImprovement_eq (quote : Driver.Quote) :
    (execution.driverTradeAt prices).priceImprovement quote =
      (priceImprovementOverQuote execution.order prices
        ⟨quote.sell.amount, quote.buy.amount, quote.fee.amount⟩).mapError
          .math := by
  unfold Driver.Scoring.Trade.priceImprovement priceImprovementOverQuote
  rw [mapError_bind]
  congr 1
  funext limits
  rw [driver_surplusOver_eq]
  generalize surplusOver execution.order prices limits = surplus
  cases surplus with
  | ok value => rfl
  | err error => cases error <;> rfl
  | panic reason => rfl

section

variable [Factor F]

theorem driver_volumeFee_eq (factor : F) : (execution.driverTradeAt prices).volumeFee factor =
      (volumeFee execution.order prices factor).mapError
        .math := by
  rw [← TradeMath.volumeFee_eq, executed_order]
  rfl

theorem driver_protocolFee_eq (policy : Driver.FeePolicy F) :
    (execution.driverTradeAt prices).protocolFee policy =
      (protocolFee execution.order policy.amounts prices).mapError .math := by
  cases policy with
  | surplus factor maxVolumeFactor =>
    simp only [Driver.Scoring.Trade.protocolFee, protocolFee,
      Driver.FeePolicy.amounts, mapError_bind, driver_userSurplus_eq,
      driver_volumeFee_eq]
    rfl
  | priceImprovement factor maxVolumeFactor quote =>
    simp only [Driver.Scoring.Trade.protocolFee, protocolFee,
      Driver.FeePolicy.amounts, mapError_bind,
      driver_priceImprovement_eq, driver_volumeFee_eq]
    rfl
  | volume factor => exact execution.driver_volumeFee_eq prices factor

variable {execution} in
theorem driver_fees_eq_ok {total : U256} (returned : execution.driverTrade.fees = .ok total) :
    total.toNat = execution.order.exactTrade.totalFee
      (execution.order.tradedAt execution.custom) (execution.policies.map (·.amounts)) := by
  obtain ⟨⟨total', current⟩, looped, returned⟩ := bind_eq_ok_iff.mp returned
  obtain rfl : total' = total := ok.inj returned
  have unwound := foldlM_reverse_induction
    (fun policies state => ∃ prices, state.2 = execution.driverTradeAt prices ∧
      Unwinds execution.order execution.custom (policies.map (·.amounts)) _ state.1 prices)
    ?_ ⟨_, rfl, .start _⟩ looped
  · obtain ⟨_, _, unwinds⟩ := unwound
    exact unwinds.finish
  · rintro _ _ ⟨total, current⟩ ⟨_, _⟩ ⟨prices, rfl, unwinds⟩ stepped
    obtain ⟨_, charged, stepped⟩ := bind_eq_ok_iff.mp stepped
    obtain ⟨_, added, stepped⟩ := bind_eq_ok_iff.mp stepped
    obtain ⟨repriced, calculated, stepped⟩ := bind_eq_ok_iff.mp stepped
    obtain ⟨rfl, rfl⟩ := Prod.mk.inj (ok.inj stepped)
    rw [driver_protocolFee_eq, mapError_eq_ok_iff] at charged
    rw [okOr_eq_ok_iff] at added
    rw [mapError_eq_ok_iff] at calculated
    rw [List.map_append] at unwinds
    obtain ⟨nonzero, charged⟩ := protocolFee_eq_ok charged
    refine ⟨repriced, rfl, unwinds.step nonzero charged added fun _ => ?_⟩
    exact (execution.driver_calculateCustomPrices_eq _ _).symm.trans calculated

variable {execution} in
theorem driver_score_eq_ok {nativePrices : TokenAddress → Option U256} {score : U256}
    (returned : execution.driverTrade.score nativePrices = .ok score) :
    ∃ price amount, nativePrices execution.buy.token = some price ∧
      execution.driverTrade.surplusInBuyTokens = .ok amount ∧
      amount.toNat = execution.order.exactTrade.scoredAmount
        (execution.order.tradedAt execution.custom) (execution.policies.map (·.amounts)) ∧
      score = Driver.Scoring.inEth price amount := by
  obtain ⟨price, priced, returned⟩ := bind_eq_ok_iff.mp returned
  obtain ⟨amount, converted, returned⟩ := bind_eq_ok_iff.mp returned
  refine ⟨price, amount, okOr_eq_ok_iff.mp priced, converted, ?_, (ok.inj returned).symm⟩
  obtain ⟨_, summed, converted⟩ := bind_eq_ok_iff.mp converted
  obtain ⟨_, gained, summed⟩ := bind_eq_ok_iff.mp summed
  obtain ⟨_, taken, added⟩ := bind_eq_ok_iff.mp summed
  rw [okOr_eq_ok_iff, U256.checkedAdd_eq_some_iff,
    driver_userSurplus_eq_ok gained, driver_fees_eq_ok taken] at added
  rw [ExactTrade.scoredAmount]
  change (match execution.side with | .sell => _ | .buy => _) = _ at converted
  cases side : execution.side with
  | sell =>
    rw [side] at converted
    obtain rfl := ok.inj converted
    simpa [ExactTrade.inBuyTokens, order, Order.exactTrade, side] using added
  | buy =>
    rw [side] at converted
    obtain ⟨_, _, converted⟩ := bind_eq_ok_iff.mp converted
    obtain ⟨_, fits, converted⟩ := bind_eq_ok_iff.mp converted
    rw [rejectIf_eq_ok_iff, not_le] at fits
    obtain rfl := ok.inj converted
    rw [toNat_ofNat, Nat.mod_eq_of_lt fits, added]
    simp [ExactTrade.inBuyTokens, order, driverTrade, Order.exactTrade, side]

end

/-! ## The autopilot -/

def settledTradeAt (prices : ClearingPrices) : Autopilot.Settlement.Trade :=
  { execution.settledTrade with prices := ⟨execution.uniform, prices⟩ }

theorem settled_surplusOver_eq : (execution.settledTradeAt prices).surplusOver prices limits =
      surplusOver execution.order prices limits := by
  rw [← TradeMath.surplusOver_eq, executed_order]
  rfl

theorem settled_calculateCustomPrices_eq (fee : U256) :
    (execution.settledTradeAt prices).calculateCustomPrices fee =
      calculateCustomPrices execution.order fee prices := by
  rw [← TradeMath.calculateCustomPrices_eq, executed_order]
  rfl

variable {execution prices} in
theorem settled_surplusOverLimitPrice_eq_ok {surplus : U256}
    (returned : (execution.settledTradeAt prices).surplusOverLimitPrice = .ok surplus) :
    surplus.toNat = execution.order.exactTrade.surplusOver
      execution.sell.amount.toNat execution.buy.amount.toNat (execution.order.tradedAt prices) := by
  have gained := (execution.settled_surplusOver_eq _ _).symm.trans returned
  exact (surplusOver_eq_ok gained).2

variable {execution prices} in
/-- A quote that cannot be adjusted because its fee is too large gives no
improvement here, where the other two services fail. -/
theorem settled_priceImprovement_eq_ok {quote : Quote} {improvement : U256}
    (returned : (execution.settledTradeAt prices).priceImprovement quote = .ok improvement) :
    improvement.toNat = execution.order.exactTrade.improvement quote
      (execution.order.tradedAt prices) := by
  have overQuote : (execution.settledTradeAt prices).surplusOverQuote quote = (do
        let limits ←
          adjustQuoteToOrderLimits execution.order quote
        surplusOver execution.order prices limits) := by
    simp only [← settled_surplusOver_eq]
    rfl
  unfold Autopilot.Settlement.Trade.priceImprovement at returned
  split at returned
  · rename_i negative
    obtain rfl := ok.inj returned
    rw [overQuote] at negative
    rcases bind_eq_err_iff.mp negative with
      failed | ⟨limits, adjusted, negative⟩
    · have outquoted := adjustQuoteToOrderLimits_eq_negative failed
      rw [ExactTrade.improvement, if_pos outquoted]
      rfl
    · exact (improvement_of_negative adjusted negative).symm
  · rw [overQuote, mapError_eq_ok_iff] at returned
    obtain ⟨limits, adjusted, gained⟩ := bind_eq_ok_iff.mp returned
    exact improvement_of_surplusOver adjusted gained

section

variable [Factor F]

variable {execution prices} in
theorem settled_volumeFee_eq_ok {factor : F} {fee : U256}
    (returned : (execution.settledTradeAt prices).volumeFee factor = .ok fee) :
    prices.divisor execution.order.side ≠ 0 ∧
      fee.toNat = execution.order.exactTrade.volumeFee factor
        (execution.order.tradedAt prices) := by
  have taken := mapError_eq_ok_iff.mp returned
  have same := TradeMath.volumeFee_eq execution.order prices factor
  rw [executed_order] at same
  exact volumeFee_eq_ok (same.symm.trans taken)

theorem settled_surplusFee_eq_ok {surplus fee : U256} {factor : F}
    (returned : Autopilot.Settlement.Trade.surplusFee surplus factor = .ok fee) :
    fee.toNat = ExactTrade.times surplus.toNat (factor / (1 - factor)) :=
  surplusFee_eq_ok (mapError_eq_ok_iff.mp returned)

variable {execution prices} in
theorem settled_protocolFee_eq_ok {policy : FeePolicy F} {fee : U256}
    (returned : (execution.settledTradeAt prices).protocolFee policy = .ok fee) :
    prices.divisor execution.order.side ≠ 0 ∧ fee.toNat = execution.order.exactTrade.policyFee
        (execution.order.tradedAt prices) policy := by
  cases policy with
  | surplus factor maxVolumeFactor =>
    exact cappedShare_eq_ok returned
      (fun _ gained => settled_surplusOverLimitPrice_eq_ok (mapError_eq_ok_iff.mp gained))
      (fun _ _ => settled_surplusFee_eq_ok) (fun _ => settled_volumeFee_eq_ok)
  | priceImprovement factor maxVolumeFactor quote =>
    exact cappedShare_eq_ok returned (fun _ => settled_priceImprovement_eq_ok)
      (fun _ _ => settled_surplusFee_eq_ok) (fun _ => settled_volumeFee_eq_ok)
  | volume factor => exact settled_volumeFee_eq_ok returned

variable {execution} in
/-- The listed fees add up to the total of the loop. -/
theorem settled_protocolFees_eq_ok {feePolicies : OrderUid → Option (List (FeePolicy F))}
    {fees : List (Autopilot.Settlement.ExecutedProtocolFee F)}
    (returned : execution.settledTrade.protocolFees feePolicies = .ok fees) :
    (fees.map (·.fee.amount.toNat)).sum = execution.order.exactTrade.totalFee
        (execution.order.tradedAt execution.custom) ((feePolicies execution.uid).getD []) := by
  obtain ⟨⟨total, current, listed⟩, looped, returned⟩ := bind_eq_ok_iff.mp returned
  obtain rfl := ok.inj returned
  have unwound := foldlM_zipIdx_reverse_induction (fun policies state => ∃ prices,
      state.2.1 = execution.settledTradeAt prices ∧
      (state.2.2.map (·.fee.amount.toNat)).sum = state.1.toNat ∧
      Unwinds execution.order execution.custom policies _ state.1 prices)
    ?_ ⟨_, rfl, rfl, .start _⟩ looped
  · obtain ⟨_, _, sum, unwinds⟩ := unwound
    rw [List.map_reverse, List.sum_reverse, sum]
    exact unwinds.finish
  · rintro earlier policy ⟨total, current, fees⟩ ⟨next, following, listed⟩
      ⟨prices, rfl, sum, unwinds⟩ stepped
    obtain ⟨fee, charged, stepped⟩ := bind_eq_ok_iff.mp stepped
    obtain ⟨raised, added, stepped⟩ := bind_eq_ok_iff.mp stepped
    rw [okOr_eq_ok_iff] at added
    obtain ⟨nonzero, charged⟩ := settled_protocolFee_eq_ok charged
    have sum' : ((fees ++ [Autopilot.Settlement.ExecutedProtocolFee.mk policy
        ⟨fee, execution.settledTrade.surplusToken⟩]).map
          (·.fee.amount.toNat)).sum = raised.toNat := by
      rw [List.map_append, U256.checkedAdd_eq_some_iff.mp added]
      simpa using sum
    split at stepped
    · obtain ⟨repriced, calculated, stepped⟩ := bind_eq_ok_iff.mp stepped
      obtain ⟨rfl, same⟩ := Prod.mk.inj (ok.inj stepped)
      obtain ⟨rfl, rfl⟩ := Prod.mk.inj same
      rw [mapError_eq_ok_iff] at calculated
      refine ⟨repriced, rfl, sum', unwinds.step nonzero charged added fun _ => ?_⟩
      exact (execution.settled_calculateCustomPrices_eq _ _).symm.trans calculated
    · rename_i first
      obtain ⟨rfl, same⟩ := Prod.mk.inj (ok.inj stepped)
      obtain ⟨rfl, rfl⟩ := Prod.mk.inj same
      exact ⟨prices, rfl, sum', unwinds.step nonzero charged added fun more =>
        absurd (List.length_pos_iff.mpr more).ne' first⟩

/-! ## Agreement -/

theorem inEth_eq_priceInEth {price amount : U256} (fits : amount.toNat * price.toNat < 2 ^ 256) :
    Driver.Scoring.inEth price amount = priceInEth price amount := by
  unfold Driver.Scoring.inEth priceInEth U256.saturatingMul U256.checkedMul
  rw [if_pos fits, Option.getD_some]

/-- Whatever the three services return for an execution is the same.  The
autopilot lists the fees of the policies, the others only have their sum. -/
theorem services_agree (execution : Execution F) (context : AuctionContext F)
    (feePolicies : OrderUid → Option (List (FeePolicy F)))
    (nativePrices : TokenAddress → Option U256) (clearingPrices : Address → Option U256)
    (arbitrated : (context.feePolicies execution.uid).getD [] = execution.policies.map (·.amounts))
    (settled : (feePolicies execution.uid).getD [] = execution.policies.map (·.amounts))
    (priced : nativePrices execution.buy.token = context.nativePrices execution.buy.token) :
    (∀ driven judged observed, execution.driverTrade.userSurplus = .ok driven →
      surplusOverLimitPrice execution.order
        (calculateCustomPricesFromExecuted execution.order) = .ok judged →
      execution.settledTrade.surplusOverLimitPrice = .ok observed →
        driven = judged ∧ judged = observed) ∧
    (∀ driven judged observed, execution.driverTrade.fees = .ok driven →
      protocolFees execution.order context
        (calculateCustomPricesFromExecuted execution.order) = .ok judged →
      execution.settledTrade.protocolFees feePolicies = .ok observed → driven = judged ∧
          judged.toNat = (observed.map (·.fee.amount.toNat)).sum) ∧
    (∀ driven judged, execution.driverTrade.score nativePrices = .ok driven →
      computeOrderScore execution.order clearingPrices context = .ok judged →
      (∀ amount price, execution.driverTrade.surplusInBuyTokens = .ok amount →
        nativePrices execution.buy.token = some price → amount.toNat * price.toNat < 2 ^ 256) →
        driven = judged) := by
  refine ⟨?_, ?_, ?_⟩
  · intro driven judged observed drove judging observing
    have drove := driver_userSurplus_eq_ok drove
    have judging := (surplusOver_eq_ok judging).2
    rw [tradedAt_executed] at judging
    have observing := settled_surplusOverLimitPrice_eq_ok observing
    exact ⟨eq_of_toNat_eq (drove.trans judging.symm), eq_of_toNat_eq (judging.trans observing.symm)⟩
  · intro driven judged observed drove judging observing
    have drove := driver_fees_eq_ok drove
    have judging := protocolFees_eq_ok judging
    have observing := settled_protocolFees_eq_ok observing
    rw [show execution.order.uid = execution.uid from rfl, arbitrated, tradedAt_executed] at judging
    rw [settled] at observing
    exact ⟨eq_of_toNat_eq (drove.trans judging.symm), judging.trans observing.symm⟩
  · intro driven judged drove judging fits
    obtain ⟨price, amount, found, converted, amount_eq, rfl⟩ := driver_score_eq_ok drove
    obtain ⟨_, _, found', amount_eq', rfl⟩ := computeOrderScore_eq_ok judging
    have samePrice := Option.some.inj (found.symm.trans (priced.trans found'))
    rw [show execution.order.uid = execution.uid from rfl, arbitrated,
      tradedAt_executed] at amount_eq'
    have sameAmount := eq_of_toNat_eq (amount_eq.trans amount_eq'.symm)
    subst samePrice sameAmount
    exact inEth_eq_priceInEth (fits amount price converted found)

def quotedExecution : Execution ℚ where
  uid := ⟨1, 5, 0⟩
  sell := ⟨1000, 1⟩
  buy := ⟨900, 2⟩
  side := .sell
  executed := 1000
  uniform := ⟨96, 100⟩
  custom := ⟨95, 100⟩
  policies := [.surplus (1 / 2) (1 / 10),
    .priceImprovement (1 / 2) (1 / 10) ⟨⟨1000, 1⟩, ⟨945, 2⟩, ⟨10, 1⟩⟩,
    .volume (1 / 100)]
  counter := 950
  counter_eq := by decide

def quotedContext : AuctionContext ℚ where
  feePolicies := fun _ => some (quotedExecution.policies.map (·.amounts))
  surplusCapturingJitOrderOwners := fun _ => false
  nativePrices := fun _ => some 1000000000000000000

theorem services_agree_quotedExecution : ∃ total observed score,
      quotedExecution.driverTrade.fees = .ok total ∧
      protocolFees quotedExecution.order quotedContext
        (calculateCustomPricesFromExecuted quotedExecution.order) = .ok total ∧
      quotedExecution.settledTrade.protocolFees quotedContext.feePolicies = .ok observed ∧
      total.toNat = (observed.map (·.fee.amount.toNat)).sum ∧
      quotedExecution.driverTrade.score quotedContext.nativePrices = .ok score ∧
      computeOrderScore quotedExecution.order (fun _ => some 1) quotedContext = .ok score := by
  obtain ⟨_, fees, scores⟩ := services_agree quotedExecution quotedContext
    quotedContext.feePolicies quotedContext.nativePrices (fun _ => some 1)
    rfl rfl rfl
  have drove : quotedExecution.driverTrade.fees = .ok 114 := by decide +kernel
  have scored : quotedExecution.driverTrade.score quotedContext.nativePrices =
      .ok 164 := by decide +kernel
  have judges : (protocolFees quotedExecution.order quotedContext
      (calculateCustomPricesFromExecuted quotedExecution.order)).toOption.isSome := by
    decide +kernel
  have settles : (quotedExecution.settledTrade.protocolFees
      quotedContext.feePolicies).toOption.isSome := by decide +kernel
  have computes : (computeOrderScore quotedExecution.order (fun _ => some 1)
      quotedContext).toOption.isSome := by decide +kernel
  obtain ⟨judged, judging⟩ := Option.isSome_iff_exists.mp judges
  obtain ⟨observed, observing⟩ := Option.isSome_iff_exists.mp settles
  obtain ⟨score, computed⟩ := Option.isSome_iff_exists.mp computes
  rw [toOption_eq_some_iff] at judging observing computed
  have fits : ∀ amount price, quotedExecution.driverTrade.surplusInBuyTokens = .ok amount →
        quotedContext.nativePrices quotedExecution.buy.token = some price →
          amount.toNat * price.toNat < 2 ^ 256 := by
    intro amount price converted found
    have value : quotedExecution.driverTrade.surplusInBuyTokens = .ok 164 := by
      decide +kernel
    obtain rfl := ok.inj (value.symm.trans converted)
    obtain rfl := Option.some.inj found
    decide
  obtain ⟨sameFees, listed⟩ := fees _ _ _ drove judging observing
  have sameScore := scores _ _ scored computed fits
  exact ⟨judged, observed, score, sameFees ▸ drove, judging, observing, listed,
    sameScore ▸ scored, computed⟩

end

end Execution

end MandateSolver
