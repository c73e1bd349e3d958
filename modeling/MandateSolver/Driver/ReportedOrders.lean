import MandateSolver.Driver.Solution
import MandateSolver.WinnerSelection.ExactFees

/-!
# The amounts reported for a settlement

The report has one entry for each order, and every trade of an order replaces the entry of
the trades before it.
-/

namespace MandateSolver.Driver

open Outcome List

open WinnerSelection (OrderUid asErc20 ClearingPrices MathError mulDiv
  mulCeilDiv noPanic_mulDiv noPanic_mulCeilDiv mulDiv_eq_ok_iff
  mulCeilDiv_eq_ok_iff)

variable {ε F : Type} {solution : Solution F} {owners : Address → Bool} {feeHandler : FeeHandler}
  {parts : Solution F}

/-! ## Trades -/

namespace Jit

def executedBuy (jit : Jit) : Outcome MathError U256 :=
  match jit.order.side with
  | .buy => .ok jit.executed
  | .sell => do
    let executed ← .okOr .overflow (jit.executed.checkedAdd jit.fee)
    mulCeilDiv executed jit.order.buy.amount jit.order.sell.amount

def executedSell (jit : Jit) : Outcome MathError U256 :=
  match jit.order.side with
  | .buy => mulDiv jit.executed jit.order.sell.amount jit.order.buy.amount
  | .sell => .okOr .overflow (jit.executed.checkedAdd jit.fee)

end Jit

def Trade.uid : Trade F → OrderUid
  | .fulfillment filled | .jit filled => filled.order.uid

def Trade.side : Trade F → WinnerSelection.Side
  | .fulfillment filled | .jit filled => filled.order.side

def Trade.sell : Trade F → Asset
  | .fulfillment filled | .jit filled => filled.order.sell

def Trade.buy : Trade F → Asset
  | .fulfillment filled | .jit filled => filled.order.buy

/-! ## The report -/

/-- What is reported of an order. -/
structure Amounts where
  side : WinnerSelection.Side
  (sell buy : Asset)
  (executedSell executedBuy : U256)
  deriving DecidableEq

/-- An amount that cannot be computed is logged and reported as zero. -/
def amountOrZero : Outcome MathError U256 → Outcome ε U256
  | .ok amount => .ok amount
  | .err _ => .ok 0
  | .panic reason => .panic reason

namespace Solution

section

variable (solution)

def pricesAt (trade : Trade F) : Outcome ε ClearingPrices := do
  let sell ← .expect "no entry found for key"
    (solution.prices.get (asErc20 trade.sell.token solution.weth))
  let buy ← .expect "no entry found for key"
    (solution.prices.get (asErc20 trade.buy.token solution.weth))
  return ⟨sell, buy⟩

def reportedAmounts (trade : Trade F) : Outcome ε Amounts :=
  match trade with
  | .fulfillment fulfillment => do
    let prices ← solution.pricesAt trade
    let executedSell ← amountOrZero (fulfillment.sellAmount prices)
    let executedBuy ← amountOrZero (fulfillment.buyAmount prices)
    return ⟨trade.side, trade.sell, trade.buy, executedSell, executedBuy⟩
  | .jit jit => do
    let executedSell ← amountOrZero jit.executedSell
    let executedBuy ← amountOrZero jit.executedBuy
    return ⟨trade.side, trade.sell, trade.buy, executedSell, executedBuy⟩

def orders : Outcome ε (EntryMap OrderUid Amounts) :=
  solution.trades.foldlM (fun acc trade => do
      let order ← solution.reportedAmounts trade
      return acc.insert trade.uid order)
    ⟨[], List.nodup_nil⟩

/-! ## The amounts of single trades -/

/-- The trades of an order. -/
def tradesOf (uid : OrderUid) : List (Trade F) :=
  solution.trades.filter (·.uid = uid)

def clearingPricesOf (trade : Trade F) : ClearingPrices :=
  ⟨(solution.clearingPrice trade.sell.token).getD 0,
    (solution.clearingPrice trade.buy.token).getD 0⟩

/-- What a trade sells. -/
def soldIn : Trade F → Outcome MathError U256
  | .fulfillment fulfillment =>
    fulfillment.sellAmount (solution.clearingPricesOf (.fulfillment fulfillment))
  | .jit jit => jit.executedSell

/-- What a trade buys. -/
def boughtIn : Trade F → Outcome MathError U256
  | .fulfillment fulfillment =>
    fulfillment.buyAmount (solution.clearingPricesOf (.fulfillment fulfillment))
  | .jit jit => jit.executedBuy

/-- Neither amount is an error. -/
def Computable (trade : Trade F) : Prop :=
  (∃ sold, solution.soldIn trade = .ok sold) ∧ ∃ bought, solution.boughtIn trade = .ok bought

end

/-- The amount, zero on failure. -/
def amountNat : Outcome MathError U256 → Nat
  | .ok amount => amount.toNat
  | _ => 0

/-- The trade executes nothing and has no fees.  A haircut of a buy order must
not be worth a unit of the sell token. -/
def ExecutesNothing (solution : Solution F) : Trade F → Prop
  | .fulfillment fulfillment =>
    fulfillment.executed = 0 ∧ fulfillment.feeAmount = 0 ∧ (fulfillment.order.side = .buy →
        let prices := solution.clearingPricesOf (.fulfillment fulfillment)
        fulfillment.haircutFee.toNat * prices.buy.toNat < prices.sell.toNat)
  | .jit jit => jit.executed = 0 ∧ (jit.order.side = .sell → jit.fee = 0)

/-! ## Accepted solutions have all prices -/

section

variable [Factor F] {fulfillment : Fulfillment F}

theorem withProtocolFees_order {prices : ClearingPrices} {after : Fulfillment F}
    (success : fulfillment.withProtocolFees prices = .ok after) :
    after.order = fulfillment.order := by
  unfold Fulfillment.withProtocolFees at success
  generalize fulfillment.order.protocolFees = policies at success
  induction policies generalizing fulfillment with
  | nil => rw [← ok.inj success]
  | cons policy policies ih =>
    rw [foldlM_cons, bind_eq_ok_iff] at success
    obtain ⟨_, charged, later⟩ := success
    rw [ih later]
    simp only [Fulfillment.withProtocolFee, bind_eq_ok_iff, Fulfillment.new] at charged
    obtain ⟨_, _, _, _, _, _, built⟩ := charged
    split at built
    · rw [← ok.inj built]
    · cases built

omit [Factor F] in
theorem pricesOrder_iff {order : Order F} : solution.pricesOrder order = true ↔
      (solution.clearingPrice order.sell.token).isSome ∧
        (solution.clearingPrice order.buy.token).isSome := by
  simp [pricesOrder]

theorem pricesOrder_of_new (accepted : new parts feeHandler owners = .ok solution)
    (mem : Trade.fulfillment fulfillment ∈ solution.trades) :
    solution.pricesOrder fulfillment.order = true := by
  simp only [new, bind_eq_ok_iff, rejectIf_eq_ok_iff] at accepted
  obtain ⟨trades, _, _, allPriced, built⟩ := accepted
  split at built
  · obtain rfl := ok.inj built
    simp only [any_eq_true, not_exists, not_and] at allPriced
    have listed : fulfillment ∈ ({ parts with trades }).userTrades :=
      mem_filterMap.mpr ⟨_, mem, rfl⟩
    simpa using allPriced fulfillment listed
  · simp only [bind_eq_ok_iff, pure_eq, ok.injEq] at built
    obtain ⟨_, mapped, rfl⟩ := built
    obtain ⟨trade, _, success⟩ := (mem_iff_of_mapM_eq_ok mapped).mp mem
    cases trade with
    | jit => cases success
    | fulfillment before =>
      simp only [applyProtocolFees, bind_eq_ok_iff, expect_eq_ok_iff, mapError_eq_ok_iff, pure_eq,
        ok.injEq, Trade.fulfillment.injEq] at success
      obtain ⟨_, sellFound, _, buyFound, _, withFees, rfl⟩ := success
      rw [withProtocolFees_order withFees, pricesOrder_iff, clearingPrice,
        clearingPrice, sellFound, buyFound]
      exact ⟨rfl, rfl⟩

end

theorem pricesAt_of_pricesOrder {solution : Solution F} {fulfillment : Fulfillment F}
    (priced : solution.pricesOrder fulfillment.order = true) :
    (solution.pricesAt (.fulfillment fulfillment) : Outcome ε ClearingPrices) =
      .ok (solution.clearingPricesOf (.fulfillment fulfillment)) := by
  obtain ⟨sellPriced, buyPriced⟩ := pricesOrder_iff.mp priced
  obtain ⟨sell, sellFound⟩ := Option.isSome_iff_exists.mp sellPriced
  obtain ⟨buy, buyFound⟩ := Option.isSome_iff_exists.mp buyPriced
  rw [clearingPrice] at sellFound buyFound
  simp [pricesAt, clearingPricesOf, clearingPrice, Trade.sell, Trade.buy, sellFound, buyFound]

/-! ## What is reported for a trade -/

section

variable {trade : Trade F}

theorem noPanic_soldIn (trade : Trade F) : (solution.soldIn trade).NoPanic := by
  cases trade with
  | fulfillment fulfillment =>
    rw [soldIn, Fulfillment.sellAmount, Fulfillment.haircutInSellToken]
    cases fulfillment.order.side with
    | sell =>
      apply (noPanic_okOr _ _).seq
      intro withFee
      exact noPanic_okOr _ _
    | buy =>
      apply (noPanic_mulDiv _ _ _).seq
      intro _
      apply (noPanic_okOr _ _).seq
      intro withFee
      apply (noPanic_mulDiv _ _ _).seq
      intro _
      exact noPanic_okOr _ _
  | jit jit =>
    rw [soldIn, Jit.executedSell]
    cases jit.order.side with
    | sell => exact noPanic_okOr _ _
    | buy => exact noPanic_mulDiv _ _ _

theorem noPanic_boughtIn (trade : Trade F) : (solution.boughtIn trade).NoPanic := by
  cases trade with
  | fulfillment fulfillment =>
    rw [boughtIn, Fulfillment.buyAmount]
    cases fulfillment.order.side with
    | buy => exact noPanic_ok _
    | sell =>
      apply (noPanic_mulCeilDiv _ _ _).seq
      intro _
      apply (noPanic_mulDiv _ _ _).seq
      intro _
      exact noPanic_okOr _ _
  | jit jit =>
    rw [boughtIn, Jit.executedBuy]
    cases jit.order.side with
    | buy => exact noPanic_ok _
    | sell =>
      apply (noPanic_okOr _ _).seq
      intro _
      exact noPanic_mulCeilDiv _ _ _

theorem amountOrZero_of_noPanic {outcome : Outcome MathError U256} (safe : outcome.NoPanic) :
    ∃ amount, (amountOrZero outcome : Outcome ε U256) = .ok amount ∧
      amount.toNat = amountNat outcome := by
  cases outcome with
  | ok amount => exact ⟨amount, rfl, rfl⟩
  | err => exact ⟨0, rfl, rfl⟩
  | panic => simp at safe

/-- The reported amounts are those of the trade. -/
def Reports (solution : Solution F) (trade : Trade F) (amounts : Amounts) : Prop :=
  amounts.executedSell.toNat = amountNat (solution.soldIn trade) ∧
    amounts.executedBuy.toNat = amountNat (solution.boughtIn trade)

theorem reportedAmounts_of_priced
    (priced : ∀ fulfillment, trade = .fulfillment fulfillment →
      solution.pricesOrder fulfillment.order = true) :
    ∃ amounts, (solution.reportedAmounts trade : Outcome ε Amounts) = .ok amounts ∧
      solution.Reports trade amounts := by
  obtain ⟨sold, soldOk, soldNat⟩ := amountOrZero_of_noPanic (ε := ε) (solution.noPanic_soldIn trade)
  obtain ⟨bought, boughtOk, boughtNat⟩ :=
    amountOrZero_of_noPanic (ε := ε) (solution.noPanic_boughtIn trade)
  refine ⟨⟨trade.side, trade.sell, trade.buy, sold, bought⟩, ?_, soldNat, boughtNat⟩
  cases trade with
  | fulfillment fulfillment =>
    rw [soldIn] at soldOk
    rw [boughtIn] at boughtOk
    simp [reportedAmounts, pricesAt_of_pricesOrder (priced fulfillment rfl), soldOk, boughtOk]
  | jit jit =>
    rw [soldIn] at soldOk
    rw [boughtIn] at boughtOk
    simp [reportedAmounts, soldOk, boughtOk]

theorem amounts_eq_zero_iff (computable : solution.Computable trade) :
    (amountNat (solution.soldIn trade) = 0 ∧
      amountNat (solution.boughtIn trade) = 0) ↔ solution.ExecutesNothing trade := by
  obtain ⟨⟨_, soldOk⟩, _, boughtOk⟩ := computable
  rw [soldOk, boughtOk, amountNat, amountNat]
  cases trade with
  | fulfillment fulfillment =>
    rw [soldIn, Fulfillment.sellAmount, Fulfillment.haircutInSellToken] at soldOk
    rw [boughtIn, Fulfillment.buyAmount] at boughtOk
    rw [ExecutesNothing]
    cases side : fulfillment.order.side with
    | sell =>
      simp only [side, ok_bind, bind_eq_ok_iff, okOr_eq_ok_iff, mulCeilDiv_eq_ok_iff,
        U256.checkedAdd_eq_some_iff, U256.checkedSub_eq_some_iff] at soldOk boughtOk
      obtain ⟨withFee, added, total⟩ := soldOk
      obtain ⟨base, ⟨_, nonzero, rounded⟩, haircut, _, _⟩ := boughtOk
      simp only [← U256.toNat_eq_zero, reduceCtorEq, IsEmpty.forall_iff, and_true]
      constructor
      · intro zero
        omega
      · intro zero
        rw [zero.1, Nat.zero_mul, zero_ceilDiv] at rounded
        simp at total
        omega
    | buy =>
      simp only [side, bind_eq_ok_iff, okOr_eq_ok_iff,
        mulDiv_eq_ok_iff, U256.checkedAdd_eq_some_iff, ok.injEq] at soldOk boughtOk
      obtain ⟨base, ⟨_, nonzero, scaled⟩, withFee, added, haircut,
        ⟨_, _, haircutScaled⟩, total⟩ := soldOk
      have positive := BitVec.toNat_pos_of_ne_zero nonzero
      subst boughtOk
      simp only [← U256.toNat_eq_zero, forall_const, ← Nat.div_eq_zero_iff_lt positive]
      constructor
      · omega
      · intro zero
        rw [zero.1, Nat.zero_mul, Nat.zero_div] at scaled
        omega
  | jit jit =>
    rw [soldIn, Jit.executedSell] at soldOk
    rw [boughtIn, Jit.executedBuy] at boughtOk
    rw [ExecutesNothing]
    cases side : jit.order.side with
    | sell =>
      simp only [side, bind_eq_ok_iff, okOr_eq_ok_iff,
        mulCeilDiv_eq_ok_iff, U256.checkedAdd_eq_some_iff] at soldOk boughtOk
      obtain ⟨executed, added, _, nonzero, rounded⟩ := boughtOk
      simp only [← U256.toNat_eq_zero, forall_const]
      constructor
      · omega
      · intro zero
        rw [show executed.toNat = 0 by omega, Nat.zero_mul, zero_ceilDiv] at rounded
        omega
    | buy =>
      simp only [side, mulDiv_eq_ok_iff, ok.injEq] at soldOk boughtOk
      obtain ⟨_, nonzero, scaled⟩ := soldOk
      subst boughtOk
      simp only [← U256.toNat_eq_zero, reduceCtorEq, IsEmpty.forall_iff, and_true]
      constructor
      · intro zero
        exact zero.2
      · intro zero
        rw [zero, Nat.zero_mul, Nat.zero_div] at scaled
        exact ⟨scaled, zero⟩

end

/-! ## Later trades replace earlier ones -/

/-- A pass that stores a value for the key of each item keeps the value of the
last item with the key. -/
theorem foldlM_insert_get {α κ ν : Type} [DecidableEq κ] {step : α → Outcome ε ν}
    (key : α → κ) {items : List α} (computed : ∀ item ∈ items, ∃ value, step item = .ok value)
    (start : EntryMap κ ν) :
    ∃ result, items.foldlM (fun acc item => do
        let value ← step item
        return acc.insert (key item) value) start = .ok result ∧
      ∀ item, (items.filter (key · = key item)).getLast? = some item →
        ∃ value, step item = .ok value ∧ result.get (key item) = some value := by
  induction items using List.reverseRecOn with
  | nil => exact ⟨start, rfl, by simp⟩
  | append_singleton items last ih =>
    obtain ⟨earlier, earlierOk, lookup⟩ := ih fun item mem => computed item (mem_append_left _ mem)
    obtain ⟨value, lastOk⟩ := computed last (by simp)
    refine ⟨earlier.insert (key last) value, ?_, ?_⟩
    · rw [foldlM_append, earlierOk]
      simp [lastOk]
    · intro item isLast
      by_cases same : key last = key item
      · have : last = item := by simpa [same] using isLast
        subst this
        exact ⟨value, lastOk, EntryMap.get_insert_self⟩
      · rw [filter_append, filter_singleton, decide_eq_false same] at isLast
        rw [EntryMap.get_insert_of_ne (Ne.symm same)]
        exact lookup item (by simpa using isLast)

end Solution

section

variable [Factor F] {uid : OrderUid}

namespace Solution

theorem orders_of_new (accepted : new parts feeHandler owners = .ok solution) :
    ∃ reported : EntryMap OrderUid Amounts, (solution.orders : Outcome ε _) = .ok reported ∧
      ∀ uid last, (solution.tradesOf uid).getLast? = some last →
        ∃ amounts, reported.get uid = some amounts ∧ solution.Reports last amounts := by
  have computed : ∀ trade ∈ solution.trades, ∃ amounts,
      (solution.reportedAmounts trade : Outcome ε Amounts) = .ok amounts ∧
        solution.Reports trade amounts := by
    intro trade mem
    apply reportedAmounts_of_priced
    intro _ found
    subst found
    exact pricesOrder_of_new accepted mem
  obtain ⟨reported, reportedOk, lookup⟩ := foldlM_insert_get Trade.uid
    (fun trade mem => (computed trade mem).imp fun _ => And.left)
    ⟨[], nodup_nil⟩
  refine ⟨reported, reportedOk, ?_⟩
  intro uid last isLast
  have listed := mem_filter.mp (mem_of_getLast? isLast)
  obtain rfl : last.uid = uid := of_decide_eq_true listed.2
  obtain ⟨amounts, amountsOk, found⟩ := lookup last isLast
  obtain ⟨_, sameOk, reports⟩ := computed last listed.1
  obtain rfl := ok.inj (amountsOk.symm.trans sameOk)
  exact ⟨amounts, found, reports⟩

theorem sums_eq_last_iff {α : Type} (sold bought : α → Nat) (rest : List α) (last : α) :
    ((sold last = ((rest ++ [last]).map sold).sum) ∧
      bought last = ((rest ++ [last]).map bought).sum) ↔
      ∀ item ∈ rest, sold item = 0 ∧ bought item = 0 := by
  have total amount : amount last = ((rest ++ [last]).map amount).sum ↔
        ∀ item ∈ rest, amount item = 0 := by
    rw [map_append, sum_append, map_singleton, sum_singleton,
      eq_comm, Nat.add_eq_right, List.sum_eq_zero_iff_forall_eq_nat]
    simp
  rw [total sold, total bought]
  exact ⟨fun zero item mem => ⟨zero.1 item mem, zero.2 item mem⟩,
    fun zero => ⟨fun item mem => (zero item mem).1, fun item mem => (zero item mem).2⟩⟩

end Solution

/-- The report of an order has the amounts of all its trades together, if and
only if only its last trade executes anything. -/
theorem orders_report_totals_iff (accepted : Solution.new parts feeHandler owners = .ok solution)
    (occurs : solution.tradesOf uid ≠ [])
    (computable : ∀ trade ∈ solution.tradesOf uid, solution.Computable trade) :
    (∃ reported amounts, (solution.orders : Outcome ε _) = .ok reported ∧
      reported.get uid = some amounts ∧
      amounts.executedSell.toNat = ((solution.tradesOf uid).map fun trade =>
        Solution.amountNat (solution.soldIn trade)).sum ∧
      amounts.executedBuy.toNat = ((solution.tradesOf uid).map fun trade =>
        Solution.amountNat (solution.boughtIn trade)).sum) ↔
    ∀ trade ∈ (solution.tradesOf uid).dropLast, solution.ExecutesNothing trade := by
  obtain ⟨reported, reportedOk, lookup⟩ := Solution.orders_of_new (ε := ε) accepted
  have isLast := List.getLast?_eq_some_getLast occurs
  have split := dropLast_append_getLast occurs
  generalize (solution.tradesOf uid).getLast occurs = last at *
  generalize (solution.tradesOf uid).dropLast = rest at *
  obtain ⟨amounts, found, soldLast, boughtLast⟩ := lookup uid last isLast
  have totals := Solution.sums_eq_last_iff (fun trade => Solution.amountNat (solution.soldIn trade))
    (fun trade => Solution.amountNat (solution.boughtIn trade)) rest last
  rw [split, ← soldLast, ← boughtLast] at totals
  have nothing : (∀ trade ∈ rest, solution.ExecutesNothing trade) ↔
      ∀ trade ∈ rest, Solution.amountNat (solution.soldIn trade) = 0 ∧
        Solution.amountNat (solution.boughtIn trade) = 0 := by
    apply forall₂_congr
    intro trade mem
    have listed := split ▸ mem_append_left [last] mem
    exact (Solution.amounts_eq_zero_iff (computable trade listed)).symm
  rw [nothing, ← totals]
  constructor
  · intro report
    obtain ⟨_, _, sameOk, sameFound, sums⟩ := report
    obtain rfl := ok.inj (reportedOk.symm.trans sameOk)
    obtain rfl := Option.some.inj (found.symm.trans sameFound)
    exact sums
  · intro sums
    exact ⟨reported, amounts, reportedOk, found, sums⟩

end

/-! ## An order filled in parts -/

namespace Solution

def half : Fulfillment ℚ where
  order := { (soldOut 1 ⟨20, 3⟩ ⟨20, 4⟩).order with fill := .yes 20 }
  executed := 10
  fee := .dynamic 0
  haircutFee := 0
  valid := by decide

def idle : Fulfillment ℚ := { half with executed := 0, valid := by decide }

def filledAfter (first : Fulfillment ℚ) : Solution ℚ :=
  { trading half [(3, 1), (4, 1)] with trades := [.fulfillment first, .fulfillment half] }

end Solution

section

open Solution

/-- The first of the two trades executes nothing. -/
theorem orders_report_after_idle :
    ∃ reported amounts, ((filledAfter idle).orders : Outcome Unit _) = .ok reported ∧
      reported.get half.order.uid = some amounts ∧
      amounts.executedSell.toNat = (((filledAfter idle).tradesOf half.order.uid).map fun trade =>
          amountNat ((filledAfter idle).soldIn trade)).sum ∧
      amounts.executedBuy.toNat = (((filledAfter idle).tradesOf half.order.uid).map fun trade =>
          amountNat ((filledAfter idle).boughtIn trade)).sum := by
  have accepted : Solution.new (filledAfter idle) .solver (fun _ => false) =
      .ok (filledAfter idle) := by decide +kernel
  have both : (filledAfter idle).tradesOf half.order.uid =
      [.fulfillment idle, .fulfillment half] := by
    decide +kernel
  apply (orders_report_totals_iff accepted (by simp [both]) ?_).mpr
  · rw [both]
    intro trade mem
    cases mem_singleton.mp mem
    exact ⟨by decide, by decide, nofun⟩
  · rw [both]
    intro trade mem
    simp only [mem_cons, not_mem_nil, or_false] at mem
    rcases mem with rfl | rfl
    · exact ⟨⟨0, by decide +kernel⟩, 0, by decide +kernel⟩
    · exact ⟨⟨10, by decide +kernel⟩, 10, by decide +kernel⟩

/-- Only half of what is sold is reported. -/
theorem orders_report_last_half :
    Solution.new (filledAfter half) .solver (fun _ => false) = .ok (filledAfter half) ∧
      (∀ trade ∈ (filledAfter half).trades, (filledAfter half).Computable trade) ∧
      ∃ reported amounts, ((filledAfter half).orders : Outcome Unit _) = .ok reported ∧
        reported.get half.order.uid = some amounts ∧
        amounts.executedSell.toNat = 10 ∧
        (((filledAfter half).tradesOf half.order.uid).map fun trade =>
          amountNat ((filledAfter half).soldIn trade)).sum = 20 := by
  have computable : (filledAfter half).Computable (.fulfillment half) :=
    ⟨⟨10, by decide +kernel⟩, 10, by decide +kernel⟩
  refine ⟨by decide +kernel, ?_, ?_⟩
  · simpa [filledAfter] using computable
  · refine ⟨⟨[(half.order.uid, ⟨.sell, ⟨20, 3⟩, ⟨20, 4⟩, 10, 10⟩)], ?_⟩, _, ?_, rfl, ?_, ?_⟩
    all_goals decide +kernel

end

end MandateSolver.Driver
