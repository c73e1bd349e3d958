import MandateSolver.Solvers.Solution
import MandateSolver.WinnerSelection.ExactFees

/-!
# Solutions for a single order respect the order

The amounts of a route become the prices of the solution, crosswise, so settling the
executed amount gives back both amounts without any rounding.
-/

namespace MandateSolver.Solvers

open Option BitVec

open WinnerSelection (ClearingPrices mulDiv mulCeilDiv)

def tradeSide : Side → WinnerSelection.Side
  | .buy => .buy
  | .sell => .sell

/-- What leaves the user's wallet apart from the fee, and what arrives, when the
order is settled at the prices of the solution. -/
def Solution.settle (solution : Solution) (fulfillment : Fulfillment) : Option (U256 × U256) := do
  let order := fulfillment.order
  let sellPrice ← solution.prices.get order.sell.token
  let buyPrice ← solution.prices.get order.buy.token
  let prices : ClearingPrices := ⟨sellPrice, buyPrice⟩
  let sold ← (TradeMath.sellAmount (tradeSide order.side) fulfillment.executed
    prices).toOption
  let bought ← (TradeMath.buyAmount (tradeSide order.side) fulfillment.executed
    prices).toOption
  return (sold, bought)

/-- The amount on the order's side. -/
def onSide (side : Side) (sold bought : U256) : U256 :=
  match side with
  | .buy => bought
  | .sell => sold

/-- How much of the order is filled. -/
def filled (side : Side) (fee sold bought : U256) : Nat :=
  match side with
  | .buy => bought.toNat
  | .sell => sold.toNat + fee.toNat

def Order.target (order : Order) : U256 :=
  onSide order.side order.sell.amount order.buy.amount

/-! ## What the checks of the code say -/

variable {order : Order} {fulfillment : Fulfillment}

theorem Order.filled_of_accepts {sold bought : U256} {fee : Fee}
    (accepted : order.accepts (onSide order.side sold bought) fee = true) :
    filled order.side (fee.surplusAmount.getD 0) sold bought ≤ order.target.toNat ∧
      (order.partiallyFillable = false →
        filled order.side (fee.surplusAmount.getD 0) sold bought = order.target.toNat) := by
  simp only [Order.accepts, Bool.and_eq_true, any_eq_true] at accepted
  obtain ⟨-, ⟨fill, full⟩, amounts, fits⟩ := accepted
  have meaning : fill = order.target ∧ full.toNat =
      filled order.side (fee.surplusAmount.getD 0) sold bought := by
    revert amounts
    unfold Order.fillOf Order.target filled onSide
    cases order.side with
    | buy =>
      intro amounts
      cases amounts
      exact ⟨rfl, rfl⟩
    | sell =>
      intro amounts
      simp only [bind_eq_bind, bind_eq_some_iff, U256.checkedAdd_eq_some_iff] at amounts
      obtain ⟨_, sum, same⟩ := amounts
      cases same
      exact ⟨rfl, sum⟩
  rw [← meaning.1, ← meaning.2]
  cases fillable : order.partiallyFillable with
  | false =>
    have exactly : full = fill := by simpa [fillable] using fits
    simp [exactly]
  | true =>
    have atMost : full ≤ fill := by simpa [fillable] using fits
    exact ⟨atMost, nofun⟩

theorem Fulfillment.of_new_eq_some {executed : U256} {fee : Fee}
    (built : Fulfillment.new order executed fee = some fulfillment) :
    fulfillment.order = order ∧ fulfillment.executed = executed ∧ fulfillment.fee = fee := by
  unfold Fulfillment.new at built
  split at built
  · obtain rfl := Option.some.inj built
    exact ⟨rfl, rfl, rfl⟩
  · cases built

namespace Single

variable {single : Single} {fee sell buy sold bought : U256} {solution : Solution}

def surplusFee (single : Single) (fee : U256) : U256 :=
  (single.feeOf fee).surplusAmount.getD 0

/-- What the solution sells apart from the fee, and what it buys, next to the
amounts of the route. -/
inductive Executes (single : Single) (fee sold bought : U256) : Prop where
  | whole (uncapped : single.order.side = .buy ∨
        single.input.amount.toNat + fee.toNat ≤ single.order.sell.amount.toNat)
      (sold_eq : sold = single.input.amount)
      (bought_eq : bought = single.output.amount)
  | part (isSell : single.order.side = .sell) (exceeds : single.order.sell.amount.toNat <
        single.input.amount.toNat + fee.toNat)
      (sold_add_fee : sold.toNat + fee.toNat = single.order.sell.amount.toNat)
      (bought_eq : bought.toNat =
        sold.toNat * single.output.amount.toNat / single.input.amount.toNat)

theorem executes_of_executedAmounts (amounts : single.executedAmounts fee = some (sell, buy))
    (split : sell.toNat = fee.toNat + sold.toNat) :
    single.Executes fee sold buy ∧ (single.order.side = .sell → single.input.amount ≠ 0) := by
  unfold executedAmounts at amounts
  cases side : single.order.side with
  | buy =>
    rw [side] at amounts
    simp only [bind_eq_bind, bind_eq_some_iff, U256.checkedAdd_eq_some_iff] at amounts
    obtain ⟨total, sum, same⟩ := amounts
    cases same
    refine ⟨.whole (Or.inl side) ?_ rfl, nofun⟩
    apply eq_of_toNat_eq
    omega
  | sell =>
    rw [side] at amounts
    simp only [bind_eq_bind, bind_eq_some_iff,
      U256.checkedAdd_eq_some_iff, U256.checkedSub_eq_some_iff,
      U256.checkedMul_eq_some_iff, U256.checkedDiv_eq_some_iff] at amounts
    obtain ⟨total, sum, rest, restEq, _, productEq, _,
      ⟨positive, quotient⟩, same⟩ := amounts
    cases same
    obtain rfl : rest = sold := eq_of_toNat_eq (by omega)
    rw [U256.toNat_min] at restEq
    have nonzero : single.input.amount ≠ 0 := by
      intro zero
      rw [zero] at positive
      exact absurd positive (Nat.lt_irrefl 0)
    refine ⟨?_, fun _ => nonzero⟩
    by_cases fits : single.input.amount.toNat + fee.toNat ≤ single.order.sell.amount.toNat
    · have whole : rest = single.input.amount := by
        apply eq_of_toNat_eq
        omega
      refine .whole (Or.inr fits) whole (eq_of_toNat_eq ?_)
      rw [quotient, productEq, whole, Nat.mul_div_cancel_left _ positive]
    · refine .part side (not_le.mp fits) (by omega) ?_
      rw [quotient, productEq]

theorem Executes.bought_le (executes : single.Executes fee sold bought) :
    bought.toNat ≤ single.output.amount.toNat := by
  cases executes with
  | whole _ _ bought_eq => rw [bought_eq]
  | part _ exceeds sold_add_fee bought_eq =>
    rw [bought_eq]
    apply Nat.div_le_of_le_mul
    apply Nat.mul_le_mul_right
    omega

theorem intoSolution_cases (returned : single.intoSolution fee = some solution) :
    ∃ sold bought fulfillment, fulfillment.order = single.order ∧
      fulfillment.executed = onSide single.order.side sold bought ∧
      fulfillment.fee = single.feeOf fee ∧
      solution.trades = [.fulfillment fulfillment] ∧
      solution.prices = EntryMap.collect
        [(single.order.sell.token, bought), (single.order.buy.token, sold)] ∧
      single.Executes (single.surplusFee fee) sold bought ∧
      (single.order.side = .sell → single.input.amount ≠ 0) ∧
      (sold.toNat + (single.surplusFee fee).toNat) * single.order.buy.amount.toNat ≤
        bought.toNat * single.order.sell.amount.toNat ∧
      bought.toNat * single.order.sell.amount.toNat < 2 ^ 256 := by
  simp only [intoSolution, bind_eq_bind, bind_none, ite_none_left_eq_some, bind_eq_some_iff,
    U256.checkedMul_eq_some_iff, U256.checkedSub_eq_some_iff] at returned
  obtain ⟨-, ⟨sell, bought⟩, amounts, offered, offeredEq, asked, askedEq, limit,
    sold, split, fulfillment, built, same⟩ := returned
  cases same
  obtain ⟨executes, nonzero⟩ := executes_of_executedAmounts amounts split
  obtain ⟨order, executed, charged⟩ := Fulfillment.of_new_eq_some built
  refine ⟨sold, bought, fulfillment, order, ?_, charged, rfl, rfl, executes, nonzero, ?_, ?_⟩
  · rw [executed]
    cases single.order.side <;> rfl
  · have ordered : asked.toNat ≤ offered.toNat := not_lt.mp limit
    rw [askedEq, offeredEq, split] at ordered
    rw [Nat.mul_comm, Nat.mul_comm bought.toNat, Nat.add_comm]
    exact ordered
  · rw [Nat.mul_comm, ← offeredEq]
    exact offered.isLt

/-- The price of each token is the amount of the other one, so settling the
executed amount divides out exactly. -/
theorem settle_eq
    (executed : fulfillment.executed = onSide fulfillment.order.side sold bought)
    (prices : solution.prices = EntryMap.collect
      [(fulfillment.order.sell.token, bought), (fulfillment.order.buy.token, sold)])
    (distinct : fulfillment.order.sell.token ≠ fulfillment.order.buy.token)
    (fits : bought.toNat * sold.toNat < 2 ^ 256) (nonzero : fulfillment.executed ≠ 0) :
    solution.settle fulfillment = some (sold, bought) := by
  have sellPrice : solution.prices.get fulfillment.order.sell.token = some bought := by
    rw [prices]
    simp only [EntryMap.collect, List.foldl_cons, List.foldl_nil]
    rw [EntryMap.get_insert_of_ne distinct, EntryMap.get_insert_self]
  have buyPrice : solution.prices.get fulfillment.order.buy.token = some sold := by
    rw [prices]
    exact EntryMap.get_insert_self
  simp only [Solution.settle, sellPrice, buyPrice, bind_eq_bind]
  rw [executed] at nonzero ⊢
  cases side : fulfillment.order.side with
  | buy =>
    rw [side] at nonzero
    have sold_eq : mulDiv bought sold bought = .ok sold := by
      have positive := toNat_pos_of_ne_zero nonzero
      refine WinnerSelection.mulDiv_eq_ok_iff.mpr ⟨fits, nonzero, ?_⟩
      exact (Nat.mul_div_cancel_left _ positive).symm
    simp [tradeSide, onSide, TradeMath.sellAmount, TradeMath.buyAmount, sold_eq, Outcome.toOption]
  | sell =>
    rw [side] at nonzero
    have bought_eq : mulCeilDiv sold bought sold = .ok bought := by
      have positive := toNat_pos_of_ne_zero nonzero
      refine WinnerSelection.mulCeilDiv_eq_ok_iff.mpr ⟨by rwa [Nat.mul_comm], nonzero, ?_⟩
      exact (smul_ceilDiv positive _).symm
    simp [tradeSide, onSide, TradeMath.sellAmount, TradeMath.buyAmount, bought_eq, Outcome.toOption]

/-- Without the fee a buy order is not bought more than it asks for, so its limit
price bounds what it sells.  A sell order sells what it is filled by. -/
theorem sold_add_fee_le (asks : order.buy.amount ≠ 0)
    (fill : filled order.side fee sold bought ≤ order.target.toNat)
    (limit : (sold.toNat + fee.toNat) * order.buy.amount.toNat ≤
      bought.toNat * order.sell.amount.toNat) :
    sold.toNat + fee.toNat ≤ order.sell.amount.toNat := by
  unfold filled Order.target onSide at fill
  cases side : order.side with
  | buy =>
    rw [side] at fill
    have positive := toNat_pos_of_ne_zero asks
    apply Nat.le_of_mul_le_mul_right _ positive
    calc
      _ ≤ bought.toNat * order.sell.amount.toNat := limit
      _ ≤ order.buy.amount.toNat * order.sell.amount.toNat := Nat.mul_le_mul_right _ fill
      _ = _ := Nat.mul_comm _ _
  | sell =>
    rw [side] at fill
    exact fill

theorem executed_ne_zero (executes : single.Executes fee sold bought)
    (input : single.order.side = .sell → single.input.amount ≠ 0)
    (asks : single.order.buy.amount ≠ 0) (sells : single.order.sell.amount ≠ 0)
    (output : single.output.amount ≠ 0)
    (limit : (sold.toNat + fee.toNat) * single.order.buy.amount.toNat ≤
      bought.toNat * single.order.sell.amount.toNat) :
    onSide single.order.side sold bought ≠ 0 := by
  cases executes with
  | whole _ sold_eq bought_eq =>
    cases side : single.order.side with
    | buy => exact bought_eq ▸ output
    | sell => exact sold_eq ▸ input side
  | part isSell _ sold_add_fee bought_eq =>
    rw [isSell]
    intro zero
    -- then nothing is bought either, which no order accepts that pays a fee
    have soldZero : sold.toNat = 0 := congrArg BitVec.toNat zero
    have positive := toNat_pos_of_ne_zero sells
    rw [bought_eq, soldZero, Nat.zero_mul, Nat.zero_div, Nat.zero_mul,
      Nat.le_zero, Nat.mul_eq_zero] at limit
    rcases limit with _ | asked
    · omega
    · exact asks (eq_of_toNat_eq asked)

/-- A solution for a single order keeps to the order.  With the fee it sells at
most the order's sell amount, it buys at most the route's output, it meets the
limit price, and it fills a fill-or-kill order exactly.  It executes the route,
or of a sell order that cannot also pay the fee as much of the route as it can,
and settling it at its prices gives back these amounts. -/
theorem intoSolution_respects_order (single : Single) (fee : U256)
    (solution : Solution) (returned : single.intoSolution fee = some solution)
    (asks : single.order.buy.amount ≠ 0) :
    ∃ sold bought fulfillment, solution.trades = [.fulfillment fulfillment] ∧
      fulfillment.order = single.order ∧ fulfillment.fee = single.feeOf fee ∧
      fulfillment.executed = onSide single.order.side sold bought ∧
      sold.toNat + (single.surplusFee fee).toNat ≤ single.order.sell.amount.toNat ∧
      bought.toNat ≤ single.output.amount.toNat ∧
      (sold.toNat + (single.surplusFee fee).toNat) * single.order.buy.amount.toNat ≤
        bought.toNat * single.order.sell.amount.toNat ∧
      (single.order.partiallyFillable = false →
        filled single.order.side (single.surplusFee fee) sold bought = single.order.target.toNat) ∧
      single.Executes (single.surplusFee fee) sold bought ∧
      (single.order.sell.token ≠ single.order.buy.token →
        single.order.sell.amount ≠ 0 → single.output.amount ≠ 0 →
          solution.settle fulfillment = some (sold, bought)) := by
  obtain ⟨sold, bought, fulfillment, order, executed, charged, trades, prices,
    executes, input, limit, offered⟩ := intoSolution_cases returned
  have accepted := fulfillment.accepted
  rw [order, executed, charged] at accepted
  obtain ⟨fill, fillOrKill⟩ := Order.filled_of_accepts accepted
  have sold_le := sold_add_fee_le asks fill limit
  refine ⟨sold, bought, fulfillment, trades, order, charged, executed, sold_le,
    executes.bought_le, limit, fillOrKill, executes, ?_⟩
  intro distinct sells output
  have fits : bought.toNat * sold.toNat < 2 ^ 256 := by
    apply Nat.lt_of_le_of_lt _ offered
    apply Nat.mul_le_mul_left
    omega
  have nonzero := executed_ne_zero executes input asks sells output limit
  rw [← order] at executed prices distinct nonzero
  rw [← executed] at nonzero
  exact settle_eq executed prices distinct fits nonzero

def cappedSale : Single where
  order := {
    sell := ⟨100, 1⟩
    buy := ⟨100, 2⟩
    side := .sell
    «class» := .limit
    partiallyFillable := false
    wrappers := [] }
  input := ⟨100, 1⟩
  output := ⟨200, 2⟩
  interactions := []
  gas := 0
  wrappers := []

theorem intoSolution_respects_order_cappedSale :
    ∃ solution, cappedSale.intoSolution 10 = some solution ∧
      ∃ sold bought fulfillment, solution.trades = [.fulfillment fulfillment] ∧
        sold.toNat + (cappedSale.surplusFee 10).toNat ≤ 100 ∧
        solution.settle fulfillment = some (sold, bought) := by
  refine ⟨_, rfl, ?_⟩
  obtain ⟨sold, bought, fulfillment, trades, -, -, -, sold_le, -, -, -, -, settled⟩ :=
    intoSolution_respects_order cappedSale 10 _ rfl (by decide)
  exact ⟨sold, bought, fulfillment, trades, sold_le, settled (by decide) (by decide) (by decide)⟩

/-- The order has to pay the fee of 10 from the 100 it sells, so settling the
solution moves 90 for 180 and not the 200 of the route. -/
theorem intoSolution_settles_below_route :
    ∃ solution fulfillment, cappedSale.intoSolution 10 = some solution ∧
      cappedSale.order.buy.amount ≠ 0 ∧
      cappedSale.order.sell.token ≠ cappedSale.order.buy.token ∧
      solution.trades = [.fulfillment fulfillment] ∧
      solution.settle fulfillment = some (90, 180) ∧
      cappedSale.output.amount = 200 :=
  ⟨_, _, rfl, by decide, by decide, rfl, rfl, rfl⟩

end Single

end MandateSolver.Solvers
