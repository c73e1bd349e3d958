import MandateSolver.Boundary.Liquidity
import MandateSolver.BaselineSolver.PathCandidates

/-!
# The routing solver

The best pools of every candidate path are estimated first and then replayed.  Equal values
are decided by the ids along the route.
-/

namespace MandateSolver

inductive Side where
  | buy
  | sell

/-- What is to be traded. -/
structure Request where
  (sell buy : Asset)
  side : Side

/-- One hop with its amounts. -/
structure Segment where
  liquidity : Liquidity
  (input output : Asset)
  gas : U256

/-- Segments from the input to the output. -/
structure Route where
  segments : List Segment
  nonempty : segments ≠ []

namespace Route

def new (segments : List Segment) : Option Route :=
  if nonempty : segments ≠ [] then some ⟨segments, nonempty⟩ else none

/-- What the route buys. -/
def output (route : Route) : Asset :=
  (route.segments.getLast route.nonempty).output

def gas (route : Route) : U256 :=
  route.segments.foldl (fun total segment => total.saturatingAdd segment.gas) 0

end Route

/-- The boundary solver with its liquidity. -/
structure Solver where
  baseTokens : BaseTokens
  onchainLiquidity : PoolMap OnchainLiquidity
  liquidity : String → Option Liquidity

/-- The tie-breaker over equally priced routes. -/
def pathKey (segments : List Segment) : List String :=
  segments.map (·.liquidity.id)

def compareCandidates : List Segment × U256 → List Segment × U256 → Ordering :=
  compareLex (compareOn Prod.snd) (compareOn fun candidate => pathKey candidate.1)

instance : Std.TransCmp compareCandidates :=
  inferInstanceAs (Std.TransCmp (compareLex _ _))

theorem le_of_compareCandidates_ne_gt {left right : List Segment × U256}
    (notGreater : compareCandidates left right ≠ .gt) : left.2 ≤ right.2 := by
  refine not_lt.mp fun larger => notGreater ?_
  have greater : compareOn Prod.snd left right = .gt := compare_gt_iff_gt.mpr larger
  simp [compareCandidates, compareLex, greater]

/-- Candidates that neither beats the other tie in value and in ids. -/
theorem eq_of_compareCandidates {left right : List Segment × U256}
    (notGreater : compareCandidates left right ≠ .gt)
    (notLess : compareCandidates right left ≠ .gt) :
    left.2 = right.2 ∧ pathKey left.1 = pathKey right.1 := by
  have tie : compareCandidates left right = .eq := by
    cases comparison : compareCandidates left right with
    | lt => exact absurd (Std.OrientedCmp.gt_iff_lt.mpr comparison) notLess
    | eq => rfl
    | gt => exact absurd comparison notGreater
  rw [compareCandidates, compareLex_eq_eq] at tie
  exact ⟨Std.LawfulEqOrd.eq_of_compare tie.1, Std.LawfulEqOrd.eq_of_compare tie.2⟩

namespace Solver

/-- Entries by id; of several entries with one id the last one is kept. -/
def liquidityById (liquidity : List Liquidity) : String → Option Liquidity :=
  liquidity.foldl (fun byId entry id =>
    if id = entry.id then some entry else byId id) (fun _ => none)

def new {ε : Type} (order : RunOrder) (weth : Address)
    (baseTokens : List Address) (liquidity : List Liquidity)
    (uniV3QuoterV2 : Option UniswapV3QuoterV2) : Outcome ε Solver := do
  let onchainLiquidity ← toBoundaryLiquidity liquidity uniV3QuoterV2
  return {
    baseTokens := BaseTokens.new weth (order.baseTokens.iter baseTokens)
    onchainLiquidity := onchainLiquidity
    liquidity := liquidityById liquidity }

def traversePath (solver : Solver) (fullPath : List Address) :
    Nat → List OnchainLiquidity → Address → U256 → Outcome Unit (List Segment)
  | _, [], _, _ => .ok []
  | hop, liquidity :: path, sellToken, sellAmount => do
    let referenceLiquidity ← Outcome.expect
      "boundary liquidity does not match ID" (solver.liquidity liquidity.id)
    let buyToken ← Outcome.expect "Inconsistent path"
      (liquidity.tokenPair.other sellToken)
    let buyAmount ← BaselineSolvable.getAmountOut liquidity
      ⟨.traverse, fullPath, hop, 0⟩ buyToken sellAmount sellToken
    let segments ← solver.traversePath fullPath (hop + 1) path buyToken
      buyAmount
    return {
      liquidity := referenceLiquidity
      input := ⟨sellAmount, sellToken⟩
      output := ⟨buyAmount, buyToken⟩
      gas := BitVec.ofNat 256 (BaselineSolvable.gasCost liquidity) } :: segments

theorem traversePath_congr {solver other : Solver}
    (same : solver.liquidity = other.liquidity) (fullPath : List Address)
    (hop : Nat) (path : List OnchainLiquidity) (sellToken : Address) (sellAmount : U256) :
    solver.traversePath fullPath hop path sellToken sellAmount =
      other.traversePath fullPath hop path sellToken sellAmount := by
  induction path generalizing hop sellToken sellAmount with
  | nil => rfl
  | cons liquidity path ih => simp only [traversePath, same, ih]

section

variable (solver : Solver) (request : Request) (path : List Address)

def buyCandidate :
    Outcome Unit (List Segment × U256) := do
  let sell ← estimateSellAmount solver.onchainLiquidity request.buy.amount path
  let segments ← solver.traversePath path 0 sell.path request.sell.token
    sell.value
  if (segments.getLast?.map fun segment =>
      decide (request.buy.amount ≤ segment.output.amount)) ≠ some true then .none
  else if sell.value ≤ request.sell.amount then return (segments, sell.value)
  else .none

def sellCandidate :
    Outcome Unit (List Segment × U256) := do
  let buy ← estimateBuyAmount solver.onchainLiquidity request.sell.amount path
  let segments ← solver.traversePath path 0 buy.path request.sell.token
    request.sell.amount
  if (segments.head?.map fun segment =>
      decide (request.sell.amount ≤ segment.input.amount)) ≠ some true then .none
  else if request.buy.amount ≤ buy.value then return (segments, buy.value)
  else .none

end

def route (solver : Solver) (order : RunOrder) (request : Request)
    (maxHops : Nat) : Outcome Unit Route := do
  let candidates := solver.baseTokens.pathCandidatesWithHops order
    request.sell.token request.buy.token maxHops
  let (segments, _) ← match request.side with
    | .buy => do
      let found ← candidates.mapM (fun path =>
        (solver.buyCandidate request path).attempt)
      Outcome.ofOption (minBy compareCandidates found.reduceOption)
    | .sell => do
      let found ← candidates.mapM (fun path =>
        (solver.sellCandidate request path).attempt)
      Outcome.ofOption (maxBy compareCandidates found.reduceOption)
  Outcome.ofOption (Route.new segments)

end Solver

end MandateSolver

/-! ## Quotes of limit orders -/

namespace MandateSolver.Liquidity.LimitOrder

theorem proportional_eq_some_iff {amount numer denom result : U256} :
    (amount.checkedMul numer >>= fun product => U256.checkedDiv product denom) = some result ↔
      (amount.toNat * numer.toNat < 2 ^ 256 ∧ 0 < denom.toNat) ∧
        result.toNat = amount.toNat * numer.toNat / denom.toNat := by
  simp only [Option.bind_eq_bind, Option.bind_eq_some_iff, U256.checkedMul_eq_some_iff,
    U256.checkedDiv_eq_some_iff]
  constructor
  · intro computed
    obtain ⟨product, isProduct, positive, isQuotient⟩ := computed
    rw [isProduct] at isQuotient
    exact ⟨⟨isProduct ▸ product.isLt, positive⟩, isQuotient⟩
  · intro computed
    obtain ⟨⟨fits, positive⟩, isQuotient⟩ := computed
    obtain ⟨product, isProduct⟩ := U256.exists_toNat_eq fits
    exact ⟨product, isProduct, positive, by rw [isProduct, isQuotient]⟩

section

variable {order : LimitOrder} {inToken outToken : Address} {inAmount outAmount : U256}

theorem getAmountOut_eq_some_iff : order.getAmountOut outToken inAmount inToken = some outAmount ↔
      (inToken = order.taker.token ∧ outToken = order.maker.token ∧
        inAmount.toNat ≤ order.taker.amount.toNat) ∧
      (inAmount.toNat * order.maker.amount.toNat < 2 ^ 256 ∧
        0 < order.taker.amount.toNat) ∧ outAmount.toNat =
          inAmount.toNat * order.maker.amount.toNat / order.taker.amount.toNat := by
  rw [getAmountOut, Option.ite_none_left_eq_some, proportional_eq_some_iff, not_or, not_or,
    not_not, not_not, not_lt, BitVec.le_def]

theorem getAmountIn_eq_some_iff : order.getAmountIn inToken outAmount outToken = some inAmount ↔
      (outToken = order.maker.token ∧ inToken = order.taker.token ∧
        outAmount.toNat ≤ order.maker.amount.toNat) ∧
      (outAmount.toNat * order.taker.amount.toNat < 2 ^ 256 ∧
        0 < order.maker.amount.toNat) ∧ inAmount.toNat =
          outAmount.toNat * order.taker.amount.toNat / order.maker.amount.toNat := by
  rw [getAmountIn, Option.ite_none_left_eq_some, proportional_eq_some_iff, not_or, not_or,
    not_not, not_not, not_lt, BitVec.le_def]

/-- Two roundings give an amount back exactly if the first one divides evenly. -/
theorem le_div_of_div_iff {amount taker maker : ℕ} (takerPos : 0 < taker) :
    amount ≤ amount * taker / maker * maker / taker ↔ maker ∣ amount * taker := by
  rw [Nat.le_div_iff_mul_le takerPos]
  constructor
  · intro enough
    have same := le_antisymm (Nat.div_mul_le_self (amount * taker) maker) enough
    exact Dvd.intro_left _ same
  · intro even
    exact (Nat.div_mul_cancel even).ge

/-- The payment asked for an amount buys it, if and only if the payment was not
rounded. -/
theorem getAmountIn_covers_iff (order : LimitOrder)
    (makerPos : 0 < order.maker.amount.toNat) (takerPos : 0 < order.taker.amount.toNat)
    (inToken outToken : Address) (outAmount : U256) :
    (∀ inAmount, order.getAmountIn inToken outAmount outToken = some inAmount →
      ∃ bought, order.getAmountOut outToken inAmount inToken = some bought ∧ outAmount ≤ bought) ↔
      (inToken = order.taker.token → outToken = order.maker.token → outAmount ≤ order.maker.amount →
        outAmount.toNat * order.taker.amount.toNat < 2 ^ 256 →
        order.maker.amount.toNat ∣ outAmount.toNat * order.taker.amount.toNat) := by
  constructor
  · intro covers sells buys small fits
    obtain ⟨inAmount, isIn⟩ := U256.exists_toNat_eq
      ((Nat.div_le_self _ order.maker.amount.toNat).trans_lt fits)
    obtain ⟨bought, isBought, enough⟩ := covers inAmount
      (getAmountIn_eq_some_iff.mpr ⟨⟨buys, sells, small⟩, ⟨fits, makerPos⟩, isIn⟩)
    obtain ⟨_, _, isQuotient⟩ := getAmountOut_eq_some_iff.mp isBought
    rw [← le_div_of_div_iff takerPos, ← isIn, ← isQuotient]
    exact enough
  · intro even inAmount asked
    obtain ⟨⟨buys, sells, small⟩, ⟨fits, _⟩, isIn⟩ := getAmountIn_eq_some_iff.mp asked
    have paid := Nat.div_mul_cancel (even sells buys small fits)
    rw [← isIn] at paid
    have inFits : inAmount.toNat ≤ order.taker.amount.toNat := by
      rw [isIn]
      exact Nat.div_le_of_le_mul (Nat.mul_le_mul_right _ small)
    refine ⟨outAmount, getAmountOut_eq_some_iff.mpr
      ⟨⟨sells, buys, inFits⟩, ⟨paid ▸ fits, takerPos⟩, ?_⟩, le_refl _⟩
    rw [paid, Nat.mul_div_cancel _ takerPos]

theorem getAmountIn_covers_half :
    ∃ bought, (⟨⟨4, 2⟩, ⟨2, 1⟩, 0⟩ : LimitOrder).getAmountOut 2 1 1 = some bought ∧ 2 ≤ bought := by
  apply (getAmountIn_covers_iff ⟨⟨4, 2⟩, ⟨2, 1⟩, 0⟩ (by decide) (by decide) 1 2 2).mpr
  · intro _ _ _ _
    exact Dvd.intro 1 rfl
  · decide

end

def threeForTwo : Liquidity where
  id := "order"
  address := 7
  router := none
  state := .limitOrder ⟨⟨3, 2⟩, ⟨2, 1⟩, 0⟩

/-- The order asks one unit for two, but pays only one for it.  A buy order that is
sized by it is turned down. -/
theorem getAmountIn_asks_too_little :
    (⟨⟨3, 2⟩, ⟨2, 1⟩, 0⟩ : LimitOrder).getAmountIn 1 2 2 = some 1 ∧
      (⟨⟨3, 2⟩, ⟨2, 1⟩, 0⟩ : LimitOrder).getAmountOut 2 1 1 = some 1 ∧
      ∃ solver, Solver.new .inserted 9 [] [threeForTwo] none = (.ok solver : Outcome Unit Solver) ∧
        solver.route .inserted ⟨⟨2, 1⟩, ⟨2, 2⟩, .buy⟩ 0 = .none :=
  ⟨by decide, by decide, _, rfl, rfl⟩

end MandateSolver.Liquidity.LimitOrder
