import MandateSolver.Boundary.SellRoutes

/-!
# Routes over monotone liquidity

When every pool accepts more than it accepts already, and never pays less for more, keeping
the best pool at every hop loses nothing.
-/

namespace MandateSolver

open List Outcome

section

variable {V L : Type} [LinearOrder V] {price : L → Address → Address → V → Option V}
  {choose : List (L × V) → Option (L × V)} {liquidity : PoolMap L}

/-- More input never gives less output. -/
def PoolMap.Upward (liquidity : PoolMap L) (price : L → Address → Address → V → Option V) : Prop :=
  ∀ target source, ∀ pool ∈ liquidity.between target source,
    UpwardMonotone (price pool target source)

theorem PoolMap.Upward.hopLayers (upward : liquidity.Upward price)
    (token : Address) (rest : List Address) :
    ∀ layer ∈ hopLayers price liquidity token rest, ∀ edge ∈ layer, UpwardMonotone edge := by
  induction rest generalizing token with
  | nil => simp [MandateSolver.hopLayers]
  | cons next rest ih =>
    intro layer layerMember edge edgeMember
    rcases mem_cons.mp layerMember with rfl | later
    · obtain ⟨pool, mem, rfl⟩ := mem_map.mp edgeMember
      exact upward next token pool mem
    · exact ih next layer later edge edgeMember

/-- Whatever a choice of pools is worth, the search finds as much. -/
theorem Walk.exists_greedyAlong (chooses : ChoosesBest choose)
    (upward : liquidity.Upward price) {token : Address} {amount value : V}
    {rest : List Address} {pools : List L}
    (walk : Walk price liquidity token amount rest pools value) :
    ∃ best bestPools, greedyAlong price choose liquidity token amount rest =
      some (best, bestPools) ∧ value ≤ best := by
  obtain ⟨best, greedy, valueLe⟩ := walk.reaches.le_greedy
    (upwardFrom_of_monotone (upward.hopLayers token rest) [amount])
    (mem_singleton_self amount) (mem_singleton_self amount) le_rfl
  obtain ⟨bestPools, found⟩ := greedyAlong_of_greedyReaches chooses greedy
  exact ⟨best, bestPools, found, valueLe⟩

end

/-! ## Sell orders -/

namespace Solver

/-- A route for the request with its output. -/
structure Sells (solver : Solver) (request : Request) (maxHops : Nat)
    (rest : List Address) (pools : List OnchainLiquidity) (value : U256) :
    Prop where
  isCandidate : SimplePath solver.baseTokens.tokens maxHops request.sell.token
    request.buy.token (request.sell.token :: rest)
  walk : Walk quoteOut solver.onchainLiquidity request.sell.token
    request.sell.amount rest pools value

section

variable {solver : Solver} {order : RunOrder} {request : Request} {maxHops : Nat}

variable (consistent : solver.Consistent)
  (priced : solver.onchainLiquidity.Priced BaselineSolvable.getAmountOut quoteOut) {value : U256}
include consistent priced

private theorem Sells.exists_mem_sellFound
    (upward : solver.onchainLiquidity.Upward quoteOut) {rest : List Address}
    {pools : List OnchainLiquidity}
    (sells : solver.Sells request maxHops rest pools value) (floor : request.buy.amount ≤ value) :
    ∃ segments best, (segments, best) ∈ solver.sellFound order request maxHops ∧ value ≤ best := by
  obtain ⟨best, _, found, valueLe⟩ := sells.walk.exists_greedyAlong maxBy_choosesBest upward
  obtain ⟨segments, success, -⟩ := sellCandidate_of_bestSale consistent priced
    request sells.isCandidate.rest_ne_nil found (floor.trans valueLe)
  exact ⟨segments, best, mem_sellFound.mpr ⟨_, sells.isCandidate, success⟩, valueLe⟩

private theorem sells_of_mem_sellFound {segments : List Segment}
    (mem : (segments, value) ∈ solver.sellFound order request maxHops) :
    ∃ rest pools, solver.Sells request maxHops rest pools value ∧ request.buy.amount ≤ value := by
  obtain ⟨rest, pools, isCandidate, best, -, -, floor⟩ :=
    exists_replays_of_mem_sellFound consistent priced mem
  exact ⟨rest, pools, ⟨isCandidate, (greedyAlong_eq_some maxBy_choosesBest best).1⟩, floor⟩

/-- A sell order is routed exactly when some choice of pools reaches its
floor, and then the route is worth the most of all choices. -/
structure SellOptimal (solver : Solver) (order : RunOrder) (request : Request)
    (maxHops : Nat) : Prop where
  routed_iff : (∃ route, solver.route order request maxHops = .ok route) ↔
    ∃ rest pools value, solver.Sells request maxHops rest pools value ∧ request.buy.amount ≤ value
  greatest : ∀ route, solver.route order request maxHops = .ok route →
    IsGreatest {value | ∃ rest pools,
      solver.Sells request maxHops rest pools value} route.output.amount

theorem sellOptimal
    (isSell : request.side = .sell) (upward : solver.onchainLiquidity.Upward quoteOut) :
    solver.SellOptimal order request maxHops := by
  constructor
  case routed_iff =>
    constructor
    · intro routed
      obtain ⟨route, routed⟩ := routed
      have best := (route_sell_eq_ok_iff consistent priced isSell).mp routed
      obtain ⟨rest, pools, sells, floor⟩ := sells_of_mem_sellFound consistent priced best.mem
      exact ⟨rest, pools, _, sells, floor⟩
    · intro sold
      obtain ⟨rest, pools, value, sells, floor⟩ := sold
      obtain ⟨segments, best, mem, -⟩ := sells.exists_mem_sellFound consistent priced upward floor
      exact exists_route_of_sellFound consistent priced isSell (ne_nil_of_mem mem)
  case greatest =>
    intro route routed
    have best := (route_sell_eq_ok_iff consistent priced isSell).mp routed
    obtain ⟨rest, pools, sells, floor⟩ := sells_of_mem_sellFound consistent priced best.mem
    refine ⟨⟨rest, pools, sells⟩, ?_⟩
    intro value sold
    obtain ⟨_, _, otherSells⟩ := sold
    by_cases covers : request.buy.amount ≤ value
    · obtain ⟨segments, _, mem, valueLe⟩ :=
        otherSells.exists_mem_sellFound consistent priced upward covers
      exact valueLe.trans (le_of_compareCandidates_ne_gt (best.not_gt _ mem))
    · exact (not_le.mp covers).le.trans floor

end

end Solver

/-! ## Buy orders -/

section

variable {L : Type} [BaselineSolvable L] {liquidity : PoolMap L}

/-- Less output never takes more input. -/
def PoolMap.Downward (liquidity : PoolMap L) : Prop :=
  ∀ target source, ∀ pool ∈ liquidity.between target source,
    ∀ larger smaller input, smaller ≤ larger → quoteIn pool target source larger = some input →
      ∃ less, quoteIn pool target source smaller = some less ∧ less ≤ input

/-- Pools along a path, backwards from the bought amount. -/
abbrev Buys (liquidity : PoolMap L) (buyToken : Address) (buyAmount : U256)
    (rest : List Address) (pools : List L) (value : U256) : Prop :=
  Walk quoteIn liquidity buyToken buyAmount rest pools value

theorem estimateSellAmount_eq (priced : liquidity.Priced BaselineSolvable.getAmountIn quoteIn)
    (buyAmount : U256) (buyToken : Address) (rest : List Address) :
    estimateSellAmount liquidity buyAmount (buyToken :: rest).reverse =
      ofOption ((greedyAlong quoteIn (minBy (compareOn Prod.snd))
        liquidity buyToken buyAmount rest).map fun found => ⟨found.1, found.2.reverse⟩) := by
  have found : greedyHops BaselineSolvable.getAmountIn
      (minBy (compareOn Prod.snd)) liquidity (buyToken :: rest).reverse 0
      buyAmount buyToken [] rest =
        ofOption ((greedyAlong quoteIn (minBy (compareOn Prod.snd))
          liquidity buyToken buyAmount rest).map fun found => ⟨found.1, [] ++ found.2⟩) :=
    greedyHops_eq (V := U256ᵒᵈ) priced minBy_choosesBest _ _ _ _ _ _
  unfold estimateSellAmount
  simp only [reverse_reverse, found]
  cases greedyAlong quoteIn (minBy (compareOn Prod.snd)) liquidity buyToken buyAmount rest with
  | none | some found => rfl

/-- Whatever a choice of pools asks for, the search asks for no more. -/
private theorem Buys.exists_greedyAlong (downward : liquidity.Downward)
    {buyToken : Address} {buyAmount value : U256} {rest : List Address} {pools : List L}
    (buys : Buys liquidity buyToken buyAmount rest pools value) :
    ∃ best bestPools, greedyAlong quoteIn (minBy (compareOn Prod.snd))
      liquidity buyToken buyAmount rest = some (best, bestPools) ∧ best ≤ value :=
  Walk.exists_greedyAlong (V := U256ᵒᵈ) minBy_choosesBest
    (fun target source pool mem larger smaller input =>
      downward target source pool mem larger smaller input) buys

/-- The estimate is the least input of any choice of pools. -/
structure BuyOptimal (liquidity : PoolMap L) (buyToken : Address)
    (buyAmount : U256) (rest : List Address) : Prop where
  least : ∀ estimate, estimateSellAmount liquidity buyAmount (buyToken :: rest).reverse =
      .ok estimate →
    Buys liquidity buyToken buyAmount rest estimate.path.reverse estimate.value ∧
      IsLeast {value | ∃ pools, Buys liquidity buyToken buyAmount rest pools
        value} estimate.value
  none_iff : estimateSellAmount liquidity buyAmount (buyToken :: rest).reverse = .none ↔
    ¬ ∃ pools value, Buys liquidity buyToken buyAmount rest pools value

theorem buyOptimal (priced : liquidity.Priced BaselineSolvable.getAmountIn quoteIn)
    (downward : liquidity.Downward) (buyToken : Address) (buyAmount : U256) (rest : List Address) :
    BuyOptimal liquidity buyToken buyAmount rest := by
  constructor
  case least =>
    intro _ estimated
    rw [estimateSellAmount_eq priced, okOr_eq_ok_iff, Option.map_eq_some_iff] at estimated
    obtain ⟨⟨value, pools⟩, found, rfl⟩ := estimated
    have buys : Buys liquidity buyToken buyAmount rest pools value :=
      (greedyAlong_eq_some (V := U256ᵒᵈ) minBy_choosesBest found).1
    refine ⟨by simpa using buys, ⟨pools, buys⟩, ?_⟩
    intro _ bought
    obtain ⟨_, otherBuys⟩ := bought
    obtain ⟨best, bestPools, otherFound, bestLe⟩ := otherBuys.exists_greedyAlong downward
    rw [found] at otherFound
    cases otherFound
    exact bestLe
  case none_iff =>
    rw [estimateSellAmount_eq priced]
    constructor
    · intro absent bought
      obtain ⟨pools, value, buys⟩ := bought
      obtain ⟨best, bestPools, found, -⟩ := buys.exists_greedyAlong downward
      rw [found] at absent
      cases absent
    · intro unbought
      cases found : greedyAlong quoteIn (minBy (compareOn Prod.snd)) liquidity
          buyToken buyAmount rest with
      | none => rfl
      | some best =>
        exact absurd ⟨best.2, best.1, (greedyAlong_eq_some (V := U256ᵒᵈ) minBy_choosesBest found).1⟩
          unbought

end

/-- Both directions of the baseline router are optimal under monotone
liquidity. -/
theorem baseline_optimal : (∀ solver : Solver, solver.Consistent →
      solver.onchainLiquidity.Priced BaselineSolvable.getAmountOut quoteOut →
      solver.onchainLiquidity.Upward quoteOut →
      ∀ order request maxHops, request.side = .sell → solver.SellOptimal order request maxHops) ∧
    ∀ (L : Type) [BaselineSolvable L] (liquidity : PoolMap L),
      liquidity.Priced BaselineSolvable.getAmountIn quoteIn →
      liquidity.Downward →
      ∀ buyToken buyAmount rest, BuyOptimal liquidity buyToken buyAmount rest :=
  ⟨fun _ consistent priced upward _ _ _ isSell =>
    Solver.sellOptimal consistent priced isSell upward,
    fun _ _ _ priced downward => buyOptimal priced downward⟩

def parQuoter : UniswapV3QuoterV2 :=
  ⟨fun _ params => some params.amount, fun _ params => some params.amount⟩

/-- Two pools, so that the first token is sold for the third over the second. -/
def parEntries : List Liquidity :=
  [⟨"near", 7, none, .concentrated ⟨⟨1, 2, by decide⟩, 500⟩⟩,
    ⟨"far", 8, none, .concentrated ⟨⟨2, 3, by decide⟩, 500⟩⟩]

variable {pool : OnchainLiquidity}

private theorem source_of_parEntries {solver : Solver}
    (built : solver.BuiltFrom parEntries (some parQuoter)) {target source : Address}
    (mem : pool ∈ solver.onchainLiquidity.between target source) :
    ∃ address pair, pool.source = .concentrated ⟨parQuoter, address, pair, 500⟩ := by
  obtain ⟨-, _, entryMem, _, converted, poolMem⟩ := built.mem_between.mp mem
  simp only [parEntries, mem_cons, not_mem_nil, or_false] at entryMem
  rcases entryMem with rfl | rfl
  all_goals
    cases converted
    obtain rfl := mem_singleton.mp poolMem
    exact ⟨_, _, rfl⟩

private theorem quotes_of_parEntries {solver : Solver}
    (built : solver.BuiltFrom parEntries (some parQuoter)) {target source : Address}
    (mem : pool ∈ solver.onchainLiquidity.between target source) :
    (∃ trades : Bool, ∀ amount, quoteOut pool target source amount =
        if trades then some amount else none) ∧
      ∃ trades : Bool, ∀ call amount, BaselineSolvable.getAmountIn pool call target amount source =
          ofOption (if trades then some amount else none) := by
  obtain ⟨_, pair, isSource⟩ := source_of_parEntries built mem
  constructor
  · refine ⟨TokenPair.new target source = some pair, ?_⟩
    intro amount
    change (pool.source.getAmountOut .any target amount source).toOption = _
    rw [isSource]
    simp only [LiquiditySource.getAmountOut, toOption_okOr,
      ConcentratedPool.getAmountOut, ite_not, decide_eq_true_eq]
    rfl
  · refine ⟨TokenPair.new source target = some pair, ?_⟩
    intro call amount
    change pool.source.getAmountIn call target amount source = _
    rw [isSource]
    simp only [LiquiditySource.getAmountIn, ConcentratedPool.getAmountIn,
      ite_not, decide_eq_true_eq]
    rfl

theorem baseline_optimal_par : ∃ solver : Solver, solver.BuiltFrom parEntries (some parQuoter) ∧
    (∃ route, solver.route .inserted ⟨⟨100, 1⟩, ⟨90, 3⟩, .sell⟩ 1 = .ok route ∧
      route.output.amount = 100) ∧
    solver.SellOptimal .inserted ⟨⟨100, 1⟩, ⟨90, 3⟩, .sell⟩ 1 ∧
    BuyOptimal solver.onchainLiquidity 3 100 [2, 1] := by
  obtain ⟨solver, success, route⟩ : ∃ solver, Solver.new .inserted 9 [2] parEntries
      (some parQuoter) = .ok solver ∧ ∃ route, solver.route .inserted
        ⟨⟨100, 1⟩, ⟨90, 3⟩, .sell⟩ 1 = .ok route ∧ route.output.amount = 100 :=
    ⟨_, rfl, _, rfl, rfl⟩
  obtain ⟨built, -⟩ := Solver.new_eq_ok success
  refine ⟨solver, built, route, baseline_optimal.1 solver built.consistent (built.priced ?_) ?_
    _ _ _ rfl, baseline_optimal.2 _ solver.onchainLiquidity ?_ ?_ _ _ _⟩
  · intro _ configured
    cases configured
    intro call _ _
    rfl
  · intro target source pool mem _ upper _ lowerLe quoted
    obtain ⟨⟨trades, pays⟩, -⟩ := quotes_of_parEntries built mem
    rw [pays] at quoted ⊢
    cases trades with
    | false => cases quoted
    | true =>
      cases quoted
      exact ⟨upper, rfl, lowerLe⟩
  · intro target source pool mem call _
    obtain ⟨-, trades, asks⟩ := quotes_of_parEntries built mem
    rw [quoteIn, asks, asks, toOption_okOr]
  · intro target source pool mem _ smaller _ smallerLe quoted
    obtain ⟨-, trades, asks⟩ := quotes_of_parEntries built mem
    rw [quoteIn, asks] at quoted ⊢
    cases trades with
    | false => cases quoted
    | true =>
      cases quoted
      exact ⟨smaller, rfl, smallerLe⟩

end MandateSolver
