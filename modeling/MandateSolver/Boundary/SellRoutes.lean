import MandateSolver.Boundary.Solver

/-!
# What the solver returns for a sell order

The replay of a path repeats the amounts of its estimate.  The last best of the candidates
that reach the floor is the answer.
-/

namespace MandateSolver.Solver

open Outcome List

/-! ## What the constructor establishes -/

/-- A solver as it is made from the liquidity of a request. -/
structure BuiltFrom (solver : Solver) (entries : List Liquidity)
    (quoter : Option UniswapV3QuoterV2) : Prop where
  onchain : toBoundaryLiquidity entries quoter =
    (.ok solver.onchainLiquidity : Outcome Unit (PoolMap OnchainLiquidity))
  byId : solver.liquidity = liquidityById entries

variable {entries : List Liquidity} {entry : Liquidity} {solver : Solver}

theorem new_eq_ok {order : RunOrder} {weth : Address}
    {baseTokens : List Address} {quoter : Option UniswapV3QuoterV2} {solver : Solver}
    (success : new order weth baseTokens entries quoter = (.ok solver : Outcome Unit Solver)) :
    solver.BuiltFrom entries quoter ∧ solver.baseTokens =
        BaseTokens.new weth (order.baseTokens.iter baseTokens) := by
  rw [new, bind_eq_ok_iff] at success
  obtain ⟨_, converted, success⟩ := success
  cases success
  exact ⟨⟨converted, rfl⟩, rfl⟩

private theorem foldl_byId_spec (start : String → Option Liquidity)
    (entries : List Liquidity) (id : String) :
    (entries.foldl (fun byId entry id =>
        if id = entry.id then some entry else byId id) start id = start id ∧
      ∀ entry ∈ entries, entry.id ≠ id) ∨
    ∃ entry ∈ entries, entry.id = id ∧ entries.foldl (fun byId entry id =>
        if id = entry.id then some entry else byId id) start id = some entry := by
  induction entries generalizing start with
  | nil => simp
  | cons entry entries ih =>
    rw [foldl_cons]
    rcases ih (fun id => if id = entry.id then some entry else start id)
      with ⟨unchanged, absent⟩ | ⟨later, mem, sameId, found⟩
    · by_cases same : id = entry.id
      · refine Or.inr ⟨entry, by simp, same.symm, ?_⟩
        rw [unchanged, if_pos same]
      · refine Or.inl ⟨by rw [unchanged, if_neg same], ?_⟩
        intro other mem
        rcases mem_cons.mp mem with rfl | later
        · exact fun sameId => same sameId.symm
        · exact absent other later
    · exact Or.inr ⟨later, by simp [mem], sameId, found⟩

theorem mem_of_liquidityById {id : String} (found : liquidityById entries id = some entry) :
    entry ∈ entries ∧ entry.id = id := by
  rcases foldl_byId_spec (fun _ => none) entries id with
    ⟨absent, -⟩ | ⟨other, mem, sameId, present⟩
  · rw [liquidityById, absent] at found
    cases found
  · rw [liquidityById, present] at found
    cases found
    exact ⟨mem, sameId⟩

theorem liquidityById_of_mem (mem : entry ∈ entries) :
    ∃ reference, liquidityById entries entry.id = some reference := by
  rcases foldl_byId_spec (fun _ => none) entries entry.id with
    ⟨-, absent⟩ | ⟨other, -, -, present⟩
  · exact absurd rfl (absent entry mem)
  · exact ⟨other, present⟩

section

variable {entries : List Liquidity} {quoter : Option UniswapV3QuoterV2}

theorem BuiltFrom.mem_between (built : solver.BuiltFrom entries quoter)
    {target source : Address} {pool : OnchainLiquidity} :
    pool ∈ solver.onchainLiquidity.between target source ↔
      TokenPair.new target source = some pool.tokenPair ∧ ∃ entry ∈ entries, ∃ pools,
          (entry.boundaryPools quoter : Outcome Unit (List OnchainLiquidity)) =
            .ok pools ∧ pool ∈ pools :=
  by rw [between_toBoundaryLiquidity built.onchain, mem_between_offered]

theorem BuiltFrom.priced (built : solver.BuiltFrom entries quoter)
    (deterministic : QuoterDeterministic quoter) :
    solver.onchainLiquidity.Priced BaselineSolvable.getAmountOut quoteOut :=
  toBoundaryLiquidity_priced built.onchain deterministic

/-- Every pool that a step can use leads along the step, has a reference under
its id, and prices the step without aborting. -/
structure Consistent (solver : Solver) : Prop where
  other : ∀ {target source pool}, pool ∈ solver.onchainLiquidity.between target source →
    pool.tokenPair.other source = some target
  reference : ∀ {target source pool}, pool ∈ solver.onchainLiquidity.between target source →
    ∃ reference, solver.liquidity pool.id = some reference ∧ reference.id = pool.id
  safe : ∀ target source, ∀ pool ∈ solver.onchainLiquidity.between target source,
    ∀ call amount, NoPanic (BaselineSolvable.getAmountOut pool call target amount source)

theorem BuiltFrom.consistent (built : solver.BuiltFrom entries quoter) : solver.Consistent := by
  constructor
  case other =>
    intro target source pool mem
    exact TokenPair.other_of_new (built.mem_between.mp mem).1
  case reference =>
    intro target source pool mem
    obtain ⟨-, _, entryMem, _, converted, poolMem⟩ := built.mem_between.mp mem
    have sameId := Liquidity.id_of_mem_boundaryPools converted poolMem
    obtain ⟨reference, found⟩ := liquidityById_of_mem entryMem
    rw [built.byId, sameId]
    exact ⟨reference, found, (mem_of_liquidityById found).2⟩
  case safe =>
    intro target source pool mem call amount
    exact OnchainLiquidity.getAmountOut_noPanic (built.mem_between.mp mem).1 call amount

end

section

variable {pools : List OnchainLiquidity} {rest : List Address} {token : Address}

/-! ## Replaying a path -/

theorem traversePath_noPanic (consistent : solver.Consistent)
    (along : Along solver.onchainLiquidity token rest pools)
    (fullPath : List Address) (hop : Nat) (amount : U256) :
    NoPanic (solver.traversePath fullPath hop pools token amount) := by
  induction along generalizing hop amount with
  | nil => simp [traversePath]
  | @cons token next rest pool pools mem _ ih =>
    obtain ⟨reference, found, -⟩ := consistent.reference mem
    rw [traversePath, found, consistent.other mem]
    refine (consistent.safe _ _ _ mem _ _).seq fun output => ?_
    exact (ih (hop + 1) output).seq (by simp)

/-- The segments that computing the amounts once more returns. -/
inductive Replays (solver : Solver) :
    Address → U256 → List Address → List OnchainLiquidity → List Segment → U256 → Prop where
  | nil (token : Address) (amount : U256) : Replays solver token amount [] [] [] amount
  | cons {token next : Address} {amount output value : U256}
      {rest : List Address} {pool : OnchainLiquidity}
      {pools : List OnchainLiquidity} {segment : Segment}
      {segments : List Segment} :
      pool ∈ solver.onchainLiquidity.between next token →
      quoteOut pool next token amount = some output →
      solver.liquidity pool.id = some segment.liquidity →
      segment.liquidity.id = pool.id →
      segment.input = ⟨amount, token⟩ →
      segment.output = ⟨output, next⟩ →
      Replays solver next output rest pools segments value →
      Replays solver token amount (next :: rest) (pool :: pools) (segment :: segments) value

variable {value : U256} {segments : List Segment}

theorem traversePath_of_walk (consistent : solver.Consistent)
    (priced : solver.onchainLiquidity.Priced BaselineSolvable.getAmountOut quoteOut)
    {amount : U256} (walk : Walk quoteOut solver.onchainLiquidity token amount rest pools value)
    (fullPath : List Address) (hop : Nat) :
    ∃ segments, solver.traversePath fullPath hop pools token amount = .ok segments ∧
        Replays solver token amount rest pools segments value := by
  induction walk generalizing hop with
  | nil token amount => exact ⟨[], rfl, .nil _ _⟩
  | @cons token next amount output value rest pool pools mem quoted _ ih =>
    obtain ⟨reference, found, sameId⟩ := consistent.reference mem
    obtain ⟨segments, traversed, replays⟩ := ih (hop + 1)
    refine ⟨⟨reference, ⟨amount, token⟩, ⟨output, next⟩,
      BitVec.ofNat 256 (BaselineSolvable.gasCost pool)⟩ :: segments, ?_, ?_⟩
    · rw [traversePath, found, consistent.other mem]
      simp only [expect_some, ok_bind]
      rw [priced next token pool mem, quoted]
      simp only [okOr_some, ok_bind, traversed, pure_eq]
    · exact .cons mem quoted found sameId rfl rfl replays

section

variable {amount value : U256} {replays : Replays solver token amount rest pools segments value}

section

variable (replays)
include replays

theorem Replays.outputTokens : segments.map (·.output.token) = rest := by
  induction replays with
  | nil => rfl
  | cons _ _ _ _ _ output _ ih => simp [output, ih]

theorem Replays.along : Along solver.onchainLiquidity token rest pools := by
  induction replays with
  | nil => exact .nil _
  | cons mem _ _ _ _ _ _ ih => exact .cons mem ih

theorem Replays.pathKey_eq : pathKey segments = pools.map (·.id) := by
  induction replays with
  | nil => rfl
  | cons _ _ _ sameId _ _ _ ih =>
    simp only [pathKey, map_cons, sameId] at ih ⊢
    rw [ih]

end

variable {segment : Segment}

section

variable (replays)
include replays

theorem Replays.head_input (isHead : segments.head? = some segment) :
    segment.input = ⟨amount, token⟩ := by
  cases replays with
  | nil => cases isHead
  | cons _ _ _ _ input _ _ =>
    cases isHead
    exact input

theorem Replays.chained : segments.IsChain (fun first second => first.output = second.input) := by
  induction replays with
  | nil => exact .nil
  | cons _ _ _ _ _ output later ih =>
    rw [isChain_cons]
    refine ⟨fun second isHead => ?_, ih⟩
    rw [output, later.head_input isHead]

theorem Replays.last_output (isLast : segments.getLast? = some segment) :
    segment.output.amount = value := by
  induction replays with
  | nil => cases isLast
  | @cons _ _ _ _ _ _ _ _ _ segments _ _ _ _ _ output later ih =>
    cases segments with
    | nil =>
      cases later
      obtain rfl := Option.some.inj isLast
      simp [output]
    | cons => exact ih (by simpa using isLast)

theorem Replays.pool_of_mem (mem : segment ∈ segments) :
    ∃ pool ∈ solver.onchainLiquidity.between segment.output.token segment.input.token,
      pool.id = segment.liquidity.id ∧ quoteOut pool segment.output.token segment.input.token
          segment.input.amount = some segment.output.amount := by
  induction replays with
  | nil => simp at mem
  | cons poolMem quoted _ sameId input output _ ih =>
    rcases mem_cons.mp mem with rfl | later
    · rw [input, output]
      exact ⟨_, poolMem, sameId.symm, quoted⟩
    · exact ih later

end

end

/-! ## Candidates of a sell order -/

theorem sellCandidate_noPanic (consistent : solver.Consistent) (request : Request) :
    NoPanic (solver.sellCandidate request (request.sell.token :: rest)) := by
  refine (estimateBuyAmount_noPanic consistent.safe _ _).bind fun buy estimated => ?_
  refine (traversePath_noPanic consistent (estimateBuyAmount_along estimated)
    _ _ _).seq fun segments => ?_
  split
  · simp
  · split <;> simp

variable {request : Request}

section

variable (consistent : solver.Consistent)
  (priced : solver.onchainLiquidity.Priced BaselineSolvable.getAmountOut quoteOut)
include consistent priced

/-- A candidate of a sell order replays the best pools along its path, from
the whole sell amount to a value at or above the floor. -/
theorem sellCandidate_eq_ok
    (success : solver.sellCandidate request (request.sell.token :: rest) = .ok (segments, value)) :
    ∃ pools, bestSale solver.onchainLiquidity request.sell.token request.sell.amount
        rest = some (value, pools) ∧
      Replays solver request.sell.token request.sell.amount rest pools segments value ∧
      segments ≠ [] ∧ request.buy.amount ≤ value := by
  simp only [sellCandidate, bind_eq_ok_iff] at success
  obtain ⟨buy, estimated, traversed, traversedOk, success⟩ := success
  rw [estimateBuyAmount_eq priced, okOr_eq_ok_iff, Option.map_eq_some_iff] at estimated
  obtain ⟨⟨bestValue, pools⟩, best, rfl⟩ := estimated
  obtain ⟨walk, -⟩ := greedyAlong_eq_some maxBy_choosesBest best
  obtain ⟨replayed, replayedOk, replays⟩ := traversePath_of_walk consistent priced walk _ _
  rw [replayedOk] at traversedOk
  cases traversedOk
  split at success
  · cases success
  · rename_i covered
    split at success
    · rename_i floor
      cases success
      refine ⟨pools, best, replays, ?_, floor⟩
      rintro rfl
      simp at covered
    · cases success

theorem sellCandidate_of_bestSale (request : Request)
    (nonempty : rest ≠ []) (best : bestSale solver.onchainLiquidity request.sell.token
      request.sell.amount rest = some (value, pools)) (floor : request.buy.amount ≤ value) :
    ∃ segments, solver.sellCandidate request (request.sell.token :: rest) = .ok (segments, value) ∧
      Replays solver request.sell.token request.sell.amount rest pools segments
        value := by
  obtain ⟨walk, -⟩ := greedyAlong_eq_some maxBy_choosesBest best
  obtain ⟨segments, traversed, replays⟩ := traversePath_of_walk consistent priced walk
      (request.sell.token :: rest) 0
  refine ⟨segments, ?_, replays⟩
  rw [sellCandidate, estimateBuyAmount_eq priced, best]
  simp only [Option.map_some, okOr_some, ok_bind, traversed]
  cases replays with
  | nil => exact absurd rfl nonempty
  | cons _ _ _ _ input _ _ => simp [input, floor]

end

theorem sellCandidate_floor (solver : Solver) (request : Request) (path : List Address) :
    (solver.sellCandidate request path).toOption = (solver.sellCandidate
        { request with buy := ⟨0, request.buy.token⟩ } path).toOption.filter
          (fun candidate => request.buy.amount ≤ candidate.2) := by
  unfold sellCandidate
  cases estimateBuyAmount solver.onchainLiquidity request.sell.amount path with
  | err | panic => rfl
  | ok buy =>
    simp only [ok_bind]
    cases solver.traversePath path 0 buy.path request.sell.token request.sell.amount with
    | err | panic => rfl
    | ok segments =>
      simp only [ok_bind]
      split
      · rfl
      · have floorless : 0 ≤ buy.value := Nat.zero_le _
        rw [if_pos floorless]
        by_cases floor : request.buy.amount ≤ buy.value
        · simp [floor, toOption, Option.filter]
        · simp [floor, toOption, Option.filter]

/-! ## The route of a sell order -/

def sellFound (solver : Solver) (order : RunOrder) (request : Request)
    (maxHops : Nat) : List (List Segment × U256) :=
  (solver.baseTokens.pathCandidatesWithHops order request.sell.token
    request.buy.token maxHops).filterMap (fun path => (solver.sellCandidate request path).toOption)

variable {order : RunOrder} {maxHops : Nat}

theorem mem_sellFound {candidate : List Segment × U256} :
    candidate ∈ solver.sellFound order request maxHops ↔
      ∃ path, SimplePath solver.baseTokens.tokens maxHops request.sell.token
          request.buy.token path ∧
        solver.sellCandidate request path = .ok candidate := by
  simp only [sellFound, mem_filterMap, BaseTokens.mem_pathCandidatesWithHops, toOption_eq_some_iff]

theorem sellFound_floor (solver : Solver) (order : RunOrder) (request : Request) (maxHops : Nat) :
    solver.sellFound order request maxHops = (solver.sellFound order
        { request with buy := ⟨0, request.buy.token⟩ } maxHops).filter
          (fun candidate => request.buy.amount ≤ candidate.2) := by
  unfold sellFound
  rw [filter_filterMap]
  exact filterMap_congr fun path _ => sellCandidate_floor solver request path

section

variable (consistent : solver.Consistent)
include consistent

theorem route_sell_eq (isSell : request.side = .sell) :
    solver.route order request maxHops = ofOption ((maxBy compareCandidates
        (solver.sellFound order request maxHops)).bind (fun best => Route.new best.1)) := by
  have safe : ∀ path ∈ solver.baseTokens.pathCandidatesWithHops order
      request.sell.token request.buy.token maxHops,
      NoPanic (solver.sellCandidate request path) := by
    intro path mem
    obtain ⟨⟨_, rfl, -, -⟩, -⟩ := BaseTokens.mem_pathCandidatesWithHops.mp mem
    exact sellCandidate_noPanic consistent request
  unfold route
  rw [isSell]
  simp only
  rw [mapM_attempt_of_noPanic safe, ok_bind, List.reduceOption, filterMap_map]
  change ofOption
    (maxBy compareCandidates (solver.sellFound order request maxHops)) >>= _ = _
  cases maxBy compareCandidates (solver.sellFound order request maxHops) <;> rfl

section

variable (priced : solver.onchainLiquidity.Priced BaselineSolvable.getAmountOut quoteOut)
include priced

/-- What is known of a candidate that covers the order. -/
theorem exists_replays_of_mem_sellFound
    (mem : (segments, value) ∈ solver.sellFound order request maxHops) :
    ∃ rest pools, SimplePath solver.baseTokens.tokens maxHops request.sell.token
        request.buy.token (request.sell.token :: rest) ∧
      bestSale solver.onchainLiquidity request.sell.token request.sell.amount
        rest = some (value, pools) ∧
      Replays solver request.sell.token request.sell.amount rest pools segments value ∧
      segments ≠ [] ∧ request.buy.amount ≤ value := by
  obtain ⟨_, simplePath, success⟩ := mem_sellFound.mp mem
  obtain ⟨_, rfl, -, -⟩ := simplePath.exists_middle
  obtain ⟨pools, best, replays, nonempty, floor⟩ := sellCandidate_eq_ok consistent priced success
  exact ⟨_, pools, simplePath, best, replays, nonempty, floor⟩

/-- The solver returns the last best of the candidates. -/
theorem route_sell_eq_ok_iff (isSell : request.side = .sell) {route : Route} :
    solver.route order request maxHops = .ok route ↔
      IsLastMax compareCandidates (solver.sellFound order request maxHops)
        (route.segments, route.output.amount) := by
  have outputAmount {route : Route} {value : U256} (mem : (route.segments, value) ∈
        solver.sellFound order request maxHops) :
      route.output.amount = value := by
    obtain ⟨_, _, -, -, replays, -⟩ := exists_replays_of_mem_sellFound consistent priced mem
    exact replays.last_output (List.getLast?_eq_getLast_of_ne_nil route.nonempty)
  rw [route_sell_eq consistent isSell, okOr_eq_ok_iff, Option.bind_eq_some_iff]
  constructor
  · rintro ⟨⟨segments, value⟩, best, isRoute⟩
    rw [maxBy_eq_some_iff] at best
    unfold Route.new at isRoute
    split at isRoute
    · obtain rfl := Option.some.inj isRoute
      rw [outputAmount best.mem]
      exact best
    · cases isRoute
  · intro best
    refine ⟨_, maxBy_eq_some_iff.mpr best, ?_⟩
    simp [Route.new, route.nonempty]

theorem exists_route_of_sellFound
    (isSell : request.side = .sell) (nonempty : solver.sellFound order request maxHops ≠ []) :
    ∃ route, solver.route order request maxHops = .ok route := by
  cases best : maxBy compareCandidates (solver.sellFound order request maxHops) with
  | none => exact absurd (maxBy_eq_none_iff.mp best) nonempty
  | some candidate =>
    obtain ⟨_, _, -, -, -, segmentsNonempty, -⟩ :=
      exists_replays_of_mem_sellFound consistent priced (maxBy_eq_some_iff.mp best).mem
    rw [route_sell_eq consistent isSell, best]
    simp [Route.new, segmentsNonempty]

end

end

theorem route_sell_noPanic (consistent : solver.Consistent) (isSell : request.side = .sell) :
    NoPanic (solver.route order request maxHops) := by
  rw [route_sell_eq consistent isSell]
  simp

end

end MandateSolver.Solver
