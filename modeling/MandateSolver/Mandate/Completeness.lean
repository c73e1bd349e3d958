import MandateSolver.Mandate.Candidates

/-!
# What solving can miss

Entries with a capacity may refuse the largest output of the hop before although they accept
a smaller one.
-/

namespace MandateSolver.Mandate

open List

def entryQuote (quoter : Option UniswapV3QuoterV2) (entry : Liquidity)
    (target source : Address) (amount : U256) : Option U256 :=
  (entry.getAmountOut quoter .any target amount source).toOption

def entryLayers (entries : List Liquidity) (quoter : Option UniswapV3QuoterV2) :
    Address → List Address → List (List (U256 → Option U256))
  | _, [] => []
  | token, next :: rest =>
    entries.map (fun entry => entryQuote quoter entry next token) ::
      entryLayers entries quoter next rest

section

variable (routing : Routing) (intent : Intent) (snapshot : Snapshot)

/-- One allowed entry for each hop of some candidate path reaches the floor. -/
def Fillable : Prop :=
  ∃ rest value, CandidatePath routing intent rest ∧
    Reaches (entryLayers (allowedLiquidity intent snapshot)
      routing.uniV3QuoterV2 intent.sell.token rest) intent.sell.amount value ∧
    intent.buy.amount ≤ value

/-- Taking the largest output at each hop of some candidate path reaches the
floor. -/
def GreedilyFillable : Prop :=
  ∃ rest value, CandidatePath routing intent rest ∧
    GreedyReaches (entryLayers (allowedLiquidity intent snapshot)
      routing.uniV3QuoterV2 intent.sell.token rest) intent.sell.amount value ∧
    intent.buy.amount ≤ value

/-- No allowed entry on a candidate path refuses an amount that some choice of entries
for the hops before brings to it, or pays less for it, if it accepts a smaller such amount. -/
def AcceptsMore : Prop :=
  ∀ rest, CandidatePath routing intent rest →
    UpwardFrom (entryLayers (allowedLiquidity intent snapshot)
      routing.uniV3QuoterV2 intent.sell.token rest) [intent.sell.amount]

end

theorem AcceptsMore.greedilyFillable {routing : Routing} {intent : Intent}
    {snapshot : Snapshot} (accepts : AcceptsMore routing intent snapshot)
    (fillable : Fillable routing intent snapshot) : GreedilyFillable routing intent snapshot := by
  obtain ⟨rest, value, isCandidate, reached, floor⟩ := fillable
  obtain ⟨best, greedy, valueLe⟩ := reached.le_greedy (accepts rest isCandidate)
    (mem_singleton_self _) (mem_singleton_self _) le_rfl
  exact ⟨rest, best, isCandidate, greedy, floor.trans valueLe⟩

section

variable (entries : List Liquidity) (quoter : Option UniswapV3QuoterV2)

theorem sameResults_hop (target source : Address) :
    SameResults (((offered entries quoter).between target source).map
        (fun pool => quoteOut pool target source))
      (entries.map (fun entry => entryQuote quoter entry target source)) := by
  intro _ _
  simp only [mem_map, exists_exists_and_eq_and]
  constructor
  · intro offers
    obtain ⟨pool, mem, quoted⟩ := offers
    obtain ⟨matching, entry, entryMem, pools, converted, poolMem⟩ := mem_between_offered.mp mem
    refine ⟨entry, entryMem, ?_⟩
    rw [entryQuote, Liquidity.getAmountOut_of_mem converted poolMem matching]
    exact quoted
  · intro offers
    obtain ⟨entry, entryMem, quoted⟩ := offers
    rw [entryQuote, Outcome.toOption_eq_some_iff, Liquidity.getAmountOut,
      Outcome.bind_eq_ok_iff] at quoted
    obtain ⟨pools, converted, quoted⟩ := quoted
    rw [Outcome.bind_eq_ok_iff] at quoted
    obtain ⟨pool, isFound, quoted⟩ := quoted
    rw [Outcome.okOr_eq_ok_iff] at isFound
    have matching : TokenPair.new target source = some pool.tokenPair := by
      simpa using List.find?_some isFound
    refine ⟨pool, mem_between_offered.mpr ⟨matching, entry, entryMem, pools,
      converted, mem_of_find?_eq_some isFound⟩, ?_⟩
    rw [quoteOut, quoted]
    rfl

theorem sameResults_path (token : Address) (rest : List Address) :
    List.Forall₂ SameResults (hopLayers quoteOut (offered entries quoter) token rest)
      (entryLayers entries quoter token rest) := by
  induction rest generalizing token with
  | nil => exact .nil
  | cons next rest ih =>
    exact .cons (sameResults_hop entries quoter next token) (ih next)

end

section

variable {order : RunOrder} {routing : Routing} {intent : Intent} {snapshot : Snapshot}

/-- The best pools along a path reach what the largest outputs reach. -/
theorem exists_bestSaleAlong_iff {rest : List Address} {value : U256} :
    (∃ pools, bestSaleAlong routing intent snapshot rest = some (value, pools)) ↔
      GreedyReaches (entryLayers (allowedLiquidity intent snapshot)
        routing.uniV3QuoterV2 intent.sell.token rest) intent.sell.amount
        value := by
  rw [← greedyReaches_congr (sameResults_path _ _ _ _)]
  constructor
  · intro found
    obtain ⟨pools, best⟩ := found
    exact (greedyAlong_eq_some maxBy_choosesBest best).2
  · intro greedy
    exact greedyAlong_of_greedyReaches maxBy_choosesBest greedy

theorem exists_solve_iff (deterministic : QuoterDeterministic routing.uniV3QuoterV2)
    (representable : Representable routing intent snapshot) :
    (∃ fill, solve order routing intent snapshot = .ok fill) ↔
      GreedilyFillable routing intent snapshot := by
  obtain ⟨_, solverOk⟩ := solverOf_of_representable order representable
  constructor
  · intro solved
    obtain ⟨fill, solved⟩ := solved
    obtain ⟨_, route, otherOk, best, -⟩ := (solve_eq_ok_iff deterministic).mp solved
    obtain ⟨rest, pools, isCandidate, bestSale, floor, -, -⟩ :=
      exists_candidatePath deterministic otherOk best.mem
    exact ⟨rest, _, isCandidate, exists_bestSaleAlong_iff.mp ⟨pools, bestSale⟩, floor⟩
  · intro fillable
    obtain ⟨rest, _, isCandidate, greedy, floor⟩ := fillable
    obtain ⟨pools, best⟩ := exists_bestSaleAlong_iff.mpr greedy
    obtain ⟨_, -, mem, -⟩ :=
      exists_mem_sellFound deterministic solverOk isCandidate best floor
    rcases solve_of_solverOf deterministic solverOk with
      ⟨empty, -⟩ | ⟨route, -, solved⟩
    · rw [empty] at mem
      simp at mem
    · exact ⟨_, solved⟩

private theorem solve_withoutQuoter
    (isLocal : ∀ entry ∈ allowedLiquidity intent snapshot, entry.LocallyPriced) :
    solve order routing intent snapshot =
      solve order { routing with uniV3QuoterV2 := none } intent snapshot := by
  unfold solve Solver.new
  rw [toBoundaryLiquidity_of_locallyPriced isLocal _ none]

private theorem entryLayers_withoutQuoter {entries : List Liquidity}
    (isLocal : ∀ entry ∈ entries, entry.LocallyPriced)
    (quoter : Option UniswapV3QuoterV2) (token : Address) (rest : List Address) :
    entryLayers entries quoter token rest = entryLayers entries none token rest := by
  induction rest generalizing token with
  | nil => rfl
  | cons next rest ih =>
    rw [entryLayers, ih]
    congr 1
    apply map_congr_left
    intro entry mem
    funext amount
    rw [entryQuote, entryQuote, Liquidity.getAmountOut, Liquidity.getAmountOut,
      (isLocal entry mem).boundaryPools_eq quoter none]

/-- Over entries that are priced locally, every mandate that can be filled is solved,
unless an entry refuses more than it accepts. -/
theorem solve_complete
    (isLocal : ∀ entry ∈ allowedLiquidity intent snapshot, entry.LocallyPriced)
    (accepts : AcceptsMore routing intent snapshot) (fillable : Fillable routing intent snapshot) :
    ∃ fill, solve order routing intent snapshot = .ok fill := by
  have greedy := accepts.greedilyFillable fillable
  simp only [GreedilyFillable, entryLayers_withoutQuoter isLocal routing.uniV3QuoterV2] at greedy
  rw [solve_withoutQuoter isLocal, exists_solve_iff (by simp [QuoterDeterministic]) (Or.inl rfl)]
  exact greedy

end

/-- Two orders into the wrapped native token, and one out of it that takes no more than
its taker amount. -/
def cappedOrders (taker maker : U256) : Snapshot :=
  ⟨"node", 17, [limitOrderEntry "more" 7 ⟨100, 1⟩ ⟨200, 9⟩,
    limitOrderEntry "less" 7 ⟨100, 1⟩ ⟨150, 9⟩,
    limitOrderEntry "capped" 7 ⟨taker, 9⟩ ⟨maker, 2⟩]⟩

theorem fillable_cappedOrders {taker maker : U256}
    (pays : entryQuote none (limitOrderEntry "capped" 7 ⟨taker, 9⟩ ⟨maker, 2⟩) 2 9 150 =
      some 75) : Fillable ⟨9, [], 1, none⟩ ⟨⟨100, 1⟩, ⟨75, 2⟩, [7]⟩ (cappedOrders taker maker) := by
  refine ⟨[9, 2], 75, ⟨⟨[9], rfl, by simp, by simp⟩, by decide⟩, ?_, by decide⟩
  have allowed {entry : Liquidity} (mem : entry ∈ (cappedOrders taker maker).liquidity)
      (isVenue : entry.isVenue [7]) :
      entry ∈ allowedLiquidity ⟨⟨100, 1⟩, ⟨75, 2⟩, [7]⟩ (cappedOrders taker maker) :=
    mem_filter.mpr ⟨mem, isVenue⟩
  have less : limitOrderEntry "less" 7 ⟨100, 1⟩ ⟨150, 9⟩ ∈ _ :=
    allowed (by simp [cappedOrders]) (by decide)
  have capped : limitOrderEntry "capped" 7 ⟨taker, 9⟩ ⟨maker, 2⟩ ∈ _ :=
    allowed (by simp [cappedOrders]) (by simp [limitOrderEntry, Liquidity.isVenue])
  exact .cons (mem_map.mpr ⟨_, less, rfl⟩) (show _ = some 150 by decide +kernel)
    (.cons (mem_map.mpr ⟨_, capped, rfl⟩) pays (.nil 75))

/-- The last order takes all that the better one of the first two pays. -/
theorem solve_complete_cappedOrders :
    Fillable ⟨9, [], 1, none⟩ ⟨⟨100, 1⟩, ⟨75, 2⟩, [7]⟩ (cappedOrders 200 100) ∧
      ∃ fill, solve .inserted ⟨9, [], 1, none⟩ ⟨⟨100, 1⟩, ⟨75, 2⟩, [7]⟩
        (cappedOrders 200 100) = .ok fill := by
  have isLocal : ∀ entry ∈ allowedLiquidity ⟨⟨100, 1⟩, ⟨75, 2⟩, [7]⟩ (cappedOrders 200 100),
      entry.LocallyPriced := by
    intro entry mem _
    have inSnapshot := (mem_filter.mp mem).1
    simp only [cappedOrders, mem_cons, not_mem_nil, or_false] at inSnapshot
    rcases inSnapshot with rfl | rfl | rfl
    all_goals simp [limitOrderEntry]
  have accepts : AcceptsMore ⟨9, [], 1, none⟩ ⟨⟨100, 1⟩, ⟨75, 2⟩, [7]⟩
      (cappedOrders 200 100) := by
    intro rest isCandidate
    have listed : 1 :: rest ∈ [[1, 9, 2], [1, 2]] := mem_pathCandidates_iff.mpr isCandidate
    simp only [mem_cons, cons.injEq, true_and, not_mem_nil, or_false] at listed
    rcases listed with rfl | rfl
    all_goals decide +kernel
  have fillable := @fillable_cappedOrders 200 100 (by decide +kernel)
  exact ⟨fillable, solve_complete isLocal accepts fillable⟩

/-- The last order refuses what the better one of the first two pays. -/
theorem solve_cappedOrders :
    Fillable ⟨9, [], 1, none⟩ ⟨⟨100, 1⟩, ⟨75, 2⟩, [7]⟩ (cappedOrders 150 75) ∧
      solve .inserted ⟨9, [], 1, none⟩ ⟨⟨100, 1⟩, ⟨75, 2⟩, [7]⟩ (cappedOrders 150 75) =
        .none :=
  ⟨fillable_cappedOrders (by decide +kernel), by decide +kernel⟩

end MandateSolver.Mandate
