import MandateSolver.Mandate.Solve

/-!
# The candidates of a mandate

Facts about a run that only speak of the configuration, the intent and the snapshot: it
returns an offer that no other beats, and each such offer is returned by some run.
-/

namespace MandateSolver.Mandate

section

variable (routing : Routing) (intent : Intent)

/-- A simple path over base tokens from the sold to the bought token. -/
def CandidatePath (rest : List Address) : Prop :=
  SimplePath (routing.weth :: routing.baseTokens) routing.maxHops
    intent.sell.token intent.buy.token (intent.sell.token :: rest)

/-- The best sale along one path. -/
def bestSaleAlong (snapshot : Snapshot)
    (rest : List Address) : Option (U256 × List OnchainLiquidity) :=
  bestSale (offered (allowedLiquidity intent snapshot) routing.uniV3QuoterV2)
    intent.sell.token intent.sell.amount rest

/-- What is bought along a path, and through which pools. -/
def offerAlong (snapshot : Snapshot) (rest : List Address) : Option (U256 × List String) :=
  (bestSaleAlong routing intent snapshot rest).map (fun found => (found.1, found.2.map (·.id)))

end

/-- By what is bought, then by the pools. -/
def compareOffers : U256 × List String → U256 × List String → Ordering :=
  compareLex (compareOn Prod.fst) (compareOn Prod.snd)

/-- Another candidate has a better offer. -/
def Beaten (routing : Routing) (intent : Intent) (snapshot : Snapshot)
    (offer : U256 × List String) : Prop :=
  ∃ rest better, CandidatePath routing intent rest ∧
    offerAlong routing intent snapshot rest = some better ∧
    compareOffers offer better = .lt

section

variable {order : RunOrder} {routing : Routing} {intent : Intent}
  {snapshot : Snapshot} {solver : Solver}

variable {rest : List Address}

section

variable (solverOk : solverOf order routing intent snapshot = .ok solver)
include solverOk

theorem simplePath_iff_candidatePath :
    SimplePath solver.baseTokens.tokens routing.maxHops intent.sell.token
        intent.buy.token (intent.sell.token :: rest) ↔
      CandidatePath routing intent rest := by
  obtain ⟨-, tokens⟩ := solverOf_eq_ok solverOk
  constructor
  · refine SimplePath.mono fun token mem => ?_
    rcases (tokens token).mp mem with isBase | rfl
    · exact List.mem_cons_of_mem _ isBase
    · exact List.mem_cons_self
  · refine SimplePath.mono fun token mem => (tokens token).mpr ?_
    rcases List.mem_cons.mp mem with rfl | isBase
    · exact Or.inr rfl
    · exact Or.inl isBase

theorem bestSale_eq_bestSaleAlong (rest : List Address) :
    bestSale solver.onchainLiquidity intent.sell.token intent.sell.amount
        rest = bestSaleAlong routing intent snapshot rest :=
  greedyAlong_congr (between_toBoundaryLiquidity (solverOf_eq_ok solverOk).1.onchain)
    _ _ _

end

variable {candidate : List MandateSolver.Segment × U256} {offer : U256 × List String}
  {deterministic : QuoterDeterministic routing.uniV3QuoterV2}

section

variable (deterministic) (solverOk : solverOf order routing intent snapshot = .ok solver)
  {value : U256}
include deterministic solverOk

theorem exists_mem_sellFound (isCandidate : CandidatePath routing intent rest)
    {pools : List OnchainLiquidity}
    (best : bestSaleAlong routing intent snapshot rest = some (value, pools))
    (floor : intent.buy.amount ≤ value) :
    ∃ segments, solver.sellCandidate (request intent) (intent.sell.token :: rest) =
        .ok (segments, value) ∧
      (segments, value) ∈ solver.sellFound order (request intent) routing.maxHops ∧
      Solver.Replays solver intent.sell.token intent.sell.amount rest pools segments value := by
  obtain ⟨built, -⟩ := solverOf_eq_ok solverOk
  rw [← bestSale_eq_bestSaleAlong solverOk] at best
  obtain ⟨segments, success, replays⟩ := Solver.sellCandidate_of_bestSale built.consistent
        (built.priced deterministic) (request intent)
      isCandidate.rest_ne_nil best floor
  exact ⟨segments, success, Solver.mem_sellFound.mpr
    ⟨_, (simplePath_iff_candidatePath solverOk).mpr isCandidate, success⟩,
    replays⟩

theorem exists_candidatePath {segments : List MandateSolver.Segment}
    (mem : (segments, value) ∈ solver.sellFound order (request intent) routing.maxHops) :
    ∃ rest pools, CandidatePath routing intent rest ∧
      bestSaleAlong routing intent snapshot rest = some (value, pools) ∧
      intent.buy.amount ≤ value ∧
      solver.sellCandidate (request intent) (intent.sell.token :: rest) = .ok (segments, value) ∧
      Solver.Replays solver intent.sell.token intent.sell.amount rest pools segments value := by
  obtain ⟨built, -⟩ := solverOf_eq_ok solverOk
  obtain ⟨_, simplePath, success⟩ := Solver.mem_sellFound.mp mem
  obtain ⟨_, rfl, -, -⟩ := simplePath.exists_middle
  obtain ⟨pools, best, replays, -, floor⟩ := Solver.sellCandidate_eq_ok built.consistent
        (built.priced deterministic) success
  refine ⟨_, pools, (simplePath_iff_candidatePath solverOk).mp simplePath, ?_,
    floor, success, replays⟩
  rw [← bestSale_eq_bestSaleAlong solverOk]
  exact best

/-! ## Offers -/

theorem offer_of_mem_sellFound
    (mem : candidate ∈ solver.sellFound order (request intent) routing.maxHops) :
    ∃ rest, CandidatePath routing intent rest ∧ offerAlong routing intent snapshot rest =
        some (candidate.2, pathKey candidate.1) ∧
      intent.buy.amount ≤ candidate.2 ∧
      solver.sellCandidate (request intent) (intent.sell.token :: rest) = .ok candidate := by
  obtain ⟨rest, _, isCandidate, best, floor, success, replays⟩ :=
    exists_candidatePath deterministic solverOk mem
  refine ⟨rest, isCandidate, ?_, floor, success⟩
  rw [offerAlong, best, replays.pathKey_eq]
  rfl

theorem mem_sellFound_of_offer (isCandidate : CandidatePath routing intent rest)
    (offers : offerAlong routing intent snapshot rest = some offer)
    (floor : intent.buy.amount ≤ offer.1) :
    ∃ segments, (segments, offer.1) ∈ solver.sellFound order (request intent) routing.maxHops ∧
      pathKey segments = offer.2 ∧
      solver.sellCandidate (request intent) (intent.sell.token :: rest) = .ok (segments, offer.1) ∧
      segments.map (·.output.token) = rest := by
  rw [offerAlong, Option.map_eq_some_iff] at offers
  obtain ⟨⟨_, _⟩, best, rfl⟩ := offers
  obtain ⟨segments, success, mem, replays⟩ :=
    exists_mem_sellFound deterministic solverOk isCandidate best floor
  exact ⟨segments, mem, replays.pathKey_eq, success, replays.outputTokens⟩

end

theorem compareCandidates_eq (left right : List MandateSolver.Segment × U256) :
    compareCandidates left right =
      compareOffers (left.2, pathKey left.1) (right.2, pathKey right.1) := rfl

theorem le_of_compareOffers {better : U256 × List String}
    (isBetter : compareOffers offer better = .lt) : offer.1 ≤ better.1 := by
  by_contra smaller
  have greater : compareOn Prod.fst offer better = .gt := compare_gt_iff_gt.mpr (not_le.mp smaller)
  simp [compareOffers, compareLex, greater] at isBetter

section

variable (deterministic)
include deterministic

theorem not_beaten_of_isLastMax (solverOk : solverOf order routing intent snapshot = .ok solver)
    {best : List MandateSolver.Segment × U256} (isBest : IsLastMax compareCandidates
      (solver.sellFound order (request intent) routing.maxHops) best) :
    ¬ Beaten routing intent snapshot (best.2, pathKey best.1) := by
  intro beaten
  obtain ⟨_, better, isCandidate, offers, isBetter⟩ := beaten
  obtain ⟨-, -, -, floor, -⟩ := offer_of_mem_sellFound deterministic solverOk isBest.mem
  obtain ⟨segments, mem, key, -, -⟩ := mem_sellFound_of_offer deterministic
    solverOk isCandidate offers (floor.trans (le_of_compareOffers isBetter))
  have isBeaten : compareCandidates best (segments, better.1) = .lt := by
    rw [compareCandidates_eq, key]
    exact isBetter
  exact isBest.not_gt _ mem (Std.OrientedCmp.gt_iff_lt.mpr isBeaten)

/-- A fill is the offer of some candidate path that no other beats. -/
theorem offer_of_solve {fill : Fill} (solved : solve order routing intent snapshot = .ok fill) :
    ∃ rest, CandidatePath routing intent rest ∧ offerAlong routing intent snapshot rest =
        some (fill.expectedOut, fill.segments.map (·.liquidity)) ∧
      intent.buy.amount ≤ fill.expectedOut ∧
      ¬ Beaten routing intent snapshot (fill.expectedOut, fill.segments.map (·.liquidity)) := by
  obtain ⟨_, route, solverOk, best, rfl⟩ := (solve_eq_ok_iff deterministic).mp solved
  obtain ⟨rest, isCandidate, offers, floor, -⟩ :=
    offer_of_mem_sellFound deterministic solverOk best.mem
  have ids : (toFill snapshot route).segments.map (·.liquidity) = pathKey route.segments := by
    simp [toFill, toSegment, pathKey]
  rw [ids]
  exact ⟨rest, isCandidate, offers, floor, not_beaten_of_isLastMax deterministic solverOk best⟩

end

theorem sellFound_last (solverOk : solverOf
      ⟨.inserted, .inserted, .last (intent.sell.token :: rest)⟩ routing intent
        snapshot = .ok solver) (isCandidate : CandidatePath routing intent rest)
    (success : solver.sellCandidate (request intent) (intent.sell.token :: rest) = .ok candidate) :
    ∃ before, solver.sellFound ⟨.inserted, .inserted, .last (intent.sell.token :: rest)⟩
      (request intent) routing.maxHops = before ++ [candidate] := by
  have isPath :=
    mem_pathCandidates_iff.mpr ((simplePath_iff_candidatePath solverOk).mpr isCandidate)
  obtain ⟨_, atEnd⟩ := HashOrder.iter_last isPath
  change ∃ before, ((HashOrder.last _).iter (pathCandidates intent.sell.token
    intent.buy.token solver.baseTokens.tokens routing.maxHops)).filterMap _ = _
  rw [atEnd]
  simp [success]

section

variable (deterministic)
include deterministic

theorem isLastMax_of_not_beaten (solverOk : solverOf order routing intent snapshot = .ok solver)
    {before : List (List MandateSolver.Segment × U256)}
    (found : solver.sellFound order (request intent) routing.maxHops = before ++ [candidate])
    (unbeaten : ¬ Beaten routing intent snapshot (candidate.2, pathKey candidate.1)) :
    IsLastMax compareCandidates
      (solver.sellFound order (request intent) routing.maxHops) candidate := by
  refine ⟨before, [], found, ?_, by simp⟩
  intro _ isBefore greater
  obtain ⟨otherRest, otherIsCandidate, otherOffers, -, -⟩ :=
    offer_of_mem_sellFound deterministic solverOk
      (by rw [found]; exact List.mem_append_left _ isBefore)
  apply unbeaten
  rw [Std.OrientedCmp.gt_iff_lt] at greater
  exact ⟨otherRest, _, otherIsCandidate, otherOffers, greater⟩

/-- The run that comes last to a path whose offer is not beaten returns it. -/
theorem solve_last (representable : Representable routing intent snapshot)
    (isCandidate : CandidatePath routing intent rest)
    (offers : offerAlong routing intent snapshot rest = some offer)
    (floor : intent.buy.amount ≤ offer.1) (unbeaten : ¬ Beaten routing intent snapshot offer) :
    ∃ fill, solve ⟨.inserted, .inserted, .last (intent.sell.token :: rest)⟩
        routing intent snapshot = .ok fill ∧
      fill.segments.map (·.output.token) = rest ∧
      fill.segments.map (·.liquidity) = offer.2 := by
  obtain ⟨_, solverOk⟩ := solverOf_of_representable
    ⟨.inserted, .inserted, .last (intent.sell.token :: rest)⟩ representable
  obtain ⟨segments, mem, key, success, outputTokens⟩ :=
    mem_sellFound_of_offer deterministic solverOk isCandidate offers floor
  obtain ⟨_, found⟩ := sellFound_last solverOk isCandidate success
  rw [← Prod.mk.eta (p := offer), ← key] at unbeaten
  have best := isLastMax_of_not_beaten deterministic solverOk found unbeaten
  rcases solve_of_solverOf deterministic solverOk with
    ⟨empty, -⟩ | ⟨route, routeBest, solved⟩
  · rw [empty] at mem
    simp at mem
  · obtain ⟨sameSegments, -⟩ := Prod.mk.inj (routeBest.unique best)
    refine ⟨_, solved, ?_, ?_⟩
    · rw [← outputTokens, ← sameSegments]
      simp [toFill, toSegment]
    · rw [← key, ← sameSegments]
      simp [toFill, toSegment, pathKey]

/-- All runs return good ids exactly when no run returns anything, because a pool cannot be
represented, or when every offer of bad ids is beaten. -/
theorem forall_solve_iff (good : List String → Prop) :
    (∀ order fill, solve order routing intent snapshot = .ok fill →
        good (fill.segments.map (·.liquidity))) ↔
      ¬ Representable routing intent snapshot ∨ ∀ rest offer, CandidatePath routing intent rest →
        offerAlong routing intent snapshot rest = some offer → intent.buy.amount ≤ offer.1 →
        ¬ good offer.2 → Beaten routing intent snapshot offer := by
  constructor
  · intro allGood
    by_cases representable : Representable routing intent snapshot
    · right
      intro rest _ isCandidate offers floor bad
      by_contra unbeaten
      obtain ⟨fill, solved, -, ids⟩ := solve_last deterministic representable
        isCandidate offers floor unbeaten
      apply bad
      rw [← ids]
      exact allGood _ fill solved
    · exact Or.inl representable
  · intro condition order fill solved
    rcases condition with unrepresentable | beaten
    · rw [solve_of_panic (solverOf_of_not_representable unrepresentable)] at solved
      cases solved
    · obtain ⟨rest, isCandidate, offers, floor, unbeaten⟩ := offer_of_solve deterministic solved
      by_contra bad
      exact unbeaten (beaten rest _ isCandidate offers floor bad)

end

end

end MandateSolver.Mandate
