import MandateSolver.Mandate.Candidates

/-!
# When a fill can be replayed

The ids along a route decide between equal values, but they do not tell apart two token
paths through the same pools.
-/

namespace MandateSolver.Mandate

/-- Results that a caller cannot tell apart. -/
def SameResult : Outcome Unit Fill → Outcome Unit Fill → Prop
  | .ok left, .ok right =>
    left.segments = right.segments ∧ left.expectedOut = right.expectedOut
  | .err _, .err _ => True
  | .panic left, .panic right => left = right
  | _, _ => False

/-- Whenever two candidate paths tie in output and ids, at or above the
floor, some candidate path is strictly better than both. -/
def TiesDecided (routing : Routing) (intent : Intent) (snapshot : Snapshot) : Prop :=
  ∀ rest otherRest offer,
    CandidatePath routing intent rest → CandidatePath routing intent otherRest →
    offerAlong routing intent snapshot rest = some offer →
    offerAlong routing intent snapshot otherRest = some offer →
    intent.buy.amount ≤ offer.1 → rest ≠ otherRest →
    Beaten routing intent snapshot offer

section

variable {order otherOrder : RunOrder} {routing : Routing} {intent : Intent} {snapshot : Snapshot}

variable {solver otherSolver : Solver}

section

variable (solverOk : solverOf order routing intent snapshot = .ok solver)
include solverOk

section

variable (otherOk : solverOf otherOrder routing intent snapshot = .ok otherSolver)
include otherOk

private theorem sellCandidate_order (path : List Address) :
    solver.sellCandidate (request intent) path =
      otherSolver.sellCandidate (request intent) path := by
  obtain ⟨built, -⟩ := solverOf_eq_ok solverOk
  obtain ⟨otherBuilt, -⟩ := solverOf_eq_ok otherOk
  have sameMap := Outcome.ok.inj (built.onchain.symm.trans otherBuilt.onchain)
  have sameIds := built.byId.trans otherBuilt.byId.symm
  simp only [Solver.sellCandidate, sameMap, Solver.traversePath_congr sameIds]

private theorem mem_sellFound_order {candidate : List MandateSolver.Segment × U256}
    (mem : candidate ∈ solver.sellFound order (request intent) routing.maxHops) :
    candidate ∈ otherSolver.sellFound otherOrder (request intent) routing.maxHops := by
  obtain ⟨_, simplePath, success⟩ := Solver.mem_sellFound.mp mem
  obtain ⟨_, rfl, -, -⟩ := simplePath.exists_middle
  refine Solver.mem_sellFound.mpr ⟨_, ?_,
    (sellCandidate_order solverOk otherOk _).symm.trans success⟩
  exact (simplePath_iff_candidatePath otherOk).mpr
    ((simplePath_iff_candidatePath solverOk).mp simplePath)

end

end

/-- Without an undecided tie, two best candidates are the same one. -/
private theorem best_unique (deterministic : QuoterDeterministic routing.uniV3QuoterV2)
    (decided : TiesDecided routing intent snapshot)
    (solverOk : solverOf order routing intent snapshot = .ok solver)
    (otherOk : solverOf otherOrder routing intent snapshot = .ok otherSolver)
    {best otherBest : List MandateSolver.Segment × U256} (isBest : IsLastMax compareCandidates
      (solver.sellFound order (request intent) routing.maxHops) best)
    (isOtherBest : IsLastMax compareCandidates
      (otherSolver.sellFound otherOrder (request intent) routing.maxHops)
      otherBest) : best = otherBest := by
  obtain ⟨rest, isCandidate, offers, floor, success⟩ :=
    offer_of_mem_sellFound deterministic solverOk isBest.mem
  obtain ⟨otherRest, otherIsCandidate, otherOffers, -, otherSuccess⟩ :=
    offer_of_mem_sellFound deterministic otherOk isOtherBest.mem
  obtain ⟨sameValue, sameKey⟩ := eq_of_compareCandidates
    (isOtherBest.not_gt best (mem_sellFound_order solverOk otherOk isBest.mem))
    (isBest.not_gt otherBest (mem_sellFound_order otherOk solverOk isOtherBest.mem))
  rw [← sameValue, ← sameKey] at otherOffers
  by_cases samePath : rest = otherRest
  · subst samePath
    rw [sellCandidate_order solverOk otherOk, otherSuccess] at success
    exact (Outcome.ok.inj success).symm
  · exact absurd (decided rest otherRest _ isCandidate otherIsCandidate offers otherOffers
        floor samePath)
      (not_beaten_of_isLastMax deterministic solverOk isBest)

theorem solve_sameResult_of_tiesDecided (deterministic : QuoterDeterministic routing.uniV3QuoterV2)
    (decided : TiesDecided routing intent snapshot) (order otherOrder : RunOrder) :
    SameResult (solve order routing intent snapshot)
      (solve otherOrder routing intent snapshot) := by
  by_cases representable : Representable routing intent snapshot
  · obtain ⟨_, solverOk⟩ := solverOf_of_representable order representable
    obtain ⟨_, otherOk⟩ := solverOf_of_representable otherOrder representable
    rcases solve_of_solverOf deterministic solverOk with
      ⟨empty, unsolved⟩ | ⟨route, best, solved⟩
    · rcases solve_of_solverOf deterministic otherOk with
        ⟨-, otherUnsolved⟩ | ⟨otherRoute, otherBest, -⟩
      · rw [unsolved, otherUnsolved]
        trivial
      · have mem := mem_sellFound_order otherOk solverOk otherBest.mem
        rw [empty] at mem
        simp at mem
    · rcases solve_of_solverOf deterministic otherOk with
        ⟨otherEmpty, -⟩ | ⟨otherRoute, otherBest, otherSolved⟩
      · have mem := mem_sellFound_order solverOk otherOk best.mem
        rw [otherEmpty] at mem
        simp at mem
      · obtain ⟨sameSegments, sameAmount⟩ := Prod.mk.inj
          (best_unique deterministic decided solverOk otherOk best otherBest)
        rw [solved, otherSolved]
        exact ⟨congrArg (List.map toSegment) sameSegments, sameAmount⟩
  · rw [solve_of_panic (solverOf_of_not_representable representable),
      solve_of_panic (solverOf_of_not_representable representable)]
    rfl

/-- Runs over the same snapshot all return the same fill exactly when a pool
cannot be represented, so that all of them stop, or when every tie in output
and ids is decided by a better path. -/
theorem solve_replayable_iff (deterministic : QuoterDeterministic routing.uniV3QuoterV2) :
    (∀ order otherOrder, SameResult (solve order routing intent snapshot)
      (solve otherOrder routing intent snapshot)) ↔
      ¬ Representable routing intent snapshot ∨ TiesDecided routing intent snapshot := by
  constructor
  · intro same
    by_contra! undecided
    obtain ⟨representable, undecided⟩ := undecided
    simp only [TiesDecided, not_forall] at undecided
    obtain ⟨rest, otherRest, _, isCandidate, otherIsCandidate, offers,
      otherOffers, floor, ne, unbeaten⟩ := undecided
    obtain ⟨_, solved, outputs, -⟩ := solve_last deterministic representable
      isCandidate offers floor unbeaten
    obtain ⟨_, otherSolved, otherOutputs, -⟩ := solve_last deterministic
      representable otherIsCandidate otherOffers floor unbeaten
    have sameFill := same ⟨.inserted, .inserted, .last (intent.sell.token :: rest)⟩
      ⟨.inserted, .inserted, .last (intent.sell.token :: otherRest)⟩
    rw [solved, otherSolved] at sameFill
    exact ne (by rw [← outputs, ← otherOutputs, sameFill.1])
  · rintro (unrepresentable | decided) order otherOrder
    · rw [solve_of_panic (solverOf_of_not_representable unrepresentable),
        solve_of_panic (solverOf_of_not_representable unrepresentable)]
      rfl
    · exact solve_sameResult_of_tiesDecided deterministic decided order otherOrder

end

def symmetricPools : Snapshot :=
  ⟨"node", 17, [evenPoolEntry "in" 7 [⟨1000000, 1⟩, ⟨1000000, 2⟩, ⟨1000000, 3⟩] (by decide),
    evenPoolEntry "out" 7 [⟨1000000, 2⟩, ⟨1000000, 3⟩, ⟨1000000, 4⟩] (by decide)]⟩

/-- Both paths through the pools pay 998, with the same ids, so that the
iteration order picks the intermediate token. -/
theorem solve_symmetricPools : ¬ SameResult
      (solve .inserted ⟨9, [2, 3], 1, none⟩ ⟨⟨1000, 1⟩, ⟨1, 4⟩, [7]⟩ symmetricPools)
      (solve ⟨.inserted, .inserted, .reversed⟩ ⟨9, [2, 3], 1, none⟩
        ⟨⟨1000, 1⟩, ⟨1, 4⟩, [7]⟩ symmetricPools) := by
  rintro ⟨sameSegments, -⟩
  exact absurd sameSegments (by decide)

/-- With a single candidate path there is nothing to decide. -/
theorem solve_replayable_direct :
    TiesDecided ⟨9, [2, 3], 0, none⟩ ⟨⟨1000, 1⟩, ⟨1, 2⟩, [7]⟩ symmetricPools ∧
    ∀ order otherOrder, SameResult
      (solve order ⟨9, [2, 3], 0, none⟩ ⟨⟨1000, 1⟩, ⟨1, 2⟩, [7]⟩ symmetricPools)
      (solve otherOrder ⟨9, [2, 3], 0, none⟩ ⟨⟨1000, 1⟩, ⟨1, 2⟩, [7]⟩ symmetricPools) := by
  have decided : TiesDecided ⟨9, [2, 3], 0, none⟩ ⟨⟨1000, 1⟩, ⟨1, 2⟩, [7]⟩
      symmetricPools := by
    intro _ _ _ isCandidate otherIsCandidate _ _ _ _
    obtain ⟨_, _, -, _⟩ := isCandidate.exists_middle
    obtain ⟨_, _, -, _⟩ := otherIsCandidate.exists_middle
    simp_all
  exact ⟨decided, (solve_replayable_iff (by simp [QuoterDeterministic])).mpr (Or.inr decided)⟩

end MandateSolver.Mandate
