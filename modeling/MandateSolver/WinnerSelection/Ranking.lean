import MandateSolver.WinnerSelection.Arbitrator

/-!
# What a ranking guarantees

The winners share no directed token pair, and a fair solution only loses to better ones.
-/

namespace MandateSolver.WinnerSelection

open List

/-- The solution as it was proposed. -/
def Solution.proposal {State : Type} (solution : Solution State) : Solution Unit :=
  solution.withState ()

/-- On every pair the solution is at least as good as each solution that only
scores on that pair, unless it only scores on one pair itself. -/
def FairAmong (scoresOf : Solution Unit → Outcome ScoreError ScoreByDirection)
    (solutions : List (Solution Unit)) (solution : Solution Unit) : Prop :=
  ∀ scores, scoresOf solution = .ok scores →
    scores.length = 1 ∨ ∀ entry ∈ scores, ∀ other ∈ solutions, ∀ best,
      scoresOf other = .ok [(entry.1, best)] → best ≤ entry.2

variable {scores : ScoreByDirection} {solution : Solution Unit} {entries : ScoresBySolution}
  {solutions : List (Solution Unit)} {arbitrator : Arbitrator}

theorem fairAmong_iff {scoresOf : Solution Unit → Outcome ScoreError ScoreByDirection}
    {solutions : List (Solution Unit)} (outcome : scoresOf solution = .ok scores) :
    FairAmong scoresOf solutions solution ↔
      scores.length = 1 ∨ ∀ entry ∈ scores, ∀ other ∈ solutions, ∀ best,
        scoresOf other = .ok [(entry.1, best)] → best ≤ entry.2 := by
  simp only [FairAmong, outcome, Outcome.ok.injEq, forall_eq']

/-! ## Winners -/

namespace Arbitrator

variable {fair : List (Solution Ranked)} {ranking : Ranking}

section

variable (ranks : arbitrator.Ranks fair ranking.ranked)
include ranks

theorem Ranks.filter_winners : ranking.ranked.filter (·.isWinner) = fair.filter (·.isWinner) := by
  rw [ranks.ranked_eq]
  exact filter_flaggedFirst fair _

theorem Ranks.filter_nonWinners :
    ranking.ranked.filter (!·.isWinner) = fair.filter (!·.isWinner) := by
  rw [ranks.ranked_eq]
  exact filter_not_flaggedFirst fair _

theorem Ranks.winners_eq : ranking.winners = arbitrator.select fair :=
  ranks.filter_winners.trans ranks.winners

theorem Ranks.perm : ranking.ranked.Perm fair := by
  rw [ranks.ranked_eq]
  exact filter_append_perm _ fair

/-- A fair solution that does not win shares a pair with a winner that scores
at least as high, or all places are taken by such winners. -/
theorem Ranks.outbid {solution : Solution Ranked} (mem : solution ∈ ranking.ranked)
    (loses : solution.isWinner = false) :
    (∃ winner ∈ ranking.winners, solution.state.score ≤ winner.state.score ∧
        ∃ pair ∈ arbitrator.swappedTokenPairs solution,
          pair ∈ arbitrator.swappedTokenPairs winner) ∨
      (ranking.winners.length = arbitrator.maxWinners ∧ ∀ winner ∈ ranking.winners,
          solution.state.score ≤ winner.state.score) := by
  have winners : ranking.winners = fair.filter (·.isWinner) := ranks.filter_winners
  rw [winners]
  rcases greedySelect.blocked_or_full _ ranks.descending ranks.winners solution
    (ranks.perm.subset mem) loses with
      ⟨pair, own, taken | ⟨winner, wins, higher, shared⟩⟩ | full
  · simp at taken
  · exact Or.inl ⟨winner, wins, higher, pair, own, shared⟩
  · exact Or.inr full

theorem Ranks.exists_winner_ge (allowed : arbitrator.maxWinners ≠ 0) {solution : Solution Ranked}
    (mem : solution ∈ ranking.ranked) :
    ∃ winner ∈ ranking.winners, solution.state.score ≤ winner.state.score := by
  cases wins : solution.isWinner with
  | true => exact ⟨solution, mem_filter.mpr ⟨mem, wins⟩, le_refl _⟩
  | false =>
    rcases ranks.outbid mem wins with ⟨winner, won, higher, _⟩ | ⟨_, higher⟩
    · exact ⟨winner, won, higher⟩
    · have nonempty : 0 < ranking.winners.length := by omega
      obtain ⟨winner, won⟩ := exists_mem_of_length_pos nonempty
      exact ⟨winner, won, higher winner won⟩

end

end Arbitrator

/-! ## The best scores for single pairs -/

/-- The best score on record for a pair is within a bound exactly when each
solution that only scores on that pair is. -/
theorem lookup_computeBaselineScores_le_iff
    {pair : DirectedTokenPair} {bound : U256} :
    (∀ best, (computeBaselineScores entries).lookup pair = some best → best ≤ bound) ↔
      ∀ entry ∈ entries, ∀ score, entry.2 = [(pair, score)] → score ≤ bound := by
  unfold computeBaselineScores
  suffices loop : ∀ baseline : ScoreByDirection,
      (∀ best, (entries.foldl _ baseline).lookup pair = some best → best ≤ bound) ↔
      (∀ best, baseline.lookup pair = some best → best ≤ bound) ∧
        ∀ entry ∈ entries, ∀ score, entry.2 = [(pair, score)] → score ≤ bound by
    simpa using loop []
  induction entries with
  | nil => simp
  | cons entry entries ih =>
    intro baseline
    rw [foldl_cons, ih, forall_mem_cons, ← and_assoc]
    apply and_congr_left'
    obtain ⟨_, scores⟩ := entry
    match scores with
    | [] => simp
    | [(other, score)] =>
      by_cases same : pair = other
      · subst same
        have best : ∀ old, (if old.getD 0 < score then score else old.getD 0) ≤ bound ↔
              (∀ best, old = some best → best ≤ bound) ∧ score ≤ bound := by
          intro old
          have nonneg : 0#256 ≤ bound := BitVec.le_def.mpr (by simp)
          rw [← max_def_lt]
          cases old <;> simp [nonneg]
        simpa using best (baseline.lookup pair)
      · simp [upsert.lookup_of_ne _ _ _ same, Ne.symm same]
    | _ :: _ :: _ => simp

theorem isFair_iff :
    isFair (computeBaselineScores entries) scores = true ↔
      scores.length = 1 ∨ ∀ entry ∈ scores, ∀ other ∈ entries, ∀ best,
        other.2 = [(entry.1, best)] → best ≤ entry.2 := by
  simp only [isFair, Bool.or_eq_true, decide_eq_true_eq, all_eq_true]
  apply or_congr_right
  apply forall₂_congr
  intro entry _
  rw [← lookup_computeBaselineScores_le_iff]
  cases (computeBaselineScores entries).lookup entry.1 <;> simp

/-! ## Solutions with different keys -/

section

variable {F : Type} [Factor F] {context : AuctionContext F}

theorem scoreEntry_eq_some_iff {entry : SolutionKey × ScoreByDirection} :
    scoreEntry context solution = some entry ↔
      scoreByTokenPair solution context = .ok entry.2 ∧ solution.key = entry.1 := by
  obtain ⟨key, scores⟩ := entry
  simp only [scoreEntry, Option.map_eq_some_iff, Outcome.toOption_eq_some_iff, Prod.mk.injEq]
  constructor
  · rintro ⟨_, outcome, same, rfl⟩
    exact ⟨outcome, same⟩
  · rintro ⟨outcome, same⟩
    exact ⟨scores, outcome, same, rfl⟩

variable (context) in
theorem nodup_keys_scoreEntry (distinct : (solutions.map (·.key)).Nodup) :
    ((solutions.filterMap (scoreEntry context)).map Prod.fst).Nodup := by
  apply List.Nodup.sublist _ distinct
  induction solutions with
  | nil => simp
  | cons solution solutions ih =>
    have rest := ih (nodup_cons.mp distinct).2
    cases entry : scoreEntry context solution with
    | none =>
      rw [filterMap_cons_none entry]
      exact rest.cons _
    | some found =>
      rw [filterMap_cons_some entry, map_cons, map_cons, (scoreEntry_eq_some_iff.mp entry).2]
      exact rest.cons_cons _

theorem fairBy_recordedScores_iff (distinct : (solutions.map (·.key)).Nodup)
    (mem : solution ∈ solutions)
    (outcome : scoreByTokenPair solution context = .ok scores) (score : U256) :
    fairBy (recordedScores context solutions) (solution.withScore score) = true ↔
      FairAmong (scoreByTokenPair · context) solutions solution := by
  have keys := nodup_keys_scoreEntry context distinct
  have recorded : recordedScores context solutions = solutions.filterMap (scoreEntry context) := by
    unfold recordedScores
    rw [insertAll.of_nodup keys (by simp), nil_append]
  have found : (recordedScores context solutions).lookup solution.key = some scores := by
    rw [recorded, lookup_eq_some_iff_mem keys]
    exact mem_filterMap.mpr ⟨solution, mem, scoreEntry_eq_some_iff.mpr ⟨outcome, rfl⟩⟩
  have ownKey : (solution.withScore score).key = solution.key := rfl
  rw [fairBy, ownKey, found, isFair_iff, recorded, fairAmong_iff outcome]
  apply or_congr_right
  apply forall₂_congr
  intro entry _
  constructor
  · intro bounded other otherMem best single
    exact bounded (other.key, [(entry.1, best)]) (mem_filterMap.mpr
      ⟨other, otherMem, scoreEntry_eq_some_iff.mpr ⟨single, rfl⟩⟩) best rfl
  · intro bounded other otherMem best single
    obtain ⟨source, sourceMember, recordedAs⟩ := mem_filterMap.mp otherMem
    obtain ⟨sourceOutcome, _⟩ := scoreEntry_eq_some_iff.mp recordedAs
    exact bounded source sourceMember best (single ▸ sourceOutcome)

end

/-! ## Every solution is in its place -/

section

variable {F : Type} [Factor F]

def Solution.scored {State : Type} (score : State → U256)
    (solution : Solution State) : Solution Unit × U256 :=
  (solution.proposal, score solution.state)

def scorableSolutions (solutions : List (Solution Unit))
    (context : AuctionContext F) : List (Solution Unit × U256) :=
  solutions.filterMap fun solution =>
    (scoreByTokenPair solution context).toOption.map fun scores =>
      (solution, U256.saturatingSum (scores.map Prod.snd))

variable (solutions) (context : AuctionContext F)

theorem map_scored_sortedSolutions_perm :
    ((sortedSolutions context solutions).map (·.scored Scored.score)).Perm
      (scorableSolutions solutions context) := by
  have unsorted := perm_insertionSort (HigherScore Scored.score)
    (solutions.filterMap (scoredSolution context))
  apply (unsorted.map _).trans
  rw [map_filterMap]
  apply List.Perm.of_eq
  apply filterMap_congr
  intro _ _
  simp only [scoredSolution, Option.map_map]
  rfl

theorem mem_map_proposal_filter_iff {solutions : List (Solution Unit)} {context : AuctionContext F}
    (mem : solution ∈ solutions)
    (outcome : scoreByTokenPair solution context = .ok scores) (flag : Solution Scored → Bool) :
    solution ∈ ((sortedSolutions context solutions).filter flag).map (·.proposal) ↔
      flag (solution.withScore (U256.saturatingSum (scores.map Prod.snd))) =
        true := by
  have isScored : scoredSolution context solution =
      some (solution.withScore (U256.saturatingSum (scores.map Prod.snd))) := by
    simp [scoredSolution, outcome]
  constructor
  · intro listed
    obtain ⟨_, foundMember, same⟩ := mem_map.mp listed
    obtain ⟨inSorted, flagged⟩ := mem_filter.mp foundMember
    obtain ⟨source, _, scored⟩ := mem_filterMap.mp ((mem_insertionSort _).mp inSorted)
    obtain ⟨_, _, rfl⟩ := Option.map_eq_some_iff.mp scored
    -- The scored solution comes from the very proposal it contains.
    obtain rfl : source = solution := same
    rw [isScored, Option.some.injEq] at scored
    rwa [scored]
  · intro flagged
    apply mem_map.mpr
    refine ⟨_, mem_filter.mpr ⟨?_, flagged⟩, rfl⟩
    exact (mem_insertionSort _).mpr (mem_filterMap.mpr ⟨solution, mem, isScored⟩)

variable (arbitrator)

theorem Arbitrator.map_scored_markWinners (solutions : List (Solution Scored)) :
    (arbitrator.markWinners solutions).map (·.scored Ranked.score) =
      solutions.map (·.scored Scored.score) := by
  unfold markWinners
  rw [map_map]
  conv_rhs => rw [← zipIdx_map_fst 0 solutions, map_map]
  rfl

theorem Arbitrator.map_scored_rankedSolutions_perm :
    ((arbitrator.rankedSolutions solutions context).map (·.scored Ranked.score)).Perm
      (((sortedSolutions context solutions).filter
        (fairBy (recordedScores context solutions))).map (·.scored Scored.score)) := by
  apply ((perm_insertionSort _ _).map _).trans
  rw [markedSolutions, arbitrator.map_scored_markWinners]

theorem Arbitrator.mem_rankedSolutions_iff
    {solutions : List (Solution Unit)} {context : AuctionContext F}
    (distinct : (solutions.map (·.key)).Nodup) (mem : solution ∈ solutions)
    (outcome : scoreByTokenPair solution context = .ok scores) :
    solution ∈ (arbitrator.rankedSolutions solutions context).map (·.proposal) ↔
      FairAmong (scoreByTokenPair · context) solutions solution := by
  have ranked := (arbitrator.map_scored_rankedSolutions_perm solutions context).map Prod.fst
  rw [map_map, map_map] at ranked
  apply ranked.mem_iff.trans
  apply (mem_map_proposal_filter_iff mem outcome _).trans
  exact fairBy_recordedScores_iff distinct mem outcome _

/-- Every solution with a score is listed once, with that score, and no other
solution is.  It is ranked exactly when it is fair.  Winners come first, and
higher scores come first among them and among the others. -/
structure Ranking.Partitions (ranking : Ranking)
    (solutions : List (Solution Unit)) (context : AuctionContext F) :
    Prop where
  complete : ((ranking.filteredOut ++ ranking.ranked).map
    (·.scored Ranked.score)).Perm (scorableSolutions solutions context)
  ranked_iff : ∀ solution ∈ solutions, ∀ scores, scoreByTokenPair solution context = .ok scores →
      (solution ∈ ranking.ranked.map (·.proposal) ↔
        FairAmong (scoreByTokenPair · context) solutions solution)
  ordered : ranking.ranked.Pairwise RanksBefore

theorem Arbitrator.arbitrate_complete :
    (arbitrator.arbitrate solutions context).Returns fun ranking =>
      ((ranking.filteredOut ++ ranking.ranked).map
        (·.scored Ranked.score)).Perm (scorableSolutions solutions context) := by
  rw [arbitrator.arbitrate_eq]
  apply Outcome.Returns.ok
  have ranked := arbitrator.map_scored_rankedSolutions_perm solutions context
  have sorted := map_scored_sortedSolutions_perm solutions context
  rw [map_append, map_map]
  apply (ranked.append_left _).trans
  apply perm_append_comm.trans
  apply List.Perm.trans _ sorted
  change (List.map _ _ ++ List.map (Solution.scored Scored.score) _).Perm _
  rw [← map_append]
  exact (filter_append_perm _ _).map _

theorem Arbitrator.arbitrate_partitions (arbitrator : Arbitrator)
    (solutions : List (Solution Unit)) (context : AuctionContext F)
    (distinct : (solutions.map (·.key)).Nodup) :
    (arbitrator.arbitrate solutions context).Returns fun ranking =>
      ranking.Partitions solutions context := by
  obtain ⟨ranking, returned, complete⟩ := arbitrator.arbitrate_complete solutions context
  obtain ⟨other, returned', same⟩ := arbitrator.arbitrate_ranked solutions context
  obtain rfl : ranking = other := by simpa [returned] using returned'
  refine ⟨ranking, returned, complete, ?_, ?_⟩
  · intro _ mem _ outcome
    rw [same]
    exact arbitrator.mem_rankedSolutions_iff distinct mem outcome
  · rw [same]
    exact pairwise_insertionSort _ _

end

namespace Arbitrator

/-- There are no more winners than allowed, no two of them trade the same
directed pair, and the selection is greedily maximal among the ranked solutions.
If no two solutions have the same key, those are the fair ones. -/
theorem arbitrate_winners (arbitrator : Arbitrator) {F : Type} [Factor F]
    (solutions : List (Solution Unit)) (context : AuctionContext F) :
    (arbitrator.arbitrate solutions context).Returns fun ranking =>
      ranking.winners.length ≤ arbitrator.maxWinners ∧
      (ranking.winners.Pairwise fun left right =>
        ∀ pair ∈ arbitrator.swappedTokenPairs left, pair ∉ arbitrator.swappedTokenPairs right) ∧
      (∀ solution ∈ ranking.ranked, solution.isWinner = false → (∃ winner ∈ ranking.winners,
          solution.state.score ≤ winner.state.score ∧
            ∃ pair ∈ arbitrator.swappedTokenPairs solution,
              pair ∈ arbitrator.swappedTokenPairs winner) ∨
        (ranking.winners.length = arbitrator.maxWinners ∧ ∀ winner ∈ ranking.winners,
            solution.state.score ≤ winner.state.score)) ∧
      ((solutions.map (·.key)).Nodup → ∀ solution ∈ solutions, ∀ scores,
        scoreByTokenPair solution context = .ok scores →
          (solution ∈ ranking.ranked.map (·.proposal) ↔
            FairAmong (scoreByTokenPair · context) solutions solution)) := by
  apply (arbitrator.arbitrate_ranked solutions context).mono
  intro ranking same
  have ranks := arbitrator.ranks_rankedSolutions solutions context
  rw [← same] at ranks
  refine ⟨?_, ?_, fun solution mem loses => ranks.outbid mem loses, ?_⟩
  · rw [ranks.winners_eq]
    exact greedySelect.length_le _ _ _ _
  · rw [ranks.winners_eq]
    exact greedySelect.pairwise_disjoint _ _ _ _
  · intro distinct solution mem scores outcome
    rw [same]
    exact arbitrator.mem_rankedSolutions_iff distinct mem outcome

def surplusOrder (sellToken buyToken : Address) (surplus : U256) : Order :=
  ⟨⟨sellToken.setWidth 256, 0, 0⟩, sellToken, buyToken, 1000, 1000, 1000, 1000 + surplus, .sell⟩

def feelessContext : AuctionContext ℚ :=
  ⟨fun _ => some [], fun _ => false, fun _ => some 1000000000000000000⟩

/-- The first solution is worse for the first pair than the second one, which
trades only that pair. -/
def overtakenSolutions : List (Solution Unit) :=
  [⟨1, 1, [surplusOrder 1 2 10, surplusOrder 3 4 100], fun _ => some 1, ()⟩,
    ⟨1, 2, [surplusOrder 1 2 50], fun _ => some 1, ()⟩]

theorem arbitrate_partitions_overtakenSolutions : (overtakenSolutions.map (·.key)).Nodup ∧
      (arbitrate ⟨10, 9⟩ overtakenSolutions feelessContext).Returns fun ranking =>
        ranking.Partitions overtakenSolutions feelessContext :=
  ⟨by decide, arbitrate_partitions ⟨10, 9⟩ _ _ (by decide)⟩

end Arbitrator

end MandateSolver.WinnerSelection
