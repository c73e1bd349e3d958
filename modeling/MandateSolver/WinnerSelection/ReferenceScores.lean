import MandateSolver.WinnerSelection.Ranking

/-!
# Reference scores

The arbitrator selects the winners without a solver from its ranking, where all actual
winners come first, instead of from the solutions by descending score.
-/

namespace MandateSolver.WinnerSelection

open List

/-- The solutions `others` in an order by descending score.  Equal scores may
be listed in any order that keeps winners, and the other solutions, in line. -/
structure ByScore (sorted others : List (Solution Ranked)) : Prop where
  descending : sorted.Pairwise (HigherScore Ranked.score)
  winners : sorted.filter (·.isWinner) = others.filter (·.isWinner)
  nonWinners : sorted.filter (!·.isWinner) = others.filter (!·.isWinner)

namespace Arbitrator

variable (arbitrator : Arbitrator)

/-- Choosing once more keeps the winners. -/
def KeepsWinners (solutions : List (Solution Ranked)) : Prop :=
  (arbitrator.selected solutions).filter (·.isWinner) = solutions.filter (·.isWinner)

variable {arbitrator} {fair : List (Solution Ranked)} {ranking : Ranking}

/-! ## Orders by score -/

theorem Ranks.byScore_fair (ranks : arbitrator.Ranks fair ranking.ranked) (solver : Address) :
    ByScore (fair.filter (·.solver ≠ solver)) (ranking.without solver) where
  descending := ranks.descending.filter _
  winners := by
    rw [Ranking.without, filter_comm, filter_comm _ _ ranking.ranked, ranks.filter_winners]
  nonWinners := by
    rw [Ranking.without, filter_comm, filter_comm _ _ ranking.ranked, ranks.filter_nonWinners]

/-! ## The two selections -/

variable {solver : Address} {sorted : List (Solution Ranked)}
  {ranks : arbitrator.Ranks fair ranking.ranked}

section

variable (ranks) (byScore : ByScore sorted (ranking.without solver))
include ranks byScore

theorem Ranks.without_eq :
    ranking.without solver = sorted.filter (·.isWinner) ++ sorted.filter (!·.isWinner) := by
  rw [byScore.winners, byScore.nonWinners, ← (ranks.byScore_fair solver).winners,
    ← (ranks.byScore_fair solver).nonWinners, Ranking.without,
    ranks.ranked_eq, filter_append, filter_comm]
  congr 1
  exact filter_comm ..

/-- Selecting from the ranking and by score gives the same solutions exactly
when the other winners keep winning. -/
theorem Ranks.selected_perm_iff :
    (arbitrator.selected sorted).Perm (arbitrator.selected (ranking.without solver)) ↔
      arbitrator.KeepsWinners sorted := by
  have part : (sorted.filter (·.isWinner)).Sublist (arbitrator.select fair) := by
    rw [byScore.winners, Ranking.without, filter_comm, ← ranks.winners_eq]
    exact filter_sublist
  have whole := greedySelect.whole_of_sublist arbitrator.swappedTokenPairs part
  unfold KeepsWinners
  rw [arbitrator.selected_eq, arbitrator.selected_eq, ranks.without_eq byScore]
  exact greedySelect.perm_preferredFirst_iff _ _ whole

end

theorem totalScore_perm {left right : List (Solution Ranked)}
    (permutation : left.Perm right) : totalScore left = totalScore right := by
  unfold totalScore
  rw [U256.reduce_saturatingAdd, U256.reduce_saturatingAdd]
  exact U256.saturatingSum_perm (permutation.map _)

/-! ## The loop over the ranking -/

variable (arbitrator ranking) in
def referenceScore (solver : Address) : U256 :=
  totalScore (arbitrator.selected (ranking.without solver))

variable (arbitrator ranking) in
def referenceEntries (solvers : List Address) : List (Address × U256) :=
  solvers.map fun solver => (solver, arbitrator.referenceScore ranking solver)

variable {solvers : List Address}

theorem lookup_referenceEntries : (arbitrator.referenceEntries ranking solvers).lookup solver =
      if solver ∈ solvers then some (arbitrator.referenceScore ranking solver)
      else none := by
  split
  · rename_i mem
    exact lookup_graph _ mem
  · rename_i absent
    apply lookup_eq_none_iff.mpr
    intro entry mem
    obtain ⟨other, otherMem, rfl⟩ := mem_map.mp mem
    simpa using fun same : solver = other => absent (same ▸ otherMem)

theorem upsert_referenceEntries (absent : solver ∉ solvers) :
    upsert solver (fun _ => arbitrator.referenceScore ranking solver)
        (arbitrator.referenceEntries ranking solvers) =
      arbitrator.referenceEntries ranking (solvers ++ [solver]) := by
  rw [upsert.of_lookup_eq_none _ _ _ (lookup_referenceEntries.trans (if_neg absent))]
  simp [referenceEntries]

/-- Each of the solvers has a winning solution. -/
structure WinningSolvers (ranking : Ranking) (solvers : List Address) :
    Prop where
  nodup : solvers.Nodup
  winning : ∀ solver ∈ solvers, ∃ winner ∈ ranking.winners, winner.solver = solver

variable {winner : Solution Ranked}

theorem WinningSolvers.append (recorded : WinningSolvers ranking solvers)
    (mem : winner ∈ ranking.winners) (absent : winner.solver ∉ solvers) :
    WinningSolvers ranking (solvers ++ [winner.solver]) where
  nodup := by
    apply recorded.nodup.append (nodup_singleton _)
    exact disjoint_singleton.mpr absent
  winning := by
    intro solver solverMember
    rcases mem_append.mp solverMember with before | new
    · exact recorded.winning solver before
    · exact ⟨winner, mem, (mem_singleton.mp new).symm⟩

section

variable (ranks)
include ranks

theorem Ranks.mem_of_full (recorded : WinningSolvers ranking solvers)
    (full : arbitrator.maxWinners ≤ solvers.length)
    (mem : winner ∈ ranking.winners) : winner.solver ∈ solvers := by
  have subset : solvers ⊆ ranking.winners.map (·.solver) := by
    intro solver solverMember
    exact mem_map.mpr (recorded.winning solver solverMember)
  have few : (ranking.winners.map (·.solver)).length ≤ solvers.length := by
    rw [length_map, ranks.winners_eq]
    exact Nat.le_trans (greedySelect.length_le _ _ _ _) full
  have same := (subperm_of_subset recorded.nodup subset).perm_of_length_le few
  exact same.mem_iff.mpr (mem_map_of_mem mem)

/-- The loop gives an entry to every winning solver it passes. -/
theorem Ranks.computeReferenceScoresFrom_eq (recorded : WinningSolvers ranking solvers)
    {solutions : List (Solution Ranked)}
    (subset : ∀ solution ∈ solutions, solution ∈ ranking.ranked) :
    ∃ result, arbitrator.computeReferenceScoresFrom ranking
        (arbitrator.referenceEntries ranking solvers) solutions =
          arbitrator.referenceEntries ranking result ∧
      solvers ⊆ result ∧
      ∀ solution ∈ solutions, solution.isWinner = true → solution.solver ∈ result := by
  induction solutions generalizing solvers with
  | nil => exact ⟨solvers, rfl, List.Subset.refl _, by simp⟩
  | cons solution solutions ih =>
    obtain ⟨inRanking, rest⟩ := forall_mem_cons.mp subset
    unfold computeReferenceScoresFrom
    simp only [forall_mem_cons]
    split
    · rename_i full
      rw [referenceEntries, length_map] at full
      have complete : ∀ other ∈ ranking.ranked, other.isWinner = true → other.solver ∈ solvers := by
        intro other mem wins
        exact ranks.mem_of_full recorded full (mem_filter.mpr ⟨mem, wins⟩)
      exact ⟨solvers, rfl, List.Subset.refl _, complete solution inRanking,
        fun other mem => complete other (rest other mem)⟩
    · rw [lookup_referenceEntries]
      by_cases present : solution.solver ∈ solvers
      · rw [if_pos present]
        obtain ⟨result, equation, kept, passed⟩ := ih recorded rest
        exact ⟨result, equation, kept, fun _ => kept present, passed⟩
      · rw [if_neg present]
        cases isWinner : solution.isWinner with
        | false =>
          obtain ⟨result, equation, kept, passed⟩ := ih recorded rest
          exact ⟨result, equation, kept, by simp, passed⟩
        | true =>
          have winner := mem_filter.mpr ⟨inRanking, isWinner⟩
          obtain ⟨result, equation, kept, passed⟩ := ih (recorded.append winner present) rest
          rw [← upsert_referenceEntries present] at equation
          exact ⟨result, equation, fun solver mem => kept (mem_append_left _ mem),
            fun _ => kept (by simp), passed⟩

theorem Ranks.lookup_computeReferenceScores (mem : winner ∈ ranking.winners) :
    (arbitrator.computeReferenceScores ranking).lookup winner.solver = some (totalScore
        (arbitrator.selected (ranking.without winner.solver))) := by
  obtain ⟨inRanking, wins⟩ := mem_filter.mp mem
  obtain ⟨_, equation, _, passed⟩ :=
    ranks.computeReferenceScoresFrom_eq ⟨nodup_nil, by simp⟩ (fun solution mem => mem)
  change (arbitrator.computeReferenceScoresFrom ranking
    (arbitrator.referenceEntries ranking []) ranking.ranked).lookup _ = _
  rw [equation, lookup_referenceEntries, if_pos (passed winner inRanking wins)]
  rfl

end

/-- The reference score of a winning solver is the total score of the others'
selection by score as long as the other winners keep winning in it, which is
also when the same solutions are selected. -/
theorem referenceScores_sameSelection_iff (arbitrator : Arbitrator) {F : Type}
    [Factor F] (solutions : List (Solution Unit)) (context : AuctionContext F) :
    (arbitrator.arbitrate solutions context).Returns fun ranking =>
      ∀ winner ∈ ranking.winners, ∀ sorted, ByScore sorted (ranking.without winner.solver) →
          ((arbitrator.selected sorted).Perm (arbitrator.selected (ranking.without winner.solver)) ↔
            arbitrator.KeepsWinners sorted) ∧
          (arbitrator.KeepsWinners sorted →
            (arbitrator.computeReferenceScores ranking).lookup winner.solver =
              some (totalScore (arbitrator.selected sorted))) := by
  apply (arbitrator.arbitrate_returns solutions context).mono
  intro ranking ranked winner mem sorted byScore
  obtain ⟨_, ranks⟩ := ranked
  refine ⟨ranks.selected_perm_iff byScore, ?_⟩
  intro kept
  have same := (ranks.selected_perm_iff byScore).mpr kept
  rw [ranks.lookup_computeReferenceScores mem, totalScore_perm same]

/-! ## A winner that only wins because of another one -/

/-- The best solution shares a pair with the second one, which shares its
other pair with the third one. -/
def chainedSolutions : List (Solution Unit) :=
  [⟨1, 1, [surplusOrder 1 2 60, surplusOrder 3 4 40], fun _ => some 1, ()⟩,
    ⟨1, 2, [surplusOrder 1 2 50, surplusOrder 5 6 40], fun _ => some 1, ()⟩,
    ⟨1, 3, [surplusOrder 5 6 30, surplusOrder 7 8 20], fun _ => some 1, ()⟩]

/-- The third solution wins because the best one blocks the second.  Without
the best one the arbitrator still counts the third, worth 50, where by score
the second one wins with 90. -/
theorem computeReferenceScores_chainedSolutions : (chainedSolutions.map (·.key)).Nodup ∧ (do
        let arbitrator : Arbitrator := ⟨10, 9⟩
        let ranking ← arbitrator.arbitrate chainedSolutions feelessContext
        let sorted := (ranking.without 1).insertionSort
          (HigherScore Ranked.score)
        return (ranking.winners.map (·.solver),
          (arbitrator.computeReferenceScores ranking).lookup 1,
          totalScore (arbitrator.selected sorted))) =
        (.ok ([1, 3], some 50, 90) : Outcome Empty (List Address × Option U256 × U256)) := by
  decide +kernel

end Arbitrator

end MandateSolver.WinnerSelection
