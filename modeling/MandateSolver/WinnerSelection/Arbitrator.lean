import MandateSolver.Foundation.GreedySelection
import MandateSolver.Foundation.StableSort
import MandateSolver.WinnerSelection.Scoring

/-!
# The arbitrator

Fair solutions are taken greedily by descending score as long as they share no directed
token pair.  For a reference score winners are selected once more from the ranking without a
solver.
-/

namespace MandateSolver.WinnerSelection

open List

/-- The settings of the winner selection. -/
structure Arbitrator where
  maxWinners : Nat
  weth : Address

structure SolutionKey where
  solver : Address
  solutionId : Nat
  deriving DecidableEq

def Solution.key {State : Type} (solution : Solution State) : SolutionKey :=
  ⟨solution.solver, solution.id⟩

abbrev ScoresBySolution := List (SolutionKey × ScoreByDirection)

/-- Fair and unfair solutions. -/
structure PartitionedSolutions where
  (kept discarded : List (Solution Scored))

/-- All solutions in their final order. -/
structure Ranking where
  (filteredOut ranked : List (Solution Ranked))

/-- Ties count as well. -/
def HigherScore {State : Type} (score : State → U256) (left right : Solution State) : Prop :=
  score right.state ≤ score left.state

instance {State : Type} (score : State → U256) : DecidableRel (HigherScore score) :=
  fun left right =>
    inferInstanceAs (Decidable (score right.state ≤ score left.state))

instance {State : Type} (score : State → U256) : IsTrans (Solution State) (HigherScore score) :=
  ⟨fun _ _ _ first second => le_trans second first⟩

instance {State : Type} (score : State → U256) : Std.Total (HigherScore score) :=
  ⟨fun left right => le_total (score right.state) (score left.state)⟩

/-! ## Unfair solutions -/

/-- The best score among the solutions that trade only this pair. -/
def computeBaselineScores (scoresBySolution : ScoresBySolution) : ScoreByDirection :=
  scoresBySolution.foldl (fun baseline (_, scores) =>
    match scores with
    | [(pair, score)] =>
      upsert pair (fun best =>
        if best.getD 0 < score then score else best.getD 0) baseline
    | _ => baseline) []

/-- A solution with several pairs has to be as good as the best solution for
each of them alone. -/
def isFair (baseline aggregated : ScoreByDirection) : Bool :=
  aggregated.length = 1 || aggregated.all fun (pair, score) =>
    match baseline.lookup pair with
    | none => true
    | some best => best ≤ score

variable {F : Type}

section

variable [Factor F]

/-- Solutions that cannot be scored are dropped. -/
def computeScoresBySolution (solutions : List (Solution Unit)) (context : AuctionContext F) :
    Outcome Empty (List (Solution Scored) × ScoresBySolution) :=
  solutions.foldlM (fun (scored, scores) solution => do
    match ← (scoreByTokenPair solution context).attempt with
    | some score =>
      let totalScore := U256.saturatingSum (score.map Prod.snd)
      return (scored ++ [solution.withScore totalScore],
        upsert solution.key (fun _ => score) scores)
    | none => return (scored, scores)) ([], [])

def judge (scoresBySolution : ScoresBySolution) (solution : Solution Scored) :
    Outcome Empty (Solution Scored × Bool) := do
  let aggregatedScores ← .expect "every remaining solution has an entry"
    (scoresBySolution.lookup solution.key)
  return (solution, isFair (computeBaselineScores scoresBySolution) aggregatedScores)

def partitionUnfairSolutions (solutions : List (Solution Unit))
    (context : AuctionContext F) : Outcome Empty PartitionedSolutions := do
  let (solutions, scoresBySolution) ← computeScoresBySolution solutions context
  let judged ← (solutions.insertionSort (HigherScore Scored.score)).mapM
    (judge scoresBySolution)
  return ⟨(judged.filter (·.2)).map (·.1), (judged.filter (!·.2)).map (·.1)⟩

end

/-! ## Winners -/

/-- Winners first, then by score. -/
def RanksBefore (left right : Solution Ranked) : Prop :=
  (left.isWinner = true ∧ right.isWinner = false) ∨
    (left.isWinner = right.isWinner ∧ right.state.score ≤ left.state.score)

instance : DecidableRel RanksBefore :=
  fun left right => inferInstanceAs (Decidable
    ((left.isWinner = true ∧ right.isWinner = false) ∨ (left.isWinner = right.isWinner ∧
        right.state.score ≤ left.state.score)))

variable {arbitrator : Arbitrator} {State : Type}

namespace Arbitrator

variable (arbitrator)

/-- With the native token wrapped. -/
def swappedTokenPairs (solution : Solution State) : List DirectedTokenPair :=
  solution.orders.map fun order =>
    ⟨asErc20 order.sellToken arbitrator.weth, asErc20 order.buyToken arbitrator.weth⟩

def pickWinnersFrom : Nat → List Nat → List DirectedTokenPair → List (Solution State) → List Nat
  | _, winners, _, [] => winners
  | index, winners, alreadySwapped, solution :: rest =>
    if arbitrator.maxWinners ≤ winners.length then winners
    else if ∀ pair ∈ arbitrator.swappedTokenPairs solution, pair ∉ alreadySwapped then
      pickWinnersFrom (index + 1) (winners ++ [index])
        (alreadySwapped ++ arbitrator.swappedTokenPairs solution) rest
    else pickWinnersFrom (index + 1) winners alreadySwapped rest

def pickWinners (solutions : List (Solution State)) : List Nat :=
  arbitrator.pickWinnersFrom 0 [] [] solutions

def markWinners (solutions : List (Solution Scored)) : List (Solution Ranked) :=
  let winnerIndices := arbitrator.pickWinners solutions
  solutions.zipIdx.map fun (solution, index) =>
    solution.withRank (if index ∈ winnerIndices then .winner else .nonWinner)

def arbitrate {F : Type} [Factor F] (solutions : List (Solution Unit))
    (context : AuctionContext F) : Outcome Empty Ranking := do
  let partitioned ← partitionUnfairSolutions solutions context
  let filteredOut := partitioned.discarded.map (·.withRank .filteredOut)
  let ranked := (arbitrator.markWinners partitioned.kept).insertionSort
    RanksBefore
  return ⟨filteredOut, ranked⟩

/-! ## Reference scores -/

/-- The solutions that win. -/
def selected (solutions : List (Solution State)) : List (Solution State) :=
  let winnerIndices := arbitrator.pickWinners solutions
  (solutions.zipIdx.filter (fun (_, index) => index ∈ winnerIndices)).map Prod.fst

end Arbitrator

/-- The solutions that settle. -/
def Ranking.winners (ranking : Ranking) : List (Solution Ranked) :=
  ranking.ranked.filter (·.isWinner)

/-- The ranking without a solver's solutions. -/
def Ranking.without (ranking : Ranking) (solver : Address) : List (Solution Ranked) :=
  ranking.ranked.filter (·.solver ≠ solver)

/-- The sum of the scores. -/
def totalScore (solutions : List (Solution Ranked)) : U256 :=
  (U256.reduce U256.saturatingAdd (solutions.map (·.state.score))).getD 0

namespace Arbitrator

variable (arbitrator)

def computeReferenceScoresFrom (ranking : Ranking) :
    List (Address × U256) → List (Solution Ranked) → List (Address × U256)
  | referenceScores, [] => referenceScores
  | referenceScores, solution :: rest =>
    if arbitrator.maxWinners ≤ referenceScores.length then referenceScores
    else if (referenceScores.lookup solution.solver).isSome then
      computeReferenceScoresFrom ranking referenceScores rest
    else if !solution.isWinner then
      computeReferenceScoresFrom ranking referenceScores rest
    else
      let score := totalScore
        (arbitrator.selected (ranking.without solution.solver))
      computeReferenceScoresFrom ranking
        (upsert solution.solver (fun _ => score) referenceScores) rest

def computeReferenceScores (ranking : Ranking) : List (Address × U256) :=
  arbitrator.computeReferenceScoresFrom ranking [] ranking.ranked

end Arbitrator

/-! ## Partitioning -/

section

variable [Factor F] (context : AuctionContext F)

def scoredSolution (solution : Solution Unit) : Option (Solution Scored) :=
  (scoreByTokenPair solution context).toOption.map fun scores =>
    solution.withScore (U256.saturatingSum (scores.map Prod.snd))

def scoreEntry (solution : Solution Unit) : Option (SolutionKey × ScoreByDirection) :=
  (scoreByTokenPair solution context).toOption.map fun scores =>
    (solution.key, scores)

def recordedScores (solutions : List (Solution Unit)) : ScoresBySolution :=
  insertAll (solutions.filterMap (scoreEntry context)) []

variable (solutions : List (Solution Unit)) {solution : Solution Scored}

theorem computeScoresBySolution_eq :
    computeScoresBySolution solutions context = .ok (solutions.filterMap (scoredSolution context),
        recordedScores context solutions) := by
  suffices loop : ∀ scored scores, solutions.foldlM _ (scored, scores) =
      (.ok (scored ++ solutions.filterMap (scoredSolution context),
        insertAll (solutions.filterMap (scoreEntry context)) scores) :
          Outcome Empty _) from loop [] []
  induction solutions with
  | nil => simp [insertAll]
  | cons solution solutions ih =>
    intro scored scores
    rw [foldlM_cons]
    cases outcome : scoreByTokenPair solution context with
    | ok found =>
      have hasScore : scoredSolution context solution = some
          (solution.withScore (U256.saturatingSum (found.map Prod.snd))) := by
        simp [scoredSolution, outcome]
      have hasEntry : scoreEntry context solution = some (solution.key, found) := by
        simp [scoreEntry, outcome]
      rw [filterMap_cons_some hasScore, filterMap_cons_some hasEntry,
        ← singleton_append, ← append_assoc]
      exact ih _ _
    | err error =>
      have noScore : scoredSolution context solution = none := by
        simp [scoredSolution, outcome, Outcome.toOption]
      have noEntry : scoreEntry context solution = none := by
        simp [scoreEntry, outcome, Outcome.toOption]
      rw [filterMap_cons_none noScore, filterMap_cons_none noEntry]
      exact ih _ _
    | panic reason =>
      exact absurd outcome (noPanic_scoreByTokenPair solution context reason)

theorem isSome_lookup_recordedScores {solutions : List (Solution Unit)}
    (mem : solution ∈ solutions.filterMap (scoredSolution context)) :
    ((recordedScores context solutions).lookup solution.key).isSome := by
  apply insertAll.isSome_lookup
  obtain ⟨source, sourceMember, scored⟩ := mem_filterMap.mp mem
  obtain ⟨scores, found, rfl⟩ := Option.map_eq_some_iff.mp scored
  apply mem_map.mpr
  exact ⟨(source.key, scores), mem_filterMap.mpr
    ⟨source, sourceMember, by simp [scoreEntry, found]⟩, rfl⟩

def fairBy (scoresBySolution : ScoresBySolution) (solution : Solution Scored) : Bool :=
  isFair (computeBaselineScores scoresBySolution) ((scoresBySolution.lookup solution.key).getD [])

theorem judge_of_isSome {scoresBySolution : ScoresBySolution}
    (entry : (scoresBySolution.lookup solution.key).isSome) :
    judge scoresBySolution solution = .ok (solution, fairBy scoresBySolution solution) := by
  obtain ⟨_, found⟩ := Option.isSome_iff_exists.mp entry
  simp [judge, fairBy, found]

def sortedSolutions (solutions : List (Solution Unit)) : List (Solution Scored) :=
  (solutions.filterMap (scoredSolution context)).insertionSort (HigherScore Scored.score)

/-- Partitioning never aborts: the expected entries are all there. -/
theorem partitionUnfairSolutions_eq :
    partitionUnfairSolutions solutions context = .ok ⟨(sortedSolutions context solutions).filter
          (fairBy (recordedScores context solutions)),
        (sortedSolutions context solutions).filter
          (!fairBy (recordedScores context solutions) ·)⟩ := by
  have judged : (sortedSolutions context solutions).mapM
      (judge (recordedScores context solutions)) =
        (.ok ((sortedSolutions context solutions).map fun solution =>
          (solution, fairBy (recordedScores context solutions) solution)) : Outcome Empty _) := by
    apply Outcome.mapM_eq_ok_iff.mpr
    rw [forall₂_map_right_iff, forall₂_same]
    intro solution mem
    apply judge_of_isSome
    exact isSome_lookup_recordedScores context ((mem_insertionSort _).mp mem)
  unfold partitionUnfairSolutions
  rw [computeScoresBySolution_eq, Outcome.ok_bind]
  change (sortedSolutions context solutions).mapM _ >>= _ = _
  rw [judged]
  simp [filter_map, Function.comp_def]

end

/-! ## Winner picking is a greedy selection -/

namespace Arbitrator

variable (arbitrator) {winner : Nat}

theorem mem_pickWinnersFrom_of_mem (index : Nat)
    {winners : List Nat} (pairs : List DirectedTokenPair)
    (solutions : List (Solution State)) (mem : winner ∈ winners) :
    winner ∈ arbitrator.pickWinnersFrom index winners pairs solutions := by
  induction solutions generalizing index winners pairs with
  | nil => exact mem
  | cons solution solutions ih =>
    unfold pickWinnersFrom
    split
    · exact mem
    · split
      · exact ih _ _ (mem_append_left _ mem)
      · exact ih _ _ mem

section

variable (index : Nat) (winners : List Nat) (pairs : List DirectedTokenPair)
  (solutions : List (Solution State))

theorem mem_or_le_of_mem_pickWinnersFrom
    (mem : winner ∈ arbitrator.pickWinnersFrom index winners pairs solutions) :
    winner ∈ winners ∨ index ≤ winner := by
  induction solutions generalizing index winners pairs with
  | nil => exact Or.inl mem
  | cons solution solutions ih =>
    unfold pickWinnersFrom at mem
    split at mem
    · exact Or.inl mem
    · split at mem
      · rcases ih _ _ _ mem with before | after
        · rcases mem_append.mp before with earlier | new
          · exact Or.inl earlier
          · exact Or.inr (mem_singleton.mp new).ge
        · exact Or.inr (Nat.le_of_succ_le after)
      · rcases ih _ _ _ mem with before | after
        · exact Or.inl before
        · exact Or.inr (Nat.le_of_succ_le after)

/-- From any point of the loop on, the solutions at the picked indices are
those that a greedy selection takes. -/
theorem filter_pickWinnersFrom (earlier : ∀ winner ∈ winners, winner < index) :
    (solutions.zipIdx index).filter (fun entry => entry.2 ∈
        arbitrator.pickWinnersFrom index winners pairs solutions) =
      greedySelect (arbitrator.swappedTokenPairs ∘ Prod.fst)
        (arbitrator.maxWinners - winners.length) pairs
        (solutions.zipIdx index) := by
  induction solutions generalizing index winners pairs with
  | nil => simp
  | cons solution solutions ih =>
    by_cases full : arbitrator.maxWinners ≤ winners.length
    · rw [pickWinnersFrom, if_pos full, Nat.sub_eq_zero_of_le full]
      apply filter_eq_nil_iff.mpr
      intro entry mem
      have notEarlier := (mem_zipIdx mem).1
      simp only [decide_eq_true_eq]
      intro isWinner
      exact absurd (earlier entry.2 isWinner) (Nat.not_lt.mpr notEarlier)
    · obtain ⟨left, slots⟩ : ∃ left, arbitrator.maxWinners - winners.length = left + 1 :=
        ⟨arbitrator.maxWinners - winners.length - 1, by omega⟩
      rw [slots, pickWinnersFrom, if_neg full, zipIdx_cons]
      by_cases free : ∀ pair ∈ arbitrator.swappedTokenPairs solution, pair ∉ pairs
      · have free' : ∀ pair ∈ (arbitrator.swappedTokenPairs ∘ Prod.fst)
            (solution, index), pair ∉ pairs := free
        have slots' : arbitrator.maxWinners - (winners ++ [index]).length =
            left := by
          rw [length_append, length_singleton]
          omega
        have earlier' : ∀ winner ∈ winners ++ [index], winner < index + 1 := by
          intro winner mem
          rcases mem_append.mp mem with before | new
          · exact Nat.lt_succ_of_lt (earlier winner before)
          · rw [mem_singleton.mp new]
            exact Nat.lt_succ_self index
        rw [if_pos free, greedySelect.take free', filter_cons_of_pos, ih _ _ _ earlier', slots']
        · rfl
        · simp only [decide_eq_true_eq]
          exact arbitrator.mem_pickWinnersFrom_of_mem _ _ _ (by simp)
      · have blocked : ¬ ∀ pair ∈ (arbitrator.swappedTokenPairs ∘ Prod.fst)
            (solution, index), pair ∉ pairs := free
        rw [if_neg free, greedySelect.skip blocked, filter_cons_of_neg, ih _ _ _ fun winner mem =>
            Nat.lt_succ_of_lt (earlier winner mem), slots]
        simp only [decide_eq_true_eq]
        intro isWinner
        rcases arbitrator.mem_or_le_of_mem_pickWinnersFrom _ _ _ _ isWinner with before | after
        · exact Nat.lt_irrefl index (earlier index before)
        · exact Nat.not_succ_le_self index after

end

abbrev select (solutions : List (Solution State)) : List (Solution State) :=
  greedySelect arbitrator.swappedTokenPairs arbitrator.maxWinners [] solutions

variable (solutions : List (Solution State))

theorem filter_pickWinners : solutions.zipIdx.filter
        (fun entry => entry.2 ∈ arbitrator.pickWinners solutions) =
      greedySelect (arbitrator.swappedTokenPairs ∘ Prod.fst)
        arbitrator.maxWinners [] solutions.zipIdx :=
  arbitrator.filter_pickWinnersFrom 0 [] [] solutions (by simp)

theorem selected_eq : arbitrator.selected solutions = arbitrator.select solutions := by
  change (solutions.zipIdx.filter
    (fun entry => entry.2 ∈ arbitrator.pickWinners solutions)).map Prod.fst = _
  rw [arbitrator.filter_pickWinners, ← greedySelect.map, zipIdx_map_fst]

theorem filter_markWinners (solutions : List (Solution Scored)) :
    (arbitrator.markWinners solutions).filter (·.isWinner) =
      arbitrator.select (arbitrator.markWinners solutions) := by
  unfold markWinners
  rw [filter_map, select, greedySelect.map]
  congr 1
  calc solutions.zipIdx.filter _
    _ = solutions.zipIdx.filter (fun entry => entry.2 ∈ arbitrator.pickWinners solutions) := by
      apply filter_congr
      intro entry _
      by_cases isWinner : entry.2 ∈ arbitrator.pickWinners solutions <;>
        simp [Solution.isWinner, Solution.withRank, Solution.withState]
    _ = _ := arbitrator.filter_pickWinners solutions

end Arbitrator

/-! ## The ranking -/

instance : IsTrans (Solution Ranked) RanksBefore where
  trans first second third before after := by
    unfold RanksBefore at *
    rcases before with ⟨wins, loses⟩ | ⟨same, higher⟩ <;>
      rcases after with ⟨wins', loses'⟩ | ⟨same', higher'⟩
    · exact Or.inl ⟨wins, loses'⟩
    · exact Or.inl ⟨wins, same' ▸ loses⟩
    · exact Or.inl ⟨same.trans wins', loses'⟩
    · exact Or.inr ⟨same.trans same', le_trans higher' higher⟩

instance : Std.Total RanksBefore where
  total left right := by
    unfold RanksBefore
    have total := le_total left.state.score right.state.score
    cases left.isWinner <;> cases right.isWinner <;> simp [total.symm]

/-- The ranking of the fair solutions `fair`, which come by descending score:
those that are selected win and are listed first. -/
structure Arbitrator.Ranks (arbitrator : Arbitrator)
    (fair ranked : List (Solution Ranked)) : Prop where
  descending : fair.Pairwise (HigherScore Ranked.score)
  winners : fair.filter (·.isWinner) = arbitrator.select fair
  ranked_eq : ranked = fair.filter (·.isWinner) ++ fair.filter (!·.isWinner)

theorem insertionSort_ranksBefore {solutions : List (Solution Ranked)}
    (descending : solutions.Pairwise (HigherScore Ranked.score)) :
    solutions.insertionSort RanksBefore =
      solutions.filter (·.isWinner) ++ solutions.filter (!·.isWinner) := by
  have winners : (solutions.filter (·.isWinner)).Pairwise RanksBefore := by
    apply List.Pairwise.imp_of_mem _ (descending.filter _)
    intro left right leftMember rightMember higher
    have leftWins := of_mem_filter leftMember
    have rightWins := of_mem_filter rightMember
    exact Or.inr ⟨leftWins.trans rightWins.symm, higher⟩
  have others : (solutions.filter (!·.isWinner)).Pairwise RanksBefore := by
    apply List.Pairwise.imp_of_mem _ (descending.filter _)
    intro left right leftMember rightMember higher
    have leftLoses := of_mem_filter leftMember
    have rightLoses := of_mem_filter rightMember
    simp only [Bool.not_eq_true'] at leftLoses rightLoses
    exact Or.inr ⟨leftLoses.trans rightLoses.symm, higher⟩
  have winnersFirst : (solutions.insertionSort RanksBefore).Pairwise
      fun left right => right.isWinner = true → left.isWinner = true := by
    apply (pairwise_insertionSort RanksBefore solutions).imp
    intro left right before rightWins
    rcases before with ⟨leftWins, _⟩ | ⟨same, _⟩
    · exact leftWins
    · exact same.trans rightWins
  rw [eq_filter_append_filter winnersFirst, filter_insertionSort winners,
    filter_insertionSort others]

def Arbitrator.markedSolutions (arbitrator : Arbitrator) {F : Type} [Factor F]
    (solutions : List (Solution Unit)) (context : AuctionContext F) : List (Solution Ranked) :=
  arbitrator.markWinners ((sortedSolutions context solutions).filter
    (fairBy (recordedScores context solutions)))

theorem Arbitrator.pairwise_markedSolutions (arbitrator : Arbitrator)
    [Factor F] (solutions : List (Solution Unit)) (context : AuctionContext F) :
    (arbitrator.markedSolutions solutions context).Pairwise (HigherScore Ranked.score) := by
  have sorted : (sortedSolutions context solutions).Pairwise
      (HigherScore Scored.score) := pairwise_insertionSort _ _
  have kept := sorted.filter (fairBy (recordedScores context solutions))
  rw [← zipIdx_map_fst 0 (List.filter _ _), pairwise_map] at kept
  unfold markedSolutions markWinners
  rw [pairwise_map]
  exact kept

def Arbitrator.rankedSolutions (arbitrator : Arbitrator) {F : Type} [Factor F]
    (solutions : List (Solution Unit)) (context : AuctionContext F) : List (Solution Ranked) :=
  (arbitrator.markedSolutions solutions context).insertionSort RanksBefore

section

variable (arbitrator)
include arbitrator

section

variable (solutions : List (Solution Unit))
include solutions

section

variable (context : AuctionContext F)
include context

theorem Arbitrator.ranks_rankedSolutions [Factor F] :
    arbitrator.Ranks (arbitrator.markedSolutions solutions context)
      (arbitrator.rankedSolutions solutions context) where
  descending := arbitrator.pairwise_markedSolutions solutions context
  winners := arbitrator.filter_markWinners _
  ranked_eq := insertionSort_ranksBefore (arbitrator.pairwise_markedSolutions solutions context)

theorem Arbitrator.arbitrate_eq [Factor F] :
    arbitrator.arbitrate solutions context = .ok ⟨((sortedSolutions context solutions).filter
          (!fairBy (recordedScores context solutions) ·)).map (·.withRank .filteredOut),
        arbitrator.rankedSolutions solutions context⟩ := by
  unfold arbitrate
  rw [partitionUnfairSolutions_eq]
  rfl

theorem Arbitrator.arbitrate_ranked [Factor F] :
    (arbitrator.arbitrate solutions context).Returns fun ranking =>
      ranking.ranked = arbitrator.rankedSolutions solutions context := by
  rw [arbitrator.arbitrate_eq]
  exact .ok rfl

theorem Arbitrator.arbitrate_returns [Factor F] :
    (arbitrator.arbitrate solutions context).Returns fun ranking =>
      ∃ fair, arbitrator.Ranks fair ranking.ranked := by
  apply (arbitrator.arbitrate_ranked solutions context).mono
  intro ranking same
  rw [same]
  exact ⟨_, arbitrator.ranks_rankedSolutions solutions context⟩

end

end

end

end MandateSolver.WinnerSelection
