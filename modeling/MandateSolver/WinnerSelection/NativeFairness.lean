import MandateSolver.WinnerSelection.Ranking

/-!
# Fairness and the native token

Winner picking treats the native token as its wrapped version, the filter for unfair
solutions compares raw addresses.
-/

namespace MandateSolver.WinnerSelection

open List

@[simp] theorem asErc20_native (wrapped : Address) : asErc20 nativeToken wrapped = wrapped :=
  if_pos rfl

theorem asErc20_of_ne {token : Address} (other : token ≠ nativeToken)
    (wrapped : Address) : asErc20 token wrapped = token :=
  if_neg other

@[simp] theorem asErc20_wrapped (wrapped : Address) : asErc20 wrapped wrapped = wrapped :=
  ite_self wrapped

section

variable {F : Type} [Factor F]

def Arbitrator.normalisedPair (arbitrator : Arbitrator) (order : Order) : DirectedTokenPair :=
  ⟨asErc20 order.sellToken arbitrator.weth, asErc20 order.buyToken arbitrator.weth⟩

theorem Arbitrator.normalisedPair_of_native {arbitrator : Arbitrator}
    (native : arbitrator.weth = nativeToken) : arbitrator.normalisedPair = Order.tokenPair := by
  have same : ∀ token, asErc20 token arbitrator.weth = token := by
    intro token
    by_cases isNative : token = nativeToken
    · rw [isNative, asErc20_native, native]
    · exact asErc20_of_ne isNative _
  funext order
  simp [normalisedPair, Order.tokenPair, same]

/-- Fairness with native and wrapped token taken as one. -/
def Ranking.NormalisedFair (ranking : Ranking) (arbitrator : Arbitrator)
    (solutions : List (Solution Unit)) (context : AuctionContext F) : Prop :=
  ∀ winner ∈ ranking.winners,
    FairAmong (scoreByPair arbitrator.normalisedPair · context) solutions winner.proposal

end

/-! ## Winners pass the check that is made -/

namespace Arbitrator

variable {F : Type} [Factor F] (arbitrator : Arbitrator)
  {solutions : List (Solution Unit)} {context : AuctionContext F} {entry : Solution Ranked}

theorem mem_scorableSolutions_of_mem_ranked
    (mem : entry ∈ arbitrator.rankedSolutions solutions context) :
    entry.scored Ranked.score ∈ scorableSolutions solutions context := by
  have ranked := arbitrator.map_scored_rankedSolutions_perm solutions context
  have sorted := map_scored_sortedSolutions_perm solutions context
  have listed := ranked.subset (mem_map_of_mem mem)
  exact sorted.subset ((filter_sublist.map _).subset listed)

theorem mem_scorableSolutions_iff {solution : Solution Unit} {score : U256} :
    (solution, score) ∈ scorableSolutions solutions context ↔
      solution ∈ solutions ∧ ∃ scores, scoreByTokenPair solution context = .ok scores ∧
          U256.saturatingSum (scores.map Prod.snd) = score := by
  simp only [scorableSolutions, mem_filterMap, Option.map_eq_some_iff,
    Outcome.toOption_eq_some_iff, Prod.mk.injEq]
  constructor
  · rintro ⟨_, mem, scores, outcome, rfl, total⟩
    exact ⟨mem, scores, outcome, total⟩
  · rintro ⟨mem, scores, outcome, total⟩
    exact ⟨solution, mem, scores, outcome, rfl, total⟩

theorem fairAmong_of_mem_ranked (distinct : (solutions.map (·.key)).Nodup)
    (mem : entry ∈ arbitrator.rankedSolutions solutions context) :
    entry.proposal ∈ solutions ∧
      FairAmong (scoreByTokenPair · context) solutions entry.proposal := by
  obtain ⟨proposed, _, outcome, _⟩ := mem_scorableSolutions_iff.mp
    (arbitrator.mem_scorableSolutions_of_mem_ranked mem)
  exact ⟨proposed, (arbitrator.mem_rankedSolutions_iff distinct proposed
    outcome).mp (mem_map_of_mem mem)⟩

variable (solutions context) in
/-- No solution that passes the filter is unfair once the native token counts
as its wrapped version. -/
def FilterSuffices : Prop :=
  ∀ solution ∈ solutions, FairAmong (scoreByTokenPair · context) solutions solution →
      FairAmong (scoreByPair arbitrator.normalisedPair · context) solutions solution

theorem normalisedFair_of_filterSuffices (distinct : (solutions.map (·.key)).Nodup)
    (enough : arbitrator.FilterSuffices solutions context) :
    (arbitrator.arbitrate solutions context).Returns fun ranking =>
      ranking.NormalisedFair arbitrator solutions context := by
  apply (arbitrator.arbitrate_ranked solutions context).mono
  intro ranking same _ won
  have mem := mem_of_mem_filter won
  rw [same] at mem
  obtain ⟨proposed, fair⟩ := arbitrator.fairAmong_of_mem_ranked distinct mem
  exact enough _ proposed fair

/-! ## A solution that escapes the filter -/

/-- It sells the first token for the native one, and trades another pair. -/
def nativeBuyer : Solution Unit :=
  ⟨1, 1, [surplusOrder 1 nativeToken 1, surplusOrder 3 4 3], fun _ => some 1, ()⟩

/-- It sells the same token for the wrapped one, with a higher score. -/
def wrappedBuyer (weth : Address) : Solution Unit :=
  ⟨1, 2, [surplusOrder 1 weth 2], fun _ => some 1, ()⟩

theorem computeOrderScore_surplusOrder (sellToken buyToken : Address) (surplus : U256) :
    computeOrderScore (surplusOrder sellToken buyToken surplus) (fun _ => some 1) feelessContext =
      computeOrderScore (surplusOrder 0 0 surplus) (fun _ => some 1)
        feelessContext := by
  rfl

theorem scoreByPair_nativeBuyer {pairOf : Order → DirectedTokenPair}
    (ne : pairOf (surplusOrder 1 nativeToken 1) ≠ pairOf (surplusOrder 3 4 3)) :
    scoreByPair pairOf nativeBuyer feelessContext = .ok [(pairOf (surplusOrder 1 nativeToken 1), 1),
        (pairOf (surplusOrder 3 4 3), 3)] := by
  change Outcome.ok (upsert (pairOf (surplusOrder 3 4 3)) _
    [(pairOf (surplusOrder 1 nativeToken 1), 1)]) = _
  simp only [upsert, ne]
  rfl

theorem scoreByPair_wrappedBuyer (pairOf : Order → DirectedTokenPair) (weth : Address) :
    scoreByPair pairOf (wrappedBuyer weth) feelessContext =
      .ok [(pairOf (surplusOrder 1 weth 2), 2)] := by
  have score : computeOrderScore (surplusOrder 1 weth 2) (fun _ => some 1)
      feelessContext = .ok 2 := by
    rw [computeOrderScore_surplusOrder]
    decide +kernel
  simp only [scoreByPair, wrappedBuyer, List.foldlM, score]
  rfl

theorem scoreByTokenPair_nativeBuyer : scoreByTokenPair nativeBuyer feelessContext =
      .ok [(⟨1, nativeToken⟩, 1), (⟨3, 4⟩, 3)] :=
  scoreByPair_nativeBuyer (by decide)

theorem scoreByTokenPair_wrappedBuyer (weth : Address) :
    scoreByTokenPair (wrappedBuyer weth) feelessContext = .ok [(⟨1, weth⟩, 2)] :=
  scoreByPair_wrappedBuyer Order.tokenPair weth

theorem scorableSolutions_nativeBuyer (weth : Address) :
    scorableSolutions [nativeBuyer, wrappedBuyer weth] feelessContext =
      [(nativeBuyer, 4), (wrappedBuyer weth, 2)] := by
  simp only [scorableSolutions, List.filterMap, scoreByTokenPair_wrappedBuyer]
  rfl

/-- The raw pairs of the two solutions differ, so the first one stays. -/
theorem mem_ranked_nativeBuyer (wrapped : arbitrator.weth ≠ nativeToken) :
    nativeBuyer ∈ (arbitrator.rankedSolutions
      [nativeBuyer, wrappedBuyer arbitrator.weth] feelessContext).map (·.proposal) := by
  have distinct : ([nativeBuyer, wrappedBuyer arbitrator.weth].map (·.key)).Nodup := by
    simp [Solution.key, nativeBuyer, wrappedBuyer]
  apply (arbitrator.mem_rankedSolutions_iff distinct mem_cons_self scoreByTokenPair_nativeBuyer).mpr
  apply (fairAmong_iff scoreByTokenPair_nativeBuyer).mpr
  right
  intro _ mem _ otherMem _ single
  rcases mem_cons.mp otherMem with rfl | otherMem
  · simp [scoreByTokenPair_nativeBuyer] at single
  · obtain rfl := mem_singleton.mp otherMem
    simp only [scoreByTokenPair_wrappedBuyer, Outcome.ok.injEq, List.cons.injEq,
      Prod.mk.injEq] at single
    have samePair := single.1.1
    rcases mem_cons.mp mem with rfl | mem
    · exact absurd (congrArg DirectedTokenPair.buy samePair) wrapped
    · rw [mem_singleton.mp mem] at samePair
      have sameSell : (1 : Address) = 3 := congrArg DirectedTokenPair.sell samePair
      exact absurd sameSell (by decide)

theorem mem_winners_nativeBuyer (wrapped : arbitrator.weth ≠ nativeToken)
    (allowed : arbitrator.maxWinners ≠ 0) :
    (arbitrate arbitrator [nativeBuyer, wrappedBuyer arbitrator.weth]
      feelessContext).Returns fun ranking =>
        ∃ winner ∈ ranking.winners, winner.proposal = nativeBuyer := by
  apply (arbitrator.arbitrate_ranked _ _).mono
  intro ranking same
  have ranks := same ▸ arbitrator.ranks_rankedSolutions _ _
  have scores : ∀ entry ∈ ranking.ranked, entry.scored Ranked.score = (nativeBuyer, 4) ∨
        entry.scored Ranked.score = (wrappedBuyer arbitrator.weth, 2) := by
    intro entry mem
    rw [same] at mem
    have scorable := arbitrator.mem_scorableSolutions_of_mem_ranked mem
    rw [scorableSolutions_nativeBuyer] at scorable
    simpa using scorable
  have listed := arbitrator.mem_ranked_nativeBuyer wrapped
  rw [← same] at listed
  obtain ⟨entry, mem, isBuyer⟩ := mem_map.mp listed
  have entryScore : entry.state.score = 4 := by
    rcases scores entry mem with own | other
    · exact congrArg Prod.snd own
    · have sameSolver : (1 : Address) = 2 :=
        congrArg (·.solver) (isBuyer.symm.trans (congrArg Prod.fst other))
      exact absurd sameSolver (by decide)
  obtain ⟨winner, won, higher⟩ := ranks.exists_winner_ge allowed mem
  refine ⟨winner, won, ?_⟩
  rcases scores winner (mem_of_mem_filter won) with own | other
  · exact congrArg Prod.fst own
  · have lower : winner.state.score = 2 := congrArg Prod.snd other
    rw [entryScore, lower] at higher
    exact absurd higher (by decide)

theorem not_fairAmong_nativeBuyer :
    ¬ FairAmong (scoreByPair arbitrator.normalisedPair · feelessContext)
      [nativeBuyer, wrappedBuyer arbitrator.weth] nativeBuyer := by
  have plain : ∀ token ∈ [1, 3, 4], asErc20 token arbitrator.weth = token := by
    intro token mem
    apply asErc20_of_ne
    intro isNative
    rw [isNative] at mem
    exact absurd mem (by decide)
  have first : arbitrator.normalisedPair (surplusOrder 1 nativeToken 1) = ⟨1, arbitrator.weth⟩ :=
    congrArg₂ DirectedTokenPair.mk (plain 1 (by decide)) (asErc20_native _)
  have second : arbitrator.normalisedPair (surplusOrder 3 4 3) = ⟨3, 4⟩ :=
    congrArg₂ DirectedTokenPair.mk (plain 3 (by decide)) (plain 4 (by decide))
  have wrapped : arbitrator.normalisedPair
      (surplusOrder 1 arbitrator.weth 2) = ⟨1, arbitrator.weth⟩ :=
    congrArg₂ DirectedTokenPair.mk (plain 1 (by decide)) (asErc20_wrapped _)
  have ne : arbitrator.normalisedPair (surplusOrder 1 nativeToken 1) ≠
      arbitrator.normalisedPair (surplusOrder 3 4 3) := by
    rw [first, second]
    simp
  have single : scoreByPair arbitrator.normalisedPair
      (wrappedBuyer arbitrator.weth) feelessContext =
        .ok [(arbitrator.normalisedPair (surplusOrder 1 nativeToken 1), 2)] := by
    rw [scoreByPair_wrappedBuyer, wrapped, first]
  intro fair
  rcases (fairAmong_iff (scoreByPair_nativeBuyer ne)).mp fair with
    one | atLeast
  · simp at one
  · have bounded : 2 ≤ 1 := atLeast _ mem_cons_self _ (mem_cons_of_mem _ mem_cons_self) 2 single
    exact absurd bounded (by decide)

/-- All winners are fair with the native token counted as its wrapped version,
in any auction, exactly when there is no other version of it or nothing may
win.  In a given auction it is enough that the filter suffices. -/
theorem arbitrate_normalisedFair (arbitrator : Arbitrator) :
    ((∀ (F : Type) [Factor F] (solutions : List (Solution Unit))
        (context : AuctionContext F), (solutions.map (·.key)).Nodup →
          (arbitrator.arbitrate solutions context).Returns fun ranking =>
            ranking.NormalisedFair arbitrator solutions context) ↔
      arbitrator.weth = nativeToken ∨ arbitrator.maxWinners = 0) ∧
    ∀ (F : Type) [Factor F] (solutions : List (Solution Unit))
      (context : AuctionContext F), (solutions.map (·.key)).Nodup →
        arbitrator.FilterSuffices solutions context →
          (arbitrator.arbitrate solutions context).Returns fun ranking =>
            ranking.NormalisedFair arbitrator solutions context := by
  refine ⟨⟨?_, ?_⟩, fun F _ solutions context distinct enough =>
    arbitrator.normalisedFair_of_filterSuffices distinct enough⟩
  · intro always
    by_contra neither
    push Not at neither
    obtain ⟨wrapped, allowed⟩ := neither
    have distinct : ([nativeBuyer, wrappedBuyer arbitrator.weth].map (·.key)).Nodup := by
      simp [Solution.key, nativeBuyer, wrappedBuyer]
    obtain ⟨ranking, returned, fair⟩ := always ℚ _ feelessContext distinct
    obtain ⟨other, returned', winner, won, isBuyer⟩ :=
      arbitrator.mem_winners_nativeBuyer wrapped allowed
    obtain rfl : ranking = other := by
      rw [returned] at returned'
      simpa using returned'
    have buyerFair := fair winner won
    rw [isBuyer] at buyerFair
    exact arbitrator.not_fairAmong_nativeBuyer buyerFair
  · rintro (native | none) F _ solutions context distinct
    · apply arbitrator.normalisedFair_of_filterSuffices distinct
      intro _ _ fair
      rw [normalisedPair_of_native native]
      exact fair
    · apply (arbitrator.arbitrate_returns solutions context).mono
      intro ranking ranked winner won
      obtain ⟨fair, ranks⟩ := ranked
      have few : ranking.winners.length ≤ arbitrator.maxWinners := by
        rw [ranks.winners_eq]
        exact greedySelect.length_le _ _ _ _
      rw [none, Nat.le_zero, length_eq_zero_iff] at few
      simp [few] at won

/-- The solution that buys the native token wins although the other one scores
higher on the only pair it trades. -/
theorem winners_nativeBuyer : ([nativeBuyer, wrappedBuyer 9].map (·.key)).Nodup ∧ (do
        let ranking ← arbitrate ⟨10, 9⟩ [nativeBuyer, wrappedBuyer 9]
          feelessContext
        return ranking.winners.map (·.key)) =
          (.ok [nativeBuyer.key] : Outcome Empty (List SolutionKey)) ∧
      scoreByPair (normalisedPair ⟨10, 9⟩) nativeBuyer feelessContext =
        .ok [(⟨1, 9⟩, 1), (⟨3, 4⟩, 3)] ∧
      scoreByPair (normalisedPair ⟨10, 9⟩) (wrappedBuyer 9) feelessContext = .ok [(⟨1, 9⟩, 2)] := by
  decide +kernel

end Arbitrator

end MandateSolver.WinnerSelection
