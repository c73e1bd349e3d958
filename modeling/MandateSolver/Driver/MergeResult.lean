import MandateSolver.Driver.Merge

/-!
# Results of merging

Merging ends after at most one swap.  Of the wrapper calls only those of the solution that
was not scaled are kept.
-/

namespace MandateSolver.Driver.Solution

open List

open WinnerSelection (OrderUid)

section

variable {F : Type} (counter : Nat) {maxOrders : Nat}
  {first second merged : Solution F} {prices : Prices}

/-- The conditions that are checked before anything is merged. -/
structure Mergeable (first second : Solution F) (maxOrders : Nat) : Prop where
  sameSolver : first.solver = second.solver
  allowed : first.trades.length + second.trades.length ≤ maxOrders
  disjoint : ∀ uid ∈ first.userUids, uid ∉ second.userUids

theorem Mergeable.swap (mergeable : Mergeable first second maxOrders) :
    Mergeable second first maxOrders where
  sameSolver := mergeable.sameSolver.symm
  allowed := Nat.add_comm _ _ ▸ mergeable.allowed
  disjoint uid inSecond inFirst := mergeable.disjoint uid inFirst inSecond

theorem mergeCall_of_mergeable (mergeable : Mergeable first second maxOrders) :
    mergeCall counter first second maxOrders = (do
      let prices ← mergePrices first.prices second.prices
      return prices.map (mergedWith counter first second)) := by
  have allowed := Nat.not_lt.mpr mergeable.allowed
  have disjoint : ¬ ∃ uid ∈ first.userUids, uid ∈ second.userUids := by
    rintro ⟨uid, inFirst, inSecond⟩
    exact mergeable.disjoint uid inFirst inSecond
  simp only [mergeCall, Outcome.rejectIf, mergeable.sameSolver, ne_eq,
    not_true_eq_false, if_false, allowed, disjoint, Outcome.ok_bind]

theorem mergeCall_of_not_mergeable (rejected : ¬ Mergeable first second maxOrders) :
    ∃ error, mergeCall counter first second maxOrders = .err error := by
  unfold mergeCall Outcome.rejectIf
  by_cases sameSolver : first.solver ≠ second.solver
  · exact ⟨_, by rw [if_pos sameSolver, Outcome.err_bind]⟩
  by_cases tooMany : maxOrders < first.trades.length + second.trades.length
  · exact ⟨_, by rw [if_neg sameSolver, if_pos tooMany]; rfl⟩
  by_cases duplicate : ∃ uid ∈ first.userUids, uid ∈ second.userUids
  · exact ⟨_, by rw [if_neg sameSolver, if_neg tooMany, if_pos duplicate]; rfl⟩
  · refine absurd ⟨not_not.mp sameSolver, Nat.not_lt.mp tooMany, ?_⟩ rejected
    intro uid inFirst inSecond
    exact duplicate ⟨uid, inFirst, inSecond⟩

theorem mergeCall_eq_ok_iff {result : Option (Solution F)} :
    mergeCall counter first second maxOrders = .ok result ↔ Mergeable first second maxOrders ∧
        ∃ prices, mergePrices first.prices second.prices = .ok prices ∧
          result = prices.map (mergedWith counter first second) := by
  by_cases mergeable : Mergeable first second maxOrders
  · rw [mergeCall_of_mergeable counter mergeable, Outcome.bind_eq_ok_iff]
    simp [mergeable, eq_comm]
  · obtain ⟨_, rejected⟩ := mergeCall_of_not_mergeable counter mergeable
    simp [rejected, mergeable]

theorem mergeWithin_add {calls : Nat} {outcome : Outcome MergeError (Solution F)}
    (ends : mergeWithin counter calls first second maxOrders = some outcome) (more : Nat) :
    mergeWithin counter (calls + more) first second maxOrders = some outcome := by
  induction calls generalizing first second with
  | zero => simp [mergeWithin] at ends
  | succ calls ih =>
    rw [Nat.add_right_comm, mergeWithin]
    rw [mergeWithin] at ends
    split at ends
    · exact ends
    · exact ih ends
    · exact ends
    · exact ends

theorem merge_of_prices (mergeable : Mergeable first second maxOrders)
    (merges : mergePrices first.prices second.prices = .ok (some prices)) :
    merge counter first second maxOrders = some (.ok (mergedWith counter first second prices)) := by
  have called := (mergeCall_eq_ok_iff counter).mpr ⟨mergeable, _, merges, rfl⟩
  rw [merge, mergeWithin, called]
  rfl

theorem merge_of_swap (mergeable : Mergeable first second maxOrders)
    (swaps : mergePrices first.prices second.prices = .ok none) :
    merge counter first second maxOrders = mergeWithin counter 1 second first maxOrders := by
  have called := (mergeCall_eq_ok_iff counter).mpr ⟨mergeable, _, swaps, rfl⟩
  rw [merge, mergeWithin, called]
  rfl

/-- A swap is only ever made towards a factor of at least one. -/
theorem mergePrices_swapped_ne_none {low high : Prices} (swaps : mergePrices low high = .ok none) :
    mergePrices high low ≠ .ok none := by
  intro again
  obtain ⟨_, isFactor, less⟩ := mergePrices_eq_ok_none_iff.mp swaps
  obtain ⟨_, swapped, backLess⟩ := mergePrices_eq_ok_none_iff.mp again
  exact absurd backLess (not_lt.mpr (isFactor.one_le_swapped less swapped))

theorem mergeWithin_one (mergeable : Mergeable first second maxOrders)
    (stays : mergePrices first.prices second.prices ≠ .ok none) :
    ∃ outcome, mergeWithin counter 1 first second maxOrders = some outcome ∧
      (outcome.NoPanic ↔ (mergePrices first.prices second.prices).NoPanic) := by
  rw [mergeWithin, mergeCall_of_mergeable counter mergeable]
  cases result : mergePrices first.prices second.prices with
  | ok prices =>
    cases prices with
    | none => exact absurd result stays
    | some prices => exact ⟨_, rfl, by simp⟩
  | err error | panic reason => exact ⟨_, rfl, by simp⟩

/-- There is always a result, and it is an abort exactly when the prices of one
of the calls are. -/
theorem merge_ends (mergeable : Mergeable first second maxOrders) :
    ∃ outcome, merge counter first second maxOrders = some outcome ∧
      (outcome.NoPanic ↔ (mergePrices first.prices second.prices).NoPanic ∧
        (mergePrices first.prices second.prices = .ok none →
          (mergePrices second.prices first.prices).NoPanic)) := by
  by_cases swaps : mergePrices first.prices second.prices = .ok none
  · obtain ⟨outcome, ends, safe⟩ := mergeWithin_one counter mergeable.swap
      (mergePrices_swapped_ne_none swaps)
    refine ⟨outcome, (merge_of_swap counter mergeable swaps).trans ends, ?_⟩
    simp [safe, swaps]
  · obtain ⟨outcome, ends, safe⟩ := mergeWithin_one counter mergeable swaps
    refine ⟨outcome, mergeWithin_add counter ends 1, ?_⟩
    simp [safe, swaps]

/-! ## Absence of panics -/

/-- A common token has the price zero where it is divided by: in the second
solution, or in the first one when the factor is zero and the call swaps. -/
def dividesByZero (first second : Prices) : Prop :=
  (∃ prices ∈ commonPrices first second, prices.2 = 0) ∨ (commonPrices first second ≠ [] ∧
      ∀ prices ∈ commonPrices first second, prices.1 = 0)

/-- The factor zero is the only one that cannot be inverted. -/
theorem swap_noPanic_iff {low high : Prices}
    (nonzero : ∀ prices ∈ commonPrices low high, prices.2 ≠ 0) :
    (mergePrices low high = .ok none → (mergePrices high low).NoPanic) ↔
      ¬ (commonPrices low high ≠ [] ∧ ∀ prices ∈ commonPrices low high, prices.1 = 0) := by
  rw [noPanic_mergePrices_iff, mergePrices_eq_ok_none_iff]
  constructor
  · rintro safe ⟨common, zero⟩
    have isFactor : IsFactor low high 0 := by
      refine ⟨fun prices mem => ⟨nonzero prices mem, ?_⟩, fun apart => absurd apart common⟩
      simp [zero prices mem]
    obtain ⟨⟨price, other⟩, mem⟩ := exists_mem_of_ne_nil _ common
    exact safe ⟨0, isFactor, zero_lt_one⟩ (other, price)
      (mem_commonPrices_swap.mp mem) (zero (price, other) mem)
  · rintro invertible ⟨factor, isFactor, _⟩ prices mem
    have factorNonzero : factor ≠ 0 := by
      rintro rfl
      obtain ⟨_, sharedMember⟩ := isFactor.exists_common zero_ne_one
      refine invertible ⟨ne_nil_of_mem sharedMember, fun prices mem => ?_⟩
      have scaled := (isFactor.common prices mem).2
      rw [mul_zero, Nat.cast_eq_zero] at scaled
      exact BitVec.eq_of_toNat_eq scaled
    exact ((isFactor.swap factorNonzero).common prices mem).1

theorem merge_noPanic_iff (first second : Solution F) (maxOrders : Nat) :
    (∃ outcome, merge counter first second maxOrders = some outcome ∧ outcome.NoPanic) ↔
      ¬ (Mergeable first second maxOrders ∧ dividesByZero first.prices second.prices) := by
  by_cases mergeable : Mergeable first second maxOrders
  · obtain ⟨outcome, ends, safe⟩ := merge_ends counter mergeable
    have same : (∃ outcome, merge counter first second maxOrders = some outcome ∧
        outcome.NoPanic) ↔ outcome.NoPanic := by simp [ends]
    rw [same, safe, and_iff_right mergeable, dividesByZero, not_or, noPanic_mergePrices_iff]
    simp only [not_exists, not_and]
    apply and_congr_right
    intro nonzero
    simpa using swap_noPanic_iff nonzero
  · obtain ⟨error, rejected⟩ := mergeCall_of_not_mergeable counter mergeable
    have ends : merge counter first second maxOrders = some (.err error) := by
      rw [merge, mergeWithin, rejected]
    simp [ends, mergeable]

end

/-- The third token has a price in one of the solutions and the price zero in
the other one. -/
theorem merge_zeroPrice :
    let priced := trading (soldOut 1 ⟨10, 1⟩ ⟨10, 2⟩) [(1, 1), (2, 1), (3, 1)]
    let unpriced := trading (soldOut 2 ⟨10, 4⟩ ⟨10, 5⟩) [(4, 1), (5, 1), (3, 0)]
    Solution.new priced .driver (fun _ => false) = .ok priced ∧
      Solution.new unpriced .driver (fun _ => false) = .ok unpriced ∧
        merge 2 priced unpriced 10 = some (.panic (.explicit "denominator == 0")) := by
  decide +kernel

/-! ## Contents of the merged solution -/

section

variable {F : Type} {counter maxOrders : Nat} {first second merged : Solution F} {prices : Prices}

def cheaper (first second : Prices) : Bool :=
  (commonPrices first second).any fun prices => prices.1 < prices.2

section

variable (first second : Solution F)

/-- The solution whose prices stay. -/
def kept : Solution F :=
  if cheaper first.prices second.prices then second else first

/-- The solution whose prices are scaled. -/
def scaled : Solution F :=
  if cheaper first.prices second.prices then first else second

theorem kept_scaled :
    (kept first second = first ∧ scaled first second = second) ∨
      (kept first second = second ∧ scaled first second = first) := by
  unfold kept scaled
  split <;> simp

end

theorem cheaper_eq_true_iff {low high : Prices} {factor : ℚ} (isFactor : IsFactor low high factor) :
    cheaper low high = true ↔ factor < 1 := by
  rw [isFactor.lt_one_iff]
  simp [cheaper]

theorem mergeWithin_succ_eq_ok {calls : Nat}
    (merges : mergeWithin counter (calls + 1) first second maxOrders = some (.ok merged)) :
    Mergeable first second maxOrders ∧
      ((∃ prices, mergePrices first.prices second.prices = .ok (some prices) ∧
          merged = mergedWith counter first second prices) ∨
        (mergePrices first.prices second.prices = .ok none ∧
          mergeWithin counter calls second first maxOrders = some (.ok merged))) := by
  rw [mergeWithin] at merges
  split at merges
  · rename_i result called
    obtain rfl : result = merged := by simpa using merges
    obtain ⟨mergeable, prices, priced, same⟩ := (mergeCall_eq_ok_iff counter).mp called
    obtain ⟨found, rfl, rfl⟩ := Option.map_eq_some_iff.mp same.symm
    exact ⟨mergeable, Or.inl ⟨found, priced, rfl⟩⟩
  · rename_i called
    obtain ⟨mergeable, prices, priced, same⟩ := (mergeCall_eq_ok_iff counter).mp called
    obtain rfl := Option.map_eq_none_iff.mp same.symm
    exact ⟨mergeable, Or.inr ⟨priced, merges⟩⟩
  · simp at merges
  · simp at merges

theorem merge_eq_ok (merges : merge counter first second maxOrders = some (.ok merged)) :
    Mergeable (kept first second) (scaled first second) maxOrders ∧
      ∃ prices, mergePrices (kept first second).prices
          (scaled first second).prices = .ok (some prices) ∧
        merged = mergedWith counter (kept first second) (scaled first second)
          prices := by
  unfold kept scaled
  obtain ⟨mergeable, ⟨prices, priced, rfl⟩ | ⟨swaps, again⟩⟩ := mergeWithin_succ_eq_ok merges
  · obtain ⟨factor, isFactor, grows, _⟩ := mergePrices_eq_ok_some_iff.mp priced
    have notCheaper : ¬ cheaper first.prices second.prices = true := by
      rw [cheaper_eq_true_iff isFactor, not_lt]
      exact grows
    rw [if_neg notCheaper, if_neg notCheaper]
    exact ⟨mergeable, prices, priced, rfl⟩
  · obtain ⟨factor, isFactor, less⟩ := mergePrices_eq_ok_none_iff.mp swaps
    rw [if_pos ((cheaper_eq_true_iff isFactor).mpr less),
      if_pos ((cheaper_eq_true_iff isFactor).mpr less)]
    obtain ⟨swapped, ⟨prices, priced, rfl⟩ | ⟨_, tooMany⟩⟩ := mergeWithin_succ_eq_ok again
    · exact ⟨swapped, prices, priced, rfl⟩
    · simp [mergeWithin] at tooMany

theorem merge_comm (counter : Nat) (mergeable : Mergeable first second maxOrders)
    (priced : mergePrices first.prices second.prices = .ok (some prices)) :
    (∃ merged, merge counter first second maxOrders = some (.ok merged) ∧
        ∀ token, merged.prices.get token = prices.get token) ∧
      ∃ merged, merge counter second first maxOrders = some (.ok merged) ∧
        ∀ token, merged.prices.get token = prices.get token := by
  have direct := merge_of_prices counter mergeable priced
  refine ⟨⟨_, direct, fun _ => rfl⟩, ?_⟩
  rcases mergePrices_swap priced with swaps | ⟨_, swappedPriced, same⟩
  · have called := (mergeCall_eq_ok_iff counter).mpr ⟨mergeable, _, priced, rfl⟩
    refine ⟨mergedWith counter first second prices, ?_, fun _ => rfl⟩
    rw [merge_of_swap counter mergeable.swap swaps, mergeWithin, called]
    rfl
  · exact ⟨_, merge_of_prices counter mergeable.swap swappedPriced, same⟩

/-- Nothing of either solution is lost. -/
structure KeepsAll (first second merged : Solution F) : Prop where
  trades : merged.trades.Perm (first.trades ++ second.trades)
  preInteractions : merged.preInteractions.Perm (first.preInteractions ++ second.preInteractions)
  interactions : merged.interactions.Perm (first.interactions ++ second.interactions)
  postInteractions : merged.postInteractions.Perm
    (first.postInteractions ++ second.postInteractions)
  wrappers : merged.wrappers.Perm (first.wrappers ++ second.wrappers)
  flashloans : ∀ uid loan, first.flashloans.get uid = some loan ∨
    second.flashloans.get uid = some loan → merged.flashloans.get uid = some loan
  disjoint : ∀ uid ∈ first.userUids, uid ∉ second.userUids

theorem KeepsAll.swap (keeps : KeepsAll first second merged) : KeepsAll second first merged where
  trades := keeps.trades.trans perm_append_comm
  preInteractions := keeps.preInteractions.trans perm_append_comm
  interactions := keeps.interactions.trans perm_append_comm
  postInteractions := keeps.postInteractions.trans perm_append_comm
  wrappers := keeps.wrappers.trans perm_append_comm
  flashloans uid loan found := keeps.flashloans uid loan found.symm
  disjoint uid inSecond inFirst := keeps.disjoint uid inFirst inSecond

/-- No order has different flashloans in the two. -/
def LoansAgree (first second : Solution F) : Prop :=
  ∀ uid loan other, first.flashloans.get uid = some other →
    second.flashloans.get uid = some loan → other = loan

theorem LoansAgree.swap (agree : LoansAgree first second) : LoansAgree second first := by
  intro uid loan other inSecond inFirst
  exact (agree uid other loan inFirst inSecond).symm

theorem mergedWith_keepsAll_iff (mergeable : Mergeable first second maxOrders) :
    KeepsAll first second (mergedWith counter first second prices) ↔
      second.wrappers = [] ∧ LoansAgree first second := by
  have loans := EntryMap.extend_keeps_iff first.flashloans second.flashloans
  constructor
  · intro keeps
    refine ⟨?_, loans.mp keeps.flashloans⟩
    have lengths : first.wrappers.length =
        (first.wrappers ++ second.wrappers).length := keeps.wrappers.length_eq
    rw [length_append, Nat.left_eq_add] at lengths
    exact length_eq_zero_iff.mp lengths
  · rintro ⟨noWrappers, agree⟩
    exact
      { trades := .refl _
        preInteractions := .refl _
        interactions := .refl _
        postInteractions := .refl _
        wrappers := by rw [noWrappers, append_nil]; exact .refl _
        flashloans := loans.mpr agree
        disjoint := mergeable.disjoint }

theorem merge_keepsAll_iff (merges : merge counter first second maxOrders = some (.ok merged)) :
    (KeepsAll first second merged ∧ ∀ counter, ∃ swapped,
          merge counter second first maxOrders = some (.ok swapped) ∧
            ∀ token, swapped.prices.get token = merged.prices.get token) ↔
      (scaled first second).wrappers = [] ∧ LoansAgree first second := by
  obtain ⟨mergeable, prices, priced, rfl⟩ := merge_eq_ok merges
  rcases kept_scaled first second with ⟨same, other⟩ | ⟨same, other⟩
  · rw [same, other] at mergeable priced ⊢
    rw [mergedWith_keepsAll_iff mergeable, and_iff_left]
    intro counter
    exact (merge_comm counter mergeable priced).2
  · rw [same, other] at mergeable priced ⊢
    rw [and_iff_left]
    · constructor
      · intro keeps
        obtain ⟨noWrappers, agree⟩ := (mergedWith_keepsAll_iff mergeable).mp keeps.swap
        exact ⟨noWrappers, agree.swap⟩
      · rintro ⟨noWrappers, agree⟩
        exact ((mergedWith_keepsAll_iff mergeable).mpr ⟨noWrappers, agree.swap⟩).swap
    · intro counter
      exact (merge_comm counter mergeable priced).1

end

theorem merge_keepsAll_iff_withoutWrappers :
    let first := trading (soldOut 1 ⟨10, 1⟩ ⟨10, 2⟩) [(1, 1), (2, 1)]
    let second := trading (soldOut 2 ⟨10, 1⟩ ⟨10, 3⟩) [(1, 2), (3, 2)]
    ∃ merged, merge 2 first second 10 = some (.ok merged) ∧ KeepsAll first second merged := by
  intro first second
  have merges : merge 2 first second 10 = some (.ok (mergedWith 2 second first
      (EntryMap.collect [(1, 2), (3, 2), (2, 2)]))) := by decide +kernel
  refine ⟨_, merges, ((merge_keepsAll_iff merges).mpr ⟨by decide +kernel, ?_⟩).1⟩
  intro _ _ _ found
  exact absurd found (by simp [first, trading, EntryMap.collect, EntryMap.get])

/-- Of two solutions with a wrapper call each, one call is lost. -/
theorem merge_twoWrappers :
    let first := { trading (soldOut 1 ⟨10, 1⟩ ⟨10, 2⟩) [(1, 1), (2, 1)] with
      wrappers := [⟨21, []⟩] }
    let second := { trading (soldOut 2 ⟨10, 3⟩ ⟨10, 4⟩) [(3, 1), (4, 1)] with
      wrappers := [⟨22, []⟩] }
    Solution.new first .driver (fun _ => false) = .ok first ∧
      Solution.new second .driver (fun _ => false) = .ok second ∧
        ∃ merged, merge 2 first second 10 = some (.ok merged) ∧ merged.wrappers = [⟨21, []⟩] ∧
            ¬ merged.wrappers.Perm (first.wrappers ++ second.wrappers) := by
  intro first second
  refine ⟨by decide +kernel, by decide +kernel, mergedWith 2 first second
    (EntryMap.collect [(1, 1), (2, 1), (3, 1), (4, 1)]), by decide +kernel, rfl, ?_⟩
  intro same
  exact absurd same.length_eq (by decide)

end MandateSolver.Driver.Solution
