import MandateSolver.Driver.Encoding
import MandateSolver.Driver.MergeLimits
import MandateSolver.Driver.Scoring

/-!
# All combinations of solutions

Every solution is merged with all solutions before it and with what was merged from them.
The calls that fail are left out, but one that aborts ends the competition.
-/

namespace MandateSolver.Driver

open Outcome List
open WinnerSelection (OrderUid MathError ClearingPrices)

/-! ## Scores -/

inductive ScoringError where
  | invalidClearingPrices
  | score (error : Scoring.Error)

def Jit.customPrices (trade : Jit) (prices : ClearingPrices) :
    Outcome MathError ClearingPrices := do
  let sell ← TradeMath.buyAmount trade.order.side trade.executed prices
  let beforeFee ← TradeMath.sellAmount trade.order.side trade.executed prices
  let buy ← .okOr .overflow (beforeFee.checkedAdd trade.fee)
  return ⟨sell, buy⟩

namespace Solution

variable {F : Type} {counter : Solution F → Solution F → Nat}

def countsForScore (surplusCapturingJitOrderOwners : Address → Bool) : Trade F → Bool
  | .fulfillment _ => true
  | .jit trade => surplusCapturingJitOrderOwners trade.order.signature.signer

/-- The executed amount of a sell order gets its fee, by a plain sum. -/
def scoringTrade (solution : Solution F) (trade : Trade F) :
    Outcome ScoringError (Scoring.Trade F) := do
  let (sell, buy, side, executed, fee, customPrices, policies) := match trade with
    | .fulfillment trade => (trade.order.sell, trade.order.buy, trade.order.side,
      trade.executed, trade.feeAmount, trade.customPrices, trade.order.protocolFees)
    | .jit trade => (trade.order.sell, trade.order.buy, trade.order.side, trade.executed,
      trade.fee, trade.customPrices, [])
  let sellPrice ← .okOr .invalidClearingPrices (solution.clearingPrice sell.token)
  let buyPrice ← .okOr .invalidClearingPrices (solution.clearingPrice buy.token)
  let customPrice ← (customPrices ⟨sellPrice, buyPrice⟩).mapError fun error => .score (.math error)
  return ⟨sell, buy, side, if side = .sell then executed + fee else executed, customPrice, policies⟩

def scoring [Factor F] (nativePrices : TokenAddress → Option U256)
    (surplusCapturingJitOrderOwners : Address → Bool) (solution : Solution F) :
    Outcome ScoringError U256 := do
  let trades ← (solution.trades.filter (countsForScore surplusCapturingJitOrderOwners)).mapM
    solution.scoringTrade
  let scores ← trades.mapM fun trade => (trade.score nativePrices).mapError .score
  return scores.foldl (· + ·) 0

/-- No step of the scoring aborts. -/
def scoreOrZero [Factor F] (nativePrices : TokenAddress → Option U256)
    (surplusCapturingJitOrderOwners : Address → Bool) (solution : Solution F) : U256 :=
  (solution.scoring nativePrices surplusCapturingJitOrderOwners).toOption.getD 0

/-! ## Merging -/

def maxSolutionsToMerge : Nat := 10

section Merging

variable {ε : Type} (counter) (maxOrders : Nat)

/-- The ids are drawn from a counter that others use as well.  A call always ends. -/
def tryMerge (solution alreadyMerged : Solution F) : Outcome ε (Option (Solution F)) :=
  match merge (counter solution alreadyMerged) solution alreadyMerged maxOrders with
  | some outcome => outcome.attempt
  | Option.none => .ok Option.none

def extend (merged : List (Solution F)) (solution : Solution F) :
    Outcome ε (List (Solution F)) := do
  let extension ← merged.mapM (tryMerge counter maxOrders solution)
  return merged ++ (extension.reduceOption ++ [solution])

def mergeAll [Factor F] (nativePrices : TokenAddress → Option U256)
    (surplusCapturingJitOrderOwners : Address → Bool) (solutions : List (Solution F)) :
    Outcome ε (List (Solution F)) := do
  let merged ← (solutions.take maxSolutionsToMerge).foldlM (extend counter maxOrders) []
  return merged.insertionSort fun left right =>
    right.scoreOrZero nativePrices surplusCapturingJitOrderOwners ≤
      left.scoreOrZero nativePrices surplusCapturingJitOrderOwners

end Merging

/-! ## Parts of a merged solution -/

variable (inputs : List (Solution F)) (maxOrders : Nat)

def tradesAt (index : Nat) : List (Trade F) :=
  inputs[index]?.elim [] (·.trades)

def usersAt (index : Nat) : List OrderUid :=
  inputs[index]?.elim [] userUids

/-- The trades are those of some of the first inputs, given by their positions. -/
structure Combines (count : Nat) (part : List Nat) (solution : Solution F) : Prop where
  nonempty : part ≠ []
  descending : part.Pairwise (· > ·)
  within : ∀ index ∈ part, index < count
  trades : solution.trades.Perm (part.flatMap (tradesAt inputs))
  limit : part.length = 1 ∨ solution.trades.length ≤ maxOrders
  disjoint : part.Pairwise fun left right => ∀ uid ∈ usersAt inputs left, uid ∉ usersAt inputs right

/-- What is known after some rounds, with the part that each solution is merged from. -/
structure Collected (count : Nat) (entries : List (List Nat × Solution F)) : Prop where
  distinct : (entries.map Prod.fst).Nodup
  combines : ∀ entry ∈ entries, Combines inputs maxOrders count entry.1 entry.2
  single : ∀ index < count, ∀ solution, inputs[index]? = some solution →
    ([index], solution) ∈ entries
  few : entries.length < 2 ^ count
  priced : ∀ entry ∈ entries, entry.2.Priced

variable {inputs maxOrders} {count : Nat} {part : List Nat}
  {solution alreadyMerged merged : Solution F} {uid : OrderUid} {id : Nat}

theorem mem_userUids_iff : uid ∈ solution.userUids ↔
    ∃ trade, .fulfillment trade ∈ solution.trades ∧ trade.order.uid = uid := by
  simp only [userUids, userTrades, mem_map, mem_filterMap]
  constructor
  · rintro ⟨trade, ⟨listed, member, found⟩, same⟩
    cases listed with
    | fulfillment other => exact ⟨trade, Option.some.inj found ▸ member, same⟩
    | jit _ => cases found
  · rintro ⟨trade, member, same⟩
    exact ⟨trade, ⟨_, member, rfl⟩, same⟩

theorem Combines.mem_userUids (combines : Combines inputs maxOrders count part solution)
    {index : Nat} (listed : index ∈ part) (user : uid ∈ usersAt inputs index) :
    uid ∈ solution.userUids := by
  unfold usersAt at user
  cases found : inputs[index]? with
  | none => simp [found] at user
  | some input =>
    rw [found] at user
    obtain ⟨trade, member, same⟩ := mem_userUids_iff.mp user
    refine mem_userUids_iff.mpr ⟨trade, combines.trades.mem_iff.mpr ?_, same⟩
    exact mem_flatMap.mpr ⟨index, listed, by simpa [tradesAt, found] using member⟩

/-- Merging with a later input adds its position. -/
theorem Combines.merge (combines : Combines inputs maxOrders count part alreadyMerged)
    (found : inputs[count]? = some solution)
    (merges : Solution.merge id solution alreadyMerged maxOrders = some (.ok merged)) :
    Combines inputs maxOrders (count + 1) (count :: part) merged := by
  obtain ⟨mergeable, _, -, rfl⟩ := merge_eq_ok merges
  have whole : (solution.trades ++ alreadyMerged.trades).Perm
      ((count :: part).flatMap (tradesAt inputs)) := by
    simpa [tradesAt, found] using combines.trades.append_left solution.trades
  have both : ((kept solution alreadyMerged).trades ++ (scaled solution alreadyMerged).trades).Perm
        (solution.trades ++ alreadyMerged.trades) ∧
      ∀ uid ∈ solution.userUids, uid ∉ alreadyMerged.userUids := by
    rcases kept_scaled solution alreadyMerged with ⟨first, second⟩ | ⟨first, second⟩
    · rw [first, second] at mergeable ⊢
      exact ⟨.refl _, mergeable.disjoint⟩
    · rw [first, second] at mergeable ⊢
      exact ⟨perm_append_comm, mergeable.swap.disjoint⟩
  refine ⟨cons_ne_nil _ _, combines.descending.cons combines.within, ?_,
    both.1.trans whole, .inr ?_, combines.disjoint.cons ?_⟩
  · rw [forall_mem_cons]
    exact ⟨Nat.lt_succ_self _, fun index listed => Nat.lt_succ_of_lt (combines.within index listed)⟩
  · exact (length_append ..).trans_le mergeable.allowed
  · intro index listed uid user
    have own : uid ∈ solution.userUids := by simpa [usersAt, found] using user
    exact fun other => both.2 uid own (combines.mem_userUids listed other)

theorem Combines.single (found : inputs[count]? = some solution) :
    Combines inputs maxOrders (count + 1) [count] solution := by
  refine ⟨by simp, by simp, by simp, ?_, .inl rfl, by simp⟩
  simp [tradesAt, found]

theorem Combines.succ (combines : Combines inputs maxOrders count part solution) :
    Combines inputs maxOrders (count + 1) part solution :=
  { combines with within := fun index listed => Nat.lt_succ_of_lt (combines.within index listed) }

/-! ## Rounds -/

theorem Priced.merge (priced : solution.Priced) (otherPriced : alreadyMerged.Priced)
    (merges : Solution.merge id solution alreadyMerged maxOrders = some (.ok merged)) :
    merged.Priced := by
  have prices := merge_mergedPrices merges
  have both : (kept solution alreadyMerged).Priced ∧ (scaled solution alreadyMerged).Priced := by
    rcases kept_scaled solution alreadyMerged with ⟨first, second⟩ | ⟨first, second⟩
    · rw [first, second]
      exact ⟨priced, otherPriced⟩
    · rw [first, second]
      exact ⟨otherPriced, priced⟩
  intro token price found
  cases keptPrice : (kept solution alreadyMerged).prices.get token with
  | some same =>
    obtain rfl := Option.some.inj (found.symm.trans (prices.kept token same keptPrice))
    exact both.1 token price keptPrice
  | none =>
    obtain ⟨-, _, ofPrices, rfl⟩ := merge_eq_ok merges
    obtain ⟨_, isFactor, -, scaling⟩ := mergePrices_eq_ok_some_iff.mp ofPrices
    have scaledPrice := get_of_foldlM_scaleInto isFactor.nonneg scaling token
    rw [keptPrice] at scaledPrice
    obtain ⟨before, known, -⟩ := Option.map_eq_some_iff.mp (scaledPrice.symm.trans found)
    obtain ⟨_, same, value⟩ := prices.scaled token before known
    obtain rfl := Option.some.inj (found.symm.trans same)
    rintro rfl
    exact (scaledPrice_pos prices.grows (both.2 token before known)).ne value

theorem tryMerge_eq_ok {ε : Type} (counter : Solution F → Solution F → Nat)
    (priced : solution.Priced) (otherPriced : alreadyMerged.Priced) :
    ∃ result, (tryMerge counter maxOrders solution alreadyMerged : Outcome ε _) = .ok result ∧
      ∀ merged ∈ result, Solution.merge (counter solution alreadyMerged) solution alreadyMerged
        maxOrders = some (.ok merged) := by
  have safe : ∀ {left right : Solution F}, right.Priced →
      (mergePrices left.prices right.prices).NoPanic := by
    intro left right priced
    refine noPanic_mergePrices_iff.mpr fun prices common => ?_
    obtain ⟨token, -, found⟩ := mem_commonPrices.mp common
    exact priced token _ found
  unfold tryMerge
  by_cases mergeable : Mergeable solution alreadyMerged maxOrders
  · obtain ⟨outcome, ends, noPanic⟩ := merge_ends (counter solution alreadyMerged) mergeable
    rw [ends]
    cases outcome with
    | ok merged => exact ⟨some merged, rfl, by simp⟩
    | err error => exact ⟨none, rfl, by simp⟩
    | panic reason =>
      exact absurd (noPanic.mpr ⟨safe otherPriced, fun _ => safe priced⟩) (by simp)
  · obtain ⟨error, rejected⟩ :=
      mergeCall_of_not_mergeable (counter solution alreadyMerged) mergeable
    rw [Solution.merge, mergeWithin, rejected]
    exact ⟨none, rfl, by simp⟩

/-- The parts of a round are the earlier ones, some of them with the new position, and
the new position alone. -/
theorem nodup_parts {parts extended : List (List Nat)} (distinct : parts.Nodup)
    (within : ∀ part ∈ parts, ∀ index ∈ part, index < count) (nonempty : [] ∉ parts)
    (sublist : extended.Sublist (parts.map (count :: ·))) :
    (parts ++ (extended ++ [[count]])).Nodup := by
  have extendedDistinct := (distinct.map fun _ _ same => (List.cons.inj same).2).sublist sublist
  have new : ∀ part ∈ extended ++ [[count]], count ∈ part := by
    intro part listed
    rcases mem_append.mp listed with listed | listed
    · obtain ⟨old, -, rfl⟩ := mem_map.mp (sublist.subset listed)
      exact mem_cons_self
    · obtain rfl := mem_singleton.mp listed
      exact mem_cons_self
  refine distinct.append (extendedDistinct.append (nodup_singleton _) ?_) ?_
  · refine disjoint_singleton.mpr fun listed => nonempty ?_
    obtain ⟨old, known, same⟩ := mem_map.mp (sublist.subset listed)
    exact (List.cons.inj same).2 ▸ known
  · exact fun part old listed => (within part old count (new part listed)).false

theorem filterMap_fst_sublist {α β γ : Type} (items : List α) (result : α → Option β)
    (key : α → γ) : ((items.filterMap fun item => (result item).map (key item, ·)).map
      Prod.fst).Sublist (items.map key) := by
  induction items with
  | nil => exact .slnil
  | cons item items induction =>
    cases made : result item with
    | none => simpa [made] using induction.cons (key item)
    | some other => simpa [made] using induction

section Rounds

variable {ε : Type} {entries : List (List Nat × Solution F)} (counter)

theorem Collected.extend (collected : Collected inputs maxOrders count entries)
    (found : inputs[count]? = some solution) (priced : solution.Priced) :
    ∃ next, (Solution.extend counter maxOrders (entries.map Prod.snd) solution : Outcome ε _) =
        .ok (next.map Prod.snd) ∧ Collected inputs maxOrders (count + 1) next := by
  have tried : ∀ entry, ∃ result, entry ∈ entries →
      (tryMerge counter maxOrders solution entry.2 : Outcome ε _) = .ok result ∧
        ∀ merged ∈ result, Solution.merge (counter solution entry.2) solution entry.2 maxOrders =
          some (.ok merged) := by
    intro entry
    by_cases listed : entry ∈ entries
    · obtain ⟨result, tries⟩ := tryMerge_eq_ok counter priced (collected.priced entry listed)
      exact ⟨result, fun _ => tries⟩
    · exact ⟨none, fun other => absurd other listed⟩
  choose result spec using tried
  let added := entries.filterMap fun entry => (result entry).map (count :: entry.1, ·)
  have merges : ∀ entry ∈ added, ∃ old ∈ entries, entry.1 = count :: old.1 ∧
      Solution.merge (counter solution old.2) solution old.2 maxOrders = some (.ok entry.2) := by
    intro entry listed
    obtain ⟨old, known, made⟩ := mem_filterMap.mp listed
    obtain ⟨merged, some, rfl⟩ := Option.map_eq_some_iff.mp made
    exact ⟨old, known, rfl, (spec old known).2 merged some⟩
  have sublist : (added.map Prod.fst).Sublist ((entries.map Prod.fst).map (count :: ·)) := by
    rw [map_map]
    exact filterMap_fst_sublist entries result _
  refine ⟨entries ++ (added ++ [([count], solution)]), ?_, ?_, ?_, ?_, ?_, ?_⟩
  · have results : (entries.map Prod.snd).mapM (tryMerge (ε := ε) counter maxOrders solution) =
        .ok (entries.map result) := by
      rw [mapM_eq_ok_iff, forall₂_map_left_iff, forall₂_map_right_iff, forall₂_same]
      exact fun entry listed => (spec entry listed).1
    have kept : (entries.map result).reduceOption = entries.filterMap result := filterMap_map
    simp [Solution.extend, results, added, kept, map_filterMap]
  · rw [map_append, map_append]
    refine nodup_parts collected.distinct ?_ ?_ sublist
    · exact forall_mem_map.mpr fun entry listed => (collected.combines entry listed).within
    · intro listed
      obtain ⟨entry, known, empty⟩ := mem_map.mp listed
      exact (collected.combines entry known).nonempty empty
  · simp only [forall_mem_append, forall_mem_singleton]
    refine ⟨fun entry listed => (collected.combines entry listed).succ, ?_, .single found⟩
    intro entry listed
    obtain ⟨old, known, same, made⟩ := merges entry listed
    exact same ▸ (collected.combines old known).merge found made
  · intro index before other known
    rcases Nat.lt_succ_iff_lt_or_eq.mp before with before | rfl
    · exact mem_append_left _ (collected.single index before other known)
    · obtain rfl := Option.some.inj (found.symm.trans known)
      simp
  · have bound := collected.few
    have few := sublist.length_le
    simp only [length_map] at few
    simp only [length_append, length_singleton]
    omega
  · simp only [forall_mem_append, forall_mem_singleton]
    refine ⟨collected.priced, ?_, priced⟩
    intro entry listed
    obtain ⟨old, known, -, made⟩ := merges entry listed
    exact priced.merge (collected.priced old known) made

theorem collected_of_le (priced : ∀ solution ∈ inputs, solution.Priced)
    (within : count ≤ inputs.length) :
    ∃ entries, ((inputs.take count).foldlM (Solution.extend counter maxOrders) [] : Outcome ε _) =
        .ok (entries.map Prod.snd) ∧ Collected inputs maxOrders count entries := by
  induction count with
  | zero => exact ⟨[], rfl, by simp, by simp, by simp, by simp, by simp⟩
  | succ count induction =>
    obtain ⟨entries, rounds, collected⟩ := induction (Nat.le_of_succ_le within)
    have found := List.getElem?_eq_getElem within
    obtain ⟨next, extended, collectedNext⟩ :=
      collected.extend (ε := ε) counter found (priced _ (getElem_mem within))
    refine ⟨next, ?_, collectedNext⟩
    rw [take_add_one, foldlM_append, rounds, found]
    simp [extended]

end Rounds

variable [Factor F] (nativePrices : TokenAddress → Option U256) (owners : Address → Bool)

/-- A list without prices of zero is merged to solutions with distinct parts, none of
them with two trades of a user order. -/
theorem mergeAll_combines {ε : Type} (counter : Solution F → Solution F → Nat)
    (maxOrders : Nat) (solutions : List (Solution F))
    (priced : ∀ solution ∈ solutions.take maxSolutionsToMerge, solution.Priced) :
    let inputs := solutions.take maxSolutionsToMerge
    ∃ merged, (mergeAll counter maxOrders nativePrices owners solutions : Outcome ε _) =
        .ok merged ∧ merged.length ≤ 2 ^ 10 - 1 ∧
      (merged.Pairwise fun left right =>
        right.scoreOrZero nativePrices owners ≤ left.scoreOrZero nativePrices owners) ∧
      ∃ entries : List (List Nat × Solution F), merged.Perm (entries.map Prod.snd) ∧
        (entries.map Prod.fst).Nodup ∧
        (∀ entry ∈ entries, Combines inputs maxOrders inputs.length entry.1 entry.2) ∧
        ∀ index solution, inputs[index]? = some solution → ([index], solution) ∈ entries := by
  intro inputs
  obtain ⟨entries, rounds, collected⟩ := collected_of_le (ε := ε) counter priced le_rfl
  rw [take_length] at rounds
  have perm := perm_insertionSort (fun left right =>
    right.scoreOrZero nativePrices owners ≤ left.scoreOrZero nativePrices owners)
    (entries.map Prod.snd)
  refine ⟨_, by rw [mergeAll, rounds]; rfl, ?_, ?_, entries, perm, collected.distinct,
    collected.combines, ?_⟩
  · rw [perm.length_eq, length_map]
    have few : entries.length < 2 ^ inputs.length := collected.few
    have rounds : 2 ^ inputs.length ≤ 2 ^ 10 := Nat.pow_le_pow_right (by decide) (length_take_le ..)
    omega
  · have total : Std.Total fun left right : Solution F =>
        right.scoreOrZero nativePrices owners ≤ left.scoreOrZero nativePrices owners :=
      ⟨fun _ _ => BitVec.le_total _ _⟩
    exact pairwise_insertionSort _ _
  · intro index solution found
    exact collected.single index (List.getElem?_eq_some_iff.mp found).1 solution found

/-- Of the three solutions that can be built, one is made of both. -/
theorem mergeAll_combines_twoPrices :
    let inputs := [trading (soldOut 1 ⟨3, 2⟩ ⟨3, 1⟩) [(1, 4), (2, 4)],
      trading (soldOut 2 ⟨6, 3⟩ ⟨3, 1⟩) [(1, 2), (3, 1)]]
    ∃ merged, (mergeAll (fun _ _ => 2) 10 (fun _ => none) (fun _ => false) inputs :
        Outcome Unit _) = .ok merged ∧ merged.length = 3 ∧
      ∃ entries : List (List Nat × Solution ℚ), merged.Perm (entries.map Prod.snd) ∧
        (entries.map Prod.fst).Nodup ∧
        (∀ entry ∈ entries, Combines inputs 10 2 entry.1 entry.2) ∧
        ∀ index solution, inputs[index]? = some solution → ([index], solution) ∈ entries := by
  intro inputs
  obtain ⟨merged, merges, -, -, entries⟩ := mergeAll_combines (ε := Unit) (fun _ => none)
    (fun _ => false) (fun _ _ => 2) 10 inputs (by decide +kernel)
  have three : ((mergeAll (fun _ _ => 2) 10 (fun _ => none) (fun _ => false) inputs :
      Outcome Unit _)).toOption.map List.length = some 3 := by
    decide +kernel
  rw [merges] at three
  exact ⟨merged, merges, Option.some.inj three, entries⟩

/-- The third token has the price zero in the solution that comes first. -/
example : (mergeAll (fun _ _ => 2) 10 (fun _ => none) (fun _ => false)
      [trading (soldOut 2 ⟨10, 4⟩ ⟨10, 5⟩) [(4, 1), (5, 1), (3, 0)],
        trading (soldOut 1 ⟨10, 1⟩ ⟨10, 2⟩) [(1, 1), (2, 1), (3, 1)]] : Outcome Unit _) =
      .panic (.explicit "denominator == 0") := by
  decide +kernel

end Solution

end MandateSolver.Driver
