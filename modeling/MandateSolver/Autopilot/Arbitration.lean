import MandateSolver.Foundation.RecordedItems
import MandateSolver.WinnerSelection.Ranking

/-!
# Bids of the solver competition

Bids are limited for each driver.  The arbitrator finds the bid of a ranked solution again
by its solver and id, which nothing makes unique: the driver chooses the ids.
-/

namespace MandateSolver.Autopilot

open List

open Outcome hiding none

open WinnerSelection (OrderUid FeePolicy AuctionContext RankType Ranked SolutionKey)

/-! ## Solutions and bids -/

structure InvalidPrice where

/-- A price that is not zero. -/
@[ext] structure Price where
  value : U256
  nonzero : value ≠ 0

instance decidableEqPrice : DecidableEq Price :=
  fun _ _ => decidable_of_iff _ Price.ext_iff.symm

def Price.tryNew (value : U256) : Outcome InvalidPrice Price :=
  if zero : value = 0 then .err {} else .ok ⟨value, zero⟩

/-- An order with what a solution executes of it. -/
structure TradedOrder where
  side : WinnerSelection.Side
  (sell buy : Asset)
  (executedSell executedBuy : U256)
  deriving DecidableEq

/-- Orders and prices are maps, listed in the order of their iteration. -/
structure Solution where
  id : Nat
  solver : Address
  orders : List (OrderUid × TradedOrder)
  prices : List (Address × Price)
  deriving DecidableEq

/-- A driver that takes part in the competition. -/
structure Driver where
  name : String
  submissionAddress : Address
  deriving DecidableEq

/-- A solution with the driver that proposed it. -/
structure Bid (State : Type) where
  solution : Solution
  driver : Driver
  state : State
  deriving DecidableEq

def Bid.withRank {State : Type} (bid : Bid State) (rankType : RankType)
    (score : U256) : Bid Ranked :=
  ⟨bid.solution, bid.driver, ⟨rankType, score⟩⟩

/-- What bids are judged by. -/
structure Auction (F : Type) where
  orders : List (OrderUid × List (FeePolicy F))
  prices : List (Address × Price)
  surplusCapturingJitOrderOwners : List Address

/-! ## Fetching solutions -/

structure TradedOrderDto where
  side : WinnerSelection.Side
  (sellToken buyToken : Address)
  (limitSell limitBuy executedSell executedBuy : U256)

def TradedOrderDto.intoDomain (order : TradedOrderDto) : TradedOrder where
  side := order.side
  sell := ⟨order.limitSell, order.sellToken⟩
  buy := ⟨order.limitBuy, order.buyToken⟩
  executedSell := order.executedSell
  executedBuy := order.executedBuy

/-- A solution as a driver sends it. -/
structure SolutionDto where
  solutionId : Nat
  submissionAddress : Address
  orders : List (OrderUid × TradedOrderDto)
  clearingPrices : List (Address × U256)

def SolutionDto.intoDomain (solution : SolutionDto) : Outcome InvalidPrice Solution := do
  let prices ← solution.clearingPrices.mapM fun (token, price) => do
    let price ← Price.tryNew price
    return (token, price)
  return {
    id := solution.solutionId
    solver := solution.submissionAddress
    orders := solution.orders.map fun (uid, order) => (uid, order.intoDomain)
    prices := prices }

/-- Why a driver has no solutions. -/
inductive SolveError where
  | timeout
  | noSolutions
  | solverDenyListed
  | failure

/-- How the request to a driver and the check whether it may take part ended.
Either may fail, which is when there is no value. -/
structure Answer where
  canParticipate : Option Bool
  response : Option (List SolutionDto)

/-- No answer within the deadline is a timeout. -/
def trySolve (answer : Option Answer) :
    Outcome SolveError (List (Outcome InvalidPrice Solution)) := do
  let answer ← .okOr .timeout answer
  let response ← match answer.canParticipate, answer.response with
    | some true, some response => .ok response
    | some false, _ | none, _ => .err .solverDenyListed
    | _, none => .err .failure
  .rejectIf (response = []) .noSolutions
  return response.map (·.intoDomain)

/-- Errors count as no solutions, and invalid solutions are dropped. -/
def solve (driver : Driver) (answer : Option Answer) : List (Bid Unit) :=
  let solutions := (trySolve answer).toOption.getD []
  solutions.filterMap fun solution =>
    solution.toOption.map fun solution => ⟨solution, driver, ()⟩

/-- The bids that are kept, given how many each driver has made so far. -/
def retainBids (maxSolutionsPerSolver : Nat) :
    List (String × Nat) → List (Bid Unit) → List (Bid Unit)
  | _, [] => []
  | counter, bid :: rest =>
    if bid.solution.solver ≠ bid.driver.submissionAddress then
      retainBids maxSolutionsPerSolver counter rest
    else
      let counter := upsert bid.driver.name (fun count => count.getD 0 + 1)
        counter
      if (counter.lookup bid.driver.name).getD 0 ≤ maxSolutionsPerSolver then
        bid :: retainBids maxSolutionsPerSolver counter rest
      else retainBids maxSolutionsPerSolver counter rest

def fetchSolutions (maxSolutionsPerSolver : Nat)
    (answers : List (Driver × Option Answer)) : List (Bid Unit) :=
  retainBids maxSolutionsPerSolver [] (answers.flatMap fun (driver, answer) => solve driver answer)

/-! ## Arbitration -/

section

variable {F : Type}

def Auction.toContext (auction : Auction F) : AuctionContext F where
  feePolicies := fun uid => (insertAll auction.orders []).lookup uid
  surplusCapturingJitOrderOwners := fun owner =>
    owner ∈ auction.surplusCapturingJitOrderOwners
  nativePrices := fun token => (auction.prices.lookup token).map (·.value)

def toWinselOrder (uid : OrderUid) (order : TradedOrder) : WinnerSelection.Order where
  uid := uid
  sellToken := order.sell.token
  buyToken := order.buy.token
  sellAmount := order.sell.amount
  buyAmount := order.buy.amount
  executedSell := order.executedSell
  executedBuy := order.executedBuy
  side := order.side

def Solution.toWinsel (solution : Solution) : WinnerSelection.Solution Unit where
  id := solution.id
  solver := solution.solver
  orders := solution.orders.map fun (uid, order) => toWinselOrder uid order
  prices := fun token => (solution.prices.lookup token).map (·.value)
  state := ()

def Bid.key {State : Type} (bid : Bid State) : SolutionKey :=
  ⟨bid.solution.solver, bid.solution.id⟩

end

/-- The bid has a score. -/
def Bid.scorable {F : Type} [Factor F] (auction : Auction F) (bid : Bid Unit) : Bool :=
  (WinnerSelection.scoreByTokenPair bid.solution.toWinsel auction.toContext).toOption.isSome

abbrev BidByKey := List (SolutionKey × Bid Unit)

/-- The bids in their final order. -/
structure Ranking where
  (filteredOut ranked : List (Bid Ranked))
  referenceScores : List (Address × U256)
  deriving DecidableEq

section

variable (rankType : WinnerSelection.Solution Ranked → RankType)

def matchBid (state : BidByKey × List (Bid Ranked)) (solution : WinnerSelection.Solution Ranked) :
    Outcome Empty (BidByKey × List (Bid Ranked)) := do
  let (bidByKey, matched) := state
  let bid ← .expect "every ranked solution has a matching bid"
    (bidByKey.lookup solution.key)
  return (removeKey solution.key bidByKey,
    matched ++ [bid.withRank (rankType solution) solution.state.score])

def matchBids (bidByKey : BidByKey) (solutions : List (WinnerSelection.Solution Ranked)) :
    Outcome Empty (BidByKey × List (Bid Ranked)) :=
  solutions.foldlM (matchBid rankType) (bidByKey, [])

end

def arbitrate {F : Type} [Factor F] (arbitrator : WinnerSelection.Arbitrator)
    (bids : List (Bid Unit)) (auction : Auction F) : Outcome Empty Ranking := do
  let bidByKey : BidByKey := recordAll Bid.key bids
  let solutions := bids.map (·.solution.toWinsel)
  let wsRanking ← arbitrator.arbitrate solutions auction.toContext
  let referenceScores := arbitrator.computeReferenceScores wsRanking
  let (bidByKey, filteredOut) ← matchBids (fun _ => .filteredOut) bidByKey
    wsRanking.filteredOut
  let (_, ranked) ← matchBids (·.state.rankType) bidByKey wsRanking.ranked
  return ⟨filteredOut, ranked, referenceScores⟩

/-! ## Bids are drained from the map -/

def Bid.unscored {State : Type} (bid : Bid State) : Bid Unit :=
  ⟨bid.solution, bid.driver, ()⟩

def Ranking.all (ranking : Ranking) : List (Bid Ranked) :=
  ranking.filteredOut ++ ranking.ranked

theorem matchBids_eq_drain (rankType : WinnerSelection.Solution Ranked → RankType)
    (bidByKey : BidByKey) (solutions : List (WinnerSelection.Solution Ranked)) :
    (matchBids rankType bidByKey solutions).toOption.map
        (fun result => (result.2.map (·.unscored), result.1)) =
      drain bidByKey (solutions.map (·.key)) := by
  -- The loop, from any point on.
  suffices loop : ∀ bidByKey matched,
      (solutions.foldlM (matchBid rankType) (bidByKey, matched)).toOption.map
          (fun result => (result.2.map (·.unscored), result.1)) =
        (drain bidByKey (solutions.map (·.key))).map
          (fun result => (matched.map (·.unscored) ++ result.1, result.2)) by
    rw [matchBids, loop bidByKey []]
    simp
  induction solutions with
  | nil => simp [drain]
  | cons solution solutions ih =>
    intro bidByKey matched
    rw [foldlM_cons, map_cons, drain]
    cases found : bidByKey.lookup solution.key with
    | none => simp [matchBid, found, expect, toOption]
    | some bid =>
      simp only [matchBid, found, expect_some, ok_bind, pure_eq, ih]
      cases drain (removeKey solution.key bidByKey) (solutions.map (·.key)) with
      | none => rfl
      | some result => simp [Bid.unscored, Bid.withRank]

section

variable {F : Type} [Factor F] (arbitrator : WinnerSelection.Arbitrator)
  {bids : List (Bid Unit)} {auction : Auction F}

theorem map_key_scorableSolutions :
    (WinnerSelection.scorableSolutions (bids.map (·.solution.toWinsel))
        auction.toContext).map (·.1.key) =
      (bids.filter (Bid.scorable auction)).map (·.key) := by
  rw [WinnerSelection.scorableSolutions, filterMap_map]
  induction bids with
  | nil => rfl
  | cons bid bids ih =>
    cases outcome : (WinnerSelection.scoreByTokenPair bid.solution.toWinsel
        auction.toContext).toOption with
    | none =>
      have skipped : ¬ bid.scorable auction = true := by
        simp [Bid.scorable, outcome]
      rw [filter_cons_of_neg skipped, filterMap_cons_none, ih]
      simp [outcome]
    | some scores =>
      have kept : bid.scorable auction = true := by
        simp [Bid.scorable, outcome]
      rw [filter_cons_of_pos kept, map_cons, ← ih]
      simp [outcome]
      rfl

/-- The ranking is made of what is drained from the map of bids, in some order
of the solutions that can be scored. -/
theorem arbitrate_eq_drain (bids : List (Bid Unit)) (auction : Auction F) : ∃ keys,
      keys.Perm ((bids.filter (Bid.scorable auction)).map (·.key)) ∧
      (arbitrate arbitrator bids auction).toOption.map
          (fun ranking => ranking.all.map (·.unscored)) =
        (drain (recordAll Bid.key bids) keys).map Prod.fst := by
  obtain ⟨ranking, returned, complete⟩ := arbitrator.arbitrate_complete
    (bids.map (·.solution.toWinsel)) auction.toContext
  refine ⟨(ranking.filteredOut ++ ranking.ranked).map (·.key), ?_, ?_⟩
  · rw [← map_key_scorableSolutions]
    have keys := complete.map (·.1.key)
    rwa [map_map] at keys
  · have first := matchBids_eq_drain (fun _ => .filteredOut)
    simp only [arbitrate, returned, ok_bind]
    rw [map_append, drain.append, ← first]
    cases matchBids (fun _ => .filteredOut) (recordAll Bid.key bids) ranking.filteredOut with
    | err error => exact error.elim
    | panic reason => rfl
    | ok result =>
      obtain ⟨bidByKey, filteredOut⟩ := result
      have second := matchBids_eq_drain (·.state.rankType) bidByKey ranking.ranked
      simp only [toOption, Option.map_some, Option.bind_eq_bind,
        Option.bind_some, ok_bind, ← second]
      cases matchBids (·.state.rankType) bidByKey ranking.ranked with
      | err error => exact error.elim
      | panic reason => rfl
      | ok result => simp [Ranking.all]

/-- Every bid that can be scored is in the ranking once, and no other bid. -/
def RanksEachBid (bids : List (Bid Unit)) (auction : Auction F) : Prop :=
  (arbitrate arbitrator bids auction).Returns fun ranking =>
    (ranking.all.map (·.unscored)).Perm (bids.filter (Bid.scorable auction))

theorem ranksEachBid_iff : RanksEachBid arbitrator bids auction ↔ bids.Pairwise fun earlier later =>
        earlier.key = later.key → earlier.scorable auction = false := by
  obtain ⟨_, order, drained⟩ := arbitrate_eq_drain arbitrator bids auction
  rw [← recordAll.drains_iff order]
  constructor
  · rintro ⟨ranking, returned, complete⟩
    refine ⟨_, ?_, complete⟩
    rw [returned, toOption, Option.map_some, eq_comm, Option.map_eq_some_iff] at drained
    obtain ⟨⟨values, rest⟩, found, same⟩ := drained
    exact ⟨rest, same ▸ found⟩
  · rintro ⟨values, ⟨rest, found⟩, complete⟩
    rw [found, Option.map_some, Option.map_eq_some_iff] at drained
    obtain ⟨ranking, returned, rfl⟩ := drained
    exact ⟨ranking, toOption_eq_some_iff.mp returned, complete⟩

/-- However the fetched bids are shuffled, each of them that can be scored is
ranked once exactly when none of these is followed by a bid with the same
solver and id.  For all ways to shuffle them this means that no bid that can be
scored shares its solver and id with another one. -/
theorem arbitrate_fetchSolutions_iff (auction : Auction F)
    (maxSolutionsPerSolver : Nat) (answers : List (Driver × Option Answer)) :
    (∀ bids, bids.Perm (fetchSolutions maxSolutionsPerSolver answers) →
      (RanksEachBid arbitrator bids auction ↔ bids.Pairwise fun earlier later =>
          earlier.key = later.key → earlier.scorable auction = false)) ∧
    ((∀ bids, bids.Perm (fetchSolutions maxSolutionsPerSolver answers) →
        RanksEachBid arbitrator bids auction) ↔
      (fetchSolutions maxSolutionsPerSolver answers).Pairwise fun left right =>
        left.key = right.key → left.scorable auction = false ∧ right.scorable auction = false) := by
  refine ⟨fun bids _ => ranksEachBid_iff arbitrator, ?_, ?_⟩
  · intro always
    have forward := (ranksEachBid_iff arbitrator).mp (always _ (.refl _))
    have backward := (ranksEachBid_iff arbitrator).mp (always _ (reverse_perm _))
    rw [pairwise_reverse] at backward
    apply (forward.and backward).imp
    rintro left right ⟨ahead, behind⟩ same
    exact ⟨ahead same, behind same.symm⟩
  · intro apart bids shuffled
    apply (ranksEachBid_iff arbitrator).mpr
    have symmetric := shuffled.symm.pairwise apart fun related same =>
      (related same.symm).symm
    exact symmetric.imp fun related same => (related same).1

end

/-! ## A driver that uses an id twice -/

def filledOrder : OrderUid × TradedOrderDto :=
  (⟨1, 2, 3⟩, ⟨.sell, 1, 2, 1000, 1000, 1000, 1001⟩)

def sameIdAnswers : List (Driver × Option Answer) :=
  [(⟨"driver", 5⟩, some ⟨some true, some [⟨7, 5, [filledOrder], [(1, 1), (2, 1)]⟩,
      ⟨7, 5, [filledOrder], [(1, 1), (2, 1)]⟩]⟩)]

def singleOrderAuction : Auction ℚ :=
  ⟨[(filledOrder.1, [])], [(2, ⟨1000000000000000000, by decide⟩)], []⟩

theorem arbitrate_sameIdAnswers :
    arbitrate ⟨10, 9⟩ (fetchSolutions 3 sameIdAnswers) singleOrderAuction =
      .panic (.expect "every ranked solution has a matching bid") := by
  decide +kernel

end MandateSolver.Autopilot
