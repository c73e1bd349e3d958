import MandateSolver.Boundary.SellRoutes

/-!
# Solving a mandate

An intent sells an exact amount for at least a floor, only through allowed venues.  A quote
is a solve without a floor.
-/

namespace MandateSolver

open Outcome hiding none

/-- The settings of the search. -/
structure Routing where
  weth : Address
  baseTokens : List Address
  maxHops : Nat
  uniV3QuoterV2 : Option UniswapV3QuoterV2

namespace Mandate

/-- The sold amount, the floor and the venues. -/
structure Intent where
  (sell buy : Asset)
  allowedVenues : List Address

/-- Liquidity of one block. -/
structure Snapshot where
  source : String
  block : Nat
  liquidity : List Liquidity

/-- One hop of a fill. -/
structure Segment where
  liquidity : String
  (input output : Asset)
  deriving DecidableEq

/-- The best route and its result. -/
structure Fill where
  segments : List Segment
  (expectedOut gas : U256)
  source : String
  block : Nat
  deriving DecidableEq

/-- The result without its route. -/
structure Quote where
  expectedOut : U256
  source : String
  block : Nat
  deriving DecidableEq

/-- The pools of the allowed venues. -/
def allowedLiquidity (intent : Intent) (snapshot : Snapshot) : List Liquidity :=
  snapshot.liquidity.filter (·.isVenue intent.allowedVenues)

def request (intent : Intent) : Request :=
  ⟨intent.sell, intent.buy, .sell⟩

def toSegment (segment : MandateSolver.Segment) : Segment :=
  ⟨segment.liquidity.id, segment.input, segment.output⟩

def toFill (snapshot : Snapshot) (route : Route) : Fill where
  segments := route.segments.map toSegment
  expectedOut := route.output.amount
  gas := route.gas
  source := snapshot.source
  block := snapshot.block

def solve (order : RunOrder) (routing : Routing) (intent : Intent)
    (snapshot : Snapshot) : Outcome Unit Fill := do
  let solver ← Solver.new order routing.weth routing.baseTokens
    (allowedLiquidity intent snapshot) routing.uniV3QuoterV2
  let route ← solver.route order (request intent) routing.maxHops
  if route.output.amount < intent.buy.amount then .none
  else return toFill snapshot route

def quote (order : RunOrder) (routing : Routing) (sell : Asset)
    (buyToken : Address) (allowedVenues : List Address) (snapshot : Snapshot) :
    Outcome Unit Quote := do
  let fill ← solve order routing ⟨sell, ⟨0, buyToken⟩, allowedVenues⟩ snapshot
  return ⟨fill.expectedOut, fill.source, fill.block⟩

def limitOrderEntry (id : String) (address : Address) (taker maker : Asset) : Liquidity :=
  ⟨id, address, none, .limitOrder ⟨maker, taker, 0⟩⟩

def Rational.ofInteger (numer : U256) : MandateSolver.Rational :=
  ⟨numer, 1, by decide⟩

def unitScale : Liquidity.ScalingFactor :=
  ⟨Rational.ofInteger 1, by decide⟩

def evenPoolEntry (id : String) (address : Address) (assets : List Asset)
    (sorted : assets.Pairwise (fun left right => left.token < right.token)) : Liquidity :=
  ⟨id, address, none, .weightedProduct
    ⟨⟨assets.map (fun asset => ⟨asset, Rational.ofInteger 1, unitScale⟩),
        List.pairwise_map.mpr sorted⟩,
      Rational.ofInteger 0, .v3Plus⟩⟩

/-! ## When a mandate is solved -/

section

variable {order : RunOrder} {routing : Routing} {intent : Intent} {snapshot : Snapshot}
  {solver : Solver}

section

variable (order : RunOrder) (routing : Routing) (intent : Intent) (snapshot : Snapshot)

def solverOf : Outcome Unit Solver :=
  Solver.new order routing.weth routing.baseTokens
    (allowedLiquidity intent snapshot) routing.uniV3QuoterV2

theorem solve_eq :
    solve order routing intent snapshot = (solverOf order routing intent snapshot >>= fun solver =>
        solver.route order (request intent) routing.maxHops >>= fun route =>
          if route.output.amount < intent.buy.amount then .none
          else return toFill snapshot route) := rfl

end

theorem solve_of_panic {reason : Panic}
    (aborted : solverOf order routing intent snapshot = .panic reason) :
    solve order routing intent snapshot = .panic reason := by
  rw [solve_eq, aborted, panic_bind]

/-- No allowed pool has a fee that its quoter cannot take. -/
def Representable (routing : Routing) (intent : Intent) (snapshot : Snapshot) : Prop :=
  routing.uniV3QuoterV2 = none ∨ ∀ entry ∈ allowedLiquidity intent snapshot, entry.FeeFits

theorem solverOf_of_representable (order : RunOrder)
    (representable : Representable routing intent snapshot) :
    ∃ solver, solverOf order routing intent snapshot = .ok solver := by
  obtain ⟨_, converted, -⟩ : Outcome.Returns
      (toBoundaryLiquidity (allowedLiquidity intent snapshot) routing.uniV3QuoterV2)
      (fun _ => True) :=
    toBoundaryLiquidity_returns representable
  rw [solverOf, Solver.new, converted]
  exact ⟨_, rfl⟩

theorem solverOf_of_not_representable (unrepresentable : ¬Representable routing intent snapshot) :
    solverOf order routing intent snapshot = .panic (.expect "fee < (2^24)") := by
  rw [Representable, not_or, ← ne_eq, Option.ne_none_iff_exists'] at unrepresentable
  obtain ⟨⟨_, configured⟩, unfit⟩ := unrepresentable
  simp only [not_forall] at unfit
  obtain ⟨_, mem, tooLarge⟩ := unfit
  rw [solverOf, Solver.new, configured, toBoundaryLiquidity_eq_panic mem tooLarge, panic_bind]

theorem solverOf_eq_ok
    (success : solverOf order routing intent snapshot = .ok solver) :
    solver.BuiltFrom (allowedLiquidity intent snapshot) routing.uniV3QuoterV2 ∧
      ∀ token, token ∈ solver.baseTokens.tokens ↔
        token ∈ routing.baseTokens ∨ token = routing.weth := by
  obtain ⟨built, tokens⟩ := Solver.new_eq_ok success
  refine ⟨built, fun token => ?_⟩
  rw [tokens, BaseTokens.mem_new, HashOrder.mem_iter]

/-- Solving is aborted exactly when an allowed entry cannot be converted,
whatever the quoter answers. -/
theorem solve_noPanic_iff : Outcome.NoPanic (solve order routing intent snapshot) ↔
      Representable routing intent snapshot := by
  constructor
  · intro safe
    by_contra unrepresentable
    rw [solve_of_panic (solverOf_of_not_representable unrepresentable)] at safe
    exact not_noPanic_panic _ safe
  · intro representable
    obtain ⟨_, solverOk⟩ := solverOf_of_representable order representable
    obtain ⟨built, -⟩ := solverOf_eq_ok solverOk
    rw [solve_eq, solverOk]
    refine (Solver.route_sell_noPanic built.consistent rfl).seq fun route => ?_
    split <;> simp

section

variable (deterministic : QuoterDeterministic routing.uniV3QuoterV2)
include deterministic

/-- A fill is the last best candidate; the final check of the floor never
fails. -/
theorem solve_eq_ok_iff {fill : Fill} : solve order routing intent snapshot = .ok fill ↔
      ∃ solver route, solverOf order routing intent snapshot = .ok solver ∧
        IsLastMax compareCandidates (solver.sellFound order (request intent) routing.maxHops)
          (route.segments, route.output.amount) ∧
        fill = toFill snapshot route := by
  unfold solve
  rw [bind_eq_ok_iff]
  constructor
  · rintro ⟨solver, solverOk, success⟩
    obtain ⟨built, -⟩ := solverOf_eq_ok solverOk
    rw [bind_eq_ok_iff] at success
    obtain ⟨route, routed, success⟩ := success
    refine ⟨solver, route, solverOk, (Solver.route_sell_eq_ok_iff built.consistent
        (built.priced deterministic) rfl).mp routed, ?_⟩
    split at success
    · cases success
    · exact (ok.inj success).symm
  · rintro ⟨solver, route, solverOk, best, rfl⟩
    obtain ⟨built, -⟩ := solverOf_eq_ok solverOk
    obtain ⟨_, _, -, -, -, -, floor⟩ := Solver.exists_replays_of_mem_sellFound built.consistent
        (built.priced deterministic) best.mem
    have notBelow : ¬route.output.amount < intent.buy.amount := not_lt.mpr floor
    refine ⟨solver, solverOk, ?_⟩
    rw [(Solver.route_sell_eq_ok_iff built.consistent (built.priced deterministic) rfl).mpr best,
      ok_bind, if_neg notBelow]
    rfl

theorem solve_of_solverOf
    (solverOk : solverOf order routing intent snapshot = .ok solver) :
    (solver.sellFound order (request intent) routing.maxHops = [] ∧
      solve order routing intent snapshot = .none) ∨
    ∃ route, IsLastMax compareCandidates (solver.sellFound order (request intent) routing.maxHops)
        (route.segments, route.output.amount) ∧
      solve order routing intent snapshot = .ok (toFill snapshot route) := by
  obtain ⟨built, -⟩ := solverOf_eq_ok solverOk
  by_cases empty : solver.sellFound order (request intent) routing.maxHops = []
  · refine Or.inl ⟨empty, ?_⟩
    have unrouted : solver.route order (request intent) routing.maxHops =
        .none := by
      rw [Solver.route_sell_eq built.consistent rfl, empty]
      rfl
    rw [solve_eq, solverOk, ok_bind, unrouted]
    rfl
  · obtain ⟨route, routed⟩ := Solver.exists_route_of_sellFound built.consistent
        (built.priced deterministic) rfl empty
    have best := (Solver.route_sell_eq_ok_iff built.consistent
        (built.priced deterministic) rfl).mp routed
    exact Or.inr ⟨route, best, (solve_eq_ok_iff deterministic).mpr
      ⟨solver, route, solverOk, best, rfl⟩⟩

theorem solve_eq_none_iff : solve order routing intent snapshot = .none ↔
      ∃ solver, solverOf order routing intent snapshot = .ok solver ∧
        solver.sellFound order (request intent) routing.maxHops = [] := by
  constructor
  · intro unsolved
    by_cases representable : Representable routing intent snapshot
    · obtain ⟨solver, solverOk⟩ := solverOf_of_representable order representable
      refine ⟨solver, solverOk, ?_⟩
      rcases solve_of_solverOf deterministic solverOk with
        ⟨empty, -⟩ | ⟨route, -, solved⟩
      · exact empty
      · rw [unsolved] at solved
        cases solved
    · rw [solve_of_panic (solverOf_of_not_representable representable)] at unsolved
      cases unsolved
  · rintro ⟨solver, solverOk, empty⟩
    rcases solve_of_solverOf deterministic solverOk with
      ⟨-, unsolved⟩ | ⟨route, best, -⟩
    · exact unsolved
    · have mem := best.mem
      rw [empty] at mem
      simp at mem

end

end

end Mandate

end MandateSolver
