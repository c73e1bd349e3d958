import MandateSolver.Api.Mandate
import MandateSolver.Mandate.Candidates

/-!
# The allowlist and the ids of a route

A route names its entries by id only, so the allowlist fails for it when an id of the route
is shared with an entry that is not allowed.
-/

namespace MandateSolver.Api

open List

/-- Every entry that an id of the route can denote is allowed. -/
def RouteAllowed (request : SolveRequest) (solution : Solution) : Prop :=
  ∀ segment ∈ solution.route, ∀ entry ∈ request.liquidity,
    entry.id = segment.liquidity → entry.Allowed request.intent.allowedVenues

/-- The id denotes an entry that is not allowed, maybe besides one that is. -/
def DenotesDenied (request : SolveRequest) (id : String) : Prop :=
  ∃ entry ∈ request.liquidity, entry.id = id ∧ ¬ entry.Allowed request.intent.allowedVenues

/-- A candidate path whose best entries reach the floor, but share an id with an entry that
is not allowed, is beaten by another path. -/
def DeniedBeaten (routing : Routing) (request : SolveRequest)
    (snapshot : Mandate.Snapshot) : Prop :=
  ∀ rest offer, Mandate.CandidatePath routing (intentToDomain request.intent) rest →
    Mandate.offerAlong routing (intentToDomain request.intent) snapshot rest = some offer →
    request.intent.minBuyAmount ≤ offer.1 → (∃ id ∈ offer.2, DenotesDenied request id) →
    Mandate.Beaten routing (intentToDomain request.intent) snapshot offer

theorem routeAllowed_toSolution_iff {request : SolveRequest} {fill : Mandate.Fill} :
    RouteAllowed request (toSolution fill) ↔
      ∀ id ∈ fill.segments.map (·.liquidity), ¬ DenotesDenied request id := by
  simp only [RouteAllowed, DenotesDenied, toSolution, forall_mem_map, not_exists, not_and,
    not_not]

/-- The allowlist holds for what the ids of every answer to a request can denote exactly when
no run returns anything, because a pool cannot be represented, or when every path with the id
of an entry that is not allowed is beaten. -/
theorem solve_routeAllowed_iff {now : Nat} {engine : Engine} {request : SolveRequest}
    {snapshot : Mandate.Snapshot} (accepted : request.Accepted now engine snapshot)
    (deterministic : QuoterDeterministic engine.routing.uniV3QuoterV2) :
    (∀ order solution, solve now order engine request = .ok (some solution) →
        RouteAllowed request solution) ↔
      ¬ Mandate.Representable engine.routing (intentToDomain request.intent) snapshot ∨
        DeniedBeaten engine.routing request snapshot := by
  have answers : (∀ order solution, solve now order engine request = .ok (some solution) →
      RouteAllowed request solution) ↔ ∀ order fill, Mandate.solve order engine.routing
        (intentToDomain request.intent) snapshot = .ok fill →
          ∀ id ∈ fill.segments.map (·.liquidity), ¬ DenotesDenied request id := by
    constructor
    · intro allowed order fill solved
      have answered := solve_eq_ok_some_iff.mpr ⟨snapshot, fill, accepted, solved, rfl⟩
      exact routeAllowed_toSolution_iff.mp (allowed order _ answered)
    · intro allowed order solution answered
      obtain ⟨_, fill, alsoAccepted, solved, rfl⟩ := solve_eq_ok_some_iff.mp answered
      cases accepted.snapshotOk.symm.trans alsoAccepted.snapshotOk
      exact routeAllowed_toSolution_iff.mpr (allowed order fill solved)
  rw [answers, Mandate.forall_solve_iff deterministic
    fun ids => ∀ id ∈ ids, ¬ DenotesDenied request id]
  simp only [not_forall, not_not, exists_prop]
  rfl

/-- Two orders under one id, of which only the first is allowed, and other allowed ones. -/
def sharedIdRequest (others : List ForeignLimitOrder) : SolveRequest :=
  ⟨⟨5, 1, 2, 1000, 1, 50, 1, [7]⟩, .limitOrder ⟨"order", 7, 2, 1, 2000, 1000, 0⟩ ::
      .limitOrder ⟨"order", 8, 2, 1, 3000, 1000, 0⟩ :: others.map .limitOrder,
    ⟨"node", 17⟩, ⟨none, none⟩⟩

theorem denotesDenied_sharedIdRequest (others : List ForeignLimitOrder) :
    DenotesDenied (sharedIdRequest others) "order" := by
  refine ⟨.limitOrder ⟨"order", 8, 2, 1, 3000, 1000, 0⟩, by simp [sharedIdRequest], rfl, ?_⟩
  simp [Liquidity.Allowed, Liquidity.address, Liquidity.router, sharedIdRequest]

/-- The best allowed order does not share its id. -/
theorem solve_routeAllowed_iff_better :
    let request := sharedIdRequest [⟨"better", 7, 2, 1, 2500, 1000, 0⟩]
    DenotesDenied request "order" ∧ ∀ order solution, solve 0 order (directEngine none) request =
      .ok (some solution) → RouteAllowed request solution := by
  intro request
  have accepted : ∃ snapshot, request.Accepted 0 (directEngine none) snapshot ∧
      Mandate.offerAlong (directEngine none).routing (intentToDomain request.intent) snapshot [2] =
        some (2500, ["better"]) :=
    ⟨_, ⟨rfl, rfl, rfl⟩, by decide +kernel⟩
  obtain ⟨snapshot, accepted, best⟩ := accepted
  refine ⟨denotesDenied_sharedIdRequest _, (solve_routeAllowed_iff accepted
    (fun _ configured => by cases configured)).mpr (Or.inr ?_)⟩
  intro rest offer isCandidate offers floor denied
  have listed : 1 :: rest ∈ [[1, 2]] := mem_pathCandidates_iff.mpr isCandidate
  obtain ⟨-, rfl⟩ := List.cons.inj (mem_singleton.mp listed)
  cases best.symm.trans offers
  simp [DenotesDenied, request, sharedIdRequest, Liquidity.id, Liquidity.Allowed,
    Liquidity.address, Liquidity.router] at denied

theorem solve_sharedIdRequest : ∃ solution,
    solve 0 .inserted (directEngine none) (sharedIdRequest []) = .ok (some solution) ∧
      ¬ RouteAllowed (sharedIdRequest []) solution := by
  refine ⟨⟨2000, "node", 17, 66358, [⟨"order", 1, 1000, 2, 2000⟩]⟩, by decide +kernel, ?_⟩
  intro routeAllowed
  obtain ⟨entry, mem, sameId, denied⟩ := denotesDenied_sharedIdRequest []
  exact denied (routeAllowed ⟨"order", 1, 1000, 2, 2000⟩ (by simp) entry mem sameId)

end MandateSolver.Api
