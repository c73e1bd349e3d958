import Mathlib.Algebra.Group.Nat.Defs
import Mathlib.Data.List.Nodup
import Mathlib.Data.List.Perm.Subperm
import MandateSolver.Foundation.Outcome
import MandateSolver.Foundation.Schedule

/-!
# Price competition

A batch starts as many stages as it takes to get the results that are still missing, and its
results arrive in any order.
-/

namespace MandateSolver.PriceEstimation

open List

/-- An estimator by its stage. -/
structure EstimatorIndex where
  (stage index : Nat)
  deriving DecidableEq

/-- Stages of estimators, and how many usable results make further ones unnecessary. -/
structure CompetitionEstimator (T : Type) where
  stages : List (List T)
  usableResultsForEarlyReturn : Nat
  nonempty : stages ≠ []
  nonempty_stages : ∀ stage ∈ stages, stage ≠ []
  positive : 0 < usableResultsForEarlyReturn

/-- The variables of `produce_results`. -/
structure Production (R : Type) where
  results : List (EstimatorIndex × R) := []
  stageIndex : Nat := 0
  requests : List EstimatorIndex := []
  returned : Bool := false

namespace CompetitionEstimator

variable {T R : Type} (estimator : CompetitionEstimator T) (usable : R → Bool)
  (answer : EstimatorIndex → R)

/-- By default all results are waited for. -/
def new (stages : List (List T)) : Outcome Empty (CompetitionEstimator T) :=
  if nonempty : stages ≠ [] then
    if nonempty_stages : ∀ stage ∈ stages, stage ≠ [] then
      .ok ⟨stages, 2 ^ 64 - 1, nonempty, nonempty_stages, by decide⟩
    else .panic (.assertion "assertion failed: stages.iter().all(|stage| !stage.is_empty())")
  else .panic (.assertion "assertion failed: !stages.is_empty()")

def withEarlyReturn (usableResultsForEarlyReturn : Nat)
    (positive : 0 < usableResultsForEarlyReturn) : CompetitionEstimator T :=
  { estimator with usableResultsForEarlyReturn, positive }

def missingResults (results : List (EstimatorIndex × R)) : Nat :=
  estimator.usableResultsForEarlyReturn - results.countP (usable ·.2)

def stageRequests (stage : Nat) : List EstimatorIndex :=
  (List.range (estimator.stages[stage]?.getD []).length).map (⟨stage, ·⟩)

def startStages (requestsForBatch stageIndex : Nat) (requests : List EstimatorIndex) :
    Nat × List EstimatorIndex :=
  if stageIndex < estimator.stages.length ∧ requests.length < requestsForBatch then
    startStages requestsForBatch (stageIndex + 1) (requests ++ estimator.stageRequests stageIndex)
  else (stageIndex, requests)
termination_by estimator.stages.length - stageIndex

/-- The outer loop up to its first await. -/
def startBatch (state : Production R) : Production R :=
  if state.stageIndex < estimator.stages.length then
    let batch := estimator.startStages
      (estimator.missingResults usable state.results) state.stageIndex []
    { state with stageIndex := batch.1, requests := batch.2 }
  else { state with returned := true }

/-- From one await to the next.  Any of the pending requests may complete. -/
def produceResults (state : Production R) (position : Nat) : Production R :=
  if state.returned then state else
    match state.requests[position % state.requests.length]? with
    | none => estimator.startBatch usable state
    | some index =>
      let results := state.results ++ [(index, answer index)]
      let requests := state.requests.erase index
      if estimator.missingResults usable results = 0 then
        { state with results, requests, returned := true }
      else if requests = [] then
        estimator.startBatch usable { state with results, requests }
      else { state with results, requests }

/-! ## Stages -/

def requestsOf (first last : Nat) : List EstimatorIndex :=
  (List.range' first (last - first)).flatMap estimator.stageRequests

variable {estimator usable answer} {index : EstimatorIndex} {first last : Nat}

theorem mem_requestsOf_iff :
    index ∈ estimator.requestsOf first last ↔ (first ≤ index.stage ∧ index.stage < last) ∧
      index.index < (estimator.stages[index.stage]?.getD []).length := by
  obtain ⟨stage, position⟩ := index
  simp only [requestsOf, stageRequests, mem_flatMap, mem_range'_1, mem_map,
    mem_range, EstimatorIndex.mk.injEq]
  constructor
  · rintro ⟨stage, ⟨after, before⟩, position, inside, rfl, rfl⟩
    exact ⟨⟨after, by omega⟩, inside⟩
  · rintro ⟨⟨after, before⟩, inside⟩
    exact ⟨stage, ⟨after, by omega⟩, position, inside, rfl, rfl⟩

theorem nodup_requestsOf (first last : Nat) : (estimator.requestsOf first last).Nodup := by
  apply nodup_flatMap.mpr
  constructor
  · intro _ _
    exact nodup_range.map fun _ _ same => (EstimatorIndex.mk.inj same).2
  · refine List.Pairwise.imp (fun {first second} ne => ?_) nodup_range'
    simp only [stageRequests, disjoint_left, mem_map]
    rintro _ ⟨_, _, rfl⟩ ⟨_, _, same⟩
    exact ne (EstimatorIndex.mk.inj same).1.symm

theorem requestsOf_of_lt (before : first < last) :
    estimator.requestsOf first last =
      estimator.stageRequests first ++ estimator.requestsOf (first + 1) last := by
  rw [requestsOf, show last - first = last - (first + 1) + 1 by omega]
  rfl

theorem stageRequests_ne_nil {stage : Nat} (inside : stage < estimator.stages.length) :
    estimator.stageRequests stage ≠ [] := by
  simpa [stageRequests, inside] using estimator.nonempty_stages _ (getElem_mem inside)

theorem startStages_spec (batch : Nat) (requests : List EstimatorIndex)
    (within : first ≤ estimator.stages.length) :
    ∃ last, first ≤ last ∧ last ≤ estimator.stages.length ∧
      estimator.startStages batch first requests =
        (last, requests ++ estimator.requestsOf first last) ∧
      (first < estimator.stages.length → requests.length < batch → first < last) ∧
      ∀ stage, first ≤ stage → stage < last →
        requests.length + (estimator.requestsOf first stage).length < batch := by
  fun_induction estimator.startStages batch first requests with
  | case1 first requests more ih =>
    obtain ⟨last, after, inside, result, -, each⟩ := ih more.1
    refine ⟨last, Nat.le_of_lt after, inside, ?_, fun _ _ => after, ?_⟩
    · rw [result, requestsOf_of_lt after, append_assoc]
    · intro stage notBefore before
      obtain rfl | later := Nat.eq_or_lt_of_le notBefore
      · simpa [requestsOf] using more.2
      · rw [requestsOf_of_lt later, length_append, ← Nat.add_assoc, ← length_append]
        exact each stage later before
  | case2 first requests enough =>
    refine ⟨first, Nat.le_refl _, within, by simp [requestsOf], ?_, ?_⟩
    · intro inside few
      exact absurd ⟨inside, few⟩ enough
    · intro stage notBefore before
      exact absurd before (Nat.not_lt.mpr notBefore)

/-! ## Runs -/

variable (estimator usable answer)

/-- Results and pending requests are together those of the started stages. -/
structure Tracks (state : Production R) : Prop where
  distinct : (state.results.map (·.1) ++ state.requests).Nodup
  started : ∀ index, index ∈ state.results.map (·.1) ++ state.requests ↔
    index ∈ estimator.requestsOf 0 state.stageIndex
  answered : ∀ result ∈ state.results, result.2 = answer result.1
  within : state.stageIndex ≤ estimator.stages.length

structure Settled (state : Production R) : Prop extends Tracks estimator answer state where
  stopped : state.returned → estimator.missingResults usable state.results = 0 ∨
    state.requests = [] ∧ state.stageIndex = estimator.stages.length
  waiting : ¬ state.returned → state.requests ≠ [] ∧
    0 < estimator.missingResults usable state.results

/-- No stage is started without need. -/
def StartsNeeded (first : Nat) (state : Production R) : Prop :=
  ∀ stage, first ≤ stage → stage < state.stageIndex →
    state.results.countP (usable ·.2) + (estimator.requestsOf first stage).length <
      estimator.usableResultsForEarlyReturn

variable {estimator usable answer} {state : Production R}

theorem Tracks.mem_requestsOf (tracks : Tracks estimator answer state)
    (started : index ∈ state.results.map (·.1) ++ state.requests) :
    index ∈ estimator.requestsOf 0 estimator.stages.length := by
  obtain ⟨⟨-, before⟩, inside⟩ := mem_requestsOf_iff.mp ((tracks.started index).mp started)
  exact mem_requestsOf_iff.mpr ⟨⟨Nat.zero_le _, Nat.lt_of_lt_of_le before tracks.within⟩, inside⟩

theorem startBatch_spec (tracks : Tracks estimator answer state)
    (idle : state.requests = []) (running : ¬ state.returned)
    (missing : 0 < estimator.missingResults usable state.results) :
    let next := estimator.startBatch usable state
    Settled estimator usable answer next ∧ next.results = state.results ∧
      StartsNeeded estimator usable state.stageIndex next := by
  obtain ⟨distinct, started, answered, within⟩ := tracks
  simp only [idle, append_nil] at distinct started
  rw [startBatch]
  split
  · rename_i more
    obtain ⟨last, after, inside, result, progress, each⟩ :=
      startStages_spec (estimator.missingResults usable state.results) [] within
    rw [result]
    refine ⟨⟨⟨?_, ?_, answered, inside⟩, fun returned => absurd returned running,
      fun _ => ⟨?_, missing⟩⟩, rfl, ?_⟩
    · refine distinct.append (nodup_requestsOf _ _) fun index answered requested => ?_
      have before := (mem_requestsOf_iff.mp ((started index).mp answered)).1.2
      exact absurd before (Nat.not_lt.mpr (mem_requestsOf_iff.mp requested).1.1)
    · intro index
      rw [mem_append, started, nil_append]
      simp only [mem_requestsOf_iff]
      omega
    · rw [requestsOf_of_lt (progress more missing)]
      exact append_ne_nil_of_left_ne_nil (stageRequests_ne_nil more) _
    · intro stage notBefore before
      have few := each stage notBefore before
      simp only [missingResults] at few
      dsimp only
      omega
  · rename_i all
    have last := Nat.le_antisymm within (Nat.not_lt.mp all)
    refine ⟨⟨⟨?_, ?_, answered, within⟩, fun _ => .inr ⟨idle, last⟩, nofun⟩, rfl, ?_⟩
    · simpa [idle] using distinct
    · simpa [idle] using started
    · intro stage notBefore before
      exact absurd before (Nat.not_lt.mpr notBefore)

/-- One step takes one result, and starts stages only while more requests are needed. -/
theorem produceResults_spec (position : Nat) (settled : Settled estimator usable answer state) :
    let next := estimator.produceResults usable answer state position
    Settled estimator usable answer next ∧
      (state.returned ∨ next.results.length = state.results.length + 1) ∧
      StartsNeeded estimator usable state.stageIndex next := by
  have unchanged : ∀ next, next.stageIndex = state.stageIndex →
      StartsNeeded estimator usable state.stageIndex next := by
    intro next same stage notBefore before
    omega
  rw [produceResults]
  split
  · rename_i returned
    exact ⟨settled, .inl returned, unchanged _ rfl⟩
  rename_i running
  have inside : position % state.requests.length < state.requests.length :=
    Nat.mod_lt _ (length_pos_iff.mpr (settled.waiting running).1)
  have pending := getElem_mem inside
  rw [List.getElem?_eq_getElem inside]
  generalize state.requests[position % state.requests.length] = index at pending
  have permutation : (state.results.map (·.1) ++ index :: state.requests.erase index).Perm
      (state.results.map (·.1) ++ state.requests) :=
    (perm_cons_erase pending).symm.append_left _
  have taken : Tracks estimator answer { state with
      results := state.results ++ [(index, answer index)]
      requests := state.requests.erase index } := by
    refine ⟨?_, ?_, ?_, settled.within⟩
    · simpa using permutation.nodup_iff.mpr settled.distinct
    · intro other
      rw [← settled.started, ← permutation.mem_iff]
      simp
    · intro result mem
      rcases mem_append.mp mem with earlier | last
      · exact settled.answered result earlier
      · rw [mem_singleton.mp last]
  dsimp only
  split
  · rename_i enough
    exact ⟨⟨⟨taken.distinct, taken.started, taken.answered, taken.within⟩,
      fun _ => .inl enough, nofun⟩, .inr (by simp), unchanged _ rfl⟩
  rename_i missing
  split
  · rename_i all
    obtain ⟨next, same, starts⟩ := startBatch_spec taken all running (Nat.pos_of_ne_zero missing)
    exact ⟨next, .inr (by rw [same]; simp), starts⟩
  · rename_i more
    exact ⟨⟨taken, fun returned => absurd returned running,
      fun _ => ⟨more, Nat.pos_of_ne_zero missing⟩⟩, .inr (by simp), unchanged _ rfl⟩

theorem Settled.returned_iff (settled : Settled estimator usable answer state) : state.returned ↔
      estimator.usableResultsForEarlyReturn ≤ state.results.countP (usable ·.2) ∨
        ∀ index ∈ estimator.requestsOf 0 estimator.stages.length,
          index ∈ state.results.map (·.1) := by
  constructor
  · intro returned
    apply (settled.stopped returned).imp Nat.le_of_sub_eq_zero
    rintro ⟨idle, all⟩ index mem
    simpa [idle] using (settled.started index).mpr (all ▸ mem)
  · intro enough
    by_contra running
    obtain ⟨some, missing⟩ := settled.waiting running
    rcases enough with enough | all
    · exact absurd enough (Nat.not_le.mpr (Nat.lt_of_sub_pos missing))
    · obtain ⟨index, pending⟩ := exists_mem_of_ne_nil _ some
      have listed := all index (settled.mem_requestsOf (mem_append_right _ pending))
      exact (nodup_append.mp settled.distinct).2.2 index listed index pending rfl

variable (estimator usable answer) in
/-- In whichever order the requests complete: the loop ends, at most one result is taken
from every started estimator, the loop goes on exactly until there are enough results or
all of them, and a stage is started only while more requests are needed. -/
theorem produceResults_returns_early (positions : Nat → Nat) :
    let state := Schedule.state (estimator.produceResults usable answer)
      (estimator.startBatch usable {}) positions
    (∃ time, (state time).returned) ∧ StartsNeeded estimator usable 0 (state 0) ∧
    ∀ time, ((state time).results.map (·.1)).Nodup ∧
      (∀ result ∈ (state time).results, result.2 = answer result.1 ∧
        result.1 ∈ estimator.requestsOf 0 (state time).stageIndex) ∧
      ((state time).returned ↔ estimator.usableResultsForEarlyReturn ≤
          (state time).results.countP (usable ·.2) ∨
        ∀ index ∈ estimator.requestsOf 0 estimator.stages.length,
          index ∈ (state time).results.map (·.1)) ∧
      StartsNeeded estimator usable (state time).stageIndex (state (time + 1)) := by
  intro state
  have none : Tracks estimator answer {} := ⟨by simp, by simp [requestsOf], by simp, Nat.zero_le _⟩
  obtain ⟨first, -, starts⟩ := startBatch_spec none rfl nofun
    (by simpa [missingResults] using estimator.positive)
  have settled : ∀ time, Settled estimator usable answer (state time) :=
    Schedule.state_of_preserved _ first fun _ position settled =>
      (produceResults_spec position settled).1
  refine ⟨?_, starts, fun time => ⟨?_, ?_, (settled time).returned_iff, ?_⟩⟩
  · by_contra running
    have counts : ∀ time, time ≤ (state time).results.length := by
      intro time
      induction time with
      | zero => exact Nat.zero_le _
      | succ time ih =>
        obtain ⟨-, returned | taken, -⟩ := produceResults_spec (positions time) (settled time)
        · exact absurd ⟨time, returned⟩ running
        · exact Nat.le_trans (Nat.succ_le_succ ih) (Nat.le_of_eq taken.symm)
    generalize total : (estimator.requestsOf 0 estimator.stages.length).length = limit
    have bounded := (subperm_of_subset (settled (limit + 1)).distinct.of_append_left
      fun _ listed => (settled _).mem_requestsOf (mem_append_left _ listed)).length_le
    rw [length_map, total] at bounded
    exact Nat.not_succ_le_self _ (Nat.le_trans (counts _) bounded)
  · exact (settled time).distinct.of_append_left
  · intro result mem
    refine ⟨(settled time).answered result mem, ((settled time).started _).mp ?_⟩
    exact mem_append_left _ (mem_map_of_mem mem)
  · exact (produceResults_spec (positions time) (settled time)).2.2

/-- Two of three estimators are asked first, and one of the answers is no use. -/
theorem produceResults_returns_early_twoStages :
    ∃ estimator, new [[(), ()], [()]] = .ok estimator ∧
      let state := Schedule.state ((estimator.withEarlyReturn 2 (by decide)).produceResults id
          fun index => index.index = 0)
        ((estimator.withEarlyReturn 2 (by decide)).startBatch id {}) fun _ => 0
      (∃ time, (state time).returned) ∧ (state 2).stageIndex = 2 ∧
        (state 3).results = [(⟨0, 0⟩, true), (⟨0, 1⟩, false), (⟨1, 0⟩, true)] := by
  refine ⟨_, rfl, ?_⟩
  intro state
  exact ⟨(produceResults_returns_early _ id _ _).1, by decide +kernel, by decide +kernel⟩

end CompetitionEstimator

end MandateSolver.PriceEstimation
