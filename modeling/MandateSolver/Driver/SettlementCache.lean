import MandateSolver.Driver.Solution
import MandateSolver.Foundation.Deque
import MandateSolver.Foundation.Runs

/-!
# Cached settlements

The most recent settlement is meant to be at the front of the cache, so that the one at the
back is the one to drop.  A history numbers the settlements in the order in which they were
stored.
-/

namespace MandateSolver.Driver

open List

/-- The calldata is what a settlement reveals, with and without the
interactions that the settlement contract's own buffers can replace. -/
structure Settlement where
  auctionId : Int
  solution : Id
  (internalized uninternalized : List UInt8)
  deriving DecidableEq

namespace SettlementCache

/-! ## Operations -/

def maxSolutionStorage : Nat := 5

section

variable {α : Type} (settlement : α → Settlement)

def hasIds (auctionId : Int) (solutionId : Nat) (item : α) : Bool :=
  (settlement item).solution.id = solutionId && (settlement item).auctionId = auctionId

def store (item : α) (cache : List α) : List α :=
  Deque.pushFront maxSolutionStorage item cache

section

variable (auctionId : Int) (solutionId : Nat) (cache : List α)

/-- Where the settlement is found. -/
def position : Option Nat :=
  cache.findIdx? (hasIds settlement auctionId solutionId)

def remove : Option (α × List α) :=
  (position settlement auctionId solutionId cache).bind (Deque.swapRemoveFront cache)

def afterSettle : List α :=
  match remove settlement auctionId solutionId cache with
  | some (_, rest) => rest
  | none => cache

end

def retainOthers (solutionId : Nat) (cache : List α) : List α :=
  cache.filter fun item => (settlement item).solution.id ≠ solutionId

end

/-- What changes the cache. -/
inductive Operation where
  | solve (settlement : Settlement)
  | settle (auctionId : Int) (solutionId : Nat)
  | void (solutionId : Nat)

def step (cache : List Settlement) : Operation → List Settlement
  | .solve settlement => store settlement cache
  | .settle auctionId solutionId => afterSettle id auctionId solutionId cache
  | .void solutionId => retainOthers id solutionId cache

/-! ## Histories -/

/-- The cache with the numbers of its insertions. -/
structure History where
  inserted : Nat
  cached : List (Nat × Settlement)

namespace History

def empty : History := ⟨0, []⟩

section

variable (history : History)

def step : Operation → History
  | .solve settlement =>
    ⟨history.inserted + 1, store (history.inserted, settlement) history.cached⟩
  | .settle auctionId solutionId =>
    { history with
      cached := afterSettle Prod.snd auctionId solutionId history.cached }
  | .void solutionId =>
    { history with cached := retainOthers Prod.snd solutionId history.cached }

def settlements : List Settlement :=
  history.cached.map Prod.snd

/-- By the number of the insertion. -/
def MostRecentFirst : Prop :=
  history.cached.Pairwise fun newer older => older.1 < newer.1

/-- What an operation that stores a settlement evicts is older than five
settlements that stay. -/
def EvictsOnlyOld (operation : Operation) : Prop :=
  ∀ settlement, operation = .solve settlement →
    ∀ evicted ∈ history.cached, evicted ∉ (history.step operation).cached →
      maxSolutionStorage ≤ ((history.step operation).cached.filter
        fun item => evicted.1 < item.1).length

end

end History

/-- Settled solutions are among the first two of the cache. -/
def SettlesNearFront (cache : List Settlement) (operation : Operation) : Prop :=
  ∀ auctionId solutionId, operation = .settle auctionId solutionId →
    ∀ index, position id auctionId solutionId cache = some index → index ≤ 1

/-! ## One operation -/

section

variable {α : Type} {settlement : α → Settlement} {auctionId : Int}
  {solutionId index : Nat} {cache rest : List α} {removed : α}

theorem remove_eq_some_iff : remove settlement auctionId solutionId cache = some (removed, rest) ↔
      ∃ index, position settlement auctionId solutionId cache = some index ∧
        Deque.swapRemoveFront cache index = some (removed, rest) :=
  Option.bind_eq_some_iff

section

variable (found : remove settlement auctionId solutionId cache = some (removed, rest))
include found

theorem remove_perm : cache.Perm (removed :: rest) := by
  obtain ⟨_, -, swapped⟩ := remove_eq_some_iff.mp found
  exact Deque.swapRemoveFront_perm swapped

theorem remove_id : (settlement removed).solution.id = solutionId := by
  obtain ⟨_, atIndex, swapped⟩ := remove_eq_some_iff.mp found
  obtain ⟨inside, matching, -⟩ := List.findIdx?_eq_some_iff_getElem.mp atIndex
  have same := Deque.swapRemoveFront_getElem swapped
  rw [List.getElem?_eq_getElem inside, Option.some.injEq] at same
  simp only [hasIds, same, Bool.and_eq_true, decide_eq_true_eq] at matching
  exact matching.1

end

theorem exists_remove (found : position settlement auctionId solutionId cache = some index) :
    ∃ removed, Deque.swapRemoveFront cache index =
      some (removed, afterSettle settlement auctionId solutionId cache) := by
  obtain ⟨inside, -⟩ := List.findIdx?_eq_some_iff_getElem.mp found
  obtain ⟨⟨removed, _⟩, swapped⟩ := Deque.exists_swapRemoveFront inside
  refine ⟨removed, ?_⟩
  rw [swapped]
  unfold afterSettle
  rw [remove_eq_some_iff.mpr ⟨index, found, swapped⟩]

theorem afterSettle_of_missing (missing : position settlement auctionId solutionId cache = none) :
    afterSettle settlement auctionId solutionId cache = cache := by
  unfold afterSettle remove
  rw [missing]
  rfl

section

variable (settlement : α → Settlement) (auctionId : Int) (solutionId : Nat) (cache : List α)

theorem position_map :
    position id auctionId solutionId (cache.map settlement) =
      position settlement auctionId solutionId cache := by
  unfold position
  rw [List.findIdx?_map]
  rfl

theorem afterSettle_map :
    afterSettle id auctionId solutionId (cache.map settlement) =
      (afterSettle settlement auctionId solutionId cache).map settlement := by
  cases found : position settlement auctionId solutionId cache with
  | none =>
    rw [afterSettle_of_missing found, afterSettle_of_missing ((position_map ..).trans found)]
  | some index =>
    obtain ⟨_, swapped⟩ := exists_remove found
    obtain ⟨_, swappedImage⟩ := exists_remove ((position_map ..).trans found)
    rw [Deque.swapRemoveFront_map, swapped] at swappedImage
    simp only [Option.map_some, Option.some.injEq, Prod.mk.injEq] at swappedImage
    exact swappedImage.2.symm

end

end

namespace History

variable {history : History} {operation : Operation}

theorem settlements_step (history : History) (operation : Operation) :
    (history.step operation).settlements = SettlementCache.step history.settlements operation := by
  cases operation with
  | solve settlement => exact Deque.pushFront_map Prod.snd _ _ _
  | settle auctionId solutionId => exact (afterSettle_map ..).symm
  | void solutionId =>
    exact (filter_map (p := fun item : Settlement => item.solution.id ≠ solutionId)).symm

/-- The order of the cache and the bound of its numbers. -/
structure Ordered (history : History) : Prop where
  mostRecentFirst : history.MostRecentFirst
  numbered : ∀ item ∈ history.cached, item.1 < history.inserted

section

variable (ordered : history.Ordered)
include ordered

theorem Ordered.newest_first (settlement : Settlement) :
    ((history.inserted, settlement) :: history.cached).Pairwise
      fun newer older => older.1 < newer.1 :=
  pairwise_cons.mpr ⟨ordered.numbered, ordered.mostRecentFirst⟩

theorem Ordered.store (settlement : Settlement) : (history.step (.solve settlement)).Ordered where
  mostRecentFirst := (ordered.newest_first settlement).sublist (List.take_sublist _ _)
  numbered := by
    intro item mem
    show item.1 < history.inserted + 1
    rcases mem_cons.mp (mem_of_mem_take mem) with rfl | older
    · exact Nat.lt_succ_self _
    · exact Nat.lt_succ_of_lt (ordered.numbered item older)

theorem Ordered.settle {auctionId : Int} {solutionId : Nat}
    (nearFront : SettlesNearFront history.settlements (.settle auctionId solutionId)) :
    (history.step (.settle auctionId solutionId)).Ordered := by
  cases found : position Prod.snd auctionId solutionId history.cached with
  | none =>
    have unchanged : history.step (.settle auctionId solutionId) = history := by
      show { history with cached := _ } = history
      rw [afterSettle_of_missing found]
    rw [unchanged]
    exact ordered
  | some index =>
    obtain ⟨removed, swapped⟩ := exists_remove found
    have near := nearFront auctionId solutionId rfl index ((position_map ..).trans found)
    refine ⟨?_, ?_⟩
    · exact (Deque.swapRemoveFront_pairwise_iff
        (fun _ _ => Nat.lt_asymm) ordered.mostRecentFirst swapped).mpr near
    · intro _ mem
      apply ordered.numbered
      exact (Deque.swapRemoveFront_perm swapped).mem_iff.mpr (mem_cons_of_mem removed mem)

theorem Ordered.void (solutionId : Nat) : (history.step (.void solutionId)).Ordered where
  mostRecentFirst := ordered.mostRecentFirst.sublist filter_sublist
  numbered := fun item mem =>
    ordered.numbered item (mem_of_mem_filter mem)

theorem Ordered.step (nearFront : SettlesNearFront history.settlements operation) :
    (history.step operation).Ordered := by
  cases operation with
  | solve settlement => exact ordered.store settlement
  | settle auctionId solutionId => exact ordered.settle nearFront
  | void solutionId => exact ordered.void solutionId

theorem Ordered.evictsOnlyOld (operation : Operation) : history.EvictsOnlyOld operation := by
  rintro settlement rfl evicted mem gone
  obtain ⟨full, newer⟩ := Deque.pushFront_dropped
    (ordered.newest_first settlement) (mem_cons_of_mem _ mem) gone
  have allNewer : (history.step (.solve settlement)).cached.filter
      (fun item => evicted.1 < item.1) = (history.step (.solve settlement)).cached := by
    apply filter_eq_self.mpr
    intro item kept
    exact decide_eq_true (newer item kept)
  rw [allNewer]
  exact full.ge

end

theorem settlesNearFront_of_mostRecentFirst (before : history.MostRecentFirst)
    (after : (history.step operation).MostRecentFirst) :
    SettlesNearFront history.settlements operation := by
  rintro _ _ rfl _ found
  obtain ⟨_, swapped⟩ := exists_remove ((position_map ..).symm.trans found)
  exact (Deque.swapRemoveFront_pairwise_iff (fun _ _ => Nat.lt_asymm) before swapped).mp after

end History

/-! ## Whole runs -/

/-- The cache is ordered by age and evicts the oldest settlement throughout a
run exactly if nothing is settled from further back. -/
theorem retains_mostRecent_iff (operations : List Operation) :
    Run.Throughout History.step History.MostRecentFirst History.empty operations ∧
        Run.Along History.step History.EvictsOnlyOld History.empty operations ↔
      Run.Along step SettlesNearFront [] operations := by
  have followed : Run.Along History.step (fun history operation =>
        SettlesNearFront history.settlements operation) History.empty
      operations ↔ Run.Along step SettlesNearFront [] operations :=
    Run.along_map_iff History.settlements_step
  rw [← followed]
  constructor
  · rintro ⟨ordered, -⟩
    exact ordered.along fun _ _ => History.settlesNearFront_of_mostRecentFirst
  · intro nearFront
    have ordered := Run.throughout_of_preserved (fun _ _ => History.Ordered.step)
        ⟨List.Pairwise.nil, by simp [History.empty]⟩ nearFront
    refine ⟨?_, ?_⟩
    · exact ordered.mono fun _ holds => holds.mostRecentFirst
    · exact ordered.along fun _ operation holds _ =>
        holds.evictsOnlyOld operation

/-- A settlement of one solution. -/
def solved (solutionId : Nat) : Settlement :=
  ⟨1, ⟨solutionId, [solutionId]⟩, [], []⟩

/-- Settling the oldest of five settlements moves the newest one to the back,
from where the next but one solution evicts it. -/
theorem retains_oldestSettled : let operations : List Operation :=
      [.solve (solved 0), .solve (solved 1), .solve (solved 2),
        .solve (solved 3), .solve (solved 4), .settle 1 0, .solve (solved 5),
        .solve (solved 6)]
    ¬Run.Throughout History.step History.MostRecentFirst History.empty operations ∧
      ¬Run.Along History.step History.EvictsOnlyOld History.empty
        operations := by
  refine ⟨?_, ?_⟩
  · rintro ⟨-, -, -, -, -, -, settled, -⟩
    revert settled
    unfold History.MostRecentFirst
    decide
  · rintro ⟨-, -, -, -, -, -, -, evicts, -⟩
    have counted := evicts (solved 6) rfl (4, solved 4) (by decide) (by decide)
    revert counted
    decide

end SettlementCache

end MandateSolver.Driver
