import MandateSolver.UniswapV3.PoolFetching

/-!
# Fetched pools are the pools of a block

A checkpoint is sound when its pools are those of its block and the cache still has every
later event.
-/

namespace MandateSolver.UniswapV3

open EventHandling BlockTree

/-! ## Pools at a block -/

/-- All blocks with their events, and what the subgraph knows of a pool at a
block. -/
structure PoolHistory (Hash : Type) where
  tree : BlockTree Hash
  content : Hash → List LogEvent
  ordered : ∀ hash, (content hash).Pairwise (·.1 < ·.1)
  onChain : Address → Hash → PoolInfo

variable {Hash : Type} {pool : PoolInfo} {history : PoolHistory Hash}

namespace PoolHistory

variable (history)

/-- The pool events of a range. -/
def events (tip : Hash) (start stop : Nat) : List WithAddress :=
  poolEvents history.tree history.content tip start stop

/-- The pool as it was initially, with all its events up to the block applied. -/
def PoolAt (tip : Hash) (block : Nat) (pool : PoolInfo) : Prop :=
  ∃ initial ≤ block, pool =
    (history.onChain pool.address (history.tree.hashAt tip initial)).applyAll
      pool.address (history.events tip (initial + 1) (block + 1))

end PoolHistory

theorem PoolInfo.address_applyAll (address : Address) (pool : PoolInfo)
    (events : List WithAddress) : (pool.applyAll address events).address = pool.address := by
  induction events generalizing pool with
  | nil => rfl
  | cons event events ih =>
    have next := ih (if event.address = address then pool.apply event.inner else pool)
    refine next.trans ?_
    split
    · cases event.inner <;> rfl
    · rfl

section

variable {tip other : Hash} {block later : Nat}

theorem PoolHistory.events_append {start middle stop : Nat} (le : start ≤ middle)
    (le' : middle ≤ stop) :
    history.events tip start middle ++ history.events tip middle stop =
      history.events tip start stop := by
  unfold PoolHistory.events poolEvents
  rw [← List.map_append, recorded_append le le']

theorem PoolHistory.events_congr {start stop : Nat}
    (agree : history.tree.AgreeBelow stop tip other) :
    history.events tip start stop = history.events other start stop :=
  congrArg (List.map _) (recorded_congr agree)

theorem PoolHistory.PoolAt.congr (atBlock : history.PoolAt tip block pool)
    (agree : history.tree.AgreeBelow (block + 1) tip other) : history.PoolAt other block pool := by
  obtain ⟨initial, le, same⟩ := atBlock
  refine ⟨initial, le, ?_⟩
  rw [← agree initial (by omega), ← PoolHistory.events_congr agree]
  exact same

theorem PoolHistory.PoolAt.applyAll (atBlock : history.PoolAt tip block pool) (le : block ≤ later) :
    history.PoolAt tip later
      (pool.applyAll pool.address (history.events tip (block + 1) (later + 1))) := by
  obtain ⟨initial, before, same⟩ := atBlock
  refine ⟨initial, Nat.le_trans before le, ?_⟩
  rw [PoolInfo.address_applyAll,
    ← PoolHistory.events_append (Nat.succ_le_succ before) (Nat.succ_le_succ le),
    PoolInfo.applyAll_append, ← same]

theorem PoolHistory.poolAt_onChain
    (same : pool = history.onChain pool.address (history.tree.hashAt tip block)) :
    history.PoolAt tip block pool := by
  refine ⟨block, le_refl block, ?_⟩
  rw [PoolHistory.events, poolEvents, recorded_eq_nil (le_refl _)]
  exact same

end

/-! ## Stored events -/

section

variable (history)

/-- The event store is right for its head. -/
structure Stored (events : Events Hash) (since : Nat) : Prop where
  indexed : Indexed history.tree history.content since events.handler
    (history.tree.number events.head)
  current : events.upToDate = true →
    Holds history.tree history.content since events.handler.store.events events.head
      (history.tree.number events.head + 1)

/-- The last event update has succeeded, or it has left a handled chain that has
the canonical block and is not due for a replay. -/
def Handled (events : Events Hash) (block : Nat) : Prop :=
  events.upToDate = true ∨ ∃ last, events.handler.lastHandledBlocks.getLast? = some last ∧
      block ≤ last.1 ∧
      history.tree.hashAt last.2 block = history.tree.hashAt events.head block ∧
      history.tree.number events.head - reorgStart last ≤ maxBlocksQueried

variable {history} {events : Events Hash} {since later block bound : Nat}

section

variable (stored : Stored history events since)
include stored

theorem Stored.of_later (le : since ≤ later) : Stored history events later where
  indexed := stored.indexed.of_later le
  current := fun upToDate => (stored.current upToDate).of_later le

theorem Stored.removeEventsOlderThanBlock (le : bound ≤ since) :
    Stored history (events.removeEventsOlderThanBlock bound) since where
  indexed := stored.indexed.drop le
  current := fun upToDate => (stored.current upToDate).drop le

theorem Stored.runMaintenance [DecidableEq Hash] {call : EventHandling.Call Hash}
    (consistent : Consistent history.tree events.handler (history.tree.number events.head) call)
    (roomy : ¬ OverfullFromFirstBlock history.tree events.handler call) :
    Stored history (events.runMaintenance history.tree history.content call) since := by
  have follows := updateEvents_follows stored.indexed consistent roomy
  refine ⟨follows.indexed, ?_⟩
  intro upToDate
  exact follows.upToDate () (of_decide_eq_true upToDate)

end

theorem le_number_of_hashAt_eq {tree : BlockTree Hash} {left right : Hash}
    (known : block ≤ tree.number left) (common : tree.hashAt left block = tree.hashAt right block) :
    block ≤ tree.number right := by
  by_contra beyond
  have number : tree.number (tree.hashAt right block) = block := by
    rw [← common, number_hashAt known]
  have atTip : tree.hashAt right block = right := by
    rw [hashAt, Nat.sub_eq_zero_of_le (by omega)]
    rfl
  rw [atTip] at number
  omega

/-- The events that are read are those up to the block, or up to the head when
the chain is shorter. -/
theorem Stored.getEvents (stored : Stored history events since)
    (handled : Handled history events block) :
    events.cache.getEvents since block = history.events events.head since
        (min block (history.tree.number events.head) + 1) := by
  rcases handled with upToDate | ⟨_, atEnd, le, canonical, near⟩
  · have read := getEvents_ofStore block history.ordered (stored.current upToDate)
    rw [Nat.add_min_add_right] at read
    exact read
  · have complete := stored.indexed.complete_of_near atEnd near
    have known := complete.number ▸ le
    have known' := le_number_of_hashAt_eq known canonical
    have agree := agreeBelow_of_common known known' canonical
    have read := getEvents_ofStore block history.ordered complete.events
    rw [Nat.add_min_add_right, Nat.min_eq_left le] at read
    rw [Nat.min_eq_left known']
    exact read.trans (PoolHistory.events_congr agree)

end

/-! ## Sound pools -/

section

variable (history)

/-- The pools are those of the block, and what happened to them since then can
still be found out. -/
structure Sound (events : Events Hash) (pools : Pools) (block : Nat) : Prop where
  known : block ≤ history.tree.number events.head
  stored : Stored history events (block + 1)
  pools : ∀ address pool, pools.get address = some pool →
    pool.address = address ∧ history.PoolAt events.head block pool

variable {history} {events : Events Hash} {pools : Pools} {block later bound : Nat}
  {checkpoint : PoolsCheckpoint} {answer : List PoolData} {data : PoolData}

section

variable (sound : Sound history events pools block)
include sound

theorem Sound.removeEventsOlderThanBlock (le : bound ≤ block + 1) :
    Sound history (events.removeEventsOlderThanBlock bound) pools block where
  known := sound.known
  stored := sound.stored.removeEventsOlderThanBlock le
  pools := sound.pools

theorem Sound.runMaintenance [DecidableEq Hash] {call : EventHandling.Call Hash}
    (consistent : Consistent history.tree events.handler (history.tree.number events.head) call)
    (roomy : ¬ OverfullFromFirstBlock history.tree events.handler call)
    (agree : history.tree.AgreeBelow (block + 1) events.head call.tip) :
    Sound history (events.runMaintenance history.tree history.content call) pools block where
  known := Nat.le_trans sound.known consistent.notDecreasing
  stored := sound.stored.runMaintenance consistent roomy
  pools := by
    intro address pool found
    obtain ⟨named, atBlock⟩ := sound.pools address pool found
    exact ⟨named, atBlock.congr agree⟩

theorem Sound.get_appendEvents (le : block ≤ later) {address : Address} (found : (appendEvents pools
      (history.events events.head (block + 1) (later + 1))).get address = some pool) :
    pool.address = address ∧ history.PoolAt events.head later pool := by
  rw [UniswapV3.get_appendEvents, Option.map_eq_some_iff] at found
  obtain ⟨old, found, rfl⟩ := found
  obtain ⟨rfl, atBlock⟩ := sound.pools address old found
  exact ⟨PoolInfo.address_applyAll _ _ _, atBlock.applyAll le⟩

end

theorem Sound.moveTo
    (sound : Sound history events checkpoint.pools checkpoint.blockNumber)
    (le : checkpoint.blockNumber ≤ later) (known : later ≤ history.tree.number events.head) :
    let moved := checkpoint.moveTo later
      (history.events events.head (checkpoint.blockNumber + 1) (later + 1))
    Sound history events moved.pools moved.blockNumber where
  known := known
  stored := sound.stored.of_later (Nat.succ_le_succ le)
  pools := fun _ _ found => sound.get_appendEvents le found

theorem Sound.of_get (sound : Sound history events pools block) {part : Pools}
    (inside : ∀ address pool, part.get address = some pool → pools.get address = some pool) :
    Sound history events part block where
  known := sound.known
  stored := sound.stored
  pools := fun address pool found => sound.pools address pool (inside address pool found)

/-- The subgraph answers with the state of the block. -/
def Truthful (history : PoolHistory Hash) (tip : Hash) (block : Nat)
    (pools : List PoolData) : Prop :=
  ∀ pool ∈ pools, ∀ info, PoolInfo.tryFrom pool = some info →
    info = history.onChain pool.id (history.tree.hashAt tip block)

theorem PoolInfo.address_tryFrom
    (success : PoolInfo.tryFrom data = some pool) : pool.address = data.id := by
  unfold PoolInfo.tryFrom at success
  cases ticks : data.ticks with
  | none => simp [ticks] at success
  | some list =>
    simp only [ticks, Option.bind_eq_bind] at success
    split at success
    · cases success
      rfl
    · cases success

theorem Truthful.poolAt {tip : Hash} (truthful : Truthful history tip block answer)
    (mem : data ∈ answer) (success : PoolInfo.tryFrom data = some pool) :
    pool.address = data.id ∧ history.PoolAt tip block pool := by
  have named := PoolInfo.address_tryFrom success
  refine ⟨named, PoolHistory.poolAt_onChain ?_⟩
  rw [named]
  exact truthful data mem pool success

theorem Sound.addPools
    (sound : Sound history events checkpoint.pools checkpoint.blockNumber)
    (truthful : Truthful history events.head checkpoint.blockNumber answer) :
    Sound history events (checkpoint.addPools answer).pools checkpoint.blockNumber := by
  induction answer generalizing checkpoint with
  | nil => exact sound
  | cons data answer ih =>
    unfold PoolsCheckpoint.addPools
    cases converted : PoolInfo.tryFrom data with
    | none => exact sound
    | some info =>
      apply @ih { checkpoint with
        missingPools := checkpoint.missingPools.erase data.id
        pools := checkpoint.pools.insert data.id info }
      · refine ⟨sound.known, sound.stored, ?_⟩
        intro address pool found
        by_cases same : address = data.id
        · subst same
          rw [EntryMap.get_insert_self, Option.some.injEq] at found
          subst found
          exact truthful.poolAt List.mem_cons_self converted
        · rw [EntryMap.get_insert_of_ne same] at found
          exact sound.pools address pool found
      · intro pool mem
        exact truthful pool (List.mem_cons_of_mem data mem)

end

end MandateSolver.UniswapV3
