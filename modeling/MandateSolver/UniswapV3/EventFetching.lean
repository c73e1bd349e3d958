import Mathlib.Data.Rat.Defs
import Mathlib.Data.Prod.Lex
import MandateSolver.Eth
import MandateSolver.Foundation.EntryMap
import MandateSolver.EventHandling.Index
import MandateSolver.Foundation.SortedMap

/-!
# Recent events of Uniswap V3 pools

The store of the event handler is the list of all that was written, sorted by block number
and log index.
-/

namespace MandateSolver.UniswapV3

/-! ## Pools of the subgraph -/

structure Token where
  id : Address
  decimals : Nat
  deriving DecidableEq

/-- The net liquidity at a tick. -/
structure TickData where
  (tickIdx liquidityNet : Int)

/-- A pool as the subgraph has it. -/
structure PoolData where
  id : Address
  (token0 token1 : Token)
  (feeTier liquidity sqrtPrice : U256)
  tick : Int
  ticks : Option (List TickData)

/-- The part that events change. -/
structure PoolState where
  (sqrtPrice liquidity : U256)
  tick : Int
  liquidityNet : EntryMap Int Int
  fee : ℚ
  deriving DecidableEq

/-- A pool as it is returned. -/
structure PoolInfo where
  address : Address
  tokens : List Token
  state : PoolState
  meanGas : U256
  deriving DecidableEq

/-- A pool without ticks or with a fee that is too large is an error. -/
def PoolInfo.tryFrom (pool : PoolData) : Option PoolInfo := do
  let ticks ← pool.ticks
  let nonzero := ticks.filter fun tick => tick.liquidityNet ≠ 0
  if pool.feeTier.toNat < 2 ^ 32 then
    return {
      address := pool.id
      tokens := [pool.token0, pool.token1]
      state := {
        sqrtPrice := pool.sqrtPrice
        liquidity := pool.liquidity
        tick := pool.tick
        liquidityNet := EntryMap.collect
          (nonzero.map fun tick => (tick.tickIdx, tick.liquidityNet))
        fee := pool.feeTier.toNat / 1000000 }
      meanGas := 108163 }
  else none

/-! ## Events of pools -/

/-- The contract has no positions without ticks. -/
structure Position where
  (tickLower tickUpper : Int)
  ordered : tickLower < tickUpper

/-- What changes a pool. -/
inductive PoolEvent where
  | burn (position : Position) (amount : Nat)
  | mint (position : Position) (amount : Nat)
  | swap (tick : Int) (liquidity sqrtPriceX96 : Nat)
  | other

structure WithAddress where
  inner : PoolEvent
  address : Address

namespace PoolState

def changeNet (net : EntryMap Int Int) (tick change : Int) : EntryMap Int Int :=
  net.insert tick (((net.get tick).getD 0) + change)

def dropZero (net : EntryMap Int Int) (tick : Int) : EntryMap Int Int :=
  if net.get tick = some 0 then net.filter (· ≠ tick) else net

section

variable (state : PoolState) (position : Position)

/-- Liquidity is added to a position or taken out of it.  It counts right now if
the position includes the current tick. -/
def changePosition (change : Int) : PoolState :=
  let current : Bool := position.tickLower ≤ state.tick ∧ state.tick < position.tickUpper
  let net := changeNet (changeNet state.liquidityNet position.tickLower change)
    position.tickUpper (-change)
  { state with
    liquidity := if current then state.liquidity + BitVec.ofInt 256 change
      else state.liquidity
    liquidityNet := dropZero (dropZero net position.tickLower) position.tickUpper }

def burn (amount : Nat) : PoolState :=
  state.changePosition position (-amount)

def mint (amount : Nat) : PoolState :=
  state.changePosition position amount

end

def swap (state : PoolState) (tick : Int) (liquidity sqrtPriceX96 : Nat) : PoolState :=
  { state with
    tick
    liquidity := BitVec.ofNat 256 liquidity
    sqrtPrice := BitVec.ofNat 256 sqrtPriceX96 }

end PoolState

def PoolInfo.apply (pool : PoolInfo) (event : PoolEvent) : PoolInfo :=
  match event with
  | .burn position amount => { pool with state := pool.state.burn position amount }
  | .mint position amount => { pool with state := pool.state.mint position amount }
  | .swap tick liquidity sqrtPriceX96 =>
    { pool with state := pool.state.swap tick liquidity sqrtPriceX96 }
  | .other => pool

abbrev Pools := EntryMap Address PoolInfo

def appendEvent (pools : Pools) (event : WithAddress) : Pools :=
  match pools.get event.address with
  | some pool => pools.insert event.address (pool.apply event.inner)
  | none => pools

def appendEvents (pools : Pools) (events : List WithAddress) : Pools :=
  events.foldl appendEvent pools

/-! ## One pool at a time -/

def PoolInfo.applyAll (address : Address) (pool : PoolInfo)
    (events : List WithAddress) : PoolInfo :=
  events.foldl (fun pool event => if event.address = address then pool.apply event.inner else pool)
    pool

theorem PoolInfo.applyAll_append (address : Address) (pool : PoolInfo)
    (first second : List WithAddress) :
    pool.applyAll address (first ++ second) =
      (pool.applyAll address first).applyAll address second :=
  List.foldl_append

theorem get_appendEvent (pools : Pools) (event : WithAddress) (address : Address) :
    (appendEvent pools event).get address = (pools.get address).map fun pool =>
        if event.address = address then pool.apply event.inner else pool := by
  unfold appendEvent
  by_cases same : event.address = address
  · subst same
    cases found : pools.get event.address with
    | none => simp [found]
    | some pool => simp
  · simp only [if_neg same, Option.map_id']
    split
    · rw [EntryMap.get_insert_of_ne (Ne.symm same)]
    · rfl

theorem get_appendEvents (pools : Pools) (events : List WithAddress) (address : Address) :
    (appendEvents pools events).get address =
      (pools.get address).map fun pool => pool.applyAll address events := by
  induction events generalizing pools with
  | nil => simp [appendEvents, PoolInfo.applyAll]
  | cons event events ih =>
    have rest := ih (appendEvent pools event)
    rw [get_appendEvent, Option.map_map] at rest
    exact rest

/-! ## Recent events -/

open EventHandling List

abbrev LogPlace := Nat ×ₗ Nat

def LogPlace.block (place : LogPlace) : Nat := (ofLex place).1

abbrev LogEvent := Nat × WithAddress

def placed (event : Nat × LogEvent) : LogPlace × WithAddress :=
  (toLex (event.1, event.2.1), event.2.2)

abbrev RecentEventsCache := SortedMap LogPlace WithAddress

variable (store : Store LogEvent)

namespace RecentEventsCache

section

variable (cache : RecentEventsCache)

/-- Keeps the events of the block itself. -/
def removeEventsOlderThanBlock (block : Nat) : RecentEventsCache :=
  cache.filter fun place => block ≤ place.block

/-- Removes the events of the block, too. -/
def removeEventsNewerThanBlock (block : Nat) : RecentEventsCache :=
  cache.filter fun place => place.block < block

def getEvents (start stop : Nat) : List WithAddress :=
  (cache.filter fun place => start ≤ place.block ∧ place.block ≤ stop).entries.map Prod.snd

def appendEvents (events : List (Nat × LogEvent)) : RecentEventsCache :=
  cache.insertAll (events.map placed)

def replaceEvents (events : List (Nat × LogEvent)) (range : RangeInclusive) : RecentEventsCache :=
  appendEvents (removeEventsNewerThanBlock cache range.start) events

def lastEventBlock : Option Nat :=
  cache.entries.getLast?.map fun entry => entry.1.block

end

/-! ## The cache as a store of the event handler -/

def ofStore (store : Store LogEvent) : RecentEventsCache :=
  SortedMap.empty.insertAll (store.events.map placed)

theorem filter_ofStore (keep : Nat → Bool) :
    (ofStore store).filter (fun place => keep place.block) =
      ofStore { store with events := store.events.filter fun event => keep event.1 } := by
  unfold ofStore
  rw [SortedMap.filter_insertAll, filter_map]
  rfl

theorem ofStore_appendEvents (events : List (Nat × LogEvent)) :
    ofStore (store.appendEvents events) = appendEvents (ofStore store) events := by
  unfold ofStore appendEvents SortedMap.insertAll
  rw [Store.appendEvents, map_append, foldl_append]

theorem ofStore_replaceEvents (events : List (Nat × LogEvent)) (range : RangeInclusive) :
    ofStore (store.replaceEvents events range) = replaceEvents (ofStore store) events range := by
  unfold replaceEvents removeEventsNewerThanBlock
  rw [filter_ofStore store fun block => block < range.start, ← ofStore_appendEvents]
  rfl

end RecentEventsCache

def pruned (store : Store LogEvent) (block : Nat) : Store LogEvent :=
  { store with events := store.events.filter fun event => block ≤ event.1 }

theorem ofStore_pruned (block : Nat) : RecentEventsCache.ofStore (pruned store block) =
      RecentEventsCache.removeEventsOlderThanBlock (.ofStore store) block :=
  (RecentEventsCache.filter_ofStore store fun number => block ≤ number).symm

/-! ## Events of a chain -/

section

variable {Hash : Type} {tree : BlockTree Hash} {content : Hash → List LogEvent}
  {tip : Hash} {since start stop : Nat}

def poolEvents (tree : BlockTree Hash) (content : Hash → List LogEvent) (tip : Hash)
    (start stop : Nat) : List WithAddress :=
  (tree.recorded content tip start stop).map fun event => event.2.2

theorem pairwise_placed_recorded (ordered : ∀ hash, (content hash).Pairwise (·.1 < ·.1)) :
    ((tree.recorded content tip start stop).map placed).Pairwise (·.1 < ·.1) := by
  rw [pairwise_map]
  unfold BlockTree.recorded
  generalize stop - start = count
  induction count generalizing start with
  | zero => exact List.Pairwise.nil
  | succ count ih =>
    rw [List.range'_succ, flatMap_cons, pairwise_append]
    refine ⟨?_, ih, ?_⟩
    · apply List.Pairwise.map _ _ (ordered (tree.hashAt tip start))
      intro left right before
      exact Prod.Lex.toLex_lt_toLex.mpr (Or.inr ⟨rfl, before⟩)
    · intro left isLeft right isRight
      obtain ⟨_, _, rfl⟩ := mem_map.mp isLeft
      obtain ⟨_, inside, mem⟩ := mem_flatMap.mp isRight
      obtain ⟨_, _, rfl⟩ := mem_map.mp mem
      rw [mem_range'_1] at inside
      exact Prod.Lex.toLex_lt_toLex.mpr (Or.inl (by simp only; omega))

theorem getEvents_ofStore {store : Store LogEvent} (last : Nat)
    (ordered : ∀ hash, (content hash).Pairwise (·.1 < ·.1))
    (holds : Holds tree content since store.events tip stop) :
    RecentEventsCache.getEvents (.ofStore store) since last =
      poolEvents tree content tip since (min (last + 1) stop) := by
  have inRange : (store.events.filter fun event =>
      since ≤ event.1 ∧ event.1 ≤ last).Perm
        (tree.recorded content tip since (min (last + 1) stop)) := by
    have cut := holds.filter (·.1 < last + 1)
    have both : (store.events.filter (since ≤ ·.1)).filter (·.1 < last + 1) =
        store.events.filter fun event => since ≤ event.1 ∧ event.1 ≤ last := by
      rw [filter_filter]
      simp only [Nat.lt_succ_iff, Bool.decide_and, Bool.and_comm]
    rw [both] at cut
    rcases Nat.le_total (last + 1) stop with inside | beyond
    · rw [BlockTree.filter_recorded_below inside] at cut
      rw [Nat.min_eq_left inside]
      exact cut
    · rw [BlockTree.filter_recorded_of_all] at cut
      · rw [Nat.min_eq_right beyond]
        exact cut
      · intro event _ below
        exact decide_eq_true (Nat.lt_of_lt_of_le below beyond)
  unfold RecentEventsCache.getEvents poolEvents
  rw [RecentEventsCache.filter_ofStore store fun block => since ≤ block ∧ block ≤ last,
    RecentEventsCache.ofStore,
    SortedMap.entries_insertAll_of_perm (inRange.map placed) (pairwise_placed_recorded ordered),
    map_map]
  rfl

end

end MandateSolver.UniswapV3
