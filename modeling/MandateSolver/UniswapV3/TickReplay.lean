import Mathlib.Algebra.BigOperators.Group.List.Basic
import MandateSolver.UniswapV3.EventFetching

/-!
# The ticks of a replayed pool

The liquidity of a pool is the net liquidity of all ticks up to the current one.
Events that are true to this keep it so, whichever way their positions lie.
-/

namespace MandateSolver.UniswapV3

open List EntryMap

namespace PoolState

/-! ## Reading entries that have to be there -/

/-- The map is indexed, which aborts without an entry. -/
def removeZero {ε : Type} (net : EntryMap Int Int) (tick : Int) : Outcome ε (EntryMap Int Int) := do
  let value ← .expect "no entry found for key" (net.get tick)
  return if value = 0 then net.filter (· ≠ tick) else net

def replayPosition {ε : Type} (state : PoolState) (position : Position) (change : Int) :
    Outcome ε PoolState := do
  let net := changeNet (changeNet state.liquidityNet position.tickLower change)
    position.tickUpper (-change)
  let net ← removeZero net position.tickLower
  let net ← removeZero net position.tickUpper
  return { state.changePosition position change with liquidityNet := net }

end PoolState

def PoolInfo.replay {ε : Type} (pool : PoolInfo) (event : PoolEvent) : Outcome ε PoolInfo :=
  match event with
  | .burn position amount => do
    return { pool with state := ← pool.state.replayPosition position (-amount) }
  | .mint position amount => do
    return { pool with state := ← pool.state.replayPosition position amount }
  | .swap _ _ _ | .other => .ok (pool.apply event)

def replayEvent {ε : Type} (pools : Pools) (event : WithAddress) : Outcome ε Pools :=
  match pools.get event.address with
  | some pool => do return pools.insert event.address (← pool.replay event.inner)
  | none => .ok pools

/-- All events in order. -/
def replay {ε : Type} (pools : Pools) (events : List WithAddress) : Outcome ε Pools :=
  events.foldlM replayEvent pools

/-! ## Sums over ticks -/

variable {position : Position} {state : PoolState}

namespace PoolState

/-- The net liquidity of the ticks that count, together. -/
def netOver (net : EntryMap Int Int) (counts : Int → Bool) : Int :=
  (net.entries.map fun entry => if counts entry.1 then entry.2 else 0).sum

variable {ε : Type} {net : EntryMap Int Int} {counts : Int → Bool} {tick other change : Int}

theorem sum_upsert (counts : Int → Bool) (tick value : Int) (entries : List (Int × Int)) :
    ((upsert tick (fun _ => value) entries).map
      fun entry => if counts entry.1 then entry.2 else 0).sum =
    (entries.map fun entry => if counts entry.1 then entry.2 else 0).sum +
      if counts tick then value - (entries.lookup tick).getD 0 else 0 := by
  induction entries with
  | nil => simp [upsert]
  | cons entry entries ih =>
    obtain ⟨first, _⟩ := entry
    by_cases same : first = tick
    · subst same
      simp only [upsert, if_true, map_cons, sum_cons, lookup_cons_self, Option.getD_some]
      split <;> omega
    · have ne : (tick == first) = false := by simpa using Ne.symm same
      simp only [upsert, if_neg same, map_cons, sum_cons, lookup_cons, ne]
      omega

theorem netOver_changeNet : netOver (changeNet net tick change) counts =
    netOver net counts + if counts tick then change else 0 := by
  have changed := sum_upsert counts tick ((net.get tick).getD 0 + change) net.entries
  rw [show net.entries.lookup tick = net.get tick from rfl, add_sub_cancel_left] at changed
  exact changed

theorem netOver_dropZero : netOver (dropZero net tick) counts = netOver net counts := by
  unfold dropZero
  split
  · rename_i zero
    have removed : ∀ entry ∈ net.entries, entry.1 = tick → entry.2 = 0 := by
      rintro ⟨_, value⟩ listed rfl
      exact Option.some.inj ((get_eq_some_iff.mpr listed).symm.trans zero)
    rw [netOver, netOver, EntryMap.filter]
    dsimp only
    generalize net.entries = entries at removed ⊢
    induction entries with
    | nil => rfl
    | cons entry entries ih =>
      obtain ⟨first, rest⟩ := forall_mem_cons.mp removed
      by_cases same : entry.1 = tick <;> simpa [same, first] using ih rest
  · rfl

theorem get_dropZero_of_ne (distinct : other ≠ tick) :
    (dropZero net tick).get other = net.get other := by
  unfold dropZero
  split
  · exact get_filter (decide_eq_true distinct)
  · rfl

theorem get_dropZero_self : (dropZero net tick).get tick ≠ some 0 := by
  unfold dropZero
  split
  · intro found
    have kept := (mem_filter.mp (get_eq_some_iff.mp found)).2
    simp at kept
  · assumption

theorem removeZero_eq (present : (net.get tick).isSome) :
    removeZero net tick = (.ok (dropZero net tick) : Outcome ε (EntryMap Int Int)) := by
  obtain ⟨_, found⟩ := Option.isSome_iff_exists.mp present
  rw [removeZero, dropZero, found]
  simp only [Outcome.expect_some, Option.some.injEq]
  rfl

/-! ## A changed position -/

theorem netOver_changePosition :
    netOver (state.changePosition position change).liquidityNet counts =
      netOver state.liquidityNet counts + (if counts position.tickLower then change else 0) -
        if counts position.tickUpper then change else 0 := by
  rw [changePosition, netOver_dropZero, netOver_dropZero, netOver_changeNet, netOver_changeNet]
  split <;> split <;> omega

theorem nonzero_changePosition (nonzero : ∀ tick, state.liquidityNet.get tick ≠ some 0)
    (tick : Int) : (state.changePosition position change).liquidityNet.get tick ≠ some 0 := by
  rw [changePosition]
  by_cases upper : tick = position.tickUpper
  · exact upper ▸ get_dropZero_self
  rw [get_dropZero_of_ne upper]
  by_cases lower : tick = position.tickLower
  · exact lower ▸ get_dropZero_self
  rw [get_dropZero_of_ne lower, changeNet, get_insert_of_ne upper, changeNet,
    get_insert_of_ne lower]
  exact nonzero tick

/-- The two ticks of a position differ, so the entry of neither is gone when it is read. -/
theorem replayPosition_eq : state.replayPosition position change =
    (.ok (state.changePosition position change) : Outcome ε PoolState) := by
  have distinct := position.ordered.ne
  rw [replayPosition, removeZero_eq, Outcome.ok_bind, removeZero_eq]
  · rfl
  · rw [get_dropZero_of_ne distinct.symm, changeNet, get_insert_self]
    rfl
  · rw [changeNet, get_insert_of_ne distinct, changeNet, get_insert_self]
    rfl

end PoolState

theorem PoolInfo.replay_eq {ε : Type} (pool : PoolInfo) (event : PoolEvent) :
    pool.replay event = (.ok (pool.apply event) : Outcome ε PoolInfo) := by
  cases event with
  | burn position amount | mint position amount =>
    rw [PoolInfo.replay, PoolState.replayPosition_eq]
    rfl
  | swap tick liquidity sqrtPriceX96 | other => rfl

/-- No event aborts the replay. -/
theorem replay_eq {ε : Type} (pools : Pools) (events : List WithAddress) :
    replay pools events = (.ok (appendEvents pools events) : Outcome ε Pools) := by
  have each : replayEvent = fun pools event =>
      (pure (appendEvent pools event) : Outcome ε Pools) := by
    funext pools event
    rw [replayEvent, appendEvent]
    cases pools.get event.address with
    | none => rfl
    | some pool =>
      simp only [PoolInfo.replay_eq]
      rfl
  rw [replay, each, foldlM_pure]
  rfl

/-! ## Consistent ticks -/

/-- The lower end belongs to a position. -/
abbrev Position.Includes (position : Position) (tick : Int) : Prop :=
  position.tickLower ≤ tick ∧ tick < position.tickUpper

namespace PoolState

/-- The liquidity is that of the ticks up to the current one, and no entry is zero. -/
structure TicksConsistent (state : PoolState) : Prop where
  liquidity : (state.liquidity.toNat : Int) = netOver state.liquidityNet (· ≤ state.tick)
  nonzero : ∀ tick, state.liquidityNet.get tick ≠ some 0

/-- The pool has the liquidity that is burnt, keeps it below 128 bits, and reports it with
every swap. -/
def Allows (state : PoolState) : PoolEvent → Prop
  | .burn position amount => position.Includes state.tick → amount ≤ state.liquidity.toNat
  | .mint position amount =>
    position.Includes state.tick → state.liquidity.toNat + amount < 2 ^ 128
  | .swap tick liquidity _ =>
    liquidity < 2 ^ 128 ∧ (liquidity : Int) = netOver state.liquidityNet (· ≤ tick)
  | .other => True

/-- The liquidity after an event, as an unbounded number. -/
def exactLiquidity (state : PoolState) : PoolEvent → Int
  | .burn position amount =>
    state.liquidity.toNat + if position.Includes state.tick then -(amount : Int) else 0
  | .mint position amount =>
    state.liquidity.toNat + if position.Includes state.tick then (amount : Int) else 0
  | .swap _ liquidity _ => liquidity
  | .other => state.liquidity.toNat

theorem toNat_add_ofInt {liquidity : U256} {change : Int}
    (nonneg : 0 ≤ liquidity.toNat + change) (fits : liquidity.toNat + change < 2 ^ 256) :
    ((liquidity + BitVec.ofInt 256 change).toNat : Int) = liquidity.toNat + change := by
  rw [BitVec.toNat_add, BitVec.toNat_ofInt]
  omega

variable {change : Int}

theorem TicksConsistent.changePosition (consistent : state.TicksConsistent)
    (position : Position) (change : Int) (fits : position.Includes state.tick →
      0 ≤ state.liquidity.toNat + change ∧ state.liquidity.toNat + change < 2 ^ 256) :
    ((state.changePosition position change).liquidity.toNat : Int) =
        state.liquidity.toNat + (if position.Includes state.tick then change else 0) ∧
      (state.changePosition position change).TicksConsistent := by
  have exact : ((state.changePosition position change).liquidity.toNat : Int) =
      state.liquidity.toNat + if position.Includes state.tick then change else 0 := by
    simp only [PoolState.changePosition, decide_eq_true_eq]
    split
    · rename_i inside
      exact toNat_add_ofInt (fits inside).1 (fits inside).2
    · exact (Int.add_zero _).symm
  refine ⟨exact, ?_, nonzero_changePosition consistent.nonzero⟩
  have ordered := position.ordered
  rw [exact, netOver_changePosition, consistent.liquidity]
  simp only [decide_eq_true_eq, PoolState.changePosition]
  split <;> split <;> split <;> omega

end PoolState

namespace PoolInfo

/-- An event that is true to the ticks keeps them, and nothing wraps around. -/
theorem apply_consistent {pool : PoolInfo} {event : PoolEvent}
    (consistent : pool.state.TicksConsistent) (allowed : pool.state.Allows event) :
    ((pool.apply event).state.liquidity.toNat : Int) = pool.state.exactLiquidity event ∧
      (pool.apply event).state.TicksConsistent := by
  cases event with
  | burn position amount =>
    apply consistent.changePosition position (-amount)
    intro inside
    have enough := allowed inside
    omega
  | mint position amount =>
    apply consistent.changePosition position amount
    intro inside
    have fits := allowed inside
    omega
  | swap tick liquidity sqrtPriceX96 =>
    obtain ⟨fits, reported⟩ := allowed
    have exact : ((BitVec.ofNat 256 liquidity).toNat : Int) = liquidity := by
      rw [BitVec.toNat_ofNat]
      omega
    exact ⟨exact, exact.trans reported, consistent.nonzero⟩
  | other => exact ⟨rfl, consistent⟩

theorem netOver_apply (pool : PoolInfo) (event : PoolEvent) :
    PoolState.netOver (pool.apply event).state.liquidityNet (fun _ => true) =
      PoolState.netOver pool.state.liquidityNet fun _ => true := by
  cases event with
  | burn position amount | mint position amount =>
    refine PoolState.netOver_changePosition.trans ?_
    simp
  | swap tick liquidity sqrtPriceX96 | other => rfl

end PoolInfo

/-- The events of one pool. -/
def eventsOf (address : Address) (events : List WithAddress) : List PoolEvent :=
  (events.filter (·.address = address)).map (·.inner)

theorem PoolInfo.applyAll_eq (address : Address) (pool : PoolInfo) (events : List WithAddress) :
    pool.applyAll address events = (eventsOf address events).foldl PoolInfo.apply pool := by
  rw [eventsOf, foldl_map, foldl_filter, applyAll]
  simp only [decide_eq_true_eq]

/-- A replay never aborts, and keeps the ticks of a pool consistent when its events are
true to them.  No other pool is touched. -/
theorem appendEvents_keeps_ticks (pools : Pools) (events : List WithAddress)
    {address : Address} {pool : PoolInfo} (found : pools.get address = some pool)
    (consistent : pool.state.TicksConsistent)
    (allowed : Run.Along PoolInfo.apply (fun pool event => pool.state.Allows event) pool
      (eventsOf address events)) :
    replay pools events = (.ok (appendEvents pools events) : Outcome Unit Pools) ∧
    (∃ after, (appendEvents pools events).get address = some after ∧ after.state.TicksConsistent ∧
      PoolState.netOver after.state.liquidityNet (fun _ => true) =
        PoolState.netOver pool.state.liquidityNet fun _ => true) ∧
    Run.Along PoolInfo.apply (fun pool event =>
      ((pool.apply event).state.liquidity.toNat : Int) = pool.state.exactLiquidity event)
      pool (eventsOf address events) ∧
    ∀ other, (∀ event ∈ events, event.address ≠ other) →
      (appendEvents pools events).get other = pools.get other := by
  refine ⟨replay_eq pools events, ?_, ?_, ?_⟩
  · rw [get_appendEvents, found, Option.map_some, PoolInfo.applyAll_eq]
    refine ⟨_, rfl, Run.foldl_of_preserved (fun after => after.state.TicksConsistent ∧
      PoolState.netOver after.state.liquidityNet (fun _ => true) =
        PoolState.netOver pool.state.liquidityNet fun _ => true) ?_ ⟨consistent, rfl⟩ allowed⟩
    intro before event kept allowed
    exact ⟨(PoolInfo.apply_consistent kept.1 allowed).2, (before.netOver_apply event).trans kept.2⟩
  · exact Run.along_of_preserved (·.state.TicksConsistent)
      (fun _ _ consistent allowed => (PoolInfo.apply_consistent consistent allowed).2)
      consistent allowed
      (fun _ _ consistent allowed => (PoolInfo.apply_consistent consistent allowed).1)
  · intro other untouched
    have none : eventsOf other events = [] := by
      simpa [eventsOf] using untouched
    simp only [get_appendEvents, PoolInfo.applyAll_eq, none, foldl_nil, Option.map_id']

/-- A pool with one position of five units. -/
def onePosition : PoolInfo where
  address := 1
  tokens := []
  state := ⟨0, 5, 3, EntryMap.collect [(0, 5), (10, -5)], 0⟩
  meanGas := 0

/-- Liquidity is added below tick 5, the price leaves it, and the first position is
taken out. -/
def leavingEvents : List WithAddress :=
  [⟨.mint ⟨0, 5, by decide⟩ 7, 1⟩, ⟨.swap 7 5 0, 1⟩, ⟨.burn ⟨0, 10, by decide⟩ 5, 1⟩]

theorem appendEvents_keeps_onePosition : ∃ after,
    (appendEvents (EntryMap.collect [(1, onePosition)]) leavingEvents).get 1 = some after ∧
      after.state.TicksConsistent := by
  have consistent : onePosition.state.TicksConsistent := by
    refine ⟨by decide, fun tick found => ?_⟩
    have listed := get_eq_some_iff.mp found
    simp [onePosition, EntryMap.collect, EntryMap.insert, upsert] at listed
  have known : (EntryMap.collect [(1, onePosition)] : Pools).get 1 = some onePosition := by decide
  obtain ⟨_, ⟨after, found, kept, _⟩, _⟩ := appendEvents_keeps_ticks _ leavingEvents known
    consistent ⟨fun _ => by decide, ⟨by decide, by decide⟩, fun _ => by decide, trivial⟩
  exact ⟨after, found, kept⟩

end MandateSolver.UniswapV3
