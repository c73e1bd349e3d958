import MandateSolver.EventHandling.Updates
import MandateSolver.Foundation.Runs

/-!
# The stored events follow the canonical chain

Between updates the stored events are those of the chain of the last handled block.  Where
the store is ahead of it, the next update replays the history from below all that is in
doubt.
-/

namespace MandateSolver.EventHandling

open Outcome List BlockTree

variable {Hash Event : Type} {later : Nat} {tree : BlockTree Hash} {tip : Hash} {last : Nat × Hash}
  {isReorg : Bool} {content : Hash → List Event} {since : Nat} {handler : EventHandler Hash Event}

/-! ## Stored events -/

/-- The events from a block number on are those of a chain up to, not
including, another block number, each of them once. -/
def Holds (tree : BlockTree Hash) (content : Hash → List Event) (since : Nat)
    (events : List (Nat × Event)) (tip : Hash) (stop : Nat) : Prop :=
  (events.filter (since ≤ ·.1)).Perm (tree.recorded content tip since stop)

section

variable {start stop bound : Nat} {events done : List (Nat × Event)} {other : Hash}

theorem Holds.congr (holds : Holds tree content since events tip stop)
    (agree : tree.AgreeBelow stop tip other) : Holds tree content since events other stop := by
  rw [Holds, ← recorded_congr agree]
  exact holds

theorem filter_comm {α : Type} (keep keep' : α → Bool) (items : List α) :
    (items.filter keep).filter keep' = (items.filter keep').filter keep := by
  rw [filter_filter, filter_filter]
  congr 1
  funext item
  exact Bool.and_comm _ _

theorem Holds.cut (holds : Holds tree content since events tip stop) (le : bound ≤ stop) :
    Holds tree content since (events.filter (·.1 < bound)) tip bound := by
  have cut := holds.filter (·.1 < bound)
  rw [filter_recorded_below le, filter_comm] at cut
  exact cut

theorem Holds.append (holds : Holds tree content since events tip start) (le : start ≤ stop) :
    Holds tree content since (events ++ tree.recorded content tip start stop) tip stop := by
  rw [Holds, filter_append]
  apply (holds.append_right _).trans
  rcases Nat.le_total since start with below | above
  · rw [filter_recorded_of_all, recorded_append below le]
    intro _ large _
    exact decide_eq_true (Nat.le_trans below large)
  · rw [recorded_eq_nil above, nil_append, filter_recorded_from above]

theorem filter_replaced_below
    (above : ∀ entry ∈ done, bound ≤ entry.1) (events : List (Nat × Event)) :
    (events.filter (·.1 < bound) ++ done).filter (·.1 < bound) = events.filter (·.1 < bound) := by
  have none : done.filter (·.1 < bound) = [] := by
    apply filter_eq_nil_iff.mpr
    intro entry mem
    have large := above entry mem
    simp only [decide_eq_true_eq, Nat.not_lt]
    exact large
  rw [filter_append, none, append_nil, filter_filter]
  simp only [Bool.and_self]

theorem filter_from_filter_from (le : since ≤ later) :
    (events.filter (since ≤ ·.1)).filter (later ≤ ·.1) = events.filter (later ≤ ·.1) := by
  rw [filter_filter]
  congr 1
  funext event
  by_cases after : later ≤ event.1
  · simp [Nat.le_trans le after]
  · simp [after]

section

variable (holds : Holds tree content since events tip stop)
include holds

theorem Holds.of_later (le : since ≤ later) : Holds tree content later events tip stop := by
  have recent := holds.filter (later ≤ ·.1)
  rw [filter_recorded_from le, filter_from_filter_from le] at recent
  exact recent

theorem Holds.drop (le : bound ≤ since) :
    Holds tree content since (events.filter (bound ≤ ·.1)) tip stop := by
  rw [Holds, filter_from_filter_from le]
  exact holds

end

end

/-! ## The invariant -/

section

variable (tree) (content) (since) (handler)

/-- The stored events, from a block number on, are those of the chain of the
last handled block, and the other handled blocks are on that chain. -/
structure Complete (last : Nat × Hash) :
    Prop where
  atEnd : handler.lastHandledBlocks.getLast? = some last
  number : tree.number last.2 = last.1
  lineage : ∀ block ∈ handler.lastHandledBlocks,
    block.1 ≤ last.1 ∧ tree.hashAt last.2 block.1 = block.2
  events : Holds tree content since handler.store.events last.2 (last.1 + 1)

/-- The store is right up to where a reorg may begin. -/
structure Settled (last : Nat × Hash) :
    Prop where
  atEnd : handler.lastHandledBlocks.getLast? = some last
  number : tree.number last.2 = last.1
  events : Holds tree content since (handler.store.events.filter (·.1 < reorgStart last)) last.2
    (reorgStart last)

/-- The store is complete, or the head was already so far away that the history
has to be replayed. -/
inductive Indexed (head : Nat) : Prop
  | complete (last : Nat × Hash) (holds : Complete tree content since handler last)
  | behind (last : Nat × Hash) (settled : Settled tree content since handler last)
      (far : maxBlocksQueried < head - reorgStart last)

end

section

variable {head : Nat}

theorem reorgStart_le (last : Nat × Hash) : reorgStart last ≤ last.1 :=
  Nat.sub_le _ _

theorem Complete.settled (complete : Complete tree content since handler last) :
    Settled tree content since handler last where
  atEnd := complete.atEnd
  number := complete.number
  events := complete.events.cut (Nat.le_succ_of_le (reorgStart_le last))

section

variable (indexed : Indexed tree content since handler head)
include indexed

theorem Indexed.exists_settled : ∃ last, Settled tree content since handler last := by
  cases indexed with
  | complete last holds => exact ⟨last, holds.settled⟩
  | behind last settled far => exact ⟨last, settled⟩

/-- When no replay is due, the store is complete. -/
theorem Indexed.complete_of_near (atEnd : handler.lastHandledBlocks.getLast? = some last)
    (near : head - reorgStart last ≤ maxBlocksQueried) :
    Complete tree content since handler last := by
  cases indexed with
  | complete other holds =>
    have same := Option.some.inj (atEnd.symm.trans holds.atEnd)
    exact same ▸ holds
  | behind other settled far =>
    have same := Option.some.inj (atEnd.symm.trans settled.atEnd)
    exact absurd near (Nat.not_le_of_lt (same ▸ far))

theorem Indexed.of_later (le : since ≤ later) : Indexed tree content later handler head := by
  cases indexed with
  | complete last holds =>
    exact .complete last { holds with events := holds.events.of_later le }
  | behind last settled far =>
    exact .behind last { settled with events := settled.events.of_later le } far

theorem Indexed.drop {bound : Nat} (le : bound ≤ since) : Indexed tree content since
      { handler with store.events := handler.store.events.filter (bound ≤ ·.1) }
      head := by
  cases indexed with
  | complete last holds =>
    exact .complete last ⟨holds.atEnd, holds.number, holds.lineage, holds.events.drop le⟩
  | behind last settled far =>
    refine .behind last ⟨settled.atEnd, settled.number, ?_⟩ far
    rw [filter_comm]
    exact settled.events.drop le

theorem Indexed.mono (le : head ≤ later) : Indexed tree content since handler later := by
  cases indexed with
  | complete last holds => exact .complete last holds
  | behind last settled far =>
    exact .behind last settled (lt_of_lt_of_le far (Nat.sub_le_sub_right le _))

end

end

/-! ## Handled blocks -/

section

variable {blocks : List (Nat × Hash)} {first block : Nat × Hash}

theorem getLast?_updateLastHandledBlocks (atStart : blocks.head? = some first)
    (atEnd : blocks.getLast? = some last) :
    (handler.updateLastHandledBlocks blocks).lastHandledBlocks.getLast? = some last := by
  have nonempty : 0 < blocks.length := by
    apply length_pos_iff.mpr
    intro empty
    simp [empty] at atStart
  simp only [EventHandler.updateLastHandledBlocks, atStart]
  rw [List.getLast?_drop, if_neg, List.getLast?_append, atEnd, Option.some_or]
  · simp only [length_append, maxReorgBlockCount]
    omega

theorem mem_updateLastHandledBlocks (atStart : blocks.head? = some first) (mem : block ∈
      (handler.updateLastHandledBlocks blocks).lastHandledBlocks) :
    block ∈ handler.lastHandledBlocks ∧ block.1 < first.1 ∨ block ∈ blocks := by
  simp only [EventHandler.updateLastHandledBlocks, atStart] at mem
  rcases mem_append.mp (mem_of_mem_drop mem) with old | new
  · left
    have kept := mem_filter.mp old
    exact ⟨kept.1, of_decide_eq_true kept.2⟩
  · exact .inr new

theorem mem_updateLastHandledBlocks_of_long (long : maxReorgBlockCount ≤ blocks.length)
    (mem : block ∈ (handler.updateLastHandledBlocks blocks).lastHandledBlocks) :
    block ∈ blocks := by
  cases atStart : blocks.head? with
  | none =>
    simp only [List.head?_eq_none_iff] at atStart
    simp [atStart, maxReorgBlockCount] at long
  | some first =>
    simp only [EventHandler.updateLastHandledBlocks, atStart, length_append] at mem
    rw [drop_append, drop_eq_nil_of_le (by omega)] at mem
    exact mem_of_mem_drop mem

end

/-! ## Progress along a chain -/

/-- Events and handled blocks are right below the start of an update. -/
structure Prepared (tree : BlockTree Hash) (content : Hash → List Event)
    (since : Nat) (tip : Hash) (start : Nat)
    (events : List (Nat × Event)) (handled : List (Nat × Hash)) : Prop where
  events : Holds tree content since events tip start
  handled : ∀ block ∈ handled, block.1 < start → tree.hashAt tip block.1 = block.2

section

variable {start final : Nat} {before after : EventHandler Hash Event} {events : List (Nat × Event)}

theorem complete_of_onChain (known : final ≤ tree.number tip)
    (atEnd : after.lastHandledBlocks.getLast? = some (final, tree.hashAt tip final))
    (onChain : ∀ block ∈ after.lastHandledBlocks,
      block.1 ≤ final ∧ tree.hashAt tip block.1 = block.2)
    (stored : Holds tree content since after.store.events tip (final + 1)) :
    Complete tree content since after (final, tree.hashAt tip final) where
  atEnd := atEnd
  number := number_hashAt known
  lineage := by
    intro block mem
    obtain ⟨le, same⟩ := onChain block mem
    exact ⟨le, (hashAt_hashAt le known).trans same⟩
  events := stored.congr (agreeBelow_hashAt known).symm

theorem Prepared.complete (prepared : Prepared tree content since tip start events
      before.lastHandledBlocks) (le : start ≤ final) (known : final ≤ tree.number tip)
    (stored : after.store.events = events ++ tree.recorded content tip start (final + 1))
    (handled : after.lastHandledBlocks = (before.updateLastHandledBlocks
        (tree.blocks tip start (final + 1))).lastHandledBlocks) :
    Complete tree content since after (final, tree.hashAt tip final) := by
  have atStart : (tree.blocks tip start (final + 1)).head? = some (start, tree.hashAt tip start) :=
    BlockTree.head?_blocks (Nat.lt_succ_of_le le)
  apply complete_of_onChain known
  · rw [handled, getLast?_updateLastHandledBlocks atStart (BlockTree.getLast?_blocks le)]
  · intro block mem
    rw [handled] at mem
    rcases mem_updateLastHandledBlocks atStart mem with old | new
    · exact ⟨le_trans old.2.le le, prepared.handled block old.1 old.2⟩
    · have inside := mem_blocks_iff.mp new
      exact ⟨Nat.le_of_lt_succ inside.2.1, inside.2.2⟩
  · rw [stored]
    exact prepared.events.append (Nat.le_succ_of_le le)

end

/-! ## The latest blocks -/

section

variable {start count : Nat} {before : EventHandler Hash Event}
  {result : Outcome Error Unit × EventHandler Hash Event}

/-- An update keeps the invariant, and when it returns without an error the
store holds the events of the whole chain. -/
structure Follows (tree : BlockTree Hash) (content : Hash → List Event) (since : Nat) (tip : Hash)
    (result : Outcome Error Unit × EventHandler Hash Event) : Prop where
  indexed : Indexed tree content since result.2 (tree.number tip)
  upToDate : ∀ value, result.1 = .ok value →
    Holds tree content since result.2.store.events tip (tree.number tip + 1)

theorem Indexed.follows_of_failed {handler : EventHandler Hash Event} {outcome : Outcome Error Unit}
    (indexed : Indexed tree content since handler (tree.number tip))
    (failed : ∀ value, outcome ≠ .ok value) : Follows tree content since tip (outcome, handler) :=
  ⟨indexed, fun value success => absurd success (failed value)⟩

theorem getLast?_notedBlocks_of_full (full : tree.number tip = start + maxParallelRpcCalls) :
    (notedBlocks maxParallelRpcCalls (tree.blocks tip start (tree.number tip + 1))
        (maxParallelRpcCalls + 1)).getLast? =
      some (start, tree.hashAt tip start) := by
  have one : (tree.blocks tip start (tree.number tip + 1)).take 1 =
      [(start, tree.hashAt tip start)] := by
    have count : 1 = start + 1 - start := by omega
    rw [count, take_blocks (by omega) (by omega), blocks_succ]
  rw [notedBlocks_add, notedBlocks_of_le (by decide), one,
    List.getLast?_append, List.getLast?_singleton, Option.some_or]

theorem LatestResult.follows
    (latest : LatestResult tree content tip start (tree.number tip + 1) isReorg before result)
    (indexed : Indexed tree content since before (tree.number tip))
    (prepared : Prepared tree content since tip start
      (keptEvents isReorg start before.store.events) before.lastHandledBlocks)
    (fits : tree.number tip < start + maxParallelRpcCalls ∨
      tree.number tip = start + maxParallelRpcCalls ∧ 0 < start) :
    Follows tree content since tip result := by
  cases latest with
  | unchanged failed same =>
    exact ⟨same ▸ indexed, fun value success => absurd success (failed value)⟩
  | progressed count positive le events handled complete =>
    rcases Nat.lt_or_ge maxParallelRpcCalls count with _ | small
    · -- all requests succeeded, for one block more than fits into a chunk
      have full : tree.number tip = start + maxParallelRpcCalls := by omega
      have all : count = maxParallelRpcCalls + 1 := by omega
      subst all
      have last := getLast?_notedBlocks_of_full full
      have known : start ≤ tree.number tip := by omega
      have final : start + (maxParallelRpcCalls + 1) = tree.number tip + 1 := by omega
      have first : (notedBlocks maxParallelRpcCalls (tree.blocks tip start (tree.number tip + 1))
          (maxParallelRpcCalls + 1)).head? = some (start, tree.hashAt tip start) := by
        rw [head?_notedBlocks positive, BlockTree.head?_blocks (by omega)]
      refine ⟨.behind (start, tree.hashAt tip start) ⟨?_, ?_, ?_⟩ ?_, ?_⟩
      · rw [handled, getLast?_updateLastHandledBlocks first last]
      · exact number_hashAt known
      · have below := reorgStart_le (start, tree.hashAt tip start)
        rw [events]
        apply ((prepared.events.append (by omega)).cut (by omega)).congr
        exact (agreeBelow_hashAt known).symm.mono (Nat.le_succ_of_le below)
      · unfold reorgStart maxBlocksQueried
        unfold maxReorgBlockCount maxParallelRpcCalls at *
        omega
      · intro value success
        have noted := complete value success
        rw [noted, BlockTree.getLast?_blocks known] at last
        have same := congrArg Prod.fst (Option.some.inj last)
        have size : 0 < maxParallelRpcCalls := by decide
        omega
    · have noted : notedBlocks maxParallelRpcCalls
          (tree.blocks tip start (tree.number tip + 1)) count =
            tree.blocks tip start (start + count) := by
        have length : count = start + count - start := by omega
        rw [notedBlocks_of_le small, length, take_blocks (by omega) (by omega), ← length]
      rw [noted] at handled complete
      obtain ⟨final, last⟩ : ∃ final, start + count = final + 1 := ⟨start + count - 1, by omega⟩
      rw [last] at events handled complete
      have holds := prepared.complete (by omega) (by omega) events handled
      refine ⟨.complete _ holds, ?_⟩
      intro value success
      have lengths := congrArg List.length (complete value success)
      rw [length_blocks, length_blocks] at lengths
      have atHead : final = tree.number tip := by omega
      rw [events, atHead]
      exact prepared.events.append (by omega)

end

/-! ## One update -/

section

variable {head start : Nat}

theorem Complete.prepared (complete : Complete tree content since handler last)
    (le : start ≤ last.1 + 1) (agree : tree.AgreeBelow start last.2 tip)
    (keepsAll : isReorg = false → start = last.1 + 1) :
    Prepared tree content since tip start (keptEvents isReorg start handler.store.events)
      handler.lastHandledBlocks where
  events := by
    apply Holds.congr _ agree
    cases isReorg with
    | false =>
      rw [keepsAll rfl]
      exact complete.events
    | true => exact complete.events.cut le
  handled := by
    intro block mem below
    rw [← agree block.1 below]
    exact (complete.lineage block mem).2

section

variable (tree) (handler)

/-- The head does not go back, and no reorg changes what is more than
`maxReorgBlockCount` blocks below the last handled block. -/
structure Consistent (head : Nat) (call : Call Hash) : Prop where
  notDecreasing : head ≤ tree.number call.tip
  notBelow : ∀ last, handler.lastHandledBlocks.getLast? = some last → last.1 ≤ tree.number call.tip
  shallow : ∀ last, handler.lastHandledBlocks.getLast? = some last →
    tree.AgreeBelow (last.1 - maxReorgBlockCount) last.2 call.tip

/-- The update has to start over at block 0 with one block more than fits into
a chunk of requests. -/
def OverfullFromFirstBlock (call : Call Hash) : Prop :=
  tree.number call.tip = maxBlocksQueried ∧
    (∀ last, handler.lastHandledBlocks.getLast? = some last → last.1 ≤ maxReorgBlockCount) ∧
    ∀ block ∈ handler.lastHandledBlocks, tree.hashAt call.tip block.1 ≠ block.2

end

variable [DecidableEq Hash] {call : Call Hash}

theorem eventBlockRange_planned {range : EventRange Hash}
    (atEnd : handler.lastHandledBlocks.getLast? = some last) (number : tree.number last.2 = last.1)
    (known : last.1 ≤ tree.number call.tip)
    (success : handler.eventBlockRange tree call = .ok range) :
    Planned tree call.tip handler.lastHandledBlocks last range := by
  have nonempty : handler.lastHandledBlocks.isEmpty = false := by
    cases blocks : handler.lastHandledBlocks with
    | nil => simp [blocks] at atEnd
    | cons block blocks => rfl
  simp only [EventHandler.eventBlockRange, EventHandler.handledBlocks, nonempty,
    Bool.false_eq_true, if_false, bind_eq_ok_iff, ok.injEq,
    expect_eq_ok_iff] at success
  obtain ⟨_, rfl, _, _, _, atEnd', planned⟩ := success
  obtain rfl := Option.some.inj (atEnd.symm.trans atEnd')
  exact eventRangeAfter_planned atEnd number known planned

theorem replay_complete {range : RangeInclusive} {after : EventHandler Hash Event}
    (kept : Holds tree content since
      (handler.store.events.filter (·.1 < range.start)) tip range.start)
    (known : range.stop ≤ tree.number tip) (same : after =
      ({ handler with store := { handler.store with
        events := handler.store.events.filter (·.1 < range.start) ++
          tree.recorded content tip range.start (range.stop + 1) } } :
        EventHandler Hash Event).updateLastHandledBlocks
          (tree.blocks tip (range.stop - maxReorgBlockCount) (range.stop + 1))) :
    Complete tree content since after (range.stop, tree.hashAt tip range.stop) := by
  have atStart : (tree.blocks tip (range.stop - maxReorgBlockCount)
      (range.stop + 1)).head? = some (range.stop - maxReorgBlockCount,
        tree.hashAt tip (range.stop - maxReorgBlockCount)) :=
    BlockTree.head?_blocks (by omega)
  rw [same]
  apply complete_of_onChain known
  · rw [getLast?_updateLastHandledBlocks atStart (BlockTree.getLast?_blocks (Nat.sub_le _ _))]
  · intro block mem
    have new : block ∈ tree.blocks tip (range.stop - maxReorgBlockCount) (range.stop + 1) := by
      rcases Nat.lt_or_ge range.stop maxReorgBlockCount with _ | _
      · rcases mem_updateLastHandledBlocks atStart mem with old | new
        · have below := old.2
          omega
        · exact new
      · apply mem_updateLastHandledBlocks_of_long _ mem
        rw [length_blocks]
        omega
    have inside := mem_blocks_iff.mp new
    exact ⟨Nat.le_of_lt_succ inside.2.1, inside.2.2⟩
  · simp only [EventHandler.updateLastHandledBlocks, atStart]
    exact kept.append (Nat.le_succ_of_le range.ordered)

theorem updateLatest_follows (isReorg : Bool)
    (indexed : Indexed tree content since handler (tree.number call.tip))
    (complete : Complete tree content since handler last)
    (nonempty : start ≤ tree.number call.tip) (le : start ≤ last.1 + 1)
    (agree : tree.AgreeBelow start last.2 call.tip)
    (keepsAll : isReorg = false → start = last.1 + 1)
    (fits : tree.number call.tip < start + maxParallelRpcCalls ∨
      tree.number call.tip = start + maxParallelRpcCalls ∧ 0 < start) :
    Follows tree content since call.tip (handler.updateLatest tree content call
        (tree.blocks call.tip start (tree.number call.tip + 1)) isReorg) :=
  (updateLatest_result (le_refl _) (Nat.lt_succ_of_le nonempty)).follows indexed
    (complete.prepared le agree keepsAll) fits

section

variable (complete : Complete tree content since handler last)
include complete

section

variable (known : last.1 ≤ tree.number call.tip)
include known

theorem goOn_follows (canonical : tree.hashAt call.tip last.1 = last.2)
    (near : tree.number call.tip - reorgStart last ≤ maxBlocksQueried) :
    Follows tree content since call.tip (handler.updateLatest tree content call
        (tree.blocks call.tip (last.1 + 1) (tree.number call.tip + 1)) false) := by
  have indexed : Indexed tree content since handler (tree.number call.tip) :=
    .complete last complete
  have agree : tree.AgreeBelow (last.1 + 1) last.2 call.tip := by
    apply agreeBelow_of_common complete.number.ge known
    rw [canonical, ← complete.number, hashAt_number]
  rcases Nat.lt_or_ge last.1 (tree.number call.tip) with below | atHead
  · apply updateLatest_follows false indexed complete below (le_refl _) agree (fun _ => rfl)
    unfold reorgStart maxBlocksQueried maxReorgBlockCount at near
    unfold maxParallelRpcCalls
    omega
  · have empty : tree.blocks call.tip (last.1 + 1) (tree.number call.tip + 1) = [] :=
      blocks_eq_nil_iff.mpr (Nat.succ_le_succ atHead)
    have same := le_antisymm known atHead
    rw [empty]
    refine ⟨indexed, fun _ _ => ?_⟩
    rw [← same]
    exact complete.events.congr agree

theorem goBack_follows {block : Nat × Hash} (mem : block ∈ handler.lastHandledBlocks)
    (canonical : tree.hashAt call.tip block.1 = block.2)
    (lost : tree.hashAt call.tip last.1 ≠ last.2)
    (inside : reorgStart last ≤ block.1 ∧ block.1 ≤ tree.number call.tip)
    (near : tree.number call.tip - reorgStart last ≤ maxBlocksQueried) :
    Follows tree content since call.tip (handler.updateLatest tree content call
        (tree.blocks call.tip (block.1 + 1) (tree.number call.tip + 1)) true) := by
  have number := complete.number
  obtain ⟨le, onChain⟩ := complete.lineage block mem
  have below : block.1 < tree.number call.tip := by
    -- otherwise it would be the last handled block
    rcases Nat.lt_or_ge block.1 last.1 with below | atLast
    · omega
    · have same := le_antisymm le atLast
      rw [same, ← number, hashAt_number] at onChain
      rw [same, ← onChain] at canonical
      exact absurd canonical lost
  apply updateLatest_follows true (.complete last complete) complete below (Nat.succ_le_succ le)
  · exact agreeBelow_of_common (by omega) inside.2 (onChain.trans canonical.symm)
  · exact nofun
  · unfold maxBlocksQueried maxReorgBlockCount at near
    unfold maxParallelRpcCalls
    omega

theorem startOver_follows (shallow : tree.AgreeBelow (reorgStart last) last.2 call.tip)
    (lost : ∀ block ∈ handler.lastHandledBlocks,
      block ∉ tree.blocks call.tip (reorgStart last) (tree.number call.tip + 1))
    (near : tree.number call.tip - reorgStart last ≤ maxBlocksQueried)
    (roomy : ¬ OverfullFromFirstBlock tree handler call) :
    Follows tree content since call.tip (handler.updateLatest tree content call
        (tree.blocks call.tip (reorgStart last) (tree.number call.tip + 1))
        true) := by
  have le := reorgStart_le last
  apply updateLatest_follows true (.complete last complete) complete (by omega)
    (Nat.le_succ_of_le le) shallow nofun
  rcases Nat.lt_or_ge (tree.number call.tip)
    (reorgStart last + maxParallelRpcCalls) with small | full
  · exact .inl small
  · right
    have exact : tree.number call.tip = reorgStart last + maxParallelRpcCalls := by
      unfold maxBlocksQueried maxReorgBlockCount at near
      unfold maxParallelRpcCalls at full ⊢
      omega
    refine ⟨exact, Nat.pos_of_ne_zero ?_⟩
    intro first
    apply roomy
    refine ⟨?_, ?_, ?_⟩
    · rw [exact, first]
      rfl
    · intro _ atEnd
      obtain rfl := Option.some.inj (atEnd.symm.trans complete.atEnd)
      unfold reorgStart at first
      omega
    · intro block mem canonical
      have inside := complete.lineage block mem
      apply lost block mem
      exact mem_blocks_iff.mpr ⟨by omega, by omega, canonical⟩

end

end

/-- A replay that failed can only have changed the events of its range. -/
structure ReplayFailed (bound : Nat) (before : EventHandler Hash Event)
    (result : Outcome Error Unit × EventHandler Hash Event) : Prop where
  failed : ∀ value, result.1 ≠ .ok value
  handled : result.2.lastHandledBlocks = before.lastHandledBlocks
  lastIndexedBlock : result.2.store.lastIndexedBlock = before.store.lastIndexedBlock
  events : result.2.store.events.filter (·.1 < bound) = before.store.events.filter (·.1 < bound)

/-- A replay and what comes after it. -/
abbrev replay (tree : BlockTree Hash) (content : Hash → List Event) (call : Call Hash)
    (handler : EventHandler Hash Event) (range : RangeInclusive) :
    Outcome Error Unit × EventHandler Hash Event :=
  Outcome.andThen (handler.updateEventsFromOldBlocks tree content call range)
    fun _ handler => handler.updateLatest tree content call
      (tree.blocks call.tip (range.stop + 1) (tree.number call.tip + 1)) true

variable {range : RangeInclusive}

theorem replay_cases (kept : Holds tree content since
      (handler.store.events.filter (·.1 < range.start)) call.tip range.start)
    (stop : range.stop = tree.number call.tip - maxBlocksQueried)
    (far : maxBlocksQueried < tree.number call.tip - range.start) :
    ReplayFailed range.start handler (replay tree content call handler range) ∨
      Follows tree content since call.tip (replay tree content call handler range) := by
  have size : 0 < maxBlocksQueried := by decide
  have replayed : OldResult tree content call.tip range handler
      (handler.updateEventsFromOldBlocks tree content call range) :=
    updateEventsFromOldBlocks_result call range
  cases replayed with
  | unchanged failed same =>
    left
    apply andThen_cases
    · intro value success
      exact absurd success (failed value)
    · intro outcome _ failed'
      rw [same]
      exact ⟨failed', rfl, rfl, rfl⟩
  | begun failed done first same =>
    left
    apply andThen_cases
    · intro value success
      exact absurd success (failed value)
    · intro outcome _ failed'
      rw [same]
      refine ⟨failed', rfl, rfl, filter_replaced_below ?_ _⟩
      intro _ mem
      exact (number_of_mem_recorded (first.subset mem)).1
  | finished success same =>
    right
    have complete := replay_complete kept (by omega) same
    rw [replay, Outcome.andThen, success]
    apply updateLatest_follows true (.complete _ complete) complete
    · omega
    · exact le_refl _
    · exact agreeBelow_hashAt (by omega)
    · intro appended
      cases appended
    · left
      unfold maxBlocksQueried maxReorgBlockCount at stop
      unfold maxParallelRpcCalls
      omega

theorem replay_follows (settled : Settled tree content since handler last)
    (shallow : tree.AgreeBelow (reorgStart last) last.2 call.tip)
    (start : range.start = reorgStart last)
    (stop : range.stop = tree.number call.tip - maxBlocksQueried)
    (far : maxBlocksQueried < tree.number call.tip - reorgStart last) :
    Follows tree content since call.tip (replay tree content call handler range) := by
  have kept := settled.events.congr shallow
  rw [← start] at kept far
  rcases replay_cases kept stop far with ⟨failed, handled, _, events⟩ | follows
  · refine ⟨.behind last ⟨?_, settled.number, ?_⟩ (start ▸ far),
      fun value success => absurd success (failed value)⟩
    · rw [handled]
      exact settled.atEnd
    · rw [← start, events, start]
      exact settled.events
  · exact follows

theorem updateEvents_follows (indexed : Indexed tree content since handler head)
    (consistent : Consistent tree handler head call)
    (roomy : ¬ OverfullFromFirstBlock tree handler call) :
    Follows tree content since call.tip (handler.updateEvents tree content call) := by
  have indexed := indexed.mono consistent.notDecreasing
  obtain ⟨last, settled⟩ := indexed.exists_settled
  have known := consistent.notBelow last settled.atEnd
  have shallow := consistent.shallow last settled.atEnd
  apply andThen_cases
  · intro range success
    cases eventBlockRange_planned settled.atEnd settled.number known success with
    | goOn canonical near =>
      exact goOn_follows (indexed.complete_of_near settled.atEnd near) known canonical near
    | goBack block mem canonical lost inside near =>
      exact goBack_follows (indexed.complete_of_near settled.atEnd near) known
        mem canonical lost inside near
    | startOver lost near =>
      exact startOver_follows (indexed.complete_of_near settled.atEnd near)
        known shallow lost near roomy
    | replay range start stop far =>
      exact replay_follows settled shallow start stop far
  · intro _ _ failed
    exact indexed.follows_of_failed failed

end

/-! ## Runs -/

section

variable [DecidableEq Hash]

section

variable (tree) (content)

/-- One update, with the tip it saw. -/
def updateStep (state : EventHandler Hash Event × Nat) (call : Call Hash) :
    EventHandler Hash Event × Nat :=
  ((state.1.updateEvents tree content call).2, tree.number call.tip)

/-- After an update without an error the stored events above a block are the
canonical ones, each of them once. -/
def CanonicalAbove (start : Nat) (state : EventHandler Hash Event × Nat) (call : Call Hash) :
    Prop :=
  (state.1.updateEvents tree content call).1 = .ok () →
    ((state.1.updateEvents tree content call).2.store.events.filter (start < ·.1)).Perm
      (tree.recorded content call.tip (start + 1) (tree.number call.tip + 1))

end

omit [DecidableEq Hash] in
theorem complete_new {tree : BlockTree Hash} {content : Hash → List Event}
    {start : Nat × Hash} {store : Store Event} (number : tree.number start.2 = start.1)
    (nothingAbove : ∀ entry ∈ store.events, entry.1 ≤ start.1) :
    Complete tree content (start.1 + 1) (EventHandler.new store (some start)) start := by
  refine ⟨rfl, number, ?_, ?_⟩
  · intro _ mem
    obtain rfl := mem_singleton.mp mem
    exact ⟨le_refl _, by rw [← number, hashAt_number]⟩
  · apply List.Perm.of_eq
    rw [recorded_eq_nil (le_refl _), filter_eq_nil_iff]
    intro entry mem
    have below := nothingAbove entry mem
    simp only [decide_eq_true_eq]
    omega

theorem updateEvents_follow_canonical_chain (tree : BlockTree Hash)
    (content : Hash → List Event) (start : Nat × Hash) (store : Store Event)
    (calls : List (Call Hash)) (number : tree.number start.2 = start.1)
    (nothingAbove : ∀ entry ∈ store.events, entry.1 ≤ start.1)
    (allowed : Run.Along (updateStep tree content)
      (fun state call => Consistent tree state.1 state.2 call ∧
        ¬ OverfullFromFirstBlock tree state.1 call)
      (EventHandler.new store (some start), 0) calls) :
    Run.Along (updateStep tree content) (CanonicalAbove tree content start.1)
      (EventHandler.new store (some start), 0) calls := by
  have initially : Indexed tree content (start.1 + 1) (EventHandler.new store (some start)) 0 :=
    .complete start (complete_new number nothingAbove)
  refine Run.along_of_preserved (fun state =>
    Indexed tree content (start.1 + 1) state.1 state.2) ?_ initially allowed ?_
  · intro state call indexed guard
    exact (updateEvents_follows indexed guard.1 guard.2).indexed
  · intro state call indexed guard success
    exact (updateEvents_follows indexed guard.1 guard.2).upToDate () success

end

/-! ## A fork after the first block -/

def forkedTree : BlockTree (Nat × Bool) where
  number := Prod.fst
  parentHash
    | (0, _) => none
    | (number + 1, fork) => some (number, fork && 0 < number)
  parentHash_eq_none_iff := by
    rintro ⟨number, fork⟩
    cases number <;> simp
  number_of_parentHash := by
    rintro ⟨number, fork⟩ parent child
    cases number with
    | zero => cases child
    | succ number =>
      rw [← Option.some.inj child]

def forkedEvents (hash : Nat × Bool) : List String :=
  if hash = (128, true) then ["trade"] else []

def forkedCall (number : Nat) : Call (Nat × Bool) :=
  ⟨(number, true), fun _ => false, none⟩

def forkedHandler : EventHandler (Nat × Bool) String :=
  EventHandler.new ⟨[], 0⟩ (some (1, (1, false)))

/-- A reorg may change every block when the last handled one is low enough. -/
theorem consistent_of_low {tree : BlockTree Hash}
    {handler : EventHandler Hash Event} {head : Nat} {call : Call Hash}
    (last : Nat × Hash) (atEnd : handler.lastHandledBlocks.getLast? = some last)
    (low : last.1 ≤ maxReorgBlockCount) (notDecreasing : head ≤ tree.number call.tip)
    (notBelow : last.1 ≤ tree.number call.tip) :
    Consistent tree handler head call where
  notDecreasing := notDecreasing
  notBelow := by
    intro other atEnd'
    obtain rfl := Option.some.inj (atEnd.symm.trans atEnd')
    exact notBelow
  shallow := by
    intro other atEnd' number _
    obtain rfl := Option.some.inj (atEnd.symm.trans atEnd')
    omega

theorem updateEvents_follow_reorg : Run.Along (updateStep forkedTree forkedEvents)
      (CanonicalAbove forkedTree forkedEvents 1) (forkedHandler, 0)
      [forkedCall 2, forkedCall 128] := by
  have handled : (updateStep forkedTree forkedEvents (forkedHandler, 0)
      (forkedCall 2)).1.lastHandledBlocks =
        [(0, (0, false)), (1, (1, true)), (2, (2, true))] := by decide +kernel
  apply updateEvents_follow_canonical_chain forkedTree forkedEvents (1, (1, false)) ⟨[], 0⟩ _ rfl
  · simp
  · refine ⟨⟨consistent_of_low (1, (1, false)) rfl (by decide)
      (by decide) (by decide), ?_⟩, ⟨consistent_of_low (2, (2, true))
        ?_ (by decide) (by decide) (by decide), ?_⟩, trivial⟩
    · exact fun overfull => absurd overfull.1 (by decide)
    · exact congrArg List.getLast? handled
    · intro overfull
      apply overfull.2.2 (2, (2, true))
      · exact handled ▸ (by decide)
      · decide +kernel

/-- Block 1 is lost and the head is block 128: the first update notes block 0
as the last handled one, and the second stores all events once more. -/
theorem updateEvents_duplicates_events : Run.Along (updateStep forkedTree forkedEvents)
        (fun state call => Consistent forkedTree state.1 state.2 call)
        (forkedHandler, 0) [forkedCall 128, forkedCall 128] ∧
      ¬ Run.Along (updateStep forkedTree forkedEvents)
        (CanonicalAbove forkedTree forkedEvents 1) (forkedHandler, 0)
        [forkedCall 128, forkedCall 128] := by
  have computed :
      let first := (updateStep forkedTree forkedEvents (forkedHandler, 0)
        (forkedCall 128)).1
      let second := first.updateEvents forkedTree forkedEvents (forkedCall 128)
      (first.lastHandledBlocks.getLast?, second.1, second.2.store.events) =
        (some (0, (0, false)), .ok (), [(128, "trade"), (128, "trade")]) := by
    decide +kernel
  obtain ⟨last, success, stored⟩ : _ ∧ _ ∧ _ := by
    simpa only [Prod.mk.injEq] using computed
  refine ⟨⟨?_, ?_, trivial⟩, ?_⟩
  · exact consistent_of_low (1, (1, false)) rfl (by decide) (by decide) (by decide)
  · exact consistent_of_low _ last (by decide) (by decide) (by decide)
  · intro holds
    have same := holds.2.1 success
    rw [stored] at same
    have lengths := same.length_eq
    change _ = (forkedTree.recorded forkedEvents (128, true) 2 129).length at lengths
    cases lengths

end MandateSolver.EventHandling
