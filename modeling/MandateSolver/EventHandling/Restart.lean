import MandateSolver.EventHandling.Index

/-!
# Restarting after a reorg

A handler without a start block goes on after the block that was indexed last.  It takes the
hash from the canonical chain, so a reorg in the meantime goes unnoticed.
-/

namespace MandateSolver.EventHandling

open Outcome List BlockTree

variable {Hash Event : Type} {tree : BlockTree Hash}
  {content : Hash → List Event} {call : Call Hash} {tip : Hash} {handler : EventHandler Hash Event}
  {result : Outcome Error Unit × EventHandler Hash Event} {range : EventRange Hash}
  {handled : List (Nat × Hash)} {isReorg : Bool} {start : Nat}

/-! ## The last handled block stays canonical -/

/-- The last handled block is an ancestor of the tip. -/
def LastOnChain (tree : BlockTree Hash) (tip : Hash) (handler : EventHandler Hash Event) : Prop :=
  ∃ last, handler.lastHandledBlocks.getLast? = some last ∧
    last.1 ≤ tree.number tip ∧ tree.hashAt tip last.1 = last.2

/-- An update that handles blocks ends on the chain. -/
def HandledOnChain (tree : BlockTree Hash) (tip : Hash)
    (before after : EventHandler Hash Event) : Prop :=
  after.lastHandledBlocks = before.lastHandledBlocks ∨ LastOnChain tree tip after

theorem HandledOnChain.trans {first second third : EventHandler Hash Event}
    (earlier : HandledOnChain tree tip first second)
    (later : HandledOnChain tree tip second third) : HandledOnChain tree tip first third := by
  rcases later with same | onChain
  · rcases earlier with same' | onChain'
    · exact .inl (same.trans same')
    · right
      rw [LastOnChain, same]
      exact onChain'
  · exact .inr onChain

theorem lastOnChain_of_mem {blocks : List (Nat × Hash)} {first : Nat × Hash}
    {after : EventHandler Hash Event} (start : Nat) (atStart : blocks.head? = some first)
    (onChain : ∀ block ∈ blocks, block ∈ tree.blocks tip start (tree.number tip + 1))
    (handled : after.lastHandledBlocks =
      (handler.updateLastHandledBlocks blocks).lastHandledBlocks) : LastOnChain tree tip after := by
  obtain ⟨last, atEnd⟩ : ∃ last, blocks.getLast? = some last := by
    cases blocks with
    | nil => cases atStart
    | cons block blocks =>
      exact ⟨_, List.getLast?_eq_some_getLast (cons_ne_nil _ _)⟩
  have inside := mem_blocks_iff.mp (onChain last (mem_of_getLast? atEnd))
  refine ⟨last, ?_, Nat.le_of_lt_succ inside.2.1, inside.2.2⟩
  rw [handled, getLast?_updateLastHandledBlocks atStart atEnd]

theorem LatestResult.handledOnChain
    (latest : LatestResult tree content tip start (tree.number tip + 1) isReorg
      handler result) : HandledOnChain tree tip handler result.2 := by
  cases latest with
  | unchanged failed same => exact .inl (by rw [same])
  | progressed count positive le events handled complete =>
    right
    apply lastOnChain_of_mem start _ _ handled
    · exact (start, tree.hashAt tip start)
    · rw [head?_notedBlocks positive, BlockTree.head?_blocks (by omega)]
    · intro _ mem
      exact mem_of_mem_notedBlocks mem

theorem OldResult.handledOnChain {range : RangeInclusive} (known : range.stop ≤ tree.number tip)
    (replayed : OldResult tree content tip range handler result) :
    HandledOnChain tree tip handler result.2 := by
  cases replayed with
  | unchanged failed same | begun failed done first same => exact .inl (by rw [same])
  | finished success same =>
    right
    apply lastOnChain_of_mem (range.stop - maxReorgBlockCount) _ _
      (congrArg EventHandler.lastHandledBlocks same)
    · exact (range.stop - maxReorgBlockCount, tree.hashAt tip (range.stop - maxReorgBlockCount))
    · exact BlockTree.head?_blocks (by omega)
    · intro _ mem
      have inside := mem_blocks_iff.mp mem
      exact mem_blocks_iff.mpr ⟨inside.1, by omega, inside.2.2⟩

theorem LastOnChain.consistent (onChain : LastOnChain tree call.tip handler) :
    Consistent tree handler (tree.number call.tip) call ∧
      ¬ OverfullFromFirstBlock tree handler call := by
  obtain ⟨last, atEnd, known, canonical⟩ := onChain
  refine ⟨⟨le_refl _, ?_, ?_⟩, ?_⟩
  · intro other atEnd'
    obtain rfl := Option.some.inj (atEnd.symm.trans atEnd')
    exact known
  · intro other atEnd'
    obtain rfl := Option.some.inj (atEnd.symm.trans atEnd')
    rw [← canonical]
    exact (agreeBelow_hashAt known).mono (Nat.le_succ_of_le (Nat.sub_le _ _))
  · intro overfull
    exact overfull.2.2 last (mem_of_getLast? atEnd) canonical

/-- With a canonical last handled block there are only two kinds of updates. -/
theorem Planned.goOn_or_replay {last : Nat × Hash} (planned : Planned tree tip handled last range)
    (mem : last ∈ handled) (known : last.1 ≤ tree.number tip)
    (canonical : tree.hashAt tip last.1 = last.2) :
    (tree.number tip - reorgStart last ≤ maxBlocksQueried ∧
      range = ⟨none, tree.blocks tip (last.1 + 1) (tree.number tip + 1), false⟩) ∨
    ∃ history, history.start = reorgStart last ∧ history.stop = tree.number tip - maxBlocksQueried ∧
      maxBlocksQueried < tree.number tip - reorgStart last ∧
      range = ⟨some history, tree.blocks tip (history.stop + 1) (tree.number tip + 1), true⟩ := by
  cases planned with
  | goOn _ near => exact .inl ⟨near, rfl⟩
  | goBack block _ _ lost _ _ => exact absurd canonical lost
  | startOver lost near =>
    have inside := mem_blocks_iff.mpr
      ⟨reorgStart_le last, Nat.lt_succ_of_le known, canonical⟩
    exact absurd inside (lost last mem)
  | replay history start stop far =>
    exact .inr ⟨history, start, stop, far, rfl⟩

section

variable [DecidableEq Hash]

theorem updateLatest_handledOnChain :
    HandledOnChain tree call.tip handler (handler.updateLatest tree content call
        (tree.blocks call.tip start (tree.number call.tip + 1)) isReorg).2 := by
  rcases Nat.lt_or_ge (tree.number call.tip) start with empty | nonempty
  · rw [blocks_eq_nil_iff.mpr empty]
    exact .inl rfl
  · have latest : LatestResult tree content call.tip start
        (tree.number call.tip + 1) isReorg handler _ :=
      updateLatest_result (le_refl _) (Nat.lt_succ_of_le nonempty)
    exact latest.handledOnChain

theorem replay_handledOnChain {range : RangeInclusive}
    (stop : range.stop = tree.number call.tip - maxBlocksQueried) :
    HandledOnChain tree call.tip handler (replay tree content call handler range).2 := by
  have replayed : OldResult tree content call.tip range handler
      (handler.updateEventsFromOldBlocks tree content call range) :=
    updateEventsFromOldBlocks_result call range
  have onChain := replayed.handledOnChain (by omega)
  apply andThen_cases (motive := fun result => HandledOnChain tree call.tip handler result.2)
  · intro _ _
    exact onChain.trans updateLatest_handledOnChain
  · intro _ _ _
    exact onChain

theorem planned_handledOnChain
    {last : Nat × Hash} (planned : Planned tree call.tip handled last range) :
    HandledOnChain tree call.tip handler (Outcome.andThen
        (handler.updateHistory tree content call range.historyRange)
        fun _ handler => handler.updateLatest tree content call
          range.latestBlocks range.isReorg).2 := by
  cases planned with
  | goOn canonical near => exact updateLatest_handledOnChain
  | goBack block mem canonical lost inside near =>
    exact updateLatest_handledOnChain
  | startOver lost near => exact updateLatest_handledOnChain
  | replay range start stop far => exact replay_handledOnChain stop

theorem LastOnChain.updateEvents (onChain : LastOnChain tree call.tip handler) :
    LastOnChain tree call.tip (handler.updateEvents tree content call).2 := by
  obtain ⟨last, atEnd, known, canonical⟩ := onChain
  have number : tree.number last.2 = last.1 := by
    rw [← canonical, number_hashAt known]
  have kept : HandledOnChain tree call.tip handler (handler.updateEvents tree content call).2 := by
    apply andThen_cases (motive := fun result => HandledOnChain tree call.tip handler result.2)
    · intro _ success
      exact planned_handledOnChain (eventBlockRange_planned atEnd number known success)
    · intro _ _ _
      exact .inl rfl
  rcases kept with same | onChain
  · exact ⟨last, by rw [same]; exact atEnd, known, canonical⟩
  · exact onChain

/-! ## Without handled blocks -/

/-- The block that was indexed last is taken from the canonical chain. -/
theorem eventBlockRange_planned_of_empty
    (empty : handler.lastHandledBlocks = [])
    (success : handler.eventBlockRange tree call = .ok range) :
    let last := (handler.store.lastIndexedBlock,
      tree.hashAt call.tip handler.store.lastIndexedBlock)
    last.1 ≤ tree.number call.tip ∧ Planned tree call.tip [last] last range := by
  simp only [EventHandler.eventBlockRange, EventHandler.handledBlocks, empty,
    isEmpty_nil, if_true, bind_eq_ok_iff, Call.ask_eq_ok_iff,
    RangeInclusive.tryNew_eq_ok_iff, Call.blocks_eq_ok_iff,
    expect_eq_ok_iff] at success
  obtain ⟨_, ⟨_, ⟨_, rfl⟩, _, ⟨start, stop⟩, known, _, rfl⟩, _, _, last, atEnd,
    planned⟩ := success
  rw [start, stop, blocks_succ] at atEnd planned
  rw [stop] at known
  obtain rfl := Option.some.inj atEnd
  exact ⟨known, eventRangeAfter_planned rfl (number_hashAt known) known planned⟩

/-! ## Far behind: the history is replayed -/

section

variable (tree : BlockTree Hash) (content : Hash → List Event) (tip : Hash) (indexed : Nat)

/-- After a restart, before and after the first update. -/
def Replaying (handler : EventHandler Hash Event) : Prop :=
  (handler.lastHandledBlocks = [] ∧ handler.store.lastIndexedBlock = indexed ∧ Holds tree content 0
      (handler.store.events.filter (·.1 < indexed - maxReorgBlockCount)) tip
      (indexed - maxReorgBlockCount)) ∨
  (Indexed tree content 0 handler (tree.number tip) ∧ LastOnChain tree tip handler)

/-- What an update after such a restart returns. -/
structure Replays (result : Outcome Error Unit × EventHandler Hash Event) : Prop where
  replaying : Replaying tree content tip indexed result.2
  upToDate : ∀ value, result.1 = .ok value →
    Holds tree content 0 result.2.store.events tip (tree.number tip + 1)

end

theorem replay_replays {history : RangeInclusive} (empty : handler.lastHandledBlocks = [])
    (start : history.start = handler.store.lastIndexedBlock - maxReorgBlockCount)
    (stop : history.stop = tree.number call.tip - maxBlocksQueried)
    (far : maxBlocksQueried < tree.number call.tip - history.start) (kept : Holds tree content 0
      (handler.store.events.filter (·.1 < history.start)) call.tip history.start) :
    Replays tree content call.tip handler.store.lastIndexedBlock (Outcome.andThen
        (handler.updateEventsFromOldBlocks tree content call history)
        fun _ handler => handler.updateLatest tree content call
          (tree.blocks call.tip (history.stop + 1) (tree.number call.tip + 1))
          true) := by
  rcases replay_cases kept stop far with failed | follows
  · refine ⟨.inl ⟨failed.handled.trans empty, failed.lastIndexedBlock, ?_⟩,
      fun value success => absurd success (failed.failed value)⟩
    rw [← start, failed.events]
    exact kept
  · refine ⟨.inr ⟨follows.indexed, ?_⟩, follows.upToDate⟩
    rcases replay_handledOnChain stop with same | onChain
    · obtain ⟨_, settled⟩ := follows.indexed.exists_settled
      have atEnd := settled.atEnd
      rw [same, empty] at atEnd
      cases atEnd
    · exact onChain

theorem Replaying.updateEvents {indexed : Nat}
    (replaying : Replaying tree content call.tip indexed handler)
    (far : maxBlocksQueried < tree.number call.tip - (indexed - maxReorgBlockCount)) :
    Replays tree content call.tip indexed (handler.updateEvents tree content call) := by
  rcases replaying with ⟨empty, rfl, kept⟩ | ⟨indexed, onChain⟩
  · apply andThen_cases
    · intro _ success
      obtain ⟨known, planned⟩ := eventBlockRange_planned_of_empty empty success
      rcases planned.goOn_or_replay (mem_singleton_self _) known rfl with
        ⟨near, _⟩ | ⟨history, start, stop, _, rfl⟩
      · exact absurd far (Nat.not_lt_of_le near)
      · have start : history.start = handler.store.lastIndexedBlock - maxReorgBlockCount := start
        rw [← start] at far kept
        exact replay_replays empty start stop far kept
    · intro _ _ failed
      exact ⟨.inl ⟨empty, rfl, kept⟩, fun value success => absurd success (failed value)⟩
  · obtain ⟨consistent, roomy⟩ := onChain.consistent
    have follows := updateEvents_follows indexed consistent roomy
    exact ⟨.inr ⟨follows.indexed, onChain.updateEvents⟩, follows.upToDate⟩

/-! ## Close to the head: the new events are appended -/

section

variable (tree : BlockTree Hash) (content : Hash → List Event) (tip : Hash) (indexed : Nat)
  (stored : List (Nat × Event))

/-- Everything after the block that was indexed before the restart has been
appended up to a canonical block. -/
structure Appended (handler : EventHandler Hash Event) (last : Nat) : Prop where
  le : indexed ≤ last
  known : last ≤ tree.number tip
  events : handler.store.events = stored ++ tree.recorded content tip (indexed + 1) (last + 1)
  handled : handler.lastHandledBlocks.getLast? = some (last, tree.hashAt tip last) ∨
    handler.lastHandledBlocks = [] ∧ handler.store.lastIndexedBlock = last

/-- The result of an update that only appends. -/
structure Appends (result : Outcome Error Unit × EventHandler Hash Event) : Prop where
  appended : ∃ last, Appended tree content tip indexed stored result.2 last
  complete : ∀ value, result.1 = .ok value →
    Appended tree content tip indexed stored result.2 (tree.number tip)

end

section

variable {indexed last : Nat} {stored : List (Nat × Event)}

omit [DecidableEq Hash] in
theorem LatestResult.appends
    (latest : LatestResult tree content tip (last + 1) (tree.number tip + 1) false handler result)
    (appended : Appended tree content tip indexed stored handler last)
    (near : tree.number tip - last ≤ maxParallelRpcCalls) :
    Appends tree content tip indexed stored result := by
  cases latest with
  | unchanged failed same =>
    exact ⟨⟨last, same ▸ appended⟩, fun value success => absurd success (failed value)⟩
  | progressed count positive le events handled complete =>
    have le' := appended.le
    have noted : notedBlocks maxParallelRpcCalls
        (tree.blocks tip (last + 1) (tree.number tip + 1)) count =
          tree.blocks tip (last + 1) (last + count + 1) := by
      have length : count = last + count + 1 - (last + 1) := by omega
      rw [notedBlocks_of_le (by omega), length,
        take_blocks (by omega) (by omega), ← length]
    rw [noted] at handled complete
    have atStart : (tree.blocks tip (last + 1) (last + count + 1)).head? =
        some (last + 1, tree.hashAt tip (last + 1)) :=
      BlockTree.head?_blocks (by omega)
    have further : Appended tree content tip indexed stored result.2 (last + count) := by
      refine ⟨by omega, by omega, ?_, .inl ?_⟩
      · have next : last + 1 + count = last + count + 1 := by omega
        rw [events, keptEvents, if_neg (by decide), appended.events, append_assoc, next,
          recorded_append (by omega) (by omega)]
      · rw [handled, getLast?_updateLastHandledBlocks atStart
          (BlockTree.getLast?_blocks (by omega))]
    refine ⟨⟨last + count, further⟩, ?_⟩
    intro value success
    have lengths := congrArg List.length (complete value success)
    rw [length_blocks, length_blocks] at lengths
    have atHead : last + count = tree.number tip := by omega
    exact atHead ▸ further

section

variable (appended : Appended tree content call.tip indexed stored handler last)
include appended

theorem Appended.updateLatest (near : tree.number call.tip - last ≤ maxParallelRpcCalls) :
    Appends tree content call.tip indexed stored (handler.updateLatest tree content call
        (tree.blocks call.tip (last + 1) (tree.number call.tip + 1)) false) := by
  rcases Nat.lt_or_ge last (tree.number call.tip) with below | atHead
  · exact (updateLatest_result (le_refl _) (Nat.succ_lt_succ below)).appends appended near
  · have same := le_antisymm appended.known atHead
    rw [blocks_eq_nil_iff.mpr (Nat.succ_le_succ atHead)]
    exact ⟨⟨last, appended⟩, fun _ _ => same ▸ appended⟩

theorem Appended.updateEvents
    (near : tree.number call.tip - (indexed - maxReorgBlockCount) ≤ maxBlocksQueried) :
    Appends tree content call.tip indexed stored (handler.updateEvents tree content call) := by
  have le := appended.le
  apply andThen_cases
  · intro range success
    have planned : ∃ handled, (last, tree.hashAt call.tip last) ∈ handled ∧
          Planned tree call.tip handled (last, tree.hashAt call.tip last)
            range := by
      rcases appended.handled with atEnd | ⟨empty, rfl⟩
      · exact ⟨_, mem_of_getLast? atEnd, eventBlockRange_planned atEnd
          (number_hashAt appended.known) appended.known success⟩
      · exact ⟨_, mem_singleton_self _, (eventBlockRange_planned_of_empty empty success).2⟩
    obtain ⟨handled, mem, planned⟩ := planned
    rcases planned.goOn_or_replay mem appended.known rfl with
      ⟨near', rfl⟩ | ⟨_, _, _, far, _⟩
    · apply appended.updateLatest
      unfold reorgStart maxBlocksQueried maxReorgBlockCount at near'
      unfold maxParallelRpcCalls
      omega
    · unfold reorgStart at far
      omega
  · intro _ _ failed
    exact ⟨⟨last, appended⟩, fun value success => absurd success (failed value)⟩

end

end

/-! ## After the restart -/

omit [DecidableEq Hash] in
theorem holds_zero_iff {events : List (Nat × Event)} {stop : Nat} :
    Holds tree content 0 events tip stop ↔ events.Perm (tree.recorded content tip 0 stop) := by
  rw [Holds, filter_eq_self.mpr (by simp)]

/-- One update after the other. -/
def updates (tree : BlockTree Hash) (content : Hash → List Event)
    (handler : EventHandler Hash Event) (calls : List (Call Hash)) : EventHandler Hash Event :=
  calls.foldl (fun handler call => (handler.updateEvents tree content call).2) handler

theorem updates_invariant (invariant : EventHandler Hash Event → Prop)
    {calls : List (Call Hash)} (initially : invariant handler)
    (sameChain : ∀ call ∈ calls, call.tip = tip)
    (preserved : ∀ handler call, call.tip = tip → invariant handler →
        invariant (handler.updateEvents tree content call).2) :
    invariant (updates tree content handler calls) := by
  induction calls generalizing handler with
  | nil => exact initially
  | cons call calls ih =>
    have here := sameChain call mem_cons_self
    exact ih (preserved handler call here initially)
      fun call mem => sameChain call (mem_cons_of_mem _ mem)

/-- The update without an error makes the stored events canonical exactly when
the history is replayed or the lost blocks had the same events. -/
theorem restart_canonical_iff (tree : BlockTree Hash)
    (content : Hash → List Event) (store : Store Event) (fork : Hash)
    (earlier : List (Call Hash)) (call : Call Hash)
    (indexed : store.lastIndexedBlock = tree.number fork)
    (stored : store.events.Perm (tree.recorded content fork 0 (tree.number fork + 1)))
    (shared : tree.AgreeBelow (tree.number fork - maxReorgBlockCount) fork call.tip)
    (notBelow : tree.number fork ≤ tree.number call.tip)
    (sameChain : ∀ other ∈ earlier, other.tip = call.tip)
    (success : ((updates tree content (EventHandler.new store none)
      earlier).updateEvents tree content call).1 = .ok ()) :
    ((updates tree content (EventHandler.new store none)
        earlier).updateEvents tree content call).2.store.events.Perm
        (tree.recorded content call.tip 0 (tree.number call.tip + 1)) ↔
      maxBlocksQueried < tree.number call.tip - (tree.number fork - maxReorgBlockCount) ∨
        (tree.recorded content fork 0 (tree.number fork + 1)).Perm
          (tree.recorded content call.tip 0 (tree.number fork + 1)) := by
  rcases Nat.lt_or_ge maxBlocksQueried (tree.number call.tip -
    (tree.number fork - maxReorgBlockCount)) with far | near
  · have initially : Replaying tree content call.tip (tree.number fork)
        (EventHandler.new store none) := by
      refine .inl ⟨rfl, indexed, ?_⟩
      exact ((holds_zero_iff.mpr stored).cut (Nat.le_succ_of_le (Nat.sub_le _ _))).congr shared
    have replaying := updates_invariant
      (Replaying tree content call.tip (tree.number fork)) initially sameChain
      (fun handler other same holds => by
        rw [← same] at holds far ⊢
        exact (holds.updateEvents far).replaying)
    have canonical := (replaying.updateEvents far).upToDate () success
    exact ⟨fun _ => .inl far, fun _ => holds_zero_iff.mp canonical⟩
  · have initially : ∃ last, Appended tree content call.tip (tree.number fork)
        store.events (EventHandler.new store none) last := by
      refine ⟨tree.number fork, le_refl _, notBelow, ?_, .inr ⟨rfl, indexed⟩⟩
      rw [recorded_eq_nil (le_refl _), append_nil]
      rfl
    obtain ⟨last, appended⟩ := updates_invariant
      (fun handler => ∃ last, Appended tree content call.tip (tree.number fork)
        store.events handler last) initially sameChain
      (fun handler other same holds => by
        obtain ⟨last, holds⟩ := holds
        rw [← same] at holds near ⊢
        exact (holds.updateEvents near).appended)
    have events := ((appended.updateEvents near).complete () success).events
    rw [events, ← recorded_append (Nat.zero_le _)
      (Nat.succ_le_succ notBelow), perm_append_right_iff]
    constructor
    · intro same
      exact .inr (stored.symm.trans same)
    · intro canonical
      rcases canonical with far | same
      · exact absurd near (Nat.not_le_of_lt far)
      · exact stored.trans same

def lostEvents (hash : Nat × Bool) : List String :=
  if hash = (1, false) then ["trade"] else []

theorem restart_without_reorg : ((EventHandler.new ⟨[(1, "trade")], 1⟩ none).updateEvents forkedTree
        lostEvents ⟨(2, false), fun _ => false, none⟩).2.store.events.Perm
      (forkedTree.recorded lostEvents (2, false) 0 3) := by
  apply (restart_canonical_iff forkedTree lostEvents ⟨[(1, "trade")], 1⟩
    (1, false) [] ⟨(2, false), fun _ => false, none⟩ rfl ?_ ?_ (by decide)
    (by simp) (by decide +kernel)).mpr
  · right
    exact .of_eq (by decide +kernel)
  · exact .of_eq (by decide +kernel)
  · intro _ below
    cases below

/-- Block 1 is lost, but its event stays in the store. -/
theorem restart_keeps_lost_event : ([(1, "trade")] : List (Nat × String)).Perm
        (forkedTree.recorded lostEvents (1, false) 0 2) ∧
      forkedTree.AgreeBelow (1 - maxReorgBlockCount) (1, false) (2, true) ∧
      ((EventHandler.new ⟨[(1, "trade")], 1⟩ none).updateEvents forkedTree
        lostEvents (forkedCall 2)).1 = .ok () ∧
      ¬ ((EventHandler.new ⟨[(1, "trade")], 1⟩ none).updateEvents forkedTree
          lostEvents (forkedCall 2)).2.store.events.Perm
        (forkedTree.recorded lostEvents (2, true) 0 3) := by
  refine ⟨.of_eq (by decide +kernel), ?_, by decide +kernel, by decide +kernel⟩
  intro _ below
  cases below

end

end MandateSolver.EventHandling
