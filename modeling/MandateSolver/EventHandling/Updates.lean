import MandateSolver.EventHandling.BlockRequests

/-!
# What an update can do

An update goes on after the last handled block, goes back to a handled block that is still
canonical or as far as a reorg can reach, or replays the history first.
-/

namespace MandateSolver.EventHandling

open List Option BlockTree

open Outcome hiding none

variable {Hash Event : Type} {tree : BlockTree Hash} {content : Hash → List Event}
  {call : Call Hash} {tip : Hash} {request : Request} {α : Type} {range : RangeInclusive}

/-! ## Calls to the node -/

theorem Call.ask_eq_ok_iff {answer result : α} :
    call.ask request answer = .ok result ↔ call.fails request = false ∧ answer = result := by
  unfold Call.ask
  cases call.fails request <;> simp

variable {handled : List (Nat × Hash)}

theorem Call.blocks_eq_ok_iff {result : List (Nat × Hash)} :
    call.blocks tree request range = .ok result ↔
      range.stop ≤ tree.number call.tip ∧ call.fails request = false ∧
        tree.blocks call.tip range.start (range.stop + 1) = result := by
  unfold Call.blocks
  split
  · rename_i known
    simp only [Call.ask_eq_ok_iff, known, true_and]
  · rename_i missing
    simp [missing]

theorem RangeInclusive.tryNew_eq_ok_iff {start stop : Nat} :
    RangeInclusive.tryNew start stop = .ok range ↔ range.start = start ∧ range.stop = stop := by
  obtain ⟨_, _, _⟩ := range
  unfold RangeInclusive.tryNew
  split
  · simp only [ok.injEq, RangeInclusive.mk.injEq]
    exact ⟨fun ⟨first, last⟩ => ⟨first.symm, last.symm⟩,
      fun ⟨first, last⟩ => ⟨first.symm, last.symm⟩⟩
  · simp only [reduceCtorEq, false_iff]
    omega

/-! ## The common block -/

section

variable [DecidableEq Hash] {last block : Nat × Hash} {start stop : Nat}

theorem find_blocks_eq_some {found : (Nat × Hash) × Nat}
    (success : (tree.blocks tip start stop).zipIdx.reverse.find? (·.1 = block) = some found) :
    block ∈ tree.blocks tip start stop ∧ (tree.blocks tip start stop).drop (found.2 + 1) =
        tree.blocks tip (block.1 + 1) stop := by
  have same : found.1 = block := by
    have test := List.find?_some success
    exact of_decide_eq_true test
  have mem := mem_reverse.mp (mem_of_find?_eq_some success)
  obtain ⟨_, position⟩ := found
  have located := mem_zipIdx_iff_getElem?.mp mem
  obtain ⟨inside, value⟩ := List.getElem?_eq_some_iff.mp located
  rw [getElem_blocks] at value
  rw [length_blocks] at inside
  refine ⟨same ▸ mem_of_getElem? located, ?_⟩
  have number : block.1 = start + position := by rw [← same, ← value]
  have count : position + 1 = block.1 + 1 - start := by omega
  rw [count, drop_blocks (by omega) (by omega)]

theorem find_blocks_isSome (mem : block ∈ tree.blocks tip start stop) :
    ((tree.blocks tip start stop).zipIdx.reverse.find? (·.1 = block)).isSome := by
  rw [List.find?_isSome]
  obtain ⟨position, found⟩ := mem_iff_getElem?.mp mem
  exact ⟨(block, position), mem_reverse.mpr (mem_zipIdx_iff_getElem?.mpr found), decide_eq_true rfl⟩

theorem detectReorgPath_of_last_mem (atEnd : handled.getLast? = some last)
    (mem : last ∈ tree.blocks tip start stop) :
    detectReorgPath handled (tree.blocks tip start stop) =
      (tree.blocks tip (last.1 + 1) stop, false) := by
  obtain ⟨_, rfl⟩ := List.getLast?_eq_some_iff.mp atEnd
  obtain ⟨_, success⟩ := isSome_iff_exists.mp (find_blocks_isSome mem)
  simp only [detectReorgPath, reverse_append, reverse_singleton,
    singleton_append, List.findSome?_cons, success, map_some,
    (find_blocks_eq_some success).2, List.getLast?_concat, ne_eq,
    not_true_eq_false, decide_false]

theorem detectReorgPath_of_last_not_mem (atEnd : handled.getLast? = some last)
    (lost : last ∉ tree.blocks tip start stop) :
    (∃ block ∈ handled, block ∈ tree.blocks tip start stop ∧
      detectReorgPath handled (tree.blocks tip start stop) =
        (tree.blocks tip (block.1 + 1) stop, true)) ∨
    (∀ block ∈ handled, block ∉ tree.blocks tip start stop) ∧
      detectReorgPath handled (tree.blocks tip start stop) =
        (tree.blocks tip start stop, true) := by
  have nonempty : handled ≠ [] := by
    rintro rfl
    cases atEnd
  cases common : handled.reverse.findSome? fun handledBlock =>
      ((tree.blocks tip start stop).zipIdx.reverse.find?
        (·.1 = handledBlock)).map fun latestBlock =>
          ((tree.blocks tip start stop).drop (latestBlock.2 + 1),
            decide (handled.getLast? ≠ some handledBlock)) with
  | some path =>
    left
    obtain ⟨block, mem, found⟩ := exists_of_findSome?_eq_some common
    obtain ⟨_, success, rfl⟩ := map_eq_some_iff.mp found
    obtain ⟨inside, rest⟩ := find_blocks_eq_some success
    have ne : handled.getLast? ≠ some block := by
      rw [atEnd]
      intro same
      exact lost (Option.some.inj same ▸ inside)
    refine ⟨block, mem_reverse.mp mem, inside, ?_⟩
    simp only [detectReorgPath, common]
    rw [rest, decide_eq_true ne]
  | none =>
    right
    refine ⟨?_, by simp only [detectReorgPath, common]; simp [nonempty]⟩
    intro block mem inside
    have none := List.findSome?_eq_none_iff.mp common block (mem_reverse.mpr mem)
    obtain ⟨found, success⟩ := isSome_iff_exists.mp (find_blocks_isSome inside)
    rw [success] at none
    cases none

end

/-! ## The range of an update -/

theorem splitRange_of_le (near : range.stop - range.start ≤ maxBlocksQueried) :
    splitRange range = (none, range) := by
  rw [splitRange, dif_neg (Nat.not_lt.mpr near)]

theorem splitRange_of_lt (far : maxBlocksQueried < range.stop - range.start) :
    ∃ history latest, splitRange range = (some history, latest) ∧ history.start = range.start ∧
      history.stop = range.stop - maxBlocksQueried ∧
      latest.start = history.stop + 1 ∧ latest.stop = range.stop := by
  rw [splitRange, dif_pos far]
  exact ⟨_, _, rfl, rfl, rfl, rfl, rfl⟩

def reorgStart (last : Nat × Hash) : Nat := last.1 - maxReorgBlockCount

/-- The kinds of updates after the given handled blocks.  Only when more than
`maxBlocksQueried` blocks may have changed the history is replayed. -/
inductive Planned (tree : BlockTree Hash) (tip : Hash)
    (handled : List (Nat × Hash)) (last : Nat × Hash) : EventRange Hash → Prop
  | goOn (canonical : tree.hashAt tip last.1 = last.2)
      (near : tree.number tip - reorgStart last ≤ maxBlocksQueried) :
      Planned tree tip handled last
        ⟨none, tree.blocks tip (last.1 + 1) (tree.number tip + 1), false⟩
  | goBack (block : Nat × Hash) (mem : block ∈ handled)
      (canonical : tree.hashAt tip block.1 = block.2)
      (lost : tree.hashAt tip last.1 ≠ last.2)
      (known : reorgStart last ≤ block.1 ∧ block.1 ≤ tree.number tip)
      (near : tree.number tip - reorgStart last ≤ maxBlocksQueried) :
      Planned tree tip handled last
        ⟨none, tree.blocks tip (block.1 + 1) (tree.number tip + 1), true⟩
  | startOver (lost : ∀ block ∈ handled,
        block ∉ tree.blocks tip (reorgStart last) (tree.number tip + 1))
      (near : tree.number tip - reorgStart last ≤ maxBlocksQueried) :
      Planned tree tip handled last
        ⟨none, tree.blocks tip (reorgStart last) (tree.number tip + 1), true⟩
  | replay (range : RangeInclusive) (start : range.start = reorgStart last)
      (stop : range.stop = tree.number tip - maxBlocksQueried)
      (far : maxBlocksQueried < tree.number tip - reorgStart last) :
      Planned tree tip handled last
        ⟨some range, tree.blocks tip (range.stop + 1) (tree.number tip + 1), true⟩

section

variable [DecidableEq Hash] {last : Nat × Hash} {range : EventRange Hash}

theorem fullEventRange_planned (atEnd : handled.getLast? = some last)
    (known : last.1 ≤ tree.number call.tip)
    (success : EventHandler.fullEventRange tree call handled last = .ok range) :
    Planned tree call.tip handled last range := by
  simp only [EventHandler.fullEventRange, bind_eq_ok_iff,
    RangeInclusive.tryNew_eq_ok_iff, Call.blocks_eq_ok_iff] at success
  obtain ⟨full, ⟨start, stop⟩, latest, ⟨_, _, rfl⟩, planned⟩ := success
  rcases Nat.lt_or_ge maxBlocksQueried (full.stop - full.start) with far | near
  · obtain ⟨history, latest, split, first, final, next, final'⟩ := splitRange_of_lt far
    simp only [split, pure_eq, ok.injEq] at planned
    rw [← planned, next, final', stop]
    rw [start, stop] at far
    exact .replay history (first.trans start) (by rw [final, stop]) far
  · simp only [splitRange_of_le near, start, stop, pure_eq, ok.injEq] at planned
    rw [start, stop] at near
    rw [← planned]
    by_cases mem : last ∈ tree.blocks call.tip (reorgStart last) (tree.number call.tip + 1)
    · have path := detectReorgPath_of_last_mem atEnd mem
      rw [reorgStart] at path
      rw [path]
      exact .goOn (mem_blocks_iff.mp mem).2.2 near
    · rcases detectReorgPath_of_last_not_mem atEnd mem with
        ⟨block, handledBlock, inside, path⟩ | ⟨lost, path⟩
      · have inside := mem_blocks_iff.mp inside
        rw [reorgStart] at path
        rw [path]
        apply Planned.goBack block handledBlock inside.2.2
        · intro canonical
          exact mem (mem_blocks_iff.mpr
            ⟨Nat.sub_le _ _, Nat.lt_succ_of_le known, canonical⟩)
        · exact ⟨inside.1, Nat.le_of_lt_succ inside.2.1⟩
        · exact near
      · rw [reorgStart] at path
        rw [path]
        exact .startOver lost near

theorem eventRangeAfter_planned (atEnd : handled.getLast? = some last)
    (number : tree.number last.2 = last.1) (known : last.1 ≤ tree.number call.tip)
    (success : EventHandler.eventRangeAfter tree call handled last = .ok range) :
    Planned tree call.tip handled last range := by
  unfold EventHandler.eventRangeAfter at success
  split at success
  · rename_i child
    have above := tree.number_of_parentHash _ _ child
    have canonical : tree.hashAt call.tip last.1 = last.2 := by
      rw [← number]
      exact hashAt_of_parentHash child
    have one : tree.blocks call.tip (last.1 + 1) (tree.number call.tip + 1) =
        [(tree.number call.tip, call.tip)] := by
      have next : last.1 + 1 = tree.number call.tip := by omega
      rw [next, blocks_succ, hashAt_number]
    rw [← ok.inj success, ← one]
    apply Planned.goOn canonical
    unfold reorgStart maxBlocksQueried maxReorgBlockCount
    omega
  · split at success
    · rename_i same
      have none : tree.blocks call.tip (last.1 + 1) (tree.number call.tip + 1) = [] := by
        rw [blocks_eq_nil_iff, ← same]
      rw [← ok.inj success, ← none]
      apply Planned.goOn
      · rw [← same, hashAt_number]
      · rw [← same]
        unfold reorgStart maxBlocksQueried maxReorgBlockCount
        omega
    · split at success
      · simp only [bind_eq_ok_iff, Call.blocks_eq_ok_iff] at success
        obtain ⟨newBlocks, ⟨_, _, rfl⟩, next⟩ := success
        rw [BlockTree.head?_blocks (Nat.lt_succ_of_le known)] at next
        split at next
        · rename_i canonical
          rw [← ok.inj next, tail_blocks (Nat.lt_succ_of_le known)]
          apply Planned.goOn (Option.some.inj canonical)
          unfold reorgStart maxBlocksQueried maxReorgBlockCount at *
          omega
        · exact fullEventRange_planned atEnd known next
      · exact fullEventRange_planned atEnd known success

end

/-! ## Events of the latest blocks -/

section

variable {start stop count : Nat}

theorem eventsOf_blocks_eq_recorded (known : stop ≤ tree.number call.tip + 1)
    (longest : SucceedUpTo (call.getEventsByBlockHash tree content)
      (tree.blocks call.tip start stop) count) :
    eventsOf (call.getEventsByBlockHash tree content)
        ((tree.blocks call.tip start stop).take count) =
      tree.recorded content call.tip start (start + count) := by
  have le := longest.le
  rw [length_blocks] at le
  rw [eventsOf, recorded, Nat.add_sub_cancel_left]
  congr 1
  apply ext_getElem?
  intro position
  simp only [List.getElem?_mapIdx, List.getElem?_map, List.getElem?_take]
  split
  · rename_i inside
    have bound : position < (tree.blocks call.tip start stop).length := by
      rw [length_blocks]
      omega
    have found := List.getElem?_eq_getElem bound
    rw [getElem_blocks] at found
    have succeeds := longest.succeed position _ inside found
    have number : tree.number (tree.hashAt call.tip (start + position)) =
        start + position := number_hashAt (by omega)
    rw [found, List.getElem?_range' inside]
    simp only [Call.getEventsByBlockHash] at succeeds ⊢
    split at succeeds
    · cases succeeds
    · rename_i answered
      simp [answered, number]
  · rename_i outside
    rw [List.getElem?_eq_none (by simpa using outside)]
    rfl

end

def keptEvents (isReorg : Bool) (start : Nat) (events : List (Nat × Event)) : List (Nat × Event) :=
  if isReorg then events.filter (·.1 < start) else events

/-- What the update of the blocks from `start` up to, not including, `stop`
can leave behind. -/
inductive LatestResult (tree : BlockTree Hash) (content : Hash → List Event)
    (tip : Hash) (start stop : Nat) (isReorg : Bool) (before : EventHandler Hash Event)
    (result : Outcome Error Unit × EventHandler Hash Event) : Prop
  | unchanged (failed : ∀ value, result.1 ≠ .ok value) (same : result.2 = before)
  | progressed (count : Nat) (positive : 0 < count) (le : start + count ≤ stop)
      (events : result.2.store.events = keptEvents isReorg start before.store.events ++
          tree.recorded content tip start (start + count))
      (handled : result.2.lastHandledBlocks =
        (before.updateLastHandledBlocks (notedBlocks maxParallelRpcCalls
          (tree.blocks tip start stop) count)).lastHandledBlocks)
      (complete : ∀ value, result.1 = .ok value →
        notedBlocks maxParallelRpcCalls (tree.blocks tip start stop) count =
          tree.blocks tip start stop)

section

variable [DecidableEq Hash] {start stop : Nat} {isReorg : Bool} {handler : EventHandler Hash Event}

theorem updateEventsFromLatestBlocks_result (known : stop ≤ tree.number call.tip + 1) :
    LatestResult tree content call.tip start stop isReorg handler
      (handler.updateEventsFromLatestBlocks tree content call
        (tree.blocks call.tip start stop) isReorg) := by
  obtain ⟨count, longest⟩ := exists_succeedUpTo
    (call.getEventsByBlockHash tree content) (tree.blocks call.tip start stop)
  have le := longest.le
  rw [length_blocks] at le
  unfold EventHandler.updateEventsFromLatestBlocks
  simp only [pastEventsByBlockHashes_eq longest, ok_bind]
  rcases Nat.eq_zero_or_pos count with none | positive
  · have empty : notedBlocks maxParallelRpcCalls (tree.blocks call.tip start stop) count = [] := by
      rw [none]
      rfl
    simp only [empty, Outcome.rejectIf, Outcome.andThen]
    exact .unchanged (by simp) rfl
  · have first : (notedBlocks maxParallelRpcCalls (tree.blocks call.tip start stop) count).head? =
          some (start, tree.hashAt call.tip start) := by
      rw [head?_notedBlocks positive, BlockTree.head?_blocks (by omega)]
    obtain ⟨last, final⟩ : ∃ last, (notedBlocks maxParallelRpcCalls
        (tree.blocks call.tip start stop) count).getLast? = some last := by
      cases noted : notedBlocks maxParallelRpcCalls (tree.blocks call.tip start stop) count with
      | nil => simp [noted] at first
      | cons block noted => exact ⟨_, List.getLast?_eq_some_getLast (by simp)⟩
    have nonempty : notedBlocks maxParallelRpcCalls
        (tree.blocks call.tip start stop) count ≠ [] := by
      intro empty
      simp [empty] at first
    have ordered := (mem_blocks_iff.mp (mem_of_mem_notedBlocks (mem_of_getLast? final))).1
    simp only [Outcome.rejectIf, nonempty, ok_bind, first,
      final, expect_some, RangeInclusive.tryNew, ordered, eventsOf_blocks_eq_recorded known longest,
      Outcome.andThen, Call.write]
    cases call.fails .storeLatestEvents with
    | true => exact .unchanged (by simp) rfl
    | false =>
      refine .progressed count positive (by omega) ?_ ?_ ?_
      · cases isReorg <;>
          simp [Store.replaceEvents, Store.appendEvents, keptEvents,
            EventHandler.updateLastHandledBlocks, first]
      · simp [EventHandler.updateLastHandledBlocks, first]
      · intro _ done
        by_contra ne
        simp [ne] at done

theorem updateLatest_result (known : stop ≤ tree.number call.tip + 1) (nonempty : start < stop) :
    LatestResult tree content call.tip start stop isReorg handler
      (handler.updateLatest tree content call (tree.blocks call.tip start stop) isReorg) := by
  obtain ⟨last, rfl⟩ : ∃ last, stop = last + 1 := ⟨stop - 1, by omega⟩
  rw [EventHandler.updateLatest, BlockTree.getLast?_blocks (Nat.le_of_lt_succ nonempty)]
  have result : LatestResult tree content call.tip start (last + 1) isReorg
      handler (handler.updateEventsFromLatestBlocks tree content call
        (tree.blocks call.tip start (last + 1)) isReorg) :=
    updateEventsFromLatestBlocks_result known
  apply andThen_cases
  · intro value success
    cases result with
    | unchanged failed same => exact absurd success (failed value)
    | progressed count positive le events handled complete =>
      dsimp only [Call.write]
      refine .progressed count positive le ?_ handled (fun _ _ => complete value success)
      rw [← events]
      cases call.fails .persistLastIndexedBlock <;> rfl
  · intro _ failed failed'
    cases result with
    | unchanged failed same => exact .unchanged failed' same
    | progressed count positive le events handled complete =>
      exact .progressed count positive le events handled
        fun value success => absurd success (failed' value)

end

/-! ## Events of old blocks -/

/-- What the replay of a range of old blocks can leave behind.  When it fails
midway, the first of its events may already be stored. -/
inductive OldResult (tree : BlockTree Hash) (content : Hash → List Event)
    (tip : Hash) (range : RangeInclusive) (before : EventHandler Hash Event)
    (result : Outcome Error Unit × EventHandler Hash Event) : Prop
  | unchanged (failed : ∀ value, result.1 ≠ .ok value) (same : result.2 = before)
  | begun (failed : ∀ value, result.1 ≠ .ok value) (done : List (Nat × Event))
      (first : done <+: tree.recorded content tip range.start (range.stop + 1))
      (same : result.2 = { before with store := { before.store with
        events := before.store.events.filter (·.1 < range.start) ++ done } })
  | finished (success : result.1 = .ok ()) (same : result.2 =
        ({ before with store := { before.store with
          events := before.store.events.filter (·.1 < range.start) ++
            tree.recorded content tip range.start (range.stop + 1) } } :
          EventHandler Hash Event).updateLastHandledBlocks
            (tree.blocks tip (range.stop - maxReorgBlockCount) (range.stop + 1)))

theorem mapM_id_eq_some_iff {items : List (Option α)} {values : List α} :
    items.mapM id = some values ↔ items = values.map some := by
  induction items generalizing values with
  | nil => cases values <;> simp
  | cons item items ih =>
    cases item with
    | none => cases values <;> simp
    | some value =>
      cases values with
      | nil => simp [bind_eq_some_iff]
      | cons first values =>
        simp only [mapM_cons, id_eq, bind_eq_bind,
          Option.bind_some, Option.pure_def, Option.bind_eq_some_iff,
          ih, Option.some.injEq, List.cons.injEq, map_cons]
        constructor
        · rintro ⟨_, rfl, rfl, rfl⟩
          exact ⟨rfl, rfl⟩
        · rintro ⟨rfl, rfl⟩
          exact ⟨values, rfl, rfl, rfl⟩

section

variable (call) (range) (eventsChunks : List (List (Option (Nat × Event)))) (store : Store Event)

/-- The loop after its first chunk appends events of the stream, all of them
unless it fails. -/
theorem storeOldEvents_append {chunk : Nat} (later : chunk ≠ 0) :
    ∃ done, done <+: leading eventsChunks.flatten ∧
      (EventHandler.storeOldEvents call range chunk eventsChunks store).2 =
        store.appendEvents done ∧
      ∀ value, (EventHandler.storeOldEvents call range chunk eventsChunks store).1 =
          .ok value → eventsChunks.flatten = done.map some := by
  induction eventsChunks generalizing chunk store with
  | nil =>
    rw [EventHandler.storeOldEvents]
    · simp [Store.appendEvents]
    · exact later
  | cons eventsChunk eventsChunks ih =>
    rw [EventHandler.storeOldEvents]
    cases collected : eventsChunk.mapM id with
    | none =>
      refine ⟨[], nil_prefix, ?_, ?_⟩
      · simp [Store.appendEvents]
      · simp
    | some events =>
      have present := mapM_id_eq_some_iff.mp collected
      dsimp only [Call.write]
      cases call.fails (.storeOldEvents chunk) with
      | true =>
        refine ⟨[], nil_prefix, ?_, ?_⟩
        · simp [Outcome.andThen, Store.appendEvents]
        · simp [Outcome.andThen]
      | false =>
        obtain ⟨done, first, stored, complete⟩ :=
          ih (store.appendEvents events) (Nat.succ_ne_zero chunk)
        simp only [Outcome.andThen, if_neg later, Bool.false_eq_true, if_false]
        refine ⟨events ++ done, ?_, ?_, ?_⟩
        · rw [flatten_cons, present, leading_map_some_append]
          exact (prefix_append_right_inj events).mpr first
        · rw [stored]
          simp [Store.appendEvents]
        · intro value success
          rw [flatten_cons, present, complete value success, map_append]

/-- The loop as a whole changes nothing or replaces the events of the range. -/
theorem storeOldEvents_replace :
    (EventHandler.storeOldEvents call range 0 eventsChunks store).2 = store ∧
        (∀ value, (EventHandler.storeOldEvents call range 0 eventsChunks store).1 ≠ .ok value) ∨
      ∃ done, done <+: leading eventsChunks.flatten ∧
        (EventHandler.storeOldEvents call range 0 eventsChunks store).2 =
          store.replaceEvents done range ∧
        ∀ value, (EventHandler.storeOldEvents call range 0 eventsChunks store).1 =
            .ok value → eventsChunks.flatten = done.map some := by
  cases eventsChunks with
  | nil =>
    rw [EventHandler.storeOldEvents]
    dsimp only [Call.write]
    cases call.fails (.storeOldEvents 0) with
    | true => exact .inl ⟨rfl, by simp⟩
    | false => exact .inr ⟨[], nil_prefix, rfl, fun _ _ => rfl⟩
  | cons eventsChunk eventsChunks =>
    rw [EventHandler.storeOldEvents]
    cases collected : eventsChunk.mapM id with
    | none => exact .inl ⟨rfl, by simp⟩
    | some events =>
      have present := mapM_id_eq_some_iff.mp collected
      dsimp only [Call.write]
      cases call.fails (.storeOldEvents 0) with
      | true => exact .inl ⟨rfl, by simp [Outcome.andThen]⟩
      | false =>
        right
        obtain ⟨done, first, stored, complete⟩ := storeOldEvents_append call range eventsChunks
            (store.replaceEvents events range) Nat.one_ne_zero
        simp only [Outcome.andThen, if_true, Bool.false_eq_true, if_false]
        refine ⟨events ++ done, ?_, ?_, ?_⟩
        · rw [flatten_cons, present, leading_map_some_append]
          exact (prefix_append_right_inj events).mpr first
        · rw [stored]
          simp [Store.appendEvents, Store.replaceEvents]
        · intro value success
          rw [flatten_cons, present, complete value success, map_append]

/-- The stream starts with events of the range and has all of them when it
ends without an error. -/
theorem getEventsByBlockRange_events {stream : List (Option (Nat × Event))}
    (streamed : call.getEventsByBlockRange tree content range = .ok stream) :
    leading stream <+: tree.recorded content call.tip range.start (range.stop + 1) ∧
      ∀ done, stream = done.map some →
        done = tree.recorded content call.tip range.start (range.stop + 1) := by
  unfold Call.getEventsByBlockRange at streamed
  split at streamed
  · cases streamed
  · cases streamError : call.streamError with
    | none =>
      simp only [streamError, ok.injEq] at streamed
      subst streamed
      refine ⟨?_, ?_⟩
      · rw [← append_nil (List.map _ _), leading_map_some_append]
        exact (append_nil _).symm ▸ prefix_refl _
      · intro done same
        exact (map_injective_iff.mpr (fun _ _ => Option.some.inj) same).symm
    | some count =>
      simp only [streamError, ok.injEq] at streamed
      subst streamed
      refine ⟨?_, ?_⟩
      · rw [leading_map_some_append]
        exact (append_nil _).symm ▸ take_prefix _ _
      · intro done same
        have absent : none ∈ done.map some := by
          rw [← same]
          simp
        simp at absent

theorem updateEventsFromOldBlocks_result [DecidableEq Hash] {handler : EventHandler Hash Event} :
    OldResult tree content call.tip range handler
      (handler.updateEventsFromOldBlocks tree content call range) := by
  unfold EventHandler.updateEventsFromOldBlocks
  apply andThen_cases
  · intro (_, _) requested
    simp only [bind_eq_ok_iff, RangeInclusive.tryNew_eq_ok_iff,
      Call.blocks_eq_ok_iff, pure_eq, ok.injEq,
      Prod.mk.injEq] at requested
    obtain ⟨_, ⟨start, stop⟩, _, ⟨_, _, rfl⟩, stream, streamed, rfl, rfl⟩ := requested
    rw [start, stop]
    have events := getEventsByBlockRange_events call range streamed
    have whole := flatten_chunks (show 0 < insertEventBatchSize by decide) stream
    dsimp only
    rcases storeOldEvents_replace call range (chunks insertEventBatchSize stream) handler.store with
      ⟨same, failed⟩ | ⟨done, first, stored, complete⟩
    · rw [same]
      apply andThen_cases
      · intro value success
        exact absurd success (failed value)
      · intro outcome _ failed'
        exact .unchanged failed' rfl
    · rw [whole] at first complete
      rw [stored]
      apply andThen_cases
      · intro value success
        have all := events.2 done (complete value success)
        exact .finished rfl (by rw [all]; rfl)
      · intro outcome _ failed'
        exact .begun failed' done (first.trans events.1) rfl
  · intro outcome _ failed
    exact .unchanged failed rfl

end

end MandateSolver.EventHandling
