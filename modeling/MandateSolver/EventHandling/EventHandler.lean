import MandateSolver.Foundation.BlockTree
import MandateSolver.Foundation.Chunks
import MandateSolver.Foundation.Outcome

/-!
# The event handler

The handler remembers the last blocks to notice a reorg.  What is far behind is fetched by
block numbers, the rest block by block.
-/

namespace MandateSolver.EventHandling

def maxReorgBlockCount : Nat := 64

def insertEventBatchSize : Nat := 10000

def maxBlocksQueried : Nat := 2 * maxReorgBlockCount

def maxParallelRpcCalls : Nat := 128

/-- A call to the node or to the store that failed, with the context the
handler adds to it, or an error of the handler itself. -/
inductive Error where
  | request
  | context (text : String)
  | text (message : String)
  deriving DecidableEq

structure RangeInclusive where
  (start stop : Nat)
  ordered : start ≤ stop

def RangeInclusive.tryNew (start stop : Nat) : Outcome Error RangeInclusive :=
  if ordered : start ≤ stop then .ok ⟨start, stop, ordered⟩
  else .err (.text "end has to be bigger or equal to start")

/-! ## What one update sees -/

/-- What the handler asks for. -/
inductive Request where
  | lastEventBlock
  | handledBlock
  | currentBlock
  | newBlocks
  | latestBlocks
  | oldBlocks
  | oldEvents
  | storeOldEvents (chunk : Nat)
  | eventsByBlockHash (position : Nat)
  | storeLatestEvents
  | persistLastIndexedBlock

/-- The canonical chain during an update, by its head, and which calls fail.
The stream of old events may break off after some of them. -/
structure Call (Hash : Type) where
  tip : Hash
  fails : Request → Bool
  streamError : Option Nat

section

variable {Hash Event α : Type} (tree : BlockTree Hash)
  (content : Hash → List Event) (call : Call Hash)

def Call.ask (request : Request) (answer : α) : Outcome Error α :=
  if call.fails request then .err .request else .ok answer

def Call.blocks (request : Request) (range : RangeInclusive) : Outcome Error (List (Nat × Hash)) :=
  if range.stop ≤ tree.number call.tip then
    call.ask request (tree.blocks call.tip range.start (range.stop + 1))
  else .err .request

def Call.getEventsByBlockHash (position : Nat) (hash : Hash) : Option (List (Nat × Event)) :=
  if call.fails (.eventsByBlockHash position) then none
  else some ((content hash).map (tree.number hash, ·))

/-- An absent item is an error in the stream; what comes after it is never
looked at. -/
def Call.getEventsByBlockRange (range : RangeInclusive) :
    Outcome Error (List (Option (Nat × Event))) :=
  let events := tree.recorded content call.tip range.start (range.stop + 1)
  if call.fails .oldEvents then .err (.context "failed to get past events")
  else match call.streamError with
    | none => .ok (events.map some)
    | some count => .ok ((events.take count).map some ++ [none])

end

/-! ## The store -/

/-- The stored events by block. -/
structure Store (Event : Type) where
  events : List (Nat × Event)
  lastIndexedBlock : Nat
  deriving DecidableEq

namespace Store

variable {Event : Type} (store : Store Event)

def replaceEvents (events : List (Nat × Event)) (range : RangeInclusive) : Store Event :=
  { store with events := store.events.filter (·.1 < range.start) ++ events }

def appendEvents (events : List (Nat × Event)) : Store Event :=
  { store with events := store.events ++ events }

def persistLastIndexedBlock (lastBlock : Nat) : Store Event :=
  { store with lastIndexedBlock := lastBlock }

end Store

def Call.write {Hash Event : Type} (call : Call Hash) (request : Request)
    (before after : Store Event) : Outcome Error Unit × Store Event :=
  if call.fails request then (.err .request, before) else (.ok (), after)

/-! ## Requests block by block -/

/-- Blocks with their events. -/
structure Fetched (Hash Event : Type) where
  blocks : List (Nat × Hash)
  events : List (Nat × Event)
  deriving DecidableEq

section

variable {ε Hash Event : Type}

def joinAll (request : Nat → Hash → Option (List (Nat × Event)))
    (position : Nat) (chunk : List (Nat × Hash)) : List (Option (List (Nat × Event))) :=
  chunk.mapIdx fun i block => request (position + i) block.2

/-- The loop over the results of a chunk.  It tells whether to go on with the
next chunk. -/
def collectChunk (blocks : List (Nat × Hash)) :
    Nat → List (Option (List (Nat × Event))) → Fetched Hash Event →
      Outcome ε (Fetched Hash Event × Bool)
  | _, [], fetched => .ok (fetched, true)
  | _, none :: _, fetched => .ok (fetched, false)
  | i, some events :: results, fetched => do
    -- the position is the one inside the chunk
    let block ← Outcome.index blocks i
    collectChunk blocks (i + 1) results ⟨fetched.blocks ++ [block], fetched.events ++ events⟩

def collectChunks (request : Nat → Hash → Option (List (Nat × Event)))
    (blocks : List (Nat × Hash)) :
    Nat → List (List (Nat × Hash)) → Fetched Hash Event → Outcome ε (Fetched Hash Event)
  | _, [], fetched => .ok fetched
  | position, chunk :: chunks, fetched => do
    let (fetched, goOn) ←
      collectChunk blocks 0 (joinAll request position chunk) fetched
    if goOn then
      collectChunks request blocks (position + chunk.length) chunks fetched
    else .ok fetched

def pastEventsByBlockHashes (request : Nat → Hash → Option (List (Nat × Event)))
    (blocks : List (Nat × Hash)) : Outcome ε (Fetched Hash Event) :=
  collectChunks request blocks 0 (chunks maxParallelRpcCalls blocks) ⟨[], []⟩

end

/-! ## Ranges of blocks -/

/-- The blocks of one update. -/
structure EventRange (Hash : Type) where
  historyRange : Option RangeInclusive
  latestBlocks : List (Nat × Hash)
  isReorg : Bool

def splitRange (range : RangeInclusive) : Option RangeInclusive × RangeInclusive :=
  if large : range.stop - range.start > maxBlocksQueried then
    (some ⟨range.start, range.stop - maxBlocksQueried, by omega⟩,
      ⟨range.stop - maxBlocksQueried + 1, range.stop, by
        unfold maxBlocksQueried maxReorgBlockCount at *
        omega⟩)
  else (none, range)

section

variable {Hash Event : Type} [DecidableEq Hash]

def detectReorgPath (handledBlocks latestBlocks : List (Nat × Hash)) : List (Nat × Hash) × Bool :=
  let common := handledBlocks.reverse.findSome? fun handledBlock =>
    (latestBlocks.zipIdx.reverse.find? (·.1 = handledBlock)).map fun latestBlock =>
        (latestBlocks.drop (latestBlock.2 + 1), decide (handledBlocks.getLast? ≠ some handledBlock))
  match common with
  | some path => path
  | none => (latestBlocks, !handledBlocks.isEmpty)

/-- The store and the handled blocks. -/
structure EventHandler (Hash Event : Type) where
  store : Store Event
  lastHandledBlocks : List (Nat × Hash)

namespace EventHandler

def new (store : Store Event) (startSyncAtBlock : Option (Nat × Hash)) : EventHandler Hash Event :=
  ⟨store, startSyncAtBlock.toList⟩

def newSkipBlocksBefore (call : Call Hash) (store : Store Event)
    (skipBlocksBefore : Nat × Hash) : Outcome Error (EventHandler Hash Event) := do
  let lastHandledBlock ← call.ask .lastEventBlock store.lastIndexedBlock
  pure (new store (if lastHandledBlock ≥ skipBlocksBefore.1 then none
      else some skipBlocksBefore))

variable (tree : BlockTree Hash) (content : Hash → List Event)
  (call : Call Hash) (handler : EventHandler Hash Event)

/-! ## Which blocks to update -/

def handledBlocks : Outcome Error (List (Nat × Hash)) :=
  if handler.lastHandledBlocks.isEmpty then do
    let lastHandledBlock ←
      call.ask .lastEventBlock handler.store.lastIndexedBlock
    let range ← RangeInclusive.tryNew lastHandledBlock lastHandledBlock
    call.blocks tree .handledBlock range
  else .ok handler.lastHandledBlocks

section

variable (handledBlocks : List (Nat × Hash)) (lastHandledBlock : Nat × Hash)

def fullEventRange : Outcome Error (EventRange Hash) := do
  let blockRange ← RangeInclusive.tryNew
    (lastHandledBlock.1 - maxReorgBlockCount) (tree.number call.tip)
  let latestBlocks ← call.blocks tree .latestBlocks (splitRange blockRange).2
  match (splitRange blockRange).1 with
  | some historyRange => pure ⟨some historyRange, latestBlocks, true⟩
  | none =>
    let path := detectReorgPath handledBlocks latestBlocks
    pure ⟨none, path.1, path.2⟩

def eventRangeAfter : Outcome Error (EventRange Hash) :=
  if tree.parentHash call.tip = some lastHandledBlock.2 then
    .ok ⟨none, [(tree.number call.tip, call.tip)], false⟩
  else if (tree.number call.tip, call.tip) = lastHandledBlock then
    .ok ⟨none, [], false⟩
  else if small : lastHandledBlock.1 ≤ tree.number call.tip ∧
      tree.number call.tip - lastHandledBlock.1 ≤ maxReorgBlockCount then do
    let newBlocks ← call.blocks tree .newBlocks
      ⟨lastHandledBlock.1, tree.number call.tip, small.1⟩
    if newBlocks.head?.map Prod.snd = some lastHandledBlock.2 then
      .ok ⟨none, newBlocks.tail, false⟩
    else fullEventRange tree call handledBlocks lastHandledBlock
  else fullEventRange tree call handledBlocks lastHandledBlock

end

def eventBlockRange : Outcome Error (EventRange Hash) := do
  let handledBlocks ← handler.handledBlocks tree call
  let _currentBlock ← call.ask .currentBlock call.tip
  let lastHandledBlock ← Outcome.expect
    "called Option::unwrap() on a None value" handledBlocks.getLast?
  eventRangeAfter tree call handledBlocks lastHandledBlock

/-! ## Updates -/

def updateLastHandledBlocks (blocks : List (Nat × Hash)) : EventHandler Hash Event :=
  match blocks.head? with
  | none => handler
  | some first =>
    let updated :=
      handler.lastHandledBlocks.filter (·.1 < first.1) ++ blocks
    { handler with
      lastHandledBlocks := updated.drop (updated.length - maxReorgBlockCount) }

/-- The loop over the chunks of old events.  The first of them replaces the
events that are stored for the range; without any chunk they are only deleted. -/
def storeOldEvents (range : RangeInclusive) :
    Nat → List (List (Option (Nat × Event))) → Store Event → Outcome Error Unit × Store Event
  | 0, [], store =>
    call.write (.storeOldEvents 0) store (store.replaceEvents [] range)
  | _, [], store => (.ok (), store)
  | chunk, eventsChunk :: later, store =>
    match eventsChunk.mapM id with
    | none => (.err (.context "failed to get next chunk of events"), store)
    | some events =>
      Outcome.andThen (call.write (.storeOldEvents chunk) store
          (if chunk = 0 then store.replaceEvents events range
            else store.appendEvents events))
        fun _ store => storeOldEvents range (chunk + 1) later store

def updateEventsFromOldBlocks (range : RangeInclusive) :
    Outcome Error Unit × EventHandler Hash Event :=
  let requested : Outcome Error (_ × _) := do
    let blockRange ← RangeInclusive.tryNew
      (range.stop - maxReorgBlockCount) range.stop
    let blocks ← call.blocks tree .oldBlocks blockRange
    let events ← call.getEventsByBlockRange tree content range
    pure (blocks, events)
  Outcome.andThen (requested, handler) fun (blocks, events) handler =>
    let stored := storeOldEvents call range 0
      (chunks insertEventBatchSize events) handler.store
    Outcome.andThen (stored.1, { handler with store := stored.2 })
      fun _ handler => (.ok (), handler.updateLastHandledBlocks blocks)

def updateEventsFromLatestBlocks (latestBlocks : List (Nat × Hash))
    (isReorg : Bool) : Outcome Error Unit × EventHandler Hash Event :=
  let requested : Outcome Error (_ × RangeInclusive) := do
    let fetched ← pastEventsByBlockHashes
      (call.getEventsByBlockHash tree content) latestBlocks
    Outcome.rejectIf (fetched.blocks = []) (.text "no blocks to be updated - all filtered out")
    let first ← Outcome.expect
      "called Option::unwrap() on a None value" fetched.blocks.head?
    let last ← Outcome.expect
      "called Option::unwrap() on a None value" fetched.blocks.getLast?
    let range ← RangeInclusive.tryNew first.1 last.1
    pure (fetched, range)
  Outcome.andThen (requested, handler) fun (fetched, range) handler =>
    let stored := call.write .storeLatestEvents handler.store
      (if isReorg then handler.store.replaceEvents fetched.events range
        else handler.store.appendEvents fetched.events)
    Outcome.andThen (stored.1, { handler with store := stored.2 }) fun _ handler =>
        (Outcome.rejectIf (fetched.blocks ≠ latestBlocks) (.text "update done partially"),
          handler.updateLastHandledBlocks fetched.blocks)

def updateHistory (historyRange : Option RangeInclusive) :
    Outcome Error Unit × EventHandler Hash Event :=
  match historyRange with
  | none => (.ok (), handler)
  | some range => handler.updateEventsFromOldBlocks tree content call range

def updateLatest (latestBlocks : List (Nat × Hash)) (isReorg : Bool) :
    Outcome Error Unit × EventHandler Hash Event :=
  match latestBlocks.getLast? with
  | none => (.ok (), handler)
  | some lastBlock =>
    Outcome.andThen (handler.updateEventsFromLatestBlocks tree content call latestBlocks isReorg)
      fun _ handler =>
        let stored := call.write .persistLastIndexedBlock handler.store
          (handler.store.persistLastIndexedBlock lastBlock.1)
        (stored.1, { handler with store := stored.2 })

def updateEvents : Outcome Error Unit × EventHandler Hash Event :=
  Outcome.andThen (handler.eventBlockRange tree call, handler) fun eventRange handler =>
      Outcome.andThen (handler.updateHistory tree content call eventRange.historyRange)
        fun _ handler => handler.updateLatest tree content call
          eventRange.latestBlocks eventRange.isReorg

end EventHandler

end

end MandateSolver.EventHandling
