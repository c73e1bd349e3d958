import MandateSolver.RecentBlockCache.Inner
import MandateSolver.UniswapV3.EventFetching

/-!
# Fetching Uniswap V3 pools

The pools of a block are those of the checkpoint with the recent events applied.  The
checkpoint and the events have a lock each, so the steps of fetches and of the maintenance
may come in any order.
-/

namespace MandateSolver.UniswapV3

open EventHandling
open RecentBlockCache (Block)

/-! ## The checkpoint -/

/-- Pools as of some block. -/
structure PoolsCheckpoint where
  pools : Pools
  blockNumber : Nat
  missingPools : List Address

namespace PoolsCheckpoint

/-- Only pools with ticks and a valid fee are known at first. -/
def new (pools : List PoolData) (fetchedBlockNumber : Nat) : PoolsCheckpoint where
  pools := EntryMap.collect
    (pools.filterMap fun pool => (PoolInfo.tryFrom pool).map fun info => (pool.id, info))
  blockNumber := fetchedBlockNumber
  missingPools := []

/-- The known pools of some token pairs and the block they belong to.  The other
pools are noted as missing. -/
def get (poolsByTokenPair : TokenPair → List Address) (tokenPairs : List TokenPair)
    (checkpoint : PoolsCheckpoint) : (Pools × Nat) × PoolsCheckpoint :=
  let poolIds := tokenPairs.flatMap poolsByTokenPair
  if poolIds.isEmpty then ((⟨[], List.nodup_nil⟩, 0), checkpoint)
  else
    let existingPools := poolIds.filterMap fun id =>
      (checkpoint.pools.get id).map fun pool => (id, pool)
    let missingPools := poolIds.filter fun id => (checkpoint.pools.get id).isNone
    ((EntryMap.collect existingPools, checkpoint.blockNumber),
      { checkpoint with missingPools := checkpoint.missingPools ∪ missingPools })

/-- The loop over the pools that were missing.  It ends at the first pool that is
no valid one. -/
def addPools (checkpoint : PoolsCheckpoint) : List PoolData → PoolsCheckpoint
  | [] => checkpoint
  | pool :: pools =>
    let found :=
      { checkpoint with missingPools := checkpoint.missingPools.erase pool.id }
    match PoolInfo.tryFrom pool with
    | none => found
    | some info => addPools { found with pools := found.pools.insert pool.id info } pools

def moveTo (checkpoint : PoolsCheckpoint) (block : Nat) (events : List WithAddress) :
    PoolsCheckpoint :=
  { checkpoint with
    pools := appendEvents checkpoint.pools events
    blockNumber := block }

end PoolsCheckpoint

/-! ## The events -/

section

variable {Hash : Type} (tree : BlockTree Hash) (content : Hash → List LogEvent)

/-- The event handler, with the head of the chain that its last update has seen
and whether that update has succeeded. -/
structure Events (Hash : Type) where
  handler : EventHandler Hash LogEvent
  head : Hash
  upToDate : Bool

def Events.new (block : Nat × Hash) : Events Hash where
  handler := .new ⟨[], 0⟩ (some block)
  head := block.2
  upToDate := true

def Events.runMaintenance [DecidableEq Hash] (call : EventHandling.Call Hash)
    (events : Events Hash) : Events Hash :=
  let result := events.handler.updateEvents tree content call
  ⟨result.2, call.tip, result.1 = .ok ()⟩

def Events.cache (events : Events Hash) : RecentEventsCache :=
  .ofStore events.handler.store

def Events.lastHandledBlock (events : Events Hash) : Nat :=
  (events.handler.lastHandledBlocks.getLast?.map Prod.fst).getD 0

def Events.removeEventsOlderThanBlock (block : Nat) (events : Events Hash) : Events Hash :=
  { events with handler.store := pruned events.handler.store block }

end

/-! ## Fetches -/

/-- Where a fetch awaits something. -/
inductive FetchPhase where
  | resolving (atBlock : Block)
  | checking (blockNumber : Nat)
  | updating (blockNumber : Nat)
  | looking (blockNumber : Nat)
  | reading (blockNumber : Nat) (pools : Pools) (checkpointBlock : Nat)
  | returned (blockNumber : Nat) (pools : List PoolInfo)

structure Fetch where
  tokenPairs : List TokenPair
  phase : FetchPhase

def withLiquidity (pools : Pools) : List PoolInfo :=
  (pools.entries.map Prod.snd).filter fun pool => 0 < pool.state.liquidity

/-! ## Maintenance -/

/-- The update of the missing pools, which runs next to the update of the
events. -/
inductive MissingPhase where
  | start
  | asked (poolIds : List Address) (blockNumber : Nat)
  | done

/-- Where the maintenance awaits something. -/
inductive MaintenancePhase where
  | idle
  | updating (events : Option Bool) (missing : MissingPhase)
  | lastEventBlock
  | oldCheckpointBlock (lastEventBlock : Nat)
  | readingEvents (oldBlock newBlock : Nat)
  | appendingEvents (newBlock : Nat) (events : List WithAddress)
  | removingEvents (newBlock : Nat)

/-- Only a failed update of the events ends the maintenance. -/
def MaintenancePhase.join (events : Option Bool) (missing : MissingPhase) : MaintenancePhase :=
  match events, missing with
  | some true, .done => .lastEventBlock
  | some false, .done => .idle
  | events, missing => .updating events missing

/-! ## Steps -/

/-- The shared state and all tasks. -/
structure PoolFetcher (Hash : Type) where
  events : Events Hash
  checkpoint : PoolsCheckpoint
  fetches : List Fetch
  maintenance : MaintenancePhase

/-- A step with what comes from outside: the chain and the failures an event
update meets, and the answer of the subgraph. -/
inductive Action (Hash : Type) where
  | startFetch (tokenPairs : List TokenPair) (atBlock : Block)
  | continueFetch (id : Nat) (call : EventHandling.Call Hash)
  | startMaintenance
  | updateEvents (call : EventHandling.Call Hash)
  | updateMissingPools (answer : Option (List PoolData))
  | moveCheckpointToFuture

namespace PoolFetcher

variable {Hash : Type} (tree : BlockTree Hash)
  (content : Hash → List LogEvent) (poolsByTokenPair : TokenPair → List Address)

def new (pools : List PoolData) (block : Nat × Hash) : PoolFetcher Hash where
  events := .new block
  checkpoint := .new pools block.1
  fetches := []
  maintenance := .idle

def fetchStep [DecidableEq Hash] (call : EventHandling.Call Hash)
    (fetcher : PoolFetcher Hash) (fetch : Fetch) : PoolFetcher Hash × FetchPhase :=
  match fetch.phase with
  | .resolving (.number number) => (fetcher, .checking number)
  | .resolving _ =>
    (fetcher, .checking (fetcher.events.cache.lastEventBlock.getD 0))
  | .checking blockNumber =>
    (fetcher, if blockNumber > fetcher.events.lastHandledBlock then .updating blockNumber
      else .looking blockNumber)
  | .updating blockNumber =>
    let events := fetcher.events.runMaintenance tree content call
    ({ fetcher with events }, if events.upToDate then .looking blockNumber
      else .returned blockNumber [])
  | .looking blockNumber =>
    let ((pools, checkpointBlock), checkpoint) :=
      fetcher.checkpoint.get poolsByTokenPair fetch.tokenPairs
    ({ fetcher with checkpoint }, if blockNumber > checkpointBlock then
        .reading blockNumber pools checkpointBlock
      else .returned blockNumber (withLiquidity pools))
  | .reading blockNumber pools checkpointBlock =>
    let events := fetcher.events.cache.getEvents (checkpointBlock + 1) blockNumber
    (fetcher, .returned blockNumber (withLiquidity (appendEvents pools events)))
  | .returned blockNumber pools => (fetcher, .returned blockNumber pools)

def updateMissingPools (answer : Option (List PoolData)) (events : Option Bool)
    (missing : MissingPhase) (fetcher : PoolFetcher Hash) : PoolFetcher Hash :=
  match missing with
  | .start =>
    if fetcher.checkpoint.missingPools.isEmpty then
      { fetcher with maintenance := .join events .done }
    else
      let asked := .asked fetcher.checkpoint.missingPools fetcher.checkpoint.blockNumber
      { fetcher with maintenance := .updating events asked }
  | .asked _ _ =>
    { fetcher with
      checkpoint := fetcher.checkpoint.addPools (answer.getD [])
      maintenance := .join events .done }
  | .done => fetcher

def moveCheckpointToFuture (fetcher : PoolFetcher Hash) : PoolFetcher Hash :=
  match fetcher.maintenance with
  | .lastEventBlock =>
    match fetcher.events.cache.lastEventBlock with
    | none => { fetcher with maintenance := .idle }
    | some last => { fetcher with maintenance := .oldCheckpointBlock last }
  | .oldCheckpointBlock lastEventBlock =>
    let oldBlock := fetcher.checkpoint.blockNumber
    let newBlock := max (lastEventBlock - maxReorgBlockCount) oldBlock
    if newBlock > oldBlock then
      { fetcher with maintenance := .readingEvents oldBlock newBlock }
    else { fetcher with maintenance := .idle }
  | .readingEvents oldBlock newBlock =>
    let events := fetcher.events.cache.getEvents (oldBlock + 1) newBlock
    { fetcher with maintenance := .appendingEvents newBlock events }
  | .appendingEvents newBlock events =>
    { fetcher with
      checkpoint := fetcher.checkpoint.moveTo newBlock events
      maintenance := .removingEvents newBlock }
  | .removingEvents newBlock =>
    { fetcher with
      events := fetcher.events.removeEventsOlderThanBlock newBlock
      maintenance := .idle }
  | .idle | .updating _ _ => fetcher

/-- What an action changes. -/
def step [DecidableEq Hash] (fetcher : PoolFetcher Hash) (action : Action Hash) :
    PoolFetcher Hash :=
  match action with
  | .startFetch tokenPairs atBlock =>
    { fetcher with
      fetches := fetcher.fetches ++ [⟨tokenPairs, .resolving atBlock⟩] }
  | .continueFetch id call =>
    match fetcher.fetches[id]? with
    | none => fetcher
    | some fetch =>
      let (next, phase) := fetcher.fetchStep tree content poolsByTokenPair call fetch
      { next with fetches := next.fetches.set id { fetch with phase } }
  | .startMaintenance =>
    match fetcher.maintenance with
    | .idle => { fetcher with maintenance := .updating none .start }
    | _ => fetcher
  | .updateEvents call =>
    match fetcher.maintenance with
    | .updating none missing =>
      let events := fetcher.events.runMaintenance tree content call
      { fetcher with
        events
        maintenance := .join (some events.upToDate) missing }
    | _ => fetcher
  | .updateMissingPools answer =>
    match fetcher.maintenance with
    | .updating events missing => fetcher.updateMissingPools answer events missing
    | _ => fetcher
  | .moveCheckpointToFuture => fetcher.moveCheckpointToFuture

def returns [DecidableEq Hash] (fetcher : PoolFetcher Hash) (action : Action Hash) :
    Option (Nat × List PoolInfo) := do
  let .continueFetch id call := action | none
  let fetch ← fetcher.fetches[id]?
  match fetch.phase, (fetcher.fetchStep tree content poolsByTokenPair call fetch).2 with
  | .returned _ _, _ => none
  | _, .returned blockNumber pools => some (blockNumber, pools)
  | _, _ => none

end PoolFetcher

end MandateSolver.UniswapV3
