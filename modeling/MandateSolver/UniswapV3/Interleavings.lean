import MandateSolver.UniswapV3.Consistency

/-!
# Fetches while the checkpoint moves

The checkpoint stays sound, and so does what a fetch has read of it, unless the maintenance
prunes events which the fetch has not read yet.
-/

namespace MandateSolver.UniswapV3

open EventHandling List EntryMap
open RecentBlockCache (Block)

variable {Hash : Type} {history : PoolHistory Hash} {fetcher : PoolFetcher Hash}
  {action : Action Hash}

section

variable (history) (fetcher) (action)

def PoolFetcher.phaseAt : Option FetchPhase :=
  match action with
  | .continueFetch id _ => fetcher.fetches[id]?.map Fetch.phase
  | _ => none

def PoolFetcher.eventUpdate : Option (EventHandling.Call Hash) :=
  match action, fetcher.phaseAt action, fetcher.maintenance with
  | .continueFetch _ call, some (.updating _), _ | .updateEvents call, _, .updating none _ =>
    some call
  | _, _, _ => none

/-- No reorg reaches the checkpoint, fetches are not for blocks before it, and
the subgraph does not lie. -/
structure Granted : Prop where
  noReorg : ∀ call, fetcher.eventUpdate action = some call →
    history.tree.AgreeBelow (fetcher.checkpoint.blockNumber + 1) fetcher.events.head call.tip
  notBefore : ∀ blockNumber, fetcher.phaseAt action = some (.looking blockNumber) →
    fetcher.checkpoint.blockNumber ≤ blockNumber
  truthful : ∀ updated poolIds blockNumber pools,
    fetcher.maintenance = .updating updated (.asked poolIds blockNumber) →
    action = .updateMissingPools (some pools) →
    Truthful history fetcher.events.head blockNumber pools

/-- What the fetcher does not check.  The events up to a block are read while
they are all handled and the head is not before it.  The event handler is not asked
too much, and no reorg reaches the block to which the checkpoint is moved.  Events are
pruned when no fetch still needs them. -/
structure Careful : Prop where
  consistent : ∀ call, fetcher.eventUpdate action = some call →
    Consistent history.tree fetcher.events.handler (history.tree.number fetcher.events.head) call ∧
      ¬ OverfullFromFirstBlock history.tree fetcher.events.handler call
  noReorg : ∀ call newBlock events, fetcher.eventUpdate action = some call →
    fetcher.maintenance = .appendingEvents newBlock events →
    history.tree.AgreeBelow (newBlock + 1) fetcher.events.head call.tip
  fetchHandled : ∀ blockNumber pools checkpointBlock,
    fetcher.phaseAt action = some (.reading blockNumber pools checkpointBlock) →
    blockNumber ≤ history.tree.number fetcher.events.head ∧
      Handled history fetcher.events blockNumber
  moveHandled : ∀ oldBlock newBlock, action = .moveCheckpointToFuture →
    fetcher.maintenance = .readingEvents oldBlock newBlock →
    newBlock ≤ history.tree.number fetcher.events.head ∧ Handled history fetcher.events newBlock
  noneReading : ∀ newBlock, action = .moveCheckpointToFuture →
    fetcher.maintenance = .removingEvents newBlock →
    ∀ fetch ∈ fetcher.fetches, ∀ blockNumber pools checkpointBlock,
      fetch.phase = .reading blockNumber pools checkpointBlock →
      pools.entries ≠ [] → newBlock ≤ checkpointBlock + 1

end

/-! ## The invariant -/

section

variable (history)

/-- The invariant of a fetch at its await point. -/
def FetchSound (events : Events Hash) (checkpointBlock : Nat) : FetchPhase → Prop
  | .reading blockNumber pools block =>
    block < blockNumber ∧ (pools.entries ≠ [] →
      block ≤ checkpointBlock ∧ Sound history events pools block)
  | _ => True

/-- Missing pools are asked for at the checkpoint. -/
def MissingSound (checkpointBlock : Nat) : MissingPhase → Prop
  | .asked _ blockNumber => blockNumber = checkpointBlock
  | _ => True

/-- The invariant of the maintenance at its await point. -/
def MaintenanceSound (events : Events Hash) (checkpointBlock : Nat) : MaintenancePhase → Prop
  | .updating _ missing => MissingSound checkpointBlock missing
  | .readingEvents oldBlock newBlock =>
    oldBlock = checkpointBlock ∧ checkpointBlock < newBlock
  | .appendingEvents newBlock read =>
    checkpointBlock < newBlock ∧ newBlock ≤ history.tree.number events.head ∧
      read = history.events events.head (checkpointBlock + 1) (newBlock + 1)
  | .removingEvents newBlock => newBlock = checkpointBlock
  | _ => True

/-- The invariant of all tasks together. -/
structure FetcherSound (fetcher : PoolFetcher Hash) : Prop where
  checkpoint : Sound history fetcher.events fetcher.checkpoint.pools fetcher.checkpoint.blockNumber
  fetches : ∀ fetch ∈ fetcher.fetches,
    FetchSound history fetcher.events fetcher.checkpoint.blockNumber fetch.phase
  maintenance : MaintenanceSound history fetcher.events fetcher.checkpoint.blockNumber
    fetcher.maintenance

variable {history} {events : Events Hash} {block : Nat} {missing : MissingPhase}

/-- A step keeps a fetch sound when it keeps what the fetch has read sound. -/
theorem FetchSound.imp {phase : FetchPhase} {later : Events Hash} {bound : Nat}
    (sound : FetchSound history events bound phase)
    (keeps : ∀ blockNumber pools read, phase = .reading blockNumber pools read →
      pools.entries ≠ [] → read ≤ bound → Sound history events pools read →
      read ≤ block ∧ Sound history later pools read) : FetchSound history later block phase := by
  cases phase with
  | reading blockNumber pools read =>
    refine ⟨sound.1, fun nonempty => ?_⟩
    obtain ⟨le, readSound⟩ := sound.2 nonempty
    exact keeps blockNumber pools read rfl nonempty le readSound
  | _ => trivial

theorem MissingSound.join (sound : MissingSound block missing)
    (updated : Option Bool) : MaintenanceSound history events block (.join updated missing) := by
  unfold MaintenancePhase.join
  split
  · trivial
  · trivial
  · exact sound

variable {fetch : Fetch}

theorem FetcherSound.set (sound : FetcherSound history fetcher) (id : Nat)
    (next : FetchSound history fetcher.events fetcher.checkpoint.blockNumber fetch.phase) :
    FetcherSound history { fetcher with fetches := fetcher.fetches.set id fetch } where
  checkpoint := sound.checkpoint
  maintenance := sound.maintenance
  fetches := by
    intro other mem
    rcases mem_or_eq_of_mem_set mem with old | rfl
    · exact sound.fetches other old
    · exact next

variable {call : EventHandling.Call Hash}

theorem FetcherSound.runMaintenance [DecidableEq Hash]
    (sound : FetcherSound history fetcher) (granted : Granted history fetcher action)
    (careful : Careful history fetcher action) (updates : fetcher.eventUpdate action = some call) :
    FetcherSound history { fetcher with
      events := fetcher.events.runMaintenance history.tree history.content call } := by
  have agree := granted.noReorg call updates
  obtain ⟨consistent, roomy⟩ := careful.consistent call updates
  refine ⟨sound.checkpoint.runMaintenance consistent roomy agree, ?_, ?_⟩
  · intro fetch mem
    refine (sound.fetches fetch mem).imp fun _ _ _ _ _ le readSound => ⟨le, ?_⟩
    exact readSound.runMaintenance consistent roomy (agree.mono (by omega))
  · have old := sound.maintenance
    cases phase : fetcher.maintenance with
    | appendingEvents newBlock read =>
      rw [phase] at old
      have stays := careful.noReorg call newBlock read updates phase
      refine ⟨old.1, Nat.le_trans old.2.1 consistent.notDecreasing, ?_⟩
      exact old.2.2.trans (PoolHistory.events_congr stays)
    | _ =>
      rw [phase] at old
      exact old

/-! ## Steps -/

variable {pool : PoolInfo} {checkpoint : PoolsCheckpoint} {address : Address}

theorem get_checkpoint {poolsByTokenPair : TokenPair → List Address} {tokenPairs : List TokenPair}
    (found : (checkpoint.get poolsByTokenPair tokenPairs).1.1.get address = some pool) :
    (checkpoint.get poolsByTokenPair tokenPairs).1.2 = checkpoint.blockNumber ∧
      checkpoint.pools.get address = some pool := by
  unfold PoolsCheckpoint.get at found ⊢
  by_cases none : (tokenPairs.flatMap poolsByTokenPair).isEmpty
  · rw [if_pos none] at found
    cases found
  · rw [if_neg none] at found ⊢
    refine ⟨rfl, ?_⟩
    obtain ⟨_, _, known⟩ := mem_filterMap.mp (mem_of_get_collect found)
    obtain ⟨_, known, same⟩ := Option.map_eq_some_iff.mp known
    cases same
    exact known

variable {poolsByTokenPair : TokenPair → List Address} {blockNumber : Nat} {pools : Pools}
  {sound : FetcherSound history fetcher}

theorem get_of_mem_withLiquidity (mem : pool ∈ withLiquidity pools) :
    ∃ address, pools.get address = some pool := by
  obtain ⟨⟨address, _⟩, entry, rfl⟩ := mem_map.mp (mem_filter.mp mem).1
  exact ⟨address, get_eq_some_iff.mpr entry⟩

theorem ne_nil_of_get
    (found : pools.get address = some pool) : pools.entries ≠ [] :=
  ne_nil_of_mem (get_eq_some_iff.mp found)

theorem FetcherSound.fetchSound_get (sound : FetcherSound history fetcher)
    (tokenPairs : List TokenPair)
    (later : (fetcher.checkpoint.get poolsByTokenPair tokenPairs).1.2 < blockNumber) :
    FetchSound history fetcher.events fetcher.checkpoint.blockNumber
      (.reading blockNumber (fetcher.checkpoint.get poolsByTokenPair tokenPairs).1.1
        (fetcher.checkpoint.get poolsByTokenPair tokenPairs).1.2) := by
  refine ⟨later, fun nonempty => ?_⟩
  obtain ⟨⟨_, _⟩, mem⟩ := exists_mem_of_ne_nil _ nonempty
  have atCheckpoint := (get_checkpoint (get_eq_some_iff.mpr mem)).1
  rw [atCheckpoint]
  exact ⟨le_refl _, sound.checkpoint.of_get fun _ _ found => (get_checkpoint found).2⟩

theorem get_checkpoint_same (poolsByTokenPair : TokenPair → List Address)
    (tokenPairs : List TokenPair) (checkpoint : PoolsCheckpoint) :
    (checkpoint.get poolsByTokenPair tokenPairs).2.pools = checkpoint.pools ∧
      (checkpoint.get poolsByTokenPair tokenPairs).2.blockNumber =
        checkpoint.blockNumber := by
  unfold PoolsCheckpoint.get
  by_cases none : (tokenPairs.flatMap poolsByTokenPair).isEmpty
  · rw [if_pos none]
    exact ⟨rfl, rfl⟩
  · rw [if_neg none]
    exact ⟨rfl, rfl⟩

theorem PoolsCheckpoint.blockNumber_addPools (checkpoint : PoolsCheckpoint)
    (pools : List PoolData) : (checkpoint.addPools pools).blockNumber = checkpoint.blockNumber := by
  induction pools generalizing checkpoint with
  | nil => rfl
  | cons pool pools ih =>
    unfold PoolsCheckpoint.addPools
    split
    · rfl
    · rw [ih]

section

variable (sound)
include sound

theorem FetcherSound.withCheckpoint
    (blockNumber : checkpoint.blockNumber = fetcher.checkpoint.blockNumber)
    (pools : Sound history fetcher.events checkpoint.pools fetcher.checkpoint.blockNumber) :
    FetcherSound history { fetcher with checkpoint } where
  checkpoint := blockNumber ▸ pools
  fetches := by
    intro fetch mem
    have old := sound.fetches fetch mem
    rw [← blockNumber] at old
    exact old
  maintenance := by
    have old := sound.maintenance
    rw [← blockNumber] at old
    exact old

theorem FetcherSound.withMaintenance {maintenance : MaintenancePhase}
    (next : MaintenanceSound history fetcher.events fetcher.checkpoint.blockNumber maintenance) :
    FetcherSound history { fetcher with maintenance } where
  checkpoint := sound.checkpoint
  fetches := sound.fetches
  maintenance := next

theorem FetcherSound.updateMissingPools {answer : Option (List PoolData)} {updated : Option Bool}
    (granted : Granted history fetcher (.updateMissingPools answer))
    (phase : fetcher.maintenance = .updating updated missing) :
    FetcherSound history (fetcher.updateMissingPools answer updated missing) := by
  have old := sound.maintenance
  rw [phase] at old
  have done block : MissingSound block .done := trivial
  unfold PoolFetcher.updateMissingPools
  cases missing with
  | start =>
    dsimp only
    split
    · exact sound.withMaintenance ((done _).join updated)
    · exact sound.withMaintenance rfl
  | asked poolIds blockNumber =>
    obtain rfl : blockNumber = fetcher.checkpoint.blockNumber := old
    have truthful : Truthful history fetcher.events.head fetcher.checkpoint.blockNumber
        (answer.getD []) := by
      cases answer with
      | none => exact fun pool mem => absurd mem not_mem_nil
      | some pools => exact granted.truthful updated poolIds _ pools phase rfl
    have added := sound.withCheckpoint (fetcher.checkpoint.blockNumber_addPools _)
      (sound.checkpoint.addPools truthful)
    exact added.withMaintenance ((done _).join updated)
  | done => exact sound

theorem FetcherSound.moveCheckpointToFuture
    (careful : Careful history fetcher .moveCheckpointToFuture) :
    FetcherSound history fetcher.moveCheckpointToFuture := by
  have old := sound.maintenance
  unfold PoolFetcher.moveCheckpointToFuture
  cases phase : fetcher.maintenance with
  | lastEventBlock =>
    dsimp only
    split <;> exact sound.withMaintenance trivial
  | oldCheckpointBlock lastEventBlock =>
    dsimp only
    split
    · rename_i later
      exact sound.withMaintenance ⟨rfl, later⟩
    · exact sound.withMaintenance trivial
  | readingEvents oldBlock newBlock =>
    rw [phase] at old
    obtain ⟨rfl, later⟩ := old
    obtain ⟨known, handled⟩ := careful.moveHandled _ newBlock rfl phase
    refine sound.withMaintenance ⟨later, known, ?_⟩
    rw [sound.checkpoint.stored.getEvents handled, Nat.min_eq_left known]
  | appendingEvents newBlock read =>
    rw [phase] at old
    obtain ⟨later, known, rfl⟩ := old
    refine ⟨sound.checkpoint.moveTo (Nat.le_of_lt later) known, ?_, rfl⟩
    intro fetch mem
    refine (sound.fetches fetch mem).imp fun _ _ _ _ _ le readSound => ⟨?_, readSound⟩
    exact Nat.le_trans le (Nat.le_of_lt later)
  | removingEvents newBlock =>
    rw [phase] at old
    obtain rfl : newBlock = fetcher.checkpoint.blockNumber := old
    refine ⟨sound.checkpoint.removeEventsOlderThanBlock (Nat.le_succ _), ?_, trivial⟩
    intro fetch mem
    have needed := careful.noneReading _ rfl phase fetch mem
    refine (sound.fetches fetch mem).imp fun _ _ _ reading nonempty le readSound => ⟨le, ?_⟩
    exact readSound.removeEventsOlderThanBlock (needed _ _ _ reading nonempty)
  | idle | updating updated missing => exact sound

end

variable [DecidableEq Hash]

section

variable (sound)
include sound

section

variable {id : Nat} (granted : Granted history fetcher (.continueFetch id call))
  (careful : Careful history fetcher (.continueFetch id call))
  (found : fetcher.fetches[id]? = some fetch)
include granted careful found

theorem FetcherSound.fetchStep :
    let result := fetcher.fetchStep history.tree history.content poolsByTokenPair call
      fetch
    FetcherSound history result.1 ∧
      FetchSound history result.1.events result.1.checkpoint.blockNumber result.2 := by
  unfold PoolFetcher.fetchStep
  cases phase : fetch.phase with
  | resolving atBlock => cases atBlock <;> exact ⟨sound, trivial⟩
  | checking blockNumber =>
    refine ⟨sound, ?_⟩
    dsimp only
    split <;> trivial
  | updating blockNumber =>
    have updates : fetcher.eventUpdate (.continueFetch id call) = some call := by
      simp only [PoolFetcher.eventUpdate, PoolFetcher.phaseAt, found, Option.map_some, phase]
    refine ⟨sound.runMaintenance granted careful updates, ?_⟩
    dsimp only
    split <;> trivial
  | looking blockNumber =>
    obtain ⟨pools, same⟩ := get_checkpoint_same poolsByTokenPair fetch.tokenPairs fetcher.checkpoint
    refine ⟨sound.withCheckpoint same (pools ▸ sound.checkpoint), ?_⟩
    dsimp only
    rw [same]
    by_cases later : (fetcher.checkpoint.get poolsByTokenPair fetch.tokenPairs).1.2 < blockNumber
    · rw [if_pos later]
      exact sound.fetchSound_get fetch.tokenPairs later
    · rw [if_neg later]
      trivial
  | reading blockNumber pools checkpointBlock | returned blockNumber pools => exact ⟨sound, trivial⟩

/-- A fetch returns the pools of its block. -/
theorem FetcherSound.returned {pools : List PoolInfo}
    (running : ∀ blockNumber pools, fetch.phase ≠ .returned blockNumber pools)
    (returns : (fetcher.fetchStep history.tree history.content poolsByTokenPair call
      fetch).2 = .returned blockNumber pools) :
    ∀ pool ∈ pools, history.PoolAt fetcher.events.head blockNumber pool := by
  have atPhase : fetcher.phaseAt (.continueFetch id call) = some fetch.phase := by
    simp only [PoolFetcher.phaseAt, found, Option.map_some]
  unfold PoolFetcher.fetchStep at returns
  cases phase : fetch.phase with
  | resolving atBlock =>
    rw [phase] at returns
    cases atBlock <;> cases returns
  | checking number =>
    rw [phase] at returns
    dsimp only at returns
    split at returns <;> cases returns
  | updating number =>
    rw [phase] at returns
    dsimp only at returns
    split at returns
    · cases returns
    · cases returns
      exact fun pool mem => absurd mem not_mem_nil
  | looking number =>
    rw [phase] at returns atPhase
    dsimp only at returns
    split at returns
    · cases returns
    · rename_i notLater
      cases returns
      intro pool mem
      obtain ⟨address, inside⟩ := get_of_mem_withLiquidity mem
      obtain ⟨atCheckpoint, known⟩ := get_checkpoint inside
      rw [atCheckpoint] at notLater
      -- the fetch is for the block of the checkpoint itself
      have notBefore := granted.notBefore blockNumber atPhase
      obtain rfl : blockNumber = fetcher.checkpoint.blockNumber := by omega
      exact (sound.checkpoint.pools address pool known).2
  | reading number read checkpointBlock =>
    have reading := sound.fetches fetch (mem_of_getElem? found)
    rw [phase] at returns reading atPhase
    cases returns
    intro pool mem
    obtain ⟨address, inside⟩ := get_of_mem_withLiquidity mem
    have nonempty : read.entries ≠ [] := by
      rw [get_appendEvents, Option.map_eq_some_iff] at inside
      obtain ⟨old, known, _⟩ := inside
      exact ne_nil_of_get known
    obtain ⟨_, readSound⟩ := reading.2 nonempty
    obtain ⟨known, handled⟩ := careful.fetchHandled blockNumber read checkpointBlock atPhase
    rw [readSound.stored.getEvents handled, Nat.min_eq_left known] at inside
    exact (readSound.get_appendEvents (Nat.le_of_lt reading.1) inside).2
  | returned number pools => exact absurd phase (running number pools)

end

theorem FetcherSound.step
    (granted : Granted history fetcher action) (careful : Careful history fetcher action) :
    FetcherSound history (fetcher.step history.tree history.content poolsByTokenPair action) := by
  unfold PoolFetcher.step
  cases action with
  | startFetch tokenPairs atBlock =>
    refine ⟨sound.checkpoint, ?_, sound.maintenance⟩
    intro fetch mem
    rcases mem_append.mp mem with old | new
    · exact sound.fetches fetch old
    · obtain rfl := mem_singleton.mp new
      trivial
  | continueFetch id call =>
    dsimp only
    cases found : fetcher.fetches[id]? with
    | none => exact sound
    | some fetch =>
      obtain ⟨next, phase⟩ := sound.fetchStep granted careful found
      exact next.set id phase
  | startMaintenance =>
    dsimp only
    split
    · exact sound.withMaintenance trivial
    · exact sound
  | updateEvents call =>
    dsimp only
    split
    · rename_i missing phase
      have updates : fetcher.eventUpdate (.updateEvents call) = some call := by
        simp only [PoolFetcher.eventUpdate, phase]
      have old := sound.maintenance
      rw [phase] at old
      exact (sound.runMaintenance granted careful updates).withMaintenance (MissingSound.join old _)
    · exact sound
  | updateMissingPools answer =>
    dsimp only
    split
    · rename_i updated missing phase
      exact sound.updateMissingPools granted phase
    · exact sound
  | moveCheckpointToFuture => exact sound.moveCheckpointToFuture careful

end

end

/-! ## Runs -/

section

variable [DecidableEq Hash]

/-- Every pool that is returned has all its events up to the block. -/
def ReturnsPoolsOfBlock (history : PoolHistory Hash)
    (poolsByTokenPair : TokenPair → List Address) (fetcher : PoolFetcher Hash)
    (action : Action Hash) : Prop :=
  ∀ blockNumber pools, fetcher.returns history.tree history.content poolsByTokenPair action =
      some (blockNumber, pools) →
    ∀ pool ∈ pools, history.PoolAt fetcher.events.head blockNumber pool

theorem FetcherSound.returns {fetcher : PoolFetcher Hash}
    {action : Action Hash} {poolsByTokenPair : TokenPair → List Address}
    (sound : FetcherSound history fetcher) (granted : Granted history fetcher action)
    (careful : Careful history fetcher action) :
    ReturnsPoolsOfBlock history poolsByTokenPair fetcher action := by
  intro blockNumber pools returned
  cases action with
  | continueFetch id call =>
    obtain ⟨fetch, found, returned⟩ := Option.bind_eq_some_iff.mp returned
    split at returned
    · cases returned
    · rename_i phase running
      cases returned
      exact sound.returned granted careful found running phase
    · cases returned
  | _ => cases returned

omit [DecidableEq Hash] in
theorem fetcherSound_new {pools : List PoolData}
    {block : Nat × Hash} (number : history.tree.number block.2 = block.1)
    (truthful : Truthful history block.2 block.1 pools) :
    FetcherSound history (PoolFetcher.new pools block) := by
  have complete : Complete history.tree history.content (block.1 + 1)
      (EventHandler.new ⟨[], 0⟩ (some block)) block := complete_new number nofun
  refine ⟨⟨Nat.le_of_eq number.symm, ⟨.complete block complete, ?_⟩, ?_⟩, nofun, trivial⟩
  · intro _
    change Holds _ _ (block.1 + 1) _ block.2 (history.tree.number block.2 + 1)
    rw [number]
    exact complete.events
  · intro _ _ found
    obtain ⟨_, mem, known⟩ := mem_filterMap.mp (mem_of_get_collect found)
    obtain ⟨_, converted, same⟩ := Option.map_eq_some_iff.mp known
    cases same
    exact truthful.poolAt mem converted

theorem fetch_returns_pools_of_block (history : PoolHistory Hash)
    (poolsByTokenPair : TokenPair → List Address) (pools : List PoolData)
    (block : Nat × Hash) (actions : List (Action Hash))
    (number : history.tree.number block.2 = block.1)
    (truthful : Truthful history block.2 block.1 pools)
    (allowed : Run.Along (PoolFetcher.step history.tree history.content poolsByTokenPair)
      (fun fetcher action => Granted history fetcher action ∧ Careful history fetcher action)
      (PoolFetcher.new pools block) actions) :
    Run.Along (PoolFetcher.step history.tree history.content poolsByTokenPair)
      (ReturnsPoolsOfBlock history poolsByTokenPair) (PoolFetcher.new pools block)
      actions := by
  refine Run.along_of_preserved (FetcherSound history) ?_ (fetcherSound_new number truthful)
    allowed ?_
  · intro fetcher action sound guard
    exact sound.step guard.1 guard.2
  · intro fetcher action sound guard
    exact sound.returns guard.1 guard.2

end

/-! ## Two mints on one chain -/

theorem ancestor_firstChain (steps number : Nat) :
    forkedTree.ancestor steps (number + steps, false) = (number, false) := by
  induction steps with
  | zero => rfl
  | succ steps ih => exact ih

theorem hashAt_firstChain {number head : Nat} (le : number ≤ head) :
    forkedTree.hashAt (head, false) number = (number, false) := by
  have ancestor := ancestor_firstChain (head - number) number
  rw [Nat.add_sub_cancel' le] at ancestor
  exact ancestor

theorem agreeBelow_firstChain {bound : Nat} {left right : Nat × Bool}
    (isFirst : left.2 = false) (isFirst' : right.2 = false) (le : bound ≤ left.1 + 1)
    (le' : bound ≤ right.1 + 1) : forkedTree.AgreeBelow bound left right := by
  obtain ⟨_, _⟩ := left
  obtain ⟨_, _⟩ := right
  cases isFirst
  cases isFirst'
  intro _ _
  rw [hashAt_firstChain (by simp only at le; omega), hashAt_firstChain (by simp only at le'; omega)]

def wethUsdc : PoolData where
  id := 1
  token0 := ⟨2, 18⟩
  token1 := ⟨3, 6⟩
  feeTier := 3000
  liquidity := 10
  sqrtPrice := 1
  tick := 0
  ticks := some []

def wethUsdcInfo : PoolInfo where
  address := 1
  tokens := [⟨2, 18⟩, ⟨3, 6⟩]
  state := ⟨1, 10, 0, ⟨[], List.nodup_nil⟩, (3000 : U256).toNat / 1000000⟩
  meanGas := 108163

def mints (hash : Nat × Bool) : List LogEvent :=
  if hash = (1, false) then [(0, ⟨.mint ⟨-10, 10, by decide⟩ 5, 1⟩)]
  else if hash = (66, false) then [(0, ⟨.mint ⟨-10, 10, by decide⟩ 7, 1⟩)]
  else []

def mintHistory : PoolHistory (Nat × Bool) where
  tree := forkedTree
  content := mints
  ordered := by
    intro hash
    unfold mints
    split
    · exact List.pairwise_singleton _ _
    · split
      · exact List.pairwise_singleton _ _
      · exact List.Pairwise.nil
  onChain address hash := wethUsdcInfo.applyAll address
      (poolEvents forkedTree mints hash 1 (forkedTree.number hash + 1))

theorem truthful_wethUsdc : Truthful mintHistory (0, false) 0 [wethUsdc] := by
  intro _ mem _ converted
  obtain rfl := mem_singleton.mp mem
  exact (Option.some.inj converted).symm

/-- Whatever its initial block, a pool has all events since the first block. -/
theorem poolAt_mintHistory {tip : Nat × Bool} {block : Nat} {pool : PoolInfo}
    (known : block ≤ forkedTree.number tip) (atBlock : mintHistory.PoolAt tip block pool) :
    pool = wethUsdcInfo.applyAll pool.address (mintHistory.events tip 1 (block + 1)) := by
  obtain ⟨initial, le, same⟩ := atBlock
  refine same.trans ?_
  have number := BlockTree.number_hashAt (Nat.le_trans le known)
  have agree := BlockTree.agreeBelow_hashAt (Nat.le_trans le known)
  have first : poolEvents forkedTree mints (forkedTree.hashAt tip initial) 1
      (forkedTree.number (forkedTree.hashAt tip initial) + 1) =
        mintHistory.events tip 1 (initial + 1) := by
    rw [number]
    exact congrArg (List.map _) (BlockTree.recorded_congr agree)
  change (wethUsdcInfo.applyAll _ (poolEvents forkedTree mints (forkedTree.hashAt tip initial) 1
      (forkedTree.number (forkedTree.hashAt tip initial) + 1))).applyAll _ _ = _
  rw [first, ← PoolInfo.applyAll_append,
    PoolHistory.events_append (Nat.succ_le_succ (Nat.zero_le _)) (Nat.succ_le_succ le)]

def mintCall : EventHandling.Call (Nat × Bool) := ⟨(66, false), fun _ => false, none⟩

def onlyPool (_ : TokenPair) : List Address := [1]

def mintFetcher : PoolFetcher (Nat × Bool) := .new [wethUsdc] (0, (0, false))

def calm (fetcher : PoolFetcher (Nat × Bool)) (action : Action (Nat × Bool)) : Bool :=
  let head := fetcher.events.head
  let block := fetcher.checkpoint.blockNumber
  head.2 = false && fetcher.events.upToDate && block ≤ head.1 &&
    (fetcher.events.handler.lastHandledBlocks.all fun handled =>
      handled.2 = (handled.1, false) && handled.1 ≤ head.1) &&
    ((fetcher.eventUpdate action).all fun call =>
      call.tip.2 = false && head.1 ≤ call.tip.1 && call.tip.1 < maxBlocksQueried) &&
    (match fetcher.phaseAt action with
      | some (.looking number) => block ≤ number
      | some (.reading number _ _) => number ≤ head.1
      | _ => true) &&
    (match action with
      | .updateMissingPools (some _) => false
      | _ => true) &&
    (match fetcher.maintenance with
      | .readingEvents _ new | .appendingEvents new _ => new ≤ head.1
      | _ => true)

def unread (fetcher : PoolFetcher (Nat × Bool)) : Bool :=
  match fetcher.maintenance with
  | .removingEvents _ => fetcher.fetches.all fun fetch =>
    match fetch.phase with
    | .reading _ _ _ => false
    | _ => true
  | _ => true

section

variable {fetcher : PoolFetcher (Nat × Bool)} {action : Action (Nat × Bool)}

theorem granted_of_calm (isCalm : calm fetcher action = true) :
    Granted mintHistory fetcher action := by
  simp only [calm, Bool.and_eq_true, decide_eq_true_eq] at isCalm
  obtain ⟨⟨⟨⟨⟨⟨⟨chain, _⟩, _⟩, _⟩, update⟩, looking⟩, missing⟩, _⟩ := isCalm
  refine ⟨?_, ?_, ?_⟩
  · intro _ updates
    rw [updates] at update
    simp only [Option.all_some, Bool.and_eq_true, decide_eq_true_eq] at update
    obtain ⟨⟨chain', _⟩, _⟩ := update
    exact agreeBelow_firstChain chain chain' (by omega) (by omega)
  · intro blockNumber phase
    rw [phase] at looking
    exact of_decide_eq_true looking
  · intro _ _ blockNumber _ _ answered
    subst answered
    cases missing

theorem careful_of_calm (isCalm : calm fetcher action = true)
    (isUnread : unread fetcher = true) : Careful mintHistory fetcher action := by
  simp only [calm, Bool.and_eq_true, decide_eq_true_eq, all_eq_true] at isCalm
  obtain ⟨⟨⟨⟨⟨⟨⟨chain, upToDate⟩, _⟩, handled⟩, update⟩, fetching⟩, _⟩, moving⟩ := isCalm
  have updated {call : EventHandling.Call (Nat × Bool)}
      (updates : fetcher.eventUpdate action = some call) :
      call.tip.2 = false ∧ fetcher.events.head.1 ≤ call.tip.1 ∧ call.tip.1 < maxBlocksQueried := by
    rw [updates] at update
    simpa only [Option.all_some, Bool.and_eq_true, decide_eq_true_eq, and_assoc] using update
  refine ⟨?_, ?_, ?_, ?_, ?_⟩
  · intro call updates
    obtain ⟨chain', later, small⟩ := updated updates
    have below : ∀ last, fetcher.events.handler.lastHandledBlocks.getLast? = some last →
        last.2 = (last.1, false) ∧ last.1 ≤ call.tip.1 := by
      intro last atEnd
      obtain ⟨onFirst, le⟩ := handled last (mem_of_getLast? atEnd)
      exact ⟨onFirst, Nat.le_trans le later⟩
    refine ⟨⟨later, fun last atEnd => (below last atEnd).2, ?_⟩, ?_⟩
    · intro last atEnd
      obtain ⟨onFirst, le⟩ := below last atEnd
      rw [onFirst]
      exact agreeBelow_firstChain rfl chain' (by simp only; omega) (by omega)
    · intro overfull
      exact absurd overfull.1 (Nat.ne_of_lt small)
  · intro call newBlock events updates phase
    obtain ⟨chain', later, _⟩ := updated updates
    rw [phase] at moving
    have le := of_decide_eq_true moving
    exact agreeBelow_firstChain chain chain' (by omega) (by omega)
  · intro _ _ _ phase
    rw [phase] at fetching
    exact ⟨of_decide_eq_true fetching, Or.inl upToDate⟩
  · intro _ newBlock _ phase
    rw [phase] at moving
    exact ⟨of_decide_eq_true moving, Or.inl upToDate⟩
  · intro newBlock _ phase fetch mem _ _ _ reading
    unfold unread at isUnread
    rw [phase] at isUnread
    have notReading := all_eq_true.mp isUnread fetch mem
    rw [reading] at notReading
    cases notReading

end

def maintenanceRun : List (Action (Nat × Bool)) :=
  [.startMaintenance, .updateEvents mintCall, .updateMissingPools none,
    .moveCheckpointToFuture, .moveCheckpointToFuture, .moveCheckpointToFuture,
    .moveCheckpointToFuture, .moveCheckpointToFuture]

def fetchBegun : List (Action (Nat × Bool)) :=
  .startFetch (TokenPair.new 2 3).toList (.number 66) :: replicate 4 (.continueFetch 0 mintCall)

/-- The checkpoint is moved before the fetch. -/
theorem fetch_after_maintenance : Run.Along (PoolFetcher.step forkedTree mints onlyPool)
      (ReturnsPoolsOfBlock mintHistory onlyPool) mintFetcher
      (maintenanceRun ++ fetchBegun ++ [.continueFetch 0 mintCall]) := by
  apply fetch_returns_pools_of_block mintHistory onlyPool [wethUsdc] (0, (0, false)) _ rfl
    truthful_wethUsdc
  have quiet : Run.Along (PoolFetcher.step forkedTree mints onlyPool)
      (fun fetcher action => calm fetcher action = true ∧ unread fetcher = true)
      mintFetcher (maintenanceRun ++ fetchBegun ++ [.continueFetch 0 mintCall]) := by
    decide +kernel
  apply Run.Along.mono quiet
  intro fetcher action both
  exact ⟨granted_of_calm both.1, careful_of_calm both.1 both.2⟩

/-- The checkpoint is moved between the two reads of the fetch, which then misses
the liquidity that was added in block 1. -/
theorem fetch_misses_pruned_event : Truthful mintHistory (0, false) 0 [wethUsdc] ∧
      Run.Along (PoolFetcher.step forkedTree mints onlyPool) (Granted mintHistory)
        mintFetcher (fetchBegun ++ maintenanceRun ++ [.continueFetch 0 mintCall]) ∧
      ¬ Run.Along (PoolFetcher.step forkedTree mints onlyPool)
        (ReturnsPoolsOfBlock mintHistory onlyPool) mintFetcher
        (fetchBegun ++ maintenanceRun ++ [.continueFetch 0 mintCall]) := by
  have quiet : Run.Along (PoolFetcher.step forkedTree mints onlyPool)
      (fun fetcher action => calm fetcher action = true) mintFetcher
      (fetchBegun ++ maintenanceRun ++ [.continueFetch 0 mintCall]) := by
    decide +kernel
  refine ⟨truthful_wethUsdc, Run.Along.mono quiet fun _ _ => granted_of_calm, ?_⟩
  intro holds
  have atEnd := holds.at_action
  set before := (fetchBegun ++ maintenanceRun).foldl
    (PoolFetcher.step forkedTree mints onlyPool) mintFetcher with isBefore
  have returned : (before.returns forkedTree mints onlyPool
      (.continueFetch 0 mintCall)).map (fun result => (result.1, result.2.map fun pool =>
        (pool.address, pool.state.liquidity))) = some (66, [(1, 17)]) := by
    decide +kernel
  have head : before.events.head = (66, false) := by
    decide +kernel
  obtain ⟨⟨_, _⟩, returned, same⟩ := Option.map_eq_some_iff.mp returned
  obtain ⟨rfl, same⟩ := Prod.mk.inj same
  obtain ⟨pool, rfl, pair⟩ := map_eq_singleton_iff.mp same
  obtain ⟨address, liquidity⟩ := Prod.mk.inj pair
  have atBlock := atEnd 66 [pool] returned pool mem_cons_self
  rw [head] at atBlock
  have all := poolAt_mintHistory (Nat.le_refl _) atBlock
  rw [address] at all
  have more : (wethUsdcInfo.applyAll 1 (mintHistory.events (66, false) 1 67)).state.liquidity =
      22 := by decide +kernel
  rw [all] at liquidity
  exact absurd (more.symm.trans liquidity) (by decide)

end MandateSolver.UniswapV3
