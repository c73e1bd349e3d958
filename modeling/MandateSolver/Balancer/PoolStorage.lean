import Mathlib.Data.Finset.Union
import MandateSolver.Eth
import MandateSolver.EventHandling.EventHandler
import MandateSolver.Foundation.EntryMap
import MandateSolver.Foundation.Runs

/-!
# The index of Balancer pools

Pools are stored by their id, with an index from tokens to the ids of the pools that
have them.  A reorg takes back the pools that were created since a block, except those
that were there from the beginning.
-/

namespace MandateSolver.Balancer

open List EntryMap

/-- What is known of a pool, with whatever else its kind has. -/
structure PoolInfo (ι : Type) where
  id : U256
  tokens : List Address
  blockCreated : BitVec 64
  info : ι
  deriving DecidableEq

/-- The kinds of pools of the subgraph. -/
inductive PoolType where
  | stable
  | weighted
  | liquidityBootstrapping
  | composableStable
  deriving DecidableEq

/-- What the subgraph knows of a pool, with whatever else its kind needs. -/
structure PoolData (δ : Type) where
  poolType : PoolType
  id : U256
  factory : Address
  tokens : List Address
  details : δ

/-- The pools of the subgraph at some block. -/
structure RegisteredPools (δ : Type) where
  fetchedBlockNumber : BitVec 64
  pools : List (PoolData δ)

/-- Why the data of a pool are rejected. -/
inductive GraphDataError where
  | poolType (found expected : PoolType)
  | insufficientTokens
  | details (message : String)

section

variable {δ ι : Type}

/-- A block that no reorg reaches, as far back from the latest one as possible. -/
def getSafeBlock (latest : BitVec 64) : BitVec 64 :=
  BitVec.ofNat 64 (latest.toNat - EventHandling.maxReorgBlockCount)

def getRegisteredPools (latest : BitVec 64) (poolsAt : BitVec 64 → List (PoolData δ)) :
    RegisteredPools δ :=
  ⟨getSafeBlock latest, poolsAt (getSafeBlock latest)⟩

/-- The group of one factory, which may be empty. -/
def RegisteredPools.ofFactory (registered : RegisteredPools δ) (factory : Address) :
    RegisteredPools δ :=
  { registered with pools := registered.pools.filter (·.factory = factory) }

/-- Initial pools count as created in the block at which they were fetched. -/
def PoolInfo.fromGraphData (poolType : PoolType) (specialize : δ → Outcome GraphDataError ι)
    (blockCreated : BitVec 64) (pool : PoolData δ) : Outcome GraphDataError (PoolInfo ι) := do
  Outcome.rejectIf (pool.poolType ≠ poolType) (.poolType pool.poolType poolType)
  Outcome.rejectIf (pool.tokens.length ≤ 1) .insufficientTokens
  let info ← specialize pool.details
  return ⟨pool.id, pool.tokens, blockCreated, info⟩

end

/-- A token without an entry has no pools. -/
structure PoolStorage (ι : Type) where
  poolsByToken : Address → Finset U256
  pools : EntryMap U256 (PoolInfo ι)
  initialFetchedBlock : BitVec 64

inductive PoolStorageError where
  | missingBlockNumber
  | fetchPoolInfo (message : String)

/-- The address of a new pool and the block number of the log, if it has one. -/
abbrev PoolCreated := Address × Option (BitVec 64)

abbrev PoolInfoFetcher (ι : Type) :=
  Address → BitVec 64 → Outcome PoolStorageError (PoolInfo ι)

namespace PoolStorage

variable {ι : Type} {storage : PoolStorage ι}

def insertPool (storage : PoolStorage ι) (pool : PoolInfo ι) : PoolStorage ι :=
  { storage with
    poolsByToken := pool.tokens.foldl
      (fun index token => Function.update index token (insert pool.id (index token)))
      storage.poolsByToken
    pools := storage.pools.insert pool.id pool }

def new (initialPools : List (PoolInfo ι)) : PoolStorage ι :=
  initialPools.foldl (fun storage pool =>
    { storage with
      initialFetchedBlock := max storage.initialFetchedBlock pool.blockCreated }.insertPool pool)
    ⟨fun _ => ∅, ⟨[], List.nodup_nil⟩, 0⟩

/-- The storage that a factory's pool fetcher starts with. -/
def createInternalPoolFetcher {δ : Type} (poolType : PoolType)
    (specialize : δ → Outcome GraphDataError ι) (registered : RegisteredPools δ) :
    Outcome GraphDataError (PoolStorage ι) := do
  let initialPools ← registered.pools.mapM
    (PoolInfo.fromGraphData poolType specialize registered.fetchedBlockNumber)
  return new initialPools

section

variable (storage)

def poolIdsForTokenPair (pair : TokenPair) : Finset U256 :=
  storage.poolsByToken pair.first ∩ storage.poolsByToken pair.second

def poolIdsForTokenPairs (pairs : Finset TokenPair) : Finset U256 :=
  pairs.biUnion storage.poolIdsForTokenPair

def poolById (id : U256) : Option (PoolInfo ι) :=
  storage.pools.get id

/-- The first block whose pools are removed.  Its number wraps around. -/
def firstRemoved (deleteFromBlockNumber : BitVec 64) : BitVec 64 :=
  if deleteFromBlockNumber ≤ storage.initialFetchedBlock then
    storage.initialFetchedBlock + 1
  else deleteFromBlockNumber

def removePoolsNewerThanBlock (deleteFromBlockNumber : BitVec 64) : PoolStorage ι :=
  let block := storage.firstRemoved deleteFromBlockNumber
  let pools := storage.pools.filter fun id =>
    (storage.pools.get id).any (·.blockCreated < block)
  if storage.pools.entries.length = pools.entries.length then { storage with pools }
  else
    { storage with
      pools
      poolsByToken := fun token =>
        (storage.poolsByToken token).filter fun id => (pools.get id).isSome }

end

/-- The pools before an event that fails stay. -/
def appendEvents (fetchPoolInfo : PoolInfoFetcher ι) :
    List PoolCreated → PoolStorage ι → Outcome PoolStorageError Unit × PoolStorage ι
  | [], storage => (.ok (), storage)
  | (_, none) :: _, storage => (.err .missingBlockNumber, storage)
  | (pool, some block) :: events, storage =>
    match fetchPoolInfo pool block with
    | .ok info => appendEvents fetchPoolInfo events (storage.insertPool info)
    | .err error => (.err error, storage)
    | .panic reason => (.panic reason, storage)

def replaceEvents (fetchPoolInfo : PoolInfoFetcher ι) (events : List PoolCreated)
    (start : BitVec 64) (storage : PoolStorage ι) : Outcome PoolStorageError Unit × PoolStorage ι :=
  appendEvents fetchPoolInfo events (storage.removePoolsNewerThanBlock start)

/-! ## The index is exact -/

/-- Every pool has the tokens of its id, and the index has every pool with all of its
tokens and nothing else.  There is a block after the initial ones. -/
structure Indexed (tokensOf : U256 → List Address) (storage : PoolStorage ι) : Prop where
  tokens : ∀ id pool, storage.pools.get id = some pool → pool.tokens = tokensOf id
  index : ∀ token id, id ∈ storage.poolsByToken token ↔
    (storage.pools.get id).isSome ∧ token ∈ tokensOf id
  room : storage.initialFetchedBlock ≠ BitVec.allOnes 64

variable {tokensOf : U256 → List Address} {pool : PoolInfo ι}

theorem mem_foldl_index (index : Address → Finset U256) (tokens : List Address)
    (added id : U256) (token : Address) :
    id ∈ tokens.foldl (fun index token =>
        Function.update index token (insert added (index token))) index token ↔
      id ∈ index token ∨ id = added ∧ token ∈ tokens := by
  induction tokens generalizing index with
  | nil => simp
  | cons first tokens ih =>
    rw [foldl_cons, ih]
    by_cases same : token = first
    · subst same
      simp
      tauto
    · simp [same]

theorem Indexed.insertPool (indexed : storage.Indexed tokensOf)
    (sameTokens : pool.tokens = tokensOf pool.id) :
    (storage.insertPool pool).Indexed tokensOf where
  tokens := by
    intro id found stored
    by_cases same : id = pool.id
    · subst same
      rw [PoolStorage.insertPool, get_insert_self] at stored
      cases stored
      exact sameTokens
    · rw [PoolStorage.insertPool, get_insert_of_ne same] at stored
      exact indexed.tokens id found stored
  index := by
    intro _ id
    rw [PoolStorage.insertPool, mem_foldl_index, indexed.index, sameTokens]
    by_cases same : id = pool.id
    · subst same
      simp only [get_insert_self]
      tauto
    · simp [get_insert_of_ne same, same]
  room := indexed.room

theorem pools_removePoolsNewerThanBlock (start : BitVec 64) :
    (storage.removePoolsNewerThanBlock start).pools = storage.pools.filter fun id =>
      (storage.pools.get id).any (·.blockCreated < storage.firstRemoved start) := by
  rw [removePoolsNewerThanBlock]
  split <;> rfl

theorem Indexed.removePoolsNewerThanBlock (indexed : storage.Indexed tokensOf)
    (start : BitVec 64) : (storage.removePoolsNewerThanBlock start).Indexed tokensOf where
  tokens := by
    intro id pool found
    rw [pools_removePoolsNewerThanBlock] at found
    exact indexed.tokens id pool (get_of_get_filter found)
  index := by
    intro token id
    rw [PoolStorage.removePoolsNewerThanBlock]
    split
    · -- nothing was removed
      rename_i same
      have kept : (storage.pools.filter fun id => (storage.pools.get id).any
          (·.blockCreated < storage.firstRemoved start)).entries = storage.pools.entries :=
        filter_eq_self.mpr (length_filter_eq_length_iff.mp same.symm)
      rw [EntryMap.get, kept]
      exact indexed.index token id
    · rw [Finset.mem_filter, indexed.index]
      constructor
      · rintro ⟨⟨_, has⟩, stays⟩
        exact ⟨stays, has⟩
      · rintro ⟨stays, has⟩
        obtain ⟨pool, found⟩ := Option.isSome_iff_exists.mp stays
        have stored := get_of_get_filter found
        exact ⟨⟨Option.isSome_iff_exists.mpr ⟨pool, stored⟩, has⟩, stays⟩
  room := by
    rw [PoolStorage.removePoolsNewerThanBlock]
    split <;> exact indexed.room

theorem poolById_removePoolsNewerThanBlock (start : BitVec 64) (id : U256) :
    (storage.removePoolsNewerThanBlock start).poolById id =
      (storage.poolById id).filter (·.blockCreated < storage.firstRemoved start) := by
  rw [poolById, poolById, pools_removePoolsNewerThanBlock]
  by_cases kept : (storage.pools.get id).any (·.blockCreated < storage.firstRemoved start)
  · rw [get_filter]
    · cases found : storage.pools.get id <;> simp_all [Option.filter]
    · exact kept
  · rw [get_filter_of_not]
    · cases found : storage.pools.get id <;> simp_all [Option.filter]
    · exact Bool.eq_false_iff.mpr kept

/-- Whatever single insertions keep is kept by an update, also by one that fails. -/
theorem appendEvents_induction (property : PoolStorage ι → Prop)
    {fetchPoolInfo : PoolInfoFetcher ι} {events : List PoolCreated}
    (inserted : ∀ storage address block info, (address, some block) ∈ events →
      fetchPoolInfo address block = .ok info → property storage →
        property (storage.insertPool info)) (initially : property storage) :
    property (appendEvents fetchPoolInfo events storage).2 := by
  fun_induction appendEvents fetchPoolInfo events storage with
  | case3 address block events storage info fetched ih =>
    apply ih
    · intro storage address block info listed
      exact inserted storage address block info (mem_cons_of_mem _ listed)
    · exact inserted storage address block info mem_cons_self fetched initially
  | case1 | case2 | case4 | case5 => exact initially

/-! ## Reorgs -/

theorem lt_firstRemoved (room : storage.initialFetchedBlock ≠ BitVec.allOnes 64)
    (start : BitVec 64) : storage.initialFetchedBlock < storage.firstRemoved start := by
  rw [firstRemoved]
  split
  · exact BitVec.lt_add_one room
  · exact not_le.mp ‹_›

theorem firstRemoved_le {start block : BitVec 64}
    (later : storage.initialFetchedBlock < block) (since : start ≤ block) :
    storage.firstRemoved start ≤ block := by
  rw [firstRemoved]
  split
  · have next : (storage.initialFetchedBlock + 1).toNat ≤ _ := BitVec.toNat_add _ _ ▸ Nat.mod_le _ _
    exact next.trans later
  · exact since

/-- An update with the answers it gets about new pools. -/
inductive Update (ι : Type) where
  | append (fetchPoolInfo : PoolInfoFetcher ι) (events : List PoolCreated)
  | replace (fetchPoolInfo : PoolInfoFetcher ι) (events : List PoolCreated) (start : BitVec 64)

namespace Update

def fetchPoolInfo : Update ι → PoolInfoFetcher ι
  | .append fetchPoolInfo _ | .replace fetchPoolInfo _ _ => fetchPoolInfo

def run (storage : PoolStorage ι) : Update ι → PoolStorage ι
  | .append fetchPoolInfo events => (appendEvents fetchPoolInfo events storage).2
  | .replace fetchPoolInfo events start =>
    (replaceEvents fetchPoolInfo events start storage).2

/-- A pool from the beginning stays, and a later one from the replaced blocks is only
there if it is created again. -/
def RemovesReplaced (storage : PoolStorage ι) (update : Update ι) : Prop :=
  match update with
  | .append _ _ => True
  | .replace fetchPoolInfo events start => ∀ id pool, storage.poolById id = some pool →
    (pool.blockCreated ≤ storage.initialFetchedBlock → ((run storage update).poolById id).isSome) ∧
    (storage.initialFetchedBlock < pool.blockCreated → start ≤ pool.blockCreated →
      (∀ address block info, (address, some block) ∈ events →
        fetchPoolInfo address block = .ok info → info.id ≠ id) →
      (run storage update).poolById id = none)

theorem removesReplaced (room : storage.initialFetchedBlock ≠ BitVec.allOnes 64)
    (update : Update ι) : RemovesReplaced storage update := by
  cases update with
  | append => trivial
  | replace fetchPoolInfo events start =>
    intro id _ found
    constructor
    · intro early
      apply appendEvents_induction fun after => (after.poolById id).isSome
      · intro storage address block info _ _ _
        rw [poolById, insertPool]
        by_cases same : id = info.id
        · rw [same, get_insert_self]
          rfl
        · rwa [get_insert_of_ne same]
      · have kept := early.trans_lt (lt_firstRemoved room start)
        rw [poolById_removePoolsNewerThanBlock, found]
        simp [kept]
    · intro later since notAgain
      apply appendEvents_induction fun after => after.poolById id = none
      · intro storage address block info listed fetched absent
        rw [poolById, insertPool, get_insert_of_ne
          (notAgain address block info listed fetched).symm]
        exact absent
      · rw [poolById_removePoolsNewerThanBlock, found]
        simpa using firstRemoved_le later since

end Update

/-! ## Runs -/

theorem new_indexed {initialPools : List (PoolInfo ι)}
    (sameTokens : ∀ pool ∈ initialPools, pool.tokens = tokensOf pool.id)
    (room : ∀ pool ∈ initialPools, pool.blockCreated ≠ BitVec.allOnes 64) :
    (new initialPools).Indexed tokensOf := by
  have start : Indexed tokensOf (⟨fun _ => ∅, ⟨[], nodup_nil⟩, 0⟩ : PoolStorage ι) :=
    ⟨nofun, fun _ _ => by simp [EntryMap.get], show 0 ≠ _ by decide⟩
  rw [new]
  generalize (⟨fun _ => ∅, ⟨[], nodup_nil⟩, 0⟩ : PoolStorage ι) = storage at start ⊢
  induction initialPools generalizing storage with
  | nil => exact start
  | cons pool pools ih =>
    obtain ⟨same, sameLater⟩ := forall_mem_cons.mp sameTokens
    obtain ⟨other, otherLater⟩ := forall_mem_cons.mp room
    apply ih sameLater otherLater
    refine Indexed.insertPool ⟨start.tokens, start.index, ?_⟩ same
    rcases max_choice storage.initialFetchedBlock pool.blockCreated with left | right
    · exact left.trans_ne start.room
    · exact right.trans_ne other

theorem getSafeBlock_ne_allOnes (latest : BitVec 64) : getSafeBlock latest ≠ BitVec.allOnes 64 := by
  intro same
  have small := congrArg BitVec.toNat same
  simp only [getSafeBlock, EventHandling.maxReorgBlockCount, BitVec.toNat_ofNat,
    BitVec.toNat_allOnes] at small
  omega

theorem createInternalPoolFetcher_indexed {δ : Type} {poolType : PoolType}
    {specialize : δ → Outcome GraphDataError ι} {registered : RegisteredPools δ}
    (created : createInternalPoolFetcher poolType specialize registered = .ok storage)
    (sameTokens : ∀ pool ∈ registered.pools, pool.tokens = tokensOf pool.id)
    (room : registered.fetchedBlockNumber ≠ BitVec.allOnes 64) : storage.Indexed tokensOf := by
  obtain ⟨initialPools, converted, same⟩ := Outcome.bind_eq_ok_iff.mp created
  cases same
  have origin : ∀ pool ∈ initialPools, pool.tokens = tokensOf pool.id ∧
      pool.blockCreated = registered.fetchedBlockNumber := by
    intro pool mem
    obtain ⟨data, listed, success⟩ := (Outcome.mem_iff_of_mapM_eq_ok converted).mp mem
    simp only [PoolInfo.fromGraphData, Outcome.bind_eq_ok_iff] at success
    obtain ⟨_, _, _, _, _, _, same⟩ := success
    cases same
    exact ⟨sameTokens data listed, rfl⟩
  exact new_indexed (fun pool mem => (origin pool mem).1)
    (fun pool mem => (origin pool mem).2.trans_ne room)

theorem Update.run_indexed {update : Update ι} (indexed : storage.Indexed tokensOf)
    (sameTokens : ∀ address block pool, update.fetchPoolInfo address block = .ok pool →
      pool.tokens = tokensOf pool.id) : (run storage update).Indexed tokensOf := by
  have inserted : ∀ (storage : PoolStorage ι) address block info,
      update.fetchPoolInfo address block = .ok info → storage.Indexed tokensOf →
        (storage.insertPool info).Indexed tokensOf :=
    fun _ address block info fetched kept =>
      kept.insertPool (sameTokens address block info fetched)
  cases update with
  | append fetchPoolInfo events =>
    exact appendEvents_induction _
      (fun storage address block info _ => inserted storage address block info) indexed
  | replace fetchPoolInfo events start =>
    exact appendEvents_induction _
      (fun storage address block info _ => inserted storage address block info)
      (indexed.removePoolsNewerThanBlock start)

theorem Indexed.mem_poolIdsForTokenPairs (indexed : storage.Indexed tokensOf)
    {pairs : Finset TokenPair} {id : U256} : id ∈ storage.poolIdsForTokenPairs pairs ↔
      ∃ pool, storage.poolById id = some pool ∧
        ∃ pair ∈ pairs, pair.first ∈ pool.tokens ∧ pair.second ∈ pool.tokens := by
  simp only [poolIdsForTokenPairs, poolIdsForTokenPair, Finset.mem_biUnion, Finset.mem_inter,
    indexed.index]
  constructor
  · rintro ⟨pair, listed, ⟨stored, first⟩, _, second⟩
    obtain ⟨pool, found⟩ := Option.isSome_iff_exists.mp stored
    rw [← indexed.tokens id pool found] at first second
    exact ⟨pool, found, pair, listed, first, second⟩
  · rintro ⟨pool, found, pair, listed, first, second⟩
    rw [indexed.tokens id pool found] at first second
    have stored := Option.isSome_iff_exists.mpr ⟨pool, found⟩
    exact ⟨pair, listed, ⟨stored, first⟩, stored, second⟩

/-- The index answers exactly with the stored pools, and a reorg takes back what it has
to.  There is a block after the initial ones because they are fetched at a safe one. -/
theorem poolStorage_exact {δ : Type} (tokensOf : U256 → List Address) (latest : BitVec 64)
    (poolsAt : BitVec 64 → List (PoolData δ)) (factory : Address) (poolType : PoolType)
    (specialize : δ → Outcome GraphDataError ι) (storage : PoolStorage ι)
    (updates : List (Update ι)) (created : createInternalPoolFetcher poolType specialize
      ((getRegisteredPools latest poolsAt).ofFactory factory) = .ok storage)
    (sameTokens : ∀ pool ∈ poolsAt (getSafeBlock latest), pool.tokens = tokensOf pool.id)
    (sameTokensLater : ∀ update ∈ updates, ∀ address block pool,
      update.fetchPoolInfo address block = .ok pool → pool.tokens = tokensOf pool.id) :
    (∀ pairs id, id ∈ (updates.foldl Update.run storage).poolIdsForTokenPairs pairs ↔
      ∃ pool, (updates.foldl Update.run storage).poolById id = some pool ∧
        ∃ pair ∈ pairs, pair.first ∈ pool.tokens ∧ pair.second ∈ pool.tokens) ∧
    Run.Along Update.run Update.RemovesReplaced storage updates := by
  have guarded : Run.Along Update.run (fun _ update => ∀ address block pool,
      update.fetchPoolInfo address block = .ok pool → pool.tokens = tokensOf pool.id)
      storage updates :=
    Run.along_of_forall fun _ => sameTokensLater
  have start := createInternalPoolFetcher_indexed created
    (fun pool mem => sameTokens pool (mem_filter.mp mem).1) (getSafeBlock_ne_allOnes latest)
  constructor
  · intro pairs id
    exact (Run.foldl_of_preserved (Indexed tokensOf) (fun _ _ => Update.run_indexed) start
      guarded).mem_poolIdsForTokenPairs
  · exact Run.along_of_preserved (Indexed tokensOf) (fun _ _ => Update.run_indexed)
      start guarded (fun _ update kept _ => update.removesReplaced kept.room)

/-- Every pool trades the same two tokens. -/
def twoTokenPool (id : U256) (block : BitVec 64) : PoolInfo Unit :=
  ⟨id, [1, 2], block, ()⟩

/-- The second pool is created in block 6 and taken back. -/
def reorgUpdates : List (Update Unit) :=
  [.append (fun _ block => .ok (twoTokenPool 8 block)) [(9, some 6)],
    .replace (fun _ block => .ok (twoTokenPool 8 block)) [] 6]

/-- Of the two pools of the subgraph only the first is of the factory. -/
def subgraphPools (_ : BitVec 64) : List (PoolData Unit) :=
  [⟨.weighted, 7, 5, [1, 2], ()⟩, ⟨.stable, 3, 4, [1, 2], ()⟩]

theorem poolStorage_exact_reorg :
    createInternalPoolFetcher .weighted (fun _ => .ok ())
        ((getRegisteredPools 69 subgraphPools).ofFactory 5) = .ok (new [twoTokenPool 7 5]) ∧
      (∀ pairs id, id ∈ (reorgUpdates.foldl Update.run
          (new [twoTokenPool 7 5])).poolIdsForTokenPairs pairs ↔
        ∃ pool, (reorgUpdates.foldl Update.run (new [twoTokenPool 7 5])).poolById id = some pool ∧
          ∃ pair ∈ pairs, pair.first ∈ pool.tokens ∧ pair.second ∈ pool.tokens) ∧
      Run.Along Update.run Update.RemovesReplaced (new [twoTokenPool 7 5]) reorgUpdates := by
  refine ⟨rfl, poolStorage_exact (fun _ => [1, 2]) 69 subgraphPools 5 .weighted
    (fun _ => .ok ()) _ reorgUpdates rfl (by simp [subgraphPools]) ?_⟩
  intro update listed address block pool fetched
  simp only [reorgUpdates, mem_cons, not_mem_nil, or_false] at listed
  rcases listed with rfl | rfl <;> cases fetched <;> rfl

end PoolStorage

end MandateSolver.Balancer
