import Mathlib.Data.List.Dedup
import Mathlib.Data.List.Sort
import Mathlib.Data.Prod.Lex
import MandateSolver.Foundation.Chunks
import MandateSolver.Foundation.EntryMap
import MandateSolver.Foundation.Runs

/-!
# A cache of recent on-chain data

The lock is never held while the node is asked.  A request that failed as often as it may be
tried gives no values, and this is what the cache remembers.
-/

namespace MandateSolver.RecentBlockCache

/-! ## Parts of the cache -/

/-- Keys that group cached values. -/
class CacheKey (K : Type) (V : outParam Type) where
  firstOrd : K
  forValue : V → K

inductive Block where
  | recent
  | number (number : Nat)
  | finalized

/-- Sizes and limits of the cache. -/
structure Config where
  numberOfBlocksToCache : Nat
  nonZero : 0 < numberOfBlocksToCache
  (maximumRecentBlockAge maxRetries : Nat)

def requestBatchSize : Nat := 200

/-- The keys to update in the background are in a list of bounded size. -/
structure Mutexed (K V : Type) where
  recentlyUsed : List K
  cachedMostRecentlyAtBlock : EntryMap K Nat
  entries : EntryMap (Nat × K) (List V)
  (lastUpdateBlock maximumRecentBlockAge : Nat)

variable {K V : Type} [LinearOrder K] [CacheKey K V]

/-! ## Critical sections -/

namespace Mutexed

def new (currentBlock maximumRecentBlockAge : Nat) : Mutexed K V where
  recentlyUsed := []
  cachedMostRecentlyAtBlock := ⟨[], List.nodup_nil⟩
  entries := ⟨[], List.nodup_nil⟩
  lastUpdateBlock := currentBlock
  maximumRecentBlockAge := maximumRecentBlockAge

section

-- how a key gets into the list of recently used ones, and what it replaces there
variable (cacheSet : K → List K → List K)

def get (mutexed : Mutexed K V) (key : K) (block : Option Nat) : Option (List V) × Mutexed K V :=
  let cachedBlock := (mutexed.cachedMostRecentlyAtBlock.get key).filter fun cached =>
    mutexed.lastUpdateBlock - cached ≤ mutexed.maximumRecentBlockAge
  match block.or cachedBlock with
  | none => (none, mutexed)
  | some atBlock =>
    let result := mutexed.entries.get (atBlock, key)
    if block.isSome ∧ result.any (!·.isEmpty) then
      (result, { mutexed with recentlyUsed := cacheSet key mutexed.recentlyUsed })
    else (result, mutexed)

def lookUp (block : Option Nat) : List K → Mutexed K V → List V × List K × Mutexed K V
  | [], mutexed => ([], [], mutexed)
  | key :: keys, mutexed =>
    let (found, mutexed) := mutexed.get cacheSet key block
    let (cacheHits, cacheMisses, mutexed) := lookUp block keys mutexed
    match found with
    | some values => (values ++ cacheHits, cacheMisses, mutexed)
    | none => (cacheHits, key :: cacheMisses, mutexed)

end

/-- Keys without values are cached as well. -/
def insertKeys (block : Nat) (keys : List K) (mutexed : Mutexed K V) : Mutexed K V :=
  keys.foldl (fun mutexed key =>
      let cached := match mutexed.cachedMostRecentlyAtBlock.get key with
        | some cached => max cached block
        | none => block
      { mutexed with
        cachedMostRecentlyAtBlock := mutexed.cachedMostRecentlyAtBlock.insert key cached
        entries := mutexed.entries.insert (block, key) [] })
    mutexed

/-- A value whose key is not cached is a panic. -/
def pushValue (block : Nat) (mutexed : Mutexed K V) (value : V) : Option (Mutexed K V) := do
  let key := CacheKey.forValue value
  let values ← mutexed.entries.get (block, key)
  return { mutexed with entries := mutexed.entries.insert (block, key) (values ++ [value]) }

def insert (block : Nat) (keys : List K) (values : List V) (mutexed : Mutexed K V) :
    Option (Mutexed K V) :=
  values.foldlM (pushValue block) (mutexed.insertKeys block keys)

/-- From the newest to the oldest, all but the first entry of a key are blanked. -/
def blankSuperseded (cachedKeys : List K) : List ((Nat × K) × List V) → List ((Nat × K) × List V)
  | [] => []
  | ((block, key), values) :: entries =>
    if key ∈ cachedKeys then ((block, key), []) :: blankSuperseded cachedKeys entries
    else ((block, key), values) :: blankSuperseded (key :: cachedKeys) entries

def newestFirst (entries : List ((Nat × K) × List V)) : List ((Nat × K) × List V) :=
  entries.insertionSort fun left right => toLex right.1 ≤ toLex left.1

omit [CacheKey K V] in
theorem map_fst_blankSuperseded (cachedKeys : List K) (entries : List ((Nat × K) × List V)) :
    (blankSuperseded cachedKeys entries).map Prod.fst = entries.map Prod.fst := by
  fun_induction blankSuperseded cachedKeys entries with
  | case1 => rfl
  | case2 | case3 => simp [*]

def dropSuperseded (entries : EntryMap (Nat × K) (List V)) : EntryMap (Nat × K) (List V) where
  entries := (blankSuperseded [] (newestFirst entries.entries)).filter (!·.2.isEmpty)
  nodup_keys := by
    apply (List.filter_sublist.map Prod.fst).nodup
    rw [map_fst_blankSuperseded]
    exact ((List.perm_insertionSort _ _).map Prod.fst).nodup_iff.mpr entries.nodup_keys

def removeCachedBlocksOlderThan (oldestToKeep : Nat) (mutexed : Mutexed K V) : Mutexed K V :=
  let first : Nat × K := (oldestToKeep, CacheKey.firstOrd)
  let blocks := mutexed.cachedMostRecentlyAtBlock
  { mutexed with
    entries := dropSuperseded (mutexed.entries.filter fun key => toLex first ≤ toLex key)
    cachedMostRecentlyAtBlock := blocks.filter fun key =>
      (blocks.get key).any (oldestToKeep ≤ ·) }

end Mutexed

/-! ## Requests -/

/-- The answers to the attempts to fetch one key.  A missing one is an error. -/
abbrev Attempts (V : Type) := List (Option (List V))

def fetchInner (retries : Nat) (attempts : Attempts V) : Option (List V) :=
  (attempts.take (retries + 1)).findSome? id

def fetchInnerMany (retries : Nat) (responses : K → Attempts V) (keys : List K) : List V :=
  (keys.filterMap fun key => fetchInner retries (responses key)).flatten

/-! ## Fetches and updates -/

/-- A fetch that waits for an answer. -/
structure Fetch (K V : Type) where
  keys : List K
  block : Option Nat
  cacheMissBlock : Nat
  cacheHits : List V
  chunks : List (List K)

/-- A panic with the lock in hand poisons it, after which no call gets it. -/
structure Inner (K V : Type) where
  mutexed : Option (Mutexed K V)
  fetches : EntryMap Nat (Fetch K V)
  updating : Option (Nat × List K)

/-- What can happen to the cache. -/
inductive Event (K V : Type) where
  | fetch (id : Nat) (keys : List K) (block : Block)
  | fetched (id : Nat) (responses : K → Attempts V)
  | update (newBlock : Nat)
  | updated (responses : K → Attempts V)

/-- The result of a fetch. -/
structure Returned (K V : Type) where
  keys : List K
  block : Option Nat
  values : List V
  deriving DecidableEq

def Block.exact : Block → Option Nat
  | .recent | .finalized => none
  | .number block => some block

namespace Inner

def new (config : Config) (currentBlock : Nat) : Inner K V where
  mutexed := some (.new currentBlock config.maximumRecentBlockAge)
  fetches := ⟨[], List.nodup_nil⟩
  updating := none

variable (config : Config) (cacheSet : K → List K → List K)
  -- in which order a hash set is iterated
  (order : List K → List K)

def keySet (keys : List K) : List K := order keys.dedup

def startFetch (mutexed : Mutexed K V) (keys : List K) (block : Option Nat) :
    Fetch K V × Mutexed K V :=
  let (cacheHits, cacheMisses, mutexed) := Mutexed.lookUp cacheSet block keys mutexed
  ({ keys, block, cacheHits
     cacheMissBlock := block.getD mutexed.lastUpdateBlock
     chunks := chunks requestBatchSize (keySet order cacheMisses) }, mutexed)

def continueFetch (fetch : Fetch K V) (chunk : List K) (responses : K → Attempts V)
    (mutexed : Mutexed K V) : Option (Fetch K V × Mutexed K V) := do
  let fetched := fetchInnerMany config.maxRetries responses (keySet order chunk)
  let foundKeys := (fetched.map CacheKey.forValue).dedup
  let mutexed ← mutexed.insert fetch.cacheMissBlock chunk fetched
  return ({ fetch with
      cacheHits := fetch.cacheHits ++ fetched
      chunks := fetch.chunks.tail },
    if fetch.block.isSome then
      { mutexed with
        recentlyUsed := foundKeys.foldl (fun used key => cacheSet key used)
          mutexed.recentlyUsed }
    else mutexed)

def finishUpdate (newBlock : Nat) (keys : List K) (responses : K → Attempts V)
    (mutexed : Mutexed K V) : Option (Mutexed K V) := do
  let foundValues := fetchInnerMany config.maxRetries responses keys
  let mutexed ← mutexed.insert newBlock keys foundValues
  let oldestToKeep := newBlock - (config.numberOfBlocksToCache - 1)
  return { mutexed.removeCachedBlocksOlderThan oldestToKeep with
    lastUpdateBlock := newBlock }

section

variable (inner : Inner K V)

def settle (id : Nat) (fetch : Fetch K V) (mutexed : Mutexed K V) :
    Inner K V × Option (Returned K V) :=
  if fetch.chunks = [] then
    ({ inner with mutexed := some mutexed, fetches := inner.fetches.filter (· ≠ id) },
      some ⟨fetch.keys, fetch.block, fetch.cacheHits⟩)
  else
    ({ inner with mutexed := some mutexed, fetches := inner.fetches.insert id fetch }, none)

def act (event : Event K V) : Inner K V × Option (Returned K V) :=
  match inner.mutexed, event with
  | none, _ => (inner, none)
  | some mutexed, .fetch id keys block =>
    if inner.fetches.get id = none then
      let (fetch, mutexed) := startFetch cacheSet order mutexed keys block.exact
      inner.settle id fetch mutexed
    else (inner, none)
  | some mutexed, .fetched id responses =>
    match inner.fetches.get id with
    | none => (inner, none)
    | some fetch =>
      match fetch.chunks with
      | [] => (inner, none)
      | chunk :: _ =>
        match continueFetch config cacheSet order fetch chunk responses mutexed with
        | none => ({ inner with mutexed := none }, none)
        | some (fetch, mutexed) => inner.settle id fetch mutexed
  | some mutexed, .update newBlock =>
    match inner.updating with
    | some _ => (inner, none)
    | none =>
      let keys := keySet order mutexed.recentlyUsed
      ({ inner with updating := some (newBlock, keys) }, none)
  | some mutexed, .updated responses =>
    match inner.updating with
    | none => (inner, none)
    | some (newBlock, keys) =>
      ({ inner with
          mutexed := finishUpdate config newBlock keys responses mutexed
          updating := none }, none)

/-- What an event changes. -/
def step (event : Event K V) : Inner K V :=
  (inner.act config cacheSet order event).1

/-- What an event returns to its caller. -/
def returned (event : Event K V) : Option (Returned K V) :=
  (inner.act config cacheSet order event).2

end

end Inner

end MandateSolver.RecentBlockCache
