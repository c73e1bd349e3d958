import MandateSolver.RecentBlockCache.Inner

/-!
# What the cache returns is on chain

As long as a request fails only for keys without values, every cached entry has the values
of its key at its block.
-/

namespace MandateSolver.RecentBlockCache

/-- What there is to be fetched at each block. -/
structure Chain (K V : Type) [CacheKey K V] where
  values : Nat → K → List V
  keyed : ∀ block key, ∀ value ∈ values block key, CacheKey.forValue value = key

variable {K V : Type} [LinearOrder K] [CacheKey K V] {chain : Chain K V}
  {cacheSet : K → List K → List K} {responses : K → Attempts V} {order : List K → List K}
  {mutexed : Mutexed K V} {config : Config}

/-! ## The property -/

/-- Requests that succeed return the values on the chain. -/
def Honest (chain : Chain K V) (block : Nat) (keys : List K) (responses : K → Attempts V) : Prop :=
  ∀ key ∈ keys, ∀ values, some values ∈ responses key → values.Perm (chain.values block key)

/-- Only keys without values run out of retries. -/
def NoneLost (chain : Chain K V) (retries block : Nat) (keys : List K)
    (responses : K → Attempts V) : Prop :=
  ∀ key ∈ keys, fetchInner retries (responses key) = none → chain.values block key = []

/-- The values are those of the requested keys.  A key that is requested more than
once may have its values repeated. -/
structure Exact (chain : Chain K V) (block : Nat) (keys : List K) (values : List V) :
    Prop where
  found : ∀ key ∈ keys, ∃ copies, 1 ≤ copies ∧ copies ≤ keys.count key ∧
    (values.filter (CacheKey.forValue · = key)).Perm
      (List.replicate copies (chain.values block key)).flatten
  requested : ∀ value ∈ values, CacheKey.forValue value ∈ keys

/-! ## Requests -/

section

variable {retries block : Nat} {keys served : List K}

omit [LinearOrder K] in
theorem fetchInner_perm {key : K} (honest : ∀ values, some values ∈ responses key →
      values.Perm (chain.values block key))
    (answered : fetchInner retries (responses key) = none → chain.values block key = []) :
    ((fetchInner retries (responses key)).getD []).Perm (chain.values block key) := by
  cases fetched : fetchInner retries (responses key) with
  | none => rw [answered fetched, Option.getD_none]
  | some values =>
    obtain ⟨_, mem, isValues⟩ := List.exists_of_findSome?_eq_some fetched
    subst isValues
    exact honest values (List.mem_of_mem_take mem)

omit [LinearOrder K] in
theorem fetchInnerMany_perm (honest : Honest chain block keys responses)
    (noneLost : NoneLost chain retries block keys responses) :
    (fetchInnerMany retries responses keys).Perm (keys.flatMap (chain.values block)) := by
  induction keys with
  | nil => rfl
  | cons key keys ih =>
    have first := fetchInner_perm (honest key List.mem_cons_self) (noneLost key List.mem_cons_self)
    have rest := ih (fun other mem => honest other (List.mem_cons_of_mem key mem))
      (fun other mem => noneLost other (List.mem_cons_of_mem key mem))
    have split : fetchInnerMany retries responses (key :: keys) =
        (fetchInner retries (responses key)).getD [] ++ fetchInnerMany retries responses keys := by
      unfold fetchInnerMany
      cases fetched : fetchInner retries (responses key) with
      | none | some values => simp [fetched]
    rw [split]
    exact first.append rest

theorem filter_flatMap_values (key : K) :
    (served.flatMap (chain.values block)).filter (CacheKey.forValue · = key) =
      (List.replicate (served.count key) (chain.values block key)).flatten := by
  induction served with
  | nil => rfl
  | cons other served ih =>
    rw [List.flatMap_cons, List.filter_append, ih, List.count_cons]
    by_cases same : other = key
    · subst same
      have all : (chain.values block other).filter (CacheKey.forValue · = other) =
          chain.values block other := by
        apply List.filter_eq_self.mpr
        intro value mem
        exact decide_eq_true (chain.keyed block other value mem)
      rw [all, if_pos (beq_self_eq_true other), List.replicate_succ, List.flatten_cons]
    · have none : (chain.values block other).filter (CacheKey.forValue · = key) = [] := by
        apply List.filter_eq_nil_iff.mpr
        intro value mem
        rw [decide_eq_true_eq, chain.keyed block other value mem]
        exact same
      rw [none, if_neg (by simpa using same), List.nil_append, Nat.add_zero]

/-- Every requested key is served, and no more often than it was asked for. -/
structure Covers (keys served : List K) : Prop where
  mem_iff : ∀ key, key ∈ keys ↔ key ∈ served
  count_le : ∀ key, served.count key ≤ keys.count key

omit [CacheKey K V] in
theorem Covers.of_perm (perm : served.Perm keys) : Covers keys served where
  mem_iff _ := perm.mem_iff.symm
  count_le key := Nat.le_of_eq (perm.count_eq key)

theorem Covers.dedup {served part set rest : List K}
    (covers : Covers keys (served ++ (part ++ rest))) (perm : set.Perm part.dedup) :
    Covers keys (served ++ (set ++ rest)) where
  mem_iff key := by
    rw [covers.mem_iff]
    simp only [List.mem_append, perm.mem_iff, List.mem_dedup]
  count_le key := by
    apply Nat.le_trans _ (covers.count_le key)
    have fewer := perm.count_eq key ▸ (List.dedup_sublist part).count_le key
    simp only [List.count_append]
    omega

theorem exact_of_covers {values : List V} (covers : Covers keys served)
    (perm : values.Perm (served.flatMap (chain.values block))) :
    Exact chain block keys values where
  found key mem := by
    refine ⟨served.count key, ?_, covers.count_le key, ?_⟩
    · exact List.count_pos_iff.mpr ((covers.mem_iff key).mp mem)
    · rw [← filter_flatMap_values]
      exact perm.filter _
  requested value mem := by
    obtain ⟨key, isServed, isValue⟩ := List.mem_flatMap.mp (perm.mem_iff.mp mem)
    rw [chain.keyed block key value isValue]
    exact (covers.mem_iff key).mpr isServed

end

/-! ## The cached entries -/

section

variable {block : Nat} {keys : List K} {values : List V}

/-- Cached values are those on the chain. -/
def Correct (chain : Chain K V) (entries : EntryMap (Nat × K) (List V)) : Prop :=
  ∀ block key values, entries.get (block, key) = some values → values.Perm (chain.values block key)

namespace Mutexed

omit [CacheKey K V] in
theorem get_insertKeys (other : Nat) (key : K) :
    (mutexed.insertKeys block keys).entries.get (other, key) =
      if other = block ∧ key ∈ keys then some [] else mutexed.entries.get (other, key) := by
  unfold insertKeys
  induction keys generalizing mutexed with
  | nil => simp
  | cons first keys ih =>
    rw [List.foldl_cons, ih]
    by_cases inserted : (other, key) = (block, first)
    · cases inserted
      simp
    · rw [EntryMap.get_insert_of_ne inserted]
      simp only [Prod.mk.injEq, not_and] at inserted
      by_cases here : other = block
      · simp [inserted here]
      · simp [here]

theorem foldlM_pushValue (cached : ∀ value ∈ values,
      (mutexed.entries.get (block, CacheKey.forValue value)).isSome) :
    ∃ result, values.foldlM (pushValue block) mutexed = some result ∧
      ∀ other key, result.entries.get (other, key) = (mutexed.entries.get (other, key)).map (· ++
          if other = block then values.filter (CacheKey.forValue · = key) else []) := by
  induction values generalizing mutexed with
  | nil => exact ⟨mutexed, rfl, by simp⟩
  | cons value values ih =>
    obtain ⟨before, isBefore⟩ := Option.isSome_iff_exists.mp (cached value List.mem_cons_self)
    let entries :=
      mutexed.entries.insert (block, CacheKey.forValue value) (before ++ [value])
    let next : Mutexed K V := { mutexed with entries }
    have pushed : pushValue block mutexed value = some next := by
      simp [pushValue, isBefore, next, entries]
    have stillCached : ∀ later ∈ values,
        (next.entries.get (block, CacheKey.forValue later)).isSome := by
      intro later mem
      by_cases same : ((block, CacheKey.forValue later) : Nat × K) =
        (block, CacheKey.forValue value)
      · rw [same, EntryMap.get_insert_self]
        rfl
      · rw [EntryMap.get_insert_of_ne same]
        exact cached later (List.mem_cons_of_mem value mem)
    obtain ⟨result, success, lookup⟩ := ih stillCached
    refine ⟨result, ?_, ?_⟩
    · rw [List.foldlM_cons, pushed]
      exact success
    · intro other key
      rw [lookup]
      by_cases same : (other, key) = (block, CacheKey.forValue value)
      · cases same
        rw [EntryMap.get_insert_self, isBefore]
        simp
      · rw [EntryMap.get_insert_of_ne same]
        by_cases here : other = block
        · have ne : CacheKey.forValue value ≠ key := fun isKey =>
            same (by rw [here, isKey])
          simp [ne]
        · simp [here]

theorem insert_correct (correct : Correct chain mutexed.entries)
    (perm : values.Perm (keys.dedup.flatMap (chain.values block))) :
    ∃ result, mutexed.insert block keys values = some result ∧ Correct chain result.entries := by
  have keyed : ∀ value ∈ values, CacheKey.forValue value ∈ keys := by
    intro value mem
    obtain ⟨key, isKey, isValue⟩ := List.mem_flatMap.mp (perm.mem_iff.mp mem)
    rwa [chain.keyed block key value isValue, ← List.mem_dedup]
  have cached : ∀ value ∈ values, ((mutexed.insertKeys block keys).entries.get
      (block, CacheKey.forValue value)).isSome := by
    intro value mem
    rw [get_insertKeys, if_pos ⟨rfl, keyed value mem⟩]
    rfl
  obtain ⟨result, success, lookup⟩ := foldlM_pushValue cached
  refine ⟨result, success, ?_⟩
  intro other key found isFound
  rw [lookup, get_insertKeys] at isFound
  by_cases inserted : other = block ∧ key ∈ keys
  · rw [if_pos inserted, inserted.1] at isFound
    cases isFound
    have ofKey := perm.filter (CacheKey.forValue · = key)
    rw [filter_flatMap_values, List.count_dedup, if_pos inserted.2] at ofKey
    simpa [inserted.1] using ofKey
  · rw [if_neg inserted] at isFound
    obtain ⟨before, isBefore, rfl⟩ := Option.map_eq_some_iff.mp isFound
    have nothing : (if other = block then
        values.filter (CacheKey.forValue · = key) else []) = [] := by
      split
      · rename_i here
        apply List.filter_eq_nil_iff.mpr
        intro value mem isKey
        exact inserted ⟨here, of_decide_eq_true isKey ▸ keyed value mem⟩
      · rfl
    rw [nothing, List.append_nil]
    exact correct other key before isBefore

omit [CacheKey K V] in
theorem mem_of_mem_blankSuperseded {cachedKeys : List K}
    {entries : List ((Nat × K) × List V)} {entry : (Nat × K) × List V}
    (mem : entry ∈ blankSuperseded cachedKeys entries) (nonempty : entry.2 ≠ []) :
    entry ∈ entries := by
  fun_induction blankSuperseded cachedKeys entries with
  | case1 => exact mem
  | case2 cachedKeys block key values entries superseded ih =>
    rcases List.mem_cons.mp mem with blanked | later
    · exact absurd (congrArg Prod.snd blanked) nonempty
    · exact List.mem_cons_of_mem _ (ih later)
  | case3 cachedKeys block key values entries newest ih =>
    rcases List.mem_cons.mp mem with same | later
    · exact same ▸ List.mem_cons_self
    · exact List.mem_cons_of_mem _ (ih later)

theorem removeCachedBlocksOlderThan_correct (correct : Correct chain mutexed.entries)
    (oldestToKeep : Nat) :
    Correct chain (mutexed.removeCachedBlocksOlderThan oldestToKeep).entries := by
  intro block key values found
  rw [EntryMap.get_eq_some_iff] at found
  obtain ⟨blanked, nonempty⟩ := List.mem_filter.mp found
  have sorted := mem_of_mem_blankSuperseded blanked (by simpa using nonempty)
  have kept := (List.perm_insertionSort _ _).mem_iff.mp sorted
  apply correct block key values
  rw [EntryMap.get_eq_some_iff]
  exact (List.mem_filter.mp kept).1

/-! ### Looking up keys -/

variable {key : K}

omit [CacheKey K V] in
theorem entries_get (block : Option Nat) :
    (mutexed.get cacheSet key block).2.entries = mutexed.entries := by
  unfold get
  dsimp only
  split
  · rfl
  · split <;> rfl

omit [CacheKey K V] in
theorem get_at_block :
    (mutexed.get cacheSet key (some block)).1 = mutexed.entries.get (block, key) := by
  simp only [get, Option.some_or]
  split <;> rfl

omit [CacheKey K V] in
theorem entries_lookUp (block : Option Nat) :
    (lookUp cacheSet block keys mutexed).2.2.entries = mutexed.entries := by
  induction keys generalizing mutexed with
  | nil => rfl
  | cons key keys ih =>
    have rest : (lookUp cacheSet block keys
        (mutexed.get cacheSet key block).2).2.2.entries = mutexed.entries :=
      ih.trans (entries_get block)
    unfold lookUp
    dsimp only
    split <;> exact rest

/-- Every key is found with its values or missing. -/
theorem lookUp_at_block (correct : Correct chain mutexed.entries) :
    ∃ found, (lookUp cacheSet (some block) keys mutexed).1.Perm
        (found.flatMap (chain.values block)) ∧
      (found ++ (lookUp cacheSet (some block) keys mutexed).2.1).Perm keys := by
  induction keys generalizing mutexed with
  | nil => exact ⟨[], .refl _, .refl _⟩
  | cons key keys ih =>
    have same : (mutexed.get cacheSet key (some block)).2.entries = mutexed.entries :=
      entries_get (some block)
    obtain ⟨found, hits, covers⟩ := ih (same ▸ correct)
    unfold lookUp
    dsimp only
    cases cached : (mutexed.get cacheSet key (some block)).1 with
    | none =>
      refine ⟨found, hits, ?_⟩
      exact List.perm_middle.trans (covers.cons key)
    | some values =>
      rw [get_at_block] at cached
      refine ⟨key :: found, ?_, covers.cons key⟩
      exact (correct block key values cached).append hits

end Mutexed

end

/-! ## Fetches and updates -/

section

variable {fetch : Fetch K V} {keys chunk : List K}

/-- What a fetch at an exact block has found is on chain, and it goes on with the
rest of its keys. -/
def FetchCorrect (chain : Chain K V) (fetch : Fetch K V) : Prop :=
  ∀ block, fetch.block = some block → fetch.cacheMissBlock = block ∧
    ∃ served, fetch.cacheHits.Perm (served.flatMap (chain.values block)) ∧
      Covers fetch.keys (served ++ fetch.chunks.flatten)

namespace Inner

section

variable (order_perm : ∀ keys, (order keys).Perm keys)
include order_perm

omit [CacheKey K V] in
theorem keySet_perm (keys : List K) : (keySet order keys).Perm keys.dedup :=
  order_perm keys.dedup

theorem startFetch_correct (correct : Correct chain mutexed.entries) (keys : List K)
    (block : Option Nat) :
    FetchCorrect chain (startFetch cacheSet order mutexed keys block).1 ∧
      Correct chain (startFetch cacheSet order mutexed keys block).2.entries := by
  constructor
  · intro _ isBlock
    subst isBlock
    refine ⟨rfl, ?_⟩
    obtain ⟨found, hits, covers⟩ := Mutexed.lookUp_at_block correct
    refine ⟨found, hits, ?_⟩
    change Covers keys (found ++ (chunks requestBatchSize (keySet order _)).flatten)
    rw [flatten_chunks (by decide), ← List.append_nil (keySet order _)]
    apply Covers.dedup _ (keySet_perm order_perm _)
    rw [List.append_nil]
    exact .of_perm covers
  · change Correct chain (Mutexed.lookUp cacheSet block keys mutexed).2.2.entries
    rwa [Mutexed.entries_lookUp]

theorem continueFetch_correct (correct : Correct chain mutexed.entries)
    (fetchCorrect : FetchCorrect chain fetch)
    {rest : List (List K)} (isNext : fetch.chunks = chunk :: rest)
    (honest : Honest chain fetch.cacheMissBlock chunk responses)
    (noneLost : NoneLost chain config.maxRetries fetch.cacheMissBlock chunk responses) :
    ∃ next result, continueFetch config cacheSet order fetch chunk responses mutexed =
        some (next, result) ∧
      FetchCorrect chain next ∧ Correct chain result.entries := by
  have isKey key mem : key ∈ chunk :=
    List.mem_dedup.mp ((keySet_perm order_perm chunk).mem_iff.mp mem)
  have fetched := fetchInnerMany_perm (fun key mem => honest key (isKey key mem))
    (fun key mem => noneLost key (isKey key mem))
  have cached := fetched.trans ((keySet_perm order_perm chunk).flatMap_right _)
  obtain ⟨result, inserted, stillCorrect⟩ := Mutexed.insert_correct correct cached
  simp only [continueFetch, inserted, Option.bind_eq_bind]
  refine ⟨_, _, rfl, ?_, ?_⟩
  · intro block isBlock
    obtain ⟨missBlock, served, hits, covers⟩ := fetchCorrect block isBlock
    refine ⟨missBlock, served ++ keySet order chunk, ?_, ?_⟩
    · rw [List.flatMap_append]
      exact hits.append (missBlock ▸ fetched)
    · rw [isNext] at covers
      rw [List.append_assoc, isNext]
      exact covers.dedup (keySet_perm order_perm chunk)
  · split <;> exact stillCorrect

end

theorem finishUpdate_correct (correct : Correct chain mutexed.entries) {newBlock : Nat}
    (distinct : keys.Nodup) (honest : Honest chain newBlock keys responses)
    (noneLost : NoneLost chain config.maxRetries newBlock keys responses) :
    ∃ result, finishUpdate config newBlock keys responses mutexed = some result ∧
      Correct chain result.entries := by
  have fetched := fetchInnerMany_perm honest noneLost
  rw [← distinct.dedup] at fetched
  obtain ⟨result, inserted, stillCorrect⟩ := Mutexed.insert_correct correct fetched
  rw [distinct.dedup] at inserted
  simp only [finishUpdate, inserted, Option.bind_eq_bind]
  exact ⟨_, rfl, Mutexed.removeCachedBlocksOlderThan_correct stillCorrect _⟩

/-! ## Runs -/

variable {inner : Inner K V} {event : Event K V}

/-- The request an event answers. -/
def request (inner : Inner K V) : Event K V → Option (Nat × List K × (K → Attempts V))
  | .fetched id responses => do
    let fetch ← inner.fetches.get id
    let chunk ← fetch.chunks.head?
    return (fetch.cacheMissBlock, chunk, responses)
  | .updated responses => do
    let (newBlock, keys) ← inner.updating
    return (newBlock, keys, responses)
  | .fetch _ _ _ | .update _ => none

/-- The request of a step is honest. -/
def HonestStep (chain : Chain K V) (inner : Inner K V) (event : Event K V) : Prop :=
  ∀ block keys responses, inner.request event = some (block, keys, responses) →
    Honest chain block keys responses

/-- The request of a step loses nothing. -/
def NoneLostStep (config : Config) (chain : Chain K V) (inner : Inner K V)
    (event : Event K V) : Prop :=
  ∀ block keys responses, inner.request event = some (block, keys, responses) →
    NoneLost chain config.maxRetries block keys responses

/-- The invariant of the cache and of its fetches. -/
structure InnerCorrect (chain : Chain K V) (inner : Inner K V) : Prop where
  entries : ∀ mutexed, inner.mutexed = some mutexed → Correct chain mutexed.entries
  fetches : ∀ id fetch, inner.fetches.get id = some fetch → FetchCorrect chain fetch
  updating : ∀ newBlock keys, inner.updating = some (newBlock, keys) → keys.Nodup

/-- Fetches return what is on the chain at their block. -/
def ReturnedExact (chain : Chain K V) (returned : Returned K V) : Prop :=
  ∀ block, returned.block = some block → Exact chain block returned.keys returned.values

/-- What one step keeps. -/
def ActCorrect (chain : Chain K V) (result : Inner K V × Option (Returned K V)) : Prop :=
  InnerCorrect chain result.1 ∧ ∀ returned ∈ result.2, ReturnedExact chain returned

theorem settle_correct (correct : InnerCorrect chain inner) {id : Nat}
    (fetchCorrect : FetchCorrect chain fetch) (entries : Correct chain mutexed.entries) :
    ActCorrect chain (inner.settle id fetch mutexed) := by
  unfold settle
  split
  · rename_i finished
    refine ⟨⟨?_, ?_, correct.updating⟩, ?_⟩
    · intro _ same
      cases same
      exact entries
    · intro other otherFetch found
      exact correct.fetches other otherFetch (EntryMap.get_of_get_filter found)
    · intro returned isReturned block isBlock
      cases isReturned
      obtain ⟨-, served, hits, covers⟩ := fetchCorrect block isBlock
      rw [finished, List.flatten_nil, List.append_nil] at covers
      exact exact_of_covers covers hits
  · refine ⟨⟨?_, ?_, correct.updating⟩, ?_⟩
    · intro _ same
      cases same
      exact entries
    · intro other otherFetch found
      by_cases same : other = id
      · rw [same, EntryMap.get_insert_self] at found
        exact Option.some.inj found ▸ fetchCorrect
      · rw [EntryMap.get_insert_of_ne same] at found
        exact correct.fetches other otherFetch found
    · intro returned isReturned
      cases isReturned

theorem actCorrect_self (correct : InnerCorrect chain inner) : ActCorrect chain (inner, none) :=
  ⟨correct, fun _ isReturned => by cases isReturned⟩

theorem act_correct (order_perm : ∀ keys, (order keys).Perm keys)
    (correct : InnerCorrect chain inner) (honest : HonestStep chain inner event)
    (noneLost : NoneLostStep config chain inner event) :
    ActCorrect chain (inner.act config cacheSet order event) := by
  cases isMutexed : inner.mutexed with
  | none =>
    simp only [act, isMutexed]
    exact actCorrect_self correct
  | some mutexed =>
    have entries := correct.entries mutexed isMutexed
    cases event with
    | fetch id keys block =>
      simp only [act, isMutexed]
      split
      · obtain ⟨fetchCorrect, stillCorrect⟩ :=
          startFetch_correct order_perm entries keys block.exact
        exact settle_correct correct fetchCorrect stillCorrect
      · exact actCorrect_self correct
    | fetched id responses =>
      simp only [act, isMutexed]
      split
      · exact actCorrect_self correct
      · rename_i fetch isFetch
        split
        · exact actCorrect_self correct
        · rename_i chunk rest isNext
          have asked : inner.request (.fetched id responses) =
              some (fetch.cacheMissBlock, chunk, responses) := by
            simp [request, isFetch, isNext]
          obtain ⟨next, result, continued, fetchCorrect, stillCorrect⟩ :=
            continueFetch_correct order_perm entries (correct.fetches id fetch isFetch) isNext
              (honest _ _ _ asked) (noneLost _ _ _ asked)
          rw [continued]
          exact settle_correct correct fetchCorrect stillCorrect
    | update newBlock =>
      simp only [act, isMutexed]
      split
      · exact actCorrect_self correct
      · refine ⟨⟨?_, correct.fetches, ?_⟩, ?_⟩
        · intro _ same
          cases same
          exact entries
        · intro _ _ same
          cases same
          exact (keySet_perm order_perm _).nodup_iff.mpr (List.nodup_dedup _)
        · intro returned isReturned
          cases isReturned
    | updated responses =>
      simp only [act, isMutexed]
      split
      · exact actCorrect_self correct
      · rename_i newBlock keys isUpdating
        have asked : inner.request (.updated responses) = some (newBlock, keys, responses) := by
          simp [request, isUpdating]
        obtain ⟨result, finished, stillCorrect⟩ :=
          finishUpdate_correct entries (correct.updating newBlock keys isUpdating)
            (honest _ _ _ asked) (noneLost _ _ _ asked)
        refine ⟨⟨?_, correct.fetches, ?_⟩, ?_⟩
        · intro _ same
          cases finished.symm.trans same
          exact stillCorrect
        · intro _ _ same
          cases same
        · intro returned isReturned
          cases isReturned

theorem new_correct {currentBlock : Nat} : InnerCorrect chain (new config currentBlock) where
  entries mutexed isMutexed block key values found := by
    cases isMutexed
    cases found
  fetches _ _ found := by cases found
  updating _ _ found := by cases found

end Inner

end

section

variable {currentBlock : Nat} {events : List (Event K V)}

open RecentBlockCache.Inner

/-- If requests fail only for keys without values, every fetch at an exact block
returns the values that its keys have at this block. -/
theorem fetch_returns_values_on_chain (order_perm : ∀ keys, (order keys).Perm keys)
    (honest : Run.Along (step config cacheSet order) (HonestStep chain)
      (new config currentBlock) events)
    (noneLost : Run.Along (step config cacheSet order) (NoneLostStep config chain)
      (new config currentBlock) events) :
    ∀ answer ∈ Run.events (step config cacheSet order) (returned config cacheSet order)
      (new config currentBlock) events,
      ∀ block, answer.block = some block → Exact chain block answer.keys answer.values := by
  refine Run.forall_events (fun inner events => InnerCorrect chain inner ∧
    Run.Along (step config cacheSet order) (HonestStep chain) inner events ∧
    Run.Along (step config cacheSet order) (NoneLostStep config chain) inner events)
    ?_ ?_ ?_
  · intro inner event events invariant
    obtain ⟨correct, honest, noneLost⟩ := invariant
    exact ⟨(act_correct order_perm correct honest.1 noneLost.1).1, honest.2, noneLost.2⟩
  · intro inner event events invariant answer isAnswer
    obtain ⟨correct, honest, noneLost⟩ := invariant
    exact (act_correct order_perm correct honest.1 noneLost.1).2 answer isAnswer
  · exact ⟨new_correct, honest, noneLost⟩

end

/-! ## One pool -/

structure Pool where
  (pair reserve : Nat)
  deriving DecidableEq

instance : CacheKey Nat Pool where
  firstOrd := 0
  forValue := Pool.pair

def onePool : Chain Nat Pool where
  values _ pair := if pair = 3 then [⟨3, 100⟩] else []
  keyed block pair pool mem := by
    split at mem
    · rename_i isPair
      rw [List.mem_singleton.mp mem, isPair]
      rfl
    · cases mem

def oneRetry : Config where
  numberOfBlocksToCache := 2
  nonZero := by decide
  maximumRecentBlockAge := 4
  maxRetries := 1

def secondAttempt (pair : Nat) : Attempts Pool :=
  [none, some (if pair = 3 then [⟨3, 100⟩] else [])]

def recovered : List (Event Nat Pool) :=
  [.fetch 0 [3, 4] (.number 10), .fetched 0 secondAttempt, .update 11,
    .updated secondAttempt, .fetch 1 [3] (.number 11)]

section

open RecentBlockCache.Inner

variable {inner : Inner Nat Pool} {keys : List Nat} {responses : Nat → Attempts Pool}

theorem responses_of_fetched {id block : Nat} {sent : Nat → Attempts Pool}
    (asked : inner.request (.fetched id sent) = some (block, keys, responses)) :
    responses = sent := by
  simp only [request, Option.bind_eq_bind, Option.bind_eq_some_iff, Option.pure_def,
    Option.some.injEq] at asked
  obtain ⟨_, _, _, _, _, _, rfl⟩ := asked
  rfl

theorem responses_of_request {event : Event Nat Pool} (mem : event ∈ recovered) {block : Nat}
    (asked : inner.request event = some (block, keys, responses)) : responses = secondAttempt := by
  simp only [recovered, List.mem_cons, List.not_mem_nil, or_false] at mem
  rcases mem with rfl | rfl | rfl | rfl | rfl
  · cases asked
  · exact responses_of_fetched asked
  · cases asked
  · simp only [request, Option.bind_eq_bind, Option.bind_eq_some_iff, Option.pure_def,
      Option.some.injEq] at asked
    obtain ⟨_, _, _, _, rfl⟩ := asked
    rfl
  · cases asked

theorem fetch_returns_recovered_values : Exact onePool 11 [3] [⟨3, 100⟩] := by
  have honest : Run.Along (step oneRetry List.cons id) (HonestStep onePool)
      (new oneRetry 10) recovered := by
    apply Run.along_of_forall
    intro inner event mem block keys responses asked pair _ _ answered
    rw [responses_of_request mem asked] at answered
    simp only [secondAttempt, List.mem_cons, reduceCtorEq, Option.some.injEq,
      List.not_mem_nil, or_false, false_or] at answered
    rw [answered]
    exact .refl _
  have noneLost : Run.Along (step oneRetry List.cons id) (NoneLostStep oneRetry onePool)
      (new oneRetry 10) recovered := by
    apply Run.along_of_forall
    intro inner event mem block keys responses asked pair _ lost
    rw [responses_of_request mem asked] at lost
    cases lost
  have answered : ⟨[3], some 11, [⟨3, 100⟩]⟩ ∈ Run.events (step oneRetry List.cons id)
      (returned oneRetry List.cons id) (new oneRetry 10) recovered := by
    decide +kernel
  exact fetch_returns_values_on_chain (fun keys => .refl keys) honest noneLost _ answered 11 rfl

def failing : List (Event Nat Pool) :=
  [.fetch 0 [3] (.number 10), .fetched 0 (fun _ => [none, none]), .fetch 1 [3] (.number 10)]

/-- The request fails, and neither this call nor a later one finds the pool. -/
theorem fetch_hides_failed_request :
    Run.Along (step oneRetry List.cons id) (HonestStep onePool) (new oneRetry 10) failing ∧
      Run.events (step oneRetry List.cons id) (returned oneRetry List.cons id)
        (new oneRetry 10) failing = [⟨[3], some 10, []⟩, ⟨[3], some 10, []⟩] ∧
      onePool.values 10 3 = [⟨3, 100⟩] ∧ ¬Exact onePool 10 [3] [] := by
  refine ⟨?_, by decide +kernel, rfl, ?_⟩
  · apply Run.along_of_forall
    intro _ _ mem _ _ _ asked _ _ values answered
    simp only [failing, List.mem_cons, List.not_mem_nil, or_false] at mem
    rcases mem with rfl | rfl | rfl
    · cases asked
    · rw [responses_of_fetched asked] at answered
      simp at answered
    · cases asked
  · intro exact
    obtain ⟨_, _, -, perm⟩ := exact.found 3 List.mem_cons_self
    have length := perm.length_eq
    simp [onePool] at length
    omega

end

end MandateSolver.RecentBlockCache
