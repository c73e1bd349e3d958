import Mathlib.Data.List.Pairwise
import MandateSolver.Eth

/-!
# The cache of token qualities

Updates refresh the age of an entry.  A lookup should ignore outdated entries, but the test
of the age is the wrong way round.
-/

namespace MandateSolver.BadTokens

open List Option

/-- What is known of a token. -/
inductive Quality where
  | supported
  | unsupported
  | unknown
  deriving DecidableEq

/-- The last word on a token. -/
structure CacheEntry where
  lastUpdated : Nat
  isSupported : Bool

/-- The qualities that were observed. -/
structure Cache where
  cache : TokenAddress → Option CacheEntry
  maxAge : Nat

namespace Cache

/-! ## Operations

Times are counted from some fixed moment.  The time between an earlier and a
later moment is zero when they are taken in the wrong order. -/

def new (maxAge : Nat) : Cache where
  cache _ := none
  maxAge := maxAge

def updateQuality (cache : Cache) (token : TokenAddress) (isSupported : Bool) (now : Nat) : Cache :=
  let entry := match cache.cache token with
    | some entry =>
      if !isSupported || now - entry.lastUpdated > cache.maxAge
      then ⟨now, isSupported⟩ else ⟨now, entry.isSupported⟩
    | none => ⟨now, isSupported⟩
  { cache with
    cache := fun other => if other = token then some entry else cache.cache other }

def evictOutdatedEntries (cache : Cache) (now : Nat) : Cache :=
  { cache with
    cache := fun token => (cache.cache token).filter fun entry =>
      now - entry.lastUpdated < cache.maxAge }

def getQuality (cache : Cache) (token : TokenAddress) (now : Nat) : Quality :=
  match cache.cache token with
  | none => .unknown
  | some entry =>
    let stillValid : Bool := now - entry.lastUpdated > cache.maxAge
    match stillValid, entry.isSupported with
    | false, _ => .unknown
    | true, true => .supported
    | true, false => .unsupported

/-- The calls of the cache. -/
inductive Operation where
  | updateQuality (token : TokenAddress) (isSupported : Bool) (now : Nat)
  | evictOutdatedEntries (now : Nat)
  | getQuality (token : TokenAddress) (now : Nat)

/-- When an operation runs. -/
def Operation.now : Operation → Nat
  | .updateQuality _ _ now | .evictOutdatedEntries now | .getQuality _ now => now

/-- What an operation leaves. -/
def step (cache : Cache) : Operation → Cache
  | .updateQuality token isSupported now => cache.updateQuality token isSupported now
  | .evictOutdatedEntries now => cache.evictOutdatedEntries now
  | .getQuality _ _ => cache

/-- The clock does not go back. -/
def Chronological (operations : List Operation) : Prop :=
  operations.Pairwise fun earlier later => earlier.now ≤ later.now

/-! ## What a lookup should return -/

def Operation.updated (token : TokenAddress) : Operation → Option Nat
  | .updateQuality updated _ now => if updated = token then some now else none
  | .evictOutdatedEntries _ | .getQuality _ _ => none

def lastUpdate (token : TokenAddress) : List Operation → Option (Nat × List Operation)
  | [] => none
  | operation :: later =>
    (lastUpdate token later).or ((operation.updated token).map fun time => (time, later))

section

variable (maxAge : Nat) (history : List Operation) (token : TokenAddress) (now : Nat)

/-- What an answer must be, by the age of the updates. -/
structure ValidAnswer (quality : Quality) : Prop where
  outdated : (∀ time later, lastUpdate token history = some (time, later) →
    maxAge < now - time) → quality = .unknown
  unsupported : ∀ time, .updateQuality token false time ∈ history →
    now - time < maxAge → quality = .unsupported
  supported : ∀ time later, lastUpdate token history = some (time, later) →
    now - time < maxAge → (∀ time, .updateQuality token false time ∉ history) →
    quality = .supported

/-- The histories for which the answer is valid. -/
def AnsweredRight : Prop :=
  match lastUpdate token history with
  | none => True
  | some (time, later) =>
    now - time = maxAge ∨
    (maxAge < now - time ∧
      ∃ evicted, .evictOutdatedEntries evicted ∈ later ∧ maxAge ≤ evicted - time) ∨
    (now - time < maxAge ∧ (∃ said, .updateQuality token false said ∈ history) ∧
      ∀ said, .updateQuality token false said ∈ history → maxAge ≤ now - said)

end

/-! ## The last update -/

variable {cache : Cache} {token : TokenAddress} {history later : List Operation}
  {time now maxAge : Nat} {operation : Operation}

theorem updated_eq_some_iff : operation.updated token = some time ↔
      ∃ isSupported, operation = .updateQuality token isSupported time := by
  cases operation with
  | updateQuality updated isSupported now =>
    simp only [Operation.updated, ite_none_right_eq_some, Option.some.injEq,
      Operation.updateQuality.injEq]
    constructor
    · rintro ⟨rfl, rfl⟩
      exact ⟨isSupported, rfl, rfl, rfl⟩
    · rintro ⟨_, rfl, _, rfl⟩
      exact ⟨rfl, rfl⟩
  | evictOutdatedEntries now | getQuality looked now => simp [Operation.updated]

theorem lastUpdate_cons_eq_some_iff :
    lastUpdate token (operation :: history) = some (time, later) ↔
      lastUpdate token history = some (time, later) ∨
        lastUpdate token history = none ∧ later = history ∧
          ∃ isSupported, operation = .updateQuality token isSupported time := by
  rw [lastUpdate, or_eq_some_iff, map_eq_some_iff]
  simp only [Prod.mk.injEq, ← updated_eq_some_iff]
  constructor
  · rintro (tail | ⟨none, _, updated, rfl, rfl⟩)
    · exact .inl tail
    · exact .inr ⟨none, rfl, updated⟩
  · rintro (tail | ⟨none, rfl, updated⟩)
    · exact .inl tail
    · exact .inr ⟨none, _, updated, rfl, rfl⟩

theorem lastUpdate_cons_eq_none_iff :
    lastUpdate token (operation :: history) = none ↔
      lastUpdate token history = none ∧ operation.updated token = none := by
  rw [lastUpdate, or_eq_none_iff, map_eq_none_iff]

theorem not_mem_of_lastUpdate_eq_none (none : lastUpdate token history = none)
    (isSupported : Bool) (time : Nat) : .updateQuality token isSupported time ∉ history := by
  induction history with
  | nil => simp
  | cons operation history ih =>
    obtain ⟨tail, first⟩ := lastUpdate_cons_eq_none_iff.mp none
    intro mem
    rcases mem_cons.mp mem with rfl | later
    · simp [Operation.updated] at first
    · exact ih tail later

theorem mem_of_lastUpdate (found : lastUpdate token history = some (time, later)) :
    ∃ isSupported, .updateQuality token isSupported time ∈ history := by
  induction history with
  | nil => cases found
  | cons operation history ih =>
    rcases lastUpdate_cons_eq_some_iff.mp found with tail | ⟨-, -, isSupported, rfl⟩
    · obtain ⟨isSupported, mem⟩ := ih tail
      exact ⟨isSupported, mem_cons_of_mem _ mem⟩
    · exact ⟨isSupported, mem_cons_self⟩

theorem updated_le_lastUpdate (chronological : Chronological history)
    (found : lastUpdate token history = some (time, later)) {isSupported : Bool}
    {said : Nat} (update : .updateQuality token isSupported said ∈ history) : said ≤ time := by
  induction history with
  | nil => cases found
  | cons operation history ih =>
    obtain ⟨first, rest⟩ := pairwise_cons.mp chronological
    rcases lastUpdate_cons_eq_some_iff.mp found with tail | ⟨none, -, _, rfl⟩
    · rcases mem_cons.mp update with rfl | inHistory
      · obtain ⟨_, mem⟩ := mem_of_lastUpdate tail
        exact first _ mem
      · exact ih rest tail inHistory
    · rcases mem_cons.mp update with equal | inHistory
      · cases equal
        exact le_rfl
      · exact absurd inHistory (not_mem_of_lastUpdate_eq_none none _ _)

/-! ## Entries after a run -/

section

variable (cache : Cache)

@[simp]
theorem maxAge_step (operation : Operation) : (cache.step operation).maxAge = cache.maxAge := by
  cases operation <;> rfl

@[simp]
theorem maxAge_run (history : List Operation) :
    (history.foldl step cache).maxAge = cache.maxAge := by
  induction history generalizing cache with
  | nil => rfl
  | cons operation history ih => rw [foldl_cons, ih, maxAge_step]

theorem entry_of_no_update (none : lastUpdate token history = none) (entry : CacheEntry) :
    (history.foldl step cache).cache token = some entry ↔ cache.cache token = some entry ∧
        ∀ evicted, .evictOutdatedEntries evicted ∈ history →
          evicted - entry.lastUpdated < cache.maxAge := by
  induction history generalizing cache with
  | nil => simp
  | cons operation history ih =>
    obtain ⟨tail, notUpdated⟩ := lastUpdate_cons_eq_none_iff.mp none
    rw [foldl_cons, ih _ tail]
    cases operation with
    | updateQuality updated isSupported now =>
      have other : token ≠ updated := by
        rintro rfl
        simp [Operation.updated] at notUpdated
      simp [step, updateQuality, other]
    | evictOutdatedEntries now =>
      simp [step, evictOutdatedEntries, and_assoc]
    | getQuality looked now => simp [step]

theorem exists_updated (token : TokenAddress) (isSupported : Bool) (now : Nat) :
    ∃ flag, (cache.updateQuality token isSupported now).cache token = some ⟨now, flag⟩ := by
  simp only [updateQuality, if_true]
  cases cache.cache token with
  | none => exact ⟨isSupported, rfl⟩
  | some entry =>
    dsimp only
    split
    · exact ⟨isSupported, rfl⟩
    · exact ⟨entry.isSupported, rfl⟩

/-- An updated token has the time of the last update, if it has not been
evicted since. -/
theorem entry_of_update (found : lastUpdate token history = some (time, later)) :
    (∀ entry, (history.foldl step cache).cache token = some entry → entry.lastUpdated = time) ∧
    ((history.foldl step cache).cache token = none ↔
      ∃ evicted, .evictOutdatedEntries evicted ∈ later ∧ cache.maxAge ≤ evicted - time) := by
  induction history generalizing cache with
  | nil => cases found
  | cons operation history ih =>
    rw [foldl_cons, ← maxAge_step cache operation]
    rcases lastUpdate_cons_eq_some_iff.mp found with
      tail | ⟨none, rfl, isSupported, rfl⟩
    · exact ih _ tail
    · obtain ⟨_, entry⟩ := exists_updated cache token isSupported time
      have kept := entry_of_no_update (cache.step (.updateQuality token isSupported time)) none
      simp only [step, entry, Option.some.injEq] at kept ⊢
      constructor
      · intro last present
        obtain ⟨rfl, -⟩ := (kept last).mp present
        rfl
      · rw [eq_none_iff_forall_ne_some]
        simp only [Ne, kept, not_and, forall_eq', not_forall, not_lt, exists_prop]

end

theorem getQuality_eq_unknown_iff : cache.getQuality token now = .unknown ↔
      ∀ entry, cache.cache token = some entry → now - entry.lastUpdated ≤ cache.maxAge := by
  unfold getQuality
  cases cache.cache token with
  | none => simp
  | some entry =>
    simp only [Option.some.injEq, forall_eq']
    by_cases outdated : now - entry.lastUpdated > cache.maxAge
    · rw [decide_eq_true outdated, iff_false_right (not_le.mpr outdated)]
      cases entry.isSupported <;> simp
    · rw [decide_eq_false outdated, iff_true_right (not_lt.mp outdated)]

theorem answer_of_no_update (maxAge now : Nat) (none : lastUpdate token history = none) :
    (history.foldl step (new maxAge)).getQuality token now = .unknown := by
  rw [getQuality_eq_unknown_iff]
  intro entry present
  cases ((entry_of_no_update _ none entry).mp present).1

theorem answer_of_update (maxAge now : Nat)
    (found : lastUpdate token history = some (time, later)) :
    (history.foldl step (new maxAge)).getQuality token now = .unknown ↔ now - time ≤ maxAge ∨
        ∃ evicted, .evictOutdatedEntries evicted ∈ later ∧ maxAge ≤ evicted - time := by
  obtain ⟨timed, gone⟩ := entry_of_update (new maxAge) found
  change _ ↔ ∃ evicted, _ ∧ maxAge ≤ evicted - time at gone
  rw [getQuality_eq_unknown_iff, ← gone, maxAge_run]
  cases present : (history.foldl step (new maxAge)).cache token with
  | none => simp
  | some entry =>
    simp only [Option.some.injEq, forall_eq', timed entry present, reduceCtorEq, or_false]
    rfl

theorem answeredRight_of_valid (found : lastUpdate token history = some (time, later))
    (valid : ValidAnswer maxAge history token now
      ((history.foldl step (new maxAge)).getQuality token now)) :
    AnsweredRight maxAge history token now := by
  have unknown := answer_of_update maxAge now found
  unfold AnsweredRight
  rw [found]
  rcases lt_trichotomy (now - time) maxAge with recent | exact | old
  · have answered := unknown.mpr (.inl recent.le)
    rw [answered] at valid
    refine .inr (.inr ⟨recent, ?_, ?_⟩)
    · by_contra noneSaid
      rw [not_exists] at noneSaid
      cases valid.supported time later found recent noneSaid
    · intro said update
      by_contra tooRecent
      cases valid.unsupported said update (not_le.mp tooRecent)
  · exact .inl exact
  · have answered := valid.outdated fun _ _ updated => by
      rw [found] at updated
      cases updated
      exact old
    have evicted := (unknown.mp answered).resolve_left (not_le.mpr old)
    exact .inr (.inl ⟨old, evicted⟩)

theorem valid_of_answeredRight (ordered : Chronological history)
    (found : lastUpdate token history = some (time, later))
    (right : AnsweredRight maxAge history token now) :
    ValidAnswer maxAge history token now
      ((history.foldl step (new maxAge)).getQuality token now) := by
  have unknown := answer_of_update maxAge now found
  unfold AnsweredRight at right
  rw [found] at right
  constructor
  · intro outdated
    have old := outdated time later found
    rcases right with exact | ⟨-, evicted⟩ | ⟨recent, -⟩
    · omega
    · exact unknown.mpr (.inr evicted)
    · omega
  · intro said update recent
    have before := updated_le_lastUpdate ordered found update
    rcases right with exact | ⟨old, -⟩ | ⟨-, -, notRecent⟩
    · omega
    · omega
    · exact absurd recent (not_lt.mpr (notRecent said update))
  · intro _ _ updated recent noneSaid
    rw [found] at updated
    cases updated
    rcases right with exact | ⟨old, -⟩ | ⟨-, ⟨said, update⟩, -⟩
    · omega
    · omega
    · exact absurd update (noneSaid said)

/-- After any operations exactly the lookups that are not concerned by the
reversed test are answered as they should be. -/
theorem getQuality_valid_iff (maxAge : Nat) (history : List Operation)
    (token : TokenAddress) (now : Nat)
    (chronological : Chronological (history ++ [.getQuality token now])) :
    ValidAnswer maxAge history token now ((history.foldl step (new maxAge)).getQuality token now) ↔
      AnsweredRight maxAge history token now := by
  have ordered := (pairwise_append.mp chronological).1
  cases found : lastUpdate token history with
  | none =>
    have right : AnsweredRight maxAge history token now := by
      unfold AnsweredRight
      rw [found]
      trivial
    refine iff_of_true ⟨fun _ => answer_of_no_update maxAge now found, ?_, ?_⟩ right
    · intro time update
      exact absurd update (not_mem_of_lastUpdate_eq_none found _ _)
    · intro time _ updated
      rw [found] at updated
      cases updated
  | some update =>
    exact ⟨answeredRight_of_valid found, valid_of_answeredRight ordered found⟩

theorem getQuality_valid_iff_evicted :
    ValidAnswer 10 [.updateQuality 1 true 0, .evictOutdatedEntries 20] 1 30
      ((List.foldl step (new 10)
        [.updateQuality 1 true 0, .evictOutdatedEntries 20]).getQuality 1 30) := by
  refine (getQuality_valid_iff _ _ _ _ ?_).mpr ?_
  · simp [Chronological, Operation.now]
  · exact .inr (.inl ⟨by decide, 20, by simp, by decide⟩)

/-- A recent update is ignored, an outdated one is not. -/
theorem getQuality_reversed :
    let history : List Operation := [.updateQuality 1 true 0]
    let cache := history.foldl step (new 10)
    Chronological (history ++ [.getQuality 1 5]) ∧
      ¬ ValidAnswer 10 history 1 5 (cache.getQuality 1 5) ∧
      Chronological (history ++ [.getQuality 1 20]) ∧
      ¬ ValidAnswer 10 history 1 20 (cache.getQuality 1 20) := by
  intro history cache
  have recent : cache.getQuality 1 5 = .unknown := rfl
  have outdated : cache.getQuality 1 20 = .supported := rfl
  refine ⟨by simp [Chronological, history, Operation.now], ?_,
    by simp [Chronological, history, Operation.now], ?_⟩
  · rintro ⟨-, -, supported⟩
    have due := supported 0 [] rfl (by decide) (by simp [history])
    rw [recent] at due
    cases due
  · rintro ⟨unknown, -, -⟩
    have due : cache.getQuality 1 20 = .unknown := by
      apply unknown
      rintro _ _ ⟨⟩
      decide
    rw [outdated] at due
    cases due

end Cache

end MandateSolver.BadTokens
