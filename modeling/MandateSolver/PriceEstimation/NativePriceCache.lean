import Mathlib.Data.List.TakeWhile
import Mathlib.Logic.Function.Basic
import MandateSolver.Foundation.Runs
import MandateSolver.OrderValidation.Validator

/-!
# The cache of native prices

The steps are those between which the lock on the cache is free.  A clock is read before
the lock is taken, so the readings need not be in the order of the steps.
-/

namespace MandateSolver.PriceEstimation.NativePriceCache

open List

open Function (update)
open OrderValidation (PriceEstimationError)

abbrev Result (P : Type) := Except PriceEstimationError P

variable {P B : Type}

def isEstimatorInternal : Result P → Bool
  | .error (.estimatorInternal _) => true
  | _ => false

def shouldCache : Result P → Bool
  | .ok _ | .error .noLiquidity | .error (.unsupportedToken ..)
  | .error (.estimatorInternal _) => true
  | .error (.protocolInternal _) | .error .rateLimited
  | .error (.unsupportedOrderType _) => false

/-- A token priced like another one. -/
structure ApproximationToken (P : Type) where
  address : Address
  normalizationFactor : P

def ApproximationToken.normalizePrice [Mul P] (approximation : ApproximationToken P)
    (price : P) : P :=
  price * approximation.normalizationFactor

/-- A cached price or error. -/
structure CachedResult (P : Type) where
  result : Result P
  (updatedAt requestedAt : Nat)
  accumulativeErrorsCount : UInt32

def accumulativeErrorsThreshold : UInt32 := 5

namespace CachedResult

/-- The count wraps around. -/
def new (result : Result P) (updatedAt requestedAt : Nat)
    (currentAccumulativeErrorsCount : UInt32) : CachedResult P where
  result
  updatedAt
  requestedAt
  accumulativeErrorsCount :=
    if isEstimatorInternal result then currentAccumulativeErrorsCount + 1 else 0

/-- The result may be returned. -/
def isReady (cached : CachedResult P) : Bool :=
  !isEstimatorInternal cached.result || accumulativeErrorsThreshold ≤ cached.accumulativeErrorsCount

end CachedResult

abbrev Cache (P : Type) := Address → Option (CachedResult P)

def getCachedPrice [Zero P] (token : Address) (now maxAge : Nat) (createMissingEntry : Bool)
    (cache : Cache P) : Outcome Unit (Option (CachedResult P) × Cache P) :=
  match cache token with
  | some entry =>
    let entry := { entry with requestedAt := now }
    .ok (if now - entry.updatedAt < maxAge then some entry else none, update cache token entry)
  | none => do
    if createMissingEntry then
      let outdatedTimestamp ← .expect "called `Option::unwrap()` on a `None` value"
        (if maxAge ≤ now then some (now - maxAge) else none)
      return (none, update cache token (some (.new (.ok 0) outdatedTimestamp now 0)))
    else
      return (none, cache)

structure Inner (P : Type) where
  maxAge : Nat
  approximationTokens : Address → Option (ApproximationToken P)

def Inner.approximation [One P] (inner : Inner P) (token : Address) : ApproximationToken P :=
  (inner.approximationTokens token).getD ⟨token, 1⟩

/-! ## Steps -/

/-- Where an entry comes from. -/
inductive Source (P : Type) where
  | placeholder
  | load
  | estimator (price : Result P)

/-- What was written for a token, with the clock reading of the writer. -/
structure Recorded (P : Type) where
  result : Result P
  time : Nat
  source : Source P

/-- An estimation that waits for the estimator.  The results that were recorded when it
looked at the cache are not part of the program. -/
structure Estimation (P : Type) where
  token : Address
  currentAccumulativeErrorsCount : UInt32
  before : List (Recorded P)

/-- The results recorded for a token, the last one first, are not part of the program. -/
structure State (P : Type) where
  cache : Cache P
  estimations : Nat → Option (Estimation P)
  recorded : Address → List (Recorded P)

/-- The steps of the cache. -/
inductive Action (P B : Type) where
  | cachedPrice (createMissingEntry : Bool) (now : Nat) (token : Address)
  | start (id prefetchTime now : Nat) (token : Address)
  | finish (id now : Nat) (estimated : Result P)
  | initializeCache (now : Nat) (percentExpired : Address → Nat) (prices : Address → Option B)

namespace State

def new : State P where
  cache _ := none
  estimations _ := none
  recorded _ := []

def write (state : State P) (token : Address) (entry : CachedResult P) (last : Recorded P) :
    State P :=
  { state with
    cache := update state.cache token (some entry)
    recorded := update state.recorded token (last :: state.recorded token) }

def lookup [Zero P] (state : State P) (maxAge : Nat) (createMissingEntry : Bool) (now : Nat)
    (token : Address) : Outcome Unit (Option (CachedResult P) × State P) := do
  let (cached, cache) ← getCachedPrice token now maxAge createMissingEntry state.cache
  let recorded := if (state.cache token).isNone && createMissingEntry
    then update state.recorded token (⟨.ok 0, now, .placeholder⟩ :: state.recorded token)
    else state.recorded
  return (cached, { state with cache, recorded })

section

variable [Zero P] [One P] [Mul P] (inner : Inner P)

/-- The part of an estimation before the estimator is asked. -/
def start (state : State P) (id prefetchTime now : Nat) (token : Address) :
    Outcome Unit (State P) := do
  let (cached, next) ← state.lookup (inner.maxAge - prefetchTime) false now token
  if cached.any (·.isReady) then return next
  let count := (cached.map (·.accumulativeErrorsCount)).getD 0
  return { next with
    estimations := update next.estimations id (some ⟨token, count, next.recorded token⟩) }

/-- The part after the estimator has answered. -/
def finish (state : State P) (id now : Nat) (estimated : Result P) : State P :=
  match state.estimations id with
  | none => state
  | some ⟨token, count, _⟩ =>
    let next := { state with estimations := update state.estimations id none }
    let result := estimated.map (inner.approximation token).normalizePrice
    if shouldCache result then
      next.write token (.new result now now count) ⟨result, now, .estimator estimated⟩
    else next

section

variable (fromNormalizedPrice : B → Option P) (state : State P)

/-- The age is given in whole seconds, and the plain product wraps around.  A time before
the origin of the clock, for which the program aborts, is the origin here. -/
def initializeCache (now : Nat)
    (percentExpired : Address → Nat) (prices : Address → Option B) : State P :=
  let loaded token := (prices token).bind fromNormalizedPrice
  let age token := inner.maxAge / 10 ^ 9 * percentExpired token % 2 ^ 64 / 100 * 10 ^ 9
  { state with
    cache := fun token => (loaded token).map fun price =>
      CachedResult.new (.ok price) (now - age token) now 0
    recorded := fun token => ((loaded token).map fun price =>
      ⟨.ok price, now, .load⟩).toList ++ state.recorded token }

def tryStep :
    Action P B → Outcome Unit (State P)
  | .cachedPrice createMissingEntry now token => do
    let (_, next) ← state.lookup inner.maxAge createMissingEntry now token
    return next
  | .start id prefetchTime now token => state.start inner id prefetchTime now token
  | .finish id now estimated => .ok (state.finish inner id now estimated)
  | .initializeCache now percentExpired prices =>
    .ok (state.initializeCache inner fromNormalizedPrice now percentExpired prices)

/-- A call that aborts leaves the cache as it was.  The lock is poisoned then, so that a run
goes on longer here than in the program. -/
def step (action : Action P B) : State P :=
  (state.tryStep inner fromNormalizedPrice action).toOption.getD state

end

end

/-! ## Entries and recorded results -/

/-- The property holds for every entry and the results recorded for its token. -/
def Every (property : Address → CachedResult P → List (Recorded P) → Prop) (state : State P) :
    Prop :=
  ∀ token entry, state.cache token = some entry → property token entry (state.recorded token)

variable {inner : Inner P} {fromNormalizedPrice : B → Option P} {state next : State P}
  {property : Address → CachedResult P → List (Recorded P) → Prop}
  {maxAge now : Nat} {token : Address} {create : Bool} {cached : Option (CachedResult P)}
  {entry : CachedResult P}

theorem Every.of_token (token : Address) (every : state.Every property)
    (others : ∀ other ≠ token, next.cache other = state.cache other ∧
      next.recorded other = state.recorded other)
    (own : ∀ entry, next.cache token = some entry → property token entry (next.recorded token)) :
    next.Every property := by
  intro other entry found
  by_cases same : other = token
  · subst same
    exact own entry found
  · obtain ⟨sameCache, sameRecorded⟩ := others other same
    rw [sameRecorded]
    exact every other entry (sameCache ▸ found)

theorem Every.write (every : state.Every property) {last : Recorded P}
    (holds : property token entry (last :: state.recorded token)) :
    (state.write token entry last).Every property := by
  refine every.of_token token (fun other ne => by simp [State.write, ne]) ?_
  simpa [State.write] using holds

variable [Zero P]

theorem lookup_of_some (found : state.cache token = some entry) :
    state.lookup maxAge create now token =
      .ok (if now - entry.updatedAt < maxAge then some { entry with requestedAt := now } else none,
        { state with
          cache := update state.cache token (some { entry with requestedAt := now }) }) := by
  simp [lookup, getCachedPrice, found]

theorem lookup_of_none (found : state.cache token = none)
    (looks : state.lookup maxAge create now token = .ok (cached, next)) :
    cached = none ∧ (next = state ∨ create = true ∧ maxAge ≤ now ∧
      next = state.write token (.new (.ok 0) (now - maxAge) now 0) ⟨.ok 0, now, .placeholder⟩) := by
  simp only [lookup, getCachedPrice, found] at looks
  cases create with
  | false =>
    simp at looks
    exact ⟨looks.1.symm, .inl looks.2.symm⟩
  | true =>
    by_cases late : maxAge ≤ now
    · simp [late] at looks
      exact ⟨looks.1.symm, .inr ⟨rfl, late, looks.2.symm⟩⟩
    · simp [late, Outcome.expect] at looks

theorem lookup_eq_some {answer : CachedResult P}
    (looks : state.lookup maxAge create now token = .ok (some answer, next)) :
    ∃ entry, state.cache token = some entry ∧ now - entry.updatedAt < maxAge ∧
      answer = { entry with requestedAt := now } ∧ next.recorded = state.recorded := by
  cases found : state.cache token with
  | none => cases (lookup_of_none found looks).1
  | some entry =>
    rw [lookup_of_some found] at looks
    obtain ⟨isRecent, rfl⟩ := Prod.mk.inj (Outcome.ok.inj looks)
    obtain ⟨recent, same⟩ := Option.ite_none_right_eq_some.mp isRecent
    exact ⟨entry, rfl, recent, (Option.some.inj same).symm, rfl⟩

theorem estimations_of_lookup (looks : state.lookup maxAge create now token = .ok (cached, next)) :
    next.estimations = state.estimations := by
  simp only [lookup, Outcome.bind_eq_ok_iff, Outcome.pure_eq, Outcome.ok.injEq] at looks
  obtain ⟨-, -, -, rfl⟩ := looks
  rfl

theorem Every.lookup (every : state.Every property)
    (touch : ∀ token entry recorded, property token entry recorded →
      property token { entry with requestedAt := now } recorded)
    (placeholder : create = true → maxAge ≤ now → ∀ recorded,
      property token (.new (.ok 0) (now - maxAge) now 0) (⟨.ok 0, now, .placeholder⟩ :: recorded))
    (looks : state.lookup maxAge create now token = .ok (cached, next)) :
    next.Every property := by
  cases found : state.cache token with
  | some entry =>
    rw [lookup_of_some found] at looks
    obtain ⟨-, rfl⟩ := Prod.mk.inj (Outcome.ok.inj looks)
    refine every.of_token token (fun other ne => by simp [ne]) ?_
    simpa using touch _ _ _ (every _ _ found)
  | none =>
    obtain ⟨-, rfl | ⟨creates, late, rfl⟩⟩ := lookup_of_none found looks
    · exact every
    · exact every.write (placeholder creates late _)

theorem start_eq_ok {id prefetchTime : Nat}
    (starts : state.start inner id prefetchTime now token = .ok next) :
    ∃ cached looked,
      state.lookup (inner.maxAge - prefetchTime) false now token = .ok (cached, looked) ∧
      (next = looked ∨ cached.any (·.isReady) = false ∧ next = { looked with
        estimations := update looked.estimations id (some ⟨token,
          (cached.map (·.accumulativeErrorsCount)).getD 0, looked.recorded token⟩) }) := by
  simp only [State.start, Outcome.bind_eq_ok_iff] at starts
  obtain ⟨⟨cached, looked⟩, looks, starts⟩ := starts
  refine ⟨cached, looked, looks, ?_⟩
  split at starts
  · exact .inl (Outcome.ok.inj starts).symm
  · rename_i notReady
    exact .inr ⟨by simpa using notReady, (Outcome.ok.inj starts).symm⟩

variable [One P] [Mul P]

theorem of_step {motive : State P → Prop} {action : Action P B} (before : motive state)
    (after : ∀ next, state.tryStep inner fromNormalizedPrice action = .ok next → motive next) :
    motive (state.step inner fromNormalizedPrice action) := by
  unfold step
  cases steps : state.tryStep inner fromNormalizedPrice action with
  | ok next => exact after next steps
  | err _ | panic _ => exact before

theorem Every.step (every : state.Every property) (action : Action P B)
    (touch : ∀ now token entry recorded, property token entry recorded →
      property token { entry with requestedAt := now } recorded)
    (placeholder : ∀ now token recorded, inner.maxAge ≤ now → property token
      (.new (.ok 0) (now - inner.maxAge) now 0) (⟨.ok 0, now, .placeholder⟩ :: recorded))
    (load : ∀ now age token price recorded, property token
      (.new (.ok price) (now - age) now 0) (⟨.ok price, now, .load⟩ :: recorded))
    (finishes : ∀ id now estimated token count before, action = .finish id now estimated →
      state.estimations id = some ⟨token, count, before⟩ →
      let result := estimated.map (inner.approximation token).normalizePrice
      property token (.new result now now count)
        (⟨result, now, .estimator estimated⟩ :: state.recorded token)) :
    (state.step inner fromNormalizedPrice action).Every property := by
  refine of_step (motive := Every property) every fun next steps => ?_
  cases action with
  | cachedPrice create now token =>
    obtain ⟨⟨_, _⟩, looks, ⟨⟩⟩ := Outcome.bind_eq_ok_iff.mp steps
    exact every.lookup (touch now) (fun _ late _ => placeholder _ _ _ late) looks
  | start id prefetchTime now token =>
    obtain ⟨_, _, looks, started⟩ := start_eq_ok steps
    have after := every.lookup (touch now) (by simp) looks
    rcases started with rfl | ⟨-, rfl⟩
    · exact after
    · exact after
  | finish id now estimated =>
    obtain rfl := Outcome.ok.inj steps
    unfold State.finish
    split
    · exact every
    · rename_i token count before found
      dsimp only
      split
      · exact Every.write every (finishes id now estimated token count before rfl found)
      · exact every
  | initializeCache now percentExpired prices =>
    obtain rfl := Outcome.ok.inj steps
    intro token entry found
    obtain ⟨price, known, rfl⟩ := Option.map_eq_some_iff.mp found
    simp only [State.initializeCache, known]
    exact load now _ token price _

/-! ## Freshness -/

/-- How the time of an entry is related to the last result that was recorded. -/
def Dated (inner : Inner P) (token : Address) (updatedAt : Nat) (last : Recorded P) : Prop :=
  match last.source with
  | .placeholder => last.result = .ok 0 ∧ updatedAt + inner.maxAge = last.time
  | .load => updatedAt ≤ last.time
  | .estimator price => updatedAt ≤ last.time ∧
    last.result = price.map (inner.approximation token).normalizePrice

/-- An entry holds the last recorded result of its token. -/
def Described (inner : Inner P) (token : Address) (entry : CachedResult P)
    (recorded : List (Recorded P)) : Prop :=
  ∃ last rest, recorded = last :: rest ∧ entry.result = last.result ∧
    Dated inner token entry.updatedAt last

variable (inner fromNormalizedPrice)

/-- The state after the steps, from an empty cache. -/
def reached (actions : List (Action P B)) : State P :=
  actions.foldl (State.step inner fromNormalizedPrice) new

theorem described_reached (actions : List (Action P B)) :
    (reached inner fromNormalizedPrice actions).Every (Described inner) := by
  have allowed : Run.Along (step inner fromNormalizedPrice) (fun _ _ => True) new actions :=
    Run.along_of_forall fun _ _ _ => trivial
  refine Run.foldl_of_preserved (Every (Described inner)) ?_ ?_ allowed
  · intro _ action every _
    refine every.step action (fun now token entry recorded described => described) ?_ ?_ ?_
    · intro now token recorded late
      exact ⟨_, _, rfl, rfl, rfl, Nat.sub_add_cancel late⟩
    · intro now age token _ recorded
      exact ⟨_, _, rfl, rfl, Nat.sub_le now age⟩
    · intro _ now _ token _ _ _ _
      exact ⟨_, _, rfl, rfl, le_rfl, rfl⟩
  · intro token entry found
    cases found

/-- The price is what the estimator said or what was loaded, less than the maximum age ago. -/
def Fresh (state : State P) (token : Address) (now : Nat) (price : P) : Prop :=
  ∃ last rest, state.recorded token = last :: rest ∧ last.result = .ok price ∧
    now < last.time + inner.maxAge ∧ (last.source = .load ∨ ∃ estimated,
      last.source = .estimator (.ok estimated) ∧
        price = (inner.approximation token).normalizePrice estimated)

/-- What a lookup answers is fresh unless it comes upon a placeholder whose creator has read
the clock later. -/
theorem lookup_fresh_iff (actions : List (Action P B)) (prefetchTime now : Nat) (token : Address)
    (create : Bool) :
    let state := reached inner fromNormalizedPrice actions
    let age := inner.maxAge - prefetchTime
    (∀ cached next price, state.lookup age create now token = .ok (some cached, next) →
      cached.isReady = true → cached.result = .ok price → Fresh inner state token now price) ↔
      ∀ entry last, state.cache token = some entry → (state.recorded token).head? = some last →
        last.source = .placeholder → 0 < age → last.time + age ≤ now + inner.maxAge := by
  intro state age
  constructor
  · intro fresh entry last found isLast placeholder _
    obtain ⟨other, rest, recorded, result, dated⟩ := described_reached _ _ actions token entry found
    obtain rfl : other = last := Option.some.inj ((congrArg List.head? recorded).symm.trans isLast)
    simp only [Dated, placeholder] at dated
    by_contra early
    have recent : now - entry.updatedAt < age := by omega
    have answers : state.lookup age create now token = _ := lookup_of_some found
    rw [if_pos recent] at answers
    have ready : ({ entry with requestedAt := now } : CachedResult P).isReady = true := by
      simp [CachedResult.isReady, result, dated, isEstimatorInternal]
    obtain ⟨_, _, same, -, -, source⟩ := fresh _ _ 0 answers ready (result.trans dated.1)
    obtain rfl := (List.cons.inj (same.symm.trans recorded)).1
    simp [placeholder] at source
  · intro onTime cached next price looks _ isPrice
    obtain ⟨entry, found, recent, rfl, -⟩ := lookup_eq_some looks
    obtain ⟨last, rest, recorded, result, dated⟩ := described_reached _ _ actions token entry found
    have sameResult := result.symm.trans isPrice
    have onTime := onTime entry last found (congrArg List.head? recorded)
    unfold Dated at dated
    refine ⟨last, rest, recorded, sameResult, ?_⟩
    cases source : last.source with
    | placeholder =>
      simp only [source] at dated
      have := onTime source (by omega)
      omega
    | load =>
      simp only [source] at dated
      exact ⟨by omega, .inl rfl⟩
    | estimator estimated =>
      simp only [source] at dated
      refine ⟨by omega, .inr ?_⟩
      rw [sameResult] at dated
      cases estimated with
      | ok estimated => exact ⟨estimated, rfl, Except.ok.inj dated.2⟩
      | error error => cases dated.2

/-- A lookup that has read the clock before the creator of the placeholder, but took the
lock after it. -/
example : ∃ next, (reached ⟨10, fun _ => none⟩ (B := Unit) (fun _ => none)
    [.cachedPrice true 20 7]).lookup 10 false 15 7 = .ok (some (⟨.ok (0 : ℤ), 10, 15, 0⟩), next) :=
  ⟨_, rfl⟩

/-! ## Consecutive errors -/

def errors (recorded : List (Recorded P)) : Nat :=
  (recorded.takeWhile (isEstimatorInternal ·.result)).length

/-- No more errors are counted than were recorded. -/
def Counted (_ : Address) (entry : CachedResult P) (recorded : List (Recorded P)) : Prop :=
  isEstimatorInternal entry.result = true → entry.accumulativeErrorsCount.toNat ≤ errors recorded

/-- The same for all entries and for estimations under way. -/
structure Counts (state : State P) : Prop where
  entries : state.Every Counted
  waiting : ∀ id estimation, state.estimations id = some estimation →
    estimation.currentAccumulativeErrorsCount.toNat ≤ errors estimation.before

/-- Only internal errors are recorded for a token while an estimation for it waits. -/
def Undisturbed (state : State P) : Action P B → Prop
  | .finish id _ _ => ∀ estimation, state.estimations id = some estimation →
    ∃ since, state.recorded estimation.token = since ++ estimation.before ∧
      ∀ recorded ∈ since, isEstimatorInternal recorded.result = true
  | _ => True

omit [Zero P] [One P] [Mul P] in
theorem counted_new {result : Result P} {count : UInt32} {recorded : List (Recorded P)}
    (few : count.toNat ≤ errors recorded) (source : Source P) :
    Counted token (.new result now now count) (⟨result, now, source⟩ :: recorded) := by
  intro internal
  have internal : isEstimatorInternal result = true := internal
  simp only [CachedResult.new, internal, if_true, errors, takeWhile_cons, length_cons]
  have sum : (count + 1).toNat = (count.toNat + 1) % 2 ^ 32 := UInt32.toNat_add count 1
  unfold errors at few
  omega

omit [One P] [Mul P] in
theorem Counts.count_le (counts : Counts state)
    (looks : state.lookup maxAge create now token = .ok (cached, next))
    (notReady : cached.any (·.isReady) = false) :
    ((cached.map CachedResult.accumulativeErrorsCount).getD 0).toNat ≤
      errors (next.recorded token) := by
  cases cached with
  | none => exact Nat.zero_le _
  | some answer =>
    obtain ⟨entry, found, -, rfl, recorded⟩ := lookup_eq_some looks
    rw [recorded]
    refine counts.entries token entry found ?_
    by_contra other
    simp [CachedResult.isReady, other] at notReady

variable {inner fromNormalizedPrice}

theorem Counts.step (counts : Counts state) (action : Action P B)
    (undisturbed : Undisturbed state action) :
    Counts (state.step inner fromNormalizedPrice action) := by
  constructor
  · refine counts.entries.step action (fun _ _ _ _ counted => counted) ?_ ?_ ?_
    · exact fun _ _ _ _ internal => nomatch internal
    · exact fun _ _ _ _ _ internal => nomatch internal
    · rintro id now estimated token _ before rfl waits _
      obtain ⟨_, recorded, internal⟩ := undisturbed _ waits
      refine counted_new ((counts.waiting id _ waits).trans ?_) _
      rw [recorded, errors, errors, takeWhile_append_of_pos internal, length_append]
      exact Nat.le_add_left _ _
  · refine of_step (motive := fun next => ∀ id estimation, next.estimations id = some estimation →
      estimation.currentAccumulativeErrorsCount.toNat ≤ errors estimation.before)
      counts.waiting fun next steps => ?_
    cases action with
    | cachedPrice create now token =>
      obtain ⟨⟨_, _⟩, looks, ⟨⟩⟩ := Outcome.bind_eq_ok_iff.mp steps
      exact (estimations_of_lookup looks).symm ▸ counts.waiting
    | start id prefetchTime now token =>
      obtain ⟨_, looked, looks, rfl | ⟨notReady, rfl⟩⟩ := start_eq_ok steps
      · exact (estimations_of_lookup looks).symm ▸ counts.waiting
      · intro other estimation (waits : update looked.estimations id _ other = some estimation)
        by_cases same : other = id
        · rw [same, Function.update_self] at waits
          obtain rfl := Option.some.inj waits
          exact counts.count_le looks notReady
        · rw [Function.update_of_ne same, estimations_of_lookup looks] at waits
          exact counts.waiting other estimation waits
    | finish id now estimated =>
      obtain rfl := Outcome.ok.inj steps
      intro other estimation waits
      refine counts.waiting other estimation ?_
      unfold State.finish at waits
      split at waits
      · exact waits
      · have removed : update state.estimations id none other = some estimation := by
          dsimp only at waits
          split at waits <;> exact waits
        by_cases same : other = id
        · simp [same] at removed
        · rwa [Function.update_of_ne same] at removed
    | initializeCache now percentExpired prices =>
      obtain rfl := Outcome.ok.inj steps
      exact counts.waiting

/-- An internal error is answered after five of them in a row if nothing else was recorded
for the token while an estimation for it was waiting. -/
theorem lookup_afterErrors {actions : List (Action P B)} {answer : CachedResult P}
    (undisturbed : Run.Along (State.step inner fromNormalizedPrice) Undisturbed new actions)
    (looks : (reached inner fromNormalizedPrice actions).lookup maxAge create now
      token = .ok (some answer, next))
    (ready : answer.isReady = true) (internal : isEstimatorInternal answer.result = true) :
    let recorded := (reached inner fromNormalizedPrice actions).recorded token
    5 ≤ recorded.length ∧ ∀ result ∈ recorded.take 5, isEstimatorInternal result.result = true := by
  intro recorded
  have counts : Counts (reached inner fromNormalizedPrice actions) :=
    Run.foldl_of_preserved Counts (fun _ action counts allowed => counts.step action allowed)
      ⟨fun _ _ found => (nomatch found), fun _ _ found => (nomatch found)⟩ undisturbed
  obtain ⟨entry, found, -, rfl, -⟩ := lookup_eq_some looks
  have few := counts.entries token entry found internal
  have many : accumulativeErrorsThreshold ≤ entry.accumulativeErrorsCount := by
    have internal := internal
    simpa [CachedResult.isReady, internal] using ready
  have enough := (UInt32.le_iff_toNat_le.mp many).trans few
  have isPrefix := takeWhile_prefix (l := recorded) (isEstimatorInternal ·.result)
  refine ⟨enough.trans isPrefix.length_le, fun result listed => ?_⟩
  refine mem_takeWhile_imp (p := (isEstimatorInternal ·.result)) (l := recorded) ?_
  rw [prefix_iff_eq_take.mp isPrefix]
  exact take_subset_take_left _ enough listed

/-- Estimations for the seventh token that fail one after the other. -/
def failing (count : Nat) : List (Action ℤ Unit) :=
  (List.range count).flatMap fun id =>
    [.start id 0 id 7, .finish id id (.error (.estimatorInternal "reverted"))]

theorem lookup_afterErrors_five :
    let recorded := (reached ⟨10, fun _ => none⟩ (fun _ => none) (failing 5)).recorded 7
    5 ≤ recorded.length ∧ ∀ result ∈ recorded.take 5, isEstimatorInternal result.result = true := by
  refine lookup_afterErrors ?_ (show State.lookup _ 10 false 5 7 = _ from rfl) rfl rfl
  refine ⟨trivial, ?_, trivial, ?_, trivial, ?_, trivial, ?_, trivial, ?_, trivial⟩
  all_goals
    intro _ waits
    obtain rfl := Option.some.inj waits
    exact ⟨[], rfl, by simp⟩

/-- A fifth estimation fails after another one has recorded a price. -/
example :
    let state := reached ⟨10, fun _ => none⟩ (fun _ => none) (failing 4 ++
      [.start 5 0 5 7, .start 6 0 5 7, .finish 6 6 (.ok 1),
        .finish 5 6 (.error (.estimatorInternal "reverted"))])
    (∃ answer next, state.lookup 10 false 7 7 = .ok (some answer, next) ∧ answer.isReady = true ∧
      isEstimatorInternal answer.result = true) ∧
        ¬ ∀ result ∈ (state.recorded 7).take 5, isEstimatorInternal result.result = true :=
  ⟨⟨_, _, rfl, rfl, rfl⟩, by decide⟩

end State

end MandateSolver.PriceEstimation.NativePriceCache
