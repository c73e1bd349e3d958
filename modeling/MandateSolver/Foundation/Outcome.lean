import Mathlib.Data.List.Forall2
import Mathlib.Data.List.Induction

/-!
# Computations that may fail or abort

Running code returns a value, returns an ordinary error, or aborts.  A caller can drop an
error but not a panic.
-/

namespace MandateSolver

open List

/-- What a thread panics with. -/
inductive Panic where
  | expect (message : String)
  | explicit (message : String)
  | assertion (message : String)
  | divisionByZero
  | indexOutOfBounds
  | overflow
  deriving DecidableEq

/-- A result, an error or a panic. -/
inductive Outcome (ε α : Type) where
  | ok (value : α)
  | err (error : ε)
  | panic (reason : Panic)
  deriving DecidableEq

namespace Outcome

variable {ε δ α β : Type}

@[match_pattern] abbrev none : Outcome Unit α := .err ()

protected def bind (first : Outcome ε α) (next : α → Outcome ε β) : Outcome ε β :=
  match first with
  | .ok value => next value
  | .err error => .err error
  | .panic reason => .panic reason

instance : Monad (Outcome ε) where
  pure := .ok
  bind := Outcome.bind

@[simp] theorem pure_eq (value : α) : (pure value : Outcome ε α) = .ok value := rfl

@[simp] theorem ok_bind (value : α) (next : α → Outcome ε β) :
    (Outcome.ok value >>= next) = next value := rfl

@[simp] theorem err_bind (error : ε) (next : α → Outcome ε β) :
    (Outcome.err error >>= next) = .err error := rfl

@[simp] theorem panic_bind (reason : Panic) (next : α → Outcome ε β) :
    (Outcome.panic reason >>= next) = .panic reason := rfl

instance : LawfulMonad (Outcome ε) :=
  LawfulMonad.mk' (Outcome ε) (by intro α outcome; cases outcome <;> rfl) (by intros; rfl)
    (by intro α β γ outcome _ _; cases outcome <;> rfl)

variable {first : Outcome ε α} {next : α → Outcome ε β} {result : β}

theorem bind_eq_ok_iff : (first >>= next) = .ok result ↔
      ∃ value, first = .ok value ∧ next value = .ok result := by
  cases first <;> simp

theorem bind_congr_ok {other : α → Outcome ε β}
    (same : ∀ value, first = .ok value → next value = other value) :
    (first >>= next) = (first >>= other) := by
  cases first with
  | ok value => exact same value rfl
  | err error | panic reason => rfl

variable {error : ε} {condition : Prop}

theorem bind_eq_err_iff : (first >>= next) = .err error ↔ first = .err error ∨
        ∃ value, first = .ok value ∧ next value = .err error := by
  cases first <;> simp

def rejectIf (condition : Prop) [Decidable condition] (error : ε) : Outcome ε Unit :=
  if condition then .err error else .ok ()

@[simp] theorem rejectIf_eq_ok_iff [Decidable condition] {value : Unit} :
    rejectIf condition error = .ok value ↔ ¬ condition := by
  unfold rejectIf
  split <;> simp_all

variable {value : α} {outcome : Outcome ε α}

@[simp] theorem ite_err_eq_ok_iff [Decidable condition] {rest : Outcome ε α} :
    (if condition then .err error else rest) = .ok value ↔ ¬ condition ∧ rest = .ok value := by
  split <;> simp_all

def okOr (error : ε) : Option α → Outcome ε α
  | some value => .ok value
  | Option.none => .err error

abbrev ofOption (value : Option α) : Outcome Unit α := okOr () value

def expect (message : String) : Option α → Outcome ε α
  | some value => .ok value
  | Option.none => .panic (.expect message)

def expectOk (message : String) : Outcome ε α → Outcome δ α
  | .ok value => .ok value
  | .err _ => .panic (.expect message)
  | .panic reason => .panic reason

variable {message : String}

theorem expectOk_eq_ok_iff :
    (outcome.expectOk message : Outcome δ α) = .ok value ↔ outcome = .ok value := by
  cases outcome <;> simp [expectOk]

def orPanic (message : ε → String) : Outcome ε α → Outcome δ α
  | .ok value => .ok value
  | .err error => .panic (.explicit (message error))
  | .panic reason => .panic reason

def index (items : List α) (position : Nat) : Outcome ε α :=
  match items[position]? with
  | some value => .ok value
  | Option.none => .panic .indexOutOfBounds

def discardError : Outcome ε α → Outcome Unit α
  | .ok value => .ok value
  | .err _ => .none
  | .panic reason => .panic reason

def mapError (wrap : ε → δ) : Outcome ε α → Outcome δ α
  | .ok value => .ok value
  | .err error => .err (wrap error)
  | .panic reason => .panic reason

/-- Observe whether a computation succeeded.  Errors become data, panics
still abort. -/
def attempt : Outcome ε α → Outcome δ (Option α)
  | .ok value => .ok (some value)
  | .err _ => .ok Option.none
  | .panic reason => .panic reason

/-- Forget why it failed. -/
def toOption : Outcome ε α → Option α
  | .ok value => some value
  | _ => Option.none

@[simp] theorem toOption_eq_some_iff : outcome.toOption = some value ↔ outcome = .ok value := by
  cases outcome <;> simp [toOption]

variable {wrap : ε → δ}

theorem mapError_bind : mapError wrap (first >>= next) =
      mapError wrap first >>= fun value => mapError wrap (next value) := by
  cases first <;> rfl

theorem mapError_eq_err_iff {error : δ} :
    mapError wrap outcome = .err error ↔ ∃ inner, outcome = .err inner ∧ wrap inner = error := by
  cases outcome <;> simp [mapError]

@[simp] theorem mapError_eq_ok_iff : mapError wrap outcome = .ok value ↔ outcome = .ok value := by
  cases outcome <;> simp [mapError]

@[simp] theorem okOr_some (error : ε) (value : α) : okOr error (some value) = .ok value := rfl

@[simp] theorem okOr_none (error : ε) : okOr error (Option.none : Option α) = .err error := rfl

variable {source : Option α}

@[simp] theorem okOr_eq_ok_iff : okOr error source = .ok value ↔ source = some value := by
  cases source <;> simp

@[simp] theorem okOr_eq_err_iff {other : ε} :
    okOr error source = .err other ↔ source = Option.none ∧ error = other := by
  cases source <;> simp

@[simp] theorem toOption_okOr (error : ε) (source : Option α) :
    (okOr error source).toOption = source := by
  cases source <;> rfl

@[simp] theorem expect_some (message : String) (value : α) :
    (expect message (some value) : Outcome ε α) = .ok value := rfl

@[simp] theorem expect_eq_ok_iff :
    (expect message source : Outcome ε α) = .ok value ↔ source = some value := by
  cases source <;> simp [expect]

@[simp] theorem expectOk_ok (message : String) (value : α) :
    (expectOk message (.ok value : Outcome ε α) : Outcome δ α) = .ok value := rfl

variable {items : List α} {position : Nat}

theorem index_of_lt (inBounds : position < items.length) :
    (index items position : Outcome ε α) = .ok items[position] := by
  simp [index, List.getElem?_eq_getElem inBounds]

@[simp] theorem attempt_eq_ok_some_iff :
    (outcome.attempt : Outcome δ (Option α)) = .ok (some value) ↔ outcome = .ok value := by
  cases outcome <;> simp [attempt]

/-! ## Absence of panics -/

/-- The outcome is a value or an error. -/
def NoPanic (outcome : Outcome ε α) : Prop :=
  ∀ reason, outcome ≠ .panic reason

@[simp] theorem noPanic_ok (value : α) : NoPanic (.ok value : Outcome ε α) := by
  intro _
  simp

@[simp] theorem noPanic_err (error : ε) : NoPanic (.err error : Outcome ε α) := by
  intro _
  simp

@[simp] theorem not_noPanic_panic (reason : Panic) : ¬NoPanic (.panic reason : Outcome ε α) :=
  fun safe => safe reason rfl

theorem NoPanic.bind (safe : NoPanic first)
    (nextSafe : ∀ value, first = .ok value → NoPanic (next value)) : NoPanic (first >>= next) := by
  cases first with
  | ok value => exact nextSafe value rfl
  | err error => simp
  | panic reason => exact absurd safe (not_noPanic_panic reason)

/-- Simplification follows a computation as long as no step can abort. -/
@[simp] theorem noPanic_bind_iff (safe : NoPanic first) :
    NoPanic (first >>= next) ↔ ∀ value, first = .ok value → NoPanic (next value) :=
  ⟨fun bound value returned => by simpa [returned] using bound, safe.bind⟩

theorem noPanic_bind_ok_iff {f : α → β} :
    NoPanic (outcome >>= fun value => .ok (f value)) ↔ NoPanic outcome := by
  cases outcome <;> simp

theorem NoPanic.seq (safe : NoPanic first) (nextSafe : ∀ value, NoPanic (next value)) :
    NoPanic (first >>= next) :=
  safe.bind (fun value _ => nextSafe value)

@[simp] theorem noPanic_okOr (error : ε) (source : Option α) : NoPanic (okOr error source) := by
  cases source <;> simp

@[simp] theorem noPanic_expect_iff :
    NoPanic (expect message source : Outcome ε α) ↔ source.isSome := by
  cases source <;> simp [expect]

theorem noPanic_index (inBounds : position < items.length) :
    NoPanic (index items position : Outcome ε α) := by
  simp [index_of_lt inBounds]

@[simp] theorem discardError_eq_ok_iff :
    outcome.discardError = .ok value ↔ outcome = .ok value := by
  cases outcome <;> simp [discardError]

@[simp] theorem noPanic_discardError_iff : NoPanic outcome.discardError ↔ NoPanic outcome := by
  cases outcome <;> simp [discardError]

@[simp] theorem noPanic_mapError_iff : NoPanic (outcome.mapError wrap) ↔ NoPanic outcome := by
  cases outcome <;> simp [mapError]

@[simp] theorem noPanic_rejectIf (condition : Prop) [Decidable condition]
    (error : ε) : NoPanic (rejectIf condition error) := by
  unfold rejectIf
  split <;> simp

@[simp] theorem noPanic_attempt_iff :
    NoPanic (outcome.attempt : Outcome δ (Option α)) ↔ NoPanic outcome := by
  cases outcome <;> simp [attempt]

theorem NoPanic.cases {outcome : Outcome Unit α} (safe : NoPanic outcome) :
    outcome = .none ∨ ∃ value, outcome = .ok value := by
  cases outcome with
  | ok value => exact Or.inr ⟨value, rfl⟩
  | err error => exact Or.inl rfl
  | panic reason => exact absurd safe (not_noPanic_panic reason)

/-! ## Successful computations -/

/-- The outcome is a value with the property. -/
def Returns (outcome : Outcome ε α) (post : α → Prop) : Prop :=
  ∃ value, outcome = .ok value ∧ post value

variable (invariant : List α → β → Prop) {middle : α → Prop}

namespace Returns

theorem ok {value : α} {post : α → Prop} (holds : post value) :
    Returns (.ok value : Outcome ε α) post :=
  ⟨value, rfl, holds⟩

theorem bind {first : Outcome ε α} {next : α → Outcome ε β} {post : β → Prop}
    (firstReturns : Returns first middle)
    (nextReturns : ∀ value, middle value → Returns (next value) post) :
    Returns (first >>= next) post := by
  obtain ⟨value, rfl, holds⟩ := firstReturns
  exact nextReturns value holds

theorem mono {strong weak : α → Prop} (returns : Returns outcome strong)
    (weaker : ∀ value, strong value → weak value) : Returns outcome weak := by
  obtain ⟨value, success, holds⟩ := returns
  exact ⟨value, success, weaker value holds⟩

theorem of_noPanic_attempt (safe : NoPanic outcome) :
    Returns (outcome.attempt : Outcome δ (Option α)) (· = outcome.toOption) := by
  cases outcome with
  | ok value | err error => exact .ok rfl
  | panic reason => exact absurd safe (not_noPanic_panic reason)

/-- An invariant kept by every round holds after the whole loop.  The
invariant may depend on the rounds still to come. -/
theorem foldlM {step : β → α → Outcome ε β}
    (round : ∀ item rest state, invariant (item :: rest) state →
      Returns (step state item) (invariant rest))
    (items : List α) {state : β} (initial : invariant items state) :
    Returns (items.foldlM step state) (invariant []) := by
  induction items generalizing state with
  | nil => exact .ok initial
  | cons item items ih =>
    exact (round item items state initial).bind (fun next holds => ih holds)

end Returns

/-- The computation succeeds with a value satisfying `post`, fails, or aborts for one
of the given reasons. -/
def Ends (outcome : Outcome ε α) (aborts : Panic → Prop) (post : α → Prop) : Prop :=
  match outcome with
  | .ok value => post value
  | .err _ => True
  | .panic reason => aborts reason

namespace Ends

variable {aborts : Panic → Prop}

theorem bind {first : Outcome ε α} {next : α → Outcome ε β}
    {post : β → Prop} (firstEnds : Ends first aborts middle)
    (nextEnds : ∀ value, middle value → Ends (next value) aborts post) :
    Ends (first >>= next) aborts post := by
  cases first with
  | ok value => exact nextEnds value firstEnds
  | err error => trivial
  | panic reason => exact firstEnds

variable {post : α → Prop}

theorem of_returns (returns : Returns outcome post) : Ends outcome aborts post := by
  obtain ⟨_, rfl, holds⟩ := returns
  exact holds

theorem noPanic (ends : Ends outcome (fun _ => False) post) : NoPanic outcome := by
  intro _ failed
  rw [failed] at ends
  exact ends

theorem of_eq_ok {value : α}
    (ends : Ends outcome aborts post) (returned : outcome = .ok value) : post value := by
  rw [returned] at ends
  exact ends

theorem expect {message : String} {source : Option α}
    (allowed : source = Option.none → aborts (.expect message)) :
    Ends (.expect message source : Outcome ε α) aborts (source = some ·) := by
  cases source with
  | none => exact allowed rfl
  | some value => rfl

end Ends

/-! ## Running a list of computations -/

variable {start final : β}

/-- A loop from the last item to the first kept an invariant of its state and
of the items before it, when every round that returns keeps it. -/
theorem foldlM_zipIdx_reverse_induction {step : β → α × Nat → Outcome ε β}
    (round : ∀ earlier item state next, invariant (earlier ++ [item]) state →
      step state (item, earlier.length) = .ok next → invariant earlier next)
    (initial : invariant items start)
    (returned : items.zipIdx.reverse.foldlM step start = .ok final) : invariant [] final := by
  induction items using List.reverseRecOn generalizing start with
  | nil =>
    obtain rfl : start = final := by simpa using returned
    exact initial
  | append_singleton earlier item ih =>
    rw [zipIdx_append, reverse_append, Nat.zero_add] at returned
    obtain ⟨next, stepped, continued⟩ := bind_eq_ok_iff.mp returned
    exact ih (round earlier item start next initial stepped) continued

theorem foldlM_reverse_induction {step : β → α → Outcome ε β}
    (round : ∀ earlier item state next, invariant (earlier ++ [item]) state →
      step state item = .ok next → invariant earlier next) (initial : invariant items start)
    (returned : items.reverse.foldlM step start = .ok final) : invariant [] final := by
  rw [← zipIdx_map_fst 0 items, ← map_reverse, foldlM_map] at returned
  exact foldlM_zipIdx_reverse_induction invariant round initial returned

/-- A loop returns exactly when every item is ready at the start, provided that
no round changes whether a later item is ready. -/
theorem foldlM_returns_iff {step : β → α → Outcome ε β} {ready : β → α → Prop}
    {apart : α → α → Prop}
    (round : ∀ state item, (∃ next, step state item = .ok next) ↔ ready state item)
    (frame : ∀ state item next later, step state item = .ok next →
      apart item later → (ready next later ↔ ready state later)) (distinct : items.Pairwise apart) :
    (∃ final, items.foldlM step start = .ok final) ↔ ∀ item ∈ items, ready start item := by
  induction items generalizing start with
  | nil => simp
  | cons item items ih =>
    obtain ⟨itemApart, distinct⟩ := pairwise_cons.mp distinct
    have rest : ∀ next, step start item = .ok next →
        ((∃ final, items.foldlM step next = .ok final) ↔ ∀ later ∈ items, ready start later) := by
      intro next stepped
      rw [ih distinct]
      apply forall₂_congr
      intro later mem
      exact frame start item next later stepped (itemApart later mem)
    simp only [foldlM_cons, bind_eq_ok_iff, forall_mem_cons]
    constructor
    · rintro ⟨final, next, stepped, continued⟩
      exact ⟨(round start item).mp ⟨next, stepped⟩, (rest next stepped).mp ⟨final, continued⟩⟩
    · rintro ⟨itemReady, laterReady⟩
      obtain ⟨next, stepped⟩ := (round start item).mpr itemReady
      obtain ⟨final, continued⟩ := (rest next stepped).mpr laterReady
      exact ⟨final, next, stepped, continued⟩

variable {step : α → Outcome ε β} {results : List β}

theorem mapM_eq_ok_iff :
    items.mapM step = .ok results ↔ List.Forall₂ (fun item result => step item = .ok result)
        items results := by
  induction items generalizing results with
  | nil =>
    cases results <;> simp
  | cons item items ih =>
    rw [mapM_cons, bind_eq_ok_iff]
    constructor
    · rintro ⟨head, headOk, rest⟩
      rw [bind_eq_ok_iff] at rest
      obtain ⟨tail, tailOk, same⟩ := rest
      obtain rfl : head :: tail = results := by simpa using same
      exact .cons headOk (ih.mp tailOk)
    · intro related
      cases related with
      | cons headOk tailOk =>
        exact ⟨_, headOk, by simp [ih.mpr tailOk]⟩

theorem mem_iff_of_mapM_eq_ok (success : items.mapM step = .ok results) :
    result ∈ results ↔ ∃ item ∈ items, step item = .ok result := by
  have related := mapM_eq_ok_iff.mp success
  clear success
  induction related with
  | nil => simp
  | @cons item head items results headOk _ ih =>
    simp [ih, headOk, eq_comm]

theorem exists_mem_of_mapM_eq_ok (success : items.mapM step = .ok results) {item : α}
    (mem : item ∈ items) : ∃ result ∈ results, step item = .ok result := by
  have related := mapM_eq_ok_iff.mp success
  clear success
  induction related with
  | nil => simp at mem
  | cons headOk _ ih =>
    rcases mem_cons.mp mem with rfl | later
    · exact ⟨_, by simp, headOk⟩
    · obtain ⟨result, resultMember, resultOk⟩ := ih later
      exact ⟨result, mem_cons_of_mem _ resultMember, resultOk⟩

theorem Returns.mapM (each : ∀ item ∈ items, Returns (step item) (fun _ => True)) :
    Returns (items.mapM step) (fun _ => True) := by
  induction items with
  | nil => exact .ok trivial
  | cons item items ih =>
    rw [mapM_cons]
    refine (each item (by simp)).bind fun head _ => ?_
    refine (ih fun other mem => each other (by simp [mem])).bind fun tail _ => ?_
    exact .ok trivial

theorem NoPanic.mapM (safe : ∀ item ∈ items, NoPanic (step item)) : NoPanic (items.mapM step) := by
  induction items with
  | nil => simp
  | cons item items ih =>
    rw [mapM_cons]
    refine NoPanic.bind (safe item (by simp)) (fun head _ => ?_)
    refine NoPanic.bind (ih fun other mem =>
      safe other (by simp [mem])) (fun tail _ => ?_)
    simp

@[simp] theorem NoPanic.foldlM {step : β → α → Outcome ε β}
    (safe : ∀ state, ∀ item ∈ items, NoPanic (step state item)) :
    NoPanic (items.foldlM step start) := by
  induction items generalizing start with
  | nil => simp
  | cons item items ih =>
    refine (safe start item (by simp)).seq fun state => ?_
    exact ih fun state other mem => safe state other (by simp [mem])

/-- Observing every computation of a list can only abort: otherwise it
returns the successful values in order. -/
theorem mapM_attempt_eq_ok {results : List (Option β)} (success : items.mapM (fun item =>
      ((step item).attempt : Outcome δ (Option β))) = .ok results) :
    results = items.map (fun item => (step item).toOption) := by
  have related := mapM_eq_ok_iff.mp success
  clear success
  induction related with
  | nil => rfl
  | @cons item result items results headOk _ ih =>
    cases outcome : step item <;> simp_all [attempt, toOption]

theorem mapM_attempt_of_noPanic (safe : ∀ item ∈ items, NoPanic (step item)) :
    items.mapM (fun item =>
      ((step item).attempt : Outcome δ (Option β))) =
        .ok (items.map (fun item => (step item).toOption)) := by
  apply mapM_eq_ok_iff.mpr
  rw [forall₂_map_right_iff, forall₂_same]
  intro item mem
  have itemSafe := safe item mem
  cases outcome : step item <;> simp_all [attempt, toOption]

/-- A list is gone through up to the first item that fails, so only what comes
before it can keep a panic from happening. -/
theorem noPanic_mapM_iff :
    NoPanic (items.mapM step) ↔ ∀ earlier item later, items = earlier ++ item :: later →
        (∀ other ∈ earlier, ∃ value, step other = .ok value) → NoPanic (step item) := by
  induction items with
  | nil => simp
  | cons first items ih =>
    rw [mapM_cons]
    constructor
    · intro safe earlier item later split succeed
      cases earlier with
      | nil =>
        obtain ⟨rfl, -⟩ := List.cons.inj split
        intro reason failed
        exact safe reason (by rw [failed, panic_bind])
      | cons other earlier =>
        obtain ⟨rfl, rest⟩ := List.cons.inj split
        obtain ⟨value, success⟩ := succeed first mem_cons_self
        rw [success] at safe
        exact ih.mp (noPanic_bind_ok_iff.mp safe) earlier item later
          rest fun other mem => succeed other (mem_cons_of_mem _ mem)
    · intro each
      have safe := each [] first items rfl (by simp)
      apply safe.bind
      intro value success
      apply noPanic_bind_ok_iff.mpr
      apply ih.mpr
      intro earlier item later split succeed
      apply each (first :: earlier) item later (by rw [split, cons_append])
      intro other mem
      rcases mem_cons.mp mem with rfl | mem
      · exact ⟨value, success⟩
      · exact succeed other mem

/-! ## Steps that change a state

A failed step keeps the changes it has made. -/

def andThen {σ : Type} (first : Outcome ε α × σ)
    (next : α → σ → Outcome ε β × σ) : Outcome ε β × σ :=
  match first.1 with
  | .ok value => next value first.2
  | .err error => (.err error, first.2)
  | .panic reason => (.panic reason, first.2)

theorem andThen_cases {σ : Type} {first : Outcome ε α × σ}
    {next : α → σ → Outcome ε β × σ} {motive : Outcome ε β × σ → Prop}
    (done : ∀ value, first.1 = .ok value → motive (next value first.2))
    (failed : ∀ outcome, (∀ value, first.1 ≠ .ok value) →
      (∀ value, outcome ≠ .ok value) → motive (outcome, first.2)) :
    motive (andThen first next) := by
  obtain ⟨outcome, _⟩ := first
  cases outcome with
  | ok value => exact done value rfl
  | err error => exact failed (.err error) (by simp) (by simp)
  | panic reason => exact failed (.panic reason) (by simp) (by simp)

end Outcome

/-! ## Computations that leave records -/

/-- An outcome and what was recorded on the way. -/
structure Logged (ε ρ α : Type) where
  outcome : Outcome ε α
  records : List ρ

namespace Logged

variable {ε ρ α β : Type} {records : List ρ}

protected def bind (first : Logged ε ρ α) (next : α → Logged ε ρ β) : Logged ε ρ β :=
  match first.outcome with
  | .ok value => ⟨(next value).outcome, first.records ++ (next value).records⟩
  | .err error => ⟨.err error, first.records⟩
  | .panic reason => ⟨.panic reason, first.records⟩

instance : Monad (Logged ε ρ) where
  pure value := ⟨.ok value, []⟩
  bind := Logged.bind

def lift (outcome : Outcome ε α) : Logged ε ρ α := ⟨outcome, []⟩

def record (entry : ρ) : Logged ε ρ Unit := ⟨.ok (), [entry]⟩

theorem lift_eq_ok_iff {outcome : Outcome ε α} {result : α} :
    lift outcome = ⟨.ok result, records⟩ ↔ outcome = .ok result ∧ records = [] := by
  rw [lift, mk.injEq, @eq_comm _ [] records]

theorem pure_eq_ok_iff {value result : α} :
    (pure value : Logged ε ρ α) = ⟨.ok result, records⟩ ↔ value = result ∧ records = [] := by
  change lift (.ok value) = _ ↔ _
  rw [lift_eq_ok_iff, Outcome.ok.injEq]

theorem bind_eq_ok_iff {first : Logged ε ρ α} {next : α → Logged ε ρ β} {result : β} :
    (first >>= next) = ⟨.ok result, records⟩ ↔ ∃ value earlier later, first = ⟨.ok value, earlier⟩ ∧
        next value = ⟨.ok result, later⟩ ∧ records = earlier ++ later := by
  obtain ⟨outcome, earlier⟩ := first
  change Logged.bind _ _ = _ ↔ _
  cases outcome with
  | ok value =>
    constructor
    · intro same
      cases continued : next value with
      | mk outcome later =>
        simp only [Logged.bind, continued] at same
        obtain ⟨rfl, rfl⟩ := same
        exact ⟨value, earlier, later, rfl, continued, rfl⟩
    · intro composed
      obtain ⟨_, _, later, same, continued, rfl⟩ := composed
      cases same
      simp only [Logged.bind, continued]
  | err error | panic reason => simp [Logged.bind]

theorem lift_bind (outcome : Outcome ε α) (next : α → Logged ε ρ β)
    {value : α} (success : outcome = .ok value) : (lift outcome >>= next) = next value := by
  subst success
  rfl

end Logged

end MandateSolver
