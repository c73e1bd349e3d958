import MandateSolver.Foundation.Outcome

/-!
# Computations against a store

What was written before a failure stays written.  A single write is atomic.
-/

namespace MandateSolver

open List

def Stored (σ ε α : Type) := σ → Outcome ε α × σ

namespace Stored

variable {σ ε δ α β : Type}

protected def bind (first : Stored σ ε α) (next : α → Stored σ ε β) : Stored σ ε β :=
  fun store =>
    match first store with
    | (.ok value, later) => next value later
    | (.err error, later) => (.err error, later)
    | (.panic reason, later) => (.panic reason, later)

instance : Monad (Stored σ ε) where
  pure value := fun store => (.ok value, store)
  bind := Stored.bind

instance : LawfulMonad (Stored σ ε) :=
  LawfulMonad.mk' (Stored σ ε) (by
      intro α computation
      funext store
      change Stored.bind computation _ store = computation store
      rw [Stored.bind]
      obtain ⟨outcome, later⟩ := computation store
      cases outcome <;> rfl)
    (by intros; rfl)
    (by
      intro α β γ computation next last
      funext store
      change Stored.bind (Stored.bind computation next) last store =
        Stored.bind computation (fun value => Stored.bind (next value) last) store
      simp only [Stored.bind]
      obtain ⟨outcome, later⟩ := computation store
      cases outcome <;> rfl)

def lift (outcome : Outcome ε α) : Stored σ ε α :=
  fun store => (outcome, store)

def read (query : σ → Outcome ε α) : Stored σ ε α :=
  fun store => (query store, store)

def write (transaction : σ → Outcome ε σ) : Stored σ ε Unit :=
  fun store =>
    match transaction store with
    | .ok later => (.ok (), later)
    | .err error => (.err error, store)
    | .panic reason => (.panic reason, store)

def mapError (wrap : ε → δ) (computation : Stored σ ε α) : Stored σ δ α :=
  fun store =>
    let (outcome, later) := computation store
    (outcome.mapError wrap, later)

/-! ## All or nothing -/

/-- A failure leaves the store as it was, and a success ends as `post` says. -/
def AllOrNothing (computation : Stored σ ε α) (store : σ) (post : α → σ → Prop) : Prop :=
  match computation store with
  | (.ok value, later) => post value later
  | (_, later) => later = store

namespace AllOrNothing

variable {store : σ} {computation : Stored σ ε α} {post : β → σ → Prop} {first : Stored σ ε α}

theorem lift (outcome : Outcome ε α) : AllOrNothing (.lift outcome) store
      (fun value later => later = store ∧ outcome = .ok value) := by
  cases outcome with
  | ok value => exact ⟨rfl, rfl⟩
  | err error | panic reason => rfl

theorem read (query : σ → Outcome ε α) : AllOrNothing (.read query) store
      (fun value later => later = store ∧ query store = .ok value) :=
  lift (query store)

theorem write (transaction : σ → Outcome ε σ) : AllOrNothing (.write transaction) store
      (fun _ later => transaction store = .ok later) := by
  rw [AllOrNothing, Stored.write]
  cases transaction store with
  | ok later | err error | panic reason => rfl

theorem mono {strong weak : α → σ → Prop} (holds : AllOrNothing computation store strong)
    (weaker : ∀ value later, strong value later → weak value later) :
    AllOrNothing computation store weak := by
  rw [AllOrNothing] at holds ⊢
  split at holds
  · exact weaker _ _ holds
  · exact holds

/-- What comes first only reads, so nothing is lost when the rest fails. -/
theorem bind {next : α → Stored σ ε β} {middle : α → Prop}
    (reads : AllOrNothing first store (fun value later => later = store ∧ middle value))
    (rest : ∀ value, middle value → AllOrNothing (next value) store post) :
    AllOrNothing (first >>= next) store post := by
  change AllOrNothing (Stored.bind first next) store post
  rw [AllOrNothing] at reads
  cases ran : first store with
  | mk outcome later =>
    rw [ran] at reads
    cases outcome with
    | ok value =>
      obtain ⟨rfl, holds⟩ := reads
      have continued := rest value holds
      rw [AllOrNothing] at continued ⊢
      rw [Stored.bind, ran]
      exact continued
    | err error | panic reason => rw [AllOrNothing, Stored.bind, ran]; exact reads

theorem map {result : α → β} {middle : α → σ → Prop} (holds : AllOrNothing first store middle)
    (implies : ∀ value later, middle value later → post (result value) later) :
    AllOrNothing (first >>= fun value => pure (result value)) store post := by
  change AllOrNothing (Stored.bind first _) store post
  rw [AllOrNothing] at holds
  cases ran : first store with
  | mk outcome later =>
    rw [ran] at holds
    rw [AllOrNothing, Stored.bind, ran]
    cases outcome with
    | ok value => exact implies value later holds
    | err error | panic reason => exact holds

theorem mapError {wrap : ε → δ} {post : α → σ → Prop}
    (holds : AllOrNothing computation store post) :
    AllOrNothing (computation.mapError wrap) store post := by
  rw [AllOrNothing] at holds ⊢
  cases ran : computation store with
  | mk outcome later =>
    rw [ran] at holds
    simp only [Stored.mapError, ran]
    cases outcome with
    | ok value | err error | panic reason => exact holds

theorem mapM {query : α → Stored σ ε β} {middle : α → β → Prop} (items : List α)
    (reads : ∀ item ∈ items,
      AllOrNothing (query item) store (fun value later => later = store ∧ middle item value)) :
    AllOrNothing (items.mapM query) store (fun values later => later = store ∧
        ∀ item ∈ items, ∃ value ∈ values, middle item value) := by
  induction items with
  | nil =>
    exact ⟨rfl, fun _ listed => by cases listed⟩
  | cons item items ih =>
    rw [mapM_cons]
    refine bind (reads item mem_cons_self) fun value found => ?_
    have tail := ih fun other listed => reads other (mem_cons_of_mem _ listed)
    refine tail.map fun values later holds => ⟨holds.1, ?_⟩
    intro other listed
    obtain rfl | later := mem_cons.mp listed
    · exact ⟨value, mem_cons_self, found⟩
    · obtain ⟨otherValue, valueListed, otherFound⟩ := holds.2 other later
      exact ⟨otherValue, mem_cons_of_mem _ valueListed, otherFound⟩

end AllOrNothing

end Stored

end MandateSolver
