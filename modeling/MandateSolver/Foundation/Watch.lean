import Mathlib.Data.List.Basic

/-!
# Watch channels

A channel keeps only the last value that was sent.  A stream on it yields the current value
first and ends once the sender is gone and the last value has been seen.
-/

namespace MandateSolver

/-- A channel that keeps the last value only. -/
structure Watch (α : Type) where
  value : α
  version : Nat
  closed : Bool

namespace Watch

variable {α : Type}

def channel (value : α) : Watch α := ⟨value, 0, false⟩

def send (watch : Watch α) (value : α) : Watch α :=
  { watch with value := value, version := watch.version + 1 }

def close (watch : Watch α) : Watch α := { watch with closed := true }

/-- The version of the last item, if there was one. -/
structure Stream where
  seen : Option Nat

def Stream.new : Stream := ⟨none⟩

/-- The next item of a stream, if any. -/
inductive Poll (α : Type) where
  | item (value : α) (stream : Stream)
  | pending
  | ended

def next (watch : Watch α) (stream : Stream) : Poll α :=
  if stream.seen ≠ some watch.version then .item watch.value ⟨some watch.version⟩
  else if watch.closed then .ended
  else .pending

theorem eq_of_next_eq_item {watch : Watch α} {stream later : Stream} {value : α}
    (polled : watch.next stream = .item value later) : value = watch.value := by
  unfold next at polled
  split at polled
  · cases polled
    rfl
  · split at polled <;> cases polled

end Watch

end MandateSolver
