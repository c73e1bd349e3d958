import Mathlib.Data.List.Basic
import MandateSolver.Foundation.Schedule

/-!
# Sharing the pre-processing of an auction

Who wants the tasks of an auction takes a lock, keeps it until the auction is parsed, and
compares its request with the last one.  In the beginning this is the empty request, whose
tasks never finish.
-/

namespace MandateSolver.Driver

/-! ## Tasks -/

/-- A future whose result everyone can wait for.  Spawned ones are told apart by
the number of the task that computes them. -/
inductive Shared (α : Type) where
  | pending
  | ready (value : α)
  | spawned (task : Nat)

/-- What the background tasks compute is of no concern here. -/
structure DataFetchingTasks (A : Type) where
  auction : Shared A
  (balances appData cowAmmOrders liquidity : Shared Unit)

abbrev RequestBytes := List UInt8

/-- The last request and its tasks. -/
structure ControlBlock (A : Type) where
  solveRequest : RequestBytes
  tasks : DataFetchingTasks A

inductive ParseError where
  | couldNotParseSolveRequest
  | failedToAwaitBlockingTask
  | couldNotConvertAuction

/-! ## The aggregator -/

/-- The calls wait for the lock in the order in which they were made, and the
first one holds it. -/
structure DataAggregator (A : Type) where
  control : ControlBlock A
  served : Nat
  waiting : List RequestBytes
  spawned : Nat

/-- A call is made, or the one that holds the lock is done with waiting.  If it
parses its request, this is the result. -/
inductive AggregatorEvent (A : Type) where
  | call (request : RequestBytes)
  | polled (parsed : Except ParseError A)

/-- The result of a call. -/
structure Returned (A : Type) where
  number : Nat
  request : RequestBytes
  result : Except ParseError (DataFetchingTasks A)

variable {schedule : Nat → AggregatorEvent A}

namespace DataAggregator

variable {A : Type} {aggregator : DataAggregator A} {event : AggregatorEvent A}
  {request : RequestBytes}

def new : DataAggregator A where
  control := ⟨[], ⟨.pending, .pending, .pending, .pending, .pending⟩⟩
  served := 0
  waiting := []
  spawned := 0

/-- The auction is there already, everything else is fetched in new tasks. -/
def assembleTasks (spawned : Nat) (auction : A) : DataFetchingTasks A :=
  ⟨.ready auction, .spawned spawned, .spawned (spawned + 1), .spawned (spawned + 2),
    .spawned (spawned + 3)⟩

section

variable (aggregator)

/-- The call that holds the lock gets its result and releases the lock.  While it
waits for an auction that never comes, nothing happens. -/
def startOrGetTasksForAuction (request : RequestBytes) (parsed : Except ParseError A) :
    Option (Except ParseError (DataFetchingTasks A) × DataAggregator A) :=
  let next := { aggregator with
    served := aggregator.served + 1
    waiting := aggregator.waiting.tail }
  if request = aggregator.control.solveRequest then
    match aggregator.control.tasks.auction with
    | .pending => none
    | _ => some (.ok aggregator.control.tasks, next)
  else
    match parsed with
    | .error error => some (.error error, next)
    | .ok auction =>
      let tasks := assembleTasks aggregator.spawned auction
      some (.ok tasks, { next with
        control := ⟨request, tasks⟩
        spawned := aggregator.spawned + 4 })

def release (parsed : Except ParseError A) :
    Option (Returned A × DataAggregator A) := do
  let request ← aggregator.waiting.head?
  let (result, next) ← aggregator.startOrGetTasksForAuction request parsed
  return (⟨aggregator.served, request, result⟩, next)

/-- What an event changes. -/
def step : AggregatorEvent A → DataAggregator A
  | .call request => { aggregator with waiting := aggregator.waiting ++ [request] }
  | .polled parsed => ((aggregator.release parsed).map Prod.snd).getD aggregator

/-- What an event returns to its caller. -/
def returned : AggregatorEvent A → Option (Returned A)
  | .call _ => none
  | .polled parsed => (aggregator.release parsed).map Prod.fst

/-- The calls so far. -/
def calls : Nat :=
  aggregator.served + aggregator.waiting.length

/-- An empty request has its turn before any request was accepted. -/
def EmptyFirst : Prop :=
  aggregator.waiting.head? = some [] ∧ aggregator.control = new.control

end

/-! ## Giving back the lock -/

section

variable {next : DataAggregator A} {parsed : Except ParseError A} {outcome : Returned A}

/-- What a call under the lock returns and leaves behind. -/
inductive Leaves (aggregator : DataAggregator A) (request : RequestBytes) :
    Except ParseError (DataFetchingTasks A) → ControlBlock A → Prop
  | shared (same : request = aggregator.control.solveRequest) :
      Leaves aggregator request (.ok aggregator.control.tasks) aggregator.control
  | rejected (error : ParseError) : Leaves aggregator request (.error error) aggregator.control
  | accepted (auction : A) (ne : request ≠ aggregator.control.solveRequest) :
      Leaves aggregator request (.ok (assembleTasks aggregator.spawned auction))
        ⟨request, assembleTasks aggregator.spawned auction⟩

theorem release_cases (released : aggregator.release parsed = some (outcome, next)) :
    outcome.number = aggregator.served ∧ next.served = aggregator.served + 1 ∧
      aggregator.waiting = outcome.request :: next.waiting ∧
      Leaves aggregator outcome.request outcome.result next.control := by
  simp only [release, Option.bind_eq_bind, Option.bind_eq_some_iff,
    Option.pure_def, Option.some.injEq, Prod.exists] at released
  obtain ⟨request, isFirst, result, _, finished, rfl, rfl⟩ := released
  have split := List.eq_cons_of_mem_head? isFirst
  unfold startOrGetTasksForAuction at finished
  by_cases same : request = aggregator.control.solveRequest
  · rw [if_pos same] at finished
    split at finished
    · cases finished
    · cases finished
      exact ⟨rfl, rfl, split, .shared same⟩
  · rw [if_neg same] at finished
    split at finished
    · cases finished
      exact ⟨rfl, rfl, split, .rejected _⟩
    · cases finished
      exact ⟨rfl, rfl, split, .accepted _ same⟩

/-- The last accepted request has been parsed, if there was one. -/
def Parsed (control : ControlBlock A) : Prop :=
  control = new.control ∨ ∃ auction, control.tasks.auction = .ready auction

theorem parsed_of_leaves {result : Except ParseError (DataFetchingTasks A)}
    {control : ControlBlock A} (leaves : Leaves aggregator request result control)
    (known : Parsed aggregator.control) : Parsed control := by
  cases leaves with
  | shared | rejected => exact known
  | accepted auction => exact Or.inr ⟨auction, rfl⟩

/-- An empty request in the beginning keeps the lock forever. -/
theorem release_of_emptyFirst (stuck : aggregator.EmptyFirst) :
    aggregator.release parsed = none := by
  obtain ⟨isFirst, fresh⟩ := stuck
  simp [release, isFirst, startOrGetTasksForAuction, fresh, new]

theorem release_of_not_emptyFirst (parsed : Except ParseError A) (known : Parsed aggregator.control)
    (waits : aggregator.waiting ≠ []) (free : ¬aggregator.EmptyFirst) :
    ∃ outcome next, aggregator.release parsed = some (outcome, next) := by
  obtain ⟨request, isFirst⟩ := Option.isSome_iff_exists.mp (List.isSome_head?.mpr waits)
  suffices ∃ finished, aggregator.startOrGetTasksForAuction request parsed = some finished by
    obtain ⟨⟨result, next⟩, finished⟩ := this
    exact ⟨⟨aggregator.served, request, result⟩, next, by
      simp [release, isFirst, finished]⟩
  unfold startOrGetTasksForAuction
  by_cases same : request = aggregator.control.solveRequest
  · rw [if_pos same]
    rcases known with fresh | ⟨_, ready⟩
    · subst same
      exact absurd ⟨by rw [isFirst, fresh, new], fresh⟩ free
    · rw [ready]
      exact ⟨_, rfl⟩
  · rw [if_neg same]
    cases parsed with
    | error | ok => exact ⟨_, rfl⟩

end

/-! ## Runs -/

section

variable {time : Nat}

/-- The state before a time. -/
abbrev before (schedule : Nat → AggregatorEvent A) (time : Nat) : DataAggregator A :=
  Schedule.state step new schedule time

/-- The call that holds the lock makes progress. -/
def Polled (event : AggregatorEvent A) : Prop :=
  ∃ parsed, event = .polled parsed

section

variable (schedule)

/-- Whoever holds the lock gets on again and again.  In particular a request is
parsed in the end. -/
def Fair : Prop :=
  ∀ time, ∃ later ≥ time, Polled (schedule later)

/-- The call that begins at the given time returns later. -/
def Returns (time : Nat) (request : RequestBytes) : Prop :=
  ∃ later ≥ time, ∃ result, (before schedule later).returned (schedule later) =
    some ⟨(before schedule time).calls, request, result⟩

/-- Two calls with the same request get the same tasks, if no other request is
accepted in between. -/
def SharesTasks : Prop :=
  ∀ early late, early ≤ late → ∀ number otherNumber request tasks otherTasks,
    (before schedule early).returned (schedule early) = some ⟨number, request, .ok tasks⟩ →
    (before schedule late).returned (schedule late) = some ⟨otherNumber, request, .ok otherTasks⟩ →
    (∀ time, early < time → time < late → ∀ number ne started,
      (before schedule time).returned (schedule time) =
        some ⟨number, ne, .ok started⟩ → ne = request) →
    tasks = otherTasks

end

theorem returned_eq_some {outcome : Returned A}
    (returns : aggregator.returned event = some outcome) :
    outcome.number = aggregator.served ∧ (aggregator.step event).served = aggregator.served + 1 ∧
      aggregator.waiting = outcome.request :: (aggregator.step event).waiting ∧
      Leaves aggregator outcome.request outcome.result (aggregator.step event).control := by
  cases event with
  | call => cases returns
  | polled parsed =>
    obtain ⟨⟨_, _⟩, released, rfl⟩ := Option.map_eq_some_iff.mp returns
    rw [step, released]
    exact release_cases released

theorem returned_eq_none (silent : aggregator.returned event = none) :
    (aggregator.step event).control = aggregator.control ∧
      (aggregator.step event).served = aggregator.served ∧
      ∃ added, (aggregator.step event).waiting = aggregator.waiting ++ added := by
  cases event with
  | call request => exact ⟨rfl, rfl, [request], rfl⟩
  | polled parsed =>
    rw [returned, Option.map_eq_none_iff] at silent
    rw [step, silent]
    exact ⟨rfl, rfl, [], (List.append_nil _).symm⟩

theorem parsed_before (time : Nat) : Parsed (before schedule time).control := by
  apply Schedule.state_of_preserved (fun aggregator : DataAggregator A => Parsed aggregator.control)
  · exact Or.inl rfl
  · intro aggregator event known
    cases returns : aggregator.returned event with
    | none => rwa [(returned_eq_none returns).1]
    | some outcome => exact parsed_of_leaves (returned_eq_some returns).2.2.2 known

/-! ### Calls with the same request -/

variable {number : Nat}

theorem control_of_returned {tasks : DataFetchingTasks A}
    (returns : aggregator.returned event = some ⟨number, request, .ok tasks⟩) :
    (aggregator.step event).control = ⟨request, tasks⟩ := by
  obtain ⟨-, -, -, leaves⟩ := returned_eq_some returns
  generalize (aggregator.step event).control = control at *
  cases leaves with
  | shared same =>
    change request = _ at same
    rw [same]
  | accepted => rfl

/-- The tasks stay as they are until another request is accepted. -/
theorem control_step (aggregator : DataAggregator A) (event : AggregatorEvent A)
    (unchanged : ∀ number ne started, aggregator.returned event = some ⟨number, ne, .ok started⟩ →
        ne = aggregator.control.solveRequest) :
    (aggregator.step event).control = aggregator.control := by
  cases returns : aggregator.returned event with
  | none => exact (returned_eq_none returns).1
  | some outcome =>
    obtain ⟨number, request, _⟩ := outcome
    obtain ⟨-, -, -, leaves⟩ := returned_eq_some returns
    generalize (aggregator.step event).control = control at *
    cases leaves with
    | shared | rejected => rfl
    | accepted auction ne =>
      exact absurd (unchanged number request _ returns) ne

theorem sharesTasks (schedule : Nat → AggregatorEvent A) : SharesTasks schedule := by
  intro early late order number _ request tasks _ first second between
  rcases Nat.eq_or_lt_of_le order with same | later
  · subst same
    rw [first] at second
    cases second
    rfl
  · have started : (before schedule (early + 1)).control = ⟨request, tasks⟩ :=
      control_of_returned first
    have kept : (before schedule late).control = ⟨request, tasks⟩ := by
      apply Schedule.state_of_preserved_between (fun aggregator : DataAggregator A =>
          aggregator.control = ⟨request, tasks⟩) later started
      intro time after earlier kept
      rw [← kept]
      apply control_step
      intro number ne started returns
      rw [kept]
      exact between time after earlier number ne started returns
    have stays := control_step (before schedule late) (schedule late) fun number ne _ returns => by
        rw [second] at returns
        cases returns
        rw [kept]
    rw [control_of_returned second, kept] at stays
    exact (congrArg ControlBlock.tasks stays).symm

/-! ### Every call returns -/

/-- The call with the given number is in the queue. -/
def Waits (number : Nat) (request : RequestBytes) (aggregator : DataAggregator A) : Prop :=
  aggregator.served ≤ number ∧ aggregator.waiting[number - aggregator.served]? = some request

/-- A step brings a waiting call to its end, or one of those before it, or none. -/
theorem waits_step (event : AggregatorEvent A) (waits : Waits number request aggregator) :
    (∃ result, aggregator.returned event = some ⟨number, request, result⟩) ∨
      Waits number request (aggregator.step event) ∧ (aggregator.returned event ≠ none →
          number - (aggregator.step event).served < number - aggregator.served) ∧
        aggregator.served ≤ (aggregator.step event).served := by
  obtain ⟨notServed, isRequest⟩ := waits
  cases returns : aggregator.returned event with
  | none =>
    obtain ⟨-, same, _, longer⟩ := returned_eq_none returns
    refine Or.inr ⟨⟨?_, ?_⟩, ?_, ?_⟩
    · rwa [same]
    · rw [same, longer]
      obtain ⟨inside, _⟩ := List.getElem?_eq_some_iff.mp isRequest
      rwa [List.getElem?_append_left inside]
    · simp
    · exact Nat.le_of_eq same.symm
  | some outcome =>
    obtain ⟨isNumber, next, split, -⟩ := returned_eq_some returns
    rw [split] at isRequest
    rcases Nat.eq_or_lt_of_le notServed with turn | _
    · left
      rw [← turn, Nat.sub_self] at isRequest
      obtain ⟨_, _, result⟩ := outcome
      cases isRequest
      cases isNumber.trans turn
      exact ⟨result, rfl⟩
    · right
      refine ⟨⟨?_, ?_⟩, ?_, ?_⟩
      · omega
      · rw [next]
        rwa [show number - aggregator.served = number - (aggregator.served + 1) + 1 by
          omega, List.getElem?_cons_succ] at isRequest
      · omega
      · omega

theorem returned_ne_none (waits : Waits number request (before schedule time))
    (polled : Polled (schedule time)) (free : ¬(before schedule time).EmptyFirst) :
    (before schedule time).returned (schedule time) ≠ none := by
  obtain ⟨parsed, isPolled⟩ := polled
  have nonempty : (before schedule time).waiting ≠ [] := by
    intro empty
    have isRequest := waits.2
    rw [empty] at isRequest
    cases isRequest
  obtain ⟨outcome, _, released⟩ :=
    release_of_not_emptyFirst parsed (parsed_before time) nonempty free
  rw [isPolled, returned, released]
  exact Option.some_ne_none outcome

theorem returns_of_never_emptyFirst (fair : Fair schedule)
    (free : ∀ time, ¬(before schedule time).EmptyFirst)
    (called : schedule time = .call request) : Returns schedule time request := by
  generalize number : (before schedule time).calls = position
  have waits : Waits position request (before schedule (time + 1)) := by
    change Waits position request ((before schedule time).step (schedule time))
    rw [called, ← number]
    constructor
    · exact Nat.le_add_right _ _
    · simp [step, calls]
  have eventually := Schedule.eventually_of_fair (Waits position request) (fun aggregator event =>
      ∃ result, aggregator.returned event = some ⟨position, request, result⟩)
    (fun aggregator => position - aggregator.served) ?_ fair ?_ waits
  · obtain ⟨later, _, returns⟩ := eventually
    exact ⟨later, by omega, number ▸ returns⟩
  · intro time waits
    rcases waits_step (schedule time) waits with returns | ⟨still, -, served⟩
    · exact Or.inl returns
    · exact Or.inr ⟨still, Nat.sub_le_sub_left served position⟩
  · intro time waits polled
    rcases waits_step (schedule time) waits with returns | ⟨-, closer, -⟩
    · exact Or.inl returns
    · exact Or.inr (closer (returned_ne_none waits polled (free time)))

/-! ### A lock that is never released -/

theorem emptyFirst_step (event : AggregatorEvent A) (stuck : aggregator.EmptyFirst) :
    aggregator.returned event = none ∧ (aggregator.step event).EmptyFirst := by
  have silent : aggregator.returned event = none := by
    cases event with
    | call => rfl
    | polled parsed => rw [returned, release_of_emptyFirst stuck, Option.map_none]
  obtain ⟨control, -, _, waiting⟩ := returned_eq_none silent
  refine ⟨silent, ?_, control.trans stuck.2⟩
  rw [waiting, List.head?_append, stuck.1, Option.some_or]

theorem emptyFirst_forever {first : Nat}
    (stuck : (before schedule first).EmptyFirst) {later : Nat} (order : first ≤ later) :
    (before schedule later).returned (schedule later) = none := by
  have still : (before schedule later).EmptyFirst := by
    apply Schedule.state_of_preserved_between EmptyFirst order stuck
    intro time _ _ still
    exact (emptyFirst_step (schedule time) still).2
  exact (emptyFirst_step (schedule later) still).1

theorem served_mono {first last : Nat} (order : first ≤ last) :
    (before schedule first).served ≤ (before schedule last).served := by
  apply Schedule.state_of_preserved_between (fun aggregator : DataAggregator A =>
    (before schedule first).served ≤ aggregator.served) order (Nat.le_refl _)
  intro time _ _ below
  apply Nat.le_trans below
  change _ ≤ ((before schedule time).step (schedule time)).served
  cases returns : (before schedule time).returned (schedule time) with
  | none => exact Nat.le_of_eq (returned_eq_none returns).2.1.symm
  | some =>
    rw [(returned_eq_some returns).2.1]
    exact Nat.le_succ _

theorem waits_of_step (waits : Waits number request (aggregator.step event)) :
    Waits number request aggregator ∨ event = .call request ∧ aggregator.calls = number := by
  obtain ⟨notServed, isRequest⟩ := waits
  cases event with
  | call added =>
    change aggregator.served ≤ number at notServed
    change (aggregator.waiting ++ [added])[number - aggregator.served]? = _ at isRequest
    rcases Nat.lt_or_ge (number - aggregator.served) aggregator.waiting.length with
      inside | beyond
    · rw [List.getElem?_append_left inside] at isRequest
      exact Or.inl ⟨notServed, isRequest⟩
    · rw [List.getElem?_append_right beyond, List.getElem?_singleton] at isRequest
      split at isRequest
      · cases isRequest
        exact Or.inr ⟨rfl, by unfold calls; omega⟩
      · cases isRequest
  | polled parsed =>
    left
    cases returns : aggregator.returned (.polled parsed) with
    | none =>
      rw [returned, Option.map_eq_none_iff] at returns
      rw [step, returns] at notServed isRequest
      exact ⟨notServed, isRequest⟩
    | some outcome =>
      obtain ⟨-, next, split, -⟩ := returned_eq_some returns
      rw [next] at notServed isRequest
      refine ⟨by omega, ?_⟩
      rwa [split, show number - aggregator.served =
        number - (aggregator.served + 1) + 1 by omega, List.getElem?_cons_succ]

theorem called_of_waits (waits : Waits number request (before schedule time)) :
    ∃ earlier < time, schedule earlier = .call request ∧
      (before schedule earlier).calls = number := by
  induction time with
  | zero => cases waits.2
  | succ time ih =>
    rcases waits_of_step waits with waited | called
    · obtain ⟨earlier, _, called⟩ := ih waited
      exact ⟨earlier, by omega, called⟩
    · exact ⟨time, Nat.lt_succ_self time, called⟩

theorem not_returns_of_emptyFirst (stuck : (before schedule time).EmptyFirst) :
    ∃ earlier, schedule earlier = .call [] ∧ ¬Returns schedule earlier [] := by
  have waits : Waits (before schedule time).served [] (before schedule time) := by
    refine ⟨Nat.le_refl _, ?_⟩
    rw [Nat.sub_self, ← List.head?_eq_getElem?]
    exact stuck.1
  obtain ⟨earlier, _, called, number⟩ := called_of_waits waits
  refine ⟨earlier, called, ?_⟩
  intro returns
  obtain ⟨later, _, _, returned⟩ := returns
  rcases Nat.lt_or_ge later time with earlierReturn | after
  · obtain ⟨isNumber, next, -, -⟩ := returned_eq_some returned
    have served : (before schedule (later + 1)).served ≤ (before schedule time).served :=
      served_mono earlierReturn
    change ((before schedule later).step (schedule later)).served ≤ _ at served
    rw [next, ← isNumber] at served
    exact absurd served (by rw [number]; exact Nat.not_succ_le_self _)
  · rw [emptyFirst_forever stuck after] at returned
    cases returned

end

end DataAggregator

section

open DataAggregator

variable {A : Type}

/-- Every call returns, and equal requests share their tasks, if and only if no
empty request has its turn before a request was accepted. -/
theorem startOrGetTasks_returns_iff (fair : Fair schedule) :
    ((∀ time request, schedule time = .call request → Returns schedule time request) ∧
      SharesTasks schedule) ↔
      ∀ time, ¬(before schedule time).EmptyFirst := by
  constructor
  · intro live time stuck
    obtain ⟨earlier, called, lost⟩ := not_returns_of_emptyFirst stuck
    exact lost (live.1 earlier [] called)
  · intro free
    refine ⟨?_, sharesTasks schedule⟩
    intro time request called
    exact returns_of_never_emptyFirst fair free called

def twoSolvers : Nat → AggregatorEvent Unit
  | 0 | 1 => .call [1]
  | _ => .polled (.ok ())

theorem startOrGetTasks_returns_to_two_solvers :
    (Returns twoSolvers 0 [1] ∧ Returns twoSolvers 1 [1]) ∧ SharesTasks twoSolvers := by
  have fair : Fair twoSolvers := by
    intro time
    exact ⟨time + 2, by omega, .ok (), rfl⟩
  have free : ∀ time, ¬(before twoSolvers time).EmptyFirst := by
    intro time stuck
    obtain ⟨earlier, called, -⟩ := not_returns_of_emptyFirst stuck
    match earlier with
    | 0 | 1 => cases called
    | _ + 2 => cases called
  have live := (startOrGetTasks_returns_iff fair).mpr free
  exact ⟨⟨live.1 0 [1] rfl, live.1 1 [1] rfl⟩, live.2⟩

def emptyRequest : Nat → AggregatorEvent Unit
  | 0 => .call []
  | 1 => .call [1]
  | _ => .polled (.ok ())

/-- Neither of the calls returns. -/
theorem startOrGetTasks_blocked_by_empty_request :
    Fair emptyRequest ∧ emptyRequest 0 = .call [] ∧ emptyRequest 1 = .call [1] ∧
      ¬Returns emptyRequest 0 [] ∧ ¬Returns emptyRequest 1 [1] := by
  have stuck : (before emptyRequest 1).EmptyFirst := ⟨rfl, rfl⟩
  have silent time : (before emptyRequest time).returned (emptyRequest time) = none := by
    match time with
    | 0 => rfl
    | time + 1 => exact emptyFirst_forever stuck (Nat.succ_le_succ (Nat.zero_le time))
  have never time request : ¬Returns emptyRequest time request := by
    rintro ⟨later, _, _, returned⟩
    rw [silent] at returned
    cases returned
  refine ⟨?_, rfl, rfl, never 0 [], never 1 [1]⟩
  intro time
  exact ⟨time + 2, by omega, .ok (), rfl⟩

end

end MandateSolver.Driver
