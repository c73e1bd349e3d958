import MandateSolver.Autopilot.Transaction
import MandateSolver.Foundation.BreadthFirst

/-!
# Which call of the settlement contract is found

The search goes through the tree of calls level by level, so it finds the leftmost call
among those that are nested the least.
-/

namespace MandateSolver.Autopilot.Settlement

open BreadthFirst (LeftOf)

namespace CallFrame

/-- The frame at a path. -/
def descend : CallFrame → List Nat → Option CallFrame
  | frame, [] => some frame
  | frame, position :: path =>
    match frame.calls[position]? with
    | some call => call.descend path
    | none => none

/-- The frames along a path. -/
def along : CallFrame → List Nat → List CallFrame
  | frame, [] => [frame]
  | frame, position :: path =>
    frame :: match frame.calls[position]? with
      | some call => call.along path
      | none => []

section

variable (frame : CallFrame) (contract : Address) (selector : List UInt8)

/-- A frame that calls the function of the contract. -/
def Calls : Prop :=
  frame.target = some contract ∧ selector <+: frame.input

/-- A frame without a callee creates a contract.  The search takes it for a call of
the zero address. -/
def TakenForCall : Prop :=
  frame.Calls contract selector ∨ frame.target = none ∧ contract = 0 ∧ selector <+: frame.input

end

end CallFrame

variable {selector : List UInt8} {contract : Address}

theorem isSettlementTrace_iff {frame : CallFrame} :
    isSettlementTrace selector contract frame = true ↔ frame.TakenForCall contract selector := by
  rw [isSettlementTrace, Bool.and_eq_true, decide_eq_true_iff, List.isPrefixOf_iff_prefix,
    CallFrame.TakenForCall, CallFrame.Calls]
  cases frame.target with
  | none =>
    constructor
    · rintro ⟨zero, starts⟩
      exact .inr ⟨rfl, zero.symm, starts⟩
    · intro taken
      obtain ⟨absent, -⟩ | ⟨-, zero, starts⟩ := taken
      · cases absent
      · exact ⟨zero.symm, starts⟩
  | some target => simp

def queued (entry : CallFrame × List Address) : List (CallFrame × List Address) :=
  entry.1.subCalls entry.2

theorem walk_queued (frame : CallFrame) (callers : List Address) (path : List Nat) :
    BreadthFirst.walk queued (frame, callers ++ [frame.sender]) path =
      (frame.descend path).map fun found =>
        (found, callers ++ (frame.along path).map (·.sender)) := by
  induction path generalizing frame callers with
  | nil => rfl
  | cons position path ih =>
    simp only [BreadthFirst.walk, queued, CallFrame.subCalls, List.getElem?_map,
      CallFrame.descend, CallFrame.along]
    cases frame.calls[position]? with
    | none => rfl
    | some call =>
      simp only [Option.map_some, ih]
      simp

theorem searchFrames_cons (selector : List UInt8) (contract : Address)
    (entry : CallFrame × List Address) (queue : List (CallFrame × List Address)) :
    searchFrames selector contract (entry :: queue) =
      if isSettlementTrace selector contract entry.1 then some entry
      else searchFrames selector contract (queue ++ queued entry) := by
  rw [searchFrames]
  rfl

theorem sizeOf_lt_of_mem_queued (entry child : CallFrame × List Address)
    (mem : child ∈ queued entry) : sizeOf child.1 < sizeOf entry.1 := by
  obtain ⟨_, inside, rfl⟩ := List.mem_map.mp mem
  have nested := List.sizeOf_lt_of_mem inside
  obtain ⟨⟨_, _, _, _⟩, _⟩ := entry
  rw [CallFrame.mk.sizeOf_spec]
  exact Nat.lt_of_lt_of_le nested (Nat.le_add_left _ _)

theorem walk_root (root : CallFrame) (path : List Nat) :
    BreadthFirst.walk queued (root, [root.sender]) path = (root.descend path).map fun found =>
        (found, (root.along path).map (·.sender)) :=
  walk_queued root [] path

/-- No call is less deep, or to the left at the same depth. -/
def FirstCall (root : CallFrame) (contract : Address) (selector : List UInt8)
    (path : List Nat) : Prop :=
  ∀ other frame, root.descend other = some frame → frame.TakenForCall contract selector →
      path.length ≤ other.length ∧ (path.length = other.length → ¬ LeftOf other path)

theorem findSettlementTraceAndCallers_of_taken {root frame : CallFrame} {path : List Nat}
    (reached : root.descend path = some frame) (taken : frame.TakenForCall contract selector) :
    ∃ best last, findSettlementTraceAndCallers selector root contract =
        some (last, (root.along best).map (·.sender)) ∧
      root.descend best = some last ∧ last.TakenForCall contract selector ∧
      FirstCall root contract selector best := by
  obtain ⟨best, last, searched, walked, isGoal, first⟩ :=
    BreadthFirst.search_eq_some_of_goal (searchFrames_cons selector contract)
      (by rw [walk_root, reached]; rfl) (isSettlementTrace_iff.mpr taken)
  rw [walk_root, Option.map_eq_some_iff] at walked
  obtain ⟨lastFrame, descended, rfl⟩ := walked
  refine ⟨best, lastFrame, searched, descended, isSettlementTrace_iff.mp isGoal, ?_⟩
  intro other _ otherReached otherTaken
  exact first other _ (by rw [walk_root, otherReached]; rfl) (isSettlementTrace_iff.mpr otherTaken)

theorem findSettlementTraceAndCallers_eq_none {root : CallFrame}
    (absent : ∀ path frame, root.descend path = some frame →
      ¬ frame.TakenForCall contract selector) :
    findSettlementTraceAndCallers selector root contract = none := by
  have noGoal : ∀ path last, BreadthFirst.walk queued (root, [root.sender]) path = some last →
        isSettlementTrace selector contract last.1 = false := by
    intro path last walked
    rw [walk_root, Option.map_eq_some_iff] at walked
    obtain ⟨frame, reached, rfl⟩ := walked
    rw [← Bool.not_eq_true, isSettlementTrace_iff]
    exact absent path frame reached
  exact BreadthFirst.search_eq_none (by rw [searchFrames])
    (searchFrames_cons selector contract) sizeOf_lt_of_mem_queued noGoal

/-- The search returns a frame exactly when some frame is taken for a call of the
settlement contract.  The frame is nested as little as possible and the leftmost of
those, and the callers are the senders from the first frame to it. -/
theorem findSettlementTraceAndCallers_finds_first (selector : List UInt8)
    (root : CallFrame) (contract : Address) :
    ((findSettlementTraceAndCallers selector root contract).isSome ↔
      ∃ path frame, root.descend path = some frame ∧ frame.TakenForCall contract selector) ∧
    ∀ frame callers, findSettlementTraceAndCallers selector root contract = some (frame, callers) →
        ∃ path, root.descend path = some frame ∧ frame.TakenForCall contract selector ∧
          callers = (root.along path).map (·.sender) ∧
          FirstCall root contract selector path := by
  have exists_of_some : (findSettlementTraceAndCallers selector root contract).isSome →
      ∃ path frame, root.descend path = some frame ∧ frame.TakenForCall contract selector := by
    intro isSome
    by_contra absent
    have nothing := findSettlementTraceAndCallers_eq_none
      fun path frame reached taken => absent ⟨path, frame, reached, taken⟩
    rw [nothing] at isSome
    cases isSome
  refine ⟨⟨exists_of_some, ?_⟩, ?_⟩
  · rintro ⟨path, frame, reached, taken⟩
    obtain ⟨best, last, searched, -⟩ := findSettlementTraceAndCallers_of_taken reached taken
    rw [searched]
    rfl
  · intro frame callers returned
    obtain ⟨path, _, reached, taken⟩ := exists_of_some (by rw [returned]; rfl)
    obtain ⟨best, last, searched, descended, isTaken, first⟩ :=
      findSettlementTraceAndCallers_of_taken reached taken
    rw [returned] at searched
    cases searched
    exact ⟨best, descended, isTaken, rfl, first⟩

/-- A transaction that creates a contract, asked for the zero address. -/
theorem findSettlementTraceAndCallers_creation :
    (findSettlementTraceAndCallers [0x13, 0xd7, 0x9a, 0x0b]
        ⟨7, none, [0x13, 0xd7, 0x9a, 0x0b, 0x60], []⟩ 0).isSome ∧
      ¬ ∃ path frame, CallFrame.descend ⟨7, none, [0x13, 0xd7, 0x9a, 0x0b, 0x60], []⟩ path =
            some frame ∧
          frame.Calls 0 [0x13, 0xd7, 0x9a, 0x0b] := by
  constructor
  · rw [findSettlementTraceAndCallers, searchFrames]
    rfl
  · rintro ⟨path, frame, reached, callee, _⟩
    cases path with
    | nil =>
      cases reached
      cases callee
    | cons position path =>
      rw [CallFrame.descend] at reached
      simp at reached

end MandateSolver.Autopilot.Settlement
