import MandateSolver.Driver.Solution
import MandateSolver.Foundation.RetainLoop

/-!
# Ids of solutions

The driver gives every solution a number of its own beside the solver's id.  Competitions
compare the two parts together, and numbers do not repeat.
-/

namespace MandateSolver.Driver

open Outcome List

/-- The counter has counted all ids of the process, of which 64 bits are kept. -/
def Id.new (counter solution : Nat) : Id :=
  ⟨counter % 2 ^ 64, [solution]⟩

/-- A solution of a solver's response.  Other tasks may have taken ids since
the one before it was converted. -/
structure Answer (F : Type) where
  id : Nat
  parts : Solution F
  interleaved : Nat

namespace Solution

section

variable {F : Type} [Factor F] (feeHandler : FeeHandler)
  (surplusCapturingJitOrderOwners : Address → Bool)

def intoDomain : Nat → List (Answer F) → Outcome SolutionError (List (Solution F))
  | _, [] => .ok []
  | counter, answer :: rest => do
    let solution ← Solution.new
      { answer.parts with
        id := Id.new (counter + answer.interleaved) answer.id }
      feeHandler surplusCapturingJitOrderOwners
    let solutions ← intoDomain (counter + answer.interleaved + 1) rest
    return solution :: solutions

def discardDuplicates {F : Type} (solutions : List (Solution F)) : List (Solution F) :=
  retainNew (·.id) [] solutions

/-- How far the id counter moves. -/
def handedOut {F : Type} (answers : List (Answer F)) : Nat :=
  (answers.map fun answer => answer.interleaved + 1).sum

variable {feeHandler surplusCapturingJitOrderOwners}

theorem id_of_new {parts solution : Solution F}
    (built : Solution.new parts feeHandler surplusCapturingJitOrderOwners =
      .ok solution) : solution.id = parts.id := by
  simp only [Solution.new, bind_eq_ok_iff] at built
  obtain ⟨_, _, _, _, result⟩ := built
  split at result
  · simp only [pure_eq, ok.injEq] at result
    rw [← result]
  · obtain ⟨_, _, result⟩ := bind_eq_ok_iff.mp result
    simp only [pure_eq, ok.injEq] at result
    rw [← result]

variable {counter : Nat} {answers : List (Answer F)} {solutions : List (Solution F)}

theorem intoDomain_cons {answer : Answer F}
    (converted : intoDomain feeHandler surplusCapturingJitOrderOwners counter
      (answer :: answers) = .ok solutions) :
    ∃ solution rest, solutions = solution :: rest ∧
      solution.id = Id.new (counter + answer.interleaved) answer.id ∧
        intoDomain feeHandler surplusCapturingJitOrderOwners
          (counter + answer.interleaved + 1) answers = .ok rest := by
  simp only [intoDomain, bind_eq_ok_iff] at converted
  obtain ⟨solution, built, rest, later, result⟩ := converted
  simp only [pure_eq, ok.injEq] at result
  exact ⟨solution, rest, result.symm, id_of_new built, later⟩

section

variable (converted : intoDomain feeHandler surplusCapturingJitOrderOwners counter answers =
  .ok solutions)
include converted

theorem intoDomain_solutions :
    solutions.map (·.id.mergedSolutions) = answers.map fun answer => [answer.id] := by
  induction answers generalizing counter solutions with
  | nil =>
    obtain rfl : [] = solutions := by simpa [intoDomain] using converted
    rfl
  | cons answer answers ih =>
    obtain ⟨_, _, rfl, identified, later⟩ := intoDomain_cons converted
    rw [map_cons, ih later, identified]
    rfl

theorem intoDomain_counter : ∀ solution ∈ solutions, ∃ number, counter ≤ number ∧
      number < counter + handedOut answers ∧ solution.id.id = number % 2 ^ 64 := by
  induction answers generalizing counter solutions with
  | nil =>
    obtain rfl : [] = solutions := by simpa [intoDomain] using converted
    simp
  | cons answer answers ih =>
    obtain ⟨solution, _, rfl, identified, later⟩ := intoDomain_cons converted
    have total : handedOut (answer :: answers) = answer.interleaved + 1 + handedOut answers := rfl
    rw [forall_mem_cons]
    constructor
    · refine ⟨counter + answer.interleaved, by omega, by omega, ?_⟩
      rw [identified]
      rfl
    · intro other mem
      obtain ⟨number, _, _, same⟩ := ih later other mem
      exact ⟨number, by omega, by omega, same⟩

end

/-- As long as the counter does not come round, the driver's numbers differ. -/
theorem intoDomain_nodup (few : handedOut answers ≤ 2 ^ 64)
    (converted : intoDomain feeHandler surplusCapturingJitOrderOwners counter
      answers = .ok solutions) : (solutions.map (·.id)).Nodup := by
  induction answers generalizing counter solutions with
  | nil =>
    obtain rfl : [] = solutions := by simpa [intoDomain] using converted
    exact nodup_nil
  | cons answer answers ih =>
    obtain ⟨_, _, rfl, identified, later⟩ := intoDomain_cons converted
    have total : handedOut (answer :: answers) = answer.interleaved + 1 + handedOut answers := rfl
    rw [map_cons, nodup_cons]
    refine ⟨fun again => ?_, ih (by omega) later⟩
    obtain ⟨other, mem, sameId⟩ := mem_map.mp again
    obtain ⟨number, _, _, isNumber⟩ := intoDomain_counter later other mem
    have sameNumber : number % 2 ^ 64 = (counter + answer.interleaved) % 2 ^ 64 := by
      rw [← isNumber, sameId, identified]
      rfl
    omega

theorem discardDuplicates_unique_iff (few : handedOut answers ≤ 2 ^ 64)
    (converted : intoDomain feeHandler surplusCapturingJitOrderOwners counter
      answers = .ok solutions) :
    (((discardDuplicates solutions).map (·.id.mergedSolutions)).Nodup ∧
        ∀ before solution after, solutions = before ++ solution :: after →
          (∀ earlier ∈ before, earlier.id.mergedSolutions ≠ solution.id.mergedSolutions) →
          solution ∈ discardDuplicates solutions) ↔
      (answers.map (·.id)).Nodup := by
  have unchanged : discardDuplicates solutions = solutions :=
    retainNew_of_nodup _ (intoDomain_nodup few converted) (by simp)
  have wrapped : (answers.map fun answer => [answer.id]) =
      (answers.map (·.id)).map fun id => [id] := by
    rw [map_map]
    rfl
  rw [unchanged, intoDomain_solutions converted, wrapped, and_iff_left]
  · apply nodup_map_iff
    intro _ _ same
    simpa using same
  · rintro before solution after rfl _
    simp

end

def answering (id : Nat) (trade : Fulfillment ℚ) : Answer ℚ :=
  ⟨id, trading trade [(1, 1), (2, 1)], 0⟩

theorem discardDuplicates_unique_iff_twoIds :
    let answers := [answering 1 (soldOut 1 ⟨10, 1⟩ ⟨10, 2⟩),
      answering 2 (soldOut 2 ⟨10, 1⟩ ⟨10, 2⟩)]
    ∃ solutions, intoDomain .driver (fun _ => false) 5 answers = .ok solutions ∧
      ((discardDuplicates solutions).map (·.id.mergedSolutions)).Nodup := by
  intro answers
  have converted : intoDomain .driver (fun _ => false) 5 answers =
      .ok [{ trading (soldOut 1 ⟨10, 1⟩ ⟨10, 2⟩) [(1, 1), (2, 1)] with
          id := ⟨5, [1]⟩ },
        { trading (soldOut 2 ⟨10, 1⟩ ⟨10, 2⟩) [(1, 1), (2, 1)] with
          id := ⟨6, [2]⟩ }] := by decide +kernel
  exact ⟨_, converted, ((discardDuplicates_unique_iff (by decide) converted).mpr (by decide)).1⟩

/-- Two solutions with the same id of the solver both stay. -/
theorem discardDuplicates_sameId :
    let answers := [answering 1 (soldOut 1 ⟨10, 1⟩ ⟨10, 2⟩),
      answering 1 (soldOut 2 ⟨10, 1⟩ ⟨10, 2⟩)]
    ∃ solutions, intoDomain .driver (fun _ => false) 5 answers = .ok solutions ∧
      (discardDuplicates solutions).map (·.id.mergedSolutions) = [[1], [1]] := by
  intro answers
  refine ⟨[{ trading (soldOut 1 ⟨10, 1⟩ ⟨10, 2⟩) [(1, 1), (2, 1)] with
      id := ⟨5, [1]⟩ },
    { trading (soldOut 2 ⟨10, 1⟩ ⟨10, 2⟩) [(1, 1), (2, 1)] with
      id := ⟨6, [1]⟩ }], by decide +kernel, by decide +kernel⟩

end Solution

end MandateSolver.Driver
