import Mathlib.Data.Finset.Max

/-!
# Searching a sequence of layers

A layer is a finite list of partial functions.  When every function is monotone on the values
that can arrive at it, and accepts those above one it accepts, always taking the largest
result dominates all other choices.
-/

namespace MandateSolver

variable {V : Type} [LinearOrder V] {layers : List (List (V → Option V))}

/-- Some choice of one function for each layer leads from one value to the other. -/
inductive Reaches : List (List (V → Option V)) → V → V → Prop where
  | nil (value : V) : Reaches [] value value
  | cons {layer : List (V → Option V)} {layers : List (List (V → Option V))}
      {edge : V → Option V} {start next finish : V} :
      edge ∈ layer → edge start = some next →
      Reaches layers next finish →
      Reaches (layer :: layers) start finish

/-- The best result of one layer. -/
def IsBestStep (layer : List (V → Option V)) (start best : V) : Prop :=
  (∃ edge ∈ layer, edge start = some best) ∧
    ∀ edge ∈ layer, ∀ result, edge start = some result → result ≤ best

/-- Taking the largest result of each layer leads from one value to the other. -/
inductive GreedyReaches : List (List (V → Option V)) → V → V → Prop where
  | nil (value : V) : GreedyReaches [] value value
  | cons {layer : List (V → Option V)} {layers : List (List (V → Option V))}
      {start best finish : V} :
      IsBestStep layer start best →
      GreedyReaches layers best finish →
      GreedyReaches (layer :: layers) start finish

/-- Layers with the same results from everywhere. -/
def SameResults (layer other : List (V → Option V)) : Prop :=
  ∀ start result, (∃ edge ∈ layer, edge start = some result) ↔
    ∃ edge ∈ other, edge start = some result

/-- An edge that is defined on an upper set and monotone there. -/
def UpwardMonotone (edge : V → Option V) : Prop :=
  ∀ lower upper result, lower ≤ upper → edge lower = some result →
    ∃ larger, edge upper = some larger ∧ result ≤ larger

/-- Of the values that can arrive at a layer, none is refused by a function that accepts
a smaller one, or gets less. -/
def UpwardFrom : List (List (V → Option V)) → List V → Prop
  | [], _ => True
  | layer :: layers, arriving =>
    (∀ edge ∈ layer, ∀ lower ∈ arriving, ∀ upper ∈ arriving, lower ≤ upper →
      ∀ result ∈ edge lower, ∃ larger ∈ edge upper, result ≤ larger) ∧
    UpwardFrom layers (arriving.flatMap fun start => layer.filterMap (· start))

instance UpwardFrom.decidable : (layers : List (List (V → Option V))) → (arriving : List V) →
    Decidable (UpwardFrom layers arriving)
  | [], _ => isTrue trivial
  | _ :: layers, _ => @instDecidableAnd _ _ _ (UpwardFrom.decidable layers _)

theorem upwardFrom_of_monotone
    (upward : ∀ layer ∈ layers, ∀ edge ∈ layer, UpwardMonotone edge) (arriving : List V) :
    UpwardFrom layers arriving := by
  induction layers generalizing arriving with
  | nil => trivial
  | cons layer layers ih =>
    obtain ⟨here, later⟩ := List.forall_mem_cons.mp upward
    refine ⟨?_, ih later _⟩
    intro edge mem lower _ upper _ le result defined
    exact here edge mem lower upper result le defined

variable {layer : List (V → Option V)} {start : V}

theorem IsBestStep.unique {left right : V} (leftBest : IsBestStep layer start left)
    (rightBest : IsBestStep layer start right) : left = right := by
  obtain ⟨⟨leftEdge, leftMember, leftValue⟩, leftBound⟩ := leftBest
  obtain ⟨⟨rightEdge, rightMember, rightValue⟩, rightBound⟩ := rightBest
  exact le_antisymm (rightBound leftEdge leftMember left leftValue)
    (leftBound rightEdge rightMember right rightValue)

theorem IsBestStep.exists_of_defined {edge : V → Option V} {result : V}
    (mem : edge ∈ layer) (defined : edge start = some result) :
    ∃ best, IsBestStep layer start best := by
  let results := (layer.filterMap fun edge => edge start).toFinset
  have resultMember : result ∈ results := by
    simp only [results, List.mem_toFinset, List.mem_filterMap]
    exact ⟨edge, mem, defined⟩
  obtain ⟨best, bestMember, bound⟩ := results.exists_max_image id ⟨result, resultMember⟩
  simp only [results, List.mem_toFinset, List.mem_filterMap] at bestMember bound
  exact ⟨best, bestMember, fun other otherMem value otherDefined =>
    bound value ⟨other, otherMem, otherDefined⟩⟩

theorem SameResults.isBestStep_iff {other : List (V → Option V)}
    (same : SameResults layer other) {best : V} :
    IsBestStep layer start best ↔ IsBestStep other start best := by
  have bounds : ∀ items : List (V → Option V),
      (∀ edge ∈ items, ∀ result, edge start = some result → result ≤ best) ↔
        ∀ result, (∃ edge ∈ items, edge start = some result) → result ≤ best := by
    intro items
    constructor
    · intro bound result offered
      obtain ⟨edge, mem, defined⟩ := offered
      exact bound edge mem result defined
    · intro bound edge mem result defined
      exact bound result ⟨edge, mem, defined⟩
  simp only [IsBestStep, bounds, same start]

theorem greedyReaches_congr {others : List (List (V → Option V))}
    (same : List.Forall₂ SameResults layers others) {finish : V} :
    GreedyReaches layers start finish ↔ GreedyReaches others start finish := by
  induction same generalizing start with
  | nil =>
    constructor
    all_goals
      intro greedy
      cases greedy
      exact .nil _
  | cons sameLayer _ ih =>
    constructor
    · intro greedy
      cases greedy with
      | cons step later =>
        exact .cons (sameLayer.isBestStep_iff.mp step) (ih.mp later)
    · intro greedy
      cases greedy with
      | cons step later =>
        exact .cons (sameLayer.isBestStep_iff.mpr step) (ih.mpr later)

/-- Exchange argument: every choice of functions is dominated by the greedy
one, even when the greedy search starts from a larger value. -/
theorem Reaches.le_greedy {arriving : List V}
    (upward : UpwardFrom layers arriving) {finish larger : V}
    (reached : Reaches layers start finish) (arrives : start ∈ arriving)
    (largerArrives : larger ∈ arriving) (above : start ≤ larger) :
    ∃ best, GreedyReaches layers larger best ∧ finish ≤ best := by
  induction reached generalizing larger arriving with
  | nil value => exact ⟨larger, .nil larger, above⟩
  | @cons layer layers edge start next finish mem defined _ ih =>
    obtain ⟨shifted, shiftedDefined, nextLe⟩ :=
      upward.1 edge mem start arrives larger largerArrives above next defined
    obtain ⟨best, step⟩ := IsBestStep.exists_of_defined mem shiftedDefined
    have nextLeBest := nextLe.trans (step.2 edge mem shifted shiftedDefined)
    have arrivesAfter {value result : V} (arrives : value ∈ arriving)
        (offered : ∃ edge ∈ layer, edge value = some result) :
        result ∈ arriving.flatMap fun start => layer.filterMap (· start) :=
      List.mem_flatMap.mpr ⟨value, arrives, List.mem_filterMap.mpr offered⟩
    obtain ⟨final, greedy, finishLe⟩ := ih upward.2 (arrivesAfter arrives ⟨edge, mem, defined⟩)
      (arrivesAfter largerArrives step.1) nextLeBest
    exact ⟨final, .cons step greedy, finishLe⟩

end MandateSolver
