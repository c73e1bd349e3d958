import Mathlib.Data.Prod.Lex
import MandateSolver.Driver.Encoding

/-!
# Approvals

The interactions of a solution spend tokens of the settlement contract.  What they need
is added up for every token and spender, and approved where the contract does not allow
it yet.
-/

namespace MandateSolver.Driver

open List

open Encoding (Internalization skips)

/-- Indexed liquidity, as far as it says who takes the tokens. -/
inductive LiquidityKind where
  | uniswapV2 (router : Address)
  | uniswapV3 (router : Address)
  | balancerV2Stable (vault : Address)
  | balancerV2Weighted (vault : Address)
  | swapr (baseRouter : Address)
  | zeroEx (exchange : Address)

def LiquidityKind.spender : LiquidityKind → Address
  | .uniswapV2 router | .uniswapV3 router | .swapr router => router
  | .balancerV2Stable vault | .balancerV2Weighted vault => vault
  | .zeroEx exchange => exchange

/-- Indexed liquidity is allowed to take any amount. -/
def Interaction.allowances (kindOf : Nat → LiquidityKind) : Interaction → List Allowance
  | .custom _ _ _ allowances _ _ _ => allowances
  | .liquidity liquidityId input _ _ =>
    [⟨input.token, (kindOf liquidityId).spender, U256.max⟩]

namespace Allowance

def key (allowance : Allowance) : TokenAddress × Address :=
  (allowance.token, allowance.spender)

/-- The approval still missing. -/
def approval (required existing : Allowance) : Option Allowance :=
  if required.spender ≠ existing.spender ∨ required.amount ≤ existing.amount then none
  else some required

/-- By token, then by spender, then by amount. -/
abbrev Before (left right : Allowance) : Prop :=
  toLex (left.token, toLex (left.spender, left.amount)) ≤
    toLex (right.token, toLex (right.spender, right.amount))

abbrev Amounts := EntryMap (TokenAddress × Address) U256

def addTo (amounts : Amounts) (allowance : Allowance) : Amounts :=
  amounts.insert allowance.key (((amounts.get allowance.key).getD 0).saturatingAdd allowance.amount)

end Allowance

namespace Solution

variable {F ε : Type} (kindOf : Nat → LiquidityKind) (solution : Solution F)
  (internalization : Internalization)

def normalized : Allowance.Amounts :=
  (solution.interactions.flatMap fun interaction =>
    if skips internalization interaction then [] else interaction.allowances kindOf).foldl
      Allowance.addTo ⟨[], List.nodup_nil⟩

def allowances : List Allowance :=
  ((solution.normalized kindOf internalization).entries.map fun ((token, spender), amount) =>
    (⟨token, spender, amount⟩ : Allowance)).insertionSort Allowance.Before

def approvals (allowance : TokenAddress → Address → Outcome ε U256) :
    Outcome ε (List Allowance) := do
  let allowances ← (solution.allowances kindOf internalization).mapM fun required => do
    let amount ← allowance required.token required.spender
    return (required, (⟨required.token, required.spender, amount⟩ : Allowance))
  return allowances.filterMap fun (required, existing) => required.approval existing

/-! ## What is needed -/

/-- The interactions that are not internalized. -/
def executed : List Interaction :=
  solution.interactions.filter (!skips internalization ·)

/-- What a spender pulls in total. -/
def needed (key : TokenAddress × Address) : U256 :=
  U256.saturatingSum ((((solution.executed internalization).flatMap
    (·.allowances kindOf)).filter (·.key = key)).map (·.amount))

end Solution

/-- The allowances after an approval. -/
def Allowance.grant (full : Allowance → Bool) (table : TokenAddress × Address → U256)
    (approval : Allowance) : TokenAddress × Address → U256 :=
  fun key => if key = approval.key then
    if full approval then U256.max else approval.amount
  else table key

theorem Allowance.get_foldl_addTo (required : List Allowance) (amounts : Amounts)
    (key : TokenAddress × Address) :
    ((required.foldl addTo amounts).get key).getD 0 =
      ((required.filter (·.key = key)).map (·.amount)).foldl U256.saturatingAdd
        ((amounts.get key).getD 0) := by
  induction required generalizing amounts with
  | nil => rfl
  | cons allowance required ih =>
    rw [foldl_cons, ih]
    by_cases same : allowance.key = key
    · subst same
      simp [addTo]
    · simp [addTo, same, EntryMap.get_insert_of_ne (Ne.symm same)]

/-- Approvals that are large enough bring the allowance up to a bound, and none of them
takes it below. -/
theorem Allowance.le_foldl_grant {full : Allowance → Bool} {approvals : List Allowance}
    {table : TokenAddress × Address → U256} {key : TokenAddress × Address} {bound : U256}
    (enough : ∀ approval ∈ approvals, approval.key = key → bound ≤ approval.amount)
    (reached : bound ≤ table key ∨ ∃ approval ∈ approvals, approval.key = key) :
    bound ≤ approvals.foldl (grant full) table key := by
  induction approvals generalizing table with
  | nil => simpa using reached
  | cons approval approvals ih =>
    obtain ⟨first, later⟩ := forall_mem_cons.mp enough
    apply ih later
    by_cases same : approval.key = key
    · left
      rw [grant, if_pos same.symm]
      split
      · exact Nat.le_of_lt_succ (by simpa [U256.max] using bound.isLt)
      · exact first same
    · rw [grant, if_neg (Ne.symm same)]
      simpa [same] using reached

namespace Solution

variable {F ε : Type} (kindOf : Nat → LiquidityKind) (solution : Solution F)
  (internalization : Internalization)

theorem normalized_eq : solution.normalized kindOf internalization =
    ((solution.executed internalization).flatMap (·.allowances kindOf)).foldl
      Allowance.addTo ⟨[], List.nodup_nil⟩ := by
  rw [normalized, executed]
  congr 1
  induction solution.interactions with
  | nil => rfl
  | cons interaction interactions ih =>
    cases skipped : skips internalization interaction <;> simp [skipped, ih]

theorem needed_eq (key : TokenAddress × Address) : solution.needed kindOf internalization key =
      ((solution.normalized kindOf internalization).get key).getD 0 := by
  rw [normalized_eq, Allowance.get_foldl_addTo]
  rfl

variable {kindOf solution internalization} in
theorem mem_allowances_iff {required : Allowance} :
    required ∈ solution.allowances kindOf internalization ↔
      (solution.normalized kindOf internalization).get required.key = some required.amount := by
  rw [allowances, mem_insertionSort, EntryMap.get_eq_some_iff, mem_map]
  constructor
  · rintro ⟨_, listed, rfl⟩
    exact listed
  · intro listed
    exact ⟨_, listed, rfl⟩

theorem nodup_allowances :
    ((solution.allowances kindOf internalization).map Allowance.key).Nodup := by
  rw [allowances, ((perm_insertionSort _ _).map Allowance.key).nodup_iff, map_map]
  exact (solution.normalized kindOf internalization).nodup_keys

theorem approvals_eq (existing : TokenAddress × Address → U256) :
    solution.approvals kindOf internalization
      (fun token spender => (.ok (existing (token, spender)) : Outcome ε U256)) =
      .ok ((solution.allowances kindOf internalization).filter fun required =>
        existing required.key < required.amount) := by
  have paired : ∀ required : List Allowance, (required.mapM fun required => do
      let amount ← (.ok (existing (required.token, required.spender)) : Outcome ε U256)
      return (required, (⟨required.token, required.spender, amount⟩ : Allowance))) =
    .ok (required.map fun required =>
      (required, ⟨required.token, required.spender, existing required.key⟩)) :=
    fun required => mapM_pure
  rw [approvals, paired, Outcome.ok_bind, filterMap_map]
  apply congrArg Outcome.ok
  rw [← filterMap_eq_filter]
  congr 1
  funext required
  simp only [Function.comp, Allowance.approval, ne_eq, not_true, false_or, Option.guard,
    decide_eq_true_eq, ← not_lt, ite_not]

/-- After the approvals every spender may take all that the executed interactions need,
and nothing is approved that the settlement contract already allows. -/
theorem approvals_sufficient (existing : TokenAddress × Address → U256) :
    ∃ approvals, solution.approvals kindOf internalization
        (fun token spender => (.ok (existing (token, spender)) : Outcome ε U256)) = .ok approvals ∧
      (∀ full key, solution.needed kindOf internalization key ≤
        approvals.foldl (Allowance.grant full) existing key) ∧
      (approvals.map Allowance.key).Nodup ∧
      (∀ approval ∈ approvals, existing approval.key <
        solution.needed kindOf internalization approval.key) ∧
      (internalization = .enable → solution.allowances kindOf internalization =
        { solution with interactions := solution.executed .enable }.allowances kindOf
          .disable) := by
  refine ⟨_, solution.approvals_eq kindOf internalization existing, ?_, ?_, ?_, ?_⟩
  · intro full key
    apply Allowance.le_foldl_grant
    · intro approval approved same
      have listed := mem_allowances_iff.mp (mem_filter.mp approved).1
      rw [needed_eq, ← same, listed]
      exact le_refl _
    · by_cases enough : solution.needed kindOf internalization key ≤ existing key
      · exact .inl enough
      · right
        have missing := not_le.mp enough
        rw [needed_eq] at missing
        cases found : (solution.normalized kindOf internalization).get key with
        | none =>
          rw [found] at missing
          exact absurd missing (Nat.not_lt_zero _)
        | some amount =>
          rw [found] at missing
          refine ⟨⟨key.1, key.2, amount⟩, mem_filter.mpr ⟨?_, decide_eq_true missing⟩, rfl⟩
          exact mem_allowances_iff.mpr found
  · exact (filter_sublist.map _).nodup (nodup_allowances kindOf solution internalization)
  · intro approval approved
    obtain ⟨listed, missing⟩ := mem_filter.mp approved
    rw [needed_eq, mem_allowances_iff.mp listed]
    exact of_decide_eq_true missing
  · rintro rfl
    have same : ({ solution with interactions := solution.executed .enable } :
        Solution F).executed .disable = solution.executed .enable :=
      filter_eq_self.mpr fun _ _ => rfl
    rw [allowances, allowances, normalized_eq, normalized_eq, same]

end Solution

end MandateSolver.Driver
