import MandateSolver.Eth

/-!
# Liquidity of a snapshot

The five kinds of liquidity with the invariants their constructors enforce.  Reserves are
sorted by token.
-/

namespace MandateSolver

open Outcome List

namespace Liquidity

/-! ## Reserves sorted by token -/

section

variable {ρ : Type} {asset : ρ → Asset} {α : Type}

/-- Reserves of distinct tokens, sorted. -/
structure Reserves (ρ : Type) (asset : ρ → Asset) where
  entries : List ρ
  sorted : entries.Pairwise (fun left right => (asset left).token < (asset right).token)

def combinations {α : Type} : List α → List (α × α)
  | [] => []
  | head :: tail => tail.map (head, ·) ++ combinations tail

theorem mem_combinations_of_pairwise {relation : α → α → Prop}
    {items : List α} (related : items.Pairwise relation)
    {pair : α × α} (mem : pair ∈ combinations items) :
    relation pair.1 pair.2 ∧ pair.1 ∈ items ∧ pair.2 ∈ items := by
  induction related with
  | nil => simp [combinations] at mem
  | @cons head tail headRelated _ ih =>
    simp only [combinations, mem_append, mem_map] at mem
    rcases mem with ⟨later, laterMember, rfl⟩ | mem
    · exact ⟨headRelated later laterMember, by simp, by simp [laterMember]⟩
    · obtain ⟨holds, first, second⟩ := ih mem
      exact ⟨holds, by simp [first], by simp [second]⟩

theorem mem_combinations_or {items : List α} {left right : α}
    (leftMember : left ∈ items) (rightMember : right ∈ items) (distinct : left ≠ right) :
    (left, right) ∈ combinations items ∨ (right, left) ∈ combinations items := by
  induction items with
  | nil => simp at leftMember
  | cons head tail ih =>
    simp only [combinations, mem_append, mem_map, Prod.mk.injEq]
    rcases mem_cons.mp leftMember with rfl | leftLater
    · rcases mem_cons.mp rightMember with rfl | rightLater
      · exact absurd rfl distinct
      · exact Or.inl (Or.inl ⟨right, rightLater, rfl, rfl⟩)
    · rcases mem_cons.mp rightMember with rfl | rightLater
      · exact Or.inr (Or.inl ⟨left, leftLater, rfl, rfl⟩)
      · rcases ih leftLater rightLater with forward | backward
        · exact Or.inl (Or.inr forward)
        · exact Or.inr (Or.inr backward)

def hasDuplicates (asset : ρ → Asset) : List ρ → Bool
  | first :: second :: rest =>
    (asset first).token == (asset second).token || hasDuplicates asset (second :: rest)
  | _ => false

theorem sorted_of_not_hasDuplicates {reserves : List ρ} (sorted : reserves.Pairwise
      (fun left right => (asset left).token ≤ (asset right).token))
    (distinct : hasDuplicates asset reserves = false) :
    reserves.Pairwise (fun left right => (asset left).token < (asset right).token) := by
  induction reserves with
  | nil => exact .nil
  | cons first rest ih =>
    obtain ⟨firstLe, restSorted⟩ := pairwise_cons.mp sorted
    cases rest with
    | nil => simp
    | cons second rest =>
      simp only [hasDuplicates, Bool.or_eq_false_iff, beq_eq_false_iff_ne] at distinct
      have restStrict := ih restSorted distinct.2
      have secondLt := lt_of_le_of_ne (firstLe second (by simp)) distinct.1
      refine pairwise_cons.mpr ⟨?_, restStrict⟩
      intro later mem
      rcases mem_cons.mp mem with rfl | mem
      · exact secondLt
      · exact secondLt.trans ((pairwise_cons.mp restStrict).1 later mem)

namespace Reserves

/-- Sorts the reserves; refuses two reserves of one token. -/
def new (reserves : List ρ) : Option (Reserves ρ asset) :=
  let sorted := reserves.insertionSort
    (fun left right => (asset left).token ≤ (asset right).token)
  if duplicates : hasDuplicates asset sorted = true then none
  else some ⟨sorted, sorted_of_not_hasDuplicates
    (List.pairwise_insertionSort _ reserves) (by simpa using duplicates)⟩

def tokenPairs {ε : Type} (reserves : Reserves ρ asset) : Outcome ε (List TokenPair) :=
  (combinations reserves.entries).mapM (fun entries =>
    expect "a != b" (TokenPair.new (asset entries.1).token (asset entries.2).token))

theorem tokenPairs_spec ε (reserves : Reserves ρ asset) :
    ∃ pairs, (reserves.tokenPairs : Outcome ε (List TokenPair)) = .ok pairs ∧
      ∀ pair, pair ∈ pairs ↔ ∃ left ∈ reserves.entries, ∃ right ∈ reserves.entries,
          TokenPair.new (asset left).token (asset right).token = some pair := by
  have each : ∀ entries ∈ combinations reserves.entries, Returns (expect "a != b"
        (TokenPair.new (asset entries.1).token (asset entries.2).token) :
          Outcome ε TokenPair) (fun _ => True) := by
    intro entries mem
    obtain ⟨ordered, -, -⟩ := mem_combinations_of_pairwise reserves.sorted mem
    simp only [TokenPair.new, dif_pos ordered]
    exact .ok trivial
  obtain ⟨pairs, success, -⟩ := Returns.mapM each
  refine ⟨pairs, success, fun pair => ?_⟩
  rw [mem_iff_of_mapM_eq_ok success]
  constructor
  · rintro ⟨entries, mem, built⟩
    obtain ⟨-, left, right⟩ := mem_combinations_of_pairwise reserves.sorted mem
    exact ⟨entries.1, left, entries.2, right, expect_eq_ok_iff.mp built⟩
  · rintro ⟨left, leftMember, right, rightMember, built⟩
    have distinct : left ≠ right := by
      rintro rfl
      rw [TokenPair.new_eq_none_iff.mpr rfl] at built
      cases built
    rcases mem_combinations_or leftMember rightMember distinct with forward | backward
    · exact ⟨_, forward, expect_eq_ok_iff.mpr built⟩
    · rw [TokenPair.new_comm] at built
      exact ⟨_, backward, expect_eq_ok_iff.mpr built⟩

end Reserves

end

/-! ## The kinds of liquidity -/

/-- A factor that is not zero. -/
structure ScalingFactor where
  value : Rational
  numer_ne_zero : value.numer ≠ 0

namespace ScalingFactor

def new (value : Rational) : Option ScalingFactor :=
  if nonzero : value.numer ≠ 0 ∧ value.denom ≠ 0 then some ⟨value, nonzero.1⟩
  else none

def get (factor : ScalingFactor) : Rational := factor.value

end ScalingFactor

namespace ConstantProduct

def maxReserve : U256 := BitVec.ofNat 256 (2 ^ 112 - 1)

/-- Two reserves of different tokens, the lower token first, each within the
range of a 112-bit integer. -/
structure Reserves where
  (first second : Asset)
  ordered : first.token < second.token
  first_le : first.amount ≤ maxReserve
  second_le : second.amount ≤ maxReserve

def Reserves.new (a b : Asset) : Option Reserves :=
  if bounded : a.amount ≤ maxReserve ∧ b.amount ≤ maxReserve then
    if ascending : a.token < b.token then
      some ⟨a, b, ascending, bounded.1, bounded.2⟩
    else if descending : b.token < a.token then
      some ⟨b, a, descending, bounded.2, bounded.1⟩
    else none
  else none

structure Pool where
  reserves : Reserves
  fee : Rational

end ConstantProduct

namespace WeightedProduct

structure Reserve where
  asset : Asset
  weight : Rational
  scale : ScalingFactor

inductive Version where
  | v0
  | v3Plus

structure Pool where
  reserves : Reserves Reserve Reserve.asset
  fee : Rational
  version : Version

end WeightedProduct

namespace Stable

structure Reserve where
  asset : Asset
  scale : ScalingFactor

structure Pool where
  reserves : Reserves Reserve Reserve.asset
  (amplificationParameter fee : Rational)

end Stable

namespace Concentrated

/-- The fee is counted in hundredths of a basis point. -/
structure Pool where
  tokens : TokenPair
  fee : U32

end Concentrated

/-- A foreign limit order; its fee takes no part in routing. -/
structure LimitOrder where
  (maker taker : Asset)
  fee : U256

/-- The kinds of liquidity. -/
inductive State where
  | constantProduct (pool : ConstantProduct.Pool)
  | weightedProduct (pool : WeightedProduct.Pool)
  | stable (pool : Stable.Pool)
  | concentrated (pool : Concentrated.Pool)
  | limitOrder (order : LimitOrder)

end Liquidity

/-- Liquidity with its address. -/
structure Liquidity where
  id : String
  address : Address
  router : Option Address
  state : Liquidity.State

namespace Liquidity

def isVenue (liquidity : Liquidity) (venues : List Address) : Bool :=
  decide (liquidity.address ∈ venues) ||
    liquidity.router.any (fun router => decide (router ∈ venues))

end Liquidity

end MandateSolver
