import MandateSolver.Driver.Solution

/-!
# Merging solutions

Solutions can be merged when one factor takes the prices of the second to those of the first
for all common tokens.  A factor below one swaps the arguments, and a ratio to zero aborts.
-/

namespace MandateSolver.Driver

open List Option EntryMap

open Outcome hiding none

open WinnerSelection (OrderUid)

inductive MergeError where
  | incompatible (part : String)
  | duplicateTrade
  | incongruentPrices
  | moreOrdersThanAllowed
  | math (message : String)
  deriving DecidableEq

/-! ## Factors between price vectors -/

/-- A ratio of big integers, which aborts on a zero denominator. -/
def bigRational {ε : Type} (numer denom : U256) : Outcome ε ℚ :=
  if denom = 0 then .panic (.explicit "denominator == 0")
  else .ok (numer.toNat / denom.toNat)

def bigRationalToU256 (ratio : ℚ) : Outcome String U256 :=
  let quotient := ratio.num.tdiv ratio.den
  if quotient < 0 then .err "negative"
  else if quotient.toNat < 2 ^ 256 then .ok (BitVec.ofNat 256 quotient.toNat)
  else .err "too large"

def commonPrices (first second : Prices) : List (U256 × U256) :=
  first.entries.filterMap fun (token, price) =>
    (second.get token).map fun other => (price, other)

/-- The only element of a set of factors.  Any factor is fine for no tokens. -/
def uniqueFactor (factors : List ℚ) : Option ℚ :=
  match factors.dedup with
  | [] => some 1
  | [factor] => some factor
  | _ => none

def scalingFactor {ε : Type} (first second : Prices) : Outcome ε (Option ℚ) := do
  let factors ← (commonPrices first second).mapM
    fun prices => bigRational prices.1 prices.2
  return uniqueFactor factors

def scaleInto (factor : ℚ) (prices : Prices) (entry : TokenAddress × U256) :
    Outcome MergeError Prices := do
  let scaled ←
    (bigRationalToU256 (entry.2.toNat * factor)).mapError .math
  match prices.get entry.1 with
  | some price =>
    if price ≠ scaled then .err .incongruentPrices else .ok prices
  | none => .ok (prices.insert entry.1 scaled)

/-- The prices of both solutions.  No result means that the first solution is
the one that has to be scaled up. -/
def mergePrices (first second : Prices) : Outcome MergeError (Option Prices) := do
  let factor ← scalingFactor first second
  let factor ← .okOr .incongruentPrices factor
  if factor < 1 then return none
  else
    let prices ← second.entries.foldlM (scaleInto factor) first
    return some prices

/-! ## Merging -/

def Id.newMerged (counter : Nat) (first second : Id) : Id :=
  ⟨counter, first.mergedSolutions ++ second.mergedSolutions⟩

namespace Solution

section

variable {F : Type}

def userUids (solution : Solution F) : List OrderUid :=
  solution.userTrades.map (·.order.uid)

def mergedGas : Option U256 → Option U256 → Option U256
  | some gas, some other => some (gas + other)
  | some gas, none => some gas
  | none, gas => gas

def mergedWith (counter : Nat) (self other : Solution F) (prices : Prices) : Solution F where
  id := Id.newMerged counter self.id other.id
  trades := self.trades ++ other.trades
  prices := prices
  preInteractions := self.preInteractions ++ other.preInteractions
  interactions := self.interactions ++ other.interactions
  postInteractions := self.postInteractions ++ other.postInteractions
  solver := self.solver
  weth := self.weth
  gas := mergedGas self.gas other.gas
  flashloans := self.flashloans.extend other.flashloans
  wrappers := self.wrappers

/-- One call.  No result means that it goes on with swapped arguments. -/
def mergeCall (counter : Nat) (self other : Solution F) (maxOrdersPerMergedSolution : Nat) :
    Outcome MergeError (Option (Solution F)) := do
  .rejectIf (self.solver ≠ other.solver) (.incompatible "Solvers")
  .rejectIf (maxOrdersPerMergedSolution <
    self.trades.length + other.trades.length) .moreOrdersThanAllowed
  .rejectIf (∃ uid ∈ self.userUids, uid ∈ other.userUids) .duplicateTrade
  let prices ← mergePrices self.prices other.prices
  return prices.map (mergedWith counter self other)

def mergeWithin (counter : Nat) : Nat → Solution F → Solution F → Nat →
    Option (Outcome MergeError (Solution F))
  | 0, _, _, _ => none
  | calls + 1, self, other, maxOrdersPerMergedSolution =>
    match mergeCall counter self other maxOrdersPerMergedSolution with
    | .ok (some merged) => some (.ok merged)
    | .ok none =>
      mergeWithin counter calls other self maxOrdersPerMergedSolution
    | .err error => some (.err error)
    | .panic reason => some (.panic reason)

def merge (counter : Nat) (self other : Solution F) (maxOrdersPerMergedSolution : Nat) :
    Option (Outcome MergeError (Solution F)) :=
  mergeWithin counter 2 self other maxOrdersPerMergedSolution

end

end Solution

/-! ## What a factor is -/

/-- The second prices times the factor are the first ones. -/
structure IsFactor (first second : Prices) (factor : ℚ) : Prop where
  common : ∀ prices ∈ commonPrices first second,
    prices.2 ≠ 0 ∧ (prices.1.toNat : ℚ) = prices.2.toNat * factor
  apart : commonPrices first second = [] → factor = 1

section

variable {first second : Prices} {factor : ℚ} {ε : Type}

theorem mem_commonPrices {price other : U256} : (price, other) ∈ commonPrices first second ↔
      ∃ token, first.get token = some price ∧ second.get token = some other := by
  simp only [commonPrices, mem_filterMap, Prod.exists, map_eq_some_iff, Prod.mk.injEq]
  constructor
  · rintro ⟨token, _, mem, _, found, rfl, rfl⟩
    exact ⟨token, get_eq_some_iff.mpr mem, found⟩
  · rintro ⟨token, mem, found⟩
    exact ⟨token, price, get_eq_some_iff.mp mem, other, found, rfl, rfl⟩

theorem mem_commonPrices_swap {price other : U256} : (price, other) ∈ commonPrices first second ↔
      (other, price) ∈ commonPrices second first := by
  simp only [mem_commonPrices, and_comm]

theorem commonPrices_eq_nil_comm :
    commonPrices first second = [] ↔ commonPrices second first = [] := by
  simp only [eq_nil_iff_forall_not_mem, Prod.forall]
  constructor
  · intro empty other price mem
    exact empty price other (mem_commonPrices_swap.mpr mem)
  · intro empty price other mem
    exact empty other price (mem_commonPrices_swap.mp mem)

theorem toNat_cast_pos {value : U256} (nonzero : value ≠ 0) : (0 : ℚ) < value.toNat :=
  Nat.cast_pos.mpr (BitVec.toNat_pos_of_ne_zero nonzero)

theorem bigRational_eq_ok_iff {numer denom : U256} :
    (bigRational numer denom : Outcome ε ℚ) = .ok factor ↔
      denom ≠ 0 ∧ numer.toNat = denom.toNat * factor := by
  unfold bigRational
  split
  · rename_i zero
    simp [zero]
  · rename_i nonzero
    have positive := (toNat_cast_pos nonzero).ne'
    simp only [ok.injEq, ne_eq, nonzero, not_false_eq_true, true_and]
    rw [div_eq_iff positive, mul_comm]

theorem uniqueFactor_eq_some_iff {factors : List ℚ} : uniqueFactor factors = some factor ↔
      (∀ other ∈ factors, other = factor) ∧ (factors = [] → factor = 1) := by
  unfold uniqueFactor
  have distinct := nodup_dedup factors
  simp only [← mem_dedup (l := factors), ← dedup_eq_nil factors]
  split
  · rename_i empty
    simp [empty, eq_comm]
  · rename_i only single
    simp [single]
  · rename_i notEmpty notSingle
    constructor
    · simp
    · rintro ⟨same, _⟩
      cases shape : factors.dedup with
      | nil => exact absurd shape notEmpty
      | cons head tail =>
        rw [shape] at same distinct notSingle
        cases tail with
        | nil => exact absurd rfl (notSingle head)
        | cons next rest =>
          have repeated := (same head (by simp)).trans (same next (by simp)).symm
          simp [repeated] at distinct

theorem scalingFactor_eq_ok_some_iff :
    (scalingFactor first second : Outcome ε (Option ℚ)) = .ok (some factor) ↔
      IsFactor first second factor := by
  unfold scalingFactor
  simp only [bind_eq_ok_iff, pure_eq, ok.injEq, uniqueFactor_eq_some_iff]
  constructor
  · rintro ⟨_, mapped, same, ofNone⟩
    refine ⟨fun prices mem => ?_, fun none => ofNone ?_⟩
    · obtain ⟨other, otherMem, ratio⟩ := exists_mem_of_mapM_eq_ok mapped mem
      rw [same other otherMem] at ratio
      exact bigRational_eq_ok_iff.mp ratio
    · rw [none, mapM_nil, pure_eq, ok.injEq] at mapped
      exact mapped.symm
  · intro isFactor
    refine ⟨(commonPrices first second).map fun _ => factor, ?_, ?_, ?_⟩
    · rw [mapM_eq_ok_iff, forall₂_map_right_iff, forall₂_same]
      intro prices mem
      exact bigRational_eq_ok_iff.mpr (isFactor.common prices mem)
    · intro other mem
      obtain ⟨_, _, same⟩ := mem_map.mp mem
      exact same.symm
    · intro none
      exact isFactor.apart (map_eq_nil_iff.mp none)

theorem noPanic_scalingFactor_iff :
    (scalingFactor first second : Outcome ε (Option ℚ)).NoPanic ↔
      ∀ prices ∈ commonPrices first second, prices.2 ≠ 0 := by
  unfold scalingFactor
  simp only [pure_eq, noPanic_bind_ok_iff]
  generalize commonPrices first second = common
  constructor
  · intro safe
    induction common with
    | nil => simp
    | cons prices common ih =>
      rw [mapM_cons] at safe
      by_cases zero : prices.2 = 0
      · simp [bigRational, zero] at safe
      · rw [forall_mem_cons]
        refine ⟨zero, ih ?_⟩
        simp only [bigRational, zero, if_false] at safe
        exact noPanic_bind_ok_iff.mp safe
  · intro nonzero
    apply NoPanic.mapM
    intro prices mem
    rw [bigRational, if_neg (nonzero prices mem)]
    exact noPanic_ok _

namespace IsFactor

section

variable (isFactor : IsFactor first second factor)
include isFactor

theorem nonneg : 0 ≤ factor := by
  cases shape : commonPrices first second with
  | nil => simp [isFactor.apart shape]
  | cons prices rest =>
    obtain ⟨nonzero, scaled⟩ := isFactor.common prices (by simp [shape])
    have product := scaled ▸ Nat.cast_nonneg _
    exact nonneg_of_mul_nonneg_right product (toNat_cast_pos nonzero)

theorem swap (nonzero : factor ≠ 0) : IsFactor second first factor⁻¹ := by
  refine ⟨?_, fun apart => ?_⟩
  · rintro ⟨other, price⟩ mem
    obtain ⟨otherNonzero, scaled⟩ := isFactor.common (price, other) (mem_commonPrices_swap.mpr mem)
    constructor
    · rintro rfl
      have product : other.toNat * factor = 0 := by simpa using scaled.symm
      rcases mul_eq_zero.mp product with zero | zero
      · exact (toNat_cast_pos otherNonzero).ne' zero
      · exact nonzero zero
    · rw [scaled, mul_inv_cancel_right₀ nonzero]
  · rw [isFactor.apart (commonPrices_eq_nil_comm.mpr apart), inv_one]

theorem lt_iff {prices : U256 × U256} (mem : prices ∈ commonPrices first second) :
    prices.1 < prices.2 ↔ factor < 1 := by
  obtain ⟨nonzero, scaled⟩ := isFactor.common prices mem
  rw [BitVec.lt_def, ← Nat.cast_lt (α := ℚ), scaled,
    mul_lt_iff_lt_one_right (toNat_cast_pos nonzero)]

theorem exists_common (changes : factor ≠ 1) : ∃ prices, prices ∈ commonPrices first second := by
  apply exists_mem_of_ne_nil
  intro apart
  exact changes (isFactor.apart apart)

theorem lt_one_iff : factor < 1 ↔ ∃ prices ∈ commonPrices first second, prices.1 < prices.2 := by
  constructor
  · intro less
    obtain ⟨prices, mem⟩ := isFactor.exists_common less.ne
    exact ⟨prices, mem, (isFactor.lt_iff mem).mpr less⟩
  · rintro ⟨prices, mem, less⟩
    exact (isFactor.lt_iff mem).mp less

/-- Only one of the two directions makes the prices shrink. -/
theorem one_le_swapped (less : factor < 1) {back : ℚ} (swapped : IsFactor second first back) :
    1 ≤ back := by
  obtain ⟨_, mem⟩ := isFactor.exists_common less.ne
  have smaller := (isFactor.lt_iff mem).mpr less
  by_contra notLess
  have larger := (swapped.lt_iff (mem_commonPrices_swap.mp mem)).mpr (not_le.mp notLess)
  exact lt_asymm smaller larger

end

end IsFactor

end

/-! ## Scaling the prices -/

def scaleUp (factor : ℚ) (price : U256) : U256 :=
  BitVec.ofNat 256 ⌊(price.toNat : ℚ) * factor⌋₊

/-- The scaled price is still a word. -/
def Scalable (factor : ℚ) (price : U256) : Prop :=
  ⌊(price.toNat : ℚ) * factor⌋₊ < 2 ^ 256

section

variable {factor : ℚ} {first second prices merged : Prices} {price : U256}
  {entries : List (TokenAddress × U256)} {token : TokenAddress}

theorem toNat_scaleUp (fits : Scalable factor price) :
    (scaleUp factor price).toNat = ⌊price.toNat * factor⌋₊ := by
  rw [scaleUp, BitVec.toNat_ofNat, Nat.mod_eq_of_lt fits]

section

variable (nonneg : 0 ≤ factor)
include nonneg

theorem bigRationalToU256_eq_ok_iff {scaled : U256} :
    bigRationalToU256 (price.toNat * factor) = .ok scaled ↔
      Scalable factor price ∧ scaled = scaleUp factor price := by
  have product : 0 ≤ price.toNat * factor := mul_nonneg (Nat.cast_nonneg _) nonneg
  unfold Scalable scaleUp
  generalize price.toNat * factor = ratio at product ⊢
  have quotient : ratio.num.tdiv ratio.den = ⌊ratio⌋ := by
    rw [Rat.floor_def', Int.tdiv_eq_ediv_of_nonneg (Rat.num_nonneg.mpr product)]
  have notNegative := not_lt.mpr (Int.floor_nonneg.mpr product)
  simp only [bigRationalToU256, quotient, notNegative, if_false, Int.floor_toNat]
  split
  · rename_i fits
    rw [ok.injEq, and_iff_right fits]
    exact eq_comm
  · rename_i tooLarge
    simp only [reduceCtorEq, tooLarge, false_and]

theorem scaleInto_eq_ok_iff :
    scaleInto factor prices (token, price) = .ok merged ↔ Scalable factor price ∧
        ((prices.get token = some (scaleUp factor price) ∧ merged = prices) ∨
          (prices.get token = none ∧ merged = prices.insert token (scaleUp factor price))) := by
  simp only [scaleInto, bind_eq_ok_iff, mapError_eq_ok_iff,
    bigRationalToU256_eq_ok_iff nonneg, and_assoc, exists_and_left]
  apply and_congr_right
  cases known : prices.get token with
  | none => simp [eq_comm]
  | some value =>
    by_cases same : value = scaleUp factor price <;> simp [same, eq_comm]

theorem get_of_scaleInto {entry : TokenAddress × U256}
    (scaled : scaleInto factor prices entry = .ok merged) (token : TokenAddress) :
    merged.get token = (prices.get token).or
      (if token = entry.1 then some (scaleUp factor entry.2) else none) := by
  obtain ⟨_, ⟨known, rfl⟩ | ⟨new, rfl⟩⟩ := (scaleInto_eq_ok_iff nonneg).mp scaled
  · by_cases same : token = entry.1
    · rw [same, known, some_or]
    · rw [if_neg same, or_none]
  · by_cases same : token = entry.1
    · rw [same, get_insert_self, new, if_pos rfl, none_or]
    · rw [get_insert_of_ne same, if_neg same, or_none]

theorem get_of_foldlM_scaleInto
    (scaled : entries.foldlM (scaleInto factor) prices = .ok merged) (token : TokenAddress) :
    merged.get token = (prices.get token).or ((entries.lookup token).map (scaleUp factor)) := by
  induction entries generalizing prices with
  | nil =>
    obtain rfl : prices = merged := by simpa using scaled
    simp
  | cons entry entries ih =>
    rw [foldlM_cons, bind_eq_ok_iff] at scaled
    obtain ⟨_, round, rest⟩ := scaled
    rw [ih rest, get_of_scaleInto nonneg round, Option.or_assoc, lookup_cons]
    by_cases same : token = entry.1
    · simp [same]
    · have ne : (token == entry.1) = false := by simpa using same
      rw [if_neg same, ne, none_or]

end

/-- A scaled price that contradicts none of the prices. -/
def Addable (factor : ℚ) (prices : Prices) (entry : TokenAddress × U256) : Prop :=
  Scalable factor entry.2 ∧
    ∀ known, prices.get entry.1 = some known → known = scaleUp factor entry.2

theorem scaleInto_returns_iff (nonneg : 0 ≤ factor) (prices : Prices)
    (entry : TokenAddress × U256) :
    (∃ next, scaleInto factor prices entry = .ok next) ↔ Addable factor prices entry := by
  simp only [scaleInto_eq_ok_iff nonneg]
  constructor
  · rintro ⟨next, fits, ⟨known, _⟩ | ⟨new, _⟩⟩
    · exact ⟨fits, fun value found => Option.some.inj (found.symm.trans known)⟩
    · exact ⟨fits, fun value found => by simp [new] at found⟩
  · rintro ⟨fits, agrees⟩
    cases known : prices.get entry.1 with
    | none => exact ⟨_, fits, Or.inr ⟨rfl, rfl⟩⟩
    | some value => exact ⟨_, fits, Or.inl ⟨by rw [agrees value known], rfl⟩⟩

/-- The loop is through with all prices exactly when they can be added to those
that are known before it. -/
theorem foldlM_scaleInto_returns_iff (nonneg : 0 ≤ factor)
    (distinct : (entries.map Prod.fst).Nodup) :
    (∃ merged, entries.foldlM (scaleInto factor) prices = .ok merged) ↔
      ∀ entry ∈ entries, Addable factor prices entry := by
  apply foldlM_returns_iff (scaleInto_returns_iff nonneg) ?_ (pairwise_map.mp distinct)
  intro _ entry _ _ round ne
  rw [Addable, get_of_scaleInto nonneg round, if_neg ne.symm, or_none, Addable]

section

variable (isFactor : IsFactor first second factor)
include isFactor

theorem IsFactor.scaleUp_eq
    {other : U256} (mem : (price, other) ∈ commonPrices first second) :
    Scalable factor other ∧ price = scaleUp factor other := by
  obtain ⟨_, scaled⟩ := isFactor.common _ mem
  have exactly : ⌊other.toNat * factor⌋₊ = price.toNat := by
    rw [← scaled, Nat.floor_natCast]
  have fits : Scalable factor other := by
    rw [Scalable, exactly]
    exact price.isLt
  exact ⟨fits, BitVec.eq_of_toNat_eq (by rw [toNat_scaleUp fits, exactly])⟩

/-- With one factor for all common tokens, only the size of the other prices
matters. -/
theorem IsFactor.returns_iff :
    (∃ merged, second.entries.foldlM (scaleInto factor) first = .ok merged) ↔
      ∀ token price, second.get token = some price → Scalable factor price := by
  rw [foldlM_scaleInto_returns_iff isFactor.nonneg second.nodup_keys]
  simp only [Prod.forall, ← get_eq_some_iff]
  constructor
  · intro fits token price found
    exact (fits token price found).1
  · intro fits token price found
    refine ⟨fits token price found, fun known knownFound => ?_⟩
    exact (isFactor.scaleUp_eq (mem_commonPrices.mpr ⟨token, knownFound, found⟩)).2

theorem IsFactor.get_of_get_second
    (scaled : second.entries.foldlM (scaleInto factor) first = .ok merged)
    (found : second.get token = some price) : merged.get token = some (scaleUp factor price) := by
  rw [get_of_foldlM_scaleInto isFactor.nonneg scaled]
  change (first.get token).or ((second.get token).map _) = _
  rw [found]
  cases known : first.get token with
  | none => rfl
  | some value =>
    rw [some_or, Option.some.injEq]
    exact (isFactor.scaleUp_eq (mem_commonPrices.mpr ⟨token, known, found⟩)).2

end

@[simp] theorem scaleUp_one (price : U256) : scaleUp 1 price = price := by
  rw [scaleUp, mul_one, Nat.floor_natCast, BitVec.ofNat_toNat, BitVec.setWidth_eq]

theorem scalable_one (price : U256) : Scalable 1 price := by
  rw [Scalable, mul_one]
  exact price.isLt

/-! ## Prices of both solutions -/

theorem mergePrices_eq_ok_none_iff : mergePrices first second = .ok none ↔
      ∃ factor, IsFactor first second factor ∧ factor < 1 := by
  simp only [mergePrices, bind_eq_ok_iff, okOr_eq_ok_iff,
    ← scalingFactor_eq_ok_some_iff (ε := MergeError)]
  constructor
  · rintro ⟨_, scaling, factor, rfl, result⟩
    refine ⟨factor, scaling, ?_⟩
    by_contra notLess
    rw [if_neg notLess, bind_eq_ok_iff] at result
    obtain ⟨_, _, impossible⟩ := result
    simp at impossible
  · rintro ⟨factor, scaling, less⟩
    exact ⟨some factor, scaling, factor, rfl, by rw [if_pos less, pure_eq]⟩

theorem mergePrices_eq_ok_some_iff : mergePrices first second = .ok (some merged) ↔
      ∃ factor, IsFactor first second factor ∧ 1 ≤ factor ∧
        second.entries.foldlM (scaleInto factor) first = .ok merged := by
  simp only [mergePrices, bind_eq_ok_iff, okOr_eq_ok_iff,
    ← scalingFactor_eq_ok_some_iff (ε := MergeError)]
  constructor
  · rintro ⟨_, scaling, factor, rfl, result⟩
    by_cases less : factor < 1
    · simp [less] at result
    · rw [if_neg less, bind_eq_ok_iff] at result
      obtain ⟨prices, scaled, same⟩ := result
      obtain rfl : prices = merged := by simpa using same
      exact ⟨factor, scaling, not_lt.mp less, scaled⟩
  · rintro ⟨factor, scaling, grows, scaled⟩
    refine ⟨some factor, scaling, factor, rfl, ?_⟩
    rw [if_neg (not_lt.mpr grows), scaled]
    rfl

theorem noPanic_scaleInto (entry : TokenAddress × U256) :
    (scaleInto factor prices entry).NoPanic := by
  apply NoPanic.seq
  · unfold bigRationalToU256
    dsimp only
    split
    · exact noPanic_err _
    · split
      · exact noPanic_ok _
      · exact noPanic_err _
  · intro _
    split
    · split
      · exact noPanic_err _
      · exact noPanic_ok _
    · exact noPanic_ok _

theorem noPanic_mergePrices_iff : (mergePrices first second).NoPanic ↔
      ∀ prices ∈ commonPrices first second, prices.2 ≠ 0 := by
  rw [← noPanic_scalingFactor_iff (ε := MergeError)]
  unfold mergePrices
  constructor
  · intro safe reason panics
    rw [panics] at safe
    exact not_noPanic_panic reason safe
  · intro safe
    refine safe.seq fun factor => ?_
    refine (noPanic_okOr _ _).seq fun factor => ?_
    split
    · exact noPanic_ok _
    · exact (NoPanic.foldlM fun _ entry _ => noPanic_scaleInto entry).seq fun _ => noPanic_ok _

theorem mergePrices_swap (merges : mergePrices first second = .ok (some merged)) :
    mergePrices second first = .ok none ∨ ∃ swapped, mergePrices second first = .ok (some swapped) ∧
        ∀ token, swapped.get token = merged.get token := by
  obtain ⟨_, isFactor, grows, scaled⟩ := mergePrices_eq_ok_some_iff.mp merges
  have back := isFactor.swap (by linarith)
  rcases grows.eq_or_lt with rfl | larger
  · right
    rw [inv_one] at back
    obtain ⟨swapped, swappedScaled⟩ := back.returns_iff.mpr fun _ price _ => scalable_one price
    refine ⟨swapped, mergePrices_eq_ok_some_iff.mpr
      ⟨1, back, le_rfl, swappedScaled⟩, fun token => ?_⟩
    rw [get_of_foldlM_scaleInto zero_le_one swappedScaled,
      get_of_foldlM_scaleInto zero_le_one scaled]
    change (second.get token).or ((first.get token).map _) =
      (first.get token).or ((second.get token).map _)
    cases inFirst : first.get token with
    | none => cases second.get token <;> simp
    | some price =>
      cases inSecond : second.get token with
      | none => simp
      | some other =>
        have same := (isFactor.scaleUp_eq (mem_commonPrices.mpr ⟨token, inFirst, inSecond⟩)).2
        simp [same]
  · left
    exact mergePrices_eq_ok_none_iff.mpr ⟨_, back, inv_lt_one_of_one_lt₀ larger⟩

end

end MandateSolver.Driver
