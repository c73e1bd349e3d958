import Mathlib.Algebra.Order.BigOperators.Group.List
import Mathlib.Algebra.Order.Ring.Abs
import MandateSolver.Balancer.LogExpMath

/-!
# What the power function computes

Every intermediate value of `pow` is bounded explicitly, so that none leaves the signed
256-bit range.  Logarithm and exponential are cut off series, but every step keeps the sign.
-/

namespace MandateSolver

open Outcome List

open Outcome (Returns)

namespace I256

variable {ε α : Type} {value left right bound leftBound rightBound : Int}
  {next : Int → Outcome ε α} {post : α → Prop} {goal : Int → Prop}

/-! ## An operator that stays in range is followed by its result -/

theorem checked_returns (small : |value| < 2 ^ 255) (holds : goal value) :
    Returns (checked value : Outcome ε Int) goal := by
  obtain ⟨lower, upper⟩ := abs_lt.mp small
  rw [checked, if_pos ⟨lower.le, upper⟩]
  exact .ok holds

theorem abs_tdiv_le (left right : Int) : |left.tdiv right| ≤ |left| := by
  have smaller := Int.natAbs_tdiv_le_natAbs left right
  rw [Int.abs_eq_natAbs, Int.abs_eq_natAbs]
  exact_mod_cast smaller

theorem abs_tmod_le (left right : Int) : |left.tmod right| ≤ |left| := by
  rw [Int.abs_eq_natAbs, Int.abs_eq_natAbs, Int.natAbs_tmod]
  exact_mod_cast Nat.mod_le _ _

theorem div_returns (small : |left| < 2 ^ 255) (nonzero : right ≠ 0)
    (holds : goal (left.tdiv right)) : Returns (div left right : Outcome ε Int) goal := by
  rw [div, if_neg nonzero]
  exact checked_returns ((abs_tdiv_le left right).trans_lt small) holds

theorem checked_then (small : |value| < 2 ^ 255) (rest : Returns (next value) post) :
    Returns (checked value >>= next) post :=
  (checked_returns small rest).bind fun _ => id

theorem div_then (small : |left| < 2 ^ 255) (nonzero : right ≠ 0)
    (rest : Returns (next (left.tdiv right)) post) : Returns (div left right >>= next) post :=
  (div_returns small nonzero rest).bind fun _ => id

theorem rem_then (small : |left| < 2 ^ 255) (nonzero : right ≠ 0)
    (rest : Returns (next (left.tmod right)) post) : Returns (rem left right >>= next) post := by
  rw [rem, if_neg nonzero]
  exact checked_then ((abs_tmod_le left right).trans_lt small) rest

/-! ## Bounds of products and quotients -/

theorem small_of_nonneg (nonneg : 0 ≤ value) (fits : value < 2 ^ 255) :
    |value| < 2 ^ 255 := by
  rwa [abs_of_nonneg nonneg]

theorem abs_mul_le (leftSmall : |left| ≤ leftBound) (rightSmall : |right| ≤ rightBound) :
    |left * right| ≤ leftBound * rightBound := by
  rw [abs_mul]
  exact mul_le_mul leftSmall rightSmall (abs_nonneg right) ((abs_nonneg left).trans leftSmall)

theorem abs_tdiv_le_of_le_mul (positive : 0 < right) (small : |left| ≤ bound * right) :
    |left.tdiv right| ≤ bound := by
  have quotient : |left.tdiv right| = |left| / right := by
    rw [Int.abs_eq_natAbs, Int.natAbs_tdiv]
    change ((left.natAbs / right.natAbs : Nat) : Int) = _
    rw [Int.natCast_ediv, Int.natCast_natAbs, Int.natCast_natAbs, abs_of_pos positive]
  rw [quotient]
  exact Int.ediv_le_of_le_mul positive small

theorem tdiv_le_of_le_mul (nonneg : 0 ≤ left) (positive : 0 < right)
    (atMost : left ≤ bound * right) : left.tdiv right ≤ bound := by
  rw [Int.tdiv_eq_ediv_of_nonneg nonneg]
  exact Int.ediv_le_of_le_mul positive atMost

theorem le_tdiv_of_mul_le (nonneg : 0 ≤ left) (positive : 0 < right)
    (atLeast : bound * right ≤ left) : bound ≤ left.tdiv right := by
  rw [Int.tdiv_eq_ediv_of_nonneg nonneg]
  exact Int.le_ediv_of_mul_le positive atLeast

theorem tdiv_nonpos (nonpos : left ≤ 0) (nonneg : 0 ≤ right) : left.tdiv right ≤ 0 := by
  have negated := Int.tdiv_nonneg (show 0 ≤ -left by omega) nonneg
  rw [Int.neg_tdiv] at negated
  omega

theorem tdiv_le_neg_of_mul_le (nonpos : left ≤ 0) (positive : 0 < right)
    (atMost : bound * right ≤ -left) : left.tdiv right ≤ -bound := by
  have negated := le_tdiv_of_mul_le (show 0 ≤ -left by omega) positive atMost
  rw [Int.neg_tdiv] at negated
  omega

end I256

namespace LogExpMath

open I256 (abs_mul_le abs_tdiv_le abs_tdiv_le_of_le_mul checked_returns checked_then
  div_returns div_then le_tdiv_of_mul_le rem_then small_of_nonneg tdiv_le_neg_of_mul_le
  tdiv_le_of_le_mul tdiv_nonpos)

variable {ε : Type} (index : Nat)

private theorem constantA20_ge : 106 * 10 ^ 18 ≤ constantA20 index := by
  unfold constantA20
  split <;> decide

private theorem constantX20_bounds :
    625 * 10 ^ 16 ≤ constantX20 index ∧ constantX20 index ≤ 32 * 10 ^ 20 := by
  unfold constantX20
  split <;> decide

private theorem constantA18_bounds :
    0 < constantA18 index ∧ constantA18 index * one18 < 2 ^ 255 := by
  unfold constantA18
  split <;> decide

private theorem constantX18_bounds :
    64 * 10 ^ 18 ≤ constantX18 index ∧ constantX18 index ≤ 128 * 10 ^ 18 := by
  unfold constantX18
  split <;> decide

/-! ## The exponential -/

variable {x product : Int}

/-- One round of the factor loop leaves an exponent below the constant and
multiplies the bound on the product by its exponential.  Unless the exponent is left
alone, the product gets one of the factors. -/
private theorem expFactor_returns {index : Nat} {bound : Int}
    (xNonneg : 0 ≤ x) (xLt : x < 2 * constantX20 index)
    (productGe : 10 ^ 20 ≤ product) (productLe : product ≤ bound)
    (fits : bound * constantA20 index < 2 ^ 255) :
    Returns (expFactor (x, product) index : Outcome ε (Int × Int)) fun state =>
      (0 ≤ state.1 ∧ state.1 < constantX20 index) ∧ product ≤ state.2 ∧
        state.2 ≤ bound * constantA20 index / 10 ^ 20 ∧
        (state.1 = x ∨ 106 * 10 ^ 18 ≤ state.2) := by
  have constantGe := constantA20_ge index
  have constantLe := (constantX20_bounds index).2
  have scaledLe : product * constantA20 index ≤ bound * constantA20 index :=
    mul_le_mul_of_nonneg_right productLe (by omega)
  have scaledGe : 10 ^ 20 * constantA20 index ≤ product * constantA20 index :=
    mul_le_mul_of_nonneg_right productGe (by omega)
  have grows : product * 10 ^ 20 ≤ product * constantA20 index :=
    mul_le_mul_of_nonneg_left (by omega) (by omega)
  rw [expFactor]
  split
  · rename_i reached
    have reduced := sub_nonneg.mpr reached
    have scaledSmall := small_of_nonneg (show 0 ≤ product * constantA20 index by omega) (by omega)
    apply checked_then (small_of_nonneg reduced (by omega))
    apply checked_then scaledSmall
    apply div_then scaledSmall (by decide)
    have nextGe : constantA20 index ≤ (product * constantA20 index).tdiv one20 := by
      apply le_tdiv_of_mul_le (by omega) (by decide)
      rw [mul_comm]
      exact scaledGe
    refine .ok ⟨⟨reduced, show x - constantX20 index < _ by omega⟩,
      le_tdiv_of_mul_le (by omega) (by decide) grows, ?_,
      .inr (show _ ≤ (product * constantA20 index).tdiv one20 by omega)⟩
    rw [Int.tdiv_eq_ediv_of_nonneg (by omega)]
    exact Int.ediv_le_ediv (by decide) scaledLe
  · rename_i skipped
    exact .ok ⟨⟨xNonneg, not_le.mp skipped⟩, le_refl _,
      Int.le_ediv_of_mul_le (by decide) (grows.trans scaledLe), .inl rfl⟩

/-- Interval analysis of the factor loop: exponents below `xBound` and
products up to `productBound` stay in range and end below `limit`. -/
private def expFactorsFit (limit : Int) : List Nat → Int → Int → Bool
  | [], xBound, productBound =>
    decide (xBound ≤ 25000000000000000000 ∧ productBound ≤ limit)
  | index :: rest, xBound, productBound =>
    if xBound ≤ constantX20 index then
      expFactorsFit limit rest xBound productBound
    else
      decide (xBound ≤ 2 * constantX20 index ∧ productBound * constantA20 index < 2 ^ 255) &&
      expFactorsFit limit rest (constantX20 index) (productBound * constantA20 index / 10 ^ 20)

variable {indices : List Nat}

private theorem expFactors_returns {limit xBound productBound : Int}
    (fits : expFactorsFit limit indices xBound productBound = true)
    (xNonneg : 0 ≤ x) (xLt : x < xBound)
    (productGe : 10 ^ 20 ≤ product) (productLe : product ≤ productBound) :
    Returns (indices.foldlM expFactor (x, product) : Outcome ε (Int × Int)) fun state =>
      (0 ≤ state.1 ∧ state.1 < 25000000000000000000) ∧ product ≤ state.2 ∧
        state.2 ≤ limit ∧ (state.1 = x ∨ 106 * 10 ^ 18 ≤ state.2) := by
  induction indices generalizing xBound productBound x product with
  | nil =>
    rw [expFactorsFit, decide_eq_true_eq] at fits
    exact .ok ⟨⟨xNonneg, xLt.trans_le fits.1⟩, le_refl _, productLe.trans fits.2, .inl rfl⟩
  | cons index rest ih =>
    rw [expFactorsFit] at fits
    rw [foldlM_cons]
    split at fits
    · rename_i below
      rw [expFactor, if_neg (not_le.mpr (xLt.trans_le below))]
      exact ih fits xNonneg xLt productGe productLe
    · rw [Bool.and_eq_true, decide_eq_true_eq] at fits
      obtain ⟨⟨xBoundLe, productFits⟩, restFits⟩ := fits
      refine (expFactor_returns xNonneg (xLt.trans_le xBoundLe) productGe
        productLe productFits).bind fun ⟨nextX, nextProduct⟩
          ⟨⟨nonneg, less⟩, grows, le, changed⟩ => ?_
      refine (ih restFits nonneg less (by omega) le).mono
        fun state ⟨bounds, grown, stateLe, changedLater⟩ => ?_
      exact ⟨bounds, grows.trans grown, stateLe, by omega⟩

/-- The series loop adds at most `2 ^ -5` per round. -/
private theorem expTerms_returns {start total : Int} (indicesGe : ∀ index ∈ indices, 2 ≤ index)
    (xNonneg : 0 ≤ x) (xLe : x ≤ 25000000000000000000) (startNonneg : 0 ≤ start)
    (sumLe : start + indices.length * 3125000000000000000 ≤ total) (fits : total < 2 ^ 255) :
    Returns (indices.foldlM (expTerm x) (x, start) : Outcome ε (Int × Int)) fun state =>
      start ≤ state.2 ∧ state.2 ≤ total := by
  refine (Returns.foldlM (fun rest state => (∀ index ∈ rest, 2 ≤ index) ∧
    (0 ≤ state.1 ∧ state.1 ≤ 25000000000000000000) ∧ start ≤ state.2 ∧
    state.2 + rest.length * 3125000000000000000 ≤ total) ?_ indices
    ⟨indicesGe, ⟨xNonneg, xLe⟩, le_refl _, sumLe⟩).mono
    fun state ⟨_, _, sumGe, sumLe⟩ => ⟨sumGe, by simpa using sumLe⟩
  rintro index rest ⟨term, sum⟩ ⟨atLeastTwo, ⟨termNonneg, termLe⟩, sumGe, sumLe⟩
  have indexGe := atLeastTwo index mem_cons_self
  rw [length_cons, Nat.cast_add] at sumLe
  dsimp only at termNonneg termLe sumGe sumLe
  have powerNonneg := mul_nonneg termNonneg xNonneg
  have powerLe := mul_le_mul termLe xLe xNonneg (by decide)
  have reducedNonneg := Int.tdiv_nonneg powerNonneg (show 0 ≤ one20 by decide)
  have reducedLe : (term * x).tdiv one20 ≤ 6250000000000000000 :=
    tdiv_le_of_le_mul powerNonneg (by decide) (powerLe.trans (by decide))
  have nextNonneg := Int.tdiv_nonneg reducedNonneg (Int.natCast_nonneg index)
  have nextLe : ((term * x).tdiv one20).tdiv index ≤ 3125000000000000000 :=
    tdiv_le_of_le_mul reducedNonneg (by omega) (by omega)
  have powerSmall := small_of_nonneg powerNonneg (powerLe.trans_lt (by decide))
  apply checked_then powerSmall
  apply div_then powerSmall (by decide)
  apply div_then (small_of_nonneg reducedNonneg (by omega)) (by omega)
  apply checked_then (small_of_nonneg (show 0 ≤ sum + _ by omega) (by omega))
  exact .ok ⟨fun other later => atLeastTwo other (mem_cons_of_mem _ later),
    ⟨nextNonneg, nextLe.trans (by decide)⟩, le_add_of_le_of_nonneg sumGe nextNonneg,
    show sum + _ + _ ≤ total by omega⟩

private theorem expSeries_returns {limit firstAn : Int}
    (xNonneg : 0 ≤ x) (xLt : x < 25000000000000000000)
    (productGe : 10 ^ 20 ≤ product) (productLe : product ≤ limit) (firstGe : 1 ≤ firstAn)
    (scaledFits : limit * (16 * 10 ^ 19) < 2 ^ 255)
    (fits : limit * (16 * 10 ^ 19) / 10 ^ 20 * firstAn < 2 ^ 255) :
    Returns (expSeries x product firstAn : Outcome ε Int) fun result =>
      10 ^ 18 ≤ result ∧ result < 2 ^ 255 ∧
        (15 * 10 ^ 17 ≤ x ∨ 106 * 10 ^ 18 ≤ product ∨ 2 ≤ firstAn → 1015 * 10 ^ 15 ≤ result) := by
  rw [expSeries, show one20 = 10 ^ 20 from rfl]
  apply checked_then (small_of_nonneg (by omega) (by omega))
  refine (expTerms_returns (by decide) xNonneg xLt.le (by omega)
    (show _ ≤ 16 * 10 ^ 19 by simp only [length_cons, length_nil]; omega)
    (by decide)).bind fun ⟨_, sum⟩ ⟨sumGe, sumLe⟩ => ?_
  have scaledNonneg : 0 ≤ product * sum := mul_nonneg (by omega) (by omega)
  have scaledLe := mul_le_mul productLe sumLe (by omega) (by omega)
  have reducedGeSum : sum ≤ (product * sum).tdiv (10 ^ 20) := by
    apply le_tdiv_of_mul_le scaledNonneg (by decide)
    rw [mul_comm]
    exact mul_le_mul_of_nonneg_right productGe (by omega)
  have reducedGeProduct : product ≤ (product * sum).tdiv (10 ^ 20) := by
    apply le_tdiv_of_mul_le scaledNonneg (by decide)
    exact mul_le_mul_of_nonneg_left (show 10 ^ 20 ≤ sum by omega) (by omega)
  have reducedLe : (product * sum).tdiv (10 ^ 20) ≤ limit * (16 * 10 ^ 19) / 10 ^ 20 := by
    rw [Int.tdiv_eq_ediv_of_nonneg scaledNonneg]
    exact Int.ediv_le_ediv (by decide) scaledLe
  have scaledSmall := small_of_nonneg scaledNonneg (scaledLe.trans_lt scaledFits)
  apply checked_then scaledSmall
  apply div_then scaledSmall (by decide)
  generalize (product * sum).tdiv (10 ^ 20) = reduced at *
  have shiftedGe : reduced ≤ reduced * firstAn := le_mul_of_one_le_right (by omega) firstGe
  have shiftedLe := mul_le_mul_of_nonneg_right reducedLe (show 0 ≤ firstAn by omega)
  have shiftedSmall := small_of_nonneg (show 0 ≤ reduced * firstAn by omega) (by omega)
  apply checked_then shiftedSmall
  apply div_returns shiftedSmall (by decide)
  have resultGe : ∀ {bound : Int}, bound * 100 ≤ reduced * firstAn →
      bound ≤ (reduced * firstAn).tdiv 100 :=
    le_tdiv_of_mul_le (by omega) (by decide)
  refine ⟨resultGe (by omega), ?_, fun enough => resultGe ?_⟩
  · apply (tdiv_le_of_le_mul _ _ _ : _ ≤ reduced * firstAn).trans_lt <;> omega
  · obtain large | large | large := enough
    · omega
    · omega
    · have twice := mul_le_mul_of_nonneg_left large (show 0 ≤ reduced by omega)
      omega

/-- The exponent after the first reduction.  Next to the largest constant
only two units are left, otherwise less than `64`. -/
private theorem expSplit_returns (xNonneg : 0 ≤ x) (xLe : x ≤ maxNaturalExponent) :
    Returns (expSplit x : Outcome ε (Int × Int)) fun state =>
      0 ≤ state.1 ∧
      ((state.1 ≤ 2 * 10 ^ 18 ∧ state.2 = constantA18 0) ∨
        (state.1 < 64 * 10 ^ 18 ∧ 1 ≤ state.2 ∧ state.2 ≤ constantA18 1)) ∧
      (state.1 = x ∨ 2 ≤ state.2) := by
  rw [maxNaturalExponent] at xLe
  simp only [expSplit, constantX18, constantA18]
  split
  · apply checked_then (small_of_nonneg (by omega) (by omega))
    exact .ok (by dsimp only; omega)
  split
  · apply checked_then (small_of_nonneg (by omega) (by omega))
    exact .ok (by dsimp only; omega)
  · exact .ok (by dsimp only; omega)

/-- The factor loop when at most two units are left.  Exactly two units are
used up by a single factor. -/
private theorem expFactors_small_returns (xNonneg : 0 ≤ x) (xLe : x ≤ 2 * 10 ^ 20) :
    Returns ([2, 3, 4, 5, 6, 7, 8, 9].foldlM expFactor (x, one20) : Outcome ε (Int × Int))
      fun state => (0 ≤ state.1 ∧ state.1 < 25000000000000000000) ∧ one20 ≤ state.2 ∧
        state.2 ≤ 74 * 10 ^ 19 ∧ (state.1 = x ∨ 106 * 10 ^ 18 ≤ state.2) := by
  obtain below | rfl := xLe.lt_or_eq
  · exact expFactors_returns (show expFactorsFit _ _ (2 * 10 ^ 20) one20 = true by decide)
      xNonneg below (by decide) le_rfl
  · exact ⟨(0, 738905609893065022723), by rfl, by decide⟩

private theorem expNonneg_returns (xNonneg : 0 ≤ x) (xLe : x ≤ maxNaturalExponent) :
    Returns (expNonneg x : Outcome ε Int) fun result => 10 ^ 18 ≤ result ∧
      result < 2 ^ 255 ∧ (15 * 10 ^ 15 ≤ x → 1015 * 10 ^ 15 ≤ result) := by
  refine (expSplit_returns xNonneg xLe).bind
    fun ⟨reduced, firstAn⟩ ⟨reducedNonneg, bounds, split⟩ => ?_
  apply checked_then (small_of_nonneg (by omega) (by omega))
  obtain ⟨_, rfl⟩ | ⟨_, firstGe, firstLe⟩ := bounds
  · refine (expFactors_small_returns (by omega) (by omega)).bind
      fun ⟨rest, product⟩ ⟨⟨restNonneg, restLt⟩, productGe, productLe, factored⟩ => ?_
    refine (expSeries_returns restNonneg restLt productGe productLe (by decide)
      (by decide) (by decide)).mono fun result ⟨resultGe, fits, larger⟩ => ?_
    exact ⟨resultGe, fits, fun _ => larger (.inr (.inr (by decide)))⟩
  · refine (expFactors_returns
      (show expFactorsFit (5 * 10 ^ 47) _ (64 * 10 ^ 20) one20 = true by decide)
      (by omega) (by omega) (by decide) le_rfl).bind
      fun ⟨rest, product⟩ ⟨⟨restNonneg, restLt⟩, productGe, productLe, factored⟩ => ?_
    rw [show constantA18 1 = 6235149080811616882910000000 from rfl] at firstLe
    refine (expSeries_returns restNonneg restLt productGe productLe firstGe
      (by decide) (by norm_num; omega)).mono fun result ⟨resultGe, fits, larger⟩ => ?_
    exact ⟨resultGe, fits, fun large => larger (by omega)⟩

private theorem exp_returns (xGe : minNaturalExponent ≤ x) (xLe : x ≤ maxNaturalExponent) :
    Returns (exp x) fun result => (0 ≤ result ∧ result < 2 ^ 255) ∧
      (0 ≤ x → 10 ^ 18 ≤ result) ∧ (x ≤ -(15 * 10 ^ 15) → result ≤ 986 * 10 ^ 15) := by
  have atLeast : -41 * 10 ^ 18 ≤ x := xGe
  rw [exp, if_neg (not_not.mpr ⟨xGe, xLe⟩)]
  split
  · rename_i negative
    have negated : minNaturalExponent ≤ -x ∧ -x ≤ maxNaturalExponent := by
      rw [maxNaturalExponent]
      omega
    apply checked_then (small_of_nonneg (by omega) (by omega))
    rw [if_neg (not_not.mpr negated)]
    refine (expNonneg_returns (by omega) negated.2).bind fun inverse ⟨inverseGe, _, larger⟩ => ?_
    have squaredSmall : |one18 * one18| < 2 ^ 255 := by decide
    apply div_returns squaredSmall (by omega)
    rw [show one18 * one18 = 10 ^ 36 from rfl]
    refine ⟨⟨Int.tdiv_nonneg (by decide) (by omega), ?_⟩, fun nonneg => absurd negative
      (not_lt.mpr nonneg), fun small => ?_⟩
    · apply (tdiv_le_of_le_mul _ _ _ : _ ≤ (10 : Int) ^ 18).trans_lt <;> omega
    · apply tdiv_le_of_le_mul <;> omega
  · rename_i notNegative
    refine (expNonneg_returns (not_lt.mp notNegative) xLe).mono fun result ⟨resultGe, fits, _⟩ => ?_
    exact ⟨⟨by omega, fits⟩, fun _ => resultGe, fun small => by omega⟩

/-! ## The logarithm -/

/-- The powers of `z` do not grow, every term is at most a third of a unit and has the
sign of `z`. -/
private theorem atanhTerms_returns {unit third zSquared z : Int}
    (indicesGe : ∀ index ∈ indices, 3 ≤ index) (unitPos : 0 < unit)
    (thirdGe : unit ≤ third * 3) (zSquaredNonneg : 0 ≤ zSquared)
    (zSquaredLe : zSquared ≤ unit) (zSmall : |z| ≤ unit) (squareFits : unit * unit < 2 ^ 255)
    (sumFits : unit + indices.length * third < 2 ^ 255) :
    Returns (indices.foldlM (atanhTerm unit zSquared) (z, z) : Outcome ε (Int × Int))
      fun state => |state.2| ≤ unit + indices.length * third ∧
        (0 ≤ z → z ≤ state.2) ∧ (z ≤ 0 → state.2 ≤ z) := by
  refine (Returns.foldlM (fun rest state => (∀ index ∈ rest, 3 ≤ index) ∧
    |state.1| ≤ unit ∧ |state.2| + rest.length * third ≤ unit + indices.length * third ∧
    (0 ≤ z → 0 ≤ state.1 ∧ z ≤ state.2) ∧ (z ≤ 0 → state.1 ≤ 0 ∧ state.2 ≤ z))
    ?_ indices ⟨indicesGe, zSmall, add_le_add_left zSmall _,
      fun nonneg => ⟨nonneg, le_refl _⟩, fun nonpos => ⟨nonpos, le_refl _⟩⟩).mono
    fun state ⟨_, _, sumLe, above, below⟩ => ⟨by simpa using sumLe,
      fun nonneg => (above nonneg).2, fun nonpos => (below nonpos).2⟩
  rintro index rest ⟨num, sum⟩ ⟨atLeastThree, numSmall, sumLe, above, below⟩
  have indexGe := atLeastThree index mem_cons_self
  rw [length_cons, Nat.cast_add, Nat.cast_one, add_mul] at sumLe
  dsimp only at numSmall sumLe above below
  have lengthNonneg : ∀ items : List Nat, 0 ≤ items.length * third :=
    fun items => mul_nonneg (Int.natCast_nonneg _) (by omega)
  have restNonneg := lengthNonneg rest
  have allNonneg := lengthNonneg indices
  have scaledLe : |num * zSquared| ≤ unit * unit :=
    abs_mul_le numSmall (by rwa [abs_of_nonneg zSquaredNonneg])
  have nextSmall := abs_tdiv_le_of_le_mul unitPos scaledLe
  have termSmall : |((num * zSquared).tdiv unit).tdiv index| ≤ third := by
    have thirds := mul_le_mul_of_nonneg_left (show (3 : Int) ≤ index by omega)
      (show 0 ≤ third by omega)
    exact abs_tdiv_le_of_le_mul (by omega) (by omega)
  have totalLe := (abs_add_le sum (((num * zSquared).tdiv unit).tdiv index)).trans
    (add_le_add_right termSmall _)
  have scaledSmall := scaledLe.trans_lt squareFits
  apply checked_then scaledSmall
  apply div_then scaledSmall unitPos.ne'
  apply div_then (by omega) (by omega)
  apply checked_then (by dsimp only; omega)
  refine .ok ⟨fun other later => atLeastThree other (mem_cons_of_mem _ later),
    nextSmall, show |sum + _| + _ ≤ _ by omega, fun nonneg => ?_, fun nonpos => ?_⟩
  · obtain ⟨numNonneg, sumGe⟩ := above nonneg
    have nextNonneg := Int.tdiv_nonneg (mul_nonneg numNonneg zSquaredNonneg) unitPos.le
    exact ⟨nextNonneg,
      le_add_of_le_of_nonneg sumGe (Int.tdiv_nonneg nextNonneg (Int.natCast_nonneg _))⟩
  · obtain ⟨numNonpos, sumLe⟩ := below nonpos
    have nextNonpos := tdiv_nonpos
      (mul_nonpos_of_nonpos_of_nonneg numNonpos zSquaredNonneg) unitPos.le
    exact ⟨nextNonpos, add_le_of_le_of_nonpos sumLe (tdiv_nonpos nextNonpos (Int.natCast_nonneg _))⟩

variable {a : Int}

private theorem halfLog_returns {unit third aBound : Int}
    (indicesGe : ∀ index ∈ indices, 3 ≤ index) (unitPos : 0 < unit)
    (thirdGe : unit ≤ third * 3) (aNonneg : 0 ≤ a) (aLe : a ≤ aBound)
    (aFits : (aBound + unit) * unit < 2 ^ 255) (sumFits : unit + indices.length * third < 2 ^ 255) :
    Returns (halfLog unit indices a : Outcome ε Int) fun result =>
      |result| ≤ unit + indices.length * third ∧ (unit ≤ a → 0 ≤ result) ∧
        (a ≤ unit → result ≤ ((a - unit) * unit).tdiv (a + unit)) := by
  have grows : aBound + unit ≤ (aBound + unit) * unit := le_mul_of_one_le_right (by omega) unitPos
  have unitSquared : unit * unit ≤ (aBound + unit) * unit :=
    mul_le_mul_of_nonneg_right (by omega) unitPos.le
  have differenceLe : |a - unit| ≤ a + unit := abs_le.mpr ⟨by omega, by omega⟩
  have numeratorLe := abs_mul_le differenceLe (abs_of_pos unitPos).le
  have sumLe : (a + unit) * unit ≤ (aBound + unit) * unit :=
    mul_le_mul_of_nonneg_right (by omega) unitPos.le
  have zSmall : |((a - unit) * unit).tdiv (a + unit)| ≤ unit := by
    apply abs_tdiv_le_of_le_mul (by omega)
    rwa [mul_comm unit]
  have numeratorSmall := numeratorLe.trans_lt (sumLe.trans_lt aFits)
  apply checked_then (by omega)
  apply checked_then numeratorSmall
  apply checked_then (small_of_nonneg (by omega) (by omega))
  apply div_then numeratorSmall (by omega)
  have signs : (unit ≤ a → 0 ≤ ((a - unit) * unit).tdiv (a + unit)) ∧
      (a ≤ unit → ((a - unit) * unit).tdiv (a + unit) ≤ 0) :=
    ⟨fun above => Int.tdiv_nonneg (mul_nonneg (by omega) unitPos.le) (by omega),
      fun below => tdiv_nonpos (mul_nonpos_of_nonpos_of_nonneg (by omega) unitPos.le) (by omega)⟩
  generalize ((a - unit) * unit).tdiv (a + unit) = z at zSmall signs ⊢
  have squareLe := abs_mul_le zSmall zSmall
  apply checked_then (by omega)
  apply div_then (by omega) unitPos.ne'
  have zSquaredLe := (le_abs_self _).trans (abs_tdiv_le_of_le_mul unitPos squareLe)
  refine (atanhTerms_returns indicesGe unitPos thirdGe
    (Int.tdiv_nonneg (mul_self_nonneg z) unitPos.le) zSquaredLe zSmall (by omega)
    sumFits).bind fun ⟨_, sum⟩ ⟨small, above, below⟩ => ?_
  exact .ok ⟨small, fun atLeast => (signs.1 atLeast).trans (above (signs.1 atLeast)),
    fun atMost => below (signs.2 atMost)⟩

private theorem lnReduce20s_returns {aBound total start : Int}
    (aFits : aBound * 10 ^ 20 < 2 ^ 255) (totalFits : total < 2 ^ 255)
    (aGe : 10 ^ 20 ≤ a) (aLe : a ≤ aBound) (startNonneg : 0 ≤ start)
    (sumLe : start + (indices.map constantX20).sum ≤ total) (listed : 11 ∈ indices) :
    Returns (indices.foldlM lnReduce20 (a, start) : Outcome ε (Int × Int)) fun state =>
      (10 ^ 20 ≤ state.1 ∧ state.1 ≤ aBound) ∧ (start ≤ state.2 ∧ state.2 ≤ total) ∧
        (constantA20 11 ≤ a → 625 * 10 ^ 16 ≤ state.2) := by
  refine (Returns.foldlM (fun rest state => (10 ^ 20 ≤ state.1 ∧ state.1 ≤ aBound) ∧
    (start ≤ state.2 ∧ state.2 + (rest.map constantX20).sum ≤ total) ∧
    (constantA20 11 ≤ a → 11 ∈ rest ∧ state.1 = a ∨ 625 * 10 ^ 16 ≤ state.2)) ?_ indices
    ⟨⟨aGe, aLe⟩, ⟨le_refl _, sumLe⟩, fun _ => .inl ⟨listed, rfl⟩⟩).mono ?_
  · rintro index rest ⟨number, sum⟩ ⟨⟨numberGe, numberLe⟩, ⟨sumGe, sumLe⟩, changed⟩
    rw [map_cons, sum_cons] at sumLe
    have constantGe := constantA20_ge index
    have constantX := constantX20_bounds index
    have restNonneg : 0 ≤ (rest.map constantX20).sum := by
      apply sum_nonneg
      intro constant mem
      obtain ⟨other, -, rfl⟩ := mem_map.mp mem
      have bounds := constantX20_bounds other
      omega
    rw [lnReduce20]
    split
    · rename_i reached
      have scaledNonneg : 0 ≤ number * one20 := mul_nonneg (by omega) (by decide)
      have scaledLe : number * one20 ≤ aBound * 10 ^ 20 :=
        mul_le_mul_of_nonneg_right numberLe (by decide)
      have scaledSmall := small_of_nonneg scaledNonneg (scaledLe.trans_lt aFits)
      apply checked_then scaledSmall
      apply div_then scaledSmall (by omega)
      apply checked_then (small_of_nonneg (by omega) (by omega))
      refine .ok ⟨⟨?_, ?_⟩, show _ ≤ sum + _ ∧ sum + _ + _ ≤ _ by omega,
        fun _ => .inr (show _ ≤ sum + _ by omega)⟩
      · apply le_tdiv_of_mul_le scaledNonneg (by omega)
        rw [mul_comm]
        exact mul_le_mul_of_nonneg_right reached (by decide)
      · apply (tdiv_le_of_le_mul scaledNonneg (by omega) _).trans numberLe
        exact mul_le_mul_of_nonneg_left
          ((show one20 ≤ 106 * 10 ^ 18 by decide).trans constantGe) (by omega)
    · rename_i skipped
      refine .ok ⟨⟨numberGe, numberLe⟩, ⟨sumGe, by dsimp only; omega⟩, fun reaches => ?_⟩
      obtain ⟨mem, same⟩ | added := changed reaches
      · obtain isLast | later := mem_cons.mp mem
        · rw [← isLast, same] at skipped
          exact absurd reaches skipped
        · exact .inl ⟨later, same⟩
      · exact .inr added
  · rintro state ⟨numberBounds, ⟨sumGe, sumLe⟩, changed⟩
    refine ⟨numberBounds, ⟨sumGe, by simpa using sumLe⟩, fun reaches => ?_⟩
    obtain ⟨mem, -⟩ | added := changed reaches
    · cases mem
    · exact added

private theorem lnReduce18_returns {index : Nat} {sum : Int} {post : Int × Int → Prop}
    (aNonneg : 0 ≤ a) (aLt : a < 2 ^ 255) (sumNonneg : 0 ≤ sum) (sumLe : sum ≤ 10 ^ 21)
    (taken : constantA18 index * one18 ≤ a →
      post (a.tdiv (constantA18 index), sum + constantX18 index))
    (skipped : a < constantA18 index * one18 → post (a, sum)) :
    Returns (lnReduce18 (a, sum) index : Outcome ε (Int × Int)) post := by
  obtain ⟨constantPos, constantFits⟩ := constantA18_bounds index
  have constantX := constantX18_bounds index
  apply checked_then (small_of_nonneg (mul_nonneg constantPos.le (by decide)) constantFits)
  split
  · rename_i reached
    apply div_then (small_of_nonneg aNonneg aLt) (by omega)
    apply checked_then (small_of_nonneg (by dsimp only; omega) (by dsimp only; omega))
    exact .ok (taken reached)
  · rename_i notReached
    exact .ok (skipped (not_le.mp notReached))

private theorem lnReduce18s_returns (aGe : 10 ^ 18 ≤ a) (aLt : a < 2 ^ 255) :
    Returns ([0, 1].foldlM lnReduce18 (a, 0) : Outcome ε (Int × Int)) fun state =>
      (10 ^ 18 ≤ state.1 ∧ state.1 ≤ 63 * 10 ^ 44) ∧ (0 ≤ state.2 ∧ state.2 ≤ 128 * 10 ^ 18) ∧
        (state.1 = a ∨ 64 * 10 ^ 18 ≤ state.2) := by
  simp only [foldlM_cons, foldlM_nil, bind_pure]
  have quotientGe : ∀ {index}, constantA18 index * one18 ≤ a →
      10 ^ 18 ≤ a.tdiv (constantA18 index) := by
    intro index reached
    apply le_tdiv_of_mul_le (by omega) (constantA18_bounds index).1
    rwa [mul_comm]
  have constants : constantA18 0 = 38877084059945950922200000000000000000000000000000000000 ∧
      constantA18 1 = 6235149080811616882910000000 := ⟨rfl, rfl⟩
  have first : Returns (lnReduce18 (a, 0) 0 : Outcome ε (Int × Int)) fun state =>
      10 ^ 18 ≤ state.1 ∧ state.1 ≤ 15 * 10 ^ 20 ∧ state.2 = 128 * 10 ^ 18 ∨
        state = (a, 0) ∧ a < constantA18 0 * one18 := by
    apply lnReduce18_returns (by omega) aLt le_rfl (by decide)
    · intro reached
      refine .inl ⟨quotientGe reached, tdiv_le_of_le_mul (by omega) (by decide) ?_, rfl⟩
      omega
    · exact fun below => .inr ⟨rfl, below⟩
  refine first.bind fun ⟨number, sum⟩ cases => ?_
  obtain ⟨_, _, _⟩ | ⟨same, below⟩ := cases
  · apply lnReduce18_returns (by omega) (by omega) (by omega) (by omega)
    · intro reached
      rw [one18] at reached
      omega
    · intro _
      omega
  · cases same
    rw [one18] at below
    apply lnReduce18_returns (by omega) aLt le_rfl (by decide)
    · intro reached
      refine ⟨⟨quotientGe reached, tdiv_le_of_le_mul (by omega) (by decide) ?_⟩,
        show 0 ≤ 0 + constantX18 1 ∧ 0 + constantX18 1 ≤ _ by decide,
        .inr (show _ ≤ 0 + constantX18 1 by decide)⟩
      omega
    · intro skipped
      rw [one18] at skipped
      omega

private theorem lnAtLeastOne_returns (aGe : 10 ^ 18 ≤ a) (aLt : a < 2 ^ 255) :
    Returns (lnAtLeastOne a : Outcome ε Int) fun result => |result| ≤ 198 * 10 ^ 18 ∧
      0 ≤ result ∧ (1064494458917859430 ≤ a → 62500000000000000 ≤ result) := by
  refine (lnReduce18s_returns aGe aLt).bind
    fun ⟨number, sum⟩ ⟨numberBounds, sumBounds, changed⟩ => ?_
  dsimp only at numberBounds sumBounds changed ⊢
  apply checked_then (small_of_nonneg (by omega) (by omega))
  apply checked_then (small_of_nonneg (by omega) (by omega))
  have constantSum : ([2, 3, 4, 5, 6, 7, 8, 9, 10, 11].map constantX20).sum =
      6393750000000000000000 := by decide
  refine (lnReduce20s_returns (show 63 * 10 ^ 46 * 10 ^ 20 < 2 ^ 255 by decide)
    (show 192 * 10 ^ 20 < 2 ^ 255 by decide) (by omega) (by omega) (by omega)
    (by rw [constantSum]; omega) (by decide)).bind
    fun ⟨reduced, total⟩ ⟨reducedBounds, totalBounds, added⟩ => ?_
  refine (halfLog_returns (by decide) (by decide)
    (show one20 ≤ 34 * 10 ^ 18 * 3 by decide) (by omega) reducedBounds.2 (by decide)
    (by decide)).bind fun series ⟨seriesSmall, seriesGe, _⟩ => ?_
  have seriesNonneg := seriesGe reducedBounds.1
  rw [abs_of_nonneg seriesNonneg] at seriesSmall
  have seriesLe := seriesSmall.trans (show _ ≤ 27 * 10 ^ 19 by decide)
  have nonneg : 0 ≤ total + series * 2 := by omega
  have totalSmall := small_of_nonneg nonneg (by omega)
  apply checked_then (small_of_nonneg (by omega) (by omega))
  apply checked_then totalSmall
  apply div_returns totalSmall (by decide)
  have resultNonneg := Int.tdiv_nonneg nonneg (show 0 ≤ 100 by decide)
  refine ⟨?_, resultNonneg, fun large => ?_⟩
  · rw [abs_of_nonneg resultNonneg]
    exact tdiv_le_of_le_mul nonneg (by decide) (by omega)
  · apply le_tdiv_of_mul_le nonneg (by decide)
    have totalLarge : 625 * 10 ^ 16 ≤ total := by
      obtain _ | _ := changed
      · apply added
        rw [show constantA20 11 = 106449445891785942956 from rfl]
        omega
      · omega
    omega

private theorem ln_returns (aPos : 0 < a) (aLt : a < 2 ^ 255) :
    Returns (ln a : Outcome ε Int) fun result => |result| ≤ 198 * 10 ^ 18 ∧
      (10 ^ 18 ≤ a → 0 ≤ result) ∧ (a ≤ 92 * 10 ^ 16 → result ≤ -62500000000000000) := by
  rw [ln, show one18 = 10 ^ 18 from rfl]
  split
  · have squaredSmall : |(10 : Int) ^ 18 * 10 ^ 18| < 2 ^ 255 := by decide
    apply div_then squaredSmall (by omega)
    have inverseLe : ((10 : Int) ^ 18 * 10 ^ 18).tdiv a ≤ 10 ^ 36 :=
      tdiv_le_of_le_mul (by decide) aPos (by omega)
    refine (lnAtLeastOne_returns (le_tdiv_of_mul_le (by decide) aPos (by omega))
      (by omega)).bind fun result ⟨small, nonneg, larger⟩ => ?_
    have negatedSmall : |-result| ≤ 198 * 10 ^ 18 := by rwa [abs_neg]
    apply checked_returns (negatedSmall.trans_lt (by decide))
    refine ⟨negatedSmall, fun atLeastOne => by omega, fun below => ?_⟩
    have resultGe := larger (le_tdiv_of_mul_le (by decide) aPos (by omega))
    omega
  · refine (lnAtLeastOne_returns (by omega) aLt).mono fun result ⟨small, nonneg, _⟩ => ?_
    exact ⟨small, fun _ => nonneg, fun below => by omega⟩

private theorem ln36_returns (xNonneg : 0 ≤ x) (xLe : x ≤ 2 * 10 ^ 18) :
    Returns (ln36 x : Outcome ε Int) fun result => |result| ≤ 16 * 10 ^ 36 ∧
      (10 ^ 18 ≤ x → 0 ≤ result) ∧ (x ≤ 92 * 10 ^ 16 → result ≤ -(8 * 10 ^ 34)) := by
  rw [ln36, show one18 = 10 ^ 18 from rfl]
  apply checked_then (small_of_nonneg (by omega) (by omega))
  refine (halfLog_returns (by decide) (by decide)
    (show 10 ^ 36 ≤ 34 * 10 ^ 34 * 3 by decide) (by omega)
    (show x * 10 ^ 18 ≤ 2 * 10 ^ 36 by omega) (by decide) (by decide)).bind
    fun series ⟨seriesSmall, above, below⟩ => ?_
  have resultSmall := (abs_mul_le seriesSmall (show |2| ≤ 2 by decide)).trans
    (show _ ≤ 16 * 10 ^ 36 by decide)
  apply checked_returns (resultSmall.trans_lt (by decide))
  refine ⟨resultSmall, fun atLeastOne => ?_, fun atMost => ?_⟩
  · omega
  · have fraction : ((x * 10 ^ 18 - 10 ^ 36) * 10 ^ 36).tdiv (x * 10 ^ 18 + 10 ^ 36) ≤
        -(4 * 10 ^ 34) :=
      tdiv_le_neg_of_mul_le (by omega) (by omega) (by omega)
    omega

/-! ## The power -/

private theorem logTimes_returns {y : Int} (xPos : 0 < x) (xLt : x < 2 ^ 255)
    (yNonneg : 0 ≤ y) (yLe : y ≤ 2 ^ 254 / 10 ^ 20) :
    Returns (logTimes x y : Outcome ε Int) fun result => |result| < 2 ^ 255 ∧
      (10 ^ 18 ≤ x → 0 ≤ result) ∧
      (x ≤ 92 * 10 ^ 16 → 25 * 10 ^ 16 ≤ y → result ≤ -(15 * 10 ^ 33)) := by
  have ySmall : |y| ≤ 2 ^ 254 / 10 ^ 20 := by rwa [abs_of_nonneg yNonneg]
  have times : ∀ {logarithm : Int}, logarithm ≤ -62500000000000000 →
      25 * 10 ^ 16 ≤ y → logarithm * y ≤ -(15 * 10 ^ 33) := by
    intro logarithm small yGe
    have product := mul_le_mul (show 62500000000000000 ≤ -logarithm by omega) yGe
    rw [neg_mul] at product
    omega
  rw [logTimes]
  split
  · rename_i near
    refine (ln36_returns xPos.le (near.2.le.trans (by decide))).bind
      fun log ⟨logSmall, above, below⟩ => ?_
    have logFits := logSmall.trans_lt (show _ < 2 ^ 255 by decide)
    have wholeSmall : |log.tdiv one18| ≤ 16 * 10 ^ 18 :=
      abs_tdiv_le_of_le_mul (by decide) (logSmall.trans (by decide))
    have fractionSmall : |log.tmod one18| ≤ 10 ^ 18 := by
      rw [Int.abs_eq_natAbs, Int.natAbs_tmod]
      exact_mod_cast (Nat.mod_lt _ (by decide)).le
    have highSmall := abs_mul_le wholeSmall ySmall
    have scaledSmall := abs_mul_le fractionSmall ySmall
    have scaledFits := scaledSmall.trans_lt (show _ < 2 ^ 255 by decide)
    have lowSmall := (abs_tdiv_le (log.tmod one18 * y) one18).trans scaledSmall
    have sumSmall := ((abs_add_le _ _).trans (add_le_add highSmall lowSmall)).trans_lt
      (show _ < 2 ^ 255 by decide)
    apply div_then logFits (by decide)
    apply checked_then (highSmall.trans_lt (by decide))
    apply rem_then logFits (by decide)
    apply checked_then scaledFits
    apply div_then scaledFits (by decide)
    apply checked_returns sumSmall
    refine ⟨sumSmall, fun atLeastOne => ?_, fun atMost yGe => ?_⟩
    · have nonneg := above atLeastOne
      exact add_nonneg (mul_nonneg (Int.tdiv_nonneg nonneg (by decide)) yNonneg)
        (Int.tdiv_nonneg (mul_nonneg (Int.tmod_nonneg _ nonneg) yNonneg) (by decide))
    · have fractionNonpos : log.tmod one18 ≤ 0 := by
        have negated := Int.tmod_nonneg one18 (show 0 ≤ -log by omega)
        rw [Int.neg_tmod] at negated
        omega
      apply add_le_of_le_of_nonpos (times _ yGe) (tdiv_nonpos
        (mul_nonpos_of_nonpos_of_nonneg fractionNonpos yNonneg) (by decide))
      apply tdiv_le_neg_of_mul_le (by omega) (by decide)
      rw [one18]
      omega
  · refine (ln_returns xPos xLt).bind fun log ⟨logSmall, above, below⟩ => ?_
    have productSmall := (abs_mul_le logSmall ySmall).trans_lt (show _ < 2 ^ 255 by decide)
    apply checked_returns productSmall
    exact ⟨productSmall, fun atLeastOne => mul_nonneg (above atLeastOne) yNonneg,
      fun atMost => times (below atMost)⟩

/-- No input makes the power function leave the signed 256-bit range, and the power is
on the same side of one as the base. -/
theorem pow_ends (x y : U256) : Outcome.Ends (pow x y) (fun _ => False) fun raw =>
      (10 ^ 18 ≤ x.toNat → 10 ^ 18 ≤ raw.toNat) ∧
      (x.toNat ≤ 92 * 10 ^ 16 → 25 * 10 ^ 16 ≤ y.toNat → raw.toNat ≤ 986 * 10 ^ 15) := by
  rw [pow]
  split
  · rename_i yZero
    rw [yZero]
    exact ⟨fun _ => le_refl _, fun _ large => absurd large (by decide)⟩
  split
  · rename_i xZero
    rw [xZero]
    exact ⟨fun large => absurd large (by decide), fun _ _ => by decide⟩
  rename_i xNonzero
  have xPos := BitVec.toNat_pos_of_ne_zero xNonzero
  rw [I256.tryFrom]
  split
  swap
  · trivial
  rw [okOr_some]
  split
  swap
  · trivial
  rename_i xLt yLt
  have yLess : y.toNat < 2 ^ 254 / 10 ^ 20 := yLt
  rw [I256.tryFrom, if_pos (by omega), expect_some]
  refine (Ends.of_returns (logTimes_returns (by omega) (by omega) (by omega)
    (by omega))).bind fun product ⟨small, above, below⟩ => ?_
  have divided : Returns (I256.div product one18 : Outcome BalancerError Int)
      (· = product.tdiv one18) := div_returns small (by decide) rfl
  refine (Ends.of_returns divided).bind fun logarithm same => ?_
  split
  · trivial
  rename_i outside
  obtain ⟨lower, upper⟩ := not_not.mp outside
  refine (Ends.of_returns (exp_returns lower upper)).bind
    fun result ⟨⟨nonneg, fits⟩, atLeast, atMost⟩ => ?_
  have value : ((BitVec.ofInt 256 result).toNat : Int) = result := by
    rw [BitVec.toNat_ofInt, Int.toNat_of_nonneg (Int.emod_nonneg _ (by decide))]
    exact Int.emod_eq_of_lt nonneg (fits.trans (by decide))
  refine ⟨fun xGe => ?_, fun xLe yGe => ?_⟩
  · have resultGe := atLeast (by
      rw [same]
      exact Int.tdiv_nonneg (above (by omega)) (by decide))
    omega
  · have resultLe := atMost (by
      rw [same]
      apply tdiv_le_neg_of_mul_le (by omega) (by decide)
      rw [one18]
      omega)
    omega

theorem pow_noPanic (x y : U256) : Outcome.NoPanic (pow x y) :=
  (pow_ends x y).noPanic

end LogExpMath

end MandateSolver
