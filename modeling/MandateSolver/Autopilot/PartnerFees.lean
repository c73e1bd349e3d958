import Mathlib.Tactic.FieldSimp
import Mathlib.Tactic.Linarith
import Mathlib.Tactic.Positivity
import Mathlib.Tactic.Ring
import MandateSolver.Eth

/-!
# Partner fees

Every fee is limited by what the earlier ones left below the cap.  The headroom is that of
factors that compound, but the running total adds them up, so from the third fee on it is
behind.  Decimals are exact here.
-/

namespace MandateSolver.Autopilot.ProtocolFees

open List

/-! ## App data -/

/-- A fee policy in basis points. -/
inductive AppFeePolicy where
  | surplus (bps maxVolumeBps : UInt64)
  | priceImprovement (bps maxVolumeBps : UInt64)
  | volume (bps : UInt64)

/-- What a partner asks for. -/
structure PartnerFee where
  policy : AppFeePolicy
  recipient : Address

structure ProtocolAppData where
  partnerFee : List PartnerFee

structure Order where
  fullAppData : Option (List UInt8)

/-! ## Policies -/

structure Quote where
  (sellAmount buyAmount fee : U256)
  solver : Address

/-- A fee policy in fractions. -/
inductive Policy where
  | surplus (factor maxVolumeFactor : ℚ)
  | priceImprovement (factor maxVolumeFactor : ℚ) (quote : Quote)
  | volume (factor : ℚ)

def maxBps : Nat := 10000

def remainingFactor (cap accumulated : ℚ) : ℚ :=
  (1 + cap) / (1 + accumulated) - 1

def feeFactorFromCapped (value cap accumulated : ℚ) : ℚ × ℚ :=
  (min (max value 0) (remainingFactor cap accumulated), accumulated + min value (cap - accumulated))

def feeFactorFromBps (bps : UInt64) : ℚ :=
  (min bps.toNat (maxBps - 1) : Nat) / maxBps

def fractionOfBps (bps : UInt64) : ℚ :=
  bps.toNat / maxBps

/-- The closure that is mapped over the partner fees, the total it captures
passed in and out. -/
def policyOfPartnerFee (quote : Quote) (maxPartnerFee : ℚ)
    (partnerFee : PartnerFee) (accumulated : ℚ) : Policy × ℚ :=
  match partnerFee.policy with
  | .volume bps =>
    let (factor, accumulated) :=
      feeFactorFromCapped (fractionOfBps bps) maxPartnerFee accumulated
    (.volume factor, accumulated)
  | .surplus bps maxVolumeBps =>
    let (maxVolumeFactor, accumulated) :=
      feeFactorFromCapped (fractionOfBps maxVolumeBps) maxPartnerFee accumulated
    (.surplus (feeFactorFromBps bps) maxVolumeFactor, accumulated)
  | .priceImprovement bps maxVolumeBps =>
    let (maxVolumeFactor, accumulated) :=
      feeFactorFromCapped (fractionOfBps maxVolumeBps) maxPartnerFee accumulated
    (.priceImprovement (feeFactorFromBps bps) maxVolumeFactor quote, accumulated)

def policiesOfPartnerFees (quote : Quote) (maxPartnerFee : ℚ) : List PartnerFee → ℚ → List Policy
  | [], _ => []
  | partnerFee :: partnerFees, accumulated =>
    let (policy, accumulated) :=
      policyOfPartnerFee quote maxPartnerFee partnerFee accumulated
    policy :: policiesOfPartnerFees quote maxPartnerFee partnerFees accumulated

/-- `validate` parses the document; an order without app data or with app data
that does not validate has no partner fees. -/
def getPartnerFee (validate : List UInt8 → Option ProtocolAppData)
    (order : Order) (quote : Quote) (maxPartnerFee : ℚ) : List Policy :=
  match order.fullAppData with
  | none => []
  | some fullAppData =>
    match validate fullAppData with
    | none => []
    | some validated =>
      policiesOfPartnerFees quote maxPartnerFee validated.partnerFee 0

/-! ## Requested and granted fractions of the volume -/

def AppFeePolicy.volumeFraction : AppFeePolicy → ℚ
  | .volume bps => fractionOfBps bps
  | .surplus _ maxVolumeBps | .priceImprovement _ maxVolumeBps => fractionOfBps maxVolumeBps

def Policy.volumeFactor : Policy → ℚ
  | .volume factor => factor
  | .surplus _ maxVolumeFactor | .priceImprovement _ maxVolumeFactor _ => maxVolumeFactor

def requested (validate : List UInt8 → Option ProtocolAppData) (order : Order) : List ℚ :=
  match order.fullAppData.bind validate with
  | none => []
  | some validated =>
    validated.partnerFee.map fun partnerFee => partnerFee.policy.volumeFraction

def compounded (factors : List ℚ) : ℚ :=
  (factors.map (1 + ·)).prod

@[simp]
theorem compounded_nil : compounded [] = 1 := rfl

@[simp]
theorem compounded_cons (factor : ℚ) (factors : List ℚ) :
    compounded (factor :: factors) = (1 + factor) * compounded factors := by
  simp [compounded]

theorem one_le_compounded {factors : List ℚ}
    (nonneg : ∀ factor ∈ factors, 0 ≤ factor) : 1 ≤ compounded factors := by
  induction factors with
  | nil => simp
  | cons factor factors ih =>
    have rest := ih fun other mem =>
      nonneg other (mem_cons_of_mem _ mem)
    have first := nonneg factor mem_cons_self
    rw [compounded_cons]
    nlinarith

/-! ## Capping a list of fractions -/

def cappedFactors (cap : ℚ) : List ℚ → ℚ → List ℚ
  | [], _ => []
  | value :: values, accumulated =>
    let (factor, accumulated) := feeFactorFromCapped value cap accumulated
    factor :: cappedFactors cap values accumulated

theorem policiesOfPartnerFees_volumeFactors (quote : Quote) (cap : ℚ)
    (partnerFees : List PartnerFee) (accumulated : ℚ) :
    (policiesOfPartnerFees quote cap partnerFees accumulated).map Policy.volumeFactor =
      cappedFactors cap (partnerFees.map fun partnerFee => partnerFee.policy.volumeFraction)
        accumulated := by
  induction partnerFees generalizing accumulated with
  | nil => rfl
  | cons partnerFee partnerFees ih =>
    obtain ⟨policy, _⟩ := partnerFee
    cases policy <;>
      simp only [policiesOfPartnerFees, policyOfPartnerFee, map_cons,
        cappedFactors, AppFeePolicy.volumeFraction, Policy.volumeFactor,
        ih]

variable (validate : List UInt8 → Option ProtocolAppData)

theorem getPartnerFee_volumeFactors (order : Order) (quote : Quote) (cap : ℚ) :
    (getPartnerFee validate order quote cap).map Policy.volumeFactor =
      cappedFactors cap (requested validate order) 0 := by
  unfold getPartnerFee requested
  cases order.fullAppData with
  | none => rfl
  | some fullAppData =>
    cases accepted : validate fullAppData with
    | none => simp [accepted, cappedFactors]
    | some validated =>
      simp [accepted, policiesOfPartnerFees_volumeFactors]

theorem fractionOfBps_nonneg (bps : UInt64) : 0 ≤ fractionOfBps bps := by
  unfold fractionOfBps
  positivity

theorem requested_nonneg (order : Order) : ∀ value ∈ requested validate order, 0 ≤ value := by
  unfold requested
  cases order.fullAppData.bind validate with
  | none => simp
  | some validated =>
    simp only [forall_mem_map]
    intro partnerFee _
    cases partnerFee.policy <;> exact fractionOfBps_nonneg _

section

variable {cap accumulated value : ℚ} {values : List ℚ}

theorem remainingFactor_nonneg (zero_le : 0 ≤ accumulated)
    (within : accumulated ≤ cap) : 0 ≤ remainingFactor cap accumulated := by
  unfold remainingFactor
  rw [sub_nonneg, one_le_div (by linarith)]
  linarith

theorem mul_one_add_remainingFactor (cap : ℚ) (zero_le : 0 ≤ accumulated) :
    (1 + accumulated) * (1 + remainingFactor cap accumulated) = 1 + cap := by
  unfold remainingFactor
  field_simp
  ring

theorem remainingFactor_le (zero_le : 0 ≤ accumulated) (within : accumulated ≤ cap) :
    remainingFactor cap accumulated ≤ cap - accumulated := by
  have product := mul_one_add_remainingFactor cap zero_le
  nlinarith

theorem remainingFactor_self (zero_le : 0 ≤ cap) : remainingFactor cap cap = 0 := by
  have positive : 1 + cap ≠ 0 := by linarith
  simp [remainingFactor, div_self positive]

theorem feeFactorFromCapped_of_nonneg (nonneg : 0 ≤ value) :
    feeFactorFromCapped value cap accumulated = (min value (remainingFactor cap accumulated),
        accumulated + min value (cap - accumulated)) := by
  rw [feeFactorFromCapped, max_eq_left nonneg]

theorem cappedFactors_cons (nonneg : 0 ≤ value) : cappedFactors cap (value :: values) accumulated =
      min value (remainingFactor cap accumulated) ::
        cappedFactors cap values (accumulated + min value (cap - accumulated)) := by
  rw [cappedFactors, feeFactorFromCapped_of_nonneg nonneg]

theorem accumulated_within (nonneg : 0 ≤ value) (zero_le : 0 ≤ accumulated)
    (within : accumulated ≤ cap) :
    0 ≤ accumulated + min value (cap - accumulated) ∧
      accumulated + min value (cap - accumulated) ≤ cap := by
  have lower := le_min nonneg (sub_nonneg.mpr within)
  have upper := min_le_right value (cap - accumulated)
  constructor <;> linarith

theorem cappedFactors_nonneg (nonneg : ∀ value ∈ values, 0 ≤ value)
    (zero_le : 0 ≤ accumulated) (within : accumulated ≤ cap) :
    ∀ factor ∈ cappedFactors cap values accumulated, 0 ≤ factor := by
  induction values generalizing accumulated with
  | nil => simp [cappedFactors]
  | cons value values ih =>
    have first := nonneg value mem_cons_self
    have total := accumulated_within first zero_le within
    rw [cappedFactors_cons first]
    simp only [forall_mem_cons]
    exact ⟨le_min first (remainingFactor_nonneg zero_le within),
      ih (fun other mem => nonneg other (mem_cons_of_mem _ mem)) total.1 total.2⟩

theorem cappedFactors_le (nonneg : ∀ value ∈ values, 0 ≤ value) :
    List.Forall₂ (· ≤ ·) (cappedFactors cap values accumulated) values := by
  induction values generalizing accumulated with
  | nil => exact .nil
  | cons value values ih =>
    rw [cappedFactors_cons (nonneg value mem_cons_self)]
    exact .cons (min_le_left _ _) (ih fun other mem => nonneg other (mem_cons_of_mem _ mem))

theorem compounded_cappedFactors_full (zero_le : 0 ≤ cap) (nonneg : ∀ value ∈ values, 0 ≤ value) :
    compounded (cappedFactors cap values cap) = 1 := by
  induction values with
  | nil => rfl
  | cons value values ih =>
    have first := nonneg value mem_cons_self
    have rest := ih fun other mem =>
      nonneg other (mem_cons_of_mem _ mem)
    rw [cappedFactors_cons first, remainingFactor_self zero_le, sub_self,
      min_eq_right first, add_zero, compounded_cons, rest]
    ring

theorem compounded_cappedFactors_filter (nonneg : ∀ value ∈ values, 0 ≤ value)
    (zero_le : 0 ≤ accumulated) (within : accumulated ≤ cap) :
    compounded (cappedFactors cap (values.filter (· ≠ 0)) accumulated) =
      compounded (cappedFactors cap values accumulated) := by
  induction values generalizing accumulated with
  | nil => rfl
  | cons value values ih =>
    have first := nonneg value mem_cons_self
    have rest := fun other mem => nonneg other (mem_cons_of_mem _ mem)
    have total := accumulated_within first zero_le within
    by_cases zero : value = 0
    · subst zero
      rw [filter_cons_of_neg (by simp), cappedFactors_cons first,
        min_eq_left (remainingFactor_nonneg zero_le within),
        min_eq_left (sub_nonneg.mpr within),
        ih rest zero_le within]
      simp
    · rw [filter_cons_of_pos (by simpa using zero), cappedFactors_cons first,
        cappedFactors_cons first, compounded_cons, compounded_cons,
        ih rest total.1 total.2]

/-- Once the fees compound to more than the running total says, the cap binds
too late: it is kept only if it would be kept without capping. -/
theorem compounded_ahead_iff {compound : ℚ} (nonneg : ∀ value ∈ values, 0 ≤ value)
    (zero_le : 0 ≤ accumulated) (within : accumulated ≤ cap) (ahead : 1 + accumulated < compound) :
    compound * compounded (cappedFactors cap values accumulated) ≤ 1 + cap ↔
      compound * compounded values ≤ 1 + cap := by
  induction values generalizing accumulated compound with
  | nil => rfl
  | cons value values ih =>
    have first := nonneg value mem_cons_self
    have rest := fun other mem => nonneg other (mem_cons_of_mem _ mem)
    have total := accumulated_within first zero_le within
    rw [cappedFactors_cons first, compounded_cons, compounded_cons, ← mul_assoc, ← mul_assoc]
    by_cases fits : value ≤ remainingFactor cap accumulated
    · have room := fits.trans (remainingFactor_le zero_le within)
      rw [min_eq_left fits, min_eq_left room]
      rw [min_eq_left room] at total
      exact ih rest total.1 total.2 (by nlinarith)
    · -- the cut down factor alone leads beyond the cap
      have headroom := remainingFactor_nonneg zero_le within
      have beyond : 1 + cap < compound * (1 + remainingFactor cap accumulated) := by
        rw [← mul_one_add_remainingFactor cap zero_le]
        exact mul_lt_mul_of_pos_right ahead (by linarith)
      rw [not_le] at fits
      have more : 1 + cap < compound * (1 + value) :=
        beyond.trans (mul_lt_mul_of_pos_left (by linarith) (by linarith))
      rw [min_eq_right fits.le]
      have granted := one_le_compounded (cappedFactors_nonneg rest total.1 total.2)
      have asked := one_le_compounded rest
      constructor <;> intro _ <;> nlinarith

theorem compounded_cappedFactors_first (nonneg : 0 ≤ value) :
    compounded (cappedFactors cap (value :: values) 0) =
      (1 + min value cap) * compounded (cappedFactors cap values (min value cap)) := by
  have headroom : remainingFactor cap 0 = cap := by simp [remainingFactor]
  rw [cappedFactors_cons nonneg, headroom, sub_zero, zero_add, compounded_cons]

theorem compounded_second_le (zero_le : 0 ≤ accumulated) :
    (1 + accumulated) * (1 + min value (remainingFactor cap accumulated)) ≤ 1 + cap := by
  rw [← mul_one_add_remainingFactor cap zero_le]
  have smaller := min_le_right value (remainingFactor cap accumulated)
  gcongr

theorem compounded_cappedFactors_le_of_sum {second : ℚ} (zero_le : 0 ≤ cap)
    (nonneg : ∀ other ∈ value :: second :: values, 0 ≤ other) (full : cap ≤ value + second) :
    compounded (cappedFactors cap (value :: second :: values) 0) ≤ 1 + cap := by
  simp only [forall_mem_cons] at nonneg
  obtain ⟨first, next, rest⟩ := nonneg
  have granted := le_min first zero_le
  have reached : min value cap + min second (cap - min value cap) = cap := by
    rcases le_total value cap with below | above
    · rw [min_eq_left below, min_eq_right (by linarith)]
      ring
    · rw [min_eq_right above, sub_self, min_eq_right next, add_zero]
  rw [compounded_cappedFactors_first first, cappedFactors_cons next, reached,
    compounded_cons, compounded_cappedFactors_full zero_le rest, mul_one]
  exact compounded_second_le granted

/-- With the first two fees adding up to less than the cap, the running total
is behind from the third fee on. -/
theorem compounded_cappedFactors_third_iff {second third : ℚ}
    (positive : ∀ other ∈ value :: second :: third :: values, 0 < other)
    (room : value + second < cap) :
    compounded (cappedFactors cap (value :: second :: third :: values) 0) ≤ 1 + cap ↔
      compounded (value :: second :: third :: values) ≤ 1 + cap := by
  have nonneg := fun other mem => (positive other mem).le
  simp only [forall_mem_cons] at positive nonneg
  obtain ⟨first, next, _, -⟩ := positive
  have rest : ∀ other ∈ third :: values, 0 ≤ other := by
    simpa only [forall_mem_cons] using nonneg.2.2
  have more : 1 < compounded (third :: values) := by
    have tail := one_le_compounded nonneg.2.2.2
    rw [compounded_cons]
    nlinarith
  have product := mul_one_add_remainingFactor cap first.le
  have expand : compounded (value :: second :: third :: values) =
      (1 + value) * (1 + second) * compounded (third :: values) := by
    rw [compounded_cons, compounded_cons _ (third :: values), mul_assoc]
  rw [compounded_cappedFactors_first first.le, min_eq_left (by linarith),
    cappedFactors_cons next.le, min_eq_left (le_sub_iff_add_le'.mpr room.le),
    compounded_cons, ← mul_assoc, expand]
  by_cases fits : second ≤ remainingFactor cap value
  · rw [min_eq_left fits]
    exact compounded_ahead_iff rest (by linarith) room.le (by nlinarith)
  · -- the second fee was cut down to the cap, so any further one exceeds it
    rw [not_le] at fits
    rw [min_eq_right fits.le, compounded_ahead_iff rest (by linarith) room.le (by linarith)]
    have larger : 1 + cap < (1 + value) * (1 + second) := by
      rw [← product]
      exact mul_lt_mul_of_pos_left (by linarith) (by linarith)
    constructor <;> intro _ <;> nlinarith

theorem compounded_cappedFactors_le_iff (zero_le : 0 ≤ cap)
    (positive : ∀ value ∈ values, 0 < value) :
    compounded (cappedFactors cap values 0) ≤ 1 + cap ↔
      compounded values ≤ 1 + cap ∨ values.length ≤ 2 ∨ cap ≤ (values.take 2).sum := by
  match values with
  | [] => simp [cappedFactors, zero_le]
  | [value] =>
    have first := positive value (by simp)
    rw [compounded_cappedFactors_first first.le]
    simp [cappedFactors]
  | [value, second] =>
    simp only [forall_mem_cons] at positive
    rw [compounded_cappedFactors_first positive.1.le, cappedFactors_cons positive.2.1.le]
    simpa [cappedFactors] using compounded_second_le (le_min positive.1.le zero_le)
  | value :: second :: third :: values =>
    have nonneg := fun other mem => (positive other mem).le
    by_cases full : cap ≤ value + second
    · have within := compounded_cappedFactors_le_of_sum zero_le nonneg full
      simp [within, full]
    · rw [compounded_cappedFactors_third_iff positive (not_le.mp full)]
      simp [full]

end

/-- Factors compound to at most the cap, and none exceeds its request. -/
structure RespectsCap (cap : ℚ) (fractions factors : List ℚ) : Prop where
  compounded : compounded factors ≤ 1 + cap
  atMostRequested : List.Forall₂ (· ≤ ·) factors fractions

/-- The cap is kept exactly if the fees that ask for something would keep it
anyway, are no more than two, or reach it with the first two of them. -/
theorem getPartnerFee_respectsCap_iff
    (validate : List UInt8 → Option ProtocolAppData) (order : Order)
    (quote : Quote) (cap : ℚ) (zero_le : 0 ≤ cap) :
    let fees := (requested validate order).filter (· ≠ 0)
    RespectsCap cap (requested validate order)
        ((getPartnerFee validate order quote cap).map Policy.volumeFactor) ↔
      compounded fees ≤ 1 + cap ∨ fees.length ≤ 2 ∨ cap ≤ (fees.take 2).sum := by
  intro fees
  have nonneg := requested_nonneg validate order
  have positive : ∀ value ∈ fees, 0 < value := by
    intro value mem
    have ⟨present, nonzero⟩ := mem_filter.mp mem
    exact (nonneg value present).lt_of_ne' (of_decide_eq_true nonzero)
  rw [getPartnerFee_volumeFactors, ← compounded_cappedFactors_le_iff zero_le positive,
    compounded_cappedFactors_filter nonneg le_rfl zero_le]
  exact ⟨RespectsCap.compounded, fun within => ⟨within, cappedFactors_le nonneg⟩⟩

def threeFees (_ : List UInt8) : Option ProtocolAppData :=
  some ⟨List.replicate 3 ⟨.volume 40, 0⟩⟩

theorem requested_threeFees : requested threeFees ⟨some []⟩ = [1 / 250, 1 / 250, 1 / 250] := by
  have forty : fractionOfBps 40 = 1 / 250 := by
    show 40 / (10000 : ℚ) = 1 / 250
    norm_num
  simp [requested, threeFees, AppFeePolicy.volumeFraction, forty]

theorem getPartnerFee_respectsCap_iff_wide : RespectsCap (1 / 10) (requested threeFees ⟨some []⟩)
      ((getPartnerFee threeFees ⟨some []⟩ ⟨0, 0, 0, 0⟩ (1 / 10)).map Policy.volumeFactor) := by
  refine (getPartnerFee_respectsCap_iff _ _ _ _ (by norm_num)).mpr (.inl ?_)
  rw [requested_threeFees]
  norm_num [compounded]

theorem getPartnerFee_exceedsCap : ¬ RespectsCap (1 / 100) (requested threeFees ⟨some []⟩)
      ((getPartnerFee threeFees ⟨some []⟩ ⟨0, 0, 0, 0⟩ (1 / 100)).map Policy.volumeFactor) := by
  intro respects
  have within := respects.compounded
  rw [getPartnerFee_volumeFactors, requested_threeFees] at within
  norm_num [compounded, cappedFactors, feeFactorFromCapped, remainingFactor] at within

end MandateSolver.Autopilot.ProtocolFees
