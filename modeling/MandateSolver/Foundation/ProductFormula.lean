import Mathlib.Tactic.Ring
import Mathlib.Tactic.Linarith

/-!
# The constant product formula on natural numbers

What is paid in may be weighted, so that part of it does not count towards the product.
-/

namespace MandateSolver.ProductFormula

variable {reserve payment target amount : ℕ}

/-- What a payment into one reserve takes out of the other, rounded down. -/
def received (reserve target payment : ℕ) : ℕ :=
  payment * target / (reserve + payment)

theorem le_received_iff (positive : 0 < reserve) :
    amount ≤ received reserve target payment ↔ amount * (reserve + payment) ≤ payment * target :=
  Nat.le_div_iff_mul_le (Nat.add_pos_left positive payment)

theorem received_lt (positive : 0 < reserve) (filled : 0 < target) :
    received reserve target payment < target := by
  apply (Nat.div_lt_iff_lt_mul (Nat.add_pos_left positive payment)).mpr
  rw [Nat.mul_comm target]
  apply Nat.mul_lt_mul_of_pos_right _ filled
  exact Nat.lt_add_of_pos_left positive

theorem received_mono (positive : 0 < reserve) {larger : ℕ} (le : payment ≤ larger) :
    received reserve target payment ≤ received reserve target larger := by
  rw [le_received_iff positive]
  have taken := (le_received_iff positive).mp (le_refl (received reserve target payment))
  have notAll : received reserve target payment ≤ target := by
    apply Nat.div_le_of_le_mul
    exact Nat.mul_le_mul_right target (Nat.le_add_left payment reserve)
  obtain ⟨more, rfl⟩ := Nat.exists_eq_add_of_le le
  calc received reserve target payment * (reserve + (payment + more))
    _ = received reserve target payment * (reserve + payment) +
          received reserve target payment * more := by ring
    _ ≤ payment * target + target * more := Nat.add_le_add taken (Nat.mul_le_mul_right more notAll)
    _ = (payment + more) * target := by ring

/-- The product of the reserves does not fall. -/
def Keeps (reserve target payment : ℕ) (amount : ℤ) : Prop :=
  (reserve * target : ℤ) ≤ (reserve + payment) * (target - amount)

/-- The amount received is the largest one that keeps the product. -/
theorem received_isGreatest (positive : 0 < reserve) :
    IsGreatest {amount : ℤ | Keeps reserve target payment amount}
      (received reserve target payment) := by
  constructor
  · have taken := (le_received_iff positive).mp (le_refl (received reserve target payment))
    change (_ : ℤ) ≤ _
    linarith
  · intro amount keeps
    change (_ : ℤ) ≤ _ at keeps
    rcases le_total amount 0 with negative | natural
    · exact negative.trans (Int.natCast_nonneg _)
    · obtain ⟨amount, rfl⟩ := Int.eq_ofNat_of_zero_le natural
      rw [Int.ofNat_le, le_received_iff positive]
      linarith

theorem keeps_scale_iff {factor : ℕ} (positive : 0 < factor) {amount : ℤ} :
    Keeps (reserve * factor) target (payment * factor) amount ↔
      Keeps reserve target payment amount := by
  unfold Keeps
  push_cast
  rw [show (reserve * factor * target : ℤ) = factor * (reserve * target) by ring,
    show ((reserve * factor + payment * factor) * (target - amount) : ℤ) =
      factor * ((reserve + payment) * (target - amount)) by ring]
  exact mul_le_mul_iff_of_pos_left (Int.natCast_pos.mpr positive)

/-- An amount below the other reserve is received for every payment that, times
what is left of that reserve, covers the amount times this reserve. -/
theorem le_received_iff_covers (positive : 0 < reserve) (left : amount ≤ target) :
    amount ≤ received reserve target payment ↔ reserve * amount ≤ payment * (target - amount) := by
  rw [le_received_iff positive]
  obtain ⟨_, rfl⟩ := Nat.exists_eq_add_of_le left
  rw [Nat.add_sub_cancel_left, Nat.mul_add, Nat.mul_add, Nat.mul_comm amount reserve,
    Nat.mul_comm amount payment, Nat.add_comm, Nat.add_le_add_iff_left]

end MandateSolver.ProductFormula
