import Mathlib.Algebra.Order.Ring.Int
import Mathlib.Data.BitVec
import MandateSolver.Foundation.Outcome

/-!
# Fixed-width integers, addresses and assets

`U256` is the unsigned 256-bit integer of the source.  Its plain operators wrap around, the
checked ones return `none`, and division by zero aborts.
-/

namespace MandateSolver

instance linearOrderBitVec {width : Nat} : LinearOrder (BitVec width) where
  le_refl value := Nat.le_refl value.toNat
  le_trans _ _ _ first second := Nat.le_trans first second
  lt_iff_le_not_ge _ _ := Nat.lt_iff_le_and_not_ge
  le_antisymm _ _ first second := BitVec.eq_of_toNat_eq (Nat.le_antisymm first second)
  le_total left right := Nat.le_total left.toNat right.toNat
  toDecidableLE := inferInstance
  toDecidableEq := inferInstance
  toDecidableLT := inferInstance
  compare_eq_compareOfLessAndEq _ _ := rfl

abbrev U32 := BitVec 32

abbrev U128 := BitVec 128

abbrev U256 := BitVec 256

abbrev Address := BitVec 160

instance lawfulBEqAddress : LawfulBEq Address := inferInstance

abbrev TokenAddress := Address

namespace U256

def max : U256 := BitVec.allOnes 256

def isZero (value : U256) : Bool := value = 0

section

variable (left right : U256)

def checkedAdd : Option U256 :=
  if left.toNat + right.toNat < 2 ^ 256 then some (left + right) else none

def checkedSub : Option U256 :=
  if right ≤ left then some (left - right) else none

def checkedMul : Option U256 :=
  if left.toNat * right.toNat < 2 ^ 256 then some (left * right) else none

def checkedDiv : Option U256 :=
  if right = 0 then none else some (left / right)

end

def div {ε : Type} (left right : U256) : Outcome ε U256 :=
  if right = 0 then .panic .divisionByZero else .ok (left / right)

def saturatingAdd (left right : U256) : U256 :=
  (checkedAdd left right).getD max

theorem exists_toNat_eq {value : Nat} (fits : value < 2 ^ 256) :
    ∃ result : U256, result.toNat = value :=
  ⟨BitVec.ofNat 256 value, by rw [BitVec.toNat_ofNat, Nat.mod_eq_of_lt fits]⟩

variable {left right result : U256}

theorem checkedAdd_eq_some_iff : checkedAdd left right = some result ↔
      result.toNat = left.toNat + right.toNat := by
  unfold checkedAdd
  split
  · rename_i fits
    rw [Option.some.injEq, ← BitVec.toNat_inj, BitVec.toNat_add, Nat.mod_eq_of_lt fits]
    exact eq_comm
  · rename_i overflows
    constructor
    · simp
    · omega

theorem checkedSub_eq_some_iff : checkedSub left right = some result ↔
      left.toNat = right.toNat + result.toNat := by
  unfold checkedSub
  split
  · rename_i ordered
    have ordered' : right.toNat ≤ left.toNat := ordered
    rw [Option.some.injEq, ← BitVec.toNat_inj, BitVec.toNat_sub_of_le ordered]
    omega
  · rename_i unordered
    have unordered' : ¬right.toNat ≤ left.toNat := unordered
    constructor
    · simp
    · omega

theorem checkedSub_eq_none_iff : checkedSub left right = none ↔ left.toNat < right.toNat := by
  unfold checkedSub
  split
  · rename_i ordered
    simpa [BitVec.le_def] using ordered
  · rename_i unordered
    simpa [BitVec.lt_def] using unordered

theorem toNat_checkedSub_getD (left right : U256) :
    ((checkedSub left right).getD 0).toNat = left.toNat - right.toNat := by
  cases subtracted : checkedSub left right with
  | none =>
    have less := checkedSub_eq_none_iff.mp subtracted
    change 0 = left.toNat - right.toNat
    omega
  | some result =>
    have parts := checkedSub_eq_some_iff.mp subtracted
    rw [Option.getD_some]
    omega

theorem checkedMul_eq_some_iff : checkedMul left right = some result ↔
      result.toNat = left.toNat * right.toNat := by
  unfold checkedMul
  split
  · rename_i fits
    rw [Option.some.injEq, ← BitVec.toNat_inj, BitVec.toNat_mul, Nat.mod_eq_of_lt fits]
    exact eq_comm
  · rename_i overflows
    constructor
    · simp
    · omega

theorem toNat_eq_zero {amount : U256} : amount.toNat = 0 ↔ amount = 0 := by
  simp [← BitVec.toNat_inj]

theorem checkedDiv_eq_some_iff : checkedDiv left right = some result ↔
      0 < right.toNat ∧ result.toNat = left.toNat / right.toNat := by
  unfold checkedDiv
  split
  · rename_i zero
    simp [zero]
  · rename_i nonzero
    have positive := BitVec.toNat_pos_of_ne_zero nonzero
    rw [Option.some.injEq, ← BitVec.toNat_inj, BitVec.toNat_udiv, eq_comm, and_iff_right positive]

@[simp] theorem noPanic_div_iff {ε : Type} :
    Outcome.NoPanic (div left right : Outcome ε U256) ↔ right ≠ 0 := by
  unfold div
  split <;> simp_all

end U256

/-- An amount of a token. -/
structure Asset where
  amount : U256
  token : TokenAddress
  deriving DecidableEq

/-- A ratio of two 256-bit integers.  Whether it is in lowest terms is up to
whoever builds it. -/
structure Rational where
  (numer denom : U256)
  denom_ne_zero : denom ≠ 0
  deriving DecidableEq

/-- Two different addresses, the lower one first. -/
structure TokenPair where
  (first second : Address)
  ordered : first < second
  deriving DecidableEq

namespace TokenPair

def new (left right : Address) : Option TokenPair :=
  if ordered : left < right then some ⟨left, right, ordered⟩
  else if ordered : right < left then some ⟨right, left, ordered⟩
  else none

/-- The token traded for this one. -/
def other (pair : TokenPair) (token : Address) : Option Address :=
  if pair.first = token then some pair.second
  else if pair.second = token then some pair.first
  else none

theorem first_ne_second (pair : TokenPair) : pair.first ≠ pair.second :=
  ne_of_lt pair.ordered

variable {pair : TokenPair}

theorem new_eq_some_iff {left right : Address} :
    new left right = some pair ↔ (pair.first = left ∧ pair.second = right) ∨
        (pair.first = right ∧ pair.second = left) := by
  obtain ⟨first, second, ordered⟩ := pair
  unfold new
  split
  · rename_i ascending
    simp only [Option.some.injEq, mk.injEq]
    constructor
    · rintro ⟨rfl, rfl⟩
      exact Or.inl ⟨rfl, rfl⟩
    · rintro (⟨rfl, rfl⟩ | ⟨rfl, rfl⟩)
      · exact ⟨rfl, rfl⟩
      · exact absurd ordered (lt_asymm ascending)
  · rename_i notAscending
    split
    · simp only [Option.some.injEq, mk.injEq]
      constructor
      · rintro ⟨rfl, rfl⟩
        exact Or.inr ⟨rfl, rfl⟩
      · rintro (⟨rfl, rfl⟩ | ⟨rfl, rfl⟩)
        · exact absurd ordered notAscending
        · exact ⟨rfl, rfl⟩
    · rename_i notDescending
      constructor
      · simp
      · rintro (⟨rfl, rfl⟩ | ⟨rfl, rfl⟩)
        · exact absurd ordered notAscending
        · exact absurd ordered notDescending

theorem new_eq_none_iff {left right : Address} : new left right = none ↔ left = right := by
  unfold new
  split
  · rename_i ascending
    simp [ne_of_lt ascending]
  · rename_i notAscending
    split
    · rename_i descending
      simp [(ne_of_lt descending).symm]
    · rename_i notDescending
      simp [le_antisymm (not_lt.mp notDescending) (not_lt.mp notAscending)]

theorem new_comm (left right : Address) : new left right = new right left := by
  rcases lt_trichotomy left right with ascending | rfl | descending
  · simp [new, lt_asymm ascending]
  · rfl
  · simp [new, lt_asymm descending]

@[simp] theorem new_self (pair : TokenPair) : new pair.first pair.second = some pair :=
  new_eq_some_iff.mpr (Or.inl ⟨rfl, rfl⟩)

theorem other_of_new {left right : Address}
    (built : new left right = some pair) : pair.other right = some left := by
  have distinct := pair.first_ne_second
  rcases new_eq_some_iff.mp built with ⟨rfl, rfl⟩ | ⟨rfl, rfl⟩
  · simp [other, distinct]
  · simp [other]

end TokenPair

end MandateSolver
