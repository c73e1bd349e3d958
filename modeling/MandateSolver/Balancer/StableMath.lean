import MandateSolver.Balancer.FixedPoint

/-!
# Swaps of a stable pool

The invariant of the pool and the balance it implies are both found by a
fixed-point iteration of at most 255 rounds.
-/

namespace MandateSolver

namespace U256

section

variable (left right : U256)

def bmul : Outcome BalancerError U256 :=
  Outcome.okOr .mulOverflow (left.checkedMul right)

def badd : Outcome BalancerError U256 :=
  Outcome.okOr .addOverflow (left.checkedAdd right)

def bsub : Outcome BalancerError U256 :=
  Outcome.okOr .subOverflow (left.checkedSub right)

def bdivDown : Outcome BalancerError U256 :=
  if right.isZero then .err .zeroDivision else U256.div left right

def bdivUp : Outcome BalancerError U256 :=
  if right.isZero then .err .zeroDivision
  else if left.isZero then .ok 0
  else do
    let quotient ← U256.div (left - 1) right
    return 1 + quotient

end

variable (left right : U256)

@[simp] theorem bmul_noPanic : Outcome.NoPanic (left.bmul right) := by
  simp [bmul]

@[simp] theorem badd_noPanic : Outcome.NoPanic (left.badd right) := by
  simp [badd]

@[simp] theorem bsub_noPanic : Outcome.NoPanic (left.bsub right) := by
  simp [bsub]

@[simp] theorem bdivDown_noPanic : Outcome.NoPanic (left.bdivDown right) := by
  unfold bdivDown
  split <;> simp_all [isZero]

@[simp] theorem bdivUp_noPanic : Outcome.NoPanic (left.bdivUp right) := by
  unfold bdivUp
  split
  · simp
  · split <;> simp_all [isZero]

end U256

namespace StableMath

def ampPrecision : U256 := 1000

/-- The value of a converged iteration: one that moved by at most one. -/
def convergenceCriteria (currValue prevValue : U256) : Outcome BalancerError (Option U256) :=
  if prevValue < currValue then do
    let difference ← Outcome.expectOk "curr_value > prev_value"
      (currValue.bsub prevValue)
    return if difference ≤ 1 then some currValue else none
  else do
    let difference ← Outcome.expectOk "prev_value >= curr_value"
      (prevValue.bsub currValue)
    return if difference ≤ 1 then some currValue else none

/-- Repeat a round until its value converges, for at most `fuel` rounds. -/
def iterate (round : U256 → Outcome BalancerError U256)
    (failure : BalancerError) : Nat → U256 → Outcome BalancerError U256
  | 0, _ => .err failure
  | fuel + 1, previous => do
    let current ← round previous
    match ← convergenceCriteria current previous with
    | none => iterate round failure fuel current
    | some value => .ok value

def invariantRound (ampTimesTotal sum numTokens : U256) (balances : List Bfp)
    (invariant : U256) : Outcome BalancerError U256 := do
  let dP ← balances.foldlM (fun dP balance => do
    let product ← U256.bmul dP invariant
    let divisor ← balance.asUint256.bmul numTokens
    product.bdivDown divisor) invariant
  let ampSum ← ampTimesTotal.bmul sum
  let ampSum ← ampSum.bdivDown ampPrecision
  let dPTokens ← U256.bmul dP numTokens
  let numerator ← ampSum.badd dPTokens
  let numerator ← numerator.bmul invariant
  let ampRest ← ampTimesTotal.bsub ampPrecision
  let ampRest ← ampRest.bmul invariant
  let ampRest ← ampRest.bdivDown ampPrecision
  let nextTokens ← numTokens.badd 1
  let dPNext ← nextTokens.bmul dP
  let denominator ← ampRest.badd dPNext
  numerator.bdivDown denominator

def calculateInvariant (amplificationParameter : U256) (balances : List Bfp) :
    Outcome BalancerError U256 := do
  let sum ← balances.foldlM (fun sum balance => U256.badd sum balance.asUint256) 0
  if sum.isZero then return sum
  else do
    let numTokens : U256 := BitVec.ofNat 256 balances.length
    let ampTimesTotal ← amplificationParameter.bmul numTokens
    iterate (invariantRound ampTimesTotal sum numTokens balances)
      .stableInvariantDidntConverge 255 sum

def tokenBalanceRound (invariant b c tokenBalance : U256) : Outcome BalancerError U256 := do
  let square ← tokenBalance.bmul tokenBalance
  let numerator ← square.badd c
  let double ← tokenBalance.bmul 2
  let shifted ← double.badd b
  let denominator ← shifted.bsub invariant
  numerator.bdivUp denominator

def productAndSum (numTokens invariant : U256) (first : Bfp)
    (rest : List Bfp) : Outcome BalancerError (U256 × U256) := do
  let pD ← first.asUint256.bmul numTokens
  rest.foldlM (fun state balance => do
    let product ← U256.bmul state.1 balance.asUint256
    let scaled ← product.bmul numTokens
    let pD ← scaled.bdivDown invariant
    let sum ← U256.badd state.2 balance.asUint256
    return (pD, sum)) (pD, first.asUint256)

section

variable (amplificationParameter : U256) (balances : List Bfp)

def getTokenBalanceGivenInvariantAndAllOtherBalances
    (invariant : U256) (tokenIndex : Nat) : Outcome BalancerError Bfp := do
  let numTokens : U256 := BitVec.ofNat 256 balances.length
  let ampTimesTotal ← amplificationParameter.bmul numTokens
  let first ← Outcome.index balances 0
  let (pD, sum) ← productAndSum numTokens invariant first balances.tail
  let own ← Outcome.index balances tokenIndex
  let sum := sum - own.asUint256
  let inv2 ← invariant.bmul invariant
  let ampProduct ← ampTimesTotal.bmul pD
  let c ← inv2.bdivUp ampProduct
  let c ← c.bmul ampPrecision
  let c ← c.bmul own.asUint256
  let ampQuotient ← invariant.bdivDown ampTimesTotal
  let ampQuotient ← ampQuotient.bmul ampPrecision
  let b ← sum.badd ampQuotient
  let numerator ← inv2.badd c
  let denominator ← invariant.badd b
  let tokenBalance ← numerator.bdivUp denominator
  let balance ← iterate (tokenBalanceRound invariant b c)
    .stableGetBalanceDidntConverge 255 tokenBalance
  return Bfp.fromWei balance

def calcOutGivenIn (tokenIndexIn tokenIndexOut : Nat) (tokenAmountIn : Bfp) :
    Outcome BalancerError Bfp :=
  if balances.length ≤ tokenIndexOut ∨ balances.length ≤ tokenIndexIn then
    .err .invalidToken
  else do
    let invariant ← calculateInvariant amplificationParameter balances
    let balanceIn ← Outcome.index balances tokenIndexIn
    let increased ← balanceIn.add tokenAmountIn
    let balances := balances.set tokenIndexIn increased
    let finalBalanceOut ← getTokenBalanceGivenInvariantAndAllOtherBalances
      amplificationParameter balances invariant tokenIndexOut
    let balanceIn ← Outcome.index balances tokenIndexIn
    let restored ← Outcome.expectOk "will not underflow"
      (balanceIn.sub tokenAmountIn)
    let balances := balances.set tokenIndexIn restored
    let balanceOut ← Outcome.index balances tokenIndexOut
    let difference ← balanceOut.sub finalBalanceOut
    difference.sub (Bfp.fromWei 1)

def calcInGivenOut (tokenIndexIn tokenIndexOut : Nat) (tokenAmountOut : Bfp) :
    Outcome BalancerError Bfp :=
  if balances.length ≤ tokenIndexOut ∨ balances.length ≤ tokenIndexIn then
    .err .invalidToken
  else do
    let invariant ← calculateInvariant amplificationParameter balances
    let balanceOut ← Outcome.index balances tokenIndexOut
    let decreased ← balanceOut.sub tokenAmountOut
    let balances := balances.set tokenIndexOut decreased
    let finalBalanceIn ← getTokenBalanceGivenInvariantAndAllOtherBalances
      amplificationParameter balances invariant tokenIndexIn
    let balanceOut ← Outcome.index balances tokenIndexOut
    let restored ← Outcome.expectOk "Will not overflow"
      (balanceOut.add tokenAmountOut)
    let balances := balances.set tokenIndexOut restored
    let balanceIn ← Outcome.index balances tokenIndexIn
    let difference ← finalBalanceIn.sub balanceIn
    difference.add (Bfp.fromWei 1)

end

/-! ## A swap never aborts -/

private theorem bsub_of_le {left right : U256} (ordered : right ≤ left) :
    ∃ difference, left.bsub right = .ok difference := by
  simp [U256.bsub, U256.checkedSub, ordered]

@[simp] theorem convergenceCriteria_noPanic (currValue prevValue : U256) :
    Outcome.NoPanic (convergenceCriteria currValue prevValue) := by
  unfold convergenceCriteria
  split
  · rename_i ascending
    obtain ⟨difference, success⟩ := bsub_of_le (le_of_lt ascending)
    simp [success]
  · rename_i notAscending
    obtain ⟨difference, success⟩ := bsub_of_le (not_lt.mp notAscending)
    simp [success]

theorem iterate_noPanic {round : U256 → Outcome BalancerError U256}
    (roundSafe : ∀ value, Outcome.NoPanic (round value))
    (failure : BalancerError) (fuel : Nat) (start : U256) :
    Outcome.NoPanic (iterate round failure fuel start) := by
  induction fuel generalizing start with
  | zero => simp [iterate]
  | succ fuel ih =>
    refine (roundSafe start).seq fun current => ?_
    refine (convergenceCriteria_noPanic current start).seq fun converged => ?_
    cases converged with
    | none => exact ih current
    | some value => simp

theorem invariantRound_noPanic (ampTimesTotal sum numTokens : U256)
    (balances : List Bfp) (invariant : U256) :
    Outcome.NoPanic (invariantRound ampTimesTotal sum numTokens balances invariant) := by
  exact Outcome.NoPanic.seq (.foldlM (by simp)) (by simp)

variable (amplificationParameter : U256)

@[simp] theorem calculateInvariant_noPanic (balances : List Bfp) :
    Outcome.NoPanic (calculateInvariant amplificationParameter balances) := by
  refine Outcome.NoPanic.seq (by simp) fun sum => ?_
  split
  · simp
  · exact (U256.bmul_noPanic _ _).seq fun ampTimesTotal =>
      iterate_noPanic (invariantRound_noPanic _ _ _ _) _ _ _

theorem tokenBalanceRound_noPanic (invariant b c tokenBalance : U256) :
    Outcome.NoPanic (tokenBalanceRound invariant b c tokenBalance) := by
  simp [tokenBalanceRound]

@[simp] theorem productAndSum_noPanic (numTokens invariant : U256) (first : Bfp) (rest : List Bfp) :
    Outcome.NoPanic (productAndSum numTokens invariant first rest) := by
  simp [productAndSum]

theorem getTokenBalance_noPanic {balances : List Bfp} (invariant : U256) {tokenIndex : Nat}
    (inBounds : tokenIndex < balances.length) :
    Outcome.NoPanic (getTokenBalanceGivenInvariantAndAllOtherBalances
      amplificationParameter balances invariant tokenIndex) := by
  have nonempty : 0 < balances.length := by omega
  have iterates := fun invariant b c => iterate_noPanic (tokenBalanceRound_noPanic invariant b c)
  simp [getTokenBalanceGivenInvariantAndAllOtherBalances,
    Outcome.index_of_lt nonempty, Outcome.noPanic_index inBounds, iterates]

/-- The balance is only borrowed by the helper, so taking the added amount
away again cannot underflow. -/
theorem calcOutGivenIn_noPanic (balances : List Bfp) (tokenIndexIn tokenIndexOut : Nat)
    (tokenAmountIn : Bfp) :
    Outcome.NoPanic (calcOutGivenIn amplificationParameter balances
      tokenIndexIn tokenIndexOut tokenAmountIn) := by
  unfold calcOutGivenIn
  split
  · simp
  · rename_i inBounds
    rw [not_or, not_le, not_le] at inBounds
    refine (calculateInvariant_noPanic _ _).seq fun invariant => ?_
    rw [Outcome.index_of_lt inBounds.2]
    refine (Bfp.add_noPanic _ _).bind fun increased increasedOk => ?_
    refine (getTokenBalance_noPanic _ _ (by simpa using inBounds.1)).seq fun finalBalanceOut => ?_
    rw [Outcome.index_of_lt (by simpa using inBounds.2), Outcome.ok_bind, List.getElem_set_self]
    have restoredOk : increased.sub tokenAmountIn = .ok balances[tokenIndexIn] := by
      have sum := Bfp.add_eq_ok_iff.mp increasedOk
      exact Bfp.sub_eq_ok_iff.mpr (by omega)
    rw [restoredOk, Outcome.expectOk_ok]
    exact (Outcome.noPanic_index (by simpa using inBounds.1)).seq (by simp)

end StableMath

end MandateSolver
