import Mathlib.Tactic.Linarith
import MandateSolver.Eth

/-!
# Logarithm, exponential and power of the Balancer contracts

Signed 256-bit integers stand for decimals with 18, 20 or 36 digits.  Here such an integer
is an `Int`, and every operator aborts when its result leaves the range, as with overflow
checks.
-/

namespace MandateSolver

/-- Errors of the Balancer contracts. -/
inductive BalancerError where
  | addOverflow
  | subOverflow
  | mulOverflow
  | zeroDivision
  | divInternal
  | xOutOfBounds
  | yOutOfBounds
  | productOutOfBounds
  | invalidExponent
  | maxInRatio
  | maxOutRatio
  | invalidToken
  | stableInvariantDidntConverge
  | stableGetBalanceDidntConverge
  deriving DecidableEq

namespace I256

variable {ε : Type}

/-- Signed words of 256 bits. -/
def InRange (value : Int) : Prop := -2 ^ 255 ≤ value ∧ value < 2 ^ 255

instance (value : Int) : Decidable (InRange value) :=
  inferInstanceAs (Decidable (_ ∧ _))

def checked (value : Int) : Outcome ε Int :=
  if InRange value then .ok value else .panic .overflow

def add (left right : Int) : Outcome ε Int := checked (left + right)

def sub (left right : Int) : Outcome ε Int := checked (left - right)

def mul (left right : Int) : Outcome ε Int := checked (left * right)

def neg (value : Int) : Outcome ε Int := checked (-value)

def div (left right : Int) : Outcome ε Int :=
  if right = 0 then .panic .divisionByZero else checked (left.tdiv right)

def rem (left right : Int) : Outcome ε Int :=
  if right = 0 then .panic .divisionByZero else checked (left.tmod right)

def tryFrom (value : U256) : Option Int :=
  if value.toNat < 2 ^ 255 then some value.toNat else none

end I256

namespace LogExpMath

def one18 : Int := 10 ^ 18

def one20 : Int := 10 ^ 20

def one36 : Int := 10 ^ 36

def maxNaturalExponent : Int := 130 * 10 ^ 18

def minNaturalExponent : Int := -41 * 10 ^ 18

def ln36LowerBound : Int := 10 ^ 18 - 10 ^ 17

def ln36UpperBound : Int := 10 ^ 18 + 10 ^ 17

def mildExponentBound : Nat := 2 ^ 254 / 10 ^ 20

/-- Powers of two with 20 decimals; only the indices 2 to 11 are used. -/
def constantX20 : Nat → Int
  | 2 => 3200000000000000000000
  | 3 => 1600000000000000000000
  | 4 => 800000000000000000000
  | 5 => 400000000000000000000
  | 6 => 200000000000000000000
  | 7 => 100000000000000000000
  | 8 => 50000000000000000000
  | 9 => 25000000000000000000
  | 10 => 12500000000000000000
  | _ => 6250000000000000000

def constantX18 : Nat → Int
  | 0 => 128000000000000000000
  | _ => 64000000000000000000

def constantA20 : Nat → Int
  | 2 => 7896296018268069516100000000000000
  | 3 => 888611052050787263676000000
  | 4 => 298095798704172827474000
  | 5 => 5459815003314423907810
  | 6 => 738905609893065022723
  | 7 => 271828182845904523536
  | 8 => 164872127070012814685
  | 9 => 128402541668774148407
  | 10 => 113314845306682631683
  | _ => 106449445891785942956

def constantA18 : Nat → Int
  | 0 => 38877084059945950922200000000000000000000000000000000000
  | _ => 6235149080811616882910000000

variable {ε : Type}

/-- One round of the factor loop of `exp`: split off one power of two. -/
def expFactor (state : Int × Int) (index : Nat) : Outcome ε (Int × Int) :=
  if constantX20 index ≤ state.1 then do
    let x ← I256.sub state.1 (constantX20 index)
    let scaled ← I256.mul state.2 (constantA20 index)
    let product ← I256.div scaled one20
    return (x, product)
  else return state

/-- One round of the Taylor series of `exp`. -/
def expTerm (x : Int) (state : Int × Int) (index : Nat) : Outcome ε (Int × Int) := do
  let power ← I256.mul state.1 x
  let reduced ← I256.div power one20
  let term ← I256.div reduced index
  let seriesSum ← I256.add state.2 term
  return (term, seriesSum)

/-- The largest exponents are first reduced by one of two constants. -/
def expSplit (x : Int) : Outcome ε (Int × Int) :=
  if constantX18 0 ≤ x then do
    let x ← I256.sub x (constantX18 0)
    return (x, constantA18 0)
  else if constantX18 1 ≤ x then do
    let x ← I256.sub x (constantX18 1)
    return (x, constantA18 1)
  else return (x, 1)

def expSeries (x product firstAn : Int) : Outcome ε Int := do
  let seriesSum ← I256.add one20 x
  let (_, seriesSum) ← [2, 3, 4, 5, 6, 7, 8, 9, 10, 11, 12].foldlM
    (expTerm x) (x, seriesSum)
  let scaled ← I256.mul product seriesSum
  let reduced ← I256.div scaled one20
  let shifted ← I256.mul reduced firstAn
  I256.div shifted 100

def expNonneg (x : Int) : Outcome ε Int := do
  let (x, firstAn) ← expSplit x
  let x ← I256.mul x 100
  let (x, product) ← [2, 3, 4, 5, 6, 7, 8, 9].foldlM expFactor (x, one20)
  expSeries x product firstAn

def exp (x : Int) : Outcome BalancerError Int :=
  if ¬(minNaturalExponent ≤ x ∧ x ≤ maxNaturalExponent) then
    .err .invalidExponent
  else if x < 0 then do
    let positive ← I256.neg x
    let inverse ←
      if ¬(minNaturalExponent ≤ positive ∧ positive ≤ maxNaturalExponent) then
        .err .invalidExponent
      else expNonneg positive
    let squared ← I256.mul one18 one18
    I256.div squared inverse
  else expNonneg x

/-- One round of the reduction of `ln` by the two large constants. -/
def lnReduce18 (state : Int × Int) (index : Nat) : Outcome ε (Int × Int) := do
  let bound ← I256.mul (constantA18 index) one18
  if bound ≤ state.1 then do
    let a ← I256.div state.1 (constantA18 index)
    let sum ← I256.add state.2 (constantX18 index)
    return (a, sum)
  else return state

/-- One round of the reduction of `ln` by the small constants. -/
def lnReduce20 (state : Int × Int) (index : Nat) : Outcome ε (Int × Int) :=
  if constantA20 index ≤ state.1 then do
    let scaled ← I256.mul state.1 one20
    let a ← I256.div scaled (constantA20 index)
    let sum ← I256.add state.2 (constantX20 index)
    return (a, sum)
  else return state

/-- One round of the series for the inverse hyperbolic tangent that `ln` and
`ln36` share, with `unit` as the number one. -/
def atanhTerm (unit zSquared : Int) (state : Int × Int) (index : Nat) : Outcome ε (Int × Int) := do
  let scaled ← I256.mul state.1 zSquared
  let num ← I256.div scaled unit
  let term ← I256.div num index
  let seriesSum ← I256.add state.2 term
  return (num, seriesSum)

def halfLog (unit : Int) (indices : List Nat) (a : Int) : Outcome ε Int := do
  let difference ← I256.sub a unit
  let numerator ← I256.mul difference unit
  let denominator ← I256.add a unit
  let z ← I256.div numerator denominator
  let square ← I256.mul z z
  let zSquared ← I256.div square unit
  let (_, seriesSum) ← indices.foldlM (atanhTerm unit zSquared) (z, z)
  return seriesSum

def lnAtLeastOne (a : Int) : Outcome ε Int := do
  let (a, sum) ← [0, 1].foldlM lnReduce18 (a, 0)
  let sum ← I256.mul sum 100
  let a ← I256.mul a 100
  let (a, sum) ← [2, 3, 4, 5, 6, 7, 8, 9, 10, 11].foldlM lnReduce20 (a, sum)
  let seriesSum ← halfLog one20 [3, 5, 7, 9, 11] a
  let doubled ← I256.mul seriesSum 2
  let total ← I256.add sum doubled
  I256.div total 100

/-- A number below one is inverted first; its inverse is at least one, so the
recursive call of the source does not recurse again. -/
def ln (a : Int) : Outcome ε Int :=
  if a < one18 then do
    let squared ← I256.mul one18 one18
    let inverse ← I256.div squared a
    let result ← lnAtLeastOne inverse
    I256.neg result
  else lnAtLeastOne a

def ln36 (x : Int) : Outcome ε Int := do
  let x ← I256.mul x one18
  let seriesSum ← halfLog one36 [3, 5, 7, 9, 11, 13, 15] x
  I256.mul seriesSum 2

def logTimes (x y : Int) : Outcome ε Int :=
  if ln36LowerBound < x ∧ x < ln36UpperBound then do
    let ln36X ← ln36 x
    let whole ← I256.div ln36X one18
    let high ← I256.mul whole y
    let fraction ← I256.rem ln36X one18
    let scaled ← I256.mul fraction y
    let low ← I256.div scaled one18
    I256.add high low
  else do
    let lnX ← ln x
    I256.mul lnX y

def pow (x y : U256) : Outcome BalancerError U256 :=
  if y = 0 then .ok (10 ^ 18)
  else if x = 0 then .ok 0
  else do
    let xInt ← Outcome.okOr .xOutOfBounds (I256.tryFrom x)
    let yInt ←
      if y.toNat < mildExponentBound then
        Outcome.expect "y < MILD_EXPONENT_BOUND guarantees it fits in I256" (I256.tryFrom y)
      else .err .yOutOfBounds
    let product ← logTimes xInt yInt
    let logxTimesY ← I256.div product one18
    if ¬(minNaturalExponent ≤ logxTimesY ∧ logxTimesY ≤ maxNaturalExponent) then
      .err .productOutOfBounds
    else do
      let result ← exp logxTimesY
      return BitVec.ofInt 256 result

end LogExpMath

end MandateSolver
