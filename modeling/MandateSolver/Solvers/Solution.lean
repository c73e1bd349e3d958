import MandateSolver.Boundary.Solver
import MandateSolver.Model
import MandateSolver.TradeMath

/-!
# Solutions of the baseline solver

The baseline solver builds a solution for a single order from a route and the fee for the
gas.
-/

namespace MandateSolver.Solvers

/-! ## Orders -/

inductive Class where
  | market
  | limit
  deriving DecidableEq

structure OrderWrapperCall where
  address : Address
  data : List UInt8

/-- An order as solvers see it. -/
structure Order where
  (sell buy : Asset)
  side : Side
  «class» : Class
  partiallyFillable : Bool
  wrappers : List OrderWrapperCall

def Order.solverDeterminesFee (order : Order) : Bool := order.class = .limit

structure JitOrder where
  owner : Address
  signature : Model.Signature
  (sell buy : Asset)
  side : Side
  «class» : Class
  partiallyFillable : Bool
  validTo : U32
  appData : U256
  receiver : Address

/-! ## Tokens of an auction -/

structure Token where
  availableBalance : U256
  trusted : Bool

abbrev Tokens := EntryMap TokenAddress Token

/-! ## Solutions -/

inductive Fee where
  | protocol
  | surplus (fee : U256)

def Fee.surplusAmount : Fee → Option U256
  | .protocol => none
  | .surplus fee => some fee

/-- The amount of an order that has to be filled, and how much of it an
execution fills. -/
def Order.fillOf (order : Order) (executed : U256) (fee : Fee) : Option (U256 × U256) :=
  match order.side with
  | .buy => some (order.buy.amount, executed)
  | .sell => do
    let full ← executed.checkedAdd (fee.surplusAmount.getD 0)
    return (order.sell.amount, full)

/-- Only an order whose fee the solver determines is charged one, and the
execution fits the order. -/
def Order.accepts (order : Order) (executed : U256) (fee : Fee) : Bool :=
  (fee.surplusAmount.isSome == order.solverDeterminesFee) &&
    (order.fillOf executed fee).any fun (fill, full) =>
      if order.partiallyFillable then full ≤ fill else full = fill

/-- An execution that the order accepts. -/
structure Fulfillment where
  order : Order
  executed : U256
  fee : Fee
  accepted : order.accepts executed fee = true

def Fulfillment.new (order : Order) (executed : U256) (fee : Fee) : Option Fulfillment :=
  if accepted : order.accepts executed fee = true then
    some ⟨order, executed, fee, accepted⟩
  else none

structure JitTrade where
  order : JitOrder
  (executed fee : U256)

inductive Trade where
  | fulfillment (fulfillment : Fulfillment)
  | jit (trade : JitTrade)

structure EthInteraction where
  target : Address
  value : U256
  calldata : List UInt8

/-- A use of known liquidity. -/
structure LiquidityInteraction where
  liquidity : Liquidity
  (input output : Asset)
  internalize : Bool

structure Allowance where
  spender : Address
  asset : Asset

/-- A call with its inputs and outputs. -/
structure CustomInteraction where
  target : Address
  value : U256
  calldata : List UInt8
  internalize : Bool
  (inputs outputs : List Asset)
  allowances : List Allowance

inductive Interaction where
  | liquidity (interaction : LiquidityInteraction)
  | custom (interaction : CustomInteraction)

namespace Interaction

def inputs : Interaction → List Asset
  | .liquidity interaction => [interaction.input]
  | .custom interaction => interaction.inputs

def outputs : Interaction → List Asset
  | .liquidity interaction => [interaction.output]
  | .custom interaction => interaction.outputs

def internalized : Interaction → Interaction
  | .liquidity interaction => .liquidity { interaction with internalize := true }
  | .custom interaction => .custom { interaction with internalize := true }

end Interaction

structure WrapperCall where
  target : Address
  data : List UInt8

/-- A solution as solvers return it. -/
structure Solution where
  id : Nat
  prices : EntryMap TokenAddress U256
  trades : List Trade
  preInteractions : List EthInteraction
  interactions : List Interaction
  postInteractions : List EthInteraction
  gas : Option U256
  wrappers : List WrapperCall

/-! ## Internalization -/

abbrev Buffers := EntryMap TokenAddress U256

namespace Buffers

def empty : Buffers := ⟨[], List.nodup_nil⟩

def amount (buffers : Buffers) (token : TokenAddress) : U256 :=
  (buffers.get token).getD 0

end Buffers

def trusted (tokens : Tokens) (token : TokenAddress) : Bool :=
  (tokens.get token).any (·.trusted)

/-- What the outputs need so far, with one more output; `used` is taken by
other interactions already. -/
def requireOutput (tokens : Tokens) (used required : Buffers) (output : Asset) :
    Option Buffers := do
  let amount ← output.amount.checkedAdd (required.amount output.token)
  let total ← amount.checkedAdd (used.amount output.token)
  let token ← tokens.get output.token
  if token.availableBalance < total then none
  else some (required.insert output.token amount)

def requiredBuffers (tokens : Tokens) (used : Buffers) (outputs : List Asset) : Option Buffers :=
  outputs.foldlM (requireOutput tokens used) Buffers.empty

def useBuffer (used : Buffers) (entry : TokenAddress × U256) : Outcome Unit Buffers := do
  let total ← .expect "overflow verified above"
    ((used.amount entry.1).checkedAdd entry.2)
  return used.insert entry.1 total

section

variable (tokens : Tokens) (order : HashOrder (TokenAddress × U256))

/-- The buffers in use after an interaction was internalized, or nothing if it
is left alone. -/
def internalize (used : Buffers) (interaction : Interaction) : Outcome Unit (Option Buffers) :=
  let trustedInputs := interaction.inputs.all fun input => trusted tokens input.token
  if interaction.inputs.isEmpty ∨ interaction.outputs.isEmpty ∨ ¬ trustedInputs then
    .ok none
  else match requiredBuffers tokens used interaction.outputs with
    | none => .ok none
    | some required => do
      let used ← (order.iter required.entries).foldlM useBuffer used
      return some used

def internalizeAll (used : Buffers) : List Interaction → Outcome Unit (List Interaction)
  | [] => .ok []
  | interaction :: rest => do
    match ← internalize tokens order used interaction with
    | none =>
      let rest ← internalizeAll used rest
      return interaction :: rest
    | some used =>
      let rest ← internalizeAll used rest
      return interaction.internalized :: rest

end

namespace Solution

/-- The entries of the required buffers are gone through in any order. -/
def withBuffersInternalizations (solution : Solution)
    (order : HashOrder (TokenAddress × U256)) (tokens : Tokens) :
    Outcome Unit Solution := do
  let interactions ← internalizeAll tokens order Buffers.empty solution.interactions
  return { solution with interactions := interactions }

end Solution

/-! ## Solutions for a single order -/

/-- A route for a single order. -/
structure Single where
  order : Order
  (input output : Asset)
  interactions : List Interaction
  gas : U256
  wrappers : List OrderWrapperCall

namespace Single

def feeOf (single : Single) (fee : U256) : Fee :=
  if single.order.solverDeterminesFee then .surplus fee else .protocol

/-- All that goes into the contract and all that goes out of it.  A sell order
that cannot pay the fee on top of the route's input is capped. -/
def executedAmounts (single : Single) (surplusFee : U256) : Option (U256 × U256) :=
  match single.order.side with
  | .buy => do
    let sell ← single.input.amount.checkedAdd surplusFee
    return (sell, single.output.amount)
  | .sell => do
    let total ← single.input.amount.checkedAdd surplusFee
    let sell := min total single.order.sell.amount
    let sold ← sell.checkedSub surplusFee
    let product ← sold.checkedMul single.output.amount
    let buy ← product.checkedDiv single.input.amount
    return (sell, buy)

def intoSolution (single : Single) (fee : U256) : Option Solution := do
  let order := single.order
  if (order.sell.token, order.buy.token) ≠ (single.input.token, single.output.token) then
    none
  let fee := single.feeOf fee
  let surplusFee := fee.surplusAmount.getD 0
  let (sell, buy) ← single.executedAmounts surplusFee
  let offered ← order.sell.amount.checkedMul buy
  let asked ← order.buy.amount.checkedMul sell
  if offered < asked then none
  let sold ← sell.checkedSub surplusFee
  let executed := match order.side with
    | .buy => buy
    | .sell => sold
  let fulfillment ← Fulfillment.new order executed fee
  return {
    id := 0
    prices := EntryMap.collect [(order.sell.token, buy), (order.buy.token, sold)]
    trades := [.fulfillment fulfillment]
    preInteractions := []
    interactions := single.interactions
    postInteractions := []
    gas := some single.gas
    wrappers := single.wrappers.map fun wrapper => ⟨wrapper.address, wrapper.data⟩ }

end Single

end MandateSolver.Solvers
