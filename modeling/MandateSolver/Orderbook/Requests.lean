import MandateSolver.OrderValidation.Validator
import MandateSolver.Foundation.Stored

/-!
# Requests to the order book

Every request first reads and checks, and ends with one transaction.
-/

namespace MandateSolver.Orderbook

open Model (OrderData OrderKind OrderStatus Signature SigningScheme)
open OrderValidation (Interactions OrderClass OrderQuote scheme)
open WinnerSelection (OrderUid)

/-! ## What the order book writes -/

/-- A row of the table of orders. -/
structure StoredOrder where
  owner : Address
  data : OrderData
  «class» : OrderClass
  signature : Signature
  settlementContract : Address
  interactions : Interactions
  quote : Option OrderQuote
  creationTimestamp : Int
  cancellationTimestamp : Option Int

inductive OrderEventLabel where
  | created
  | cancelled

structure OrderEvent where
  orderUid : OrderUid
  timestamp : Int
  label : OrderEventLabel

/-- The tables of the orderbook. -/
structure Database where
  orders : EntryMap OrderUid StoredOrder
  appData : EntryMap U256 String
  events : List OrderEvent

/-! ## What it only reads -/

/-- What happened to an order on the chain.  The last presignature event says whether
the order is signed. -/
structure Ledger where
  (sumSell sumBuy sumFee : Int)
  invalidated : Bool
  presigned : Option Bool
  ethflowValidTo : Option Int

structure JitOrder where
  owner : Address
  data : OrderData
  signature : Signature

namespace SolverCompetition

inductive Order where
  | colocated (id : OrderUid) (sellAmount buyAmount : U256)
  | legacy (id : OrderUid) (executedAmount : U256)

def Order.id : Order → OrderUid
  | .colocated id _ _ | .legacy id _ => id

structure SolverSettlement where
  orders : List Order

end SolverCompetition

/-- A competition as it is stored. -/
structure SolverCompetition where
  solutions : List SolverCompetition.SolverSettlement

/-- Everything a request meets besides the tables of the order book.  Competitions are
in descending order of their auctions.  A call of the database that fails says why. -/
structure Surroundings where
  now : Int
  ledger : OrderUid → Ledger
  jitOrders : OrderUid → Option JitOrder
  competitions : List SolverCompetition
  ipfs : U256 → Outcome String (Option String)
  services : OrderValidation.Services
  orderReadError : OrderUid → Option String
  (appDataReadError competitionReadError writeError : Option String)

/-! ## Reading orders -/

structure FullOrder where
  uid : OrderUid
  owner : Address
  kind : OrderKind
  (sellAmount buyAmount : U256)
  validTo : Int
  signature : Signature
  (sumSell sumBuy sumFee : Int)
  (invalidated presignaturePending : Bool)

structure Order where
  uid : OrderUid
  owner : Address
  signature : Signature
  status : OrderStatus

def isSellOrderFilled (amount executedAmount executedFee : Int) : Bool :=
  if executedAmount = 0 then false else executedAmount - executedFee = amount

def isBuyOrderFilled (amount executedAmount : Int) : Bool :=
  executedAmount ≠ 0 ∧ amount = executedAmount

def calculateStatus (now : Int) (order : FullOrder) : OrderStatus :=
  let filled := match order.kind with
    | .buy => isBuyOrderFilled order.buyAmount.toNat order.sumBuy
    | .sell => isSellOrderFilled order.sellAmount.toNat order.sumSell order.sumFee
  if filled then .fulfilled
  else if order.invalidated then .cancelled
  else if order.validTo < now then .expired
  else if order.presignaturePending then .presignaturePending
  else .open

def FullOrder.intoModelOrder (now : Int) (order : FullOrder) : Order where
  uid := order.uid
  owner := order.owner
  signature := order.signature
  status := calculateStatus now order

/-- Ethflow orders are valid as long as their user asked for. -/
def StoredOrder.fullOrder (uid : OrderUid) (order : StoredOrder) (ledger : Ledger) : FullOrder where
  uid := uid
  owner := order.owner
  kind := order.data.kind
  sellAmount := order.data.sellAmount
  buyAmount := order.data.buyAmount
  validTo := ledger.ethflowValidTo.getD order.data.validTo.toNat
  signature := order.signature
  sumSell := ledger.sumSell
  sumBuy := ledger.sumBuy
  sumFee := ledger.sumFee
  invalidated := order.cancellationTimestamp.isSome || ledger.invalidated
  presignaturePending :=
    decide (scheme order.signature = .preSign) && !(ledger.presigned.getD false)

def JitOrder.fullOrder (uid : OrderUid) (order : JitOrder) (ledger : Ledger) : FullOrder where
  uid := uid
  owner := order.owner
  kind := order.data.kind
  sellAmount := order.data.sellAmount
  buyAmount := order.data.buyAmount
  validTo := order.data.validTo.toNat
  signature := order.signature
  sumSell := ledger.sumSell
  sumBuy := ledger.sumBuy
  sumFee := ledger.sumFee
  invalidated := false
  presignaturePending := false

def orFail {α : Type} (error : Option String) (answer : α) : Outcome String α :=
  match error with
  | some text => .err text
  | none => .ok answer

namespace Surroundings

variable (surroundings : Surroundings)

/-- Orders that were brought along by solvers are looked up last. -/
def singleOrder (uid : OrderUid) (database : Database) : Outcome String (Option Order) := do
  let ledger := surroundings.ledger uid
  let found := match database.orders.get uid with
    | some order => some (order.fullOrder uid ledger)
    | none => (surroundings.jitOrders uid).map fun order : JitOrder => order.fullOrder uid ledger
  orFail (surroundings.orderReadError uid) (found.map (FullOrder.intoModelOrder surroundings.now))

def getFullAppData (contractAppData : U256) (database : Database) :
    Outcome String (Option String) :=
  orFail surroundings.appDataReadError (database.appData.get contractAppData)

def loadLatestCompetitions (count : Nat) : Outcome String (List SolverCompetition) :=
  orFail surroundings.competitionReadError (surroundings.competitions.take count)

end Surroundings

/-! ## Transactions -/

/-- Why nothing was inserted. -/
inductive InsertionError where
  | duplicatedRecord
  | dbError (text : String)
  | appDataMismatch (existing : String)

namespace Database

variable (database : Database)

def insertOrderEvent (event : OrderEvent) : Database :=
  { database with events := database.events ++ [event] }

/-- An earlier cancellation is not overwritten. -/
def markCancelled (uid : OrderUid) (timestamp : Int) : Database :=
  match database.orders.get uid with
  | some order =>
    if order.cancellationTimestamp.isNone then
      { database with
        orders := database.orders.insert uid
          { order with cancellationTimestamp := some timestamp } }
    else database
  | none => database

def cancel (uid : OrderUid) (now : Int) : Database :=
  (database.insertOrderEvent ⟨uid, now, .cancelled⟩).markCancelled uid now

def insert (now : Int) (order : OrderValidation.Order) : Outcome InsertionError Database :=
  let database := database.insertOrderEvent ⟨order.uid, now, .created⟩
  match database.orders.get order.uid with
  | some _ => .err .duplicatedRecord
  | none => .ok
      { database with
        orders := database.orders.insert order.uid {
          owner := order.owner
          data := order.data
          «class» := order.class
          signature := order.signature
          settlementContract := order.settlementContract
          interactions := order.interactions
          quote := order.quote
          creationTimestamp := now
          cancellationTimestamp := none } }

def insertOrderAppData (order : OrderValidation.Order) : Outcome InsertionError Database :=
  match order.fullAppData with
  | none => .ok database
  | some fullAppData =>
    match database.appData.get order.data.appData with
    | some existing =>
      if fullAppData ≠ existing then .err (.appDataMismatch existing)
      else .ok database
    | none => .ok
        { database with
          appData := database.appData.insert order.data.appData fullAppData }

end Database

namespace Surroundings

variable (surroundings : Surroundings)

def committed {ε : Type} (failure : String → ε) (result : Outcome ε Database) :
    Outcome ε Database :=
  match surroundings.writeError with
  | some text => .err (failure text)
  | none => result

def cancelOrders (orderUids : List OrderUid) (database : Database) : Outcome String Database :=
  surroundings.committed id
    (.ok (orderUids.foldl (fun database uid => database.cancel uid surroundings.now) database))

def cancelOrder (orderUid : OrderUid) (database : Database) : Outcome String Database :=
  surroundings.committed id (.ok (database.cancel orderUid surroundings.now))

def insertOrder (order : OrderValidation.Order) (database : Database) :
    Outcome InsertionError Database :=
  surroundings.committed .dbError (do
    let inserted ← database.insert surroundings.now order
    inserted.insertOrderAppData order)

/-- The old order gets no event. -/
def replaceOrder (oldOrder : OrderUid) (newOrder : OrderValidation.Order)
    (database : Database) : Outcome InsertionError Database :=
  surroundings.committed .dbError (do
    let inserted ←
      (database.markCancelled oldOrder surroundings.now).insert surroundings.now newOrder
    inserted.insertOrderAppData newOrder)

end Surroundings

end MandateSolver.Orderbook

/-! ## Requests -/

namespace MandateSolver

open Model (Crypto DomainSeparator OrderCancellation SignedOrderCancellations SigningScheme)
open OrderValidation (OrderCreation OrderCreationAppData OrderValidator ProtocolAppData
  Quote ValidationError scheme)
open WinnerSelection (OrderUid)

structure Orderbook.ParsedAppData where
  protocol : ProtocolAppData
  replacedOrder : Option OrderUid

/-- The orderbook with its services. -/
structure Orderbook where
  domainSeparator : DomainSeparator
  settlementContract : Address
  orderValidator : OrderValidator
  parse : String → Outcome String Orderbook.ParsedAppData
  activeOrderCompetitionThreshold : Nat

namespace Orderbook

def emptyAppData : String := "\x7b\x7d"

/-! ## Errors -/

inductive OrderCancellationError where
  | invalidSignature
  | wrongOwner
  | orderNotFound
  | alreadyCancelled
  | orderFullyExecuted
  | orderExpired
  | onChainOrder
  | other (text : String)

inductive OrderReplacementError where
  | invalidSignature
  | wrongOwner
  | oldOrderActivelyBidOn

/-- Why an order was not added. -/
inductive AddOrderError where
  | orderNotFound (error : OrderCancellationError)
  | duplicatedOrder
  | orderValidation (error : ValidationError)
  | database (text : String)
  | invalidAppData (text : String)
  | invalidReplacement (error : OrderReplacementError)
  | appDataMismatch (contractAppData : U256) (provided existing : String)

/-- Only provided app data can be in conflict with what is stored. -/
def fromInsertion (order : OrderValidation.Order) :
    Outcome InsertionError Database → Outcome AddOrderError Database
  | .ok database => .ok database
  | .err .duplicatedRecord => .err .duplicatedOrder
  | .err (.dbError text) => .err (.database text)
  | .err (.appDataMismatch existing) => do
    let provided ← .expect "called `Option::unwrap()` on a `None` value" order.fullAppData
    .err (.appDataMismatch order.data.appData provided existing)
  | .panic reason => .panic reason

structure QuoteMetadata where
  id : Option Int
  solver : Address

variable (orderbook : Orderbook) (surroundings : Surroundings)

def crypto : Crypto := orderbook.orderValidator.crypto

def validator : OrderValidator :=
  { orderbook.orderValidator with
    services := { surroundings.services with
      parseAppData := fun document => do
        let parsed ← orderbook.parse document
        return parsed.protocol } }

/-! ## Cancelling orders -/

/-- Orders that are signed on-chain cannot be cancelled with a request. -/
def findOrderForCancellation (orderUid : OrderUid) :
    Stored Database OrderCancellationError Order := do
  let found ← .read fun database =>
    (surroundings.singleOrder orderUid database).mapError .other
  let order ← .lift (.okOr .orderNotFound found)
  match order.status with
  | .presignaturePending => .lift (.err .onChainOrder)
  | .open =>
    if !(scheme order.signature).isEcdsaScheme then .lift (.err .onChainOrder)
    else return order
  | .fulfilled => .lift (.err .orderFullyExecuted)
  | .cancelled => .lift (.err .alreadyCancelled)
  | .expired => .lift (.err .orderExpired)

def cancelOrders (cancellation : SignedOrderCancellations) :
    Stored Database OrderCancellationError Unit := do
  let orders ← cancellation.orderUids.mapM (findOrderForCancellation surroundings)
  let signer ← .lift (.okOr .invalidSignature
    (cancellation.validate orderbook.crypto orderbook.domainSeparator))
  .lift (.rejectIf (orders.any fun order => signer ≠ order.owner) .wrongOwner)
  .write fun database =>
    (surroundings.cancelOrders cancellation.orderUids database).mapError .other

def cancelOrder (cancellation : OrderCancellation) :
    Stored Database OrderCancellationError Unit := do
  let order ← findOrderForCancellation surroundings cancellation.orderUid
  let signer ← .lift (.okOr .invalidSignature
    (cancellation.validate orderbook.crypto orderbook.domainSeparator))
  .lift (.rejectIf (signer ≠ order.owner) .wrongOwner)
  .write fun database => (surroundings.cancelOrder order.uid database).mapError .other

/-! ## Adding orders -/

/-- The registry of full app data.  The zero hash stands for empty app data. -/
def findAppData (contractAppData : U256) (database : Database) : Outcome String (Option String) :=
  if contractAppData = 0 then .ok (some emptyAppData)
  else do
    match ← surroundings.getFullAppData contractAppData database with
    | some appData => return some appData
    | none => surroundings.ipfs contractAppData

def fullAppData (appData : OrderCreationAppData) (appDataOverride : Option String) :
    Option String :=
  match appData with
  | .hash _ => appDataOverride
  | .both full _ | .full full => some full

def getReplacedOrder (newOrder : OrderCreation) (appDataOverride : Option String) :
    Stored Database AddOrderError (Option Order) :=
  match fullAppData newOrder.appData appDataOverride with
  | none => return none
  | some fullAppData => do
    let parsed ← .lift ((orderbook.parse fullAppData).mapError .invalidAppData)
    match parsed.replacedOrder with
    | none => return none
    | some uid => do
      let order ← (findOrderForCancellation surroundings uid).mapError .orderNotFound
      return some order

def orderIsActivelyBidOn (orderUid : OrderUid) : Outcome String Bool := do
  let latestCompetitions ←
    surroundings.loadLatestCompetitions orderbook.activeOrderCompetitionThreshold
  return latestCompetitions.any fun competition =>
    competition.solutions.any fun solution =>
      solution.orders.any fun order => order.id = orderUid

/-- Both orders need the same owner, who has signed the new one off-chain. -/
def replaceOrder (validatedNewOrder : OrderValidation.Order) (oldOrder : Order) :
    Stored Database AddOrderError Unit := do
  let _ ← .lift (.okOr (.invalidReplacement .invalidSignature)
    (scheme validatedNewOrder.signature).tryToEcdsaScheme)
  .lift (.rejectIf (validatedNewOrder.owner ≠ oldOrder.owner) (.invalidReplacement .wrongOwner))
  let bidOn ← .lift ((orderbook.orderIsActivelyBidOn surroundings oldOrder.uid).mapError
    .database)
  .lift (.rejectIf bidOn (.invalidReplacement .oldOrderActivelyBidOn))
  .write fun database => fromInsertion validatedNewOrder
    (surroundings.replaceOrder oldOrder.uid validatedNewOrder database)

def fullAppDataOverride : OrderCreationAppData → Stored Database AddOrderError (Option String)
  | .hash hash => .read fun database =>
    (findAppData surroundings hash database).mapError .database
  | _ => return none

def addOrder (payload : OrderCreation) :
    Stored Database AddOrderError (OrderUid × Option QuoteMetadata) := do
  let fullAppDataOverride ← fullAppDataOverride surroundings payload.appData
  let replacedOrder ← orderbook.getReplacedOrder surroundings payload fullAppDataOverride
  let (order, quote) ← .lift (((orderbook.validator surroundings).validateAndConstructOrder
    payload orderbook.domainSeparator orderbook.settlementContract
    fullAppDataOverride).outcome.mapError .orderValidation)
  match replacedOrder with
  | some oldOrder => orderbook.replaceOrder surroundings order oldOrder
  | none => .write fun database =>
    fromInsertion order (surroundings.insertOrder order database)
  return (order.uid, quote.map fun quote => ⟨quote.id, quote.solver⟩)

/-! ## Requests -/

/-- The requests that change orders. -/
inductive Request where
  | cancelOrder (cancellation : OrderCancellation)
  | cancelOrders (cancellation : SignedOrderCancellations)
  | addOrder (payload : OrderCreation)

inductive RequestError where
  | cancellation (error : OrderCancellationError)
  | adding (error : AddOrderError)

def handle : Request → Stored Database RequestError Unit
  | .cancelOrder cancellation =>
    (orderbook.cancelOrder surroundings cancellation).mapError .cancellation
  | .cancelOrders cancellation =>
    (orderbook.cancelOrders surroundings cancellation).mapError .cancellation
  | .addOrder payload => do
    let _ ← (orderbook.addOrder surroundings payload).mapError .adding
    return ()

def step (database : Database) (action : Surroundings × Request) : Database :=
  (orderbook.handle action.1 action.2 database).2

end Orderbook

end MandateSolver
