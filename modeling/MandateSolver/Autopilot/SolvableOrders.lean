import Mathlib.Algebra.BigOperators.Group.Finset.Basic
import Mathlib.Data.Prod.Lex
import Mathlib.Order.Lattice.Nat
import MandateSolver.Model

/-!
# Solvable orders, incrementally

After the first time only the orders are loaded that are new, were cancelled or have an
event after the latest settlement.  This gives the same orders as long as both queries
agree.
-/

namespace MandateSolver.Autopilot.OrderTables

open Model (OrderKind SigningScheme)
open WinnerSelection (OrderUid)

/-! ## Rows -/

/-- In microseconds. -/
abbrev Timestamp := Int

/-- The number of a block and the index of a log in it. -/
abbrev EventIndex := Nat ×ₗ Nat

def EventIndex.blockNumber (index : EventIndex) : Nat := (ofLex index).1

structure OrderData where
  creationTimestamp : Timestamp
  kind : OrderKind
  (sellAmount buyAmount validTo : Nat)
  signingScheme : SigningScheme

/-- A row of the table of orders. -/
structure OrderRow extends OrderData where
  cancellationTimestamp : Option Timestamp
  trueValidTo : Nat

/-- A trade of an order. -/
structure Trade where
  index : EventIndex
  orderUid : OrderUid
  (sellAmount buyAmount feeAmount : Nat)
  deriving DecidableEq

/-- An order was invalidated on chain. -/
structure Invalidation where
  index : EventIndex
  orderUid : OrderUid
  deriving DecidableEq

structure PreSignature where
  index : EventIndex
  orderUid : OrderUid
  signed : Bool
  deriving DecidableEq

/-- An order was executed in an auction. -/
structure OrderExecution where
  orderUid : OrderUid
  (auctionId blockNumber : Nat)
  deriving DecidableEq

inductive OnchainOrderPlacementError where
  | quoteNotFound
  | invalidQuote
  | preValidationError
  | disabledOrderClass
  | validToTooFarInFuture
  | invalidOrderData
  | insufficientFee
  | nonZeroFee
  | other

structure OnchainPlacement where
  index : EventIndex
  placementError : Option OnchainOrderPlacementError

/-- The tables that solvable orders are read from. -/
structure Database where
  orders : OrderUid → Option OrderRow
  trades : Finset Trade
  invalidations : Finset Invalidation
  settlements : Finset EventIndex
  presignatureEvents : Finset PreSignature
  orderExecution : Finset OrderExecution
  onchainOrderInvalidations : OrderUid → Option EventIndex
  onchainPlacedOrders : OrderUid → Option OnchainPlacement
  /-- The user's own limit of validity. -/
  ethflowOrders : OrderUid → Option Nat
  /-- The block of the refund. -/
  ethflowRefunds : OrderUid → Option Nat

/-! ## Queries -/

/-- An order joined with its events. -/
structure FullOrder where
  data : OrderData
  (sumSell sumBuy sumFee : Nat)
  (invalidated presignaturePending : Bool)
  userValidTo : Option Nat
  onchainPlacementError : Option OnchainOrderPlacementError

variable {uid : OrderUid}

namespace Database

variable (db : Database)

def sumTrades (amount : Trade → Nat) (uid : OrderUid) : Nat :=
  ∑ trade ∈ db.trades with trade.orderUid = uid, amount trade

section

variable (uid)

def isInvalidated : Bool :=
  (∃ row ∈ db.invalidations, row.orderUid = uid) || (db.onchainOrderInvalidations uid).isSome

def presignatures : Finset PreSignature :=
  db.presignatureEvents.filter fun row => row.orderUid = uid

/-- The last event of the order decides.  Without any event it is unsigned. -/
def isPresigned : Bool :=
  decide (∃ last ∈ db.presignatures uid, last.signed = true ∧
    ∀ row ∈ db.presignatures uid, row.index ≤ last.index)

def fullOrder (row : OrderRow) : FullOrder where
  data := row.toOrderData
  sumSell := db.sumTrades Trade.sellAmount uid
  sumBuy := db.sumTrades Trade.buyAmount uid
  sumFee := db.sumTrades Trade.feeAmount uid
  invalidated := row.cancellationTimestamp.isSome || db.isInvalidated uid
  presignaturePending := row.signingScheme = .preSign && !db.isPresigned uid
  userValidTo := db.ethflowOrders uid
  onchainPlacementError := (db.onchainPlacedOrders uid).bind OnchainPlacement.placementError

end

/-- The conditions of the full query that do not depend on trades. -/
def isLive (minValidTo : Nat) (uid : OrderUid) (row : OrderRow) : Bool :=
  row.cancellationTimestamp.isNone && minValidTo ≤ row.trueValidTo && !db.isInvalidated uid &&
    ((db.onchainPlacedOrders uid).bind OnchainPlacement.placementError).isNone &&
    (db.ethflowRefunds uid).isNone

def isOpen (uid : OrderUid) (row : OrderRow) : Bool :=
  match row.kind with
  | .sell => db.sumTrades Trade.sellAmount uid < row.sellAmount
  | .buy => db.sumTrades Trade.buyAmount uid < row.buyAmount

def solvableOrders (minValidTo : Nat) (uid : OrderUid) : Option FullOrder := do
  let row ← db.orders uid
  if db.isLive minValidTo uid row && db.isOpen uid row then
    some { db.fullOrder uid row with invalidated := false, onchainPlacementError := none }
  else none

def updatedOrderUidsAfter (afterBlock : Nat) (uid : OrderUid) : Bool :=
  (∃ row ∈ db.trades, row.orderUid = uid ∧ row.index.blockNumber > afterBlock) ||
    (∃ row ∈ db.orderExecution, row.orderUid = uid ∧ row.blockNumber > afterBlock) ||
    (∃ row ∈ db.invalidations, row.orderUid = uid ∧ row.index.blockNumber > afterBlock) ||
    (db.onchainOrderInvalidations uid).any (·.blockNumber > afterBlock) ||
    (db.onchainPlacedOrders uid).any (·.index.blockNumber > afterBlock) ||
    (db.ethflowRefunds uid).any (· > afterBlock) ||
    (∃ row ∈ db.presignatureEvents, row.orderUid = uid ∧ row.index.blockNumber > afterBlock)

def openOrdersByTimeOrUids (uids : OrderUid → Bool) (afterTimestamp : Timestamp)
    (uid : OrderUid) : Option FullOrder := do
  let row ← db.orders uid
  if row.creationTimestamp > afterTimestamp ||
      row.cancellationTimestamp.any (· > afterTimestamp) || uids uid then
    some (db.fullOrder uid row)
  else none

def latestSettlementBlock : Nat := db.settlements.sup EventIndex.blockNumber

/-! ## Writes -/

/-- A row with the same key stays. -/
def insertIgnoringConflict {α : Type} [DecidableEq α] (index : α → EventIndex)
    (table : Finset α) (row : α) : Finset α :=
  if ∃ other ∈ table, index other = index row then table else insert row table

/-- Events of the settlement contract. -/
inductive SettlementEvent where
  | trade (row : Trade)
  | invalidation (row : Invalidation)
  | settlement (index : EventIndex)
  | preSignature (row : PreSignature)

section

variable (db : Database)

def appendEvent : SettlementEvent → Database
  | .trade row =>
    { db with trades := insertIgnoringConflict Trade.index db.trades row }
  | .invalidation row =>
    { db with
      invalidations := insertIgnoringConflict Invalidation.index db.invalidations row }
  | .settlement index =>
    { db with settlements := insertIgnoringConflict id db.settlements index }
  | .preSignature row =>
    let presignatureEvents :=
      insertIgnoringConflict PreSignature.index db.presignatureEvents row
    { db with presignatureEvents }

def appendEvents (events : List SettlementEvent) : Database :=
  events.foldl appendEvent db

def deleteEvents (fromBlock : Nat) : Database :=
  { db with
    trades := db.trades.filter (·.index.blockNumber < fromBlock)
    invalidations := db.invalidations.filter (·.index.blockNumber < fromBlock)
    settlements := db.settlements.filter (·.blockNumber < fromBlock)
    presignatureEvents := db.presignatureEvents.filter (·.index.blockNumber < fromBlock) }

/-- The executions of the deleted settlements go last. -/
def replaceEvents (events : List SettlementEvent) (fromBlock : Nat) : Database :=
  let db := (db.deleteEvents fromBlock).appendEvents events
  { db with orderExecution := db.orderExecution.filter (·.blockNumber < fromBlock) }

def saveOrderExecution (row : OrderExecution) : Database :=
  let others := db.orderExecution.filter fun other =>
    (other.orderUid, other.auctionId) ≠ (row.orderUid, row.auctionId)
  { db with orderExecution := insert row others }

/-- The order is not changed if it is already there. -/
def insertOrder (uid : OrderUid) (data : OrderData) : Database :=
  match db.orders uid with
  | some _ => db
  | none =>
    let row : OrderRow := ⟨data, none, data.validTo⟩
    { db with orders := Function.update db.orders uid (some row) }

def changeOrder (uid : OrderUid) (change : OrderRow → OrderRow) : Database :=
  { db with orders := Function.update db.orders uid ((db.orders uid).map change) }

def cancelOrder (uid : OrderUid) (timestamp : Timestamp) : Database :=
  db.changeOrder uid fun row =>
    { row with cancellationTimestamp := row.cancellationTimestamp.or (some timestamp) }

end

structure OnchainOrder where
  uid : OrderUid
  placement : OnchainPlacement
  userValidTo : Nat
  data : OrderData

/-- Events of one update of the onchain orders. -/
structure OnchainEvents where
  invalidations : List (EventIndex × OrderUid)
  placements : List OnchainOrder

section

variable (db : Database)

def insertOnchainInvalidation (event : EventIndex × OrderUid) : Database :=
  { db with
    onchainOrderInvalidations :=
      Function.update db.onchainOrderInvalidations event.2 (some event.1) }

/-- The order itself, whose validity is changed, may not be there yet. -/
def insertOrOverwriteEthflowOrder (order : OnchainOrder) : Database :=
  let db := { db with
    ethflowOrders := Function.update db.ethflowOrders order.uid (some order.userValidTo) }
  db.changeOrder order.uid fun row => { row with trueValidTo := order.userValidTo }

def insertOnchainOrder (order : OnchainOrder) : Database :=
  let onchainPlacedOrders :=
    Function.update db.onchainPlacedOrders order.uid (some order.placement)
  { db with onchainPlacedOrders }

def insertOnchainEvents (events : OnchainEvents) : Database :=
  let db := events.invalidations.foldl insertOnchainInvalidation db
  let db := events.placements.foldl insertOrOverwriteEthflowOrder db
  let db := events.placements.foldl insertOnchainOrder db
  events.placements.foldl (fun db order => db.insertOrder order.uid order.data) db

/-- Placements stay; they are only marked, which no query looks at. -/
def deleteOnchainEvents (fromBlock : Nat) : Database :=
  { db with
    onchainOrderInvalidations := fun uid =>
      (db.onchainOrderInvalidations uid).filter (·.blockNumber < fromBlock) }

def insertRefund (refund : OrderUid × Nat) : Database :=
  { db with
    ethflowRefunds := Function.update db.ethflowRefunds refund.1 (some refund.2) }

def deleteRefunds (fromBlock toBlock : Nat) : Database :=
  { db with
    ethflowRefunds := fun uid =>
      (db.ethflowRefunds uid).filter fun block => ¬ (fromBlock ≤ block ∧ block ≤ toBlock) }

end

end Database

/-! ## Transactions -/

/-- What is committed at once. -/
inductive Transaction where
  | createOrder (uid : OrderUid) (data : OrderData)
  | cancelOrder (uid : OrderUid) (timestamp : Timestamp)
  | appendEvents (events : List Database.SettlementEvent)
  | replaceEvents (events : List Database.SettlementEvent) (fromBlock : Nat)
  | saveOrderExecution (row : OrderExecution)
  | appendOnchainEvents (events : Database.OnchainEvents)
  | replaceOnchainEvents (events : Database.OnchainEvents) (fromBlock : Nat)
  | appendRefunds (refunds : List (OrderUid × Nat))
  | replaceRefunds (refunds : List (OrderUid × Nat)) (fromBlock toBlock : Nat)

def Database.commit (db : Database) : Transaction → Database
  | .createOrder uid data => db.insertOrder uid data
  | .cancelOrder uid timestamp => db.cancelOrder uid timestamp
  | .appendEvents events => db.appendEvents events
  | .replaceEvents events fromBlock => db.replaceEvents events fromBlock
  | .saveOrderExecution row => db.saveOrderExecution row
  | .appendOnchainEvents events => db.insertOnchainEvents events
  | .replaceOnchainEvents events fromBlock =>
    (db.deleteOnchainEvents fromBlock).insertOnchainEvents events
  | .appendRefunds refunds => refunds.foldl Database.insertRefund db
  | .replaceRefunds refunds fromBlock toBlock =>
    refunds.foldl Database.insertRefund (db.deleteRefunds fromBlock toBlock)

open Option

/-! ## Updates of the cache -/

namespace FullOrder

def isExpired (minValidTo : Nat) (order : FullOrder) : Bool :=
  order.data.validTo < minValidTo || order.userValidTo.any (· < minValidTo)

def isFulfilled (order : FullOrder) : Bool :=
  match order.data.kind with
  | .sell => order.sumSell ≥ order.data.sellAmount
  | .buy => order.sumBuy ≥ order.data.buyAmount

def isRetained (minValidTo : Nat) (order : FullOrder) : Bool :=
  !order.isExpired minValidTo && !order.invalidated &&
    !order.onchainPlacementError.isSome && !order.isFulfilled

end FullOrder

/-- The cached orders, with how far they reach. -/
structure SolvableOrders where
  orders : OrderUid → Option FullOrder
  latestSettlementBlock : Nat
  fetchedFromDb : Timestamp

def allSolvableOrders (db : Database) (startedAt : Timestamp) (minValidTo : Nat) :
    SolvableOrders where
  orders := db.solvableOrders minValidTo
  latestSettlementBlock := db.latestSettlementBlock
  fetchedFromDb := startedAt

def solvableOrdersAfter (db : Database) (currentOrders : OrderUid → Option FullOrder)
    (afterTimestamp : Timestamp) (afterBlock : Nat) (startedAt : Timestamp)
    (minValidTo : Nat) : SolvableOrders where
  orders uid :=
    let nextOrders :=
      db.openOrdersByTimeOrUids (db.updatedOrderUidsAfter afterBlock) afterTimestamp
    ((nextOrders uid).or (currentOrders uid)).filter (·.isRetained minValidTo)
  latestSettlementBlock := db.latestSettlementBlock
  fetchedFromDb := startedAt

/-- 60 seconds. -/
def timestampBuffer : Timestamp := 60000000

def getSolvableOrders (db : Database) (cache : Option SolvableOrders)
    (startedAt : Timestamp) (minValidTo : Nat) : SolvableOrders :=
  let fetched := match cache with
    | some cache => solvableOrdersAfter db cache.orders cache.fetchedFromDb
        cache.latestSettlementBlock startedAt minValidTo
    | none => allSolvableOrders db startedAt minValidTo
  { fetched with fetchedFromDb := fetched.fetchedFromDb - timestampBuffer }

/-! ## What an update relies on -/

/-- No event of the order tells two databases apart. -/
structure SameEvents (left right : Database) (uid : OrderUid) : Prop where
  trades : left.trades.filter (·.orderUid = uid) = right.trades.filter (·.orderUid = uid)
  invalidations : left.invalidations.filter (·.orderUid = uid) =
    right.invalidations.filter (·.orderUid = uid)
  presignatures : left.presignatures uid = right.presignatures uid
  onchainOrderInvalidations :
    left.onchainOrderInvalidations uid = right.onchainOrderInvalidations uid
  onchainPlacedOrders : left.onchainPlacedOrders uid = right.onchainPlacedOrders uid
  ethflowOrders : left.ethflowOrders uid = right.ethflowOrders uid

/-- The columns on which only one of the queries relies say the same as those on
which the other one relies. -/
structure Agreed (db : Database) (minValidTo : Nat) : Prop where
  validity : ∀ uid row userValidTo, db.orders uid = some row →
    db.ethflowOrders uid = some userValidTo →
    (row.trueValidTo < minValidTo ↔ row.validTo < minValidTo ∨ userValidTo < minValidTo)
  refunds : ∀ uid row, db.orders uid = some row → (db.ethflowRefunds uid).isSome →
    (db.fullOrder uid row).isRetained minValidTo = false

/-! ## Both queries on one database -/

section

variable {db : Database} {row : OrderRow} {minValidTo : Nat}

/-- Only ethflow orders may end at another time than they say. -/
def Regular (db : Database) : Prop :=
  ∀ uid row, db.orders uid = some row → db.ethflowOrders uid = none → row.trueValidTo = row.validTo

/-- Every placement has its order, and orders are regular. -/
structure WellFormed (db : Database) : Prop where
  placed : ∀ uid, (db.onchainPlacedOrders uid).isSome → (db.orders uid).isSome
  regular : Regular db

theorem not_isFulfilled_fullOrder : (!(db.fullOrder uid row).isFulfilled) = db.isOpen uid row := by
  unfold FullOrder.isFulfilled Database.isOpen Database.fullOrder
  rw [Bool.eq_iff_iff]
  cases row.kind <;> simp

section

variable (wellFormed : WellFormed db) (agreed : Agreed db minValidTo)
  (found : db.orders uid = some row)
include wellFormed agreed found

theorem isExpired_fullOrder :
    (db.fullOrder uid row).isExpired minValidTo = decide (row.trueValidTo < minValidTo) := by
  unfold FullOrder.isExpired Database.fullOrder
  cases limit : db.ethflowOrders uid with
  | none =>
    rw [wellFormed.regular uid row found limit, any_none, Bool.or_false]
  | some userValidTo =>
    rw [Bool.eq_iff_iff]
    simpa using (agreed.validity uid row userValidTo found limit).symm

theorem isLive_and_isOpen :
    (db.isLive minValidTo uid row && db.isOpen uid row) =
      (db.fullOrder uid row).isRetained minValidTo := by
  cases refund : db.ethflowRefunds uid with
  | some block =>
    rw [agreed.refunds uid row found (by rw [refund]; rfl)]
    simp [Database.isLive, refund]
  | none =>
    unfold FullOrder.isRetained Database.isLive
    rw [not_isFulfilled_fullOrder, isExpired_fullOrder wellFormed agreed found]
    unfold Database.fullOrder
    rw [Bool.eq_iff_iff]
    simp only [Bool.and_eq_true, Bool.not_eq_true', decide_eq_true_eq,
      decide_eq_false_iff_not, not_lt, Bool.or_eq_false_iff, isNone_iff_eq_none,
      isSome_eq_false_iff]
    tauto

end

theorem fullOrder_of_isRetained (retained : (db.fullOrder uid row).isRetained minValidTo = true) :
    { db.fullOrder uid row with invalidated := false, onchainPlacementError := none } =
      db.fullOrder uid row := by
  unfold FullOrder.isRetained at retained
  simp only [Bool.and_eq_true, Bool.not_eq_true', isSome_eq_false_iff,
    isNone_iff_eq_none] at retained
  obtain ⟨⟨⟨_, invalidated⟩, error⟩, _⟩ := retained
  rw [← invalidated, ← error]

/-- The full query keeps the orders that an update would keep. -/
theorem solvableOrders_eq (wellFormed : WellFormed db) (agreed : Agreed db minValidTo)
    (uid : OrderUid) :
    db.solvableOrders minValidTo uid =
      ((db.orders uid).map (db.fullOrder uid)).filter (·.isRetained minValidTo) := by
  unfold Database.solvableOrders
  cases found : db.orders uid with
  | none => rfl
  | some row =>
    simp only [bind_eq_bind, bind_some, map_some, isLive_and_isOpen wellFormed agreed found]
    cases retained : (db.fullOrder uid row).isRetained minValidTo with
    | true =>
      rw [if_pos rfl, fullOrder_of_isRetained retained, filter_some, if_pos retained]
    | false =>
      rw [if_neg Bool.false_ne_true, filter_some, retained, if_neg Bool.false_ne_true]

end

/-! ## Orders that are kept -/

section

variable {seen db : Database} {old row : OrderRow}

theorem SameEvents.fullOrder (same : SameEvents seen db uid)
    (data : row.toOrderData = old.toOrderData)
    (cancelled : row.cancellationTimestamp = old.cancellationTimestamp) :
    db.fullOrder uid row = seen.fullOrder uid old := by
  have sums amount : db.sumTrades amount uid = seen.sumTrades amount uid := by
    unfold Database.sumTrades
    rw [same.trades]
  have invalidated : db.isInvalidated uid = seen.isInvalidated uid := by
    have rows : (∃ event ∈ db.invalidations, event.orderUid = uid) ↔
        ∃ event ∈ seen.invalidations, event.orderUid = uid := by
      have filtered := congrArg Finset.Nonempty same.invalidations
      simpa only [Finset.filter_nonempty_iff, eq_iff_iff] using filtered.symm
    unfold Database.isInvalidated
    simp only [rows, same.onchainOrderInvalidations]
  have presigned : db.isPresigned uid = seen.isPresigned uid := by
    unfold Database.isPresigned
    rw [same.presignatures]
  unfold Database.fullOrder
  simp only [data, cancelled, sums, invalidated, presigned, same.ethflowOrders,
    same.onchainPlacedOrders]

theorem isRetained_of_later {order : FullOrder} {minValidTo later : Nat}
    (le : minValidTo ≤ later) (retained : order.isRetained later = true) :
    order.isRetained minValidTo = true := by
  unfold FullOrder.isRetained at retained ⊢
  simp only [Bool.and_eq_true, Bool.not_eq_true'] at retained ⊢
  obtain ⟨⟨⟨notExpired, valid⟩, placed⟩, notFulfilled⟩ := retained
  refine ⟨⟨⟨?_, valid⟩, placed⟩, notFulfilled⟩
  unfold FullOrder.isExpired at notExpired ⊢
  simp only [Bool.or_eq_false_iff, decide_eq_false_iff_not, Nat.not_lt] at notExpired ⊢
  refine ⟨Nat.le_trans le notExpired.1, ?_⟩
  cases limit : order.userValidTo with
  | none => rfl
  | some userValidTo =>
    rw [limit] at notExpired
    simp only [any_some, decide_eq_false_iff_not, Nat.not_lt] at notExpired ⊢
    exact Nat.le_trans le notExpired.2

theorem filter_isRetained_of_later {minValidTo later : Nat} (le : minValidTo ≤ later)
    (order : Option FullOrder) :
    (order.filter (·.isRetained minValidTo)).filter (·.isRetained later) =
      order.filter (·.isRetained later) := by
  cases order with
  | none => rfl
  | some order =>
    cases retained : order.isRetained later with
    | true =>
      simp [filter_some, isRetained_of_later le retained]
    | false =>
      cases before : order.isRetained minValidTo <;>
        simp [filter_some, retained]

end

end MandateSolver.Autopilot.OrderTables
