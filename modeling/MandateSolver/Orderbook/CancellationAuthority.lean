import MandateSolver.Foundation.Runs
import MandateSolver.OrderValidation.Acceptance
import MandateSolver.Orderbook.Requests

/-!
# Who can cancel an order

Only the owner of an order can have it cancelled: with a message that names the order, or
with an order whose app data names it as replaced.  Full app data that is stored or fetched
under a hash is assumed to have that hash.
-/

namespace MandateSolver.Orderbook

open List EntryMap Database

open Outcome hiding none

open Model (Crypto DomainSeparator OrderCancellation SignedOrderCancellations Signature)
open OrderValidation (OrderCreation OrderCreationAppData OrderValidator Recovered
  hashFullAppData scheme)
open Stored (AllOrNothing)
open WinnerSelection (OrderUid)

/-! ## Cancelled orders -/

/-- A step that marks the order as cancelled. -/
def Cancels (before after : Database) (uid : OrderUid) (order : StoredOrder) : Prop :=
  before.orders.get uid = some order ∧ order.cancellationTimestamp = none ∧
    ∃ later, after.orders.get uid = some later ∧ later.cancellationTimestamp ≠ none

variable {before : Database} {uid : OrderUid} {after : Database} {now : Int}
  {order : OrderValidation.Order} {database : Database}

theorem Cancels.get_ne {order : StoredOrder}
    (cancels : Cancels before after uid order) : after.orders.get uid ≠ before.orders.get uid := by
  obtain ⟨listed, uncancelled, _, laterListed, cancelled⟩ := cancels
  intro same
  rw [laterListed, listed] at same
  cases same
  exact cancelled uncancelled

theorem Cancels.uid_ne {free : OrderUid}
    {order : StoredOrder} (cancels : Cancels before after uid order)
    (isFree : before.orders.get free = none) : uid ≠ free := by
  intro same
  cases cancels.1.symm.trans (same ▸ isFree)

namespace Database

variable {uid other : OrderUid} {timestamp : Int} {uids : List OrderUid}

theorem get_markCancelled_of_ne (distinct : other ≠ uid) :
    (database.markCancelled uid timestamp).orders.get other = database.orders.get other := by
  rw [markCancelled]
  split
  · split
    · exact get_insert_of_ne distinct
    · rfl
  · rfl

theorem isSome_get_markCancelled :
    ((database.markCancelled uid timestamp).orders.get other).isSome =
      (database.orders.get other).isSome := by
  by_cases same : other = uid
  · subst same
    rw [markCancelled]
    split
    · rename_i order found
      split
      · rw [get_insert_self, found]
        rfl
      · rw [found]
    · rfl
  · rw [get_markCancelled_of_ne same]

@[simp] theorem appData_markCancelled :
    (database.markCancelled uid timestamp).appData = database.appData := by
  rw [markCancelled]
  split
  · split
    · rfl
    · rfl
  · rfl

theorem get_cancel_of_ne (distinct : other ≠ uid) :
    (database.cancel uid timestamp).orders.get other = database.orders.get other :=
  get_markCancelled_of_ne distinct

@[simp] theorem appData_cancel : (database.cancel uid timestamp).appData = database.appData :=
  appData_markCancelled

theorem get_foldl_cancel (unlisted : other ∉ uids) :
    (uids.foldl (fun database uid => database.cancel uid timestamp) database).orders.get
      other = database.orders.get other := by
  induction uids generalizing database with
  | nil => rfl
  | cons uid uids ih =>
    rw [mem_cons, not_or] at unlisted
    obtain ⟨distinct, rest⟩ := unlisted
    rw [foldl_cons, ih rest, get_cancel_of_ne distinct]

theorem appData_foldl_cancel :
    (uids.foldl (fun database uid => database.cancel uid timestamp) database).appData =
      database.appData := by
  induction uids generalizing database with
  | nil => rfl
  | cons uid uids ih => rw [foldl_cons, ih, appData_cancel]

theorem insert_eq_ok {inserted : Database} (computed : database.insert now order = .ok inserted) :
    database.orders.get order.uid = none ∧ inserted.appData = database.appData ∧
      (∃ row, inserted.orders.get order.uid = some row ∧
        row.cancellationTimestamp = none ∧ row.signature = order.signature ∧
        row.owner = order.owner ∧ row.data = order.data) ∧
      ∀ other, other ≠ order.uid → inserted.orders.get other = database.orders.get other := by
  rw [insert] at computed
  split at computed
  · cases computed
  · rename_i free
    cases computed
    refine ⟨free, rfl, ⟨_, get_insert_self, rfl, rfl, rfl, rfl⟩, ?_⟩
    intro other distinct
    exact get_insert_of_ne distinct

theorem insertOrderAppData_eq_ok {stored : Database}
    (computed : database.insertOrderAppData order = .ok stored) :
    stored.orders = database.orders ∧ ∀ hash document, stored.appData.get hash = some document →
        database.appData.get hash = some document ∨
          hash = order.data.appData ∧ order.fullAppData = some document := by
  rw [insertOrderAppData] at computed
  split at computed
  · cases computed
    exact ⟨rfl, fun _ _ found => .inl found⟩
  rename_i fullAppData provided
  split at computed
  · split at computed
    · cases computed
    · cases computed
      exact ⟨rfl, fun _ _ found => .inl found⟩
  · cases computed
    refine ⟨rfl, ?_⟩
    intro hash document found
    by_cases same : hash = order.data.appData
    · subst same
      rw [get_insert_self] at found
      cases found
      exact .inr ⟨rfl, provided⟩
    · rw [get_insert_of_ne same] at found
      exact .inl found

end Database

variable {orderbook : Orderbook} {surroundings : Surroundings} {later : Database}

variable {override : Option String} {payload : OrderCreation}

theorem committed_eq_ok {ε : Type} {failure : String → ε} {result : Outcome ε Database}
    (computed : surroundings.committed failure result = .ok later) : result = .ok later := by
  rw [Surroundings.committed] at computed
  split at computed
  · cases computed
  · exact computed

theorem fromInsertion_eq_ok {order : OrderValidation.Order}
    {result : Outcome InsertionError Database}
    (computed : fromInsertion order result = .ok later) : result = .ok later := by
  cases result with
  | ok database =>
    cases computed
    rfl
  | panic reason => cases computed
  | err error =>
    cases error with
    | duplicatedRecord | dbError text => cases computed
    | appDataMismatch existing =>
      obtain ⟨_, -, failed⟩ := bind_eq_ok_iff.mp computed
      cases failed

theorem orFail_eq_ok {α : Type} {error : Option String} {answer value : α}
    (computed : orFail error answer = .ok value) : answer = value := by
  cases error with
  | none =>
    cases computed
    rfl
  | some text => cases computed

/-! ## The order that is found -/

/-- If the order is in the table of the order book, it is read from there. -/
def ReadFrom (database : Database) (uid : OrderUid) (order : Order) : Prop :=
  order.uid = uid ∧ ∀ row, database.orders.get uid = some row → order.owner = row.owner

theorem readFrom_of_singleOrder {order : Order}
    (found : surroundings.singleOrder uid database = .ok (some order)) :
    ReadFrom database uid order := by
  have same := orFail_eq_ok found
  cases stored : database.orders.get uid with
  | some row =>
    rw [stored] at same
    cases same
    refine ⟨rfl, ?_⟩
    intro other listed
    rw [stored] at listed
    cases listed
    rfl
  | none =>
    rw [stored, Option.map_map] at same
    obtain ⟨_, -, rfl⟩ := Option.map_eq_some_iff.mp same
    refine ⟨rfl, ?_⟩
    intro other listed
    rw [stored] at listed
    cases listed

theorem findOrderForCancellation_reads (surroundings : Surroundings) (uid : OrderUid) :
    AllOrNothing (findOrderForCancellation surroundings uid) database
      (fun order later => later = database ∧ ReadFrom database uid order) := by
  refine (AllOrNothing.read _).bind fun found foundEq => ?_
  refine (AllOrNothing.lift _).bind fun order present => ?_
  rw [mapError_eq_ok_iff] at foundEq
  rw [okOr_eq_ok_iff] at present
  subst present
  have readFrom := readFrom_of_singleOrder foundEq
  split
  · exact rfl
  · split
    · exact rfl
    · exact ⟨rfl, readFrom⟩
  · exact rfl
  · exact rfl
  · exact rfl

/-! ## The order that is added -/

theorem validatedAppData_hash {validator : OrderValidator} {appData : OrderCreationAppData}
    {override : Option String} {validated : OrderValidation.ValidatedAppData}
    (computed : validator.validatedAppData appData override = .ok validated) :
    validated.hash = appData.hashOf validator.crypto := by
  have documentHash : ∀ {full validated}, validator.validateDocument full = .ok validated →
      validated.hash = hashFullAppData validator.crypto full := by
    intro full validated computed
    simp only [OrderValidator.validateDocument, bind_eq_ok_iff] at computed
    obtain ⟨_, -, _, -, same⟩ := computed
    cases same
    rfl
  cases appData with
  | both full expected =>
    obtain ⟨inner, computed, rest⟩ := bind_eq_ok_iff.mp computed
    obtain ⟨_, -, same⟩ := bind_eq_ok_iff.mp rest
    cases same
    exact documentHash computed
  | hash known =>
    cases override with
    | none => cases computed
    | some full =>
      obtain ⟨inner, -, same⟩ := bind_eq_ok_iff.mp computed
      cases same
      rfl
  | full full => exact documentHash computed

section

variable {validator : OrderValidator} {domainSeparator : DomainSeparator}
  {settlementContract : Address}

theorem prepare_eq_ok {prepared : OrderValidator.Prepared}
    (reached : validator.prepare payload domainSeparator override = .ok prepared) :
    prepared.data = payload.data validator.crypto ∧
      prepared.uid = prepared.data.uid validator.crypto domainSeparator prepared.owner ∧
      ∃ appDataSigner, payload.verifyOwner validator.crypto domainSeparator appDataSigner =
        .ok prepared.owner := by
  simp only [OrderValidator.prepare, OrderValidator.validateAppData, bind_eq_ok_iff,
    mapError_eq_ok_iff] at reached
  obtain ⟨_, ⟨_, innerOk, appDataEq⟩, owner, verified, _, -, _, -, _, -, _, -, _, -,
    same⟩ := reached
  cases appDataEq
  cases same
  refine ⟨?_, rfl, _, verified⟩
  rw [validatedAppData_hash innerOk]
  rfl

/-- What validation guarantees of an order. -/
structure Constructed (crypto : Crypto) (domainSeparator : DomainSeparator)
    (payload : OrderCreation) (override : Option String) (order : OrderValidation.Order) :
    Prop where
  data : order.data = payload.data crypto
  signature : order.signature = payload.signature
  uid : order.uid = order.data.uid crypto domainSeparator order.owner
  fullAppData : order.fullAppData = fullAppData payload.appData override
  verified : ∃ appDataSigner,
    payload.verifyOwner crypto domainSeparator appDataSigner = .ok order.owner

theorem validateAndConstructOrder_eq_ok {order : OrderValidation.Order}
    {quote : Option OrderValidation.Quote}
    (accepted : (validator.validateAndConstructOrder payload domainSeparator
      settlementContract override).outcome = .ok (order, quote)) :
    Constructed validator.crypto domainSeparator payload override order := by
  generalize ran : validator.validateAndConstructOrder payload domainSeparator
    settlementContract override = logged at accepted
  obtain ⟨outcome, _⟩ := logged
  cases accepted
  obtain ⟨_, _, _, lifted, ran, -⟩ := Logged.bind_eq_ok_iff.mp ran
  obtain ⟨reached, -⟩ := Logged.lift_eq_ok_iff.mp lifted
  obtain ⟨⟨_, _⟩, _, _, -, ran, -⟩ := Logged.bind_eq_ok_iff.mp ran
  obtain ⟨_, _, _, -, ran, -⟩ := Logged.bind_eq_ok_iff.mp ran
  obtain ⟨_, _, _, -, ran, -⟩ := Logged.bind_eq_ok_iff.mp ran
  obtain ⟨same, -⟩ := Logged.pure_eq_ok_iff.mp ran
  obtain ⟨dataEq, uidEq, verified⟩ := prepare_eq_ok reached
  cases same
  refine ⟨dataEq, rfl, uidEq, ?_, verified⟩
  cases payload.appData with
  | both full expected | hash known | full full => rfl

/-- The owner of an order with an elliptic curve signature has signed it. -/
theorem recover_of_verifyOwner {crypto : Crypto} {appDataSigner : Option Address} {owner : Address}
    (verified : payload.verifyOwner crypto domainSeparator appDataSigner = .ok owner)
    (ecdsa : (scheme payload.signature).tryToEcdsaScheme ≠ none) :
    ∃ recovered, OrderValidation.recover crypto domainSeparator payload.signature
        ((payload.data crypto).hashStruct crypto) = .ok (some recovered) ∧
      recovered.signer = owner := by
  obtain ⟨recovered, recoverOk, rest⟩ := bind_eq_ok_iff.mp verified
  obtain ⟨sender, -, rest⟩ := bind_eq_ok_iff.mp rest
  cases recovered with
  | some recovered =>
    refine ⟨recovered, recoverOk, ?_⟩
    cases sender with
    | none =>
      cases rest
      rfl
    | some sender =>
      dsimp only at rest
      split at rest
      · rename_i same
        cases rest
        exact same.symm
      · cases rest
  | none =>
    exfalso
    generalize payload.signature = signature at ecdsa recoverOk
    cases signature with
    | eip712 signature | ethSign signature =>
      obtain ⟨signer, -, wrong⟩ := bind_eq_ok_iff.mp recoverOk
      cases wrong
    | eip1271 bytes | preSign => exact ecdsa rfl

end

/-! ## App data and its hash -/

/-- Stored documents have the hash they are stored under. -/
def Documents (crypto : Crypto) (database : Database) : Prop :=
  ∀ hash document, hash ≠ 0 → database.appData.get hash = some document →
    hashFullAppData crypto document = hash

/-- The same for documents from IPFS. -/
def FetchesDocuments (crypto : Crypto) (surroundings : Surroundings) : Prop :=
  ∀ hash document, hash ≠ 0 → surroundings.ipfs hash = .ok (some document) →
    hashFullAppData crypto document = hash

/-- The document that replaces a bare hash. -/
def Overrides (surroundings : Surroundings) (database : Database)
    (appData : OrderCreationAppData) (override : Option String) : Prop :=
  ∀ hash, appData = .hash hash → findAppData surroundings hash database = .ok override

section

variable {crypto : Crypto} {appData : OrderCreationAppData} {full : String}
  (documents : Documents crypto database) (fetches : FetchesDocuments crypto surroundings)
include documents fetches

theorem findAppData_eq_some {hash : U256}
    (found : findAppData surroundings hash database = .ok (some full)) :
    hash = 0 ∧ full = emptyAppData ∨ hashFullAppData crypto full = hash := by
  rw [findAppData] at found
  split at found
  · rename_i isZero
    cases found
    exact .inl ⟨isZero, rfl⟩
  · rename_i nonzero
    obtain ⟨stored, readOk, rest⟩ := bind_eq_ok_iff.mp found
    have storedEq := orFail_eq_ok readOk
    cases stored with
    | some stored =>
      cases rest
      exact .inr (documents hash full nonzero storedEq)
    | none => exact .inr (fetches hash full nonzero rest)

theorem hash_fullAppData (overrides : Overrides surroundings database appData override)
    (found : fullAppData appData override = some full) :
    appData.hashOf crypto = 0 ∧ full = emptyAppData ∨
      hashFullAppData crypto full = appData.hashOf crypto := by
  cases appData with
  | both sent expected | full sent =>
    cases found
    exact .inr rfl
  | hash hash =>
    have overrideOk := overrides hash rfl
    rw [show override = some full from found] at overrideOk
    exact findAppData_eq_some documents fetches overrideOk

end

/-! ## Authority -/

/-- No recent competition has a bid for the order. -/
def NotBidOn (orderbook : Orderbook) (surroundings : Surroundings) (uid : OrderUid) : Prop :=
  ∀ competition ∈ surroundings.competitions.take orderbook.activeOrderCompetitionThreshold,
    ∀ solution ∈ competition.solutions, ∀ order ∈ solution.orders, order.id ≠ uid

/-- The request by which the owner of an order has it cancelled. -/
inductive Authority (orderbook : Orderbook) (surroundings : Surroundings)
    (before after : Database) (uid : OrderUid) (owner : Address) : Request → Prop
  | cancellation (cancellation : OrderCancellation) (names : cancellation.orderUid = uid)
      (signed : cancellation.validate orderbook.crypto orderbook.domainSeparator = some owner) :
      Authority orderbook surroundings before after uid owner (.cancelOrder cancellation)
  | cancellations (cancellation : SignedOrderCancellations) (lists : uid ∈ cancellation.orderUids)
      (signed : cancellation.validate orderbook.crypto orderbook.domainSeparator = some owner) :
      Authority orderbook surroundings before after uid owner (.cancelOrders cancellation)
  | replacement (payload : OrderCreation) {recovered : Recovered} {full : String}
      {parsed : ParsedAppData} {row : StoredOrder}
      (signed : OrderValidation.recover orderbook.crypto orderbook.domainSeparator
        payload.signature ((payload.data orderbook.crypto).hashStruct orderbook.crypto) =
          .ok (some recovered))
      (byOwner : recovered.signer = owner)
      (signedAppData :
        hashFullAppData orderbook.crypto full = (payload.data orderbook.crypto).appData)
      (parses : orderbook.parse full = .ok parsed)
      (names : parsed.replacedOrder = some uid)
      (added : before.orders.get ((payload.data orderbook.crypto).uid orderbook.crypto
        orderbook.domainSeparator owner) = none)
      (stored : after.orders.get ((payload.data orderbook.crypto).uid orderbook.crypto
        orderbook.domainSeparator owner) = some row)
      (same : row.data = payload.data orderbook.crypto ∧ row.signature = payload.signature ∧
        row.owner = owner)
      (notBidOn : NotBidOn orderbook surroundings uid) :
      Authority orderbook surroundings before after uid owner (.addOrder payload)

/-- Whatever a request cancels, it has the authority to. -/
def Rightful (orderbook : Orderbook) (surroundings : Surroundings) (request : Request)
    (before after : Database) : Prop :=
  ∀ uid order, Cancels before after uid order →
    Authority orderbook surroundings before after uid order.owner request

theorem cancelOrder_rightful (orderbook : Orderbook) (surroundings : Surroundings)
    (cancellation : OrderCancellation) :
    AllOrNothing (orderbook.cancelOrder surroundings cancellation) database
      (fun _ later => Rightful orderbook surroundings (.cancelOrder cancellation)
          database later ∧ later.appData = database.appData) := by
  refine (findOrderForCancellation_reads surroundings _).bind fun order readFrom => ?_
  refine (AllOrNothing.lift _).bind fun signer recovered => ?_
  refine (AllOrNothing.lift _).bind fun _ accepted => ?_
  refine (AllOrNothing.write _).mono fun _ later written => ?_
  rw [okOr_eq_ok_iff] at recovered
  rw [rejectIf_eq_ok_iff, not_not] at accepted
  rw [mapError_eq_ok_iff] at written
  cases committed_eq_ok written
  obtain ⟨sameUid, sameOwner⟩ := readFrom
  refine ⟨?_, appData_cancel⟩
  intro uid row cancels
  by_cases same : uid = order.uid
  · have names := sameUid.symm.trans same.symm
    apply Authority.cancellation cancellation names
    rw [recovered, accepted, sameOwner row (names ▸ cancels.1)]
  · exact absurd (get_cancel_of_ne same) cancels.get_ne

theorem cancelOrders_rightful (orderbook : Orderbook) (surroundings : Surroundings)
    (cancellation : SignedOrderCancellations) :
    AllOrNothing (orderbook.cancelOrders surroundings cancellation) database
      (fun _ later => Rightful orderbook surroundings (.cancelOrders cancellation)
          database later ∧ later.appData = database.appData) := by
  refine (AllOrNothing.mapM _ fun uid _ =>
    findOrderForCancellation_reads surroundings uid).bind fun orders found => ?_
  refine (AllOrNothing.lift _).bind fun signer recovered => ?_
  refine (AllOrNothing.lift _).bind fun _ accepted => ?_
  refine (AllOrNothing.write _).mono fun _ later written => ?_
  rw [okOr_eq_ok_iff] at recovered
  rw [rejectIf_eq_ok_iff] at accepted
  rw [mapError_eq_ok_iff] at written
  cases committed_eq_ok written
  refine ⟨?_, appData_foldl_cancel⟩
  intro uid row cancels
  by_cases named : uid ∈ cancellation.orderUids
  · obtain ⟨order, orderListed, -, sameOwner⟩ := found uid named
    apply Authority.cancellations cancellation named
    have signedByOwner : signer = order.owner := by
      by_contra ne
      apply accepted
      exact any_eq_true.mpr ⟨order, orderListed, decide_eq_true ne⟩
    rw [recovered, signedByOwner, sameOwner row cancels.1]
  · exact absurd (get_foldl_cancel named) cancels.get_ne

/-! ## Adding orders -/

theorem fullAppDataOverride_reads (surroundings : Surroundings) (appData : OrderCreationAppData) :
    AllOrNothing (fullAppDataOverride surroundings appData) database
      (fun override later => later = database ∧
        Overrides surroundings database appData override) := by
  cases appData with
  | hash hash =>
    refine (AllOrNothing.read _).mono fun override later holds => ?_
    obtain ⟨sameStore, found⟩ := holds
    rw [mapError_eq_ok_iff] at found
    refine ⟨sameStore, ?_⟩
    intro _ same
    cases same
    exact found
  | both full expected | full full => exact ⟨rfl, fun _ same => by cases same⟩

/-- The order that the app data of another one names. -/
def NamedBy (orderbook : Orderbook) (database : Database) (payload : OrderCreation)
    (override : Option String) (order : Order) : Prop :=
  ∃ full parsed uid, fullAppData payload.appData override = some full ∧
    orderbook.parse full = .ok parsed ∧ parsed.replacedOrder = some uid ∧
    ReadFrom database uid order

theorem getReplacedOrder_reads (orderbook : Orderbook) (surroundings : Surroundings)
    (payload : OrderCreation) (override : Option String) :
    AllOrNothing (orderbook.getReplacedOrder surroundings payload override) database
      (fun replaced later => later = database ∧ ∀ order, replaced = some order →
        NamedBy orderbook database payload override order) := by
  rw [getReplacedOrder]
  cases found : fullAppData payload.appData override with
  | none => exact ⟨rfl, fun _ same => by cases same⟩
  | some full =>
    refine (AllOrNothing.lift _).bind fun parsed parses => ?_
    rw [mapError_eq_ok_iff] at parses
    cases names : parsed.replacedOrder with
    | none => exact ⟨rfl, fun _ same => by cases same⟩
    | some uid =>
      refine (findOrderForCancellation_reads surroundings uid).mapError.map
        fun order later holds => ⟨holds.1, ?_⟩
      intro _ same
      cases same
      exact ⟨full, parsed, uid, found, parses, names, holds.2⟩

theorem notBidOn_of_eq_false
    (computed : orderbook.orderIsActivelyBidOn surroundings uid = .ok false) :
    NotBidOn orderbook surroundings uid := by
  obtain ⟨_, loaded, none⟩ := bind_eq_ok_iff.mp computed
  cases orFail_eq_ok loaded
  intro competition listed solution proposed order bid
  simp only [pure_eq, ok.injEq, any_eq_false, Bool.not_eq_true, decide_eq_false_iff_not] at none
  exact none competition listed solution proposed order bid

section

variable (orderbook : Orderbook) (surroundings : Surroundings) (newOrder : OrderValidation.Order)
  (oldOrder : Order)

/-- A replacement that passed its checks. -/
structure Replaces (before after : Database) :
    Prop where
  ecdsa : (scheme newOrder.signature).tryToEcdsaScheme ≠ none
  sameOwner : newOrder.owner = oldOrder.owner
  notBidOn : NotBidOn orderbook surroundings oldOrder.uid
  replaced : surroundings.replaceOrder oldOrder.uid newOrder before = .ok after

theorem replaceOrder_writes :
    AllOrNothing (orderbook.replaceOrder surroundings newOrder oldOrder) database (fun _ later =>
        Replaces orderbook surroundings newOrder oldOrder database later) := by
  refine (AllOrNothing.lift _).bind fun ecdsa isEcdsa => ?_
  refine (AllOrNothing.lift _).bind fun _ sameOwner => ?_
  refine (AllOrNothing.lift _).bind fun bidOn bidOnEq => ?_
  refine (AllOrNothing.lift _).bind fun _ notBidOn => ?_
  refine (AllOrNothing.write _).mono fun _ later written => ?_
  rw [okOr_eq_ok_iff] at isEcdsa
  rw [rejectIf_eq_ok_iff, not_not] at sameOwner
  rw [mapError_eq_ok_iff] at bidOnEq
  rw [rejectIf_eq_ok_iff, Bool.not_eq_true] at notBidOn
  subst notBidOn
  refine ⟨?_, sameOwner, notBidOn_of_eq_false bidOnEq, fromInsertion_eq_ok written⟩
  rw [isEcdsa]
  exact Option.some_ne_none ecdsa

end

/-- A new order, with all others as before. -/
structure Adds (order : OrderValidation.Order) (before after : Database) : Prop where
  free : before.orders.get order.uid = none
  listed : ∃ row, after.orders.get order.uid = some row ∧
    row.cancellationTimestamp = none ∧ row.signature = order.signature ∧
    row.owner = order.owner ∧ row.data = order.data
  others : ∀ other, other ≠ order.uid → after.orders.get other = before.orders.get other
  appData : ∀ hash document, after.appData.get hash = some document →
    before.appData.get hash = some document ∨
      hash = order.data.appData ∧ order.fullAppData = some document

theorem adds_of_insert {order : OrderValidation.Order} (computed : (do
      let inserted ← before.insert now order
      inserted.insertOrderAppData order) = .ok later) : Adds order before later := by
  obtain ⟨inserted, insertedOk, storedOk⟩ := bind_eq_ok_iff.mp computed
  obtain ⟨free, sameAppData, row, others⟩ := insert_eq_ok insertedOk
  obtain ⟨sameOrders, appDataOf⟩ := insertOrderAppData_eq_ok storedOk
  rw [← sameOrders] at row others
  rw [sameAppData] at appDataOf
  exact ⟨free, row, others, appDataOf⟩

section

/-- An order that replaces nothing leaves the others alone. -/
theorem rightful_of_adds (adds : Adds order database later) :
    Rightful orderbook surroundings (.addOrder payload) database later := by
  intro uid _ cancels
  exact absurd (adds.others uid (cancels.uid_ne adds.free)) cancels.get_ne

variable (documents : Documents orderbook.crypto database)
  (fetches : FetchesDocuments orderbook.crypto surroundings)
  (overrides : Overrides surroundings database payload.appData override)
  (constructed : Constructed orderbook.crypto orderbook.domainSeparator payload override order)
include documents fetches overrides constructed

theorem documents_of_adds {before : Database} (adds : Adds order before later)
    (sameAppData : before.appData = database.appData) : Documents orderbook.crypto later := by
  intro hash document nonzero found
  obtain known | ⟨isHash, provided⟩ := adds.appData hash document found
  · exact documents hash document nonzero (sameAppData ▸ known)
  · have hashEq : hash = payload.appData.hashOf orderbook.crypto := by
      rw [isHash, constructed.data]
      rfl
    rw [constructed.fullAppData] at provided
    obtain ⟨isZero, -⟩ | preimage := hash_fullAppData documents fetches overrides provided
    · exact absurd (hashEq.trans isZero) nonzero
    · exact preimage.trans hashEq.symm

/-- The old order is cancelled by its owner, who has signed the new one. -/
theorem rightful_of_replaces {oldOrder : Order}
    (emptyNamesNone : ∀ parsed, orderbook.parse emptyAppData = .ok parsed →
      parsed.replacedOrder = none) (namedBy : NamedBy orderbook database payload override oldOrder)
    (replaces : Replaces orderbook surroundings order oldOrder database later) :
    Rightful orderbook surroundings (.addOrder payload) database later := by
  obtain ⟨_, parsed, uid, provided, parses, names, sameUid, ownerOf⟩ := namedBy
  obtain ⟨free, ⟨_, newListed, _, newSignature, newOwner, newData⟩, others, -⟩ :=
    adds_of_insert (committed_eq_ok replaces.replaced)
  have freeBefore : database.orders.get order.uid = none := by
    rw [← Option.isNone_iff_eq_none, ← Option.not_isSome] at free ⊢
    rwa [isSome_get_markCancelled] at free
  intro cancelledUid row cancels
  by_cases isOld : cancelledUid = uid
  · subst isOld
    have ownerEq := replaces.sameOwner.trans (ownerOf row cancels.1)
    have newUid : order.uid = (payload.data orderbook.crypto).uid orderbook.crypto
        orderbook.domainSeparator row.owner := by
      rw [constructed.uid, constructed.data, ownerEq]
    obtain ⟨_, verified⟩ := constructed.verified
    obtain ⟨_, signed, byOwner⟩ :=
      recover_of_verifyOwner verified (constructed.signature ▸ replaces.ecdsa)
    obtain ⟨-, isEmpty⟩ | preimage := hash_fullAppData documents fetches overrides provided
    · rw [isEmpty] at parses
      cases (emptyNamesNone parsed parses).symm.trans names
    · rw [newUid] at freeBefore newListed
      exact .replacement payload signed (byOwner.trans ownerEq) preimage parses names
        freeBefore newListed ⟨newData.trans constructed.data,
          newSignature.trans constructed.signature, newOwner.trans ownerEq⟩
        (sameUid ▸ replaces.notBidOn)
  · have unchanged := others cancelledUid (cancels.uid_ne freeBefore)
    rw [get_markCancelled_of_ne (sameUid ▸ isOld)] at unchanged
    exact absurd unchanged cancels.get_ne

end

section

variable (documents : Documents orderbook.crypto database)
  (fetches : FetchesDocuments orderbook.crypto surroundings)
  (emptyNamesNone : ∀ parsed, orderbook.parse emptyAppData = .ok parsed →
    parsed.replacedOrder = none)
include documents fetches emptyNamesNone

theorem addOrder_rightful (payload : OrderCreation) :
    AllOrNothing (orderbook.addOrder surroundings payload) database
      (fun _ later => Rightful orderbook surroundings (.addOrder payload) database later ∧
        Documents orderbook.crypto later) := by
  refine (fullAppDataOverride_reads surroundings payload.appData).bind fun override overrides => ?_
  refine (getReplacedOrder_reads orderbook surroundings payload override).bind
    fun replaced namedBy => ?_
  refine (AllOrNothing.lift _).bind fun validated accepted => ?_
  obtain ⟨order, _⟩ := validated
  rw [mapError_eq_ok_iff] at accepted
  have constructed := validateAndConstructOrder_eq_ok accepted
  cases replaced with
  | some oldOrder =>
    refine (replaceOrder_writes orderbook surroundings order oldOrder).map
      fun _ later replaces => ?_
    exact ⟨rightful_of_replaces documents fetches overrides constructed emptyNamesNone
        (namedBy oldOrder rfl) replaces,
      documents_of_adds documents fetches overrides constructed
        (adds_of_insert (committed_eq_ok replaces.replaced)) appData_markCancelled⟩
  | none =>
    refine (AllOrNothing.write _).map fun _ later written => ?_
    have adds := adds_of_insert (committed_eq_ok (fromInsertion_eq_ok written))
    exact ⟨rightful_of_adds adds,
      documents_of_adds documents fetches overrides constructed adds rfl⟩

/-! ## Runs of requests -/

theorem handle_rightful (request : Request) :
    AllOrNothing (orderbook.handle surroundings request) database
      (fun _ later => Rightful orderbook surroundings request database later ∧
        Documents orderbook.crypto later) := by
  cases request with
  | cancelOrder cancellation =>
    refine (cancelOrder_rightful orderbook surroundings cancellation).mapError.mono
      fun _ later holds => ⟨holds.1, ?_⟩
    rw [Documents, holds.2]
    exact documents
  | cancelOrders cancellation =>
    refine (cancelOrders_rightful orderbook surroundings cancellation).mapError.mono
      fun _ later holds => ⟨holds.1, ?_⟩
    rw [Documents, holds.2]
    exact documents
  | addOrder payload =>
    exact (addOrder_rightful documents fetches emptyNamesNone payload).mapError.map
      fun _ later holds => holds

end

/-- What is claimed of one request: a failure changes nothing, and a success cancels only
what the owner wants to be cancelled. -/
def Respects (orderbook : Orderbook) (database : Database)
    (action : Surroundings × Request) : Prop :=
  ((∀ value, (orderbook.handle action.1 action.2 database).1 ≠ .ok value) →
      orderbook.step database action = database) ∧
    Rightful orderbook action.1 action.2 database (orderbook.step database action)

theorem step_respects {action : Surroundings × Request}
    (documents : Documents orderbook.crypto database)
    (fetches : FetchesDocuments orderbook.crypto action.1)
    (emptyNamesNone : ∀ parsed, orderbook.parse emptyAppData = .ok parsed →
      parsed.replacedOrder = none) :
    Respects orderbook database action ∧
      Documents orderbook.crypto (orderbook.step database action) := by
  have holds := handle_rightful documents fetches emptyNamesNone action.2
  rw [AllOrNothing] at holds
  rw [Respects, step]
  -- a database that has not changed has not cancelled anything either
  have unchanged : Rightful orderbook action.1 action.2 database database :=
    fun _ _ cancels => absurd rfl cancels.get_ne
  cases ran : orderbook.handle action.1 action.2 database with
  | mk outcome later =>
    rw [ran] at holds
    cases outcome with
    | ok value => exact ⟨⟨fun failed => absurd rfl (failed value), holds.1⟩, holds.2⟩
    | err error | panic reason =>
      cases holds
      exact ⟨⟨fun _ => rfl, unchanged⟩, documents⟩

/-- Along every run, starting from any tables, orders are only cancelled by their owners. -/
theorem requests_respect_owners (orderbook : Orderbook) (database : Database)
    (actions : List (Surroundings × Request)) (documents : Documents orderbook.crypto database)
    (fetches : ∀ action ∈ actions, FetchesDocuments orderbook.crypto action.1)
    (emptyNamesNone : ∀ parsed, orderbook.parse emptyAppData = .ok parsed →
      parsed.replacedOrder = none) :
    Run.Along orderbook.step (Respects orderbook) database actions := by
  have allowed : Run.Along orderbook.step
      (fun _ action => FetchesDocuments orderbook.crypto action.1) database actions :=
    Run.along_of_forall fun _ action listed => fetches action listed
  refine Run.along_of_preserved (Documents orderbook.crypto) ?_ documents allowed ?_
  · intro database action documents fetches
    exact (step_respects documents fetches emptyNamesNone).2
  · intro database action documents fetches
    exact (step_respects documents fetches emptyNamesNone).1

section

open OrderValidation.OrderValidator (evenQuote openServices openValidator plainOrder)

def sampleOrderbook : Orderbook where
  domainSeparator := 0
  settlementContract := 9
  orderValidator :=
    { openValidator (openServices ⟨[], []⟩ (.ok evenQuote) 0) with
      crypto := ⟨fun _ => 1, fun _ _ => some 5⟩ }
  parse document := .ok ⟨⟨⟨[], []⟩, none, none⟩,
    if document = emptyAppData then none else some ⟨2, 5, 90⟩⟩
  activeOrderCompetitionThreshold := 1

def sampleDatabase : Database where
  orders := ⟨[(⟨2, 5, 90⟩, {
    owner := 5
    data := plainOrder.data sampleOrderbook.crypto
    «class» := .limit
    signature := .eip712 ⟨1, 1, 27⟩
    settlementContract := 9
    interactions := ⟨[], []⟩
    quote := none
    creationTimestamp := 20
    cancellationTimestamp := none })], List.nodup_singleton _⟩
  appData := ⟨[], List.nodup_nil⟩
  events := []

/-- The old order was bid on, but not in the last competition. -/
def sampleSurroundings : Surroundings where
  now := 30
  ledger _ := ⟨0, 0, 0, false, none, none⟩
  jitOrders _ := none
  competitions := [⟨[]⟩, ⟨[⟨[.legacy ⟨2, 5, 90⟩ 1]⟩]⟩]
  ipfs _ := .ok none
  services := openServices ⟨[], []⟩ (.ok evenQuote) 0
  orderReadError _ := none
  appDataReadError := none
  competitionReadError := none
  writeError := none

def replacingOrder : OrderCreation :=
  { plainOrder with
    signature := .eip712 ⟨3, 3, 28⟩
    appData := .full "replace" }

theorem requests_respect_owners_replacement : ((sampleOrderbook.step sampleDatabase
        (sampleSurroundings, .addOrder replacingOrder)).orders.get ⟨2, 5, 90⟩).map
        StoredOrder.cancellationTimestamp = some (some 30) ∧
      Run.Along sampleOrderbook.step (Respects sampleOrderbook) sampleDatabase
        [(sampleSurroundings, .addOrder replacingOrder)] := by
  refine ⟨rfl, requests_respect_owners sampleOrderbook sampleDatabase _ ?_ ?_ ?_⟩
  · intro hash document nonzero stored
    cases stored
  · intro _ listed hash document nonzero fetched
    cases mem_singleton.mp listed
    cases fetched
  · intro _ parses
    cases parses
    rfl

end

end MandateSolver.Orderbook
