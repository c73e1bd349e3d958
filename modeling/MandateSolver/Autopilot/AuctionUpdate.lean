import MandateSolver.Autopilot.OrderFilters
import MandateSolver.Autopilot.PartnerFees
import MandateSolver.Foundation.RetainLoop

/-!
# Building an auction

The candidates go through one filter after another.  Every filter reports what it removed by
comparing with a counter of the orders that are left.
-/

namespace MandateSolver.Autopilot.SolvableOrdersCache

open List EntryMap

open Outcome hiding none

open Model (BuyTokenDestination OrderKind SellTokenSource Signature)
open OrderValidation (BalanceQuery F64 InteractionData OrderClass SignatureCheck TokenQuality)
open ProtocolFees (Policy)
open WinnerSelection (OrderUid)

/-! ## Counting filtered orders -/

/-- Orders that are still in, with counts of the others. -/
structure OrderFilterCounter where
  orders : EntryMap OrderUid OrderClass
  counts : EntryMap String Nat

namespace OrderFilterCounter

def new (orders : List Order) : OrderFilterCounter where
  orders := .collect (orders.map fun order => (order.metadata.uid, order.metadata.class))
  counts := ⟨[], List.nodup_nil⟩

def count (counts : EntryMap String Nat) (reason : String) (filtered : Nat) : EntryMap String Nat :=
  counts.insert reason ((counts.get reason).getD 0 + filtered)

def removeAll {ε : Type} (orders : EntryMap OrderUid OrderClass) (uids : List OrderUid) :
    Outcome ε (EntryMap OrderUid OrderClass) :=
  uids.foldlM (fun orders uid => do
    let _ ← .expect "called Option::unwrap() on a None value" (orders.get uid)
    return orders.remove uid) orders

/-- Everything that is not among the orders was filtered. -/
def checkpoint {ε : Type} (counter : OrderFilterCounter) (reason : String)
    (orders : List Order) : Outcome ε (List OrderUid × OrderFilterCounter) := do
  let filteredOrders :=
    orders.foldl (fun uids order => uids.remove order.metadata.uid) counter.orders
  let remaining ← removeAll counter.orders filteredOrders.keys
  return (filteredOrders.keys, ⟨remaining, count counter.counts reason filteredOrders.keys.length⟩)

def checkpointByInvalidOrders (counter : OrderFilterCounter) (reason : String)
    (invalidOrders : List OrderUid) : OrderFilterCounter :=
  if invalidOrders = [] then counter
  else
    let (orders, removed) := invalidOrders.foldl
      (fun (orders, removed) uid =>
        (orders.remove uid, if (orders.get uid).isSome then removed + 1 else removed))
      (counter.orders, 0)
    ⟨orders, count counter.counts reason removed⟩

/-- What was filtered since the last checkpoint has no reason of its own. -/
def record {ε : Type} (counter : OrderFilterCounter) (orders : List Order) :
    Outcome ε (List OrderUid) := do
  let (removed, _) ← counter.checkpoint "other" orders
  return removed

end OrderFilterCounter

/-! ## The auction -/

structure Quote where
  orderUid : OrderUid
  (sellAmount buyAmount fee : U256)
  solver : Address

/-- Open orders and their quotes. -/
structure SolvableOrders where
  orders : EntryMap OrderUid Order
  quotes : EntryMap OrderUid Quote
  keyed : ∀ entry ∈ orders.entries, entry.1 = entry.2.metadata.uid

structure CowAmm where
  address : Address
  tradedTokens : List Address

/-- An order with its fee policies. -/
structure AuctionOrder where
  uid : OrderUid
  (sell buy : Asset)
  protocolFees : List Policy
  (created validTo : U32)
  side : OrderKind
  receiver : Option Address
  owner : Address
  partiallyFillable : Bool
  executed : U256
  (preInteractions postInteractions : List InteractionData)
  sellTokenBalance : SellTokenSource
  buyTokenBalance : BuyTokenDestination
  appData : U256
  signature : Signature
  quote : Option Quote

abbrev Prices := EntryMap Address U256

/-- An auction without an id. -/
structure RawAuctionData where
  block : Nat
  orders : List AuctionOrder
  prices : Prices
  surplusCapturingJitOrderOwners : List Address

/-- What is asked from outside during one update.  The conversion of a floating point
price and the computation of the fees are not looked into. -/
structure Services where
  getSolvableOrders : Except String SolvableOrders
  getBalances : List BalanceQuery → List (Except String U256)
  banned : List Address → List Address
  validateSignature : SignatureCheck → Except String Unit
  detect : Address → Except String TokenQuality
  cowAmms : List CowAmm
  estimateNativePricesWithTimeout : List Address → EntryMap Address (Except String F64)
  estimateNativePrice : Address → Except String F64
  toNormalizedPrice : F64 → Option U256
  (getPartnerFee getProtocolFees : Order → Quote → List Policy)

/-- The fixed part of the cache. -/
structure Settings where
  weth : Address
  limitOrderPriceFactor : ℚ
  settlementContract : Address
  (disableOrderBalanceFilter disable1271OrderSigFilter disable1271OrderBalanceFilter : Bool)

/-- Pre-interactions belong to the first execution only.  A creation date that does
not fit counts as zero. -/
def Order.toDomain (order : Order) (protocolFees : List Policy) (quote : Option Quote) :
    AuctionOrder where
  uid := order.metadata.uid
  sell := ⟨order.data.sellAmount, order.data.sellToken⟩
  buy := ⟨order.data.buyAmount, order.data.buyToken⟩
  protocolFees := protocolFees
  created := if 0 ≤ order.metadata.creationDate ∧ order.metadata.creationDate < 2 ^ 32 then
      BitVec.ofInt 32 order.metadata.creationDate
    else 0
  validTo := order.data.validTo
  side := order.data.kind
  receiver := order.data.receiver
  owner := order.metadata.owner
  partiallyFillable := order.data.partiallyFillable
  executed := order.forRemaining.executedAmount
  preInteractions := if order.forRemaining.executedAmount.isZero then order.interactions.pre else []
  postInteractions := order.interactions.post
  sellTokenBalance := order.data.sellTokenBalance
  buyTokenBalance := order.data.buyTokenBalance
  appData := order.data.appData
  signature := order.signature
  quote := quote

/-- An order without a quote is taken to be out of the market. -/
def applyFees (services : Services) (order : Order) (quote : Option Quote)
    (surplusCapturingJitOrderOwners : List Address) : AuctionOrder :=
  let referenceQuote := quote.getD ⟨order.metadata.uid, order.data.sellAmount, 0,
    order.data.feeAmount, 0⟩
  let partnerFee := services.getPartnerFee order referenceQuote
  if order.metadata.owner ∈ surplusCapturingJitOrderOwners then
    order.toDomain partnerFee quote
  else
    order.toDomain (services.getProtocolFees order referenceQuote ++ partnerFee)
      (some referenceQuote)

/-! ## Prices -/

def getNativePrices (services : Services) (tokens : List Address) : Prices :=
  .collect ((services.estimateNativePricesWithTimeout tokens).entries.filterMap
    fun (token, result) =>
      match result with
      | .ok price => (services.toNormalizedPrice price).map fun price => (token, price)
      | .error _ => none)

def hasPrices (prices : Prices) (order : Order) : Bool :=
  (prices.get order.data.sellToken).isSome && (prices.get order.data.buyToken).isSome

def getOrdersWithNativePrices (services : Services) (orders : List Order)
    (additionalTokens : List Address) : List Order × Prices :=
  let tradedTokens := (orders.flatMap (fun order =>
    [order.data.sellToken, order.data.buyToken]) ++ additionalTokens).eraseDups
  let prices := getNativePrices services tradedTokens
  (orders.filter (hasPrices prices), prices)

def addWethPrice {ε : Type} (services : Services) (weth : Address) (prices : Prices) :
    Outcome ε Prices :=
  match prices.get weth with
  | some _ => .ok prices
  | none => do
    let wethPrice ← .expect "weth price fetching can never fail"
      (services.estimateNativePrice weth).toOption
    let wethPrice ← .expect "weth price can never be outside of U256 range"
      (services.toNormalizedPrice wethPrice)
    return prices.insert weth wethPrice

/-- Decimals are exact. -/
def isNotMispriced {ε : Type} (prices : Prices) (priceFactor : ℚ) (order : Order) :
    Outcome ε Bool :=
  if ¬ order.isLimitOrder then .ok true
  else do
    let sellPrice ← .expect "called Option::unwrap() on a None value"
      (prices.get order.data.sellToken)
    let buyPrice ← .expect "called Option::unwrap() on a None value"
      (prices.get order.data.buyToken)
    match order.data.sellAmount.checkedMul sellPrice, order.data.buyAmount.checkedMul buyPrice with
    | some sellNative, some buyNative =>
      return decide (buyNative.toNat * priceFactor ≤ sellNative.toNat)
    | _, _ => return false

def filterMispricedLimitOrders {ε : Type} (orders : List Order) (prices : Prices)
    (priceFactor : ℚ) : Outcome ε (List Order) :=
  retainM (isNotMispriced prices priceFactor) orders

/-! ## The update -/

/-- Orders between two filters. -/
structure Progress where
  orders : List Order
  counter : OrderFilterCounter
  (invalidOrderUids filteredOrderEvents : List OrderUid)

def fetchBalances (settings : Settings) (services : Services)
    (queries : List BalanceQuery) : Balances :=
  let fetchedBalances := services.getBalances queries
  if settings.disableOrderBalanceFilter then ⟨[], List.nodup_nil⟩
  else .collect ((queries.zip fetchedBalances).filterMap fun (query, balance) =>
    balance.toOption.map fun balance => (query, balance))

def filterInvalidOrders (settings : Settings) (services : Services)
    (progress : Progress) : Progress :=
  let orders := progress.orders
  let bannedUserOrders := findBannedUserOrders services.banned orders
  let invalidSignatureOrders := findInvalidSignatureOrders services.validateSignature
    settings.disable1271OrderSigFilter orders
  let unsupportedTokenOrders := findUnsupportedTokens services.detect orders
  let counter := progress.counter
    |>.checkpointByInvalidOrders "banned_user" bannedUserOrders
    |>.checkpointByInvalidOrders "invalid_signature" invalidSignatureOrders
    |>.checkpointByInvalidOrders "unsupported_token" unsupportedTokenOrders
  let invalidOrderUids := unsupportedTokenOrders ∪ (invalidSignatureOrders ∪
    (bannedUserOrders ∪ progress.invalidOrderUids))
  { progress with
    orders := orders.filter (·.metadata.uid ∉ invalidOrderUids)
    counter := counter
    invalidOrderUids := invalidOrderUids }

def Progress.invalidate {ε : Type} (progress : Progress) (reason : String)
    (orders : List Order) : Outcome ε Progress := do
  let (removed, counter) ← progress.counter.checkpoint reason orders
  return { progress with
    orders := orders
    counter := counter
    invalidOrderUids := removed ∪ progress.invalidOrderUids }

def Progress.filtered {ε : Type} (progress : Progress) (reason : String)
    (orders : List Order) : Outcome ε Progress := do
  let (removed, counter) ← progress.counter.checkpoint reason orders
  return { progress with
    orders := orders
    counter := counter
    filteredOrderEvents := progress.filteredOrderEvents ++ removed }

def filterByBalance {ε : Type} (settings : Settings) (balances : Balances)
    (progress : Progress) : Outcome ε Progress :=
  if settings.disableOrderBalanceFilter then .ok progress
  else do
    let progress ← progress.invalidate "insufficient_balance"
      (ordersWithBalance progress.orders balances settings.settlementContract
        settings.disable1271OrderBalanceFilter)
    progress.filtered "dust_order" (filterDustOrders progress.orders balances)

/-- The result of an update. -/
structure Update where
  (invalidOrderUids filteredOrderEvents : List OrderUid)
  auction : RawAuctionData
  solvableOrders : SolvableOrders

def surplusCapturingJitOrderOwners (cowAmms : List CowAmm) (prices : Prices) : List Address :=
  (cowAmms.filter fun amm => amm.tradedTokens.all fun token =>
    (prices.get token).isSome).map (·.address)

def priceTryNew (value : U256) : Outcome String U256 :=
  if value.isZero then .err "price cannot be zero" else .ok value

def auctionPrice (entry : Address × U256) : Outcome String (Address × U256) := do
  let price ← priceTryNew entry.2
  return (entry.1, price)

/-- The events and the auction are returned, whoever stores them. -/
def update (settings : Settings) (services : Services) (block : Nat) : Outcome String Update := do
  let dbSolvableOrders ← match services.getSolvableOrders with
    | .ok orders => .ok orders
    | .error error => .err error
  let orders := dbSolvableOrders.orders.entries.map Prod.snd
  let balances := fetchBalances settings services (orders.map Order.balanceQuery)
  let progress := filterInvalidOrders settings services ⟨orders, .new orders, [], []⟩
  let progress ← filterByBalance settings balances progress
  let cowAmmTokens := services.cowAmms.flatMap (·.tradedTokens)
  let (priced, prices) := getOrdersWithNativePrices services progress.orders cowAmmTokens
  let prices ← addWethPrice services settings.weth prices
  let progress ← progress.filtered "missing_price" priced
  let inMarket ← filterMispricedLimitOrders progress.orders prices
    settings.limitOrderPriceFactor
  let progress ← progress.filtered "out_of_market" inMarket
  let removed ← progress.counter.record progress.orders
  let owners := surplusCapturingJitOrderOwners services.cowAmms prices
  let auctionPrices ← prices.entries.mapM auctionPrice
  return {
    invalidOrderUids := progress.invalidOrderUids
    filteredOrderEvents := progress.filteredOrderEvents ++ removed
    auction := {
      block := block
      orders := progress.orders.map fun order => applyFees services order
        (dbSolvableOrders.quotes.get order.metadata.uid) owners
      prices := .collect auctionPrices
      surplusCapturingJitOrderOwners := owners }
    solvableOrders := dbSolvableOrders }

/-! ## Every order is in one place -/

section

variable {ε : Type} {orders : List Order}

theorem OrderFilterCounter.removeAll_returns {orders : EntryMap OrderUid OrderClass}
    {uids : List OrderUid} (distinct : uids.Nodup) (known : uids ⊆ orders.keys) :
    Returns (removeAll orders uids : Outcome ε _)
      fun rest => rest.keys = orders.keys.filter (· ∉ uids) := by
  induction uids generalizing orders with
  | nil => exact .ok (by simp)
  | cons uid uids ih =>
    obtain ⟨absent, distinct⟩ := nodup_cons.mp distinct
    obtain ⟨present, known⟩ := cons_subset.mp known
    obtain ⟨_, lookup⟩ := Option.isSome_iff_exists.mp (isSome_get_iff.mpr present)
    have stillKnown : uids ⊆ (orders.remove uid).keys := by
      intro other listed
      rw [keys_remove, mem_filter, decide_eq_true_iff]
      exact ⟨known listed, fun same => absent (same ▸ listed)⟩
    rw [removeAll, foldlM_cons, lookup]
    apply (ih distinct stillKnown).mono
    intro rest keys
    rw [keys, keys_remove, filter_filter]
    apply filter_congr
    intro other _
    rw [← Bool.decide_and, decide_eq_decide, mem_cons, not_or]
    exact and_comm

/-- A checkpoint knows the orders of the counter, so it splits them into those that
were removed and those that were kept. -/
theorem OrderFilterCounter.checkpoint_returns {counter : OrderFilterCounter}
    {reason : String} {kept : List Order} (distinct : (orders.map (·.metadata.uid)).Nodup)
    (known : counter.orders.keys.Perm (orders.map (·.metadata.uid))) (fewer : kept.Subperm orders) :
    Returns (counter.checkpoint reason kept : Outcome ε _) fun (removed, next) =>
      next.orders.keys.Perm (kept.map (·.metadata.uid)) ∧
        (removed ++ kept.map (·.metadata.uid)).Perm (orders.map (·.metadata.uid)) := by
  have distinctKeys : counter.orders.keys.Nodup := counter.orders.nodup_keys
  obtain ⟨_, permutation, sublist⟩ := fewer
  have fewerUids : kept.map (·.metadata.uid) ⊆ orders.map (·.metadata.uid) :=
    map_subset _ fun _ listed => sublist.subset (permutation.mem_iff.mpr listed)
  have distinctKept := (permutation.map _).nodup_iff.mp ((sublist.map _).nodup distinct)
  have filteredKeys := keys_foldl_remove counter.orders kept (·.metadata.uid)
  have keptKeys : (counter.orders.keys.filter (· ∈ kept.map (·.metadata.uid))).Perm
      (kept.map (·.metadata.uid)) := by
    rw [perm_ext_iff_of_nodup (distinctKeys.filter _) distinctKept]
    intro uid
    rw [mem_filter, decide_eq_true_iff, and_iff_right_iff_imp]
    intro listed
    exact known.mem_iff.mpr (fewerUids listed)
  refine (removeAll_returns ?_ ?_).bind ?_
  · exact nodup_keys _
  · rw [filteredKeys]
    exact filter_subset_self _
  · intro rest restKeys
    refine .ok ⟨?_, ?_⟩
    · have complement : rest.keys = counter.orders.keys.filter (· ∈ kept.map (·.metadata.uid)) := by
        rw [restKeys, filteredKeys]
        apply filter_congr
        intro uid listed
        rw [decide_eq_decide, mem_filter, decide_eq_true_iff, and_iff_right listed, not_not]
      rw [complement]
      exact keptKeys
    · rw [filteredKeys]
      have split := filter_append_perm (· ∉ kept.map (·.metadata.uid)) counter.orders.keys
      simp only [decide_not, Bool.not_not] at split ⊢
      exact ((keptKeys.symm.append_left _).trans split).trans known

/-- Every candidate is invalid, filtered out or still in the auction. -/
structure Accounted (candidates : List OrderUid) (progress : Progress) : Prop where
  known : progress.counter.orders.keys.Perm (progress.orders.map (·.metadata.uid))
  everywhere : (progress.invalidOrderUids ++ progress.filteredOrderEvents ++
    progress.orders.map (·.metadata.uid)).Perm candidates

variable {candidates : List OrderUid} {progress : Progress} {reason : String} {kept : List Order}

section

variable (accounted : Accounted candidates progress) (distinct : candidates.Nodup)
include accounted distinct

section

variable (fewer : kept.Subperm progress.orders)
include fewer

theorem Accounted.checkpoint_returns :
    Returns (progress.counter.checkpoint reason kept : Outcome ε _) fun (removed, next) =>
      next.orders.keys.Perm (kept.map (·.metadata.uid)) ∧
        (progress.invalidOrderUids ++ progress.filteredOrderEvents ++
          (removed ++ kept.map (·.metadata.uid))).Perm candidates := by
  have distinctOrders := (accounted.everywhere.nodup_iff.mpr distinct).of_append_right
  apply (OrderFilterCounter.checkpoint_returns distinctOrders accounted.known fewer).mono
  rintro ⟨_, _⟩ ⟨known, everywhere⟩
  exact ⟨known, (everywhere.append_left _).trans accounted.everywhere⟩

theorem Accounted.filtered_returns :
    Returns (progress.filtered reason kept : Outcome ε _) fun next =>
      Accounted candidates next ∧ next.orders = kept := by
  apply (accounted.checkpoint_returns distinct fewer).bind
  rintro ⟨_, _⟩ ⟨known, moved⟩
  refine .ok ⟨⟨known, ?_⟩, rfl⟩
  simpa only [append_assoc] using moved

theorem Accounted.invalidate_returns :
    Returns (progress.invalidate reason kept : Outcome ε _) fun next =>
      Accounted candidates next ∧ next.orders = kept := by
  apply (accounted.checkpoint_returns distinct fewer).bind
  rintro ⟨removed, _⟩ ⟨known, moved⟩
  refine .ok ⟨⟨known, ?_⟩, rfl⟩
  have distinctMoved := moved.nodup_iff.mpr distinct
  have apart : removed.Disjoint progress.invalidOrderUids := by
    intro _ inRemoved inInvalid
    exact (nodup_append'.mp distinctMoved).2.2
      (mem_append_left _ inInvalid) (mem_append_left _ inRemoved)
  have distinctRemoved := distinctMoved.of_append_right.of_append_left
  rw [apart.union_eq, distinctRemoved.dedup, append_assoc removed]
  apply (perm_append_comm.append_right _).trans
  rw [append_assoc _ removed]
  exact moved

end

theorem Accounted.record_returns :
    Returns (progress.counter.record progress.orders : Outcome ε _) fun removed =>
      (progress.invalidOrderUids ++ (progress.filteredOrderEvents ++ removed) ++
        progress.orders.map (·.metadata.uid)).Perm candidates := by
  apply (accounted.checkpoint_returns distinct (List.Subperm.refl _)).bind
  rintro ⟨removed, _⟩ ⟨_, moved⟩
  apply Returns.ok
  simpa only [append_assoc] using moved

end

theorem OrderFilterCounter.keys_checkpointByInvalidOrders (counter : OrderFilterCounter)
    (reason : String) (uids : List OrderUid) :
    (counter.checkpointByInvalidOrders reason uids).orders.keys =
      counter.orders.keys.filter (· ∉ uids) := by
  have removes : ∀ (orders : EntryMap OrderUid OrderClass) removed,
      (uids.foldl (fun (orders, removed) uid =>
          (orders.remove uid, if (orders.get uid).isSome then removed + 1 else removed))
        (orders, removed)).1 = uids.foldl (fun orders uid => orders.remove uid) orders := by
    induction uids with
    | nil =>
      intro orders removed
      rfl
    | cons uid uids ih =>
      intro orders removed
      exact ih _ _
  rw [checkpointByInvalidOrders]
  split
  · rename_i none
    simp [none]
  · dsimp only
    rw [removes, keys_foldl_remove counter.orders uids fun uid => uid, map_id']

theorem OrderFilterCounter.keys_new
    (distinct : (orders.map (·.metadata.uid)).Nodup) :
    (new orders).orders.keys = orders.map (·.metadata.uid) := by
  have keys : (orders.map fun order => (order.metadata.uid, order.metadata.class)).map
      Prod.fst = orders.map (·.metadata.uid) := by
    rw [map_map]
    rfl
  rw [new, keys_collect (by rwa [keys]), keys]

theorem append_filter_not_mem_perm {uids found : List OrderUid} (distinct : uids.Nodup)
    (distinctFound : found.Nodup) (inside : found ⊆ uids) :
    (found ++ uids.filter (· ∉ found)).Perm uids := by
  have selected : (uids.filter (· ∈ found)).Perm found := by
    rw [perm_ext_iff_of_nodup (distinct.filter _) distinctFound]
    intro _
    rw [mem_filter, decide_eq_true_iff, and_iff_right_iff_imp]
    exact fun listed => inside listed
  have split := filter_append_perm (· ∈ found) uids
  simp only [decide_not] at split ⊢
  exact (selected.symm.append_right _).trans split

theorem filterMap_uid_subset (flag : Order → Bool) :
    (orders.filterMap fun order => if flag order then some order.metadata.uid else none) ⊆
      orders.map (·.metadata.uid) := by
  rw [filterMap_then_uid]
  exact map_subset _ (filter_subset_self _)

variable (settings : Settings) (services : Services) {prices : Prices} {order : Order}

theorem filterInvalidOrders_accounted
    (distinct : (orders.map (·.metadata.uid)).Nodup) :
    Accounted (orders.map (·.metadata.uid))
      (filterInvalidOrders settings services ⟨orders, .new orders, [], []⟩) := by
  have bannedInside : findBannedUserOrders services.banned orders ⊆
      orders.map (·.metadata.uid) := filterMap_uid_subset _
  have signatureInside : findInvalidSignatureOrders services.validateSignature
      settings.disable1271OrderSigFilter orders ⊆ orders.map (·.metadata.uid) :=
    filterMap_uid_subset _
  have tokensInside : findUnsupportedTokens services.detect orders ⊆
      orders.map (·.metadata.uid) := filterMap_uid_subset _
  rw [filterInvalidOrders]
  generalize findBannedUserOrders services.banned orders = bannedUserOrders at *
  generalize findInvalidSignatureOrders services.validateSignature
    settings.disable1271OrderSigFilter orders = invalidSignatureOrders at *
  generalize findUnsupportedTokens services.detect orders = unsupportedTokenOrders at *
  have distinctFound : (unsupportedTokenOrders ∪ (invalidSignatureOrders ∪
      (bannedUserOrders ∪ []))).Nodup :=
    ((nodup_nil.union _).union _).union _
  have foundInside : (unsupportedTokenOrders ∪ (invalidSignatureOrders ∪
      (bannedUserOrders ∪ []))) ⊆ orders.map (·.metadata.uid) := by
    intro uid found
    simp only [mem_union_iff, not_mem_nil, or_false] at found
    obtain token | signature | user := found
    · exact tokensInside token
    · exact signatureInside signature
    · exact bannedInside user
  have kept : (orders.filter (·.metadata.uid ∉ unsupportedTokenOrders ∪
        (invalidSignatureOrders ∪ (bannedUserOrders ∪ [])))).map (·.metadata.uid) =
      (orders.map (·.metadata.uid)).filter (· ∉ unsupportedTokenOrders ∪
        (invalidSignatureOrders ∪ (bannedUserOrders ∪ []))) := by
    rw [filter_map]
    rfl
  constructor
  · rw [OrderFilterCounter.keys_checkpointByInvalidOrders,
      OrderFilterCounter.keys_checkpointByInvalidOrders,
      OrderFilterCounter.keys_checkpointByInvalidOrders,
      OrderFilterCounter.keys_new distinct, kept, filter_filter, filter_filter]
    apply List.Perm.of_eq
    apply filter_congr
    simp only [← Bool.decide_and, decide_eq_decide, mem_union_iff, not_mem_nil]
    tauto
  · rw [kept, append_nil]
    exact append_filter_not_mem_perm distinct distinctFound foundInside

theorem filterByBalance_returns (balances : Balances)
    (distinct : candidates.Nodup) (accounted : Accounted candidates progress) :
    Returns (filterByBalance settings balances progress : Outcome ε _)
      (Accounted candidates) := by
  rw [filterByBalance]
  split
  · exact .ok accounted
  · refine (accounted.invalidate_returns distinct ?_).bind ?_
    · exact filter_sublist.subperm.trans (perm_insertionSort _ _).subperm
    · rintro _ ⟨nextAccounted, _⟩
      apply (nextAccounted.filtered_returns distinct filter_sublist.subperm).mono
      rintro _ ⟨lastAccounted, _⟩
      exact lastAccounted

/-- The weth price is missing or too large. -/
def WethPriceMissing (reason : Panic) : Prop :=
  reason = .expect "weth price fetching can never fail" ∨
    reason = .expect "weth price can never be outside of U256 range"

theorem addWethPrice_ends (weth : Address) (prices : Prices) :
    Ends (addWethPrice services weth prices : Outcome ε _) WethPriceMissing
      fun next => ∀ order, hasPrices prices order = true → hasPrices next order = true := by
  rw [addWethPrice]
  split
  · exact fun _ priced => priced
  · rename_i missing
    refine (Ends.expect fun _ => .inl rfl).bind fun price _ => ?_
    refine (Ends.expect fun _ => .inr rfl).bind fun normalized _ => ?_
    have kept : ∀ token, (prices.get token).isSome →
        ((prices.insert weth normalized).get token).isSome := by
      intro token priced
      have other : token ≠ weth := by
        intro same
        rw [same, missing] at priced
        cases priced
      rwa [get_insert_of_ne other]
    intro order priced
    obtain ⟨sell, buy⟩ := Bool.and_eq_true_iff.mp priced
    exact Bool.and_eq_true_iff.mpr ⟨kept _ sell, kept _ buy⟩

theorem isNotMispriced_returns (priceFactor : ℚ) (priced : hasPrices prices order = true) :
    Returns (isNotMispriced prices priceFactor order : Outcome ε _) fun _ => True := by
  obtain ⟨sell, buy⟩ := Bool.and_eq_true_iff.mp priced
  obtain ⟨_, sellFound⟩ := Option.isSome_iff_exists.mp sell
  obtain ⟨_, buyFound⟩ := Option.isSome_iff_exists.mp buy
  rw [isNotMispriced, sellFound, buyFound]
  split
  · exact .ok trivial
  · simp only [expect_some, ok_bind]
    split <;> exact .ok trivial

theorem mapM_auctionPrice_ends (entries : List (Address × U256)) :
    Ends (entries.mapM auctionPrice) WethPriceMissing (· = entries) := by
  have noPanic : NoPanic (entries.mapM auctionPrice) := by
    apply NoPanic.mapM
    intro entry _
    rw [auctionPrice, priceTryNew]
    split <;> simp
  cases returned : entries.mapM auctionPrice with
  | err error => trivial
  | panic reason => exact absurd (returned ▸ noPanic) (not_noPanic_panic reason)
  | ok checked =>
    have passed : ∀ entry price, auctionPrice entry = .ok price → entry = price := by
      intro entry price passed
      rw [auctionPrice, priceTryNew] at passed
      split at passed <;> cases passed
      rfl
    have same := (mapM_eq_ok_iff.mp returned).imp passed
    rw [forall₂_eq_eq_eq] at same
    exact same.symm

theorem hasPrices_collect {entries : List (Address × U256)} (same : entries = prices.entries)
    (priced : hasPrices prices order = true) : hasPrices (.collect entries) order = true := by
  have found : ∀ token, ((EntryMap.collect entries).get token).isSome =
      (prices.get token).isSome := by
    intro token
    rw [Bool.eq_iff_iff, isSome_get_iff, isSome_get_iff,
      keys_collect (by rw [same]; exact prices.nodup_keys), same]
    rfl
  rwa [hasPrices, found, found]

/-- No candidate is lost and every order of the auction has both prices. -/
structure Complete (candidates : List OrderUid) (result : Update) : Prop where
  everywhere : (result.invalidOrderUids ++ result.filteredOrderEvents ++
    result.auction.orders.map (·.uid)).Perm candidates
  priced : ∀ order ∈ result.auction.orders, (result.auction.prices.get order.sell.token).isSome ∧
      (result.auction.prices.get order.buy.token).isSome

theorem applyFees_fields (order : Order) (quote : Option Quote) (owners : List Address) :
    (applyFees services order quote owners).uid = order.metadata.uid ∧
      (applyFees services order quote owners).sell.token = order.data.sellToken ∧
      (applyFees services order quote owners).buy.token = order.data.buyToken := by
  rw [applyFees]
  split <;> exact ⟨rfl, rfl, rfl⟩

theorem update_ends (block : Nat)
    {fetched : SolvableOrders} (success : services.getSolvableOrders = .ok fetched) :
    Ends (update settings services block) WethPriceMissing
      (Complete fetched.orders.keys) := by
  have uids : (fetched.orders.entries.map Prod.snd).map (·.metadata.uid) =
      fetched.orders.keys := by
    rw [map_map]
    apply map_congr_left
    intro entry listed
    exact (fetched.keyed entry listed).symm
  have distinct : fetched.orders.keys.Nodup := fetched.orders.nodup_keys
  have distinctUids : ((fetched.orders.entries.map Prod.snd).map (·.metadata.uid)).Nodup := by
    rwa [uids]
  have start := filterInvalidOrders_accounted settings services distinctUids
  rw [uids] at start
  rw [update, success]
  refine (Ends.of_returns (filterByBalance_returns settings _ distinct start)).bind
    fun balanced balancedAccounted => ?_
  refine (addWethPrice_ends services settings.weth _).bind fun prices keeps => ?_
  refine (Ends.of_returns (balancedAccounted.filtered_returns distinct
    filter_sublist.subperm)).bind fun priced kept => ?_
  obtain ⟨pricedAccounted, pricedOrders⟩ := kept
  have allPriced : ∀ order ∈ priced.orders, hasPrices prices order = true := by
    intro order listed
    rw [pricedOrders] at listed
    exact keeps order (mem_filter.mp listed).2
  refine (Ends.of_returns (retainM_returns fun order listed =>
    isNotMispriced_returns _ (allPriced order listed))).bind fun inMarket sublist => ?_
  refine (Ends.of_returns (pricedAccounted.filtered_returns distinct
    sublist.subperm)).bind fun last remaining => ?_
  obtain ⟨lastAccounted, lastOrders⟩ := remaining
  refine (Ends.of_returns (lastAccounted.record_returns distinct)).bind fun removed everywhere => ?_
  refine (mapM_auctionPrice_ends prices.entries).bind fun auctionPrices same => ?_
  constructor
  · rw [map_map]
    simpa only [Function.comp_def, applyFees_fields] using everywhere
  · intro _ listed
    obtain ⟨order, inMarketOrder, rfl⟩ := mem_map.mp listed
    rw [lastOrders] at inMarketOrder
    have pricedOrder := hasPrices_collect same (allPriced order (sublist.subset inMarketOrder))
    simpa only [applyFees_fields] using Bool.and_eq_true_iff.mp pricedOrder

/-- The candidates of a finished update are split into the invalid orders, the filtered
orders and the orders of the auction, and the tokens of the latter have prices.  An
update aborts for a missing price of the wrapped native token only. -/
theorem update_accounts (settings : Settings) (services : Services) (block : Nat)
    (fetched : SolvableOrders) (success : services.getSolvableOrders = .ok fetched) :
    (∀ result, update settings services block = .ok result →
      (result.invalidOrderUids ++ result.filteredOrderEvents ++
        result.auction.orders.map (·.uid)).Nodup ∧
      (result.invalidOrderUids ++ result.filteredOrderEvents ++
        result.auction.orders.map (·.uid)).Perm fetched.orders.keys ∧
      ∀ order ∈ result.auction.orders, (result.auction.prices.get order.sell.token).isSome ∧
          (result.auction.prices.get order.buy.token).isSome) ∧
    ∀ reason, update settings services block = .panic reason →
      reason = .expect "weth price fetching can never fail" ∨
        reason = .expect "weth price can never be outside of U256 range" := by
  have ends := update_ends settings services block success
  constructor
  · intro result returned
    rw [returned] at ends
    exact ⟨ends.everywhere.nodup_iff.mpr fetched.orders.nodup_keys, ends.everywhere, ends.priced⟩
  · intro reason aborted
    rw [aborted] at ends
    exact ends

def ownedBy (owner buyToken : Address) : Order :=
  { sampleOrder 0xa1 buyToken none false with
    metadata := ⟨1700000017, owner, ⟨0xd1, owner, 1800000017⟩, 0, 0, .open, .limit⟩ }

/-- Three orders: the owner of the second is banned, and a token of the third has no
price. -/
def sampleServices : Services where
  getSolvableOrders := .ok {
    orders := ⟨[(⟨0xd1, 0x51, 1800000017⟩, ownedBy 0x51 0xb1),
      (⟨0xd1, 0x52, 1800000017⟩, ownedBy 0x52 0xb1),
      (⟨0xd1, 0x53, 1800000017⟩, ownedBy 0x53 0xb3)], by decide⟩
    quotes := ⟨[], List.nodup_nil⟩
    keyed := by decide }
  getBalances := fun queries => queries.map fun _ => .ok 1717
  banned := fun _ => [0x52]
  validateSignature := fun _ => .ok ()
  detect := fun _ => .ok .good
  cowAmms := []
  estimateNativePricesWithTimeout := fun tokens =>
    .collect ((tokens.filter (· ≠ 0xb3)).map (·, .ok .nan))
  estimateNativePrice := fun _ => .ok .nan
  toNormalizedPrice := fun _ => some 1000
  getPartnerFee := fun _ _ => []
  getProtocolFees := fun _ _ => []

theorem update_accounts_sample : ∃ fetched result, sampleServices.getSolvableOrders = .ok fetched ∧
      update ⟨0xe7, 1 / 10, 0x9008, false, false, false⟩ sampleServices 17 = .ok result ∧
      (result.invalidOrderUids, result.filteredOrderEvents,
        result.auction.orders.map (·.uid)) = ([⟨0xd1, 0x52, 1800000017⟩],
          [⟨0xd1, 0x53, 1800000017⟩], [⟨0xd1, 0x51, 1800000017⟩]) ∧
      (result.invalidOrderUids ++ result.filteredOrderEvents ++
        result.auction.orders.map (·.uid)).Perm fetched.orders.keys ∧
      ∀ order ∈ result.auction.orders, (result.auction.prices.get order.sell.token).isSome ∧
        (result.auction.prices.get order.buy.token).isSome := by
  have split : (update ⟨0xe7, 1 / 10, 0x9008, false, false, false⟩ sampleServices 17).toOption.map
      (fun result => (result.invalidOrderUids, result.filteredOrderEvents,
        result.auction.orders.map (·.uid))) = some ([⟨0xd1, 0x52, 1800000017⟩],
          [⟨0xd1, 0x53, 1800000017⟩], [⟨0xd1, 0x51, 1800000017⟩]) := by
    decide +kernel
  obtain ⟨result, returned, orders⟩ := Option.map_eq_some_iff.mp split
  have finished := toOption_eq_some_iff.mp returned
  exact ⟨_, result, rfl, finished, orders,
    ((update_accounts _ sampleServices 17 _ rfl).1 result finished).2⟩

end

end MandateSolver.Autopilot.SolvableOrdersCache
