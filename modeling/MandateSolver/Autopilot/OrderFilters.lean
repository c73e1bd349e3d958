import MandateSolver.Foundation.StableSort
import MandateSolver.OrderValidation.Validator
import MandateSolver.RemainingAmounts

/-!
# Filters of auction candidates

Orders are dropped that cannot be settled.  What the services answer is a parameter.
-/

namespace MandateSolver.Autopilot.SolvableOrdersCache

open List

open Model (OrderData OrderStatus Signature)
open OrderValidation (BalanceQuery InteractionData Interactions OrderClass SignatureCheck
  TokenQuality)
open RemainingAmounts (Remaining)
open WinnerSelection (OrderUid)

/-! ## Orders -/

/-- What the orderbook adds to an order. -/
structure OrderMetadata where
  creationDate : Int
  owner : Address
  uid : OrderUid
  executedBuyAmount : Nat
  executedSellAmountBeforeFees : U256
  status : OrderStatus
  «class» : OrderClass

/-- An order as the filters see it. -/
structure Order where
  metadata : OrderMetadata
  data : OrderData
  signature : Signature
  interactions : Interactions

namespace Order

section

variable (order : Order)

def isLimitOrder : Bool :=
  order.metadata.class = .limit

def isEip1271 : Bool :=
  match order.signature with
  | .eip1271 _ => true
  | _ => false

def pairTokens : List Address :=
  match TokenPair.new order.data.buyToken order.data.sellToken with
  | some pair => [pair.first, pair.second]
  | none => []

def balanceQuery : BalanceQuery where
  owner := order.metadata.owner
  token := order.data.sellToken
  source := order.data.sellTokenBalance
  interactions := order.interactions.pre
  balanceOverride := none

/-- An executed amount of more than 256 bits counts as a full execution. -/
def forRemaining : RemainingAmounts.Order where
  kind := order.data.kind
  buyAmount := order.data.buyAmount
  sellAmount := order.data.sellAmount
  feeAmount := order.data.feeAmount
  executedAmount := match order.data.kind with
    | .buy =>
      if order.metadata.executedBuyAmount < 2 ^ 256 then
        BitVec.ofNat 256 order.metadata.executedBuyAmount
      else order.data.buyAmount
    | .sell => order.metadata.executedSellAmountBeforeFees
  partiallyFillable := order.data.partiallyFillable

end

theorem mem_pairTokens_iff {order : Order} {token : Address} :
    token ∈ order.pairTokens ↔ order.data.sellToken ≠ order.data.buyToken ∧
      (token = order.data.sellToken ∨ token = order.data.buyToken) := by
  rw [pairTokens]
  cases built : TokenPair.new order.data.buyToken order.data.sellToken with
  | none =>
    have same := TokenPair.new_eq_none_iff.mp built
    simp [same]
  | some pair =>
    have distinct : order.data.sellToken ≠ order.data.buyToken := by
      intro same
      rw [TokenPair.new_eq_none_iff.mpr same.symm] at built
      cases built
    rw [and_iff_right distinct]
    obtain ⟨first, second⟩ | ⟨first, second⟩ := TokenPair.new_eq_some_iff.mp built
    · rw [← first, ← second]
      simp [or_comm]
    · rw [← first, ← second]
      simp

end Order

/-! ## Users and signatures -/

def Order.users (order : Order) : List Address :=
  order.metadata.owner :: order.data.receiver.toList

def findBannedUserOrders (banned : List Address → List Address) (orders : List Order) :
    List OrderUid :=
  let bannedUsers := banned (orders.flatMap Order.users)
  orders.filterMap fun order =>
    if order.users.any (· ∈ bannedUsers) then some order.metadata.uid else none

section

variable (validateSignature : SignatureCheck → Except String Unit)
  (disable1271OrderSigFilter : Bool)

/-- An order that waits for its presignature is invalid without a further check. -/
def isInvalidSignatureOrder (order : Order) : Bool :=
  if order.isEip1271 && disable1271OrderSigFilter then false
  else if order.metadata.status = .presignaturePending then true
  else match order.signature with
    | .eip1271 signature =>
      match validateSignature {
          signer := order.metadata.uid.owner
          hash := order.metadata.uid.digest
          signature := signature
          interactions := order.interactions.pre
          balanceOverride := none } with
      | .ok _ => false
      | .error _ => true
    | _ => false

def findInvalidSignatureOrders (orders : List Order) : List OrderUid :=
  orders.filterMap fun order =>
    if isInvalidSignatureOrder validateSignature disable1271OrderSigFilter order then
      some order.metadata.uid
    else none

end

/-! ## Unsupported tokens -/

variable {detect : Address → Except String TokenQuality}

section

variable (detect)

def findBadTokens (orders : List Order) : List Address :=
  (orders.flatMap Order.pairTokens).eraseDups.filterMap fun token =>
    match detect token with
    | .ok .good => none
    | .ok (.bad _) => some token
    -- announced as "assume good"
    | .error _ => some token

def findUnsupportedTokens (orders : List Order) : List OrderUid :=
  let badTokens := findBadTokens detect orders
  orders.filterMap fun order =>
    if order.pairTokens.any (· ∈ badTokens) then some order.metadata.uid else none

def detectedBad (token : Address) : Bool :=
  match detect token with
  | .ok (.bad _) => true
  | _ => false

def detectionFailed (token : Address) : Bool :=
  match detect token with
  | .error _ => true
  | .ok _ => false

end

variable {orders : List Order}

theorem mem_findBadTokens_iff {token : Address} : token ∈ findBadTokens detect orders ↔
      (∃ order ∈ orders, token ∈ order.pairTokens) ∧
        (detectedBad detect token = true ∨ detectionFailed detect token = true) := by
  simp only [findBadTokens, mem_filterMap, mem_eraseDups, mem_flatMap, detectedBad, detectionFailed]
  constructor
  · rintro ⟨asked, listed, rejected⟩
    split at rejected
    · cases rejected
    · rename_i found
      cases rejected
      exact ⟨listed, .inl (by rw [found])⟩
    · rename_i found
      cases rejected
      exact ⟨listed, .inr (by rw [found])⟩
  · rintro ⟨listed, rejected⟩
    refine ⟨token, listed, ?_⟩
    cases found : detect token with
    | error _ => rfl
    | ok quality =>
      cases quality with
      | good => simp [found] at rejected
      | bad _ => rfl

def unsupported (detect : Address → Except String TokenQuality) (order : Order) : Bool :=
  order.data.sellToken ≠ order.data.buyToken ∧
    (detectedBad detect order.data.sellToken ∨ detectionFailed detect order.data.sellToken ∨
      detectedBad detect order.data.buyToken ∨ detectionFailed detect order.data.buyToken)

theorem filterMap_then_uid (flag : Order → Bool) :
    (orders.filterMap fun order => if flag order then some order.metadata.uid else none) =
      (orders.filter flag).map (·.metadata.uid) := by
  induction orders with
  | nil => rfl
  | cons order orders ih => cases flagged : flag order <;> simp [flagged, ih]

theorem findUnsupportedTokens_eq : findUnsupportedTokens detect orders =
      (orders.filter (unsupported detect)).map (·.metadata.uid) := by
  rw [findUnsupportedTokens, filterMap_then_uid]
  congr 1
  apply filter_congr
  intro order listed
  rw [Bool.eq_iff_iff, any_eq_true, unsupported]
  simp only [decide_eq_true_iff, mem_findBadTokens_iff, Order.mem_pairTokens_iff]
  constructor
  · rintro ⟨_, ⟨distinct, ofOrder⟩, _, rejected⟩
    obtain rfl | rfl := ofOrder
    · exact ⟨distinct, by tauto⟩
    · exact ⟨distinct, by tauto⟩
  · rintro ⟨distinct, rejected⟩
    obtain bad | failed | bad | failed := rejected
    · exact ⟨_, ⟨distinct, .inl rfl⟩, ⟨order, listed, distinct, .inl rfl⟩, .inl bad⟩
    · exact ⟨_, ⟨distinct, .inl rfl⟩, ⟨order, listed, distinct, .inl rfl⟩, .inr failed⟩
    · exact ⟨_, ⟨distinct, .inr rfl⟩, ⟨order, listed, distinct, .inr rfl⟩, .inl bad⟩
    · exact ⟨_, ⟨distinct, .inr rfl⟩, ⟨order, listed, distinct, .inr rfl⟩, .inr failed⟩

section

variable (detect) (order : Order)

def hasBadToken : Bool :=
  detectedBad detect order.data.sellToken || detectedBad detect order.data.buyToken

/-- The detection fails for a token only next to a bad token, and no token that is
sold for itself is bad. -/
def TellsApart : Prop :=
  if order.data.sellToken = order.data.buyToken then
    detectedBad detect order.data.sellToken = false
  else
    detectionFailed detect order.data.sellToken = true ∨
      detectionFailed detect order.data.buyToken = true → hasBadToken detect order = true

end

theorem unsupported_eq_hasBadToken_iff {order : Order} :
    unsupported detect order = hasBadToken detect order ↔ TellsApart detect order := by
  rw [Bool.eq_iff_iff, unsupported, decide_eq_true_iff, TellsApart]
  split
  · rename_i same
    simp [same, hasBadToken]
  · rename_i distinct
    simp only [hasBadToken, Bool.or_eq_true, ne_eq, distinct, not_false_eq_true]
    tauto

theorem filter_eq_of_map_uid_eq {first second : Order → Bool}
    (distinct : (orders.map (·.metadata.uid)).Nodup)
    (same : (orders.filter first).map (·.metadata.uid) =
      (orders.filter second).map (·.metadata.uid)) :
    ∀ order ∈ orders, first order = second order := by
  intro order listed
  have injective := inj_on_of_nodup_map distinct
  have selected : ∀ flag, order.metadata.uid ∈ (orders.filter flag).map (·.metadata.uid) ↔
        flag order = true := by
    intro flag
    rw [mem_map]
    constructor
    · rintro ⟨_, inside, sameUid⟩
      obtain ⟨otherListed, flagged⟩ := mem_filter.mp inside
      rwa [← injective otherListed listed sameUid]
    · intro flagged
      exact ⟨order, mem_filter.mpr ⟨listed, flagged⟩, rfl⟩
  rw [Bool.eq_iff_iff, ← selected first, ← selected second, same]

/-- The orders with a bad token are found, and no others, if the detection tells bad
tokens apart for every order.  For different orders this is also needed. -/
theorem findUnsupportedTokens_exact_iff (detect : Address → Except String TokenQuality)
    (orders : List Order) :
    ((∀ order ∈ orders, TellsApart detect order) → findUnsupportedTokens detect orders =
        (orders.filter (hasBadToken detect)).map (·.metadata.uid)) ∧
    ((orders.map (·.metadata.uid)).Nodup → findUnsupportedTokens detect orders =
          (orders.filter (hasBadToken detect)).map (·.metadata.uid) →
        ∀ order ∈ orders, TellsApart detect order) := by
  rw [findUnsupportedTokens_eq]
  constructor
  · intro apart
    congr 1
    apply filter_congr
    intro order listed
    exact unsupported_eq_hasBadToken_iff.mpr (apart order listed)
  · intro distinct same order listed
    exact unsupported_eq_hasBadToken_iff.mp (filter_eq_of_map_uid_eq distinct same order listed)

def sampleOrder (sellToken buyToken : Address) (receiver : Option Address)
    (partiallyFillable : Bool) : Order where
  metadata := ⟨1700000017, 0x51, ⟨0xd1, 0x51, 1800000017⟩, 0, 0, .open, .limit⟩
  data := ⟨sellToken, buyToken, receiver, 1700, 3400, 1800000017, 0, 17, .sell,
    partiallyFillable, .erc20, .erc20⟩
  signature := .preSign
  interactions := ⟨[], []⟩

/-- The order is removed although no token was detected as bad, and an order that
sells a bad token for itself is not removed. -/
theorem findUnsupportedTokens_failed_detection :
    (findUnsupportedTokens (fun _ => .error "timeout") [sampleOrder 0xa1 0xb1 none true] =
        [⟨0xd1, 0x51, 1800000017⟩] ∧
      detectedBad (fun _ => .error "timeout") 0xa1 = false ∧
      detectedBad (fun _ => .error "timeout") 0xb1 = false) ∧
    (findUnsupportedTokens (fun _ => .ok (.bad "fee on transfer"))
        [sampleOrder 0xa1 0xa1 none true] = [] ∧
      detectedBad (fun _ => .ok (.bad "fee on transfer")) 0xa1 = true) := by
  decide

theorem findUnsupportedTokens_exact_iff_bad :
    TellsApart (fun _ => .ok (.bad "fee on transfer")) (sampleOrder 0xa1 0xb1 none true) ∧
      findUnsupportedTokens (fun _ => .ok (.bad "fee on transfer"))
          [sampleOrder 0xa1 0xb1 none true] =
        [⟨0xd1, 0x51, 1800000017⟩] := by
  have apart : TellsApart (fun _ => .ok (.bad "fee on transfer"))
      (sampleOrder 0xa1 0xb1 none true) := by
    intro _
    rfl
  refine ⟨apart, ?_⟩
  apply (findUnsupportedTokens_exact_iff _ _).1
  intro _ listed
  rw [mem_singleton.mp listed]
  exact apart

/-! ## Balances -/

abbrev Balances := EntryMap BalanceQuery U256

def hasBalance (balances : Balances) (settlementContract : Address)
    (disable1271OrderBalanceFilter : Bool) (order : Order) : Bool :=
  if disable1271OrderBalanceFilter && order.isEip1271 then true
  -- taken for a flashloan order, the funds of which cannot be simulated
  else if order.data.receiver = some settlementContract then true
  else match balances.get order.balanceQuery with
    | none => false
    | some balance =>
      if order.data.partiallyFillable && decide (1 ≤ balance) then true
      else match order.data.sellAmount.checkedAdd order.data.feeAmount with
        | none => false
        | some neededBalance => neededBalance ≤ balance

/-- Newer orders come first. -/
def ordersWithBalance (orders : List Order) (balances : Balances)
    (settlementContract : Address) (disable1271OrderBalanceFilter : Bool) : List Order :=
  (orders.insertionSort fun left right =>
      right.metadata.creationDate ≤ left.metadata.creationDate).filter
    (hasBalance balances settlementContract disable1271OrderBalanceFilter)

def isNoDustOrder (balances : Balances) (order : Order) : Bool :=
  if ¬ order.data.partiallyFillable then true
  else match balances.get order.balanceQuery with
    | none => false
    | some balance =>
      match Remaining.fromOrderWithBalance order.forRemaining balance with
      | .ok remaining =>
        match remaining.remaining order.data.sellAmount,
          remaining.remaining order.data.buyAmount with
        | .ok sellAmount, .ok buyAmount => !sellAmount.isZero && !buyAmount.isZero
        | _, _ => false
      | _ => false

def filterDustOrders (orders : List Order) (balances : Balances) : List Order :=
  orders.filter (isNoDustOrder balances)

/-- Orders whose balance does not matter. -/
def Exempt (settlementContract : Address) (disable1271OrderBalanceFilter : Bool)
    (order : Order) : Prop :=
  disable1271OrderBalanceFilter = true ∧ order.isEip1271 = true ∨
    order.data.receiver = some settlementContract

section

variable (balances : Balances) (order : Order)

/-- The balance covers the sell amount and the fee. -/
def PaysInFull : Prop :=
  ∃ balance, balances.get order.balanceQuery = some balance ∧
    order.data.sellAmount.toNat + order.data.feeAmount.toNat ≤ balance.toNat

/-- The balance covers a part that is not zero on either side. -/
def PaysInPart : Prop :=
  ∃ balance shares sellAmount buyAmount,
    balances.get order.balanceQuery = some balance ∧ 1 ≤ balance.toNat ∧
      Remaining.fromOrderWithBalance order.forRemaining balance = .ok shares ∧
      shares.remaining order.data.sellAmount = .ok sellAmount ∧
      shares.remaining order.data.buyAmount = .ok buyAmount ∧
      sellAmount ≠ 0 ∧ buyAmount ≠ 0

/-- One atom is enough for a partially fillable order. -/
def PaysSomething : Prop :=
  ∃ balance, balances.get order.balanceQuery = some balance ∧
    (order.data.partiallyFillable = true ∧ 1 ≤ balance.toNat ∨
      order.data.sellAmount.toNat + order.data.feeAmount.toNat ≤ balance.toNat)

end

variable {balances : Balances} {settlementContract : Address} {flag : Bool} {order : Order}

theorem hasBalance_iff : hasBalance balances settlementContract flag order = true ↔
      Exempt settlementContract flag order ∨ PaysSomething balances order := by
  rw [hasBalance, Exempt, PaysSomething, ← Bool.and_eq_true]
  split
  · rename_i contract
    simp [contract]
  split
  · rename_i receiver
    simp [receiver]
  rename_i notContract notReceiver
  rw [or_iff_right (by simp [notContract, notReceiver])]
  cases balances.get order.balanceQuery with
  | none => simp
  | some balance =>
    simp only [Option.some.injEq, exists_eq_left']
    split
    · rename_i inPart
      rw [Bool.and_eq_true, decide_eq_true_iff] at inPart
      exact iff_of_true rfl (.inl inPart)
    · rename_i notInPart
      rw [Bool.and_eq_true, decide_eq_true_iff] at notInPart
      have less : ¬ (order.data.partiallyFillable = true ∧ 1 ≤ balance.toNat) := notInPart
      rw [or_iff_right less]
      cases sum : order.data.sellAmount.checkedAdd order.data.feeAmount with
      | none =>
        have overflows : ¬ order.data.sellAmount.toNat + order.data.feeAmount.toNat < 2 ^ 256 := by
          intro fits
          rw [U256.checkedAdd, if_pos fits] at sum
          cases sum
        exact iff_of_false Bool.false_ne_true (by omega)
      | some needed =>
        rw [decide_eq_true_iff, ← U256.checkedAdd_eq_some_iff.mp sum]
        rfl

theorem le_balance_of_remaining {shares : Remaining} {balance sellAmount : U256}
    (partially : order.data.partiallyFillable = true)
    (computed : Remaining.fromOrderWithBalance order.forRemaining balance = .ok shares)
    (sold : shares.remaining order.data.sellAmount = .ok sellAmount) :
    sellAmount.toNat ≤ balance.toNat := by
  obtain ⟨_, _, fee, need, parts, rfl⟩ :=
    (Remaining.fromOrderWithBalance_partial_iff partially).mp computed
  obtain ⟨feeAmount, paid, -⟩ := Remaining.fullScalarMul_affordable balance need fee
  have bound := (Remaining.remaining_of_partiallyFillable partially computed).1 sellAmount
    feeAmount sold (Remaining.remaining_eq_ok_iff.mpr ⟨fee, parts.scaledFee, paid⟩)
  omega

theorem isNoDustOrder_iff : isNoDustOrder balances order = true ↔
      (order.data.partiallyFillable = true → PaysInPart balances order) := by
  by_cases partially : order.data.partiallyFillable = true
  · rw [forall_prop_of_true partially, isNoDustOrder, if_neg (not_not.mpr partially)]
    constructor
    · intro kept
      split at kept
      · cases kept
      rename_i balance fetched
      split at kept
      · rename_i shares computed
        split at kept
        · rename_i sellAmount buyAmount sold bought
          have nonzero : sellAmount ≠ 0 ∧ buyAmount ≠ 0 := by
            simpa [U256.isZero] using kept
          have paid := le_balance_of_remaining partially computed sold
          have positive := BitVec.toNat_pos_of_ne_zero nonzero.1
          exact ⟨balance, shares, sellAmount, buyAmount, fetched, by omega, computed,
            sold, bought, nonzero⟩
        · cases kept
      · cases kept
    · rintro ⟨balance, shares, sellAmount, buyAmount, fetched, _, computed, sold, bought,
        sells, buys⟩
      simp only [fetched, computed, sold, bought, U256.isZero, decide_eq_false sells,
        decide_eq_false buys, Bool.not_false, Bool.and_self]
  · simp [isNoDustOrder, partially]

/-- The orders that are left after both filters are those that the balances pay for
and those that are exempt from the check, if the dust filter passes the latter. -/
theorem mem_balanceStage_iff (orders : List Order) (balances : Balances)
    (settlementContract : Address) (disable1271OrderBalanceFilter : Bool) (order : Order)
    (listed : order ∈ orders) :
    (order ∈ filterDustOrders (ordersWithBalance orders balances settlementContract
          disable1271OrderBalanceFilter) balances ↔
        Exempt settlementContract disable1271OrderBalanceFilter order ∨
        order.data.partiallyFillable = false ∧ PaysInFull balances order ∨
        order.data.partiallyFillable = true ∧ PaysInPart balances order) ↔
      (Exempt settlementContract disable1271OrderBalanceFilter order →
        order.data.partiallyFillable = true → PaysInPart balances order) := by
  have mem : order ∈ filterDustOrders (ordersWithBalance orders balances
      settlementContract disable1271OrderBalanceFilter) balances ↔
      hasBalance balances settlementContract disable1271OrderBalanceFilter order = true ∧
        isNoDustOrder balances order = true := by
    rw [filterDustOrders, ordersWithBalance, mem_filter, mem_filter,
      (perm_insertionSort _ _).mem_iff, and_iff_right listed]
  rw [mem, hasBalance_iff, isNoDustOrder_iff]
  by_cases partially : order.data.partiallyFillable = true
  · have paid : PaysInPart balances order → PaysSomething balances order := by
      rintro ⟨balance, _, _, _, fetched, positive, _⟩
      exact ⟨balance, fetched, .inl ⟨partially, positive⟩⟩
    simp only [partially, Bool.true_eq_false, false_and]
    tauto
  · simp [partially, PaysSomething, PaysInFull]

/-- A flashloan order that can be filled in part is dropped as dust. -/
theorem balanceStage_flashloan :
    filterDustOrders (ordersWithBalance [sampleOrder 0xa1 0xb1 (some 0x9008) true]
        ⟨[], nodup_nil⟩ 0x9008 false) ⟨[], nodup_nil⟩ = [] ∧
      Exempt 0x9008 false (sampleOrder 0xa1 0xb1 (some 0x9008) true) :=
  ⟨by decide, .inr rfl⟩

theorem mem_balanceStage_iff_fillOrKill : sampleOrder 0xa1 0xb1 (some 0x9008) false ∈
      filterDustOrders (ordersWithBalance [sampleOrder 0xa1 0xb1 (some 0x9008) false]
        ⟨[], nodup_nil⟩ 0x9008 false) ⟨[], nodup_nil⟩ := by
  apply ((mem_balanceStage_iff _ _ _ _ _ (mem_singleton_self _)).mpr ?_).mpr
  · exact .inl (.inr rfl)
  · intro _ partially
    cases partially

end MandateSolver.Autopilot.SolvableOrdersCache
