import MandateSolver.Foundation.ChunkBy
import MandateSolver.Model
import MandateSolver.Driver.UpdateOrders

/-!
# Balance queries

When the orders of a trader disagree on the setup of a balance, it is to be asked for
without any.  Only orders in the same chunk of neighbours are compared.
-/

namespace MandateSolver.Driver

open List

open Model (SellTokenSource)

/-! ## Queries -/

def SellTokenBalance.toSource : SellTokenBalance → SellTokenSource
  | .erc20 => .erc20
  | .internal => .internal
  | .external => .external

def sourceBalance : SellTokenSource → SellTokenBalance
  | .erc20 => .erc20
  | .internal => .internal
  | .external => .external

structure BalanceOverrideRequest where
  token : TokenAddress
  holder : Address
  amount : U256
  deriving DecidableEq

/-- A balance to be fetched. -/
structure Query where
  owner : Address
  token : TokenAddress
  source : SellTokenSource
  interactions : List EthInteraction
  balanceOverride : Option BalanceOverrideRequest
  deriving DecidableEq

def Query.key (query : Query) : BalanceKey :=
  ⟨query.owner, query.token, sourceBalance query.source⟩

section

variable {F : Type}

/-- The flashloan's amount counts as held by its receiver. -/
def Order.balanceOverride (order : Order F) : Option BalanceOverrideRequest :=
  order.appData.flashloan.map fun loan => ⟨loan.token, loan.receiver, loan.amount⟩

def Order.sameSetup (order other : Order F) : Bool :=
  order.preInteractions = other.preInteractions && order.appData.flashloan = other.appData.flashloan

def balanceQuery (first : Order F) (others : List (Order F)) : Query :=
  let allSetupsEqual := others.all fun order => order.sameSetup first
  { owner := first.balanceKey.trader
    token := first.balanceKey.token
    source := first.balanceKey.source.toSource
    interactions := if allSetupsEqual then first.preInteractions else []
    balanceOverride := if allSetupsEqual then first.balanceOverride else none }

def balanceQueries (orders : List (Order F)) : List Query :=
  (chunkBy Order.balanceKey orders).map fun (first, others) =>
    balanceQuery first others

def fetchBalances (getBalances : List Query → List (Option U256))
    (orders : List (Order F)) : EntryMap BalanceKey U256 :=
  let queries := balanceQueries orders
  EntryMap.collect ((queries.zip (getBalances queries)).filterMap
    fun (query, balance) => balance.map fun balance => (query.key, balance))

/-! ## What the queries should be -/

/-- Orders that share the balance prepare it alike. -/
def SetupsEqual (orders : List (Order F)) (key : BalanceKey) : Prop :=
  ∀ order ∈ orders, ∀ other ∈ orders, order.balanceKey = key →
    other.balanceKey = key → order.sameSetup other

/-- One query for every trader, token and source, with the setup of the orders
if they agree on it and with none otherwise. -/
structure Pessimistic (orders : List (Order F)) (queries : List Query) : Prop where
  unique : (queries.map Query.key).Nodup
  occurs : ∀ key, key ∈ queries.map Query.key ↔ key ∈ orders.map Order.balanceKey
  agreed : ∀ query ∈ queries, SetupsEqual orders query.key →
    ∀ order ∈ orders, order.balanceKey = query.key → query.interactions = order.preInteractions ∧
        query.balanceOverride = order.balanceOverride
  disagreed : ∀ query ∈ queries, ¬ SetupsEqual orders query.key →
    query.interactions = [] ∧ query.balanceOverride = none

variable {orders others : List (Order F)} {first : Order F}

theorem SellTokenBalance.sourceBalance_toSource (balance : SellTokenBalance) :
    sourceBalance balance.toSource = balance := by
  cases balance <;> rfl

theorem balanceQuery_key : (balanceQuery first others).key = first.balanceKey := by
  simp only [Query.key, balanceQuery, SellTokenBalance.sourceBalance_toSource]

theorem sameSetup_iff {order other : Order F} :
    order.sameSetup other ↔ order.preInteractions = other.preInteractions ∧
      order.appData.flashloan = other.appData.flashloan := by
  simp [Order.sameSetup]

theorem balanceQueries_keys (orders : List (Order F)) : (balanceQueries orders).map Query.key =
      (chunkBy Order.balanceKey orders).map fun chunk => chunk.1.balanceKey := by
  simp only [balanceQueries, map_map]
  exact map_congr_left fun chunk _ => balanceQuery_key

theorem all_sameSetup_iff
    (complete : orders.filter (·.balanceKey = first.balanceKey) = first :: others) :
    (others.all fun order => order.sameSetup first) = true ↔
      SetupsEqual orders first.balanceKey := by
  have members : ∀ order, order ∈ orders ∧ order.balanceKey = first.balanceKey ↔
      order ∈ first :: others := by
    intro order
    rw [← complete, mem_filter, decide_eq_true_iff]
  rw [all_eq_true]
  constructor
  · intro equal order mem other otherMem key otherKey
    have withFirst : ∀ item ∈ first :: others, item.sameSetup first := by
      rw [forall_mem_cons]
      exact ⟨sameSetup_iff.mpr ⟨rfl, rfl⟩, equal⟩
    have left := sameSetup_iff.mp (withFirst order ((members order).mp ⟨mem, key⟩))
    have right := sameSetup_iff.mp (withFirst other ((members other).mp ⟨otherMem, otherKey⟩))
    exact sameSetup_iff.mpr ⟨left.1.trans right.1.symm, left.2.trans right.2.symm⟩
  · intro equal order mem
    have inOrders := (members order).mpr (mem_cons_of_mem _ mem)
    have firstInOrders := (members first).mpr mem_cons_self
    exact equal order inOrders.1 first firstInOrders.1 inOrders.2 rfl

/-- The queries are as they should be exactly if orders with the same trader,
token and source are next to each other. -/
theorem balanceQueries_pessimistic_iff (orders : List (Order F)) :
    Pessimistic orders (balanceQueries orders) ↔ Contiguous Order.balanceKey orders := by
  have keys := balanceQueries_keys orders
  constructor
  · intro pessimistic
    have unique := pessimistic.unique
    rwa [keys, chunkBy.nodup_keys_iff] at unique
  · intro contiguous
    have nodup := chunkBy.nodup_keys_iff.mpr contiguous
    have content : ∀ query ∈ balanceQueries orders, ∃ first others,
        query = balanceQuery first others ∧
          orders.filter (·.balanceKey = first.balanceKey) = first :: others := by
      intro query mem
      obtain ⟨⟨first, others⟩, inChunks, rfl⟩ := mem_map.mp mem
      exact ⟨first, others, rfl, chunkBy.filter_eq nodup inChunks⟩
    refine ⟨?_, ?_, ?_, ?_⟩
    · rwa [keys]
    · intro key
      rw [keys]
      exact chunkBy.mem_keys Order.balanceKey orders key
    · intro query mem equal order inOrders sameKey
      obtain ⟨first, others, rfl, complete⟩ := content query mem
      rw [balanceQuery_key] at equal sameKey
      have firstMember : first ∈ orders := by
        have inGroup : first ∈ orders.filter (·.balanceKey = first.balanceKey) := by
          simp [complete]
        exact (mem_filter.mp inGroup).1
      have setup := sameSetup_iff.mp (equal first firstMember order inOrders rfl sameKey)
      simp only [balanceQuery, (all_sameSetup_iff complete).mpr equal, if_true,
        Order.balanceOverride, setup, and_self]
    · intro query mem unequal
      obtain ⟨first, others, rfl, complete⟩ := content query mem
      rw [balanceQuery_key, ← all_sameSetup_iff complete] at unequal
      simp [balanceQuery, unequal]

end

def ordered (digest : U256) (trader : Address)
    (preInteractions : List EthInteraction) : Order ℚ where
  uid := ⟨digest, trader, 0⟩
  receiver := none
  validTo := 0
  buy := ⟨100, 2⟩
  sell := ⟨100, 1⟩
  side := .sell
  kind := .limit
  appData := .hash 0
  fill := .no
  preInteractions := preInteractions
  postInteractions := []
  sellTokenBalance := .erc20
  buyTokenBalance := .erc20
  signature := ⟨.preSign, [], trader⟩
  protocolFees := []

/-- Two orders of the same trader with the order of someone else in between.
The first query has the interactions of an order that the other one lacks. -/
theorem balanceQueries_apart :
    let orders := [ordered 1 5 [⟨7, 0, []⟩], ordered 2 6 [], ordered 3 5 []]
    balanceQueries orders = [⟨5, 1, .erc20, [⟨7, 0, []⟩], none⟩, ⟨6, 1, .erc20, [], none⟩,
          ⟨5, 1, .erc20, [], none⟩] ∧
      ¬ Pessimistic orders (balanceQueries orders) := by
  intro orders
  refine ⟨by decide, ?_⟩
  intro pessimistic
  have unique := pessimistic.unique
  revert unique
  decide

end MandateSolver.Driver
