import MandateSolver.Driver.Order
import MandateSolver.Foundation.RetainLoop

/-!
# Allocation of balances to orders

What is left of a balance is allocated to one order after the other.  Orders of AMMs and
orders with a flashloan do not take part.
-/

namespace MandateSolver.Driver

open BitVec

open WinnerSelection (OrderUid asErc20)

/-! ## The auction -/

/-- Orders that can all be traded. -/
structure Auction (F : Type) where
  orders : List (Order F)
  tradable : ∀ order ∈ orders, order.available.isZero = false

/-- Orders with zero amounts or with tokens the auction does not know are left
out. -/
def Auction.new {F : Type} (orders : List (Order F))
    (tokens : TokenAddress → Bool) (weth : Address) : Auction F where
  orders := orders.filter fun order => !order.available.isZero &&
    (tokens (asErc20 order.buy.token weth) && tokens order.sell.token)
  tradable order mem := by
    have passed := (List.mem_filter.mp mem).2
    simp only [Bool.and_eq_true, Bool.not_eq_true'] at passed
    exact passed.1

/-! ## The loop -/

/-- What the balance of an order is found by. -/
structure BalanceKey where
  trader : Address
  token : TokenAddress
  source : SellTokenBalance
  deriving DecidableEq

abbrev Balances := BalanceKey → Option U256

variable {appData : U256 → Option ValidatedAppData} {F : Type} {cowAmmOrders : List (Order F)}

section

/-- The balance the order spends. -/
def Order.balanceKey (order : Order F) : BalanceKey :=
  ⟨order.signer, order.sell.token, order.sellTokenBalance⟩

def allocatedBalance (order : Order F) (remaining : U256) : U256 :=
  let maxSell := order.available.sell.amount
  match order.fill with
  | .yes _ => min maxSell remaining
  | .no => if maxSell ≤ remaining then maxSell else 0

/-- The order cut to what it was allocated. -/
def Order.scaled (order : Order F) (allocated : U256) : Order F :=
  match order.fill with
  | .yes available => { order with
      fill := .yes ((mulRatio available allocated
        order.available.sell.amount).getD 0) }
  | .no => order

def allocate (balances : Balances) (order : Order F) : Option (Order F) × Balances :=
  match balances order.balanceKey with
  | none => (none, balances)
  | some remaining =>
    let allocated := allocatedBalance order remaining
    let scaled := order.scaled allocated
    if allocated.isZero then (none, balances)
    else if scaled.available.isZero then (none, balances)
    else (some scaled, Function.update balances order.balanceKey (some (remaining - allocated)))

variable (appData) (cowAmmOrders) (settlementContract : Address)

def updateOrder (balances : Balances) (order : Order F) : Option (Order F) × Balances :=
  if order.uid ∈ cowAmmOrders.map (·.uid) then (some order, balances)
  else match appData order.appData.hashValue with
    | some fetched =>
      let order := { order with appData := .full fetched }
      if order.appData.flashloan.isSome then
        -- A flashloan is paid back from the settlement contract.
        (if order.receiver = some settlementContract then some order else none, balances)
      else allocate balances order
    | none => allocate balances order

def updateOrders (orders : List (Order F)) (balances : Balances) : List (Order F) :=
  retainMut (updateOrder appData cowAmmOrders settlementContract) balances orders

end

/-! ## Scaling rounds down twice -/

/-- Scaling the target amount to an allocation never makes the order sell more
than the allocation: the error of the second rounding is below one unit. -/
theorem scaledSell_le {sell available target allocated : Nat}
    (covered : allocated ≤ sell * available / target) :
    sell * (available * allocated / (sell * available / target)) / target ≤
      allocated := by
  generalize maxSell_eq : sell * available / target = maxSell at covered ⊢
  rcases Nat.eq_zero_or_pos allocated with rfl | spent
  · simp
  have positive : 0 < target := by
    by_contra zero
    obtain rfl : target = 0 := by omega
    omega
  have tight : sell * available < (maxSell + 1) * target := by
    rw [← Nat.div_lt_iff_lt_mul positive]
    omega
  have first := Nat.div_mul_le_self (available * allocated) maxSell
  have second := Nat.div_mul_le_self (sell * (available * allocated / maxSell)) target
  generalize available * allocated / maxSell = scaled at first second ⊢
  generalize sell * scaled / target = sold at second ⊢
  have bounded := calc sold * maxSell * target = sold * target * maxSell := by ring
      _ ≤ sell * scaled * maxSell := Nat.mul_le_mul_right _ second
      _ = sell * (scaled * maxSell) := by ring
      _ ≤ sell * (available * allocated) := Nat.mul_le_mul_left _ first
      _ = sell * available * allocated := by ring
      _ < (maxSell + 1) * target * allocated := Nat.mul_lt_mul_of_pos_right tight spent
      _ = (maxSell + 1) * allocated * target := by ring
  have fits := Nat.lt_of_mul_lt_mul_right bounded
  nlinarith

section

variable {order : Order F} {allocated available : U256}

theorem available_of_yes (fill : order.fill = .yes available) :
    order.available = ⟨⟨(mulRatio order.sell.amount available order.target).getD 0,
          order.sell.token⟩,
        ⟨(mulRatioCeil order.buy.amount available order.target).getD 0, order.buy.token⟩⟩ := by
  unfold Order.available
  rw [fill]

theorem allocatedBalance_le_remaining (order : Order F) (remaining : U256) :
    (allocatedBalance order remaining).toNat ≤ remaining.toNat := by
  unfold allocatedBalance
  dsimp only
  split
  · exact min_le_right order.available.sell.amount remaining
  · split
    · rename_i covered
      exact covered
    · exact Nat.zero_le _

theorem allocatedBalance_le_maxSell (order : Order F) (remaining : U256) :
    (allocatedBalance order remaining).toNat ≤
      order.available.sell.amount.toNat := by
  unfold allocatedBalance
  dsimp only
  split
  · exact min_le_left order.available.sell.amount remaining
  · split
    · exact Nat.le_refl _
    · exact Nat.zero_le _

theorem available_scaled_of_yes (fill : order.fill = .yes available) :
    (order.scaled allocated).available =
      let scaled := (mulRatio available allocated
        order.available.sell.amount).getD 0
      ⟨⟨(mulRatio order.sell.amount scaled order.target).getD 0, order.sell.token⟩,
        ⟨(mulRatioCeil order.buy.amount scaled order.target).getD 0, order.buy.token⟩⟩ := by
  unfold Order.scaled
  simp only [fill]
  rfl

theorem scaled_of_no (fill : order.fill = .no) : order.scaled allocated = order := by
  unfold Order.scaled
  rw [fill]

theorem sell_available_scaled_le {remaining : U256}
    (nonzero : allocatedBalance order remaining ≠ 0) :
    (order.scaled (allocatedBalance order remaining)).available.sell.amount.toNat ≤
      (allocatedBalance order remaining).toNat := by
  cases fill : order.fill with
  | no =>
    rw [scaled_of_no fill]
    simp only [allocatedBalance, fill] at nonzero ⊢
    split at nonzero
    · rename_i covered
      rw [if_pos covered]
    · exact absurd rfl nonzero
  | yes available =>
    have covered := allocatedBalance_le_maxSell order remaining
    generalize allocatedBalance order remaining = allocated at *
    have maxSell_ne : order.available.sell.amount ≠ 0 := by
      intro zero
      rw [zero] at covered
      exact nonzero (eq_of_toNat_eq (Nat.le_zero.mp covered))
    have maxSell_eq : order.available.sell.amount.toNat =
        order.sell.amount.toNat * available.toNat / order.target.toNat := by
      rw [available_of_yes fill] at maxSell_ne ⊢
      exact toNat_mulRatio maxSell_ne
    rw [available_scaled_of_yes fill]
    have scaled := toNat_mulRatio_le available allocated order.available.sell.amount
    rw [maxSell_eq] at covered scaled
    calc _ ≤ _ := toNat_mulRatio_le _ _ _
      _ ≤ _ := Nat.div_le_div_right (Nat.mul_le_mul_left _ scaled)
      _ ≤ allocated.toNat := scaledSell_le covered

theorem available_scaled_le
    (covered : allocated.toNat ≤ order.available.sell.amount.toNat)
    (tradable : order.available.isZero = false) :
    (order.scaled allocated).available.sell.amount ≤ order.available.sell.amount ∧
      (order.scaled allocated).available.buy.amount ≤
        order.available.buy.amount := by
  cases fill : order.fill with
  | no =>
    rw [scaled_of_no fill]
    exact ⟨le_refl _, le_refl _⟩
  | yes available =>
    simp only [Available.isZero, U256.isZero, Bool.or_eq_false_iff,
      decide_eq_false_iff_not] at tradable
    obtain ⟨sell_ne, buy_ne⟩ := tradable
    have maxSell_pos := toNat_pos_of_ne_zero sell_ne
    have scaled_le := calc _ ≤ _ := toNat_mulRatio_le _ _ _
        _ ≤ available.toNat * order.available.sell.amount.toNat /
            order.available.sell.amount.toNat :=
          Nat.div_le_div_right (Nat.mul_le_mul_left _ covered)
        _ = available.toNat := Nat.mul_div_cancel _ maxSell_pos
    rw [available_scaled_of_yes fill]
    generalize (mulRatio available allocated
      order.available.sell.amount).getD 0 = scaled at scaled_le ⊢
    rw [available_of_yes fill] at sell_ne buy_ne ⊢
    rw [le_def, le_def, toNat_mulRatio sell_ne, toNat_mulRatioCeil buy_ne]
    constructor
    · exact (toNat_mulRatio_le _ _ _).trans (Nat.div_le_div_right (Nat.mul_le_mul_left _ scaled_le))
    · refine (toNat_mulRatioCeil_le _ _ _).trans ?_
      have larger := Nat.mul_le_mul_left order.buy.amount.toNat scaled_le
      exact Nat.div_le_div_right (by omega)

end

/-! ## One round of the loop -/

section

variable {order kept : Order F} {balances next : Balances}

/-- An order that is kept, with the balance that it leaves. -/
structure Allocated (balances : Balances) (order kept : Order F) (next : Balances) : Prop where
  balance : ∃ remaining, balances order.balanceKey = some remaining ∧
    allocatedBalance order remaining ≠ 0 ∧
    kept = order.scaled (allocatedBalance order remaining) ∧
    next = Function.update balances order.balanceKey
      (some (remaining - allocatedBalance order remaining))
  tradable : kept.available.isZero = false

theorem allocate_some (stepped : allocate balances order = (some kept, next)) :
    Allocated balances order kept next := by
  unfold allocate at stepped
  split at stepped
  · simp at stepped
  · rename_i remaining found
    dsimp only at stepped
    split at stepped
    · simp at stepped
    · rename_i nonzero
      split at stepped
      · simp at stepped
      · rename_i tradable
        obtain ⟨rfl, rfl⟩ := stepped
        exact ⟨⟨remaining, found, by simpa [U256.isZero] using nonzero, rfl, rfl⟩,
          by simpa using tradable⟩

theorem allocate_none (stepped : allocate balances order = (none, next)) : next = balances := by
  unfold allocate at stepped
  split at stepped
  · simpa using stepped.symm
  · dsimp only at stepped
    split at stepped
    · simpa using stepped.symm
    · split at stepped
      · simpa using stepped.symm
      · simp at stepped

variable {settlementContract : Address}

/-- A retained order is one of an AMM, has a flashloan, or was allocated some
balance; the loop may have filled in its app data before. -/
theorem updateOrder_some (stepped : updateOrder appData cowAmmOrders settlementContract balances
      order = (some kept, next)) :
    (order.uid ∈ cowAmmOrders.map (·.uid) ∧ kept = order ∧ next = balances) ∨
      order.uid ∉ cowAmmOrders.map (·.uid) ∧ ∃ data, (kept = { order with appData := data } ∧
            kept.appData.flashloan.isSome ∧ next = balances) ∨
          Allocated balances { order with appData := data } kept next := by
  unfold updateOrder at stepped
  split at stepped
  · rename_i amm
    simp only [Prod.mk.injEq, Option.some.injEq] at stepped
    exact .inl ⟨amm, stepped.1.symm, stepped.2.symm⟩
  · rename_i user
    refine .inr ⟨user, ?_⟩
    split at stepped
    · rename_i fetched found
      refine ⟨.full fetched, ?_⟩
      dsimp only at stepped
      split at stepped
      · rename_i flashloan
        obtain ⟨received, rfl⟩ := Prod.mk.inj stepped
        split at received
        · obtain rfl := Option.some.inj received
          exact .inl ⟨rfl, flashloan, rfl⟩
        · simp at received
      · exact .inr (allocate_some stepped)
    · exact ⟨order.appData, .inr (allocate_some stepped)⟩

theorem updateOrder_none (stepped : updateOrder appData cowAmmOrders settlementContract balances
      order = (none, next)) : next = balances := by
  unfold updateOrder at stepped
  split at stepped
  · simp at stepped
  · split at stepped
    · dsimp only at stepped
      split at stepped
      · exact (Prod.mk.inj stepped).2.symm
      · exact allocate_none stepped
    · exact allocate_none stepped

/-! ## The whole loop -/

/-- Only app data and amounts change, and amounts only shrink. -/
structure Updates (order kept : Order F) : Prop where
  unchanged : kept = { order with appData := kept.appData, fill := kept.fill }
  fillOrKill : order.fill = .no → kept.fill = .no ∧ kept.available = order.available
  sell_le : kept.available.sell.amount ≤ order.available.sell.amount
  buy_le : kept.available.buy.amount ≤ order.available.buy.amount

theorem Updates.withAppData (order : Order F) (data : AppData) :
    Updates order { order with appData := data } where
  unchanged := rfl
  fillOrKill fill := ⟨fill, rfl⟩
  sell_le := le_refl _
  buy_le := le_refl _

theorem Allocated.updates (allocated : Allocated balances order kept next)
    (tradable : order.available.isZero = false) : Updates order kept := by
  obtain ⟨⟨remaining, _, _, rfl, rfl⟩, _⟩ := allocated
  have covered := allocatedBalance_le_maxSell order remaining
  obtain ⟨sell_le, buy_le⟩ := available_scaled_le covered tradable
  refine ⟨?_, ?_, sell_le, buy_le⟩
  · unfold Order.scaled
    split <;> rfl
  · intro fill
    rw [scaled_of_no fill]
    exact ⟨fill, rfl⟩

theorem updateOrder_updates (tradable : order.uid ∉ cowAmmOrders.map (·.uid) →
      order.available.isZero = false)
    (stepped : updateOrder appData cowAmmOrders settlementContract balances
      order = (some kept, next)) : Updates order kept := by
  rcases updateOrder_some stepped with
    ⟨_, rfl, _⟩ | ⟨user, data, ⟨rfl, _, _⟩ | allocated⟩
  · exact .withAppData kept kept.appData
  · exact .withAppData order data
  · have updates := allocated.updates (tradable user)
    exact ⟨updates.unchanged, updates.fillOrKill, updates.sell_le, updates.buy_le⟩

theorem Allocated.charges (allocated : Allocated balances order kept next) (key : BalanceKey) :
    (if kept.balanceKey = key then kept.available.sell.amount.toNat else 0) +
      ((next key).getD 0).toNat ≤ ((balances key).getD 0).toNat := by
  obtain ⟨⟨remaining, found, nonzero, rfl, rfl⟩, _⟩ := allocated
  have sells := sell_available_scaled_le nonzero
  have covered := allocatedBalance_le_remaining order remaining
  have sameKey : (order.scaled (allocatedBalance order remaining)).balanceKey =
      order.balanceKey := by
    unfold Order.scaled
    split <;> rfl
  rw [sameKey]
  by_cases same : order.balanceKey = key
  · subst same
    rw [if_pos rfl, Function.update_self, found, Option.getD_some,
      Option.getD_some, toNat_sub_of_le covered]
    omega
  · rw [if_neg same, Function.update_of_ne (Ne.symm same)]
    omega

variable (cowAmmOrders) in
def Order.needsBalance (order : Order F) : Bool :=
  order.uid ∉ cowAmmOrders.map (·.uid) && order.appData.flashloan.isNone

theorem updateOrder_charges (key : BalanceKey)
    (stepped : updateOrder appData cowAmmOrders settlementContract balances
      order = (some kept, next)) :
    (if kept.balanceKey = key && kept.needsBalance cowAmmOrders then
        kept.available.sell.amount.toNat
      else 0) + ((next key).getD 0).toNat ≤ ((balances key).getD 0).toNat := by
  rcases updateOrder_some stepped with
    ⟨amm, rfl, rfl⟩ | ⟨user, data, ⟨rfl, flashloan, rfl⟩ | allocated⟩
  · rw [if_neg (by simp [Order.needsBalance, amm])]
    omega
  · rw [if_neg (by simp [Order.needsBalance, Option.isSome_iff_ne_none.mp flashloan])]
    omega
  · have charges := allocated.charges key
    by_cases same : kept.balanceKey = key
    · rw [if_pos same] at charges
      split <;> omega
    · rw [if_neg same] at charges
      rw [if_neg (by simp [same])]
      exact charges

theorem updateOrder_tradable (stepped : updateOrder appData cowAmmOrders settlementContract balances
      order = (some kept, next)) (needs : kept.needsBalance cowAmmOrders = true) :
    kept.available.isZero = false := by
  rcases updateOrder_some stepped with
    ⟨amm, rfl, _⟩ | ⟨_, data, ⟨rfl, flashloan, _⟩ | allocated⟩
  · simp [Order.needsBalance, amm] at needs
  · simp [Order.needsBalance, Option.isSome_iff_ne_none.mp flashloan] at needs
  · exact allocated.tradable

variable (appData cowAmmOrders settlementContract) in
/-- The orders that are kept of a sorted auction stay within the balances of
their owners, and none of them has got better. -/
theorem updateOrders_allocates (auction : Auction F) (balances : Balances) {orders : List (Order F)}
    (sorted : orders.Perm (auction.orders ++ cowAmmOrders)) :
    let kept := updateOrders appData cowAmmOrders settlementContract orders
      balances
    (∀ key, ((kept.filter fun order => order.balanceKey = key &&
        order.needsBalance cowAmmOrders).map (·.available.sell.amount.toNat)).sum ≤
            ((balances key).getD 0).toNat) ∧
    (∀ order ∈ kept, order.needsBalance cowAmmOrders = true →
      order.available.sell.amount ≠ 0 ∧ order.available.buy.amount ≠ 0) ∧
    ∃ origins, origins.Sublist orders ∧ List.Forall₂ Updates origins kept := by
  refine ⟨fun key => ?_, ?_, ?_⟩
  · apply retainMut.sum_le fun balances : Balances => ((balances key).getD 0).toNat
    · intro state order kept next stepped
      exact updateOrder_charges key stepped
    · intro state order next stepped
      rw [updateOrder_none stepped]
  · apply retainMut.forall_mem
    intro state order kept next stepped needs
    have tradable := updateOrder_tradable stepped needs
    simpa [Available.isZero, U256.isZero] using tradable
  · apply retainMut.sources
    intro state order kept next mem stepped
    refine updateOrder_updates (fun user => ?_) stepped
    rcases List.mem_append.mp (sorted.subset mem) with listed | amm
    · exact auction.tradable order listed
    · exact absurd (List.mem_map_of_mem amm) user

end

def sharedOrder (digest available : U256) : Order ℚ where
  uid := ⟨digest, 5, 0⟩
  receiver := none
  validTo := 0
  buy := ⟨100, 2⟩
  sell := ⟨100, 1⟩
  side := .sell
  kind := .limit
  appData := .hash 0
  fill := .yes available
  preInteractions := []
  postInteractions := []
  sellTokenBalance := .erc20
  buyTokenBalance := .erc20
  signature := ⟨.preSign, [], 5⟩
  protocolFees := []

def sharedAuction : Auction ℚ :=
  Auction.new [sharedOrder 1 80, sharedOrder 2 60] (fun _ => true) 9

theorem updateOrders_allocates_sharedAuction :
    let kept := updateOrders (fun _ => none) [] 7 sharedAuction.orders
      fun _ => some 100
    kept.map (·.available.sell.amount) = [80, 20] ∧
      ((kept.filter fun order => order.balanceKey = ⟨5, 1, .erc20⟩ &&
        order.needsBalance []).map (·.available.sell.amount.toNat)).sum ≤ 100 :=
  ⟨by decide +kernel, (updateOrders_allocates (fun _ => none) [] 7 sharedAuction (fun _ => some 100)
      (List.Perm.of_eq (List.append_nil _).symm)).1 ⟨5, 1, .erc20⟩⟩

end MandateSolver.Driver
