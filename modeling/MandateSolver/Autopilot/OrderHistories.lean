import MandateSolver.Autopilot.SolvableOrders
import MandateSolver.Foundation.Runs

/-!
# Histories of the tables of orders

Users' transactions are found by their timestamps.  What an indexer does is found only
through an event after the latest settlement.
-/

namespace MandateSolver.Autopilot.OrderTables

open Option

open WinnerSelection (OrderUid)

/-! ## Histories -/

/-- The tables and the cache.  For the statements the last update is kept as well:
the tables it has seen and its limit of validity. -/
structure History where
  database : Database
  now : Timestamp
  cache : Option SolvableOrders
  seen : Database
  minValidTo : Nat

/-- Before the first update. -/
def History.start (database : Database) (now : Timestamp) : History :=
  ⟨database, now, none, database, 0⟩

/-- An update has looked at the clock before it sees the tables. -/
inductive HistoryEvent where
  | commit (time : Timestamp) (transaction : Transaction)
  | update (time startedAt : Timestamp) (minValidTo : Nat)

namespace History

/-- What an event changes. -/
def step (history : History) : HistoryEvent → History
  | .commit time transaction =>
    { history with
      database := history.database.commit transaction
      now := time }
  | .update time startedAt minValidTo =>
    { history with
      now := time
      cache := some
        (getSolvableOrders history.database history.cache startedAt minValidTo)
      seen := history.database
      minValidTo := minValidTo }

end History

/-- A transaction is committed soon after the timestamp it writes. -/
def Prompt (time : Timestamp) : Transaction → Prop
  | .createOrder _ data => time ≤ data.creationTimestamp + timestampBuffer
  | .cancelOrder _ timestamp => time ≤ timestamp + timestampBuffer
  | _ => True

/-- Time does not go back, and updates start in the past. -/
def InTime (history : History) : HistoryEvent → Prop
  | .commit time transaction => history.now ≤ time ∧ Prompt time transaction
  | .update time startedAt _ => history.now ≤ time ∧ startedAt < time

/-- New events have block numbers that the update finds. -/
def Reliable (history : History) : HistoryEvent → Prop
  | .commit _ _ => True
  | .update _ _ minValidTo =>
    Agreed history.database minValidTo ∧ ∀ cache, history.cache = some cache →
        history.minValidTo ≤ minValidTo ∧
          ∀ uid, history.database.updatedOrderUidsAfter cache.latestSettlementBlock uid = true ∨
            SameEvents history.seen history.database uid

/-- The incremental update loads what a full query would. -/
def LoadsAllOrders (history : History) : HistoryEvent → Prop
  | .commit _ _ => True
  | .update _ startedAt minValidTo =>
    (getSolvableOrders history.database history.cache startedAt minValidTo).orders =
      (allSolvableOrders history.database startedAt minValidTo).orders

/-! ## What transactions do to orders -/

/-- Equal tables of orders and placements. -/
structure SameOrders (db next : Database) : Prop where
  orders : next.orders = db.orders
  onchainPlacedOrders : next.onchainPlacedOrders = db.onchainPlacedOrders
  ethflowOrders : next.ethflowOrders = db.ethflowOrders

section

variable {db next middle : Database} {uid : OrderUid} {placements : List Database.OnchainOrder}
  {order : Database.OnchainOrder} {α : Type}

theorem SameOrders.refl (db : Database) : SameOrders db db := ⟨rfl, rfl, rfl⟩

theorem SameOrders.trans (first : SameOrders db middle) (second : SameOrders middle next) :
    SameOrders db next :=
  ⟨second.orders.trans first.orders, second.onchainPlacedOrders.trans first.onchainPlacedOrders,
    second.ethflowOrders.trans first.ethflowOrders⟩

theorem sameOrders_foldl {write : Database → α → Database}
    (same : ∀ db row, SameOrders db (write db row)) (rows : List α) (db : Database) :
    SameOrders db (rows.foldl write db) := by
  induction rows generalizing db with
  | nil => exact .refl db
  | cons row rows ih => exact (same db row).trans (ih (write db row))

theorem sameOrders_appendEvents (events : List Database.SettlementEvent) (db : Database) :
    SameOrders db (db.appendEvents events) := by
  apply sameOrders_foldl
  intro db event
  cases event <;> exact ⟨rfl, rfl, rfl⟩

theorem sameOrders_insertRefunds (refunds : List (OrderUid × Nat)) (db : Database) :
    SameOrders db (refunds.foldl Database.insertRefund db) := by
  apply sameOrders_foldl
  intro db _
  exact ⟨rfl, rfl, rfl⟩

theorem WellFormed.of_sameOrders (wellFormed : WellFormed db) (same : SameOrders db next) :
    WellFormed next where
  placed := by
    rw [same.orders, same.onchainPlacedOrders]
    exact wellFormed.placed
  regular := by
    unfold Regular
    rw [same.orders, same.ethflowOrders]
    exact wellFormed.regular

theorem orders_changeOrder (db : Database) (changed uid : OrderUid) (change : OrderRow → OrderRow) :
    (db.changeOrder changed change).orders uid =
      if uid = changed then (db.orders uid).map change else db.orders uid := by
  unfold Database.changeOrder
  by_cases same : uid = changed
  · subst same
    simp
  · simp [same]

theorem orders_insertOrder (db : Database) (inserted uid : OrderUid) (data : OrderData) :
    (db.insertOrder inserted data).orders uid =
      if uid = inserted then (db.orders uid).or (some ⟨data, none, data.validTo⟩)
      else db.orders uid := by
  unfold Database.insertOrder
  by_cases same : uid = inserted
  · subst same
    cases found : db.orders uid with
    | none => simp
    | some row => simp [found]
  · cases found : db.orders inserted with
    | none | some row => simp [same]

theorem sameTables_insertOrder (db : Database) (inserted : OrderUid) (data : OrderData) :
    (db.insertOrder inserted data).onchainPlacedOrders = db.onchainPlacedOrders ∧
      (db.insertOrder inserted data).ethflowOrders = db.ethflowOrders := by
  unfold Database.insertOrder
  cases db.orders inserted <;> exact ⟨rfl, rfl⟩

/-! ### Orders and placements -/

section

variable (regular : Regular db)
include regular

theorem Regular.insertOrder (inserted : OrderUid)
    (data : OrderData) : Regular (db.insertOrder inserted data) := by
  intro uid row found unlimited
  rw [orders_insertOrder] at found
  rw [(sameTables_insertOrder db inserted data).2] at unlimited
  split at found
  · rcases or_eq_some_iff.mp found with old | ⟨_, new⟩
    · exact regular uid row old unlimited
    · cases new
      rfl
  · exact regular uid row found unlimited

theorem Regular.cancelOrder (cancelled : OrderUid)
    (timestamp : Timestamp) : Regular (db.cancelOrder cancelled timestamp) := by
  intro uid row found unlimited
  rw [Database.cancelOrder, orders_changeOrder] at found
  split at found
  · obtain ⟨old, before, rfl⟩ := map_eq_some_iff.mp found
    exact regular uid old before unlimited
  · exact regular uid row found unlimited

theorem Regular.insertOrOverwriteEthflowOrder (order : Database.OnchainOrder) :
    Regular (db.insertOrOverwriteEthflowOrder order) := by
  intro uid row found unlimited
  have other : uid ≠ order.uid := by
    intro same
    simp [Database.insertOrOverwriteEthflowOrder, Database.changeOrder, same] at unlimited
  rw [Database.insertOrOverwriteEthflowOrder, orders_changeOrder, if_neg other] at found
  apply regular uid row found
  simpa [Database.insertOrOverwriteEthflowOrder, Database.changeOrder, other] using unlimited

theorem Regular.insertOnchainEvents
    (events : Database.OnchainEvents) : Regular (db.insertOnchainEvents events) := by
  refine List.foldlRecOn _ _ (List.foldlRecOn _ _ (List.foldlRecOn _ _
    (List.foldlRecOn _ _ regular ?_) ?_) ?_) ?_
  · exact fun db regular event _ => regular
  · exact fun db regular order _ => regular.insertOrOverwriteEthflowOrder order
  · exact fun db regular order _ => regular
  · exact fun db regular order _ => regular.insertOrder order.uid order.data

end

theorem isSome_orders_insertOrder (present : (db.orders uid).isSome)
    (inserted : OrderUid) (data : OrderData) :
    ((db.insertOrder inserted data).orders uid).isSome := by
  rw [orders_insertOrder]
  split
  · simp
  · exact present

theorem isSome_orders_changeOrder (present : (db.orders uid).isSome)
    (changed : OrderUid) (change : OrderRow → OrderRow) :
    ((db.changeOrder changed change).orders uid).isSome := by
  rw [orders_changeOrder]
  split
  · simpa using present
  · exact present

theorem isSome_onchainPlacedOrders_insertOnchainOrder
    (present : (db.onchainPlacedOrders uid).isSome) (order : Database.OnchainOrder) :
    ((db.insertOnchainOrder order).onchainPlacedOrders uid).isSome := by
  unfold Database.insertOnchainOrder
  by_cases same : uid = order.uid
  · subst same
    simp
  · simpa [same] using present

/-- What a write of a row establishes and no other write destroys. -/
theorem of_mem_foldl (property : α → Database → Prop) {write : Database → α → Database}
    (establishes : ∀ db row, property row (write db row))
    (keeps : ∀ db row other, property row db → property row (write db other))
    {row : α} {rows : List α} (mem : row ∈ rows) (db : Database) :
    property row (rows.foldl write db) := by
  induction rows generalizing db with
  | nil => cases mem
  | cons first rows ih =>
    rcases List.mem_cons.mp mem with rfl | later
    · refine List.foldlRecOn rows write (establishes db row) ?_
      intro db holds other _
      exact keeps db row other holds
    · exact ih later (write db first)

theorem isSome_placed_of_mem
    (mem : order ∈ placements) (db : Database) :
    ((placements.foldl Database.insertOnchainOrder db).onchainPlacedOrders order.uid).isSome := by
  refine of_mem_foldl (fun order db => (db.onchainPlacedOrders order.uid).isSome) ?_ ?_ mem db
  · simp [Database.insertOnchainOrder]
  · intro db order other present
    exact isSome_onchainPlacedOrders_insertOnchainOrder present other

theorem isSome_orders_of_mem
    (mem : order ∈ placements) (db : Database) :
    ((placements.foldl (fun db order => db.insertOrder order.uid order.data) db).orders
      order.uid).isSome := by
  refine of_mem_foldl (fun order db => (db.orders order.uid).isSome) ?_ ?_ mem db
  · simp [orders_insertOrder]
  · intro db order other present
    exact isSome_orders_insertOrder present other.uid other.data

/-- Placements belong to orders, except for those being inserted. -/
def PlacedOrNew (placements : List Database.OnchainOrder) (db : Database) : Prop :=
  ∀ uid, (db.onchainPlacedOrders uid).isSome →
    (db.orders uid).isSome ∨ ∃ order ∈ placements, order.uid = uid

theorem WellFormed.insertOnchainEvents (wellFormed : WellFormed db)
    (events : Database.OnchainEvents) : WellFormed (db.insertOnchainEvents events) := by
  refine ⟨?_, wellFormed.regular.insertOnchainEvents events⟩
  have initially : PlacedOrNew events.placements db :=
    fun uid placed => Or.inl (wellFormed.placed uid placed)
  have pending : PlacedOrNew events.placements (db.insertOnchainEvents events) := by
    refine List.foldlRecOn _ _ (List.foldlRecOn _ _ (List.foldlRecOn _ _
      (List.foldlRecOn _ _ initially ?_) ?_) ?_) ?_
    · exact fun db holds event _ => holds
    · intro db holds order _ uid placed
      exact (holds uid placed).imp_left fun present =>
        isSome_orders_changeOrder present _ _
    · intro db holds order mem uid placed
      by_cases same : order.uid = uid
      · exact Or.inr ⟨order, mem, same⟩
      · apply holds uid
        simpa [Database.insertOnchainOrder, Ne.symm same] using placed
    · intro db holds order _ uid placed
      rw [(sameTables_insertOrder db order.uid order.data).1] at placed
      exact (holds uid placed).imp_left fun present =>
        isSome_orders_insertOrder present _ _
  intro uid placed
  rcases pending uid placed with present | ⟨order, mem, rfl⟩
  · exact present
  · exact isSome_orders_of_mem mem _

/-- Only users and the indexer of on-chain orders change orders. -/
theorem commit_cases {motive : Database → Prop} (db : Database) (transaction : Transaction)
    (created : ∀ uid data, transaction = .createOrder uid data → motive (db.insertOrder uid data))
    (cancelled : ∀ uid timestamp, transaction = .cancelOrder uid timestamp →
      motive (db.cancelOrder uid timestamp))
    (placed : ∀ next events, SameOrders db next → motive (next.insertOnchainEvents events))
    (others : ∀ next, SameOrders db next → motive next) : motive (db.commit transaction) := by
  cases transaction with
  | createOrder uid data => exact created uid data rfl
  | cancelOrder uid timestamp => exact cancelled uid timestamp rfl
  | appendEvents events => exact others _ (sameOrders_appendEvents events db)
  | replaceEvents events fromBlock =>
    have same := sameOrders_appendEvents events (db.deleteEvents fromBlock)
    exact others _ ⟨same.orders, same.onchainPlacedOrders, same.ethflowOrders⟩
  | saveOrderExecution row => exact others _ ⟨rfl, rfl, rfl⟩
  | appendOnchainEvents events => exact placed db events (.refl db)
  | replaceOnchainEvents events fromBlock => exact placed _ events ⟨rfl, rfl, rfl⟩
  | appendRefunds refunds => exact others _ (sameOrders_insertRefunds refunds db)
  | replaceRefunds refunds fromBlock toBlock =>
    have same := sameOrders_insertRefunds refunds (db.deleteRefunds fromBlock toBlock)
    exact others _ ⟨same.orders, same.onchainPlacedOrders, same.ethflowOrders⟩

theorem WellFormed.commit (wellFormed : WellFormed db) (transaction : Transaction) :
    WellFormed (db.commit transaction) := by
  apply commit_cases db transaction
  · intro uid data _
    refine ⟨?_, wellFormed.regular.insertOrder uid data⟩
    intro other placed
    rw [(sameTables_insertOrder db uid data).1] at placed
    exact isSome_orders_insertOrder (wellFormed.placed other placed) uid data
  · intro uid timestamp _
    refine ⟨?_, wellFormed.regular.cancelOrder uid timestamp⟩
    intro other placed
    exact isSome_orders_changeOrder (wellFormed.placed other placed) uid _
  · intro next events same
    exact (wellFormed.of_sameOrders same).insertOnchainEvents events
  · intro next same
    exact wellFormed.of_sameOrders same

end

/-! ## Orders since the last update -/

/-- What may have happened to an order after the given time. -/
inductive RowFollows (after : Timestamp) (seen db : Database) (uid : OrderUid) : Prop
  | absent (before : seen.orders uid = none) (found : db.orders uid = none)
  | created (row : OrderRow) (found : db.orders uid = some row)
      (recent : after < row.creationTimestamp)
  | placed (row : OrderRow) (found : db.orders uid = some row)
      (before : seen.onchainPlacedOrders uid = none)
      (isPlaced : (db.onchainPlacedOrders uid).isSome)
  | kept (old row : OrderRow) (before : seen.orders uid = some old)
      (found : db.orders uid = some row) (same : row.toOrderData = old.toOrderData)
      (cancelled : row.cancellationTimestamp = old.cancellationTimestamp ∨
        row.cancellationTimestamp.any (after < ·) = true)

section

variable {after : Timestamp} {seen db next : Database} {uid : OrderUid}

theorem RowFollows.refl (after : Timestamp) (db : Database) (uid : OrderUid) :
    RowFollows after db db uid := by
  cases found : db.orders uid with
  | none => exact .absent found found
  | some row => exact .kept row row found found rfl (Or.inl rfl)

section

variable (follows : RowFollows after seen db uid)
include follows

theorem RowFollows.of_orders_eq (orders : next.orders uid = db.orders uid)
    (placements : (db.onchainPlacedOrders uid).isSome →
      (next.onchainPlacedOrders uid).isSome) : RowFollows after seen next uid := by
  cases follows with
  | absent before found => exact .absent before (orders.trans found)
  | created row found recent => exact .created row (orders.trans found) recent
  | placed row found before isPlaced =>
    exact .placed row (orders.trans found) before (placements isPlaced)
  | kept old row before found fixed cancelled =>
    exact .kept old row before (orders.trans found) fixed cancelled

theorem RowFollows.of_sameOrders (same : SameOrders db next) : RowFollows after seen next uid := by
  apply follows.of_orders_eq (congrFun same.orders uid)
  rw [same.onchainPlacedOrders]
  exact id

theorem RowFollows.insertOrder
    (wellFormed : WellFormed seen) (inserted : OrderUid) (data : OrderData)
    (new : after < data.creationTimestamp ∨ (db.onchainPlacedOrders inserted).isSome) :
    RowFollows after seen (db.insertOrder inserted data) uid := by
  have unchanged {row : OrderRow} (found : db.orders uid = some row) :
      (db.insertOrder inserted data).orders uid = some row := by
    rw [orders_insertOrder, found, some_or, ite_self]
  cases follows with
  | absent before found =>
    by_cases same : uid = inserted
    · subst same
      have row : (db.insertOrder uid data).orders uid = some ⟨data, none, data.validTo⟩ := by
        rw [orders_insertOrder, if_pos rfl, found, none_or]
      rcases new with recent | isPlaced
      · exact .created _ row recent
      · refine .placed _ row ?_ ?_
        · by_contra earlier
          have present := wellFormed.placed uid (isSome_iff_ne_none.mpr earlier)
          rw [before] at present
          cases present
        · rw [(sameTables_insertOrder db uid data).1]
          exact isPlaced
    · refine .absent before ?_
      rw [orders_insertOrder, if_neg same]
      exact found
  | created row found recent => exact .created row (unchanged found) recent
  | placed row found before isPlaced =>
    refine .placed row (unchanged found) before ?_
    rw [(sameTables_insertOrder db inserted data).1]
    exact isPlaced
  | kept old row before found same cancelled =>
    exact .kept old row before (unchanged found) same cancelled

theorem RowFollows.changeOrder (changed : OrderUid) {change : OrderRow → OrderRow}
    (fixed : ∀ row, (change row).toOrderData = row.toOrderData)
    (cancels : ∀ row, (change row).cancellationTimestamp = row.cancellationTimestamp ∨
      (change row).cancellationTimestamp.any (after < ·) = true) :
    RowFollows after seen (db.changeOrder changed change) uid := by
  have result := orders_changeOrder db changed uid change
  by_cases same : uid = changed
  · rw [if_pos same] at result
    cases follows with
    | absent before found => exact .absent before (by rw [result, found]; rfl)
    | created row found recent =>
      refine .created (change row) (by rw [result, found]; rfl) ?_
      rw [fixed]
      exact recent
    | placed row found before isPlaced =>
      exact .placed (change row) (by rw [result, found]; rfl) before isPlaced
    | kept old row before found sameData cancelled =>
      refine .kept old (change row) before (by rw [result, found]; rfl)
        ((fixed row).trans sameData) ?_
      rcases cancels row with unchanged | recent
      · rw [unchanged]
        exact cancelled
      · exact Or.inr recent
  · rw [if_neg same] at result
    exact follows.of_orders_eq result id

end

theorem RowFollows.foldl {α : Type} {write : Database → α → Database}
    (keeps : ∀ db row, RowFollows after seen db uid → RowFollows after seen (write db row) uid)
    (rows : List α) (follows : RowFollows after seen db uid) :
    RowFollows after seen (rows.foldl write db) uid := by
  induction rows generalizing db with
  | nil => exact follows
  | cons row rows ih => exact ih (keeps db row follows)

theorem RowFollows.insertOnchainEvents (follows : RowFollows after seen db uid)
    (wellFormed : WellFormed seen) (events : Database.OnchainEvents) :
    RowFollows after seen (db.insertOnchainEvents events) uid := by
  have limited : RowFollows after seen (events.placements.foldl
      Database.insertOrOverwriteEthflowOrder
        (events.invalidations.foldl Database.insertOnchainInvalidation db)) uid := by
    apply RowFollows.foldl
    · intro db order follows
      have limited : RowFollows after seen { db with
          ethflowOrders := Function.update db.ethflowOrders order.uid
            (some order.userValidTo) } uid := follows.of_orders_eq rfl id
      exact limited.changeOrder order.uid (fun _ => rfl) fun _ => Or.inl rfl
    · apply RowFollows.foldl _ _ follows
      intro db _ follows
      exact follows.of_sameOrders ⟨rfl, rfl, rfl⟩
  have keeps db order (follows : RowFollows after seen db uid) :
      RowFollows after seen (db.insertOnchainOrder order) uid := by
    refine follows.of_orders_eq rfl ?_
    exact fun present => isSome_onchainPlacedOrders_insertOnchainOrder present order
  have placed := RowFollows.foldl keeps events.placements limited
  refine (List.foldlRecOn (motive := fun db => RowFollows after seen db uid ∧
    ∀ order ∈ events.placements, (db.onchainPlacedOrders order.uid).isSome) _ _
      ⟨placed, fun order mem => isSome_placed_of_mem mem _⟩ ?_).1
  intro db both order mem
  refine ⟨both.1.insertOrder wellFormed order.uid order.data (Or.inr (both.2 order mem)), ?_⟩
  rw [(sameTables_insertOrder db order.uid order.data).1]
  exact both.2

theorem RowFollows.commit {time : Timestamp} {transaction : Transaction}
    (follows : RowFollows after seen db uid) (wellFormed : WellFormed seen)
    (recent : after + timestampBuffer < time) (prompt : Prompt time transaction) :
    RowFollows after seen (db.commit transaction) uid := by
  apply commit_cases (motive := fun next => RowFollows after seen next uid) db transaction
  · intro inserted data same
    have created : time ≤ data.creationTimestamp + timestampBuffer := by
      rw [same] at prompt
      exact prompt
    have later := lt_of_add_lt_add_right (recent.trans_le created)
    exact follows.insertOrder wellFormed inserted data (Or.inl later)
  · intro cancelled timestamp same
    have requested : time ≤ timestamp + timestampBuffer := by
      rw [same] at prompt
      exact prompt
    have later := lt_of_add_lt_add_right (recent.trans_le requested)
    refine follows.changeOrder cancelled (fun _ => rfl) ?_
    intro row
    cases before : row.cancellationTimestamp with
    | none => exact Or.inr (decide_eq_true later)
    | some earlier => exact Or.inl rfl
  · intro next events same
    exact (follows.of_sameOrders same).insertOnchainEvents wellFormed events
  · intro next same
    exact follows.of_sameOrders same

end

/-! ## One update -/

/-- An update gives what the full query gives when it can rely on its cache. -/
theorem solvableOrdersAfter_eq {seen db : Database} {after startedAt : Timestamp}
    {afterBlock minValidTo later : Nat}
    (wellFormed : WellFormed seen) (agreed : Agreed seen minValidTo)
    (wellFormed' : WellFormed db) (agreed' : Agreed db later) (le : minValidTo ≤ later)
    (rows : ∀ uid, RowFollows after seen db uid)
    (covered : ∀ uid, db.updatedOrderUidsAfter afterBlock uid = true ∨ SameEvents seen db uid) :
    (solvableOrdersAfter db (seen.solvableOrders minValidTo) after afterBlock startedAt
      later).orders = db.solvableOrders later := by
  funext uid
  rw [solvableOrders_eq wellFormed' agreed' uid]
  change ((db.openOrdersByTimeOrUids (db.updatedOrderUidsAfter afterBlock) after uid).or
    (seen.solvableOrders minValidTo uid)).filter (·.isRetained later) = _
  rw [solvableOrders_eq wellFormed agreed uid]
  unfold Database.openOrdersByTimeOrUids
  cases found : db.orders uid with
  | none =>
    have before : seen.orders uid = none := by
      cases rows uid with
      | absent before => exact before
      | created row found' | placed row found' | kept old row _ found' =>
        rw [found] at found'
        cases found'
    rw [before]
    rfl
  | some row =>
    simp only [bind_eq_bind, bind_some, map_some]
    split
    · rw [some_or]
    · rename_i notSelected
      simp only [Bool.or_eq_true, decide_eq_true_eq, not_or] at notSelected
      obtain ⟨⟨notCreated, notCancelled⟩, notUpdated⟩ := notSelected
      have same := (covered uid).resolve_left (by simp [notUpdated])
      have unchanged : (seen.orders uid).map (seen.fullOrder uid) =
          some (db.fullOrder uid row) := by
        cases rows uid with
        | absent _ found' =>
          rw [found] at found'
          cases found'
        | created row' found' recent =>
          rw [found] at found'
          cases found'
          exact absurd recent notCreated
        | placed row' found' before isPlaced =>
          rw [← same.onchainPlacedOrders, before] at isPlaced
          cases isPlaced
        | kept old row' before found' data cancelled =>
          rw [found] at found'
          cases found'
          have cancelled := cancelled.resolve_right (by
            intro recent
            simp [notCancelled] at recent)
          rw [before, map_some, same.fullOrder data cancelled]
      rw [none_or, unchanged, filter_isRetained_of_later le]

/-! ## Whole histories -/

/-- The cache shows an earlier database, and newer rows are recent. -/
structure Following (history : History) (cache : SolvableOrders) : Prop where
  loaded : cache.orders = history.seen.solvableOrders history.minValidTo
  agreed : Agreed history.seen history.minValidTo
  wellFormed : WellFormed history.seen
  rows : ∀ uid, RowFollows cache.fetchedFromDb history.seen history.database uid
  recent : cache.fetchedFromDb + timestampBuffer < history.now

/-- The invariant of a history. -/
structure Accounted (history : History) : Prop where
  wellFormed : WellFormed history.database
  following : ∀ cache, history.cache = some cache → Following history cache

section

variable {history : History} {event : HistoryEvent}

theorem Accounted.loadsAllOrders (accounted : Accounted history)
    (reliable : Reliable history event) : LoadsAllOrders history event := by
  cases event with
  | commit time transaction => trivial
  | update time startedAt minValidTo =>
    obtain ⟨agreed, covered⟩ := reliable
    unfold LoadsAllOrders getSolvableOrders
    cases found : history.cache with
    | none => rfl
    | some cache =>
      have following := accounted.following cache found
      obtain ⟨le, covered⟩ := covered cache found
      simp only [following.loaded]
      exact solvableOrdersAfter_eq following.wellFormed following.agreed
        accounted.wellFormed agreed le following.rows covered

theorem fetchedFromDb_getSolvableOrders (db : Database) (cache : Option SolvableOrders)
    (startedAt : Timestamp) (minValidTo : Nat) :
    (getSolvableOrders db cache startedAt minValidTo).fetchedFromDb =
      startedAt - timestampBuffer := by
  cases cache <;> rfl

theorem Accounted.step (accounted : Accounted history) (inTime : InTime history event)
    (reliable : Reliable history event) : Accounted (history.step event) := by
  cases event with
  | commit time transaction =>
    obtain ⟨later, prompt⟩ := inTime
    refine ⟨accounted.wellFormed.commit transaction, ?_⟩
    intro cache found
    obtain ⟨loaded, agreed, wellFormed, rows, recent⟩ := accounted.following cache found
    have recent := lt_of_lt_of_le recent later
    exact ⟨loaded, agreed, wellFormed,
      fun uid => (rows uid).commit wellFormed recent prompt, recent⟩
  | update time startedAt minValidTo =>
    refine ⟨accounted.wellFormed, ?_⟩
    intro cache found
    obtain rfl := Option.some.inj found
    refine ⟨accounted.loadsAllOrders reliable, reliable.1, accounted.wellFormed,
      fun uid => .refl _ _ uid, ?_⟩
    rw [fetchedFromDb_getSolvableOrders, sub_add_cancel]
    exact inTime.2

theorem updates_load_all_orders (db : Database) (now : Timestamp)
    (events : List HistoryEvent) (wellFormed : WellFormed db) (allowed : Run.Along History.step
      (fun history event => InTime history event ∧ Reliable history event)
      (History.start db now) events) :
    Run.Along History.step LoadsAllOrders (History.start db now) events := by
  have initially : Accounted (History.start db now) := by
    refine ⟨wellFormed, ?_⟩
    intro _ found
    cases found
  refine Run.along_of_preserved Accounted ?_ initially allowed ?_
  · intro history event accounted guard
    exact accounted.step guard.1 guard.2
  · intro history event accounted guard
    exact accounted.loadsAllOrders guard.2

end

/-! ## One order with one trade -/

def Database.empty : Database where
  orders _ := none
  trades := ∅
  invalidations := ∅
  settlements := ∅
  presignatureEvents := ∅
  orderExecution := ∅
  onchainOrderInvalidations _ := none
  onchainPlacedOrders _ := none
  ethflowOrders _ := none
  ethflowRefunds _ := none

theorem wellFormed_empty : WellFormed Database.empty := ⟨nofun, nofun⟩

def tenTokens : OrderData := ⟨0, .sell, 10, 10, 1000, .eip712⟩

def tenTokensUid : OrderUid := ⟨1, 2, 1000⟩

theorem prompt_tenTokens : Prompt 1 (.createOrder tenTokensUid tenTokens) := by
  unfold Prompt
  decide

def oneTrade : Trade := ⟨toLex (5, 0), tenTokensUid, 4, 4, 0⟩

def fourSold : List Database.SettlementEvent :=
  [.trade oneTrade, .settlement (toLex (5, 1))]

theorem agreed_of_none {db : Database} (limits : db.ethflowOrders = fun _ => none)
    (refunds : db.ethflowRefunds = fun _ => none) (minValidTo : Nat) : Agreed db minValidTo := by
  refine ⟨?_, ?_⟩
  · intro uid row _ _ limited
    rw [limits] at limited
    cases limited
  · intro uid row _ refunded
    rw [refunds] at refunded
    cases refunded

def partialFill : List HistoryEvent :=
  [.commit 1 (.createOrder tenTokensUid tenTokens), .update 3 2 100,
    .commit 4 (.appendEvents fourSold), .update 6 5 100]

theorem updates_load_partial_fill :
    Run.Along History.step LoadsAllOrders (History.start .empty 0) partialFill := by
  apply updates_load_all_orders _ _ _ wellFormed_empty
  refine ⟨⟨⟨by decide, prompt_tenTokens⟩, trivial⟩,
    ⟨⟨by decide, by decide⟩, agreed_of_none rfl rfl 100, nofun⟩,
    ⟨⟨by decide, trivial⟩, trivial⟩,
    ⟨⟨by decide, by decide⟩, agreed_of_none rfl rfl 100, ?_⟩, trivial⟩
  intro _ found
  obtain rfl := Option.some.inj found
  refine ⟨le_refl _, ?_⟩
  intro uid
  by_cases same : uid = tenTokensUid
  · subst same
    exact Or.inl (by decide +kernel)
  · right
    refine ⟨?_, rfl, rfl, rfl, rfl, rfl⟩
    change (∅ : Finset Trade).filter _ = ({oneTrade} : Finset Trade).filter _
    have other : oneTrade.orderUid ≠ uid := Ne.symm same
    rw [Finset.filter_empty, Finset.filter_singleton, if_neg other]

def lostTrade : List HistoryEvent :=
  [.commit 1 (.createOrder tenTokensUid tenTokens), .commit 2 (.appendEvents fourSold),
    .update 100000001 100000000 100, .commit 100000002 (.replaceEvents [] 5),
    .update 100000004 100000003 100]

/-- The last update still has the four tokens, which the full query does not have. -/
theorem update_keeps_reorged_trade : WellFormed .empty ∧
      Run.Along History.step InTime (History.start .empty 0) lostTrade ∧
      ¬ Run.Along History.step LoadsAllOrders (History.start .empty 0) lostTrade := by
  refine ⟨wellFormed_empty, ⟨⟨by decide, prompt_tenTokens⟩, ⟨by decide, trivial⟩,
    ⟨by decide, by decide⟩, ⟨by decide, trivial⟩, ⟨by decide, by decide⟩, trivial⟩, ?_⟩
  intro holds
  have last := congrFun holds.2.2.2.2.1 tenTokensUid
  have sold := congrArg (Option.map FullOrder.sumSell) last
  revert sold
  decide +kernel

end MandateSolver.Autopilot.OrderTables
