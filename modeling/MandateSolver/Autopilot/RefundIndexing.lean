import Mathlib.Data.List.ReduceOption
import MandateSolver.EventHandling.Restart
import MandateSolver.Foundation.ExtremalChoice

/-!
# Where the indexing of refunds starts

The handler of the refunds starts at the later one of its own block and the block of the
settlement indexer.  What lies between them is skipped.
-/

namespace MandateSolver.Autopilot

open Outcome hiding none

open EventHandling (Error EventHandler EventRange Store forkedTree)

/-! ## The start blocks -/

/-- What the services ask for when they start: the recorded blocks by the name of
the index, the node for the hash of a block, and the block in which the settlement
contract of a chain was deployed. -/
structure Startup (Hash : Type) where
  lastIndexedBlocks : String → Outcome Error (Option Int)
  blockByNumber : Nat → Option Hash
  deploymentBlock : Nat → Option Nat

namespace Startup

def refundIndexName : String := "ethflow_refunds"

def settlementIndexName : String := "settlements"

def onchainOrderIndexName : String := "onchain_orders"

variable {Hash Event : Type} (startup : Startup Hash)

def readLastBlockFromDb (indexName : String) : Outcome Error Nat := do
  let row ← startup.lastIndexedBlocks indexName
  match row.getD 0 with
  | .ofNat number => .ok number
  | .negSucc _ => .err (.context "last block is not u64")

def blockNumberToBlockNumberHash (number : Nat) : Outcome Error (Nat × Hash) := do
  let hash ← .okOr (.context s!"failed to find block {number}")
    (startup.blockByNumber number)
  return (number, hash)

def settlementDeploymentBlockNumberHash (chainId : Nat) : Outcome Error (Nat × Hash) := do
  let number ← .okOr (.context "no deployment block configured")
    (startup.deploymentBlock chainId)
  (startup.blockNumberToBlockNumberHash number).mapError fun _ =>
    .context "Deployment block not found"

def findIndexingStartBlock (indexName : String)
    (fallbackStartBlock settlementFallbackChainId : Option Nat) :
    Outcome Error (Option (Nat × Hash)) := do
  let lastIndexedBlock ← (startup.readLastBlockFromDb indexName).mapError fun _ =>
    .context "failed to read last indexed block from db"
  if 0 < lastIndexedBlock then
    let block ← (startup.blockNumberToBlockNumberHash lastIndexedBlock).mapError
      fun _ => .context "failed to fetch block"
    return some block
  else match fallbackStartBlock with
    | some startBlock =>
      let block ← (startup.blockNumberToBlockNumberHash startBlock).mapError
        fun _ => .context "failed to fetch fallback indexing start block"
      return some block
    | none => match settlementFallbackChainId with
      | some chainId =>
        let block ← (startup.settlementDeploymentBlockNumberHash chainId).mapError
          fun _ => .context "failed to fetch settlement deployment block"
        return some block
      | none => return none

section

variable (skipEventSyncStart : Option (Nat × Hash)) (ethflowIndexingStart : Option Nat)
  (chainId : Nat)

def determineEthflowIndexingStart : Outcome Error (Nat × Hash) :=
  match skipEventSyncStart with
  | some block => .ok block
  | none => do
    let found ← (startup.findIndexingStartBlock onchainOrderIndexName
      ethflowIndexingStart (some chainId)).expectOk
        "Should be able to find last indexed onchain order block"
    .expect "No last indexed block found for ethflow orders" found

def determineEthflowRefundIndexingStart
    : Outcome Error (Nat × Hash) :=
  match skipEventSyncStart with
  | some block => .ok block
  | none => do
    let ethflowRefundIndexingStart ← (startup.findIndexingStartBlock
      refundIndexName ethflowIndexingStart none).expectOk
        "Should be able to find last indexed refund block"
    let settlementContractIndexingStart ← (startup.findIndexingStartBlock
      settlementIndexName none (some chainId)).expectOk
        "Should be able to find last indexed settlement block"
    .expect "Should be able to find a valid start block" (maxBy (compareOn Prod.fst)
        [ethflowRefundIndexingStart, settlementContractIndexingStart].reduceOption)

end

/-! ## The handlers -/

section

variable (call : EventHandling.Call Hash) (store : Store Event)
  (skipEventSyncStart : Option (Nat × Hash)) (ethflowIndexingStart : Option Nat) (chainId : Nat)

def onchainOrderIndexer : Outcome Error (EventHandler Hash Event) := do
  let start ← startup.determineEthflowIndexingStart skipEventSyncStart
    ethflowIndexingStart chainId
  (EventHandler.newSkipBlocksBefore call store start).expectOk
    "Should be able to initialize event updater. Database read issues?"

def refundEventHandler : Outcome Error (EventHandler Hash Event) := do
  let start ← startup.determineEthflowRefundIndexingStart skipEventSyncStart
    ethflowIndexingStart chainId
  (EventHandler.newSkipBlocksBefore call store start).expectOk
    "called Result::unwrap() on an Err value"

end

def settlementStart (recorded chainId : Nat) : Nat :=
  if 0 < recorded then recorded else (startup.deploymentBlock chainId).getD 0

end Startup

/-- Where indexing starts. -/
def startBlock {Hash Event : Type} (handler : EventHandler Hash Event) : Nat :=
  (handler.lastHandledBlocks.getLast?.map Prod.fst).getD handler.store.lastIndexedBlock

/-- The events of a block are requested. -/
def Covers {Hash : Type} (range : EventRange Hash) (number : Nat) : Prop :=
  (∃ history ∈ range.historyRange, history.start ≤ number ∧ number ≤ history.stop) ∨
    ∃ block ∈ range.latestBlocks, block.1 = number

/-- No block after the recorded one is left out. -/
def CoversAbove {Hash Event : Type} [DecidableEq Hash] (tree : BlockTree Hash)
    (recorded : Nat) (handler : EventHandler Hash Event) : Prop :=
  ∀ call range, handler.eventBlockRange tree call = .ok range →
    ∀ number, recorded < number → number ≤ tree.number call.tip → Covers range number

/-! ## What the handlers start with -/

section

variable {Hash Event : Type} {startup : Startup Hash} {call : EventHandling.Call Hash}
  {store : Store Event} {handler : EventHandler Hash Event}

theorem newSkipBlocksBefore_cases {skipBlocksBefore : Nat × Hash}
    (created : EventHandler.newSkipBlocksBefore call store skipBlocksBefore = .ok handler) :
    startBlock handler = max store.lastIndexedBlock skipBlocksBefore.1 ∧
      (skipBlocksBefore.1 ≤ store.lastIndexedBlock → handler = EventHandler.new store none) := by
  rw [EventHandler.newSkipBlocksBefore, bind_eq_ok_iff] at created
  obtain ⟨_, known, made⟩ := created
  obtain ⟨-, rfl⟩ := EventHandling.Call.ask_eq_ok_iff.mp known
  obtain rfl := ok.inj made
  by_cases reached : store.lastIndexedBlock ≥ skipBlocksBefore.1
  · rw [if_pos reached]
    exact ⟨(max_eq_left reached).symm, fun _ => rfl⟩
  · rw [if_neg reached]
    exact ⟨(max_eq_right (Nat.le_of_lt (not_le.mp reached))).symm,
      fun behind => absurd behind reached⟩

variable {recorded : Nat} {block : Nat × Hash} {indexName : String}

theorem readLastBlockFromDb_of_recorded
    (row : startup.lastIndexedBlocks indexName = .ok (some recorded)) :
    startup.readLastBlockFromDb indexName = .ok recorded := by
  rw [Startup.readLastBlockFromDb, row]
  rfl

theorem eq_of_blockNumberToBlockNumberHash {number : Nat}
    (fetched : startup.blockNumberToBlockNumberHash number = .ok block) : block.1 = number := by
  rw [Startup.blockNumberToBlockNumberHash, bind_eq_ok_iff] at fetched
  obtain ⟨_, -, same⟩ := fetched
  obtain rfl := ok.inj same
  rfl

variable {fallback : Option Nat} {found : Option (Nat × Hash)}

theorem findIndexingStartBlock_of_recorded {chainId : Option Nat}
    (row : startup.lastIndexedBlocks indexName = .ok (some recorded)) (positive : 0 < recorded)
    (returned : startup.findIndexingStartBlock indexName fallback chainId = .ok found) :
    ∃ block, found = some block ∧ block.1 = recorded := by
  simp only [Startup.findIndexingStartBlock, readLastBlockFromDb_of_recorded row,
    Outcome.mapError, ok_bind, if_pos positive] at returned
  obtain ⟨block, fetched, same⟩ := bind_eq_ok_iff.mp returned
  have fetched := mapError_eq_ok_iff.mp fetched
  exact ⟨block, (ok.inj same).symm, eq_of_blockNumberToBlockNumberHash fetched⟩

variable {chainId : Nat}

theorem findIndexingStartBlock_settlement
    (row : startup.lastIndexedBlocks Startup.settlementIndexName = .ok (some recorded))
    (returned : startup.findIndexingStartBlock Startup.settlementIndexName none
      (some chainId) = .ok found) :
    ∃ block, found = some block ∧ block.1 = startup.settlementStart recorded chainId := by
  by_cases positive : 0 < recorded
  · rw [Startup.settlementStart, if_pos positive]
    exact findIndexingStartBlock_of_recorded row positive returned
  · simp only [Startup.findIndexingStartBlock, readLastBlockFromDb_of_recorded row,
      Outcome.mapError, ok_bind, if_neg positive] at returned
    obtain ⟨block, fetched, same⟩ := bind_eq_ok_iff.mp returned
    have fetched := mapError_eq_ok_iff.mp fetched
    rw [Startup.settlementDeploymentBlockNumberHash, bind_eq_ok_iff] at fetched
    obtain ⟨_, deployed, fetched⟩ := fetched
    have deployed := okOr_eq_ok_iff.mp deployed
    have fetched := mapError_eq_ok_iff.mp fetched
    refine ⟨block, (ok.inj same).symm, ?_⟩
    rw [Startup.settlementStart, if_neg positive, deployed]
    exact eq_of_blockNumberToBlockNumberHash fetched

theorem fst_maxBy_pair {first second best : Nat × Hash}
    (found : maxBy (compareOn Prod.fst) [some first, some second].reduceOption =
      some best) : best.1 = max first.1 second.1 := by
  simp only [List.reduceOption_cons_of_some, List.reduceOption_nil, maxBy,
    List.foldl_cons, Option.some.injEq] at found
  split at found
  · rename_i greater
    rw [← found]
    exact (max_eq_left (Nat.le_of_lt (compare_gt_iff_gt.mp greater))).symm
  · rename_i notGreater
    rw [← found]
    exact (max_eq_right (not_lt.mp fun less =>
      notGreater (compare_gt_iff_gt.mpr less))).symm

theorem determineEthflowRefundIndexingStart_eq {settlement : Nat}
    (row : startup.lastIndexedBlocks Startup.refundIndexName = .ok (some recorded))
    (positive : 0 < recorded)
    (settled : startup.lastIndexedBlocks Startup.settlementIndexName = .ok (some settlement))
    (returned : startup.determineEthflowRefundIndexingStart none fallback chainId = .ok block) :
    block.1 = max recorded (startup.settlementStart settlement chainId) := by
  simp only [Startup.determineEthflowRefundIndexingStart, bind_eq_ok_iff,
    expectOk_eq_ok_iff, expect_eq_ok_iff] at returned
  obtain ⟨_, ownFound, _, otherFound, latest⟩ := returned
  obtain ⟨_, rfl, ownNumber⟩ := findIndexingStartBlock_of_recorded row positive ownFound
  obtain ⟨_, rfl, otherNumber⟩ := findIndexingStartBlock_settlement settled otherFound
  rw [fst_maxBy_pair latest, ownNumber, otherNumber]

variable [DecidableEq Hash] {tree : BlockTree Hash}

/-- A handler that goes on after its recorded block leaves nothing out. -/
theorem coversAbove_new : CoversAbove tree store.lastIndexedBlock
      (EventHandler.new store none) := by
  intro call _ success number above known
  obtain ⟨reached, planned⟩ := EventHandling.eventBlockRange_planned_of_empty rfl success
  have covered : ∀ start, start ≤ number →
      ∃ block ∈ tree.blocks call.tip start (tree.number call.tip + 1), block.1 = number := by
    intro start le
    exact ⟨(number, tree.hashAt call.tip number), BlockTree.mem_blocks_iff.mpr
      ⟨le, Nat.lt_succ_of_le known, rfl⟩, rfl⟩
  rcases planned.goOn_or_replay (List.mem_singleton_self _) reached rfl with
    ⟨-, rfl⟩ | ⟨history, start, -, -, rfl⟩
  · exact Or.inr (covered _ above)
  · rcases Nat.lt_or_ge history.stop number with later | earlier
    · exact Or.inr (covered _ later)
    · refine Or.inl ⟨history, rfl, ?_, earlier⟩
      rw [start]
      exact (EventHandling.reorgStart_le _).trans (Nat.le_of_lt above)

/-- The handler of the orders starts at the block it has recorded. -/
theorem onchainOrderIndexer_covers (row : startup.lastIndexedBlocks Startup.onchainOrderIndexName =
      .ok (some store.lastIndexedBlock)) (positive : 0 < store.lastIndexedBlock)
    (created : startup.onchainOrderIndexer call store none fallback chainId = .ok handler) :
    startBlock handler = store.lastIndexedBlock ∧
      CoversAbove tree store.lastIndexedBlock handler := by
  simp only [Startup.onchainOrderIndexer, Startup.determineEthflowIndexingStart,
    bind_eq_ok_iff, expectOk_eq_ok_iff, expect_eq_ok_iff] at created
  obtain ⟨_, ⟨_, returned, same⟩, made⟩ := created
  obtain ⟨_, rfl, number⟩ := findIndexingStartBlock_of_recorded row positive returned
  obtain rfl := Option.some.inj same
  obtain ⟨starts, continues⟩ := newSkipBlocksBefore_cases made
  rw [number, max_self] at starts
  rw [continues (le_of_eq number)]
  rw [continues (le_of_eq number)] at starts
  exact ⟨starts, coversAbove_new⟩

/-- The handler of the refunds goes on after its recorded block exactly when the
settlement indexer is not ahead of it. -/
theorem refundEventHandler_covers_iff (startup : Startup Hash)
    (call : EventHandling.Call Hash) (store : Store Event)
    (handler : EventHandler Hash Event) (tree : BlockTree Hash)
    (settlement chainId : Nat) (fallback : Option Nat)
    (row : startup.lastIndexedBlocks Startup.refundIndexName = .ok (some store.lastIndexedBlock))
    (positive : 0 < store.lastIndexedBlock)
    (settled : startup.lastIndexedBlocks Startup.settlementIndexName = .ok (some settlement))
    (created : startup.refundEventHandler call store none fallback chainId = .ok handler) :
    startBlock handler ≤ store.lastIndexedBlock ∧ CoversAbove tree store.lastIndexedBlock handler ↔
      startup.settlementStart settlement chainId ≤ store.lastIndexedBlock := by
  rw [Startup.refundEventHandler, bind_eq_ok_iff] at created
  obtain ⟨_, returned, made⟩ := created
  obtain ⟨starts, continues⟩ := newSkipBlocksBefore_cases (expectOk_eq_ok_iff.mp made)
  have number := determineEthflowRefundIndexingStart_eq row positive settled returned
  rw [number] at starts continues
  constructor
  · intro covered
    have notAhead := covered.1
    omega
  · intro notAhead
    have here := continues (max_le (le_refl _) notAhead)
    refine ⟨?_, here ▸ coversAbove_new⟩
    omega

end

/-! ## An indexer that has fallen behind -/

def startupAt (settlement : Nat) : Startup (Nat × Bool) where
  lastIndexedBlocks name := if name = Startup.refundIndexName then .ok (some 1)
    else if name = Startup.settlementIndexName then .ok (some settlement)
    else .ok none
  blockByNumber number := some (number, false)
  deploymentBlock _ := some 0

def startupCall : EventHandling.Call (Nat × Bool) := ⟨(3, false), fun _ => false, none⟩

def secondBlockRefund (hash : Nat × Bool) : List String :=
  if hash = (2, false) then ["refund"] else []

theorem refundEventHandler_covers_side_by_side : ∃ handler : EventHandler (Nat × Bool) String,
      (startupAt 1).refundEventHandler startupCall ⟨[], 1⟩ none none 1 = .ok handler ∧
        CoversAbove forkedTree 1 handler := by
  refine ⟨EventHandler.new ⟨[], 1⟩ none, rfl, ?_⟩
  exact ((refundEventHandler_covers_iff (startupAt 1) startupCall ⟨[], 1⟩ _ forkedTree 1
    1 none rfl Nat.one_pos rfl rfl).mpr (by decide)).2

theorem onchainOrderIndexer_covers_again :
    let startup := { startupAt 1 with lastIndexedBlocks _ := .ok (some 1) }
    ∃ handler : EventHandler (Nat × Bool) String,
      startup.onchainOrderIndexer startupCall ⟨[], 1⟩ none none 1 = .ok handler ∧
        startBlock handler = 1 ∧ CoversAbove forkedTree 1 handler := by
  intro startup
  have created : startup.onchainOrderIndexer startupCall ⟨[], 1⟩ none none 1 =
    .ok (EventHandler.new (⟨[], 1⟩ : Store String) none) := rfl
  exact ⟨_, created, onchainOrderIndexer_covers rfl Nat.one_pos created⟩

/-- Settlements are indexed up to block 2, so the refund of that block is neither
stored by the first update nor ever looked for again. -/
theorem refundEventHandler_skips_refund : ∃ handler : EventHandler (Nat × Bool) String,
      (startupAt 2).refundEventHandler startupCall ⟨[], 1⟩ none none 1 = .ok handler ∧
      ¬ startBlock handler ≤ 1 ∧
      (handler.updateEvents forkedTree secondBlockRefund startupCall).1 = .ok () ∧
      (handler.updateEvents forkedTree secondBlockRefund startupCall).2.store = ⟨[], 3⟩ ∧
      forkedTree.recorded secondBlockRefund (3, false) 0 4 = [(2, "refund")] :=
  ⟨EventHandler.new ⟨[], 1⟩ (some (2, (2, false))), rfl, by decide, by decide +kernel,
    by decide +kernel, by decide +kernel⟩

end MandateSolver.Autopilot
