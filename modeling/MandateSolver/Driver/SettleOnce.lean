import MandateSolver.Driver.Competition

/-!
# A solution is settled at most once

A solution is held by the solve call that found it or is in a cache.  Settling or voiding it
takes it out of that place for good.
-/

namespace MandateSolver.Driver.Competition

open List

/-! ## Where a solution is -/

variable {solutionId : Nat} {σ : Type} {queueSize : σ → Nat}

namespace Ledger

section

variable {ledger next : Ledger σ} {solver : σ}

/-- The id is solved, cached or watched for the solver. -/
def Knows (ledger : Ledger σ) (solver : σ) (solutionId : Nat) : Prop :=
  (∃ settlement, (solver, settlement) ∈ ledger.solved ∧ settlement.solution.id = solutionId) ∨
    (∃ settlement ∈ ledger.settlements solver, settlement.solution.id = solutionId) ∨
    (solver, solutionId) ∈ ledger.watched

/-- A solution is not stored yet or in one cache, but not both. -/
structure Consistent (ledger : Ledger σ) : Prop where
  below : ∀ solver solutionId, ledger.Knows solver solutionId → solutionId < ledger.handedOut
  oneSolver : ∀ solver other solutionId, ledger.Knows solver solutionId →
    ledger.Knows other solutionId → solver = other
  solvedOnce : (ledger.solved.map (·.2.solution.id)).Nodup
  cachedOnce : ∀ solver, ((ledger.settlements solver).map (·.solution.id)).Nodup
  solvedOnly : ∀ solver settlement, (solver, settlement) ∈ ledger.solved →
    settlement.solution.id ∉ (ledger.settlements solver).map (·.solution.id) ∧
      (solver, settlement.solution.id) ∉ ledger.watched

/-- A solution that can no longer be settled. -/
structure Gone (ledger : Ledger σ) (solutionId : Nat) : Prop where
  below : solutionId < ledger.handedOut
  notSolved : ∀ entry ∈ ledger.solved, entry.2.solution.id ≠ solutionId
  notCached : ∀ solver, ∀ settlement ∈ ledger.settlements solver,
    settlement.solution.id ≠ solutionId

/-- Settlements may be dropped, and nothing is added. -/
structure Shrinks (ledger next : Ledger σ) : Prop where
  handedOut : next.handedOut = ledger.handedOut
  solved : next.solved = ledger.solved
  watched : next.watched ⊆ ledger.watched
  settlements : ∀ solver, ∃ dropped,
    (ledger.settlements solver).Perm (dropped ++ next.settlements solver)

namespace Shrinks

section

variable (shrinks : Shrinks ledger next)
include shrinks

theorem cached {settlement : Settlement} (mem : settlement ∈ next.settlements solver) :
    settlement ∈ ledger.settlements solver := by
  obtain ⟨dropped, permutes⟩ := shrinks.settlements solver
  exact permutes.mem_iff.mpr (mem_append_right dropped mem)

theorem knows (known : next.Knows solver solutionId) : ledger.Knows solver solutionId := by
  rcases known with ⟨settlement, mem, same⟩ | ⟨settlement, mem, same⟩ | mem
  · exact Or.inl ⟨settlement, shrinks.solved ▸ mem, same⟩
  · exact Or.inr (Or.inl ⟨settlement, shrinks.cached mem, same⟩)
  · exact Or.inr (Or.inr (shrinks.watched mem))

theorem consistent (consistent : ledger.Consistent) : next.Consistent where
  below solver solutionId known := by
    rw [shrinks.handedOut]
    exact consistent.below solver solutionId (shrinks.knows known)
  oneSolver solver other solutionId known alsoKnown :=
    consistent.oneSolver solver other solutionId (shrinks.knows known) (shrinks.knows alsoKnown)
  solvedOnce := shrinks.solved ▸ consistent.solvedOnce
  cachedOnce solver := by
    obtain ⟨_, permutes⟩ := shrinks.settlements solver
    have once := (permutes.map (·.solution.id)).nodup_iff.mp (consistent.cachedOnce solver)
    rw [map_append] at once
    exact (nodup_append.mp once).2.1
  solvedOnly solver settlement mem := by
    obtain ⟨notCached, notWatched⟩ := consistent.solvedOnly solver settlement (shrinks.solved ▸ mem)
    refine ⟨?_, fun watched => notWatched (shrinks.watched watched)⟩
    intro cachedId
    obtain ⟨cached, cachedMember, same⟩ := mem_map.mp cachedId
    exact notCached (mem_map.mpr ⟨cached, shrinks.cached cachedMember, same⟩)

theorem gone (gone : ledger.Gone solutionId) : next.Gone solutionId where
  below := shrinks.handedOut ▸ gone.below
  notSolved := shrinks.solved ▸ gone.notSolved
  notCached solver settlement mem := gone.notCached solver settlement (shrinks.cached mem)

end

end Shrinks

theorem knows_of_draw {other : σ} {auctionId : Int} {mergedSolutions : List Nat}
    {internalized uninternalized : List UInt8} (fits : ledger.handedOut < 2 ^ 64)
    (known : (ledger.draw solver auctionId mergedSolutions internalized
      uninternalized).Knows other solutionId) :
    ledger.Knows other solutionId ∨ other = solver ∧ solutionId = ledger.handedOut := by
  rcases known with ⟨settlement, mem, same⟩ | cached | watched
  · rcases mem_cons.mp mem with new | old
    · cases new
      exact Or.inr ⟨rfl, same.symm.trans (Nat.mod_eq_of_lt fits)⟩
    · exact Or.inl (Or.inl ⟨settlement, old, same⟩)
  · exact Or.inl (Or.inr (Or.inl cached))
  · exact Or.inl (Or.inr (Or.inr watched))

theorem Consistent.draw (consistent : ledger.Consistent)
    (fits : ledger.handedOut < 2 ^ 64) (solver : σ) (auctionId : Int)
    (mergedSolutions : List Nat) (internalized uninternalized : List UInt8) :
    (ledger.draw solver auctionId mergedSolutions internalized uninternalized).Consistent where
  below other solutionId known := by
    rcases knows_of_draw fits known with old | ⟨-, rfl⟩
    · exact Nat.lt_succ_of_lt (consistent.below other solutionId old)
    · exact Nat.lt_succ_self _
  oneSolver other third solutionId known alsoKnown := by
    rcases knows_of_draw fits known with old | ⟨rfl, rfl⟩ <;>
      rcases knows_of_draw fits alsoKnown with alsoOld | ⟨rfl, new⟩
    · exact consistent.oneSolver other third solutionId old alsoOld
    · exact absurd (consistent.below other solutionId old) (new ▸ Nat.lt_irrefl _)
    · exact absurd (consistent.below third _ alsoOld) (Nat.lt_irrefl _)
    · rfl
  solvedOnce := by
    refine nodup_cons.mpr ⟨?_, consistent.solvedOnce⟩
    intro repeated
    obtain ⟨⟨other, settlement⟩, mem, same⟩ := mem_map.mp repeated
    have old := consistent.below other _ (Or.inl ⟨settlement, mem, same⟩)
    simp only [Nat.mod_eq_of_lt fits] at old
    exact absurd old (Nat.lt_irrefl _)
  cachedOnce := consistent.cachedOnce
  solvedOnly other settlement mem := by
    rcases mem_cons.mp mem with new | old
    · cases new
      have unknown : ¬ledger.Knows solver (ledger.handedOut % 2 ^ 64) := by
        intro known
        have old := consistent.below solver _ known
        rw [Nat.mod_eq_of_lt fits] at old
        exact absurd old (Nat.lt_irrefl _)
      refine ⟨?_, fun watched => unknown (Or.inr (Or.inr watched))⟩
      intro cachedId
      obtain ⟨cached, cachedMember, same⟩ := mem_map.mp cachedId
      exact unknown (Or.inr (Or.inl ⟨cached, cachedMember, same⟩))
    · exact consistent.solvedOnly other settlement old

theorem Gone.draw (gone : ledger.Gone solutionId)
    (fits : ledger.handedOut < 2 ^ 64) (solver : σ) (auctionId : Int)
    (mergedSolutions : List Nat) (internalized uninternalized : List UInt8) :
    (ledger.draw solver auctionId mergedSolutions internalized uninternalized).Gone solutionId := by
  refine ⟨Nat.lt_succ_of_lt gone.below, ?_, gone.notCached⟩
  intro entry mem
  rcases mem_cons.mp mem with rfl | old
  · have below := gone.below
    simp only [Nat.mod_eq_of_lt fits]
    omega
  · exact gone.notSolved entry old

theorem Gone.reveal (gone : ledger.Gone solutionId) (solver : σ) (auctionId : Int) :
    ledger.reveal solver solutionId auctionId = .error .solutionNotAvailable := by
  have missing : (ledger.settlements solver).find?
      (SettlementCache.hasIds id auctionId solutionId) = none := by
    apply List.find?_eq_none.mpr
    intro settlement mem found
    have named : settlement.solution.id = solutionId := by
      simp [SettlementCache.hasIds] at found
      exact found.1
    exact gone.notCached solver settlement mem named
  unfold Ledger.reveal
  rw [missing]

end

section

variable [DecidableEq σ] {ledger next : Ledger σ} {solver : σ}

theorem shrinks_setCache {cache : List Settlement} (dropped : List Settlement)
    (permutes : (ledger.settlements solver).Perm (dropped ++ cache)) :
    Shrinks ledger (ledger.setCache solver cache) where
  handedOut := rfl
  solved := rfl
  watched := List.Subset.refl _
  settlements other := by
    by_cases same : other = solver
    · subst same
      refine ⟨dropped, ?_⟩
      simpa [setCache] using permutes
    · refine ⟨[], ?_⟩
      simp [setCache, same]

theorem shrinks_void (ledger : Ledger σ) (solver : σ) (solutionId : Nat) :
    Shrinks ledger (ledger.void solver solutionId) := by
  have split := filter_append_perm (fun settlement => settlement.solution.id ≠ solutionId)
    (ledger.settlements solver)
  have cacheOnly := shrinks_setCache _ (perm_append_comm.trans split).symm
  exact
    { handedOut := rfl
      solved := rfl
      watched := erase_subset
      settlements := cacheOnly.settlements }

variable {settlement : Settlement} {other : σ}

theorem cached_of_store {cached : Settlement}
    (mem : cached ∈ (ledger.store solver settlement).settlements other) :
    other = solver ∧ cached = settlement ∨ cached ∈ ledger.settlements other := by
  by_cases same : other = solver
  · subst same
    simp only [Ledger.store, Function.update_self] at mem
    rcases mem_cons.mp (mem_of_mem_take mem) with new | old
    · exact Or.inl ⟨rfl, new⟩
    · exact Or.inr old
  · simp only [Ledger.store, Function.update_of_ne same] at mem
    exact Or.inr mem

theorem knows_of_store (mem : (solver, settlement) ∈ ledger.solved)
    (known : (ledger.store solver settlement).Knows other solutionId) :
    ledger.Knows other solutionId := by
  rcases known with ⟨held, heldMember, same⟩ | ⟨cached, cachedMember, same⟩ | watched
  · exact Or.inl ⟨held, mem_of_mem_erase heldMember, same⟩
  · rcases cached_of_store cachedMember with ⟨rfl, rfl⟩ | old
    · exact Or.inl ⟨cached, mem, same⟩
    · exact Or.inr (Or.inl ⟨cached, old, same⟩)
  · rcases mem_cons.mp watched with new | old
    · cases new
      exact Or.inl ⟨settlement, mem, rfl⟩
    · exact Or.inr (Or.inr old)

theorem Consistent.id_ne_of_mem_erase (consistent : ledger.Consistent) {entry : σ × Settlement}
    (mem : (solver, settlement) ∈ ledger.solved)
    (remaining : entry ∈ ledger.solved.erase (solver, settlement)) :
    entry.2.solution.id ≠ settlement.solution.id := by
  have permutes := perm_cons_erase mem
  have once := (permutes.map (·.2.solution.id)).nodup_iff.mp consistent.solvedOnce
  intro same
  exact (nodup_cons.mp once).1 (mem_map.mpr ⟨entry, remaining, same⟩)

theorem Consistent.store (consistent : ledger.Consistent)
    (mem : (solver, settlement) ∈ ledger.solved) :
    (ledger.store solver settlement).Consistent where
  below other solutionId known := consistent.below other solutionId (knows_of_store mem known)
  oneSolver other third solutionId known alsoKnown :=
    consistent.oneSolver other third solutionId (knows_of_store mem known)
      (knows_of_store mem alsoKnown)
  solvedOnce := (List.Sublist.map _ List.erase_sublist).nodup consistent.solvedOnce
  cachedOnce other := by
    by_cases same : other = solver
    · subst same
      have all := nodup_cons.mpr ⟨(consistent.solvedOnly _ _ mem).1, consistent.cachedOnce other⟩
      simp only [Ledger.store, Function.update_self]
      exact ((take_sublist _ _).map _).nodup all
    · simp only [Ledger.store, Function.update_of_ne same]
      exact consistent.cachedOnce other
  solvedOnly other remaining remainingMember := by
    have ne := consistent.id_ne_of_mem_erase mem remainingMember
    obtain ⟨notCached, notWatched⟩ := consistent.solvedOnly other remaining
      (mem_of_mem_erase remainingMember)
    refine ⟨?_, ?_⟩
    · intro cachedId
      obtain ⟨cached, cachedMember, same⟩ := mem_map.mp cachedId
      rcases cached_of_store cachedMember with ⟨-, rfl⟩ | old
      · exact ne same.symm
      · exact notCached (mem_map.mpr ⟨cached, old, same⟩)
    · intro watched
      rcases mem_cons.mp watched with new | old
      · exact ne (Prod.ext_iff.mp new).2
      · exact notWatched old

theorem Gone.store (gone : ledger.Gone solutionId) (mem : (solver, settlement) ∈ ledger.solved) :
    (ledger.store solver settlement).Gone solutionId := by
  refine ⟨gone.below, ?_, ?_⟩
  · intro entry remaining
    exact gone.notSolved entry (mem_of_mem_erase remaining)
  · intro other cached cachedMember
    rcases cached_of_store cachedMember with ⟨-, rfl⟩ | old
    · exact gone.notSolved _ mem
    · exact gone.notCached other cached old

theorem Consistent.gone_of_void (consistent : ledger.Consistent)
    (mem : (solver, solutionId) ∈ ledger.watched) :
    (ledger.void solver solutionId).Gone solutionId := by
  have known : ledger.Knows solver solutionId := Or.inr (Or.inr mem)
  refine ⟨consistent.below solver solutionId known, ?_, ?_⟩
  · rintro ⟨other, settlement⟩ solved rfl
    have alsoKnown : ledger.Knows other settlement.solution.id := Or.inl ⟨settlement, solved, rfl⟩
    cases consistent.oneSolver _ _ _ known alsoKnown
    exact (consistent.solvedOnly _ _ solved).2 mem
  · rintro other settlement cached rfl
    have stillCached := (shrinks_void ledger solver _).cached cached
    have alsoKnown : ledger.Knows other settlement.solution.id :=
      Or.inr (Or.inl ⟨settlement, stillCached, rfl⟩)
    cases consistent.oneSolver _ _ _ known alsoKnown
    simp [void, SettlementCache.retainOthers] at cached

theorem Consistent.gone_of_remove (consistent : ledger.Consistent) {rest : List Settlement}
    (permutes : (ledger.settlements solver).Perm (settlement :: rest)) :
    (ledger.setCache solver rest).Gone settlement.solution.id := by
  have mem := permutes.mem_iff.mpr mem_cons_self
  have known : ledger.Knows solver settlement.solution.id := Or.inr (Or.inl ⟨settlement, mem, rfl⟩)
  refine ⟨consistent.below _ _ known, ?_, ?_⟩
  · rintro ⟨other, held⟩ solved same
    have alsoKnown : ledger.Knows other settlement.solution.id := Or.inl ⟨held, solved, same⟩
    cases consistent.oneSolver _ _ _ known alsoKnown
    exact (consistent.solvedOnly _ _ solved).1 (mem_map.mpr ⟨settlement, mem, same.symm⟩)
  · intro other cached cachedMember same
    have stillCached := (shrinks_setCache [settlement] permutes).cached cachedMember
    have alsoKnown : ledger.Knows other settlement.solution.id :=
      Or.inr (Or.inl ⟨cached, stillCached, same⟩)
    cases consistent.oneSolver _ _ _ known alsoKnown
    have once := (permutes.map (·.solution.id)).nodup_iff.mp (consistent.cachedOnce solver)
    simp only [setCache, Function.update_self] at cachedMember
    exact (nodup_cons.mp once).1 (mem_map.mpr ⟨cached, cachedMember, same⟩)

/-- All that an action can do to the ledger, whether it draws an id, and what is
seen of it. -/
inductive Effect (queueSize : σ → Nat) (ledger : Ledger σ) :
    Bool → Ledger σ → Option (Event σ) → Prop where
  | quiet : Effect queueSize ledger false ledger none
  | draw (solver : σ) (auctionId : Int) (mergedSolutions : List Nat)
      (internalized uninternalized : List UInt8)
      (fits : ledger.handedOut < 2 ^ 64) :
      Effect queueSize ledger true (ledger.draw solver auctionId mergedSolutions internalized
        uninternalized) none
  | store {solver : σ} {settlement : Settlement} (mem : (solver, settlement) ∈ ledger.solved) :
      Effect queueSize ledger false (ledger.store solver settlement) none
  | void {solver : σ} {solutionId : Nat} (mem : (solver, solutionId) ∈ ledger.watched) :
      Effect queueSize ledger false (ledger.void solver solutionId) (some (.void solver solutionId))
  | refuse {solver : σ} {request : SettleRequest} {pending block : Nat} {error : Error}
      (refused : Event.NotAvailable queueSize (.settle solver request pending block
        (.error error))) :
      Effect queueSize ledger false ledger
        (some (.settle solver request pending block (.error error)))
  | submit {solver : σ} {request : SettleRequest} {pending block : Nat}
      {settlement : Settlement} {rest : List Settlement}
      (found : SettlementCache.remove id request.auctionId request.solutionId
        (ledger.settlements solver) = some (settlement, rest)) :
      Effect queueSize ledger false (ledger.setCache solver rest)
        (some (.settle solver request pending block (.ok settlement)))
  | reveal (solver : σ) (solutionId : Nat) (auctionId : Int) :
      Effect queueSize ledger false ledger (some (.reveal solver solutionId auctionId
        (ledger.reveal solver solutionId auctionId)))

namespace Effect

variable {drawn : Bool} {event : Option (Event σ)}

section

variable (effect : Effect queueSize ledger drawn next event)
include effect

theorem handedOut : next.handedOut = ledger.handedOut + drawn.toNat := by
  cases effect <;> rfl

theorem consistent (consistent : ledger.Consistent) : next.Consistent := by
  cases effect with
  | quiet => exact consistent
  | draw solver auctionId mergedSolutions internalized uninternalized fits =>
    exact consistent.draw fits ..
  | store mem => exact consistent.store mem
  | void mem => exact (shrinks_void ..).consistent consistent
  | refuse refused => exact consistent
  | submit found =>
    exact (shrinks_setCache [_] (SettlementCache.remove_perm found)).consistent consistent
  | reveal solver solutionId auctionId => exact consistent

theorem gone (gone : ledger.Gone solutionId) : next.Gone solutionId := by
  cases effect with
  | quiet => exact gone
  | draw solver auctionId mergedSolutions internalized uninternalized fits =>
    exact gone.draw fits ..
  | store mem => exact gone.store mem
  | void mem => exact (shrinks_void ..).gone gone
  | refuse refused => exact gone
  | submit found =>
    exact (shrinks_setCache [_] (SettlementCache.remove_perm found)).gone gone
  | reveal solver solutionId auctionId => exact gone

end

variable {event : Event σ}

section

variable (effect : Effect queueSize ledger drawn next (some event))
include effect

theorem gone_of_ends (consistent : ledger.Consistent) (ends : event.Ends solutionId) :
    next.Gone solutionId := by
  cases effect with
  | void mem =>
    cases ends
    exact consistent.gone_of_void mem
  | refuse refused => exact ends.elim
  | submit found =>
    cases ends
    exact consistent.gone_of_remove (SettlementCache.remove_perm found)
  | reveal solver solutionId auctionId => exact ends.elim

theorem notAvailable (gone : ledger.Gone solutionId) (asks : event.AsksFor solutionId) :
    event.NotAvailable queueSize := by
  cases effect with
  | void mem => exact asks.elim
  | refuse refused => exact refused
  | @submit solver request _ _ settlement rest found =>
    cases asks
    have mem := (SettlementCache.remove_perm found).mem_iff.mpr mem_cons_self
    exact absurd (SettlementCache.remove_id found) (gone.notCached solver settlement mem)
  | @reveal solver _ auctionId =>
    cases asks
    exact gone.reveal solver auctionId

theorem asksFor_of_submits (submits : event.submits solutionId) : event.AsksFor solutionId := by
  cases effect with
  | void mem | refuse refused => cases submits
  | submit found =>
    exact (SettlementCache.remove_id found).symm.trans (of_decide_eq_true submits)
  | reveal solver solutionId auctionId => cases submits

end

end Effect

end

end Ledger

/-! ## Whole runs -/

namespace Event

variable {event : Event σ}

theorem ends_of_submits (submits : event.submits solutionId) : event.Ends solutionId := by
  match event with
  | .settle _ _ _ _ (.ok settlement) =>
    have named := of_decide_eq_true submits
    exact named

theorem available_of_submits (submits : event.submits solutionId) (queueSize : σ → Nat) :
    ¬event.NotAvailable queueSize := by
  match event with
  | .settle _ _ _ _ (.ok _) => simp [NotAvailable]

end Event

namespace Process

theorem consistent_start {σ : Type} : (start : Process σ).ledger.Consistent where
  below := by simp [start, Ledger.Knows]
  oneSolver := by simp [start, Ledger.Knows]
  solvedOnce := nodup_nil
  cachedOnce _ := nodup_nil
  solvedOnly := by simp [start]

/-- What is seen of a process in the course of its actions. -/
abbrev events {σ : Type} [DecidableEq σ] (queueSize : σ → Nat) (process : Process σ)
    (actions : List (Action σ)) : List (Event σ) :=
  Run.events (step queueSize) (observe queueSize) process actions

/-- The ids last for the actions to come. -/
def IdsLeft {σ : Type} (process : Process σ) (actions : List (Action σ)) : Prop :=
  process.ledger.handedOut + actions.countP Action.isDraw ≤ 2 ^ 64

theorem idsLeft_start {σ : Type} {actions : List (Action σ)}
    (fits : actions.countP Action.isDraw ≤ 2 ^ 64) : (start : Process σ).IdsLeft actions := by
  simpa [IdsLeft, start] using fits

section

variable [DecidableEq σ] {process : Process σ}

section

variable (process)
include process

theorem settle_effect (solver : σ) (request : SettleRequest) :
    process.ledger.Effect queueSize false (process.settle queueSize solver request).1.ledger
      (process.settle queueSize solver request).2 := by
  unfold settle
  split
  · exact .quiet
  · rename_i full
    exact .refuse (Or.inr (Or.inr ⟨rfl, not_lt.mp full⟩))

theorem receive_effect (solver : σ) :
    process.ledger.Effect queueSize false (process.receive solver).1.ledger
      (process.receive solver).2 := by
  unfold receive
  split
  · split
    · rename_i late
      exact .refuse (Or.inr (Or.inl ⟨rfl, late⟩))
    · exact .quiet
  · exact .quiet

theorem remove_effect (solver : σ) :
    process.ledger.Effect queueSize false (process.remove solver).1.ledger
      (process.remove solver).2 := by
  unfold remove
  split
  · split
    · exact .submit (by assumption)
    · exact .refuse (Or.inl rfl)
  · exact .quiet

theorem ledger_finish (solver : σ) : (process.finish solver).ledger = process.ledger := by
  unfold finish
  split <;> rfl

theorem act_effect (action : Action σ) (fits : action.isDraw → process.ledger.handedOut < 2 ^ 64) :
    process.ledger.Effect queueSize action.isDraw (process.step queueSize action).ledger
      (process.observe queueSize action) := by
  cases action with
  | draw solver auctionId mergedSolutions internalized uninternalized =>
    exact .draw solver auctionId mergedSolutions internalized uninternalized (fits rfl)
  | store solver settlement =>
    unfold step observe act
    dsimp only
    split
    · exact .store (by assumption)
    · exact .quiet
  | void solver solutionId =>
    unfold step observe act
    dsimp only
    split
    · exact .void (by assumption)
    · exact .quiet
  | settle solver request => exact process.settle_effect solver request
  | receive solver => exact process.receive_effect solver
  | remove solver => exact process.remove_effect solver
  | finish solver =>
    have unchanged := process.ledger_finish solver
    show process.ledger.Effect queueSize false (process.finish solver).ledger none
    rw [unchanged]
    exact .quiet
  | reveal solver solutionId auctionId =>
    exact .reveal solver solutionId auctionId
  | newBlock number => exact .quiet

end

variable {actions : List (Action σ)} {action : Action σ}

theorem IdsLeft.effect (left : process.IdsLeft (action :: actions)) (queueSize : σ → Nat) :
    process.ledger.Effect queueSize action.isDraw (process.step queueSize action).ledger
      (process.observe queueSize action) := by
  apply act_effect
  intro draws
  unfold IdsLeft at left
  rw [countP_cons_of_pos draws] at left
  omega

theorem IdsLeft.step (left : process.IdsLeft (action :: actions))
    (queueSize : σ → Nat) : (process.step queueSize action).IdsLeft actions := by
  have counted := (left.effect queueSize).handedOut
  unfold IdsLeft at left ⊢
  rw [counted]
  cases drawn : action.isDraw <;> simp [drawn] at left ⊢ <;> omega

theorem notAvailable_of_gone {solutionId : Nat} (left : process.IdsLeft actions)
    (gone : process.ledger.Gone solutionId) :
    ∀ event ∈ events queueSize process actions,
      event.AsksFor solutionId → event.NotAvailable queueSize := by
  refine Run.forall_events (fun process actions =>
      process.IdsLeft actions ∧ process.ledger.Gone solutionId)
    ?_ ?_ ⟨left, gone⟩
  · rintro process action actions ⟨left, gone⟩
    exact ⟨left.step queueSize, (left.effect queueSize).gone gone⟩
  · rintro process action actions ⟨left, gone⟩ event seen
    have effect := left.effect queueSize
    rw [seen] at effect
    exact effect.notAvailable gone

theorem notAvailable_after_end (fits : actions.countP Action.isDraw ≤ 2 ^ 64) (solutionId : Nat) :
    (events queueSize start actions).Pairwise fun first later =>
      first.Ends solutionId → later.AsksFor solutionId → later.NotAvailable queueSize := by
  refine Run.pairwise_events (fun process actions =>
      process.IdsLeft actions ∧ process.ledger.Consistent)
    ?_ ?_ ⟨idsLeft_start fits, consistent_start⟩
  · rintro process action actions ⟨left, consistent⟩
    exact ⟨left.step queueSize, (left.effect queueSize).consistent consistent⟩
  · rintro process action actions ⟨left, consistent⟩ _ seen later mem ends
    have effect := left.effect queueSize
    rw [seen] at effect
    exact notAvailable_of_gone (left.step queueSize) (effect.gone_of_ends consistent ends) later mem

theorem asksFor_of_submits (left : process.IdsLeft actions) (solutionId : Nat) :
    ∀ event ∈ events queueSize process actions,
      event.submits solutionId → event.AsksFor solutionId := by
  refine Run.forall_events IdsLeft (fun _ _ _ left => left.step queueSize) ?_ left
  intro process _ actions left event seen submits
  have effect := left.effect queueSize
  rw [seen] at effect
  exact effect.asksFor_of_submits submits

end

/-- At most one settle request for a solution is handed to the mempools.  Once
a solution is settled or voided, it can neither be revealed nor settled: a later
request is refused for want of it, or sooner by a full queue or its deadline. -/
theorem settles_once {σ : Type} [DecidableEq σ] (queueSize : σ → Nat) (actions : List (Action σ))
    (fits : actions.countP Action.isDraw ≤ 2 ^ 64) (solutionId : Nat) :
    ((events queueSize start actions).filter (Event.submits solutionId)).length ≤ 1 ∧
      (events queueSize start actions).Pairwise fun first later =>
        first.Ends solutionId → later.AsksFor solutionId → later.NotAvailable queueSize := by
  have pairwise : (events queueSize start actions).Pairwise _ :=
    notAvailable_after_end fits solutionId
  refine ⟨?_, pairwise⟩
  have left := idsLeft_start fits
  have submitting := pairwise.filter (Event.submits solutionId)
  have mem : ∀ event ∈ (events queueSize start actions).filter (Event.submits solutionId),
        event.submits solutionId ∧ event.AsksFor solutionId := by
    intro event kept
    obtain ⟨inTrace, submits⟩ := mem_filter.mp kept
    exact ⟨submits, asksFor_of_submits left solutionId event inTrace submits⟩
  generalize (events queueSize start actions).filter (Event.submits solutionId) = submissions
    at submitting mem ⊢
  match submissions with
  | [] => exact Nat.zero_le 1
  | [_] => exact Nat.le_refl 1
  | first :: second :: _ =>
    obtain ⟨firstSubmits, -⟩ := mem first (by simp)
    obtain ⟨secondSubmits, secondAsks⟩ := mem second (by simp)
    have refused := (pairwise_cons.mp submitting).1 second
      mem_cons_self (Event.ends_of_submits firstSubmits) secondAsks
    exact absurd refused (Event.available_of_submits secondSubmits queueSize)

/-! ## Late requests and exhausted ids -/

def solvedAndSettled : List (Action Unit) :=
  [.draw () 1 [0] [] [], .store () ⟨1, ⟨0, [0]⟩, [], []⟩,
    .settle () ⟨1, 0, 10⟩, .receive (), .remove (), .finish ()]

def askedTwice : List (Action Unit) :=
  solvedAndSettled ++ [.newBlock 10, .settle () ⟨1, 0, 10⟩, .receive ()]

/-- The second request comes when its deadline has passed. -/
theorem settles_once_askedTwice :
    (events (fun _ => 2) start askedTwice).map Event.error = [none, some .deadlineExceeded] ∧
    ((events (fun _ => 2) start askedTwice).filter (Event.submits 0)).length ≤ 1 ∧
    (events (fun _ => 2) start askedTwice).Pairwise fun first later =>
      first.Ends 0 → later.AsksFor 0 → later.NotAvailable fun _ => 2 :=
  ⟨rfl, settles_once (fun _ => 2) askedTwice (by decide) 0⟩

theorem events_draws (process : Process Unit) (count : Nat) (actions : List (Action Unit)) :
    ∃ solved, events (fun _ => 2) process
        (List.replicate count (.draw () 1 [0] [] []) ++ actions) =
      events (fun _ => 2) { process with
          ledger := ⟨process.ledger.handedOut + count, solved,
            process.ledger.watched, process.ledger.settlements⟩ } actions := by
  induction count generalizing process with
  | zero => exact ⟨process.ledger.solved, rfl⟩
  | succ count ih =>
    obtain ⟨solved, followed⟩ := ih (process.step (fun _ => 2) (.draw () 1 [0] [] []))
    have counted : process.ledger.handedOut + 1 + count =
        process.ledger.handedOut + (count + 1) := by omega
    refine ⟨solved, followed.trans ?_⟩
    show Run.events _ _ { process with
      ledger := ⟨process.ledger.handedOut + 1 + count, solved,
        process.ledger.watched, process.ledger.settlements⟩ } _ = _
    rw [counted]

/-- With all ids used up, the first one is given out again. -/
theorem events_wrapped (solved : List (Unit × Settlement)) (watched : List (Unit × Nat)) :
    events (fun _ => 2)
        { ledger := ⟨2 ^ 64, solved, watched, fun _ => []⟩
          queue := fun _ => [], loop := fun _ => .idle, block := 0 }
        solvedAndSettled =
      [.settle () ⟨1, 0, 10⟩ 0 0 (.ok ⟨1, ⟨0, [0]⟩, [], []⟩)] := by
  simp [solvedAndSettled, Run.events, step, observe, act, Ledger.draw,
    Ledger.store, decided, settle, receive, remove, setQueue,
    setLoop, SettlementCache.remove, SettlementCache.position,
    SettlementCache.hasIds, SettlementCache.store, Deque.pushFront,
    SettlementCache.maxSolutionStorage, Deque.swapRemoveFront]

/-- A late request is refused for being late, and a solution is settled twice
if its id is given out twice. -/
theorem settles_lateOrWrapped : (¬(events (fun _ => 2) start askedTwice).Pairwise
        fun first later =>
          first.Ends 0 → later.AsksFor 0 → later.error = some .solutionNotAvailable) ∧
      ((events (fun _ => 2) start (solvedAndSettled ++
          (List.replicate (2 ^ 64 - 1) (.draw () 1 [0] [] []) ++
            solvedAndSettled))).filter (Event.submits 0)).length = 2 := by
  refine ⟨?_, ?_⟩
  · have trace : events (fun _ => 2) start askedTwice =
          [.settle () ⟨1, 0, 10⟩ 0 0 (.ok ⟨1, ⟨0, [0]⟩, [], []⟩),
            .settle () ⟨1, 0, 10⟩ 1 10 (.error .deadlineExceeded)] := rfl
    intro pairwise
    have answered := (pairwise_cons.mp pairwise).1 _ mem_cons_self rfl rfl
    cases answered
  · have first : events (fun _ => 2) start solvedAndSettled =
          [.settle () ⟨1, 0, 10⟩ 0 0 (.ok ⟨1, ⟨0, [0]⟩, [], []⟩)] := rfl
    obtain ⟨solved, drawn⟩ := events_draws
      (solvedAndSettled.foldl (step fun _ => 2) start) (2 ^ 64 - 1)
      solvedAndSettled
    have second := events_wrapped solved [((), 0)]
    unfold events at drawn ⊢
    rw [Run.events_append, drawn]
    exact congrArg (fun later =>
      ((.settle () ⟨1, 0, 10⟩ 0 0 (.ok ⟨1, ⟨0, [0]⟩, [], []⟩) :: later).filter
        (Event.submits 0)).length) second

end Process

end MandateSolver.Driver.Competition
