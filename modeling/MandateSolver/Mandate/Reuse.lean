import MandateSolver.Mandate.Candidates

/-!
# Fills that use an entry twice

Every hop is priced on the untouched snapshot.  A pool of several tokens serves several
pairs, so a fill may come back to it.
-/

namespace MandateSolver.Mandate

open List

/-- No liquidity is used twice. -/
def Fill.NoReuse (fill : Fill) : Prop :=
  (fill.segments.map (·.liquidity)).Nodup

instance : DecidablePred Fill.NoReuse :=
  fun fill => inferInstanceAs (Decidable (fill.segments.map (·.liquidity)).Nodup)

/-- Every path that would use some id twice, at or above the floor, is beaten
by another path. -/
def ReuseBeaten (routing : Routing) (intent : Intent) (snapshot : Snapshot) : Prop :=
  ∀ rest offer, CandidatePath routing intent rest →
    offerAlong routing intent snapshot rest = some offer →
    intent.buy.amount ≤ offer.1 → ¬ offer.2.Nodup →
    Beaten routing intent snapshot offer

section

variable {order : RunOrder} {routing : Routing} {intent : Intent} {snapshot : Snapshot}

/-- No run uses an entry twice exactly when no run returns anything, because a
pool cannot be represented, or when every path that would is beaten. -/
theorem solve_noReuse_iff (deterministic : QuoterDeterministic routing.uniV3QuoterV2) :
    (∀ order fill, solve order routing intent snapshot = .ok fill → fill.NoReuse) ↔
      ¬ Representable routing intent snapshot ∨ ReuseBeaten routing intent snapshot :=
  forall_solve_iff deterministic Nodup

end

/-! ## Entries that trade a single pair -/

/-- An entry that becomes pools for a single pair. -/
def TradesOnePair (quoter : Option UniswapV3QuoterV2) (entry : Liquidity) : Prop :=
  ∀ pools, (entry.boundaryPools quoter : Outcome Unit _) = .ok pools →
    ∀ pool ∈ pools, ∀ other ∈ pools, pool.tokenPair = other.tokenPair

section

variable {solver : Solver} {entries : List Liquidity} {quoter : Option UniswapV3QuoterV2}

section

variable (built : solver.BuiltFrom entries quoter) {pools : List OnchainLiquidity}
  {rest : List Address} {token : Address}
include built

/-- A simple path never trades a token pair twice. -/
theorem pairwise_tokenPair_of_along
    (along : Along solver.onchainLiquidity token rest pools) (simple : (token :: rest).Nodup) :
    pools.Pairwise (fun pool other => pool.tokenPair ≠ other.tokenPair) := by
  induction along with
  | nil => exact .nil
  | @cons token next rest first pools firstMember along ih =>
    obtain ⟨fresh, restSimple⟩ := nodup_cons.mp simple
    refine pairwise_cons.mpr ⟨?_, ih restSimple⟩
    intro pool mem _
    obtain ⟨target, targetMember, source, sourceMember, inMap⟩ := along.exists_between mem
    have matching := (built.mem_between.mp inMap).1
    have firstMatching := (built.mem_between.mp firstMember).1
    rw [TokenPair.new_eq_some_iff] at matching firstMatching
    have revisited : token = target ∨ token = source := by
      grind
    rcases revisited with rfl | rfl
    · exact fresh targetMember
    · exact fresh sourceMember

private theorem exists_entry_of_id (distinct : (entries.map (·.id)).Nodup)
    {target source otherTarget otherSource : Address} {pool other : OnchainLiquidity}
    (mem : pool ∈ solver.onchainLiquidity.between target source)
    (otherMem : other ∈ solver.onchainLiquidity.between otherTarget otherSource)
    (sameId : pool.id = other.id) :
    ∃ entry ∈ entries, ∃ pools, (entry.boundaryPools quoter : Outcome Unit _) = .ok pools ∧
        pool ∈ pools ∧ other ∈ pools := by
  obtain ⟨-, entry, entryMem, pools, converted, poolMem⟩ := built.mem_between.mp mem
  obtain ⟨-, otherEntry, otherEntryMember, _, otherConverted,
    otherPoolMember⟩ := built.mem_between.mp otherMem
  have sameEntry : entry = otherEntry := by
    apply inj_on_of_nodup_map distinct entryMem otherEntryMember
    rw [← Liquidity.id_of_mem_boundaryPools converted poolMem, sameId,
      Liquidity.id_of_mem_boundaryPools otherConverted otherPoolMember]
  subst sameEntry
  rw [converted] at otherConverted
  cases otherConverted
  exact ⟨entry, entryMem, pools, converted, poolMem, otherPoolMember⟩

/-- Entries that trade a single pair each are never used twice. -/
theorem nodup_ids_of_along (distinct : (entries.map (·.id)).Nodup)
    (onePair : ∀ entry ∈ entries, TradesOnePair quoter entry)
    (along : Along solver.onchainLiquidity token rest pools)
    (simple : (token :: rest).Nodup) : (pools.map (·.id)).Nodup := by
  apply pairwise_map.mpr
  refine (pairwise_tokenPair_of_along built along simple).imp_of_mem ?_
  intro pool other mem otherMem differentPair sameId
  obtain ⟨_, -, _, -, inMap⟩ := along.exists_between mem
  obtain ⟨_, -, _, -, otherInMap⟩ := along.exists_between otherMem
  obtain ⟨entry, entryMem, entryPools, converted, poolMem,
    otherPoolMember⟩ := exists_entry_of_id built distinct inMap otherInMap sameId
  exact differentPair (onePair entry entryMem entryPools converted pool
    poolMem other otherPoolMember)

end

end

theorem solve_noReuse_of_onePair {order : RunOrder} {routing : Routing}
    {intent : Intent} {snapshot : Snapshot} {fill : Fill}
    (deterministic : QuoterDeterministic routing.uniV3QuoterV2)
    (distinct : (snapshot.liquidity.map (·.id)).Nodup)
    (onePair : ∀ entry ∈ allowedLiquidity intent snapshot,
      TradesOnePair routing.uniV3QuoterV2 entry)
    (solved : solve order routing intent snapshot = .ok fill) : fill.NoReuse := by
  obtain ⟨_, route, solverOk, best, rfl⟩ := (solve_eq_ok_iff deterministic).mp solved
  obtain ⟨built, -⟩ := solverOf_eq_ok solverOk
  obtain ⟨_, pools, isCandidate, -, -, -, replays⟩ :=
    exists_candidatePath deterministic solverOk best.mem
  have allowedDistinct : ((allowedLiquidity intent snapshot).map (·.id)).Nodup :=
    distinct.sublist (filter_sublist.map _)
  have ids : (toFill snapshot route).segments.map (·.liquidity) = pools.map (·.id) := by
    rw [← replays.pathKey_eq]
    simp [toFill, toSegment, pathKey]
  rw [Fill.NoReuse, ids]
  exact nodup_ids_of_along built allowedDistinct onePair replays.along isCandidate.nodup

theorem solve_noReuse_of_onePair_two_orders :
    let snapshot : Snapshot := ⟨"node", 17,
      [limitOrderEntry "a" 7 ⟨100, 1⟩ ⟨300, 9⟩, limitOrderEntry "b" 7 ⟨150, 9⟩ ⟨75, 2⟩]⟩
    ∃ fill, solve .inserted ⟨9, [], 1, none⟩ ⟨⟨50, 1⟩, ⟨60, 2⟩, [7]⟩ snapshot = .ok fill ∧
      fill.segments.length = 2 ∧ fill.NoReuse := by
  intro snapshot
  have solved : solve .inserted ⟨9, [], 1, none⟩ ⟨⟨50, 1⟩, ⟨60, 2⟩, [7]⟩ snapshot = .ok
      ⟨[⟨"a", ⟨50, 1⟩, ⟨150, 9⟩⟩, ⟨"b", ⟨150, 9⟩, ⟨75, 2⟩⟩], 75, 132716, "node", 17⟩ := by
    decide +kernel
  refine ⟨_, solved, rfl, solve_noReuse_of_onePair (by simp [QuoterDeterministic]) (by decide)
    (fun entry listed pools converted => ?_) solved⟩
  have known := mem_of_mem_filter listed
  simp only [mem_cons, not_mem_nil, or_false, snapshot] at known
  obtain rfl | rfl := known <;> cases converted <;> simp

/-! ## A pool that is used twice -/

/-- A stable pool of four tokens, and an order between two of them that pays
ten times as much as the pool. -/
def stableDetour (firstReserve secondReserve : U256) : Snapshot :=
  ⟨"node", 17, [⟨"stable", 7, none, .stable ⟨⟨[⟨⟨firstReserve, 1⟩, unitScale⟩,
        ⟨⟨secondReserve, 2⟩, unitScale⟩,
        ⟨⟨30000000, 3⟩, unitScale⟩,
        ⟨⟨5000000, 4⟩, unitScale⟩], by simp⟩,
      Rational.ofInteger 10, Rational.ofInteger 0⟩⟩,
    limitOrderEntry "order" 7 ⟨1000000, 2⟩ ⟨10000000, 3⟩]⟩

def stableDetourFill : Fill :=
  ⟨[⟨"stable", ⟨300000, 1⟩, ⟨235522, 2⟩⟩, ⟨"order", ⟨235522, 2⟩, ⟨2355220, 3⟩⟩,
      ⟨"stable", ⟨2355220, 3⟩, ⟨931348, 4⟩⟩],
    931348, 433398, "node", 17⟩

private theorem stableDetour_solved :
    solve .inserted ⟨9, [2, 3], 2, none⟩ ⟨⟨300000, 1⟩, ⟨931348, 4⟩, [7]⟩
      (stableDetour 1000000 1000000) = .ok stableDetourFill := by
  decide +kernel

/-- The fill comes back to the stable pool.  With the reserves its first hop
leaves behind, the pool pays less for the last hop than the fill reports. -/
theorem solve_stableDetour : ((stableDetour 1000000 1000000).liquidity.map (·.id)).Nodup ∧
    solve .inserted ⟨9, [2, 3], 2, none⟩ ⟨⟨300000, 1⟩, ⟨931348, 4⟩, [7]⟩
      (stableDetour 1000000 1000000) = .ok stableDetourFill ∧
    ¬ stableDetourFill.NoReuse ∧
    (stableDetour (1000000 + 300000) (1000000 - 235522)).liquidity.head?.map
      (fun entry => entry.getAmountOut none .any 4 2355220 3) = some (.ok 929183) :=
  ⟨by decide, stableDetour_solved, by decide, by decide +kernel⟩

/-- No other path beats the one that comes back to the pool. -/
theorem stableDetour_not_reuseBeaten : QuoterDeterministic none ∧
    ¬ ReuseBeaten ⟨9, [2, 3], 2, none⟩ ⟨⟨300000, 1⟩, ⟨931348, 4⟩, [7]⟩
      (stableDetour 1000000 1000000) := by
  have deterministic : QuoterDeterministic none := by
    simp [QuoterDeterministic]
  refine ⟨deterministic, fun beaten => ?_⟩
  have noReuse := (solve_noReuse_iff deterministic).mpr (Or.inr beaten)
    .inserted stableDetourFill stableDetour_solved
  exact absurd noReuse (by decide)

end MandateSolver.Mandate
