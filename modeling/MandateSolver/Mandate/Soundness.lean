import MandateSolver.Mandate.Solve

/-!
# A fill can be executed as reported

Each hop of a fill is what some allowed entry of the snapshot, with the reported id, pays
for that hop.
-/

namespace MandateSolver.Mandate

open List

/-- The segments of a fill are a route for the intent. -/
structure Sound (routing : Routing) (intent : Intent) (snapshot : Snapshot)
    (fill : Fill) : Prop where
  segments_ne_nil : fill.segments ≠ []
  length_le : fill.segments.length ≤ routing.maxHops + 1
  first_input : ∀ segment, fill.segments.head? = some segment → segment.input = intent.sell
  chained : fill.segments.IsChain (fun first second => first.output = second.input)
  last_output : ∀ segment, fill.segments.getLast? = some segment →
    segment.output = ⟨fill.expectedOut, intent.buy.token⟩
  tokens_nodup : (intent.sell.token :: fill.segments.map (·.output.token)).Nodup
  intermediate : ∀ token ∈ (fill.segments.map (·.output.token)).dropLast,
    token ∈ routing.baseTokens ∨ token = routing.weth
  floor : intent.buy.amount ≤ fill.expectedOut
  priced : ∀ segment ∈ fill.segments, ∃ entry ∈ snapshot.liquidity,
    entry.id = segment.liquidity ∧ entry.isVenue intent.allowedVenues = true ∧
      ∀ call, entry.getAmountOut routing.uniV3QuoterV2 call
        segment.output.token segment.input.amount segment.input.token = .ok segment.output.amount
  source_eq : fill.source = snapshot.source
  block_eq : fill.block = snapshot.block

theorem exists_entry_of_mem_between {routing : Routing} {intent : Intent}
    {snapshot : Snapshot} {solver : Solver}
    (built : solver.BuiltFrom (allowedLiquidity intent snapshot) routing.uniV3QuoterV2)
    (deterministic : QuoterDeterministic routing.uniV3QuoterV2)
    {target source : Address} {pool : OnchainLiquidity}
    (mem : pool ∈ solver.onchainLiquidity.between target source) {amount output : U256}
    (quoted : quoteOut pool target source amount = some output) :
    ∃ entry ∈ snapshot.liquidity, entry.id = pool.id ∧ entry.isVenue intent.allowedVenues = true ∧
      ∀ call, entry.getAmountOut routing.uniV3QuoterV2 call target amount source = .ok output := by
  obtain ⟨matching, entry, entryMem, _, converted, poolMem⟩ := built.mem_between.mp mem
  obtain ⟨inSnapshot, isVenue⟩ := mem_filter.mp entryMem
  refine ⟨entry, inSnapshot,
    (Liquidity.id_of_mem_boundaryPools converted poolMem).symm, isVenue, ?_⟩
  intro call
  rw [Liquidity.getAmountOut_of_mem converted poolMem matching,
    built.priced deterministic target source pool mem, quoted]
  rfl

theorem solve_sound {order : RunOrder} {routing : Routing} {intent : Intent}
    {snapshot : Snapshot} {fill : Fill} (deterministic : QuoterDeterministic routing.uniV3QuoterV2)
    (solved : solve order routing intent snapshot = .ok fill) :
    Sound routing intent snapshot fill := by
  obtain ⟨_, route, solverOk, best, rfl⟩ := (solve_eq_ok_iff deterministic).mp solved
  obtain ⟨built, tokens⟩ := solverOf_eq_ok solverOk
  obtain ⟨rest, _, simplePath, -, replays, nonempty, floor⟩ :=
    Solver.exists_replays_of_mem_sellFound built.consistent (built.priced deterministic) best.mem
  obtain ⟨middle, pathEq, inTokens, _⟩ := simplePath.exists_middle
  obtain rfl : rest = middle ++ [intent.buy.token] := (List.cons.inj pathEq).2
  have outputTokens : (route.segments.map toSegment).map (·.output.token) =
      middle ++ [intent.buy.token] := by
    rw [map_map]
    exact replays.outputTokens
  constructor
  case segments_ne_nil => simpa [toFill] using nonempty
  case length_le =>
    have lengths := congrArg List.length replays.outputTokens
    simp only [length_map, length_append, length_singleton] at lengths
    simp only [toFill, length_map]
    omega
  case first_input =>
    intro segment isHead
    simp only [toFill, List.head?_map, Option.map_eq_some_iff] at isHead
    obtain ⟨original, isHead, rfl⟩ := isHead
    exact replays.head_input isHead
  case chained =>
    simp only [toFill, isChain_map]
    exact replays.chained
  case last_output =>
    intro segment isLast
    simp only [toFill, List.getLast?_map, Option.map_eq_some_iff] at isLast
    obtain ⟨original, isLast, rfl⟩ := isLast
    have lastToken := congrArg List.getLast? replays.outputTokens
    rw [List.getLast?_map, isLast] at lastToken
    have tokenEq : original.output.token = intent.buy.token := by
      simpa using lastToken
    have amountEq := replays.last_output isLast
    change original.output = ⟨route.output.amount, intent.buy.token⟩
    rw [← tokenEq, ← amountEq]
  case tokens_nodup =>
    rw [toFill, outputTokens]
    exact simplePath.nodup
  case intermediate =>
    rw [toFill, outputTokens, dropLast_concat]
    intro token mem
    exact (tokens token).mp (inTokens token mem)
  case floor => exact floor
  case priced =>
    intro segment mem
    simp only [toFill, mem_map] at mem
    obtain ⟨original, mem, rfl⟩ := mem
    obtain ⟨_, poolMem, sameId, quoted⟩ := replays.pool_of_mem mem
    obtain ⟨entry, inSnapshot, entryId, isVenue, pays⟩ :=
      exists_entry_of_mem_between built deterministic poolMem quoted
    exact ⟨entry, inSnapshot, entryId.trans sameId, isVenue, pays⟩
  case source_eq => rfl
  case block_eq => rfl

/-- Two limit orders in a row, through the wrapped native token. -/
theorem solve_sound_two_orders :
    let routing : Routing := ⟨9, [], 1, none⟩
    let intent : Intent := ⟨⟨50, 1⟩, ⟨60, 2⟩, [7]⟩
    let snapshot : Snapshot := ⟨"node", 17,
      [limitOrderEntry "a" 7 ⟨100, 1⟩ ⟨300, 9⟩, limitOrderEntry "b" 7 ⟨150, 9⟩ ⟨75, 2⟩]⟩
    let fill : Fill := ⟨[⟨"a", ⟨50, 1⟩, ⟨150, 9⟩⟩, ⟨"b", ⟨150, 9⟩, ⟨75, 2⟩⟩],
      75, 132716, "node", 17⟩
    solve .inserted routing intent snapshot = .ok fill ∧ Sound routing intent snapshot fill := by
  intro routing intent snapshot fill
  have solved : solve .inserted routing intent snapshot = .ok fill := by
    decide +kernel
  exact ⟨solved, solve_sound (by simp [QuoterDeterministic]) solved⟩

/-! ## Quotes agree with fills -/

/-- The intent with a minimum to buy. -/
def intentWithFloor (sell : Asset) (buyToken : Address)
    (allowedVenues : List Address) (floor : U256) : Intent :=
  ⟨sell, ⟨floor, buyToken⟩, allowedVenues⟩

section

variable {order : RunOrder} {routing : Routing} {sell : Asset}
  {buyToken : Address} {venues : List Address} {snapshot : Snapshot} {floor : U256}

private theorem sellFound_withFloor (solver : Solver) (floor : U256) (maxHops : Nat) :
    solver.sellFound order (request (intentWithFloor sell buyToken venues floor)) maxHops =
      (solver.sellFound order (request (intentWithFloor sell buyToken venues 0)) maxHops).filter
          (fun candidate => floor ≤ candidate.2) :=
  Solver.sellFound_floor solver order _ maxHops

section

variable (deterministic : QuoterDeterministic routing.uniV3QuoterV2) {fill : Fill}
include deterministic

section

variable
  (floorless : solve order routing (intentWithFloor sell buyToken venues 0) snapshot = .ok fill)
include floorless

theorem solve_withFloor_of_le (reached : floor ≤ fill.expectedOut) :
    solve order routing (intentWithFloor sell buyToken venues floor) snapshot = .ok fill := by
  obtain ⟨solver, route, solverOk, best, rfl⟩ := (solve_eq_ok_iff deterministic).mp floorless
  refine (solve_eq_ok_iff deterministic).mpr ⟨solver, route, solverOk, ?_, rfl⟩
  rw [sellFound_withFloor]
  exact best.filter (decide_eq_true reached)

theorem solve_withFloor_of_lt (missed : fill.expectedOut < floor) :
    solve order routing (intentWithFloor sell buyToken venues floor) snapshot = .none := by
  obtain ⟨solver, _, solverOk, best, rfl⟩ := (solve_eq_ok_iff deterministic).mp floorless
  refine (solve_eq_none_iff deterministic).mpr ⟨solver, solverOk, ?_⟩
  rw [sellFound_withFloor, List.filter_eq_nil_iff]
  intro candidate mem
  have bound := le_of_compareCandidates_ne_gt (best.not_gt candidate mem)
  simpa using lt_of_le_of_lt bound missed

end

theorem solve_withFloor_of_none
    (floorless : solve order routing (intentWithFloor sell buyToken venues 0) snapshot = .none) :
    solve order routing (intentWithFloor sell buyToken venues floor) snapshot = .none := by
  obtain ⟨solver, solverOk, empty⟩ := (solve_eq_none_iff deterministic).mp floorless
  refine (solve_eq_none_iff deterministic).mpr ⟨solver, solverOk, ?_⟩
  rw [sellFound_withFloor, empty, List.filter_nil]

end

end

theorem quote_solve_agree (order : RunOrder) (routing : Routing) (sell : Asset)
    (buyToken : Address) (venues : List Address) (snapshot : Snapshot)
    (deterministic : QuoterDeterministic routing.uniV3QuoterV2) :
    (quote order routing sell buyToken venues snapshot = .none → ∀ floor, solve order routing
        (intentWithFloor sell buyToken venues floor) snapshot = .none) ∧
    ∀ quoted, quote order routing sell buyToken venues snapshot = .ok quoted →
      ∃ fill, solve order routing (intentWithFloor sell buyToken venues 0) snapshot = .ok fill ∧
        fill.expectedOut = quoted.expectedOut ∧
        fill.source = quoted.source ∧ fill.block = quoted.block ∧
        ∀ floor, (floor ≤ quoted.expectedOut → solve order routing
            (intentWithFloor sell buyToken venues floor) snapshot = .ok fill) ∧
          (quoted.expectedOut < floor → solve order routing
            (intentWithFloor sell buyToken venues floor) snapshot = .none) := by
  constructor
  · intro unquoted floor
    refine solve_withFloor_of_none deterministic ?_
    change (solve order routing (intentWithFloor sell buyToken venues 0)
      snapshot >>= _) = _ at unquoted
    cases solved : solve order routing (intentWithFloor sell buyToken venues 0) snapshot with
    | ok fill =>
      rw [solved] at unquoted
      cases unquoted
    | err error => rfl
    | panic reason =>
      rw [solved] at unquoted
      cases unquoted
  · intro quoted success
    rw [quote, Outcome.bind_eq_ok_iff] at success
    obtain ⟨fill, floorless, success⟩ := success
    cases success
    exact ⟨fill, floorless, rfl, rfl, rfl, fun floor =>
      ⟨solve_withFloor_of_le deterministic floorless,
        solve_withFloor_of_lt deterministic floorless⟩⟩

/-- Two orders in a row: a quote of 75, and the fills it promises. -/
theorem quote_solve_agree_two_hops :
    let snapshot : Snapshot := ⟨"node", 17, [limitOrderEntry "a" 7 ⟨100, 1⟩ ⟨150, 9⟩,
      limitOrderEntry "b" 7 ⟨200, 9⟩ ⟨100, 2⟩]⟩
    quote .inserted ⟨9, [], 1, none⟩ ⟨100, 1⟩ 2 [7] snapshot = .ok ⟨75, "node", 17⟩ ∧
      ∃ fill, fill.expectedOut = 75 ∧ fill.source = "node" ∧ fill.block = 17 ∧
        ∀ floor, (floor ≤ 75 → solve .inserted ⟨9, [], 1, none⟩
            (intentWithFloor ⟨100, 1⟩ 2 [7] floor) snapshot = .ok fill) ∧
          (75 < floor → solve .inserted ⟨9, [], 1, none⟩
            (intentWithFloor ⟨100, 1⟩ 2 [7] floor) snapshot = .none) := by
  intro snapshot
  have quoted : quote .inserted ⟨9, [], 1, none⟩ ⟨100, 1⟩ 2 [7] snapshot =
      .ok ⟨75, "node", 17⟩ := by
    decide +kernel
  obtain ⟨fill, -, rest⟩ := (quote_solve_agree .inserted _ _ _ _ _
    (by simp [QuoterDeterministic])).2 _ quoted
  exact ⟨quoted, fill, rest⟩

end MandateSolver.Mandate
