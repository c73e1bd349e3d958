import MandateSolver.EventHandling.EventHandler

/-!
# The events of a list of blocks

Requests are made in chunks and used up to the first failure.  The block that is noted for a
request is looked up at its position inside the chunk, so from the second chunk on it is a
wrong one.
-/

namespace MandateSolver.EventHandling

open List Option

variable {ε Hash Event : Type} {request : Nat → Hash → Option (List (Nat × Event))}
  {blocks : List (Nat × Hash)}

section

variable (request) (blocks)

/-- All requests before the count succeed, and the next one fails. -/
structure SucceedUpTo (count : Nat) : Prop where
  le : count ≤ blocks.length
  succeed : ∀ position block, position < count →
    blocks[position]? = some block → (request position block.2).isSome
  next : ∀ block, blocks[count]? = some block → request count block.2 = none

/-- The events of the answered requests. -/
def eventsOf : List (Nat × Event) :=
  (blocks.mapIdx fun position block =>
    (request position block.2).getD []).flatten

end

def notedBlocks (size : Nat) (blocks : List (Nat × Hash)) (count : Nat) : List (Nat × Hash) :=
  (List.range count).filterMap fun position => blocks[position % size]?

/-! ## Results of the requests -/

section

variable {count : Nat}

theorem joinAll_append (position : Nat) (first later : List (Nat × Hash)) :
    joinAll request position (first ++ later) = joinAll request position first ++
        joinAll request (position + first.length) later := by
  simp only [joinAll, mapIdx_append]
  congr 2
  funext i block
  congr 1
  omega

@[simp] theorem length_joinAll (position : Nat) (blocks : List (Nat × Hash)) :
    (joinAll request position blocks).length = blocks.length := by
  simp [joinAll]

section

variable (longest : SucceedUpTo request blocks count)
include longest

theorem SucceedUpTo.joinAll_take :
    joinAll request 0 (blocks.take count) = ((blocks.take count).mapIdx fun position block =>
        (request position block.2).getD []).map some := by
  apply ext_getElem?
  intro position
  simp only [joinAll, List.getElem?_map, List.getElem?_mapIdx, Nat.zero_add]
  cases found : (blocks.take count)[position]? with
  | none => rfl
  | some block =>
    rw [List.getElem?_take] at found
    split at found
    · rename_i inside
      have succeeds := longest.succeed position block inside found
      obtain ⟨events, success⟩ := isSome_iff_exists.mp succeeds
      simp only [map_some, success, getD_some]
    · cases found

theorem SucceedUpTo.leading_drop (position : Nat) (at_count : position = count) :
    leading (joinAll request position (blocks.drop count)) = [] := by
  cases rest : blocks.drop count with
  | nil => rfl
  | cons block rest =>
    have found : blocks[count]? = some block := by
      rw [← List.head?_drop, rest, List.head?_cons]
    simp only [joinAll, mapIdx_cons, Nat.add_zero, at_count, longest.next block found, leading]

theorem SucceedUpTo.leading_eq :
    leading (joinAll request 0 blocks) = (blocks.take count).mapIdx fun position block =>
        (request position block.2).getD [] := by
  conv_lhs => rw [← take_append_drop count blocks]
  rw [joinAll_append, longest.joinAll_take, leading_map_some_append,
    longest.leading_drop _ (by simp [longest.le]), append_nil]

theorem SucceedUpTo.length_leading : (leading (joinAll request 0 blocks)).length = count := by
  rw [longest.leading_eq, length_mapIdx, length_take, min_eq_left longest.le]

end

theorem exists_succeedUpTo (request : Nat → Hash → Option (List (Nat × Event)))
    (blocks : List (Nat × Hash)) : ∃ count, SucceedUpTo request blocks count := by
  have result_at (position : Nat) block (found : blocks[position]? = some block) :
      (joinAll request 0 blocks)[position]? = some (request position block.2) := by
    rw [joinAll, List.getElem?_mapIdx, found, map_some, Nat.zero_add]
  refine ⟨(leading (joinAll request 0 blocks)).length, ?_, ?_, ?_⟩
  · have le := length_leading_le (joinAll request 0 blocks)
    rwa [length_joinAll] at le
  · intro position block inside found
    exact isSome_of_lt_leading inside (result_at position block found)
  · intro block found
    exact eq_none_of_length_leading (result_at _ block found)

end

/-! ## Noted blocks -/

section

variable {size count : Nat}

theorem notedBlocks_of_le (small : count ≤ size) :
    notedBlocks size blocks count = blocks.take count := by
  induction count with
  | zero => rfl
  | succ count ih =>
    have position := Nat.mod_eq_of_lt small
    rw [notedBlocks, range_succ, filterMap_append, ← notedBlocks,
      ih (Nat.le_of_succ_le small), take_add_one]
    simp only [filterMap_cons, position]
    cases blocks[count]? <;> rfl

theorem notedBlocks_add (count : Nat) : notedBlocks size blocks (size + count) =
      blocks.take size ++ notedBlocks size blocks count := by
  rw [← notedBlocks_of_le (le_refl size)]
  simp only [notedBlocks, range_add, filterMap_append,
    filterMap_map, Function.comp_def, Nat.add_mod_left]

theorem mem_of_mem_notedBlocks {block : Nat × Hash}
    (mem : block ∈ notedBlocks size blocks count) : block ∈ blocks := by
  obtain ⟨_, _, found⟩ := mem_filterMap.mp mem
  exact mem_of_getElem? found

theorem head?_notedBlocks (positive : 0 < count) :
    (notedBlocks size blocks count).head? = blocks.head? := by
  obtain ⟨count, rfl⟩ := Nat.exists_eq_succ_of_ne_zero positive.ne'
  rw [notedBlocks, range_succ_eq_map, filterMap_cons]
  cases blocks with
  | nil => simp
  | cons block blocks => rfl

theorem map_some_filterMap {α β : Type} {f : α → Option β} {items : List α}
    (present : ∀ item ∈ items, (f item).isSome) : (items.filterMap f).map some = items.map f := by
  induction items with
  | nil => rfl
  | cons item items ih =>
    obtain ⟨_, found⟩ := isSome_iff_exists.mp (present item mem_cons_self)
    rw [filterMap_cons_some found, map_cons, map_cons, found,
      ih fun item mem => present item (mem_cons_of_mem _ mem)]

section

variable (known : count ≤ blocks.length)
include known

theorem map_some_notedBlocks : (notedBlocks size blocks count).map some =
      (List.range count).map fun position => blocks[position % size]? := by
  apply map_some_filterMap
  intro position mem
  have inside := lt_of_le_of_lt (Nat.mod_le position size) (lt_of_lt_of_le (mem_range.mp mem) known)
  rw [List.getElem?_eq_getElem inside, isSome_some]

theorem map_some_take : (blocks.take count).map some =
      (List.range count).map fun position => blocks[position]? := by
  rw [← notedBlocks_of_le (le_refl count), map_some_notedBlocks known]
  apply map_congr_left
  intro position mem
  rw [Nat.mod_eq_of_lt (mem_range.mp mem)]

theorem notedBlocks_eq_take_iff : notedBlocks size blocks count = blocks.take count ↔
      ∀ position < count, blocks[position]? = blocks[position % size]? := by
  rw [← (map_injective_iff.mpr (fun _ _ => Option.some.inj)).eq_iff,
    map_some_notedBlocks known, map_some_take known, map_inj_left]
  constructor
  · intro same position below
    exact (same position (mem_range.mpr below)).symm
  · intro same position mem
    exact (same position (mem_range.mp mem)).symm

end

end

/-! ## The loops -/

section

variable {fetched : Fetched Hash Event}

theorem collectChunk_eq {results : List (Option (List (Nat × Event)))} {i : Nat}
    (inside : i + results.length ≤ blocks.length) :
    (collectChunk blocks i results fetched : Outcome ε _) =
      .ok (⟨fetched.blocks ++ (blocks.drop i).take (leading results).length,
          fetched.events ++ (leading results).flatten⟩,
        decide ((leading results).length = results.length)) := by
  induction results generalizing i fetched with
  | nil => simp [collectChunk, leading]
  | cons result results ih =>
    rw [length_cons] at inside
    have bound : i < blocks.length := by omega
    cases result with
    | none => simp [collectChunk, leading]
    | some events =>
      rw [collectChunk, Outcome.index_of_lt bound, Outcome.ok_bind,
        ih (by omega), drop_eq_getElem_cons bound]
      simp only [leading, length_cons, take_succ_cons, flatten_cons, append_assoc, singleton_append,
        Nat.add_right_cancel_iff]

theorem collectChunks_eq {size : Nat} {items : List (Nat × Hash)} {position : Nat}
    (positive : 0 < size) (inside : items.length ≤ blocks.length) :
    (collectChunks request blocks position (chunks size items) fetched : Outcome ε _) =
      .ok ⟨fetched.blocks ++ notedBlocks size blocks
          (leading (joinAll request position items)).length,
        fetched.events ++ (leading (joinAll request position items)).flatten⟩ := by
  fun_induction chunks size items generalizing position fetched with
  | case2 items finished =>
    have empty : items.length = 0 := by omega
    rw [length_eq_zero_iff.mp empty]
    simp [collectChunks, joinAll, leading, notedBlocks]
  | case1 items more ih =>
    have split : joinAll request position items = joinAll request position (items.take size) ++
          joinAll request (position + (items.take size).length) (items.drop size) := by
      rw [← joinAll_append, take_append_drop]
    have atMost := length_take_le size items
    have chunkInside : 0 + (joinAll request position (items.take size)).length ≤ blocks.length := by
      rw [length_joinAll, length_take]
      omega
    have leadingLe := length_leading_le (joinAll request position (items.take size))
    rw [length_joinAll] at leadingLe
    rw [collectChunks, collectChunk_eq chunkInside, Outcome.ok_bind, length_joinAll, drop_zero]
    dsimp only
    by_cases complete : (leading (joinAll request position (items.take size))).length =
          (items.take size).length
    · rw [if_pos (decide_eq_true complete), ih (by rw [length_drop]; omega), split,
        leading_append (by rw [complete, length_joinAll]), length_append,
        flatten_append, complete, append_assoc, append_assoc]
      by_cases full : size ≤ items.length
      · rw [length_take, min_eq_left full, notedBlocks_add]
      · -- the last chunk is followed by nothing
        have rest : items.drop size = [] := drop_eq_nil_of_le (by omega)
        simp only [rest, joinAll, mapIdx_nil, leading, length_nil,
          Nat.add_zero, notedBlocks_of_le atMost]
        simp [notedBlocks]
    · have failed := lt_of_le_of_ne leadingLe complete
      rw [if_neg (by simpa using complete), split, leading_append_of_lt (by rwa [length_joinAll]),
        notedBlocks_of_le (by omega)]

/-- The events are those of the successful requests; the blocks are taken at
positions modulo the size of a chunk. -/
theorem pastEventsByBlockHashes_eq {count : Nat} (longest : SucceedUpTo request blocks count) :
    (pastEventsByBlockHashes request blocks : Outcome ε _) =
      .ok ⟨notedBlocks maxParallelRpcCalls blocks count, eventsOf request (blocks.take count)⟩ := by
  rw [pastEventsByBlockHashes, collectChunks_eq (by decide) (le_refl _),
    longest.length_leading, longest.leading_eq]
  rfl

end

theorem pastEventsByBlockHashes_eq_prefix_iff (ε : Type)
    (request : Nat → Hash → Option (List (Nat × Event))) (blocks : List (Nat × Hash)) (count : Nat)
    (longest : SucceedUpTo request blocks count) :
    (pastEventsByBlockHashes request blocks : Outcome ε _) =
        .ok ⟨blocks.take count, eventsOf request (blocks.take count)⟩ ↔
      ∀ position < count, blocks[position]? = blocks[position % maxParallelRpcCalls]? := by
  rw [pastEventsByBlockHashes_eq longest, ← notedBlocks_eq_take_iff longest.le]
  simp

/-- The second of two requests fails. -/
theorem pastEventsByBlockHashes_stops_at_failure : (pastEventsByBlockHashes
        (fun position _ => if position = 1 then none else some [(5, "trade")])
        [(5, 50), (6, 60)] : Outcome Unit _) =
      .ok ⟨[(5, 50)], [(5, "trade")]⟩ := by
  apply (pastEventsByBlockHashes_eq_prefix_iff Unit _ _ 1 ?_).mpr
  · decide
  · refine ⟨by decide, ?_, ?_⟩
    · intro position block _ _
      have first : position = 0 := by omega
      simp [first]
    · intro block _
      rfl

/-- All requests for one block more than fits into a chunk succeed; the first
block is then noted a second time and the last one not at all. -/
theorem pastEventsByBlockHashes_repeats_first_block :
    SucceedUpTo (fun _ _ => some ([] : List (Nat × Nat)))
        ((List.range 129).map fun number => (number, number)) 129 ∧
      (pastEventsByBlockHashes (fun _ _ => some ([] : List (Nat × Nat)))
          ((List.range 129).map fun number => (number, number)) :
          Outcome Unit _) =
        .ok ⟨(List.range 128).map (fun number => (number, number)) ++ [(0, 0)], []⟩ ∧
      (List.range 128).map (fun number => (number, number)) ++ [(0, 0)] ≠
        ((List.range 129).map fun number => (number, number)).take 129 := by
  refine ⟨⟨by simp, ?_, ?_⟩, by decide +kernel, by decide +kernel⟩
  · intros
    rfl
  · intro _ found
    simp at found

end MandateSolver.EventHandling
