import Mathlib.Data.List.Nodup

/-!
# Chunks of neighbours

A list is cut into chunks of neighbouring items with the same key.  Items with
the same key that are not neighbours end up in several chunks.
-/

namespace MandateSolver

open List

section

variable {α κ : Type}

/-- A key that occurs again later occurs right after the item. -/
def Contiguous (key : α → κ) (items : List α) : Prop :=
  ∀ item later, item :: later <:+ items → key item ∈ later.map key →
    later.head?.map key = some (key item)

theorem contiguous_cons {key : α → κ} {item : α} {items : List α} : Contiguous key (item :: items) ↔
      (key item ∈ items.map key → items.head?.map key = some (key item)) ∧
        Contiguous key items := by
  constructor
  · intro contiguous
    exact ⟨contiguous item items suffix_rfl, fun next later tail =>
      contiguous next later (tail.trans (suffix_cons item items))⟩
  · rintro ⟨first, rest⟩ next later tail again
    rcases suffix_cons_iff.mp tail with equal | tail
    · cases equal
      exact first again
    · exact rest next later tail again

end

variable {α κ : Type} [DecidableEq κ]

def chunkBy (key : α → κ) : List α → List (α × List α)
  | [] => []
  | item :: items =>
    match chunkBy key items with
    | [] => [(item, [])]
    | (first, others) :: chunks =>
      if key item = key first then (item, first :: others) :: chunks
      else (item, []) :: (first, others) :: chunks

namespace chunkBy

variable {key : α → κ} {items : List α} {chunk : α × List α}

theorem cons_cases (key : α → κ) (item : α) (items : List α) :
    (items = [] ∧ chunkBy key (item :: items) = [(item, [])]) ∨
    ∃ first others chunks rest, items = first :: rest ∧
      chunkBy key items = (first, others) :: chunks ∧
      chunkBy key (item :: items) = if key item = key first then (item, first :: others) :: chunks
        else (item, []) :: (first, others) :: chunks := by
  induction items generalizing item with
  | nil => exact .inl ⟨rfl, rfl⟩
  | cons next rest ih =>
    right
    rcases ih next with ⟨rfl, single⟩ | ⟨first, others, chunks, _, _, _, step⟩
    · exact ⟨next, [], [], [], rfl, single, by rw [chunkBy, single]⟩
    · by_cases same : key next = key first
      · rw [if_pos same] at step
        exact ⟨next, _, _, rest, rfl, step, by rw [chunkBy, step]⟩
      · rw [if_neg same] at step
        exact ⟨next, _, _, rest, rfl, step, by rw [chunkBy, step]⟩

theorem flatten (key : α → κ) (items : List α) :
    (chunkBy key items).flatMap (fun chunk => chunk.1 :: chunk.2) = items := by
  induction items with
  | nil => rfl
  | cons item items ih =>
    rcases cons_cases key item items with
      ⟨rfl, step⟩ | ⟨first, others, chunks, rest, -, found, step⟩
    · rfl
    · rw [found] at ih
      rw [step]
      split
      all_goals
        rw [← ih]
        rfl

theorem uniform (mem : chunk ∈ chunkBy key items) :
    ∀ item ∈ chunk.1 :: chunk.2, key item = key chunk.1 := by
  induction items generalizing chunk with
  | nil => cases mem
  | cons item items ih =>
    rcases cons_cases key item items with
      ⟨rfl, step⟩ | ⟨next, rest, chunks, _, _, found, step⟩
    · rw [step, mem_singleton] at mem
      simp [mem]
    · rw [found] at ih
      rw [step] at mem
      split at mem
      · rename_i same
        rcases mem_cons.mp mem with rfl | later
        · rw [forall_mem_cons]
          exact ⟨rfl, fun other inRest =>
            (ih mem_cons_self other inRest).trans same.symm⟩
        · exact ih (mem_cons_of_mem _ later)
      · rcases mem_cons.mp mem with rfl | later
        · simp
        · exact ih later

theorem mem_keys (key : α → κ) (items : List α) (wanted : κ) :
    wanted ∈ (chunkBy key items).map (fun chunk => key chunk.1) ↔ wanted ∈ items.map key := by
  have flat := flatten key items
  constructor
  · intro mem
    obtain ⟨chunk, inChunks, rfl⟩ := mem_map.mp mem
    rw [← flat]
    exact mem_map_of_mem (mem_flatMap.mpr ⟨chunk, inChunks, mem_cons_self⟩)
  · intro mem
    obtain ⟨item, inItems, rfl⟩ := mem_map.mp mem
    rw [← flat] at inItems
    obtain ⟨chunk, inChunks, inChunk⟩ := mem_flatMap.mp inItems
    exact mem_map.mpr ⟨chunk, inChunks, (uniform inChunks item inChunk).symm⟩

/-- Every key has one chunk exactly if no key comes back later. -/
theorem nodup_keys_iff : ((chunkBy key items).map fun chunk => key chunk.1).Nodup ↔
      Contiguous key items := by
  induction items with
  | nil =>
    refine iff_of_true nodup_nil ?_
    intro item _ tail
    simp at tail
  | cons item items ih =>
    rw [contiguous_cons, ← ih]
    have keys := mem_keys key items
    rcases cons_cases key item items with
      ⟨rfl, step⟩ | ⟨first, others, chunks, rest, rfl, found, step⟩
    · simp [chunkBy]
    · rw [step]
      by_cases same : key item = key first
      · rw [found]
        simp [same]
      · have next : (first :: rest).head?.map key ≠ some (key item) := by
          simpa using fun equal => same equal.symm
        rw [if_neg same, ← found, map_cons, nodup_cons, keys]
        simp only [next]

theorem filter_eq (nodup : ((chunkBy key items).map fun chunk => key chunk.1).Nodup)
    (mem : chunk ∈ chunkBy key items) :
    items.filter (key · = key chunk.1) = chunk.1 :: chunk.2 := by
  have same : ∀ chunk ∈ chunkBy key items, ∀ item ∈ chunk.1 :: chunk.2,
      key item = key chunk.1 := fun _ => uniform
  have flat := flatten key items
  generalize chunkBy key items = chunks at nodup mem same flat
  rw [← flat]
  clear flat
  induction chunks with
  | nil => cases mem
  | cons head chunks ih =>
    rw [map_cons, nodup_cons] at nodup
    rw [forall_mem_cons] at same
    rw [flatMap_cons, filter_append]
    rcases mem_cons.mp mem with rfl | later
    · have elsewhere : (chunks.flatMap fun chunk => chunk.1 :: chunk.2).filter
          (key · = key chunk.1) = [] := by
        rw [filter_eq_nil_iff]
        intro item inChunks equal
        obtain ⟨other, inOthers, inOther⟩ := mem_flatMap.mp inChunks
        refine nodup.1 (mem_map.mpr ⟨other, inOthers, ?_⟩)
        rw [← of_decide_eq_true equal, same.2 other inOthers item inOther]
      rw [elsewhere, append_nil, filter_eq_self]
      intro item inChunk
      exact decide_eq_true (same.1 item inChunk)
    · have before : (head.1 :: head.2).filter (key · = key chunk.1) = [] := by
        rw [filter_eq_nil_iff]
        intro item inHead equal
        refine nodup.1 (mem_map.mpr ⟨chunk, later, ?_⟩)
        rw [← of_decide_eq_true equal, same.1 item inHead]
      rw [before]
      exact ih nodup.2 later same.2

end chunkBy

end MandateSolver
