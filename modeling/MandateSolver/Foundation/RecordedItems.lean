import MandateSolver.Foundation.EntryMap

/-!
# Items that are recorded and taken back

A later item takes the place of an earlier one with the same key.  Flagged items are given
back, each once, exactly when none of them is followed by an item with its key.
-/

namespace MandateSolver

open List

variable {κ ν : Type} [DecidableEq κ]

def drain : List (κ × ν) → List κ → Option (List ν × List (κ × ν))
  | entries, [] => some ([], entries)
  | entries, key :: keys => do
    let value ← entries.lookup key
    let (values, rest) ← drain (removeKey key entries) keys
    return (value :: values, rest)

namespace drain

variable {key : κ} {keys more : List κ} {entries : List (κ × ν)} {values : List ν}

theorem append : drain entries (keys ++ more) = (do
    let (values, rest) ← drain entries keys
    let (others, rest) ← drain rest more
    return (values ++ others, rest)) := by
  induction keys generalizing entries with
  | nil => cases found : drain entries more <;> simp [drain, found]
  | cons key keys ih =>
    simp only [cons_append, drain, ih]
    cases entries.lookup key with
    | none => rfl
    | some value =>
      cases drain (removeKey key entries) keys with
      | none => rfl
      | some found =>
        obtain ⟨values, rest⟩ := found
        cases found : drain rest more <;> simp [found]

theorem eq_some_iff : (∃ rest, drain entries keys = some (values, rest)) ↔
      keys.Nodup ∧ values.map some = keys.map (entries.lookup ·) := by
  induction keys generalizing entries values with
  | nil => cases values <;> simp [drain]
  | cons key keys ih =>
    rw [nodup_cons, map_cons]
    constructor
    · rintro ⟨rest, drained⟩
      simp only [drain, Option.bind_eq_bind, Option.bind_eq_some_iff] at drained
      obtain ⟨value, found, ⟨others, left⟩, later, same⟩ := drained
      obtain ⟨rfl, rfl⟩ : value :: others = values ∧ left = rest := by
        simpa using same
      obtain ⟨distinct, lookups⟩ := ih.mp ⟨_, later⟩
      have absent : key ∉ keys := by
        intro mem
        have present : (removeKey key entries).lookup key ∈ others.map some := by
          rw [lookups]
          exact mem_map.mpr ⟨key, mem, rfl⟩
        simp at present
      refine ⟨⟨absent, distinct⟩, ?_⟩
      rw [map_cons, lookups, found, List.cons.injEq]
      refine ⟨rfl, map_congr_left fun other mem => ?_⟩
      exact removeKey.lookup_of_ne _ _ fun same => absent (same ▸ mem)
    · rintro ⟨⟨absent, distinct⟩, lookups⟩
      cases values with
      | nil => simp at lookups
      | cons value values =>
        obtain ⟨found, lookups⟩ : some value = entries.lookup key ∧
            values.map some = keys.map (entries.lookup ·) := by
          simpa using lookups
        have unchanged : values.map some = keys.map ((removeKey key entries).lookup ·) := by
          rw [lookups]
          apply map_congr_left
          intro other mem
          have ne : other ≠ key := fun same => absent (same ▸ mem)
          exact (removeKey.lookup_of_ne _ _ ne).symm
        obtain ⟨rest, drained⟩ := ih.mpr ⟨distinct, unchanged⟩
        exact ⟨rest, by simp [drain, ← found, drained]⟩

end drain

/-! ## Recording items -/

section

variable {α : Type} (key : α → κ) (flag : α → Bool)

def recordAll (items : List α) : List (κ × α) :=
  insertAll (items.map fun item => (key item, item)) []

variable {key flag}

theorem recordAll.lookup_cons (item : α) (items : List α) (searched : κ) :
    (recordAll key (item :: items)).lookup searched = ((recordAll key items).lookup searched).or
        (if searched = key item then some item else none) := by
  simp only [recordAll, insertAll.lookup_eq, map_cons, reverse_cons, lookup_append, lookup_nil]
  by_cases same : searched = key item
  · simp [same]
  · have ne : (searched == key item) = false := by simpa using same
    simp [List.lookup_cons, ne, same]

variable {items : List α} {item : α} {searched : κ}

theorem recordAll.mem_of_lookup
    (found : (recordAll key items).lookup searched = some item) :
    item ∈ items ∧ key item = searched := by
  rw [recordAll, insertAll.lookup_eq, lookup_nil, Option.or_none] at found
  have mem := mem_reverse.mp (mem_of_lookup_eq_some found)
  obtain ⟨_, sourceMember, same⟩ := mem_map.mp mem
  obtain ⟨rfl, rfl⟩ := Prod.mk.injEq .. ▸ same
  exact ⟨sourceMember, rfl⟩

variable (key) in
theorem recordAll.isSome_lookup (mem : item ∈ items) :
    ((recordAll key items).lookup (key item)).isSome := by
  apply insertAll.isSome_lookup
  rw [map_map]
  exact mem_map_of_mem mem

theorem recordAll.lookup_eq_none (absent : ∀ item ∈ items, key item ≠ searched) :
    (recordAll key items).lookup searched = none := by
  by_contra present
  obtain ⟨other, found⟩ := Option.ne_none_iff_exists'.mp present
  obtain ⟨mem, sameKey⟩ := recordAll.mem_of_lookup found
  exact absent other mem sameKey

theorem recordAll.lookup_cons_of_mem (first : α) (mem : item ∈ items) :
    (recordAll key (first :: items)).lookup (key item) =
      (recordAll key items).lookup (key item) := by
  obtain ⟨_, found⟩ := Option.isSome_iff_exists.mp (recordAll.isSome_lookup key mem)
  rw [recordAll.lookup_cons, found, Option.some_or]

variable (key flag) in
/-- No flagged item is overwritten. -/
def KeepsFlagged (items : List α) : Prop :=
  ((items.filter flag).map key).Nodup ∧ ∀ item ∈ items.filter flag,
      (recordAll key items).lookup (key item) = some item

/-- One more item in front is kept when it has no flag or its key is new, and it
never costs another item its place. -/
theorem KeepsFlagged.cons_iff {first : α} : KeepsFlagged key flag (first :: items) ↔
      (∀ later ∈ items, key first = key later → flag first = false) ∧
        KeepsFlagged key flag items := by
  have behind : (∀ item ∈ items.filter flag,
      (recordAll key (first :: items)).lookup (key item) = some item) ↔
      ∀ item ∈ items.filter flag, (recordAll key items).lookup (key item) = some item := by
    apply forall₂_congr
    intro item mem
    rw [recordAll.lookup_cons_of_mem first (mem_of_mem_filter mem)]
  cases flagged : flag first with
  | false =>
    rw [KeepsFlagged, filter_cons_of_neg (by simp [flagged]), behind]
    simp [KeepsFlagged]
  | true =>
    rw [KeepsFlagged, filter_cons_of_pos flagged, map_cons,
      nodup_cons, forall_mem_cons, behind, recordAll.lookup_cons,
      if_pos rfl]
    constructor
    · rintro ⟨⟨absent, distinct⟩, found, kept⟩
      refine ⟨fun later mem sameKey => ?_, distinct, kept⟩
      obtain ⟨other, otherFound⟩ := Option.isSome_iff_exists.mp (recordAll.isSome_lookup key mem)
      rw [sameKey, otherFound, Option.some_or, Option.some.injEq] at found
      -- The item found behind is the first one, which is there twice.
      subst found
      have again := (recordAll.mem_of_lookup otherFound).1
      exact absurd (mem_map_of_mem (mem_filter.mpr ⟨again, flagged⟩)) absent
    · rintro ⟨alone, distinct, kept⟩
      have new : ∀ later ∈ items, key later ≠ key first := by
        intro later mem sameKey
        simpa using alone later mem sameKey.symm
      refine ⟨⟨fun mem => ?_, distinct⟩, ?_, kept⟩
      · obtain ⟨other, otherMem, sameKey⟩ := mem_map.mp mem
        exact new other (mem_of_mem_filter otherMem) sameKey
      · rw [recordAll.lookup_eq_none new, Option.none_or]

/-- All flagged items are kept exactly when none of them is followed by an item
with the same key. -/
theorem KeepsFlagged.iff_pairwise : KeepsFlagged key flag items ↔
      items.Pairwise fun earlier later =>
        key earlier = key later → flag earlier = false := by
  induction items with
  | nil => simp [KeepsFlagged]
  | cons first items ih =>
    rw [KeepsFlagged.cons_iff, pairwise_cons, ih]

/-- The map gives back exactly the flagged items, when their keys are drained
in some order, under the same condition. -/
theorem recordAll.drains_iff {keys : List κ} (order : keys.Perm ((items.filter flag).map key)) :
    (∃ values, (∃ rest, drain (recordAll key items) keys = some (values, rest)) ∧
        values.Perm (items.filter flag)) ↔
      items.Pairwise fun earlier later =>
        key earlier = key later → flag earlier = false := by
  rw [← KeepsFlagged.iff_pairwise]
  constructor
  · rintro ⟨values, drained, same⟩
    obtain ⟨distinct, lookups⟩ := drain.eq_some_iff.mp drained
    have nodup := order.nodup_iff.mp distinct
    refine ⟨nodup, ?_⟩
    intro item mem
    have listed : (recordAll key items).lookup (key item) ∈ values.map some := by
      rw [lookups]
      exact mem_map_of_mem (order.mem_iff.mpr (mem_map_of_mem mem))
    obtain ⟨value, valueMember, found⟩ := mem_map.mp listed
    have sameKey := (recordAll.mem_of_lookup found.symm).2
    rw [← found, inj_on_of_nodup_map nodup (same.subset valueMember) mem sameKey]
  · rintro ⟨distinct, kept⟩
    have found : ∀ searched ∈ keys, ((recordAll key items).lookup searched).isSome := by
      intro searched mem
      obtain ⟨item, itemMember, rfl⟩ := mem_map.mp (order.subset mem)
      rw [kept item itemMember, Option.isSome_some]
    refine ⟨keys.filterMap ((recordAll key items).lookup ·), drain.eq_some_iff.mpr
      ⟨order.nodup_iff.mpr distinct, ?_⟩, ?_⟩
    · rw [map_filterMap_some_eq_filter_map_isSome]
      apply filter_eq_self.mpr
      intro value mem
      obtain ⟨searched, searchedMember, rfl⟩ := mem_map.mp mem
      exact found searched searchedMember
    · apply (order.filterMap _).trans
      rw [filterMap_map]
      apply List.Perm.of_eq
      calc (items.filter flag).filterMap _
        _ = (items.filter flag).filterMap some := by
          apply filterMap_congr
          intro item mem
          exact kept item mem
        _ = items.filter flag := filterMap_some

end

end MandateSolver
