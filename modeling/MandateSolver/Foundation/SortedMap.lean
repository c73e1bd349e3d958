import Mathlib.Data.List.Nodup
import Mathlib.Order.Lattice

/-!
# Sorted maps

A map is known by its entries, in whatever order they were inserted.
-/

namespace MandateSolver

open List

def sortedInsert {κ ν : Type} [LinearOrder κ] (key : κ) (value : ν) : List (κ × ν) → List (κ × ν)
  | [] => [(key, value)]
  | entry :: entries =>
    if key < entry.1 then (key, value) :: entry :: entries
    else if key = entry.1 then (key, value) :: entries
    else entry :: sortedInsert key value entries

namespace sortedInsert

variable {κ ν : Type} [LinearOrder κ] {key : κ} {value : ν} {entries : List (κ × ν)} {entry : κ × ν}

theorem eq_or_mem (mem : entry ∈ sortedInsert key value entries) :
    entry = (key, value) ∨ entry ∈ entries := by
  fun_induction sortedInsert key value entries with
  | case1 => exact Or.inl (mem_singleton.mp mem)
  | case2 => exact mem_cons.mp mem
  | case3 => exact (mem_cons.mp mem).imp_right (mem_cons_of_mem _)
  | case4 first entries _ _ ih =>
    rcases mem_cons.mp mem with same | later
    · exact Or.inr (same ▸ mem_cons_self)
    · exact (ih later).imp_right (mem_cons_of_mem _)

theorem pairwise (sorted : entries.Pairwise (·.1 < ·.1)) :
    (sortedInsert key value entries).Pairwise (·.1 < ·.1) := by
  fun_induction sortedInsert key value entries with
  | case1 => exact pairwise_singleton _ _
  | case2 first entries before =>
    refine pairwise_cons.mpr ⟨?_, sorted⟩
    intro entry mem
    rcases mem_cons.mp mem with same | later
    · exact same ▸ before
    · exact lt_trans before ((pairwise_cons.mp sorted).1 entry later)
  | case3 first entries _ same =>
    obtain ⟨after, rest⟩ := pairwise_cons.mp sorted
    exact pairwise_cons.mpr ⟨fun entry mem => same ▸ after entry mem, rest⟩
  | case4 first entries notBefore ne ih =>
    obtain ⟨after, rest⟩ := pairwise_cons.mp sorted
    refine pairwise_cons.mpr ⟨?_, ih rest⟩
    intro entry mem
    rcases eq_or_mem mem with same | old
    · rw [same]
      exact lt_of_le_of_ne (not_lt.mp notBefore) (Ne.symm ne)
    · exact after entry old

theorem mem_self : (key, value) ∈ sortedInsert key value entries := by
  fun_induction sortedInsert key value entries with
  | case1 | case2 | case3 => exact mem_cons_self
  | case4 first entries _ _ ih => exact mem_cons_of_mem first ih

theorem mem_of_ne (mem : entry ∈ entries) (other : entry.1 ≠ key) :
    entry ∈ sortedInsert key value entries := by
  fun_induction sortedInsert key value entries with
  | case1 => cases mem
  | case2 => exact mem_cons_of_mem _ mem
  | case3 first entries _ same =>
    rcases mem_cons.mp mem with rfl | later
    · exact absurd same.symm other
    · exact mem_cons_of_mem _ later
  | case4 first entries _ _ ih =>
    rcases mem_cons.mp mem with same | later
    · exact same ▸ mem_cons_self
    · exact mem_cons_of_mem first (ih later)

end sortedInsert

/-- A map in the order of its keys. -/
structure SortedMap (κ ν : Type) [LinearOrder κ] where
  entries : List (κ × ν)
  sorted : entries.Pairwise (·.1 < ·.1)

namespace SortedMap

variable {κ ν : Type} [LinearOrder κ]

def empty : SortedMap κ ν := ⟨[], List.Pairwise.nil⟩

def insert (map : SortedMap κ ν) (key : κ) (value : ν) : SortedMap κ ν :=
  ⟨sortedInsert key value map.entries, sortedInsert.pairwise map.sorted⟩

def filter (map : SortedMap κ ν) (keep : κ → Bool) : SortedMap κ ν :=
  ⟨map.entries.filter fun entry => keep entry.1, map.sorted.sublist List.filter_sublist⟩

def insertAll (map : SortedMap κ ν) (entries : List (κ × ν)) : SortedMap κ ν :=
  entries.foldl (fun map entry => map.insert entry.1 entry.2) map

/-! ## Entries -/

variable {map : SortedMap κ ν}

theorem eq_of_mem_of_key_eq {left right : κ × ν}
    (isLeft : left ∈ map.entries) (isRight : right ∈ map.entries)
    (same : left.1 = right.1) : left = right := by
  have once := pairwise_map.mpr (map.sorted.imp fun before => before.ne)
  exact inj_on_of_nodup_map once isLeft isRight same

theorem eq_of_same_entries {other : SortedMap κ ν}
    (same : ∀ entry, entry ∈ map.entries ↔ entry ∈ other.entries) : map = other := by
  have once (map : SortedMap κ ν) : map.entries.Nodup :=
    map.sorted.imp fun before => fun equal => before.ne (congrArg Prod.fst equal)
  have perm := (perm_ext_iff_of_nodup (once map) (once other)).mpr same
  have entries : map.entries = other.entries := by
    apply perm.eq_of_pairwise _ map.sorted other.sorted
    intro _ _ _ _ before after
    exact absurd after (not_lt.mpr before.le)
  cases map
  cases entries
  rfl

variable {key : κ} {entry : κ × ν}

theorem mem_insert {value : ν} : entry ∈ (map.insert key value).entries ↔
      entry = (key, value) ∨ entry ∈ map.entries ∧ entry.1 ≠ key := by
  constructor
  · intro mem
    by_cases same : entry.1 = key
    · exact Or.inl (eq_of_mem_of_key_eq mem sortedInsert.mem_self same)
    · refine (sortedInsert.eq_or_mem mem).imp_right fun old => ⟨old, same⟩
  · intro mem
    rcases mem with rfl | ⟨old, other⟩
    · exact sortedInsert.mem_self
    · exact sortedInsert.mem_of_ne old other

variable {keep : κ → Bool}

theorem mem_filter :
    entry ∈ (map.filter keep).entries ↔ entry ∈ map.entries ∧ keep entry.1 = true :=
  List.mem_filter

/-! ## Many entries -/

theorem filter_insert_of_keep (kept : keep key = true) (value : ν) :
    (map.insert key value).filter keep = (map.filter keep).insert key value := by
  apply eq_of_same_entries
  intro _
  rw [mem_filter, mem_insert, mem_insert, mem_filter]
  constructor
  · intro mem
    rcases mem with ⟨rfl | ⟨old, other⟩, allowed⟩
    · exact Or.inl rfl
    · exact Or.inr ⟨⟨old, allowed⟩, other⟩
  · intro mem
    rcases mem with rfl | ⟨⟨old, allowed⟩, other⟩
    · exact ⟨Or.inl rfl, kept⟩
    · exact ⟨Or.inr ⟨old, other⟩, allowed⟩

theorem filter_insert_of_drop (dropped : keep key = false) (value : ν) :
    (map.insert key value).filter keep = map.filter keep := by
  apply eq_of_same_entries
  intro _
  rw [mem_filter, mem_insert, mem_filter]
  constructor
  · intro mem
    rcases mem with ⟨rfl | ⟨old, _⟩, allowed⟩
    · rw [dropped] at allowed
      cases allowed
    · exact ⟨old, allowed⟩
  · intro mem
    refine ⟨Or.inr ⟨mem.1, ?_⟩, mem.2⟩
    intro same
    rw [same, dropped] at mem
    cases mem.2

theorem filter_insertAll (map : SortedMap κ ν) (keep : κ → Bool) (entries : List (κ × ν)) :
    (map.insertAll entries).filter keep =
      (map.filter keep).insertAll (entries.filter fun entry => keep entry.1) := by
  induction entries generalizing map with
  | nil => rfl
  | cons entry entries ih =>
    have rest := ih (map.insert entry.1 entry.2)
    cases kept : keep entry.1 with
    | true =>
      rw [filter_insert_of_keep kept] at rest
      rw [filter_cons, if_pos kept]
      exact rest
    | false =>
      rw [filter_insert_of_drop kept] at rest
      rw [filter_cons, if_neg (by simp [kept])]
      exact rest

theorem mem_insertAll {entries : List (κ × ν)} (distinct : entries.Pairwise (·.1 ≠ ·.1))
    (fresh : ∀ new ∈ entries, ∀ old ∈ map.entries, old.1 ≠ new.1) :
    entry ∈ (map.insertAll entries).entries ↔ entry ∈ map.entries ∨ entry ∈ entries := by
  induction entries generalizing map with
  | nil => simp [insertAll]
  | cons first entries ih =>
    obtain ⟨apart, distinct⟩ := pairwise_cons.mp distinct
    have unused := fresh first mem_cons_self
    have added := @ih (map.insert first.1 first.2) distinct ?_
    · rw [mem_insert] at added
      rw [mem_cons, or_left_comm, ← or_assoc]
      refine added.trans (or_congr_left ?_)
      exact or_congr_right (and_iff_left_of_imp (unused entry))
    · intro new isNew old isOld
      rcases mem_insert.mp isOld with rfl | ⟨older, _⟩
      · exact apart new isNew
      · exact fresh new (mem_cons_of_mem first isNew) old older

theorem entries_insertAll_of_perm {entries sorted : List (κ × ν)}
    (perm : entries.Perm sorted) (ordered : sorted.Pairwise (·.1 < ·.1)) :
    (empty.insertAll entries).entries = sorted := by
  have distinct := (perm.pairwise_iff Ne.symm).mpr (ordered.imp fun before => before.ne)
  have same : empty.insertAll entries = ⟨sorted, ordered⟩ := by
    apply eq_of_same_entries
    intro _
    rw [mem_insertAll distinct (by simp [empty])]
    simp [empty, perm.mem_iff]
  rw [same]

end SortedMap

end MandateSolver
