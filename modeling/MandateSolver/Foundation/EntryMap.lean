import Mathlib.Data.List.Nodup
import Mathlib.Algebra.BigOperators.Group.List.Basic
import Mathlib.Algebra.GroupWithZero.Nat

/-!
# Maps with an order of iteration

The entries are in the order in which a hash map is iterated.  That no key occurs twice is
part of the map.
-/

namespace MandateSolver

open List

variable {κ ν : Type} [DecidableEq κ] {searched : κ}

/-- Change the entry of a key, or add one at the end. -/
def upsert (key : κ) (change : Option ν → ν) : List (κ × ν) → List (κ × ν)
  | [] => [(key, change none)]
  | (other, value) :: rest =>
    if other = key then (key, change (some value)) :: rest
    else (other, value) :: upsert key change rest

namespace upsert

variable (key : κ) (change : Option ν → ν) (entries : List (κ × ν))

@[simp] theorem lookup_self :
    (upsert key change entries).lookup key = some (change (entries.lookup key)) := by
  induction entries with
  | nil => simp [upsert]
  | cons entry entries ih =>
    obtain ⟨other, _⟩ := entry
    by_cases same : other = key
    · subst same
      simp [upsert]
    · have ne : (key == other) = false := by simpa using Ne.symm same
      simp [upsert, same, lookup_cons, ne, ih]

theorem lookup_of_ne (distinct : searched ≠ key) :
    (upsert key change entries).lookup searched = entries.lookup searched := by
  have notKey : (searched == key) = false := by simpa using distinct
  induction entries with
  | nil => simp [upsert, lookup_cons, notKey]
  | cons entry entries ih =>
    obtain ⟨other, _⟩ := entry
    by_cases same : other = key
    · subst same
      simp [upsert, lookup_cons, notKey]
    · cases found : searched == other <;>
        simp [upsert, same, lookup_cons, ih]

theorem of_lookup_eq_none (absent : entries.lookup key = none) :
    upsert key change entries = entries ++ [(key, change none)] := by
  induction entries with
  | nil => rfl
  | cons entry entries ih =>
    obtain ⟨other, _⟩ := entry
    have notKey : key ≠ other := by
      intro same
      simp [same] at absent
    have ne : (key == other) = false := by simpa using notKey
    rw [lookup_cons, ne] at absent
    rw [upsert, if_neg notKey.symm, ih absent, cons_append]

theorem isSome_lookup (present : (entries.lookup searched).isSome) :
    ((upsert key change entries).lookup searched).isSome := by
  by_cases same : searched = key
  · simp [same]
  · rwa [lookup_of_ne key change entries same]

theorem keys : (upsert key change entries).map Prod.fst =
      if key ∈ entries.map Prod.fst then entries.map Prod.fst
      else entries.map Prod.fst ++ [key] := by
  induction entries with
  | nil => simp [upsert]
  | cons entry entries ih =>
    obtain ⟨other, value⟩ := entry
    by_cases same : other = key
    · simp [upsert, same]
    · have later : key ∈ ((other, value) :: entries).map Prod.fst ↔
          key ∈ entries.map Prod.fst := by simp [Ne.symm same]
      rw [upsert, if_neg same, map_cons, ih]
      simp only [later]
      split <;> rfl

theorem nodup_keys (distinct : (entries.map Prod.fst).Nodup) :
    ((upsert key change entries).map Prod.fst).Nodup := by
  rw [keys]
  split
  · exact distinct
  · rename_i absent
    exact nodup_append.mpr ⟨distinct, nodup_singleton key, by
      intro other mem last lastMember same
      rw [mem_singleton.mp lastMember] at same
      exact absent (same ▸ mem)⟩

end upsert

def removeKey (key : κ) (entries : List (κ × ν)) : List (κ × ν) :=
  entries.filter (·.1 ≠ key)

namespace removeKey

variable (key : κ) (entries : List (κ × ν))

@[simp] theorem lookup_self : (removeKey key entries).lookup key = none := by
  apply lookup_eq_none_iff.mpr
  intro _ mem
  simpa using Ne.symm (by simpa using of_mem_filter mem)

theorem lookup_of_ne (distinct : searched ≠ key) :
    (removeKey key entries).lookup searched = entries.lookup searched := by
  induction entries with
  | nil => rfl
  | cons entry entries ih =>
    obtain ⟨other, _⟩ := entry
    by_cases same : other = key
    · have ne : (searched == other) = false := by
        simpa [same] using distinct
      rw [lookup_cons, ne, ← ih, removeKey, filter_cons_of_neg (by simpa using same)]
      rfl
    · rw [removeKey, filter_cons_of_pos (by simpa using same), lookup_cons, lookup_cons, ← ih]
      rfl

end removeKey

/-! ## Recording many entries -/

/-- Record entries one after the other, a later one in place of an earlier one
with the same key. -/
def insertAll (entries : List (κ × ν)) (start : List (κ × ν)) : List (κ × ν) :=
  entries.foldl (fun map entry => upsert entry.1 (fun _ => entry.2) map) start

namespace insertAll

theorem cons (entry : κ × ν) (entries start : List (κ × ν)) : insertAll (entry :: entries) start =
      insertAll entries (upsert entry.1 (fun _ => entry.2) start) := rfl

variable {entries start : List (κ × ν)}

theorem isSome_lookup_of_start {key : κ} (present : (start.lookup key).isSome) :
    ((insertAll entries start).lookup key).isSome := by
  induction entries generalizing start with
  | nil => exact present
  | cons entry entries ih =>
    exact ih (upsert.isSome_lookup _ _ _ present)

theorem isSome_lookup {key : κ} (mem : key ∈ entries.map Prod.fst) :
    ((insertAll entries start).lookup key).isSome := by
  induction entries generalizing start with
  | nil => simp at mem
  | cons entry entries ih =>
    rcases mem_cons.mp mem with rfl | later
    · rw [cons]
      apply isSome_lookup_of_start
      rw [upsert.lookup_self, Option.isSome_some]
    · exact ih later

/-- The last entry with a key is the one that is kept. -/
theorem lookup_eq (entries start : List (κ × ν)) (key : κ) : (insertAll entries start).lookup key =
      (entries.reverse.lookup key).or (start.lookup key) := by
  induction entries generalizing start with
  | nil => simp [insertAll]
  | cons entry entries ih =>
    obtain ⟨other, _⟩ := entry
    rw [cons, ih, reverse_cons, lookup_append, Option.or_assoc]
    by_cases same : key = other
    · simp [same]
    · have ne : (key == other) = false := by simpa using same
      rw [upsert.lookup_of_ne _ _ _ same, lookup_cons, ne]
      rfl

theorem of_nodup (distinct : (entries.map Prod.fst).Nodup)
    (fresh : ∀ key ∈ entries.map Prod.fst, start.lookup key = none) :
    insertAll entries start = start ++ entries := by
  induction entries generalizing start with
  | nil => simp [insertAll]
  | cons entry entries ih =>
    obtain ⟨absent, distinct⟩ := nodup_cons.mp distinct
    obtain ⟨entryFresh, fresh⟩ := forall_mem_cons.mp fresh
    have stillFresh : ∀ key ∈ entries.map Prod.fst, (start ++ [entry]).lookup key = none := by
      intro key mem
      have ne : key ≠ entry.1 := fun same => absent (same ▸ mem)
      simp [lookup_append, fresh key mem, ne]
    rw [cons, upsert.of_lookup_eq_none _ _ _ entryFresh, ih distinct stillFresh, append_assoc]
    rfl

end insertAll

variable {entries : List (κ × ν)} {key : κ} {value : ν}

theorem mem_of_lookup_eq_some (found : entries.lookup key = some value) :
    (key, value) ∈ entries := by
  induction entries with
  | nil => simp at found
  | cons entry entries ih =>
    obtain ⟨other, first⟩ := entry
    rw [lookup_cons] at found
    cases same : key == other with
    | true =>
      obtain rfl : key = other := by simpa using same
      obtain rfl : first = value := by simpa using found
      exact mem_cons_self
    | false =>
      rw [same] at found
      exact mem_cons_of_mem _ (ih found)

theorem lookup_eq_some_iff_mem (distinct : (entries.map Prod.fst).Nodup) :
    entries.lookup key = some value ↔ (key, value) ∈ entries := by
  induction entries with
  | nil => simp
  | cons entry entries ih =>
    obtain ⟨other, _⟩ := entry
    obtain ⟨absent, distinct⟩ := nodup_cons.mp distinct
    by_cases same : key = other
    · subst same
      have notLater : (key, value) ∉ entries := by
        intro mem
        exact absent (mem_map.mpr ⟨_, mem, rfl⟩)
      simp [notLater, eq_comm]
    · have ne : (key == other) = false := by simpa using same
      simp [lookup_cons, ne, same, ih distinct]

theorem exists_idxOf_of_lookup (found : entries.lookup key = some value) (keys : List κ)
    (values : List ν) :
    ∃ position, (entries.map Prod.fst ++ keys).idxOf? key = some position ∧
      (entries.map Prod.snd ++ values)[position]? = some value := by
  induction entries with
  | nil => simp at found
  | cons entry entries ih =>
    obtain ⟨other, first⟩ := entry
    by_cases same : key = other
    · subst same
      obtain rfl : first = value := by simpa using found
      exact ⟨0, by simp [List.idxOf?_cons], by simp⟩
    · have notKey : (key == other) = false := by simpa using same
      have notOther : (other == key) = false := by simpa using Ne.symm same
      rw [lookup_cons, notKey] at found
      obtain ⟨position, first, second⟩ := ih found
      exact ⟨position + 1, by simp [List.idxOf?_cons, notOther, first], by simpa using second⟩

end MandateSolver

namespace MandateSolver

open List

/-- A map in the order of its insertions. -/
structure EntryMap (κ ν : Type) where
  entries : List (κ × ν)
  nodup_keys : (entries.map Prod.fst).Nodup
  deriving DecidableEq

namespace EntryMap

variable {κ ν : Type} [DecidableEq κ]

def get (map : EntryMap κ ν) (key : κ) : Option ν :=
  map.entries.lookup key

def insert (map : EntryMap κ ν) (key : κ) (value : ν) : EntryMap κ ν where
  entries := upsert key (fun _ => value) map.entries
  nodup_keys := upsert.nodup_keys key _ map.entries map.nodup_keys

def filter (map : EntryMap κ ν) (keep : κ → Bool) : EntryMap κ ν where
  entries := map.entries.filter fun entry => keep entry.1
  nodup_keys := (List.filter_sublist.map Prod.fst).nodup map.nodup_keys

def extend (map other : EntryMap κ ν) : EntryMap κ ν :=
  other.entries.foldl (fun map entry => map.insert entry.1 entry.2) map

def collect (entries : List (κ × ν)) : EntryMap κ ν :=
  entries.foldl (fun map entry => map.insert entry.1 entry.2) ⟨[], List.nodup_nil⟩

variable {map other : EntryMap κ ν} {key : κ} {value : ν} {keep : κ → Bool} {entries : List (κ × ν)}

theorem get_eq_some_iff : map.get key = some value ↔ (key, value) ∈ map.entries :=
  lookup_eq_some_iff_mem map.nodup_keys

@[simp] theorem get_insert_self : (map.insert key value).get key = some value :=
  upsert.lookup_self _ _ _

theorem get_insert_of_ne {searched : κ} (distinct : searched ≠ key) :
    (map.insert key value).get searched = map.get searched :=
  upsert.lookup_of_ne _ _ _ distinct

theorem get_of_get_filter
    (found : (map.filter keep).get key = some value) : map.get key = some value := by
  rw [get_eq_some_iff] at found ⊢
  exact (mem_filter.mp found).1

theorem get_filter (kept : keep key = true) : (map.filter keep).get key = map.get key := by
  apply Option.ext
  intro _
  simp only [get_eq_some_iff, filter, mem_filter, kept, and_true]

theorem get_filter_of_not (dropped : keep key = false) : (map.filter keep).get key = none := by
  apply Option.eq_none_iff_forall_ne_some.mpr
  intro _ found
  have kept := of_mem_filter (get_eq_some_iff.mp found)
  simp [dropped] at kept

theorem entries_foldl_insert (map : EntryMap κ ν) (entries : List (κ × ν)) :
    (entries.foldl (fun map entry => map.insert entry.1 entry.2) map).entries =
      insertAll entries map.entries := by
  induction entries generalizing map with
  | nil => rfl
  | cons entry entries ih => exact ih (map.insert _ _)

theorem entries_extend (map other : EntryMap κ ν) :
    (map.extend other).entries = insertAll other.entries map.entries :=
  entries_foldl_insert map other.entries

theorem mem_of_get_collect
    (found : (collect entries).get key = some value) : (key, value) ∈ entries := by
  unfold get collect at found
  rw [entries_foldl_insert, insertAll.lookup_eq, lookup_nil, Option.or_none] at found
  exact mem_reverse.mp (mem_of_lookup_eq_some found)

theorem get_extend (map other : EntryMap κ ν) (key : κ) :
    (map.extend other).get key = (other.get key).or (map.get key) := by
  have reversed : other.entries.reverse.lookup key = other.get key := by
    apply Option.ext
    intro _
    rw [get_eq_some_iff, lookup_eq_some_iff_mem, mem_reverse]
    rw [map_reverse, nodup_reverse]
    exact other.nodup_keys
  unfold get at reversed ⊢
  rw [entries_extend, insertAll.lookup_eq, reversed]

/-- Extending a map keeps the entries of both exactly when they agree on the
keys in common. -/
theorem extend_keeps_iff (map other : EntryMap κ ν) :
    (∀ key value, map.get key = some value ∨ other.get key = some value →
        (map.extend other).get key = some value) ↔
      ∀ key value replaced, map.get key = some replaced →
        other.get key = some value → replaced = value := by
  constructor
  · intro keeps key value replaced inMap inOther
    have kept := keeps key replaced (Or.inl inMap)
    rw [get_extend, inOther, Option.some_or, Option.some.injEq] at kept
    exact kept.symm
  · intro agree key value found
    rw [get_extend]
    cases inOther : other.get key with
    | none =>
      rw [inOther] at found
      simpa using found
    | some last =>
      rcases found with inMap | same
      · rw [agree key last value inMap inOther, Option.some_or]
      · rw [← same, inOther, Option.some_or]

/-! ## Keys -/

def keys (map : EntryMap κ ν) : List κ :=
  map.entries.map Prod.fst

def remove (map : EntryMap κ ν) (key : κ) : EntryMap κ ν :=
  map.filter (· ≠ key)

theorem isSome_get_iff : (map.get key).isSome ↔ key ∈ map.keys := by
  rw [Option.isSome_iff_exists, keys, mem_map]
  constructor
  · rintro ⟨value, found⟩
    exact ⟨(key, value), get_eq_some_iff.mp found, rfl⟩
  · rintro ⟨entry, listed, same⟩
    subst same
    exact ⟨entry.2, get_eq_some_iff.mpr listed⟩

omit [DecidableEq κ] in
theorem keys_filter (map : EntryMap κ ν) (keep : κ → Bool) :
    (map.filter keep).keys = map.keys.filter keep := by
  rw [keys, keys, filter_map]
  rfl

theorem keys_remove (map : EntryMap κ ν) (key : κ) :
    (map.remove key).keys = map.keys.filter (· ≠ key) :=
  keys_filter map _

theorem keys_foldl_remove {α : Type} (map : EntryMap κ ν) (items : List α) (key : α → κ) :
    (items.foldl (fun map item => map.remove (key item)) map).keys =
      map.keys.filter (· ∉ items.map key) := by
  induction items generalizing map with
  | nil => simp
  | cons item items ih =>
    rw [foldl_cons, ih, keys_remove, filter_filter]
    apply filter_congr
    intro _ _
    rw [map_cons, ← Bool.decide_and, decide_eq_decide, mem_cons, not_or]
    exact and_comm

theorem keys_collect (distinct : (entries.map Prod.fst).Nodup) :
    (collect entries).keys = entries.map Prod.fst := by
  have noneBefore : ∀ key ∈ entries.map Prod.fst, ([] : List (κ × ν)).lookup key = none :=
    fun _ _ => rfl
  rw [keys, collect, entries_foldl_insert, insertAll.of_nodup distinct noneBefore, nil_append]

end EntryMap

/-! ## Totals per key -/

section

variable {α κ : Type} [DecidableEq κ] (keyOf : α → κ) (amount : α → Nat)

def totalAt (key : κ) (items : List α) : Nat :=
  ((items.filter (keyOf · = key)).map amount).sum

namespace totalAt

variable {keyOf amount} {key : κ} {item : α} {items others : List α}

@[simp] theorem nil : totalAt keyOf amount key [] = 0 := rfl

theorem cons : totalAt keyOf amount key (item :: items) =
    (if keyOf item = key then amount item else 0) + totalAt keyOf amount key items := by
  by_cases counted : keyOf item = key <;> simp [totalAt, counted]

theorem append : totalAt keyOf amount key (items ++ others) =
    totalAt keyOf amount key items + totalAt keyOf amount key others := by
  simp [totalAt]

theorem perm (permutation : items.Perm others) :
    totalAt keyOf amount key items = totalAt keyOf amount key others :=
  ((permutation.filter _).map amount).sum_eq

theorem eq_zero (absent : ∀ item ∈ items, keyOf item ≠ key) :
    totalAt keyOf amount key items = 0 := by
  have none : items.filter (keyOf · = key) = [] := by
    simpa [filter_eq_nil_iff] using absent
  rw [totalAt, none, map_nil, sum_nil]

end totalAt

end

theorem EntryMap.totalAt_entries {κ ν : Type} [DecidableEq κ] (map : EntryMap κ ν)
    (amount : ν → Nat) (key : κ) :
    totalAt Prod.fst (amount ·.2) key map.entries = (map.get key).elim 0 amount := by
  obtain ⟨entries, distinct⟩ := map
  change _ = (entries.lookup key).elim 0 amount
  induction entries with
  | nil => rfl
  | cons entry entries ih =>
    obtain ⟨first, _⟩ := entry
    obtain ⟨fresh, distinct⟩ := nodup_cons.mp distinct
    rw [totalAt.cons]
    by_cases same : first = key
    · subst same
      have others : totalAt Prod.fst (amount ·.2) first entries = 0 := by
        apply totalAt.eq_zero
        intro entry mem sameKey
        exact fresh (mem_map.mpr ⟨entry, mem, sameKey⟩)
      simp [others]
    · have ne : (key == first) = false := by simpa using Ne.symm same
      rw [if_neg same, Nat.zero_add, lookup_cons, ne]
      exact ih distinct

end MandateSolver
