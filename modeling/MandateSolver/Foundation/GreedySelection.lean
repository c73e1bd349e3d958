import Mathlib.Data.List.Basic

/-!
# Greedy selection of items that share no key

An item is taken when a slot is left and none of its keys belongs to an item taken before
it.  Offering some items ahead of the others selects the same items exactly when all of them
are selected in the original order.
-/

namespace MandateSolver

open List

variable {α κ : Type} [DecidableEq κ] (keys : α → List κ)

/-- The items taken when `slots` of them may still be taken and the keys in
`taken` are no longer free. -/
def greedySelect : Nat → List κ → List α → List α
  | _, _, [] | 0, _, _ :: _ => []
  | slots + 1, taken, item :: rest =>
    if ∀ key ∈ keys item, key ∉ taken then
      item :: greedySelect slots (taken ++ keys item) rest
    else greedySelect (slots + 1) taken rest

namespace greedySelect

variable {keys} {slots : Nat} {taken : List κ} {item : α} {items : List α}

@[simp] theorem nil : greedySelect keys slots taken [] = [] := by
  cases slots <;> rfl

@[simp] theorem zero : greedySelect keys 0 taken items = [] := by
  cases items <;> rfl

theorem take (free : ∀ key ∈ keys item, key ∉ taken) :
    greedySelect keys (slots + 1) taken (item :: items) =
      item :: greedySelect keys slots (taken ++ keys item) items :=
  if_pos free

theorem skip (blocked : ¬ ∀ key ∈ keys item, key ∉ taken) :
    greedySelect keys slots taken (item :: items) = greedySelect keys slots taken items := by
  cases slots with
  | zero => simp
  | succ slots => exact if_neg blocked

variable (keys)

section

variable (slots : Nat) (taken : List κ) (items : List α)

theorem sublist : (greedySelect keys slots taken items).Sublist items := by
  fun_induction greedySelect keys slots taken items with
  | case1 => exact .refl _
  | case2 => exact nil_sublist _
  | case3 slots taken item rest free ih => exact ih.cons_cons item
  | case4 slots taken item rest blocked ih => exact ih.cons item

theorem length_le : (greedySelect keys slots taken items).length ≤ slots := by
  fun_induction greedySelect keys slots taken items with
  | case1 => exact Nat.zero_le _
  | case2 => exact Nat.le_refl 0
  | case3 slots taken item rest free ih =>
    exact Nat.succ_le_succ ih
  | case4 slots taken item rest blocked ih => exact ih

theorem free_of_mem :
    ∀ item ∈ greedySelect keys slots taken items, ∀ key ∈ keys item, key ∉ taken := by
  fun_induction greedySelect keys slots taken items with
  | case1 | case2 => simp
  | case3 slots taken first rest free ih =>
    intro item mem key keyMember
    rcases mem_cons.mp mem with rfl | later
    · exact free key keyMember
    · intro takenMember
      exact ih item later key keyMember (mem_append_left _ takenMember)
  | case4 slots taken first rest blocked ih => exact ih

theorem pairwise_disjoint :
    (greedySelect keys slots taken items).Pairwise fun left right =>
      ∀ key ∈ keys left, key ∉ keys right := by
  fun_induction greedySelect keys slots taken items with
  | case1 | case2 => exact .nil
  | case3 slots taken item rest free ih =>
    rw [pairwise_cons]
    refine ⟨?_, ih⟩
    intro later mem key ownKey laterKey
    exact free_of_mem keys _ _ _ later mem key laterKey (mem_append_right _ ownKey)
  | case4 slots taken item rest blocked ih => exact ih

end

/-- When the flag marks what is selected, an item without it has a key that was
taken, at the start or by a selected item offered before it, or else all slots
were used up by items offered before it. -/
theorem blocked_or_full {before : α → α → Prop} {flag : α → Bool} (ordered : items.Pairwise before)
    (marks : items.filter flag = greedySelect keys slots taken items) :
    ∀ item ∈ items, flag item = false → (∃ key ∈ keys item, key ∈ taken ∨
        ∃ chosen ∈ items.filter flag, before chosen item ∧ key ∈ keys chosen) ∨
      ((items.filter flag).length = slots ∧ ∀ chosen ∈ items.filter flag, before chosen item) := by
  fun_induction greedySelect keys slots taken items with
  | case1 => simp
  | case2 taken first rest =>
    intro item _ _
    rw [marks]
    exact Or.inr ⟨rfl, by simp⟩
  | case3 slots taken first rest free ih =>
    obtain ⟨firstBefore, ordered⟩ := pairwise_cons.mp ordered
    have marked : flag first = true := by
      apply of_mem_filter (l := first :: rest)
      rw [marks]
      exact mem_cons_self
    rw [filter_cons_of_pos marked, List.cons.injEq] at marks
    rw [filter_cons_of_pos marked]
    intro item mem unmarked
    rcases mem_cons.mp mem with rfl | later
    · simp [marked] at unmarked
    rcases ih ordered marks.2 item later unmarked with
      ⟨key, ownKey, isTaken | ⟨chosen, chosenMember, earlier, shared⟩⟩ |
      ⟨full, earlier⟩
    · rcases mem_append.mp isTaken with atStart | byFirst
      · exact Or.inl ⟨key, ownKey, Or.inl atStart⟩
      · exact Or.inl ⟨key, ownKey, Or.inr ⟨first, mem_cons_self, firstBefore item later, byFirst⟩⟩
    · exact Or.inl ⟨key, ownKey, Or.inr ⟨chosen, mem_cons_of_mem _ chosenMember, earlier, shared⟩⟩
    · right
      rw [length_cons, full, forall_mem_cons]
      exact ⟨rfl, firstBefore item later, earlier⟩
  | case4 slots taken first rest blocked ih =>
    have unmarkedFirst : ¬ flag first = true := by
      intro marked
      rw [filter_cons_of_pos marked] at marks
      apply blocked
      apply free_of_mem keys (slots + 1) taken rest first
      rw [← marks]
      exact mem_cons_self
    rw [filter_cons_of_neg unmarkedFirst] at marks ⊢
    intro item mem unmarked
    rcases mem_cons.mp mem with rfl | later
    · push Not at blocked
      obtain ⟨key, ownKey, isTaken⟩ := blocked
      exact Or.inl ⟨key, ownKey, Or.inl isTaken⟩
    · exact ih (pairwise_cons.mp ordered).2 marks item later unmarked

theorem congr_taken (slots : Nat) {left right : List κ}
    (same : ∀ key, key ∈ left ↔ key ∈ right) (items : List α) :
    greedySelect keys slots left items = greedySelect keys slots right items := by
  induction items generalizing slots left right with
  | nil => simp
  | cons item items ih =>
    cases slots with
    | zero => simp
    | succ slots =>
      by_cases free : ∀ key ∈ keys item, key ∉ left
      · have free' : ∀ key ∈ keys item, key ∉ right := by
          simpa only [same] using free
        rw [take free, take free', ih slots]
        simp [same]
      · have blocked : ¬ ∀ key ∈ keys item, key ∉ right := by
          simpa only [same] using free
        rw [skip free, skip blocked, ih (slots + 1) same]

theorem map {β : Type} (f : β → α) (slots : Nat) (taken : List κ) (items : List β) :
    greedySelect keys slots taken (items.map f) =
      (greedySelect (keys ∘ f) slots taken items).map f := by
  induction items generalizing slots taken with
  | nil => simp
  | cons item items ih =>
    cases slots with
    | zero => simp
    | succ slots =>
      by_cases free : ∀ key ∈ keys (f item), key ∉ taken
      · have free' : ∀ key ∈ (keys ∘ f) item, key ∉ taken := free
        rw [map_cons, take free, take free', ih]
        rfl
      · have blocked : ¬ ∀ key ∈ (keys ∘ f) item, key ∉ taken := free
        rw [map_cons, skip free, skip blocked, ih]

/-! ## Lists that are selected as a whole -/

theorem whole_mono {fewer more : Nat} (enough : fewer ≤ more)
    {all some : List κ} (subset : ∀ key ∈ some, key ∈ all) {items : List α}
    (whole : greedySelect keys fewer all items = items) :
    greedySelect keys more some items = items := by
  induction items generalizing fewer more all some with
  | nil => simp
  | cons item items ih =>
    cases fewer with
    | zero => simp at whole
    | succ fewer =>
      obtain ⟨more, rfl⟩ : ∃ rest, more = rest + 1 := ⟨more - 1, by omega⟩
      have mem : item ∈ greedySelect keys (fewer + 1) all (item :: items) := by
        simp [whole]
      have free := free_of_mem keys _ _ _ item mem
      have free' : ∀ key ∈ keys item, key ∉ some :=
        fun key keyMember taken => free key keyMember (subset key taken)
      rw [take free, List.cons.injEq] at whole
      rw [take free']
      congr 1
      apply ih (by omega) ?_ whole.2
      intro key keyMember
      rcases mem_append.mp keyMember with before | own
      · exact mem_append_left _ (subset key before)
      · exact mem_append_right _ own

theorem whole_of_sublist {chosen : List α}
    (part : chosen.Sublist (greedySelect keys slots taken items)) :
    greedySelect keys slots taken chosen = chosen := by
  fun_induction greedySelect keys slots taken items generalizing chosen with
  | case1 slots taken | case2 taken item rest =>
    rw [sublist_nil.mp part, nil]
  | case3 slots taken item rest free ih =>
    cases part with
    | cons _ part =>
      exact whole_mono keys (Nat.le_succ slots) (fun key mem => mem_append_left _ mem) (ih part)
    | cons_cons _ part => rw [take free, ih part]
  | case4 slots taken item rest blocked ih => exact ih part

theorem append_of_whole {first : List α}
    (whole : greedySelect keys slots taken first = first) (second : List α) :
    greedySelect keys slots taken (first ++ second) =
      first ++ greedySelect keys (slots - first.length) (taken ++ first.flatMap keys) second := by
  induction first generalizing slots taken with
  | nil => simp
  | cons item first ih =>
    cases slots with
    | zero => simp at whole
    | succ slots =>
      have mem : item ∈ greedySelect keys (slots + 1) taken (item :: first) := by
        simp [whole]
      have free := free_of_mem keys _ _ _ item mem
      rw [take free, List.cons.injEq] at whole
      rw [cons_append, take free, ih whole.2]
      simp

/-! ## Offering some items first -/

section

variable (preferred : α → Bool)

section

variable (kept : (greedySelect keys slots taken items).filter preferred = items.filter preferred)
include kept

theorem length_filter_le : (items.filter preferred).length ≤ slots := by
  rw [← kept]
  exact Nat.le_trans (List.length_filter_le _ _) (length_le keys _ _ _)

theorem not_mem_of_mem_flatMap {key : κ}
    (mem : key ∈ (items.filter preferred).flatMap keys) : key ∉ taken := by
  obtain ⟨chosen, chosenMember, keyMember⟩ := mem_flatMap.mp mem
  rw [← kept] at chosenMember
  exact free_of_mem keys _ _ _ chosen (mem_of_mem_filter chosenMember) key keyMember

/-- When every preferred item is selected, the other selected items are those
that fit next to all preferred ones. -/
theorem filter_not_eq : (greedySelect keys slots taken items).filter (!preferred ·) =
      greedySelect keys (slots - (items.filter preferred).length)
        (taken ++ (items.filter preferred).flatMap keys)
        (items.filter (!preferred ·)) := by
  fun_induction greedySelect keys slots taken items with
  | case1 | case2 => simp
  | case3 slots taken item rest free ih =>
    cases isPreferred : preferred item with
    | true =>
      simp only [isPreferred, filter_cons, if_true, List.cons.injEq, true_and] at kept
      simpa [isPreferred] using ih kept
    | false =>
      simp only [isPreferred, filter_cons, Bool.false_eq_true] at kept
      have fits := length_filter_le keys preferred kept
      have slotsLeft : slots + 1 - (rest.filter preferred).length =
          slots - (rest.filter preferred).length + 1 := by omega
      have stillFree : ∀ key ∈ keys item, key ∉ taken ++ (rest.filter preferred).flatMap keys := by
        intro key keyMember isTaken
        rcases mem_append.mp isTaken with before | other
        · exact free key keyMember before
        · exact not_mem_of_mem_flatMap keys preferred kept other (mem_append_right _ keyMember)
      simp only [filter_cons, isPreferred, Bool.not_false, if_true, Bool.false_eq_true, if_false]
      rw [slotsLeft, take stillFree, ih kept]
      congr 1
      apply congr_taken
      simp only [mem_append]
      tauto
  | case4 slots taken item rest blocked ih =>
    cases isPreferred : preferred item with
    | true =>
      -- A blocked preferred item is missing from the selection.
      have shorter := ((sublist keys (slots + 1) taken rest).filter preferred).length_le
      rw [kept, filter_cons_of_pos isPreferred, length_cons] at shorter
      omega
    | false =>
      have stillBlocked : ¬ ∀ key ∈ keys item,
          key ∉ taken ++ (rest.filter preferred).flatMap keys := by
        intro allFree
        exact blocked fun key keyMember before =>
          allFree key keyMember (mem_append_left _ before)
      simp only [isPreferred, filter_cons, Bool.false_eq_true] at kept
      simp only [filter_cons, isPreferred, Bool.not_false, if_true, Bool.false_eq_true, if_false]
      rw [skip stillBlocked, ih kept]

end

/-- Offering the preferred items first selects the same items exactly when
the preferred items are all selected in the given order. -/
theorem perm_preferredFirst_iff (whole : greedySelect keys slots taken (items.filter preferred) =
      items.filter preferred) :
    (greedySelect keys slots taken items).Perm (greedySelect keys slots taken
          (items.filter preferred ++ items.filter (!preferred ·))) ↔
      (greedySelect keys slots taken items).filter preferred = items.filter preferred := by
  rw [append_of_whole keys whole]
  constructor
  · intro same
    have others : (greedySelect keys (slots - (items.filter preferred).length)
        (taken ++ (items.filter preferred).flatMap keys)
        (items.filter (!preferred ·))).filter preferred = [] := by
      apply filter_eq_nil_iff.mpr
      intro item mem
      simpa using of_mem_filter ((sublist keys _ _ _).subset mem)
    have twice : (items.filter preferred).filter preferred = items.filter preferred :=
      filter_eq_self.mpr fun item mem => of_mem_filter mem
    have counts := (same.filter preferred).length_eq
    rw [filter_append, others, append_nil, twice] at counts
    exact ((sublist keys slots taken items).filter preferred).eq_of_length counts
  · intro kept
    rw [← filter_not_eq keys preferred kept, ← kept]
    exact (filter_append_perm preferred _).symm

end

end greedySelect

end MandateSolver
