import MandateSolver.Eth
import Mathlib.Algebra.Order.BigOperators.Group.Finset

/-!
# Candidate token paths

A hash set is a list without duplicates together with the order in which a run iterates over
it.  The candidates are exactly the simple paths over the base tokens.
-/

namespace MandateSolver

open List

/-- Some order in which a hash set is iterated. -/
structure HashOrder (α : Type) where
  iter : List α → List α
  perm : ∀ items, (iter items).Perm items

namespace HashOrder

variable {α : Type} {items : List α}

def inserted : HashOrder α := ⟨id, fun _ => .refl _⟩

def reversed : HashOrder α := ⟨List.reverse, reverse_perm⟩

/-- The order with one item last. -/
def last [DecidableEq α] (final : α) : HashOrder α where
  iter items := if final ∈ items then items.erase final ++ [final] else items
  perm items := by
    split
    · rename_i mem
      exact (perm_append_singleton final _).trans (perm_cons_erase mem).symm
    · exact .refl _

theorem iter_last [DecidableEq α] {final : α} (mem : final ∈ items) :
    ∃ before, (last final).iter items = before ++ [final] :=
  ⟨_, if_pos mem⟩

@[simp] theorem mem_iter (order : HashOrder α) {item : α} :
    item ∈ order.iter items ↔ item ∈ items :=
  (order.perm items).mem_iff

end HashOrder

def dedupAdjacent {α : Type} [DecidableEq α] : List α → List α
  | first :: second :: rest =>
    if first = second then dedupAdjacent (second :: rest)
    else first :: dedupAdjacent (second :: rest)
  | items => items

section

variable {α : Type}

@[simp] theorem mem_dedupAdjacent [DecidableEq α] {items : List α} {item : α} :
    item ∈ dedupAdjacent items ↔ item ∈ items := by
  fun_induction dedupAdjacent items with
  | case1 first rest ih | case2 first second rest distinct ih => simp [ih]
  | case3 items => rfl

theorem length_dedupAdjacent_le [DecidableEq α] (items : List α) :
    (dedupAdjacent items).length ≤ items.length := by
  fun_induction dedupAdjacent items with
  | case1 first rest ih | case2 first second rest distinct ih =>
    simp only [length_cons] at ih ⊢
    omega
  | case3 items => exact le_rfl

theorem nodup_dedupAdjacent [LinearOrder α] {items : List α}
    (sorted : items.Pairwise (· ≤ ·)) : (dedupAdjacent items).Nodup := by
  fun_induction dedupAdjacent items with
  | case1 first rest ih =>
    exact ih (pairwise_cons.mp sorted).2
  | case2 first second rest distinct ih =>
    obtain ⟨firstLe, restSorted⟩ := pairwise_cons.mp sorted
    refine nodup_cons.mpr ⟨?_, ih restSorted⟩
    rw [mem_dedupAdjacent]
    intro mem
    have secondLe : second ≤ first := by
      rcases mem_cons.mp mem with rfl | later
      · exact le_rfl
      · exact (pairwise_cons.mp restSorted).1 first later
    exact distinct (le_antisymm (firstLe second (by simp)) secondLe)
  | case3 items short =>
    match items, short with
    | [], _ => exact nodup_nil
    | [item], _ => exact nodup_singleton item
    | first :: second :: rest, short => exact (short first second rest rfl).elim

end

/-- The base tokens of the baseline solver, always with the native token. -/
structure BaseTokens where
  tokens : List Address
  nodup : tokens.Nodup

namespace BaseTokens

def new (nativeToken : Address) (baseTokens : List Address) : BaseTokens where
  tokens := dedupAdjacent ((baseTokens ++ [nativeToken]).insertionSort (· ≤ ·))
  nodup := nodup_dedupAdjacent (pairwise_insertionSort _ _)

@[simp] theorem mem_new {nativeToken token : Address} {baseTokens : List Address} :
    token ∈ (new nativeToken baseTokens).tokens ↔ token ∈ baseTokens ∨ token = nativeToken := by
  simp [new]

theorem length_new_le (nativeToken : Address) (baseTokens : List Address) :
    (new nativeToken baseTokens).tokens.length ≤ baseTokens.length + 1 := by
  refine (length_dedupAdjacent_le _).trans ?_
  simp

end BaseTokens

/-- The prefixes of the next round: every base token not yet on the path. -/
def nextRoundPathPrefixes (buyToken : Address) (tokens : List Address)
    (pathPrefixes : List (List Address)) : List (List Address) :=
  pathPrefixes.flatMap (fun pathPrefix =>
    (tokens.filter (fun token => token ≠ buyToken ∧ token ∉ pathPrefix)).map
      (fun token => pathPrefix ++ [token]))

def candidateRounds (buyToken : Address) (tokens : List Address) :
    Nat → List (List Address) → List (List Address) → List (List Address)
  | 0, _, candidates => candidates
  | rounds + 1, pathPrefixes, candidates =>
    candidateRounds buyToken tokens rounds (nextRoundPathPrefixes buyToken tokens pathPrefixes)
      (pathPrefixes.foldl (fun candidates pathPrefix =>
        candidates.insert (pathPrefix ++ [buyToken])) candidates)

/-- The candidate set, before any iteration order is applied to it. -/
def pathCandidates (sellToken buyToken : Address) (tokens : List Address)
    (maxHops : Nat) : List (List Address) :=
  if sellToken = buyToken then []
  else candidateRounds buyToken tokens (maxHops + 1) [[sellToken]] []

/-- The orders of all sets in one run. -/
structure RunOrder where
  (baseTokens tokens : HashOrder Address)
  candidates : HashOrder (List Address)

namespace RunOrder

def inserted : RunOrder := ⟨.inserted, .inserted, .inserted⟩

end RunOrder

def BaseTokens.pathCandidatesWithHops (baseTokens : BaseTokens)
    (order : RunOrder) (sellToken buyToken : Address) (maxHops : Nat) : List (List Address) :=
  order.candidates.iter (pathCandidates sellToken buyToken
    (order.tokens.iter baseTokens.tokens) maxHops)

/-! ## The candidates are the simple paths -/

/-- A path without repetition from one token to another through at most
`maxHops` of the given tokens. -/
structure SimplePath (tokens : List Address) (maxHops : Nat)
    (sellToken buyToken : Address) (path : List Address) : Prop where
  exists_middle : ∃ middle, path = sellToken :: (middle ++ [buyToken]) ∧
    (∀ token ∈ middle, token ∈ tokens) ∧ middle.length ≤ maxHops
  nodup : path.Nodup

variable {tokens path : List Address} {maxHops : Nat} {sellToken buyToken : Address}

theorem SimplePath.mono {otherTokens : List Address}
    (subset : ∀ token ∈ tokens, token ∈ otherTokens)
    (simplePath : SimplePath tokens maxHops sellToken buyToken path) :
    SimplePath otherTokens maxHops sellToken buyToken path := by
  obtain ⟨⟨middle, pathEq, inTokens, short⟩, nodup⟩ := simplePath
  exact ⟨⟨middle, pathEq, fun token mem =>
    subset token (inTokens token mem), short⟩, nodup⟩

theorem SimplePath.rest_ne_nil {rest : List Address}
    (simplePath : SimplePath tokens maxHops sellToken buyToken
      (sellToken :: rest)) : rest ≠ [] := by
  obtain ⟨_, pathEq, -, -⟩ := simplePath.exists_middle
  rw [(List.cons.inj pathEq).2]
  simp

section

variable {buyToken : Address} {tokens : List Address}

variable {pathPrefixes candidates : List (List Address)}

theorem mem_foldl_insert {path : List Address} :
    path ∈ pathPrefixes.foldl (fun candidates pathPrefix =>
        candidates.insert (pathPrefix ++ [buyToken])) candidates ↔
      path ∈ candidates ∨ ∃ pathPrefix ∈ pathPrefixes, path = pathPrefix ++ [buyToken] := by
  induction pathPrefixes generalizing candidates with
  | nil => simp
  | cons pathPrefix pathPrefixes ih =>
    rw [foldl_cons, ih, mem_insert_iff]
    simp only [mem_cons, exists_eq_or_imp]
    tauto

/-- Tokens that can be added to a path one after another. -/
inductive Extends (buyToken : Address) (tokens : List Address) :
    List Address → List Address → Prop where
  | refl (pathPrefix : List Address) : Extends buyToken tokens pathPrefix []
  | step {pathPrefix added : List Address} {token : Address} :
      token ∈ tokens → token ≠ buyToken → token ∉ pathPrefix →
      Extends buyToken tokens (pathPrefix ++ [token]) added →
      Extends buyToken tokens pathPrefix (token :: added)

theorem mem_nextRoundPathPrefixes {extended : List Address} :
    extended ∈ nextRoundPathPrefixes buyToken tokens pathPrefixes ↔
      ∃ pathPrefix ∈ pathPrefixes, ∃ token ∈ tokens, token ≠ buyToken ∧ token ∉ pathPrefix ∧
          extended = pathPrefix ++ [token] := by
  simp only [nextRoundPathPrefixes, mem_flatMap, mem_map, mem_filter, decide_eq_true_eq]
  constructor
  · rintro ⟨pathPrefix, mem, token, ⟨inTokens, notBuy, fresh⟩, rfl⟩
    exact ⟨pathPrefix, mem, token, inTokens, notBuy, fresh, rfl⟩
  · rintro ⟨pathPrefix, mem, token, inTokens, notBuy, fresh, rfl⟩
    exact ⟨pathPrefix, mem, token, ⟨inTokens, notBuy, fresh⟩, rfl⟩

theorem mem_candidateRounds {rounds : Nat} {path : List Address} :
    path ∈ candidateRounds buyToken tokens rounds pathPrefixes candidates ↔
      path ∈ candidates ∨ ∃ pathPrefix ∈ pathPrefixes, ∃ added,
        Extends buyToken tokens pathPrefix added ∧ added.length < rounds ∧
          path = pathPrefix ++ added ++ [buyToken] := by
  induction rounds generalizing pathPrefixes candidates with
  | zero => simp [candidateRounds]
  | succ rounds ih =>
    rw [candidateRounds, ih, mem_foldl_insert]
    constructor
    · rintro ((old | ⟨pathPrefix, mem, rfl⟩) | ⟨_, next, added, grows, short, rfl⟩)
      · exact Or.inl old
      · exact Or.inr ⟨pathPrefix, mem, [], .refl _, by simp, by simp⟩
      · obtain ⟨pathPrefix, mem, token, inTokens, notBuy, fresh, rfl⟩ :=
          mem_nextRoundPathPrefixes.mp next
        exact Or.inr ⟨pathPrefix, mem, token :: added,
          .step inTokens notBuy fresh grows, by simpa using short, by simp⟩
    · rintro (old | ⟨pathPrefix, mem, added, grows, short, rfl⟩)
      · exact Or.inl (Or.inl old)
      · cases grows with
        | refl => exact Or.inl (Or.inr ⟨pathPrefix, mem, by simp⟩)
        | @step _ added token inTokens notBuy fresh grows =>
          exact Or.inr ⟨_, mem_nextRoundPathPrefixes.mpr
              ⟨pathPrefix, mem, token, inTokens, notBuy, fresh, rfl⟩,
            added, grows, by simpa using short, by simp⟩

theorem extends_iff {pathPrefix added : List Address} :
    Extends buyToken tokens pathPrefix added ↔ added.Nodup ∧ ∀ token ∈ added,
        token ∈ tokens ∧ token ≠ buyToken ∧ token ∉ pathPrefix := by
  induction added generalizing pathPrefix with
  | nil => simp [Extends.refl]
  | cons token added ih =>
    constructor
    · intro grows
      cases grows with
      | step inTokens notBuy fresh grows =>
        obtain ⟨distinct, each⟩ := ih.mp grows
        refine ⟨nodup_cons.mpr ⟨?_, distinct⟩, ?_⟩
        · intro repeated
          exact (each token repeated).2.2 (by simp)
        · intro other mem
          rcases mem_cons.mp mem with rfl | later
          · exact ⟨inTokens, notBuy, fresh⟩
          · obtain ⟨inTokens, notBuy, absent⟩ := each other later
            exact ⟨inTokens, notBuy, fun present => absent (by simp [present])⟩
    · rintro ⟨distinct, each⟩
      obtain ⟨fresh, restDistinct⟩ := nodup_cons.mp distinct
      obtain ⟨inTokens, notBuy, absent⟩ := each token (by simp)
      refine .step inTokens notBuy absent (ih.mpr ⟨restDistinct, ?_⟩)
      intro other mem
      obtain ⟨otherIn, otherNotBuy, otherAbsent⟩ := each other (by simp [mem])
      refine ⟨otherIn, otherNotBuy, ?_⟩
      rw [mem_append, not_or]
      refine ⟨otherAbsent, ?_⟩
      rw [mem_singleton]
      rintro rfl
      exact fresh mem

end

theorem mem_pathCandidates_iff : path ∈ pathCandidates sellToken buyToken tokens maxHops ↔
      SimplePath tokens maxHops sellToken buyToken path := by
  unfold pathCandidates
  split
  · rename_i same
    subst same
    constructor
    · simp
    · rintro ⟨⟨middle, rfl, -, -⟩, nodup⟩
      simp at nodup
  · rename_i ne
    rw [mem_candidateRounds]
    constructor
    · rintro (absurd | ⟨pathPrefix, mem, added, grows, short, rfl⟩)
      · simp at absurd
      · rw [mem_singleton] at mem
        subst mem
        obtain ⟨distinct, each⟩ := extends_iff.mp grows
        refine ⟨⟨added, by simp, fun token mem => (each token mem).1, by omega⟩, ?_⟩
        have sellAbsent : sellToken ∉ added := fun mem =>
          (each sellToken mem).2.2 (by simp)
        have buyAbsent : buyToken ∉ added := fun mem =>
          (each buyToken mem).2.1 rfl
        simp only [cons_append, nil_append, nodup_cons, mem_append, mem_singleton, not_or]
        refine ⟨⟨sellAbsent, ne⟩, ?_⟩
        rw [nodup_append']
        simp [distinct, buyAbsent]
    · rintro ⟨⟨middle, rfl, inTokens, short⟩, nodup⟩
      obtain ⟨sellAbsent, restDistinct⟩ := nodup_cons.mp nodup
      rw [nodup_append'] at restDistinct
      obtain ⟨distinct, -, disjoint⟩ := restDistinct
      refine Or.inr ⟨[sellToken], by simp, middle, extends_iff.mpr
        ⟨distinct, fun token mem => ⟨inTokens token mem, ?_, ?_⟩⟩,
        by omega, by simp⟩
      · rintro rfl
        exact disjoint mem (by simp)
      · rw [mem_singleton]
        rintro rfl
        exact sellAbsent (by simp [mem])

theorem BaseTokens.mem_pathCandidatesWithHops {baseTokens : BaseTokens} {order : RunOrder} :
    path ∈ baseTokens.pathCandidatesWithHops order sellToken buyToken maxHops ↔
      SimplePath baseTokens.tokens maxHops sellToken buyToken path := by
  rw [pathCandidatesWithHops, HashOrder.mem_iter, mem_pathCandidates_iff]
  constructor <;> rintro ⟨⟨middle, rfl, inTokens, short⟩, nodup⟩ <;>
    exact ⟨⟨middle, rfl, by simpa using inTokens, short⟩, nodup⟩

/-! ## The number of candidates -/

section

variable {buyToken : Address} {tokens : List Address}

private theorem length_foldl_insert_le (pathPrefixes candidates : List (List Address)) :
    (pathPrefixes.foldl (fun candidates pathPrefix =>
      candidates.insert (pathPrefix ++ [buyToken])) candidates).length ≤
        candidates.length + pathPrefixes.length := by
  induction pathPrefixes generalizing candidates with
  | nil => simp
  | cons pathPrefix pathPrefixes ih =>
    have inserted : (candidates.insert (pathPrefix ++ [buyToken])).length ≤
          candidates.length + 1 := by
      rw [length_insert]
      split <;> omega
    have rest := ih (candidates.insert (pathPrefix ++ [buyToken]))
    simp only [foldl_cons, length_cons]
    omega

private theorem length_nextRoundPathPrefixes_le (pathPrefixes : List (List Address)) :
    (nextRoundPathPrefixes buyToken tokens pathPrefixes).length ≤
      pathPrefixes.length * tokens.length := by
  induction pathPrefixes with
  | nil => simp [nextRoundPathPrefixes]
  | cons pathPrefix pathPrefixes ih =>
    have fresh := length_filter_le
      (fun token => decide (token ≠ buyToken ∧ token ∉ pathPrefix)) tokens
    simp only [nextRoundPathPrefixes, flatMap_cons, length_append,
      length_map, length_cons, Nat.add_mul] at ih ⊢
    omega

private theorem length_candidateRounds_le (rounds : Nat)
    (pathPrefixes candidates : List (List Address)) :
    (candidateRounds buyToken tokens rounds pathPrefixes candidates).length ≤
      candidates.length + ∑ round ∈ Finset.range rounds,
          pathPrefixes.length * tokens.length ^ round := by
  induction rounds generalizing pathPrefixes candidates with
  | zero => simp [candidateRounds]
  | succ rounds ih =>
    have grown : (nextRoundPathPrefixes buyToken tokens pathPrefixes).length ≤
        pathPrefixes.length * tokens.length :=
      length_nextRoundPathPrefixes_le pathPrefixes
    calc (candidateRounds buyToken tokens (rounds + 1) pathPrefixes candidates).length
      _ ≤ _ := ih _ _
      _ ≤ (candidates.length + pathPrefixes.length) + ∑ round ∈ Finset.range rounds,
              pathPrefixes.length * tokens.length * tokens.length ^ round := by
          refine Nat.add_le_add (length_foldl_insert_le _ _) ?_
          exact Finset.sum_le_sum fun round _ => Nat.mul_le_mul_right _ grown
      _ = candidates.length + ∑ round ∈ Finset.range (rounds + 1),
            pathPrefixes.length * tokens.length ^ round := by
          rw [Finset.sum_range_succ']
          simp only [Nat.pow_zero, Nat.mul_assoc, ← Nat.pow_succ', Nat.succ_eq_add_one]
          omega

theorem length_pathCandidates_le (sellToken buyToken : Address)
    (tokens : List Address) (maxHops : Nat) :
    (pathCandidates sellToken buyToken tokens maxHops).length ≤
      ∑ round ∈ Finset.range (maxHops + 1), tokens.length ^ round := by
  unfold pathCandidates
  split
  · simp
  · refine (length_candidateRounds_le _ _ _).trans ?_
    simp

end

end MandateSolver
