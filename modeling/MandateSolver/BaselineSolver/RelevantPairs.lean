import MandateSolver.BaselineSolver.PathCandidates

/-!
# The pairs that candidate paths trade

Liquidity is fetched ahead of time for all pairs that a candidate path could use.
-/

namespace MandateSolver

open List

abbrev Usize := BitVec 64

/-- The candidates as they are computed: the largest number of hops has no successor,
and the loop is then not entered at all. -/
def pathCandidatesUsize (sellToken buyToken : Address) (tokens : List Address)
    (maxHops : Usize) : List (List Address) :=
  if sellToken = buyToken then []
  else candidateRounds buyToken tokens (maxHops + 1).toNat [[sellToken]] []

def baseTokenPairs (baseTokens : List Address) : List TokenPair :=
  baseTokens.zipIdx.flatMap fun (token, index) =>
    (baseTokens.drop index).filterMap (TokenPair.new token)

namespace BaseTokens

section

variable (baseTokens : BaseTokens)

/-- The pairs of base tokens. -/
def pairs : Finset TokenPair :=
  (baseTokenPairs baseTokens.tokens).toFinset

def extendRelevant (result : Finset TokenPair) (pair : TokenPair) : Finset TokenPair :=
  [pair.first, pair.second].foldl (fun result token =>
    result ∪ (baseTokens.tokens.filterMap fun baseToken =>
      TokenPair.new baseToken token).toFinset) (insert pair result)

def relevantPairs (pairs : List TokenPair) : Finset TokenPair :=
  let result := pairs.foldl baseTokens.extendRelevant ∅
  if result ≠ ∅ then result ∪ baseTokens.pairs else result

end

end BaseTokens

/-! ## Pairs of base tokens -/

variable {pair : TokenPair} {tokens path : List Address} {maxHops : Nat}

theorem mem_baseTokenPairs {left right : Address}
    (leftMember : left ∈ tokens) (rightMember : right ∈ tokens)
    (built : TokenPair.new left right = some pair) : pair ∈ baseTokenPairs tokens := by
  obtain ⟨leftIndex, leftAt⟩ := mem_iff_getElem?.mp leftMember
  obtain ⟨rightIndex, rightAt⟩ := mem_iff_getElem?.mp rightMember
  have later {first second : Address} {firstIndex secondIndex : Nat}
      (firstAt : tokens[firstIndex]? = some first)
      (secondAt : tokens[secondIndex]? = some second) (le : firstIndex ≤ secondIndex)
      (built : TokenPair.new first second = some pair) :
      pair ∈ baseTokenPairs tokens := by
    apply mem_flatMap.mpr
    refine ⟨(first, firstIndex), mem_zipIdx_iff_getElem?.mpr firstAt, ?_⟩
    apply mem_filterMap.mpr
    refine ⟨second, mem_iff_getElem?.mpr ⟨secondIndex - firstIndex, ?_⟩, built⟩
    rw [List.getElem?_drop, Nat.add_sub_cancel' le]
    exact secondAt
  rcases Nat.le_total leftIndex rightIndex with le | le
  · exact later leftAt rightAt le built
  · apply later rightAt leftAt le
    rw [TokenPair.new_comm]
    exact built

namespace BaseTokens

variable {baseTokens : BaseTokens} {other : TokenPair}

theorem mem_extendRelevant {result : Finset TokenPair} :
    other ∈ baseTokens.extendRelevant result pair ↔
      other ∈ result ∨ other = pair ∨ ∃ token, (token = pair.first ∨ token = pair.second) ∧
        ∃ baseToken ∈ baseTokens.tokens, TokenPair.new baseToken token = some other := by
  simp only [extendRelevant, foldl_cons, foldl_nil, Finset.mem_union,
    Finset.mem_insert, mem_toFinset, mem_filterMap, or_and_right, exists_or,
    exists_eq_left, or_assoc]
  exact or_left_comm

/-- The pairs relevant for one pair: the pair itself, its tokens with base tokens, and
all pairs of base tokens. -/
theorem mem_relevantPairs_singleton :
    other ∈ baseTokens.relevantPairs [pair] ↔
      other = pair ∨ (∃ token, (token = pair.first ∨ token = pair.second) ∧
        ∃ baseToken ∈ baseTokens.tokens, TokenPair.new baseToken token = some other) ∨
      other ∈ baseTokens.pairs := by
  have nonempty : baseTokens.extendRelevant ∅ pair ≠ ∅ := by
    apply Finset.ne_empty_of_mem
    exact mem_extendRelevant.mpr (Or.inr (Or.inl rfl))
  rw [relevantPairs, foldl_cons, foldl_nil, if_pos nonempty, Finset.mem_union, mem_extendRelevant]
  simp only [Finset.notMem_empty, false_or, or_assoc]

theorem exists_relevant {left right : Address}
    (leftKnown : (left = pair.first ∨ left = pair.second) ∨ left ∈ baseTokens.tokens)
    (rightKnown : (right = pair.first ∨ right = pair.second) ∨
      right ∈ baseTokens.tokens) (ne : left ≠ right) :
    ∃ hop ∈ baseTokens.relevantPairs [pair], TokenPair.new left right = some hop := by
  obtain ⟨hop, built⟩ := Option.ne_none_iff_exists'.mp
    (fun same => ne (TokenPair.new_eq_none_iff.mp same))
  refine ⟨hop, mem_relevantPairs_singleton.mpr ?_, built⟩
  rcases leftKnown with leftEnd | leftBase
  · rcases rightKnown with rightEnd | rightBase
    · left
      have whole : TokenPair.new left right = some pair := by
        apply TokenPair.new_eq_some_iff.mpr
        rcases leftEnd with rfl | rfl
        · rcases rightEnd with rfl | rfl
          · exact absurd rfl ne
          · exact Or.inl ⟨rfl, rfl⟩
        · rcases rightEnd with rfl | rfl
          · exact Or.inr ⟨rfl, rfl⟩
          · exact absurd rfl ne
      exact Option.some.inj (built.symm.trans whole)
    · right
      left
      exact ⟨left, leftEnd, right, rightBase, (TokenPair.new_comm right left).trans built⟩
  · rcases rightKnown with rightEnd | rightBase
    · right
      left
      exact ⟨right, rightEnd, left, leftBase, built⟩
    · right
      right
      exact mem_toFinset.mpr (mem_baseTokenPairs leftBase rightBase built)

end BaseTokens

/-! ## The candidates -/

theorem pathCandidatesUsize_eq {maxHops : Usize} (notLargest : maxHops ≠ BitVec.allOnes 64)
    (sellToken buyToken : Address) (tokens : List Address) :
    pathCandidatesUsize sellToken buyToken tokens maxHops =
      pathCandidates sellToken buyToken tokens maxHops.toNat := by
  have next : (maxHops + 1).toNat = maxHops.toNat + 1 := by
    have smaller : maxHops.toNat ≠ 2 ^ 64 - 1 := fun largest =>
      notLargest (BitVec.eq_of_toNat_eq (largest.trans BitVec.toNat_allOnes.symm))
    change (maxHops.toNat + 1) % 2 ^ 64 = _
    exact Nat.mod_eq_of_lt (by omega)
  rw [pathCandidatesUsize, pathCandidates, next]

theorem simplePath_iff
    {sellToken buyToken : Address} (ne : sellToken ≠ buyToken) :
    SimplePath tokens maxHops sellToken buyToken path ↔
      ∃ middle, path = sellToken :: (middle ++ [buyToken]) ∧
        middle.length ≤ maxHops ∧ middle.Nodup ∧ ∀ token ∈ middle,
          token ∈ tokens ∧ token ≠ sellToken ∧ token ≠ buyToken := by
  constructor
  · intro simple
    obtain ⟨⟨middle, rfl, base, short⟩, nodup⟩ := simple
    obtain ⟨notSell, nodup⟩ := nodup_cons.mp nodup
    obtain ⟨nodup, _, disjoint⟩ := nodup_append'.mp nodup
    refine ⟨middle, rfl, short, nodup, fun token mem => ⟨base token mem, ?_, ?_⟩⟩
    · intro isSell
      exact notSell (isSell ▸ mem_append_left _ mem)
    · intro isBuy
      exact disjoint mem (mem_singleton.mpr isBuy)
  · intro listed
    obtain ⟨middle, rfl, short, nodup, base⟩ := listed
    refine ⟨⟨middle, rfl, fun token mem => (base token mem).1, short⟩, ?_⟩
    rw [nodup_cons, nodup_append', mem_append, mem_singleton, not_or]
    refine ⟨⟨fun mem => (base _ mem).2.1 rfl, ne⟩, nodup, nodup_singleton _, ?_⟩
    intro token mem isBuy
    exact (base token mem).2.2 (mem_singleton.mp isBuy)

theorem SimplePath.isChain_relevant {baseTokens : BaseTokens} {sellToken buyToken : Address}
    (simple : SimplePath baseTokens.tokens maxHops sellToken buyToken path)
    (built : TokenPair.new sellToken buyToken = some pair) :
    path.IsChain fun left right =>
      ∃ hop ∈ baseTokens.relevantPairs [pair], TokenPair.new left right = some hop := by
  obtain ⟨⟨middle, rfl, base, _⟩, nodup⟩ := simple
  have ends : (sellToken = pair.first ∨ sellToken = pair.second) ∧
      (buyToken = pair.first ∨ buyToken = pair.second) := by
    rcases TokenPair.new_eq_some_iff.mp built with ⟨rfl, rfl⟩ | ⟨rfl, rfl⟩
    · exact ⟨Or.inl rfl, Or.inr rfl⟩
    · exact ⟨Or.inr rfl, Or.inl rfl⟩
  have known : ∀ token ∈ sellToken :: (middle ++ [buyToken]),
      (token = pair.first ∨ token = pair.second) ∨ token ∈ baseTokens.tokens := by
    intro token mem
    rw [mem_cons, mem_append, mem_singleton] at mem
    rcases mem with rfl | inMiddle | rfl
    · exact Or.inl ends.1
    · exact Or.inr (base token inMiddle)
    · exact Or.inl ends.2
  apply List.Pairwise.isChain
  apply List.Pairwise.imp_of_mem _ nodup
  intro left right leftMember rightMember ne
  exact BaseTokens.exists_relevant (known left leftMember) (known right rightMember) ne

/-- The candidates are exactly the paths over different base tokens, and every hop of
them is a pair that liquidity is fetched for. -/
theorem pathCandidates_exact (order : HashOrder Address) (baseTokens : BaseTokens)
    (sellToken buyToken : Address) (maxHops : Usize) (notLargest : maxHops ≠ BitVec.allOnes 64) :
    let candidates := pathCandidatesUsize sellToken buyToken
      (order.iter baseTokens.tokens) maxHops
    (sellToken = buyToken → candidates = []) ∧
    ∀ pair, TokenPair.new sellToken buyToken = some pair →
      (∀ path, path ∈ candidates ↔ ∃ middle, path = sellToken :: (middle ++ [buyToken]) ∧
        middle.length ≤ maxHops.toNat ∧ middle.Nodup ∧ ∀ token ∈ middle,
          token ∈ baseTokens.tokens ∧ token ≠ sellToken ∧ token ≠ buyToken) ∧
      ∀ path ∈ candidates, path.IsChain fun left right =>
        ∃ hop ∈ baseTokens.relevantPairs [pair], TokenPair.new left right = some hop := by
  intro candidates
  have isSimple path : path ∈ candidates ↔
      SimplePath baseTokens.tokens maxHops.toNat sellToken buyToken path := by
    rw [show candidates = _ from
      pathCandidatesUsize_eq notLargest sellToken buyToken _, mem_pathCandidates_iff]
    constructor
    · exact SimplePath.mono fun token => order.mem_iter.mp
    · exact SimplePath.mono fun token => order.mem_iter.mpr
  constructor
  · intro equal
    exact if_pos equal
  · intro pair built
    have ne : sellToken ≠ buyToken := by
      intro equal
      rw [TokenPair.new_eq_none_iff.mpr equal] at built
      cases built
    constructor
    · intro path
      rw [isSimple, simplePath_iff ne]
    · intro path mem
      exact ((isSimple path).mp mem).isChain_relevant built

theorem pathCandidates_exact_oneHop : ([1, 3, 2] : List Address).IsChain fun left right =>
      ∃ hop ∈ (BaseTokens.new 3 []).relevantPairs [⟨1, 2, by decide⟩],
        TokenPair.new left right = some hop := by
  have found := pathCandidates_exact .inserted (.new 3 []) 1 2 1 (by decide)
  exact (found.2 ⟨1, 2, by decide⟩ (by decide)).2 _ (by decide +kernel)

/-- With the largest number of hops not even the direct path is found. -/
theorem pathCandidates_none_for_largest :
    pathCandidatesUsize 1 2 (HashOrder.inserted.iter (BaseTokens.new 3 []).tokens)
      (BitVec.allOnes 64) = [] := by
  decide +kernel

end MandateSolver
