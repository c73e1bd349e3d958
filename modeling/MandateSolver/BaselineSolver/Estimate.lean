import MandateSolver.Foundation.ExtremalChoice
import MandateSolver.Foundation.LayeredSearch
import MandateSolver.Eth
import Mathlib.Data.List.ReduceOption

/-!
# Estimating a path

Both estimates keep, at every hop, the pool with the best amount.  A remote quoter may
answer the same question differently at another place of the run.
-/

namespace MandateSolver

open List

open Outcome hiding none

/-- Paths are estimated, then traversed. -/
inductive Phase where
  | estimate
  | traverse

/-- When a pool is asked for a price. -/
structure Call where
  phase : Phase
  path : List Address
  (hop pool : Nat)

def Call.any : Call := ⟨.estimate, [], 0, 0⟩

/-- Pools that can quote both directions. -/
class BaselineSolvable (L : Type) where
  getAmountOut : L → Call → (outToken : Address) → (inAmount : U256) →
    (inToken : Address) → Outcome Unit U256
  getAmountIn : L → Call → (inToken : Address) → (outAmount : U256) →
    (outToken : Address) → Outcome Unit U256
  gasCost : L → Nat

abbrev PoolMap (L : Type) := TokenPair → Option (List L)

def PoolMap.between {L : Type} (liquidity : PoolMap L) (target source : Address) : List L :=
  ((TokenPair.new target source).bind liquidity).getD []

/-- The best pools of a path with their result. -/
structure Estimate (V L : Type) where
  value : V
  path : List L

/-! ## Greedy search along a path -/

section

variable {V L : Type}

def hopAmounts (ask : L → Call → Outcome Unit V) (pools : List L)
    (call : Nat → Call) : Outcome Unit (List (L × V)) := do
  let amounts ← pools.zipIdx.mapM (fun pool => (do
    let amount ← ask pool.1 (call pool.2)
    return (pool.1, amount) : Outcome Unit (L × V)).attempt)
  return amounts.reduceOption

/-- The loop both estimates share: they differ in the question they ask and
in the pool they keep. -/
def greedyHops (ask : L → Call → Address → V → Address → Outcome Unit V)
    (choose : List (L × V) → Option (L × V)) (liquidity : PoolMap L) (fullPath : List Address) :
    Nat → V → Address → List L → List Address → Outcome Unit (Estimate V L)
  | _, amount, _, path, [] => .ok ⟨amount, path⟩
  | hop, amount, previousToken, path, current :: rest => do
    let pair ← ofOption (TokenPair.new current previousToken)
    let pools ← ofOption (liquidity pair)
    let outputs ← hopAmounts
      (fun pool call => ask pool call current amount previousToken)
      pools (Call.mk .estimate fullPath hop)
    let (bestLiquidity, amount) ← ofOption (choose outputs)
    greedyHops ask choose liquidity fullPath (hop + 1) amount current (path ++ [bestLiquidity]) rest

end

section

variable {L : Type} [BaselineSolvable L]

def estimateBuyAmount (liquidity : PoolMap L) (sellAmount : U256)
    (path : List Address) : Outcome Unit (Estimate U256 L) :=
  match path with
  | [] => .none
  | sellToken :: rest =>
    greedyHops BaselineSolvable.getAmountOut (maxBy (compareOn Prod.snd))
      liquidity path 0 sellAmount sellToken [] rest

def estimateSellAmount (liquidity : PoolMap L) (buyAmount : U256)
    (path : List Address) : Outcome Unit (Estimate U256 L) :=
  match path.reverse with
  | [] => .none
  | buyToken :: rest => do
    let estimate ← greedyHops BaselineSolvable.getAmountIn
      (minBy (compareOn Prod.snd)) liquidity path 0 buyAmount buyToken [] rest
    return { estimate with path := estimate.path.reverse }

end

/-! ## What the search finds -/

section

variable {V L : Type}

/-- Every pool of the map answers the question as `price` says: it does not
abort, and it answers alike at every place of a run. -/
def PoolMap.Priced (liquidity : PoolMap L) (ask : L → Call → Address → V → Address → Outcome Unit V)
    (price : L → Address → Address → V → Option V) : Prop :=
  ∀ target source, ∀ pool ∈ liquidity.between target source, ∀ call amount,
    ask pool call target amount source = ofOption (price pool target source amount)

def hopLayers (price : L → Address → Address → V → Option V) (liquidity : PoolMap L) :
    Address → List Address → List (List (V → Option V))
  | _, [] => []
  | previousToken, current :: rest =>
    (liquidity.between current previousToken).map (fun pool => price pool current previousToken) ::
      hopLayers price liquidity current rest

/-- Pools along a path, each priced with the amount of the one before. -/
inductive Walk (price : L → Address → Address → V → Option V) (liquidity : PoolMap L) :
    Address → V → List Address → List L → V → Prop where
  | nil (token : Address) (amount : V) : Walk price liquidity token amount [] [] amount
  | cons {token next : Address} {amount output value : V}
      {rest : List Address} {pool : L} {pools : List L} :
      pool ∈ liquidity.between next token →
      price pool next token amount = some output →
      Walk price liquidity next output rest pools value →
      Walk price liquidity token amount (next :: rest) (pool :: pools) value

/-- The search without a run: at each hop the chosen one of the pools that
have a price. -/
def greedyAlong (price : L → Address → Address → V → Option V)
    (choose : List (L × V) → Option (L × V)) (liquidity : PoolMap L) :
    Address → V → List Address → Option (V × List L)
  | _, amount, [] => some (amount, [])
  | token, amount, next :: rest => do
    let (pool, output) ← choose ((liquidity.between next token).filterMap
      (fun pool => (price pool next token amount).map (pool, ·)))
    let (value, pools) ← greedyAlong price choose liquidity next output rest
    return (value, pool :: pools)

/-- One pool for every hop of a path. -/
inductive Along (liquidity : PoolMap L) :
    Address → List Address → List L → Prop where
  | nil (token : Address) : Along liquidity token [] []
  | cons {token next : Address} {rest : List Address} {pool : L} {pools : List L} :
      pool ∈ liquidity.between next token →
      Along liquidity next rest pools →
      Along liquidity token (next :: rest) (pool :: pools)

variable {ask : L → Call → Address → V → Address → Outcome Unit V}
  {choose : List (L × V) → Option (L × V)}
  {price : L → Address → Address → V → Option V} {liquidity : PoolMap L}

variable {pools : List L}

theorem between_eq {pair : TokenPair} {target source : Address}
    (built : TokenPair.new target source = some pair) (found : liquidity pair = some pools) :
    liquidity.between target source = pools := by
  simp [PoolMap.between, built, found]

variable {call : Nat → Call}

theorem hopAmounts_noPanic {ask : L → Call → Outcome Unit V}
    (safe : ∀ pool ∈ pools, ∀ call, NoPanic (ask pool call)) :
    NoPanic (hopAmounts ask pools call) := by
  refine NoPanic.seq (NoPanic.mapM fun pool mem => ?_) (by simp)
  rw [noPanic_attempt_iff]
  exact (safe pool.1 (fst_mem_of_mem_zipIdx mem) _).seq (by simp)

theorem greedyHops_noPanic (safe : ∀ target source, ∀ pool ∈ liquidity.between target source,
      ∀ call amount, NoPanic (ask pool call target amount source))
    (fullPath : List Address) (hop : Nat) (amount : V) (token : Address)
    (path : List L) (rest : List Address) :
    NoPanic (greedyHops ask choose liquidity fullPath hop amount token path rest) := by
  induction rest generalizing hop amount token path with
  | nil => simp [greedyHops]
  | cons current rest ih =>
    refine NoPanic.bind (by simp) fun pair built => ?_
    refine NoPanic.bind (by simp) fun pools found => ?_
    rw [okOr_eq_ok_iff] at built found
    rw [← between_eq built found]
    refine (hopAmounts_noPanic fun pool mem call =>
      safe current token pool mem call amount).seq fun outputs => ?_
    exact NoPanic.seq (by simp) fun best => ih _ _ _ _

theorem mem_of_hopAmounts_eq_ok {ask : L → Call → Outcome Unit V} {amounts : List (L × V)}
    (success : hopAmounts ask pools call = .ok amounts)
    {offer : L × V} (mem : offer ∈ amounts) : offer.1 ∈ pools := by
  rw [hopAmounts, bind_eq_ok_iff] at success
  obtain ⟨_, answered, success⟩ := success
  cases success
  rw [reduceOption_mem_iff, mapM_attempt_eq_ok answered, mem_map] at mem
  obtain ⟨_, poolMem, answer⟩ := mem
  rw [toOption_eq_some_iff, bind_eq_ok_iff] at answer
  obtain ⟨_, -, answer⟩ := answer
  cases answer
  exact fst_mem_of_mem_zipIdx poolMem

variable {amount : V} {token : Address} {rest : List Address}

theorem greedyHops_along (picks : ∀ items chosen, choose items = some chosen → chosen ∈ items)
    {fullPath : List Address} {hop : Nat} {path : List L} {estimate : Estimate V L}
    (success : greedyHops ask choose liquidity fullPath hop amount token path rest = .ok estimate) :
    ∃ pools, estimate.path = path ++ pools ∧ Along liquidity token rest pools := by
  induction rest generalizing hop amount token path with
  | nil =>
    obtain rfl : (⟨amount, path⟩) = estimate := by
      simpa [greedyHops] using success
    exact ⟨[], by simp, .nil _⟩
  | cons current rest ih =>
    simp only [greedyHops, bind_eq_ok_iff, okOr_eq_ok_iff] at success
    obtain ⟨_, built, pools, found, _, outputsOk, best, chosen, success⟩ := success
    rw [← between_eq built found] at outputsOk
    obtain ⟨pools, pathEq, along⟩ := ih success
    exact ⟨best.1 :: pools, by simp [pathEq],
      .cons (mem_of_hopAmounts_eq_ok outputsOk (picks _ _ chosen)) along⟩

theorem hopAmounts_eq {ask : L → Call → Outcome Unit V} {price : L → Option V}
    (priced : ∀ pool ∈ pools, ∀ call, ask pool call = ofOption (price pool)) :
    hopAmounts ask pools call = .ok (pools.filterMap (fun pool => (price pool).map (pool, ·))) := by
  have each : ∀ pool ∈ pools.zipIdx, (do
      let amount ← ask pool.1 (call pool.2)
      return (pool.1, amount)) =
        ofOption ((price pool.1).map (pool.1, ·)) := by
    intro pool mem
    rw [priced pool.1 (fst_mem_of_mem_zipIdx mem)]
    cases price pool.1 <;> rfl
  have answers : pools.zipIdx.map (fun pool => (do
      let amount ← ask pool.1 (call pool.2)
      return (pool.1, amount)).toOption) =
        pools.map (fun pool => (price pool).map (pool, ·)) := by
    conv_rhs => rw [← zipIdx_map_fst 0 pools, map_map]
    refine map_congr_left fun pool mem => ?_
    rw [each pool mem, toOption_okOr]
    rfl
  unfold hopAmounts
  rw [mapM_attempt_of_noPanic fun pool mem => by
      rw [each pool mem]
      simp, ok_bind, answers, List.reduceOption, filterMap_map]
  rfl

variable {pool : L}

private theorem mem_offers_iff {price : L → Option V} :
    (pool, amount) ∈ pools.filterMap (fun pool => (price pool).map (pool, ·)) ↔
      pool ∈ pools ∧ price pool = some amount := by
  simp only [mem_filterMap, Option.map_eq_some_iff, Prod.mk.injEq]
  constructor
  · rintro ⟨_, mem, _, priced, rfl, rfl⟩
    exact ⟨mem, priced⟩
  · rintro ⟨mem, priced⟩
    exact ⟨pool, mem, amount, priced, rfl, rfl⟩

theorem greedyAlong_congr {other : PoolMap L} (same : ∀ target source,
      liquidity.between target source = other.between target source)
    (token : Address) (amount : V) (rest : List Address) :
    greedyAlong price choose liquidity token amount rest =
      greedyAlong price choose other token amount rest := by
  induction rest generalizing token amount with
  | nil => rfl
  | cons next rest ih => simp only [greedyAlong, same, ih]

theorem Along.exists_between (along : Along liquidity token rest pools) (mem : pool ∈ pools) :
    ∃ target ∈ token :: rest, ∃ source ∈ token :: rest, pool ∈ liquidity.between target source := by
  induction along with
  | nil => simp at mem
  | @cons token next rest first pools firstMember _ ih =>
    rcases mem_cons.mp mem with rfl | later
    · exact ⟨next, by simp, token, by simp, firstMember⟩
    · obtain ⟨target, targetMember, source, sourceMember, inMap⟩ := ih later
      exact ⟨target, mem_cons_of_mem _ targetMember, source, mem_cons_of_mem _ sourceMember, inMap⟩

variable {value : V}

theorem Walk.reaches (walk : Walk price liquidity token amount rest pools value) :
    Reaches (hopLayers price liquidity token rest) amount value := by
  induction walk with
  | nil => exact .nil _
  | @cons token next amount output value rest pool pools mem quoted _ ih =>
    exact .cons (mem_map.mpr ⟨pool, mem, rfl⟩) quoted ih

variable [LinearOrder V]

/-- All that is needed of the choice among the pools of a hop. -/
structure ChoosesBest (choose : List (L × V) → Option (L × V)) : Prop where
  best : ∀ {items chosen}, choose items = some chosen →
    chosen ∈ items ∧ ∀ item ∈ items, item.2 ≤ chosen.2
  eq_none_iff : ∀ {items}, choose items = none ↔ items = []

theorem ChoosesBest.isBestStep (chooses : ChoosesBest choose) {target source : Address} {output : V}
    (chosen : choose ((liquidity.between target source).filterMap
      (fun pool => (price pool target source amount).map (pool, ·))) = some (pool, output)) :
    pool ∈ liquidity.between target source ∧ price pool target source amount = some output ∧
      IsBestStep ((liquidity.between target source).map
        (fun pool => price pool target source)) amount output := by
  obtain ⟨mem, bound⟩ := chooses.best chosen
  obtain ⟨poolMem, priced⟩ := mem_offers_iff.mp mem
  refine ⟨poolMem, priced, ⟨_, mem_map.mpr ⟨pool, poolMem, rfl⟩, priced⟩, ?_⟩
  intro _ edgeMember result defined
  obtain ⟨other, otherMem, rfl⟩ := mem_map.mp edgeMember
  exact bound (other, result) (mem_offers_iff.mpr ⟨otherMem, defined⟩)

/-- A run on priced pools returns what the search finds. -/
theorem greedyHops_eq (priced : liquidity.Priced ask price)
    (chooses : ChoosesBest choose) (fullPath : List Address) (hop : Nat)
    (amount : V) (token : Address) (path : List L) (rest : List Address) :
    greedyHops ask choose liquidity fullPath hop amount token path rest =
      ofOption ((greedyAlong price choose liquidity token amount
        rest).map fun found => ⟨found.1, path ++ found.2⟩) := by
  induction rest generalizing hop amount token path with
  | nil => simp [greedyHops, greedyAlong]
  | cons current rest ih =>
    have unreachable (empty : liquidity.between current token = []) :
        greedyAlong price choose liquidity token amount (current :: rest) =
          none := by
      simp [greedyAlong, empty, chooses.eq_none_iff.mpr rfl]
    rw [greedyHops]
    cases built : TokenPair.new current token with
    | none =>
      rw [unreachable (by simp [PoolMap.between, built])]
      rfl
    | some pair =>
      cases found : liquidity pair with
      | none =>
        rw [unreachable (by simp [PoolMap.between, built, found])]
        simp only [okOr_some, ok_bind, found]
        rfl
      | some pools =>
        simp only [okOr_some, ok_bind, found]
        rw [← between_eq built found, hopAmounts_eq fun pool mem call =>
          priced current token pool mem call amount, ok_bind]
        rw [greedyAlong]
        cases choose ((liquidity.between current token).filterMap
            fun pool => (price pool current token amount).map (pool, ·)) with
        | none => rfl
        | some best =>
          simp only [okOr_some, ih]
          cases later : greedyAlong price choose liquidity current best.2 rest <;>
              simp [later]

/-- Whatever the search finds is reached greedily, through pools of the map. -/
theorem greedyAlong_eq_some (chooses : ChoosesBest choose)
    (success : greedyAlong price choose liquidity token amount rest = some (value, pools)) :
    Walk price liquidity token amount rest pools value ∧
      GreedyReaches (hopLayers price liquidity token rest) amount value := by
  induction rest generalizing amount token pools with
  | nil =>
    cases success
    exact ⟨.nil _ _, .nil _⟩
  | cons current rest ih =>
    simp only [greedyAlong, Option.bind_eq_bind, Option.bind_eq_some_iff] at success
    obtain ⟨⟨_, _⟩, chosen, ⟨_, _⟩, later, success⟩ := success
    cases success
    obtain ⟨mem, priced, step⟩ := chooses.isBestStep chosen
    obtain ⟨walk, greedy⟩ := ih later
    exact ⟨.cons mem priced walk, .cons step greedy⟩

theorem greedyAlong_of_greedyReaches (chooses : ChoosesBest choose)
    (greedy : GreedyReaches (hopLayers price liquidity token rest) amount value) :
    ∃ pools, greedyAlong price choose liquidity token amount rest = some (value, pools) := by
  induction rest generalizing amount token with
  | nil =>
    cases greedy
    exact ⟨[], rfl⟩
  | cons current rest ih =>
    cases greedy with
    | @cons _ _ _ best _ step greedy =>
      obtain ⟨⟨_, edgeMember, defined⟩, -⟩ := id step
      obtain ⟨pool, mem, rfl⟩ := mem_map.mp edgeMember
      have offered : (pool, best) ∈ (liquidity.between current token).filterMap (fun pool =>
            (price pool current token amount).map (pool, ·)) :=
        mem_offers_iff.mpr ⟨mem, defined⟩
      cases chosen : choose ((liquidity.between current token).filterMap
          fun pool => (price pool current token amount).map (pool, ·)) with
      | none =>
        rw [chooses.eq_none_iff.mp chosen] at offered
        simp at offered
      | some chosenOffer =>
        obtain ⟨-, -, chosenStep⟩ := chooses.isBestStep chosen
        obtain rfl := step.unique chosenStep
        obtain ⟨pools, later⟩ := ih greedy
        exact ⟨chosenOffer.1 :: pools, by simp [greedyAlong, chosen, later]⟩

end

/-! ## The two estimates -/

section

variable {L : Type} [BaselineSolvable L]

/-- What a pool pays out. -/
def quoteOut (pool : L) (outToken inToken : Address) (inAmount : U256) : Option U256 :=
  (BaselineSolvable.getAmountOut pool .any outToken inAmount inToken).toOption

/-- What a pool asks for. -/
def quoteIn (pool : L) (inToken outToken : Address) (outAmount : U256) : Option U256 :=
  (BaselineSolvable.getAmountIn pool .any inToken outAmount outToken).toOption

omit [BaselineSolvable L] in
theorem maxBy_choosesBest : ChoosesBest (maxBy (compareOn Prod.snd) : List (L × U256) → _) where
  best := by
    intro _ _ success
    have isMax := maxBy_eq_some_iff.mp success
    refine ⟨isMax.mem, fun item mem => ?_⟩
    exact not_lt.mp fun larger =>
      isMax.not_gt item mem (compare_gt_iff_gt.mpr larger)
  eq_none_iff := maxBy_eq_none_iff

omit [BaselineSolvable L] in
private theorem minBy_best {items : List (L × U256)} {chosen : L × U256}
    (success : minBy (compareOn Prod.snd) items = some chosen) :
    chosen ∈ items ∧ ∀ item ∈ items, chosen.2 ≤ item.2 := by
  obtain ⟨mem, minimal⟩ := minBy_spec success
  refine ⟨mem, fun item itemMember => ?_⟩
  exact not_lt.mp fun smaller =>
    minimal item itemMember (compare_gt_iff_gt.mpr smaller)

omit [BaselineSolvable L] in
theorem minBy_choosesBest : ChoosesBest (V := U256ᵒᵈ)
      (minBy (compareOn Prod.snd) : List (L × U256) → Option (L × U256)) where
  best := minBy_best
  eq_none_iff := minBy_eq_none_iff

variable {liquidity : PoolMap L}

theorem estimateBuyAmount_along {sellAmount : U256}
    {sellToken : Address} {rest : List Address} {estimate : Estimate U256 L}
    (success : estimateBuyAmount liquidity sellAmount (sellToken :: rest) = .ok estimate) :
    Along liquidity sellToken rest estimate.path := by
  obtain ⟨_, pathEq, along⟩ := greedyHops_along
    (fun _ _ chosen => (maxBy_choosesBest.best chosen).1) success
  exact pathEq ▸ along

theorem estimateBuyAmount_noPanic (safe : ∀ target source, ∀ pool ∈ liquidity.between target source,
      ∀ call amount, NoPanic (BaselineSolvable.getAmountOut pool call target amount source))
    (sellAmount : U256) (path : List Address) :
    NoPanic (estimateBuyAmount liquidity sellAmount path) := by
  cases path with
  | nil => simp [estimateBuyAmount]
  | cons sellToken rest => exact greedyHops_noPanic safe _ _ _ _ _ _

abbrev bestSale (liquidity : PoolMap L) (token : Address) (amount : U256)
    (rest : List Address) : Option (U256 × List L) :=
  greedyAlong quoteOut (maxBy (compareOn Prod.snd)) liquidity token amount rest

theorem estimateBuyAmount_eq (priced : liquidity.Priced BaselineSolvable.getAmountOut quoteOut)
    (sellAmount : U256) (sellToken : Address) (rest : List Address) :
    estimateBuyAmount liquidity sellAmount (sellToken :: rest) =
      ofOption ((bestSale liquidity sellToken sellAmount rest).map
        fun found => ⟨found.1, found.2⟩) := by
  rw [estimateBuyAmount, greedyHops_eq priced maxBy_choosesBest]
  rfl

end

end MandateSolver
