import MandateSolver.Balancer.Swap
import MandateSolver.UniswapV2
import MandateSolver.Liquidity
import MandateSolver.BaselineSolver.Estimate

/-!
# Liquidity as the baseline solver sees it

Every entry is converted to pools, one for each token pair.  Entries that cannot be
represented drop out, and without a quoter concentrated pools do as well.
-/

namespace MandateSolver

open List Option

open Outcome hiding none

namespace U256

def tryU128 (value : U256) : Option U128 :=
  if value.toNat < 2 ^ 128 then some (value.setWidth 128) else none

def tryU32 (value : U256) : Option U32 :=
  if value.toNat < 2 ^ 32 then some (value.setWidth 32) else none

end U256

namespace Liquidity

def ConstantProduct.toBoundaryPool (address : Address)
    (pool : ConstantProduct.Pool) : Outcome Unit UniswapV2.Pool := do
  let tokens ← expect "tokens are distinct by construction"
    (TokenPair.new pool.reserves.first.token pool.reserves.second.token)
  let reserve0 ← ofOption pool.reserves.first.amount.tryU128
  let reserve1 ← ofOption pool.reserves.second.amount.tryU128
  let numer ← ofOption pool.fee.numer.tryU32
  let denom ← ofOption pool.fee.denom.tryU32
  let fee ← Ratio32.new numer denom
  return ⟨address, tokens, (reserve0, reserve1), fee⟩

def toFixedPoint (ratio : Rational) : Outcome Unit Bfp := do
  let product ← ofOption
    (ratio.numer.checkedMul 1000000000000000000)
  let wei ← U256.div product ratio.denom
  return Bfp.fromWei wei

def WeightedProduct.toBoundaryReserve (reserve : WeightedProduct.Reserve) :
    Outcome Unit (Address × Balancer.WeightedTokenState) := do
  let scalingFactor ← toFixedPoint reserve.scale.get
  let weight ← toFixedPoint reserve.weight
  return (reserve.asset.token, ⟨⟨reserve.asset.amount, scalingFactor⟩, weight⟩)

def WeightedProduct.toBoundaryVersion : WeightedProduct.Version → Balancer.WeightedPoolVersion
  | .v0 => .v0
  | .v3Plus => .v3Plus

def WeightedProduct.toBoundaryPool (address : Address)
    (pool : WeightedProduct.Pool) : Outcome Unit Balancer.WeightedPool := do
  let swapFee ← toFixedPoint pool.fee
  let reserves ← pool.reserves.entries.mapM toBoundaryReserve
  return ⟨address, swapFee, reserves, toBoundaryVersion pool.version⟩

def Stable.toBoundaryReserve (reserve : Stable.Reserve) :
    Outcome Unit (Address × Balancer.TokenState) := do
  let scalingFactor ← toFixedPoint reserve.scale.get
  return (reserve.asset.token, ⟨reserve.asset.amount, scalingFactor⟩)

def Stable.toBoundaryPool (address : Address) (pool : Stable.Pool) :
    Outcome Unit Balancer.StablePool := do
  let swapFee ← toFixedPoint pool.fee
  let reserves ← pool.reserves.entries.mapM toBoundaryReserve
  let amplificationParameter ← ofOption
    (Balancer.AmplificationParameter.tryNew pool.amplificationParameter.numer
      pool.amplificationParameter.denom)
  return ⟨address, swapFee, reserves, amplificationParameter⟩

def toBoundaryTokenPair {ε : Type} (pair : TokenPair) : Outcome ε TokenPair :=
  expect "called `Option::unwrap()` on a `None` value"
    (TokenPair.new pair.first pair.second)

namespace LimitOrder

def gasPerZeroexOrder : Nat := 66358

def getAmountOut (order : LimitOrder) (outToken : Address) (inAmount : U256)
    (inToken : Address) : Option U256 :=
  if inToken ≠ order.taker.token ∨ outToken ≠ order.maker.token ∨
      order.taker.amount < inAmount then none
  else do
    let product ← inAmount.checkedMul order.maker.amount
    U256.checkedDiv product order.taker.amount

def getAmountIn (order : LimitOrder) (inToken : Address) (outAmount : U256)
    (outToken : Address) : Option U256 :=
  if outToken ≠ order.maker.token ∨ inToken ≠ order.taker.token ∨
      order.maker.amount < outAmount then none
  else do
    let product ← outAmount.checkedMul order.taker.amount
    U256.checkedDiv product order.maker.amount

end LimitOrder

end Liquidity

/-! ## Concentrated pools are priced by a remote quoter -/

/-- Arguments of the quoter contract. -/
structure QuoteParams where
  (tokenIn tokenOut : Address)
  amount : U256
  fee : BitVec 24

/-- The quoter contract: a call may fail, and nothing ties its answers at two
places of a run to each other. -/
structure UniswapV3QuoterV2 where
  (quoteExactInputSingle quoteExactOutputSingle : Call → QuoteParams → Option U256)

/-- Repeated calls get the same answer. -/
def UniswapV3QuoterV2.Deterministic (quoter : UniswapV3QuoterV2) : Prop :=
  ∀ call otherCall params, quoter.quoteExactInputSingle call params =
      quoter.quoteExactInputSingle otherCall params

namespace ConcentratedPool

def poolSwapGasCost : Nat := 106000

end ConcentratedPool

/-- A Uniswap V3 pool, quoted by a contract. -/
structure ConcentratedPool where
  uniV3QuoterContract : UniswapV3QuoterV2
  address : Address
  tokens : TokenPair
  fee : BitVec 24

namespace ConcentratedPool

def getAmountOut (pool : ConcentratedPool) (call : Call) (outToken : Address)
    (inAmount : U256) (inToken : Address) : Option U256 :=
  if TokenPair.new outToken inToken ≠ some pool.tokens then none
  else pool.uniV3QuoterContract.quoteExactInputSingle call ⟨inToken, outToken, inAmount, pool.fee⟩

def getAmountIn (pool : ConcentratedPool) (call : Call) (inToken : Address)
    (outAmount : U256) (outToken : Address) : Option U256 :=
  if TokenPair.new outToken inToken ≠ some pool.tokens then none
  else pool.uniV3QuoterContract.quoteExactOutputSingle call ⟨inToken, outToken, outAmount, pool.fee⟩

end ConcentratedPool

/-! ## Onchain liquidity -/

/-- A pool of the shared crate. -/
inductive LiquiditySource where
  | constantProduct (pool : UniswapV2.Pool)
  | weightedProduct (pool : Balancer.WeightedPool)
  | stable (pool : Balancer.StablePool)
  | limitOrder (order : Liquidity.LimitOrder)
  | concentrated (pool : ConcentratedPool)

namespace LiquiditySource

/-- A constant product pool only stands under its own token pair. -/
def Serves : LiquiditySource → TokenPair → Prop
  | .constantProduct pool, pair => pool.tokens = pair
  | _, _ => True

def getAmountOut (source : LiquiditySource) (call : Call) (outToken : Address)
    (inAmount : U256) (inToken : Address) : Outcome Unit U256 :=
  match source with
  | .constantProduct pool | .weightedProduct pool | .stable pool =>
    pool.getAmountOut outToken inAmount inToken
  | .limitOrder order =>
    ofOption (order.getAmountOut outToken inAmount inToken)
  | .concentrated pool =>
    ofOption (pool.getAmountOut call outToken inAmount inToken)

def getAmountIn (source : LiquiditySource) (call : Call) (inToken : Address)
    (outAmount : U256) (outToken : Address) : Outcome Unit U256 :=
  match source with
  | .constantProduct pool | .weightedProduct pool | .stable pool =>
    pool.getAmountIn inToken outAmount outToken
  | .limitOrder order =>
    ofOption (order.getAmountIn inToken outAmount outToken)
  | .concentrated pool =>
    ofOption (pool.getAmountIn call inToken outAmount outToken)

def gasCost : LiquiditySource → Nat
  | .constantProduct _ => UniswapV2.poolSwapGasCost
  | .weightedProduct _ => Balancer.weightedSwapGasCost
  | .stable _ => Balancer.stableSwapGasCost
  | .limitOrder _ => Liquidity.LimitOrder.gasPerZeroexOrder
  | .concentrated _ => ConcentratedPool.poolSwapGasCost

end LiquiditySource

/-- A pool for one of its pairs. -/
structure OnchainLiquidity where
  id : String
  tokenPair : TokenPair
  source : LiquiditySource
  serves : source.Serves tokenPair

instance : BaselineSolvable OnchainLiquidity where
  getAmountOut liquidity := liquidity.source.getAmountOut
  getAmountIn liquidity := liquidity.source.getAmountIn
  gasCost liquidity := liquidity.source.gasCost

def tryU24 (fee : U32) : Option (BitVec 24) :=
  if fee.toNat < 2 ^ 24 then some (fee.setWidth 24) else none

theorem tryU24_isSome_iff {fee : U32} : (tryU24 fee).isSome ↔ fee.toNat < 2 ^ 24 := by
  unfold tryU24
  split <;> simp_all

def Liquidity.boundaryPools {ε : Type} (liquidity : Liquidity)
    (uniV3QuoterV2 : Option UniswapV3QuoterV2) : Outcome ε (List OnchainLiquidity) :=
  match liquidity.state with
  | .constantProduct pool => do
    match ← (ConstantProduct.toBoundaryPool liquidity.address pool).attempt with
    | none => return []
    | some boundaryPool =>
      return [⟨liquidity.id, boundaryPool.tokens, .constantProduct boundaryPool, rfl⟩]
  | .weightedProduct pool => do
    match ← (WeightedProduct.toBoundaryPool liquidity.address pool).attempt with
    | none => return []
    | some boundaryPool => do
      let pairs ← pool.reserves.tokenPairs
      let tokenPairs ← pairs.mapM toBoundaryTokenPair
      return tokenPairs.map (fun tokenPair =>
        ⟨liquidity.id, tokenPair, .weightedProduct boundaryPool, trivial⟩)
  | .stable pool => do
    match ← (Stable.toBoundaryPool liquidity.address pool).attempt with
    | none => return []
    | some boundaryPool => do
      let pairs ← pool.reserves.tokenPairs
      let tokenPairs ← pairs.mapM toBoundaryTokenPair
      return tokenPairs.map (fun tokenPair =>
        ⟨liquidity.id, tokenPair, .stable boundaryPool, trivial⟩)
  | .limitOrder order =>
    match TokenPair.new order.maker.token order.taker.token with
    | none => return []
    | some tokenPair =>
      return [⟨liquidity.id, tokenPair, .limitOrder order, trivial⟩]
  | .concentrated pool =>
    match uniV3QuoterV2 with
    | none => return []
    | some quoter => do
      let fee ← expect "fee < (2^24)" (tryU24 pool.fee)
      let tokenPair ← toBoundaryTokenPair pool.tokens
      return [⟨liquidity.id, tokenPair,
        .concentrated ⟨quoter, liquidity.address, tokenPair, fee⟩, trivial⟩]

/-- No call of the node is needed. -/
def Liquidity.LocallyPriced (liquidity : Liquidity) : Prop :=
  ∀ pool, liquidity.state ≠ .concentrated pool

def Liquidity.getAmountOut (liquidity : Liquidity)
    (uniV3QuoterV2 : Option UniswapV3QuoterV2) (call : Call)
    (outToken : Address) (inAmount : U256) (inToken : Address) :
    Outcome Unit U256 := do
  let pools ← liquidity.boundaryPools uniV3QuoterV2
  let pool ← ofOption (pools.find? fun pool =>
    TokenPair.new outToken inToken = some pool.tokenPair)
  BaselineSolvable.getAmountOut pool call outToken inAmount inToken

def PoolMap.push (pools : PoolMap OnchainLiquidity) (pool : OnchainLiquidity) :
    PoolMap OnchainLiquidity :=
  fun pair =>
    if pair = pool.tokenPair then some ((pools pair).getD [] ++ [pool])
    else pools pair

def toBoundaryLiquidity {ε : Type} (liquidity : List Liquidity)
    (uniV3QuoterV2 : Option UniswapV3QuoterV2) : Outcome ε (PoolMap OnchainLiquidity) :=
  liquidity.foldlM (fun onchainLiquidity entry => do
    let pools ← entry.boundaryPools uniV3QuoterV2
    return pools.foldl PoolMap.push onchainLiquidity) (fun _ => none)

/-! ## Pricing never aborts -/

theorem OnchainLiquidity.getAmountOut_noPanic {pool : OnchainLiquidity} {outToken inToken : Address}
    (matching : TokenPair.new outToken inToken = some pool.tokenPair)
    (call : Call) (inAmount : U256) :
    NoPanic (BaselineSolvable.getAmountOut pool call outToken inAmount inToken) := by
  obtain ⟨_, tokenPair, source, serves⟩ := pool
  cases source with
  | constantProduct pool =>
    obtain rfl : pool.tokens = tokenPair := serves
    exact UniswapV2.Pool.getAmountOut_noPanic matching inAmount
  | weightedProduct pool | stable pool => exact pool.getAmountOut_noPanic _ _ _
  | limitOrder order | concentrated pool => exact noPanic_okOr _ _

theorem OnchainLiquidity.getAmountOut_call {pool : OnchainLiquidity}
    (deterministic : ∀ concentrated, pool.source = .concentrated concentrated →
      concentrated.uniV3QuoterContract.Deterministic)
    (call otherCall : Call) (outToken : Address) (inAmount : U256) (inToken : Address) :
    BaselineSolvable.getAmountOut pool call outToken inAmount inToken =
      BaselineSolvable.getAmountOut pool otherCall outToken inAmount inToken := by
  obtain ⟨_, _, source, _⟩ := pool
  cases source with
  | concentrated pool =>
    simp only [BaselineSolvable.getAmountOut, LiquiditySource.getAmountOut,
      ConcentratedPool.getAmountOut]
    rw [deterministic pool rfl call otherCall]
  | _ => rfl

/-! ## Conversion of an entry -/

variable {pool : OnchainLiquidity}

namespace Liquidity

@[simp] theorem toFixedPoint_noPanic (ratio : Rational) : NoPanic (toFixedPoint ratio) := by
  refine NoPanic.seq (by simp) fun product => ?_
  exact (U256.noPanic_div_iff.mpr ratio.denom_ne_zero).seq (by simp)

private theorem tryU32_ne_zero {value : U256} {narrow : U32}
    (fits : value.tryU32 = some narrow) (nonzero : value ≠ 0) : narrow ≠ 0 := by
  unfold U256.tryU32 at fits
  split at fits
  · rename_i small
    cases fits
    intro zero
    have narrowed := congrArg BitVec.toNat zero
    rw [BitVec.toNat_setWidth, Nat.mod_eq_of_lt small] at narrowed
    exact nonzero (BitVec.eq_of_toNat_eq narrowed)
  · cases fits

variable (address : Address)

@[simp] theorem ConstantProduct.toBoundaryPool_noPanic (pool : ConstantProduct.Pool) :
    NoPanic (toBoundaryPool address pool) := by
  have tokens : (TokenPair.new pool.reserves.first.token pool.reserves.second.token).isSome := by
    simp [TokenPair.new, pool.reserves.ordered]
  simp only [toBoundaryPool, noPanic_bind_iff, noPanic_expect_iff, noPanic_okOr, tokens]
  intro _ _ _ _ _ _ _ _ _ fits
  have nonzero := tryU32_ne_zero (okOr_eq_ok_iff.mp fits) pool.fee.denom_ne_zero
  rw [Ratio32.new, dif_pos nonzero]
  simp

@[simp] theorem WeightedProduct.toBoundaryPool_noPanic (pool : WeightedProduct.Pool) :
    NoPanic (toBoundaryPool address pool) := by
  have converts : NoPanic (pool.reserves.entries.mapM toBoundaryReserve) :=
    .mapM (by simp [toBoundaryReserve])
  simp [toBoundaryPool, converts]

@[simp] theorem Stable.toBoundaryPool_noPanic (pool : Stable.Pool) :
    NoPanic (toBoundaryPool address pool) := by
  have converts : NoPanic (pool.reserves.entries.mapM toBoundaryReserve) :=
    .mapM (by simp [toBoundaryReserve])
  simp [toBoundaryPool, converts]

@[simp] theorem toBoundaryTokenPair_eq {ε : Type} (pair : TokenPair) :
    (toBoundaryTokenPair pair : Outcome ε TokenPair) = .ok pair := by
  simp [toBoundaryTokenPair]

@[simp] theorem mapM_toBoundaryTokenPair {ε : Type} (pairs : List TokenPair) :
    (pairs.mapM toBoundaryTokenPair : Outcome ε (List TokenPair)) = .ok pairs := by
  simp [mapM_eq_ok_iff]

/-- The fee of a concentrated pool has 24 bits. -/
def FeeFits (liquidity : Liquidity) : Prop :=
  ∀ pool, liquidity.state = .concentrated pool → pool.fee.toNat < 2 ^ 24

section

variable {ε : Type} {liquidity : Liquidity} {quoter : Option UniswapV3QuoterV2}
  {pools : List OnchainLiquidity}

theorem boundaryPools_returns (fits : quoter = none ∨ liquidity.FeeFits) : Returns
      (liquidity.boundaryPools quoter : Outcome ε (List OnchainLiquidity))
      (fun _ => True) := by
  unfold boundaryPools
  cases state : liquidity.state with
  | constantProduct pool =>
    refine (Returns.of_noPanic_attempt (by simp)).bind fun boundaryPool _ => ?_
    cases boundaryPool <;> exact .ok trivial
  | weightedProduct pool | stable pool =>
    obtain ⟨_, success, -⟩ := pool.reserves.tokenPairs_spec ε
    refine (Returns.of_noPanic_attempt (by simp)).bind fun boundaryPool _ => ?_
    cases boundaryPool with
    | none => exact .ok trivial
    | some boundaryPool =>
      simp only [success, mapM_toBoundaryTokenPair]
      exact .ok trivial
  | limitOrder order =>
    dsimp only
    split <;> exact .ok trivial
  | concentrated pool =>
    cases quoter with
    | none => exact .ok trivial
    | some quoter =>
      obtain ⟨_, converted⟩ := isSome_iff_exists.mp
        (tryU24_isSome_iff.mpr (fits.resolve_left (by simp) pool state))
      simp only [converted, toBoundaryTokenPair_eq]
      exact .ok trivial

theorem boundaryPools_eq_panic {quoter : UniswapV3QuoterV2} (tooLarge : ¬liquidity.FeeFits) :
    (liquidity.boundaryPools (some quoter) :
      Outcome ε (List OnchainLiquidity)) = .panic (.expect "fee < (2^24)") := by
  simp only [FeeFits, not_forall] at tooLarge
  obtain ⟨_, state, tooLarge⟩ := tooLarge
  rw [← tryU24_isSome_iff, not_isSome_iff_eq_none] at tooLarge
  simp [boundaryPools, state, tooLarge, expect]

section

variable (success : (liquidity.boundaryPools quoter : Outcome ε (List OnchainLiquidity)) =
  .ok pools)
include success

/-- An entry either drops out, or it becomes one source under its id, once
for each token pair it trades. -/
theorem boundaryPools_cases :
    pools = [] ∨ ∃ source, (∀ pool ∈ pools, pool.id = liquidity.id ∧ pool.source = source) ∧
      ∀ concentrated, source = .concentrated concentrated →
        quoter = some concentrated.uniV3QuoterContract := by
  unfold boundaryPools at success
  cases state : liquidity.state with
  | constantProduct pool =>
    simp only [state, bind_eq_ok_iff] at success
    obtain ⟨boundaryPool, -, success⟩ := success
    cases boundaryPool with
    | none => exact Or.inl (by simpa using success.symm)
    | some boundaryPool =>
      cases success
      exact Or.inr ⟨.constantProduct boundaryPool, by simp, by simp⟩
  | weightedProduct pool | stable pool =>
    simp only [state, bind_eq_ok_iff] at success
    obtain ⟨boundaryPool, -, success⟩ := success
    cases boundaryPool with
    | none => exact Or.inl (by simpa using success.symm)
    | some boundaryPool =>
      simp only [bind_eq_ok_iff] at success
      obtain ⟨_, -, _, -, success⟩ := success
      cases success
      apply Or.inr
      apply Exists.intro
      constructor
      · intro pool mem
        obtain ⟨tokenPair, -, rfl⟩ := mem_map.mp mem
        exact ⟨rfl, rfl⟩
      · simp
  | limitOrder order =>
    simp only [state] at success
    split at success
    · exact Or.inl (by simpa using success.symm)
    · cases success
      exact Or.inr ⟨.limitOrder order, by simp, by simp⟩
  | concentrated pool =>
    simp only [state] at success
    cases quoter with
    | none => exact Or.inl (by simpa using success.symm)
    | some quoter =>
      simp only [bind_eq_ok_iff] at success
      obtain ⟨fee, -, tokenPair, -, success⟩ := success
      cases success
      exact Or.inr ⟨.concentrated ⟨quoter, liquidity.address, tokenPair, fee⟩,
        by simp, by rintro _ ⟨⟩; rfl⟩

theorem id_of_mem_boundaryPools (mem : pool ∈ pools) : pool.id = liquidity.id := by
  rcases boundaryPools_cases success with rfl | ⟨_, shared, -⟩
  · simp at mem
  · exact (shared pool mem).1

end

theorem LocallyPriced.boundaryPools_eq (isLocal : liquidity.LocallyPriced)
    (quoter otherQuoter : Option UniswapV3QuoterV2) :
    (liquidity.boundaryPools quoter : Outcome ε (List OnchainLiquidity)) =
      liquidity.boundaryPools otherQuoter := by
  unfold boundaryPools
  cases state : liquidity.state with
  | concentrated pool => exact absurd state (isLocal pool)
  | _ => rfl

theorem getAmountOut_of_mem (converted : liquidity.boundaryPools quoter =
      (.ok pools : Outcome Unit (List OnchainLiquidity)))
    (mem : pool ∈ pools) {outToken inToken : Address}
    (matching : TokenPair.new outToken inToken = some pool.tokenPair)
    (call : Call) (inAmount : U256) :
    liquidity.getAmountOut quoter call outToken inAmount inToken =
      BaselineSolvable.getAmountOut pool call outToken inAmount inToken := by
  rcases boundaryPools_cases converted with rfl | ⟨source, shared, -⟩
  · simp at mem
  · obtain ⟨found, isFound⟩ := isSome_iff_exists.mp
      (List.find?_isSome.mpr ⟨pool, mem, by simpa using matching⟩ : (pools.find? fun pool =>
          TokenPair.new outToken inToken = some pool.tokenPair).isSome)
    rw [getAmountOut, converted, ok_bind, isFound]
    change found.source.getAmountOut call outToken inAmount inToken =
      pool.source.getAmountOut call outToken inAmount inToken
    rw [(shared found (mem_of_find?_eq_some isFound)).2, (shared pool mem).2]

end

end Liquidity

/-! ## The pool map -/

theorem foldl_push_apply (start : PoolMap OnchainLiquidity)
    (pools : List OnchainLiquidity) (pair : TokenPair) :
    ((pools.foldl PoolMap.push start) pair).getD [] =
      (start pair).getD [] ++ pools.filter (fun pool => pair = pool.tokenPair) := by
  induction pools generalizing start with
  | nil => simp
  | cons pool pools ih =>
    rw [foldl_cons, ih]
    unfold PoolMap.push
    by_cases same : pair = pool.tokenPair
    · simp [same]
    · simp [same]

section

variable {ε : Type} {entries : List Liquidity} {quoter : Option UniswapV3QuoterV2}
  {map : PoolMap OnchainLiquidity} {target source : Address}

private theorem foldlM_boundaryPools {start : PoolMap OnchainLiquidity}
    (success : entries.foldlM (fun onchainLiquidity entry => do
      let pools ← entry.boundaryPools quoter
      return pools.foldl PoolMap.push onchainLiquidity) start =
        (.ok map : Outcome ε (PoolMap OnchainLiquidity))) :
    ∃ pools, (entries.mapM (·.boundaryPools quoter) :
        Outcome ε (List (List OnchainLiquidity))) = .ok pools ∧
      map = pools.flatten.foldl PoolMap.push start := by
  induction entries generalizing start with
  | nil =>
    cases success
    exact ⟨[], rfl, rfl⟩
  | cons entry entries ih =>
    simp only [foldlM_cons, bind_eq_ok_iff] at success
    obtain ⟨_, ⟨head, headOk, converted⟩, success⟩ := success
    cases converted
    obtain ⟨tail, tailOk, rfl⟩ := ih success
    refine ⟨head :: tail, ?_, by simp⟩
    rw [mapM_cons, headOk, tailOk]
    rfl

section

variable (entries : List Liquidity) (quoter : Option UniswapV3QuoterV2)

def offeredPools : List OnchainLiquidity :=
  entries.flatMap (fun entry =>
    (entry.boundaryPools quoter : Outcome Unit _).toOption.getD [])

def offered : PoolMap OnchainLiquidity :=
  fun pair => some ((offeredPools entries quoter).filter (fun pool => pair = pool.tokenPair))

end

private theorem flatten_of_mapM_boundaryPools {pools : List (List OnchainLiquidity)}
    (converted : entries.mapM (·.boundaryPools quoter) =
      (.ok pools : Outcome Unit (List (List OnchainLiquidity)))) :
    pools.flatten = offeredPools entries quoter := by
  have related := mapM_eq_ok_iff.mp converted
  clear converted
  induction related with
  | nil => rfl
  | cons headOk _ ih =>
    simp only [offeredPools, flatMap_cons, flatten_cons] at ih ⊢
    rw [headOk, ih]
    rfl

/-- The map of a run offers, for each step, what the entries offer. -/
theorem between_toBoundaryLiquidity (success : toBoundaryLiquidity entries quoter =
      (.ok map : Outcome Unit (PoolMap OnchainLiquidity))) (target source : Address) :
    map.between target source = (offered entries quoter).between target source := by
  obtain ⟨_, converted, rfl⟩ := foldlM_boundaryPools success
  unfold PoolMap.between
  cases TokenPair.new target source with
  | none => rfl
  | some pair =>
    rw [bind_some, foldl_push_apply, flatten_of_mapM_boundaryPools converted]
    rfl

theorem mem_between_offered : pool ∈ (offered entries quoter).between target source ↔
      TokenPair.new target source = some pool.tokenPair ∧ ∃ entry ∈ entries, ∃ pools,
          (entry.boundaryPools quoter : Outcome Unit _) = .ok pools ∧ pool ∈ pools := by
  unfold PoolMap.between
  cases TokenPair.new target source with
  | none => simp
  | some pair =>
    simp only [bind_some, offered, offeredPools, getD_some,
      mem_filter, mem_flatMap, decide_eq_true_eq, Option.some.injEq]
    rw [and_comm]
    refine and_congr_right fun _ => exists_congr fun entry =>
      and_congr_right fun _ => ?_
    cases entry.boundaryPools quoter with
    | _ => simp [toOption]

theorem toBoundaryLiquidity_returns (fits : quoter = none ∨ ∀ entry ∈ entries, entry.FeeFits) :
    Returns (toBoundaryLiquidity entries quoter :
      Outcome ε (PoolMap OnchainLiquidity)) (fun _ => True) := by
  refine (Returns.foldlM
    (fun rest _ => quoter = none ∨ ∀ entry ∈ rest, entry.FeeFits) ?_ entries fits).mono
      fun _ _ => trivial
  intro entry rest _ fits
  have entryFits := fits.imp_right fun each => each entry (by simp)
  refine (Liquidity.boundaryPools_returns entryFits).bind fun _ _ => .ok ?_
  exact fits.imp_right fun each other mem => each other (by simp [mem])

theorem toBoundaryLiquidity_eq_panic {quoter : UniswapV3QuoterV2} {entry : Liquidity}
    (mem : entry ∈ entries) (tooLarge : ¬entry.FeeFits) :
    (toBoundaryLiquidity entries (some quoter) : Outcome ε (PoolMap OnchainLiquidity)) =
        .panic (.expect "fee < (2^24)") := by
  unfold toBoundaryLiquidity
  generalize (fun _ => none) = start
  induction entries generalizing start with
  | nil => simp at mem
  | cons head entries ih =>
    rw [foldlM_cons]
    by_cases headFits : head.FeeFits
    · obtain ⟨_, converted, -⟩ : Returns (head.boundaryPools (some quoter) :
            Outcome ε (List OnchainLiquidity)) (fun _ => True) :=
        Liquidity.boundaryPools_returns (Or.inr headFits)
      rcases mem_cons.mp mem with rfl | later
      · exact absurd headFits tooLarge
      · rw [converted, ok_bind, pure_eq]
        exact ih later _
    · rw [Liquidity.boundaryPools_eq_panic headFits, panic_bind, panic_bind]

theorem toBoundaryLiquidity_of_locallyPriced (isLocal : ∀ entry ∈ entries, entry.LocallyPriced)
    (quoter otherQuoter : Option UniswapV3QuoterV2) :
    (toBoundaryLiquidity entries quoter : Outcome ε (PoolMap OnchainLiquidity)) =
        toBoundaryLiquidity entries otherQuoter := by
  unfold toBoundaryLiquidity
  generalize (fun _ => none) = start
  induction entries generalizing start with
  | nil => rfl
  | cons entry entries ih =>
    rw [foldlM_cons, (isLocal entry (by simp)).boundaryPools_eq quoter otherQuoter]
    congr 1
    funext next
    exact ih (fun other mem => isLocal other (by simp [mem])) next

/-- The same for a quoter that may be missing. -/
def QuoterDeterministic (quoter : Option UniswapV3QuoterV2) : Prop :=
  ∀ contract, quoter = some contract → contract.Deterministic

theorem toBoundaryLiquidity_priced (success : toBoundaryLiquidity entries quoter =
      (.ok map : Outcome Unit (PoolMap OnchainLiquidity)))
    (deterministic : QuoterDeterministic quoter) :
    map.Priced BaselineSolvable.getAmountOut quoteOut := by
  intro target source pool mem call amount
  obtain ⟨matching, _, _, _, converted, poolMem⟩ :=
    mem_between_offered.mp (between_toBoundaryLiquidity success _ _ ▸ mem)
  have sameCall : BaselineSolvable.getAmountOut pool call target amount source =
      BaselineSolvable.getAmountOut pool .any target amount source := by
    refine OnchainLiquidity.getAmountOut_call (fun concentrated isSource => ?_)
      _ _ _ _ _
    rcases Liquidity.boundaryPools_cases converted with rfl | ⟨source, shared, quoted⟩
    · simp at poolMem
    · exact deterministic _ (quoted _ ((shared pool poolMem).2 ▸ isSource))
  rw [sameCall, quoteOut]
  rcases (OnchainLiquidity.getAmountOut_noPanic matching .any amount).cases with
    absent | ⟨output, answered⟩
  · rw [absent]
    rfl
  · rw [answered]
    rfl

end

end MandateSolver
