import MandateSolver.Config

/-!
# The Mandate endpoints

A request is checked against the deployment, validated, and its liquidity converted; the
first failure is the answer.
-/

namespace MandateSolver.Api

open Outcome

/-- The contents of a hash map with token keys, in the order it iterates. -/
structure TokenMap (ρ : Type) where
  entries : List (Address × ρ)
  nodup : (entries.map Prod.fst).Nodup

structure ConstantProductReserve where
  balance : U256

/-- A Uniswap V2 pool of a request. -/
structure ConstantProductPool where
  id : String
  (address router : Address)
  tokens : TokenMap ConstantProductReserve
  fee : BigDecimal

structure WeightedProductReserve where
  balance : U256
  (scalingFactor weight : BigDecimal)

inductive WeightedProductVersion where
  | v0
  | v3Plus

/-- A weighted Balancer pool of a request. -/
structure WeightedProductPool where
  id : String
  address : Address
  tokens : TokenMap WeightedProductReserve
  fee : BigDecimal
  version : WeightedProductVersion

structure StableReserve where
  balance : U256
  scalingFactor : BigDecimal

/-- A stable Balancer pool of a request. -/
structure StablePool where
  id : String
  address : Address
  tokens : TokenMap StableReserve
  (amplificationParameter fee : BigDecimal)

/-- A Uniswap V3 pool of a request. -/
structure ConcentratedLiquidityPool where
  id : String
  (address router : Address)
  tokens : List Address
  fee : BigDecimal

/-- A limit order of another protocol. -/
structure ForeignLimitOrder where
  id : String
  (address makerToken takerToken : Address)
  (makerAmount takerAmount takerTokenFeeAmount : U256)

/-- Liquidity as it is sent. -/
inductive Liquidity where
  | constantProduct (pool : ConstantProductPool)
  | weightedProduct (pool : WeightedProductPool)
  | stable (pool : StablePool)
  | concentratedLiquidity (pool : ConcentratedLiquidityPool)
  | limitOrder (order : ForeignLimitOrder)

namespace Liquidity

def id : Liquidity → String
  | .constantProduct pool | .weightedProduct pool | .stable pool | .concentratedLiquidity pool =>
    pool.id
  | .limitOrder order => order.id

def address : Liquidity → Address
  | .constantProduct pool | .weightedProduct pool | .stable pool | .concentratedLiquidity pool =>
    pool.address
  | .limitOrder order => order.address

def router : Liquidity → Option Address
  | .constantProduct pool | .concentratedLiquidity pool => some pool.router
  | _ => none

/-- The pool address or the router is one of the given venues. -/
def Allowed (venues : List Address) (liquidity : Liquidity) : Prop :=
  liquidity.address ∈ venues ∨ ∃ router, liquidity.router = some router ∧ router ∈ venues

end Liquidity

def collectTuple {α : Type} : List α → Option (α × α)
  | [first, second] => some (first, second)
  | _ => none

/-! ## Conversion -/

namespace ConstantProductPool

def toDomain (pool : ConstantProductPool) : Outcome String MandateSolver.Liquidity := do
  let (a, b) ← okOr "invalid number of constant product tokens"
    (collectTuple (pool.tokens.entries.map
      (fun (token, reserve) => (⟨reserve.balance, token⟩ : Asset))))
  let reserves ← okOr "invalid constant product pool reserves"
    (Liquidity.ConstantProduct.Reserves.new a b)
  let fee ← okOr "invalid constant product fee"
    (Conv.decimalToRational pool.fee)
  return ⟨pool.id, pool.address, some pool.router, .constantProduct ⟨reserves, fee⟩⟩

end ConstantProductPool

def scale (scalingFactor : BigDecimal) : Outcome String Liquidity.ScalingFactor :=
  okOr "invalid token scaling factor"
    ((Conv.decimalToRational scalingFactor).bind Liquidity.ScalingFactor.new)

def WeightedProductVersion.toDomain : WeightedProductVersion → Liquidity.WeightedProduct.Version
  | .v0 => .v0
  | .v3Plus => .v3Plus

namespace WeightedProductPool

def toReserve (entry : Address × WeightedProductReserve) :
    Outcome String Liquidity.WeightedProduct.Reserve := do
  let weight ← okOr "invalid token weight"
    (Conv.decimalToRational entry.2.weight)
  let scale ← scale entry.2.scalingFactor
  return ⟨⟨entry.2.balance, entry.1⟩, weight, scale⟩

def toDomain (pool : WeightedProductPool) : Outcome String MandateSolver.Liquidity := do
  let entries ← pool.tokens.entries.mapM toReserve
  let reserves ← okOr "duplicate weighted token addresses"
    (Liquidity.Reserves.new entries)
  let fee ← okOr "invalid weighted product fee"
    (Conv.decimalToRational pool.fee)
  return ⟨pool.id, pool.address, none, .weightedProduct ⟨reserves, fee, pool.version.toDomain⟩⟩

end WeightedProductPool

namespace StablePool

def toReserve (entry : Address × StableReserve) : Outcome String Liquidity.Stable.Reserve := do
  let scale ← scale entry.2.scalingFactor
  return ⟨⟨entry.2.balance, entry.1⟩, scale⟩

def toDomain (pool : StablePool) : Outcome String MandateSolver.Liquidity := do
  let entries ← pool.tokens.entries.mapM toReserve
  let reserves ← okOr "duplicate stable token addresses"
    (Liquidity.Reserves.new entries)
  let amplificationParameter ← okOr "invalid amplification parameter"
    (Conv.decimalToRational pool.amplificationParameter)
  let fee ← okOr "invalid stable pool fee"
    (Conv.decimalToRational pool.fee)
  return ⟨pool.id, pool.address, none, .stable ⟨reserves, amplificationParameter, fee⟩⟩

end StablePool

namespace ConcentratedLiquidityPool

/-- The fee in hundredths of a basis point. -/
def feeUnits (pool : ConcentratedLiquidityPool) : Option U32 :=
  (pool.fee.mul ⟨1000000, 0⟩).toU32

def toDomain (pool : ConcentratedLiquidityPool) : Outcome String MandateSolver.Liquidity := do
  let (a, b) ← okOr
    "invalid number of concentrated liquidity pool tokens"
    (collectTuple pool.tokens)
  let tokens ← okOr "duplicate concentrated liquidity pool token address"
    (TokenPair.new a b)
  let fee ← okOr "invalid concentrated liquidity pool fee" pool.feeUnits
  return ⟨pool.id, pool.address, some pool.router, .concentrated ⟨tokens, fee⟩⟩

end ConcentratedLiquidityPool

namespace ForeignLimitOrder

def toDomain (order : ForeignLimitOrder) : MandateSolver.Liquidity :=
  ⟨order.id, order.address, none, .limitOrder
    ⟨⟨order.makerAmount, order.makerToken⟩, ⟨order.takerAmount, order.takerToken⟩,
      order.takerTokenFeeAmount⟩⟩

end ForeignLimitOrder

def liquidityToDomain : Liquidity → Outcome String MandateSolver.Liquidity
  | .constantProduct pool | .weightedProduct pool | .stable pool | .concentratedLiquidity pool =>
    pool.toDomain
  | .limitOrder order => .ok order.toDomain

/-! ## What the conversion keeps -/

variable {entry : MandateSolver.Liquidity} {dto : Liquidity}

theorem liquidityToDomain_eq_ok
    (converted : liquidityToDomain dto = .ok entry) :
    ∃ state, entry = ⟨dto.id, dto.address, dto.router, state⟩ ∧
      ∀ fee, (∃ pool, state = .concentrated pool ∧ pool.fee = fee) ↔
        ∃ pool, dto = .concentratedLiquidity pool ∧ pool.feeUnits = some fee := by
  cases dto with
  | constantProduct pool =>
    simp only [liquidityToDomain, ConstantProductPool.toDomain, bind_eq_ok_iff] at converted
    obtain ⟨_, -, _, -, _, -, converted⟩ := converted
    exact ⟨_, (ok.inj converted).symm, by simp⟩
  | weightedProduct pool =>
    simp only [liquidityToDomain, WeightedProductPool.toDomain, bind_eq_ok_iff] at converted
    obtain ⟨_, -, _, -, _, -, converted⟩ := converted
    exact ⟨_, (ok.inj converted).symm, by simp⟩
  | stable pool =>
    simp only [liquidityToDomain, StablePool.toDomain, bind_eq_ok_iff] at converted
    obtain ⟨_, -, _, -, _, -, _, -, converted⟩ := converted
    exact ⟨_, (ok.inj converted).symm, by simp⟩
  | concentratedLiquidity pool =>
    simp only [liquidityToDomain, ConcentratedLiquidityPool.toDomain,
      bind_eq_ok_iff, okOr_eq_ok_iff] at converted
    obtain ⟨_, -, _, -, _, units, converted⟩ := converted
    exact ⟨_, (ok.inj converted).symm, by simp [units]⟩
  | limitOrder order =>
    exact ⟨_, (ok.inj converted).symm, by simp⟩

theorem isVenue_iff_allowed
    (converted : liquidityToDomain dto = .ok entry) (venues : List Address) :
    entry.isVenue venues = true ↔ dto.Allowed venues := by
  obtain ⟨_, rfl, -⟩ := liquidityToDomain_eq_ok converted
  rw [Liquidity.isVenue, Liquidity.Allowed]
  cases dto.router <;> simp

/-! ## Requests -/

/-- Where the liquidity comes from. -/
structure LiquiditySource where
  name : String
  block : Nat

/-- What the signer wants, as it is sent. -/
structure LimitIntent where
  (signer sellToken buyToken : Address)
  (sellAmount minBuyAmount : U256)
  maxSlippageBps : BitVec 16
  deadline : Nat
  allowedVenues : List Address

/-- The deployment that a request is meant for. -/
structure Deployment where
  chainId : Option Nat
  settlementContract : Option Address

/-- Body of `/solve`. -/
structure SolveRequest where
  intent : LimitIntent
  liquidity : List Liquidity
  liquiditySource : LiquiditySource
  deployment : Deployment

/-- Body of `/quote`. -/
structure QuoteRequest where
  (sellToken buyToken : Address)
  sellAmount : U256
  allowedVenues : List Address
  liquidity : List Liquidity
  liquiditySource : LiquiditySource
  deployment : Deployment

/-- One hop of the returned route. -/
structure Segment where
  liquidity : String
  inputToken : Address
  inputAmount : U256
  outputToken : Address
  outputAmount : U256
  deriving DecidableEq

/-- Response of `/solve`. -/
structure Solution where
  expectedOut : U256
  liquiditySource : String
  (block gas : Nat)
  route : List Segment
  deriving DecidableEq

/-- Response of `/quote`. -/
structure Quote where
  expectedOut : U256
  block : Nat
  liquiditySource : String

/-! ## Conversion and validation -/

def snapshotToDomain (liquidity : List Liquidity) (source : LiquiditySource) :
    Outcome String Mandate.Snapshot := do
  let entries ← liquidity.mapM liquidityToDomain
  return ⟨source.name, source.block, entries⟩

def intentToDomain (intent : LimitIntent) : Mandate.Intent :=
  ⟨⟨intent.sellAmount, intent.sellToken⟩, ⟨intent.minBuyAmount, intent.buyToken⟩,
    intent.allowedVenues⟩

def validateIntent (now : Nat) (intent : LimitIntent) : Outcome String Unit := do
  rejectIf (intent.signer = 0) "signer must not be zero"
  rejectIf (intent.sellToken = 0 ∨ intent.buyToken = 0) "token must not be zero"
  rejectIf (intent.sellToken = intent.buyToken) "sell and buy token must differ"
  rejectIf (intent.sellAmount = 0 ∨ intent.minBuyAmount = 0) "amounts must be nonzero"
  rejectIf (intent.deadline ≤ now) "intent deadline has expired"
  rejectIf (10000 < intent.maxSlippageBps) "max slippage must not exceed 10000 bps"
  rejectIf (intent.allowedVenues = [] ∨ 0 ∈ intent.allowedVenues)
    "allowed venues must be nonempty and nonzero"

def validateDeployment (request : Deployment) (configured : MandateDeployment) :
    Outcome String Unit := do
  rejectIf (configured.chainId.any (fun chainId => request.chainId ≠ some chainId))
    "request chain does not match the configured Mandate deployment"
  rejectIf (configured.settlement.any
      (fun settlement => request.settlementContract ≠ some settlement))
    "request settlement contract does not match the configured Mandate deployment"

def validateQuote (request : QuoteRequest) : Outcome String Unit := do
  rejectIf (request.sellToken = 0 ∨ request.buyToken = 0) "token must not be zero"
  rejectIf (request.sellToken = request.buyToken) "sell and buy token must differ"
  rejectIf (request.sellAmount = 0) "sell amount must be nonzero"
  rejectIf (request.allowedVenues = [] ∨ 0 ∈ request.allowedVenues)
    "allowed venues must be nonempty and nonzero"

def toSolution (fill : Mandate.Fill) : Solution where
  expectedOut := fill.expectedOut
  liquiditySource := fill.source
  block := fill.block
  gas := min fill.gas.toNat (2 ^ 64 - 1)
  route := fill.segments.map (fun segment =>
    ⟨segment.liquidity, segment.input.token, segment.input.amount,
      segment.output.token, segment.output.amount⟩)

def toQuote (quote : Mandate.Quote) : Quote :=
  ⟨quote.expectedOut, quote.block, quote.source⟩

/-! ## Handlers -/

/-- The handler of solve requests. -/
def solve (now : Nat) (order : RunOrder) (engine : Engine)
    (request : SolveRequest) : Outcome String (Option Solution) := do
  validateDeployment request.deployment engine.mandate
  validateIntent now request.intent
  let snapshot ← snapshotToDomain request.liquidity request.liquiditySource
  let fill ← (Mandate.solve order engine.routing (intentToDomain request.intent)
    snapshot).attempt
  return fill.map toSolution

/-- The handler of quote requests. -/
def quote (order : RunOrder) (engine : Engine) (request : QuoteRequest) :
    Outcome String (Option Quote) := do
  validateDeployment request.deployment engine.mandate
  validateQuote request
  let snapshot ← snapshotToDomain request.liquidity request.liquiditySource
  let quote ← (Mandate.quote order engine.routing
    ⟨request.sellAmount, request.sellToken⟩ request.buyToken
    request.allowedVenues snapshot).attempt
  return quote.map toQuote

/-! ## Accepted requests -/

/-- Every check of a request passes, with the snapshot that is then solved. -/
structure SolveRequest.Accepted (now : Nat) (engine : Engine)
    (request : SolveRequest) (snapshot : Mandate.Snapshot) : Prop where
  deploymentOk : validateDeployment request.deployment engine.mandate = .ok ()
  intentOk : validateIntent now request.intent = .ok ()
  snapshotOk : snapshotToDomain request.liquidity request.liquiditySource = .ok snapshot

/-- The same for quotes, whose intent is checked differently. -/
structure QuoteRequest.Accepted (engine : Engine) (request : QuoteRequest)
    (snapshot : Mandate.Snapshot) : Prop where
  deploymentOk : validateDeployment request.deployment engine.mandate = .ok ()
  requestOk : validateQuote request = .ok ()
  snapshotOk : snapshotToDomain request.liquidity request.liquiditySource = .ok snapshot

section

variable {now : Nat} {order : RunOrder} {engine : Engine} {snapshot : Mandate.Snapshot}
  {liquidity : List Liquidity} {source : LiquiditySource} {request : SolveRequest}

theorem solve_of_accepted
    (accepted : request.Accepted now engine snapshot) :
    solve now order engine request =
      ((Mandate.solve order engine.routing (intentToDomain request.intent)
        snapshot).attempt >>= fun fill => .ok (fill.map toSolution)) := by
  rw [solve, accepted.deploymentOk, accepted.intentOk, accepted.snapshotOk]
  rfl

theorem quote_of_accepted {request : QuoteRequest} (accepted : request.Accepted engine snapshot) :
    quote order engine request = ((Mandate.quote order engine.routing
        ⟨request.sellAmount, request.sellToken⟩ request.buyToken
        request.allowedVenues snapshot).attempt >>= fun quote =>
          .ok (quote.map toQuote)) := by
  rw [quote, accepted.deploymentOk, accepted.requestOk, accepted.snapshotOk]
  rfl

theorem solve_eq_ok_some_iff {solution : Solution} :
    solve now order engine request = .ok (some solution) ↔
      ∃ snapshot fill, request.Accepted now engine snapshot ∧
        Mandate.solve order engine.routing (intentToDomain request.intent)
          snapshot = .ok fill ∧ solution = toSolution fill := by
  constructor
  · intro answered
    simp only [solve, bind_eq_ok_iff] at answered
    obtain ⟨_, deploymentOk, _, intentOk, snapshot, snapshotOk, answer,
      attempted, answered⟩ := answered
    cases answer with
    | none => cases answered
    | some fill =>
      cases answered
      exact ⟨snapshot, fill, ⟨deploymentOk, intentOk, snapshotOk⟩,
        attempt_eq_ok_some_iff.mp attempted, rfl⟩
  · intro filled
    obtain ⟨snapshot, fill, accepted, solved, rfl⟩ := filled
    rw [solve_of_accepted accepted, solved]
    rfl

section

variable (converted : snapshotToDomain liquidity source = .ok snapshot)
include converted

theorem mem_liquidity_iff : entry ∈ snapshot.liquidity ↔
      ∃ dto ∈ liquidity, liquidityToDomain dto = .ok entry := by
  rw [snapshotToDomain, bind_eq_ok_iff] at converted
  obtain ⟨_, converted, success⟩ := converted
  cases success
  exact mem_iff_of_mapM_eq_ok converted

theorem exists_entry_of_mem
    (mem : dto ∈ liquidity) : ∃ entry ∈ snapshot.liquidity, liquidityToDomain dto = .ok entry := by
  rw [snapshotToDomain, bind_eq_ok_iff] at converted
  obtain ⟨_, converted, success⟩ := converted
  cases success
  exact exists_mem_of_mapM_eq_ok converted mem

end

end

end MandateSolver.Api

/-! ## When the endpoints abort -/

namespace MandateSolver.Api

/-- With a quoter, the fee of every allowed concentrated pool has 24 bits. -/
def FeesFit (engine : Engine) (venues : List Address) (liquidity : List Liquidity) : Prop :=
  engine.routing.uniV3QuoterV2 = none ∨ ∀ pool, .concentratedLiquidity pool ∈ liquidity →
      Liquidity.Allowed venues (.concentratedLiquidity pool) →
      ∀ fee, pool.feeUnits = some fee → fee.toNat < 2 ^ 24

section

variable {now : Nat} {order : RunOrder} {engine : Engine} {snapshot : Mandate.Snapshot}

theorem representable_iff_feesFit {liquidity : List Liquidity} {source : LiquiditySource}
    (converted : snapshotToDomain liquidity source = .ok snapshot) (intent : Mandate.Intent) :
    Mandate.Representable engine.routing intent snapshot ↔
      FeesFit engine intent.allowedVenues liquidity := by
  apply or_congr_right
  constructor
  · intro fits pool mem allowed fee units
    obtain ⟨entry, inSnapshot, dtoConverted⟩ := exists_entry_of_mem converted mem
    have isVenue := (isVenue_iff_allowed dtoConverted _).mpr allowed
    obtain ⟨state, rfl, concentrated⟩ := liquidityToDomain_eq_ok dtoConverted
    obtain ⟨domainPool, rfl, rfl⟩ := (concentrated fee).mpr ⟨pool, rfl, units⟩
    exact fits _ (List.mem_filter.mpr ⟨inSnapshot, isVenue⟩) domainPool rfl
  · intro fits entry mem domainPool isPool
    obtain ⟨inSnapshot, isVenue⟩ := List.mem_filter.mp mem
    obtain ⟨_, dtoMember, dtoConverted⟩ := (mem_liquidity_iff converted).mp inSnapshot
    have allowed := (isVenue_iff_allowed dtoConverted _).mp isVenue
    obtain ⟨state, rfl, concentrated⟩ := liquidityToDomain_eq_ok dtoConverted
    obtain ⟨pool, rfl, units⟩ := (concentrated domainPool.fee).mp ⟨domainPool, isPool, rfl⟩
    exact fits pool dtoMember allowed _ units

theorem solve_noPanic_iff_feesFit {request : SolveRequest}
    (accepted : request.Accepted now engine snapshot) :
    Outcome.NoPanic (solve now order engine request) ↔
      FeesFit engine request.intent.allowedVenues request.liquidity := by
  have sameIntent : (intentToDomain request.intent).allowedVenues =
      request.intent.allowedVenues := rfl
  rw [solve_of_accepted accepted, Outcome.noPanic_bind_ok_iff,
    Outcome.noPanic_attempt_iff, Mandate.solve_noPanic_iff,
    representable_iff_feesFit accepted.snapshotOk, sameIntent]

theorem quote_noPanic_iff_feesFit {request : QuoteRequest}
    (accepted : request.Accepted engine snapshot) :
    Outcome.NoPanic (quote order engine request) ↔
      FeesFit engine request.allowedVenues request.liquidity := by
  rw [quote_of_accepted accepted, Outcome.noPanic_bind_ok_iff, Outcome.noPanic_attempt_iff]
  change Outcome.NoPanic (Mandate.solve order engine.routing _ snapshot >>= fun fill => .ok _) ↔ _
  rw [Outcome.noPanic_bind_ok_iff, Mandate.solve_noPanic_iff,
    representable_iff_feesFit accepted.snapshotOk]

end

/-- The endpoints abort on no accepted request exactly when the fees of its
allowed concentrated pools fit, whatever the quoter answers. -/
theorem endpoints_noPanic_iff (now : Nat) (order : RunOrder) (engine : Engine) :
    (∀ snapshot (request : SolveRequest), request.Accepted now engine snapshot →
      (Outcome.NoPanic (solve now order engine request) ↔
        FeesFit engine request.intent.allowedVenues request.liquidity)) ∧
    ∀ snapshot (request : QuoteRequest), request.Accepted engine snapshot →
      (Outcome.NoPanic (quote order engine request) ↔
        FeesFit engine request.allowedVenues request.liquidity) := by
  constructor
  · intro snapshot request accepted
    exact solve_noPanic_iff_feesFit accepted
  · intro snapshot request accepted
    exact quote_noPanic_iff_feesFit accepted

def directConfig (uniV3NodeUrl : Option String) : SolverConfig :=
  ⟨9, [], 0, uniV3NodeUrl, ⟨none, none⟩⟩

def directEngine (uniV3NodeUrl : Option String) : Engine :=
  Engine.new (fun _ => some ⟨fun _ _ => none, fun _ _ => none⟩) (directConfig uniV3NodeUrl)

/-- A concentrated pool with a fee of 16.777216. -/
def wideFeeRequest : SolveRequest :=
  ⟨⟨5, 1, 2, 1000, 1, 50, 1, [7]⟩, [.concentratedLiquidity ⟨"wide", 7, 8, [1, 2], ⟨16777216, 6⟩⟩],
    ⟨"node", 17⟩, ⟨none, none⟩⟩

private theorem wideFeeRequest_accepted (uniV3NodeUrl : Option String) : ∃ snapshot,
      wideFeeRequest.Accepted 0 (directEngine uniV3NodeUrl) snapshot :=
  ⟨⟨"node", 17, [⟨"wide", 7, some 8, .concentrated ⟨⟨1, 2, by decide⟩, 16777216⟩⟩]⟩,
    rfl, by decide +kernel, rfl⟩

theorem solve_wideFeeRequest : (Config.load (fun _ : Unit => none)
      ⟨none, some 9, [], 0, some "https://node", none, none⟩ :
        Outcome Unit SolverConfig) = .ok (directConfig (some "https://node")) ∧
    (∃ snapshot, wideFeeRequest.Accepted 0 (directEngine (some "https://node")) snapshot) ∧
    solve 0 .inserted (directEngine (some "https://node")) wideFeeRequest =
      .panic (.expect "fee < (2^24)") :=
  ⟨rfl, wideFeeRequest_accepted _, by decide +kernel⟩

/-- Without a quoter the same request is answered. -/
theorem solve_wideFeeRequest_without_quoter : ∃ snapshot,
    wideFeeRequest.Accepted 0 (directEngine none) snapshot ∧
      Outcome.NoPanic (solve 0 .inserted (directEngine none) wideFeeRequest) := by
  obtain ⟨snapshot, accepted⟩ := wideFeeRequest_accepted none
  exact ⟨snapshot, accepted, ((endpoints_noPanic_iff _ _ _).1 snapshot _ accepted).mpr (Or.inl rfl)⟩

end MandateSolver.Api
