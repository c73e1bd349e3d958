import MandateSolver.Mandate.Solve

/-!
# Configuration

Loading a configuration bounds the candidate paths of every request, with saturating machine
arithmetic.
-/

namespace MandateSolver

open List

/-! ## Saturating machine arithmetic -/

namespace Usize

def max : Nat := 2 ^ 64 - 1

def saturatingAdd (left right : Nat) : Nat := min (left + right) max

def saturatingPow (base exponent : Nat) : Nat := min (base ^ exponent) max

/-- A saturating sum of saturated terms saturates the exact sum. -/
theorem foldl_saturatingAdd (terms : List Nat) (start : Nat) :
    (terms.map (min · max)).foldl saturatingAdd (min start max) = min (start + terms.sum) max := by
  induction terms generalizing start with
  | nil => simp
  | cons term terms ih =>
    have step : saturatingAdd (min start max) (min term max) = min (start + term) max := by
      unfold saturatingAdd
      omega
    rw [map_cons, foldl_cons, step, ih, sum_cons, Nat.add_assoc]

end Usize

/-! ## Guardrails on routing -/

namespace Limits

def maxBaseTokens : Nat := 128

def maxHops : Nat := 4

def maxPathCandidates : Nat := 4096

end Limits

namespace Config

def pathCandidateBound (baseTokens maxHops : Nat) : Nat :=
  let tokens := Usize.saturatingAdd baseTokens 1
  ((List.range (maxHops + 1)).map
    (fun hop => Usize.saturatingPow tokens (hop % 2 ^ 32))).foldl Usize.saturatingAdd 0

def validateRouting (baseTokens maxHops : Nat) : Outcome String Unit := do
  Outcome.rejectIf (Limits.maxBaseTokens < baseTokens)
    ("`base-tokens` has " ++ toString baseTokens ++
      " entries, more than the supported maximum of " ++ toString Limits.maxBaseTokens)
  Outcome.rejectIf (Limits.maxHops < maxHops) ("`max-hops` is " ++ toString maxHops ++
      ", more than the supported maximum of " ++ toString Limits.maxHops)
  let candidates := pathCandidateBound baseTokens maxHops
  Outcome.rejectIf (Limits.maxPathCandidates < candidates)
    ("`base-tokens` (" ++ toString baseTokens ++ ") and `max-hops` (" ++
      toString maxHops ++ ") allow up to " ++ toString candidates ++
      " candidate paths per request, more than the supported maximum of " ++
      toString Limits.maxPathCandidates)

theorem validateRouting_eq_ok_iff {baseTokens maxHops : Nat} :
    validateRouting baseTokens maxHops = .ok () ↔
      baseTokens ≤ Limits.maxBaseTokens ∧ maxHops ≤ Limits.maxHops ∧
        pathCandidateBound baseTokens maxHops ≤ Limits.maxPathCandidates := by
  simp [validateRouting, Outcome.bind_eq_ok_iff]

theorem pathCandidateBound_eq_sum {baseTokens maxHops : Nat}
    (accepted : validateRouting baseTokens maxHops = .ok ()) :
    pathCandidateBound baseTokens maxHops =
      ∑ hop ∈ Finset.range (maxHops + 1), (baseTokens + 1) ^ hop := by
  obtain ⟨fewTokens, fewHops, _⟩ := validateRouting_eq_ok_iff.mp accepted
  have tokens : Usize.saturatingAdd baseTokens 1 = baseTokens + 1 := by
    unfold Limits.maxBaseTokens at fewTokens
    unfold Usize.saturatingAdd Usize.max
    omega
  have terms : (List.range (maxHops + 1)).map (fun hop =>
      Usize.saturatingPow (baseTokens + 1) (hop % 2 ^ 32)) = ((List.range (maxHops + 1)).map
          ((baseTokens + 1) ^ ·)).map (min · Usize.max) := by
    rw [map_map]
    apply map_congr_left
    intro hop mem
    have small : hop < 2 ^ 32 := by
      unfold Limits.maxHops at fewHops
      have := mem_range.mp mem
      omega
    rw [Nat.mod_eq_of_lt small]
    rfl
  have saturated : pathCandidateBound baseTokens maxHops =
      min (((List.range (maxHops + 1)).map ((baseTokens + 1) ^ ·)).sum)
        Usize.max := by
    simp only [pathCandidateBound, tokens, terms]
    simpa using Usize.foldl_saturatingAdd ((List.range (maxHops + 1)).map ((baseTokens + 1) ^ ·)) 0
  have unsaturated : Limits.maxPathCandidates < Usize.max := by
    decide
  have exactSum : ((List.range (maxHops + 1)).map ((baseTokens + 1) ^ ·)).sum =
      ∑ hop ∈ Finset.range (maxHops + 1), (baseTokens + 1) ^ hop := rfl
  omega

/-- The candidate paths of every request stay within the bound the
configuration was checked against. -/
theorem length_pathCandidatesWithHops_le {baseTokens : List Address} {maxHops : Nat}
    (accepted : validateRouting baseTokens.length maxHops = .ok ())
    (order : RunOrder) (weth sellToken buyToken : Address) :
    ((BaseTokens.new weth baseTokens).pathCandidatesWithHops order sellToken
      buyToken maxHops).length ≤ pathCandidateBound baseTokens.length maxHops ∧
    pathCandidateBound baseTokens.length maxHops ≤ Limits.maxPathCandidates := by
  refine ⟨?_, (validateRouting_eq_ok_iff.mp accepted).2.2⟩
  have reordered : ((BaseTokens.new weth baseTokens).pathCandidatesWithHops
      order sellToken buyToken maxHops).length = (pathCandidates sellToken buyToken
          (order.tokens.iter (BaseTokens.new weth baseTokens).tokens)
          maxHops).length :=
    (order.candidates.perm _).length_eq
  have fewTokens : (order.tokens.iter
      (BaseTokens.new weth baseTokens).tokens).length ≤ baseTokens.length + 1 := by
    rw [(order.tokens.perm _).length_eq]
    exact BaseTokens.length_new_le weth baseTokens
  rw [reordered, pathCandidateBound_eq_sum accepted]
  calc (pathCandidates sellToken buyToken _ maxHops).length
    _ ≤ ∑ round ∈ Finset.range (maxHops + 1), (order.tokens.iter
            (BaseTokens.new weth baseTokens).tokens).length ^ round :=
        length_pathCandidates_le _ _ _ _
    _ ≤ ∑ round ∈ Finset.range (maxHops + 1), (baseTokens.length + 1) ^ round :=
        Finset.sum_le_sum fun round _ => Nat.pow_le_pow_left fewTokens round

/-- The base tokens and hops of the mainnet configuration: eight tokens and
two hops allow at most 91 paths. -/
theorem length_pathCandidatesWithHops_mainnet :
    validateRouting [11, 12, 13, 14, 15, 16, 17, (18 : Address)].length 2 = .ok () ∧
    ((BaseTokens.new 9 [11, 12, 13, 14, 15, 16, 17, 18]).pathCandidatesWithHops
      .inserted 1 2 2).length ≤ 91 := by
  have accepted : validateRouting [11, 12, 13, 14, 15, 16, 17, (18 : Address)].length 2 =
      .ok () := by
    decide +kernel
  refine ⟨accepted, (length_pathCandidatesWithHops_le accepted _ _ _ _).1.trans ?_⟩
  decide +kernel

end Config

/-! ## Loading -/

/-- The deployment that is served. -/
structure MandateDeployment where
  chainId : Option Nat
  settlement : Option Address

/-- The configuration file. -/
structure Config (Chain : Type) where
  chainId : Option Chain
  weth : Option Address
  baseTokens : List Address
  maxHops : Nat
  uniV3NodeUrl : Option String
  mandateChainId : Option Nat
  mandateSettlement : Option Address

/-- The checked configuration. -/
structure SolverConfig where
  weth : Address
  baseTokens : List Address
  maxHops : Nat
  uniV3NodeUrl : Option String
  mandate : MandateDeployment

namespace Config

variable {Chain ε : Type}

/-- The wrapped native token, named directly or through its chain;
`deploymentAddress` is the table of the deployed ones. -/
def wethAddress (deploymentAddress : Chain → Option Address) :
    Option Chain → Option Address → Outcome ε Address
  | some chainId, none =>
    Outcome.expect "there should be a contract address for all supported chains"
      (deploymentAddress chainId)
  | none, some weth => .ok weth
  | some _, some _ =>
    .panic (.explicit ("invalid configuration: cannot specify both " ++
      "`chain-id` and `weth` configuration options"))
  | none, none =>
    .panic (.explicit ("invalid configuration: must specify either " ++
      "`chain-id` or `weth` configuration options"))

def load (deploymentAddress : Chain → Option Address) (config : Config Chain) :
    Outcome ε SolverConfig := do
  (validateRouting config.baseTokens.length config.maxHops).orPanic ("invalid configuration: " ++ ·)
  let weth ← wethAddress deploymentAddress config.chainId config.weth
  return {
    weth := weth
    baseTokens := config.baseTokens
    maxHops := config.maxHops
    uniV3NodeUrl := config.uniV3NodeUrl
    mandate := ⟨config.mandateChainId, config.mandateSettlement⟩ }

end Config

/-- The service with its settings. -/
structure Engine where
  routing : Routing
  mandate : MandateDeployment

/-- The engine for a configuration; `deployed` connects to the quoter behind a
node, if there is one. -/
def Engine.new (deployed : String → Option UniswapV3QuoterV2) (config : SolverConfig) : Engine where
  routing := ⟨config.weth, config.baseTokens, config.maxHops, config.uniV3NodeUrl.bind deployed⟩
  mandate := config.mandate

end MandateSolver
