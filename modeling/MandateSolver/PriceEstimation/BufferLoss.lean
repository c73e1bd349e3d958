import Mathlib.Tactic.Positivity
import MandateSolver.PriceEstimation.TradeVerifier

/-!
# What verified quotes cost the settlement contract

The compared losses are not always those of the settlement contract: a token that is listed
twice is counted twice, and the roles are corrected with the amount the trader's balance
shows.
-/

namespace MandateSolver.PriceEstimation

open Outcome List

open Model (OrderKind)

/-! ## Simulations by their balances -/

/-- Balances before and after a simulated trade. -/
structure Simulation where
  (before after : Address → U256)
  (traderBefore traderAfter gasUsed : U256)

namespace Simulation

section

variable (simulation : Simulation)

/-- What the simulation returns. -/
def output (tokens : List Address) : SwapReturn where
  gasUsed := simulation.gasUsed
  queriedBalances := tokens.map simulation.before ++
    ([simulation.traderBefore, simulation.traderAfter] ++ tokens.map simulation.after)

/-- What the trader receives or pays. -/
def outAmount : OrderKind → Int
  | .sell => simulation.traderAfter.toNat - simulation.traderBefore.toNat
  | .buy => simulation.traderBefore.toNat - simulation.traderAfter.toNat

/-- A token counts as often after the trade as it is listed. -/
def listedLoss (tokens : List Address) (token : Address) : ℚ :=
  (simulation.before token).toNat - tokens.count token * (simulation.after token).toNat

end

end Simulation

variable {tokens : List Address} {settlement : Address} {trade : TradeKind I J} {outAmount : Int}
  {query : PriceQuery}

section

variable {simulation : Simulation}

theorem foldBalances_eq (tokens : List Address)
    (update : TokensLost → Address → ℚ → TokensLost) (balance : Address → U256)
    (earlier later : List U256) (lost : TokensLost) :
    foldBalances (earlier ++ (tokens.map balance ++ later)) update tokens earlier.length lost =
      .ok (tokens.foldl (fun lost token => update lost token (balance token).toNat) lost) := by
  induction tokens generalizing earlier lost with
  | nil => rfl
  | cons token tokens ih =>
    have rest := ih (earlier ++ [balance token]) (update lost token (balance token).toNat)
    simpa [foldBalances, index] using rest

section

variable (amount : Address → ℚ) (lost : TokensLost) (token : Address)

theorem foldl_insert :
    tokens.foldl (fun lost token => lost.insert token (amount token)) lost token =
      if token ∈ tokens then some (amount token) else lost token := by
  induction tokens generalizing lost with
  | nil => simp
  | cons first tokens ih =>
    rw [foldl_cons, ih]
    by_cases later : token ∈ tokens
    · simp [later]
    · by_cases same : token = first <;> simp [same, TokensLost.insert]

theorem foldl_andModify :
    tokens.foldl (fun lost token => lost.andModify token (· - amount token)) lost token =
      (lost token).map (· - tokens.count token * amount token) := by
  induction tokens generalizing lost with
  | nil => simp
  | cons first tokens ih =>
    rw [foldl_cons, ih]
    by_cases same : first = token
    · subst same
      simp only [TokensLost.andModify, if_true, Option.map_map, count_cons_self]
      congr 1
      funext amount
      simp only [Function.comp_apply]
      push_cast
      ring
    · have other : token ≠ first := fun equal => same equal.symm
      simp only [TokensLost.andModify, other, if_false, count_cons_of_ne same]

end

theorem fromSwap_output (simulation : Simulation) (tokens : List Address) (kind : OrderKind) :
    fromSwap (simulation.output tokens) kind tokens =
      .ok ⟨simulation.gasUsed, simulation.outAmount kind, fun token =>
        if token ∈ tokens then some (simulation.listedLoss tokens token) else none⟩ := by
  have first := foldBalances_eq tokens .insert simulation.before []
    ([simulation.traderBefore, simulation.traderAfter] ++ tokens.map simulation.after)
  have second := fun lost => foldBalances_eq tokens
    (fun lost token balance => lost.andModify token (· - balance)) simulation.after
    (tokens.map simulation.before ++ [simulation.traderBefore, simulation.traderAfter])
    [] lost
  simp only [nil_append, length_nil, append_nil, append_assoc,
    length_append, length_map, length_cons] at first second
  have traderBefore : (index (tokens.map simulation.before ++
      ([simulation.traderBefore, simulation.traderAfter] ++ tokens.map simulation.after))
      tokens.length : Outcome Error U256) = .ok simulation.traderBefore := by
    simp [index]
  have traderAfter : (index (tokens.map simulation.before ++
      ([simulation.traderBefore, simulation.traderAfter] ++ tokens.map simulation.after))
      (tokens.length + 1) : Outcome Error U256) = .ok simulation.traderAfter := by
    simp [index]
  simp only [fromSwap, Simulation.output, first, second, traderBefore, traderAfter, ok_bind]
  congr 2
  funext token
  rw [foldl_andModify (fun token => ((simulation.after token).toNat : ℚ)),
    foldl_insert (fun token => ((simulation.before token).toNat : ℚ))]
  split <;> rfl

end

/-! ## Reported and true losses -/

/-- Without a receiver the sender gets the payout. -/
def Verification.payee (verification : Verification) : Address :=
  if verification.receiver = 0 then verification.sender else verification.receiver

section

variable (settlement) (query) (verification : Verification) (simulation : Simulation)

/-- What the settlement contract lost of a token, apart from its own trade. -/
def trueLoss (outAmount : Int) (token : Address) : ℚ :=
  (simulation.before token).toNat - (simulation.after token).toNat -
    (if verification.sender = settlement ∧ token = query.sellToken
      then ((query.amounts outAmount).1 : ℚ) else 0) +
    (if verification.payee = settlement ∧ token = query.buyToken
      then ((query.amounts outAmount).2 : ℚ) else 0)

def reportedLoss (tokens : List Address) (token : Address) : ℚ :=
  let outAmount := simulation.outAmount query.kind
  simulation.listedLoss tokens token -
    (if verification.sender = settlement ∧ token = query.sellToken
      then ((query.amounts outAmount).1 : ℚ) else 0) +
    (if verification.receiver = settlement ∧ token = query.buyToken
      then ((query.amounts outAmount).2 : ℚ) else 0)

/-- Neither true loss reaches the limit. -/
structure SparesBuffers (limit : ℚ) (outAmount : Int) : Prop where
  sell : trueLoss settlement query verification simulation outAmount query.sellToken <
    limit * (query.amounts outAmount).1
  buy : trueLoss settlement query verification simulation outAmount query.buyToken <
    limit * (query.amounts outAmount).2

/-- The amount that is quoted for a simulation. -/
def Quotes (outAmount : Int) : Prop :=
  correctedOutAmount query verification (simulation.outAmount query.kind) = .ok outAmount

/-- No loss is reported as too small. -/
structure ReportsLosses (tokens : List Address) (outAmount : Int) : Prop where
  sell : trueLoss settlement query verification simulation outAmount query.sellToken ≤
    reportedLoss settlement query verification simulation tokens query.sellToken
  buy : trueLoss settlement query verification simulation outAmount query.buyToken ≤
    reportedLoss settlement query verification simulation tokens query.buyToken

/-- What verification checks of the reported losses. -/
structure StaysBelow (tokens : List Address) (limit : ℚ) (outAmount : Int) : Prop where
  sell : reportedLoss settlement query verification simulation tokens query.sellToken <
    limit * (query.amounts outAmount).1
  buy : reportedLoss settlement query verification simulation tokens query.buyToken <
    limit * (query.amounts outAmount).2

variable {settlement query verification simulation}

theorem andModify_apply (lost : TokensLost) (key token : Address) (change : ℚ → ℚ) :
    lost.andModify key change token =
      (lost token).map fun amount => if token = key then change amount else amount := by
  unfold TokensLost.andModify
  by_cases same : token = key <;> simp [same]

/-- Every entry is corrected by the amounts of the roles it stands for. -/
theorem adjustedLosses_apply (summary : SettleOutput) (token : Address) :
    adjustedLosses settlement query verification summary token =
      (summary.tokensLost token).map fun loss => loss -
        (if verification.sender = settlement ∧ token = query.sellToken
          then ((query.amounts summary.outAmount).1 : ℚ) else 0) +
        (if verification.receiver = settlement ∧ token = query.buyToken
          then ((query.amounts summary.outAmount).2 : ℚ) else 0) := by
  unfold adjustedLosses
  by_cases sender : verification.sender = settlement <;>
    by_cases receiver : verification.receiver = settlement <;>
    simp only [sender, receiver, if_true, if_false, true_and, false_and,
      andModify_apply, Option.map_map]
  all_goals
    cases summary.tokensLost token with
    | none => rfl
    | some loss =>
      simp only [Option.map_some, Function.comp_apply, Option.some.injEq]
      try split_ifs
      all_goals ring

theorem adjustedLosses_output (token : Address) : adjustedLosses settlement query verification
        ⟨simulation.gasUsed, simulation.outAmount query.kind, fun token =>
          if token ∈ tokens then some (simulation.listedLoss tokens token) else none⟩
        token =
      if token ∈ tokens
      then some (reportedLoss settlement query verification simulation tokens token)
      else none := by
  rw [adjustedLosses_apply]
  by_cases listed : token ∈ tokens
  · simp only [listed]
    rfl
  · simp only [listed]
    rfl

theorem i512ToU256_eq_ok_iff {input : Int} {result : U256} : i512ToU256 input = .ok result ↔
      input < U256.max.toNat ∧ result.toNat = input := by
  simp only [i512ToU256, bind_eq_ok_iff, rejectIf_eq_ok_iff, pure_eq, ok.injEq]
  constructor
  · rintro ⟨_, _, _, less, rfl⟩
    rw [BitVec.toNat_ofNat]
    omega
  · rintro ⟨less, _⟩
    refine ⟨(), by omega, (), by omega, ?_⟩
    rw [← BitVec.toNat_inj, BitVec.toNat_ofNat]
    omega

variable {I J : Type} {limit : ℚ} {estimate : Estimate I J}

theorem verifyInner_outAmount_iff (outAmount : Int) :
    (∃ estimate, verifyInner settlement limit query verification trade
        (simulation.output (trade.tokens query)) = .ok estimate ∧
          estimate.outAmount.toNat = outAmount) ↔
      query.sellToken ∈ trade.tokens query ∧ query.buyToken ∈ trade.tokens query ∧
        Quotes query verification simulation outAmount ∧
        0 ≤ outAmount ∧ outAmount < U256.max.toNat ∧
        StaysBelow settlement query verification simulation (trade.tokens query) limit
          outAmount := by
  simp only [verifyInner, fromSwap_output, ok_bind, ensureQuoteAccuracy,
    adjustedLosses_output, bind_eq_ok_iff, okOr_eq_ok_iff,
    rejectIf_eq_ok_iff, i512ToU256_eq_ok_iff, not_or, not_le,
    pure_eq, ok.injEq, Option.ite_none_right_eq_some,
    Option.some.injEq]
  constructor
  · rintro ⟨estimate, ⟨_, corrected, _, ⟨sellListed, rfl⟩, _,
      ⟨buyListed, rfl⟩, _, ⟨sellBelow, buyBelow⟩, result, ⟨less, value⟩, rfl⟩, rfl⟩
    rw [value]
    exact ⟨sellListed, buyListed, corrected, by omega, less, sellBelow, buyBelow⟩
  · rintro ⟨sellListed, buyListed, corrected, _, less, ⟨sellBelow, buyBelow⟩⟩
    obtain ⟨result, value⟩ : ∃ result : U256, result.toNat = outAmount.toNat :=
      U256.exists_toNat_eq (by
        omega)
    have exact : result.toNat = outAmount := by omega
    exact ⟨_, ⟨outAmount, corrected, _, ⟨sellListed, rfl⟩, _, ⟨buyListed, rfl⟩, (),
      ⟨sellBelow, buyBelow⟩, result, ⟨less, exact⟩, rfl⟩, exact⟩

end

/-! ## Where the two losses differ -/

section

variable {verification : Verification} {simulation : Simulation}

theorem amounts_nonneg (query : PriceQuery) (nonneg : 0 ≤ outAmount) :
    0 ≤ (query.amounts outAmount).1 ∧ 0 ≤ (query.amounts outAmount).2 := by
  unfold PriceQuery.amounts
  cases query.kind with
  | sell => exact ⟨by positivity, nonneg⟩
  | buy => exact ⟨nonneg, by positivity⟩

theorem amounts_pos (query : PriceQuery) (positive : 0 < outAmount) :
    0 < (query.amounts outAmount).1 ∧ 0 < (query.amounts outAmount).2 := by
  have input := BitVec.toNat_pos_of_ne_zero query.nonzero
  unfold PriceQuery.amounts
  cases query.kind with
  | sell => exact ⟨by positivity, positive⟩
  | buy => exact ⟨positive, by positivity⟩

theorem payee_of_owner (owner : verification.ownerIsReceiver) :
    verification.payee = verification.sender := by
  unfold Verification.payee
  split
  · rfl
  · rename_i nonzero
    exact owner.resolve_left nonzero

theorem payee_of_not_owner (other : ¬ verification.ownerIsReceiver) :
    verification.payee = verification.receiver :=
  if_neg fun zero => other (.inl zero)

theorem quotes_distinct_iff (distinct : query.sellToken ≠ query.buyToken) :
    Quotes query verification simulation outAmount ↔
      0 ≤ outAmount ∧ simulation.outAmount query.kind = outAmount := by
  rw [Quotes, correctedOutAmount, if_neg fun both => distinct both.1]
  split <;> simp <;> omega

theorem quotes_same_iff (same : query.sellToken = query.buyToken) :
    Quotes query verification simulation outAmount ↔ if verification.ownerIsReceiver then
        query.inAmount.toNat + simulation.outAmount query.kind = outAmount
      else 0 ≤ outAmount ∧ simulation.outAmount query.kind = outAmount := by
  rw [Quotes, correctedOutAmount]
  by_cases owner : verification.ownerIsReceiver
  · simp [same, owner]
  · simp only [owner, and_false, if_false]
    split <;> simp <;> omega

theorem listedLoss_once {token : Address} (once : tokens.count token = 1) :
    simulation.listedLoss tokens token =
      (simulation.before token).toNat - (simulation.after token).toNat := by
  simp [Simulation.listedLoss, once]

/-- With different tokens only an unnamed receiver makes a difference. -/
theorem reportedLoss_distinct (settlement : Address) (verification : Verification)
    (distinct : query.sellToken ≠ query.buyToken) (sellOnce : tokens.count query.sellToken = 1)
    (buyOnce : tokens.count query.buyToken = 1)
    (raw : simulation.outAmount query.kind = outAmount) :
    reportedLoss settlement query verification simulation tokens query.sellToken =
        trueLoss settlement query verification simulation outAmount query.sellToken ∧
      reportedLoss settlement query verification simulation tokens query.buyToken =
        trueLoss settlement query verification simulation outAmount query.buyToken +
          (if verification.receiver = settlement
            then ((query.amounts outAmount).2 : ℚ) else 0) -
          (if verification.payee = settlement
            then ((query.amounts outAmount).2 : ℚ) else 0) := by
  simp only [reportedLoss, trueLoss, raw, listedLoss_once sellOnce,
    listedLoss_once buyOnce, distinct, and_false, and_true]
  refine ⟨trivial, ?_⟩
  ring

/-- With the same token on both sides the amounts before their correction and
the repeated token make a difference as well. -/
theorem reportedLoss_same (settlement : Address) (tokens : List Address)
    (same : query.sellToken = query.buyToken)
    (quoted : Quotes query verification simulation outAmount) :
    reportedLoss settlement query verification simulation tokens query.sellToken =
      trueLoss settlement query verification simulation outAmount query.sellToken -
        ((tokens.count query.sellToken) - 1) * (simulation.after query.sellToken).toNat +
        if verification.ownerIsReceiver then
          match query.kind with
          | .sell => (if verification.receiver = settlement
                then ((simulation.outAmount query.kind) : ℚ) else 0) -
              (if verification.sender = settlement then (outAmount : ℚ) else 0)
          | .buy => if verification.receiver = settlement
              then query.inAmount.toNat else 0
        else 0 := by
  rw [quotes_same_iff same] at quoted
  simp only [reportedLoss, trueLoss, Simulation.listedLoss, PriceQuery.amounts, and_true, same]
  by_cases owner : verification.ownerIsReceiver
  · rw [if_pos owner] at quoted
    have sum : (outAmount : ℚ) = query.inAmount.toNat + (simulation.outAmount query.kind) := by
      exact_mod_cast quoted.symm
    rw [payee_of_owner owner]
    generalize simulation.outAmount query.kind = raw at sum
    cases query.kind with
    | sell | buy =>
      split_ifs <;> push_cast <;> linarith
  · rw [if_neg owner] at quoted
    rw [if_neg owner, payee_of_not_owner owner, quoted.2]
    ring

end

/-! ## When the true losses are below the limit -/

section

variable {I J : Type}

/-- The reported loss is never below the true one, or there is none.  Different
tokens: the settlement contract does not get the payout as a sender that names
no receiver.  The same token in a trade with prices: the settlement contract
does not sell for itself.  The same token in a trade without prices is listed
twice and almost never accounted for. -/
def Accounted (settlement : Address) (query : PriceQuery)
    (verification : Verification) (trade : TradeKind I J) : Prop :=
  query.sellToken ∉ trade.tokens query ∨ query.buyToken ∉ trade.tokens query ∨
  if query.sellToken = query.buyToken then
    match trade with
    | .regular _ => ¬ (query.kind = .sell ∧ verification.ownerIsReceiver ∧
        (verification.sender = settlement ∨ verification.receiver = settlement))
    -- the amount of the query makes up for any balance that is counted twice
    | .legacy _ => query.kind = .buy ∧ verification.ownerIsReceiver ∧
        verification.receiver = settlement ∧ query.inAmount = U256.max
  else ¬ (verification.payee = settlement ∧ verification.receiver ≠ settlement)

variable {verification : Verification} {simulation : Simulation}

theorem count_regular {trade : Trade I J} {token : Address}
    (listed : token ∈ (TradeKind.regular trade).tokens query) :
    ((TradeKind.regular trade).tokens query).count token = 1 :=
  count_eq_one_of_mem trade.clearingPrices.nodup_keys listed

theorem count_distinct (distinct : query.sellToken ≠ query.buyToken)
    (sellListed : query.sellToken ∈ trade.tokens query)
    (buyListed : query.buyToken ∈ trade.tokens query) :
    (trade.tokens query).count query.sellToken = 1 ∧
      (trade.tokens query).count query.buyToken = 1 := by
  cases trade with
  | legacy trade => simp [TradeKind.tokens, distinct]
  | regular trade => exact ⟨count_regular sellListed, count_regular buyListed⟩

theorem count_legacy_same {trade : LegacyTrade I} (same : query.sellToken = query.buyToken) :
    ((TradeKind.legacy trade : TradeKind I J).tokens query).count query.sellToken =
      2 := by
  simp [TradeKind.tokens, same]

theorem reportsLosses_distinct (distinct : query.sellToken ≠ query.buyToken)
    (sellListed : query.sellToken ∈ trade.tokens query)
    (buyListed : query.buyToken ∈ trade.tokens query)
    (quoted : Quotes query verification simulation outAmount)
    (named : verification.payee = settlement → verification.receiver = settlement) :
    ReportsLosses settlement query verification simulation (trade.tokens query)
      outAmount := by
  obtain ⟨sellOnce, buyOnce⟩ := count_distinct distinct sellListed buyListed
  obtain ⟨nonneg, raw⟩ := (quotes_distinct_iff distinct).mp quoted
  obtain ⟨sell, buy⟩ := reportedLoss_distinct settlement verification distinct sellOnce buyOnce raw
  have bought : (0 : ℚ) ≤ (query.amounts outAmount).2 := by
    exact_mod_cast (amounts_nonneg query nonneg).2
  refine ⟨sell.ge, ?_⟩
  rw [buy]
  by_cases paid : verification.payee = settlement
  · rw [if_pos paid, if_pos (named paid)]
    linarith
  · split_ifs <;> linarith

theorem reportsLosses_of_same {tokens : List Address} (same : query.sellToken = query.buyToken)
    (sell : trueLoss settlement query verification simulation outAmount query.sellToken ≤
      reportedLoss settlement query verification simulation tokens query.sellToken) :
    ReportsLosses settlement query verification simulation tokens outAmount :=
  ⟨sell, same ▸ sell⟩

theorem reportsLosses_regular {trade : Trade I J} (same : query.sellToken = query.buyToken)
    (listed : query.sellToken ∈ (TradeKind.regular trade).tokens query)
    (quoted : Quotes query verification simulation outAmount)
    (apart : ¬ (query.kind = .sell ∧ verification.ownerIsReceiver ∧
      (verification.sender = settlement ∨ verification.receiver = settlement))) :
    ReportsLosses settlement query verification simulation
      ((TradeKind.regular trade).tokens query) outAmount := by
  apply reportsLosses_of_same same
  have difference := reportedLoss_same settlement
    ((TradeKind.regular trade).tokens query) same quoted
  rw [count_regular listed, Nat.cast_one, sub_self, zero_mul] at difference
  by_cases owner : verification.ownerIsReceiver
  · rw [if_pos owner] at difference
    cases kind : query.kind with
    | sell =>
      simp only [kind, owner, true_and, not_or] at apart
      simp only [kind, apart, if_false] at difference
      linarith
    | buy =>
      have gained : 0 ≤ if verification.receiver = settlement
          then (query.inAmount.toNat : ℚ) else 0 := by positivity
      simp only [kind] at difference
      linarith
  · rw [if_neg owner] at difference
    linarith

theorem reportsLosses_legacy {trade : LegacyTrade I} (same : query.sellToken = query.buyToken)
    (quoted : Quotes query verification simulation outAmount)
    (kind : query.kind = .buy) (owner : verification.ownerIsReceiver)
    (named : verification.receiver = settlement) (maximal : query.inAmount = U256.max) :
    ReportsLosses settlement query verification simulation
      ((TradeKind.legacy trade : TradeKind I J).tokens query) outAmount := by
  apply reportsLosses_of_same same
  have difference := reportedLoss_same settlement
    ((TradeKind.legacy trade : TradeKind I J).tokens query) same quoted
  have balance : ((simulation.after query.sellToken).toNat : ℚ) ≤
      query.inAmount.toNat := by
    have bound := (simulation.after query.sellToken).isLt
    rw [maximal]
    exact_mod_cast Nat.le_pred_of_lt bound
  rw [count_legacy_same same, if_pos owner] at difference
  simp only [kind, named] at difference
  push_cast at difference
  linarith

theorem Accounted.reportsLosses (accounted : Accounted settlement query verification trade)
    (sellListed : query.sellToken ∈ trade.tokens query)
    (buyListed : query.buyToken ∈ trade.tokens query)
    (quoted : Quotes query verification simulation outAmount) :
    ReportsLosses settlement query verification simulation (trade.tokens query)
      outAmount := by
  have condition := (accounted.resolve_left (not_not.mpr sellListed)).resolve_left
    (not_not.mpr buyListed)
  by_cases same : query.sellToken = query.buyToken
  · rw [if_pos same] at condition
    cases trade with
    | regular trade => exact reportsLosses_regular same sellListed quoted condition
    | legacy trade =>
      obtain ⟨kind, owner, named, maximal⟩ := condition
      exact reportsLosses_legacy same quoted kind owner named maximal
  · rw [if_neg same] at condition
    apply reportsLosses_distinct same sellListed buyListed quoted
    intro paid
    by_contra unnamed
    exact condition ⟨paid, unnamed⟩

/-! ## When they are not -/

theorem exists_limit {sell buy reported lost : ℚ} (sold : 0 < sell) (bought : 0 < buy)
    (less : reported < lost) :
    ∃ limit, reported < limit * sell ∧ reported < limit * buy ∧
      (limit * sell ≤ lost ∨ limit * buy ≤ lost) := by
  wlog ordered : sell ≤ buy generalizing sell buy
  · obtain ⟨limit, first, second, exceeded⟩ := this bought sold (le_of_not_ge ordered)
    exact ⟨limit, second, first, exceeded.symm⟩
  rcases le_total 0 lost with gain | loss
  · have exact := div_mul_cancel₀ lost sold.ne'
    have more := mul_le_mul_of_nonneg_left ordered (div_nonneg gain sold.le)
    exact ⟨lost / sell, by linarith, by linarith, .inl exact.le⟩
  · have exact := div_mul_cancel₀ lost bought.ne'
    have more := mul_le_mul_of_nonpos_left ordered (div_nonpos_of_nonpos_of_nonneg loss bought.le)
    exact ⟨lost / buy, by linarith, by linarith, .inr exact.le⟩

/-- A simulation with the same balances for all tokens in which the trader's
balance shows the given amount. -/
theorem exists_simulation (before after : U256) (kind : OrderKind) (raw : Int)
    (lower : -2 ^ 256 < raw) (upper : raw < 2 ^ 256) :
    ∃ simulation : Simulation, simulation.outAmount kind = raw ∧
      (∀ token, simulation.before token = before) ∧
      ∀ token, simulation.after token = after := by
  obtain ⟨gained, _⟩ : ∃ value : U256, value.toNat = raw.toNat :=
    U256.exists_toNat_eq (by omega)
  obtain ⟨spent, _⟩ : ∃ value : U256, value.toNat = (-raw).toNat :=
    U256.exists_toNat_eq (by omega)
  cases kind with
  | sell =>
    refine ⟨⟨fun _ => before, fun _ => after, spent, gained, 0⟩, ?_, fun _ => rfl, fun _ => rfl⟩
    simp only [Simulation.outAmount]
    omega
  | buy =>
    refine ⟨⟨fun _ => before, fun _ => after, gained, spent, 0⟩, ?_, fun _ => rfl, fun _ => rfl⟩
    simp only [Simulation.outAmount]
    omega

/-- Whatever is simulated, a verified quote spares the buffers. -/
def AlwaysSparesBuffers (settlement : Address) (query : PriceQuery)
    (verification : Verification) (trade : TradeKind I J) : Prop :=
  ∀ (limit : ℚ) (simulation : Simulation) (estimate : Estimate I J),
    verifyInner settlement limit query verification trade
      (simulation.output (trade.tokens query)) = .ok estimate →
    SparesBuffers settlement query verification simulation limit estimate.outAmount.toNat

theorem not_alwaysSparesBuffers {limit : ℚ} (sellListed : query.sellToken ∈ trade.tokens query)
    (buyListed : query.buyToken ∈ trade.tokens query)
    (quoted : Quotes query verification simulation outAmount)
    (nonneg : 0 ≤ outAmount) (fits : outAmount < U256.max.toNat)
    (below : StaysBelow settlement query verification simulation (trade.tokens query)
      limit outAmount)
    (exceeds : ¬ SparesBuffers settlement query verification simulation limit outAmount) :
    ¬ AlwaysSparesBuffers settlement query verification trade := by
  intro spares
  obtain ⟨estimate, verified, value⟩ := (verifyInner_outAmount_iff outAmount).mpr
    ⟨sellListed, buyListed, quoted, nonneg, fits, below⟩
  have spared := spares limit simulation estimate verified
  rw [value] at spared
  exact exceeds spared

theorem not_alwaysSparesBuffers_of_same (same : query.sellToken = query.buyToken)
    (listed : query.sellToken ∈ trade.tokens query)
    (quoted : Quotes query verification simulation outAmount)
    (positive : 0 < outAmount) (fits : outAmount < U256.max.toNat)
    (less : reportedLoss settlement query verification simulation (trade.tokens query)
        query.sellToken <
      trueLoss settlement query verification simulation outAmount query.sellToken) :
    ¬ AlwaysSparesBuffers settlement query verification trade := by
  have amounts := amounts_pos query positive
  obtain ⟨_, sellBelow, buyBelow, exceeded⟩ :=
    exists_limit (Int.cast_pos.mpr amounts.1) (Int.cast_pos.mpr amounts.2) less
  apply not_alwaysSparesBuffers listed (same ▸ listed) quoted positive.le fits
    ⟨sellBelow, same ▸ buyBelow⟩
  rintro ⟨sell, buy⟩
  rw [← same] at buy
  obtain exceeded | exceeded := exceeded
  · exact absurd sell (not_lt.mpr exceeded)
  · exact absurd buy (not_lt.mpr exceeded)

theorem exists_unit_simulation (verification : Verification)
    (same : query.sellToken = query.buyToken) (after : U256) :
    ∃ simulation, Quotes query verification simulation 1 ∧
      (∀ token, simulation.after token = after) ∧
      (verification.ownerIsReceiver → simulation.outAmount query.kind ≤ 0) := by
  have input := BitVec.toNat_pos_of_ne_zero query.nonzero
  by_cases owner : verification.ownerIsReceiver
  · obtain ⟨simulation, raw, -, balance⟩ := exists_simulation 0 after query.kind
      (1 - query.inAmount.toNat) (by omega) (by omega)
    refine ⟨simulation, ?_, balance, fun _ => by omega⟩
    rw [quotes_same_iff same, if_pos owner, raw]
    ring
  · obtain ⟨simulation, raw, -, balance⟩ := exists_simulation 0 after query.kind 1
      (by norm_num) (by norm_num)
    refine ⟨simulation, ?_, balance, fun isOwner => absurd isOwner owner⟩
    rw [quotes_same_iff same, if_neg owner, raw]
    exact ⟨by norm_num, rfl⟩

/-- A payout to a sender that names no receiver is not seen. -/
theorem not_spares_distinct (distinct : query.sellToken ≠ query.buyToken)
    (sellListed : query.sellToken ∈ trade.tokens query)
    (buyListed : query.buyToken ∈ trade.tokens query) (paid : verification.payee = settlement)
    (unnamed : verification.receiver ≠ settlement) :
    ¬ AlwaysSparesBuffers settlement query verification trade := by
  obtain ⟨simulation, raw, before, after⟩ := exists_simulation 0 0 query.kind 1
    (by norm_num) (by norm_num)
  obtain ⟨sellOnce, buyOnce⟩ := count_distinct distinct sellListed buyListed
  obtain ⟨_, buyReported⟩ := reportedLoss_distinct settlement verification
    distinct sellOnce buyOnce raw
  have sender : verification.sender = settlement := by
    unfold Verification.payee at paid
    split at paid
    · exact paid
    · exact absurd paid unnamed
  have amounts := amounts_pos query one_pos
  have sold : (0 : ℚ) < (query.amounts 1).1 := Int.cast_pos.mpr amounts.1
  have bought : (0 : ℚ) < (query.amounts 1).2 := Int.cast_pos.mpr amounts.2
  have sellLoss : trueLoss settlement query verification simulation 1 query.sellToken =
      -(query.amounts 1).1 := by
    simp [trueLoss, before, after, sender, distinct]
  have buyLoss : trueLoss settlement query verification simulation 1 query.buyToken =
      (query.amounts 1).2 := by
    simp [trueLoss, before, after, paid, distinct.symm]
  rw [if_neg unnamed, if_pos paid] at buyReported
  apply not_alwaysSparesBuffers sellListed buyListed
    ((quotes_distinct_iff distinct).mpr ⟨zero_le_one, raw⟩) zero_le_one (by decide)
    (show StaysBelow _ _ _ _ _ (1 / 2) 1 from ⟨by linarith, by linarith⟩)
  rintro ⟨_, _⟩
  linarith

section

variable {trade : Trade I J} (same : query.sellToken = query.buyToken)
  (listed : query.sellToken ∈ (TradeKind.regular trade).tokens query)
  (kind : query.kind = .sell) (owner : verification.ownerIsReceiver)
include same listed kind owner

/-- What the settlement contract sells for itself is taken off before the bought
amount is known. -/
theorem not_spares_seller
    (sender : verification.sender = settlement) :
    ¬ AlwaysSparesBuffers settlement query verification (.regular trade) := by
  obtain ⟨simulation, quoted, _, shown⟩ := exists_unit_simulation verification same 0
  apply not_alwaysSparesBuffers_of_same same listed quoted one_pos (by decide)
  have raw : ((simulation.outAmount query.kind) : ℚ) ≤ 0 := by
    exact_mod_cast shown owner
  rw [reportedLoss_same settlement _ same quoted, count_regular listed]
  simp only [kind] at raw ⊢
  split_ifs <;> push_cast <;> linarith

/-- A receiver that gets nothing seems to get less than nothing. -/
theorem not_spares_receiver
    (sender : verification.sender ≠ settlement) (named : verification.receiver = settlement) :
    ¬ AlwaysSparesBuffers settlement query verification (.regular trade) := by
  have input := BitVec.toNat_pos_of_ne_zero query.nonzero
  obtain ⟨simulation, raw, before, after⟩ := exists_simulation 0 0 query.kind
    (-query.inAmount.toNat) (by omega) (by omega)
  have quoted : Quotes query verification simulation 0 := by
    rw [quotes_same_iff same, if_pos owner, raw]
    ring
  have lost : trueLoss settlement query verification simulation 0 query.sellToken =
      0 := by
    simp [trueLoss, before, after, sender, payee_of_owner owner]
  have negative : reportedLoss settlement query verification simulation
      ((TradeKind.regular trade).tokens query) query.sellToken < 0 := by
    rw [reportedLoss_same settlement _ same quoted, if_pos owner, count_regular listed]
    simp only [kind] at raw ⊢
    rw [if_pos named, if_neg sender, raw]
    push_cast
    have positive : (0 : ℚ) < query.inAmount.toNat := Nat.cast_pos.mpr input
    linarith
  apply not_alwaysSparesBuffers listed (same ▸ listed) quoted le_rfl (by decide)
    (show StaysBelow _ _ _ _ _ 0 0 from ⟨by rwa [zero_mul], by rwa [zero_mul, ← same]⟩)
  rintro ⟨sell, _⟩
  rw [lost, zero_mul] at sell
  exact lt_irrefl _ sell

end

/-- A balance that is listed twice is subtracted twice. -/
theorem not_spares_legacy {trade : LegacyTrade I} (same : query.sellToken = query.buyToken)
    (small : ¬ (query.kind = .buy ∧ verification.ownerIsReceiver ∧
      verification.receiver = settlement ∧ query.inAmount = U256.max)) :
    ¬ AlwaysSparesBuffers settlement query verification (.legacy trade : TradeKind I J) := by
  obtain ⟨balance, value⟩ : ∃ balance : U256, balance.toNat =
      if query.kind = .buy ∧ verification.ownerIsReceiver ∧
        verification.receiver = settlement then query.inAmount.toNat + 1 else 1 := by
    refine U256.exists_toNat_eq ?_
    split
    · rename_i roles
      have below : query.inAmount.toNat ≠ U256.max.toNat := fun full =>
        small ⟨roles.1, roles.2.1, roles.2.2, BitVec.eq_of_toNat_eq full⟩
      have most : U256.max.toNat = 2 ^ 256 - 1 := BitVec.toNat_allOnes
      omega
    · norm_num
  obtain ⟨simulation, quoted, after, shown⟩ := exists_unit_simulation verification same balance
  apply not_alwaysSparesBuffers_of_same same (by simp [TradeKind.tokens]) quoted one_pos (by decide)
  rw [reportedLoss_same settlement _ same quoted, count_legacy_same same, after, value]
  by_cases owner : verification.ownerIsReceiver
  · have raw : ((simulation.outAmount query.kind) : ℚ) ≤ 0 := by
      exact_mod_cast shown owner
    cases kind : query.kind with
    | sell =>
      rw [kind] at raw
      split_ifs <;> push_cast <;> linarith
    | buy =>
      simp only [owner, true_and]
      split_ifs <;> push_cast <;> linarith
  · simp [owner]

/-- Verified quotes spare the buffers exactly when the losses are accounted
for. -/
theorem alwaysSparesBuffers_iff (settlement : Address) (query : PriceQuery)
    (verification : Verification) (trade : TradeKind I J) :
    AlwaysSparesBuffers settlement query verification trade ↔
      Accounted settlement query verification trade := by
  constructor
  · intro spares
    by_cases sellListed : query.sellToken ∈ trade.tokens query
    · by_cases buyListed : query.buyToken ∈ trade.tokens query
      · refine .inr (.inr ?_)
        split
        · rename_i same
          cases trade with
          | regular trade =>
            rintro ⟨kind, owner, involved⟩
            by_cases sender : verification.sender = settlement
            · exact not_spares_seller same sellListed kind owner sender spares
            · exact not_spares_receiver same sellListed kind owner sender
                (involved.resolve_left sender) spares
          | legacy trade =>
            by_contra small
            exact not_spares_legacy same small spares
        · rename_i distinct
          rintro ⟨paid, unnamed⟩
          exact not_spares_distinct distinct sellListed buyListed paid unnamed spares
      · exact .inr (.inl buyListed)
    · exact .inl sellListed
  · intro accounted limit simulation estimate verified
    obtain ⟨sellListed, buyListed, quoted, -, -, below⟩ :=
      (verifyInner_outAmount_iff _).mp ⟨estimate, verified, rfl⟩
    have reported := accounted.reportsLosses sellListed buyListed quoted
    exact ⟨reported.sell.trans_lt below.sell, reported.buy.trans_lt below.buy⟩

def sameTokenQuery : PriceQuery where
  sellToken := 1
  buyToken := 1
  kind := .sell
  inAmount := 1000
  nonzero := by decide

def paidByBuffers : Simulation where
  before := fun _ => 5000
  after := fun _ => 4000
  traderBefore := 0
  traderAfter := 0
  gasUsed := 0

theorem verifyInner_paidByBuffers :
    let query := sameTokenQuery
    let verification : Verification := ⟨7, 7⟩
    let trade : TradeKind Unit Unit := .legacy ⟨[], 8⟩
    ∃ estimate, verifyInner 9 (1 / 2) query verification trade
        (paidByBuffers.output (trade.tokens query)) = .ok estimate ∧
      estimate.verified = true ∧
      ¬ SparesBuffers 9 query verification paidByBuffers (1 / 2)
        estimate.outAmount.toNat := by
  refine ⟨⟨1000, 0, 8, true, ⟨[], [], []⟩⟩, by decide +kernel, rfl, ?_⟩
  rintro ⟨sell, -⟩
  revert sell
  decide +kernel

end

end MandateSolver.PriceEstimation
