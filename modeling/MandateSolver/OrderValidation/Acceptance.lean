import MandateSolver.OrderValidation.Validator

/-!
# What an accepted order was checked for

The sum that is compared with the cap of the gas wraps around.  The orders of a user outside
of the market price are capped, but an order that cannot be quoted is accepted without
counting.
-/

namespace MandateSolver.OrderValidation

open Outcome List

open Model (DomainSeparator OrderData Signature)

/-! ## Gas -/

def Hooks.totalGas (hooks : Hooks) : Nat :=
  ((hooks.pre ++ hooks.post).map (·.gasLimit.toNat)).sum

theorem Hooks.toNat_gasLimit (hooks : Hooks) :
    hooks.gasLimit.toNat = min hooks.totalGas (2 ^ 64 - 1) := by
  -- the saturating fold from any start
  have general : ∀ (hooks : List Hook) start,
      (hooks.foldl (fun total hook => U64.saturatingAdd total hook.gasLimit) start).toNat =
        min (start.toNat + (hooks.map (·.gasLimit.toNat)).sum) (2 ^ 64 - 1) := by
    intro hooks
    induction hooks with
    | nil =>
      simp only [foldl_nil, map_nil, sum_nil]
      omega
    | cons hook hooks ih =>
      intro start
      rw [foldl_cons, ih, U64.toNat_saturatingAdd, map_cons, sum_cons]
      omega
  rw [Hooks.gasLimit, general, Hooks.totalGas]
  simp

variable (parameters : QuoteSearchParameters) {owner : Address}

theorem QuoteSearchParameters.toNat_additionalCost :
    parameters.additionalCost.toNat = min (parameters.signingScheme.additionalGasAmount.toNat +
        parameters.additionalGas.toNat) (2 ^ 64 - 1) :=
  U64.toNat_saturatingAdd _ _

theorem additionalGasAmount_of_convert {validator : OrderValidator}
    {domainSeparator : DomainSeparator} {signature : Signature}
    {data : OrderData} {appData : OrderAppData} {gas : U64} {converted : QuoteSigningScheme}
    (verified : validator.verificationGasLimit domainSeparator signature owner data
      appData = .ok gas)
    (convert : convertSigningScheme (scheme signature) true gas = some converted) :
    converted.additionalGasAmount = gas := by
  cases signature with
  | eip1271 bytes =>
    cases convert
    rfl
  | eip712 signature | ethSign signature | preSign =>
    cases verified
    cases convert
    rfl

namespace OrderValidator

variable {validator : OrderValidator} {order : OrderCreation}
  {domainSeparator : DomainSeparator} {settlementContract : Address}
  {fullAppDataOverride : Option String} {prepared : Prepared}

theorem prepare_cases
    (reached : validator.prepare order domainSeparator fullAppDataOverride = .ok prepared) :
    prepared.class = (if prepared.data.feeAmount.isZero then .limit else .market) ∧
      prepared.quoteParameters.signingScheme.additionalGasAmount = prepared.verificationGasLimit ∧
      prepared.quoteParameters.additionalGas =
        prepared.appData.inner.protocol.hooks.gasLimit := by
  simp only [prepare, quoteParameters, bind_eq_ok_iff, okOr_eq_ok_iff] at reached
  obtain ⟨appData, -, _, -, _, verified, -, -, -, -, _,
    ⟨converted, convert, built⟩, -, -, same⟩ := reached
  cases built
  cases same
  exact ⟨rfl, additionalGasAmount_of_convert verified convert, rfl⟩

variable {reads : List CountRead} {quote : Option Quote}

/-- What an accepted order has passed. -/
theorem validateAndConstructOrder_cases {constructed : Order}
    (accepted : validator.validateAndConstructOrder order domainSeparator
      settlementContract fullAppDataOverride = ⟨.ok (constructed, quote), reads⟩)
    (reached : validator.prepare order domainSeparator fullAppDataOverride = .ok prepared) :
    (∃ orderClass, validator.classAndQuote prepared order.quoteId =
        ⟨.ok (orderClass, quote), reads⟩) ∧
      ∀ answer, quote = some answer →
        validator.tooMuchGas prepared.quoteParameters answer = false := by
  rw [validateAndConstructOrder, Logged.lift_bind _ _ reached, Logged.bind_eq_ok_iff] at accepted
  obtain ⟨⟨orderClass, _⟩, _, _, classified, rest, rfl⟩ := accepted
  simp only [Logged.bind_eq_ok_iff, Logged.lift_eq_ok_iff, Logged.pure_eq_ok_iff] at rest
  obtain ⟨_, _, _, ⟨cheap, rfl⟩, ⟨_, _, _, ⟨-, rfl⟩, ⟨⟨-, rfl⟩, rfl⟩, rfl⟩, rfl⟩ := rest
  refine ⟨⟨orderClass, by simpa using classified⟩, ?_⟩
  intro answer same
  rw [same] at cheap
  simpa using cheap

/-- The gas of an order: what was quoted, the check of its signature and its
hooks. -/
def totalGas (prepared : Prepared) (quote : Quote) : Nat :=
  quote.feeParameters.gasAmount.asU64.toNat + prepared.verificationGasLimit.toNat +
    prepared.appData.inner.protocol.hooks.totalGas

/-- An order that is accepted with a quote keeps to the cap exactly when its gas
fits into the number it is added up in. -/
theorem validateAndConstructOrder_gas_cap_iff (validator : OrderValidator)
    (order : OrderCreation) (domainSeparator : DomainSeparator)
    (settlementContract : Address) (fullAppDataOverride : Option String)
    (prepared : Prepared) (constructed : Order) (quote : Quote) (reads : List CountRead)
    (reached : validator.prepare order domainSeparator fullAppDataOverride = .ok prepared)
    (accepted : validator.validateAndConstructOrder order domainSeparator
      settlementContract fullAppDataOverride = ⟨.ok (constructed, some quote), reads⟩) :
    totalGas prepared quote ≤ validator.maxGasPerOrder.toNat ↔
      totalGas prepared quote < 2 ^ 64 := by
  obtain ⟨-, cheap⟩ := validateAndConstructOrder_cases accepted reached
  obtain ⟨-, verification, hooks⟩ := prepare_cases reached
  have bound := validator.maxGasPerOrder.isLt
  have compared : ¬ validator.maxGasPerOrder.toNat < (quote.feeParameters.gasAmount.asU64 +
        prepared.quoteParameters.additionalCost).toNat :=
    of_decide_eq_false (cheap quote rfl)
  rw [BitVec.toNat_add, prepared.quoteParameters.toNat_additionalCost, verification,
    hooks, Hooks.toNat_gasLimit] at compared
  unfold totalGas
  constructor
  · intro capped
    exact Nat.lt_of_le_of_lt capped bound
  · intro _
    omega

/-- No quote is stored, and only the gas and the number of orders stand in the
way of an order. -/
def openServices (hooks : Hooks) (answer : Outcome CalculateQuoteError Quote)
    (count : Nat) : Services where
  banned _ := false
  detect _ _ := .ok .good
  quoter := {
    findQuote := fun _ _ => .err "quote not found"
    calculateQuote := fun _ => answer
    storeQuote := .ok }
  canTransfer _ _ := .ok ()
  validateSignatureAndGetAdditionalGas _ := .ok 0
  countLimitOrders _ := .ok count
  parseAppData _ := .ok ⟨hooks, none, none⟩
  encodeHooks _ := []
  bigDecimal
    | .finite value => some value
    | _ => none
  nowInEpochSeconds := 0

def openValidator (services : Services) : OrderValidator where
  nativeToken := 3
  validityConfiguration := ⟨60, 10800, 31536000⟩
  eip1271SkipCreationValidation := false
  hooks := 4
  maxLimitOrdersPerUser := 10
  appDataSizeLimit := 8192
  maxGasPerOrder := 8000000
  sameTokensPolicy := .disallow
  crypto := ⟨fun _ => 0, fun _ _ => none⟩
  services := services

def plainOrder : OrderCreation where
  sellToken := 1
  buyToken := 2
  receiver := none
  sellAmount := 100
  buyAmount := 50
  validTo := 100
  feeAmount := 0
  kind := .sell
  partiallyFillable := false
  sellTokenBalance := .erc20
  buyTokenBalance := .erc20
  «from» := some 5
  signature := .preSign
  quoteId := none
  appData := .full "\x7b\x7d"

def evenQuote : Quote where
  id := none
  feeParameters := ⟨.finite 200000, .finite 1, .finite 1⟩
  solver := 6
  verified := true
  metadata := some "null"
  sellAmount := 100
  buyAmount := 100
  feeAmount := 0

def hookValidator (gasLimit : U64) : OrderValidator :=
  openValidator (openServices ⟨[⟨7, [], gasLimit⟩], []⟩ (.ok evenQuote) 0)

theorem validateAndConstructOrder_gas_cap_small_hook :
    ∃ prepared constructed, (hookValidator 1000).prepare plainOrder 0 none = .ok prepared ∧
      (hookValidator 1000).validateAndConstructOrder plainOrder 0 9 none =
        ⟨.ok (constructed, some evenQuote), []⟩ ∧
      totalGas prepared evenQuote ≤ 8000000 := by
  have reached : (hookValidator 1000).prepare plainOrder 0 none = .ok _ := rfl
  have accepted : (hookValidator 1000).validateAndConstructOrder plainOrder 0 9 none =
      ⟨.ok (_, some evenQuote), []⟩ := rfl
  refine ⟨_, _, reached, accepted, ?_⟩
  apply (validateAndConstructOrder_gas_cap_iff _ _ _ _ _ _ _ _ _ reached accepted).mpr
  decide

/-- A hook that asks for all the gas there is wraps the sum around to 199999. -/
theorem validateAndConstructOrder_accepts_too_much_gas : ∃ prepared constructed,
      (hookValidator (BitVec.allOnes 64)).prepare plainOrder 0 none = .ok prepared ∧
      (hookValidator (BitVec.allOnes 64)).validateAndConstructOrder plainOrder 0 9
        none = ⟨.ok (constructed, some evenQuote), []⟩ ∧
      totalGas prepared evenQuote = 200000 + (2 ^ 64 - 1) ∧
      ¬ totalGas prepared evenQuote ≤ (hookValidator (BitVec.allOnes 64)).maxGasPerOrder.toNat :=
  ⟨_, _, rfl, rfl, by decide, by decide⟩

/-! ## Limit orders -/

/-- Open orders of the owner were counted below the limit. -/
def Counted (validator : OrderValidator) (owner : Address) (reads : List CountRead) : Prop :=
  ∃ read ∈ reads, read.owner = owner ∧ read.count < validator.maxLimitOrdersPerUser

theorem counted_of_checkMaxLimitOrders
    (passed : validator.checkMaxLimitOrders owner = ⟨.ok (), reads⟩) :
    Counted validator owner reads := by
  simp only [checkMaxLimitOrders, Logged.bind_eq_ok_iff, Logged.lift_eq_ok_iff,
    rejectIf_eq_ok_iff] at passed
  obtain ⟨count, _, _, ⟨-, rfl⟩, ⟨_, _, _, recorded, ⟨room, rfl⟩, rfl⟩, rfl⟩ := passed
  cases recorded
  exact ⟨⟨owner, count⟩, by simp, rfl, not_le.mp room⟩

theorem getQuoteAndCheckFee_none (quoter : OrderQuoting)
    (parameters : QuoteSearchParameters) (quoteId : Option Int) :
    getQuoteAndCheckFee quoter parameters quoteId none =
      getOrCreateQuote quoter parameters quoteId := by
  rw [getQuoteAndCheckFee]
  cases getOrCreateQuote quoter parameters quoteId <;> rfl

variable {quoteId : Option Int} {quoter : OrderQuoting}

theorem getQuoteAndCheckFee_ne_ok
    {parameters : QuoteSearchParameters} {fee : U256}
    (positive : fee.isZero = false) (quote : Quote) :
    getQuoteAndCheckFee quoter parameters quoteId (some fee) ≠ .ok quote := by
  intro returned
  simp only [getQuoteAndCheckFee, bind_eq_ok_iff] at returned
  obtain ⟨_, -, _, noFee, -⟩ := returned
  simp [positive] at noFee

/-- A limit order is accepted with a quote, and counted if it is outside of the
market price, or it is accepted for lack of liquidity, and never counted. -/
theorem classAndQuote_limit_cases {orderClass : OrderClass} (isLimit : prepared.class = .limit)
    (returned : validator.classAndQuote prepared quoteId = ⟨.ok (orderClass, quote), reads⟩) :
    (∃ answer, getOrCreateQuote validator.services.quoter prepared.quoteParameters
        quoteId = .ok answer ∧
      (outsideMarketPrice prepared.data answer = true → Counted validator prepared.owner reads)) ∨
    (getOrCreateQuote validator.services.quoter prepared.quoteParameters quoteId =
        .err (.priceForQuote .noLiquidity) ∧ reads = []) := by
  simp only [classAndQuote, isLimit, getQuoteAndCheckFee_none] at returned
  split at returned
  · rename_i answer obtained
    refine Or.inl ⟨answer, obtained, ?_⟩
    intro outside
    rw [if_pos outside, Logged.bind_eq_ok_iff] at returned
    obtain ⟨_, earlier, later, passed, rest, rfl⟩ := returned
    obtain ⟨-, rfl⟩ := Logged.pure_eq_ok_iff.mp rest
    rw [append_nil]
    exact counted_of_checkMaxLimitOrders passed
  · rename_i noLiquidity
    exact Or.inr ⟨noLiquidity, (Logged.pure_eq_ok_iff.mp returned).2⟩
  · cases returned
  · cases returned

/-- There is no quote, or the order asks for more than it. -/
def OutOfMarket (validator : OrderValidator) (prepared : Prepared) (quoteId : Option Int) : Prop :=
  (∀ answer, getOrCreateQuote validator.services.quoter prepared.quoteParameters
      quoteId ≠ .ok answer) ∨
    ∃ answer, getOrCreateQuote validator.services.quoter prepared.quoteParameters
      quoteId = .ok answer ∧ outsideMarketPrice prepared.data answer = true

/-- No quote is stored, and liquidity is missing for a new one. -/
def NoLiquidity (quoter : OrderQuoting) (parameters : QuoteSearchParameters)
    (quoteId : Option Int) : Prop :=
  (∃ text, quoter.findQuote quoteId parameters = .err text) ∧
    ∃ side, quoteSide parameters = .ok side ∧
      quoter.calculateQuote (parameters.toQuote side) = .err (.price .noLiquidity)

theorem ofCalculateQuote_eq_noLiquidity {error : CalculateQuoteError} :
    ValidationError.ofCalculateQuote error = .priceForQuote .noLiquidity ↔
      error = .price .noLiquidity := by
  constructor
  · intro converted
    cases error with
    | price source =>
      cases source <;> first | rfl | cases converted
    | sellAmountDoesNotCoverFee feeAmount | quoteNotVerified | other text =>
      cases converted
  · intro same
    rw [same]
    rfl

theorem quoteSide_ne_noLiquidity : quoteSide parameters ≠ .err (.priceForQuote .noLiquidity) := by
  intro failed
  cases kind : parameters.kind with
  | buy | sell =>
    simp only [quoteSide, kind] at failed
    split at failed <;> cases failed

theorem getOrCreateQuote_eq_noLiquidity_iff
    {parameters : QuoteSearchParameters} :
    getOrCreateQuote quoter parameters quoteId = .err (.priceForQuote .noLiquidity) ↔
      NoLiquidity quoter parameters quoteId := by
  unfold getOrCreateQuote NoLiquidity
  cases quoter.findQuote quoteId parameters with
  | ok quote | panic reason =>
    simp
  | err text =>
    cases quoted : quoteSide parameters with
    | err error =>
      have ne := quoteSide_ne_noLiquidity parameters
      rw [quoted] at ne
      simpa using ne
    | panic reason =>
      simp
    | ok side =>
      simp [bind_eq_err_iff, mapError_eq_err_iff, ofCalculateQuote_eq_noLiquidity]

/-- The limit orders of the owner of an accepted order outside of the market were
counted exactly when the quoter did not lack liquidity. -/
theorem validateAndConstructOrder_counts_iff (validator : OrderValidator)
    (order : OrderCreation) (domainSeparator : DomainSeparator)
    (settlementContract : Address) (fullAppDataOverride : Option String)
    (prepared : Prepared) (constructed : Order) (quote : Option Quote) (reads : List CountRead)
    (reached : validator.prepare order domainSeparator fullAppDataOverride = .ok prepared)
    (accepted : validator.validateAndConstructOrder order domainSeparator
      settlementContract fullAppDataOverride = ⟨.ok (constructed, quote), reads⟩) :
    (OutOfMarket validator prepared order.quoteId → Counted validator prepared.owner reads) ↔
      ¬ NoLiquidity validator.services.quoter prepared.quoteParameters
        order.quoteId := by
  rw [← getOrCreateQuote_eq_noLiquidity_iff]
  obtain ⟨⟨_, classified⟩, -⟩ := validateAndConstructOrder_cases accepted reached
  obtain ⟨class_eq, -, -⟩ := prepare_cases reached
  cases noFee : prepared.data.feeAmount.isZero with
  | false =>
    rw [noFee] at class_eq
    simp only [classAndQuote, class_eq, Bool.false_eq_true, if_false,
      Logged.bind_eq_ok_iff, Logged.lift_eq_ok_iff] at classified
    obtain ⟨answer, _, _, ⟨returned, -⟩, -⟩ := classified
    exact absurd returned (getQuoteAndCheckFee_ne_ok noFee answer)
  | true =>
    rw [noFee] at class_eq
    rcases classAndQuote_limit_cases class_eq classified with
      ⟨answer, obtained, counted⟩ | ⟨noLiquidity, rfl⟩
    · constructor
      · intro _ failed
        rw [obtained] at failed
        cases failed
      · intro _ outOfMarket
        rcases outOfMarket with none | ⟨_, same, outside⟩
        · exact absurd obtained (none answer)
        · obtain rfl := ok.inj (obtained.symm.trans same)
          exact counted outside
    · constructor
      · intro counts
        have unquoted : OutOfMarket validator prepared order.quoteId := by
          left
          intro answer obtained
          rw [noLiquidity] at obtained
          cases obtained
        obtain ⟨_, mem, -⟩ := counts unquoted
        cases mem
      · intro ne
        exact absurd noLiquidity ne

def poorQuote : Quote :=
  { evenQuote with buyAmount := 10 }

def marketValidator (answer : Outcome CalculateQuoteError Quote) (count : Nat) : OrderValidator :=
  openValidator (openServices ⟨[], []⟩ answer count)

/-- An order far outside of the market price is counted. -/
theorem validateAndConstructOrder_counts_first_order :
    ∃ prepared constructed, (marketValidator (.ok poorQuote) 0).prepare plainOrder 0
        none = .ok prepared ∧
      (marketValidator (.ok poorQuote) 0).validateAndConstructOrder plainOrder 0 9
        none = ⟨.ok (constructed, some poorQuote), [⟨5, 0⟩]⟩ ∧
      Counted (marketValidator (.ok poorQuote) 0) prepared.owner [⟨5, 0⟩] := by
  have reached : (marketValidator (.ok poorQuote) 0).prepare plainOrder 0 none = .ok _ := rfl
  have accepted : (marketValidator (.ok poorQuote) 0).validateAndConstructOrder
    plainOrder 0 9 none = ⟨.ok (_, some poorQuote), [⟨5, 0⟩]⟩ := rfl
  refine ⟨_, _, reached, accepted, ?_⟩
  apply (validateAndConstructOrder_counts_iff _ _ _ _ _ _ _ _ _ reached accepted).mpr
  · intro noLiquidity
    obtain ⟨-, _, -, failed⟩ := noLiquidity
    cases failed
  · right
    exact ⟨poorQuote, rfl, by decide⟩

/-- Without liquidity an order is accepted although its owner has a thousand. -/
theorem validateAndConstructOrder_never_counts : ∃ prepared constructed,
      (marketValidator (.err (.price .noLiquidity)) 1000).prepare plainOrder 0 none = .ok prepared ∧
      (marketValidator (.err (.price .noLiquidity)) 1000).validateAndConstructOrder
        plainOrder 0 9 none = ⟨.ok (constructed, none), []⟩ ∧
      OutOfMarket (marketValidator (.err (.price .noLiquidity)) 1000) prepared none ∧
      ¬ Counted (marketValidator (.err (.price .noLiquidity)) 1000) prepared.owner [] := by
  refine ⟨_, _, rfl, rfl, Or.inl ?_, ?_⟩
  · intro _ obtained
    cases obtained
  · intro counted
    obtain ⟨_, mem, -⟩ := counted
    cases mem

end OrderValidator

end MandateSolver.OrderValidation
