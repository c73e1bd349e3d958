import MandateSolver.Model
import MandateSolver.GPv2Settlement

/-!
# Validation of new orders

An order is checked from the cheap to the expensive, at last its price next to a quote.
-/

namespace MandateSolver.OrderValidation

open Model (Crypto DomainSeparator OrderData OrderKind SellTokenSource
  BuyTokenDestination Signature SigningScheme)

/-! ## 64-bit numbers -/

abbrev U64 := BitVec 64

namespace U64

def saturatingAdd (left right : U64) : U64 :=
  if left.toNat + right.toNat < 2 ^ 64 then left + right else BitVec.allOnes 64

theorem toNat_saturatingAdd (left right : U64) : (saturatingAdd left right).toNat =
      min (left.toNat + right.toNat) (2 ^ 64 - 1) := by
  unfold saturatingAdd
  split
  · rename_i fits
    rw [BitVec.toNat_add]
    omega
  · rw [BitVec.toNat_allOnes]
    omega

end U64

/-- Floats without rounding. -/
inductive F64 where
  | finite (value : ℚ)
  | infinite (negative : Bool)
  | nan
  deriving DecidableEq

/-- The cast cuts off the fraction and saturates. -/
def F64.asU64 : F64 → U64
  | .finite value => BitVec.ofNat 64 (min value.floor.toNat (2 ^ 64 - 1))
  | .infinite negative => if negative then 0 else BitVec.allOnes 64
  | .nan => 0

/-! ## App data -/

abbrev InteractionData := GPv2Settlement.Interaction

/-- A call before or after the trade. -/
structure Hook where
  target : Address
  callData : List UInt8
  gasLimit : U64

structure Hooks where
  (pre post : List Hook)

def Hooks.gasLimit (hooks : Hooks) : U64 :=
  (hooks.pre ++ hooks.post).foldl (fun total hook => U64.saturatingAdd total hook.gasLimit) 0

structure Flashloan where
  (receiver token : Address)
  amount : U256

structure ProtocolAppData where
  hooks : Hooks
  signer : Option Address
  flashloan : Option Flashloan

/-- Parsed app data. -/
structure ValidatedAppData where
  hash : U256
  protocol : ProtocolAppData

structure Interactions where
  (pre post : List InteractionData)

structure OrderAppData where
  inner : ValidatedAppData
  interactions : Interactions

inductive OrderCreationAppData where
  | both (full : String) (expected : U256)
  | hash (hash : U256)
  | full (full : String)

def hashFullAppData (crypto : Crypto) (full : String) : U256 :=
  crypto.keccak256 full.toUTF8.toList

/-- Does not look at the expected hash. -/
def OrderCreationAppData.hashOf (crypto : Crypto) : OrderCreationAppData → U256
  | .hash known => known
  | .full document | .both document _ => hashFullAppData crypto document

/-! ## The request -/

/-- An order as it is sent. -/
structure OrderCreation where
  (sellToken buyToken : Address)
  receiver : Option Address
  (sellAmount buyAmount : U256)
  validTo : U32
  feeAmount : U256
  kind : OrderKind
  partiallyFillable : Bool
  sellTokenBalance : SellTokenSource
  buyTokenBalance : BuyTokenDestination
  «from» : Option Address
  signature : Signature
  quoteId : Option Int
  appData : OrderCreationAppData

namespace OrderCreation

def data (crypto : Crypto) (order : OrderCreation) : OrderData where
  sellToken := order.sellToken
  buyToken := order.buyToken
  receiver := order.receiver
  sellAmount := order.sellAmount
  buyAmount := order.buyAmount
  validTo := order.validTo
  appData := order.appData.hashOf crypto
  feeAmount := order.feeAmount
  kind := order.kind
  partiallyFillable := order.partiallyFillable
  sellTokenBalance := order.sellTokenBalance
  buyTokenBalance := order.buyTokenBalance

end OrderCreation

def scheme : Signature → SigningScheme
  | .eip712 _ => .eip712
  | .ethSign _ => .ethSign
  | .eip1271 _ => .eip1271
  | .preSign => .preSign

/-! ## The owner -/

structure Recovered where
  message : U256
  signer : Address

inductive VerificationError where
  | unableToRecoverSigner
  | unexpectedSigner (recovered : Recovered)
  | missingFrom
  | appdataFromMismatch (sender appDataSigner : Address)

section

variable (crypto : Crypto) (domainSeparator : DomainSeparator)

def recover (signature : Signature) (structHash : U256) :
    Outcome VerificationError (Option Recovered) :=
  match signature with
  | .eip712 signature => do
    let message := crypto.hashedEip712Message domainSeparator structHash
    let signer ← .okOr .unableToRecoverSigner
      (crypto.recoverAddressFromPrehash signature message)
    return some ⟨message, signer⟩
  | .ethSign signature => do
    let message := crypto.hashedEthsignMessage domainSeparator structHash
    let signer ← .okOr .unableToRecoverSigner
      (crypto.recoverAddressFromPrehash signature message)
    return some ⟨message, signer⟩
  | .eip1271 _ | .preSign => .ok none

/-- The sender of the request and the signer of the app data have to agree. -/
def coalesce (sender appDataSigner : Option Address) : Outcome VerificationError (Option Address) :=
  match sender, appDataSigner with
  | none, none => .ok none
  | none, some address | some address, none => .ok (some address)
  | some sender, some appDataSigner =>
    if sender = appDataSigner then .ok (some sender)
    else .err (.appdataFromMismatch sender appDataSigner)

def OrderCreation.verifyOwner (order : OrderCreation)
    (appDataSigner : Option Address) : Outcome VerificationError Address := do
  let recovered ← recover crypto domainSeparator order.signature
    ((order.data crypto).hashStruct crypto)
  let sender ← coalesce order.from appDataSigner
  match sender, recovered with
  | some sender, some recovered =>
    if sender = recovered.signer then .ok sender
    else .err (.unexpectedSigner recovered)
  | some sender, none => .ok sender
  | none, some recovered => .ok recovered.signer
  | none, none => .err .missingFrom

end

/-! ## Questions to the services -/

inductive QuoteSigningScheme where
  | eip712
  | ethSign
  | eip1271 (onchainOrder : Bool) (verificationGasLimit : U64)
  | preSign (onchainOrder : Bool)

def QuoteSigningScheme.additionalGasAmount : QuoteSigningScheme → U64
  | .eip1271 _ verificationGasLimit => verificationGasLimit
  | _ => 0

/-- Elliptic curve signatures are not possible for orders placed on-chain. -/
def convertSigningScheme (scheme : SigningScheme) (orderPlacementViaApi : Bool)
    (verificationGasLimit : U64) : Option QuoteSigningScheme :=
  match orderPlacementViaApi, scheme with
  | true, .eip712 => some .eip712
  | true, .ethSign => some .ethSign
  | false, .eip712 | false, .ethSign => none
  | orderPlacementViaApi, .preSign => some (.preSign (!orderPlacementViaApi))
  | orderPlacementViaApi, .eip1271 =>
    some (.eip1271 (!orderPlacementViaApi) verificationGasLimit)

structure Verification where
  (sender receiver : Address)
  (preInteractions postInteractions : List InteractionData)
  sellTokenSource : SellTokenSource
  buyTokenDestination : BuyTokenDestination

/-- What a stored quote is found by. -/
structure QuoteSearchParameters where
  (sellToken buyToken : Address)
  (sellAmount buyAmount feeAmount : U256)
  kind : OrderKind
  signingScheme : QuoteSigningScheme
  additionalGas : U64
  verification : Verification

def QuoteSearchParameters.additionalCost (parameters : QuoteSearchParameters) : U64 :=
  U64.saturatingAdd parameters.signingScheme.additionalGasAmount parameters.additionalGas

inductive OrderQuoteSide where
  | sellAfterFee (sellAmount : U256)
  | buyAfterFee (buyAmount : U256)

structure QuoteParameters where
  (sellToken buyToken : Address)
  side : OrderQuoteSide
  verification : Verification
  signingScheme : QuoteSigningScheme
  additionalGas : U64

/-- What the fee of a quote is made of. -/
structure FeeParameters where
  (gasAmount gasPrice sellTokenPrice : F64)
  deriving DecidableEq

/-- The metadata is there unless it cannot be serialized. -/
structure Quote where
  id : Option Int
  feeParameters : FeeParameters
  solver : Address
  verified : Bool
  metadata : Option String
  (sellAmount buyAmount feeAmount : U256)

structure BalanceOverrideRequest where
  (token holder : Address)
  amount : U256
  deriving DecidableEq

def Flashloan.balanceOverride (loan : Flashloan) : BalanceOverrideRequest where
  token := loan.token
  holder := loan.receiver
  amount := loan.amount

structure BalanceQuery where
  (owner token : Address)
  source : SellTokenSource
  interactions : List InteractionData
  balanceOverride : Option BalanceOverrideRequest
  deriving DecidableEq

structure SignatureCheck where
  signer : Address
  hash : U256
  signature : List UInt8
  interactions : List InteractionData
  balanceOverride : Option BalanceOverrideRequest

open WinnerSelection (OrderUid)

/-! ## Errors -/

inductive OrderValidToError where
  | insufficient
  | excessive

/-- Errors of the partial validation. -/
inductive PartialValidationError where
  | forbidden
  | validTo (error : OrderValidToError)
  | invalidNativeSellToken
  | sameBuyAndSellToken
  | unsupportedBuyTokenDestination (destination : BuyTokenDestination)
  | unsupportedSellTokenSource (source : SellTokenSource)
  | unsupportedOrderType
  | unsupportedToken (token : Address) (reason : String)
  | other (text : String)

inductive AppDataValidationError where
  | mismatch (provided actual : U256)
  | invalid (text : String)

inductive PriceEstimationError where
  | unsupportedToken (token : Address) (reason : String)
  | noLiquidity
  | unsupportedOrderType (kind : String)
  | rateLimited
  | estimatorInternal (text : String)
  | protocolInternal (text : String)
  deriving DecidableEq

inductive CalculateQuoteError where
  | sellAmountDoesNotCoverFee (feeAmount : U256)
  | price (source : PriceEstimationError)
  | quoteNotVerified
  | other (text : String)
  deriving DecidableEq

inductive TransferSimulationError where
  | insufficientAllowance
  | insufficientBalance
  | transferFailed
  | other (text : String)

inductive SignatureValidationError where
  | invalid
  | other (text : String)

/-- All errors of the validation. -/
inductive ValidationError where
  | checks (error : PartialValidationError)
  | appData (error : AppDataValidationError)
  | priceForQuote (error : PriceEstimationError)
  | nonZeroFee
  | insufficientBalance
  | insufficientAllowance
  | invalidSignature
  | transferSimulationFailed
  | missingFrom
  | appdataFromMismatch (sender appDataSigner : Address)
  | wrongOwner (recovered : Recovered)
  | invalidEip1271Signature (hash : U256)
  | zeroAmount
  | tooManyLimitOrders
  | tooMuchGas
  | quoteNotVerified
  | other (text : String)

namespace ValidationError

def ofVerification : VerificationError → ValidationError
  | .unableToRecoverSigner => .invalidSignature
  | .unexpectedSigner recovered => .wrongOwner recovered
  | .missingFrom => .missingFrom
  | .appdataFromMismatch sender appDataSigner => .appdataFromMismatch sender appDataSigner

def ofCalculateQuote : CalculateQuoteError → ValidationError
  | .price (.unsupportedToken token reason) => .checks (.unsupportedToken token reason)
  | .price (.protocolInternal text) | .other text => .other text
  | .price source => .priceForQuote source
  | .quoteNotVerified => .quoteNotVerified
  | .sellAmountDoesNotCoverFee _ => .other "unexpected quote calculation error"

def ofSignature (hash : U256) : SignatureValidationError → ValidationError
  | .invalid => .invalidEip1271Signature hash
  | .other text => .other text

end ValidationError

/-! ## Services -/

inductive TokenQuality where
  | good
  | bad (reason : String)

/-- The quoter that is asked. -/
structure OrderQuoting where
  findQuote : Option Int → QuoteSearchParameters → Outcome String Quote
  calculateQuote : QuoteParameters → Outcome CalculateQuoteError Quote
  storeQuote : Quote → Outcome String Quote

/-- Everything outside of the validator that is asked about an order.  The
tokens of an order are asked about one after the other, so the answers may
differ even for the same token. -/
structure Services where
  banned : Address → Bool
  detect : Nat → Address → Outcome String TokenQuality
  quoter : OrderQuoting
  canTransfer : BalanceQuery → U256 → Outcome TransferSimulationError Unit
  validateSignatureAndGetAdditionalGas : SignatureCheck → Outcome SignatureValidationError U64
  countLimitOrders : Address → Outcome String Nat
  parseAppData : String → Outcome String ProtocolAppData
  encodeHooks : List Hook → List UInt8
  bigDecimal : F64 → Option ℚ
  nowInEpochSeconds : Nat

/-! ## Configuration -/

inductive SameTokensPolicy where
  | disallow
  | allowSell

inductive OrderClass where
  | market
  | limit
  | liquidity
  deriving DecidableEq

/-- Durations are in seconds, none is without a bound. -/
structure OrderValidPeriodConfiguration where
  (min maxMarket maxLimit : Nat)

/-- The validator with its services. -/
structure OrderValidator where
  nativeToken : Address
  validityConfiguration : OrderValidPeriodConfiguration
  eip1271SkipCreationValidation : Bool
  hooks : Address
  (maxLimitOrdersPerUser appDataSizeLimit : Nat)
  maxGasPerOrder : U64
  sameTokensPolicy : SameTokensPolicy
  crypto : Crypto
  services : Services

def buyEthAddress : Address := 0xeeeeeeeeeeeeeeeeeeeeeeeeeeeeeeeeeeeeeeee

/-! ## What can be read off the order -/

/-- What is checked first. -/
structure PreOrderData where
  (owner sellToken buyToken receiver : Address)
  validTo : U32
  partiallyFillable : Bool
  buyTokenBalance : BuyTokenDestination
  sellTokenBalance : SellTokenSource
  signingScheme : SigningScheme
  «class» : OrderClass
  kind : OrderKind

def actualReceiver (owner : Address) (order : OrderData) : Address :=
  let receiver := order.receiver.getD 0
  if receiver = 0 then owner else receiver

/-- An order that signs a fee is a market order. -/
def PreOrderData.fromOrderCreation (owner : Address) (order : OrderData)
    (signingScheme : SigningScheme) : PreOrderData where
  owner := owner
  sellToken := order.sellToken
  buyToken := order.buyToken
  receiver := actualReceiver owner order
  validTo := order.validTo
  partiallyFillable := order.partiallyFillable
  buyTokenBalance := order.buyTokenBalance
  sellTokenBalance := order.sellTokenBalance
  signingScheme := signingScheme
  «class» := if order.feeAmount.isZero then .limit else .market
  kind := order.kind

def timestampAfterDuration (timestamp duration : Nat) : Nat :=
  min (timestamp + min duration (2 ^ 32 - 1)) (2 ^ 32 - 1)

/-- Orders that are signed on-chain later have no limit. -/
def OrderValidPeriodConfiguration.max (configuration : OrderValidPeriodConfiguration)
    (order : PreOrderData) : Nat :=
  if order.signingScheme = .preSign then 2 ^ 64 - 1
  else match order.class with
    | .market => configuration.maxMarket
    | .limit => configuration.maxLimit
    | .liquidity => 2 ^ 64 - 1

def OrderValidPeriodConfiguration.validatePeriod
    (configuration : OrderValidPeriodConfiguration) (now : Nat)
    (order : PreOrderData) : Outcome OrderValidToError Unit := do
  .rejectIf (order.validTo.toNat < timestampAfterDuration now configuration.min) .insufficient
  .rejectIf (timestampAfterDuration now (configuration.max order) < order.validTo.toNat) .excessive

def SameTokensPolicy.validateSameSellAndBuyToken (policy : SameTokensPolicy)
    (order : PreOrderData) (nativeToken : Address) : Outcome PartialValidationError Unit :=
  if order.sellToken = nativeToken ∧ order.buyToken = buyEthAddress then
    .err .sameBuyAndSellToken
  else if order.sellToken ≠ order.buyToken then .ok ()
  else match policy, order.kind with
    | .allowSell, .sell => .ok ()
    | _, _ => .err .sameBuyAndSellToken

namespace OrderValidator

variable (validator : OrderValidator)

def checkToken (position : Nat) (token : Address) : Outcome PartialValidationError Unit := do
  let quality ← (validator.services.detect position token).mapError .other
  match quality with
  | .bad reason => .err (.unsupportedToken token reason)
  | .good => .ok ()

def partialValidate (order : PreOrderData) : Outcome PartialValidationError Unit := do
  .rejectIf (validator.services.banned order.receiver ∨
    validator.services.banned order.owner) .forbidden
  .rejectIf (order.class = .market ∧ order.partiallyFillable) .unsupportedOrderType
  .rejectIf (order.buyTokenBalance ≠ .erc20) (.unsupportedBuyTokenDestination order.buyTokenBalance)
  .rejectIf (order.sellTokenBalance ≠ .erc20 ∧ order.sellTokenBalance ≠ .external)
    (.unsupportedSellTokenSource order.sellTokenBalance)
  (validator.validityConfiguration.validatePeriod
    validator.services.nowInEpochSeconds order).mapError .validTo
  validator.sameTokensPolicy.validateSameSellAndBuyToken order validator.nativeToken
  .rejectIf (order.sellToken = buyEthAddress) .invalidNativeSellToken
  validator.checkToken 0 order.sellToken
  validator.checkToken 1 order.buyToken

/-! ## App data -/

/-- The hooks are executed by one call to the trampoline contract. -/
def toInteractions (hooks : List Hook) : List InteractionData :=
  if hooks.isEmpty then []
  else [⟨validator.hooks, 0, validator.services.encodeHooks hooks⟩]

def customInteractions (hooks : Hooks) : Interactions where
  pre := validator.toInteractions hooks.pre
  post := validator.toInteractions hooks.post

def validateDocument (full : String) : Outcome AppDataValidationError ValidatedAppData := do
  let size := full.utf8ByteSize
  let limit := validator.appDataSizeLimit
  .rejectIf (limit < size)
    (.invalid s!"app data has byte size {size} which is larger than limit {limit}")
  let protocol ← (validator.services.parseAppData full).mapError .invalid
  return ⟨hashFullAppData validator.crypto full, protocol⟩

section

variable (appData : OrderCreationAppData) (fullAppDataOverride : Option String)

/-- The full app data of a hash comes from elsewhere and is not compared with
it. -/
def validatedAppData : Outcome AppDataValidationError ValidatedAppData :=
  match appData with
  | .both full expected => do
    let validated ← validator.validateDocument full
    .rejectIf (validated.hash ≠ expected) (.mismatch expected validated.hash)
    return validated
  | .hash hash => match fullAppDataOverride with
    | some full => do
      let validated ← validator.validateDocument full
      return ⟨hash, validated.protocol⟩
    | none => .err (.invalid s!"Unknown pre-image for app data hash {hash.toNat}")
  | .full full => validator.validateDocument full

def validateAppData :
    Outcome AppDataValidationError OrderAppData := do
  let validated ← validator.validatedAppData appData fullAppDataOverride
  return ⟨validated, validator.customInteractions validated.protocol.hooks⟩

end

/-! ## Balances and signatures -/

/-- The loop over the amounts that are tried.  The last error is reported when
none of them can be transferred. -/
def tryTransfers (query : BalanceQuery) (signature : Signature) :
    List U256 → Outcome ValidationError Unit → Outcome ValidationError Unit
  | [], result => result
  | amount :: amounts, _ =>
    match validator.services.canTransfer query amount with
    | .ok () => .ok ()
    | .panic reason => .panic reason
    | .err .insufficientAllowance =>
      if signature = .preSign then .ok () else .err .insufficientAllowance
    | .err .insufficientBalance =>
      if signature = .preSign then .ok () else .err .insufficientBalance
    | .err .transferFailed =>
      if signature = .preSign then .ok ()
      else tryTransfers query signature amounts (.err .transferSimulationFailed)
    | .err (.other _) =>
      tryTransfers query signature amounts (.err .transferSimulationFailed)

def ensureTokenIsTransferable (order : OrderCreation) (owner : Address)
    (appData : OrderAppData) : Outcome ValidationError Unit :=
  validator.tryTransfers
    { owner := owner
      token := order.sellToken
      source := order.sellTokenBalance
      interactions := appData.interactions.pre
      balanceOverride := appData.inner.protocol.flashloan.map Flashloan.balanceOverride }
    order.signature [1, 10, 100] (.ok ())

def verificationGasLimit (domainSeparator : DomainSeparator) (signature : Signature)
    (owner : Address) (data : OrderData) (appData : OrderAppData) : Outcome ValidationError U64 :=
  match signature with
  | .eip1271 bytes =>
    if validator.eip1271SkipCreationValidation then .ok 0
    else
      let hash := validator.crypto.hashedEip712Message domainSeparator
        (data.hashStruct validator.crypto)
      (validator.services.validateSignatureAndGetAdditionalGas
        { signer := owner
          hash := hash
          signature := bytes
          interactions := appData.interactions.pre
          balanceOverride :=
            appData.inner.protocol.flashloan.map Flashloan.balanceOverride }).mapError
        (.ofSignature hash)
  | _ => .ok 0

/-! ## Before the quote -/

/-- What is known before a quote is needed. -/
structure Prepared where
  appData : OrderAppData
  owner : Address
  data : OrderData
  uid : OrderUid
  verificationGasLimit : U64
  «class» : OrderClass
  quoteParameters : QuoteSearchParameters

def quoteParameters (order : OrderCreation) (owner : Address) (data : OrderData)
    (appData : OrderAppData) (verificationGasLimit : U64) :
    Outcome ValidationError QuoteSearchParameters := do
  let signingScheme ← .okOr .invalidSignature
    (convertSigningScheme (scheme order.signature) true verificationGasLimit)
  return {
    sellToken := data.sellToken
    buyToken := data.buyToken
    sellAmount := data.sellAmount
    buyAmount := data.buyAmount
    feeAmount := data.feeAmount
    kind := data.kind
    signingScheme := signingScheme
    additionalGas := appData.inner.protocol.hooks.gasLimit
    verification := {
      sender := owner
      receiver := order.receiver.getD owner
      preInteractions := appData.interactions.pre
      postInteractions := appData.interactions.post
      sellTokenSource := order.sellTokenBalance
      buyTokenDestination := order.buyTokenBalance } }

def prepare (order : OrderCreation) (domainSeparator : DomainSeparator)
    (fullAppDataOverride : Option String) : Outcome ValidationError Prepared := do
  let appData ←
    (validator.validateAppData order.appData fullAppDataOverride).mapError .appData
  let owner ← (order.verifyOwner validator.crypto domainSeparator
    appData.inner.protocol.signer).mapError .ofVerification
  let data := { order.data validator.crypto with appData := appData.inner.hash }
  let verificationGasLimit ← validator.verificationGasLimit domainSeparator
    order.signature owner data appData
  .rejectIf (data.buyAmount.isZero ∨ data.sellAmount.isZero) .zeroAmount
  let preOrder := PreOrderData.fromOrderCreation owner data (scheme order.signature)
  (validator.partialValidate preOrder).mapError .checks
  let quoteParameters ←
    quoteParameters order owner data appData verificationGasLimit
  validator.ensureTokenIsTransferable order owner appData
  return {
    appData := appData
    owner := owner
    data := data
    uid := data.uid validator.crypto domainSeparator owner
    verificationGasLimit := verificationGasLimit
    «class» := preOrder.class
    quoteParameters := quoteParameters }

end OrderValidator

/-! ## Quotes -/

def quoteSide (parameters : QuoteSearchParameters) : Outcome ValidationError OrderQuoteSide :=
  match parameters.kind with
  | .buy =>
    if parameters.buyAmount.isZero then .err .zeroAmount
    else .ok (.buyAfterFee parameters.buyAmount)
  | .sell =>
    if parameters.sellAmount.isZero then .err .zeroAmount
    else .ok (.sellAfterFee parameters.sellAmount)

def QuoteSearchParameters.toQuote (parameters : QuoteSearchParameters)
    (side : OrderQuoteSide) : QuoteParameters where
  sellToken := parameters.sellToken
  buyToken := parameters.buyToken
  side := side
  verification := parameters.verification
  signingScheme := parameters.signingScheme
  additionalGas := parameters.additionalGas

section

variable (quoter : OrderQuoting) (parameters : QuoteSearchParameters) (quoteId : Option Int)

def getOrCreateQuote : Outcome ValidationError Quote :=
  match quoter.findQuote quoteId parameters with
  | .ok quote => .ok quote
  | .panic reason => .panic reason
  | .err _ => do
    let side ← quoteSide parameters
    let quote ← (quoter.calculateQuote (parameters.toQuote side)).mapError
      .ofCalculateQuote
    (quoter.storeQuote quote).mapError .other

def getQuoteAndCheckFee (feeAmount : Option U256) :
    Outcome ValidationError Quote := do
  let quote ← getOrCreateQuote quoter parameters quoteId
  .rejectIf (feeAmount.any (¬ ·.isZero)) .nonZeroFee
  return quote

end

structure Amounts where
  (sell buy fee : U256)

/-- Products have 512 bits, the sum for buy orders wraps around.  An order that
cannot be compared is outside. -/
def isOrderOutsideMarketPrice (order quote : Amounts) (kind : OrderKind) : Bool :=
  let check : Option Bool := match kind with
    | .buy => some (decide (order.sell.toNat * quote.buy.toNat <
        (quote.sell + quote.fee).toNat * order.buy.toNat))
    | .sell => do
      let product ← quote.fee.checkedMul quote.buy
      let feeInBuyToken ← product.checkedDiv quote.sell
      let quoteBuy ← quote.buy.checkedSub feeInBuyToken
      return decide (order.sell.toNat * quoteBuy.toNat < quote.sell.toNat * order.buy.toNat)
  check.getD true

/-! ## The order -/

structure OrderQuote where
  (gasAmount gasPrice sellTokenPrice : ℚ)
  (sellAmount buyAmount feeAmount : U256)
  solver : Address
  verified : Bool
  metadata : String

/-- The accepted order. -/
structure Order where
  owner : Address
  uid : OrderUid
  settlementContract : Address
  «class» : OrderClass
  fullAppData : Option String
  quote : Option OrderQuote
  signature : Signature
  data : OrderData
  interactions : Interactions

/-- A count of open orders that was read. -/
structure CountRead where
  owner : Address
  count : Nat

namespace OrderValidator

variable (validator : OrderValidator)

def tryToModelOrderQuote (quote : Quote) : Outcome ValidationError OrderQuote := do
  let gasAmount ← .okOr (.other "gas amount is not a valid BigDecimal")
    (validator.services.bigDecimal quote.feeParameters.gasAmount)
  let gasPrice ← .okOr (.other "gas price is not a valid BigDecimal")
    (validator.services.bigDecimal quote.feeParameters.gasPrice)
  let sellTokenPrice ← .okOr (.other "sell token price is not a valid BigDecimal")
    (validator.services.bigDecimal quote.feeParameters.sellTokenPrice)
  let metadata ← .okOr (.other "metadata is not valid JSON") quote.metadata
  return {
    gasAmount := gasAmount
    gasPrice := gasPrice
    sellTokenPrice := sellTokenPrice
    sellAmount := quote.sellAmount
    buyAmount := quote.buyAmount
    feeAmount := quote.feeAmount
    solver := quote.solver
    verified := quote.verified
    metadata := metadata }

def checkMaxLimitOrders (owner : Address) : Logged ValidationError CountRead Unit := do
  let count ← .lift ((validator.services.countLimitOrders owner).mapError .other)
  .record ⟨owner, count⟩
  .lift (.rejectIf (validator.maxLimitOrdersPerUser ≤ count) .tooManyLimitOrders)

def outsideMarketPrice (data : OrderData) (quote : Quote) : Bool :=
  isOrderOutsideMarketPrice ⟨data.sellAmount, data.buyAmount, data.feeAmount⟩
    ⟨quote.sellAmount, quote.buyAmount, quote.feeAmount⟩ data.kind

def classAndQuote (prepared : Prepared) (quoteId : Option Int) :
    Logged ValidationError CountRead (OrderClass × Option Quote) :=
  let quoter := validator.services.quoter
  match prepared.class with
  | .market => do
    let quote ← .lift (getQuoteAndCheckFee quoter prepared.quoteParameters quoteId
      (some prepared.data.feeAmount))
    if outsideMarketPrice prepared.data quote then return (.limit, some quote)
    else return (.market, some quote)
  | .limit =>
    match getQuoteAndCheckFee quoter prepared.quoteParameters quoteId none with
    | .ok quote => do
      if outsideMarketPrice prepared.data quote then
        validator.checkMaxLimitOrders prepared.owner
      return (.limit, some quote)
    -- an implicit out of market order
    | .err (.priceForQuote .noLiquidity) => return (.limit, none)
    | .err other => .lift (.err other)
    | .panic reason => .lift (.panic reason)
  | .liquidity => do
    let quote ← .lift (getQuoteAndCheckFee quoter prepared.quoteParameters quoteId none)
    if outsideMarketPrice prepared.data quote then
      validator.checkMaxLimitOrders prepared.owner
    return (.limit, none)

/-- Quoted gas does not include the gas for hooks and signatures.  The sum
wraps around. -/
def tooMuchGas (parameters : QuoteSearchParameters) (quote : Quote) : Bool :=
  validator.maxGasPerOrder < quote.feeParameters.gasAmount.asU64 + parameters.additionalCost

def validateAndConstructOrder (order : OrderCreation)
    (domainSeparator : DomainSeparator) (settlementContract : Address)
    (fullAppDataOverride : Option String) :
    Logged ValidationError CountRead (Order × Option Quote) := do
  let prepared ← .lift (validator.prepare order domainSeparator fullAppDataOverride)
  let (orderClass, quote) ← validator.classAndQuote prepared order.quoteId
  .lift (.rejectIf (quote.any (validator.tooMuchGas prepared.quoteParameters)) .tooMuchGas)
  let orderQuote ← .lift (quote.elim (.ok none) fun quote => do
    let orderQuote ← validator.tryToModelOrderQuote quote
    return some orderQuote)
  return ({
    owner := prepared.owner
    uid := prepared.uid
    settlementContract := settlementContract
    «class» := orderClass
    fullAppData := match order.appData with
      | .both full _ | .full full => some full
      | .hash _ => fullAppDataOverride
    quote := orderQuote
    signature := order.signature
    data := prepared.data
    interactions := prepared.appData.interactions }, quote)

end OrderValidator

end MandateSolver.OrderValidation
