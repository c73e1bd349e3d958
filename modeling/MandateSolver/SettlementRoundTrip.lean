import MandateSolver.Autopilot.Transaction
import MandateSolver.Driver.Encoding
import MandateSolver.Driver.FetchBalances

/-!
# Settlements read back

The autopilot reads back the trades of the driver's solution, with the fee of a sell order
as part of its executed amount.
-/

namespace MandateSolver.SettlementRoundTrip

open Autopilot.Settlement (EncodedTrade EthTransaction Transaction TransactionError
  TradeFlags.side TradeFlags.partiallyFillable TradeFlags.sellTokenBalance
  TradeFlags.buyTokenBalance TradeFlags.signingScheme orderData decodeTrade)
open Bytes List
open Driver (Allowance EthInteraction Fulfillment Solution)
open Driver.Encoding (AuctionId Contracts Flags Internalization Placed Price Tx
  codecFlags codecSignature codecTrade unplaced)
open Model (BuyTokenDestination Crypto DomainSeparator OrderData SellTokenSource SigningScheme)
open WinnerSelection (nativeToken)

/-! ## Flags -/

def signingScheme : Driver.Scheme → SigningScheme
  | .eip712 => .eip712
  | .ethSign => .ethSign
  | .eip1271 => .eip1271
  | .preSign => .preSign

def buyTokenDestination : Driver.BuyTokenBalance → BuyTokenDestination
  | .erc20 => .erc20
  | .internal => .internal

theorem tradeFlags_codecFlags (flags : Flags) : TradeFlags.side (codecFlags flags) = flags.side ∧
    TradeFlags.partiallyFillable (codecFlags flags) = flags.partiallyFillable ∧
    TradeFlags.sellTokenBalance (codecFlags flags) = flags.sellTokenBalance.toSource ∧
    TradeFlags.buyTokenBalance (codecFlags flags) = buyTokenDestination flags.buyTokenBalance ∧
    TradeFlags.signingScheme (codecFlags flags) = signingScheme flags.signingScheme := by
  obtain ⟨side, fill, scheme, sell, buy⟩ := flags
  cases side <;> cases fill <;> cases scheme <;> cases sell <;> cases buy <;>
    exact ⟨rfl, rfl, rfl, rfl, rfl⟩

/-! ## Owners -/

variable {domainSeparator : DomainSeparator} {crypto : Crypto} {call : GPv2Settlement.SettleCall}
  {prices : Driver.Prices} {F : Type} {solution : Solution F}

section

/-- The order a trade fills. -/
def orderOf : Driver.Trade F → Driver.Order F
  | .fulfillment trade => trade.order
  | .jit trade => Solution.jitAsOrder trade.order

def signedData (order : Driver.Order F) : OrderData where
  sellToken := order.sell.token
  buyToken := order.buy.token
  receiver := some (order.receiver.getD 0)
  sellAmount := order.sell.amount
  buyAmount := order.buy.amount
  validTo := order.validTo
  appData := order.appData.hashValue
  feeAmount := 0
  kind := match order.side with
    | .buy => .buy
    | .sell => .sell
  partiallyFillable := match order.fill with
    | .yes _ => true
    | .no => false
  sellTokenBalance := order.sellTokenBalance.toSource
  buyTokenBalance := buyTokenDestination order.buyTokenBalance

/-- An ECDSA signature belongs to the signer of the order. -/
def RecoversSigner (crypto : Crypto) (domainSeparator : DomainSeparator)
    (order : Driver.Order F) : Prop :=
  order.signature.scheme = .eip712 ∨ order.signature.scheme = .ethSign → ∃ signature,
      Model.Signature.fromBytes (signingScheme order.signature.scheme)
        order.signature.data = .ok signature ∧
      signature.recoverOwner crypto order.signature.data domainSeparator
        ((signedData order).hashStruct crypto) = .ok order.signature.signer

variable {order : Driver.Order F}

theorem exists_signature (recovers : RecoversSigner crypto domainSeparator order) :
    ∃ signature, Model.Signature.fromBytes (signingScheme order.signature.scheme)
        (codecSignature order.signature) = .ok signature ∧
      signature.recoverOwner crypto (codecSignature order.signature) domainSeparator
        ((signedData order).hashStruct crypto) = .ok order.signature.signer := by
  by_cases ecdsa : order.signature.scheme = .eip712 ∨ order.signature.scheme = .ethSign
  · have written : codecSignature order.signature = order.signature.data := by
      rcases ecdsa with scheme | scheme <;> simp only [codecSignature, scheme]
    rw [written]
    exact recovers ecdsa
  · cases scheme : order.signature.scheme with
    | eip712 => exact absurd (.inl scheme) ecdsa
    | ethSign => exact absurd (.inr scheme) ecdsa
    | eip1271 =>
      refine ⟨_, rfl, ?_⟩
      simp [Model.Signature.recoverOwner, codecSignature, scheme, Model.addressFromSlice_bigEndian]
    | preSign =>
      refine ⟨.preSign, ?_, ?_⟩
      · simp [signingScheme, Model.Signature.fromBytes, codecSignature, scheme, Outcome.rejectIf]
      · simp [Model.Signature.recoverOwner, codecSignature, scheme,
          Model.addressFromSlice_bigEndian]

end

/-! ## Trades -/

section

def executedWithFee : Driver.Trade F → Nat
  | .fulfillment trade => match trade.order.side with
      | .sell => trade.executed.toNat + trade.feeAmount.toNat
      | .buy => trade.executed.toNat
  | .jit trade => trade.executed.toNat

/-- The uniform prices are those of the solution, and the custom prices those that
the driver computed from them. -/
structure ReflectsPrices (solution : Solution F) (trade : Fulfillment F)
    (prices : Autopilot.Settlement.Prices) : Prop where
  uniformSell : trade.order.sell.token ≠ nativeToken ∨
      (∃ other ∈ solution.userTrades, other.order.buysEth) →
    solution.clearingPrice trade.order.sell.token = some prices.uniform.sell
  uniformBuy : solution.clearingPrice trade.order.buy.token = some prices.uniform.buy
  custom : ∃ sell, solution.clearingPrice trade.order.sell.token = some sell ∧
    trade.customPrices ⟨sell, prices.uniform.buy⟩ = .ok prices.custom

/-- A decoded trade says what the encoded one did. -/
structure Reflects (solution : Solution F) (trade : Driver.Trade F)
    (decoded : EncodedTrade) : Prop where
  sell : decoded.sell = (orderOf trade).sell
  buy : decoded.buy = (orderOf trade).buy
  side : decoded.side = (orderOf trade).side
  partiallyFillable : decoded.partiallyFillable ↔ ∃ available, (orderOf trade).fill = .yes available
  executed : decoded.executed.toNat = executedWithFee trade
  prices : ∀ fulfillment, trade = .fulfillment fulfillment →
    ReflectsPrices solution fulfillment decoded.prices

variable {trade : Driver.Trade F} {price : Price} {entry : Driver.Encoding.Trade}
  {tokens : List Address} {clearingPrices : List U256}

/-- A sell order has room for its fee, which was checked when the trade was
built. -/
theorem executed_add_fee_lt {trade : Fulfillment F} (sells : trade.order.side = .sell) :
    trade.executed.toNat + trade.feeAmount.toNat < 2 ^ 256 := by
  have valid := (Bool.and_eq_true_iff.mp trade.valid).1
  cases fee : trade.fee with
  | static =>
    simp only [Fulfillment.feeAmount, fee]
    exact trade.executed.isLt
  | dynamic amount =>
    simp only [Driver.validExecution, sells, fee] at valid
    simp only [Fulfillment.feeAmount, fee]
    cases added : trade.executed.checkedAdd amount with
    | none => simp [added] at valid
    | some total =>
      rw [← U256.checkedAdd_eq_some_iff.mp added]
      exact total.isLt

theorem toNat_executedAmount (trade : Driver.Trade F) :
    (unplaced trade).executedAmount.toNat = executedWithFee trade := by
  cases trade with
  | jit trade => rfl
  | fulfillment trade =>
    simp only [unplaced, Driver.Encoding.fulfillmentTrade, executedWithFee]
    cases side : trade.order.side with
    | buy => rfl
    | sell => exact Nat.mod_eq_of_lt (executed_add_fee_lt side)

theorem priced_tokens (priced : Driver.Encoding.Priced solution trade price) :
    price.sellToken = (orderOf trade).sell.token ∧ price.buyToken = (orderOf trade).buy.token := by
  cases trade with
  | fulfillment trade => exact ⟨priced.1, priced.2.1⟩
  | jit trade =>
    cases priced
    exact ⟨rfl, rfl⟩

section

variable (placed : Placed solution tokens clearingPrices trade price entry)
include placed

theorem orderData_codecTrade :
    orderData (codecTrade entry) price.sellToken price.buyToken = signedData (orderOf trade) := by
  obtain ⟨sellToken, buyToken⟩ := priced_tokens placed.priced
  rw [placed.entry_eq, sellToken, buyToken]
  cases trade <;>
    simp only [orderData, codecTrade, tradeFlags_codecFlags] <;>
    rfl

theorem signature_codecTrade : TradeFlags.signingScheme (codecTrade entry).flags =
        signingScheme (orderOf trade).signature.scheme ∧
      (codecTrade entry).signature = codecSignature (orderOf trade).signature := by
  rw [placed.entry_eq]
  cases trade <;> simp only [codecTrade, tradeFlags_codecFlags] <;> exact ⟨rfl, rfl⟩

end

/-- The uniform prices of a user's trade are read off the first positions of its
tokens. -/
theorem reflectsPrices {trade : Fulfillment F} {uniformSell uniformBuy : U256}
    (contents : Driver.Encoding.Contents solution prices call)
    (mem : .fulfillment trade ∈ solution.trades)
    (priced : Driver.Encoding.Priced solution (.fulfillment trade) price)
    (sellFirst : ∀ uniform, prices.get trade.order.sell.token = some uniform →
      uniformSell = uniform)
    (buyFirst : ∀ uniform, prices.get trade.order.buy.token = some uniform → uniformBuy = uniform) :
    ReflectsPrices solution trade
      ⟨⟨uniformSell, uniformBuy⟩, ⟨price.sellPrice, price.buyPrice⟩⟩ := by
  obtain ⟨-, -, sell, buy, sellPrice, buyPrice, custom⟩ := priced
  have user : trade ∈ solution.userTrades := mem_filterMap.mpr ⟨.fulfillment trade, mem, rfl⟩
  have bought := (Driver.Encoding.get_clearingPrices contents.computed ⟨trade, user, .inr rfl⟩
      fun native => ⟨trade, user, decide_eq_true native⟩).trans buyPrice
  obtain rfl := buyFirst buy bought
  refine ⟨fun priced => ?_, buyPrice, sell, sellPrice, custom⟩
  have sold := (Driver.Encoding.get_clearingPrices contents.computed ⟨trade, user, .inl rfl⟩
      fun native => priced.resolve_left (not_not_intro native)).trans sellPrice
  obtain rfl := sellFirst sell sold
  exact sellPrice

theorem decodeTrade_placed (contents : Driver.Encoding.Contents solution prices call)
    (mem : trade ∈ solution.trades)
    (placed : Placed solution call.tokens call.clearingPrices trade price entry)
    (recovers : RecoversSigner crypto domainSeparator (orderOf trade)) :
    ∃ decoded, decodeTrade crypto domainSeparator call.tokens call.clearingPrices
        (codecTrade entry) = .ok decoded ∧ Reflects solution trade decoded := by
  obtain ⟨_, uniformSell, sellFirst, sellPrice, sellUniform⟩ :=
    contents.first_price (mem_of_getElem? placed.sellToken)
  obtain ⟨_, uniformBuy, buyFirst, buyPrice, buyUniform⟩ :=
    contents.first_price (mem_of_getElem? placed.buyToken)
  obtain ⟨_, read, recovered⟩ := exists_signature recovers
  have data := orderData_codecTrade placed
  obtain ⟨scheme, written⟩ := signature_codecTrade placed
  refine ⟨_, Autopilot.Settlement.decodeTrade_eq
    ⟨⟨uniformSell, uniformBuy⟩, ⟨price.sellPrice, price.buyPrice⟩⟩
    placed.sellToken placed.buyToken sellFirst buyFirst sellPrice buyPrice
    placed.sellPrice placed.buyPrice (by rw [scheme, written]; exact read)
    (by rw [written, data]; exact recovered), ?_⟩
  obtain ⟨sellToken, buyToken⟩ := priced_tokens placed.priced
  have sellAmount := congrArg OrderData.sellAmount data
  have buyAmount := congrArg OrderData.buyAmount data
  have fill := congrArg OrderData.partiallyFillable data
  constructor
  case sell => exact congrArg₂ Asset.mk sellAmount sellToken
  case buy => exact congrArg₂ Asset.mk buyAmount buyToken
  case side =>
    rw [placed.entry_eq]
    cases trade <;> simp only [EncodedTrade.new, codecTrade, tradeFlags_codecFlags] <;> rfl
  case partiallyFillable =>
    rw [EncodedTrade.new, show TradeFlags.partiallyFillable (codecTrade entry).flags = _ from fill]
    cases available : (orderOf trade).fill <;> simp [signedData, available]
  case executed =>
    rw [placed.entry_eq]
    exact toNat_executedAmount trade
  case prices =>
    rintro _ rfl
    rw [sellToken] at sellUniform
    rw [buyToken] at buyUniform
    exact reflectsPrices contents mem placed.priced sellUniform buyUniform

end

/-! ## Transactions -/

/-- The mined transaction is the submitted one. -/
structure Executes (transaction : EthTransaction) (produced : Tx) : Prop where
  sender : transaction.traceCalls.sender = produced.sender
  target : transaction.traceCalls.target = some produced.target
  input : transaction.traceCalls.input = produced.input

theorem exists_decodedTrades (contents : Driver.Encoding.Contents solution prices call)
    {trades : List (Driver.Trade F)} {entries : List Driver.Encoding.Trade}
    (members : ∀ trade ∈ trades, trade ∈ solution.trades)
    (recovers : ∀ trade ∈ trades, RecoversSigner crypto domainSeparator (orderOf trade))
    (placed : List.Forall₂ (fun trade entry => ∃ price,
      Placed solution call.tokens call.clearingPrices trade price entry) trades entries) :
    ∃ decoded, (entries.map codecTrade).mapM
        (decodeTrade crypto domainSeparator call.tokens call.clearingPrices) = .ok decoded ∧
      List.Forall₂ (Reflects solution) trades decoded := by
  induction placed with
  | nil => exact ⟨[], rfl, .nil⟩
  | cons first _ ih =>
    obtain ⟨price, first⟩ := first
    rw [forall_mem_cons] at members recovers
    obtain ⟨head, headDecoded, reflects⟩ := decodeTrade_placed contents members.1 first recovers.1
    obtain ⟨tail, tailDecoded, rest⟩ := ih members.2 recovers.2
    refine ⟨head :: tail, ?_, .cons reflects rest⟩
    simp [headDecoded, tailDecoded]

/-- What the autopilot decodes are the trades of the solution. -/
theorem tryNew_tx {contracts : Contracts} {liquidityInteraction : Nat → Asset → Asset →
      Outcome Driver.Encoding.Error EthInteraction}
    {auctionId : Option AuctionId} {approvals : List Allowance}
    {internalization : Internalization} {insertUnwraps : Bool} {produced : Tx}
    {isValidSolver : Nat → Address → Outcome TransactionError Bool} {transaction : EthTransaction}
    (noFlashloans : solution.flashloans.entries = []) (noWrappers : solution.wrappers = [])
    (encoded : Driver.Encoding.tx contracts liquidityInteraction auctionId solution
      approvals internalization insertUnwraps = .ok produced)
    (executes : Executes transaction produced)
    (authenticated : isValidSolver transaction.block produced.sender = .ok true)
    (recovers : ∀ trade ∈ solution.trades, RecoversSigner crypto domainSeparator (orderOf trade)) :
    ∃ decoded, Transaction.tryNew contracts.settle crypto isValidSolver domainSeparator
        contracts.settlement transaction = .ok decoded ∧
      auctionId = some decoded.auctionId ∧
      List.Forall₂ (Reflects solution) solution.trades decoded.trades := by
  obtain ⟨_, _, _, contents, known, target, input⟩ :=
    Driver.Encoding.tx_eq_ok noFlashloans noWrappers encoded
  obtain ⟨entries, trades, placed⟩ := contents.trades
  obtain ⟨decoded, decodes, reflects⟩ := exists_decodedTrades contents
    (fun _ mem => mem) recovers placed
  rw [Autopilot.Settlement.tryNew_eq (executes.target.trans (congrArg some target))
    (executes.input.trans input) (executes.sender ▸ authenticated),
    Autopilot.Settlement.decodeCall, trades, decodes]
  exact ⟨_, rfl, known, reflects⟩

/-! ## A small network -/

def localContracts : Contracts where
  settlement := 8
  weth := 9
  flashloanRouter := none
  settle := GPv2Settlement.sequentialCoder
  withdraw := fun _ => []
  flashLoanAndSettle := fun _ _ => []
  wrappedSettle := fun _ _ => []

def localCrypto : Crypto where
  keccak256 := fun _ => 0
  recoverAddressFromPrehash := fun _ _ => some 5

def executing (produced : Tx) : EthTransaction where
  hash := 0
  block := 0
  timestamp := 0
  gas := 0
  gasPrice := 0
  traceCalls := ⟨produced.sender, some produced.target, produced.input, []⟩

def encoding (solution : Solution ℚ) : Outcome Driver.Encoding.Error Tx :=
  Driver.Encoding.tx localContracts (fun id _ _ => .err (.invalidInteractionExecution id))
    (some 5) solution [] .enable true

def decoding (produced : Tx) : Outcome TransactionError Transaction :=
  Transaction.tryNew localContracts.settle localCrypto (fun _ _ => .ok true) 0
    localContracts.settlement (executing produced)

def charged : Fulfillment ℚ where
  order :=
    { (Solution.soldOut 0 ⟨100, 1⟩ ⟨40, 2⟩).order with
      signature := ⟨.eip712, List.replicate 65 0, 5⟩ }
  executed := 90
  fee := .dynamic 10
  haircutFee := 0
  valid := by decide

def broughtAlong : Driver.Jit where
  order :=
    { sell := ⟨10, 1⟩, buy := ⟨5, 2⟩, receiver := 3, validTo := 0
      isPartiallyFillable := true, appData := 0, side := .sell
      sellTokenBalance := .internal, buyTokenBalance := .erc20
      signature := ⟨.preSign, [], 6⟩, uid := ⟨2, 6, 0⟩ }
  executed := 10
  fee := 0
  valid := by decide

def mixed : Solution ℚ :=
  { Solution.trading charged [(1, 1), (2, 2), (9, 4)] with
    trades := [.fulfillment charged, .jit broughtAlong,
      .fulfillment (Solution.soldOut 1 ⟨50, 2⟩ ⟨20, nativeToken⟩)] }

theorem tryNew_tx_mixed : ∃ produced, encoding mixed = .ok produced ∧
      ∃ decoded, decoding produced = .ok decoded ∧ some 5 = some decoded.auctionId ∧
        List.Forall₂ (Reflects mixed) mixed.trades decoded.trades := by
  obtain ⟨produced, encoded⟩ : ∃ produced, encoding mixed = .ok produced := by
    obtain ⟨produced, some⟩ := Option.isSome_iff_exists.mp
      (show (encoding mixed).toOption.isSome by decide +kernel)
    exact ⟨produced, Outcome.toOption_eq_some_iff.mp some⟩
  refine ⟨produced, encoded, tryNew_tx rfl rfl encoded ⟨rfl, rfl, rfl⟩ rfl ?_⟩
  intro _ mem ecdsa
  simp only [mixed, mem_cons, not_mem_nil, or_false] at mem
  rcases mem with rfl | rfl | rfl
  · exact ⟨.eip712 ⟨0, 0, 27⟩, by decide, rfl⟩
  all_goals rcases ecdsa with scheme | scheme <;> cases scheme

theorem exists_decoded {α : Type} (solution : Solution ℚ) (view : Transaction → α) (value : α)
    (run : ((encoding solution).toOption.bind fun produced =>
      (decoding produced).toOption).map view = some value) :
    ∃ produced decoded, encoding solution = .ok produced ∧
      decoding produced = .ok decoded ∧ view decoded = value := by
  simp only [Option.map_eq_some_iff, Option.bind_eq_some_iff, Outcome.toOption_eq_some_iff] at run
  obtain ⟨decoded, ⟨produced, encoded, decodes⟩, viewed⟩ := run
  exact ⟨produced, decoded, encoded, decodes, viewed⟩

/-- The executed amount of a sell order is not read back without its fee, and the
native token is not read back at its uniform price when it is only sold. -/
theorem decoding_encoding_differs : (∃ produced decoded,
      let solution := Solution.trading charged [(1, 1), (2, 2)]
      Solution.new solution .solver (fun _ => false) = .ok solution ∧
      encoding solution = .ok produced ∧ decoding produced = .ok decoded ∧
      decoded.trades.map (·.executed) ≠ solution.userTrades.map (·.executed)) ∧
    ∃ produced decoded,
      let solution := Solution.trading (Solution.soldOut 0 ⟨100, nativeToken⟩ ⟨40, 2⟩)
        [(2, 5), (9, 3)]
      Solution.new solution .solver (fun _ => false) = .ok solution ∧
      encoding solution = .ok produced ∧ decoding produced = .ok decoded ∧
      decoded.trades.map (fun trade => some trade.prices.uniform.sell) ≠
        solution.userTrades.map fun trade =>
          solution.clearingPrice trade.order.sell.token := by
  constructor
  · obtain ⟨produced, decoded, encoded, decodes, executed⟩ :=
      exists_decoded (Solution.trading charged [(1, 1), (2, 2)])
        (fun decoded => decoded.trades.map (·.executed)) [100] (by decide +kernel)
    refine ⟨produced, decoded, by decide +kernel, encoded, decodes, ?_⟩
    rw [executed]
    decide +kernel
  · obtain ⟨produced, decoded, encoded, decodes, price⟩ := exists_decoded
        (Solution.trading (Solution.soldOut 0 ⟨100, nativeToken⟩ ⟨40, 2⟩) [(2, 5), (9, 3)])
        (fun decoded => decoded.trades.map fun trade => some trade.prices.uniform.sell)
        [some 60] (by decide +kernel)
    refine ⟨produced, decoded, by decide +kernel, encoded, decodes, ?_⟩
    rw [price]
    decide +kernel

end MandateSolver.SettlementRoundTrip
