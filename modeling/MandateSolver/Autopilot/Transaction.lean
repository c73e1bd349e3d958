import MandateSolver.TradeMath
import MandateSolver.GPv2Settlement
import MandateSolver.Model

/-!
# Settlement transactions

The autopilot finds the call of the settlement contract in the trace of a
transaction and decodes its trades.  The uniform price of a token is the one at
the token's first position.
-/

/-! ## Surplus and fees of trades -/

namespace MandateSolver.Autopilot.Settlement

open WinnerSelection (OrderUid MathError ClearingPrices PriceLimits Quote FeePolicy)

inductive Error where
  | missingPrice (token : TokenAddress)
  | math (error : MathError)

/-- Uniform prices and those with fees. -/
structure Prices where
  (uniform custom : ClearingPrices)

/-- A trade as it was settled. -/
structure Trade where
  uid : OrderUid
  (sell buy : Asset)
  side : WinnerSelection.Side
  executed : U256
  prices : Prices

/-- A fee with its policy. -/
structure ExecutedProtocolFee (F : Type) where
  policy : FeePolicy F
  fee : Asset

namespace Trade

section

variable (trade : Trade)

def surplusOver (prices : ClearingPrices) (limits : PriceLimits) : Outcome MathError U256 :=
  TradeMath.surplusOver trade.side trade.executed prices limits

def surplusOverLimitPrice : Outcome MathError U256 :=
  trade.surplusOver trade.prices.custom ⟨trade.sell.amount, trade.buy.amount⟩

def surplusOverQuote (quote : Quote) : Outcome MathError U256 := do
  let limits ← TradeMath.adjustQuoteToOrderLimits
    ⟨trade.sell.amount, trade.buy.amount, trade.side⟩ quote
  trade.surplusOver trade.prices.custom limits

/-- A negative amount counts as no improvement, be it of the surplus or in the
adjustment of the quote. -/
def priceImprovement (quote : Quote) : Outcome Error U256 :=
  match trade.surplusOverQuote quote with
  | .err .negative => .ok 0
  | surplus => surplus.mapError .math

def calculateCustomPrices (protocolFee : U256) : Outcome MathError ClearingPrices :=
  TradeMath.calculateCustomPrices trade.side trade.executed protocolFee trade.prices.custom

def surplusToken : TokenAddress :=
  match trade.side with
  | .buy => trade.sell.token
  | .sell => trade.buy.token

end

section

variable {F : Type} [Factor F]

def surplusFee (surplus : U256) (factor : F) : Outcome Error U256 :=
  (TradeMath.surplusFee surplus factor).mapError .math

def volumeFee (trade : Trade) (factor : F) : Outcome Error U256 :=
  (TradeMath.volumeFee trade.side trade.executed trade.prices.custom factor).mapError .math

def protocolFee (trade : Trade) : FeePolicy F → Outcome Error U256
  | .surplus factor maxVolumeFactor => do
    let surplus ← trade.surplusOverLimitPrice.mapError .math
    let surplusFee ← surplusFee surplus factor
    let volumeFee ← trade.volumeFee maxVolumeFactor
    return Min.min surplusFee volumeFee
  | .priceImprovement factor maxVolumeFactor quote => do
    let improvement ← trade.priceImprovement quote
    let surplusFee ← surplusFee improvement factor
    let volumeFee ← trade.volumeFee maxVolumeFactor
    return Min.min surplusFee volumeFee
  | .volume factor => trade.volumeFee factor

/-- Fees are listed in the order of the policies. -/
def protocolFees (trade : Trade) (feePolicies : OrderUid → Option (List (FeePolicy F))) :
    Outcome Error (List (ExecutedProtocolFee F)) := do
  let policies := (feePolicies trade.uid).getD []
  let (_, _, fees) ← policies.zipIdx.reverse.foldlM
    (fun (total, currentTrade, fees) (policy, index) => do
      let fee ← protocolFee currentTrade policy
      let fees := fees ++ [⟨policy, ⟨fee, trade.surplusToken⟩⟩]
      let total ← .okOr (.math .overflow) (U256.checkedAdd total fee)
      if index ≠ 0 then
        let custom ← (trade.calculateCustomPrices total).mapError .math
        return (total, { currentTrade with prices.custom := custom }, fees)
      else return (total, currentTrade, fees))
    ((0 : U256), trade, ([] : List (ExecutedProtocolFee F)))
  return fees.reverse

end

end Trade

open Bytes List
open Model (Crypto DomainSeparator OrderData OrderKind SellTokenSource
  BuyTokenDestination SignatureError SigningScheme)

/-! ## Flags of a trade -/

namespace TradeFlags

section

variable (flags : U256)

def asU8 : BitVec 8 := flags.setWidth 8

def side : WinnerSelection.Side :=
  if asU8 flags &&& 0b1 = 0 then .sell else .buy

def partiallyFillable : Bool :=
  asU8 flags &&& 0b10 ≠ 0

def sellTokenBalance : SellTokenSource :=
  if asU8 flags &&& 0x08 = 0 then .erc20
  else if asU8 flags &&& 0x04 = 0 then .external
  else .internal

def buyTokenBalance : BuyTokenDestination :=
  if asU8 flags &&& 0x10 = 0 then .erc20 else .internal

def signingScheme : SigningScheme :=
  let scheme := (asU8 flags >>> 5) &&& 0b11
  if scheme = 0b00 then .eip712
  else if scheme = 0b01 then .ethSign
  else if scheme = 0b10 then .eip1271
  else .preSign

end

end TradeFlags

/-! ## Order identifiers -/

inductive UidError where
  | signature (error : SignatureError)
  | recoverOwner (error : SignatureError)

def orderData (trade : GPv2Settlement.Trade) (sellToken buyToken : Address) : OrderData where
  sellToken := sellToken
  buyToken := buyToken
  receiver := some trade.receiver
  sellAmount := trade.sellAmount
  buyAmount := trade.buyAmount
  validTo := trade.validTo
  appData := trade.appData
  feeAmount := trade.feeAmount
  kind := match TradeFlags.side trade.flags with
    | .buy => .buy
    | .sell => .sell
  partiallyFillable := TradeFlags.partiallyFillable trade.flags
  sellTokenBalance := TradeFlags.sellTokenBalance trade.flags
  buyTokenBalance := TradeFlags.buyTokenBalance trade.flags

def orderUid (crypto : Crypto) (trade : GPv2Settlement.Trade) (tokens : List Address)
    (domainSeparator : DomainSeparator) : Outcome UidError OrderUid := do
  let signature ← (Model.Signature.fromBytes (TradeFlags.signingScheme trade.flags)
    trade.signature).mapError .signature
  let sellToken ← .index tokens trade.sellTokenIndex
  let buyToken ← .index tokens trade.buyTokenIndex
  let order := orderData trade sellToken buyToken
  let owner ← (signature.recoverOwner crypto trade.signature domainSeparator
    (order.hashStruct crypto)).mapError .recoverOwner
  return order.uid crypto domainSeparator owner

/-! ## Traces -/

/-- A call of a traced transaction. -/
structure CallFrame where
  sender : Address
  target : Option Address
  input : List UInt8
  calls : List CallFrame

def CallFrame.subCalls (frame : CallFrame) (callersSoFar : List Address) :
    List (CallFrame × List Address) :=
  frame.calls.map fun subCall => (subCall, callersSoFar ++ [subCall.sender])

theorem CallFrame.sum_sizeOf_calls (frame : CallFrame) :
    (frame.calls.map fun call => sizeOf call).sum < sizeOf frame := by
  have bound : ∀ calls : List CallFrame,
      (calls.map fun call => sizeOf call).sum ≤ sizeOf calls := by
    intro calls
    induction calls with
    | nil => simp
    | cons call calls ih =>
      simp only [map_cons, sum_cons, List.cons.sizeOf_spec]
      omega
  cases frame with
  | mk sender target input calls =>
    have := bound calls
    simp only [CallFrame.mk.sizeOf_spec]
    omega

/-- A mined transaction. -/
structure EthTransaction where
  hash : U256
  block : Nat
  timestamp : U32
  (gas gasPrice : U256)
  traceCalls : CallFrame

/-- Why a transaction is no settlement. -/
inductive TransactionError where
  | missingCalldata
  | missingSolver
  | missingAuctionId
  | decoding
  | orderUidRecover (error : UidError)
  | signatureRecover (error : SignatureError)
  | authentication

def isSettlementTrace (selector : List UInt8) (settlementContract : Address)
    (trace : CallFrame) : Bool :=
  trace.target.getD 0 = settlementContract && selector.isPrefixOf trace.input

def searchFrames (selector : List UInt8) (settlementContract : Address) :
    List (CallFrame × List Address) → Option (CallFrame × List Address)
  | [] => none
  | (frame, callers) :: queue =>
    if isSettlementTrace selector settlementContract frame then some (frame, callers)
    else searchFrames selector settlementContract (queue ++ frame.subCalls callers)
termination_by queue => (queue.map fun entry => sizeOf entry.1).sum
decreasing_by
  have smaller := frame.sum_sizeOf_calls
  simp only [CallFrame.subCalls, map_append, map_map, sum_append, map_cons,
    sum_cons, Function.comp_def]
  omega

def findSettlementTraceAndCallers (selector : List UInt8) (callFrame : CallFrame)
    (settlementContract : Address) : Option (CallFrame × List Address) :=
  searchFrames selector settlementContract [(callFrame, [callFrame.sender])]

/-- A caller is asked about once. -/
def findSolverAddress (isValidSolver : Address → Outcome TransactionError Bool) :
    List Address → List Address → Outcome TransactionError (Option Address)
  | _, [] => .ok none
  | checkedCallers, caller :: callers =>
    if caller ∈ checkedCallers then
      findSolverAddress isValidSolver checkedCallers callers
    else do
      let valid ← isValidSolver caller
      if valid then return some caller
      else findSolverAddress isValidSolver (caller :: checkedCallers) callers

/-! ## Decoded transactions -/

/-- A trade read from call data. -/
structure EncodedTrade where
  uid : OrderUid
  (sell buy : Asset)
  side : WinnerSelection.Side
  receiver : Address
  validTo : U32
  (appData feeAmount : U256)
  sellTokenBalance : SellTokenSource
  buyTokenBalance : BuyTokenDestination
  partiallyFillable : Bool
  signature : Model.Signature
  executed : U256
  prices : Prices

/-- A decoded settlement. -/
structure Transaction where
  hash : U256
  auctionId : BitVec 64
  block : Nat
  timestamp : U32
  (gas gasPrice : U256)
  solver : Address
  trades : List EncodedTrade

def EncodedTrade.new (trade : GPv2Settlement.Trade) (sellToken buyToken : Address)
    (uid : OrderUid) (signature : Model.Signature) (prices : Prices) : EncodedTrade where
  uid
  sell := ⟨trade.sellAmount, sellToken⟩
  buy := ⟨trade.buyAmount, buyToken⟩
  side := TradeFlags.side trade.flags
  receiver := trade.receiver
  validTo := trade.validTo
  appData := trade.appData
  feeAmount := trade.feeAmount
  sellTokenBalance := TradeFlags.sellTokenBalance trade.flags
  buyTokenBalance := TradeFlags.buyTokenBalance trade.flags
  partiallyFillable := TradeFlags.partiallyFillable trade.flags
  signature
  executed := trade.executedAmount
  prices

def decodeTrade (crypto : Crypto) (domainSeparator : DomainSeparator)
    (tokens : List Address) (clearingPrices : List U256)
    (trade : GPv2Settlement.Trade) : Outcome TransactionError EncodedTrade := do
  let sellToken ← .index tokens trade.sellTokenIndex
  let buyToken ← .index tokens trade.buyTokenIndex
  let uniformSellTokenIndex ← .expect "called Option::unwrap() on a None value"
    (tokens.idxOf? sellToken)
  let uniformBuyTokenIndex ← .expect "called Option::unwrap() on a None value"
    (tokens.idxOf? buyToken)
  let uid ← (orderUid crypto trade tokens domainSeparator).mapError .orderUidRecover
  let signature ← (Model.Signature.fromBytes (TradeFlags.signingScheme trade.flags)
    trade.signature).mapError .signatureRecover
  let uniformSell ← .index clearingPrices uniformSellTokenIndex
  let uniformBuy ← .index clearingPrices uniformBuyTokenIndex
  let customSell ← .index clearingPrices trade.sellTokenIndex
  let customBuy ← .index clearingPrices trade.buyTokenIndex
  return .new trade sellToken buyToken uid signature
    ⟨⟨uniformSell, uniformBuy⟩, ⟨customSell, customBuy⟩⟩

def metaDataLen : Nat := 8

def splitMetadata (calldata : List UInt8) : Outcome TransactionError (List UInt8 × BitVec 64) := do
  let position ← .okOr .missingCalldata
    (if metaDataLen ≤ calldata.length then some (calldata.length - metaDataLen) else none)
  let (data, metadata) := calldata.splitAt position
  .rejectIf (metadata.length ≠ metaDataLen) .missingAuctionId
  return (data, BitVec.ofNat 64 (ofBigEndian metadata))

def decodeCall (crypto : Crypto) (domainSeparator : DomainSeparator)
    (transaction : EthTransaction) (auctionId : BitVec 64) (solver : Address)
    (call : GPv2Settlement.SettleCall) : Outcome TransactionError Transaction := do
  let trades ← call.trades.mapM
    (decodeTrade crypto domainSeparator call.tokens call.clearingPrices)
  return {
    hash := transaction.hash
    auctionId
    block := transaction.block
    timestamp := transaction.timestamp
    gas := transaction.gas
    gasPrice := transaction.gasPrice
    solver
    trades }

def Transaction.tryNew (coder : GPv2Settlement.Coder) (crypto : Crypto)
    (isValidSolver : Nat → Address → Outcome TransactionError Bool)
    (domainSeparator : DomainSeparator) (settlementContract : Address)
    (transaction : EthTransaction) : Outcome TransactionError Transaction := do
  let (trace, callers) ← .okOr .missingCalldata
    (findSettlementTraceAndCallers coder.selector transaction.traceCalls settlementContract)
  let solver ← findSolverAddress (isValidSolver transaction.block) [] callers
  let (data, auctionId) ← splitMetadata trace.input
  let solver ← .okOr .missingSolver solver
  let call ← .okOr .decoding (coder.decode data)
  decodeCall crypto domainSeparator transaction auctionId solver call

/-! ## Decoding of a settle call -/

section

variable {coder : GPv2Settlement.Coder} {crypto : Crypto}
  {isValidSolver : Nat → Address → Outcome TransactionError Bool}
  {domainSeparator : DomainSeparator} {settlementContract : Address} {transaction : EthTransaction}

theorem findSettlementTraceAndCallers_top {selector : List UInt8} {frame : CallFrame}
    (found : isSettlementTrace selector settlementContract frame) :
    findSettlementTraceAndCallers selector frame settlementContract =
      some (frame, [frame.sender]) := by
  rw [findSettlementTraceAndCallers, searchFrames, if_pos found]

theorem isPrefixOf_append {selector bytes : List UInt8} (rest : List UInt8)
    (starts : selector.isPrefixOf bytes) : selector.isPrefixOf (bytes ++ rest) := by
  rw [ isPrefixOf_iff_prefix] at starts ⊢
  exact starts.trans (prefix_append _ _)

theorem splitMetadata_append (data : List UInt8) (auctionId : BitVec 64) :
    splitMetadata (data ++ bigEndian 8 auctionId.toNat) = .ok (data, auctionId) := by
  have value := ofNat_ofBigEndian 8 auctionId
  simp [splitMetadata, metaDataLen, Outcome.rejectIf, value, -ofBigEndian_bigEndian]

theorem tryNew_eq {call : GPv2Settlement.SettleCall} {auctionId : BitVec 64}
    (target : transaction.traceCalls.target = some settlementContract)
    (input : transaction.traceCalls.input = coder.encode call ++ bigEndian 8 auctionId.toNat)
    (valid : isValidSolver transaction.block transaction.traceCalls.sender = .ok true) :
    Transaction.tryNew coder crypto isValidSolver domainSeparator settlementContract transaction =
      decodeCall crypto domainSeparator transaction auctionId transaction.traceCalls.sender
        call := by
  have found : isSettlementTrace coder.selector settlementContract
      transaction.traceCalls := by
    simp [isSettlementTrace, target, input, isPrefixOf_append _ (coder.starts_with call)]
  simp [Transaction.tryNew, findSettlementTraceAndCallers_top found, findSolverAddress,
    valid, input, splitMetadata_append, coder.decode_encode]

/-- The tokens and prices are read at the positions of the trade and at the first
positions of its tokens. -/
theorem decodeTrade_eq {tokens : List Address} {clearingPrices : List U256}
    {trade : GPv2Settlement.Trade} {sellToken buyToken owner : Address}
    {uniformSellTokenIndex uniformBuyTokenIndex : Nat}
    {signature : Model.Signature} (prices : Prices)
    (sellAt : tokens[trade.sellTokenIndex]? = some sellToken)
    (buyAt : tokens[trade.buyTokenIndex]? = some buyToken)
    (sellFirst : tokens.idxOf? sellToken = some uniformSellTokenIndex)
    (buyFirst : tokens.idxOf? buyToken = some uniformBuyTokenIndex)
    (uniformSell : clearingPrices[uniformSellTokenIndex]? = some prices.uniform.sell)
    (uniformBuy : clearingPrices[uniformBuyTokenIndex]? = some prices.uniform.buy)
    (customSell : clearingPrices[trade.sellTokenIndex]? = some prices.custom.sell)
    (customBuy : clearingPrices[trade.buyTokenIndex]? = some prices.custom.buy)
    (read : Model.Signature.fromBytes (TradeFlags.signingScheme trade.flags)
      trade.signature = .ok signature)
    (recovered : signature.recoverOwner crypto trade.signature domainSeparator
      ((orderData trade sellToken buyToken).hashStruct crypto) = .ok owner) :
    decodeTrade crypto domainSeparator tokens clearingPrices trade =
      .ok (.new trade sellToken buyToken
        ((orderData trade sellToken buyToken).uid crypto domainSeparator owner)
        signature prices) := by
  simp [decodeTrade, orderUid, Outcome.index, Outcome.mapError, sellAt, buyAt, sellFirst,
    buyFirst, uniformSell, uniformBuy, customSell, customBuy, read, recovered]

end

end MandateSolver.Autopilot.Settlement
