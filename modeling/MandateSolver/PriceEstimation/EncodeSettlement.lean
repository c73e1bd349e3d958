import MandateSolver.GPv2Settlement
import MandateSolver.PriceEstimation.TradeVerifier

/-!
# The settlement that verifies a quote

A quote is simulated as a settlement of a made up order together with the solver's own
orders.  The bytes of a solver's signature are cut without looking at their number first.
-/

namespace MandateSolver.PriceEstimation

open Outcome

open Model Bytes GPv2Settlement

inductive Side where
  | buy
  | sell

structure JitOrder where
  (buyToken sellToken : Address)
  (sellAmount buyAmount executedAmount : U256)
  receiver : Address
  validTo : U32
  appData : U256
  side : Side
  partiallyFillable : Bool
  sellTokenSource : SellTokenSource
  buyTokenDestination : BuyTokenDestination
  signature : List UInt8
  signingScheme : SigningScheme

structure SettlementVerification extends Verification where
  (preInteractions postInteractions : List Interaction)
  sellTokenSource : SellTokenSource
  buyTokenDestination : BuyTokenDestination

abbrev EncodedSettlement := SettleCall

inductive EncodeError where
  | missingSellToken
  | missingBuyToken
  | missingJitSellToken
  | missingJitBuyToken
  | signature (error : SignatureError)
  | ecdsaRecovery
  | missingOwner

def buyEthAddress : Address :=
  0xeeeeeeeeeeeeeeeeeeeeeeeeeeeeeeeeeeeeeeee

def spardose : Address := 0x20000

/-! ## Calls of contracts -/

variable {crypto : Crypto} {domainSeparator : DomainSeparator} {query : PriceQuery}
  {verification : SettlementVerification}

section

variable (crypto)

def selector (signature : String) : List UInt8 :=
  (bigEndian 32 (crypto.keccak256
    (signature.toList.map fun char => UInt8.ofNat char.toNat)).toNat).take 4

def withdrawCall (wad : U256) : List UInt8 :=
  selector crypto "withdraw(uint256)" ++ bigEndian 32 wad.toNat

def ensureTradePreconditionsCall (trader settlementContract sellToken : Address)
    (sellAmount : U256) (nativeToken spardose : Address) : List UInt8 :=
  selector crypto "ensureTradePreconditions(address,address,address,uint256,address,address)" ++
    bigEndian 32 trader.toNat ++ bigEndian 32 settlementContract.toNat ++
    bigEndian 32 sellToken.toNat ++ bigEndian 32 sellAmount.toNat ++
    bigEndian 32 nativeToken.toNat ++ bigEndian 32 spardose.toNat

end

/-! ## Encoded trades -/

def signatureScheme : Signature → SigningScheme
  | .eip712 _ => .eip712
  | .ethSign _ => .ethSign
  | .eip1271 _ => .eip1271
  | .preSign => .preSign

def ecdsaBytes (signature : EcdsaSignature) : List UInt8 :=
  bigEndian 32 signature.r.toNat ++ bigEndian 32 signature.s.toNat ++ [signature.v]

def encodeForSettlement (signature : Signature) (owner : Address) : List UInt8 :=
  match signature with
  | .eip712 signature | .ethSign signature => ecdsaBytes signature
  | .eip1271 bytes => bigEndian 20 owner.toNat ++ bytes
  | .preSign => bigEndian 20 owner.toNat

def orderFlags (order : OrderData) (signature : Signature) : U256 :=
  let kind : BitVec 8 := match order.kind with
    | .sell => 0b0
    | .buy => 0b1
  let fill : BitVec 8 := if order.partiallyFillable then 1 else 0
  let sellTokenBalance : BitVec 8 := match order.sellTokenBalance with
    | .erc20 => 0b00
    | .external => 0b10
    | .internal => 0b11
  let buyTokenBalance : BitVec 8 := match order.buyTokenBalance with
    | .erc20 => 0b0
    | .internal => 0b1
  let scheme : BitVec 8 := match signatureScheme signature with
    | .eip712 => 0b00
    | .ethSign => 0b01
    | .eip1271 => 0b10
    | .preSign => 0b11
  (kind ||| fill <<< 1 ||| sellTokenBalance <<< 2 ||| buyTokenBalance <<< 4 |||
    scheme <<< 5).setWidth 256

def encodeTrade (order : OrderData) (signature : Signature) (owner : Address)
    (sellTokenIndex buyTokenIndex : Nat) (executedAmount : U256) :
    GPv2Settlement.Trade where
  sellTokenIndex := sellTokenIndex
  buyTokenIndex := buyTokenIndex
  receiver := order.receiver.getD 0
  sellAmount := order.sellAmount
  buyAmount := order.buyAmount
  validTo := order.validTo
  appData := order.appData
  feeAmount := order.feeAmount
  flags := orderFlags order signature
  executedAmount := executedAmount
  signature := encodeForSettlement signature owner

def tokenIndex (tokens : List Address) (token : Address) : Option Nat :=
  tokens.findIdx? (· = token)

/-! ## The order of the trader -/

section

variable (query) (verification) (outAmount : U256)

def fakeOrder : OrderData where
  sellToken := query.sellToken
  sellAmount := match query.kind with
    | .sell => query.inAmount
    | .buy => max outAmount (BitVec.ofNat 256 (2 ^ 128 - 1))
  buyToken := query.buyToken
  buyAmount := match query.kind with
    | .sell => 0
    | .buy => query.inAmount
  receiver := some verification.receiver
  validTo := BitVec.allOnes 32
  appData := 0
  feeAmount := 0
  kind := query.kind
  partiallyFillable := false
  sellTokenBalance := verification.sellTokenSource
  buyTokenBalance := verification.buyTokenDestination

def encodeFakeTrade (tokens : List Address) : Outcome EncodeError GPv2Settlement.Trade := do
  let sellTokenIndex ←
    .okOr .missingSellToken (tokenIndex tokens query.sellToken)
  let buyTokenIndex ← .okOr .missingBuyToken (tokenIndex tokens query.buyToken)
  return encodeTrade (fakeOrder query verification outAmount) (.eip1271 [])
    verification.sender sellTokenIndex buyTokenIndex query.inAmount

end

/-! ## The orders of the solver -/

section

variable (crypto) (domainSeparator)

def recover (signature : Signature) (structHash : U256) : Outcome EncodeError (Option Address) :=
  match signature with
  | .eip712 signature => do
    let signer ← .okOr .ecdsaRecovery
      (crypto.recoverAddressFromPrehash signature
        (crypto.hashedEip712Message domainSeparator structHash))
    return some signer
  | .ethSign signature => do
    let signer ← .okOr .ecdsaRecovery
      (crypto.recoverAddressFromPrehash signature
        (crypto.hashedEthsignMessage domainSeparator structHash))
    return some signer
  | _ => .ok none

def splitAt {ε : Type} (bytes : List UInt8) (position : Nat) :
    Outcome ε (List UInt8 × List UInt8) :=
  if position ≤ bytes.length then .ok (bytes.take position, bytes.drop position)
  else .panic (.explicit "mid > len")

def JitOrder.orderData (order : JitOrder) : OrderData where
  sellToken := order.sellToken
  buyToken := order.buyToken
  receiver := some order.receiver
  sellAmount := order.sellAmount
  buyAmount := order.buyAmount
  validTo := order.validTo
  appData := order.appData
  feeAmount := 0
  kind := match order.side with
    | .buy => .buy
    | .sell => .sell
  partiallyFillable := order.partiallyFillable
  sellTokenBalance := order.sellTokenSource
  buyTokenBalance := order.buyTokenDestination

def recoverEcdsaOwner (order : JitOrder) : Outcome EncodeError (Address × Signature) := do
  let signature ← (Signature.fromBytes order.signingScheme
    order.signature).mapError .signature
  let recovered ← recover crypto domainSeparator signature
    (order.orderData.hashStruct crypto)
  let owner ← .okOr .missingOwner recovered
  return (owner, signature)

def recoverJitOrderOwner (order : JitOrder) : Outcome EncodeError (Address × Signature) :=
  match order.signingScheme with
  | .eip1271 => do
    let (owner, bytes) ← splitAt order.signature 20
    let owner ← addressFromSlice owner
    let signature ← (Signature.fromBytes .eip1271 bytes).mapError .signature
    return (owner, signature)
  | .preSign => do
    let owner ← addressFromSlice order.signature
    let signature ← (Signature.fromBytes .preSign []).mapError .signature
    return (owner, signature)
  | .eip712 | .ethSign => recoverEcdsaOwner crypto domainSeparator order

def encodeJitOrder (tokens : List Address) (order : JitOrder) :
    Outcome EncodeError GPv2Settlement.Trade := do
  let (owner, signature) ← recoverJitOrderOwner crypto domainSeparator order
  let sellTokenIndex ←
    .okOr .missingJitSellToken (tokenIndex tokens order.sellToken)
  let buyTokenIndex ←
    .okOr .missingJitBuyToken (tokenIndex tokens order.buyToken)
  return encodeTrade order.orderData signature owner sellTokenIndex buyTokenIndex
    order.executedAmount

def encodeJitOrders (jitOrders : List JitOrder) (tokens : List Address) :
    Outcome EncodeError (List GPv2Settlement.Trade) :=
  jitOrders.mapM (encodeJitOrder crypto domainSeparator tokens)

end

/-! ## The settlement -/

section

variable (crypto) (query)

def tradeInteractions (trade : TradeKind Interaction JitOrder) (outAmount : U256)
    (nativeToken : Address) : List Interaction :=
  if query.buyToken = buyEthAddress then
    let buyAmount := match query.kind with
      | .sell => outAmount
      | .buy => query.inAmount
    trade.interactions ++ [⟨nativeToken, 0, withdrawCall crypto buyAmount⟩]
  else trade.interactions

section

variable (verification) (trade : TradeKind Interaction JitOrder)

def tradeSetupInteraction (outAmount : U256) (nativeToken settlement : Address) : Interaction where
  target := trade.solver
  value := 0
  callData := ensureTradePreconditionsCall crypto verification.sender settlement query.sellToken
    (match query.kind with
      | .sell => query.inAmount
      | .buy => outAmount)
    nativeToken spardose

/-- A legacy trade has no orders of the solver. -/
def encodeSettlement (tokens : List Address)
    (clearingPrices : List U256) (outAmount : U256) (nativeToken : Address)
    (domainSeparator : DomainSeparator) (settlement : Address) :
    Outcome EncodeError EncodedSettlement := do
  let fakeTrade ← encodeFakeTrade query verification outAmount tokens
  let jitTrades ←
    encodeJitOrders crypto domainSeparator trade.jitOrders tokens
  return {
    tokens
    clearingPrices
    trades := fakeTrade :: jitTrades
    preInteractions := verification.preInteractions ++ trade.preInteractions ++
      [tradeSetupInteraction crypto query verification trade outAmount
        nativeToken settlement]
    interactions := tradeInteractions crypto query trade outAmount nativeToken
    postInteractions := verification.postInteractions }

end

end

/-! ## When it is safe -/

/-- A signature that carries an owner is long enough. -/
def JitOrder.HasOwnerBytes (order : JitOrder) : Prop :=
  match order.signingScheme with
  | .eip1271 => 20 ≤ order.signature.length
  | .preSign => order.signature.length = 20
  | .eip712 | .ethSign => True

section

variable (crypto) (domainSeparator) (order : JitOrder)

def JitOrder.signedMessage (order : JitOrder) : U256 :=
  match order.signingScheme with
  | .ethSign => crypto.hashedEthsignMessage domainSeparator (order.orderData.hashStruct crypto)
  | _ => crypto.hashedEip712Message domainSeparator (order.orderData.hashStruct crypto)

/-- The owner can be found out. -/
def JitOrder.HasOwner : Prop :=
  match order.signingScheme with
  | .eip1271 => 20 ≤ order.signature.length
  | .preSign => order.signature.length = 20
  | _ => order.signature.length = 65 ∧
      ∃ signature, EcdsaSignature.fromBytes order.signature = .ok signature ∧
        (crypto.recoverAddressFromPrehash signature
          (order.signedMessage crypto domainSeparator)).isSome

/-- The owner and both tokens are known. -/
def JitOrder.Encodable (tokens : List Address) : Prop :=
  order.HasOwner crypto domainSeparator ∧ order.sellToken ∈ tokens ∧ order.buyToken ∈ tokens

end

section

variable {order : JitOrder} {tokens : List Address} {token : Address} {bytes : List UInt8}

/-! ### Single orders -/

theorem tokenIndex_eq_some {index : Nat} (found : tokenIndex tokens token = some index) :
    tokens[index]? = some token := by
  obtain ⟨inside, same, _⟩ := List.findIdx?_eq_some_iff_getElem.mp found
  rw [List.getElem?_eq_getElem inside, of_decide_eq_true same]

theorem exists_tokenIndex_iff :
    (∃ index, tokenIndex tokens token = some index) ↔ token ∈ tokens := by
  rw [← Option.isSome_iff_exists, tokenIndex]
  simp

theorem noPanic_ecdsaFromBytes (length : bytes.length = 65) :
    (EcdsaSignature.fromBytes bytes).NoPanic := by
  unfold EcdsaSignature.fromBytes
  rw [index_of_lt (by omega), ok_bind]
  split
  · simp
  · split <;> simp

theorem noPanic_recover {signature : Signature} {structHash : U256} :
    (recover crypto domainSeparator signature structHash).NoPanic := by
  cases signature with
  | eip712 signature | ethSign signature => exact (noPanic_okOr _ _).seq (by simp)
  | eip1271 bytes | preSign => simp [recover]

theorem noPanic_fromBytes {scheme : SigningScheme} :
    (Signature.fromBytes scheme bytes).NoPanic := by
  have ecdsa (wrap : EcdsaSignature → Signature) :
      (rejectIf (bytes.length ≠ 65) SignatureError.ecdsaLength >>=
        fun _ => EcdsaSignature.fromBytes bytes >>= fun signature =>
          .ok (wrap signature)).NoPanic := by
    apply (noPanic_rejectIf _ _).bind
    intro _ checked
    have length : bytes.length = 65 := by
      simpa using rejectIf_eq_ok_iff.mp checked
    exact (noPanic_ecdsaFromBytes length).seq (by simp)
  cases scheme with
  | eip712 => exact ecdsa .eip712
  | ethSign => exact ecdsa .ethSign
  | eip1271 => simp [Signature.fromBytes]
  | preSign => exact (noPanic_rejectIf _ _).seq (by simp)

theorem noPanic_recoverEcdsaOwner : (recoverEcdsaOwner crypto domainSeparator order).NoPanic := by
  apply (noPanic_mapError_iff.mpr noPanic_fromBytes).seq
  intro _
  apply noPanic_recover.seq
  intro _
  exact (noPanic_okOr _ _).seq (by simp)

theorem noPanic_recoverJitOrderOwner_iff :
    (recoverJitOrderOwner crypto domainSeparator order).NoPanic ↔
      order.HasOwnerBytes := by
  unfold recoverJitOrderOwner JitOrder.HasOwnerBytes
  cases order.signingScheme with
  | eip712 | ethSign => simp [noPanic_recoverEcdsaOwner]
  | eip1271 =>
    by_cases long : 20 ≤ order.signature.length
    · simp [splitAt, long, addressFromSlice, Signature.fromBytes]
    · simp [splitAt, long]
  | preSign =>
    by_cases length : order.signature.length = 20
    · simp [addressFromSlice, length, Signature.fromBytes, rejectIf]
    · simp [addressFromSlice, length]

theorem noPanic_encodeJitOrder_iff : (encodeJitOrder crypto domainSeparator tokens order).NoPanic ↔
      order.HasOwnerBytes := by
  rw [← noPanic_recoverJitOrderOwner_iff]
  unfold encodeJitOrder
  constructor
  · intro safe reason failed
    exact safe reason (by rw [failed, panic_bind])
  · intro safe
    apply safe.seq
    intro (_, _)
    apply (noPanic_okOr _ _).seq
    intro _
    exact (noPanic_okOr _ _).seq (by simp)

theorem exists_recoverEcdsaOwner_iff (wrap : EcdsaSignature → Signature) {message : U256}
    (read : Signature.fromBytes order.signingScheme order.signature =
      rejectIf (order.signature.length ≠ 65) SignatureError.ecdsaLength >>=
        fun _ => EcdsaSignature.fromBytes order.signature >>= fun signature =>
          .ok (wrap signature))
    (signed : ∀ signature, recover crypto domainSeparator (wrap signature)
        (order.orderData.hashStruct crypto) =
      okOr .ecdsaRecovery (crypto.recoverAddressFromPrehash signature message) >>=
        fun signer => .ok (some signer)) :
    (∃ owner, recoverEcdsaOwner crypto domainSeparator order = .ok owner) ↔
      order.signature.length = 65 ∧
        ∃ signature, EcdsaSignature.fromBytes order.signature = .ok signature ∧
          (crypto.recoverAddressFromPrehash signature message).isSome := by
  simp only [recoverEcdsaOwner, read, bind_eq_ok_iff,
    mapError_eq_ok_iff, rejectIf_eq_ok_iff, not_not, ok.injEq]
  constructor
  · rintro ⟨_, _, ⟨_, length, signature, parsed, rfl⟩, _, success, _⟩
    simp only [signed, bind_eq_ok_iff, okOr_eq_ok_iff] at success
    obtain ⟨signer, found, _⟩ := success
    exact ⟨length, signature, parsed, by rw [found, Option.isSome_some]⟩
  · rintro ⟨length, signature, parsed, found⟩
    obtain ⟨signer, found⟩ := Option.isSome_iff_exists.mp found
    refine ⟨(signer, wrap signature), wrap signature,
      ⟨(), length, signature, parsed, rfl⟩, some signer, ?_, signer, rfl, rfl⟩
    simp [signed, found]

theorem exists_recoverJitOrderOwner_iff :
    (∃ owner, recoverJitOrderOwner crypto domainSeparator order = .ok owner) ↔
      order.HasOwner crypto domainSeparator := by
  unfold recoverJitOrderOwner JitOrder.HasOwner JitOrder.signedMessage
  cases scheme : order.signingScheme with
  | eip712 =>
    apply exists_recoverEcdsaOwner_iff .eip712
    · rw [scheme]
      rfl
    · intro signature
      rfl
  | ethSign =>
    apply exists_recoverEcdsaOwner_iff .ethSign
    · rw [scheme]
      rfl
    · intro signature
      rfl
  | eip1271 =>
    by_cases long : 20 ≤ order.signature.length
    · simp [splitAt, long, addressFromSlice, Signature.fromBytes, mapError]
    · simp [splitAt, long]
  | preSign =>
    by_cases length : order.signature.length = 20
    · simp [addressFromSlice, length, Signature.fromBytes, mapError, rejectIf]
    · simp [addressFromSlice, length]

theorem exists_encodeJitOrder_iff :
    (∃ trade, encodeJitOrder crypto domainSeparator tokens order = .ok trade) ↔
      order.Encodable crypto domainSeparator tokens := by
  unfold JitOrder.Encodable
  rw [← exists_recoverJitOrderOwner_iff, ← exists_tokenIndex_iff, ← exists_tokenIndex_iff]
  simp only [encodeJitOrder, bind_eq_ok_iff, okOr_eq_ok_iff]
  constructor
  · rintro ⟨_, owner, recovered, sellIndex, sellFound, buyIndex, buyFound, _⟩
    exact ⟨⟨owner, recovered⟩, ⟨sellIndex, sellFound⟩, ⟨buyIndex, buyFound⟩⟩
  · rintro ⟨⟨owner, recovered⟩, ⟨sellIndex, sellFound⟩, ⟨buyIndex, buyFound⟩⟩
    exact ⟨_, owner, recovered, sellIndex, sellFound, buyIndex, buyFound, rfl⟩

/-! ### The whole settlement -/

/-- The indices of an encoded trade are those of its tokens. -/
def PointsTo (tokens : List Address) (pair : Address × Address)
    (trade : GPv2Settlement.Trade) : Prop :=
  tokens[trade.sellTokenIndex]? = some pair.1 ∧ tokens[trade.buyTokenIndex]? = some pair.2

variable {outAmount : U256} {trade : GPv2Settlement.Trade}

theorem encodeJitOrder_pointsTo
    (success : encodeJitOrder crypto domainSeparator tokens order = .ok trade) :
    PointsTo tokens (order.sellToken, order.buyToken) trade := by
  simp only [encodeJitOrder, bind_eq_ok_iff, okOr_eq_ok_iff, pure_eq, ok.injEq] at success
  obtain ⟨_, _, _, sellFound, _, buyFound, rfl⟩ := success
  exact ⟨tokenIndex_eq_some sellFound, tokenIndex_eq_some buyFound⟩

theorem encodeFakeTrade_pointsTo
    (success : encodeFakeTrade query verification outAmount tokens = .ok trade) :
    PointsTo tokens (query.sellToken, query.buyToken) trade := by
  simp only [encodeFakeTrade, bind_eq_ok_iff, okOr_eq_ok_iff, pure_eq, ok.injEq] at success
  obtain ⟨_, sellFound, _, buyFound, rfl⟩ := success
  exact ⟨tokenIndex_eq_some sellFound, tokenIndex_eq_some buyFound⟩

theorem noPanic_encodeFakeTrade :
    (encodeFakeTrade query verification outAmount tokens).NoPanic := by
  apply (noPanic_okOr _ _).seq
  intro _
  exact (noPanic_okOr _ _).seq (by simp)

theorem exists_encodeFakeTrade_iff
    (verification : SettlementVerification) (outAmount : U256) :
    (∃ trade, encodeFakeTrade query verification outAmount tokens = .ok trade) ↔
      query.sellToken ∈ tokens ∧ query.buyToken ∈ tokens := by
  rw [← exists_tokenIndex_iff, ← exists_tokenIndex_iff]
  simp only [encodeFakeTrade, bind_eq_ok_iff, okOr_eq_ok_iff]
  constructor
  · rintro ⟨_, sellIndex, sellFound, buyIndex, buyFound, _⟩
    exact ⟨⟨sellIndex, sellFound⟩, ⟨buyIndex, buyFound⟩⟩
  · rintro ⟨⟨sellIndex, sellFound⟩, ⟨buyIndex, buyFound⟩⟩
    exact ⟨_, sellIndex, sellFound, buyIndex, buyFound, rfl⟩

end

def tokenPairs (query : PriceQuery) (trade : TradeKind Interaction JitOrder) :
    List (Address × Address) :=
  (query.sellToken, query.buyToken) ::
    trade.jitOrders.map fun order => (order.sellToken, order.buyToken)

/-- Every order that is reached has enough bytes for its owner. -/
def OwnersInReach (crypto : Crypto) (domainSeparator : DomainSeparator)
    (query : PriceQuery) (trade : TradeKind Interaction JitOrder) (tokens : List Address) : Prop :=
  query.sellToken ∈ tokens ∧ query.buyToken ∈ tokens →
    ∀ earlier order later, trade.jitOrders = earlier ++ order :: later →
      (∀ other ∈ earlier, other.Encodable crypto domainSeparator tokens) → order.HasOwnerBytes

theorem encodeSettlement_safe_iff (crypto : Crypto) (query : PriceQuery)
    (verification : SettlementVerification)
    (trade : TradeKind Interaction JitOrder) (tokens : List Address)
    (clearingPrices : List U256) (outAmount : U256) (nativeToken : Address)
    (domainSeparator : DomainSeparator) (settlement : Address) :
    ((encodeSettlement crypto query verification trade tokens clearingPrices
          outAmount nativeToken domainSeparator settlement).NoPanic ∧
        ∀ encoded, encodeSettlement crypto query verification trade tokens
            clearingPrices outAmount nativeToken domainSeparator settlement = .ok encoded →
          List.Forall₂ (PointsTo encoded.tokens) (tokenPairs query trade) encoded.trades) ↔
      OwnersInReach crypto domainSeparator query trade tokens := by
  have indices : ∀ encoded, encodeSettlement crypto query verification trade
      tokens clearingPrices outAmount nativeToken domainSeparator settlement = .ok encoded →
      List.Forall₂ (PointsTo encoded.tokens) (tokenPairs query trade)
        encoded.trades := by
    intro encoded success
    simp only [encodeSettlement, bind_eq_ok_iff, pure_eq, ok.injEq] at success
    obtain ⟨fakeTrade, fake, _, jits, rfl⟩ := success
    refine .cons (encodeFakeTrade_pointsTo fake) ?_
    rw [List.forall₂_map_left_iff]
    exact (mapM_eq_ok_iff.mp jits).imp fun _ _ success => encodeJitOrder_pointsTo success
  have orders : (encodeJitOrders crypto domainSeparator trade.jitOrders tokens).NoPanic ↔
        ∀ earlier order later, trade.jitOrders = earlier ++ order :: later →
          (∀ other ∈ earlier, other.Encodable crypto domainSeparator tokens) →
            order.HasOwnerBytes := by
    unfold encodeJitOrders
    rw [noPanic_mapM_iff]
    simp only [exists_encodeJitOrder_iff, noPanic_encodeJitOrder_iff]
  rw [and_iff_left indices]
  unfold OwnersInReach encodeSettlement
  rw [← exists_encodeFakeTrade_iff verification outAmount, ← orders]
  constructor
  · rintro safe ⟨fakeTrade, fake⟩
    rw [fake] at safe
    exact noPanic_bind_ok_iff.mp safe
  · intro safe
    apply noPanic_encodeFakeTrade.bind
    intro fakeTrade fake
    exact noPanic_bind_ok_iff.mpr (safe ⟨fakeTrade, fake⟩)

def unsignedOrder : JitOrder where
  buyToken := 2
  sellToken := 1
  sellAmount := 10
  buyAmount := 10
  executedAmount := 10
  receiver := 0
  validTo := 0
  appData := 0
  side := .sell
  partiallyFillable := false
  sellTokenSource := .erc20
  buyTokenDestination := .erc20
  signature := []
  signingScheme := .eip1271

theorem encodeSettlement_panics_without_owner : ¬ (encodeSettlement ⟨fun _ => 0, fun _ _ => none⟩
        ⟨1, 2, .sell, 10, by decide⟩ ⟨⟨3, 3⟩, [], [], .erc20, .erc20⟩
        (.regular ⟨⟨[(1, 1), (2, 1)], by decide⟩, [], [], 4, [unsignedOrder]⟩)
        [1, 2] [1, 1] 10 5 0 6).NoPanic := by
  intro safe
  exact safe (.explicit "mid > len") rfl

end MandateSolver.PriceEstimation
