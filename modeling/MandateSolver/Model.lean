import MandateSolver.Foundation.Bytes
import MandateSolver.WinnerSelection.Scoring

/-!
# Signed orders and cancellations

The fields of an order that its owner signs, how a signature is read from bytes and how the
owner is found from it.  Hashing and recovery are parameters.
-/

namespace MandateSolver.Model

open Bytes

abbrev DomainSeparator := U256

inductive SigningScheme where
  | eip712
  | ethSign
  | eip1271
  | preSign
  deriving DecidableEq

/-- A signature in its parts. -/
structure EcdsaSignature where
  (r s : U256)
  v : UInt8
  deriving DecidableEq

/-- A signature by its scheme. -/
inductive Signature where
  | eip712 (signature : EcdsaSignature)
  | ethSign (signature : EcdsaSignature)
  | eip1271 (bytes : List UInt8)
  | preSign
  deriving DecidableEq

inductive SignatureError where
  | ecdsaLength
  | recoveryValue (v : UInt8)
  | preSignLength
  | recoverOwner
  deriving DecidableEq

/-- Functions that are not part of the repository. -/
structure Crypto where
  keccak256 : List UInt8 → U256
  recoverAddressFromPrehash : EcdsaSignature → U256 → Option Address

namespace Crypto

variable (crypto : Crypto) (domainSeparator : DomainSeparator) (structHash : U256)

def hashedEip712Message : U256 :=
  crypto.keccak256 ([0x19, 0x01] ++ bigEndian 32 domainSeparator.toNat ++
    bigEndian 32 structHash.toNat)

def hashedEthsignMessage : U256 :=
  crypto.keccak256
    ("\x19Ethereum Signed Message:\n32".toList.map (fun char => UInt8.ofNat char.toNat) ++
      bigEndian 32 (crypto.hashedEip712Message domainSeparator structHash).toNat)

end Crypto

/-- The last byte is normalised to the values the contract expects. -/
def EcdsaSignature.fromBytes (bytes : List UInt8) : Outcome SignatureError EcdsaSignature := do
  let v ← .index bytes 64
  let normalized ← if v = 0 ∨ v = 27 then .ok 27
    else if v = 1 ∨ v = 28 then .ok 28
    else .err (.recoveryValue v)
  return {
    r := BitVec.ofNat 256 (ofBigEndian (bytes.take 32))
    s := BitVec.ofNat 256 (ofBigEndian ((bytes.drop 32).take 32))
    v := normalized }

def addressFromSlice {ε : Type} (bytes : List UInt8) : Outcome ε Address :=
  if bytes.length = 20 then .ok (BitVec.ofNat 160 (ofBigEndian bytes))
  else .panic (.assertion "length of the slice")

namespace Signature

def fromBytes (scheme : SigningScheme) (bytes : List UInt8) : Outcome SignatureError Signature :=
  match scheme with
  | .eip712 => do
    .rejectIf (bytes.length ≠ 65) .ecdsaLength
    let signature ← EcdsaSignature.fromBytes bytes
    return .eip712 signature
  | .ethSign => do
    .rejectIf (bytes.length ≠ 65) .ecdsaLength
    let signature ← EcdsaSignature.fromBytes bytes
    return .ethSign signature
  | .eip1271 => .ok (.eip1271 bytes)
  | .preSign => do
    .rejectIf (¬ (bytes = [] ∨ bytes.length = 20)) .preSignLength
    return .preSign

def recoverOwner (crypto : Crypto) (signature : Signature) (bytes : List UInt8)
    (domainSeparator : DomainSeparator) (structHash : U256) : Outcome SignatureError Address :=
  match signature with
  | .eip712 signature => .okOr .recoverOwner (crypto.recoverAddressFromPrehash signature
        (crypto.hashedEip712Message domainSeparator structHash))
  | .ethSign signature => .okOr .recoverOwner (crypto.recoverAddressFromPrehash signature
        (crypto.hashedEthsignMessage domainSeparator structHash))
  | .eip1271 _ =>
    if 20 ≤ bytes.length then addressFromSlice (bytes.take 20)
    else .panic .indexOutOfBounds
  | .preSign => addressFromSlice bytes

end Signature

theorem addressFromSlice_bigEndian {ε : Type} (address : Address) :
    (addressFromSlice (bigEndian 20 address.toNat) : Outcome ε Address) = .ok address := by
  rw [addressFromSlice, if_pos (length_bigEndian _ _)]
  exact congrArg Outcome.ok (ofNat_ofBigEndian 20 address)

/-! ## Orders -/

open WinnerSelection (OrderUid)

inductive OrderKind where
  | buy
  | sell
  deriving DecidableEq

inductive SellTokenSource where
  | erc20
  | internal
  | external
  deriving DecidableEq

inductive BuyTokenDestination where
  | erc20
  | internal
  deriving DecidableEq

def OrderKind.hash : OrderKind → Nat
  | .buy => 0x6ed88e868af0a1983e3886d5f3e95a2fafbd6c3450bc229e27342283dc429ccc
  | .sell => 0xf3b277728b3fee749481eb3e0b3b48980dbbab78658fc419025cb16eee346775

def SellTokenSource.asBytes : SellTokenSource → List UInt8
  | .erc20 => bigEndian 32 0x5a28e9363bb942b639270062aa6bb295f434bcdfc42c97267bf003f272060dc9
  | .external => bigEndian 32 0xabee3b73373acd583a130924aad6dc38cfdc44ba0555ba94ce2ff63980ea0632
  | .internal => bigEndian 32 0x4ac99ace14ee0a5ef932dc609df0943ab7ac16b7583634612f8dc35a4289a6ce

def BuyTokenDestination.asBytes : BuyTokenDestination → List UInt8
  | .erc20 => bigEndian 32 0x5a28e9363bb942b639270062aa6bb295f434bcdfc42c97267bf003f272060dc9
  | .internal => bigEndian 32 0x4ac99ace14ee0a5ef932dc609df0943ab7ac16b7583634612f8dc35a4289a6ce

/-- The signed part of an order. -/
structure OrderData where
  (sellToken buyToken : Address)
  receiver : Option Address
  (sellAmount buyAmount : U256)
  validTo : U32
  (appData feeAmount : U256)
  kind : OrderKind
  partiallyFillable : Bool
  sellTokenBalance : SellTokenSource
  buyTokenBalance : BuyTokenDestination

namespace OrderData

def typeHash : Nat :=
  0xd5a25ba2e97094ad7d83dc28a6572da797d6b3e7fc6663bd93efb789fc17e489

/-- All values are extended to 256 bits. -/
def hashStruct (crypto : Crypto) (order : OrderData) : U256 :=
  crypto.keccak256 <| bigEndian 32 typeHash ++ bigEndian 32 order.sellToken.toNat ++
    bigEndian 32 order.buyToken.toNat ++
    bigEndian 32 (order.receiver.getD 0).toNat ++
    bigEndian 32 order.sellAmount.toNat ++
    bigEndian 32 order.buyAmount.toNat ++
    bigEndian 32 order.validTo.toNat ++
    bigEndian 32 order.appData.toNat ++
    bigEndian 32 order.feeAmount.toNat ++
    bigEndian 32 order.kind.hash ++
    bigEndian 32 order.partiallyFillable.toNat ++
    order.sellTokenBalance.asBytes ++
    order.buyTokenBalance.asBytes

/-- Digest, owner and expiry. -/
def uid (crypto : Crypto) (order : OrderData) (domain : DomainSeparator)
    (owner : Address) : OrderUid where
  digest := crypto.hashedEip712Message domain (order.hashStruct crypto)
  owner := owner
  validTo := order.validTo

end OrderData

/-- Whether an order can be traded. -/
inductive OrderStatus where
  | presignaturePending
  | «open»
  | fulfilled
  | cancelled
  | expired
  deriving DecidableEq

/-! ## Cancellations -/

inductive EcdsaSigningScheme where
  | eip712
  | ethSign

def SigningScheme.tryToEcdsaScheme : SigningScheme → Option EcdsaSigningScheme
  | .eip712 => some .eip712
  | .ethSign => some .ethSign
  | .eip1271 | .preSign => none

def SigningScheme.isEcdsaScheme (scheme : SigningScheme) : Bool :=
  scheme.tryToEcdsaScheme.isSome

def Crypto.hashedSigningMessage (crypto : Crypto) (signingScheme : EcdsaSigningScheme)
    (domainSeparator : DomainSeparator) (structHash : U256) : U256 :=
  match signingScheme with
  | .eip712 => crypto.hashedEip712Message domainSeparator structHash
  | .ethSign => crypto.hashedEthsignMessage domainSeparator structHash

def EcdsaSignature.recover (crypto : Crypto) (signature : EcdsaSignature)
    (signingScheme : EcdsaSigningScheme) (domainSeparator : DomainSeparator)
    (structHash : U256) : Option Address :=
  crypto.recoverAddressFromPrehash signature
    (crypto.hashedSigningMessage signingScheme domainSeparator structHash)

def uidBytes (uid : OrderUid) : List UInt8 :=
  bigEndian 32 uid.digest.toNat ++ bigEndian 20 uid.owner.toNat ++ bigEndian 4 uid.validTo.toNat

/-- A signed cancellation of one order. -/
structure OrderCancellation where
  orderUid : OrderUid
  signature : EcdsaSignature
  signingScheme : EcdsaSigningScheme

namespace OrderCancellation

def typeHash : Nat :=
  0x7b41b3a6e2b3cae020a3b2f9cdc997e0d420643957e7fea81747e984e47c88ec

section

variable (crypto : Crypto) (cancellation : OrderCancellation)

def hashStruct : U256 :=
  crypto.keccak256 (bigEndian 32 typeHash ++
    bigEndian 32 (crypto.keccak256 (uidBytes cancellation.orderUid)).toNat)

def validate (domainSeparator : DomainSeparator) : Option Address :=
  cancellation.signature.recover crypto cancellation.signingScheme domainSeparator
    (cancellation.hashStruct crypto)

end

end OrderCancellation

/-- A signed cancellation of many orders. -/
structure SignedOrderCancellations where
  orderUids : List OrderUid
  signature : EcdsaSignature
  signingScheme : EcdsaSigningScheme

namespace SignedOrderCancellations

def typeHash : Nat :=
  0x4c89efb91ae246f78d2fe68b47db2fa1444a121a4f2dc3fda7a5a408c2e3588e

section

variable (crypto : Crypto) (cancellations : SignedOrderCancellations)

/-- The hashes of the identifiers are hashed together. -/
def hashStruct : U256 :=
  let encodedUids := cancellations.orderUids.flatMap fun uid =>
    bigEndian 32 (crypto.keccak256 (uidBytes uid)).toNat
  crypto.keccak256 (bigEndian 32 typeHash ++ bigEndian 32 (crypto.keccak256 encodedUids).toNat)

def validate (domainSeparator : DomainSeparator) : Option Address :=
  cancellations.signature.recover crypto cancellations.signingScheme domainSeparator
    (cancellations.hashStruct crypto)

end

end SignedOrderCancellations

end MandateSolver.Model
