import MandateSolver.Eth
import MandateSolver.Foundation.Bytes

/-!
# Calls of the settlement contract

How a call becomes bytes is left to a coder, of which only that it reads back what it wrote
is known.
-/

namespace MandateSolver.GPv2Settlement

/-- The tokens of a trade are positions in the list of tokens. -/
structure Trade where
  (sellTokenIndex buyTokenIndex : Nat)
  receiver : Address
  (sellAmount buyAmount : U256)
  validTo : U32
  (appData feeAmount flags executedAmount : U256)
  signature : List UInt8

structure Interaction where
  target : Address
  value : U256
  callData : List UInt8
  deriving DecidableEq

/-- The arguments of `settle`. -/
structure SettleCall where
  tokens : List Address
  clearingPrices : List U256
  trades : List Trade
  (preInteractions interactions postInteractions : List Interaction)

/-- The ABI of `settle`. -/
structure Coder where
  selector : List UInt8
  encode : SettleCall → List UInt8
  decode : List UInt8 → Option SettleCall
  decode_encode : ∀ call, decode (encode call) = some call
  starts_with : ∀ call, selector.isPrefixOf (encode call)

/-! ## A coder -/

section

open Codec

def addressCodec : Codec Address := bits 20

def u256Codec : Codec U256 := bits 32

def bytesCodec : Codec (List UInt8) :=
  list ((bits 1).map (fun value => UInt8.ofBitVec value) UInt8.toBitVec fun _ => rfl)

def tradeCodec : Codec Trade :=
  (pair nat <| pair nat <| pair addressCodec <| pair u256Codec <| pair u256Codec <|
    pair (bits 4) <| pair u256Codec <| pair u256Codec <| pair u256Codec <|
    pair u256Codec bytesCodec).map
  (fun (sellTokenIndex, buyTokenIndex, receiver, sellAmount, buyAmount, validTo,
      appData, feeAmount, flags, executedAmount, signature) =>
    { sellTokenIndex, buyTokenIndex, receiver, sellAmount, buyAmount, validTo,
      appData, feeAmount, flags, executedAmount, signature })
  (fun trade => (trade.sellTokenIndex, trade.buyTokenIndex, trade.receiver,
    trade.sellAmount, trade.buyAmount, trade.validTo, trade.appData, trade.feeAmount,
    trade.flags, trade.executedAmount, trade.signature))
  fun _ => rfl

def interactionCodec : Codec Interaction :=
  (pair addressCodec <| pair u256Codec bytesCodec).map
    (fun (target, value, callData) => { target, value, callData })
    (fun interaction => (interaction.target, interaction.value, interaction.callData))
    fun _ => rfl

def settleCallCodec : Codec SettleCall :=
  (pair (list addressCodec) <| pair (list u256Codec) <| pair (list tradeCodec) <|
    pair (list interactionCodec) <| pair (list interactionCodec) (list interactionCodec)).map
    (fun (tokens, clearingPrices, trades, preInteractions, interactions, postInteractions) =>
      { tokens, clearingPrices, trades, preInteractions, interactions,
        postInteractions })
    (fun call => (call.tokens, call.clearingPrices, call.trades, call.preInteractions,
      call.interactions, call.postInteractions))
    fun _ => rfl

def sequentialCoder : Coder where
  selector := [0x13, 0xd7, 0x9a, 0x0b]
  encode call := [0x13, 0xd7, 0x9a, 0x0b] ++ settleCallCodec.encode call
  decode bytes := (settleCallCodec.decode (bytes.drop 4)).map Prod.fst
  decode_encode call := by
    have decoded := settleCallCodec.decode_encode call []
    rw [List.append_nil] at decoded
    simp [decoded]
  starts_with _ := rfl

end

end MandateSolver.GPv2Settlement
