import MandateSolver.GPv2Settlement
import MandateSolver.Foundation.StableSort
import MandateSolver.Driver.WrapperData

/-!
# Encoding of settlements

The list of tokens starts with the uniform clearing prices, and every trade adds two more
entries with its own prices.
-/

namespace MandateSolver.Driver

open Outcome List

open Bytes
open WinnerSelection (MathError ClearingPrices asErc20 nativeToken)

/-! ## Prices -/

def Fulfillment.customPrices {F : Type} (trade : Fulfillment F)
    (prices : ClearingPrices) : Outcome MathError ClearingPrices := do
  let sell ← trade.buyAmount prices
  let buy ← trade.sellAmount prices
  return ⟨sell, buy⟩

/-- For an order that buys the native token its price is added.  The price of the
wrapped token is left out when no order trades that. -/
def Solution.clearingPrices {F ε : Type} (solution : Solution F) : Outcome ε Prices :=
  if solution.userTrades.any fun trade => trade.order.buysEth then do
    let prices := if solution.userTrades.all fun trade =>
        trade.order.sell.token ≠ solution.weth && trade.order.buy.token ≠ solution.weth
      then solution.prices.filter fun token => token ≠ solution.weth
      else solution.prices
    let price ← .expect "no entry found for key" (solution.prices.get solution.weth)
    return prices.insert nativeToken price
  else .ok solution.prices

namespace Encoding

/-- Why a solution cannot be encoded. -/
inductive Error where
  | invalidInteractionExecution (liquidityId : Nat)
  | missingAuctionId
  | invalidClearingPrice (token : TokenAddress)
  | math (error : MathError)
  | flashloanSupportDisabled
  | flashloanWrappersIncompatible

/-- Parts of the flags of a trade. -/
structure Flags where
  side : WinnerSelection.Side
  partiallyFillable : Bool
  signingScheme : Scheme
  sellTokenBalance : SellTokenBalance
  buyTokenBalance : BuyTokenBalance

/-- A trade with indices into the tokens. -/
structure Trade where
  (sellTokenIndex buyTokenIndex : Nat)
  receiver : Address
  (sellAmount buyAmount : U256)
  validTo : U32
  (appData feeAmount : U256)
  flags : Flags
  executedAmount : U256
  signature : List UInt8

/-- Two tokens with their prices. -/
structure Price where
  sellToken : Address
  sellPrice : U256
  buyToken : Address
  buyPrice : U256

/-! ## Contract data -/

def codecFlags (flags : Flags) : U256 :=
  let side : BitVec 8 := match flags.side with
    | .sell => 0b0
    | .buy => 0b1
  let partiallyFillable : BitVec 8 := if flags.partiallyFillable then 1 else 0
  let sellTokenBalance : BitVec 8 := match flags.sellTokenBalance with
    | .erc20 => 0b00
    | .external => 0b10
    | .internal => 0b11
  let buyTokenBalance : BitVec 8 := match flags.buyTokenBalance with
    | .erc20 => 0b0
    | .internal => 0b1
  let signingScheme : BitVec 8 := match flags.signingScheme with
    | .eip712 => 0b00
    | .ethSign => 0b01
    | .eip1271 => 0b10
    | .preSign => 0b11
  (side ||| partiallyFillable <<< 1 ||| sellTokenBalance <<< 2 |||
    buyTokenBalance <<< 4 ||| signingScheme <<< 5).setWidth 256

def codecTrade (trade : Trade) : GPv2Settlement.Trade where
  sellTokenIndex := trade.sellTokenIndex
  buyTokenIndex := trade.buyTokenIndex
  receiver := trade.receiver
  sellAmount := trade.sellAmount
  buyAmount := trade.buyAmount
  validTo := trade.validTo
  appData := trade.appData
  feeAmount := trade.feeAmount
  flags := codecFlags trade.flags
  executedAmount := trade.executedAmount
  signature := trade.signature

def codecInteraction (interaction : EthInteraction) : GPv2Settlement.Interaction where
  target := interaction.target
  value := interaction.value
  callData := interaction.callData

def codecSignature (signature : Signature) : List UInt8 :=
  match signature.scheme with
  | .eip712 | .ethSign => signature.data
  | .eip1271 => bigEndian 20 signature.signer.toNat ++ signature.data
  | .preSign => bigEndian 20 signature.signer.toNat

/-! ## Trades -/

variable {F : Type} {solution : Solution F}

/-- The executed amount of a sell order contains the fee.  Indices are set when
the trade is added. -/
def fulfillmentTrade (trade : Fulfillment F) : Trade where
  sellTokenIndex := 0
  buyTokenIndex := 0
  receiver := trade.order.receiver.getD 0
  sellAmount := trade.order.sell.amount
  buyAmount := trade.order.buy.amount
  validTo := trade.order.validTo
  appData := trade.order.appData.hashValue
  feeAmount := 0
  flags :=
    { side := trade.order.side
      partiallyFillable := match trade.order.fill with
        | .yes _ => true
        | .no => false
      signingScheme := trade.order.signature.scheme
      sellTokenBalance := trade.order.sellTokenBalance
      buyTokenBalance := trade.order.buyTokenBalance }
  executedAmount := match trade.order.side with
    | .sell => trade.executed + trade.feeAmount
    | .buy => trade.executed
  signature := codecSignature trade.order.signature

def jitTrade (trade : Jit) : Trade where
  sellTokenIndex := 0
  buyTokenIndex := 0
  receiver := trade.order.receiver
  sellAmount := trade.order.sell.amount
  buyAmount := trade.order.buy.amount
  validTo := trade.order.validTo
  appData := trade.order.appData
  feeAmount := 0
  flags :=
    { side := trade.order.side
      partiallyFillable := match trade.order.partiallyFillable with
        | .yes _ => true
        | .no => false
      signingScheme := trade.order.signature.scheme
      sellTokenBalance := trade.order.sellTokenBalance
      buyTokenBalance := trade.order.buyTokenBalance }
  executedAmount := trade.executed
  signature := codecSignature trade.order.signature

/-- Orders that a solver brings along are matched at their limit price. -/
def jitPrice (order : JitOrder) : Price where
  sellToken := order.sell.token
  sellPrice := order.buy.amount
  buyToken := order.buy.token
  buyPrice := order.sell.amount

/-- A settlement under construction. -/
structure Draft where
  tokens : List Address
  clearingPrices : List U256
  trades : List Trade
  (preInteractions postInteractions : List EthInteraction)
  nativeUnwrap : U256

def sortedByToken (prices : Prices) : List (TokenAddress × U256) :=
  prices.entries.insertionSort fun left right => left.1 ≤ right.1

def Draft.start (solution : Solution F) (prices : Prices) : Draft :=
  { tokens := (sortedByToken prices).map Prod.fst
    clearingPrices := (sortedByToken prices).map Prod.snd
    trades := []
    preInteractions := solution.preInteractions
    postInteractions := solution.postInteractions
    nativeUnwrap := 0 }

def Draft.push (draft : Draft) (price : Price) (trade : Trade) : Draft :=
  let tokens := draft.tokens ++ [price.sellToken, price.buyToken]
  { draft with
    tokens
    clearingPrices := draft.clearingPrices ++ [price.sellPrice, price.buyPrice]
    trades := draft.trades ++ [{ trade with
      sellTokenIndex := tokens.length - 2
      buyTokenIndex := tokens.length - 1 }] }

def unwrappedAmount (trade : Fulfillment F) (prices : ClearingPrices) : Outcome Error U256 :=
  if trade.order.buysEth then (trade.buyAmount prices).mapError .math else .ok 0

def encodeFulfillment (solution : Solution F) (draft : Draft)
    (trade : Fulfillment F) : Outcome Error Draft := do
  let order := trade.order
  let sell ← .okOr (.invalidClearingPrice order.sell.token)
    (solution.clearingPrice order.sell.token)
  let buy ← .okOr (.invalidClearingPrice order.buy.token)
    (solution.clearingPrice order.buy.token)
  let unwrapped ← unwrappedAmount trade ⟨sell, buy⟩
  let customPrices ← (trade.customPrices ⟨sell, buy⟩).mapError .math
  let draft := { draft with
    preInteractions := draft.preInteractions ++ order.preInteractions
    postInteractions := draft.postInteractions ++ order.postInteractions
    nativeUnwrap := draft.nativeUnwrap + unwrapped }
  return draft.push ⟨order.sell.token, customPrices.sell, order.buy.token, customPrices.buy⟩
    (fulfillmentTrade trade)

def encodeTrade (solution : Solution F) (draft : Draft) : Driver.Trade F → Outcome Error Draft
  | .fulfillment trade => encodeFulfillment solution draft trade
  | .jit trade => .ok (draft.push (jitPrice trade.order) (jitTrade trade))

/-! ## Interactions -/

def approve (allowance : Allowance) : EthInteraction where
  target := allowance.token
  value := 0
  callData := [0x09, 0x5e, 0xa7, 0xb3] ++ List.replicate 12 0 ++
    bigEndian 20 allowance.spender.toNat ++ bigEndian 32 allowance.amount.toNat

/-- Whether internalized interactions are left out. -/
inductive Internalization where
  | enable
  | disable
  deriving DecidableEq

structure LoanRequest where
  amount : U256
  (borrower lender token : Address)

/-- Addresses and codecs of the contracts. -/
structure Contracts where
  (settlement weth : Address)
  flashloanRouter : Option Address
  settle : GPv2Settlement.Coder
  withdraw : U256 → List UInt8
  flashLoanAndSettle : List LoanRequest → List UInt8 → List UInt8
  wrappedSettle : List UInt8 → List UInt8 → List UInt8

def unwrap (contracts : Contracts) (amount : U256) : EthInteraction where
  target := contracts.weth
  value := 0
  callData := contracts.withdraw amount

/-- Slippage and the pools decide on the call of an interaction with liquidity. -/
def interactionCall (liquidityInteraction : Nat → Asset → Asset → Outcome Error EthInteraction) :
    Interaction → Outcome Error EthInteraction
  | .custom target value callData _ _ _ _ => .ok ⟨target, value, callData⟩
  | .liquidity liquidityId input output _ =>
    liquidityInteraction liquidityId input output

def skips (internalization : Internalization) (interaction : Interaction) : Bool :=
  internalization = .enable && match interaction with
    | .custom _ _ _ _ _ _ internalize | .liquidity _ _ _ internalize => internalize

/-! ## Transactions -/

/-- A transaction to submit. -/
structure Tx where
  (sender target : Address)
  input : List UInt8
  value : U256

/-- Two's complement. -/
abbrev AuctionId := BitVec 64

section

variable (solution) (contracts : Contracts) (settleCalldata : List UInt8)

def encodeFlashloanSettlement : Outcome Error (Address × List UInt8) := do
  let router ← .okOr .flashloanSupportDisabled contracts.flashloanRouter
  let flashloans := solution.flashloans.entries.map fun (_, flashloan) =>
    (⟨flashloan.amount, flashloan.protocolAdapter, flashloan.liquidityProvider,
      flashloan.token⟩ : LoanRequest)
  return (router, contracts.flashLoanAndSettle flashloans settleCalldata)

def encodeWrapperSettlement : Outcome Error (Address × List UInt8) := do
  let first ← .index solution.wrappers 0
  return (first.address,
    contracts.wrappedSettle settleCalldata (encodeWrapperData solution.wrappers))

end

def tx (contracts : Contracts)
    (liquidityInteraction : Nat → Asset → Asset → Outcome Error EthInteraction)
    (auctionId : Option AuctionId) (solution : Solution F)
    (approvals : List Allowance) (internalization : Internalization)
    (insertUnwraps : Bool) : Outcome Error Tx := do
  let prices ← solution.clearingPrices
  let draft ← solution.trades.foldlM (encodeTrade solution)
    (Draft.start solution prices)
  let interactions ← (solution.interactions.filter fun interaction =>
    !skips internalization interaction).mapM (interactionCall liquidityInteraction)
  let unwraps := if !draft.nativeUnwrap.isZero && insertUnwraps
    then [unwrap contracts draft.nativeUnwrap] else []
  let call : GPv2Settlement.SettleCall :=
    { tokens := draft.tokens
      clearingPrices := draft.clearingPrices
      trades := draft.trades.map codecTrade
      preInteractions := draft.preInteractions.map codecInteraction
      interactions :=
        (approvals.map approve ++ interactions ++ unwraps).map codecInteraction
      postInteractions := draft.postInteractions.map codecInteraction }
  let id ← .okOr .missingAuctionId auctionId
  let settleCalldata := contracts.settle.encode call ++ bigEndian 8 id.toNat
  let (target, input) ←
    if solution.flashloans.entries ≠ [] ∧ solution.wrappers ≠ [] then
      .err .flashloanWrappersIncompatible
    else if solution.flashloans.entries ≠ [] then
      encodeFlashloanSettlement solution contracts settleCalldata
    else if solution.wrappers ≠ [] then
      encodeWrapperSettlement solution contracts settleCalldata
    else .ok (contracts.settlement, settleCalldata)
  return { sender := solution.solver, target, input, value := 0 }

/-! ## What the call contains -/

section

variable {prices : Prices}

def unplaced : Driver.Trade F → Trade
  | .fulfillment trade => fulfillmentTrade trade
  | .jit trade => jitTrade trade

/-- The prices at which a trade is settled. -/
def Priced (solution : Solution F) (trade : Driver.Trade F) (price : Price) : Prop :=
  match trade with
  | .fulfillment trade =>
    price.sellToken = trade.order.sell.token ∧
    price.buyToken = trade.order.buy.token ∧
    ∃ sell buy, solution.clearingPrice trade.order.sell.token = some sell ∧
      solution.clearingPrice trade.order.buy.token = some buy ∧
      trade.customPrices ⟨sell, buy⟩ = .ok ⟨price.sellPrice, price.buyPrice⟩
  | .jit trade => price = jitPrice trade.order

/-- A trade whose indices point to its tokens and prices. -/
structure Placed (solution : Solution F) (tokens : List Address)
    (clearingPrices : List U256) (trade : Driver.Trade F) (price : Price)
    (entry : Trade) : Prop where
  priced : Priced solution trade price
  entry_eq : entry = { unplaced trade with
    sellTokenIndex := entry.sellTokenIndex
    buyTokenIndex := entry.buyTokenIndex }
  sellToken : tokens[entry.sellTokenIndex]? = some price.sellToken
  buyToken : tokens[entry.buyTokenIndex]? = some price.buyToken
  sellPrice : clearingPrices[entry.sellTokenIndex]? = some price.sellPrice
  buyPrice : clearingPrices[entry.buyTokenIndex]? = some price.buyPrice

theorem encodeTrade_eq_push {draft next : Draft} {trade : Driver.Trade F}
    (encoded : encodeTrade solution draft trade = .ok next) :
    ∃ price, Priced solution trade price ∧
      next.tokens = draft.tokens ++ [price.sellToken, price.buyToken] ∧
      next.clearingPrices = draft.clearingPrices ++ [price.sellPrice, price.buyPrice] ∧
      next.trades = draft.trades ++ [{ unplaced trade with
        sellTokenIndex := draft.tokens.length
        buyTokenIndex := draft.tokens.length + 1 }] := by
  cases trade with
  | jit trade =>
    obtain rfl : draft.push (jitPrice trade.order) (jitTrade trade) = next := by
      simpa [encodeTrade] using encoded
    exact ⟨_, rfl, rfl, rfl, by simp [Draft.push, unplaced]⟩
  | fulfillment trade =>
    simp only [encodeTrade, encodeFulfillment, bind_eq_ok_iff,
      okOr_eq_ok_iff, mapError_eq_ok_iff, pure_eq,
      ok.injEq] at encoded
    obtain ⟨sell, sellPrice, buy, buyPrice, _, _, _, customPrices, rfl⟩ := encoded
    exact ⟨_, ⟨rfl, rfl, sell, buy, sellPrice, buyPrice, customPrices⟩, rfl, rfl,
      by simp [Draft.push, unplaced]⟩

theorem foldlM_encodeTrade {trades : List (Driver.Trade F)} {draft final : Draft}
    (aligned : draft.tokens.length = draft.clearingPrices.length)
    (encoded : trades.foldlM (encodeTrade solution) draft = .ok final) :
    final.tokens.length = final.clearingPrices.length ∧
    (∃ tokens, final.tokens = draft.tokens ++ tokens) ∧
    (∃ prices, final.clearingPrices = draft.clearingPrices ++ prices) ∧
    ∃ entries, final.trades = draft.trades ++ entries ∧ List.Forall₂ (fun trade entry => ∃ price,
        Placed solution final.tokens final.clearingPrices trade price entry)
        trades entries := by
  induction trades generalizing draft with
  | nil =>
    obtain rfl : draft = final := by simpa using encoded
    exact ⟨aligned, ⟨[], by simp⟩, ⟨[], by simp⟩, [], by simp, .nil⟩
  | cons trade trades ih =>
    rw [foldlM_cons, bind_eq_ok_iff] at encoded
    obtain ⟨_, stepped, continued⟩ := encoded
    obtain ⟨price, priced, nextTokens, nextPrices, nextTrades⟩ := encodeTrade_eq_push stepped
    obtain ⟨finalAligned, ⟨tokens, finalTokens⟩, ⟨prices, finalPrices⟩, entries,
      finalTrades, placed⟩ := ih (by simp [nextTokens, nextPrices, aligned]) continued
    rw [nextTokens, append_assoc] at finalTokens
    rw [nextPrices, append_assoc] at finalPrices
    rw [nextTrades, append_assoc] at finalTrades
    refine ⟨finalAligned, ⟨_, finalTokens⟩, ⟨_, finalPrices⟩, _, finalTrades,
      .cons ⟨price, priced, rfl, ?_, ?_, ?_, ?_⟩ placed⟩
    · simp [finalTokens]
    · simp [finalTokens]
    · simp [finalPrices, aligned]
    · simp [finalPrices, aligned]

theorem lookup_sortedByToken (prices : Prices) (token : TokenAddress) :
    (sortedByToken prices).lookup token = prices.get token := by
  have permuted : (sortedByToken prices).Perm prices.entries := perm_insertionSort _ _
  have distinct := (permuted.map Prod.fst).nodup_iff.mpr prices.nodup_keys
  apply Option.ext
  intro _
  rw [lookup_eq_some_iff_mem distinct, permuted.mem_iff, EntryMap.get_eq_some_iff]

/-- A token that some user trades has its uniform price.  The native token may
be sold, but only has a price for those who buy it. -/
theorem get_clearingPrices {ε : Type} {token : TokenAddress}
    (computed : (solution.clearingPrices : Outcome ε Prices) = .ok prices)
    (traded : ∃ trade ∈ solution.userTrades,
      trade.order.sell.token = token ∨ trade.order.buy.token = token)
    (bought : token = nativeToken → ∃ trade ∈ solution.userTrades, trade.order.buysEth) :
    prices.get token = solution.clearingPrice token := by
  obtain ⟨trade, mem, sellsOrBuys⟩ := traded
  unfold Solution.clearingPrices at computed
  by_cases buysEth : solution.userTrades.any fun trade => trade.order.buysEth
  · rw [if_pos buysEth] at computed
    simp only [bind_eq_ok_iff, expect_eq_ok_iff, pure_eq, ok.injEq] at computed
    obtain ⟨price, wrapped, rfl⟩ := computed
    by_cases native : token = nativeToken
    · rw [native, EntryMap.get_insert_self, Solution.clearingPrice, asErc20, if_pos rfl, wrapped]
    · rw [EntryMap.get_insert_of_ne native, Solution.clearingPrice, asErc20]
      split
      · -- the price that is left out is for a token that no user trades
        rename_i untouched
        have spared := all_eq_true.mp untouched trade mem
        simp only [ne_eq, Bool.and_eq_true] at spared
        refine EntryMap.get_filter ?_
        rcases sellsOrBuys with rfl | rfl
        · simpa using spared.1
        · simpa using spared.2
      · rfl
  · rw [if_neg buysEth, ok.injEq] at computed
    have notNative : token ≠ nativeToken := by
      intro native
      obtain ⟨buyer, buyerMember, buys⟩ := bought native
      exact buysEth (any_eq_true.mpr ⟨buyer, buyerMember, buys⟩)
    rw [← computed, Solution.clearingPrice, asErc20, if_neg notNative]

variable {contracts : Contracts}
  {liquidityInteraction : Nat → Asset → Asset → Outcome Error EthInteraction}
  {auctionId : Option AuctionId} {approvals : List Allowance}
  {internalization : Internalization} {insertUnwraps : Bool} {transaction : Tx}

/-- Uniform prices come first, sorted, and trades append their own. -/
structure Contents (solution : Solution F) (prices : Prices)
    (call : GPv2Settlement.SettleCall) : Prop where
  computed : (solution.clearingPrices : Outcome Error Prices) = .ok prices
  tokens : ∃ later, call.tokens = (sortedByToken prices).map Prod.fst ++ later
  clearingPrices : ∃ later, call.clearingPrices = (sortedByToken prices).map Prod.snd ++ later
  aligned : call.tokens.length = call.clearingPrices.length
  trades : ∃ entries, call.trades = entries.map codecTrade ∧
    List.Forall₂ (fun trade entry => ∃ price,
      Placed solution call.tokens call.clearingPrices trade price entry)
      solution.trades entries

theorem tx_eq_ok (noFlashloans : solution.flashloans.entries = [])
    (noWrappers : solution.wrappers = [])
    (encoded : tx contracts liquidityInteraction auctionId solution approvals
      internalization insertUnwraps = .ok transaction) :
    ∃ prices call id, Contents solution prices call ∧ auctionId = some id ∧
      transaction.target = contracts.settlement ∧
      transaction.input = contracts.settle.encode call ++ bigEndian 8 id.toNat := by
  simp only [tx, noFlashloans, noWrappers, ne_eq, not_true_eq_false, and_self, if_false,
    ok_bind, bind_eq_ok_iff, okOr_eq_ok_iff, pure_eq,
    ok.injEq] at encoded
  obtain ⟨prices, computed, _, folded, _, _, id, known, rfl⟩ := encoded
  obtain ⟨aligned, tokens, later, entries, trades, placed⟩ :=
    foldlM_encodeTrade (by simp [Draft.start]) folded
  exact ⟨prices, _, id, ⟨computed, tokens, later, aligned, entries,
    congrArg (List.map codecTrade) trades, placed⟩, known, rfl, rfl⟩

theorem Contents.first_price {call : GPv2Settlement.SettleCall}
    {token : Address} (contents : Contents solution prices call) (mem : token ∈ call.tokens) :
    ∃ position price, call.tokens.idxOf? token = some position ∧
      call.clearingPrices[position]? = some price ∧
      ∀ uniform, prices.get token = some uniform → price = uniform := by
  cases found : prices.get token with
  | some uniform =>
    obtain ⟨keys, tokens⟩ := contents.tokens
    obtain ⟨values, clearingPrices⟩ := contents.clearingPrices
    rw [← lookup_sortedByToken] at found
    obtain ⟨position, first, price⟩ := exists_idxOf_of_lookup found keys values
    rw [tokens, clearingPrices]
    exact ⟨position, uniform, first, price, fun _ same => Option.some.inj same⟩
  | none =>
    obtain ⟨position, first⟩ := Option.isSome_iff_exists.mp (isSome_idxOf?.mpr mem)
    obtain ⟨bound, -⟩ := List.idxOf?_eq_some_iff.mp first
    rw [contents.aligned] at bound
    exact ⟨position, _, first, List.getElem?_eq_getElem bound,
      fun _ impossible => by cases impossible⟩

end

end Encoding

end MandateSolver.Driver
