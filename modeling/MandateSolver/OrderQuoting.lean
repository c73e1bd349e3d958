import Mathlib.Logic.Function.Basic
import MandateSolver.OrderValidation.Validator

/-!
# Order quoting

A quote is stored as it was estimated.  Costs are added and amounts are scaled each time
it is read, to the amounts of the order that asks for it.
-/

namespace MandateSolver.OrderQuoting

open BitVec List

open Model (OrderKind)
open OrderValidation (QuoteSigningScheme QuoteSearchParameters Verification FeeParameters F64
  CalculateQuoteError U64)

abbrev NonZeroU256 := { amount : U256 // amount ≠ 0 }

inductive OrderQuoteSide where
  | sellBeforeFee (value : NonZeroU256)
  | sellAfterFee (value : NonZeroU256)
  | buy (buyAmountAfterFee : NonZeroU256)

def OrderQuoteSide.kind : OrderQuoteSide → OrderKind
  | .buy _ => .buy
  | _ => .sell

/-- What a quote is asked for. -/
structure QuoteParameters where
  (sellToken buyToken : Address)
  side : OrderQuoteSide
  verification : Verification
  signingScheme : QuoteSigningScheme
  additionalGas : U64

def QuoteParameters.additionalCost (parameters : QuoteParameters) : U64 :=
  OrderValidation.U64.saturatingAdd parameters.signingScheme.additionalGasAmount
    parameters.additionalGas

/-- The stored part of a quote. -/
structure QuoteData where
  (sellToken buyToken : Address)
  (quotedSellAmount quotedBuyAmount : U256)
  feeParameters : FeeParameters
  kind : OrderKind
  expiration : Int
  deriving DecidableEq

/-- A quote with its amounts. -/
structure Quote where
  id : Option Int
  data : QuoteData
  (sellAmount buyAmount feeAmount : U256)
  deriving DecidableEq

structure Estimate where
  outAmount : U256
  gas : F64
  verified : Bool

/-- How long quotes are kept. -/
structure Validity where
  (eip1271OnchainQuote presignOnchainQuote standardQuote : Int)

/-- The estimators, the balances and the fee are what the quoter gets from others. -/
structure OrderQuoter where
  effectiveGasPrice : Outcome CalculateQuoteError F64
  estimate : QuoteParameters → Outcome CalculateQuoteError Estimate
  estimateNativePrice : Address → Outcome CalculateQuoteError F64
  balance : Verification → Address → Option U256
  enforceWhenPossible : Bool
  validity : Validity
  feeWithAdditionalCost : FeeParameters → U64 → U256

inductive FindQuoteError where
  | notFound (id : Option Int)
  | parameterMismatch (data : QuoteData)
  | expired (expiration : Int)

/-! ## Quotes -/

/-- The product has 512 bits. -/
def QuoteData.scaledBuyAmount (data : QuoteData) (sellAmount : U256) : U256 :=
  let buyAmount := data.quotedBuyAmount.toNat * sellAmount.toNat / data.quotedSellAmount.toNat
  if buyAmount < 2 ^ 256 then BitVec.ofNat 256 buyAmount else U256.max

namespace Quote

variable (fee : FeeParameters → U64 → U256)

def new (id : Option Int) (data : QuoteData) : Quote where
  id
  sellAmount := data.quotedSellAmount
  buyAmount := data.quotedBuyAmount
  feeAmount := fee data.feeParameters 0
  data

def withAdditionalCost (quote : Quote) (additionalCost : U64) : Quote :=
  { quote with feeAmount := fee quote.data.feeParameters additionalCost }

/-- The division panics for a divisor of zero. -/
def withScaledSellAmount {ε : Type} (quote : Quote) (sellAmount : U256) : Outcome ε Quote :=
  if quote.data.quotedSellAmount = 0 then .panic .divisionByZero
  else .ok { quote with sellAmount, buyAmount := quote.data.scaledBuyAmount sellAmount }

end Quote

section

variable (parameters : QuoteSearchParameters) (data : QuoteData)

def amountsMatch : Bool :=
  match parameters.kind with
  | .buy => parameters.buyAmount = data.quotedBuyAmount
  | .sell => parameters.sellAmount = data.quotedSellAmount ∨
    parameters.sellAmount + parameters.feeAmount = data.quotedSellAmount

def searchMatches : Bool :=
  amountsMatch parameters data ∧ (parameters.sellToken, parameters.buyToken, parameters.kind) =
    (data.sellToken, data.buyToken, data.kind)

end

/-! ## Storage -/

/-- The table of quotes, with the id that the next row gets. -/
structure Storage where
  quotes : Int → Option QuoteData
  nextId : Int

/-- What changes the stored quotes. -/
inductive StorageAction where
  | save (data : QuoteData)
  | removeExpiredQuotes (maxExpiry : Int)

namespace Storage

def step (storage : Storage) : StorageAction → Storage
  | .save data =>
    ⟨Function.update storage.quotes storage.nextId (some data), storage.nextId + 1⟩
  | .removeExpiredQuotes maxExpiry =>
    { storage with quotes := fun id =>
        (storage.quotes id).filter fun data => ¬ data.expiration < maxExpiry }

def storeQuote (storage : Storage) (quote : Quote) : Quote × Storage :=
  ({ quote with id := some storage.nextId }, storage.step (.save quote.data))

end Storage

/-! ## Quoting -/

namespace OrderQuoter

variable (quoter : OrderQuoter)

def expiration (now : Int) : QuoteSigningScheme → Int
  | .eip1271 true _ => now + quoter.validity.eip1271OnchainQuote
  | .preSign true => now + quoter.validity.presignOnchainQuote
  | _ => now + quoter.validity.standardQuote

def verifyQuote (estimate : Estimate) (parameters : QuoteParameters) (sellAmount : U256) :
    Outcome CalculateQuoteError Unit :=
  if estimate.verified ∨ ¬ quoter.enforceWhenPossible then .ok () else
    match quoter.balance parameters.verification parameters.sellToken with
    | none => .err .quoteNotVerified
    | some balance => if sellAmount ≤ balance then .err .quoteNotVerified else .ok ()

/-- The estimates run at the same time.  If several fail, the first error in this order is
returned here. -/
def computeQuoteData (now : Int) (parameters : QuoteParameters) :
    Outcome CalculateQuoteError QuoteData := do
  let gasPrice ← quoter.effectiveGasPrice
  let estimate ← quoter.estimate parameters
  let sellTokenPrice ← quoter.estimateNativePrice parameters.sellToken
  let _ ← quoter.estimateNativePrice parameters.buyToken
  let (quotedSellAmount, quotedBuyAmount) := match parameters.side with
    | .sellBeforeFee value | .sellAfterFee value => (value.1, estimate.outAmount)
    | .buy buyAmountAfterFee => (estimate.outAmount, buyAmountAfterFee.1)
  quoter.verifyQuote estimate parameters quotedSellAmount
  return {
    sellToken := parameters.sellToken
    buyToken := parameters.buyToken
    quotedSellAmount
    quotedBuyAmount
    feeParameters := ⟨estimate.gas, gasPrice, sellTokenPrice⟩
    kind := parameters.side.kind
    expiration := quoter.expiration now parameters.signingScheme }

def calculateQuote (now : Int) (parameters : QuoteParameters) :
    Outcome CalculateQuoteError Quote := do
  let data ← quoter.computeQuoteData now parameters
  let quote := (Quote.new quoter.feeWithAdditionalCost none data).withAdditionalCost
    quoter.feeWithAdditionalCost parameters.additionalCost
  match parameters.side with
  | .sellBeforeFee value =>
    let sellAmount := (value.1.checkedSub quote.feeAmount).getD 0
    if sellAmount = 0 then .err (.sellAmountDoesNotCoverFee quote.feeAmount)
    else quote.withScaledSellAmount sellAmount
  | _ => return quote

def getQuote (storage : Storage) (now id : Int) (parameters : QuoteSearchParameters) :
    Outcome FindQuoteError (Int × QuoteData) := do
  let data ← Outcome.okOr (.notFound (some id)) (storage.quotes id)
  if ¬ searchMatches parameters data then .err (.parameterMismatch data)
  else if data.expiration < now then .err (.expired data.expiration)
  else return (id, data)

def findQuote (search : QuoteSearchParameters → Int → Option (Int × QuoteData))
    (storage : Storage) (now : Int) (id : Option Int) (parameters : QuoteSearchParameters) :
    Outcome FindQuoteError Quote := do
  let (id, data) ← match id with
    | some id => getQuote storage now id parameters
    | none => Outcome.okOr (.notFound none) (search parameters now)
  let quote := (Quote.new quoter.feeWithAdditionalCost (some id) data).withAdditionalCost
    quoter.feeWithAdditionalCost parameters.additionalCost
  match parameters.kind with
  | .sell => quote.withScaledSellAmount parameters.sellAmount
  | .buy => return quote

end OrderQuoter

/-! ## Stored quotes reproduce -/

variable {data : QuoteData} {storage : Storage}

/-- A row stays until it has expired. -/
theorem Storage.quotes_foldl_step {actions : List StorageAction}
    {id now : Int} (listed : storage.quotes id = some data)
    (used : id < storage.nextId) (early : now ≤ data.expiration)
    (past : ∀ maxExpiry, .removeExpiredQuotes maxExpiry ∈ actions → maxExpiry ≤ now) :
    (actions.foldl Storage.step storage).quotes id = some data := by
  induction actions generalizing storage with
  | nil => exact listed
  | cons action actions ih =>
    apply ih _ _ fun maxExpiry mem => past maxExpiry (mem_cons_of_mem _ mem)
    · cases action with
      | save other => exact (Function.update_of_ne used.ne _ _).trans listed
      | removeExpiredQuotes maxExpiry =>
        have before := past maxExpiry mem_cons_self
        simpa [step, listed] using before.trans early
    · cases action with
      | save other => exact used.trans (Int.lt_succ _)
      | removeExpiredQuotes maxExpiry => exact used

namespace Storage

def saved : StorageAction → Option QuoteData
  | .save data => some data
  | .removeExpiredQuotes _ => none

/-- Rows are numbered as they were saved. -/
structure Numbered (first : Int) (rows : List QuoteData) (storage : Storage) : Prop where
  next : storage.nextId = first + rows.length
  row : ∀ {id data}, storage.quotes id = some data →
    ∃ row : Nat, id = first + row ∧ rows[row]? = some data

theorem Numbered.step {first : Int} {rows : List QuoteData}
    (numbered : Numbered first rows storage) (action : StorageAction) :
    Numbered first (rows ++ [action].filterMap saved) (storage.step action) := by
  cases action with
  | save data =>
    constructor
    · simp [Storage.step, saved, numbered.next, Int.add_assoc]
    intro id other listed
    by_cases new : id = storage.nextId
    · simp only [Storage.step, new, Function.update_self] at listed
      exact ⟨rows.length, new.trans numbered.next, by simp [saved, listed]⟩
    · simp only [Storage.step, Function.update_of_ne new] at listed
      obtain ⟨row, place, found⟩ := numbered.row listed
      have below := (List.getElem?_eq_some_iff.mp found).1
      exact ⟨row, place, (List.getElem?_append_left below).trans found⟩
  | removeExpiredQuotes maxExpiry =>
    rw [filterMap_cons_none rfl, filterMap_nil, append_nil]
    exact ⟨numbered.next, fun listed => numbered.row (Option.filter_eq_some_iff.mp listed).1⟩

theorem numbered_foldl_step (first : Int) (actions : List StorageAction) :
    Numbered first (actions.filterMap saved) (actions.foldl step ⟨fun _ => none, first⟩) := by
  induction actions using List.reverseRecOn with
  | nil => exact ⟨(Int.add_zero _).symm, fun listed => nomatch listed⟩
  | append_singleton actions action ih =>
    rw [filterMap_append, foldl_append]
    exact ih.step action

end Storage

theorem QuoteData.scaledBuyAmount_self (nonzero : data.quotedSellAmount ≠ 0) :
    data.scaledBuyAmount data.quotedSellAmount = data.quotedBuyAmount := by
  rw [scaledBuyAmount, Nat.mul_div_cancel _ (toNat_pos_of_ne_zero nonzero),
    if_pos data.quotedBuyAmount.isLt, ofNat_toNat, setWidth_eq]

theorem U256.add_of_checkedSub {left right result : U256}
    (subtracted : left.checkedSub right = some result) : result + right = left := by
  have total := U256.checkedSub_eq_some_iff.mp subtracted
  rw [← toNat_inj, toNat_add, Nat.add_comm, ← total]
  exact Nat.mod_eq_of_lt left.isLt

/-- The amounts follow from the stored data and the additional cost. -/
structure Quote.Reproducible (fee : FeeParameters → U64 → U256) (parameters : QuoteParameters)
    (quote : Quote) : Prop where
  sellToken : quote.data.sellToken = parameters.sellToken
  buyToken : quote.data.buyToken = parameters.buyToken
  kind : quote.data.kind = parameters.side.kind
  costs : quote.feeAmount = fee quote.data.feeParameters parameters.additionalCost
  buys : parameters.side.kind = .buy → quote.sellAmount = quote.data.quotedSellAmount ∧
    quote.buyAmount = quote.data.quotedBuyAmount
  sells : parameters.side.kind = .sell → quote.data.quotedSellAmount ≠ 0 ∧
    (quote.sellAmount = quote.data.quotedSellAmount ∨
      quote.sellAmount + quote.feeAmount = quote.data.quotedSellAmount) ∧
    quote.buyAmount = quote.data.scaledBuyAmount quote.sellAmount

namespace OrderQuoter

variable {quoter : OrderQuoter} {calculatedAt now : Int} {parameters : QuoteParameters}
  {quote : Quote}

theorem computeQuoteData_eq_ok
    (computed : quoter.computeQuoteData now parameters = .ok data) :
    data.sellToken = parameters.sellToken ∧ data.buyToken = parameters.buyToken ∧
      data.kind = parameters.side.kind ∧ ∀ value, parameters.side = .sellBeforeFee value ∨
        parameters.side = .sellAfterFee value → data.quotedSellAmount = value.1 := by
  simp only [computeQuoteData, Outcome.bind_eq_ok_iff] at computed
  obtain ⟨_, -, _, -, _, -, _, -, _, -, made⟩ := computed
  obtain rfl := Outcome.ok.inj made
  refine ⟨rfl, rfl, rfl, ?_⟩
  rintro value (side | side) <;> simp [side]

theorem calculateQuote_reproducible
    (calculated : quoter.calculateQuote now parameters = .ok quote) :
    quote.Reproducible quoter.feeWithAdditionalCost parameters := by
  simp only [calculateQuote, Outcome.bind_eq_ok_iff] at calculated
  obtain ⟨data, computed, result⟩ := calculated
  obtain ⟨sellToken, buyToken, kind, sold⟩ := computeQuoteData_eq_ok computed
  cases side : parameters.side with
  | sellBeforeFee value =>
    have quoted := sold value (.inl side)
    have nonzero := quoted ▸ value.2
    rw [side] at result
    dsimp only at result
    split at result
    · cases result
    rename_i covered
    cases subtracted : value.1.checkedSub (Quote.withAdditionalCost
        quoter.feeWithAdditionalCost (Quote.new quoter.feeWithAdditionalCost none data)
        parameters.additionalCost).feeAmount with
    | none => simp [subtracted] at covered
    | some sellAmount =>
      rw [subtracted] at result
      obtain rfl := Outcome.ok.inj ((if_neg nonzero).symm.trans result)
      refine ⟨sellToken, buyToken, kind, rfl, by simp [side, OrderQuoteSide.kind],
        fun _ => ⟨nonzero, .inr ?_, rfl⟩⟩
      exact (U256.add_of_checkedSub subtracted).trans quoted.symm
  | sellAfterFee value =>
    have quoted := sold value (.inr side)
    have nonzero := quoted ▸ value.2
    rw [side] at result
    obtain rfl := Outcome.ok.inj result
    exact ⟨sellToken, buyToken, kind, rfl, by simp [side, OrderQuoteSide.kind], fun _ =>
      ⟨nonzero, .inl rfl, (QuoteData.scaledBuyAmount_self nonzero).symm⟩⟩
  | buy buyAmountAfterFee =>
    rw [side] at result
    obtain rfl := Outcome.ok.inj result
    exact ⟨sellToken, buyToken, kind, rfl, fun _ => ⟨rfl, rfl⟩, by simp [side, OrderQuoteSide.kind]⟩

theorem findQuote_eq_ok {search : QuoteSearchParameters → Int → Option (Int × QuoteData)}
    {id : Int} {asked : QuoteSearchParameters}
    (listed : storage.quotes id = some data) (matching : searchMatches asked data)
    (early : now ≤ data.expiration) (nonzero : asked.kind = .sell → data.quotedSellAmount ≠ 0) :
    quoter.findQuote search storage now (some id) asked = .ok {
      id := some id
      data
      sellAmount := if asked.kind = .sell then asked.sellAmount else data.quotedSellAmount
      buyAmount := if asked.kind = .sell then data.scaledBuyAmount asked.sellAmount
        else data.quotedBuyAmount
      feeAmount := quoter.feeWithAdditionalCost data.feeParameters asked.additionalCost } := by
  have got : getQuote storage now id asked = .ok (id, data) := by
    simp [getQuote, listed, matching, Int.not_lt.mpr early]
  simp only [findQuote, got]
  cases kind : asked.kind with
  | buy => rfl
  | sell => exact if_neg (nonzero kind)

/-- An order with the amounts of a quote. -/
def searchFor (parameters : QuoteParameters) (quote : Quote) (signingScheme : QuoteSigningScheme)
    (verification : Verification) : QuoteSearchParameters where
  sellToken := parameters.sellToken
  buyToken := parameters.buyToken
  sellAmount := quote.sellAmount
  buyAmount := quote.buyAmount
  feeAmount := quote.feeAmount
  kind := parameters.side.kind
  signingScheme
  additionalGas := parameters.additionalGas
  verification

/-- Until it expires a quote is found with the amounts and the fee it was given out with,
whatever else happens to the table of quotes. -/
theorem findQuote_reproduces {storage after : Storage} {stored : Quote}
    {actions : List StorageAction} {signingScheme : QuoteSigningScheme}
    (search : QuoteSearchParameters → Int → Option (Int × QuoteData)) (verification : Verification)
    (calculated : quoter.calculateQuote calculatedAt parameters = .ok quote)
    (stores : storage.storeQuote quote = (stored, after))
    (past : ∀ maxExpiry, .removeExpiredQuotes maxExpiry ∈ actions → maxExpiry ≤ now)
    (early : now ≤ stored.data.expiration)
    (sameCost : signingScheme.additionalGasAmount = parameters.signingScheme.additionalGasAmount) :
    ∃ found, quoter.findQuote search (actions.foldl Storage.step after) now stored.id
        (searchFor parameters stored signingScheme verification) = .ok found ∧
      found.sellAmount = stored.sellAmount ∧ found.buyAmount = stored.buyAmount ∧
      found.feeAmount = stored.feeAmount := by
  obtain ⟨rfl, rfl⟩ := Prod.mk.inj stores
  obtain ⟨sellToken, buyToken, kind, costs, buys, sells⟩ := calculateQuote_reproducible calculated
  have listed : (actions.foldl Storage.step (storage.step (.save quote.data))).quotes
      storage.nextId = some quote.data :=
    Storage.quotes_foldl_step (Function.update_self ..) (Int.lt_succ _) early past
  refine ⟨_, findQuote_eq_ok listed ?_ early fun sold => (sells sold).1, ?_, ?_, ?_⟩
  · simp only [searchMatches, searchFor, sellToken, buyToken, kind, and_true, decide_eq_true_eq]
    cases side : parameters.side.kind with
    | buy => exact decide_eq_true (buys side).2
    | sell => exact decide_eq_true (sells side).2.1
  · cases side : parameters.side.kind with
    | buy => simpa [searchFor, side] using (buys side).1.symm
    | sell => simp [searchFor, side]
  · cases side : parameters.side.kind with
    | buy => simpa [searchFor, side] using (buys side).2.symm
    | sell => simpa [searchFor, side] using (sells side).2.2.symm
  · simp only [searchFor, QuoteSearchParameters.additionalCost, sameCost]
    exact costs.symm

/-- Three for one, with a fee of ten and the additional cost. -/
def flatQuoter : OrderQuoter where
  effectiveGasPrice := .ok (.finite 1)
  estimate := fun _ => .ok ⟨300, .finite 10, true⟩
  estimateNativePrice := fun _ => .ok (.finite 1)
  balance := fun _ _ => none
  enforceWhenPossible := true
  validity := ⟨600, 600, 60⟩
  feeWithAdditionalCost := fun _ additionalCost => 10 + additionalCost.setWidth 256

def noVerification : Verification := ⟨0, 0, [], [], .erc20, .erc20⟩

theorem findQuote_reproduces_beforeFee :
    let data : QuoteData := ⟨1, 2, 100, 300, ⟨.finite 10, .finite 1, .finite 1⟩, .sell, 60⟩
    let stored : Quote := ⟨some 7, data, 80, 240, 20⟩
    let parameters : QuoteParameters :=
      ⟨1, 2, .sellBeforeFee ⟨100, by decide⟩, noVerification, .eip1271 false 6, 4⟩
    ∃ found, flatQuoter.findQuote (fun _ _ => none)
        (([.removeExpiredQuotes 30, .save data]).foldl Storage.step
          ⟨Function.update (fun _ => none) 7 (some data), 8⟩) 60 (some 7)
        (searchFor parameters stored (.eip1271 false 6) noVerification) = .ok found ∧
      found.sellAmount = 80 ∧ found.buyAmount = 240 ∧ found.feeAmount = 20 := by
  intro data stored parameters
  have calculated : flatQuoter.calculateQuote 0 parameters = .ok { stored with id := none } := by
    decide
  have stores : (⟨fun _ => none, 7⟩ : Storage).storeQuote { stored with id := none } =
    (stored, _) := rfl
  exact findQuote_reproduces _ noVerification calculated stores (by simp) (by decide) rfl

/-- Whatever was stored and removed, a quote is found by its id as it was saved, before it
expires and for orders of its tokens, kind and amounts.  Scaling it never panics. -/
theorem findQuote_sound {actions : List StorageAction}
    (search : QuoteSearchParameters → Int → Option (Int × QuoteData))
    (first now id : Int) (asked : QuoteSearchParameters)
    (calculated : ∀ data, .save data ∈ actions → ∃ earlier calculatedAt parameters quote,
      calculateQuote earlier calculatedAt parameters = .ok quote ∧ quote.data = data) :
    let answer := quoter.findQuote search (actions.foldl Storage.step ⟨fun _ => none, first⟩)
      now (some id) asked
    answer.NoPanic ∧ ∀ found, answer = .ok found →
      found.id = some id ∧ searchMatches asked found.data ∧ now ≤ found.data.expiration ∧
      ∃ row : Nat, id = first + row ∧
        (actions.filterMap Storage.saved)[row]? = some found.data := by
  have numbered := Storage.numbered_foldl_step first actions
  generalize actions.foldl Storage.step ⟨fun _ => none, first⟩ = storage at numbered ⊢
  cases listed : storage.quotes id with
  | none => simp [findQuote, getQuote, listed]
  | some data =>
    by_cases matching : searchMatches asked data
    case neg => simp [findQuote, getQuote, listed, matching]
    by_cases early : now ≤ data.expiration
    case neg => simp [findQuote, getQuote, listed, matching, Int.not_le.mp early]
    obtain ⟨row, place, saves⟩ := numbered.row listed
    have nonzero : asked.kind = .sell → data.quotedSellAmount ≠ 0 := by
      intro sold
      obtain ⟨action, mem, isSave⟩ := mem_filterMap.mp (mem_of_getElem? saves)
      cases action <;> cases isSave
      obtain ⟨_, _, _, _, made, rfl⟩ := calculated data mem
      have reproducible := calculateQuote_reproducible made
      simp only [searchMatches, Prod.mk.injEq, decide_eq_true_eq] at matching
      exact (reproducible.sells (by rw [← reproducible.kind, ← matching.2.2.2, sold])).1
    rw [findQuote_eq_ok listed matching early nonzero]
    refine ⟨Outcome.noPanic_ok _, ?_⟩
    rintro _ ⟨⟩
    exact ⟨rfl, matching, early, row, place, saves⟩

theorem findQuote_sound_afterFee :
    let data : QuoteData := ⟨1, 2, 100, 300, ⟨.finite 10, .finite 1, .finite 1⟩, .sell, 60⟩
    (flatQuoter.findQuote (fun _ _ => none) ([.save data].foldl Storage.step ⟨fun _ => none, 7⟩)
      60 (some 7) ⟨1, 2, 90, 0, 10, .sell, .eip712, 0, noVerification⟩).NoPanic := by
  refine (findQuote_sound _ 7 60 7 _ fun data saves => ?_).1
  obtain rfl := StorageAction.save.inj (mem_singleton.mp saves)
  exact ⟨flatQuoter, 0, ⟨1, 2, .sellAfterFee ⟨100, by decide⟩, noVerification, .eip712, 0⟩, _,
    rfl, rfl⟩

end OrderQuoter

end MandateSolver.OrderQuoting
