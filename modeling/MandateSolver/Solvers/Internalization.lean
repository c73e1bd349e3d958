import MandateSolver.Solvers.Solution

/-!
# Internalized interactions stay within the buffers

An interaction is marked only if its outputs still fit into the balance next to those that
are marked already.
-/

namespace MandateSolver.Solvers

open Option

/-- What the assets hold of a token. -/
def amountIn (token : TokenAddress) (assets : List Asset) : Nat :=
  totalAt Asset.token (·.amount.toNat) token assets

/-- The available balance of a token; one that is not listed has none. -/
def balance (tokens : Tokens) (token : TokenAddress) : Nat :=
  (tokens.get token).elim 0 (·.availableBalance.toNat)

namespace Buffers

@[simp] theorem amount_empty (token : TokenAddress) : empty.amount token = 0 := rfl

theorem toNat_amount_insert (buffers : Buffers) (token searched : TokenAddress) (amount : U256) :
    (Buffers.amount (buffers.insert token amount) searched).toNat =
      if token = searched then amount.toNat else (buffers.amount searched).toNat := by
  unfold Buffers.amount
  by_cases same : token = searched
  · subst same
    rw [EntryMap.get_insert_self, if_pos rfl, getD_some]
  · rw [EntryMap.get_insert_of_ne (Ne.symm same), if_neg same]

theorem toNat_amount (buffers : Buffers) (token : TokenAddress) :
    (buffers.amount token).toNat = totalAt Prod.fst (·.2.toNat) token buffers.entries := by
  rw [EntryMap.totalAt_entries buffers BitVec.toNat token]
  unfold Buffers.amount
  cases buffers.get token <;> rfl

end Buffers

theorem balance_lt (tokens : Tokens) (token : TokenAddress) : balance tokens token < 2 ^ 256 := by
  unfold balance
  cases tokens.get token with
  | none => exact Nat.two_pow_pos 256
  | some entry => exact entry.availableBalance.isLt

/-! ## One interaction -/

variable {tokens : Tokens} {used required result : Buffers}

theorem requireOutput_spec {output : Asset}
    (within : ∀ token, (used.amount token).toNat + (required.amount token).toNat ≤
      balance tokens token) (covered : requireOutput tokens used required output = some result)
    (token : TokenAddress) :
    (result.amount token).toNat = (required.amount token).toNat + amountIn token [output] ∧
      (used.amount token).toNat + (result.amount token).toNat ≤ balance tokens token := by
  simp only [requireOutput, bind_eq_bind, bind_eq_some_iff,
    ite_none_left_eq_some, Option.some.injEq, U256.checkedAdd_eq_some_iff]
    at covered
  obtain ⟨amount, _, total, _, entry, listed, fits, rfl⟩ := covered
  rw [Buffers.toNat_amount_insert, amountIn, totalAt.cons, totalAt.nil]
  by_cases same : output.token = token
  · subst same
    have bound : total.toNat ≤ entry.availableBalance.toNat := not_lt.mp fits
    rw [if_pos rfl, if_pos rfl, balance, listed, elim_some]
    omega
  · rw [if_neg same, if_neg same]
    exact ⟨rfl, within token⟩

theorem requiredBuffers_spec {outputs : List Asset}
    (within : ∀ token, (used.amount token).toNat ≤ balance tokens token)
    (covered : requiredBuffers tokens used outputs = some result) (token : TokenAddress) :
    (result.amount token).toNat = amountIn token outputs ∧
      (used.amount token).toNat + (result.amount token).toNat ≤ balance tokens token := by
  -- by induction on the outputs, for any amounts required before them
  have general : ∀ outputs required,
      (∀ token, (used.amount token).toNat + (required.amount token).toNat ≤ balance tokens token) →
      outputs.foldlM (requireOutput tokens used) required = some result →
      (result.amount token).toNat = (required.amount token).toNat + amountIn token outputs ∧
        (used.amount token).toNat + (result.amount token).toNat ≤ balance tokens token := by
    intro outputs
    induction outputs with
    | nil =>
      intro required within folded
      obtain rfl : required = result := by simpa using folded
      exact ⟨rfl, within token⟩
    | cons output outputs ih =>
      intro required within folded
      rw [List.foldlM_cons, bind_eq_bind, bind_eq_some_iff] at folded
      obtain ⟨next, covered, folded⟩ := folded
      have step := requireOutput_spec within covered
      obtain ⟨total, bound⟩ := ih next (fun token => (step token).2) folded
      refine ⟨?_, bound⟩
      rw [total, (step token).1, Nat.add_assoc]
      apply congrArg
      exact totalAt.append.symm
  have started := general outputs Buffers.empty (by simpa using within) covered
  simpa using started

theorem useBuffers_returns {entries : List (TokenAddress × U256)}
    (fits : ∀ token, (used.amount token).toNat +
      totalAt Prod.fst (·.2.toNat) token entries < 2 ^ 256) :
    Outcome.Returns (entries.foldlM useBuffer used) fun result =>
      ∀ token, (result.amount token).toNat =
        (used.amount token).toNat + totalAt Prod.fst (·.2.toNat) token entries := by
  apply Outcome.Returns.foldlM fun rest (state : Buffers) => ∀ token,
    (state.amount token).toNat + totalAt Prod.fst (·.2.toNat) token rest =
      (used.amount token).toNat + totalAt Prod.fst (·.2.toNat) token entries
  · intro entry rest state totals
    have bound := fits entry.1
    have same := totals entry.1
    rw [totalAt.cons, if_pos rfl] at same
    obtain ⟨_, totalEq⟩ := U256.exists_toNat_eq
      (show (state.amount entry.1).toNat + entry.2.toNat < 2 ^ 256 by omega)
    rw [useBuffer, U256.checkedAdd_eq_some_iff.mpr totalEq]
    refine .ok fun token => ?_
    rw [Buffers.toNat_amount_insert, ← totals token, totalAt.cons]
    by_cases here : entry.1 = token
    · subst here
      rw [if_pos rfl, if_pos rfl, totalEq, Nat.add_assoc]
    · rw [if_neg here, if_neg here, Nat.zero_add]
  · intro token
    rfl

/-- What it means to mark an interaction: its inputs are trusted and its outputs
are added to the buffers in use, which stay within the balances. -/
theorem internalize_returns (order : HashOrder (TokenAddress × U256)) (interaction : Interaction)
    (within : ∀ token, (used.amount token).toNat ≤ balance tokens token) :
    Outcome.Returns (internalize tokens order used interaction) fun outcome =>
      ∀ next, outcome = some next →
        (∀ input ∈ interaction.inputs, trusted tokens input.token = true) ∧
        ∀ token, (next.amount token).toNat =
            (used.amount token).toNat + amountIn token interaction.outputs ∧
          (next.amount token).toNat ≤ balance tokens token := by
  by_cases ineligible : interaction.inputs.isEmpty = true ∨ interaction.outputs.isEmpty = true ∨
        ¬ (interaction.inputs.all fun input => trusted tokens input.token) = true
  · rw [internalize, if_pos ineligible]
    exact .ok nofun
  · rw [internalize, if_neg ineligible]
    rw [not_or, not_or, not_not, List.all_eq_true] at ineligible
    obtain ⟨-, -, trustedInputs⟩ := ineligible
    cases covered : requiredBuffers tokens used interaction.outputs with
    | none => exact .ok nofun
    | some required =>
      have spec := requiredBuffers_spec within covered
      have totals : ∀ token, totalAt Prod.fst (·.2.toNat) token (order.iter required.entries) =
            (required.amount token).toNat := by
        intro token
        rw [totalAt.perm (order.perm _), Buffers.toNat_amount]
      have fits : ∀ token, (used.amount token).toNat +
          totalAt Prod.fst (·.2.toNat) token (order.iter required.entries) < 2 ^ 256 := by
        intro token
        rw [totals token]
        exact (spec token).2.trans_lt (balance_lt tokens token)
      apply (useBuffers_returns fits).bind
      intro updated amounts
      refine .ok ?_
      intro next same
      obtain rfl : updated = next := Option.some.inj same
      refine ⟨trustedInputs, fun token => ?_⟩
      rw [amounts token, totals token]
      exact ⟨by rw [(spec token).1], (spec token).2⟩

/-! ## All interactions of a solution -/

def marks (tokens : Tokens) (order : HashOrder (TokenAddress × U256))
    (used : Buffers) : List Interaction → List Bool
  | [] => []
  | interaction :: rest =>
    match internalize tokens order used interaction with
    | .ok (some used) => true :: marks tokens order used rest
    | _ => false :: marks tokens order used rest

def Interaction.withMark (interaction : Interaction) (mark : Bool) : Interaction :=
  if mark then interaction.internalized else interaction

def marked (interactions : List Interaction) (marks : List Bool) : List Interaction :=
  ((interactions.zip marks).filter (·.2)).map (·.1)

@[simp] theorem length_marks (tokens : Tokens)
    (order : HashOrder (TokenAddress × U256)) (used : Buffers) (interactions : List Interaction) :
    (marks tokens order used interactions).length = interactions.length := by
  fun_induction marks tokens order used interactions <;> simp_all

/-- The loop only sets flags, marks only interactions with trusted inputs, and
what it marks fits into the balances next to what is in use already. -/
theorem internalizeAll_spec (order : HashOrder (TokenAddress × U256))
    (interactions : List Interaction) (used : Buffers)
    (within : ∀ token, (used.amount token).toNat ≤ balance tokens token) :
    internalizeAll tokens order used interactions =
        .ok (List.zipWith Interaction.withMark interactions
          (marks tokens order used interactions)) ∧
      (∀ interaction ∈ marked interactions (marks tokens order used interactions),
        ∀ input ∈ interaction.inputs, trusted tokens input.token = true) ∧
      ∀ token, (used.amount token).toNat + amountIn token
          ((marked interactions (marks tokens order used interactions)).flatMap
            Interaction.outputs) ≤ balance tokens token := by
  induction interactions generalizing used with
  | nil => exact ⟨rfl, by simp [marked], within⟩
  | cons interaction interactions ih =>
    obtain ⟨outcome, returned, meaning⟩ := internalize_returns order interaction within
    cases outcome with
    | none =>
      obtain ⟨result, trustedInputs, bounded⟩ := ih used within
      simp only [internalizeAll, marks, returned, result]
      exact ⟨rfl, trustedInputs, bounded⟩
    | some next =>
      obtain ⟨inputs, amounts⟩ := meaning next rfl
      obtain ⟨result, trustedInputs, bounded⟩ := ih next fun token => (amounts token).2
      simp only [internalizeAll, marks, returned, Outcome.ok_bind, result]
      refine ⟨rfl, ?_, fun token => ?_⟩
      · intro other mem
        rcases List.mem_cons.mp mem with same | later
        · exact same ▸ inputs
        · exact trustedInputs other later
      · calc
          _ = (used.amount token).toNat + (amountIn token interaction.outputs +
              amountIn token ((marked interactions (marks tokens order next interactions)).flatMap
                  Interaction.outputs)) := congrArg _ totalAt.append
          _ = _ := by rw [← Nat.add_assoc, ← (amounts token).1]
          _ ≤ balance tokens token := bounded token

namespace Solution

variable (solution : Solution) (order : HashOrder (TokenAddress × U256)) (tokens : Tokens)

def marks : List Bool :=
  Solvers.marks tokens order Buffers.empty solution.interactions

def marked : List Interaction :=
  Solvers.marked solution.interactions (solution.marks order tokens)

/-- Internalization never aborts and changes nothing but flags.  The inputs of
the marked interactions are trusted, and their outputs together stay within the
available balance of every token. -/
theorem withBuffersInternalizations_safe : solution.withBuffersInternalizations order tokens =
        .ok { solution with
          interactions := List.zipWith Interaction.withMark solution.interactions
            (solution.marks order tokens) } ∧
      (solution.marks order tokens).length = solution.interactions.length ∧
      (∀ interaction ∈ solution.marked order tokens,
        ∀ input ∈ interaction.inputs, trusted tokens input.token = true) ∧
      ∀ token, amountIn token ((solution.marked order tokens).flatMap Interaction.outputs) ≤
        balance tokens token := by
  have unused : ∀ token, (Buffers.empty.amount token).toNat ≤ balance tokens token :=
    fun token => Nat.zero_le _
  obtain ⟨result, trustedInputs, bounded⟩ :=
    internalizeAll_spec order solution.interactions Buffers.empty unused
  refine ⟨?_, length_marks _ _ _ _, trustedInputs, ?_⟩
  · rw [withBuffersInternalizations, result]
    rfl
  · intro token
    simpa [marked, marks] using bounded token

end Solution

end MandateSolver.Solvers
