import MandateSolver.Foundation.Bytes
import MandateSolver.Driver.Solution

/-!
# Encoding of wrapper calls

The first wrapper is the target of the transaction.  The others follow in the data, every
data with its length in two bytes in front.
-/

namespace MandateSolver.Driver

open Bytes List Option

/-- The length is cast to 16 bits. -/
def encodeWrapper (wrapper : WrapperCall) (index : Nat) : List UInt8 :=
  (if index ≠ 0 then bigEndian 20 wrapper.address.toNat else []) ++
    bigEndian 2 (wrapper.data.length % 2 ^ 16) ++ wrapper.data

def encodeWrapperData (wrappers : List WrapperCall) : List UInt8 :=
  wrappers.zipIdx.flatMap fun (wrapper, index) => encodeWrapper wrapper index

def wrapperTarget (wrappers : List WrapperCall) : Option Address :=
  wrappers.head?.map WrapperCall.address

/-! ## Decoding -/

def decodeData (bytes : List UInt8) : Option (List UInt8 × List UInt8) := do
  let (length, rest) ← read 2 bytes
  read (ofBigEndian length) rest

def decodeChain : Nat → List UInt8 → Option (List WrapperCall)
  | _, [] => some []
  | 0, _ :: _ => none
  | limit + 1, bytes => do
    let (address, rest) ← read 20 bytes
    let (data, rest) ← decodeData rest
    let wrappers ← decodeChain limit rest
    some (⟨BitVec.ofNat 160 (ofBigEndian address), data⟩ :: wrappers)

/-- Without a target there are no wrappers and nothing to decode. -/
def decodeWrapperData (target : Option Address) (bytes : List UInt8) : Option (List WrapperCall) :=
  match target with
  | none => if bytes = [] then some [] else none
  | some address => do
    let (data, rest) ← decodeData bytes
    let wrappers ← decodeChain rest.length rest
    some (⟨address, data⟩ :: wrappers)

/-- The length is encoded in two bytes. -/
def WrapperCall.Short (wrapper : WrapperCall) : Prop :=
  wrapper.data.length < 2 ^ 16

/-! ## Round trip -/

section

variable {wrapper : WrapperCall} {wrappers : List WrapperCall} {limit : Nat}

theorem decodeData_encode {data : List UInt8} (rest : List UInt8) (short : data.length < 2 ^ 16) :
    decodeData (bigEndian 2 (data.length % 2 ^ 16) ++ data ++ rest) = some (data, rest) := by
  unfold decodeData
  rw [append_assoc, read_append _ (length_bigEndian _ _)]
  simp only [bind_eq_bind, bind_some, ofBigEndian_bigEndian]
  rw [Nat.mod_eq_of_lt short, Nat.mod_eq_of_lt (show data.length < 256 ^ 2 from short)]
  exact read_append rest rfl

theorem length_of_decodeData {bytes data rest : List UInt8}
    (decodes : decodeData bytes = some (data, rest)) : data.length < 2 ^ 16 := by
  simp only [decodeData, bind_eq_bind, bind_eq_some_iff] at decodes
  obtain ⟨⟨length, _⟩, reads, dataReads⟩ := decodes
  have bounded := ofBigEndian_lt length
  rw [length_of_read reads] at bounded
  rw [length_of_read dataReads]
  exact bounded

def encodeChain (wrappers : List WrapperCall) : List UInt8 :=
  wrappers.flatMap fun wrapper => encodeWrapper wrapper 1

theorem encodeWrapperData_cons (address : Address) (data : List UInt8) :
    encodeWrapperData (⟨address, data⟩ :: wrappers) =
      bigEndian 2 (data.length % 2 ^ 16) ++ data ++ encodeChain wrappers := by
  have later : ∀ start, (wrappers.zipIdx (start + 1)).flatMap
      (fun (wrapper, index) => encodeWrapper wrapper index) = encodeChain wrappers := by
    induction wrappers with
    | nil => simp [encodeChain]
    | cons wrapper wrappers ih =>
      intro start
      rw [zipIdx_cons, flatMap_cons, ih (start + 1)]
      rfl
  rw [← later 0]
  simp [encodeWrapperData, encodeWrapper]

theorem length_encodeChain : wrappers.length ≤ (encodeChain wrappers).length := by
  induction wrappers with
  | nil => simp
  | cons wrapper wrappers ih =>
    simp only [encodeChain, flatMap_cons, encodeWrapper, length_append,
      length_bigEndian, length_cons] at ih ⊢
    omega

theorem decodeChain_encode (enough : wrappers.length ≤ limit)
    (short : ∀ wrapper ∈ wrappers, wrapper.Short) :
    decodeChain limit (encodeChain wrappers) = some wrappers := by
  induction wrappers generalizing limit with
  | nil => cases limit <;> rfl
  | cons wrapper wrappers ih =>
    obtain ⟨limit, rfl⟩ : ∃ less, limit = less + 1 :=
      Nat.exists_eq_add_of_le' (Nat.zero_lt_of_lt enough)
    rw [forall_mem_cons] at short
    have rest := ih (Nat.le_of_succ_le_succ enough) short.2
    have encoded : encodeChain (wrapper :: wrappers) = bigEndian 20 wrapper.address.toNat ++
          (bigEndian 2 (wrapper.data.length % 2 ^ 16) ++ wrapper.data ++ encodeChain wrappers) := by
      simp [encodeChain, encodeWrapper]
    have nonempty : encodeChain (wrapper :: wrappers) ≠ [] := by
      intro empty
      have length := congrArg List.length empty
      simp [encoded] at length
    have address : BitVec.ofNat 160 (wrapper.address.toNat % 256 ^ 20) =
        wrapper.address := by
      rw [Nat.mod_eq_of_lt (show _ < 256 ^ 20 from wrapper.address.isLt)]
      simp
    rw [decodeChain.eq_3 _ _ nonempty, encoded, read_append _ (length_bigEndian _ _)]
    simp only [bind_eq_bind, bind_some, decodeData_encode _ short.1,
      rest, ofBigEndian_bigEndian, address]

theorem decodeChain_short {bytes : List UInt8}
    (decodes : decodeChain limit bytes = some wrappers) : ∀ wrapper ∈ wrappers, wrapper.Short := by
  fun_induction decodeChain limit bytes generalizing wrappers with
  | case1 =>
    cases decodes
    simp
  | case2 => cases decodes
  | case3 limit bytes nonempty ih =>
    simp only [bind_eq_bind, bind_eq_some_iff, Option.some.injEq] at decodes
    obtain ⟨⟨_, _⟩, -, ⟨_, _⟩, dataReads, _, chain, rfl⟩ := decodes
    rw [forall_mem_cons]
    exact ⟨length_of_decodeData dataReads, ih _ chain⟩

/-- The decoder recovers exactly the lists with short data. -/
theorem decodeWrapperData_encode_iff (wrappers : List WrapperCall) :
    decodeWrapperData (wrapperTarget wrappers) (encodeWrapperData wrappers) = some wrappers ↔
      ∀ wrapper ∈ wrappers, wrapper.Short := by
  cases wrappers with
  | nil => simp [wrapperTarget, decodeWrapperData, encodeWrapperData]
  | cons wrapper wrappers =>
    obtain ⟨_, data⟩ := wrapper
    rw [encodeWrapperData_cons, forall_mem_cons]
    constructor
    · intro decodes
      simp only [decodeWrapperData, wrapperTarget, List.head?_cons, map_some,
        bind_eq_bind, bind_eq_some_iff] at decodes
      obtain ⟨⟨data, _⟩, dataReads, _, chain, equal⟩ := decodes
      cases equal
      exact ⟨length_of_decodeData dataReads, decodeChain_short chain⟩
    · rintro ⟨first, others⟩
      simp only [decodeWrapperData, wrapperTarget, List.head?_cons, map_some,
        bind_eq_bind, decodeData_encode _ first, bind_some,
        decodeChain_encode length_encodeChain others]

end

/-- Exactly the lists with short data are read back, and no two of them have the
same target and bytes. -/
theorem encodeWrapperData_unambiguous_iff (wrappers : List WrapperCall) :
    (decodeWrapperData (wrapperTarget wrappers) (encodeWrapperData wrappers) = some wrappers ↔
      ∀ wrapper ∈ wrappers, wrapper.Short) ∧
    ((∀ wrapper ∈ wrappers, wrapper.Short) →
      ∀ others : List WrapperCall, (∀ wrapper ∈ others, wrapper.Short) →
        wrapperTarget wrappers = wrapperTarget others →
        encodeWrapperData wrappers = encodeWrapperData others →
        wrappers = others) := by
  refine ⟨decodeWrapperData_encode_iff wrappers, ?_⟩
  intro short others othersShort target bytes
  have first := (decodeWrapperData_encode_iff wrappers).mpr short
  have second := (decodeWrapperData_encode_iff others).mpr othersShort
  rw [target, bytes, second] at first
  exact (Option.some.inj first).symm

def innerData : List UInt8 := List.replicate 65514 0

theorem length_innerData : innerData.length = 65514 := length_replicate

def nestedData : List UInt8 :=
  bigEndian 20 7 ++ (bigEndian 2 65514 ++ innerData)

theorem length_nestedData : nestedData.length = 2 ^ 16 := by
  rw [nestedData, length_append, length_append, length_innerData]
  rfl

theorem encodeChain_innerData : encodeChain [⟨7, innerData⟩] = nestedData := by
  simp only [encodeChain, flatMap_cons, flatMap_nil, encodeWrapper,
    length_innerData, ne_eq, one_ne_zero, not_false_eq_true,
    append_nil]
  rfl

theorem encodeWrapperData_ambiguous :
    let nested : List WrapperCall := [⟨1, nestedData⟩]
    let chained : List WrapperCall := [⟨1, []⟩, ⟨7, innerData⟩]
    nested ≠ chained ∧ wrapperTarget nested = wrapperTarget chained ∧
      encodeWrapperData nested = encodeWrapperData chained ∧
      decodeWrapperData (wrapperTarget nested) (encodeWrapperData nested) ≠ some nested := by
  intro nested chained
  refine ⟨by simp [nested, chained], rfl, ?_, ?_⟩
  · -- the length of the nested data is encoded as zero
    rw [encodeWrapperData_cons, encodeWrapperData_cons, length_nestedData, encodeChain_innerData]
    simp [encodeChain]
  · rw [Ne, decodeWrapperData_encode_iff]
    simp [nested, WrapperCall.Short, length_nestedData]

end MandateSolver.Driver
