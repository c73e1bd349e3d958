import Mathlib.Data.Nat.ModEq
import Mathlib.Data.List.Induction
import Mathlib.Tactic.Ring

/-!
# Byte strings

Numbers in a fixed number of bytes, the most significant one first, and reading
a given number of bytes off the front of a string.
-/

namespace MandateSolver.Bytes

/-! ## Big-endian numbers -/

/-- The value modulo `256 ^ width`. -/
def bigEndian : Nat → Nat → List UInt8
  | 0, _ => []
  | width + 1, value => bigEndian width (value / 256) ++ [UInt8.ofNat value]

def ofBigEndian (bytes : List UInt8) : Nat :=
  bytes.foldl (fun value byte => value * 256 + byte.toNat) 0

@[simp]
theorem length_bigEndian (width value : Nat) : (bigEndian width value).length = width := by
  induction width generalizing value with
  | zero => rfl
  | succ width ih => simp [bigEndian, ih]

@[simp]
theorem ofBigEndian_concat (bytes : List UInt8) (byte : UInt8) :
    ofBigEndian (bytes ++ [byte]) = ofBigEndian bytes * 256 + byte.toNat := by
  simp [ofBigEndian]

@[simp]
theorem ofBigEndian_bigEndian (width value : Nat) :
    ofBigEndian (bigEndian width value) = value % 256 ^ width := by
  induction width generalizing value with
  | zero => simp [bigEndian, ofBigEndian, Nat.mod_one]
  | succ width ih =>
    have low : (UInt8.ofNat value).toNat = value % 256 := by simp
    rw [bigEndian, ofBigEndian_concat, ih, low, Nat.pow_succ', Nat.mod_mul]
    ring

theorem ofNat_ofBigEndian (width : Nat) (value : BitVec (8 * width)) :
    BitVec.ofNat (8 * width) (ofBigEndian (bigEndian width value.toNat)) = value := by
  have fits : value.toNat < 256 ^ width := by
    have bound := value.isLt
    rwa [Nat.pow_mul] at bound
  rw [ofBigEndian_bigEndian, Nat.mod_eq_of_lt fits, BitVec.ofNat_toNat, BitVec.setWidth_eq]

theorem ofBigEndian_lt (bytes : List UInt8) : ofBigEndian bytes < 256 ^ bytes.length := by
  induction bytes using List.reverseRecOn with
  | nil => simp [ofBigEndian]
  | append_singleton bytes byte ih =>
    have low := byte.toNat_lt
    rw [ofBigEndian_concat, List.length_append, List.length_singleton]
    omega

theorem drop_bigEndian (high low value : Nat) :
    (bigEndian (high + low) value).drop high = bigEndian low value := by
  induction low generalizing value with
  | zero => simp [bigEndian]
  | succ low ih =>
    rw [← Nat.add_assoc, bigEndian, List.drop_append_of_le_length (by simp), ih, bigEndian]

/-! ## Reading -/

def read (count : Nat) (bytes : List UInt8) : Option (List UInt8 × List UInt8) :=
  if count ≤ bytes.length then some (bytes.take count, bytes.drop count) else none

theorem read_append {count : Nat} {bytes : List UInt8} (rest : List UInt8)
    (length : bytes.length = count) : read count (bytes ++ rest) = some (bytes, rest) := by
  subst length
  simp [read]

theorem length_of_read {count : Nat} {bytes taken rest : List UInt8}
    (reads : read count bytes = some (taken, rest)) : taken.length = count := by
  unfold read at reads
  split at reads
  · cases reads
    simpa
  · cases reads

end MandateSolver.Bytes

/-! ## Codecs -/

namespace MandateSolver

open Bytes

/-- A code that can be read off the front of a list. -/
structure Codec (α : Type) where
  encode : α → List UInt8
  decode : List UInt8 → Option (α × List UInt8)
  decode_encode : ∀ value rest, decode (encode value ++ rest) = some (value, rest)

namespace Codec

variable {α β : Type}

def bits (width : Nat) : Codec (BitVec (8 * width)) where
  encode value := bigEndian width value.toNat
  decode bytes := (read width bytes).map fun (taken, rest) =>
    (BitVec.ofNat _ (ofBigEndian taken), rest)
  decode_encode value rest := by
    rw [read_append rest (length_bigEndian width value.toNat), Option.map_some]
    exact congrArg (fun read => some (read, rest)) (ofNat_ofBigEndian width value)

def decodeNat : List UInt8 → Option (Nat × List UInt8)
  | [] => none
  | byte :: bytes =>
    if byte = 0 then some (0, bytes)
    else (decodeNat bytes).map fun (value, rest) => (value + 1, rest)

def nat : Codec Nat where
  encode value := List.replicate value 1 ++ [0]
  decode := decodeNat
  decode_encode value rest := by
    induction value with
    | zero => simp [decodeNat]
    | succ value ih =>
      simp only [List.replicate_succ, List.cons_append, decodeNat, ih]
      simp

def pair (first : Codec α) (second : Codec β) : Codec (α × β) where
  encode value := first.encode value.1 ++ second.encode value.2
  decode bytes := do
    let (left, rest) ← first.decode bytes
    let (right, rest) ← second.decode rest
    some ((left, right), rest)
  decode_encode value rest := by
    simp [first.decode_encode, second.decode_encode]

def decodeMany (item : Codec α) : Nat → List UInt8 → Option (List α × List UInt8)
  | 0, bytes => some ([], bytes)
  | count + 1, bytes => do
    let (value, rest) ← item.decode bytes
    let (values, rest) ← decodeMany item count rest
    some (value :: values, rest)

def list (item : Codec α) : Codec (List α) where
  encode values := nat.encode values.length ++ values.flatMap item.encode
  decode bytes := do
    let (count, rest) ← nat.decode bytes
    decodeMany item count rest
  decode_encode values rest := by
    simp only [List.append_assoc, nat.decode_encode, Option.bind_eq_bind, Option.bind_some]
    induction values with
    | nil => rfl
    | cons value values ih =>
      simp [decodeMany, item.decode_encode, ih]

def map (codec : Codec α) (build : α → β) (parts : β → α)
    (inverse : ∀ value, build (parts value) = value) : Codec β where
  encode value := codec.encode (parts value)
  decode bytes := (codec.decode bytes).map fun (value, rest) => (build value, rest)
  decode_encode value rest := by
    simp [codec.decode_encode, inverse]

end Codec

end MandateSolver
