import ProofBridge.Evm.OrderHash
import ProofBridge.Lib.Layout

/-!
# Reading `bytes calldata`

A slice or an index out of bounds stops the call. What a read takes is said by `Layout.At`: the bytes
that stand where it looks.
-/

namespace ProofBridge
namespace Evm

open ContractLib
open ContractLib.Layout (At bigEndian ofBytes)

variable {ε : Type}

section Reads

variable (data : Bytes)

/-- `data[start:stop]`. -/
def sliceOf (start stop : ℕ) : Check ε Bytes :=
  Check.expectTrap (Layout.slice data start stop) .sliceBounds

/-- `uint8(data[pos])`. -/
def byteAt (pos : ℕ) : Check ε UInt8 := Check.expectTrap data[pos]? .sliceBounds

/-- The number the `n` bytes at `pos` spell. -/
def numberAt (pos n : ℕ) : Check ε ℕ := do
  let x ← sliceOf data pos (pos + n)
  pure (ofBytes x)

/-- `bytes32(data[pos:pos + 32])`. -/
def wordAt (pos : ℕ) : Check ε BytesN32 := do
  let value ← numberAt data pos 32
  pure (BitVec.ofNat 256 value)

end Reads

/-- 32 bytes, the most significant first. -/
def encodeWord (w : BitVec 256) : Bytes := bigEndian 32 w.toNat

@[simp] theorem length_encodeWord {w : BitVec 256} : (encodeWord w).length = 32 :=
  Layout.length_bigEndian

theorem encodeWord_injective : Function.Injective encodeWord := fun a b h =>
  BitVec.eq_of_toNat_eq (Layout.bigEndian_inj (lt_of_lt_of_eq a.isLt (by norm_num))
    (lt_of_lt_of_eq b.isLt (by norm_num)) h)

variable {data x : Bytes} {pos n : ℕ}

theorem sliceOf_ok : (sliceOf data pos (pos + n) : Check ε Bytes) = .ok x ↔
    x.length = n ∧ At data pos x ∧ pos + n ≤ data.length := by
  rw [sliceOf, Check.expectTrap_ok, Layout.slice_iff]

theorem byteAt_ok {b : UInt8} : (byteAt data pos : Check ε UInt8) = .ok b ↔ At data pos [b] := by
  rw [byteAt, Check.expectTrap_ok, Layout.getElem?_eq_some]

theorem numberAt_ok {value : ℕ} (hn : 0 < n) : (numberAt data pos n : Check ε ℕ) = .ok value ↔
    value < 256 ^ n ∧ At data pos (bigEndian n value) := by
  rw [← Layout.slice_ofBytes hn, numberAt, Check.bind_ok, Option.map_eq_some_iff]
  simp only [sliceOf, Check.expectTrap_ok, Check.pure_ok, eq_comm (a := value)]

theorem wordAt_ok {w : BytesN32} :
    (wordAt data pos : Check ε BytesN32) = .ok w ↔ At data pos (encodeWord w) := by
  rw [wordAt, Check.bind_ok, encodeWord]
  simp only [numberAt_ok (by norm_num : 0 < 32), Check.pure_ok]
  constructor
  · rintro ⟨value, ⟨hvalue, hat⟩, rfl⟩
    rwa [BitVec.toNat_ofNat, Nat.mod_eq_of_lt (lt_of_lt_of_eq hvalue (by norm_num))]
  · intro hat
    exact ⟨w.toNat, ⟨lt_of_lt_of_eq w.isLt (by norm_num), hat⟩, by rw [BitVec.ofNat_toNat]; rfl⟩

end Evm
end ProofBridge
