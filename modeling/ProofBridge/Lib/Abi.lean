import Mathlib.Data.BitVec
import Mathlib.Data.List.Basic
import Mathlib.Tactic.Common

/-!
# Calldata

How a contract reads its arguments: a head of 32-byte words, in which a value of no fixed size is an
offset to its length and its content. A reader gives nothing where the decoder reverts: past the end,
on a word too wide for its type, on an offset or a length of 2^64 or more. Bytes nothing points at are
not looked at.
-/

namespace ContractLib
namespace Abi

abbrev Calldata := List UInt8

variable (data : Calldata)

/-- The word at `pos`, its most significant byte first. Past the end it reads as zeros. -/
def word (pos : ℕ) : ℕ :=
  (List.range 32).foldl (fun acc i => acc * 256 + (data.getD (pos + i) 0).toNat) 0

/-- A head of `words` words fits from `pos` on. -/
def hasHead (pos words : ℕ) : Option Unit :=
  if pos + 32 * words ≤ data.length then some () else none

/-- A word of an unsigned type of `bits` bits. -/
def uint (bits pos : ℕ) : Option (BitVec bits) :=
  if word data pos < 2 ^ bits then some (BitVec.ofNat bits (word data pos)) else none

def bool (pos : ℕ) : Option Bool :=
  if word data pos < 2 then some (word data pos = 1) else none

/-- The offset a head holds for a value of no fixed size. -/
def offset (pos : ℕ) : Option ℕ := if word data pos < 2 ^ 64 then some (word data pos) else none

/-- The bytes whose length is stored at `pos`. -/
def bytesAt (pos : ℕ) : Option (List UInt8) :=
  if pos + 31 < data.length then
    if word data pos < 2 ^ 64 ∧ pos + 32 + word data pos ≤ data.length then
      some ((data.drop (pos + 32)).take (word data pos))
    else none
  else none

/-- The array of one-word elements whose length is stored at `pos`. -/
def arrayAt {α : Type} (element : ℕ → Option α) (pos : ℕ) : Option (List α) :=
  if pos + 31 < data.length then
    if word data pos < 2 ^ 64 ∧ pos + 32 + 32 * word data pos ≤ data.length then
      (List.range (word data pos)).mapM fun i => element (pos + 32 + 32 * i)
    else none
  else none

/-- A `string` or `bytes` argument whose offset is the head's word at `pos`. -/
def bytesArg (pos : ℕ) : Option (List UInt8) := do
  let off ← offset data pos
  bytesAt data off

/-! ## Encoding -/

/-- Zeros up to a whole number of words. -/
def padRight (bytes : List UInt8) : List UInt8 :=
  bytes ++ List.replicate ((32 - bytes.length % 32) % 32) 0

theorem length_padRight {bytes : List UInt8} :
    (padRight bytes).length = (bytes.length + 31) / 32 * 32 := by
  rw [padRight, List.length_append, List.length_replicate]
  omega

/-- Padding hides nothing once the length is known. -/
theorem padRight_inj {a b : List UInt8} (hlen : a.length = b.length)
    (h : padRight a = padRight b) : a = b :=
  (List.append_inj h hlen).1

end Abi
end ContractLib
