import ProofBridge.Core.Types
import Mathlib.Data.Set.Function

/-!
# The order hash

Both escrows identify an order by the EIP-712 hash of its nineteen canonical fields, so the hash
has to come out the same on every chain and two different orders must not share one. The layout
below is the source's, byte for byte; keccak-256 itself is the host's.

The hash of an order runs keccak three times: over the ad id, over the words of the struct, and
over the typed-data envelope. `Preimages` collects those inputs. Where keccak is injective on the
preimages of the orders at hand, equal hashes mean equal orders (`hashOrder_inj`): the layout
itself loses nothing.
-/

namespace ProofBridge
namespace Eip712

open ContractLib

/-- Precomputed `keccak256("EIP712Domain(string name,string version)")`. -/
def DOMAIN_TYPEHASH_MIN : BytesN32 :=
  0xb03948446334eb9b2196d5eb166f69b9d49403eb4a12f36de8d3f9f3cb8e15c3

/-- The type hash of the 19-field order. -/
def ORDER_TYPEHASH : BytesN32 :=
  0xb5d33c95a13eb69f0c2f7619a88780a8622afc3617faf79c4bc4417e703c74b9

/-- Precomputed `keccak256("Proofbridge")`. -/
def NAME_HASH : BytesN32 :=
  0xcea4b90ab114e557c0152df0f3010906c489b3adc1814cfdf1755ce928ce359c

/-- Precomputed `keccak256("1")`. -/
def VERSION_HASH : BytesN32 :=
  0xc89efdaa54c0f20c7adf612882df0950f5a951637e0307cdcb4c672f298b8bc6

/-- The 32 bytes of a word, the most significant first. -/
def toArray (word : BytesN32) : Bytes :=
  (List.range 32).map fun i => UInt8.ofBitVec (word.extractLsb' (8 * (31 - i)) 8)

@[simp] theorem length_toArray (word : BytesN32) : (toArray word).length = 32 := by
  simp [toArray]

theorem toArray_injective : Function.Injective toArray := by
  intro w w' h
  have hbyte : ∀ i < 32, w.extractLsb' (8 * (31 - i)) 8 = w'.extractLsb' (8 * (31 - i)) 8 := by
    intro i hi
    have hmap := List.map_inj_left.mp h i (List.mem_range.mpr hi)
    simpa using congrArg UInt8.toBitVec hmap
  refine BitVec.eq_of_getLsbD_eq fun j hj => ?_
  -- bit `j` sits in the byte counted `31 - j / 8` from the front
  have hpos : 8 * (31 - (31 - j / 8)) + j % 8 = j := by omega
  have hbit := congrArg (fun b => b.getLsbD (j % 8)) (hbyte (31 - j / 8) (by omega))
  simpa [BitVec.getLsbD_extractLsb', hpos, Nat.mod_lt j (by decide : 0 < 8)] using hbit

/-- The bytes of a list of words, one after the other. -/
def concat (words : List BytesN32) : Bytes := words.flatMap toArray

@[simp] theorem length_concat (words : List BytesN32) :
    (concat words).length = 32 * words.length := by
  induction words with
  | nil => rfl
  | cons w ws ih =>
    simp only [concat, List.flatMap_cons, List.length_append, length_toArray] at ih ⊢
    rw [ih, List.length_cons]
    omega

theorem concat_injective : Function.Injective concat := by
  intro ws
  induction ws with
  | nil =>
    intro ws' h
    have hlen := congrArg List.length h
    cases ws' with
    | nil => rfl
    | cons w' ws' =>
      simp only [length_concat, List.length_nil, List.length_cons] at hlen
      omega
  | cons w ws ih =>
    intro ws' h
    cases ws' with
    | nil =>
      have hlen := congrArg List.length h
      simp only [length_concat, List.length_nil, List.length_cons] at hlen
      omega
    | cons w' ws' =>
      obtain ⟨hw, hws⟩ := List.append_inj h (by simp)
      rw [toArray_injective hw, ih hws]

/-- `abi_encode_uint256`: an unsigned number of at most 128 bits, extended to a word. -/
def abiEncodeUint256 {w : ℕ} (value : BitVec w) : BytesN32 := value.setWidth 256

theorem abiEncodeUint256_injective {w : ℕ} (h : w ≤ 256) :
    Function.Injective (abiEncodeUint256 (w := w)) := by
  intro a b hab
  have hnat := congrArg BitVec.toNat hab
  simp only [abiEncodeUint256, BitVec.toNat_setWidth] at hnat
  have hpow : 2 ^ w ≤ 2 ^ 256 := Nat.pow_le_pow_right (by decide) h
  rw [Nat.mod_eq_of_lt (lt_of_lt_of_le a.isLt hpow),
    Nat.mod_eq_of_lt (lt_of_lt_of_le b.isLt hpow)] at hnat
  exact BitVec.eq_of_toNat_eq hnat

/-- `abi_encode_string`: the hash of the string. The buffer holds 1024 bytes; slicing past it
stops the call. -/
def abiEncodeString {ε : Type} (H : Host) (s : Bytes) : Check ε BytesN32 :=
  if s.length ≤ 1024 then .ok (H.keccak256 s) else .error (.trap .sliceBounds)

/-- The signed order, field for field in type-string order. -/
structure Order where
  orderChainToken : BytesN32
  adChainToken : BytesN32
  amount : U128
  bridger : BytesN32
  orderChainId : U128
  orderPortal : BytesN32
  orderRecipient : BytesN32
  adChainId : U128
  adManager : BytesN32
  adIdHash : BytesN32
  adCreator : BytesN32
  adRecipient : BytesN32
  salt : BitVec 256
  orderDecimals : U32
  adDecimals : U32
  deadline : U64
  adSettlementSigner : BytesN32
  lpFeeBps : U32
  protocolFeeBps : U32
  deriving DecidableEq, Repr

/-- The type hash and the nineteen words. -/
def Order.words (o : Order) : List BytesN32 :=
  [ORDER_TYPEHASH, o.orderChainToken, o.adChainToken, abiEncodeUint256 o.amount, o.bridger,
    abiEncodeUint256 o.orderChainId, o.orderPortal, o.orderRecipient,
    abiEncodeUint256 o.adChainId, o.adManager, o.adIdHash, o.adCreator, o.adRecipient, o.salt,
    abiEncodeUint256 o.orderDecimals, abiEncodeUint256 o.adDecimals,
    abiEncodeUint256 o.deadline, o.adSettlementSigner, abiEncodeUint256 o.lpFeeBps,
    abiEncodeUint256 o.protocolFeeBps]

theorem Order.words_injective : Function.Injective Order.words := by
  intro o o' h
  have hword {w : ℕ} (hw : w ≤ 256) {a b : BitVec w}
      (hab : abiEncodeUint256 a = abiEncodeUint256 b) : a = b :=
    abiEncodeUint256_injective hw hab
  simp only [Order.words, List.cons.injEq, and_true, true_and] at h
  obtain ⟨h1, h2, h3, h4, h5, h6, h7, h8, h9, h10, h11, h12, h13, h14, h15, h16, h17, h18, h19⟩ := h
  cases o
  cases o'
  simp_all only [Order.mk.injEq, true_and]
  exact ⟨hword (by decide) h3, hword (by decide) h5, hword (by decide) h8,
    hword (by decide) h14, hword (by decide) h15, hword (by decide) h16,
    hword (by decide) h18, hword (by decide) h19⟩

/-- `struct_hash_order`: keccak of the twenty words, 640 bytes. -/
def structHashOrder (H : Host) (o : Order) : BytesN32 := H.keccak256 (concat o.words)

/-- `domain_separator_proofbridge`. -/
def domainSeparatorProofbridge (H : Host) : BytesN32 :=
  H.keccak256 (concat [DOMAIN_TYPEHASH_MIN, NAME_HASH, VERSION_HASH])

/-- The 66 bytes of the typed-data envelope: `\x19\x01`, the domain separator, the struct hash. -/
def typedData (H : Host) (structHash : BytesN32) : Bytes :=
  0x19 :: 0x01 :: concat [domainSeparatorProofbridge H, structHash]

/-- `hash_typed_data_v4`. -/
def hashTypedDataV4 (H : Host) (structHash : BytesN32) : BytesN32 :=
  H.keccak256 (typedData H structHash)

/-! ## What a hash determines -/

/-- The byte strings keccak reads while hashing the order `o` with ad id `adId`. -/
def Preimages (H : Host) (adId : AdId) (o : Order) : Set Bytes :=
  {adId, concat o.words, typedData H (structHashOrder H o)}

/-- Equal hashes mean equal orders, wherever keccak does not collide on their preimages. -/
theorem hashTypedDataV4_inj {H : Host} {s : Set Bytes} (hinj : Set.InjOn H.keccak256 s)
    {adId adId' : AdId} {o o' : Order} (hs : Preimages H adId o ⊆ s)
    (hs' : Preimages H adId' o' ⊆ s)
    (h : hashTypedDataV4 H (structHashOrder H o) = hashTypedDataV4 H (structHashOrder H o')) :
    o = o' := by
  have henv : typedData H (structHashOrder H o) = typedData H (structHashOrder H o') :=
    hinj (hs (by simp [Preimages])) (hs' (by simp [Preimages])) h
  have hstruct : structHashOrder H o = structHashOrder H o' := by
    simp only [typedData, List.cons.injEq, true_and] at henv
    simpa using concat_injective henv
  have hwords : concat o.words = concat o'.words :=
    hinj (hs (by simp [Preimages])) (hs' (by simp [Preimages])) hstruct
  exact Order.words_injective (concat_injective hwords)

/-- Equal ad-id words mean equal ad ids, wherever keccak does not collide on them. -/
theorem abiEncodeString_inj {ε : Type} {H : Host} {s : Set Bytes}
    (hinj : Set.InjOn H.keccak256 s) {adId adId' : AdId} {w : BytesN32} (hs : adId ∈ s)
    (hs' : adId' ∈ s) (h : (abiEncodeString H adId : Check ε BytesN32) = .ok w)
    (h' : (abiEncodeString H adId' : Check ε BytesN32) = .ok w) : adId = adId' := by
  unfold abiEncodeString at h h'
  split at h <;> split at h' <;> simp_all
  exact hinj hs hs' (h.trans h'.symm)

end Eip712
end ProofBridge
