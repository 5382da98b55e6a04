import ProofBridge.CounterpartyVerifier.Model

/-!
# What the verifier reads

The escrow's envelope has a fixed length, so no byte behind it moves a field of it: the verifier reads
exactly the strings `Metadata.encode` spells, each in one way, and accepts one only where the parties'
signature names the order and the leg the escrow vouches for (`isRootValid_iff`).
-/

namespace ProofBridge
namespace CounterpartyVerifier

open ContractLib
open ContractLib.Layout (At ofBytes bigEndian)

/-! ## Numbers -/

section Numbers

variable {n w : ℕ} {b : Bytes} {offset : ℕ}

theorem arr_eq_some (hn : 0 < n) {x : BytesN n} : arr n b offset = some x ↔ At b offset x.1 := by
  unfold arr
  constructor
  · intro h
    split at h
    · cases h
      exact ⟨(b.drop offset).drop n, (List.take_append_drop n _).symm⟩
    · cases h
  · intro hat
    have hpos : x.1 ≠ [] := List.ne_nil_of_length_pos (by rw [x.2]; exact hn)
    have hrange := hat.le_length hpos
    rw [x.2] at hrange
    rw [dif_pos hrange]
    obtain ⟨rest, hrest⟩ := hat
    congr 1
    apply Subtype.ext
    show (b.drop offset).take n = x.1
    rw [hrest, List.take_left' x.2]

theorem bigEndian_fromBeBytes (hw : 2 ^ w = 256 ^ n) (x : BytesN n) :
    bigEndian n (fromBeBytes w x).toNat = x.1 := by
  have hlt : ofBytes x.1 < 2 ^ w := by
    rw [hw]
    exact lt_of_lt_of_eq Layout.ofBytes_lt (by rw [x.2])
  rw [fromBeBytes, BitVec.toNat_ofNat, Nat.mod_eq_of_lt hlt, Layout.bigEndian_ofBytes x.2]

theorem fromBeBytes_bigEndian (hw : 2 ^ w = 256 ^ n) (v : BitVec w) :
    fromBeBytes w (⟨bigEndian n v.toNat, Layout.length_bigEndian⟩ : BytesN n) = v := by
  rw [fromBeBytes, Layout.ofBytes_bigEndian (lt_of_lt_of_eq v.isLt hw), BitVec.ofNat_toNat,
    BitVec.setWidth_eq]

theorem byte_of_shift {w : ℕ} (v : BitVec w) (k : ℕ) :
    UInt8.ofBitVec (v.extractLsb' (8 * k) 8) = UInt8.ofNat (v.toNat / 256 ^ k) := by
  apply UInt8.toNat_inj.mp
  rw [UInt8.toNat_ofNat']
  show (v.extractLsb' (8 * k) 8).toNat = _
  rw [BitVec.extractLsb'_toNat, Nat.shiftRight_eq_div_pow, pow_mul]
  norm_num

theorem toArray_eq (word : BytesN32) : Eip712.toArray word = bigEndian 32 word.toNat := by
  rw [Layout.bigEndian_eq_map, Eip712.toArray]
  apply List.map_congr_left
  intro i _
  exact byte_of_shift word (31 - i)

theorem u32Bytes_eq (v : U32) : u32Bytes v = bigEndian 4 v.toNat := by
  have hbyte := byte_of_shift v
  calc u32Bytes v
      = [UInt8.ofBitVec (v.extractLsb' (8 * 3) 8), UInt8.ofBitVec (v.extractLsb' (8 * 2) 8),
          UInt8.ofBitVec (v.extractLsb' (8 * 1) 8), UInt8.ofBitVec (v.extractLsb' (8 * 0) 8)] := rfl
    _ = [UInt8.ofNat (v.toNat / 256 ^ 3), UInt8.ofNat (v.toNat / 256 ^ 2),
          UInt8.ofNat (v.toNat / 256 ^ 1), UInt8.ofNat (v.toNat / 256 ^ 0)] := by
      rw [hbyte 3, hbyte 2, hbyte 1, hbyte 0]
    _ = bigEndian 4 v.toNat := by
      rw [Layout.bigEndian_eq_map]
      rfl

end Numbers

/-! ## The layout -/

namespace Metadata

/-- The bytes behind the envelope, which the caller of the unlock supplies. -/
def moduleData (m : Metadata) : Bytes :=
  [METADATA_VERSION] ++ (bigEndian 16 m.orderChainId.toNat ++ (bigEndian 16 m.adChainId.toNat ++
    (bigEndian 32 m.orderHash.toNat ++ (bigEndian 32 m.orderChainRoot.toNat ++
    (bigEndian 32 m.adChainRoot.toNat ++ (bigEndian 32 m.makerKeyCommitment.toNat ++
    (bigEndian 32 m.adLegNullifier.toNat ++ (bigEndian 32 m.orderLegNullifier.toNat ++
    (bigEndian 4 m.signerSlotId.toNat ++ (bigEndian 4 m.bridgerSlotId.toNat ++
    (m.pkSigner.1 ++ (m.pkBridger.1 ++ m.aggSig.1))))))))))))

/-- The whole string, as an escrow that vouches for the envelope's fields sends it. -/
def encode (m : Metadata) : Bytes :=
  rootMetadata m.settlementSigner m.bridger m.envelopeOrderHash m.pinnedSlot m.nullifierHash m.side
    m.moduleData

/-- Where each field stands. -/
structure Laid (m : Metadata) (b : Bytes) : Prop where
  settlementSigner : At b 0 (bigEndian 32 m.settlementSigner.toNat)
  bridger : At b 32 (bigEndian 32 m.bridger.toNat)
  envelopeOrderHash : At b 64 (bigEndian 32 m.envelopeOrderHash.toNat)
  pinnedSlot : At b 96 (bigEndian 4 m.pinnedSlot.toNat)
  nullifierHash : At b 100 (bigEndian 32 m.nullifierHash.toNat)
  side : At b 132 [m.side]
  version : At b 133 [METADATA_VERSION]
  orderChainId : At b 134 (bigEndian 16 m.orderChainId.toNat)
  adChainId : At b 150 (bigEndian 16 m.adChainId.toNat)
  orderHash : At b 166 (bigEndian 32 m.orderHash.toNat)
  orderChainRoot : At b 198 (bigEndian 32 m.orderChainRoot.toNat)
  adChainRoot : At b 230 (bigEndian 32 m.adChainRoot.toNat)
  makerKeyCommitment : At b 262 (bigEndian 32 m.makerKeyCommitment.toNat)
  adLegNullifier : At b 294 (bigEndian 32 m.adLegNullifier.toNat)
  orderLegNullifier : At b 326 (bigEndian 32 m.orderLegNullifier.toNat)
  signerSlotId : At b 358 (bigEndian 4 m.signerSlotId.toNat)
  bridgerSlotId : At b 362 (bigEndian 4 m.bridgerSlotId.toNat)
  pkSigner : At b 366 m.pkSigner.1
  pkBridger : At b 462 m.pkBridger.1
  aggSig : At b 558 m.aggSig.1

end Metadata

theorem rootMetadata_eq (signer bridger orderHash : BytesN32) (pinnedSlot : U32)
    (nullifierHash : BytesN32) (side : UInt8) (cosigData : Bytes) :
    rootMetadata signer bridger orderHash pinnedSlot nullifierHash side cosigData
      = bigEndian 32 signer.toNat ++ (bigEndian 32 bridger.toNat ++ (bigEndian 32 orderHash.toNat ++
        (bigEndian 4 pinnedSlot.toNat ++ (bigEndian 32 nullifierHash.toNat ++
        ([side] ++ cosigData))))) := by
  simp only [rootMetadata, Eip712.concat, List.flatMap_cons, List.flatMap_nil, toArray_eq,
    u32Bytes_eq, List.append_assoc, List.append_nil, List.cons_append, List.nil_append]

variable {m m' : Metadata} {b : Bytes}

theorem length_moduleData : m.moduleData.length = 617 := by
  simp only [Metadata.moduleData, List.length_append, Layout.length_bigEndian, m.pkSigner.2,
    m.pkBridger.2, m.aggSig.2, List.length_singleton]

theorem length_encode : m.encode.length = METADATA_LEN := by
  rw [Metadata.encode, rootMetadata_eq]
  simp only [List.length_append, Layout.length_bigEndian, length_moduleData, List.length_singleton,
    METADATA_LEN]

theorem laid_iff : m.Laid b ∧ b.length = METADATA_LEN ↔ b = m.encode := by
  rw [← Layout.at_zero, length_encode, Metadata.encode, rootMetadata_eq, Metadata.moduleData]
  simp only [Layout.at_append, Layout.length_bigEndian, m.pkSigner.2, m.pkBridger.2,
    List.length_singleton]
  constructor
  · rintro ⟨⟨h₁, h₂, h₃, h₄, h₅, h₆, h₇, h₈, h₉, h₁₀, h₁₁, h₁₂, h₁₃, h₁₄, h₁₅, h₁₆, h₁₇, h₁₈, h₁₉, h₂₀⟩,
      hlen⟩
    exact ⟨⟨h₁, h₂, h₃, h₄, h₅, h₆, h₇, h₈, h₉, h₁₀, h₁₁, h₁₂, h₁₃, h₁₄, h₁₅, h₁₆, h₁₇, h₁₈, h₁₉, h₂₀⟩,
      hlen.symm⟩
  · rintro ⟨⟨h₁, h₂, h₃, h₄, h₅, h₆, h₇, h₈, h₉, h₁₀, h₁₁, h₁₂, h₁₃, h₁₄, h₁₅, h₁₆, h₁₇, h₁₈, h₁₉, h₂₀⟩,
      hlen⟩
    exact ⟨⟨h₁, h₂, h₃, h₄, h₅, h₆, h₇, h₈, h₉, h₁₀, h₁₁, h₁₂, h₁₃, h₁₄, h₁₅, h₁₆, h₁₇, h₁₈, h₁₉, h₂₀⟩,
      hlen.symm⟩

theorem laid_of_decode (h : Metadata.decode b = some m)
    (hversion : b[VERSION_OFFSET]? = some METADATA_VERSION) (hlen : b.length = METADATA_LEN) :
    m.Laid b := by
  unfold Metadata.decode at h
  obtain ⟨x₁, h₁, h⟩ := Option.bind_eq_some_iff.mp h
  obtain ⟨x₂, h₂, h⟩ := Option.bind_eq_some_iff.mp h
  obtain ⟨x₃, h₃, h⟩ := Option.bind_eq_some_iff.mp h
  obtain ⟨x₄, h₄, h⟩ := Option.bind_eq_some_iff.mp h
  obtain ⟨x₅, h₅, h⟩ := Option.bind_eq_some_iff.mp h
  obtain ⟨x₆, h₆, h⟩ := Option.bind_eq_some_iff.mp h
  obtain ⟨x₇, h₇, h⟩ := Option.bind_eq_some_iff.mp h
  obtain ⟨x₈, h₈, h⟩ := Option.bind_eq_some_iff.mp h
  obtain ⟨x₉, h₉, h⟩ := Option.bind_eq_some_iff.mp h
  obtain ⟨x₁₀, h₁₀, h⟩ := Option.bind_eq_some_iff.mp h
  obtain ⟨x₁₁, h₁₁, h⟩ := Option.bind_eq_some_iff.mp h
  obtain ⟨x₁₂, h₁₂, h⟩ := Option.bind_eq_some_iff.mp h
  obtain ⟨x₁₃, h₁₃, h⟩ := Option.bind_eq_some_iff.mp h
  obtain ⟨x₁₄, h₁₄, h⟩ := Option.bind_eq_some_iff.mp h
  obtain ⟨x₁₅, h₁₅, h⟩ := Option.bind_eq_some_iff.mp h
  obtain ⟨x₁₆, h₁₆, h⟩ := Option.bind_eq_some_iff.mp h
  obtain ⟨x₁₇, h₁₇, h⟩ := Option.bind_eq_some_iff.mp h
  obtain ⟨x₁₈, h₁₈, h⟩ := Option.bind_eq_some_iff.mp h
  obtain rfl := Option.some.inj h
  have word {offset : ℕ} {x : BytesN 32} (h : arr 32 b offset = some x) :
      At b offset (bigEndian 32 (fromBeBytes 256 x).toNat) := by
    rw [bigEndian_fromBeBytes (by norm_num)]
    exact (arr_eq_some (by norm_num)).mp h
  have chain {offset : ℕ} {x : BytesN 16} (h : arr 16 b offset = some x) :
      At b offset (bigEndian 16 (fromBeBytes 128 x).toNat) := by
    rw [bigEndian_fromBeBytes (by norm_num)]
    exact (arr_eq_some (by norm_num)).mp h
  have slot {offset : ℕ} {x : BytesN 4} (h : arr 4 b offset = some x) :
      At b offset (bigEndian 4 (fromBeBytes 32 x).toNat) := by
    rw [bigEndian_fromBeBytes (by norm_num)]
    exact (arr_eq_some (by norm_num)).mp h
  have hside : At b 132 [(b[132]?).getD 255] := by
    rw [← Layout.getElem?_eq_some]
    have hin : 132 < b.length := by
      rw [hlen]
      decide
    rw [List.getElem?_eq_getElem hin, Option.getD_some]
  exact ⟨word h₁, word h₂, word h₃, slot h₄, word h₅, hside, Layout.getElem?_eq_some.mp hversion,
    chain h₆, chain h₇, word h₈, word h₉, word h₁₀, word h₁₁, word h₁₂, word h₁₃, slot h₁₄, slot h₁₅,
    (arr_eq_some (by norm_num)).mp h₁₆, (arr_eq_some (by norm_num)).mp h₁₇,
    (arr_eq_some (by norm_num)).mp h₁₈⟩

theorem decode_of_laid (h : m.Laid b) : Metadata.decode b = some m := by
  have word {offset : ℕ} {v : BytesN32} (h : At b offset (bigEndian 32 v.toNat)) :
      arr 32 b offset = some ⟨bigEndian 32 v.toNat, Layout.length_bigEndian⟩ :=
    (arr_eq_some (by norm_num)).mpr h
  have chain {offset : ℕ} {v : U128} (h : At b offset (bigEndian 16 v.toNat)) :
      arr 16 b offset = some ⟨bigEndian 16 v.toNat, Layout.length_bigEndian⟩ :=
    (arr_eq_some (by norm_num)).mpr h
  have slot {offset : ℕ} {v : U32} (h : At b offset (bigEndian 4 v.toNat)) :
      arr 4 b offset = some ⟨bigEndian 4 v.toNat, Layout.length_bigEndian⟩ :=
    (arr_eq_some (by norm_num)).mpr h
  have bytes {n offset : ℕ} (hn : 0 < n) {x : BytesN n} (h : At b offset x.1) :
      arr n b offset = some x := (arr_eq_some hn).mpr h
  have hside := Layout.getElem?_eq_some.mpr h.side
  simp only [Metadata.decode, word h.settlementSigner, word h.bridger, word h.envelopeOrderHash,
    slot h.pinnedSlot, word h.nullifierHash, chain h.orderChainId, chain h.adChainId,
    word h.orderHash, word h.orderChainRoot, word h.adChainRoot, word h.makerKeyCommitment,
    word h.adLegNullifier, word h.orderLegNullifier, slot h.signerSlotId, slot h.bridgerSlotId,
    bytes (by norm_num) h.pkSigner, bytes (by norm_num) h.pkBridger, bytes (by norm_num) h.aggSig,
    Option.bind_eq_bind, Option.bind_some, Option.pure_def, hside, Option.getD_some,
    fromBeBytes_bigEndian (by norm_num : 2 ^ 256 = 256 ^ 32),
    fromBeBytes_bigEndian (by norm_num : 2 ^ 128 = 256 ^ 16),
    fromBeBytes_bigEndian (by norm_num : 2 ^ 32 = 256 ^ 4)]

/-- The strings that pass the version and the length are the encodings, each read back whole. -/
theorem decode_iff :
    (Metadata.decode b = some m ∧ b[VERSION_OFFSET]? = some METADATA_VERSION ∧
      b.length = METADATA_LEN) ↔ b = m.encode := by
  rw [← laid_iff]
  constructor
  · rintro ⟨hdecode, hversion, hlen⟩
    exact ⟨laid_of_decode hdecode hversion hlen, hlen⟩
  · rintro ⟨hlaid, hlen⟩
    exact ⟨decode_of_laid hlaid, Layout.getElem?_eq_some.mpr hlaid.version, hlen⟩

/-! ## One string, one reading -/

theorem bigEndian_toNat_inj {n w : ℕ} (hw : 2 ^ w = 256 ^ n) {v v' : BitVec w}
    (h : bigEndian n v.toNat = bigEndian n v'.toNat) : v = v' :=
  BitVec.eq_of_toNat_eq (Layout.bigEndian_inj (lt_of_lt_of_eq v.isLt hw)
    (lt_of_lt_of_eq v'.isLt hw) h)

/-- What an escrow vouches for stands where nothing behind it reaches. -/
theorem rootMetadata_inj {signer signer' bridger bridger' orderHash orderHash' nullifierHash
    nullifierHash' : BytesN32} {pinnedSlot pinnedSlot' : U32} {side side' : UInt8}
    {cosigData cosigData' : Bytes}
    (h : rootMetadata signer bridger orderHash pinnedSlot nullifierHash side cosigData
      = rootMetadata signer' bridger' orderHash' pinnedSlot' nullifierHash' side' cosigData') :
    signer = signer' ∧ bridger = bridger' ∧ orderHash = orderHash' ∧ pinnedSlot = pinnedSlot' ∧
      nullifierHash = nullifierHash' ∧ side = side' ∧ cosigData = cosigData' := by
  have hword : 2 ^ 256 = 256 ^ 32 := by norm_num
  have hsame {n v v' : ℕ} : (bigEndian n v).length = (bigEndian n v').length := by
    rw [Layout.length_bigEndian, Layout.length_bigEndian]
  rw [rootMetadata_eq, rootMetadata_eq] at h
  obtain ⟨hsigner, h⟩ := List.append_inj h hsame
  obtain ⟨hbridger, h⟩ := List.append_inj h hsame
  obtain ⟨horder, h⟩ := List.append_inj h hsame
  obtain ⟨hslot, h⟩ := List.append_inj h hsame
  obtain ⟨hnullifier, h⟩ := List.append_inj h hsame
  obtain ⟨hside, hcosig⟩ := List.append_inj h rfl
  exact ⟨bigEndian_toNat_inj hword hsigner, bigEndian_toNat_inj hword hbridger,
    bigEndian_toNat_inj hword horder, bigEndian_toNat_inj (by norm_num) hslot,
    bigEndian_toNat_inj hword hnullifier, List.singleton_inj.mp hside, hcosig⟩

/-- The fields the parties sign. -/
def Metadata.auth (m : Metadata) : U128 × U128 × List BytesN32 :=
  (m.orderChainId, m.adChainId, [m.orderHash, m.orderChainRoot, m.adChainRoot,
    m.makerKeyCommitment, m.adLegNullifier, m.orderLegNullifier])

/-- The signed bytes name every field. -/
theorem preimage_inj (h : m.preimage = m'.preimage) : m.auth = m'.auth := by
  have hwords := Eip712.concat_injective h
  simp only [List.cons.injEq, and_true, true_and] at hwords
  obtain ⟨horder, had, hhash, hroot, hroot', hkey, hnullifier, hnullifier'⟩ := hwords
  have hchain := Eip712.abiEncodeUint256_injective (by decide : 128 ≤ 256) horder
  have hchain' := Eip712.abiEncodeUint256_injective (by decide : 128 ≤ 256) had
  rw [Metadata.auth, Metadata.auth, hchain, hchain', hhash, hroot, hroot', hkey, hnullifier,
    hnullifier']

/-! ## What is accepted -/

section Accepted

variable {V : VerifierHost} {s : State} {commitmentAt : Address → BytesN32 → U32 → Option BytesN32}
  {sourceChainId : U128} {root : BytesN32}

/-- The parties consented: the signature is of the order the escrow vouched for, of this leg, and
under keys that are the parties' in the registry. -/
structure Accepted (V : VerifierHost) (s : State)
    (commitmentAt : Address → BytesN32 → U32 → Option BytesN32) (sourceChainId : U128)
    (root : BytesN32) (m : Metadata) : Prop where
  order : m.orderHash = m.envelopeOrderHash
  leg : m.leg = some (sourceChainId, root, m.nullifierHash)
  pinned : m.pinnedSlot ≠ UNPINNED → m.signerSlotId = m.pinnedSlot
  named : m.makerKeyCommitment = keyCommitment V.toHost m.pkSigner
  registered : ∃ registry, s.registry = some registry ∧
    commitmentAt registry m.settlementSigner m.signerSlotId
      = some (keyCommitment V.toHost m.pkSigner) ∧
    commitmentAt registry m.bridger m.bridgerSlotId = some (keyCommitment V.toHost m.pkBridger)
  signed : verifyAggregate V m = some true

theorem judge_iff : judge V commitmentAt s sourceChainId root m = some true ↔
    Accepted V s commitmentAt sourceChainId root m := by
  unfold judge
  constructor
  · intro h
    split at h
    · cases h
    next horder =>
    split at h
    · cases h
    next legChain legRoot legNullifier hleg =>
    split at h
    · cases h
    next hnamed =>
    split at h
    · cases h
    next hpinned =>
    split at h
    · cases h
    next hkey =>
    obtain ⟨registry, hregistry, h⟩ := Option.bind_eq_some_iff.mp h
    split at h
    · cases h
    next hmatches =>
    simp only [not_or, not_not] at horder hnamed hkey
    obtain ⟨rfl, rfl, hnullifier⟩ := hnamed
    rw [not_or, Bool.not_eq_false, Bool.not_eq_false] at hmatches
    refine ⟨horder, hnullifier ▸ hleg, ?_, hkey, ⟨registry, hregistry, ?_, ?_⟩, h⟩
    · intro hpin
      by_contra hslot
      exact hpinned ⟨hpin, hslot⟩
    · exact of_decide_eq_true hmatches.1
    · exact of_decide_eq_true hmatches.2
  · rintro ⟨horder, hleg, hpinned, hkey, ⟨registry, hregistry, hsigner, hbridger⟩, hsigned⟩
    have hpin : ¬(m.pinnedSlot ≠ UNPINNED ∧ m.signerSlotId ≠ m.pinnedSlot) :=
      fun ⟨hpin, hslot⟩ => hslot (hpinned hpin)
    simp only [horder, ne_eq, not_true_eq_false, if_false, hleg, or_self, hpin, hkey, hregistry,
      Option.bind_eq_bind, Option.bind_some, commitmentMatches, hsigner, hbridger, decide_true,
      Bool.true_eq_false, hsigned]

/-- **The verifier accepts the encodings of what the parties consented to**, and no other string. -/
theorem isRootValid_iff : isRootValid V commitmentAt s sourceChainId root b = some true ↔
    ∃ m, b = m.encode ∧ Accepted V s commitmentAt sourceChainId root m := by
  unfold isRootValid
  constructor
  · intro h
    split at h
    · cases h
    next hshape =>
    obtain ⟨m, hdecode, hjudge⟩ := Option.bind_eq_some_iff.mp h
    simp only [not_or, not_not] at hshape
    exact ⟨m, decode_iff.mp ⟨hdecode, hshape.2, hshape.1⟩, judge_iff.mp hjudge⟩
  · rintro ⟨m, hb, haccepted⟩
    obtain ⟨hdecode, hversion, hlen⟩ := decode_iff.mpr hb
    rw [if_neg (by simp only [hlen, hversion, ne_eq, not_true_eq_false, or_self, not_false_eq_true])]
    exact Option.bind_eq_some_iff.mpr ⟨m, hdecode, judge_iff.mpr haccepted⟩

end Accepted

end CounterpartyVerifier
end ProofBridge
