import ProofBridge.Core.Outside

/-!
# Settlement keys and owner signatures

The encodings every contract that reads a BLS key shares: the commitment a key is known by on every
chain, the subject of a registration leaf, and the address that recovers from a secp256k1 signature.
-/

namespace ProofBridge

open ContractLib

/-- A byte array of a fixed length. -/
abbrev BytesN (n : ℕ) := { b : Bytes // b.length = n }

/-- The bytes of a string literal. -/
def ascii (s : String) : Bytes := s.toUTF8.data.toList

/-- What a contract that checks keys takes from its host: the hashes and the curves. -/
structure KeyHost extends Host where
  sha256 : Bytes → BytesN32
  /-- `secp256k1_recover` of a digest, `r ‖ s` and a recovery id: the uncompressed key. -/
  secp256k1Recover : BytesN32 → BytesN 64 → ℕ → Option (BytesN 65)
  /-- `ed25519_verify` of a key, a message and a signature did not trap. -/
  ed25519Verify : BytesN32 → Bytes → BytesN 64 → Bool
  /-- `pairing_check([pk, -G1], [hash_to_g2(message, dst), signature])`; a point off the curve or
  its subgroup stops the call. -/
  pairing : (pk : BytesN 96) → (message dst : Bytes) → (signature : BytesN 192) → Option Bool

/-! ## Key commitments -/

/-- The EIP-2537 form of a key: each 48-byte coordinate behind 16 zero bytes. -/
def eip2537 (pk : BytesN 96) : Bytes :=
  List.replicate 16 0 ++ pk.1.take 48 ++ (List.replicate 16 0 ++ pk.1.drop 48)

/-- `key_commitment`: the one name of a key on every chain. -/
def keyCommitment (H : Host) (pk : BytesN 96) : BytesN32 := H.keccak256 (eip2537 pk)

theorem eip2537_injective : Function.Injective eip2537 := by
  intro pk pk' h
  have hlen : (pk.1.take 48).length = (pk'.1.take 48).length := by
    rw [List.length_take, List.length_take, pk.2, pk'.2]
  unfold eip2537 at h
  rw [List.append_assoc, List.append_assoc] at h
  have hcoords := List.append_cancel_left h
  obtain ⟨hx, hrest⟩ := List.append_inj hcoords hlen
  have hy := List.append_cancel_left hrest
  apply Subtype.ext
  rw [← List.take_append_drop 48 pk.1, ← List.take_append_drop 48 pk'.1, hx, hy]

/-! ## Registration leaves -/

def LEAF_DOMAIN_REGISTERED : ℕ := 4

/-- keccak256("ProofBridge.BLSKeyRegistry.RegistrationLeaf.v1") -/
def REG_LEAF_TAG : BytesN32 :=
  0x114cb0bca6cb0f15f05660d63669bc00cbd1d42fc7ace7df9d0916b6ff9a6686

/-- `registration_subject`: the registration an account consents to on its home chain. It binds the
destination chain and registry. -/
def registrationSubject (H : Host) (dstChainId : U128)
    (dstRegistryId account blsCommitment : BytesN32) (epoch : U64) : BytesN32 :=
  H.keccak256 (Eip712.concat [REG_LEAF_TAG, Eip712.abiEncodeUint256 dstChainId, dstRegistryId,
    account, blsCommitment, Eip712.abiEncodeUint256 epoch])

/-! ## secp256k1 -/

/-- secp256k1's group order. -/
def SECP_N : ℕ := 0xfffffffffffffffffffffffffffffffebaaedce6af48a03bbfd25e8cd0364141

/-- The largest low s. -/
def SECP_HALF_N : ℕ := 0x7fffffffffffffffffffffffffffffff5d576e7357a4501ddfe92f46681b20a0

/-- The number a byte array spells, big-endian. -/
def beNat (b : Bytes) : ℕ := b.foldl (fun n byte => 256 * n + byte.toNat) 0

/-- `secp_sig_acceptable`: v in {0, 1, 27, 28}, 0 < r < n, 0 < s ≤ n / 2. -/
def secpSigAcceptable (sig : BytesN 64) (recoveryId : ℕ) : Option ℕ :=
  let r := beNat (sig.1.take 32)
  let s := beNat (sig.1.drop 32)
  let inRange := r ≠ 0 ∧ r < SECP_N ∧ s ≠ 0 ∧ s ≤ SECP_HALF_N
  match recoveryId with
  | 0 | 27 => if inRange then some 0 else none
  | 1 | 28 => if inRange then some 1 else none
  | _ => none

/-- `recover_evm_address`: the address that signed `digest`, `none` for a signature the rule
refuses. A signature within the rule that no key made stops the call in the host. -/
def recoverEvmAddress {ε : Type} (H : KeyHost) (digest : BytesN32) (sig : BytesN 64)
    (recoveryId : ℕ) : Check ε (Option (BitVec 160)) :=
  match secpSigAcceptable sig recoveryId with
  | none => .ok none
  | some v => do
    let pk ← Check.expectTrap (H.secp256k1Recover digest sig v) .callFailed
    pure (some ((H.keccak256 (pk.1.drop 1)).setWidth 160))

end ProofBridge
