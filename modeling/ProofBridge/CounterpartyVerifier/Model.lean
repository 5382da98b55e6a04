import ProofBridge.Core.Keys
import ProofBridge.Lib.Layout

/-!
# The counterparty verifier

The module behind the root verifier seam: a root is valid when both parties' aggregate signature over
the settlement auth that names it verifies under their registered keys. The escrow calls it with one
byte string, in which what the escrow vouches for stands before what the caller of the unlock supplied.
-/

namespace ProofBridge
namespace CounterpartyVerifier

open ContractLib
open ContractLib.Layout (ofBytes bigEndian)

def DST_SIG : Bytes := ascii "BLS_SIG_BLS12381G2_XMD:SHA-256_SSWU_RO_POP_"

/-- keccak256("ProofBridge.Settlement.v1") -/
def SETTLE_TAG : BytesN32 := 0x3d7bf6a386b1a08577b287b9c96a47ad90915165c3075b0d7765ff247a046df5

def METADATA_VERSION : UInt8 := 4

/-- The envelope of 133 bytes, then the module data of 617. -/
def METADATA_LEN : ℕ := 750
def VERSION_OFFSET : ℕ := 133

def SIDE_ORDER : UInt8 := 0
def SIDE_AD : UInt8 := 1

inductive VerifierError
  | alreadyInitialized
  deriving DecidableEq, Repr

/-- The curve operations beside a single signature's. -/
structure VerifierHost extends KeyHost where
  /-- `g1_add`; a point off the curve stops the call. -/
  g1Add : BytesN 96 → BytesN 96 → Option (BytesN 96)

/-! ## Storage -/

structure State where
  init : Bool
  registry : Option Address
  deriving DecidableEq, Repr

def State.fresh : State where
  init := false
  registry := none

def initializeContract (registry : Address) : Tx VerifierError State Unit := do
  let s ← Tx.read
  Tx.require (s.init = false) .alreadyInitialized
  Tx.modify fun _ => { init := true, registry := some registry }

/-! ## The metadata -/

structure Metadata where
  orderChainId : U128
  adChainId : U128
  orderHash : BytesN32
  orderChainRoot : BytesN32
  adChainRoot : BytesN32
  makerKeyCommitment : BytesN32
  adLegNullifier : BytesN32
  orderLegNullifier : BytesN32
  settlementSigner : BytesN32
  bridger : BytesN32
  envelopeOrderHash : BytesN32
  pinnedSlot : U32
  nullifierHash : BytesN32
  side : UInt8
  signerSlotId : U32
  bridgerSlotId : U32
  pkSigner : BytesN 96
  pkBridger : BytesN 96
  aggSig : BytesN 192
  deriving DecidableEq

/-- `arr`: the bytes from `offset` on; a range out of the string stops the call. -/
def arr (n : ℕ) (b : Bytes) (offset : ℕ) : Option (BytesN n) :=
  if h : offset + n ≤ b.length then
    some ⟨(b.drop offset).take n, by rw [List.length_take, List.length_drop]; omega⟩
  else none

/-- `from_be_bytes` of an array. -/
def fromBeBytes {n : ℕ} (w : ℕ) (x : BytesN n) : BitVec w := BitVec.ofNat w (ofBytes x.1)

def Metadata.decode (b : Bytes) : Option Metadata := do
  let settlementSigner ← arr 32 b 0
  let bridger ← arr 32 b 32
  let envelopeOrderHash ← arr 32 b 64
  let pinnedSlot ← arr 4 b 96
  let nullifierHash ← arr 32 b 100
  let orderChainId ← arr 16 b 134
  let adChainId ← arr 16 b 150
  let orderHash ← arr 32 b 166
  let orderChainRoot ← arr 32 b 198
  let adChainRoot ← arr 32 b 230
  let makerKeyCommitment ← arr 32 b 262
  let adLegNullifier ← arr 32 b 294
  let orderLegNullifier ← arr 32 b 326
  let signerSlotId ← arr 4 b 358
  let bridgerSlotId ← arr 4 b 362
  let pkSigner ← arr 96 b 366
  let pkBridger ← arr 96 b 462
  let aggSig ← arr 192 b 558
  pure {
    settlementSigner := fromBeBytes 256 settlementSigner
    bridger := fromBeBytes 256 bridger
    envelopeOrderHash := fromBeBytes 256 envelopeOrderHash
    pinnedSlot := fromBeBytes 32 pinnedSlot
    nullifierHash := fromBeBytes 256 nullifierHash
    side := (b[132]?).getD 255
    orderChainId := fromBeBytes 128 orderChainId
    adChainId := fromBeBytes 128 adChainId
    orderHash := fromBeBytes 256 orderHash
    orderChainRoot := fromBeBytes 256 orderChainRoot
    adChainRoot := fromBeBytes 256 adChainRoot
    makerKeyCommitment := fromBeBytes 256 makerKeyCommitment
    adLegNullifier := fromBeBytes 256 adLegNullifier
    orderLegNullifier := fromBeBytes 256 orderLegNullifier
    signerSlotId := fromBeBytes 32 signerSlotId
    bridgerSlotId := fromBeBytes 32 bridgerSlotId
    pkSigner, pkBridger, aggSig }

namespace Metadata

variable (m : Metadata)

/-- What the parties sign: `SETTLE_TAG ‖ orderChainId ‖ adChainId ‖ orderHash ‖ roots ‖
makerKeyCommitment ‖ adLegNullifier ‖ orderLegNullifier`, 32 bytes each. -/
def preimage : Bytes :=
  Eip712.concat [SETTLE_TAG, Eip712.abiEncodeUint256 m.orderChainId,
    Eip712.abiEncodeUint256 m.adChainId, m.orderHash, m.orderChainRoot, m.adChainRoot,
    m.makerKeyCommitment, m.adLegNullifier, m.orderLegNullifier]

/-- The source chain, the root and the nullifier of the leg the side picks. -/
def leg : Option (U128 × BytesN32 × BytesN32) :=
  if m.side = SIDE_AD then some (m.orderChainId, m.orderChainRoot, m.adLegNullifier)
  else if m.side = SIDE_ORDER then some (m.adChainId, m.adChainRoot, m.orderLegNullifier)
  else none

end Metadata

/-! ## The check -/

section Check

variable (V : VerifierHost) (commitmentAt : Address → BytesN32 → U32 → Option BytesN32)

/-- `commitment_matches`: a slot that does not answer matches nothing. -/
def commitmentMatches (registry : Address) (account : BytesN32) (slotId : U32)
    (commitment : BytesN32) : Bool :=
  commitmentAt registry account slotId = some commitment

/-- `verify_aggregate`: e(pkM + pkB, H(preimage)) == e(G1, aggSig) -/
def verifyAggregate (m : Metadata) : Option Bool := do
  let pkAgg ← V.g1Add m.pkSigner m.pkBridger
  V.pairing pkAgg m.preimage DST_SIG m.aggSig

/-- What `is_root_valid` asks of the decoded metadata. -/
def judge (s : State) (sourceChainId : U128) (root : BytesN32) (m : Metadata) : Option Bool :=
  -- a signature over another order between the same parties is not consent to this one
  if m.orderHash ≠ m.envelopeOrderHash then some false
  else match m.leg with
    | none => some false
    | some (legChain, legRoot, legNullifier) =>
      if sourceChainId ≠ legChain ∨ root ≠ legRoot ∨ m.nullifierHash ≠ legNullifier then
        some false
      else if m.pinnedSlot ≠ UNPINNED ∧ m.signerSlotId ≠ m.pinnedSlot then some false
      -- the bridger signed for one key of the maker's
      else if m.makerKeyCommitment ≠ keyCommitment V.toHost m.pkSigner then some false
      else do
        let registry ← s.registry
        if commitmentMatches commitmentAt registry m.settlementSigner m.signerSlotId
              (keyCommitment V.toHost m.pkSigner) = false ∨
            commitmentMatches commitmentAt registry m.bridger m.bridgerSlotId
              (keyCommitment V.toHost m.pkBridger) = false then some false
        else verifyAggregate V m

/-- `is_root_valid`; `none` is a call that stopped. -/
def isRootValid (s : State) (sourceChainId : U128) (root : BytesN32) (metadata : Bytes) :
    Option Bool :=
  if metadata.length ≠ METADATA_LEN ∨ metadata[VERSION_OFFSET]? ≠ some METADATA_VERSION then
    some false
  else do
    let m ← Metadata.decode metadata
    judge V commitmentAt s sourceChainId root m

end Check

end CounterpartyVerifier
end ProofBridge
