import ProofBridge.Core.Eip712

/-!
# The contracts on the other side of a call

An escrow calls token contracts, the Merkle manager, the proof verifier, a root verifier, the root
anchor, a key registry and a dispute module. `Outside X` is what the escrow sees of them: the
state `X` of everything around it, the calls that move it, and the views it reads. A call that
fails is `none`, or names the error when the escrow looks at it; a view that may trap is an
`Option`, and one the escrow wraps in `try_` answers in any case.
-/

namespace ProofBridge

open ContractLib

/-- The token contracts, with the state `X` they are part of. -/
structure Tokens (X : Type) where
  /-- `transfer(from, to, amount)` on the token. -/
  transfer : X → Env → (token payer payee : Address) → ℤ → Option X
  /-- `balance(holder)`. -/
  balance : X → (token holder : Address) → Option ℤ
  /-- `decimals()`. -/
  decimals : X → (token : Address) → Option ℕ

/-- How a call into the dispute module failed. -/
inductive ModuleFailure
  /-- The module's own contract error, by its code. -/
  | contractError (code : ℕ)
  /-- A trap, or no such contract. -/
  | host
  deriving DecidableEq, Repr

/-- What an escrow passes when it files. -/
structure Filing where
  escrow : Address
  orderHash : BytesN32
  peerChainId : U128
  filer : Address
  evidence : BytesN32
  deadline : ℕ
  buffer : ℕ
  token : Address
  amount : ℕ
  deriving DecidableEq, Repr

/-- What an escrow passes when it closes a dispute. -/
structure Settlement where
  escrow : Address
  orderHash : BytesN32
  outcome : DisputeOutcome
  filerIsBridger : Bool
  returnToFiler : Bool
  deriving DecidableEq, Repr

/-- What an escrow passes on a party's response. -/
structure Response where
  escrow : Address
  orderHash : BytesN32
  responder : Address
  evidence : BytesN32
  deriving DecidableEq, Repr

/-- Everything an escrow calls. -/
structure Outside (X : Type) extends Tokens X where
  /-- `append_order_hash` on the Merkle manager. -/
  appendOrderHash : X → Env → (merkleManager manager : Address) → BytesN32 → ℕ → Option X
  /-- `verify_proof` answered without an error. -/
  verifyProof : X → (verifier : Address) → (publicInputs proof : Bytes) → Bool
  /-- `is_root_valid` on a root verifier. -/
  isRootValid : X → Env → (module : Address) → U128 → BytesN32 → (metadata : Bytes) → Option Bool
  /-- `try_is_anchored` answered true. -/
  isAnchored : X → Env → (anchor : Address) → U128 → BytesN32 → Bool
  /-- `try_anchor_delay`. -/
  anchorDelay : X → (anchor : Address) → U128 → Option U64
  /-- `registry()` of a root verifier, where it answers. -/
  verifierRegistry : X → (verifier : Address) → Option Address
  hasUsableSlot : X → Env → (registry : Address) → BytesN32 → Option Bool
  /-- `try_is_approved_maker` answered true. -/
  isApprovedMaker : X → (registry : Address) → (account maker : BytesN32) → Bool
  /-- `try_commitment_at` answered. -/
  slotUsable : X → Env → (registry : Address) → BytesN32 → U32 → Bool
  expiredAt : X → (registry : Address) → BytesN32 → U32 → Option U64
  repinApproval : X → (registry : Address) → (account orderHash : BytesN32) →
    Option (U32 × U32 × U64)
  openDispute : X → Env → (module : Address) → Filing → Except ModuleFailure (ℕ × X)
  settleBond : X → Env → (module : Address) → Settlement → Except ModuleFailure X
  recordResponse : X → Env → (module : Address) → Response → Except ModuleFailure X
  outcomeOf : X → Env → (module : Address) → BytesN32 →
    Except ModuleFailure (DisputeOutcome × Bool × Option Address)
  initiatorOf : X → Env → (module : Address) → BytesN32 → Except ModuleFailure (Option Address)
  challengeDeadlineOf : X → Env → (module : Address) → BytesN32 → Except ModuleFailure ℕ

/-- `dispute_module_fault`: the module's refusals the escrows relay, by code. -/
def disputeModuleFault : ModuleFailure → Fault
  | .contractError 3 => .disputeNotEscrow
  | .contractError 10 => .disputeExists
  | .contractError 16 => .disputeNotResponder
  | .contractError 17 => .disputeNoParams
  | .contractError 21 => .disputeWrongEscrow
  | .contractError 24 => .disputeBondTransferFailed
  | .contractError 25 => .disputeResponseWindowClosed
  | .contractError 26 => .disputeAlreadyResponded
  | .contractError 27 => .disputeZeroResponse
  | .contractError 23 => .disputeAlreadyRuled
  | .contractError _ => .disputeModuleRejected
  | .host => .disputeModuleRejected

/-- The module's answer, or the fault its failure becomes. -/
def moduleAnswer {α : Type} (x : Except ModuleFailure α) : Check Fault α :=
  match x with
  | .ok a => .ok a
  | .error e => .error (.error (disputeModuleFault e))

@[simp] theorem moduleAnswer_ok {α : Type} {x : Except ModuleFailure α} {a : α} :
    moduleAnswer x = .ok a ↔ x = .ok a := by
  cases x <;> simp [moduleAnswer]

@[simp] theorem moduleAnswer_safe {α : Type} {x : Except ModuleFailure α} {t : Trap} :
    (moduleAnswer x).Safe t := by
  cases x <;> simp [moduleAnswer]

/-! ## Token addresses -/

/-- The native token's marker: all `0xEE` bytes. -/
def NATIVE_TOKEN_ADDRESS : BytesN32 :=
  0xEEEEEEEEEEEEEEEEEEEEEEEEEEEEEEEEEEEEEEEEEEEEEEEEEEEEEEEEEEEEEEEE

def isNativeToken (token : BytesN32) : Bool := token = NATIVE_TOKEN_ADDRESS

/-- `bytes32_to_token_address`: `none` for the native marker. -/
def bytes32ToTokenAddress (bytes : BytesN32) : Option Address :=
  if isNativeToken bytes then none else some (.contract bytes)

/-- `bytes32_to_account_address`. -/
def bytes32ToAccountAddress (bytes : BytesN32) : Check Fault Address :=
  if isZeroBytes32 bytes then .error (.error .invalidAccountAddress) else .ok (.account bytes)

/-- `address_to_bytes32`. -/
def addressToBytes32 : Address → BytesN32
  | .account key => key
  | .contract id => id

/-- The token contract that holds what `token` names: the native marker is the wrapped native
token. -/
def underlying (wNative : Address) (token : BytesN32) : Address :=
  if isNativeToken token then wNative else .contract token

theorem bytes32ToTokenAddress_eq_some {token : BytesN32} {a : Address}
    (h : bytes32ToTokenAddress token = some a) (wNative : Address) :
    a = underlying wNative token := by
  unfold bytes32ToTokenAddress at h
  unfold underlying
  split at h <;> simp_all

/-! ## Public inputs and leaf domains -/

/-- What a leaf records, and the proof's last public input. -/
def LEAF_DOMAIN_ORDER : ℕ := 0
def LEAF_DOMAIN_AD : ℕ := 1
def LEAF_DOMAIN_CANCEL : ℕ := 2
def LEAF_DOMAIN_SETTLED : ℕ := 3
def LEAF_DOMAIN_FORFEIT : ℕ := 5

/-- The order of BN254's scalar field. -/
def BN254_R : ℕ := 21888242871839275222246405745257275088548364400416034343698204186575808495617

/-- `field_mod`. -/
def fieldMod (data : BytesN32) : BytesN32 := BitVec.ofNat 256 (data.toNat % BN254_R)

/-- `is_canonical`: the reduction is a no-op. -/
def isCanonical (value : BytesN32) : Bool := fieldMod value = value

/-- `build_public_inputs`: `[nullifier, subject % r, root, chain flag]`. -/
def buildPublicInputs (nullifierHash targetRoot orderHash : BytesN32) (chainFlag : ℕ) :
    Check Fault Bytes :=
  if isCanonical nullifierHash then
    .ok (Eip712.concat [nullifierHash, fieldMod orderHash, targetRoot, BitVec.ofNat 256 chainFlag])
  else .error (.error .nonCanonicalInput)

/-- `build_event_public_inputs`: `[0, subject % r, root, domain]`. -/
def buildEventPublicInputs (targetRoot subject : BytesN32) (domain : ℕ) : Bytes :=
  Eip712.concat [0, fieldMod subject, targetRoot, BitVec.ofNat 256 domain]

/-! ## The root verifier's envelope -/

def ENVELOPE_SIDE_ORDER : UInt8 := 0
def ENVELOPE_SIDE_AD : UInt8 := 1

/-- The order leg's envelope pin: no slot is pinned there. -/
def UNPINNED : U32 := 0xFFFFFFFF

/-- `u32::to_be_bytes`. -/
def u32Bytes (n : U32) : Bytes :=
  [UInt8.ofBitVec (n.extractLsb' 24 8), UInt8.ofBitVec (n.extractLsb' 16 8),
    UInt8.ofBitVec (n.extractLsb' 8 8), UInt8.ofBitVec (n.extractLsb' 0 8)]

/-- What the escrow vouches for when it asks whether a root is valid. -/
def rootMetadata (settlementSigner bridger orderHash : BytesN32) (pinnedSlot : U32)
    (nullifierHash : BytesN32) (side : UInt8) (cosigData : Bytes) : Bytes :=
  Eip712.concat [settlementSigner, bridger, orderHash] ++ u32Bytes pinnedSlot
    ++ Eip712.toArray nullifierHash ++ side :: cosigData

end ProofBridge
