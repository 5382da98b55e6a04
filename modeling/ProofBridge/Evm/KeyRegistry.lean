import ProofBridge.Core.Keys
import ProofBridge.Evm.OrderHash
import ProofBridge.Lib.Run

/-!
# The EVM key registry

The same slots as on Soroban, pruned in place: the loop swaps the last live slot over a dropped one
and looks at the same index again. The wallet and pairing checks, which rest on precompiles and on a
curve library, are read as their verdicts, and so are the contracts around the registry. What the
admin wires may change at any time.
-/

namespace ProofBridge
namespace Evm
namespace KeyRegistry

open ContractLib

def MAX_ACTIVE_SLOTS : ℕ := 5

/-- 30 days. -/
def GRACE_PERIOD : ℕ := 30 * 24 * 60 * 60

/-- 7 days. -/
def MAX_REGISTER_TTL : ℕ := 7 * 24 * 60 * 60

/-- keccak256 of the 128-byte G1 identity encoding: never a key. -/
def IDENTITY_COMMITMENT : BytesN32 :=
  0x012893657d8eb2efad4de0a91bcd0e39ad9837745dec3ea923737ea803fc8e3d

inductive RegistryError
  | enforcedPause
  | badNonce
  | identityKey
  | invalidPop
  | ownerMismatch
  | accountInFlight
  | guardsUnset
  | badLength
  | registryFull
  | noSuchSlot
  | slotExpired
  | keyPreviouslyUsed
  | badValidUntil
  | legMismatch
  | deadlineExpired
  | deadlineTooFar
  | proofRegistrationDisabled
  | sourceNotAllowed (chainId : Uint256)
  | rootNotAnchored (chainId : Uint256) (root : BytesN32)
  | invalidLeafProof
  deriving DecidableEq, Repr

inductive Scheme
  | secp256k1
  | sep53
  deriving DecidableEq, Repr

structure KeyLeg where
  chainId : Uint256
  registry : BytesN32
  nonce : Uint256
  deriving DecidableEq, Repr

structure OwnerAuth where
  scheme : Scheme
  legs : List KeyLeg
  sig : Bytes
  deriving DecidableEq

/-- `KeyMessages.Kind`. -/
inductive Kind
  | register
  | revoke
  | retire
  | cancel
  | approveMaker
  | repin
  deriving DecidableEq, Repr

structure KeySlot where
  commitment : BytesN32
  /-- 0 = no expiry; else usable before it. -/
  validUntil : ℕ
  registeredAt : ℕ
  deriving DecidableEq, Repr

structure MakerApproval where
  approved : Bool
  nonce : ℕ
  generation : ℕ
  deriving DecidableEq, Repr

structure RepinApproval where
  fromSlot : U32
  toSlot : U32
  nonce : ℕ
  deriving DecidableEq, Repr

/-- An account's slots. -/
structure RegistryEntry where
  nextSlotId : U32
  liveSlots : List U32
  slots : Map U32 KeySlot

/-- What the admin wires. -/
structure Settings where
  paused : Bool
  positionGuards : List EvmAddress
  rootAnchor : EvmAddress
  proofVerifier : EvmAddress
  proofSources : List Uint256
  proofRegistrationEnabled : Bool

/-- The block a call runs in, and what it takes from cryptography. -/
structure Host where
  chainId : Uint256
  this : EvmAddress
  keccak256 : Bytes → BytesN32
  /-- `_requirePop` did not revert. -/
  popValid : (account : BytesN32) → (blsPubKey pop : Bytes) → (nonce : Uint256) → Bool
  /-- `_checkOwner` did not revert. -/
  ownerSigned : (account : BytesN32) → OwnerAuth → Kind → (subject : BytesN32) → (time : U64) →
    (approved : Bool) → Bool

/-- The contracts a registry asks; a view that reverts answers `none`. -/
structure Neighbors (Y : Type) where
  hasOpenPositions : Y → (guard : EvmAddress) → BytesN32 → Option Bool
  isAnchored : Y → (timestamp : Uint256) → (anchor : EvmAddress) → Uint256 → BytesN32 → Option Bool
  verify : Y → (verifier : EvmAddress) → (proof : Bytes) → (inputs : List BytesN32) → Option Bool

/-- The registry's storage, and everything around it. An unset entry of a mapping reads as zero. -/
structure Registry (Y : Type) where
  settings : Settings
  entries : Map BytesN32 RegistryEntry
  nonceOf : Map BytesN32 Uint256
  expiries : Map (BytesN32 × U32) ℕ
  usedCommitment : Map (BytesN32 × BytesN32) Bool
  /-- The slot a key occupies, plus one. -/
  slotOfKey : Map (BytesN32 × BytesN32) ℕ
  makerApprovals : Map (BytesN32 × BytesN32) MakerApproval
  approvalGeneration : Map BytesN32 ℕ
  repins : Map (BytesN32 × BytesN32) RepinApproval
  outside : Y

variable {Y : Type}

/-- A registry just deployed with these settings. -/
def Registry.deployed (settings : Settings) (y : Y) : Registry Y where
  settings := settings
  entries := ∅
  nonceOf := ∅
  expiries := ∅
  usedCommitment := ∅
  slotOfKey := ∅
  makerApprovals := ∅
  approvalGeneration := ∅
  repins := ∅
  outside := y

/-- An account nobody registered. -/
def RegistryEntry.empty : RegistryEntry where
  nextSlotId := 0
  liveSlots := []
  slots := ∅

/-- The zero slot. -/
def KeySlot.unset : KeySlot where
  commitment := 0
  validUntil := 0
  registeredAt := 0

namespace RegistryEntry

variable (e : RegistryEntry)

def slot (id : U32) : KeySlot := (e.slots.get? id).getD .unset

end RegistryEntry

namespace Registry

variable (s : Registry Y) (account : BytesN32)

def entry : RegistryEntry := (s.entries.get? account).getD .empty

def nonce : Uint256 := (s.nonceOf.get? account).getD 0

def used (commitment : BytesN32) : Bool :=
  (s.usedCommitment.get? (account, commitment)).getD false

def approval (maker : BytesN32) : MakerApproval :=
  (s.makerApprovals.get? (account, maker)).getD { approved := false, nonce := 0, generation := 0 }

def generation : ℕ := (s.approvalGeneration.get? account).getD 0

def repin (orderHash : BytesN32) : RepinApproval :=
  (s.repins.get? (account, orderHash)).getD { fromSlot := 0, toSlot := 0, nonce := 0 }

end Registry

/-! ## Slots -/

section Slots

variable (timestamp : Uint256) (account : BytesN32)

/-- `_expiredAt`: 0 while unbounded, else the recorded expiry. -/
def expiredAt (e : RegistryEntry) (expiries : Map (BytesN32 × U32) ℕ) (id : U32) : ℕ :=
  let vu := (e.slot id).validUntil
  if vu = 0 then 0
  else
    let recorded := (expiries.get? (account, id)).getD 0
    if recorded = 0 then vu else recorded

/-- A dead slot the escrows can no longer need. -/
def prunable (atOnce : Bool) (e : RegistryEntry) (expiries : Map (BytesN32 × U32) ℕ) (id : U32) :
    Bool :=
  let vu := expiredAt account e expiries id
  vu ≠ 0 && decide (vu + (if atOnce = true then 0 else GRACE_PERIOD) < timestamp.toNat)

/-- `liveSlots[i] = liveSlots[liveSlots.length - 1]; liveSlots.pop()`. -/
def swapPop (live : List U32) (i : ℕ) : List U32 :=
  (live.set i (live.getLast?.getD 0)).dropLast

theorem length_swapPop {live : List U32} {i : ℕ} : (swapPop live i).length = live.length - 1 := by
  simp [swapPop]

/-- The loop of `_prune`: a dropped slot is overwritten by the last one, and the same index is
looked at again. -/
def pruneLoop (atOnce : Bool) (i : ℕ) (e : RegistryEntry) (expiries : Map (BytesN32 × U32) ℕ) :
    RegistryEntry × Map (BytesN32 × U32) ℕ :=
  if h : i < e.liveSlots.length then
    let id := e.liveSlots[i]
    if prunable timestamp account atOnce e expiries id = true then
      pruneLoop atOnce i
        { e with slots := e.slots.remove id, liveSlots := swapPop e.liveSlots i }
        (expiries.remove (account, id))
    else pruneLoop atOnce (i + 1) e expiries
  else (e, expiries)
termination_by e.liveSlots.length - i
decreasing_by
  · simp only [length_swapPop]
    omega
  · omega

end Slots

section Entries

variable (N : Neighbors Y) (H : Host) (timestamp : Uint256)

/-- `_hasOpenPositions`: asks the guards in order, up to the first that says yes. -/
def hasOpenPositions (y : Y) (account : BytesN32) : List EvmAddress → Check RegistryError Bool
  | [] => pure false
  | guard :: guards => do
    let answer ← Check.expectTrap (N.hasOpenPositions y guard account) .callFailed
    if answer then pure true else hasOpenPositions y account guards

/-- `_requireNoOpenPositions`. -/
def requireNoOpenPositions (account : BytesN32) (s : Registry Y) : Check RegistryError Unit := do
  Check.require (s.settings.positionGuards ≠ []) .guardsUnset
  let inFlight ← hasOpenPositions N s.outside account s.settings.positionGuards
  Check.require (inFlight = false) .accountInFlight

def pruneAtOnce (account : BytesN32) (s : Registry Y) : Check RegistryError Bool :=
  if s.settings.positionGuards = [] then .ok false
  else do
    let inFlight ← hasOpenPositions N s.outside account s.settings.positionGuards
    pure (!inFlight)

/-- `_prune`. -/
def prune (account : BytesN32) : Tx RegistryError (Registry Y) Unit := do
  let atOnce ← Tx.view (pruneAtOnce N account)
  Tx.modify fun s =>
    let pruned := pruneLoop timestamp account atOnce 0 (s.entry account) s.expiries
    { s with entries := s.entries.set account pruned.1, expiries := pruned.2 }

/-- Make room in a full entry. -/
def pruneFull (account : BytesN32) : Tx RegistryError (Registry Y) Unit := do
  let s ← Tx.read
  if MAX_ACTIVE_SLOTS ≤ (s.entry account).liveSlots.length then
    prune N timestamp account
    let s ← Tx.read
    Tx.require ((s.entry account).liveSlots.length < MAX_ACTIVE_SLOTS) .registryFull
  else pure ()

/-- `_addSlot`. -/
def addSlot (account commitment : BytesN32) : Tx RegistryError (Registry Y) U32 := do
  let s ← Tx.read
  Tx.require (s.used account commitment = false) .keyPreviouslyUsed
  pruneFull N timestamp account
  let s ← Tx.read
  let e := s.entry account
  let slotId := e.nextSlotId
  let next ← Tx.lift (Check.add 32 slotId.toNat 1)
  Tx.modify fun s => { s with
    entries := s.entries.set account {
      nextSlotId := BitVec.ofNat 32 next
      slots := e.slots.set slotId
        { commitment, validUntil := 0, registeredAt := timestamp.toNat % 2 ^ 64 }
      liveSlots := e.liveSlots ++ [slotId] }
    usedCommitment := s.usedCommitment.set (account, commitment) true
    slotOfKey := s.slotOfKey.set (account, commitment) (slotId.toNat + 1) }
  pure slotId

def whenNotPaused : Tx RegistryError (Registry Y) Unit := do
  let s ← Tx.read
  Tx.require (s.settings.paused = false) .enforcedPause

def registryId : BytesN32 := H.this.setWidth 256

/-- `_requireOwnLeg`: exactly one leg names this registry, and it carries the current nonce. -/
def requireOwnLeg (legs : List KeyLeg) (nonce : Uint256) : Check RegistryError Unit :=
  match legs.filter fun l => l.chainId = H.chainId && l.registry = registryId H with
  | [l] => Check.require (l.nonce = nonce) .legMismatch
  | _ => .error (.error .legMismatch)

def checkOwner (account : BytesN32) (owner : OwnerAuth) (kind : Kind) (subject : BytesN32)
    (time : U64) (approved : Bool) : Check RegistryError Unit :=
  Check.require (H.ownerSigned account owner kind subject time approved = true) .ownerMismatch

def requirePop (account : BytesN32) (blsPubKey pop : Bytes) (nonce : Uint256) :
    Check RegistryError Unit :=
  Check.require (H.popValid account blsPubKey pop nonce = true) .invalidPop

/-- `nonceOf[account] = nonce + 1`. -/
def bumpNonce (account : BytesN32) (nonce : Uint256) : Tx RegistryError (Registry Y) Unit := do
  let next ← Tx.lift (Check.add 256 nonce.toNat 1)
  Tx.modify fun s => { s with nonceOf := s.nonceOf.set account (BitVec.ofNat 256 next) }

/-- A deadline that has not passed and is at most `MAX_REGISTER_TTL` out. -/
def requireDeadline (deadline : U64) : Check RegistryError Unit := do
  Check.require (timestamp.toNat ≤ deadline.toNat) .deadlineExpired
  let latest ← Check.add 256 timestamp.toNat MAX_REGISTER_TTL
  Check.require (deadline.toNat ≤ latest) .deadlineTooFar

/-- Adds a slot. -/
def register (account : BytesN32) (owner : OwnerAuth) (blsPubKey pop : Bytes) (nonce : Uint256)
    (deadline : U64) : Tx RegistryError (Registry Y) U32 := do
  whenNotPaused
  Tx.lift (requireDeadline timestamp deadline)
  Tx.require (¬(blsPubKey.length ≠ 128 ∨ pop.length ≠ 256)) .badLength
  let s ← Tx.read
  Tx.require (nonce = s.nonce account) .badNonce
  let commitment := H.keccak256 blsPubKey
  Tx.require (commitment ≠ IDENTITY_COMMITMENT) .identityKey
  Tx.lift (requirePop H account blsPubKey pop nonce)
  Tx.lift (requireOwnLeg H owner.legs nonce)
  Tx.lift (checkOwner H account owner .register commitment deadline false)
  let slotId ← addSlot N timestamp account commitment
  bumpNonce account nonce
  pure slotId

/-- `RegistrationSubject.subject` for this registry. -/
def registrationSubject (account commitment : BytesN32) (epoch : U64) : BytesN32 :=
  H.keccak256 (Eip712.concat [REG_LEAF_TAG, H.chainId, registryId H, account, commitment,
    Eip712.abiEncodeUint256 epoch])

/-- `RequestAuth.buildEventInputs`. -/
def buildEventInputs (targetRoot subject : BytesN32) (domain : ℕ) : List BytesN32 :=
  [0, fieldMod subject, targetRoot, BitVec.ofNat 256 domain]

/-- Adds a slot on a proof of the account's home-chain leaf instead of a signature. -/
def registerByProof (account : BytesN32) (blsPubKey pop : Bytes) (epoch : U64)
    (sourceChainId : Uint256) (targetRoot : BytesN32) (proof : Bytes) :
    Tx RegistryError (Registry Y) U32 := do
  whenNotPaused
  let s ← Tx.read
  Tx.require (s.settings.proofRegistrationEnabled = true) .proofRegistrationDisabled
  Tx.require (¬(blsPubKey.length ≠ 128 ∨ pop.length ≠ 256)) .badLength
  let commitment := H.keccak256 blsPubKey
  Tx.require (commitment ≠ IDENTITY_COMMITMENT) .identityKey
  Tx.require (s.used account commitment = false) .keyPreviouslyUsed
  Tx.require (sourceChainId ∈ s.settings.proofSources) (.sourceNotAllowed sourceChainId)
  let anchored ← Tx.expectTrap
    (N.isAnchored s.outside timestamp s.settings.rootAnchor sourceChainId targetRoot) .callFailed
  Tx.require (anchored = true) (.rootNotAnchored sourceChainId targetRoot)
  Tx.lift (requirePop H account blsPubKey pop (epoch.setWidth 256))
  let inputs := buildEventInputs targetRoot (registrationSubject H account commitment epoch)
    LEAF_DOMAIN_REGISTERED
  let verified ← Tx.expectTrap (N.verify s.outside s.settings.proofVerifier proof inputs)
    .callFailed
  Tx.require (verified = true) .invalidLeafProof
  addSlot N timestamp account commitment

/-- `slotOfKey`: the slot a key occupies while it exists. -/
def slotOfKey (account keyCommitment : BytesN32) (s : Registry Y) : Check RegistryError U32 := do
  let plusOne := (s.slotOfKey.get? (account, keyCommitment)).getD 0
  Check.require (plusOne ≠ 0) .noSuchSlot
  let slotId : U32 := BitVec.ofNat 32 (plusOne - 1)
  Check.require (((s.entry account).slot slotId).commitment = keyCommitment) .noSuchSlot
  pure slotId

/-- Shorten-only, nonce-free, never guarded and not pausable. -/
def setValidUntil (account : BytesN32) (owner : OwnerAuth) (keyCommitment : BytesN32)
    (validUntil : U64) : Tx RegistryError (Registry Y) Unit := do
  let slotId ← Tx.view (slotOfKey account keyCommitment)
  let s ← Tx.read
  let e := s.entry account
  let slot := e.slot slotId
  Tx.require (¬(validUntil.toNat = 0 ∨
    slot.validUntil ≠ 0 ∧ slot.validUntil ≤ validUntil.toNat)) .badValidUntil
  Tx.require (owner.legs = []) .legMismatch
  Tx.lift (checkOwner H account owner .retire keyCommitment validUntil false)
  let now := timestamp.toNat % 2 ^ 64
  let eff := if validUntil.toNat < now then now else validUntil.toNat
  let prev := (s.expiries.get? (account, slotId)).getD 0
  Tx.modify fun s => { s with
    entries := s.entries.set account { e with
      slots := e.slots.set slotId { slot with validUntil := validUntil.toNat } }
    expiries := s.expiries.set (account, slotId) (if prev = 0 ∨ eff < prev then eff else prev) }

/-- Leaves the protocol: drops every slot, which the guards must allow, and every approval. -/
def revoke (account : BytesN32) (owner : OwnerAuth) (nonce : Uint256) :
    Tx RegistryError (Registry Y) Unit := do
  whenNotPaused
  let s ← Tx.read
  let e := s.entry account
  Tx.require (nonce = s.nonce account) .badNonce
  Tx.lift (if e.liveSlots ≠ [] then requireNoOpenPositions N account s else .ok ())
  Tx.lift (requireOwnLeg H owner.legs nonce)
  Tx.lift (checkOwner H account owner .revoke 0 0 false)
  Tx.modify fun s => { s with
    entries := s.entries.set account { e with
      slots := e.liveSlots.foldl (fun slots id => slots.remove id) e.slots
      liveSlots := [] }
    expiries := e.liveSlots.foldl (fun expiries id => expiries.remove (account, id)) s.expiries }
  bumpNonce account nonce
  let generation ← Tx.lift (Check.add 64 (s.generation account) 1)
  Tx.modify fun s => { s with
    approvalGeneration := s.approvalGeneration.set account generation }

/-- Consumes the nonce and with it every outstanding signature that names it here. -/
def cancel (account : BytesN32) (owner : OwnerAuth) (nonce : Uint256) :
    Tx RegistryError (Registry Y) Unit := do
  whenNotPaused
  let s ← Tx.read
  Tx.require (nonce = s.nonce account) .badNonce
  Tx.lift (requireOwnLeg H owner.legs nonce)
  Tx.lift (checkOwner H account owner .cancel 0 0 false)
  bumpNonce account nonce

/-- Lets `maker` name the account as an ad's settlement signer, or withdraws that. -/
def approveMaker (account maker : BytesN32) (approved : Bool) (owner : OwnerAuth)
    (nonce : Uint256) (deadline : U64) : Tx RegistryError (Registry Y) Unit := do
  let s ← Tx.read
  Tx.require (¬(approved = true ∧ s.settings.paused = true)) .enforcedPause
  Tx.lift (requireDeadline timestamp deadline)
  Tx.require (nonce.toNat = (s.approval account maker).nonce) .badNonce
  Tx.lift (requireOwnLeg H owner.legs nonce)
  Tx.lift (checkOwner H account owner .approveMaker maker deadline approved)
  let next ← Tx.lift (Check.add 256 nonce.toNat 1)
  Tx.modify fun s => { s with
    makerApprovals := s.makerApprovals.set (account, maker)
      { approved, nonce := next % 2 ^ 64, generation := s.generation account } }

/-- The signer consents to move the order's pin. -/
def approveRepin (account orderHash : BytesN32) (fromSlot toSlot : U32) (owner : OwnerAuth)
    (nonce : Uint256) : Tx RegistryError (Registry Y) Unit := do
  let s ← Tx.read
  Tx.require (nonce.toNat = (s.repin account orderHash).nonce) .badNonce
  Tx.lift (requireOwnLeg H owner.legs nonce)
  Tx.lift (checkOwner H account owner .repin orderHash (fromSlot ++ toSlot) false)
  let next ← Tx.lift (Check.add 256 nonce.toNat 1)
  Tx.modify fun s => { s with
    repins := s.repins.set (account, orderHash) { fromSlot, toSlot, nonce := next % 2 ^ 64 } }

/-! ## Views -/

/-- The slot exists and is not past its bound. -/
def commitmentAt (account : BytesN32) (slotId : U32) (s : Registry Y) :
    Check RegistryError BytesN32 := do
  let slot := (s.entry account).slot slotId
  Check.require (slot.commitment ≠ 0) .noSuchSlot
  Check.require (¬(slot.validUntil ≠ 0 ∧ slot.validUntil ≤ timestamp.toNat)) .slotExpired
  pure slot.commitment

/-- At least one live slot is usable now. -/
def hasUsableSlot (account : BytesN32) (s : Registry Y) : Bool :=
  (s.entry account).liveSlots.any fun id =>
    let vu := ((s.entry account).slot id).validUntil
    vu = 0 || decide (timestamp.toNat < vu)

/-- The account approved the maker since its last `revoke` and has not withdrawn it. -/
def isApprovedMaker (account maker : BytesN32) (s : Registry Y) : Bool :=
  (s.approval account maker).approved &&
    decide ((s.approval account maker).generation = s.generation account)

end Entries

/-! ## The registry as the chain sees it -/

/-- The owner's calls, with their arguments. -/
inductive Call
  | register (account : BytesN32) (owner : OwnerAuth) (blsPubKey pop : Bytes) (nonce : Uint256)
      (deadline : U64)
  | registerByProof (account : BytesN32) (blsPubKey pop : Bytes) (epoch : U64)
      (sourceChainId : Uint256) (targetRoot : BytesN32) (proof : Bytes)
  | setValidUntil (account : BytesN32) (owner : OwnerAuth) (keyCommitment : BytesN32)
      (validUntil : U64)
  | revoke (account : BytesN32) (owner : OwnerAuth) (nonce : Uint256)
  | cancel (account : BytesN32) (owner : OwnerAuth) (nonce : Uint256)
  | approveMaker (account maker : BytesN32) (approved : Bool) (owner : OwnerAuth)
      (nonce : Uint256) (deadline : U64)
  | approveRepin (account orderHash : BytesN32) (fromSlot toSlot : U32) (owner : OwnerAuth)
      (nonce : Uint256)
  deriving DecidableEq

/-- What a call answers. -/
inductive Ret
  | unit
  | slot (slotId : U32)
  deriving DecidableEq

/-- A call of an entry point that answers nothing. -/
abbrev done (x : Tx RegistryError (Registry Y) Unit) : Tx RegistryError (Registry Y) Ret :=
  Tx.answer (fun _ => .unit) x

def exec (N : Neighbors Y) (H : Host) (timestamp : Uint256) :
    Call → Tx RegistryError (Registry Y) Ret
  | .register account owner blsPubKey pop nonce deadline =>
    Tx.answer .slot (register N H timestamp account owner blsPubKey pop nonce deadline)
  | .registerByProof account blsPubKey pop epoch sourceChainId targetRoot proof =>
    Tx.answer .slot
      (registerByProof N H timestamp account blsPubKey pop epoch sourceChainId targetRoot proof)
  | .setValidUntil account owner keyCommitment validUntil =>
    done (setValidUntil H timestamp account owner keyCommitment validUntil)
  | .revoke account owner nonce => done (revoke N H account owner nonce)
  | .cancel account owner nonce => done (cancel H account owner nonce)
  | .approveMaker account maker approved owner nonce deadline =>
    done (approveMaker H timestamp account maker approved owner nonce deadline)
  | .approveRepin account orderHash fromSlot toSlot owner nonce =>
    done (approveRepin H account orderHash fromSlot toSlot owner nonce)

/-- The registry with its chain: between two calls the admin may rewire it in any way, and what is
around it may move. -/
def system (N : Neighbors Y) (H : Host) (outside : Y → Y → Prop) :
    System RegistryError (Registry Y) (Uint256 × Call) Ret where
  call t := exec N H t.1 t.2
  admits _ _ := True
  outside s s' := ∃ settings y, (y = s.outside ∨ outside s.outside y) ∧
    s' = { s with settings, outside := y }

end KeyRegistry
end Evm
end ProofBridge
