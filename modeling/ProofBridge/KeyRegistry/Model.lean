import ProofBridge.Core.Timelock
import ProofBridge.KeyRegistry.Owner
import ProofBridge.Lib.Run

/-!
# The key registry

Maps an account to up to five BLS key slots. A slot's id is never reused and a key never enters a
slot of its account twice; what stops a slot is its bound, and a slot whose bound lies far enough in
the past is dropped when room is needed. State changes are the owner's, by a signature anyone may
relay; the admin wires the guards, which keep a key with open trades from leaving.
-/

namespace ProofBridge
namespace KeyRegistry

open ContractLib

def DST_POP : Bytes := ascii "BLS_POP_BLS12381G2_XMD:SHA-256_SSWU_RO_POP_"

/-- keccak256("ProofBridge.BLSKeyRegistry.PoP.v1") -/
def POP_TAG : BytesN32 := 0x28cc1b6c54f422c03457077ba8814710c3ddb07ee5b4a068e990bb90c5622007

def MAX_ACTIVE_SLOTS : ℕ := 5

/-- Seconds past its expiry before a dead slot may go while its account has open positions. -/
def GRACE_PERIOD : ℕ := 30 * 24 * 60 * 60

/-- `timelock_error`: the shared timelock's refusals as this contract's errors. -/
def timelockError : Fault → RegistryError
  | .timelockAlreadyActive => .timelockAlreadyActive
  | .timelockAlreadyProposed => .timelockAlreadyProposed
  | .timelockTooEarly => .timelockTooEarly
  | .timelockBadArgs => .timelockBadArgs
  | .timelockExpired => .timelockExpired
  | .timelockCancelledByBrake => .timelockCancelledByBrake
  | _ => .timelockNotProposed

/-! ## Storage -/

/-- The references registration by proof needs, and its flag. -/
structure ProofRegistration where
  anchor : Address
  verifier : Address
  /-- The home chains a leaf may come from. -/
  sources : List U128
  enabled : Bool
  deriving DecidableEq, Repr

structure KeySlot where
  commitment : BytesN32
  /-- 0 = no expiry; else usable before it. -/
  validUntil : ℕ
  registeredAt : ℕ
  deriving DecidableEq, Repr

structure RegistryEntry where
  nextSlotId : U32
  /-- The stored slots. -/
  live : List U32
  deriving DecidableEq, Repr

/-- One (account, maker) approval: its flag, the pair's next nonce and the generation of the
account it was set at. -/
structure MakerApproval where
  approved : Bool
  nonce : ℕ
  generation : ℕ
  deriving DecidableEq, Repr

/-- The latest consent to move one order's pin; `nonce` is the pair's next. -/
structure RepinApproval where
  fromSlot : U32
  toSlot : U32
  nonce : ℕ
  deriving DecidableEq, Repr

/-- The records of the accounts. -/
structure Keys where
  entries : Map BytesN32 RegistryEntry
  slots : Map (BytesN32 × U32) KeySlot
  /-- When a shortened slot stopped being usable. -/
  expiries : Map (BytesN32 × U32) ℕ
  /-- The slot a key occupies; outlives the slot. -/
  keySlots : Map (BytesN32 × BytesN32) U32
  /-- Commitments that ever held a slot of the account. -/
  used : Map (BytesN32 × BytesN32) Unit
  nonces : Map BytesN32 ℕ
  approvals : Map (BytesN32 × BytesN32) MakerApproval
  repins : Map (BytesN32 × BytesN32) RepinApproval
  /-- Bumped by `revoke`. -/
  approvalGens : Map BytesN32 ℕ

namespace Keys

def fresh : Keys where
  entries := ∅
  slots := ∅
  expiries := ∅
  keySlots := ∅
  used := ∅
  nonces := ∅
  approvals := ∅
  repins := ∅
  approvalGens := ∅

variable (k : Keys) (account : BytesN32)

def getEntry : RegistryEntry := (k.entries.get? account).getD { nextSlotId := 0, live := [] }

def getSlot (slotId : U32) : Option KeySlot := k.slots.get? (account, slotId)

def getExpiredAt (slotId : U32) : ℕ := (k.expiries.get? (account, slotId)).getD 0

def getKeySlot (commitment : BytesN32) : Option U32 := k.keySlots.get? (account, commitment)

def isUsed (commitment : BytesN32) : Bool := (k.used.get? (account, commitment)).isSome

def getNonce : ℕ := (k.nonces.get? account).getD 0

def getApproval (maker : BytesN32) : MakerApproval :=
  (k.approvals.get? (account, maker)).getD { approved := false, nonce := 0, generation := 0 }

def getRepin (orderHash : BytesN32) : RepinApproval :=
  (k.repins.get? (account, orderHash)).getD { fromSlot := 0, toSlot := 0, nonce := 0 }

def getApprovalGen : ℕ := (k.approvalGens.get? account).getD 0

def setEntry (entry : RegistryEntry) : Keys := { k with entries := k.entries.set account entry }

def setSlot (slotId : U32) (slot : KeySlot) : Keys :=
  { k with slots := k.slots.set (account, slotId) slot }

def removeSlot (slotId : U32) : Keys :=
  { k with
    slots := k.slots.remove (account, slotId)
    expiries := k.expiries.remove (account, slotId) }

def setExpiredAt (slotId : U32) (at' : ℕ) : Keys :=
  { k with expiries := k.expiries.set (account, slotId) at' }

def setKeySlot (commitment : BytesN32) (slotId : U32) : Keys :=
  { k with keySlots := k.keySlots.set (account, commitment) slotId }

def setUsed (commitment : BytesN32) : Keys :=
  { k with used := k.used.set (account, commitment) () }

def setNonce (nonce : ℕ) : Keys := { k with nonces := k.nonces.set account nonce }

def setApproval (maker : BytesN32) (a : MakerApproval) : Keys :=
  { k with approvals := k.approvals.set (account, maker) a }

def setRepin (orderHash : BytesN32) (r : RepinApproval) : Keys :=
  { k with repins := k.repins.set (account, orderHash) r }

def setApprovalGen (generation : ℕ) : Keys :=
  { k with approvalGens := k.approvalGens.set account generation }

/-- `expired_at`: 0 while unbounded, else the recorded expiry. -/
def expiredAt (slotId : U32) : ℕ :=
  match k.getSlot account slotId with
  | some s =>
    if s.validUntil ≠ 0 then
      if k.getExpiredAt account slotId = 0 then s.validUntil else k.getExpiredAt account slotId
    else 0
  | none => 0

/-- The slot exists and is not past its bound. -/
def commitmentAt (env : Env) (slotId : U32) : Check RegistryError BytesN32 := do
  let slot ← Check.expect (k.getSlot account slotId) .noSuchSlot
  Check.require (¬(slot.validUntil ≠ 0 ∧ slot.validUntil ≤ env.now)) .slotExpired
  pure slot.commitment

/-- At least one live slot is usable now. -/
def hasUsableSlot (env : Env) : Bool :=
  (k.getEntry account).live.any fun slotId =>
    match k.getSlot account slotId with
    | some s => s.validUntil = 0 || decide (env.now < s.validUntil)
    | none => false

/-- The slot a key occupies, while it exists. -/
def slotOfKey (commitment : BytesN32) : Option U32 :=
  (k.getKeySlot account commitment).filter fun slotId => (k.getSlot account slotId).isSome

/-- The account approved the maker since its last `revoke` and has not withdrawn it. -/
def isApprovedMaker (maker : BytesN32) : Bool :=
  (k.getApproval account maker).approved &&
    decide ((k.getApproval account maker).generation = k.getApprovalGen account)

def repinApproval (orderHash : BytesN32) : U32 × U32 × ℕ :=
  ((k.getRepin account orderHash).fromSlot, (k.getRepin account orderHash).toSlot,
    (k.getRepin account orderHash).nonce)

end Keys

/-- What the contract publishes. -/
inductive RegistryEvent
  | initialized (admin : Address) (chainId : U128) (deployEnv : Bytes)
  | keyRegistered (account : BytesN32) (slotId : U32) (blsPubKey : BytesN 96) (nonce : U64)
  | slotValidUntilSet (account : BytesN32) (slotId : U32) (validUntil : U64)
  | slotPruned (account : BytesN32) (slotId : U32)
  | keyRevoked (account : BytesN32) (nonce : U64)
  | registrationCancelled (account : BytesN32) (nonce : U64)
  | repinApproved (account orderHash : BytesN32) (fromSlot toSlot : U32) (nonce : U64)
  | makerApprovalSet (account maker : BytesN32) (approved : Bool) (nonce : U64)
  | positionGuardsSet (guards : List Address)
  | paused (admin : Address)
  | unpaused (admin : Address)
  | adminTransferStarted (fromAdmin toAdmin : Address)
  | adminTransferred (fromAdmin toAdmin : Address)
  | keyRegisteredByProof (account : BytesN32) (slotId : U32) (blsPubKey : BytesN 96) (epoch : U64)
      (sourceChainId : U128)
  | proofRegistrationSet (anchor verifier : Address) (sources : List U128) (enabled : Bool)

/-- The contract's storage, and what it has published. -/
structure State where
  config : Option KeysConfig
  admin : Option Address
  pendingAdmin : Option Address
  paused : Bool
  timelock : Timelock
  guards : Option (List Address)
  proofRegistration : Option ProofRegistration
  keys : Keys
  published : List RegistryEvent

/-- A contract just deployed. -/
def State.fresh : State where
  config := none
  admin := none
  pendingAdmin := none
  paused := false
  timelock := .fresh
  guards := none
  proofRegistration := none
  keys := .fresh
  published := []

/-- What the registry asks of the contracts around it. -/
structure Neighbors (Y : Type) where
  /-- `has_open_positions` on a guard; one that does not answer stops the call. -/
  hasOpenPositions : Y → (guard : Address) → BytesN32 → Option Bool
  /-- `try_is_anchored` answered true. -/
  isAnchored : Y → Env → (anchor : Address) → U128 → BytesN32 → Bool
  /-- `try_verify_proof` answered without an error. -/
  verifyProof : Y → (verifier : Address) → (publicInputs proof : Bytes) → Bool

/-- The registry and everything around it. -/
structure Chain (Y : Type) where
  state : State
  outside : Y

/-- A registry just deployed into the outside world `y`. -/
def Chain.fresh {Y : Type} (y : Y) : Chain Y where
  state := .fresh
  outside := y

/-! ## The position guards -/

/-- `has_open_positions`: asks the guards in order, up to the first that says yes. A guard that
does not answer stops the call. -/
def hasOpenPositions (ask : Address → BytesN32 → Option Bool) (account : BytesN32) :
    List Address → Check RegistryError Bool
  | [] => pure false
  | guard :: guards => do
    let answer ← Check.expectTrap (ask guard account) .callFailed
    if answer then pure true else hasOpenPositions ask account guards

/-- `require_no_open_positions`: fails closed, with no guard to ask an open order cannot be ruled
out. -/
def requireNoOpenPositions (ask : Address → BytesN32 → Option Bool)
    (guards : Option (List Address)) (account : BytesN32) : Check RegistryError Unit := do
  Check.require (guards.getD [] ≠ []) .guardsUnset
  let answer ← hasOpenPositions ask account (guards.getD [])
  Check.require (answer = false) .accountInFlight

/-! ## Proof of possession -/

/-- The uncompressed encoding of G1's identity. -/
def g1Identity : BytesN 96 := ⟨0x40 :: List.replicate 95 0, rfl⟩

/-- `POP_TAG ‖ chainId ‖ registryId ‖ account ‖ pk ‖ nonce`. -/
def popMsg (H : Host) (chainId : U128) (account : BytesN32) (blsPubKey : BytesN 96) (nonce : U64) :
    Bytes :=
  Eip712.concat [POP_TAG, Eip712.abiEncodeUint256 chainId, H.contractId, account] ++ blsPubKey.1
    ++ Eip712.toArray (Eip712.abiEncodeUint256 nonce)

def verifyPop (H : KeyHost) (config : KeysConfig) (account : BytesN32) (blsPubKey : BytesN 96)
    (pop : BytesN 192) (nonce : U64) : Check RegistryError Bool :=
  Check.expectTrap
    (H.pairing blsPubKey (popMsg H.toHost config.chainId account blsPubKey nonce) DST_POP pop)
    .callFailed

/-! ## Entries -/

variable {Y : Type}

abbrev publish (e : RegistryEvent) : Tx RegistryError (Chain Y) Unit :=
  Tx.modify fun c => { c with state := { c.state with published := e :: c.state.published } }

/-- A step of the shared timelock, its fault renamed. -/
abbrev onTimelock {α : Type} (x : Tx Fault Timelock α) : Tx RegistryError (Chain Y) α :=
  Tx.zoom (fun c => c.state.timelock)
    (fun c t => { c with state := { c.state with timelock := t } }) timelockError x

/-- A write to the contract's own storage. -/
abbrev setState (f : State → State) : Tx RegistryError (Chain Y) Unit :=
  Tx.modify fun c => { c with state := f c.state }

/-- A write to the records of the accounts. -/
abbrev setKeys (f : Keys → Keys) : Tx RegistryError (Chain Y) Unit :=
  Tx.modify fun c => { c with state := { c.state with keys := f c.state.keys } }

/-- `get_admin`, which unwraps. -/
def getAdmin (c : Chain Y) : Check RegistryError Address := Check.expectTrap c.state.admin .panicked

/-- The config; an uninitialized registry has none. -/
def requireConfig : Tx RegistryError (Chain Y) KeysConfig := do
  let c ← Tx.read
  Tx.expect c.state.config .notInitialized

def requireNotPaused : Tx RegistryError (Chain Y) Unit := do
  let c ← Tx.read
  Tx.require (c.state.paused = false) .contractPaused

section Admin

variable (H : KeyHost) (env : Env)

def initializeContract (admin : Address) (chainId : U128) (deployEnv : Bytes) :
    Tx RegistryError (Chain Y) Unit := do
  let c ← Tx.read
  Tx.require (c.state.config = none) .alreadyInitialized
  let domain ← Tx.lift (keysDomainSeparator H.toHost deployEnv)
  setState fun s => { s with
    config := some { chainId, keysEnv := deployEnv, domain }
    admin := some admin }
  publish (.initialized admin chainId deployEnv)

def requireAdmin : Tx RegistryError (Chain Y) Address := do
  let admin ← Tx.view getAdmin
  requireAuth env admin
  pure admin

def pause : Tx RegistryError (Chain Y) Unit := do
  let admin ← requireAdmin env
  setState fun s => { s with paused := true }
  publish (.paused admin)

def unpause : Tx RegistryError (Chain Y) Unit := do
  let admin ← requireAdmin env
  setState fun s => { s with paused := false }
  publish (.unpaused admin)

def transferAdmin (successor : Address) : Tx RegistryError (Chain Y) Unit := do
  let admin ← requireAdmin env
  setState fun s => { s with pendingAdmin := some successor }
  publish (.adminTransferStarted admin successor)

/-- The pending admin takes over; the handover voids the old admin's pending proposals. -/
def acceptAdmin : Tx RegistryError (Chain Y) Unit := do
  let c ← Tx.read
  let pending ← Tx.expect c.state.pendingAdmin .notPendingAdmin
  requireAuth env pending
  let old ← Tx.view getAdmin
  setState fun s => { s with admin := some pending, pendingAdmin := none }
  onTimelock Timelock.bumpEpoch
  publish (.adminTransferred old pending)

def activateTimelock : Tx RegistryError (Chain Y) Unit := do
  let _ ← requireAdmin env
  onTimelock (Timelock.activate env)

def proposeAction (fnName : Symbol) (args : Bytes) : Tx RegistryError (Chain Y) BytesN32 := do
  let _ ← requireAdmin env
  onTimelock (Timelock.propose H.toHost env fnName args)

def cancelAction (id : BytesN32) : Tx RegistryError (Chain Y) Unit := do
  let _ ← requireAdmin env
  onTimelock (Timelock.cancel env id)

def setPositionGuards (guards : List Address) : Tx RegistryError (Chain Y) Unit := do
  let _ ← requireConfig
  let admin ← Tx.view getAdmin
  onTimelock (Timelock.gate H.toHost env admin "set_position_guards" [.addresses guards])
  setState fun s => { s with guards := some guards }
  publish (.positionGuardsSet guards)

/-- Enabling or rewiring waits the delay; disabling is a brake. This chain is never a source. -/
def setProofRegistration (anchor verifier : Address) (sources : List U128) (enabled : Bool) :
    Tx RegistryError (Chain Y) Unit := do
  let config ← requireConfig
  let admin ← Tx.view getAdmin
  onTimelock (Timelock.gateUnless H.toHost env admin (!enabled) "set_proof_registration"
    [.address anchor, .address verifier, .u128s sources, .bool enabled]
    (H.brakeKey "set_proof_registration" .unit))
  Tx.require (¬(enabled = true ∧ sources = [])) .proofRegistrationRefsUnset
  Tx.require (config.chainId ∉ sources) .sourceNotAllowed
  setState fun s => { s with
    proofRegistration := some { anchor, verifier, sources, enabled } }
  publish (.proofRegistrationSet anchor verifier sources enabled)

end Admin

/-! ## Slots -/

section Slots

variable (N : Neighbors Y) (env : Env) (account : BytesN32)

/-- Whether `prune` drops the slot: its expiry lies in the past, and 30 days more unless dead slots
may go at once. -/
def prunable (atOnce : Bool) (k : Keys) (slotId : U32) : Bool :=
  match k.getSlot account slotId with
  | some _ =>
    let vu := k.expiredAt account slotId
    vu ≠ 0 && if atOnce then decide (vu < env.now)
      else decide (saturatingAdd vu GRACE_PERIOD < env.now)
  | none => true

/-- The loop of `prune` over the live slots: the ones it keeps. -/
def pruneEach (atOnce : Bool) : List U32 → Tx RegistryError (Chain Y) (List U32)
  | [] => pure []
  | slotId :: rest => do
    let c ← Tx.read
    if prunable env account atOnce c.state.keys slotId = true then
      setKeys fun k => k.removeSlot account slotId
      publish (.slotPruned account slotId)
      pruneEach atOnce rest
    else
      let kept ← pruneEach atOnce rest
      pure (slotId :: kept)

/-- Dead slots may go at once: there are guards, and none reports an open position. -/
def pruneAtOnce (c : Chain Y) : Check RegistryError Bool :=
  if c.state.guards.getD [] = [] then .ok false
  else do
    let inFlight ← hasOpenPositions (N.hasOpenPositions c.outside) account
      (c.state.guards.getD [])
    pure (!inFlight)

/-- Drops every dead slot the escrows can no longer need. -/
def prune (entry : RegistryEntry) : Tx RegistryError (Chain Y) RegistryEntry := do
  let atOnce ← Tx.view (pruneAtOnce N account)
  let kept ← pruneEach env account atOnce entry.live
  pure { entry with live := kept }

/-- Make room in a full entry. -/
def pruneFull (entry : RegistryEntry) : Tx RegistryError (Chain Y) RegistryEntry :=
  if MAX_ACTIVE_SLOTS ≤ entry.live.length then do
    let pruned ← prune N env account entry
    Tx.require (pruned.live.length < MAX_ACTIVE_SLOTS) .registryFull
    pure pruned
  else pure entry

/-- Slot insertion shared by `register` and `registerByProof`. -/
def addSlot (commitment : BytesN32) : Tx RegistryError (Chain Y) U32 := do
  let c ← Tx.read
  Tx.require (c.state.keys.isUsed account commitment = false) .keyPreviouslyUsed
  let entry ← pruneFull N env account (c.state.keys.getEntry account)
  let next ← Tx.lift (Check.add 32 entry.nextSlotId.toNat 1)
  setKeys fun k => k.setSlot account entry.nextSlotId
    { commitment, validUntil := 0, registeredAt := env.now }
  setKeys fun k => k.setEntry account
    { nextSlotId := BitVec.ofNat 32 next, live := entry.live ++ [entry.nextSlotId] }
  setKeys fun k => k.setUsed account commitment
  setKeys fun k => k.setKeySlot account commitment entry.nextSlotId
  pure entry.nextSlotId

end Slots

/-! ## The owner's calls -/

section Owner

variable (N : Neighbors Y) (H : KeyHost) (env : Env)

/-- A deadline that has not passed and is at most `MAX_REGISTER_TTL` out. -/
def requireDeadline (deadline : U64) : Tx RegistryError (Chain Y) Unit := do
  Tx.require (env.now ≤ deadline.toNat) .deadlineExpired
  Tx.require (deadline.toNat - env.now ≤ MAX_REGISTER_TTL) .deadlineTooFar

/-- Adds a slot. -/
def register (account : BytesN32) (owner : OwnerAuth) (blsPubKey : BytesN 96) (pop : BytesN 192)
    (nonce deadline : U64) : Tx RegistryError (Chain Y) U32 := do
  let config ← requireConfig
  requireNotPaused
  requireDeadline env deadline
  let c ← Tx.read
  Tx.require (nonce.toNat = c.state.keys.getNonce account) .badNonce
  Tx.require (blsPubKey ≠ g1Identity) .identityKey
  let possessed ← Tx.lift (verifyPop H config account blsPubKey pop nonce)
  Tx.require (possessed = true) .invalidPop
  let commitment := keyCommitment H.toHost blsPubKey
  Tx.lift (checkOwner H config env account owner (.register commitment nonce deadline))
  let slotId ← addSlot N env account commitment
  let next ← Tx.lift (Check.add 64 nonce.toNat 1)
  setKeys fun k => k.setNonce account next
  publish (.keyRegistered account slotId blsPubKey nonce)
  pure slotId

/-- Adds a slot on a proof of the account's home-chain leaf instead of a signature. No nonce: a key
enters a slot at most once. -/
def registerByProof (account : BytesN32) (blsPubKey : BytesN 96) (pop : BytesN 192) (epoch : U64)
    (sourceChainId : U128) (targetRoot : BytesN32) (proof : Bytes) :
    Tx RegistryError (Chain Y) U32 := do
  let config ← requireConfig
  requireNotPaused
  let c ← Tx.read
  let wiring ← Tx.expect (c.state.proofRegistration.filter fun w => w.enabled)
    .proofRegistrationDisabled
  Tx.require (blsPubKey ≠ g1Identity) .identityKey
  let commitment := keyCommitment H.toHost blsPubKey
  Tx.require (c.state.keys.isUsed account commitment = false) .keyPreviouslyUsed
  Tx.require (sourceChainId ∈ wiring.sources) .sourceNotAllowed
  Tx.require (N.isAnchored c.outside env wiring.anchor sourceChainId targetRoot = true)
    .rootNotAnchored
  let possessed ← Tx.lift (verifyPop H config account blsPubKey pop epoch)
  Tx.require (possessed = true) .invalidPop
  let subject := registrationSubject H.toHost config.chainId H.contractId account commitment epoch
  let inputs := buildEventPublicInputs targetRoot subject LEAF_DOMAIN_REGISTERED
  Tx.require (N.verifyProof c.outside wiring.verifier inputs proof = true) .invalidLeafProof
  let slotId ← addSlot N env account commitment
  publish (.keyRegisteredByProof account slotId blsPubKey epoch sourceChainId)
  pure slotId

/-- Shorten-only, nonce-free, never guarded and not pausable. Names the key, not the slot. -/
def setValidUntil (account : BytesN32) (owner : OwnerAuth) (commitment : BytesN32)
    (validUntil : U64) : Tx RegistryError (Chain Y) Unit := do
  let config ← requireConfig
  let c ← Tx.read
  let slotId ← Tx.expect (c.state.keys.getKeySlot account commitment) .noSuchSlot
  let slot ← Tx.expect (c.state.keys.getSlot account slotId) .noSuchSlot
  Tx.require (¬(validUntil.toNat = 0 ∨
    slot.validUntil ≠ 0 ∧ slot.validUntil ≤ validUntil.toNat)) .badValidUntil
  Tx.lift (checkOwner H config env account owner (.retire commitment validUntil))
  setKeys fun k => k.setSlot account slotId { slot with validUntil := validUntil.toNat }
  -- the slot stops at the later of the named date and now
  let eff := max validUntil.toNat env.now
  let prev := c.state.keys.getExpiredAt account slotId
  setKeys fun k => k.setExpiredAt account slotId (if prev = 0 then eff else min prev eff)
  publish (.slotValidUntilSet account slotId validUntil)

/-- Leaves the protocol: drops every slot, which the guards must allow, and every approval. -/
def revoke (account : BytesN32) (owner : OwnerAuth) (nonce : U64) :
    Tx RegistryError (Chain Y) Unit := do
  let config ← requireConfig
  requireNotPaused
  let c ← Tx.read
  let entry := c.state.keys.getEntry account
  Tx.require (nonce.toNat = c.state.keys.getNonce account) .badNonce
  Tx.lift (if entry.live ≠ [] then
    requireNoOpenPositions (N.hasOpenPositions c.outside) c.state.guards account else .ok ())
  Tx.lift (checkOwner H config env account owner (.revoke nonce))
  setKeys fun k => entry.live.foldl (fun k slotId => k.removeSlot account slotId) k
  setKeys fun k => k.setEntry account { entry with live := [] }
  let next ← Tx.lift (Check.add 64 nonce.toNat 1)
  setKeys fun k => k.setNonce account next
  let generation ← Tx.lift (Check.add 64 (c.state.keys.getApprovalGen account) 1)
  setKeys fun k => k.setApprovalGen account generation
  publish (.keyRevoked account nonce)

/-- Consumes the nonce and with it every outstanding signature that names it here. -/
def cancelPending (account : BytesN32) (owner : OwnerAuth) (nonce : U64) :
    Tx RegistryError (Chain Y) Unit := do
  let config ← requireConfig
  requireNotPaused
  let c ← Tx.read
  Tx.require (nonce.toNat = c.state.keys.getNonce account) .badNonce
  Tx.lift (checkOwner H config env account owner (.cancel nonce))
  let next ← Tx.lift (Check.add 64 nonce.toNat 1)
  setKeys fun k => k.setNonce account next
  publish (.registrationCancelled account nonce)

/-- Lets `maker` name the account as an ad's settlement signer, or withdraws that. Withdrawing is
not pausable. -/
def approveMaker (account maker : BytesN32) (approved : Bool) (owner : OwnerAuth)
    (nonce deadline : U64) : Tx RegistryError (Chain Y) Unit := do
  let config ← requireConfig
  let c ← Tx.read
  Tx.require (¬(approved = true ∧ c.state.paused = true)) .contractPaused
  requireDeadline env deadline
  Tx.require (nonce.toNat = (c.state.keys.getApproval account maker).nonce) .badNonce
  Tx.lift (checkOwner H config env account owner (.approveMaker maker approved nonce deadline))
  let next ← Tx.lift (Check.add 64 nonce.toNat 1)
  setKeys fun k => k.setApproval account maker
    { approved, nonce := next, generation := k.getApprovalGen account }
  publish (.makerApprovalSet account maker approved nonce)

/-- The signer consents to move the order's pin; anyone may then apply it. Not pausable. -/
def approveRepin (account orderHash : BytesN32) (fromSlot toSlot : U32) (owner : OwnerAuth)
    (nonce : U64) : Tx RegistryError (Chain Y) Unit := do
  let config ← requireConfig
  let c ← Tx.read
  Tx.require (nonce.toNat = (c.state.keys.getRepin account orderHash).nonce) .badNonce
  Tx.lift (checkOwner H config env account owner (.repin orderHash fromSlot toSlot nonce))
  let next ← Tx.lift (Check.add 64 nonce.toNat 1)
  setKeys fun k => k.setRepin account orderHash { fromSlot, toSlot, nonce := next }
  publish (.repinApproved account orderHash fromSlot toSlot nonce)

end Owner

/-! ## The contract as its host sees it -/

/-- The entry points that change state, with their arguments. -/
inductive Call
  | initializeContract (admin : Address) (chainId : U128) (deployEnv : Bytes)
  | pause
  | unpause
  | transferAdmin (successor : Address)
  | acceptAdmin
  | activateTimelock
  | proposeAction (fnName : Symbol) (args : Bytes)
  | cancelAction (id : BytesN32)
  | setPositionGuards (guards : List Address)
  | setProofRegistration (anchor verifier : Address) (sources : List U128) (enabled : Bool)
  | register (account : BytesN32) (owner : OwnerAuth) (blsPubKey : BytesN 96) (pop : BytesN 192)
      (nonce deadline : U64)
  | registerByProof (account : BytesN32) (blsPubKey : BytesN 96) (pop : BytesN 192) (epoch : U64)
      (sourceChainId : U128) (targetRoot : BytesN32) (proof : Bytes)
  | setValidUntil (account : BytesN32) (owner : OwnerAuth) (commitment : BytesN32)
      (validUntil : U64)
  | revoke (account : BytesN32) (owner : OwnerAuth) (nonce : U64)
  | cancelPending (account : BytesN32) (owner : OwnerAuth) (nonce : U64)
  | approveMaker (account maker : BytesN32) (approved : Bool) (owner : OwnerAuth)
      (nonce deadline : U64)
  | approveRepin (account orderHash : BytesN32) (fromSlot toSlot : U32) (owner : OwnerAuth)
      (nonce : U64)
  deriving DecidableEq

/-- What a call answers. -/
inductive Ret
  | unit
  /-- The id of a proposed action. -/
  | action (id : BytesN32)
  | slot (slotId : U32)
  deriving DecidableEq

/-- A call of an entry point that answers nothing. -/
abbrev done (x : Tx RegistryError (Chain Y) Unit) : Tx RegistryError (Chain Y) Ret :=
  Tx.answer (fun _ => .unit) x

/-- Run a call. -/
def exec (N : Neighbors Y) (H : KeyHost) (env : Env) : Call → Tx RegistryError (Chain Y) Ret
  | .initializeContract admin chainId deployEnv =>
    done (initializeContract H admin chainId deployEnv)
  | .pause => done (pause env)
  | .unpause => done (unpause env)
  | .transferAdmin successor => done (transferAdmin env successor)
  | .acceptAdmin => done (acceptAdmin env)
  | .activateTimelock => done (activateTimelock env)
  | .proposeAction fnName args => Tx.answer .action (proposeAction H env fnName args)
  | .cancelAction id => done (cancelAction env id)
  | .setPositionGuards guards => done (setPositionGuards H env guards)
  | .setProofRegistration anchor verifier sources enabled =>
    done (setProofRegistration H env anchor verifier sources enabled)
  | .register account owner blsPubKey pop nonce deadline =>
    Tx.answer .slot (register N H env account owner blsPubKey pop nonce deadline)
  | .registerByProof account blsPubKey pop epoch sourceChainId targetRoot proof =>
    Tx.answer .slot
      (registerByProof N H env account blsPubKey pop epoch sourceChainId targetRoot proof)
  | .setValidUntil account owner commitment validUntil =>
    done (setValidUntil H env account owner commitment validUntil)
  | .revoke account owner nonce => done (revoke N H env account owner nonce)
  | .cancelPending account owner nonce => done (cancelPending H env account owner nonce)
  | .approveMaker account maker approved owner nonce deadline =>
    done (approveMaker H env account maker approved owner nonce deadline)
  | .approveRepin account orderHash fromSlot toSlot owner nonce =>
    done (approveRepin H env account orderHash fromSlot toSlot owner nonce)

/-- The registry with its host; `outside` is what may happen around it. -/
def system (N : Neighbors Y) (H : KeyHost) (outside : Y → Y → Prop) :
    System RegistryError (Chain Y) (Env × Call) Ret where
  call t := exec N H t.1 t.2
  admits _ _ := True
  outside c c' := ∃ y, outside c.outside y ∧ c' = { c with outside := y }

end KeyRegistry
end ProofBridge
