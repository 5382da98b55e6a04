import ProofBridge.Evm.Timelock
import ProofBridge.Lib.Run

/-!
# The admin surface of an EVM escrow

Both EVM escrows inherit it: the handover, the pause, the timelock and the setters of the routes.
`EscrowAdmin` is the storage only these calls write. A setter the inheriting contract adds is
timelocked without a brake key; of it only its gate is seen here.
-/

namespace ProofBridge
namespace Evm

open ContractLib

/-- What the admin of an EVM escrow sets. An unset entry of a mapping reads as zero. -/
structure EscrowAdmin where
  admin : EvmAddress
  pendingAdmin : EvmAddress
  paused : Bool
  timelock : Timelock.State
  peerEscrow : Map Uint256 BytesN32
  tokenRoute : Map (EvmAddress × Uint256) BytesN32
  timingVersion : Map Uint256 ℕ
  routeTimingAt : Map (Uint256 × ℕ) RouteTiming
  rootAnchor : EvmAddress
  rootVerifier : Map Uint256 EvmAddress
  rootVerifierChangedAt : Map Uint256 (BitVec 64)
  /-- Every chain a verifier was ever set for, in first-wired order. -/
  wiredChains : List Uint256

namespace EscrowAdmin

/-- An escrow just deployed for `admin`. -/
def deployed (admin : EvmAddress) : EscrowAdmin where
  admin := admin
  pendingAdmin := 0
  paused := false
  timelock := .fresh
  peerEscrow := ∅
  tokenRoute := ∅
  timingVersion := ∅
  routeTimingAt := ∅
  rootAnchor := 0
  rootVerifier := ∅
  rootVerifierChangedAt := ∅
  wiredChains := []

abbrev onTimelock {α : Type} (x : Tx AdminError Timelock.State α) : Tx AdminError EscrowAdmin α :=
  Tx.zoom EscrowAdmin.timelock (fun s t => { s with timelock := t }) id x

section Entries

variable (P : Primitives) (msg : Message)

def onlyAdmin : Tx AdminError EscrowAdmin Unit := do
  let s ← Tx.read
  Tx.require (msg.sender = s.admin) .notAdmin

/-! ## `TwoStepAdmin` -/

/-- Nominate the next admin; zero withdraws a nomination. -/
def transferAdmin (successor : EvmAddress) : Tx AdminError EscrowAdmin Unit := do
  onlyAdmin msg
  let s ← Tx.read
  Tx.require (successor ≠ s.admin) (.invalidAdmin successor)
  Tx.modify fun s => { s with pendingAdmin := successor }

/-- `_timelock.epoch++`. -/
def bumpEpoch : Tx AdminError Timelock.State Unit := do
  let s ← Tx.read
  let epoch ← Tx.lift (Check.add 64 s.epoch.toNat 1)
  Tx.modify fun s => { s with epoch := BitVec.ofNat 64 epoch }

def acceptAdmin : Tx AdminError EscrowAdmin Unit := do
  let s ← Tx.read
  Tx.require (msg.sender = s.pendingAdmin) .notPendingAdmin
  Tx.modify fun s => { s with admin := msg.sender, pendingAdmin := 0 }
  onTimelock bumpEpoch

/-! ## `AdminTimelock` -/

def activateTimelock : Tx AdminError EscrowAdmin Unit := do
  onlyAdmin msg
  onTimelock Timelock.activate

def proposeAction (data : Bytes) : Tx AdminError EscrowAdmin Unit := do
  onlyAdmin msg
  onTimelock (Timelock.propose P msg data)

def cancelAction (id : BytesN32) : Tx AdminError EscrowAdmin Unit := do
  onlyAdmin msg
  onTimelock (Timelock.cancel id)

/-- Before activation the admin; after, a ripe proposal of this exact calldata, from anyone. -/
def timelocked (key : BytesN32) : Tx AdminError EscrowAdmin Unit := do
  let s ← Tx.read
  if s.timelock.active = false then
    Tx.require (msg.sender = s.admin) .notAdmin
  else
    onTimelock (Timelock.consume msg (P.keccak256 msg.data) key)

/-- A brake stays instant for the admin and records its time under `key`. -/
def timelockedUnless (brake : Bool) (key : BytesN32) : Tx AdminError EscrowAdmin Unit := do
  if brake = true then
    onlyAdmin msg
    onTimelock (Tx.modify fun t => { t with brakedAt := t.brakedAt.set key msg.timestamp })
  else timelocked P msg key

/-! ## `EscrowBase` -/

def pause : Tx AdminError EscrowAdmin Unit := do
  onlyAdmin msg
  let s ← Tx.read
  Tx.require (s.paused = false) .enforcedPause
  Tx.modify fun s => { s with paused := true }

def unpause : Tx AdminError EscrowAdmin Unit := do
  onlyAdmin msg
  let s ← Tx.read
  Tx.require (s.paused = true) .expectedPause
  Tx.modify fun s => { s with paused := false }

def setPeerEscrow (chainId : Uint256) (peer : BytesN32) : Tx AdminError EscrowAdmin Unit := do
  timelocked P msg 0
  Tx.modify fun s => { s with peerEscrow := s.peerEscrow.set chainId peer }

/-- The brake key of a chain: its id, inverted. -/
def brakeKey (chainId : Uint256) : BytesN32 := ~~~chainId

/-- `_setRootVerifier`. -/
def wire (chainId : Uint256) (verifier : EvmAddress) : Tx AdminError EscrowAdmin Unit :=
  Tx.modify fun s => { s with
    wiredChains := if chainId ∈ s.wiredChains then s.wiredChains else s.wiredChains ++ [chainId]
    rootVerifier := s.rootVerifier.set chainId verifier
    rootVerifierChangedAt := s.rootVerifierChangedAt.set chainId (msg.timestamp.setWidth 64) }

/-- Unwiring (`address(0)`) is a brake; wiring goes through the delay. -/
def setRootVerifier (chainId : Uint256) (verifier : EvmAddress) :
    Tx AdminError EscrowAdmin Unit := do
  timelockedUnless P msg (verifier = 0) (brakeKey chainId)
  wire msg chainId verifier

def setTokenRoute (localToken : EvmAddress) (peerChainId : Uint256) (peerToken : BytesN32) :
    Tx AdminError EscrowAdmin Unit := do
  timelocked P msg 0
  Tx.require (¬(localToken = 0 ∨ peerToken = 0)) .routeZeroAddress
  let s ← Tx.read
  Tx.require ((s.peerEscrow.get? peerChainId).getD 0 ≠ 0) (.chainNotSupported peerChainId)
  Tx.modify fun s => { s with tokenRoute := s.tokenRoute.set (localToken, peerChainId) peerToken }

def removeTokenRoute (localToken : EvmAddress) (peerChainId : Uint256) :
    Tx AdminError EscrowAdmin Unit := do
  timelocked P msg 0
  Tx.modify fun s => { s with tokenRoute := s.tokenRoute.remove (localToken, peerChainId) }

/-- `RouteTiming.validate`. -/
def validateTiming (timing : RouteTiming) : Check AdminError Unit :=
  match timing.validate with
  | .ok _ => .ok ()
  | .error field => .error (.error (.invalidTiming field))

def setRouteTiming (chainId : Uint256) (timing : RouteTiming) :
    Tx AdminError EscrowAdmin Unit := do
  timelocked P msg 0
  Tx.lift (validateTiming timing)
  let s ← Tx.read
  let v ← Tx.lift (Check.add 32 ((s.timingVersion.get? chainId).getD 0) 1)
  Tx.modify fun s => { s with
    timingVersion := s.timingVersion.set chainId v
    routeTimingAt := s.routeTimingAt.set (chainId, v) timing }

def setRootAnchor (anchor : EvmAddress) : Tx AdminError EscrowAdmin Unit := do
  timelocked P msg 0
  Tx.require (anchor ≠ 0) .zeroAddress
  Tx.modify fun s => { s with rootAnchor := anchor }

end Entries

/-! ## The admin surface as the chain sees it -/

/-- The calls that write this storage, with their arguments. `inherited` is a setter of the
inheriting contract. -/
inductive Call
  | pause
  | unpause
  | transferAdmin (successor : EvmAddress)
  | acceptAdmin
  | activateTimelock
  | proposeAction (data : Bytes)
  | cancelAction (id : BytesN32)
  | setPeerEscrow (chainId : Uint256) (peer : BytesN32)
  | setRootVerifier (chainId : Uint256) (verifier : EvmAddress)
  | setTokenRoute (localToken : EvmAddress) (peerChainId : Uint256) (peerToken : BytesN32)
  | removeTokenRoute (localToken : EvmAddress) (peerChainId : Uint256)
  | setRouteTiming (chainId : Uint256) (timing : RouteTiming)
  | setRootAnchor (anchor : EvmAddress)
  | inherited
  deriving DecidableEq

def exec (P : Primitives) (msg : Message) : Call → Tx AdminError EscrowAdmin Unit
  | .pause => pause msg
  | .unpause => unpause msg
  | .transferAdmin successor => transferAdmin msg successor
  | .acceptAdmin => acceptAdmin msg
  | .activateTimelock => activateTimelock msg
  | .proposeAction data => proposeAction P msg data
  | .cancelAction id => cancelAction msg id
  | .setPeerEscrow chainId peer => setPeerEscrow P msg chainId peer
  | .setRootVerifier chainId verifier => setRootVerifier P msg chainId verifier
  | .setTokenRoute localToken peerChainId peerToken =>
    setTokenRoute P msg localToken peerChainId peerToken
  | .removeTokenRoute localToken peerChainId => removeTokenRoute P msg localToken peerChainId
  | .setRouteTiming chainId timing => setRouteTiming P msg chainId timing
  | .setRootAnchor anchor => setRootAnchor P msg anchor
  | .inherited => timelocked P msg 0

/-- The admin surface with its chain. Nothing else touches its storage. -/
def system (P : Primitives) : System AdminError EscrowAdmin (Message × Call) Unit where
  call t := exec P t.1 t.2
  admits _ _ := True
  outside _ _ := False

end EscrowAdmin
end Evm
end ProofBridge
