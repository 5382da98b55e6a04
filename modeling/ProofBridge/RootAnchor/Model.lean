import ProofBridge.Core.Timelock
import ProofBridge.Lib.Run

/-!
# The RootAnchor

The authenticator for facts no counterparty co-signed. A signer set notarizes "the source chain's
root was `root` at ledger `ledgerSeq`"; the anchor becomes usable only `delay` seconds after enough
signers approved it, and the admin can revoke it before or after. An approval is stored as a stamp
of the signer epoch and of the root's generation at the time; it is never deleted, only outdated.
-/

namespace ProofBridge
namespace RootAnchor

open ContractLib

/-- Upper bound on a route's delay: 7 days. -/
def MAX_ANCHOR_DELAY : ℕ := 7 * 24 * 60 * 60

/-- Everything the contract refuses with. -/
inductive RootAnchorError
  | alreadyInitialized
  | notInitialized
  | contractPaused
  | notPendingAdmin
  | notSigner
  | badThreshold
  | duplicateSigner
  | seqNotMonotonic
  | delayTooLong
  | noSuchAnchor
  | seqMismatch
  | timelockAlreadyActive
  | timelockAlreadyProposed
  | timelockNotProposed
  | timelockTooEarly
  | timelockBadArgs
  | timelockExpired
  | timelockCancelledByBrake
  deriving DecidableEq, Repr

/-- `timelock_error`: the shared timelock's refusals as this contract's errors. -/
def timelockError : Fault → RootAnchorError
  | .timelockAlreadyActive => .timelockAlreadyActive
  | .timelockAlreadyProposed => .timelockAlreadyProposed
  | .timelockTooEarly => .timelockTooEarly
  | .timelockBadArgs => .timelockBadArgs
  | .timelockExpired => .timelockExpired
  | .timelockCancelledByBrake => .timelockCancelledByBrake
  | _ => .timelockNotProposed

/-- One notarized root of one source chain. -/
structure AnchorRec where
  /-- The source-chain ledger the first approval named. -/
  ledgerSeq : ℕ
  /-- Whether the threshold has been reached. -/
  anchored : Bool
  /-- When the threshold was reached; the delay counts from here. -/
  anchoredAt : ℕ
  /-- Signers who approved under (`setEpoch`, `gen`). -/
  approvals : ℕ
  /-- The signer-set epoch the approvals belong to. -/
  setEpoch : ℕ
  /-- Bumped by `revokeAnchor`. -/
  gen : ℕ
  deriving DecidableEq, Repr

/-- What a missing record reads as. -/
def AnchorRec.absent : AnchorRec where
  ledgerSeq := 0
  anchored := false
  anchoredAt := 0
  approvals := 0
  setEpoch := 0
  gen := 0

/-- What the contract publishes. -/
inductive AnchorEvent
  | initialized (admin : Address) (threshold : ℕ)
  | anchorApproved (chainId : U128) (root : BytesN32) (signer : Address) (approvals : ℕ)
  | anchored (chainId : U128) (root : BytesN32) (ledgerSeq anchoredAt : ℕ)
  | anchorRevoked (chainId : U128) (root : BytesN32) (gen : ℕ)
  | signersSet (signers : List Address) (threshold epoch : ℕ)
  | anchorDelaySet (chainId : U128) (delay : ℕ)
  | monotonicSet (monotonic : Bool)
  | latestSeqReset (chainId : U128) (seq : ℕ)
  | paused (admin : Address)
  | unpaused (admin : Address)
  | adminTransferStarted (fromAdmin toAdmin : Address)
  | adminTransferred (fromAdmin toAdmin : Address)
  deriving DecidableEq, Repr

/-- A root of a source chain. -/
abbrev RootKey := U128 × BytesN32

/-- The signer set, the routes and the records. -/
structure Notary where
  signers : List Address
  threshold : ℕ
  /-- Bumped on every new signer set. -/
  setEpoch : ℕ
  /-- A new root's sequence must exceed the chain's latest. -/
  monotonic : Bool
  delays : Map U128 ℕ
  /-- The highest ledger sequence anchored, per chain. -/
  latestSeqs : Map U128 ℕ
  anchors : Map RootKey AnchorRec
  /-- The stamp of each signer's last approval of a root. -/
  approvalStamps : Map (RootKey × Address) ℕ

/-- The contract's storage, and what it has published. -/
structure State where
  initialized : Bool
  admin : Option Address
  pendingAdmin : Option Address
  paused : Bool
  timelock : Timelock
  notary : Notary
  published : List AnchorEvent

namespace Notary

/-- What an unset route, flag or set reads as. -/
def fresh : Notary where
  signers := []
  threshold := 0
  setEpoch := 0
  monotonic := true
  delays := ∅
  latestSeqs := ∅
  anchors := ∅
  approvalStamps := ∅

def getDelay (n : Notary) (chainId : U128) : ℕ := (n.delays.get? chainId).getD 0

def getLatestSeq (n : Notary) (chainId : U128) : ℕ := (n.latestSeqs.get? chainId).getD 0

def getAnchor (n : Notary) (key : RootKey) : Option AnchorRec := n.anchors.get? key

def getApprovalStamp (n : Notary) (key : RootKey) (signer : Address) : Option ℕ :=
  n.approvalStamps.get? (key, signer)

end Notary

/-- A contract just deployed. -/
def State.fresh : State where
  initialized := false
  admin := none
  pendingAdmin := none
  paused := false
  timelock := .fresh
  notary := .fresh
  published := []

abbrev publish (e : AnchorEvent) : Tx RootAnchorError State Unit :=
  Tx.modify fun s => { s with published := e :: s.published }

/-- A step of the shared timelock, its fault renamed. -/
abbrev onTimelock {α : Type} (x : Tx Fault Timelock α) : Tx RootAnchorError State α :=
  Tx.zoom State.timelock (fun s t => { s with timelock := t }) timelockError x

/-- A write to the notary's storage. -/
abbrev setNotary (f : Notary → Notary) : Tx RootAnchorError State Unit :=
  Tx.modify fun s => { s with notary := f s.notary }

/-- `get_admin`, which unwraps. -/
def getAdmin (s : State) : Check RootAnchorError Address := Check.expectTrap s.admin .panicked

/-! ## Signer sets -/

/-- `apply_signers`: a threshold in `1..=len`, no duplicates. Bumps the epoch. -/
def applySigners (signers : List Address) (threshold : U32) : Tx RootAnchorError State Unit := do
  Tx.require (threshold.toNat ≠ 0 ∧ threshold.toNat ≤ signers.length) .badThreshold
  Tx.require signers.Nodup .duplicateSigner
  let s ← Tx.read
  let epoch ← Tx.lift (Check.add 32 s.notary.setEpoch 1)
  setNotary fun n => { n with
    signers
    threshold := threshold.toNat
    setEpoch := epoch }
  publish (.signersSet signers threshold.toNat epoch)

section Admin

variable (H : Host) (env : Env)

/-- Can only be called once; nobody's authorization is asked for. -/
def initializeContract (admin : Address) (signers : List Address) (threshold : U32) :
    Tx RootAnchorError State Unit := do
  let s ← Tx.read
  Tx.require (s.initialized = false) .alreadyInitialized
  applySigners signers threshold
  Tx.modify fun s => { s with
    admin := some admin
    notary := { s.notary with monotonic := true }
    initialized := true }
  publish (.initialized admin threshold.toNat)

/-- `admin_of`: the admin, without requiring its authorization. -/
def adminOf : Tx RootAnchorError State Address := do
  let s ← Tx.read
  Tx.require (s.initialized = true) .notInitialized
  Tx.view getAdmin

def requireAdmin : Tx RootAnchorError State Address := do
  let admin ← adminOf
  requireAuth env admin
  pure admin

/-- Gates `anchor` only; `isAnchored` keeps answering. -/
def pause : Tx RootAnchorError State Unit := do
  let admin ← requireAdmin env
  Tx.modify fun s => { s with paused := true }
  publish (.paused admin)

def unpause : Tx RootAnchorError State Unit := do
  let admin ← requireAdmin env
  Tx.modify fun s => { s with paused := false }
  publish (.unpaused admin)

def transferAdmin (successor : Address) : Tx RootAnchorError State Unit := do
  let admin ← requireAdmin env
  Tx.modify fun s => { s with pendingAdmin := some successor }
  publish (.adminTransferStarted admin successor)

/-- The pending admin takes over; the handover voids the old admin's pending proposals. -/
def acceptAdmin : Tx RootAnchorError State Unit := do
  let s ← Tx.read
  let pending ← Tx.expect s.pendingAdmin .notPendingAdmin
  requireAuth env pending
  let old ← Tx.view getAdmin
  Tx.modify fun s => { s with admin := some pending, pendingAdmin := none }
  onTimelock Timelock.bumpEpoch
  publish (.adminTransferred old pending)

def activateTimelock : Tx RootAnchorError State Unit := do
  let _ ← requireAdmin env
  onTimelock (Timelock.activate env)

def proposeAction (fnName : Symbol) (args : Bytes) : Tx RootAnchorError State BytesN32 := do
  let _ ← requireAdmin env
  onTimelock (Timelock.propose H env fnName args)

def cancelAction (id : BytesN32) : Tx RootAnchorError State Unit := do
  let _ ← requireAdmin env
  onTimelock (Timelock.cancel env id)

/-- Replace the notary set. Pending approvals from the previous set stop counting. -/
def setSigners (signers : List Address) (threshold : U32) : Tx RootAnchorError State Unit := do
  let admin ← adminOf
  onTimelock (Timelock.gate H env admin "set_signers" [.addresses signers, .u32 threshold])
  applySigners signers threshold

/-- Discard a root's record: its approvals never count again. `latestSeqs` is left alone. -/
def revokeAnchor (sourceChainId : U128) (root : BytesN32) : Tx RootAnchorError State Unit := do
  let _ ← requireAdmin env
  let s ← Tx.read
  let record ← Tx.expect (s.notary.getAnchor (sourceChainId, root)) .noSuchAnchor
  Tx.require (record.anchored = true ∨ record.approvals ≠ 0) .noSuchAnchor
  let gen ← Tx.lift (Check.add 32 record.gen 1)
  setNotary fun n => { n with
    anchors := n.anchors.set (sourceChainId, root) { record with
      gen, approvals := 0, anchored := false, anchoredAt := 0, ledgerSeq := 0 } }
  publish (.anchorRevoked sourceChainId root gen)

/-- Recover a route whose sequence was pinned wrongly. Raising the pin is a brake. -/
def resetLatestSeq (sourceChainId : U128) (seq : U64) : Tx RootAnchorError State Unit := do
  let admin ← adminOf
  let s ← Tx.read
  onTimelock (Timelock.gateUnless H env admin
    (s.notary.getLatestSeq sourceChainId ≤ seq.toNat) "reset_latest_seq"
    [.u128 sourceChainId, .u64 seq] (H.brakeKey "reset_latest_seq" (.u128 sourceChainId)))
  setNotary fun n => { n with latestSeqs := n.latestSeqs.set sourceChainId seq.toNat }
  publish (.latestSeqReset sourceChainId seq.toNat)

/-- Seconds an anchor of the chain must age before it is usable. A raise is a brake. -/
def setAnchorDelay (sourceChainId : U128) (delay : U64) : Tx RootAnchorError State Unit := do
  let admin ← adminOf
  let s ← Tx.read
  onTimelock (Timelock.gateUnless H env admin
    (s.notary.getDelay sourceChainId ≤ delay.toNat) "set_anchor_delay"
    [.u128 sourceChainId, .u64 delay] (H.brakeKey "set_anchor_delay" (.u128 sourceChainId)))
  Tx.require (delay.toNat ≤ MAX_ANCHOR_DELAY) .delayTooLong
  setNotary fun n => { n with delays := n.delays.set sourceChainId delay.toNat }
  publish (.anchorDelaySet sourceChainId delay.toNat)

/-- Switching the sequence check off waits the delay; switching it on is a brake. -/
def setMonotonic (monotonic : Bool) : Tx RootAnchorError State Unit := do
  let admin ← adminOf
  onTimelock (Timelock.gateUnless H env admin monotonic "set_monotonic" [.bool monotonic]
    (H.brakeKey "set_monotonic" .unit))
  setNotary fun n => { n with monotonic }
  publish (.monotonicSet monotonic)

end Admin

/-! ## Notary -/

/-- The stamp `(set_epoch << 32) | gen` of an approval. -/
def stampOf (setEpoch gen : ℕ) : ℕ := setEpoch <<< 32 ||| gen

/-- Approvals from an earlier signer set do not carry over. -/
def AnchorRec.inEpoch (record : AnchorRec) (setEpoch : ℕ) : AnchorRec :=
  if record.setEpoch ≠ setEpoch then { record with setEpoch, approvals := 0 } else record

/-- The first approval sets the ledger sequence; no later signer, repeat or not, can move it. -/
def AnchorRec.named (record : AnchorRec) (monotonic : Bool) (latest ledgerSeq : ℕ) :
    Check RootAnchorError AnchorRec :=
  if record.approvals = 0 then
    if monotonic = true ∧ ledgerSeq ≤ latest then .error (.error .seqNotMonotonic)
    else .ok { record with ledgerSeq }
  else if ledgerSeq ≠ record.ledgerSeq then .error (.error .seqMismatch)
  else .ok record

/-- Count the signer's approval, unless its stamp says it already was. -/
def countApproval (key : RootKey) (signer : Address) (record : AnchorRec) :
    Tx RootAnchorError State AnchorRec := do
  let s ← Tx.read
  let stamp := stampOf record.setEpoch record.gen
  if s.notary.getApprovalStamp key signer ≠ some stamp then
    setNotary fun n => { n with approvalStamps := n.approvalStamps.set (key, signer) stamp }
    let approvals ← Tx.lift (Check.add 32 record.approvals 1)
    publish (.anchorApproved key.1 key.2 signer approvals)
    pure { record with approvals }
  else pure record

/-- Anchor the root once the threshold is reached; a newer root may have anchored meanwhile. -/
def reachThreshold (env : Env) (key : RootKey) (latest : ℕ) (record : AnchorRec) :
    Tx RootAnchorError State AnchorRec := do
  let s ← Tx.read
  if s.notary.threshold ≤ record.approvals then
    Tx.require (¬(s.notary.monotonic = true ∧ record.ledgerSeq ≤ latest)) .seqNotMonotonic
    setNotary fun n => { n with
      latestSeqs :=
        if latest < record.ledgerSeq then n.latestSeqs.set key.1 record.ledgerSeq
        else n.latestSeqs }
    publish (.anchored key.1 key.2 record.ledgerSeq env.now)
    pure { record with anchored := true, anchoredAt := env.now }
  else pure record

/-- Approve `root` as the source chain's root at `ledgerSeq`. Re-anchoring an anchored root is a
no-op, so that a retrying publisher never fails. -/
def anchor (env : Env) (signer : Address) (sourceChainId : U128) (root : BytesN32)
    (ledgerSeq : U64) : Tx RootAnchorError State Unit := do
  let s ← Tx.read
  Tx.require (s.initialized = true) .notInitialized
  Tx.require (s.paused = false) .contractPaused
  requireAuth env signer
  Tx.require (signer ∈ s.notary.signers) .notSigner
  let record := (s.notary.getAnchor (sourceChainId, root)).getD .absent
  if record.anchored = true then pure ()
  else
    let latest := s.notary.getLatestSeq sourceChainId
    let named ← Tx.lift
      ((record.inEpoch s.notary.setEpoch).named s.notary.monotonic latest ledgerSeq.toNat)
    let counted ← countApproval (sourceChainId, root) signer named
    let reached ← reachThreshold env (sourceChainId, root) latest counted
    setNotary fun n => { n with anchors := n.anchors.set (sourceChainId, root) reached }

/-! ## Views -/

/-- The whole consumer surface. Not gated by pause, and never traps. -/
def isAnchored (env : Env) (sourceChainId : U128) (root : BytesN32) (s : State) : Bool :=
  match s.notary.getAnchor (sourceChainId, root) with
  | some record =>
    record.anchored && decide (record.anchoredAt ≤ env.now) &&
      decide (s.notary.getDelay sourceChainId ≤ env.now - record.anchoredAt)
  | none => false

/-- When the root reached the threshold, or 0 if it is not anchored. -/
def anchoredAt (sourceChainId : U128) (root : BytesN32) (s : State) : ℕ :=
  match s.notary.getAnchor (sourceChainId, root) with
  | some record => if record.anchored = true then record.anchoredAt else 0
  | none => 0

/-! ## The contract as its host sees it -/

/-- The entry points that change state, with their arguments. -/
inductive Call
  | initializeContract (admin : Address) (signers : List Address) (threshold : U32)
  | pause
  | unpause
  | transferAdmin (successor : Address)
  | acceptAdmin
  | activateTimelock
  | proposeAction (fnName : Symbol) (args : Bytes)
  | cancelAction (id : BytesN32)
  | setSigners (signers : List Address) (threshold : U32)
  | revokeAnchor (sourceChainId : U128) (root : BytesN32)
  | resetLatestSeq (sourceChainId : U128) (seq : U64)
  | setAnchorDelay (sourceChainId : U128) (delay : U64)
  | setMonotonic (monotonic : Bool)
  | anchor (signer : Address) (sourceChainId : U128) (root : BytesN32) (ledgerSeq : U64)
  deriving DecidableEq

/-- What a call answers. -/
inductive Ret
  | unit
  /-- The id of a proposed action. -/
  | action (id : BytesN32)
  deriving DecidableEq

/-- A call of an entry point that answers nothing. -/
abbrev done (x : Tx RootAnchorError State Unit) : Tx RootAnchorError State Ret :=
  Tx.answer (fun _ => .unit) x

/-- Run a call. -/
def exec (H : Host) (env : Env) : Call → Tx RootAnchorError State Ret
  | .initializeContract admin signers threshold => done (initializeContract admin signers threshold)
  | .pause => done (pause env)
  | .unpause => done (unpause env)
  | .transferAdmin successor => done (transferAdmin env successor)
  | .acceptAdmin => done (acceptAdmin env)
  | .activateTimelock => done (activateTimelock env)
  | .proposeAction fnName args => Tx.answer .action (proposeAction H env fnName args)
  | .cancelAction id => done (cancelAction env id)
  | .setSigners signers threshold => done (setSigners H env signers threshold)
  | .revokeAnchor sourceChainId root => done (revokeAnchor env sourceChainId root)
  | .resetLatestSeq sourceChainId seq => done (resetLatestSeq H env sourceChainId seq)
  | .setAnchorDelay sourceChainId delay => done (setAnchorDelay H env sourceChainId delay)
  | .setMonotonic monotonic => done (setMonotonic H env monotonic)
  | .anchor signer sourceChainId root ledgerSeq =>
    done (anchor env signer sourceChainId root ledgerSeq)

/-- The RootAnchor with its host. Nothing around it touches its storage. -/
def system (H : Host) : System RootAnchorError State (Env × Call) Ret where
  call t := exec H t.1 t.2
  admits _ _ := True
  outside _ _ := False

end RootAnchor
end ProofBridge
