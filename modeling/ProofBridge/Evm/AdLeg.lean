import ProofBridge.Evm.OrderHash
import ProofBridge.Core.Rules
import ProofBridge.Lib.Map
import ProofBridge.Lib.Run

/-!
# The clocks of the EVM ad leg

The AdManager, its dispute modules and its anchor, as far as an order's clocks are written and read.
Every other check a call makes (parties, funds, keys, proofs, the admin's gate) is answered by the
call's context, and so is the denial rule.
-/

namespace ProofBridge
namespace Evm
namespace AdLeg

open ContractLib

inductive ClockError
  /-- Another check of the call. -/
  | refused
  | zeroAddress
  | routeTimingNotSet (chainId : Uint256)
  | invalidTiming (field : ℕ)
  | deadlineTooSoon (deadline minAllowed : ℕ)
  | deadlineTooFar (deadline maxAllowed : ℕ)
  | orderExists (orderHash : BytesN32)
  | orderExpired (cutoff : ℕ)
  | orderNotOpen (orderHash : BytesN32)
  | notClaimable (orderHash : BytesN32) (status : Status)
  | notClaimed (orderHash : BytesN32)
  | tooEarly (time : ℕ)
  | notDisputable (orderHash : BytesN32) (status : Status)
  | disputeWindowClosed (orderHash : BytesN32) (windowEnd : ℕ)
  | noDisputeManager
  | disputeNotResolved (orderHash : BytesN32)
  | disputeExists (orderHash : BytesN32)
  | noParams (chainId : Uint256)
  | invalidParams (field : ℕ)
  | notDisputed (orderHash : BytesN32)
  | arbiterCannotSettle
  | challengeClosed (since : ℕ)
  | delayTooLong (max delay : ℕ)
  deriving DecidableEq, Repr

/-- `IEscrow.Order`, without the registry's fields. -/
structure Order where
  status : Status
  lockedAt : ℕ
  timingVersion : ℕ
  anchorDelay : ℕ
  deriving DecidableEq, Repr

/-- How an unset slot reads. -/
def Order.absent : Order where
  status := .none
  lockedAt := 0
  timingVersion := 0
  anchorDelay := 0

/-- `Termination.Claim`. -/
structure Claim where
  openedAt : ℕ
  finalizeAt : ℕ
  deriving DecidableEq, Repr

/-- The clock of a `Dispute.Record`. -/
structure Record where
  challengeDeadline : ℕ
  ruling : DisputeOutcome
  orderDeadline : ℕ
  buffer : ℕ
  deriving DecidableEq, Repr

/-- The escrow's storage, and that of the anchors and dispute modules it may be wired to. An unset
entry of a mapping reads as zero. -/
structure Chain where
  timingVersion : Map Uint256 ℕ
  routeTimingAt : Map (Uint256 × ℕ) RouteTiming
  orders : Map BytesN32 Order
  claims : Map BytesN32 Claim
  rootAnchor : EvmAddress
  disputeManager : EvmAddress
  disputeModuleOf : Map BytesN32 EvmAddress
  /-- `anchorDelay` of the anchor at an address. -/
  anchorDelay : Map (EvmAddress × Uint256) ℕ
  /-- `disputeParams` of the module at an address: the challenge period. -/
  challengePeriod : Map (EvmAddress × Uint256) ℕ
  /-- `disputes` of the module at an address. -/
  disputes : Map (EvmAddress × BytesN32) Record

/-- The block of a call, and what is answered to it from outside. -/
structure Context where
  timestamp : Uint256
  /-- The other checks pass. -/
  passes : Bool
  /-- `_coSignDenied`. -/
  denied : Bool
  /-- The dispute's filer is not the maker. -/
  byBridger : Bool
  deriving DecidableEq, Repr

namespace Context

variable (ctx : Context)

/-- `block.timestamp`. -/
def now : ℕ := ctx.timestamp.toNat

/-- `uint64(block.timestamp)`. -/
def now64 : ℕ := ctx.now % 2 ^ 64

end Context

namespace Chain

/-- A chain just deployed. -/
def fresh : Chain where
  timingVersion := ∅
  routeTimingAt := ∅
  orders := ∅
  claims := ∅
  rootAnchor := 0
  disputeManager := 0
  disputeModuleOf := ∅
  anchorDelay := ∅
  challengePeriod := ∅
  disputes := ∅

variable (s : Chain)

def order (orderHash : BytesN32) : Order := (s.orders.get? orderHash).getD .absent

def status (orderHash : BytesN32) : Status := (s.order orderHash).status

def version (chainId : Uint256) : ℕ := (s.timingVersion.get? chainId).getD 0

def timingAt (chainId : Uint256) (version : ℕ) : RouteTiming :=
  (s.routeTimingAt.get? (chainId, version)).getD ⟨0, 0, 0, 0⟩

/-- `_orderTiming`: the version the order opened under. -/
def orderTiming (orderHash : BytesN32) (chainId : Uint256) : RouteTiming :=
  s.timingAt chainId (s.order orderHash).timingVersion

def claimOf (orderHash : BytesN32) : Claim := (s.claims.get? orderHash).getD ⟨0, 0⟩

def moduleOf (orderHash : BytesN32) : EvmAddress := (s.disputeModuleOf.get? orderHash).getD 0

/-- `_anchorDelayNow`. -/
def anchorDelayNow (chainId : Uint256) : ℕ :=
  if s.rootAnchor = 0 then 0 else (s.anchorDelay.get? (s.rootAnchor, chainId)).getD 0

/-! ## The clocks -/

/-- `_windowEnd`. -/
def windowEnd (orderHash : BytesN32) (deadline buffer : ℕ) : Check ClockError ℕ :=
  if s.status orderHash = .claimed then .ok (s.claimOf orderHash).finalizeAt
  else Check.add 256 deadline buffer

/-- `_presentationCutoff`. -/
def presentationCutoff (orderHash : BytesN32) (p : AdOrderParams) : Check ClockError ℕ := do
  let t := s.orderTiming orderHash p.orderChainId
  let windowEnd ← s.windowEnd orderHash p.deadline.toNat t.buffer
  Check.sub windowEnd t.margin

/-- The last second of a re-pin. -/
def repinCutoff (orderHash : BytesN32) (p : AdOrderParams) : Check ClockError ℕ :=
  Check.sub p.deadline.toNat (s.orderTiming orderHash p.orderChainId).claimStagger

/-- `_evidenceGrace`. -/
def evidenceGrace (orderHash : BytesN32) (orderChainId : Uint256) : Check ClockError ℕ :=
  let delay := s.anchorDelayNow orderChainId
  let atLock := (s.order orderHash).anchorDelay
  Check.add 256 (if delay < atLock then atLock else delay)
    (s.orderTiming orderHash orderChainId).buffer

/-- The claimed half of `_finalizesAt`. -/
def cancelEnd (ctx : Context) (orderHash : BytesN32) (p : AdOrderParams) : Check ClockError ℕ := do
  let finalizeAt := (s.claimOf orderHash).finalizeAt
  let _ ← s.presentationCutoff orderHash p
  if ctx.denied = true then do
    let grace ← s.evidenceGrace orderHash p.orderChainId
    Check.add 256 finalizeAt grace
  else .ok finalizeAt

/-- The open dispute over an order, in the module it was filed with. -/
def recordOf (orderHash : BytesN32) : Option Record :=
  s.disputes.get? (s.moduleOf orderHash, orderHash)

/-- `effectiveChallengeDeadline`. -/
def challengeDeadline (orderHash : BytesN32) : ℕ :=
  ((s.recordOf orderHash).map Record.challengeDeadline).getD 0

/-- `_disputeEnd`. -/
def disputeEnd (ctx : Context) (orderHash : BytesN32) (p : AdOrderParams)
    (outcome : DisputeOutcome) : Check ClockError ℕ :=
  if outcome = .makerForfeit then .ok (s.challengeDeadline orderHash)
  else if ctx.denied = true then do
    let grace ← s.evidenceGrace orderHash p.orderChainId
    Check.add 256 (s.challengeDeadline orderHash) grace
  else .ok (s.challengeDeadline orderHash)

end Chain

/-- The deadline `openDispute` writes: the period on from now, and no earlier than the window. -/
def filingDeadline (ctx : Context) (period deadline buffer : ℕ) : Check ClockError ℕ := do
  let challengeDeadline ← Check.add 64 ctx.now64 period
  let least ← Check.add 64 deadline buffer
  pure (if challengeDeadline < least then least else challengeDeadline)

/-- The deadline `resolveDispute` writes. -/
def rulingDeadline (ctx : Context) (d : Record) : Check ClockError ℕ :=
  Check.add 64 (if d.orderDeadline < ctx.now64 then ctx.now64 else d.orderDeadline) d.buffer

section Entries

variable (hash : AdOrderParams → BytesN32) (ctx : Context)

/-- `_requireMinWindow`. -/
def requireMinWindow (chainId : Uint256) (deadline : ℕ) (s : Chain) : Check ClockError ℕ := do
  let v := s.version chainId
  Check.require (v ≠ 0) (.routeTimingNotSet chainId)
  let minAllowed ← Check.add 256 ctx.now (s.timingAt chainId v).minWindow
  Check.require (minAllowed ≤ deadline) (.deadlineTooSoon deadline minAllowed)
  let maxAllowed ← Check.add 256 ctx.now MAX_ORDER_WINDOW
  Check.require (deadline ≤ maxAllowed) (.deadlineTooFar deadline maxAllowed)
  pure v

def passed : Tx ClockError Chain Unit := Tx.require (ctx.passes = true) .refused

abbrev editOrder (orderHash : BytesN32) (f : Order → Order) : Tx ClockError Chain Unit :=
  Tx.modify fun s => { s with orders := s.orders.set orderHash (f (s.order orderHash)) }

abbrev setStatus (orderHash : BytesN32) (status : Status) : Tx ClockError Chain Unit :=
  editOrder orderHash fun o => { o with status }

/-- `delete claims[orderHash]`. -/
abbrev deleteClaim (orderHash : BytesN32) : Tx ClockError Chain Unit :=
  Tx.modify fun s => { s with claims := s.claims.remove orderHash }

/-- `settleBond` on the order's module: the record is deleted. -/
def settleBond (orderHash : BytesN32) : Tx ClockError Chain Unit := do
  let s ← Tx.read
  Tx.require ((s.recordOf orderHash).isSome = true) (.notDisputed orderHash)
  Tx.modify fun s => { s with disputes := s.disputes.remove (s.moduleOf orderHash, orderHash) }

/-! ## The escrow -/

def lockForOrder (p : AdOrderParams) : Tx ClockError Chain Unit := do
  passed ctx
  let version ← Tx.view (requireMinWindow ctx p.orderChainId p.deadline.toNat)
  let s ← Tx.read
  Tx.require (s.status (hash p) = .none) (.orderExists (hash p))
  editOrder (hash p) fun _ => {
    status := .opened
    lockedAt := ctx.now64
    timingVersion := version
    -- `uint32(...)`
    anchorDelay := s.anchorDelayNow p.orderChainId % 2 ^ 32 }

/-- `_closeDisputeByEvidence`. -/
def closeDisputeByEvidence (p : AdOrderParams) : Tx ClockError Chain Unit := do
  let s ← Tx.read
  if s.status (hash p) = .disputed then do
    if ctx.byBridger = true then do
      let _ ← Tx.view fun s => s.presentationCutoff (hash p) p
      settleBond (hash p)
    else settleBond (hash p)
  else pure ()

/-- `_fill`. -/
def fill (orderHash : BytesN32) : Tx ClockError Chain Unit := do
  setStatus orderHash .filled
  deleteClaim orderHash

def unlock (p : AdOrderParams) : Tx ClockError Chain Unit := do
  let cutoff ← Tx.view fun s => s.presentationCutoff (hash p) p
  Tx.require (ctx.now < cutoff) (.orderExpired cutoff)
  let s ← Tx.read
  Tx.require ((s.status (hash p)).live = true) (.orderNotOpen (hash p))
  passed ctx
  closeDisputeByEvidence hash ctx p
  fill (hash p)

def claimCancel (p : AdOrderParams) : Tx ClockError Chain Unit := do
  let s ← Tx.read
  Tx.require (s.status (hash p) = .opened) (.notClaimable (hash p) (s.status (hash p)))
  Tx.require (p.deadline.toNat ≤ ctx.now) (.tooEarly p.deadline.toNat)
  let finalizeAt ← Tx.lift
    (Check.add 256 p.deadline.toNat (s.orderTiming (hash p) p.orderChainId).buffer)
  Tx.modify fun s => { s with claims := s.claims.set (hash p) ⟨ctx.now64, finalizeAt % 2 ^ 64⟩ }
  setStatus (hash p) .claimed

def finalizeCancel (p : AdOrderParams) : Tx ClockError Chain Unit := do
  let s ← Tx.read
  Tx.require (s.status (hash p) = .claimed) (.notClaimed (hash p))
  Tx.require ((s.claimOf (hash p)).finalizeAt ≤ ctx.now)
    (.tooEarly (s.claimOf (hash p)).finalizeAt)
  let finalizesAt ← Tx.view fun s => s.cancelEnd ctx (hash p) p
  Tx.require (finalizesAt ≤ ctx.now) (.tooEarly finalizesAt)
  passed ctx
  setStatus (hash p) .cancelled
  deleteClaim (hash p)

/-- `openDispute` of the wired module. -/
def openDispute (orderHash : BytesN32) (peerChainId : Uint256) (deadline buffer : ℕ) :
    Tx ClockError Chain Unit := do
  let s ← Tx.read
  Tx.require (s.disputes.get? (s.disputeManager, orderHash) = none) (.disputeExists orderHash)
  let period := (s.challengePeriod.get? (s.disputeManager, peerChainId)).getD 0
  Tx.require (period ≠ 0) (.noParams peerChainId)
  let challengeDeadline ← Tx.lift (filingDeadline ctx period deadline buffer)
  Tx.modify fun s => { s with
    disputes := s.disputes.set (s.disputeManager, orderHash) {
      challengeDeadline, ruling := .none, orderDeadline := deadline, buffer } }

def dispute (p : AdOrderParams) : Tx ClockError Chain Unit := do
  passed ctx
  let s ← Tx.read
  let buffer := (s.orderTiming (hash p) p.orderChainId).buffer
  -- `uint64(params.deadline)`
  let deadline := p.deadline.toNat % 2 ^ 64
  Tx.require (s.status (hash p) = .opened ∨ s.status (hash p) = .claimed)
    (.notDisputable (hash p) (s.status (hash p)))
  let windowEnd ← Tx.view fun s => s.windowEnd (hash p) deadline buffer
  Tx.require (ctx.now < windowEnd) (.disputeWindowClosed (hash p) windowEnd)
  Tx.require (s.disputeManager ≠ 0) .noDisputeManager
  openDispute ctx (hash p) p.orderChainId deadline buffer
  Tx.modify fun s => { s with
    disputeModuleOf := s.disputeModuleOf.set (hash p) s.disputeManager }
  setStatus (hash p) .disputed
  deleteClaim (hash p)

def finalizeDispute (p : AdOrderParams) : Tx ClockError Chain Unit := do
  let s ← Tx.read
  Tx.require (s.status (hash p) = .disputed) (.notClaimable (hash p) (s.status (hash p)))
  -- `outcomeOf`: the window of no record is never over
  let d ← Tx.expect (s.recordOf (hash p)) (.disputeNotResolved (hash p))
  Tx.require (d.challengeDeadline ≤ ctx.now) (.disputeNotResolved (hash p))
  let outcome := if d.ruling = .none then .mutualRefund else d.ruling
  let disputeEnd ← Tx.view fun s => s.disputeEnd ctx (hash p) p outcome
  Tx.require (disputeEnd ≤ ctx.now) (.tooEarly disputeEnd)
  passed ctx
  setStatus (hash p) .resolved
  settleBond (hash p)

def cancelNeverLocked (p : AdOrderParams) : Tx ClockError Chain Unit := do
  let s ← Tx.read
  Tx.require (s.status (hash p) = .none) (.notClaimable (hash p) (s.status (hash p)))
  Tx.require (p.deadline.toNat ≤ ctx.now) (.tooEarly p.deadline.toNat)
  Tx.require (s.version p.orderChainId ≠ 0) (.routeTimingNotSet p.orderChainId)
  passed ctx
  setStatus (hash p) .cancelled

/-- The pin moves; no clock does. -/
def repinOrder (p : AdOrderParams) : Tx ClockError Chain Unit := do
  let cutoff ← Tx.view fun s => s.repinCutoff (hash p) p
  let s ← Tx.read
  Tx.require (s.status (hash p) = .opened) (.orderNotOpen (hash p))
  Tx.require (ctx.now ≤ cutoff) (.orderExpired cutoff)
  passed ctx

def presentSettled (p : AdOrderParams) : Tx ClockError Chain Unit := do
  let s ← Tx.read
  Tx.require ((s.status (hash p)).live = true) (.notClaimable (hash p) (s.status (hash p)))
  passed ctx
  closeDisputeByEvidence hash ctx p
  fill (hash p)

/-! ## The admin's setters -/

/-- `RouteTiming.validate`. -/
def validateTiming (timing : RouteTiming) : Check ClockError Unit :=
  match timing.validate with
  | .ok _ => .ok ()
  | .error field => .error (.error (.invalidTiming field))

def setRouteTiming (chainId : Uint256) (timing : RouteTiming) : Tx ClockError Chain Unit := do
  passed ctx
  Tx.lift (validateTiming timing)
  let s ← Tx.read
  let v ← Tx.lift (Check.add 32 (s.version chainId) 1)
  Tx.modify fun s => { s with
    timingVersion := s.timingVersion.set chainId v
    routeTimingAt := s.routeTimingAt.set (chainId, v) timing }

def setRootAnchor (anchor : EvmAddress) : Tx ClockError Chain Unit := do
  passed ctx
  Tx.require (anchor ≠ 0) .zeroAddress
  Tx.modify fun s => { s with rootAnchor := anchor }

def setDisputeManager (manager : EvmAddress) : Tx ClockError Chain Unit := do
  passed ctx
  Tx.require (manager ≠ 0) .zeroAddress
  Tx.modify fun s => { s with disputeManager := manager }

/-! ## The modules and the anchors -/

/-- `Dispute.validate`, of the period. -/
def validatePeriod (period : ℕ) : Check ClockError Unit :=
  Check.require (MIN_CHALLENGE_PERIOD ≤ period ∧ period ≤ MAX_CHALLENGE_PERIOD) (.invalidParams 1)

def setDisputeParams (manager : EvmAddress) (chainId : Uint256) (period : ℕ) :
    Tx ClockError Chain Unit := do
  passed ctx
  Tx.lift (validatePeriod period)
  Tx.modify fun s => { s with challengePeriod := s.challengePeriod.set (manager, chainId) period }

def resolveDispute (manager : EvmAddress) (orderHash : BytesN32) (outcome : DisputeOutcome) :
    Tx ClockError Chain Unit := do
  passed ctx
  Tx.require (outcome ≠ .tradeProceeds ∧ outcome ≠ .none) .arbiterCannotSettle
  let s ← Tx.read
  let d ← Tx.expect (s.disputes.get? (manager, orderHash)) (.notDisputed orderHash)
  Tx.require (ctx.now < d.challengeDeadline) (.challengeClosed d.challengeDeadline)
  let finalizeAt ← Tx.lift (rulingDeadline ctx d)
  Tx.modify fun s => { s with
    disputes := s.disputes.set (manager, orderHash)
      { d with ruling := outcome, challengeDeadline := finalizeAt } }

/-- `RootAnchor.MAX_ANCHOR_DELAY`. -/
def MAX_ANCHOR_DELAY : ℕ := 7 * 24 * 60 * 60

def setAnchorDelay (anchor : EvmAddress) (sourceChainId : Uint256) (delay : ℕ) :
    Tx ClockError Chain Unit := do
  passed ctx
  Tx.require (delay ≤ MAX_ANCHOR_DELAY) (.delayTooLong MAX_ANCHOR_DELAY delay)
  Tx.modify fun s => { s with anchorDelay := s.anchorDelay.set (anchor, sourceChainId) delay }

end Entries

/-! ## The leg as its chain sees it -/

/-- A call of the escrow, of a dispute module or of an anchor. -/
inductive Call
  | lockForOrder (p : AdOrderParams)
  | unlock (p : AdOrderParams)
  | claimCancel (p : AdOrderParams)
  | finalizeCancel (p : AdOrderParams)
  | dispute (p : AdOrderParams)
  | finalizeDispute (p : AdOrderParams)
  | cancelNeverLocked (p : AdOrderParams)
  | repinOrder (p : AdOrderParams)
  | presentSettled (p : AdOrderParams)
  | setRouteTiming (chainId : Uint256) (timing : RouteTiming)
  | setRootAnchor (anchor : EvmAddress)
  | setDisputeManager (manager : EvmAddress)
  | setDisputeParams (manager : EvmAddress) (chainId : Uint256) (period : ℕ)
  | resolveDispute (manager : EvmAddress) (orderHash : BytesN32) (outcome : DisputeOutcome)
  | setAnchorDelay (anchor : EvmAddress) (sourceChainId : Uint256) (delay : ℕ)
  deriving DecidableEq

/-- The order a call names. -/
def Call.params? : Call → Option AdOrderParams
  | .lockForOrder p | .unlock p | .claimCancel p | .finalizeCancel p | .dispute p
  | .finalizeDispute p | .cancelNeverLocked p | .repinOrder p | .presentSettled p => some p
  | _ => none

def exec (hash : AdOrderParams → BytesN32) (ctx : Context) : Call → Tx ClockError Chain Unit
  | .lockForOrder p => lockForOrder hash ctx p
  | .unlock p => unlock hash ctx p
  | .claimCancel p => claimCancel hash ctx p
  | .finalizeCancel p => finalizeCancel hash ctx p
  | .dispute p => dispute hash ctx p
  | .finalizeDispute p => finalizeDispute hash ctx p
  | .cancelNeverLocked p => cancelNeverLocked hash ctx p
  | .repinOrder p => repinOrder hash ctx p
  | .presentSettled p => presentSettled hash ctx p
  | .setRouteTiming chainId timing => setRouteTiming ctx chainId timing
  | .setRootAnchor anchor => setRootAnchor ctx anchor
  | .setDisputeManager manager => setDisputeManager ctx manager
  | .setDisputeParams manager chainId period => setDisputeParams ctx manager chainId period
  | .resolveDispute manager orderHash outcome => resolveDispute ctx manager orderHash outcome
  | .setAnchorDelay anchor chainId delay => setAnchorDelay ctx anchor chainId delay

/-- The leg with its chain. Other escrows file their own orders with the same modules. -/
def system (hash : AdOrderParams → BytesN32) : System ClockError Chain (Context × Call) Unit where
  call t := exec hash t.1 t.2
  admits _ _ := True
  outside s s' := ∃ disputes, s' = { s with disputes } ∧
    ∀ manager orderHash, s.status orderHash ≠ .none →
      disputes.get? (manager, orderHash) = s.disputes.get? (manager, orderHash)

end AdLeg
end Evm
end ProofBridge
