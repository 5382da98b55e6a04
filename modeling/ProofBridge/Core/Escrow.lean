import ProofBridge.Core.Outside
import ProofBridge.Core.Rules
import ProofBridge.Core.Timelock

/-!
# What both escrows keep and do the same way

The storage both escrows share, the admin surface, the pull payments and the termination core.
`Settings` is what an admin sets, `Ledger` is what orders move; a call that only changes settings
then says so by leaving the ledger alone.

A check that reads the state and may refuse is a function of the state (`Tx.view` runs it), so it
cannot change what it reads; a step that writes is a `Tx`.
-/

namespace ProofBridge

open ContractLib

/-- What the admin sets. -/
structure Settings where
  initialized : Bool
  config : Option ContractConfig
  paused : Bool
  pendingAdmin : Option Address
  rootAnchor : Option Address
  /-- The dispute module new filings go to. -/
  disputeManager : Option Address
  /-- `(token, peer chain) -> peer token`. -/
  routes : Map (BytesN32 × U128) BytesN32
  /-- `(peer chain, version) -> clocks`; versions are never edited in place. -/
  timings : Map (U128 × ℕ) RouteTiming
  /-- The route's current timing version (0 = unset). -/
  timingVersions : Map U128 ℕ
  rootVerifiers : Map U128 Address
  /-- When the route's verifier last changed. -/
  rootVerifierChangedAt : Map U128 ℕ
  /-- Every chain a root verifier was ever set for, in first-wired order. -/
  wiredChains : List U128
  timelock : Timelock

/-- What the orders move. -/
structure Ledger where
  orders : Map BytesN32 OrderRecord
  /-- The dispute module an order was filed with. -/
  disputeManagers : Map BytesN32 Address
  /-- The open presentation windows. -/
  claims : Map BytesN32 ClaimRecord
  /-- The orders marked settled-recorded. -/
  settled : Map BytesN32 Bool
  nullifiers : Map BytesN32 Bool
  /-- An account's open positions; a zero count is no entry. -/
  inFlight : Map BytesN32 ℕ
  /-- `(recipient, token) -> amount`; a drained credit is no entry. -/
  claimable : Map (BytesN32 × BytesN32) ℕ

/-- An escrow's shared storage, with what it has appended, what it has published, and everything
around it. -/
structure Core (X : Type) where
  settings : Settings
  ledger : Ledger
  /-- The leaves the Merkle manager took from this escrow, the newest first. -/
  leaves : List (BytesN32 × ℕ)
  /-- The events this escrow published, the newest first. -/
  events : List Event
  outside : X

def Settings.fresh : Settings where
  initialized := false
  config := none
  paused := false
  pendingAdmin := none
  rootAnchor := none
  disputeManager := none
  routes := ∅
  timings := ∅
  timingVersions := ∅
  rootVerifiers := ∅
  rootVerifierChangedAt := ∅
  wiredChains := []
  timelock := .fresh

def Ledger.fresh : Ledger where
  orders := ∅
  disputeManagers := ∅
  claims := ∅
  settled := ∅
  nullifiers := ∅
  inFlight := ∅
  claimable := ∅

/-- An escrow just deployed into the outside world `x`. -/
def Core.fresh {X : Type} (x : X) : Core X where
  settings := .fresh
  ledger := .fresh
  leaves := []
  events := []
  outside := x

/-! ## Reading the storage -/

namespace Ledger

variable (l : Ledger)

/-- `get_order`: a missing record reads as the absent one. -/
def getOrder (orderHash : BytesN32) : OrderRecord := (l.orders.get? orderHash).getD .absent

/-- `get_order_status`. -/
def status (orderHash : BytesN32) : Status := (l.getOrder orderHash).status

/-- `is_settled_recorded`. -/
def isSettledRecorded (orderHash : BytesN32) : Bool := (l.settled.get? orderHash).getD false

/-- `is_nullifier_used`. -/
def isNullifierUsed (nullifierHash : BytesN32) : Bool :=
  (l.nullifiers.get? nullifierHash).getD false

/-- `get_in_flight`. -/
def getInFlight (account : BytesN32) : ℕ := (l.inFlight.get? account).getD 0

/-- `get_claimable`. -/
def getClaimable (recipient token : BytesN32) : ℕ := (l.claimable.get? (recipient, token)).getD 0

end Ledger

namespace Settings

variable (st : Settings)

/-- `get_timing_version`. -/
def getTimingVersion (chainId : U128) : ℕ := (st.timingVersions.get? chainId).getD 0

/-- `get_route_timing_at`. -/
def getRouteTimingAt (chainId : U128) (version : ℕ) : Option RouteTiming :=
  st.timings.get? (chainId, version)

/-- `get_root_verifier_changed_at`. -/
def getRootVerifierChangedAt (chainId : U128) : ℕ := (st.rootVerifierChangedAt.get? chainId).getD 0

end Settings

variable {X : Type}

/-! ## Writing the storage -/

abbrev publish (e : Event) : Tx Fault (Core X) Unit :=
  Tx.modify fun c => { c with events := e :: c.events }

/-- `set_order`. -/
abbrev setOrder (orderHash : BytesN32) (f : OrderRecord → OrderRecord) : Tx Fault (Core X) Unit :=
  Tx.modify fun c => { c with
    ledger := { c.ledger with
      orders := c.ledger.orders.set orderHash (f (c.ledger.getOrder orderHash)) } }

/-- `set_order_status`: flip the status, keeping the rest of the record. -/
abbrev setOrderStatus (orderHash : BytesN32) (status : Status) : Tx Fault (Core X) Unit :=
  setOrder orderHash fun rec => { rec with status }

/-- `set_pinned_slot`: move an open order's pin and stamp the order re-pinned. -/
abbrev setPinnedSlot (orderHash : BytesN32) (slot : U32) : Tx Fault (Core X) Unit :=
  setOrder orderHash fun rec => { rec with pinnedSlot := slot, repinned := true }

/-- `open_order`. -/
abbrev openOrder (env : Env) (orderHash : BytesN32) (timingVersion registryEpoch anchorDelay : ℕ)
    (pinnedSlot : U32) : Tx Fault (Core X) Unit :=
  setOrder orderHash fun _ =>
    { status := .opened, lockedAt := env.now, registryEpoch, timingVersion, anchorDelay,
      pinnedSlot, repinned := false }

abbrev setClaim (orderHash : BytesN32) (claim : ClaimRecord) : Tx Fault (Core X) Unit :=
  Tx.modify fun c =>
    { c with ledger := { c.ledger with claims := c.ledger.claims.set orderHash claim } }

abbrev removeClaim (orderHash : BytesN32) : Tx Fault (Core X) Unit :=
  Tx.modify fun c =>
    { c with ledger := { c.ledger with claims := c.ledger.claims.remove orderHash } }

abbrev setSettledRecorded (orderHash : BytesN32) : Tx Fault (Core X) Unit :=
  Tx.modify fun c =>
    { c with ledger := { c.ledger with settled := c.ledger.settled.set orderHash true } }

abbrev setNullifierUsed (nullifierHash : BytesN32) : Tx Fault (Core X) Unit :=
  Tx.modify fun c =>
    { c with ledger := { c.ledger with nullifiers := c.ledger.nullifiers.set nullifierHash true } }

abbrev setOrderDisputeManager (orderHash : BytesN32) (manager : Address) :
    Tx Fault (Core X) Unit :=
  Tx.modify fun c =>
    { c with ledger := { c.ledger with
      disputeManagers := c.ledger.disputeManagers.set orderHash manager } }

/-- What a count or a credit is stored as: a zero is a removal, which reads the same. -/
def storeNonzero {K : Type} [DecidableEq K] (m : Map K ℕ) (k : K) (n : ℕ) : Map K ℕ :=
  if n = 0 then m.remove k else m.set k n

/-- `set_in_flight`. -/
abbrev setInFlight (account : BytesN32) (count : ℕ) : Tx Fault (Core X) Unit :=
  Tx.modify fun c =>
    { c with ledger := { c.ledger with
      inFlight := storeNonzero c.ledger.inFlight account count } }

/-- `set_claimable`. -/
abbrev setClaimable (recipient token : BytesN32) (amount : ℕ) : Tx Fault (Core X) Unit :=
  Tx.modify fun c =>
    { c with ledger := { c.ledger with
      claimable := storeNonzero c.ledger.claimable (recipient, token) amount } }

abbrev setSettings (f : Settings → Settings) : Tx Fault (Core X) Unit :=
  Tx.modify fun c => { c with settings := f c.settings }

abbrev setOutside (x : X) : Tx Fault (Core X) Unit := Tx.modify fun c => { c with outside := x }

/-- Count an account's position in. -/
def countIn (account : BytesN32) : Tx Fault (Core X) Unit := do
  let c ← Tx.read
  let count ← Tx.lift (Check.add 64 (c.ledger.getInFlight account) 1)
  setInFlight account count

/-- Count an account's position out. -/
def countOut (account : BytesN32) : Tx Fault (Core X) Unit := do
  let c ← Tx.read
  let count ← Tx.lift (Check.sub (c.ledger.getInFlight account) 1)
  setInFlight account count

/-- The timelock of an escrow's settings. -/
abbrev onTimelock {α : Type} (x : Tx Fault Timelock α) : Tx Fault (Core X) α :=
  Tx.zoom (fun c : Core X => c.settings.timelock)
    (fun c t => { c with settings := { c.settings with timelock := t } }) id x

namespace Escrow

/-! ## Pause and admin handover -/

/-- `require_not_paused`: entries only; a pause stops new trades, never exits. -/
def requireNotPaused (c : Core X) : Check Fault Unit :=
  Check.require (c.settings.paused = false) .contractPaused

def pause (config : ContractConfig) : Tx Fault (Core X) Unit := do
  setSettings fun st => { st with paused := true }
  publish (.paused config.admin)

def unpause (config : ContractConfig) : Tx Fault (Core X) Unit := do
  setSettings fun st => { st with paused := false }
  publish (.unpaused config.admin)

def transferAdmin (config : ContractConfig) (successor : Address) : Tx Fault (Core X) Unit := do
  setSettings fun st => { st with pendingAdmin := some successor }
  publish (.adminTransferStarted config.admin successor)

/-- The standing nomination. -/
def pendingAdmin (c : Core X) : Check Fault Address :=
  Check.expect c.settings.pendingAdmin .notPendingAdmin

/-- Commit the handover; it voids the old admin's pending proposals. -/
def acceptAdmin (config : ContractConfig) (pending : Address) : Tx Fault (Core X) Unit := do
  setSettings fun st =>
    { st with config := some { config with admin := pending }, pendingAdmin := none }
  onTimelock Timelock.bumpEpoch
  publish (.adminTransferred config.admin pending)

/-! ## Admin setters -/

/-- `root_verifier_key`. -/
def rootVerifierKey (H : Host) (chainId : U128) : BytesN32 :=
  H.brakeKey "set_root_verifier" (.u128 chainId)

def setRootVerifier (env : Env) (chainId : U128) (module : Address) : Tx Fault (Core X) Unit := do
  setSettings fun st => { st with
    rootVerifiers := st.rootVerifiers.set chainId module
    rootVerifierChangedAt := st.rootVerifierChangedAt.set chainId env.now
    wiredChains :=
      if chainId ∈ st.wiredChains then st.wiredChains else st.wiredChains ++ [chainId] }
  publish (.rootVerifierSet chainId module)

/-- Wiring a chain's root verifier waits the delay, and is refused when an unwire of that chain
came at or after the proposal. -/
def setRootVerifierGated (H : Host) (env : Env) (admin : Address) (chainId : U128)
    (module : Address) : Tx Fault (Core X) Unit := do
  onTimelock (Timelock.gateKeyed H env admin "set_root_verifier" [.u128 chainId, .address module]
    (some (rootVerifierKey H chainId)))
  setRootVerifier env chainId module

/-- The instant brake: the chain's unlocks fail closed until a verifier is wired again. -/
def unsetRootVerifier (H : Host) (env : Env) (admin : Address) (chainId : U128) :
    Tx Fault (Core X) Unit := do
  onTimelock (Timelock.gateUnless H env admin true "set_root_verifier" []
    (rootVerifierKey H chainId))
  setSettings fun st => { st with
    rootVerifiers := st.rootVerifiers.remove chainId
    rootVerifierChangedAt := st.rootVerifierChangedAt.set chainId env.now }
  publish (.rootVerifierUnset chainId env.now)

/-- `set_route_timing`: a new version, validated, never edited in place. -/
def setRouteTiming (chainId : U128) (timing : RouteTiming) : Tx Fault (Core X) Unit := do
  Tx.require (timing.validate = .ok ()) .invalidTiming
  let c ← Tx.read
  let version ← Tx.lift (Check.add 32 (c.settings.getTimingVersion chainId) 1)
  setSettings fun st => { st with
    timings := st.timings.set (chainId, version) timing
    timingVersions := st.timingVersions.set chainId version }
  publish (.routeTimingSet chainId version timing)

def setRootAnchor (anchor : Address) : Tx Fault (Core X) Unit := do
  setSettings fun st => { st with rootAnchor := some anchor }
  publish (.rootAnchorSet anchor)

/-! ## Tokens -/

/-- The token contract behind 32 bytes. -/
def tokenContract (wNative : Address) (token : BytesN32) : Check Fault Address :=
  if isNativeToken token then .ok wNative
  else Check.expect (bytes32ToTokenAddress token) .tokenZeroAddress

theorem tokenContract_eq (wNative : Address) (token : BytesN32) :
    tokenContract wNative token = .ok (underlying wNative token) := by
  unfold tokenContract underlying bytes32ToTokenAddress
  split <;> simp_all [Check.expect]

section Tokens

variable (O : Outside X) (H : Host) (env : Env)

/-- `transfer_tokens`: the token call traps where the token refuses. -/
def transferTokens (token : BytesN32) (wNative payer payee : Address) (amount : ℕ) :
    Tx Fault (Core X) Unit := do
  let tokenAddr ← Tx.lift (tokenContract wNative token)
  let c ← Tx.read
  let x ← Tx.expectTrap
    (O.transfer c.outside (env.inside H.address) tokenAddr payer payee (asI128 amount)) .callFailed
  setOutside x

/-- A difference of two `i128`, as overflow checks compile it. -/
def subI128 (a b : ℤ) : Check Fault ℤ :=
  if -(2 ^ 127) ≤ a - b ∧ a - b < 2 ^ 127 then .ok (a - b) else .error (.trap .overflow)

/-- `transfer_from_user_bytes32`: a non-native pull must raise this escrow's balance by exactly
`amount`. -/
def transferFromUser (token : BytesN32) (wNative payer : Address) (amount : ℕ) :
    Tx Fault (Core X) Unit := do
  if isNativeToken token then
    transferTokens O H env token wNative payer H.address amount
  else
    let tokenAddr ← Tx.lift (tokenContract wNative token)
    let c ← Tx.read
    let before ← Tx.expectTrap (O.balance c.outside tokenAddr H.address) .callFailed
    transferTokens O H env token wNative payer H.address amount
    let c ← Tx.read
    let after ← Tx.expectTrap (O.balance c.outside tokenAddr H.address) .callFailed
    let credited ← Tx.lift (subI128 after before)
    Tx.require (credited = asI128 amount) .transferShort

/-- `transfer_to_user_bytes32`. -/
def transferToUser (token : BytesN32) (wNative payee : Address) (amount : ℕ) :
    Tx Fault (Core X) Unit :=
  transferTokens O H env token wNative H.address payee amount

/-- `transfer_to_recipient_bytes32`. -/
def transferToRecipient (token : BytesN32) (wNative : Address) (recipient : BytesN32)
    (amount : ℕ) : Tx Fault (Core X) Unit := do
  let payee ← Tx.lift (bytes32ToAccountAddress recipient)
  transferTokens O H env token wNative H.address payee amount

/-- `token_decimals_bytes32`. -/
def tokenDecimals (token : BytesN32) (wNative : Address) (c : Core X) : Check Fault ℕ := do
  let tokenAddr ← tokenContract wNative token
  Check.expectTrap (O.decimals c.outside tokenAddr) .callFailed

/-- `try_transfer_to_recipient_bytes32`: the world after the push, or nothing moved. -/
def tryTransferToRecipient (token : BytesN32) (wNative : Address) (recipient : BytesN32)
    (amount : ℕ) (c : Core X) : Option X :=
  if isZeroBytes32 recipient then none
  else
    O.transfer c.outside (env.inside H.address) (underlying wNative token) H.address
      (.account recipient) (asI128 amount)

/-- Credit a recipient that could not be paid. -/
def credit (recipient token : BytesN32) (amount : ℕ) : Tx Fault (Core X) Unit := do
  let c ← Tx.read
  let owed ← Tx.lift (Check.add 128 (c.ledger.getClaimable recipient token) amount)
  setClaimable recipient token owed
  publish (.payoutCredited recipient token amount)

/-- Best-effort push; a recipient that cannot be paid is credited instead. -/
def payOrCredit (wNative : Address) (recipient token : BytesN32) (amount : ℕ) :
    Tx Fault (Core X) Unit := do
  let c ← Tx.read
  match tryTransferToRecipient O H env token wNative recipient amount c with
  | some x => setOutside x
  | none => credit recipient token amount

/-- Pay out a credited amount. Permissionless: funds can only go to the credited recipient. -/
def claim (config : ContractConfig) (recipient token : BytesN32) : Tx Fault (Core X) Unit := do
  let c ← Tx.read
  let amount := c.ledger.getClaimable recipient token
  Tx.require (amount ≠ 0) .nothingToClaim
  setClaimable recipient token 0
  transferToRecipient O H env token config.wNativeToken recipient amount
  publish (.payoutClaimed recipient token amount)

end Tokens

/-! ## Termination core -/

/-- The route's current version and clocks. -/
def currentTiming (chainId : U128) (c : Core X) : Check Fault (ℕ × RouteTiming) := do
  let version := c.settings.getTimingVersion chainId
  let t ← Check.expect (c.settings.getRouteTimingAt chainId version) .noRouteTiming
  pure (version, t)

/-- The clocks of the version the order opened under. -/
def orderTiming (orderHash : BytesN32) (chainId : U128) (c : Core X) : Check Fault RouteTiming :=
  Check.expect
    (c.settings.getRouteTimingAt chainId (c.ledger.getOrder orderHash).timingVersion)
    .noRouteTiming

/-- `now + min_window <= deadline <= now + MAX_ORDER_WINDOW`, against the current version. -/
def requireMinWindow (env : Env) (chainId : U128) (deadline : ℕ) (c : Core X) :
    Check Fault ℕ := do
  let current ← currentTiming chainId c
  let earliest ← Check.add 64 env.now current.2.minWindow
  Check.require (earliest ≤ deadline) .deadlineTooSoon
  let latest ← Check.add 64 env.now MAX_ORDER_WINDOW
  Check.require (deadline ≤ latest) .deadlineTooFar
  pure current.1

def requireReached (env : Env) (time : ℕ) : Check Fault Unit :=
  Check.require (time ≤ env.now) .tooEarly

def requireStatus (orderHash : BytesN32) (expected : Status) (c : Core X) : Check Fault Unit :=
  Check.require (c.ledger.status orderHash = expected) .notClaimable

/-- `Open`, in a presentation window, or disputed: evidence may still settle or refund it. -/
def requirePresentable (orderHash : BytesN32) (c : Core X) : Check Fault Unit :=
  Check.require ((c.ledger.status orderHash).live = true) .notClaimable

/-- When the leg's presentation window ends: the claim's end once claimed, else
`deadline + buffer`. -/
def windowEnd (orderHash : BytesN32) (deadline buffer : ℕ) (c : Core X) : ℕ :=
  match c.ledger.status orderHash, c.ledger.claims.get? orderHash with
  | .claimed, some claim => claim.finalizeAt
  | _, _ => saturatingAdd deadline buffer

/-- `Claimed` and the window is over. -/
def requireFinalizable (env : Env) (orderHash : BytesN32) (buffer : ℕ) (c : Core X) :
    Check Fault Unit := do
  Check.require (c.ledger.status orderHash = .claimed) .notClaimed
  requireReached env (windowEnd orderHash 0 buffer c)

/-- Gate for the evidence paths: the root must be notarized by the wired anchor. -/
def requireAnchored (O : Outside X) (env : Env) (chainId : U128) (root : BytesN32) (c : Core X) :
    Check Fault Unit := do
  let anchor ← Check.expect c.settings.rootAnchor .noRootAnchor
  Check.require (O.isAnchored c.outside env anchor chainId root = true) .rootNotAnchored

/-- `verify_proof`. -/
def verifyProof (O : Outside X) (verifier : Address) (publicInputs proof : Bytes) (c : Core X) :
    Check Fault Unit :=
  Check.require (O.verifyProof c.outside verifier publicInputs proof = true) .invalidProof

/-- Open a presentation window on an `Open` leg. -/
def openClaim (env : Env) (orderHash : BytesN32) (finalizeAt : ℕ) : Tx Fault (Core X) Unit := do
  setClaim orderHash { openedAt := env.now, finalizeAt }
  setOrderStatus orderHash .claimed
  publish (.claimOpened orderHash finalizeAt)

/-- `append_to_merkle`. -/
def appendToMerkle (O : Outside X) (H : Host) (env : Env) (merkleManager : Address)
    (orderHash : BytesN32) (side : ℕ) : Tx Fault (Core X) Unit := do
  let c ← Tx.read
  let x ← Tx.expect
    (O.appendOrderHash c.outside (env.inside H.address) merkleManager H.address orderHash side)
    .merkleAppendFailed
  Tx.modify fun c => { c with outside := x, leaves := (orderHash, side) :: c.leaves }

/-! ## Disputes -/

section Disputes

variable (O : Outside X) (H : Host) (env : Env)

/-- The module this order was filed with. -/
def orderDisputeManager (orderHash : BytesN32) (c : Core X) : Check Fault Address :=
  Check.expect (c.ledger.disputeManagers.get? orderHash) .noDisputeManager

/-- A filing is accepted on an open or claimed leg whose window has not closed. -/
def requireDisputable (orderHash : BytesN32) (chainId : U128) (deadline : ℕ) (c : Core X) :
    Check Fault RouteTiming := do
  Check.require (c.ledger.status orderHash = .opened ∨ c.ledger.status orderHash = .claimed)
    .notDisputable
  let t ← orderTiming orderHash chainId c
  Check.require (env.now < windowEnd orderHash deadline t.buffer c) .disputeWindowClosed
  pure t

/-- `Open | Claimed → Disputed`, with the bond handed straight to the module. -/
def openDispute (orderHash : BytesN32) (peerChainId : U128) (filer : Address)
    (evidence : BytesN32) (deadline : ℕ) (token : Address) (amount : ℕ) :
    Tx Fault (Core X) ℕ := do
  let t ← Tx.view (requireDisputable env orderHash peerChainId deadline)
  let c ← Tx.read
  let manager ← Tx.expect c.settings.disputeManager .noDisputeManager
  let opened ← Tx.lift (moduleAnswer (O.openDispute c.outside (env.inside H.address) manager
    { escrow := H.address, orderHash, peerChainId, filer, evidence, deadline,
      buffer := t.buffer, token, amount }))
  setOutside opened.2
  setOrderDisputeManager orderHash manager
  setOrderStatus orderHash .disputed
  -- nothing reads the claim of a disputed leg again
  removeClaim orderHash
  pure opened.1

/-- The module's verdict, once its window has closed; no ruling becomes a mutual refund. -/
def disputeOutcome (orderHash : BytesN32) (c : Core X) :
    Check Fault (DisputeOutcome × Option Address) := do
  let manager ← orderDisputeManager orderHash c
  let answer ← moduleAnswer (O.outcomeOf c.outside env manager orderHash)
  Check.require (answer.2.1 = true) .disputeNotResolved
  let settled := if answer.1 = .none then .mutualRefund else answer.1
  pure (settled, answer.2.2)

/-- The module's ruling as it stands, whether or not its window is over. -/
def disputeRuling (orderHash : BytesN32) (c : Core X) : Check Fault DisputeOutcome := do
  let manager ← orderDisputeManager orderHash c
  let answer ← moduleAnswer (O.outcomeOf c.outside env manager orderHash)
  pure answer.1

def disputeChallengeDeadline (orderHash : BytesN32) (c : Core X) : Check Fault ℕ := do
  let manager ← orderDisputeManager orderHash c
  moduleAnswer (O.challengeDeadlineOf c.outside env manager orderHash)

/-- Tell the module the dispute is over so it can route the bond and close its record. -/
def settleBond (orderHash : BytesN32) (outcome : DisputeOutcome)
    (filerIsBridger returnToFiler : Bool) : Tx Fault (Core X) Unit := do
  let manager ← Tx.view (orderDisputeManager orderHash)
  let c ← Tx.read
  let x ← Tx.lift (moduleAnswer (O.settleBond c.outside (env.inside H.address) manager
    { escrow := H.address, orderHash, outcome, filerIsBridger, returnToFiler }))
  setOutside x

/-- Record the counterparty's response. -/
def recordResponse (orderHash : BytesN32) (responder : Address) (evidence : BytesN32) :
    Tx Fault (Core X) Unit := do
  let manager ← Tx.view (orderDisputeManager orderHash)
  let c ← Tx.read
  let x ← Tx.lift (moduleAnswer (O.recordResponse c.outside (env.inside H.address) manager
    { escrow := H.address, orderHash, responder, evidence }))
  setOutside x

/-- Who filed, or `none` when nothing is disputed here. -/
def disputeFiler (orderHash : BytesN32) (c : Core X) : Check Fault (Option Address) :=
  match c.ledger.disputeManagers.get? orderHash with
  | none => .ok none
  | some manager => moduleAnswer (O.initiatorOf c.outside env manager orderHash)

/-- What an evidence path closes a dispute with: the two flags `settle_bond` takes, or `none`
when there is nothing to close. `makerOf` and `denied` are the escrow's own reads. -/
def evidenceFlags (orderHash : BytesN32) (makerOf : Option Address)
    (denied : Address → Check Fault Bool) (c : Core X) : Check Fault (Option (Bool × Bool)) := do
  let filer ← disputeFiler O env orderHash c
  match filer, makerOf with
  | some filer, some maker =>
    if filer = maker then pure (some (false, false))
    else do
      let returnToFiler ← denied maker
      pure (some (true, returnToFiler))
  | _, _ => pure none

/-- Evidence terminated a disputed order, so the dispute is over whatever the arbiter thought. A
no-op when the order has no dispute record. -/
def closeDisputeByEvidence (orderHash : BytesN32) (outcome : DisputeOutcome)
    (makerOf : Option Address) (denied : Address → Check Fault Bool) : Tx Fault (Core X) Unit := do
  let flags ← Tx.view (evidenceFlags O env orderHash makerOf denied)
  match flags with
  | none => pure ()
  | some (filerIsBridger, returnToFiler) =>
    settleBond O H env orderHash outcome filerIsBridger returnToFiler

end Disputes

/-! ## The terminal transitions -/

/-- `→ Filled`: close the window, count out. -/
def fill (orderHash account : BytesN32) (byEvidence : Bool) : Tx Fault (Core X) Unit := do
  setOrderStatus orderHash .filled
  removeClaim orderHash
  countOut account
  publish (.orderSettled orderHash byEvidence)

/-- `→ Resolved`: the dispute terminal. -/
def resolve (orderHash account : BytesN32) : Tx Fault (Core X) Unit := do
  setOrderStatus orderHash .resolved
  countOut account

/-- `→ Cancelled`: close the window, count out. -/
def cancel (orderHash account : BytesN32) (byEvidence : Bool) : Tx Fault (Core X) Unit := do
  setOrderStatus orderHash .cancelled
  removeClaim orderHash
  countOut account
  publish (.orderCancelled orderHash byEvidence)

/-- Append this leg's SETTLED leaf for a `Filled` order, once. -/
def recordSettled (O : Outside X) (H : Host) (env : Env) (merkleManager : Address)
    (orderHash : BytesN32) : Tx Fault (Core X) Unit := do
  let c ← Tx.read
  Tx.require (c.ledger.status orderHash = .filled) .notFilled
  Tx.require (c.ledger.isSettledRecorded orderHash = false) .settledRecorded
  setSettledRecorded orderHash
  appendToMerkle O H env merkleManager orderHash LEAF_DOMAIN_SETTLED
  publish (.settledRecorded orderHash)

end Escrow

end ProofBridge
