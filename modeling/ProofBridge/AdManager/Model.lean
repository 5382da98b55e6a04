import ProofBridge.AdManager.Types
import ProofBridge.Lib.Run

/-!
# The AdManager's entry points

This leg is the primary: the only place a clock runs. Every entry point below makes the source's
checks in the source's order and writes what it writes, one `Tx` per function; `exec` runs any of
them, and `system` is the contract as its host sees it.
-/

namespace ProofBridge
namespace AdManager

open ContractLib

variable {X : Type}

/-- A shared step, its fault renamed. -/
abbrev onCore {α : Type} (x : Tx Fault (Core X) α) : Tx AdManagerError (Chain X) α :=
  Tx.zoom Chain.core (fun s c => { s with core := c }) AdManagerError.ofFault x

/-- A shared check, its fault renamed. -/
abbrev onView {α : Type} (f : Core X → Check Fault α) : Tx AdManagerError (Chain X) α :=
  Tx.view fun s => Check.mapError AdManagerError.ofFault (f s.core)

abbrev publish (e : Event) : Tx AdManagerError (Chain X) Unit :=
  Tx.modify fun s => { s with core := { s.core with events := e :: s.core.events } }

abbrev setAd (adId : AdId) (ad : Ad) : Tx AdManagerError (Chain X) Unit :=
  Tx.modify fun s => { s with ads := s.ads.set adId ad }

/-- The config, or `NotInitialized`. -/
def getConfig (s : Chain X) : Check AdManagerError ContractConfig :=
  Check.expect s.core.settings.config .notInitialized

def getAd (adId : AdId) (s : Chain X) : Check AdManagerError Ad :=
  Check.expect (s.ads.get? adId) .adNotFound

/-! ## Reads -/

section Reads

variable (O : Outside X) (H : Host) (env : Env)

/-- `require_registered`: the registry gate on every settlement-signer set and every lock. -/
def requireRegistered (signer : BytesN32) (maker : Address) (s : Chain X) :
    Check AdManagerError Unit := do
  let registry ← Check.expect s.keyRegistry .noKeyRegistry
  Check.require (isZeroBytes32 signer = false) .settlementSignerZero
  let usable ← Check.expectTrap
    (O.hasUsableSlot s.core.outside env registry signer) .callFailed
  Check.require (usable = true) .signerNotRegistered
  Check.require
    (signer = addressToBytes32 maker ∨
      O.isApprovedMaker s.core.outside registry signer (addressToBytes32 maker) = true)
    .signerNotApproved

/-- `validate_order`. -/
def validateOrder (ad : Ad) (params : OrderParams) (s : Chain X) : Check AdManagerError Unit := do
  Check.require (ad.isOpen = true) .adClosed
  Check.require (params.amount ≠ 0) .zeroAmount
  Check.mapError (fun e => .ofFault e.toFault) (assertInRange params.orderDecimals.toNat)
  Check.mapError (fun e => .ofFault e.toFault) (assertInRange params.adDecimals.toNat)
  Check.require (isZeroBytes32 params.bridger = false) .bridgerZero
  Check.require (isZeroBytes32 params.orderRecipient = false) .recipientZero
  let _ ← Check.mapError .ofFault (bytes32ToAccountAddress params.orderRecipient)
  Check.require
    (params.orderRecipient ≠ params.adCreator ∧ params.orderRecipient ≠ params.adSettlementSigner)
    .recipientIsMaker
  let chainInfo ← Check.expect (s.chains.get? params.orderChainId) .chainNotSupported
  Check.require (chainInfo.orderPortal = params.srcOrderPortal) .orderPortalMismatch
  Check.require (params.orderChainId = ad.orderChainId) .orderChainMismatch
  Check.require (params.orderChainToken = ad.orderChainToken) .routeMismatch
  let routed ← Check.expect
    (s.core.settings.routes.get? (params.adChainToken, params.orderChainId)) .missingRoute
  Check.require (routed = params.orderChainToken) .orderTokenMismatch
  Check.require (params.adChainToken = ad.token) .adTokenMismatch
  Check.require (params.adRecipient = ad.adRecipient) .adRecipientMismatch
  Check.require (params.adCreator = addressToBytes32 ad.maker) .notMaker
  Check.require (params.adSettlementSigner = ad.settlementSigner) .settlementSignerMismatch

/-- The lock's slot check, in the registry the order records. -/
def requireSlotUsable (registry : Option Address) (signer : BytesN32) (slot : U32) (s : Chain X) :
    Check AdManagerError Unit :=
  match registry with
  | none => .ok ()
  | some registry =>
    Check.require (O.slotUsable s.core.outside env registry signer slot = true) .slotNotUsable

/-- `assert_ad_decimals`. -/
def assertAdDecimals (params : OrderParams) (wNative : Address) (s : Chain X) :
    Check AdManagerError Unit := do
  let onChain ← Check.mapError .ofFault
    (Escrow.tokenDecimals O params.adChainToken wNative s.core)
  Check.require (onChain = params.adDecimals.toNat) .adDecimalsMismatch

/-- `registry_split`: does the order chain's root verifier read another key registry. -/
def registrySplit (orderChainId : U128) (expected : Option Address) (s : Chain X) : Bool :=
  match s.core.settings.rootVerifiers.get? orderChainId with
  | none => false
  | some verifier =>
    match O.verifierRegistry s.core.outside verifier with
    | some theirs => expected ≠ some theirs
    | none => false

/-- `anchor_delay_now`: an anchor that does not answer is a refusal. -/
def anchorDelayNow (orderChainId : U128) (s : Chain X) : Check AdManagerError ℕ :=
  match s.core.settings.rootAnchor with
  | none => .ok 0
  | some anchor => do
    let delay ← Check.expect (O.anchorDelay s.core.outside anchor orderChainId)
      .anchorDelayUnreadable
    pure delay.toNat

/-- `is_halted`. -/
def isHalted (maker : Address) (s : Chain X) : Bool :=
  match s.halts.get? maker with
  | some h => h.halted
  | none => false

/-- `require_settleable`: the co-signed unlock's status gate. -/
def requireSettleable (orderHash : BytesN32) (s : Chain X) : Check AdManagerError Unit :=
  Check.require ((s.core.ledger.status orderHash).live = true) .orderNotOpen

/-- `presentation_cutoff`: the first second the co-signed unlock is refused. -/
def presentationCutoff (orderHash : BytesN32) (params : OrderParams) (t : RouteTiming)
    (s : Chain X) : ℕ :=
  Escrow.windowEnd orderHash params.deadline.toNat t.buffer s.core - t.margin

/-- `require_party`: the order's two parties, as this chain knows them. -/
def requireParty (filer maker : Address) (bridgerSide : BytesN32) : Check AdManagerError Unit :=
  if filer = maker then .ok ()
  else do
    let bridger ← Check.mapError .ofFault (bytes32ToAccountAddress bridgerSide)
    Check.require (filer = bridger) .notAParty

/-- The pinned slot's recorded expiry, in the registry the order was locked under. -/
def pinExpired (registry : Address) (params : OrderParams) (pinnedSlot : U32) (limit : ℕ)
    (s : Chain X) : Check Fault Bool := do
  let expiry ← Check.expectTrap
    (O.expiredAt s.core.outside registry params.adSettlementSigner pinnedSlot) .callFailed
  pure (expiry.toNat ≠ 0 ∧ expiry.toNat ≤ limit : Bool)

/-- A halt in force at any point since the lock: still on, or resumed at or after it. -/
def haltCounts (maker : Address) (lockedAt : ℕ) (s : Chain X) : Bool :=
  match s.halts.get? maker with
  | some h => h.halted || lockedAt ≤ h.lastResumedAt
  | none => false

/-- A root verifier unset, or changed after the lock's second: a gap in the co-signed path. -/
def verifierGap (orderChainId : U128) (lockedAt : ℕ) (s : Chain X) : Bool :=
  (s.core.settings.rootVerifiers.get? orderChainId).isNone ||
    lockedAt < s.core.settings.getRootVerifierChangedAt orderChainId

/-- `co_sign_denied`: was this order's co-signed payout denied by a maker-side lever. -/
def coSignDenied (maker : Address) (params : OrderParams) (orderHash : BytesN32) (limit : ℕ)
    (s : Chain X) : Check Fault Bool :=
  let order := s.core.ledger.getOrder orderHash
  if order.repinned || haltCounts maker order.lockedAt s ||
      verifierGap params.orderChainId order.lockedAt s then .ok true
  else
    match s.registries.get? order.registryEpoch with
    | none => .ok false
    | some registry =>
      if registrySplit O params.orderChainId (some registry) s then .ok true
      else pinExpired O registry params order.pinnedSlot limit s

/-- `evidence_grace`: how long a denied order's cancel waits past its window. -/
def evidenceGrace (orderHash : BytesN32) (orderChainId : U128) (buffer : ℕ) (s : Chain X) :
    Check AdManagerError ℕ := do
  let snapshot := (s.core.ledger.getOrder orderHash).anchorDelay
  let current ← anchorDelayNow O orderChainId s
  pure (saturatingAdd (max current snapshot) buffer)

/-- `cancel_end`: the one cancel clock. -/
def cancelEnd (maker : Address) (params : OrderParams) (orderHash : BytesN32) (t : RouteTiming)
    (s : Chain X) : Check AdManagerError ℕ := do
  let windowEnd := Escrow.windowEnd orderHash params.deadline.toNat t.buffer s.core
  let cutoff := presentationCutoff orderHash params t s
  let denied ← Check.mapError .ofFault (coSignDenied O maker params orderHash cutoff s)
  if denied = false then pure windowEnd
  else do
    let grace ← evidenceGrace O orderHash params.orderChainId t.buffer s
    pure (saturatingAdd windowEnd grace)

/-- `dispute_end`: the one dispute clock. -/
def disputeEnd (maker : Address) (params : OrderParams) (orderHash : BytesN32)
    (outcome : DisputeOutcome) (s : Chain X) : Check AdManagerError ℕ := do
  let challengeEnd ← Check.mapError .ofFault
    (Escrow.disputeChallengeDeadline O env orderHash s.core)
  if outcome = .makerForfeit then pure challengeEnd
  else do
    let denied ← Check.mapError .ofFault (coSignDenied O maker params orderHash challengeEnd s)
    if denied = false then pure challengeEnd
    else do
      let t ← Check.mapError .ofFault (Escrow.orderTiming orderHash params.orderChainId s.core)
      let grace ← evidenceGrace O orderHash params.orderChainId t.buffer s
      pure (saturatingAdd challengeEnd grace)

/-- What an evidence close asks about a bridger who filed: was the co-signed payout denied at the
presentation cutoff. -/
def evidenceDenied (params : OrderParams) (orderHash : BytesN32) (s : Chain X) (maker : Address) :
    Check Fault Bool := do
  let t ← Escrow.orderTiming orderHash params.orderChainId s.core
  coSignDenied O maker params orderHash (presentationCutoff orderHash params t s) s

/-- The co-signed root, vouched for by the route's verifier. -/
def requireRootValid (params : OrderParams) (orderHash nullifierHash targetRoot : BytesN32)
    (cosigData : Bytes) (s : Chain X) : Check AdManagerError Unit := do
  let module ← Check.expect (s.core.settings.rootVerifiers.get? params.orderChainId)
    .rootVerifierNotSet
  let valid ← Check.expectTrap
    (O.isRootValid s.core.outside env module params.orderChainId targetRoot
      (rootMetadata params.adSettlementSigner params.bridger orderHash
        (s.core.ledger.getOrder orderHash).pinnedSlot nullifierHash ENVELOPE_SIDE_AD cosigData))
    .callFailed
  Check.require (valid = true) .rootNotValid

end Reads

/-! ## Initialization and admin -/

section Admin

variable (H : Host) (env : Env)

def initializeContract (admin verifier merkleManager wNativeToken : Address) (chainId : U128) :
    Tx AdManagerError (Chain X) Unit := do
  let s ← Tx.read
  Tx.require (s.core.settings.initialized = false) .alreadyInitialized
  requireAuth env admin
  Tx.modify fun s => { s with core := { s.core with settings := { s.core.settings with
    config := some { admin, verifier, merkleManager, wNativeToken, chainId }
    initialized := true } } }
  publish (.initialized admin verifier merkleManager chainId)

/-- The config, once its admin authorized the call. -/
def asAdmin : Tx AdManagerError (Chain X) ContractConfig := do
  let config ← Tx.view getConfig
  requireAuth env config.admin
  pure config

/-- The gate of a timelocked setter. -/
def gated (fnName : Symbol) (args : List Val) : Tx AdManagerError (Chain X) Unit := do
  let config ← Tx.view getConfig
  onCore (onTimelock (Timelock.gate H env config.admin fnName args))

def pause : Tx AdManagerError (Chain X) Unit := do
  let config ← asAdmin env
  onCore (Escrow.pause config)

def unpause : Tx AdManagerError (Chain X) Unit := do
  let config ← asAdmin env
  onCore (Escrow.unpause config)

def transferAdmin (successor : Address) : Tx AdManagerError (Chain X) Unit := do
  let config ← asAdmin env
  onCore (Escrow.transferAdmin config successor)

def acceptAdmin : Tx AdManagerError (Chain X) Unit := do
  let pending ← onView Escrow.pendingAdmin
  requireAuth env pending
  let config ← Tx.view getConfig
  onCore (Escrow.acceptAdmin config pending)

def activateTimelock : Tx AdManagerError (Chain X) Unit := do
  let _ ← asAdmin env
  onCore (onTimelock (Timelock.activate env))

def proposeAction (fnName : Symbol) (args : Bytes) : Tx AdManagerError (Chain X) BytesN32 := do
  let _ ← asAdmin env
  onCore (onTimelock (Timelock.propose H env fnName args))

def cancelAction (id : BytesN32) : Tx AdManagerError (Chain X) Unit := do
  let _ ← asAdmin env
  onCore (onTimelock (Timelock.cancel env id))

/-- Where the protocol fee is paid; never zero once set. -/
def setProtocolFeePool (pool : BytesN32) : Tx AdManagerError (Chain X) Unit := do
  gated H env "set_protocol_fee_pool" [.bytes32 pool]
  Tx.require (isZeroBytes32 pool = false) .zeroAddress
  Tx.modify fun s => { s with fees := { s.fees with pool := some pool } }
  publish (.protocolFeePoolSet pool)

/-- The fee split; a protocol fee needs the pool set. -/
def setFeeBps (lpBps protocolBps : U32) : Tx AdManagerError (Chain X) Unit := do
  gated H env "set_fee_bps" [.u32 lpBps, .u32 protocolBps]
  let s ← Tx.read
  Tx.require (feesValid lpBps.toNat protocolBps.toNat s.fees.pool.isSome) .invalidFee
  Tx.modify fun s =>
    { s with fees := { s.fees with lpBps := lpBps.toNat, protocolBps := protocolBps.toNat } }
  publish (.feeBpsSet lpBps.toNat protocolBps.toNat)

def setChain (orderChainId : U128) (orderPortal : BytesN32) : Tx AdManagerError (Chain X) Unit := do
  gated H env "set_chain" [.u128 orderChainId, .bytes32 orderPortal]
  Tx.require (isZeroBytes32 orderPortal = false) .zeroAddress
  Tx.modify fun s => { s with chains := s.chains.set orderChainId { orderPortal } }
  publish (.chainSet orderChainId orderPortal true)

def removeChain (orderChainId : U128) : Tx AdManagerError (Chain X) Unit := do
  gated H env "remove_chain" [.u128 orderChainId]
  Tx.modify fun s => { s with chains := s.chains.remove orderChainId }
  publish (.chainSet orderChainId 0 false)

def setRootVerifier (chainId : U128) (module : Address) : Tx AdManagerError (Chain X) Unit := do
  let config ← Tx.view getConfig
  onCore (Escrow.setRootVerifierGated H env config.admin chainId module)

def unsetRootVerifier (chainId : U128) : Tx AdManagerError (Chain X) Unit := do
  let config ← Tx.view getConfig
  onCore (Escrow.unsetRootVerifier H env config.admin chainId)

/-- Sets the live registry and opens a new epoch with it. -/
def setKeyRegistry (registry : Address) : Tx AdManagerError (Chain X) Unit := do
  gated H env "set_key_registry" [.address registry]
  let s ← Tx.read
  let epoch ← Tx.lift (Check.add 32 s.registryEpoch 1)
  Tx.modify fun s => { s with
    keyRegistry := some registry
    registryEpoch := epoch
    registries := s.registries.set epoch registry }
  publish (.keyRegistrySet registry)
  publish (.keyRegistryEpoch epoch registry)

def setRouteTiming (chainId : U128) (timing : RouteTiming) : Tx AdManagerError (Chain X) Unit := do
  gated H env "set_route_timing" [.u128 chainId, .timing timing]
  onCore (Escrow.setRouteTiming chainId timing)

def setDisputeManager (manager : Address) : Tx AdManagerError (Chain X) Unit := do
  gated H env "set_dispute_manager" [.address manager]
  onCore (setSettings fun st => { st with disputeManager := some manager })

def setRootAnchor (anchor : Address) : Tx AdManagerError (Chain X) Unit := do
  gated H env "set_root_anchor" [.address anchor]
  onCore (Escrow.setRootAnchor anchor)

def setTokenRoute (adToken orderToken : BytesN32) (orderChainId : U128) :
    Tx AdManagerError (Chain X) Unit := do
  gated H env "set_token_route" [.bytes32 adToken, .bytes32 orderToken, .u128 orderChainId]
  Tx.require (isZeroBytes32 adToken = false ∧ isZeroBytes32 orderToken = false) .tokenZeroAddress
  let s ← Tx.read
  Tx.require ((s.chains.get? orderChainId).isSome = true) .chainNotSupported
  onCore (setSettings fun st =>
    { st with routes := st.routes.set (adToken, orderChainId) orderToken })
  publish (.tokenRouteSet adToken orderToken orderChainId)

def removeTokenRoute (adToken : BytesN32) (orderChainId : U128) :
    Tx AdManagerError (Chain X) Unit := do
  gated H env "remove_token_route" [.bytes32 adToken, .u128 orderChainId]
  let s ← Tx.read
  let orderToken := (s.core.settings.routes.get? (adToken, orderChainId)).getD 0
  onCore (setSettings fun st => { st with routes := st.routes.remove (adToken, orderChainId) })
  publish (.tokenRouteRemoved adToken orderToken orderChainId)

end Admin

/-! ## The maker's ads -/

section Ads

variable (O : Outside X) (H : Host) (env : Env)

def createAd (creator : Address) (adId : AdId) (adToken : BytesN32) (initialAmount : U128)
    (orderChainId : U128) (adRecipient settlementSigner : BytesN32) :
    Tx AdManagerError (Chain X) Unit := do
  onView Escrow.requireNotPaused
  let config ← Tx.view getConfig
  Tx.require (isZeroBytes32 adToken = false) .tokenZeroAddress
  Tx.require (isZeroBytes32 adRecipient = false) .recipientZero
  Tx.require (initialAmount ≠ 0) .zeroAmount
  let s ← Tx.read
  let routedOrderToken ← Tx.expect (s.core.settings.routes.get? (adToken, orderChainId))
    .chainNotSupported
  -- ads are never deleted, so the row is the id's "taken" mark
  Tx.require (s.ads.get? adId = none) .usedAdId
  requireAuth env creator
  Tx.view (requireRegistered O env settlementSigner creator)
  onCore (Escrow.transferFromUser O H env adToken config.wNativeToken creator initialAmount.toNat)
  setAd adId {
    orderChainId
    adRecipient
    maker := creator
    token := adToken
    balance := initialAmount.toNat
    locked := 0
    isOpen := true
    orderChainToken := routedOrderToken
    settlementSigner }
  publish (.adCreated adId creator adToken initialAmount.toNat orderChainId settlementSigner)

/-- Stop the co-signed payout of every open order against every ad `maker` owns. -/
def haltSettlement (maker : Address) : Tx AdManagerError (Chain X) Unit := do
  requireAuth env maker
  let s ← Tx.read
  let lastResumedAt := ((s.halts.get? maker).map Halt.lastResumedAt).getD 0
  Tx.modify fun s => { s with halts := s.halts.set maker { halted := true, lastResumedAt } }
  publish (.settlementHalted maker)

/-- Lift the maker's halt. -/
def resumeSettlement (maker : Address) : Tx AdManagerError (Chain X) Unit := do
  requireAuth env maker
  let s ← Tx.read
  let halt ← Tx.expect (s.halts.get? maker) .notHalted
  Tx.require (halt.halted = true) .notHalted
  Tx.modify fun s =>
    { s with halts := s.halts.set maker { halted := false, lastResumedAt := env.now } }
  publish (.settlementResumed maker)

/-- Re-point an ad's settlement signer, at any time. -/
def setSettlementSigner (adId : AdId) (identity : BytesN32) :
    Tx AdManagerError (Chain X) Unit := do
  let ad ← Tx.view (getAd adId)
  requireAuth env ad.maker
  Tx.view (requireRegistered O env identity ad.maker)
  setAd adId { ad with settlementSigner := identity }
  publish (.settlementSignerSet adId ad.settlementSigner identity)

def fundAd (adId : AdId) (amount : U128) : Tx AdManagerError (Chain X) Unit := do
  onView Escrow.requireNotPaused
  let config ← Tx.view getConfig
  let ad ← Tx.view (getAd adId)
  Tx.require (ad.isOpen = true) .adClosed
  Tx.require (amount ≠ 0) .zeroAmount
  requireAuth env ad.maker
  onCore (Escrow.transferFromUser O H env ad.token config.wNativeToken ad.maker amount.toNat)
  let balance ← Tx.lift (Check.add 128 ad.balance amount.toNat)
  setAd adId { ad with balance }
  publish (.adFunded adId ad.maker amount.toNat balance)

/-- An exit: free liquidity no trade holds, so a pause never freezes it. -/
def withdrawFromAd (adId : AdId) (amount : U128) (payee : Address) :
    Tx AdManagerError (Chain X) Unit := do
  let config ← Tx.view getConfig
  let ad ← Tx.view (getAd adId)
  Tx.require (amount ≠ 0) .zeroAmount
  let available ← Tx.lift (Check.sub ad.balance ad.locked)
  Tx.require (amount.toNat ≤ available) .insufficientLiquidity
  requireAuth env ad.maker
  let balance ← Tx.lift (Check.sub ad.balance amount.toNat)
  setAd adId { ad with balance }
  onCore (Escrow.transferToUser O H env ad.token config.wNativeToken payee amount.toNat)
  publish (.adWithdrawn adId ad.maker amount.toNat balance)

/-- Push what is left of a closed ad, if anything is. -/
def payRemaining (config : ContractConfig) (token : BytesN32) (payee : Address) (amount : ℕ) :
    Tx AdManagerError (Chain X) Unit :=
  if 0 < amount then
    onCore (Escrow.transferToUser O H env token config.wNativeToken payee amount)
  else pure ()

def closeAd (adId : AdId) (payee : Address) : Tx AdManagerError (Chain X) Unit := do
  let config ← Tx.view getConfig
  let ad ← Tx.view (getAd adId)
  Tx.require (ad.locked = 0) .activeLocks
  requireAuth env ad.maker
  setAd adId { ad with balance := 0, isOpen := false }
  payRemaining O H env config ad.token payee ad.balance
  publish (.adClosed adId ad.maker)

end Ads

/-! ## Orders -/

section Orders

variable (O : Outside X) (H : Host) (env : Env)

/-- Everything the lock checks before it takes a hash: the ad, its version and what it locks. -/
def lockChecks (config : ContractConfig) (ad : Ad) (params : OrderParams) (signerSlot : U32)
    (s : Chain X) : Check AdManagerError (ℕ × ℕ) := do
  validateOrder ad params s
  Check.require
    (params.lpFeeBps.toNat = s.fees.lpBps ∧ params.protocolFeeBps.toNat = s.fees.protocolBps)
    .feeMismatch
  requireRegistered O env ad.settlementSigner ad.maker s
  requireSlotUsable O env s.keyRegistry ad.settlementSigner signerSlot s
  assertAdDecimals O params config.wNativeToken s
  let timingVersion ← Check.mapError .ofFault
    (Escrow.requireMinWindow env params.orderChainId params.deadline.toNat s.core)
  Check.require (registrySplit O params.orderChainId s.keyRegistry s = false) .registrySplit
  let amount ← adAmount params
  let available ← Check.sub ad.balance ad.locked
  Check.require (amount ≤ available) .insufficientLiquidity
  pure (timingVersion, amount)

/-- Lock the ad's liquidity for an order, pinning the settlement signer's co-signing slot. -/
def lockForOrder (params : OrderParams) (signerSlot : U32) :
    Tx AdManagerError (Chain X) BytesN32 := do
  onView Escrow.requireNotPaused
  let config ← Tx.view getConfig
  let ad ← Tx.view (getAd params.adId)
  let checked ← Tx.view (lockChecks O env config ad params signerSlot)
  requireAuth env ad.maker
  let orderHash ← Tx.lift (hashOrder H params config.chainId)
  let s ← Tx.read
  Tx.require (s.core.ledger.status orderHash = .none) .orderExists
  let anchorDelay ← Tx.view (anchorDelayNow O params.orderChainId)
  let locked ← Tx.lift (Check.add 128 ad.locked checked.2)
  setAd params.adId { ad with locked }
  onCore (openOrder env orderHash checked.1 s.registryEpoch (min anchorDelay (2 ^ 32 - 1))
    signerSlot)
  onCore (countIn params.adSettlementSigner)
  onCore (Escrow.appendToMerkle O H env config.merkleManager orderHash LEAF_DOMAIN_ORDER)
  publish (.orderLocked orderHash params.adId ad.maker ad.token checked.2 params.bridger
    params.orderRecipient)
  pure orderHash

/-- `charge_fee`: the LP fee stays in the ad's balance, the rest leaves it; on a maker forfeit the
LP share goes to the bridger instead. Answers the ad, the recipient's net and the protocol's fee. -/
def chargeFee (ad : Ad) (params : OrderParams) (orderHash : BytesN32) (amount : ℕ)
    (forfeit : Bool) : Tx AdManagerError (Chain X) (Ad × ℕ × ℕ) := do
  let lpBps := if forfeit then 0 else params.lpFeeBps.toNat
  let fee ← Tx.lift (splitFee amount lpBps params.protocolFeeBps.toNat)
  let out ← Tx.lift (Check.sub amount fee.1)
  let balance ← Tx.lift (Check.sub ad.balance out)
  publish (.feeCharged orderHash fee.1 fee.2)
  let net ← Tx.lift (Check.sub out fee.2)
  pure ({ ad with balance }, net, fee.2)

/-- The protocol's fee, to the pool; never owed without one. -/
def payProtocolFee (config : ContractConfig) (token : BytesN32) (protocolFee : ℕ) :
    Tx AdManagerError (Chain X) Unit := do
  let s ← Tx.read
  match s.fees.pool with
  | some pool =>
    if protocolFee ≠ 0 then
      onCore (Escrow.payOrCredit O H env config.wNativeToken pool token protocolFee)
    else pure ()
  | none => pure ()

/-- `pay_net`: the recipient's net, then the protocol's fee. -/
def payNet (config : ContractConfig) (recipient token : BytesN32) (net protocolFee : ℕ) :
    Tx AdManagerError (Chain X) Unit := do
  onCore (Escrow.payOrCredit O H env config.wNativeToken recipient token net)
  payProtocolFee O H env config token protocolFee

/-- `pay_from_ad`: pay the bridger's recipient from the ad, in the units the lock reserved. -/
def payFromAd (config : ContractConfig) (params : OrderParams) (orderHash : BytesN32) :
    Tx AdManagerError (Chain X) Unit := do
  let amount ← Tx.lift (adAmount params)
  let ad ← Tx.view (getAd params.adId)
  let locked ← Tx.lift (Check.sub ad.locked amount)
  let charged ← chargeFee { ad with locked } params orderHash amount false
  setAd params.adId charged.1
  payNet O H env config params.orderRecipient ad.token charged.2.1 charged.2.2

/-- `close_dispute`: close any dispute this evidence path has just overridden. -/
def closeDispute (params : OrderParams) (orderHash : BytesN32) (outcome : DisputeOutcome) :
    Tx AdManagerError (Chain X) Unit := do
  let s ← Tx.read
  onCore (Escrow.closeDisputeByEvidence O H env orderHash outcome
    ((s.ads.get? params.adId).map Ad.maker) (evidenceDenied O params orderHash s))

/-- Unlock funds with a ZK proof and the co-signed root. -/
def unlock (params : OrderParams) (nullifierHash targetRoot : BytesN32) (proof cosigData : Bytes) :
    Tx AdManagerError (Chain X) Unit := do
  let config ← Tx.view getConfig
  let orderHash ← Tx.lift (hashOrder H params config.chainId)
  Tx.view (requireSettleable orderHash)
  let s ← Tx.read
  Tx.require (s.core.ledger.isNullifierUsed nullifierHash = false) .nullifierUsed
  let t ← onView (Escrow.orderTiming orderHash params.orderChainId)
  Tx.require (env.now < presentationCutoff orderHash params t s) .orderExpired
  let ad ← Tx.view (getAd params.adId)
  Tx.require (isHalted ad.maker s = false) .halted
  Tx.view (requireRootValid O env params orderHash nullifierHash targetRoot cosigData)
  let publicInputs ← Tx.lift
    (Check.mapError .ofFault (buildPublicInputs nullifierHash targetRoot orderHash 1))
  onView (Escrow.verifyProof O config.verifier publicInputs proof)
  onCore (setNullifierUsed nullifierHash)
  -- evidence beats arbitration: an open dispute ends here, on what the proof shows
  closeDispute O H env params orderHash .tradeProceeds
  onCore (Escrow.fill orderHash params.adSettlementSigner false)
  payFromAd O H env config params orderHash
  publish (.orderUnlocked orderHash params.orderRecipient nullifierHash)

/-- Open the cancel window on an `Open` lock at `now >= deadline`. -/
def claimCancel (params : OrderParams) : Tx AdManagerError (Chain X) Unit := do
  let config ← Tx.view getConfig
  let orderHash ← Tx.lift (hashOrder H params config.chainId)
  onView (Escrow.requireStatus orderHash .opened)
  Tx.lift (Check.mapError .ofFault (Escrow.requireReached env params.deadline.toNat))
  let t ← onView (Escrow.orderTiming orderHash params.orderChainId)
  let s ← Tx.read
  onCore (Escrow.openClaim env orderHash
    (Escrow.windowEnd orderHash params.deadline.toNat t.buffer s.core))

/-- File a dispute on an open or claimed leg, posting the route's bond. -/
def dispute (params : OrderParams) (filer : Address) (evidence : BytesN32) :
    Tx AdManagerError (Chain X) ℕ := do
  let config ← Tx.view getConfig
  let orderHash ← Tx.lift (hashOrder H params config.chainId)
  let ad ← Tx.view (getAd params.adId)
  Tx.lift (requireParty filer ad.maker params.orderRecipient)
  let bondToken ← Tx.lift
    (Check.mapError .ofFault (Escrow.tokenContract config.wNativeToken ad.token))
  let amount ← Tx.lift (adAmount params)
  onCore (Escrow.openDispute O H env orderHash params.orderChainId filer evidence
    params.deadline.toNat bondToken amount)

/-- Record the counterparty's evidence hash on an open dispute. -/
def respondToDispute (params : OrderParams) (responder : Address) (evidence : BytesN32) :
    Tx AdManagerError (Chain X) Unit := do
  let config ← Tx.view getConfig
  let orderHash ← Tx.lift (hashOrder H params config.chainId)
  onView (Escrow.requireStatus orderHash .disputed)
  let ad ← Tx.view (getAd params.adId)
  Tx.lift (requireParty responder ad.maker params.orderRecipient)
  onCore (Escrow.recordResponse O H env orderHash responder evidence)

/-- What a maker forfeit pays out of the released lock; every other outcome leaves the lock in the
ad. -/
def forfeitPayout (ad : Ad) (params : OrderParams) (orderHash : BytesN32)
    (outcome : DisputeOutcome) (amount : ℕ) : Tx AdManagerError (Chain X) (Ad × ℕ × ℕ) :=
  if outcome = .makerForfeit then chargeFee ad params orderHash amount true
  else pure (ad, 0, 0)

/-- The payment of a maker forfeit. -/
def payForfeit (config : ContractConfig) (params : OrderParams) (outcome : DisputeOutcome)
    (payout : ℕ × ℕ) : Tx AdManagerError (Chain X) Unit :=
  if outcome = .makerForfeit then
    payNet O H env config params.orderRecipient params.adChainToken payout.1 payout.2
  else pure ()

/-- The leaf a ruling is broadcast under. -/
def rulingDomain (outcome : DisputeOutcome) : ℕ :=
  if outcome = .bridgerForfeit then LEAF_DOMAIN_FORFEIT else LEAF_DOMAIN_CANCEL

/-- Apply the module's outcome once its window is over, and settle the bond. -/
def finalizeDispute (params : OrderParams) : Tx AdManagerError (Chain X) Unit := do
  let config ← Tx.view getConfig
  let orderHash ← Tx.lift (hashOrder H params config.chainId)
  onView (Escrow.requireStatus orderHash .disputed)
  let verdict ← onView (Escrow.disputeOutcome O env orderHash)
  let amount ← Tx.lift (adAmount params)
  let ad ← Tx.view (getAd params.adId)
  let finalizesAt ← Tx.view (disputeEnd O env ad.maker params orderHash verdict.1)
  Tx.lift (Check.mapError .ofFault (Escrow.requireReached env finalizesAt))
  let locked ← Tx.lift (Check.sub ad.locked amount)
  let payout ← forfeitPayout { ad with locked } params orderHash verdict.1 amount
  setAd params.adId payout.1
  payForfeit O H env config params verdict.1 payout.2
  onCore (Escrow.resolve orderHash params.adSettlementSigner)
  -- filing is restricted to the order's two parties, so "not the maker" is "the bridger"
  onCore (Escrow.settleBond O H env orderHash verdict.1 (verdict.2 ≠ some ad.maker) false)
  onCore (Escrow.appendToMerkle O H env config.merkleManager orderHash (rulingDomain verdict.1))
  publish (.disputeFinalized orderHash verdict.1)

/-- After an unchallenged window: release the lock and append the CANCEL leaf. -/
def finalizeCancel (params : OrderParams) : Tx AdManagerError (Chain X) Unit := do
  let config ← Tx.view getConfig
  let orderHash ← Tx.lift (hashOrder H params config.chainId)
  let t ← onView (Escrow.orderTiming orderHash params.orderChainId)
  onView (Escrow.requireFinalizable env orderHash t.buffer)
  let amount ← Tx.lift (adAmount params)
  let ad ← Tx.view (getAd params.adId)
  let finalizesAt ← Tx.view (cancelEnd O ad.maker params orderHash t)
  Tx.lift (Check.mapError .ofFault (Escrow.requireReached env finalizesAt))
  let locked ← Tx.lift (Check.sub ad.locked amount)
  setAd params.adId { ad with locked }
  onCore (Escrow.cancel orderHash params.adSettlementSigner false)
  onCore (Escrow.appendToMerkle O H env config.merkleManager orderHash LEAF_DOMAIN_CANCEL)
  publish (.lockCancelled orderHash params.adId amount)

/-- Attest that an order the bridger deposited for was never locked here. No funds move. -/
def cancelNeverLocked (params : OrderParams) (targetRoot nullifierHash : BytesN32)
    (proof : Bytes) : Tx AdManagerError (Chain X) Unit := do
  let config ← Tx.view getConfig
  let orderHash ← Tx.lift (hashOrder H params config.chainId)
  onView (Escrow.requireStatus orderHash .none)
  Tx.lift (Check.mapError .ofFault (Escrow.requireReached env params.deadline.toNat))
  let s ← Tx.read
  Tx.require ((s.chains.get? params.orderChainId).isSome = true) .chainNotSupported
  let _ ← onView (Escrow.currentTiming params.orderChainId)
  onView (Escrow.requireAnchored O env params.orderChainId targetRoot)
  let publicInputs ← Tx.lift
    (Check.mapError .ofFault (buildPublicInputs nullifierHash targetRoot orderHash 1))
  onView (Escrow.verifyProof O config.verifier publicInputs proof)
  onCore (setOrderStatus orderHash .cancelled)
  onCore (Escrow.appendToMerkle O H env config.merkleManager orderHash LEAF_DOMAIN_CANCEL)
  publish (.orderCancelled orderHash false)

/-- Apply the settlement signer's re-pin consent. -/
def repinOrder (params : OrderParams) : Tx AdManagerError (Chain X) Unit := do
  let config ← Tx.view getConfig
  let orderHash ← Tx.lift (hashOrder H params config.chainId)
  let s ← Tx.read
  let order := s.core.ledger.getOrder orderHash
  Tx.require (order.status = .opened) .orderNotOpen
  let t ← onView (Escrow.orderTiming orderHash params.orderChainId)
  Tx.require (env.now ≤ params.deadline.toNat - t.claimStagger) .orderExpired
  let registry ← Tx.expect (s.registries.get? order.registryEpoch) .noKeyRegistry
  let consent ← Tx.expectTrap
    (O.repinApproval s.core.outside registry params.adSettlementSigner orderHash) .callFailed
  Tx.require (consent.2.2 ≠ 0 ∧ consent.1 = order.pinnedSlot) .noRepin
  Tx.require
    (O.slotUsable s.core.outside env registry params.adSettlementSigner consent.2.1 = true)
    .slotNotUsable
  onCore (setPinnedSlot orderHash consent.2.1)
  publish (.orderRepinned orderHash consent.1 consent.2.1)

/-- Settle the lock on a proof that the order leg already paid the maker. -/
def presentSettled (params : OrderParams) (targetRoot : BytesN32) (proof : Bytes) :
    Tx AdManagerError (Chain X) Unit := do
  let config ← Tx.view getConfig
  let orderHash ← Tx.lift (hashOrder H params config.chainId)
  onView (Escrow.requirePresentable orderHash)
  onView (Escrow.requireAnchored O env params.orderChainId targetRoot)
  onView (Escrow.verifyProof O config.verifier
    (buildEventPublicInputs targetRoot orderHash LEAF_DOMAIN_SETTLED) proof)
  closeDispute O H env params orderHash .tradeProceeds
  onCore (Escrow.fill orderHash params.adSettlementSigner true)
  payFromAd O H env config params orderHash

def recordSettled (params : OrderParams) : Tx AdManagerError (Chain X) Unit := do
  let config ← Tx.view getConfig
  let orderHash ← Tx.lift (hashOrder H params config.chainId)
  onCore (Escrow.recordSettled O H env config.merkleManager orderHash)

/-- Withdraw a credited balance. -/
def claim (recipient token : BytesN32) : Tx AdManagerError (Chain X) Unit := do
  let config ← Tx.view getConfig
  onCore (Escrow.claim O H env config recipient token)

end Orders

/-- The key registry's revoke guard: true while the account has an order locked but not yet
unlocked. -/
def hasOpenPositions (account : BytesN32) (s : Chain X) : Bool :=
  0 < s.core.ledger.getInFlight account

/-! ## The contract as its host sees it -/

/-- The entry points that change state, with their arguments. -/
inductive Call
  | initializeContract (admin verifier merkleManager wNativeToken : Address) (chainId : U128)
  | pause
  | unpause
  | transferAdmin (successor : Address)
  | acceptAdmin
  | activateTimelock
  | proposeAction (fnName : Symbol) (args : Bytes)
  | cancelAction (id : BytesN32)
  | setProtocolFeePool (pool : BytesN32)
  | setFeeBps (lpBps protocolBps : U32)
  | setChain (orderChainId : U128) (orderPortal : BytesN32)
  | removeChain (orderChainId : U128)
  | setRootVerifier (chainId : U128) (module : Address)
  | unsetRootVerifier (chainId : U128)
  | setKeyRegistry (registry : Address)
  | setRouteTiming (chainId : U128) (timing : RouteTiming)
  | setDisputeManager (manager : Address)
  | setRootAnchor (anchor : Address)
  | setTokenRoute (adToken orderToken : BytesN32) (orderChainId : U128)
  | removeTokenRoute (adToken : BytesN32) (orderChainId : U128)
  | createAd (creator : Address) (adId : AdId) (adToken : BytesN32) (initialAmount : U128)
      (orderChainId : U128) (adRecipient settlementSigner : BytesN32)
  | haltSettlement (maker : Address)
  | resumeSettlement (maker : Address)
  | setSettlementSigner (adId : AdId) (identity : BytesN32)
  | fundAd (adId : AdId) (amount : U128)
  | withdrawFromAd (adId : AdId) (amount : U128) (payee : Address)
  | closeAd (adId : AdId) (payee : Address)
  | lockForOrder (params : OrderParams) (signerSlot : U32)
  | unlock (params : OrderParams) (nullifierHash targetRoot : BytesN32) (proof cosigData : Bytes)
  | claimCancel (params : OrderParams)
  | dispute (params : OrderParams) (filer : Address) (evidence : BytesN32)
  | respondToDispute (params : OrderParams) (responder : Address) (evidence : BytesN32)
  | finalizeDispute (params : OrderParams)
  | finalizeCancel (params : OrderParams)
  | cancelNeverLocked (params : OrderParams) (targetRoot nullifierHash : BytesN32) (proof : Bytes)
  | repinOrder (params : OrderParams)
  | presentSettled (params : OrderParams) (targetRoot : BytesN32) (proof : Bytes)
  | recordSettled (params : OrderParams)
  | claim (recipient token : BytesN32)
  deriving DecidableEq

/-- What a call answers. -/
inductive Ret
  | unit
  /-- The id of a proposed action. -/
  | action (id : BytesN32)
  /-- The hash of the order a lock opened. -/
  | order (orderHash : BytesN32)
  /-- The bond a filing posted. -/
  | bond (amount : ℕ)
  deriving DecidableEq

/-- A call of an entry point that answers nothing. -/
abbrev done {σ ε : Type} (x : Tx ε σ Unit) : Tx ε σ Ret := Tx.answer (fun _ => .unit) x

/-- Run a call. -/
def exec (O : Outside X) (H : Host) (env : Env) : Call → Tx AdManagerError (Chain X) Ret
  | .initializeContract admin verifier merkleManager wNativeToken chainId =>
    done (initializeContract env admin verifier merkleManager wNativeToken chainId)
  | .pause => done (pause env)
  | .unpause => done (unpause env)
  | .transferAdmin successor => done (transferAdmin env successor)
  | .acceptAdmin => done (acceptAdmin env)
  | .activateTimelock => done (activateTimelock env)
  | .proposeAction fnName args => Tx.answer .action (proposeAction H env fnName args)
  | .cancelAction id => done (cancelAction env id)
  | .setProtocolFeePool pool => done (setProtocolFeePool H env pool)
  | .setFeeBps lpBps protocolBps => done (setFeeBps H env lpBps protocolBps)
  | .setChain orderChainId orderPortal => done (setChain H env orderChainId orderPortal)
  | .removeChain orderChainId => done (removeChain H env orderChainId)
  | .setRootVerifier chainId module => done (setRootVerifier H env chainId module)
  | .unsetRootVerifier chainId => done (unsetRootVerifier H env chainId)
  | .setKeyRegistry registry => done (setKeyRegistry H env registry)
  | .setRouteTiming chainId timing => done (setRouteTiming H env chainId timing)
  | .setDisputeManager manager => done (setDisputeManager H env manager)
  | .setRootAnchor anchor => done (setRootAnchor H env anchor)
  | .setTokenRoute adToken orderToken orderChainId =>
    done (setTokenRoute H env adToken orderToken orderChainId)
  | .removeTokenRoute adToken orderChainId => done (removeTokenRoute H env adToken orderChainId)
  | .createAd creator adId adToken initialAmount orderChainId adRecipient settlementSigner =>
    done (createAd O H env creator adId adToken initialAmount orderChainId adRecipient
      settlementSigner)
  | .haltSettlement maker => done (haltSettlement env maker)
  | .resumeSettlement maker => done (resumeSettlement env maker)
  | .setSettlementSigner adId identity => done (setSettlementSigner O env adId identity)
  | .fundAd adId amount => done (fundAd O H env adId amount)
  | .withdrawFromAd adId amount payee => done (withdrawFromAd O H env adId amount payee)
  | .closeAd adId payee => done (closeAd O H env adId payee)
  | .lockForOrder params signerSlot => Tx.answer .order (lockForOrder O H env params signerSlot)
  | .unlock params nullifierHash targetRoot proof cosigData =>
    done (unlock O H env params nullifierHash targetRoot proof cosigData)
  | .claimCancel params => done (claimCancel H env params)
  | .dispute params filer evidence => Tx.answer .bond (dispute O H env params filer evidence)
  | .respondToDispute params responder evidence =>
    done (respondToDispute O H env params responder evidence)
  | .finalizeDispute params => done (finalizeDispute O H env params)
  | .finalizeCancel params => done (finalizeCancel O H env params)
  | .cancelNeverLocked params targetRoot nullifierHash proof =>
    done (cancelNeverLocked O H env params targetRoot nullifierHash proof)
  | .repinOrder params => done (repinOrder O H env params)
  | .presentSettled params targetRoot proof => done (presentSettled O H env params targetRoot proof)
  | .recordSettled params => done (recordSettled O H env params)
  | .claim recipient token => done (claim O H env recipient token)

/-- The AdManager with its host: the host never lets anybody authorize as the contract itself, and
`outside` is what may happen around it. -/
def system (O : Outside X) (H : Host) (outside : X → X → Prop) :
    System AdManagerError (Chain X) (Env × Call) Ret where
  call t := exec O H t.1 t.2
  admits _ t := t.1.authorized H.address = false
  outside s s' := ∃ x, outside s.core.outside x ∧ s' = { s with core := { s.core with outside := x } }

end AdManager
end ProofBridge
