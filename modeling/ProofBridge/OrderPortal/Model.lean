import ProofBridge.OrderPortal.Types
import ProofBridge.Lib.Run

/-!
# The OrderPortal's entry points

This leg is the follower: it has no clock of its own after the deadline. It refunds only against the
ad leg's CANCEL leaf, pays the maker on its SETTLED or FORFEIT leaf, and takes the maker's co-signed
`unlock` until `claimStagger` before the deadline. Every entry point below makes the source's checks
in the source's order.
-/

namespace ProofBridge
namespace OrderPortal

open ContractLib

variable {X : Type}

/-- A shared step, its fault renamed. -/
abbrev onCore {α : Type} (x : Tx Fault (Core X) α) : Tx OrderPortalError (Chain X) α :=
  Tx.zoom Chain.core (fun s c => { s with core := c }) OrderPortalError.ofFault x

/-- A shared check, its fault renamed. -/
abbrev onView {α : Type} (f : Core X → Check Fault α) : Tx OrderPortalError (Chain X) α :=
  Tx.view fun s => Check.mapError OrderPortalError.ofFault (f s.core)

abbrev publish (e : Event) : Tx OrderPortalError (Chain X) Unit :=
  Tx.modify fun s => { s with core := { s.core with events := e :: s.core.events } }

/-- The config, or `NotInitialized`. -/
def getConfig (s : Chain X) : Check OrderPortalError ContractConfig :=
  Check.expect s.core.settings.config .notInitialized

/-! ## Initialization and admin -/

section Admin

variable (H : Host) (env : Env)

/-- Can only be called once; nobody's authorization is asked for. -/
def initializeContract (admin verifier merkleManager wNativeToken : Address) (chainId : U128) :
    Tx OrderPortalError (Chain X) Unit := do
  let s ← Tx.read
  Tx.require (s.core.settings.initialized = false) .alreadyInitialized
  Tx.require (admin ≠ H.address) .zeroAddress
  Tx.modify fun s => { s with core := { s.core with settings := { s.core.settings with
    config := some { admin, verifier, merkleManager, wNativeToken, chainId }
    initialized := true } } }

/-- The config, once its admin authorized the call. -/
def asAdmin : Tx OrderPortalError (Chain X) ContractConfig := do
  let config ← Tx.view getConfig
  requireAuth env config.admin
  pure config

/-- The gate of a timelocked setter. -/
def gated (fnName : Symbol) (args : List Val) : Tx OrderPortalError (Chain X) Unit := do
  let config ← Tx.view getConfig
  onCore (onTimelock (Timelock.gate H env config.admin fnName args))

def pause : Tx OrderPortalError (Chain X) Unit := do
  let config ← asAdmin env
  onCore (Escrow.pause config)

def unpause : Tx OrderPortalError (Chain X) Unit := do
  let config ← asAdmin env
  onCore (Escrow.unpause config)

def transferAdmin (successor : Address) : Tx OrderPortalError (Chain X) Unit := do
  let config ← asAdmin env
  onCore (Escrow.transferAdmin config successor)

def acceptAdmin : Tx OrderPortalError (Chain X) Unit := do
  let pending ← onView Escrow.pendingAdmin
  requireAuth env pending
  let config ← Tx.view getConfig
  onCore (Escrow.acceptAdmin config pending)

def activateTimelock : Tx OrderPortalError (Chain X) Unit := do
  let _ ← asAdmin env
  onCore (onTimelock (Timelock.activate env))

def proposeAction (fnName : Symbol) (args : Bytes) : Tx OrderPortalError (Chain X) BytesN32 := do
  let _ ← asAdmin env
  onCore (onTimelock (Timelock.propose H env fnName args))

def cancelAction (id : BytesN32) : Tx OrderPortalError (Chain X) Unit := do
  let _ ← asAdmin env
  onCore (onTimelock (Timelock.cancel env id))

/-- Configure a destination (ad) chain. -/
def setChain (adChainId : U128) (adManager : BytesN32) : Tx OrderPortalError (Chain X) Unit := do
  gated H env "set_chain" [.u128 adChainId, .bytes32 adManager]
  Tx.require (isZeroBytes32 adManager = false) .zeroAddress
  Tx.modify fun s => { s with chains := s.chains.set adChainId { adManager } }
  publish (.chainSet adChainId adManager true)

def removeChain (adChainId : U128) : Tx OrderPortalError (Chain X) Unit := do
  gated H env "remove_chain" [.u128 adChainId]
  Tx.modify fun s => { s with chains := s.chains.remove adChainId }
  publish (.chainSet adChainId 0 false)

def setRootVerifier (chainId : U128) (module : Address) : Tx OrderPortalError (Chain X) Unit := do
  let config ← Tx.view getConfig
  onCore (Escrow.setRootVerifierGated H env config.admin chainId module)

def unsetRootVerifier (chainId : U128) : Tx OrderPortalError (Chain X) Unit := do
  let config ← Tx.view getConfig
  onCore (Escrow.unsetRootVerifier H env config.admin chainId)

def setRouteTiming (chainId : U128) (timing : RouteTiming) :
    Tx OrderPortalError (Chain X) Unit := do
  gated H env "set_route_timing" [.u128 chainId, .timing timing]
  onCore (Escrow.setRouteTiming chainId timing)

def setRootAnchor (anchor : Address) : Tx OrderPortalError (Chain X) Unit := do
  gated H env "set_root_anchor" [.address anchor]
  onCore (Escrow.setRootAnchor anchor)

/-- Set a token route for a destination chain. -/
def setTokenRoute (orderToken : BytesN32) (adChainId : U128) (adToken : BytesN32) :
    Tx OrderPortalError (Chain X) Unit := do
  gated H env "set_token_route" [.bytes32 orderToken, .u128 adChainId, .bytes32 adToken]
  Tx.require (isZeroBytes32 orderToken = false ∧ isZeroBytes32 adToken = false) .routesZeroAddress
  let s ← Tx.read
  Tx.require ((s.chains.get? adChainId).isSome = true) .adChainNotSupported
  onCore (setSettings fun st =>
    { st with routes := st.routes.set (orderToken, adChainId) adToken })
  publish (.tokenRouteSet orderToken adToken adChainId)

def removeTokenRoute (orderToken : BytesN32) (adChainId : U128) :
    Tx OrderPortalError (Chain X) Unit := do
  gated H env "remove_token_route" [.bytes32 orderToken, .u128 adChainId]
  onCore (setSettings fun st => { st with routes := st.routes.remove (orderToken, adChainId) })
  publish (.orderRouteRemoved orderToken adChainId)

end Admin

/-! ## Orders -/

section Orders

variable (O : Outside X) (H : Host) (env : Env)

/-- `validate_order`. -/
def validateOrder (params : OrderParams) (s : Chain X) : Check OrderPortalError Unit := do
  Check.require (params.amount ≠ 0) .zeroAmount
  Check.require
    (params.lpFeeBps.toNat ≤ MAX_FEE_BPS ∧ params.protocolFeeBps.toNat ≤ MAX_FEE_BPS) .invalidFee
  Check.require (isZeroBytes32 params.adRecipient = false) .invalidAdRecipient
  let _ ← Check.mapError .ofFault (bytes32ToAccountAddress params.adRecipient)
  Check.require (isZeroBytes32 params.orderRecipient = false) .recipientZero
  Check.require
    (params.orderRecipient ≠ params.adCreator ∧ params.orderRecipient ≠ params.adSettlementSigner)
    .recipientIsMaker
  Check.mapError (fun e => .ofFault e.toFault) (assertInRange params.orderDecimals.toNat)
  Check.mapError (fun e => .ofFault e.toFault) (assertInRange params.adDecimals.toNat)
  let chainInfo ← Check.expect (s.chains.get? params.adChainId) .adChainNotSupported
  Check.require (chainInfo.adManager = params.adManager) .adManagerMismatch
  let route ← Check.expect
    (s.core.settings.routes.get? (params.orderChainToken, params.adChainId)) .missingRoute
  Check.require (route = params.adChainToken) .adTokenMismatch

/-- `assert_order_decimals`. -/
def assertOrderDecimals (params : OrderParams) (wNative : Address) (s : Chain X) :
    Check OrderPortalError Unit := do
  let onChain ← Check.mapError .ofFault
    (Escrow.tokenDecimals O params.orderChainToken wNative s.core)
  Check.require (onChain = params.orderDecimals.toNat) .orderDecimalsMismatch

/-- Create and fund an order. The one entry here: a pause stops new orders, never exits. -/
def createOrder (params : OrderParams) : Tx OrderPortalError (Chain X) BytesN32 := do
  onView Escrow.requireNotPaused
  let config ← Tx.view getConfig
  Tx.view (validateOrder params)
  Tx.view (assertOrderDecimals O params config.wNativeToken)
  let timingVersion ← onView
    (Escrow.requireMinWindow env params.adChainId params.deadline.toNat)
  let orderHash ← Tx.lift (hashOrder H params config.chainId)
  let s ← Tx.read
  Tx.require (s.core.ledger.status orderHash = .none) .orderExists
  let bridger ← Tx.lift (Check.mapError .ofFault (bytes32ToAccountAddress params.bridger))
  requireAuth env bridger
  onCore (Escrow.transferFromUser O H env params.orderChainToken config.wNativeToken bridger
    params.amount.toNat)
  -- the deposit is consumed on the ad side: its leaf carries the AD domain
  onCore (Escrow.appendToMerkle O H env config.merkleManager orderHash LEAF_DOMAIN_AD)
  onCore (openOrder env orderHash timingVersion 0 0 0)
  onCore (countIn params.bridger)
  publish (.orderCreated orderHash params.bridger params.orderChainToken params.amount.toNat
    params.adChainId params.adChainToken params.adManager params.adId params.adCreator
    params.adRecipient)
  pure orderHash

/-- The co-signed root, vouched for by the route's verifier. -/
def requireRootValid (params : OrderParams) (orderHash nullifierHash targetRoot : BytesN32)
    (cosigData : Bytes) (s : Chain X) : Check OrderPortalError Unit := do
  let module ← Check.expect (s.core.settings.rootVerifiers.get? params.adChainId)
    .rootVerifierNotSet
  let valid ← Check.expectTrap
    (O.isRootValid s.core.outside env module params.adChainId targetRoot
      (rootMetadata params.adSettlementSigner params.bridger orderHash UNPINNED nullifierHash
        ENVELOPE_SIDE_ORDER cosigData))
    .callFailed
  Check.require (valid = true) .rootNotValid

/-- The maker's payout: the deposit, to the ad's recipient. -/
def payMaker (config : ContractConfig) (params : OrderParams) :
    Tx OrderPortalError (Chain X) Unit :=
  onCore (Escrow.payOrCredit O H env config.wNativeToken params.adRecipient params.orderChainToken
    params.amount.toNat)

/-- The bridger's refund: the deposit, back to them. -/
def refundBridger (config : ContractConfig) (orderHash : BytesN32) (params : OrderParams) :
    Tx OrderPortalError (Chain X) Unit := do
  onCore (Escrow.payOrCredit O H env config.wNativeToken params.bridger params.orderChainToken
    params.amount.toNat)
  publish (.orderRefunded orderHash params.bridger params.amount.toNat)

/-- Unlock an order with a ZK proof and the co-signed root. -/
def unlock (params : OrderParams) (nullifierHash targetRoot : BytesN32) (proof cosigData : Bytes) :
    Tx OrderPortalError (Chain X) Unit := do
  let config ← Tx.view getConfig
  let orderHash ← Tx.lift (hashOrder H params config.chainId)
  let s ← Tx.read
  -- `Open` only: the co-signed package proves the lock, not the outcome
  Tx.require (s.core.ledger.status orderHash = .opened) .orderNotOpen
  Tx.require (s.core.ledger.isNullifierUsed nullifierHash = false) .nullifierUsed
  let t ← onView (Escrow.orderTiming orderHash params.adChainId)
  Tx.require (env.now ≤ params.deadline.toNat - t.claimStagger) .orderExpired
  let publicInputs ← Tx.lift
    (Check.mapError .ofFault (buildPublicInputs nullifierHash targetRoot orderHash 0))
  Tx.view (requireRootValid O env params orderHash nullifierHash targetRoot cosigData)
  onView (Escrow.verifyProof O config.verifier publicInputs proof)
  onCore (setNullifierUsed nullifierHash)
  onCore (Escrow.fill orderHash params.bridger false)
  payMaker O H env config params
  publish (.orderUnlocked orderHash params.adRecipient nullifierHash)

/-- What the three evidence paths check: the order may still move, the root is anchored, and the ad
leg appended this order's leaf under `domain`. -/
def requireEvidence (config : ContractConfig) (orderHash : BytesN32) (adChainId : U128)
    (targetRoot : BytesN32) (proof : Bytes) (domain : ℕ) : Tx OrderPortalError (Chain X) Unit := do
  onView (Escrow.requirePresentable orderHash)
  onView (Escrow.requireAnchored O env adChainId targetRoot)
  onView (Escrow.verifyProof O config.verifier
    (buildEventPublicInputs targetRoot orderHash domain) proof)

/-- Refund the bridger against the primary's CANCEL leaf: the only refund this leg has. -/
def refundByCancel (params : OrderParams) (targetRoot : BytesN32) (proof : Bytes) :
    Tx OrderPortalError (Chain X) Unit := do
  let config ← Tx.view getConfig
  let orderHash ← Tx.lift (hashOrder H params config.chainId)
  requireEvidence O env config orderHash params.adChainId targetRoot proof LEAF_DOMAIN_CANCEL
  onCore (Escrow.cancel orderHash params.bridger true)
  refundBridger O H env config orderHash params

/-- Settle the deposit to the maker on the ad leg's SETTLED leaf. -/
def presentSettled (params : OrderParams) (targetRoot : BytesN32) (proof : Bytes) :
    Tx OrderPortalError (Chain X) Unit := do
  let config ← Tx.view getConfig
  let orderHash ← Tx.lift (hashOrder H params config.chainId)
  requireEvidence O env config orderHash params.adChainId targetRoot proof LEAF_DOMAIN_SETTLED
  onCore (Escrow.fill orderHash params.bridger true)
  payMaker O H env config params

/-- Apply a `BridgerForfeit` ruling made on the ad chain: the deposit goes to the maker. -/
def payMakerByForfeit (params : OrderParams) (targetRoot : BytesN32) (proof : Bytes) :
    Tx OrderPortalError (Chain X) Unit := do
  let config ← Tx.view getConfig
  let orderHash ← Tx.lift (hashOrder H params config.chainId)
  requireEvidence O env config orderHash params.adChainId targetRoot proof LEAF_DOMAIN_FORFEIT
  onCore (Escrow.fill orderHash params.bridger true)
  -- no trade settled, so no SETTLED leaf may follow: recorded without appending
  onCore (setSettledRecorded orderHash)
  payMaker O H env config params
  publish (.orderForfeited orderHash)

def recordSettled (params : OrderParams) : Tx OrderPortalError (Chain X) Unit := do
  let config ← Tx.view getConfig
  let orderHash ← Tx.lift (hashOrder H params config.chainId)
  onCore (Escrow.recordSettled O H env config.merkleManager orderHash)

/-- Withdraw a credited balance. -/
def claim (recipient token : BytesN32) : Tx OrderPortalError (Chain X) Unit := do
  let config ← Tx.view getConfig
  onCore (Escrow.claim O H env config recipient token)

end Orders

/-- The key registry's revoke guard: true while the account has an order created but not yet
unlocked. -/
def hasOpenPositions (account : BytesN32) (s : Chain X) : Bool :=
  0 < s.core.ledger.getInFlight account

/-! ## The contract as its host sees it -/

/-- The entry points that change state, with their arguments. -/
inductive Call
  | initializeContract (admin verifier merkleManager wNativeToken : Address) (chainId : U128)
  | pause
  | unpause
  | transferAdmin (successor : Address)
  | acceptAdmin
  | activateTimelock
  | proposeAction (fnName : Symbol) (args : Bytes)
  | cancelAction (id : BytesN32)
  | setChain (adChainId : U128) (adManager : BytesN32)
  | removeChain (adChainId : U128)
  | setRootVerifier (chainId : U128) (module : Address)
  | unsetRootVerifier (chainId : U128)
  | setRouteTiming (chainId : U128) (timing : RouteTiming)
  | setRootAnchor (anchor : Address)
  | setTokenRoute (orderToken : BytesN32) (adChainId : U128) (adToken : BytesN32)
  | removeTokenRoute (orderToken : BytesN32) (adChainId : U128)
  | createOrder (params : OrderParams)
  | unlock (params : OrderParams) (nullifierHash targetRoot : BytesN32) (proof cosigData : Bytes)
  | refundByCancel (params : OrderParams) (targetRoot : BytesN32) (proof : Bytes)
  | presentSettled (params : OrderParams) (targetRoot : BytesN32) (proof : Bytes)
  | payMakerByForfeit (params : OrderParams) (targetRoot : BytesN32) (proof : Bytes)
  | recordSettled (params : OrderParams)
  | claim (recipient token : BytesN32)
  deriving DecidableEq

/-- What a call answers. -/
inductive Ret
  | unit
  /-- The id of a proposed action. -/
  | action (id : BytesN32)
  /-- The hash of the order a create opened. -/
  | order (orderHash : BytesN32)
  deriving DecidableEq

/-- A call of an entry point that answers nothing. -/
abbrev done {σ ε : Type} (x : Tx ε σ Unit) : Tx ε σ Ret := Tx.answer (fun _ => .unit) x

/-- Run a call. -/
def exec (O : Outside X) (H : Host) (env : Env) : Call → Tx OrderPortalError (Chain X) Ret
  | .initializeContract admin verifier merkleManager wNativeToken chainId =>
    done (initializeContract H admin verifier merkleManager wNativeToken chainId)
  | .pause => done (pause env)
  | .unpause => done (unpause env)
  | .transferAdmin successor => done (transferAdmin env successor)
  | .acceptAdmin => done (acceptAdmin env)
  | .activateTimelock => done (activateTimelock env)
  | .proposeAction fnName args => Tx.answer .action (proposeAction H env fnName args)
  | .cancelAction id => done (cancelAction env id)
  | .setChain adChainId adManager => done (setChain H env adChainId adManager)
  | .removeChain adChainId => done (removeChain H env adChainId)
  | .setRootVerifier chainId module => done (setRootVerifier H env chainId module)
  | .unsetRootVerifier chainId => done (unsetRootVerifier H env chainId)
  | .setRouteTiming chainId timing => done (setRouteTiming H env chainId timing)
  | .setRootAnchor anchor => done (setRootAnchor H env anchor)
  | .setTokenRoute orderToken adChainId adToken =>
    done (setTokenRoute H env orderToken adChainId adToken)
  | .removeTokenRoute orderToken adChainId => done (removeTokenRoute H env orderToken adChainId)
  | .createOrder params => Tx.answer .order (createOrder O H env params)
  | .unlock params nullifierHash targetRoot proof cosigData =>
    done (unlock O H env params nullifierHash targetRoot proof cosigData)
  | .refundByCancel params targetRoot proof => done (refundByCancel O H env params targetRoot proof)
  | .presentSettled params targetRoot proof => done (presentSettled O H env params targetRoot proof)
  | .payMakerByForfeit params targetRoot proof =>
    done (payMakerByForfeit O H env params targetRoot proof)
  | .recordSettled params => done (recordSettled O H env params)
  | .claim recipient token => done (claim O H env recipient token)

/-- The OrderPortal with its host, and with what may happen around it. -/
def system (O : Outside X) (H : Host) (outside : X → X → Prop) :
    System OrderPortalError (Chain X) (Env × Call) Ret where
  call t := exec O H t.1 t.2
  admits _ t := t.1.authorized H.address = false
  outside s s' := ∃ x, outside s.core.outside x ∧
    s' = { s with core := { s.core with outside := x } }

end OrderPortal
end ProofBridge
