import ProofBridge.Evm.RateLimit
import ProofBridge.Lib.Abi

/-!
# The calls of an owner, classified

The custody account judges a call by its target, its value and its bytes. `actionOf` names the action
and, for an action on one ad, the key of that ad; `kindOf` is the allowlist of a guarded account; both
run when a call is announced and again when it is made.
-/

namespace ProofBridge
namespace CustodyAccount

open ContractLib Evm

/-- A `bytes4`. -/
abbrev Selector := BitVec 32

/-- What the account and its guard rail revert with. -/
inductive CustodyError
  | notOwner
  | zeroOwner
  | notPendingOwner
  | notScheduled
  | badGuardRail
  | noGuardRail
  | scopeMismatch
  | volumeExceeded
  | selfCall
  | outOfBounds
  | notAllowed
  | adStillOpen
  | disarmLowersTimelock
  /-- Arguments the decoder refuses: a revert without data. -/
  | malformed
  | scaling (e : DecimalScaling.Error)
  deriving DecidableEq, Repr

/-- What is fixed when the account is deployed. -/
structure Deployment where
  keccak256 : Bytes → BytesN32
  /-- The account's own address. -/
  this : EvmAddress
  /-- The policy module. -/
  module : EvmAddress

/-- `keccak256(bytes(adId))`. -/
def Deployment.adKey (D : Deployment) (adId : AdId) : BytesN32 := D.keccak256 adId

/-! ## Selectors -/

/-- The action of a call that sends native value out of the account. -/
def NATIVE_OUT : Selector := 0xffffffff

/-- `withdrawFromAd`. -/
def WITHDRAW : Selector := 0x0820814b

/-- `closeAd`. -/
def CLOSE : Selector := 0x65ce7ce9

/-- `lockForOrder`. -/
def LOCK : Selector := 0xbb1867f1

/-- `setSettlementSigner`. -/
def SET_SIGNER : Selector := 0xe6586875

/-- The dispute module's `claimTo(address)`. -/
def DM_CLAIM_TO : Selector := 0xa262f5f8

/-- The dispute module's `claimTokenTo(address,address)`. -/
def DM_CLAIM_TOKEN_TO : Selector := 0xcb32636c

namespace Selector

/-! The escrow's other calls. -/

def claimTo : Selector := 0x34a1ca89
def claim : Selector := 0x21c0b342
def createAd : Selector := 0x350ffeea
def fundAd : Selector := 0xbe95948f
def haltSettlement : Selector := 0x43dc9fdf
def resumeSettlement : Selector := 0xa84f466f
def dispute : Selector := 0x674cce61
def respondToDispute : Selector := 0x1bd8c2c8
def finalizeDispute : Selector := 0x95a92044
def claimCancel : Selector := 0xaa2e74e5
def finalizeCancel : Selector := 0xf3044617
def cancelNeverLocked : Selector := 0x57d6e83a
def repinOrder : Selector := 0x55f1a53a
def unlock : Selector := 0x80bb1716
def presentSettled : Selector := 0x99c464c1
def recordSettled : Selector := 0x9fe2a830

/-! The policy module's. -/

def setAgentPolicy : Selector := 0x03154ea5
def setTargets : Selector := 0x1ef8fb53
def setAccountLimit : Selector := 0x4cb983b5
def setAgentGasBudget : Selector := 0xae4f5e3b
def resetAgentTally : Selector := 0xa729d2a2
def setTrustedForwarder : Selector := 0xda742228
def onInstall : Selector := 0x6d61fe70
def onUninstall : Selector := 0x8a91b0e3
def revokeAgent : Selector := 0x19a83f1f
def clearTrustedForwarder : Selector := 0x42a75597

/-! The account's own. -/

def setGuardRail : Selector := 0xfb8c7f96
def disarmGuardRail : Selector := 0x069c2a64
def sweep : Selector := 0x62c06767
def transferOwnership : Selector := 0xf2fde38b

end Selector

/-- The first four bytes, or zero where there are fewer. -/
def selectorOf (data : Bytes) : Selector :=
  if 4 ≤ data.length then
    BitVec.ofNat 32 ((data.take 4).foldl (fun acc b => acc * 256 + b.toNat) 0)
  else 0

/-- `data[4:]`. -/
def argsOf (data : Bytes) : Bytes := data.drop 4

/-! ## Arguments -/

structure GuardRail where
  threshold : Uint256
  delay : U64
  window : U64
  capacity : Uint256
  refillPerSecond : Uint256
  deriving DecidableEq, Repr

section Arguments

variable (args : Bytes)

/-- `(string, uint256, address)`. -/
def withdrawArgs : Option (AdId × Uint256 × EvmAddress) := do
  Abi.hasHead args 0 3
  let adId ← Abi.bytesArg args 0
  let amount ← Abi.uint args 256 32
  let payee ← Abi.uint args 160 64
  pure (adId, amount, payee)

/-- `(string, address)`. -/
def closeArgs : Option (AdId × EvmAddress) := do
  Abi.hasHead args 0 2
  let adId ← Abi.bytesArg args 0
  let payee ← Abi.uint args 160 32
  pure (adId, payee)

/-- `(string, bytes32)`. -/
def signerArgs : Option (AdId × BytesN32) := do
  Abi.hasHead args 0 2
  let adId ← Abi.bytesArg args 0
  let signer ← Abi.uint args 256 32
  pure (adId, signer)

/-- An `OrderParams` struct: its string is an offset from the struct's own start. -/
def orderParamsAt (pos : ℕ) : Option AdOrderParams := do
  Abi.hasHead args pos 17
  let orderChainToken ← Abi.uint args 256 pos
  let adChainToken ← Abi.uint args 256 (pos + 32)
  let amount ← Abi.uint args 256 (pos + 64)
  let bridger ← Abi.uint args 256 (pos + 96)
  let orderChainId ← Abi.uint args 256 (pos + 128)
  let srcOrderPortal ← Abi.uint args 256 (pos + 160)
  let orderRecipient ← Abi.uint args 256 (pos + 192)
  let off ← Abi.offset args (pos + 224)
  let adId ← Abi.bytesAt args (pos + off)
  let adCreator ← Abi.uint args 256 (pos + 256)
  let adRecipient ← Abi.uint args 256 (pos + 288)
  let salt ← Abi.uint args 256 (pos + 320)
  let orderDecimals ← Abi.uint args 8 (pos + 352)
  let adDecimals ← Abi.uint args 8 (pos + 384)
  let deadline ← Abi.uint args 256 (pos + 416)
  let adSettlementSigner ← Abi.uint args 256 (pos + 448)
  let lpFeeBps ← Abi.uint args 16 (pos + 480)
  let protocolFeeBps ← Abi.uint args 16 (pos + 512)
  pure (AdOrderParams.mk orderChainToken adChainToken amount bridger orderChainId srcOrderPortal
    orderRecipient adId adCreator adRecipient salt orderDecimals adDecimals deadline
    adSettlementSigner lpFeeBps protocolFeeBps)

/-- `(OrderParams, uint32)`. -/
def lockArgs : Option (AdOrderParams × U32) := do
  Abi.hasHead args 0 2
  let off ← Abi.offset args 0
  let params ← orderParamsAt args off
  let maxSourceAge ← Abi.uint args 32 32
  pure (params, maxSourceAge)

/-- `(string)`. -/
def adIdArg : Option AdId := do
  Abi.hasHead args 0 1
  Abi.bytesArg args 0

/-- `(string, GuardRail)`. -/
def guardRailArgs : Option (AdId × GuardRail) := do
  Abi.hasHead args 0 6
  let adId ← Abi.bytesArg args 0
  let threshold ← Abi.uint args 256 32
  let delay ← Abi.uint args 64 64
  let window ← Abi.uint args 64 96
  let capacity ← Abi.uint args 256 128
  let refillPerSecond ← Abi.uint args 256 160
  pure (adId, GuardRail.mk threshold delay window capacity refillPerSecond)

/-- `(address[], bool)`. -/
def targetsArgs : Option (List EvmAddress × Bool) := do
  Abi.hasHead args 0 2
  let off ← Abi.offset args 0
  let targets ← Abi.arrayAt args (Abi.uint args 160) off
  let allowed ← Abi.bool args 32
  pure (targets, allowed)

/-- `(bytes32, uint256, uint256)`. -/
def limitArgs : Option (BytesN32 × Uint256 × Uint256) := do
  Abi.hasHead args 0 3
  let token ← Abi.uint args 256 0
  let capacity ← Abi.uint args 256 32
  let refill ← Abi.uint args 256 64
  pure (token, capacity, refill)

end Arguments

/-! ## The contracts around it -/

/-- An ad as its escrow shows it. -/
structure AdView where
  maker : EvmAddress
  isOpen : Bool
  balance : Uint256
  locked : Uint256

/-- What the account calls. `none` is a call that reverts. -/
structure Neighbors (Y : Type) where
  /-- Whether the module pins a target for this account. -/
  isTargetPinned : Y → EvmAddress → Bool
  /-- The module's limit of this account on a token. -/
  accountLimit : Y → BytesN32 → AgentRateLimit.Limit
  /-- `ads` of an escrow. -/
  ads : Y → EvmAddress → AdId → Option AdView
  /-- A call as this account, with a value. -/
  call : Y → EvmAddress → Uint256 → Bytes → Option Y
  /-- Native value or tokens leaving for a payee. -/
  pay : Y → (token payee : EvmAddress) → Uint256 → Option Y

/-! ## Actions and kinds -/

section Classify

variable (D : Deployment)

/-- The action a call is, and the key of the ad it names, zero for an action on no one ad. -/
def actionOf (target : EvmAddress) (value : Uint256) (data : Bytes) :
    Check CustodyError (Selector × BytesN32) :=
  let action := selectorOf data
  -- value first: native leaving the account is one action whatever selector it rides on
  if value ≠ 0 then pure (NATIVE_OUT, 0)
  else if action = WITHDRAW then do
    let (adId, _) ← Check.expect (withdrawArgs (argsOf data)) .malformed
    pure (action, D.adKey adId)
  else if action = CLOSE then do
    let (adId, _) ← Check.expect (closeArgs (argsOf data)) .malformed
    pure (action, D.adKey adId)
  else if action = SET_SIGNER then do
    let (adId, _) ← Check.expect (signerArgs (argsOf data)) .malformed
    pure (action, D.adKey adId)
  else if action = LOCK then do
    let (p, _) ← Check.expect (lockArgs (argsOf data)) .malformed
    pure (action, D.adKey p.adId)
  else if target = D.this ∧ (action = Selector.setGuardRail ∨ action = Selector.disarmGuardRail) then do
    let adId ← Check.expect (adIdArg (argsOf data)) .malformed
    pure (action, D.adKey adId)
  else pure (action, 0)

/-- What a withdrawal or a lock takes out of its ad. -/
def amountOf (action : Selector) (data : Bytes) : Check CustodyError ℕ :=
  if action = WITHDRAW then do
    let (_, amount, _) ← Check.expect (withdrawArgs (argsOf data)) .malformed
    pure amount.toNat
  else if action = LOCK then do
    let (p, _) ← Check.expect (lockArgs (argsOf data)) .malformed
    Check.mapError .scaling (DecimalScaling.scale p.amount p.orderDecimals p.adDecimals)
  else pure 0

/-- How the allowlist treats a call while any ad is guarded. -/
inductive Kind
  | refused
  | instant
  | perAd
  | delayed
  deriving DecidableEq, Repr

/-- The escrow calls that pay nobody but their own parties. -/
def isInstantEscrowCall (a : Selector) : Bool :=
  a = Selector.createAd || a = Selector.fundAd || a = Selector.haltSettlement ||
    a = Selector.dispute || a = Selector.respondToDispute || a = Selector.finalizeDispute ||
    a = Selector.claimCancel || a = Selector.finalizeCancel || a = Selector.cancelNeverLocked ||
    a = Selector.repinOrder || a = Selector.unlock || a = Selector.presentSettled ||
    a = Selector.recordSettled || a = Selector.claim

variable {Y : Type} (N : Neighbors Y) (y : Y)

def moduleKind (action : Selector) (data : Bytes) : Check CustodyError Kind :=
  if action = Selector.revokeAgent ∨ action = Selector.clearTrustedForwarder then pure .instant
  else if action = Selector.setAgentPolicy ∨ action = Selector.onInstall
      ∨ action = Selector.onUninstall ∨ action = Selector.setTrustedForwarder
      ∨ action = Selector.setAgentGasBudget ∨ action = Selector.resetAgentTally then pure .delayed
  else if action = Selector.setTargets then do
    let (_, allowed) ← Check.expect (targetsArgs (argsOf data)) .malformed
    -- unpinning is protective
    pure (if allowed then .delayed else .instant)
  else if action = Selector.setAccountLimit then do
    let (token, capacity, refill) ← Check.expect (limitArgs (argsOf data)) .malformed
    let cur := N.accountLimit y token
    let looser := cur.capacity = 0 ∨ cur.capacity.toNat < capacity.toNat
      ∨ cur.refillPerSecond.toNat < refill.toNat
    pure (if looser then .delayed else .instant)
  else pure .refused

/-- The allowlist: what a call is while any ad is guarded. -/
def kindOf (action : Selector) (adKey : BytesN32) (target : EvmAddress) (data : Bytes) :
    Check CustodyError Kind :=
  if action = NATIVE_OUT then pure .delayed
  else if action = DM_CLAIM_TO ∨ action = DM_CLAIM_TOKEN_TO then pure .delayed
  else if target = D.this then
    if adKey ≠ 0 then pure .perAd
    else if action = Selector.sweep ∨ action = Selector.transferOwnership then pure .delayed
    else pure .refused
  else if target = D.module then moduleKind N y action data
  else if N.isTargetPinned y target = false then pure .refused
  else if adKey ≠ 0 then pure .perAd
  -- undoing a halt waits; halting itself is instant
  else if action = Selector.claimTo ∨ action = Selector.resumeSettlement then pure .delayed
  else if isInstantEscrowCall action then pure .instant
  else pure .refused

end Classify

/-! ## The actions a scope's rows are stored under -/

/-- The scope of account-wide schedules; an ad's scope is its key. -/
def ACCOUNT_SCOPE : BytesN32 := 0

/-- A `bytes4[16]`: what is not listed is zero. -/
def padActions (actions : List Selector) : List Selector :=
  actions ++ List.replicate (16 - actions.length) 0

def adActions : List Selector :=
  padActions [WITHDRAW, CLOSE, LOCK, Selector.setGuardRail, Selector.disarmGuardRail, SET_SIGNER]

/-- Every delayed row of the allowlist. -/
def accountActions : List Selector :=
  padActions [NATIVE_OUT, Selector.claimTo, DM_CLAIM_TO, DM_CLAIM_TOKEN_TO, Selector.setAgentPolicy,
    Selector.setTargets, Selector.setAccountLimit, Selector.onInstall, Selector.onUninstall,
    Selector.setTrustedForwarder, Selector.setAgentGasBudget, Selector.resetAgentTally,
    Selector.sweep, Selector.transferOwnership, Selector.resumeSettlement]

def actionsFor (scope : BytesN32) : List Selector :=
  if scope = ACCOUNT_SCOPE then accountActions else adActions

/-- The loops over a scope's actions break at the first zero. -/
def visited (scope : BytesN32) : List Selector := (actionsFor scope).takeWhile (· ≠ 0)

end CustodyAccount
end ProofBridge
