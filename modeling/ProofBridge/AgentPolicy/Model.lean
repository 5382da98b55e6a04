import ProofBridge.AgentPolicy.Keys
import ProofBridge.AgentPolicy.Lock
import ProofBridge.Evm.Timelock

/-!
# The EVM policy module

A maker's account installs the module as a validator and as a hook. The validator decides without a
clock and holds requests to the stored levels; the hook runs the same rules again and debits. Rows are
`key => account => value` and are never deleted. Transient storage holds what a transaction has asked
for and the markers of operations approved in it.
-/

namespace ProofBridge
namespace AgentPolicy

open ContractLib Evm

/-! ## Data -/

structure PolicyMeta where
  settlementSigner : BytesN32
  validUntil : U64
  adScopeAll : Bool
  actionId : UInt8
  deriving DecidableEq, Repr

structure TokenLimitRow where
  maxPerOrder : Uint256
  capacity : Uint256
  refillPerSecond : Uint256
  deriving DecidableEq, Repr

/-- Why a request was refused. -/
inductive Refusal
  | notMounted
  | noPolicy
  | paused
  | singlesOnly
  | expired
  | malformedRequest
  | malformedCall
  | targetNotPinned
  | valueAttached
  | actionNotAllowed
  | badArguments
  | settlementSignerMismatch
  | adNotInScope
  | tokenNotAllowed
  | amountNotScalable
  | overPerOrderCap
  | noAccountCeiling
  | overStoredAllowance
  | agentAllowanceExceeded
  | accountCeilingExceeded
  | hookNotProven
  deriving DecidableEq, Repr

/-- The index of a refusal that is about the request as a whole. -/
def NO_CALL : ℕ := 2 ^ 256 - 1

/-- Validate: no clock, held to the stored floor. Commit: the hook. Dry: `preflight`. -/
inductive Mode
  | validate
  | commit
  | dry
  deriving DecidableEq, Repr

/-- Approved but uncounted operations after which the agent is refused. -/
def MAX_UNCOUNTED : ℕ := 3

def MAX_GAS_FIELD : ℕ := 2 ^ 120

def TYPE_BIT_VALIDATOR : Uint256 := 1
def TYPE_BIT_HOOK : Uint256 := 2
def MODULE_TYPE_VALIDATOR : Uint256 := 1
def MODULE_TYPE_HOOK : Uint256 := 4
def VALIDATION_SUCCESS : Uint256 := 0
def VALIDATION_FAILED : Uint256 := 1

/-- A mapping `key => account => value`. -/
abbrev Rows (V : Type) := BytesN32 → EvmAddress → V

/-- One row written. -/
def Rows.put {V : Type} (m : Rows V) (key : BytesN32) (account : EvmAddress) (value : V) : Rows V :=
  fun key' account' => if key' = key ∧ account' = account then value else m key' account'

/-- The module's storage. -/
structure Storage where
  epoch : EvmAddress → Uint256
  installedTypes : EvmAddress → Uint256
  trustedForwarder : EvmAddress → EvmAddress
  fingerprint : Rows BytesN32
  /-- Keyed by the agent alone. -/
  revoked : Rows Bool
  gasBudget : Rows Uint256
  uncounted : Rows Uint256
  version : Rows Uint256
  policyMeta : Rows PolicyMeta
  flag : Rows Bool
  agentLimit : Rows TokenLimitRow
  agentBucket : Rows AgentRateLimit.Bucket
  accountLimit : Rows AgentRateLimit.Limit
  accountBucket : Rows AgentRateLimit.Bucket
  hookInstalls : EvmAddress → Uint256
  hookProven : Rows Bool
  transient : BytesN32 → BytesN32

/-- Every word zero. -/
def Storage.deployed : Storage where
  epoch _ := 0
  installedTypes _ := 0
  trustedForwarder _ := 0
  fingerprint _ _ := 0
  revoked _ _ := false
  gasBudget _ _ := 0
  uncounted _ _ := 0
  version _ _ := 0
  policyMeta _ _ := ⟨0, 0, false, 0⟩
  flag _ _ := false
  agentLimit _ _ := ⟨0, 0, 0⟩
  agentBucket _ _ := ⟨0, 0⟩
  accountLimit _ _ := ⟨0, 0⟩
  accountBucket _ _ := ⟨0, 0⟩
  hookInstalls _ := 0
  hookProven _ _ := false
  transient _ := 0

inductive PolicyError
  | notInstalled
  | alreadyInstalled
  | unsupportedModuleType (moduleTypeId : Uint256)
  | agentRevoked
  | badLimit
  | noAccountCeiling (token : BytesN32)
  | zeroAgent
  | agentIdNotAnAddress
  | installDataTooShort
  | badExpiry
  | revokedBeforeExecution
  | noPolicyForAgent
  | refusedAtExecution (callIndex : ℕ) (reason : Refusal)
  | unknownHookCaller (caller : EvmAddress)
  | badTarget (target : EvmAddress)
  | codec (e : AgentPolicyCodec.CodecError)
  deriving DecidableEq

/-- What the module is deployed with and on. -/
structure Host where
  primitives : Primitives
  this : EvmAddress
  /-- `ECDSA.tryRecover` of the Ethereum signed message hash; none on a recover error. -/
  tryRecover : BytesN32 → Bytes → Option EvmAddress

/-- The call as the module sees it: its sender, calldata and time, and what the accounts answer to the
two static calls of `_hookMounted`, none when they revert. -/
structure Context where
  msg : Message
  isModuleInstalled : EvmAddress → Option Bytes
  validationConfig : EvmAddress → Option Bytes

/-- `uint64(block.timestamp)`. -/
def Context.nowTs (cx : Context) : U64 := cx.msg.timestamp.setWidth 64

namespace Storage

variable (s : Storage) (account : EvmAddress)

abbrev tload (slot : BytesN32) : BytesN32 := s.transient slot

def tstore (slot value : BytesN32) : Storage :=
  { s with transient := fun slot' => if slot' = slot then value else s.transient slot' }

end Storage

/-! ## Installing -/

/-- `abi.decode(extra, (address[]))`. -/
def decodeTargets (extra : Bytes) : Option (List EvmAddress) := do
  Abi.hasHead extra 0 1
  let pos ← Abi.offset extra 0
  Abi.arrayAt extra (Abi.uint extra 160) pos

def installArgs (data : Bytes) : Check PolicyError (Uint256 × Bytes) := do
  Check.require (32 ≤ data.length) .installDataTooShort
  let moduleTypeId ← wordAt data 0
  pure (moduleTypeId, data.drop 32)

def typeBit (moduleTypeId : Uint256) : Check PolicyError Uint256 :=
  if moduleTypeId = MODULE_TYPE_VALIDATOR then pure TYPE_BIT_VALIDATOR
  else if moduleTypeId = MODULE_TYPE_HOOK then pure TYPE_BIT_HOOK
  else .error (.error (.unsupportedModuleType moduleTypeId))

/-- A counter and one more, or a panic at its end. -/
def increment (n : Uint256) : Check PolicyError Uint256 := do
  let next ← Check.add 256 n.toNat 1
  pure (BitVec.ofNat 256 next)

section Entries

variable (H : Host) (cx : Context)

/-- Never zero, the account itself or this module. -/
def pin (e : Uint256) (target : EvmAddress) (allowed : Bool) : Tx PolicyError Storage Unit := do
  Tx.require (¬(allowed = true ∧ (target = 0 ∨ target = cx.msg.sender ∨ target = H.this)))
    (.badTarget target)
  Tx.modify fun s => { s with
    flag := s.flag.put (targetKey H.primitives e target) cx.msg.sender allowed }

def pinEach (e : Uint256) (allowed : Bool) : List EvmAddress → Tx PolicyError Storage Unit
  | [] => pure ()
  | target :: targets => do
    pin H cx e target allowed
    pinEach e allowed targets

/-- Bumps the epoch on the first type installed, and counts hook installs. -/
def markInstalled (bit : Uint256) : Tx PolicyError Storage Unit := do
  let s ← Tx.read
  let types := s.installedTypes cx.msg.sender
  Tx.require (types &&& bit = 0) .alreadyInstalled
  let epoch ← Tx.lift (if types = 0 then increment (s.epoch cx.msg.sender)
    else pure (s.epoch cx.msg.sender))
  let installs ← Tx.lift (if bit = TYPE_BIT_HOOK then increment (s.hookInstalls cx.msg.sender)
    else pure (s.hookInstalls cx.msg.sender))
  Tx.modify fun s => { s with
    epoch := Function.update s.epoch cx.msg.sender epoch
    installedTypes := Function.update s.installedTypes cx.msg.sender (types ||| bit)
    hookInstalls := Function.update s.hookInstalls cx.msg.sender installs }

/-- Install one of the two types on the calling account. -/
def onInstall (data : Bytes) : Tx PolicyError Storage Unit := do
  let args ← Tx.lift (installArgs data)
  let bit ← Tx.lift (typeBit args.1)
  markInstalled cx bit
  if args.1 = MODULE_TYPE_VALIDATOR ∧ 0 < args.2.length then do
    let targets ← Tx.expectTrap (decodeTargets args.2) .callFailed
    let s ← Tx.read
    pinEach H cx (s.epoch cx.msg.sender) true targets
  else pure ()

/-- The bit an uninstall names, zero when it names none. -/
def uninstallBit (data : Bytes) : Check PolicyError Uint256 := do
  let moduleTypeId ← if 32 ≤ data.length then wordAt data 0 else pure 0
  pure (if moduleTypeId = MODULE_TYPE_VALIDATOR then TYPE_BIT_VALIDATOR
    else if moduleTypeId = MODULE_TYPE_HOOK then TYPE_BIT_HOOK else 0)

/-- Remove one type, or both where the data does not name an installed one. -/
def onUninstall (data : Bytes) : Tx PolicyError Storage Unit := do
  let s ← Tx.read
  let types := s.installedTypes cx.msg.sender
  if types = 0 then pure ()
  else do
    let bit ← Tx.lift (uninstallBit data)
    let left := if bit = 0 ∨ types &&& bit = 0 then 0 else types &&& ~~~bit
    let epoch ← Tx.lift (if left = 0 then increment (s.epoch cx.msg.sender)
      else pure (s.epoch cx.msg.sender))
    Tx.modify fun s => { s with
      installedTypes := Function.update s.installedTypes cx.msg.sender left
      epoch := Function.update s.epoch cx.msg.sender epoch
      trustedForwarder :=
        if left = 0 then Function.update s.trustedForwarder cx.msg.sender 0 else s.trustedForwarder }

/-! ## Configuration -/

def requireInstalled : Tx PolicyError Storage Unit := do
  let s ← Tx.read
  Tx.require (s.installedTypes cx.msg.sender ≠ 0) .notInstalled

def setTargets (targets : List EvmAddress) (allowed : Bool) : Tx PolicyError Storage Unit := do
  requireInstalled cx
  let s ← Tx.read
  pinEach H cx (s.epoch cx.msg.sender) allowed targets

/-- The bucket after its limit is set: full at first, else settled at the old rate and clamped. -/
def settledBucket (old limit : AgentRateLimit.Limit) (b : AgentRateLimit.Bucket) (nowTs : U64) :
    Check PolicyError AgentRateLimit.Bucket :=
  if b.lastTs = 0 then pure (AgentRateLimit.full limit nowTs)
  else do
    let level ← AgentRateLimit.available old b nowTs
    pure {
      level := if limit.capacity.toNat < level then limit.capacity else BitVec.ofNat 256 level
      lastTs := nowTs }

/-- The account-wide ceiling for one token. -/
def setAccountLimit (token : BytesN32) (capacity refillPerSecond : Uint256) :
    Tx PolicyError Storage Unit := do
  requireInstalled cx
  Tx.require (capacity ≠ 0 ∧ refillPerSecond ≠ 0 ∧ capacity.toNat < 2 ^ 128 ∧
    refillPerSecond.toNat < 2 ^ 128) .badLimit
  let s ← Tx.read
  let key := ceilKey H.primitives (s.epoch cx.msg.sender) token
  let limit : AgentRateLimit.Limit := { capacity, refillPerSecond }
  let bucket ← Tx.lift (settledBucket (s.accountLimit key cx.msg.sender) limit
    (s.accountBucket key cx.msg.sender) cx.nowTs)
  Tx.modify fun s => { s with
    accountBucket := s.accountBucket.put key cx.msg.sender bucket
    accountLimit := s.accountLimit.put key cx.msg.sender limit }

def setAgentGasBudget (agentId : BytesN32) (weiBudget : Uint256) : Tx PolicyError Storage Unit := do
  requireInstalled cx
  let s ← Tx.read
  let aKey := agentKey H.primitives (s.epoch cx.msg.sender) agentId
  Tx.modify fun s => { s with gasBudget := s.gasBudget.put aKey cx.msg.sender weiBudget }

/-- Un-pause an agent stopped by `MAX_UNCOUNTED`. -/
def resetAgentTally (agentId : BytesN32) : Tx PolicyError Storage Unit := do
  requireInstalled cx
  let s ← Tx.read
  let aKey := agentKey H.primitives (s.epoch cx.msg.sender) agentId
  Tx.require (s.fingerprint aKey cx.msg.sender ≠ 0) .noPolicyForAgent
  Tx.modify fun s => { s with uncounted := s.uncounted.put aKey cx.msg.sender 0 }

/-- The ad tokens' limits, one row each; each needs the account's ceiling to exist. -/
def writeLimits (e : Uint256) (vKey : BytesN32) :
    List AgentPolicyCodec.TokenRow → Tx PolicyError Storage Unit
  | [] => pure ()
  | row :: rows => do
    Tx.require (row.capacity ≠ 0 ∧ row.refillPerSecond ≠ 0 ∧ row.maxPerOrder ≠ 0 ∧
      row.maxPerOrder.toNat ≤ row.capacity.toNat) .badLimit
    let s ← Tx.read
    Tx.require ((s.accountLimit (ceilKey H.primitives e row.token) cx.msg.sender).capacity ≠ 0)
      (.noAccountCeiling row.token)
    let key := tokenKey H.primitives vKey row.token
    let limit : TokenLimitRow := {
      maxPerOrder := row.maxPerOrder
      capacity := row.capacity
      refillPerSecond := row.refillPerSecond }
    Tx.modify fun s => { s with agentLimit := s.agentLimit.put key cx.msg.sender limit }
    writeLimits e vKey rows

/-- A list as one flag each. -/
def writeFlags (keyOf : BytesN32 → BytesN32) : List BytesN32 → Storage → Storage
  | [], s => s
  | x :: xs, s => writeFlags keyOf xs { s with flag := s.flag.put (keyOf x) cx.msg.sender true }

/-- Install a policy for one agent, from its canonical bytes. -/
def setAgentPolicy (agentId : BytesN32) (policy : Bytes) : Tx PolicyError Storage Unit := do
  requireInstalled cx
  Tx.require (agentId ≠ 0) .zeroAgent
  Tx.require (agentId >>> 160 = 0) .agentIdNotAnAddress
  let s ← Tx.read
  let e := s.epoch cx.msg.sender
  let aKey := agentKey H.primitives e agentId
  Tx.require (s.revoked agentId cx.msg.sender = false) .agentRevoked
  let d ← Tx.lift (Check.mapError .codec (AgentPolicyCodec.decode H.primitives policy))
  Tx.require (¬(d.validUntil ≠ 0 ∧ (d.validUntil.toNat ≤ cx.msg.timestamp.toNat ∨
    2 ^ 48 ≤ d.validUntil.toNat - 1))) .badExpiry
  let version ← Tx.lift (increment (s.version aKey cx.msg.sender))
  let vKey := versionKey H.primitives aKey version
  let policyMeta : PolicyMeta := {
    settlementSigner := d.settlementSigner
    validUntil := d.validUntil
    adScopeAll := d.adScopeAll
    actionId := d.actionId }
  Tx.modify fun s => { s with
    version := s.version.put aKey cx.msg.sender version
    policyMeta := s.policyMeta.put aKey cx.msg.sender policyMeta }
  writeLimits H cx e vKey d.adTokens
  Tx.modify (writeFlags cx (orderTokenKey H.primitives vKey) d.orderTokens)
  Tx.modify (writeFlags cx (adKey H.primitives vKey) d.adScopeHashes)
  Tx.modify fun s => { s with
    fingerprint := s.fingerprint.put aKey cx.msg.sender (H.primitives.keccak256 policy)
    uncounted := s.uncounted.put aKey cx.msg.sender 0 }

/-- Kill one agent, for good. -/
def revokeAgent (agentId : BytesN32) : Tx PolicyError Storage Unit := do
  requireInstalled cx
  let s ← Tx.read
  if s.revoked agentId cx.msg.sender = true then pure ()
  else do
    let aKey := agentKey H.primitives (s.epoch cx.msg.sender) agentId
    Tx.require (s.fingerprint aKey cx.msg.sender ≠ 0) .noPolicyForAgent
    Tx.modify fun s => { s with
      fingerprint := s.fingerprint.put aKey cx.msg.sender 0
      revoked := s.revoked.put agentId cx.msg.sender true }

def setTrustedForwarder (forwarder : EvmAddress) : Tx PolicyError Storage Unit := do
  requireInstalled cx
  Tx.modify fun s => { s with
    trustedForwarder := Function.update s.trustedForwarder cx.msg.sender forwarder }

def clearTrustedForwarder : Tx PolicyError Storage Unit :=
  Tx.modify fun s => { s with
    trustedForwarder := Function.update s.trustedForwarder cx.msg.sender 0 }

end Entries

end AgentPolicy
end ProofBridge
