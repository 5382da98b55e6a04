import ProofBridge.AgentAccount.Policy
import ProofBridge.Lib.Run

/-!
# The agent account

The ad's maker as a contract. The owner calls its functions; an agent signs, and `checkAuth` lets
through only locks within its policy, which it charges to two buckets. While any ad is guarded, what
loosens or extracts waits for a schedule of exactly that call.
-/

namespace ProofBridge
namespace AgentAccount

open ContractLib

/-- What the account takes from its host. -/
structure AccountHost extends KeyHost where
  /-- `sha256(xdr(args))`. -/
  argsCommitment : List Value → BytesN32

/-- A call an authorization covers. -/
structure ContractContext where
  contract : Address
  fnName : Symbol
  args : List Value

inductive Context
  | contract (c : ContractContext)
  /-- The creation of a contract. -/
  | other

/-- `InvokerContractAuthEntry`: a call the account approves before it makes its own, with the calls
nested in it. -/
inductive Approval
  | contract (c : ContractContext) (subInvocations : List Approval)
  /-- The creation of a contract. -/
  | createContract

inductive AccountSig
  | owner
  | agent (pubkey : BytesN32) (sig : BytesN 64)
  | agentSecp (sig : BytesN 64) (recoveryId : U32)

/-- The contracts the account calls. -/
structure Neighbors (Y : Type) extends Tokens Y where
  /-- A call as this account, with what it approved beforehand. -/
  invoke : Y → Env → List Approval → (target : Address) → Symbol → List Value → Option (Value × Y)
  /-- `get_ad`, its record read as a map. -/
  getAd : Y → (escrow : Address) → AdId → Option (Option (List (Symbol × Value)))

/-- The account and everything around it. -/
structure Chain (Y : Type) where
  state : State
  outside : Y

variable {Y : Type}

abbrev publish (e : AccountEvent) : Tx AccountError (Chain Y) Unit :=
  Tx.modify fun c => { c with state := { c.state with published := e :: c.state.published } }

/-- A write to the account's own storage. -/
abbrev setState (f : State → State) : Tx AccountError (Chain Y) Unit :=
  Tx.modify fun c => { c with state := f c.state }

section Account

variable (N : Neighbors Y) (H : AccountHost) (env : Env)

/-- Targets are one or two escrows, never the account itself. -/
def checkTargets (targets : List Address) : Check AccountError Unit := do
  Check.require (¬(targets = [] ∨ MAX_TARGETS < targets.length)) .badTargets
  Check.require (H.address ∉ targets) .badTargets

/-- `__constructor`. -/
def construct (owner : Address) (targets : List Address) : Check AccountError State := do
  Check.require (owner ≠ H.address) .badOwner
  checkTargets H targets
  pure {
    owner
    targets
    schemaVersion := SCHEMA_VERSION
    policies := ∅
    volumes := ∅
    guardRails := ∅
    schedules := ∅
    guardedAds := []
    replacedBy := none
    published := [.targetsSet targets] }

/-- `owner.require_auth()`. -/
def requireOwner : Tx AccountError (Chain Y) Unit := do
  let c ← Tx.read
  requireAuth env c.state.owner

/-! ## Schedules -/

/-- Spend a matured schedule for exactly this call. -/
def spend (scope : Scope) (action : Symbol) (args : List Value) : Tx AccountError (Chain Y) Unit := do
  let c ← Tx.read
  let row ← Tx.expect (c.state.schedules.get? (scope, action)) .notScheduled
  Tx.require (¬(row.commitment ≠ H.argsCommitment args ∨ env.now < row.readyAt ∨
    row.expiresAt ≤ env.now)) .notScheduled
  setState fun s => s.clearSchedule scope action

/-- Spend a schedule of the account where `loosens` holds while an ad is guarded. -/
def spendIf (loosens : Bool) (action : Symbol) (args : List Value) :
    Tx AccountError (Chain Y) Unit := do
  let c ← Tx.read
  if c.state.anyGuarded && loosens then spend H env .account action args else pure ()

end Account

section Args

/-- `arg`: the call's `i`th argument, decoded. -/
def arg {α : Type} (args : List Value) (i : ℕ) (decode : Value → Option α) :
    Check AccountError α :=
  Check.expect ((args[i]?).bind decode) .badArgs

def arity (args : List Value) (n : ℕ) : Check AccountError Unit :=
  Check.require (args.length = n) .badArgs

/-- `field`: a map's field, decoded. -/
def field {α : Type} (fields : List (Symbol × Value)) (name : Symbol) (decode : Value → Option α) :
    Check AccountError α :=
  Check.expect ((Value.field? fields name).bind decode) .badArgs

/-- `scale`, its faults renamed. -/
def scaleLock (amount : U128) (orderDecimals adDecimals : U32) : Check AccountError ℕ :=
  Check.mapError (fun _ => .badArgs) (scale amount.toNat orderDecimals.toNat adDecimals.toNat)

/-- `decode_ad_call`: the ad an ad-scope call names, and the amount the threshold reads. -/
def decodeAdCall (action : Symbol) (args : List Value) : Check AccountError (AdId × ℕ) :=
  if action = "withdraw_from_ad" then do
    arity args 3
    let _ ← arg args 2 Value.address?
    let adId ← arg args 0 Value.string?
    let amount ← arg args 1 Value.u128?
    pure (adId, amount.toNat)
  else if action = "close_ad" then do
    arity args 2
    let _ ← arg args 1 Value.address?
    let adId ← arg args 0 Value.string?
    pure (adId, 0)
  else if action = "lock_for_order" then do
    arity args 2
    let _ ← arg args 1 Value.u32?
    let lock ← arg args 0 Value.map?
    let amount ← field lock "amount" Value.u128?
    let orderDecimals ← field lock "order_decimals" Value.u32?
    let adDecimals ← field lock "ad_decimals" Value.u32?
    let adAmount ← scaleLock amount orderDecimals adDecimals
    let adId ← field lock "ad_id" Value.string?
    pure (adId, adAmount)
  else if action = "set_guard_rail" then do
    arity args 2
    let _ ← arg args 1 (Value.option? Value.guardRail?)
    let adId ← arg args 0 Value.string?
    pure (adId, 0)
  else if action = "set_settlement_signer" then do
    arity args 2
    let _ ← arg args 1 Value.bytes32?
    let adId ← arg args 0 Value.string?
    pure (adId, 0)
  else .error (.error .actionNotAllowed)

/-- `check_account_call`: an account-scope call's arguments in its own shape. -/
def checkAccountCall (action : Symbol) (args : List Value) : Check AccountError Unit :=
  if action = "upgrade" then do
    arity args 1
    let _ ← arg args 0 Value.bytes32?
  else if action = "set_targets" then do
    arity args 1
    let _ ← arg args 0 (Value.typedVec? Value.address?)
  else if action = "set_account_limit" then do
    arity args 2
    let _ ← arg args 0 Value.bytes32?
    let _ ← arg args 1 Value.limit?
  else if action = "resume_settlement" then do
    arity args 1
    let _ ← arg args 0 Value.address?
  else if action = "sweep" then do
    arity args 3
    let _ ← arg args 0 Value.address?
    let _ ← arg args 1 Value.address?
    let _ ← arg args 2 Value.u128?
  else if action = "set_policy" then do
    arity args 7
    let agent ← arg args 0 Value.bytes32?
    Check.require (agent ≠ 0) .badPolicy
    let _ ← arg args 1 Value.symbol?
    let _ ← arg args 2 (Value.typedVec? Value.tokenLimit?)
    let _ ← arg args 3 (Value.typedVec? Value.bytes32?)
    let _ ← arg args 4 Value.u64?
    let _ ← arg args 5 Value.bytes32?
    let _ ← arg args 6 (Value.option? (Value.typedVec? Value.string?))
  else .error (.error .actionNotAllowed)

/-- `guard_rail_args`: committed with its bucket zeroed, which is live state. -/
def guardRailArgs (adId : AdId) (g : Option GuardRail) : List Value :=
  [.string adId,
    Value.ofOption Value.ofGuardRail (g.map fun g => { g with bucket := { level := 0, lastTs := 0 } })]

/-- `set_policy`'s arguments as the call passes them. -/
def policyArgs (agentId : BytesN32) (p : AgentPolicy) : List Value :=
  [.bytes32 agentId, .symbol p.allowedAction, .vec (p.adTokens.map Value.ofTokenLimit),
    .vec (p.orderTokens.map Value.bytes32), .u64 p.validUntil, .bytes32 p.settlementSigner,
    Value.ofOption (fun ads => .vec (ads.map Value.string)) p.adScope]

end Args

/-! ## The agent path -/

section Agent

variable (H : AccountHost) (env : Env)

/-- What the policy reads of a lock. -/
structure Lock where
  adCreator : BytesN32
  settlementSigner : BytesN32
  adChainToken : BytesN32
  orderChainToken : BytesN32
  adId : AdId
  amount : U128
  orderDecimals : U32
  adDecimals : U32

/-- Every field the checks read, decoded before the first of them. -/
def decodeLock (args : List Value) : Check AccountError Lock := do
  arity args 2
  let _ ← arg args 1 Value.u32?
  let lock ← arg args 0 Value.map?
  let adCreator ← field lock "ad_creator" Value.bytes32?
  let settlementSigner ← field lock "ad_settlement_signer" Value.bytes32?
  let adChainToken ← field lock "ad_chain_token" Value.bytes32?
  let orderChainToken ← field lock "order_chain_token" Value.bytes32?
  let adId ← field lock "ad_id" Value.string?
  let amount ← field lock "amount" Value.u128?
  let orderDecimals ← field lock "order_decimals" Value.u32?
  let adDecimals ← field lock "ad_decimals" Value.u32?
  pure (Lock.mk adCreator settlementSigner adChainToken orderChainToken adId amount orderDecimals
    adDecimals)

/-- Debit the agent's bucket and the account's; both are checked before either is written. The
agent's is written to the policy in hand, which is stored once, after every context. -/
def spendVolume (p : AgentPolicy) (token : BytesN32) (agentLimit : Limit) (amount : ℕ) :
    Tx AccountError (Chain Y) AgentPolicy := do
  let agentBucket := (bucketFor p token).getD (Bucket.full agentLimit env.timestamp)
  let c ← Tx.read
  let account ← Tx.expect (c.state.volumes.get? token) .noVolumeLimit
  let nextAgent ← Tx.expect (trySpend agentLimit agentBucket amount env.timestamp) .volumeExceeded
  let nextAccount ← Tx.expect (trySpend account.limit account.bucket amount env.timestamp)
    .volumeExceeded
  setState fun s => { s with
    volumes := s.volumes.set token { limit := account.limit, bucket := nextAccount } }
  pure (putBucket p token nextAgent)

/-- `check_contract_call`: reach, then size, then rate. -/
def checkContractCall (targets : List Address) (p : AgentPolicy) (c : ContractContext) :
    Tx AccountError (Chain Y) AgentPolicy := do
  Tx.require (c.contract ∈ targets) .targetNotAllowed
  Tx.require (c.fnName = p.allowedAction) .actionNotAllowed
  let lock ← Tx.lift (decodeLock c.args)
  Tx.require (lock.adCreator = H.contractId) .settlementSignerMismatch
  Tx.require (lock.settlementSigner = p.settlementSigner) .settlementSignerMismatch
  let tokenLimit ← Tx.expect (limitFor p lock.adChainToken) .tokenNotAllowed
  Tx.require (lock.orderChainToken ∈ p.orderTokens) .tokenNotAllowed
  Tx.require (adInScope p lock.adId = true) .adNotAllowed
  let adAmount ← Tx.lift (scaleLock lock.amount lock.orderDecimals lock.adDecimals)
  Tx.require (adAmount ≠ 0) .badArgs
  Tx.require (adAmount ≤ tokenLimit.maxPerOrder.toNat) .capExceeded
  spendVolume env p lock.adChainToken tokenLimit.rate adAmount

/-- Every context in order, each with the policy the one before left. -/
def checkContexts (targets : List Address) (p : AgentPolicy) :
    List Context → Tx AccountError (Chain Y) AgentPolicy
  | [] => pure p
  | .contract c :: rest => do
    let p ← checkContractCall H env targets p c
    checkContexts targets p rest
  | .other :: _ => Tx.fail .unsupportedContext

/-- The id of the agent that made the signature. -/
def agentOf (payload : BytesN32) : AccountSig → Check AccountError BytesN32
  | .owner => .error (.error .ownerPathRetired)
  | .agent pubkey sig => do
    Check.demand (H.ed25519Verify pubkey (Eip712.toArray payload) sig = true) .callFailed
    pure pubkey
  | .agentSecp sig recoveryId => do
    let recovered ← recoverEvmAddress H.toKeyHost payload sig recoveryId.toNat
    let addr ← Check.expect recovered .badSignature
    pure (addr.setWidth 256)

/-- `__check_auth`. -/
def checkAuth (payload : BytesN32) (signature : AccountSig) (contexts : List Context) :
    Tx AccountError (Chain Y) Unit := do
  let agentId ← Tx.lift (agentOf H payload signature)
  let c ← Tx.read
  let p ← Tx.expect (c.state.policies.get? agentId) .noPolicyForAgent
  Tx.require (p.revoked = false) .agentRevoked
  Tx.require (¬(p.validUntil ≠ 0 ∧ p.validUntil.toNat ≤ env.now)) .policyExpired
  Tx.require (contexts.isEmpty = false) .unsupportedContext
  let p ← checkContexts H env c.state.targets p contexts
  setState fun s => { s with policies := s.policies.set agentId p }

end Agent

/-! ## The owner's settings -/

section Owner

variable (N : Neighbors Y) (H : AccountHost) (env : Env)

/-- Adding a target while an ad is guarded is scheduled. -/
def setTargets (targets : List Address) : Tx AccountError (Chain Y) Unit := do
  requireOwner env
  let c ← Tx.read
  spendIf H env (targets.any fun t => t ∉ c.state.targets) "set_targets"
    [.vec (targets.map Value.address)]
  Tx.lift (checkTargets H targets)
  setState fun s => { s with targets }
  publish (.targetsSet targets)

/-- The policy to install: a tightening on a guarded account is instant and carries its buckets,
anything else there spends its schedule. -/
def settlePolicy (agentId : BytesN32) (p : AgentPolicy) : Tx AccountError (Chain Y) AgentPolicy := do
  let c ← Tx.read
  if c.state.anyGuarded then
    match (c.state.policies.get? agentId).filter fun cur => isPolicyTightening cur p with
    | some cur => pure (carryBuckets cur p env.timestamp)
    | none => do
      spend H env .account "set_policy" (policyArgs agentId p)
      pure p
  else pure p

/-- Installs or replaces an agent's policy. A revoked id is never installed again. -/
def setPolicy (agentId : BytesN32) (allowedAction : Symbol) (adTokens : List TokenLimit)
    (orderTokens : List BytesN32) (validUntil : U64) (settlementSigner : BytesN32)
    (adScope : Option (List AdId)) : Tx AccountError (Chain Y) Unit := do
  requireOwner env
  Tx.require (isZeroBytes32 agentId = false) .badPolicy
  let c ← Tx.read
  Tx.require (((c.state.policies.get? agentId).any fun p => p.revoked) = false) .agentRevoked
  let p : AgentPolicy := {
    allowedAction
    adTokens
    orderTokens
    validUntil
    revoked := false
    settlementSigner
    adScope
    buckets := [] }
  Tx.lift (validate env c.state.volumes p)
  let p ← settlePolicy H env agentId p
  setState fun s => { s with policies := s.policies.set agentId p }
  publish (.policySet agentId p)

/-- The bucket under a new limit: settled at the old rate, then clamped, never topped up. -/
def settleVolume (current : Option AccountVolume) (limit : Limit) (now : U64) : Bucket :=
  match current with
  | some v => {
      level := BitVec.ofNat 128
        (if limit.capacity.toNat < available v.limit v.bucket now.toNat then limit.capacity.toNat
          else available v.limit v.bucket now.toNat)
      lastTs := now }
  | none => Bucket.full limit now

/-- The account-wide limit for one token. -/
def setAccountLimit (token : BytesN32) (limit : Limit) : Tx AccountError (Chain Y) Unit := do
  requireOwner env
  Tx.lift (validateLimit limit)
  let c ← Tx.read
  let current := c.state.volumes.get? token
  spendIf H env (!isLimitTightening current limit) "set_account_limit"
    [.bytes32 token, Value.ofLimit limit]
  setState fun s => { s with
    volumes := s.volumes.set token { limit, bucket := settleVolume current limit env.timestamp } }
  publish (.accountLimitSet token limit)

/-- A change of a guard rail that increases what the key can do. -/
def loosens (current next : Option GuardRail) : Bool :=
  match current, next with
  | none, _ => false
  | some _, none => true
  | some cur, some next => !isTightening cur next

/-- The rail with its bucket settled at the old rate, then clamped. -/
def settleRail (current : Option GuardRail) (g : GuardRail) (now : U64) : GuardRail :=
  { g with bucket := {
      level := match current with
        | some cur => BitVec.ofNat 128
          (if g.rate.capacity.toNat < available cur.rate cur.bucket now.toNat
            then g.rate.capacity.toNat else available cur.rate cur.bucket now.toNat)
        | none => g.rate.capacity
      lastTs := now } }

/-- The pending rows of `scope` wait the new delay, where that rose. -/
def raiseDelay (scope : Scope) (before : ℕ) (armed : GuardRail) : Tx AccountError (Chain Y) Unit :=
  if before < armed.delay.toNat then do
    let notBefore ← Tx.lift (Check.add 64 env.now armed.delay.toNat)
    setState fun s => s.restamp scope notBefore
  else pure ()

/-- The pending rows of `scope` close within the new window, where that shrank. -/
def shortenWindow (scope : Scope) (before window : ℕ) : Tx AccountError (Chain Y) Unit :=
  if window < before then setState fun s => s.clampWindows scope window else pure ()

/-- What arming or tightening does to the pending rows. -/
def retime (adId : AdId) (current : Option GuardRail) (armed : GuardRail)
    (accountBefore : ℕ × ℕ) : Tx AccountError (Chain Y) Unit := do
  raiseDelay env (.ad adId) ((current.map fun g => g.delay.toNat).getD 0) armed
  raiseDelay env .account accountBefore.1 armed
  shortenWindow (.ad adId) ((current.map fun g => g.window.toNat).getD maxU64) armed.window.toNat
  let c ← Tx.read
  match c.state.accountTimelock with
  | .ok (_, window) => shortenWindow .account accountBefore.2 window
  | .error _ => pure ()

/-- Takes the rail and its schedules off. -/
def disarm (adId : AdId) : Tx AccountError (Chain Y) Unit := do
  setState fun s => s.removeGuardRail adId
  setState fun s => s.clearAllSchedules adId
  publish (.guardRailSet adId false 0 0 0)

/-- A loosened rail takes its schedules with it; any other retimes them. -/
def settleSchedules (adId : AdId) (current : Option GuardRail) (armed : GuardRail)
    (accountBefore : ℕ × ℕ) (loosening : Bool) : Tx AccountError (Chain Y) Unit :=
  if loosening then setState fun s => s.clearAllSchedules adId
  else retime env adId current armed accountBefore

/-- Puts the rail on, in place of `current`. -/
def arm (adId : AdId) (current : Option GuardRail) (g : GuardRail) (loosening : Bool) :
    Tx AccountError (Chain Y) Unit := do
  Tx.require (¬(g.delay = 0 ∨ g.window = 0)) .badGuardRail
  Tx.require (¬(g.rate.capacity = 0 ∨ g.rate.refillPerSecond = 0)) .badGuardRail
  let armed := settleRail current g env.timestamp
  let c ← Tx.read
  let accountBefore := match c.state.accountTimelock with
    | .ok t => t
    | .error _ => (0, maxU64)
  Tx.require (adId ∈ c.state.guardedAds ∨ c.state.guardedAds.length < MAX_GUARDED_ADS) .badGuardRail
  setState fun s => s.putGuardRail adId armed
  settleSchedules env adId current armed accountBefore loosening
  publish (.guardRailSet adId true armed.threshold armed.delay armed.window)

/-- What loosens a rail spends its schedule. -/
def spendRail (adId : AdId) (current guardRail : Option GuardRail) :
    Tx AccountError (Chain Y) Unit :=
  if loosens current guardRail then
    spend H env (.ad adId) "set_guard_rail" (guardRailArgs adId guardRail)
  else pure ()

/-- Arm, tighten, loosen or disarm an ad's guard rail: what loosens goes through the delay. -/
def setGuardRail (adId : AdId) (guardRail : Option GuardRail) :
    Tx AccountError (Chain Y) Unit := do
  requireOwner env
  Tx.lift (match guardRail with
    | some g => checkGuardBounds g
    | none => .ok ())
  let c ← Tx.read
  let current := c.state.guardRails.get? adId
  Tx.require (¬(current = none ∧ c.state.isGuarded adId = true)) .guardRailArchived
  spendRail H env adId current guardRail
  match guardRail with
  | some g => arm env adId current g (loosens current guardRail)
  | none => disarm adId

/-- `require_target`. -/
def requireTarget (target : Address) : Tx AccountError (Chain Y) Unit := do
  let c ← Tx.read
  Tx.require (target ∈ c.state.targets) .targetNotAllowed

/-- `is_closed_ad`: this account's, not open, empty, nothing locked. -/
def isClosedAd (escrow : Address) (adId : AdId) (c : Chain Y) : Check AccountError Bool := do
  let ad ← Check.expectTrap (N.getAd c.outside escrow adId) .callFailed
  match ad with
  | none => pure false
  | some fields => do
    let maker ← field fields "maker" Value.address?
    let opened ← field fields "open" Value.bool?
    let balance ← field fields "balance" Value.u128?
    let locked ← field fields "locked" Value.u128?
    pure (maker = H.address && !opened && balance = 0 && locked = 0)

/-- Takes the rail off an ad this account closed, at once, unless that loosens the account's own
timelock. -/
def disarmClosedAd (escrow : Address) (adId : AdId) : Tx AccountError (Chain Y) Unit := do
  requireOwner env
  requireTarget escrow
  let c ← Tx.read
  Tx.require (c.state.isGuarded adId = true) .noGuardRail
  let closed ← Tx.lift (isClosedAd N H escrow adId c)
  Tx.require (closed = true) .adNotClosed
  let now ← Tx.lift (c.state.timelockWithout none)
  let after ← Tx.lift (c.state.timelockWithout (some adId))
  Tx.require (¬(after.1 < now.1 ∨ now.2 < after.2)) .disarmLowersTimelock
  disarm adId

/-- The ad's rail for a new schedule. -/
def guardRailForSchedule (adId : AdId) (s : State) : Check AccountError GuardRail :=
  match s.guardRails.get? adId with
  | some g => .ok g
  | none => .error (.error (if s.isGuarded adId then .guardRailArchived else .noGuardRail))

/-- The arguments a schedule commits to, its delay and its window. -/
def scheduleTerms (scope : Scope) (action : Symbol) (args : List Value) (s : State) :
    Check AccountError (List Value × ℕ × ℕ) :=
  match scope with
  | .ad adId => do
    let (named, _) ← decodeAdCall action args
    Check.require (named = adId) .scopeMismatch
    let args ← if action = "set_guard_rail" then do
        let g ← arg args 1 (Value.option? Value.guardRail?)
        match g with
          | some next => checkGuardBounds next
          | none => .ok ()
        pure (guardRailArgs adId g)
      else pure args
    let g ← guardRailForSchedule adId s
    pure (args, g.delay.toNat, g.window.toNat)
  | .account => do
    checkAccountCall action args
    let (delay, window) ← s.accountTimelock
    pure (args, delay, window)

/-- Announce a delayed call and start its clock. -/
def schedule (scope : Scope) (action : Symbol) (args : List Value) :
    Tx AccountError (Chain Y) Unit := do
  requireOwner env
  let c ← Tx.read
  let (args, delay, window) ← Tx.lift (scheduleTerms scope action args c.state)
  -- `window_from_now`: past `u64::MAX` the announcement is refused
  Tx.require (env.now + delay ≤ maxU64) .badGuardRail
  Tx.require (env.now + delay + window ≤ maxU64) .badGuardRail
  let row : Schedule := {
    commitment := H.argsCommitment args
    readyAt := env.now + delay
    expiresAt := env.now + delay + window }
  setState fun s => s.setSchedule scope action row
  publish (.scheduled scope action (if action = "set_policy" then [] else args) row.commitment
    row.readyAt row.expiresAt)

/-- Stand a schedule down. -/
def cancel (scope : Scope) (action : Symbol) : Tx AccountError (Chain Y) Unit := do
  requireOwner env
  let c ← Tx.read
  Tx.require ((c.state.schedules.get? (scope, action)).isSome = true) .notScheduled
  setState fun s => s.clearSchedule scope action
  publish (.cancelled scope action)

/-- Instant and idempotent; the policy stays as a tombstone. -/
def revokeAgent (agentId : BytesN32) : Tx AccountError (Chain Y) Unit := do
  requireOwner env
  let c ← Tx.read
  let p ← Tx.expect (c.state.policies.get? agentId) .noPolicyForAgent
  if p.revoked = true then pure ()
  else do
    setState fun s => { s with policies := s.policies.set agentId { p with revoked := true } }
    publish (.agentRevoked agentId)

/-- Replaces this account's code; its storage stays. -/
def upgrade (newWasmHash : BytesN32) : Tx AccountError (Chain Y) Unit := do
  requireOwner env
  spendIf H env true "upgrade" [.bytes32 newWasmHash]
  setState fun s => { s with replacedBy := some newWasmHash }
  publish (.upgraded newWasmHash)

/-- Moves the schema marker to what this code expects. -/
def migrate : Tx AccountError (Chain Y) U32 := do
  requireOwner env
  let c ← Tx.read
  Tx.require (c.state.schemaVersion.toNat ≤ SCHEMA_VERSION.toNat) .schemaTooNew
  setState fun s => { s with schemaVersion := SCHEMA_VERSION }
  publish (.migrated c.state.schemaVersion SCHEMA_VERSION)
  pure SCHEMA_VERSION

/-! ## The owner's escrow calls -/

/-- `to_i128`. -/
def toI128 (amount : U128) : Check AccountError ℤ :=
  if amount.toNat < 2 ^ 127 then .ok amount.toNat else .error (.error .badArgs)

/-- The `i`th argument of an approved call, an address. -/
def approvedAddress (c : ContractContext) (i : ℕ) : Check AccountError Address :=
  Check.expect ((c.args[i]?).bind Value.address?) .badApproval

/-- Each token once, in the order first named. -/
def collect (tokens : List Address) (t : Address) : List Address :=
  if t ∈ tokens then tokens else tokens ++ [t]

mutual

/-- `approved_tokens`: collects the tokens an approval's transfers name. Only a transfer may be
nested, and only in a filing. -/
def approvedTokens (target : Address) (root : Bool) :
    Approval → List Address → Check AccountError (List Address)
  | .createContract, _ => .error (.error .badApproval)
  | .contract c subInvocations, tokens =>
    if c.fnName = "transfer" then do
      let payer ← approvedAddress c 0
      Check.require (¬(payer ≠ H.address ∨ subInvocations.isEmpty = false)) .badApproval
      pure (collect tokens c.contract)
    else if root = true ∧ c.fnName = "open_dispute" then do
      let escrow ← approvedAddress c 0
      Check.require (escrow = target) .badApproval
      let filer ← approvedAddress c 3
      Check.require (filer = H.address) .badApproval
      approvedTokensAll target false subInvocations tokens
    else if root = true ∧ c.fnName = "record_response" then do
      Check.require (subInvocations.isEmpty = true) .badApproval
      let escrow ← approvedAddress c 0
      Check.require (escrow = target) .badApproval
      let responder ← approvedAddress c 2
      Check.require (responder = H.address) .badApproval
      pure tokens
    else .error (.error .badApproval)

/-- The approvals in turn. -/
def approvedTokensAll (target : Address) (root : Bool) :
    List Approval → List Address → Check AccountError (List Address)
  | [], tokens => pure tokens
  | a :: rest, tokens => do
    let tokens ← approvedTokens target root a tokens
    approvedTokensAll target root rest tokens

end

/-- The tokens of every approval and of the payment. -/
def touchedTokens (target : Address) (approvals : List Approval) (pay : Option (Address × U128)) :
    Check AccountError (List Address) := do
  let tokens ← approvedTokensAll H target true approvals []
  pure (match pay with
    | some (t, _) => collect tokens t
    | none => tokens)

/-- The account's balances of some tokens. -/
def balancesOf (y : Y) (tokens : List Address) : Check AccountError (List ℤ) :=
  tokens.mapM fun t => Check.expectTrap (N.balance y t H.address) .callFailed

/-- The payment in, from the owner. -/
def payIn (pay : Option (Address × U128)) (c : Chain Y) : Check AccountError Y :=
  match pay with
  | some (token, amount) => do
    let value ← toI128 amount
    Check.expectTrap
      (N.transfer c.outside (env.inside H.address) token c.state.owner H.address value) .callFailed
  | none => .ok c.outside

/-- `call_with`: the payment in, the approvals, the escrow call, then every touched token's balance
must be what it was. -/
def callWith (target : Address) (fnName : Symbol) (args : List Value)
    (pay : Option (Address × U128)) (approvals : List Approval) :
    Tx AccountError (Chain Y) Value := do
  let tokens ← Tx.lift (touchedTokens H target approvals pay)
  let c ← Tx.read
  let before ← Tx.lift (balancesOf N H c.outside tokens)
  let paid ← Tx.lift (payIn N H env pay c)
  let (ret, y) ← Tx.expectTrap (N.invoke paid (env.inside H.address) approvals target fnName args)
    .callFailed
  let after ← Tx.lift (balancesOf N H y tokens)
  Tx.require (after = before) .fundsLeft
  Tx.modify fun c => { c with outside := y }
  pure ret

/-- `pay_and_call`: the amount in from the owner, and the escrow's pull of exactly that approved. -/
def payAndCall (escrow : Address) (fnName : Symbol) (args : List Value) (token : Address)
    (amount : U128) : Tx AccountError (Chain Y) Unit := do
  let value ← Tx.lift (toI128 amount)
  let pull : Approval := .contract
    (ContractContext.mk token "transfer" [.address H.address, .address escrow, .i128 value]) []
  let _ ← callWith N H env escrow fnName args (some (token, amount)) [pull]

/-- `require_ad_token`: the ad token's own contract; the native token's is the escrow's to know. -/
def requireAdToken (token : Address) (adToken : BytesN32) : Check AccountError Unit :=
  if isNativeToken adToken then .ok ()
  else Check.require (bytes32ToTokenAddress adToken = some token) .badArgs

/-- `ad_token_of`. -/
def adTokenOf (escrow : Address) (adId : AdId) (c : Chain Y) : Check AccountError BytesN32 := do
  let ad ← Check.expectTrap (N.getAd c.outside escrow adId) .callFailed
  Check.expect (ad.bind fun fields => (Value.field? fields "token").bind Value.bytes32?) .badArgs

/-- Opens an ad with this account as its maker, funded from the owner's wallet. -/
def createAd (adManager token : Address) (adId : AdId) (adToken : BytesN32) (amount orderChainId : U128)
    (adRecipient settlementSigner : BytesN32) : Tx AccountError (Chain Y) Unit := do
  requireOwner env
  requireTarget adManager
  Tx.lift (requireAdToken token adToken)
  payAndCall N H env adManager "create_ad"
    [.address H.address, .string adId, .bytes32 adToken, .u128 amount, .u128 orderChainId,
      .bytes32 adRecipient, .bytes32 settlementSigner] token amount

/-- Adds liquidity to one of this account's ads, from the owner's wallet. -/
def fundAd (adManager token : Address) (adId : AdId) (amount : U128) :
    Tx AccountError (Chain Y) Unit := do
  requireOwner env
  requireTarget adManager
  let adToken ← Tx.view (adTokenOf N adManager adId)
  Tx.lift (requireAdToken token adToken)
  payAndCall N H env adManager "fund_ad" [.string adId, .u128 amount] token amount

/-- The rail of a guarded ad on an extractive call: announced where it must be, within the
threshold's bucket elsewhere. -/
def checkGuardedCall (fnName : Symbol) (args : List Value) (adId : AdId) (amount : ℕ) :
    Tx AccountError (Chain Y) Unit := do
  let c ← Tx.read
  let g ← Tx.expect (c.state.guardRails.get? adId) .guardRailArchived
  if fnName = "close_ad" ∨ fnName = "set_settlement_signer" ∨ g.threshold.toNat < amount then
    spend H env (.ad adId) fnName args
  else do
    let next ← Tx.expect (trySpend g.rate g.bucket amount env.timestamp) .volumeExceeded
    setState fun s => s.putGuardRail adId { g with bucket := next }

/-- `check_owner_call`: instant to protect, slow to extract. -/
def checkOwnerCall (fnName : Symbol) (args : List Value) : Tx AccountError (Chain Y) Unit := do
  Tx.require (isTokenFunction fnName = false) .functionNotAllowed
  let c ← Tx.read
  if fnName = "resume_settlement" then do
    Tx.lift (checkAccountCall fnName args)
    spendIf H env true fnName args
  else if fnName ∉ ["withdraw_from_ad", "close_ad", "lock_for_order", "set_settlement_signer"] then
    Tx.require (¬(c.state.anyGuarded = true ∧ fnName ∉ instantEscrowCalls)) .functionNotAllowed
  else do
    let (adId, amount) ← Tx.lift (decodeAdCall fnName args)
    if c.state.isGuarded adId then checkGuardedCall H env fnName args adId amount else pure ()

/-- Any other call on a pinned escrow as this account. -/
def call (target : Address) (fnName : Symbol) (args : List Value) (pay : Option (Address × U128))
    (approvals : List Approval) : Tx AccountError (Chain Y) Value := do
  requireOwner env
  requireTarget target
  checkOwnerCall H env fnName args
  callWith N H env target fnName args pay approvals

/-- The one way out for funds at rest in the account. -/
def sweep (token payee : Address) (amount : U128) : Tx AccountError (Chain Y) Unit := do
  requireOwner env
  spendIf H env true "sweep" [.address token, .address payee, .u128 amount]
  let value ← Tx.lift (toI128 amount)
  let c ← Tx.read
  let y ← Tx.expectTrap
    (N.transfer c.outside (env.inside H.address) token H.address payee value) .callFailed
  Tx.modify fun c => { c with outside := y }

end Owner

/-! ## The account as its host sees it -/

/-- The entry points that change state, with their arguments. -/
inductive Call
  | checkAuth (payload : BytesN32) (signature : AccountSig) (contexts : List Context)
  | setTargets (targets : List Address)
  | setPolicy (agentId : BytesN32) (allowedAction : Symbol) (adTokens : List TokenLimit)
      (orderTokens : List BytesN32) (validUntil : U64) (settlementSigner : BytesN32)
      (adScope : Option (List AdId))
  | setAccountLimit (token : BytesN32) (limit : Limit)
  | setGuardRail (adId : AdId) (guardRail : Option GuardRail)
  | disarmClosedAd (escrow : Address) (adId : AdId)
  | schedule (scope : Scope) (action : Symbol) (args : List Value)
  | cancel (scope : Scope) (action : Symbol)
  | revokeAgent (agentId : BytesN32)
  | upgrade (newWasmHash : BytesN32)
  | migrate
  | createAd (adManager token : Address) (adId : AdId) (adToken : BytesN32)
      (amount orderChainId : U128) (adRecipient settlementSigner : BytesN32)
  | fundAd (adManager token : Address) (adId : AdId) (amount : U128)
  | call (target : Address) (fnName : Symbol) (args : List Value) (pay : Option (Address × U128))
      (approvals : List Approval)
  | sweep (token payee : Address) (amount : U128)

/-- What a call answers. -/
inductive Ret
  | unit
  | version (n : U32)
  | value (v : Value)

/-- A call of an entry point that answers nothing. -/
abbrev done (x : Tx AccountError (Chain Y) Unit) : Tx AccountError (Chain Y) Ret :=
  Tx.answer (fun _ => .unit) x

def exec (N : Neighbors Y) (H : AccountHost) (env : Env) : Call → Tx AccountError (Chain Y) Ret
  | .checkAuth payload signature contexts => done (checkAuth H env payload signature contexts)
  | .setTargets targets => done (setTargets H env targets)
  | .setPolicy agentId allowedAction adTokens orderTokens validUntil settlementSigner adScope =>
    done (setPolicy H env agentId allowedAction adTokens orderTokens validUntil settlementSigner
      adScope)
  | .setAccountLimit token limit => done (setAccountLimit H env token limit)
  | .setGuardRail adId guardRail => done (setGuardRail H env adId guardRail)
  | .disarmClosedAd escrow adId => done (disarmClosedAd N H env escrow adId)
  | .schedule scope action args => done (schedule H env scope action args)
  | .cancel scope action => done (cancel env scope action)
  | .revokeAgent agentId => done (revokeAgent env agentId)
  | .upgrade newWasmHash => done (upgrade H env newWasmHash)
  | .migrate => Tx.answer .version (migrate env)
  | .createAd adManager token adId adToken amount orderChainId adRecipient settlementSigner =>
    done (createAd N H env adManager token adId adToken amount orderChainId adRecipient
      settlementSigner)
  | .fundAd adManager token adId amount => done (fundAd N H env adManager token adId amount)
  | .call target fnName args pay approvals =>
    Tx.answer .value (call N H env target fnName args pay approvals)
  | .sweep token payee amount => done (sweep N H env token payee amount)

/-- The account with its host: calls run this code until an upgrade replaces it, and what is around
the account may move. -/
def system (N : Neighbors Y) (H : AccountHost) (outside : Y → Y → Prop) :
    System AccountError (Chain Y) (Env × Call) Ret where
  call t := exec N H t.1 t.2
  admits c _ := c.state.replacedBy = none
  outside c c' := ∃ y, outside c.outside y ∧ c' = { c with outside := y }

end AgentAccount
end ProofBridge
