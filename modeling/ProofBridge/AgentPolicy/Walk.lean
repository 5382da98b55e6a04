import ProofBridge.AgentPolicy.Model
import ProofBridge.Lib.Map

/-!
# The rules of the policy module

One set of rules, run three ways: the validator reserves each call against the stored levels, the hook
spends it from the refilled buckets, and `preflight` answers for both without writing. What differs by
mode is said where it differs; the checks of one call are the same function.
-/

namespace ProofBridge
namespace AgentPolicy

open ContractLib Evm

/-- The agent-level answers, before any call is looked at. -/
structure Gate where
  epoch : Uint256
  aKey : BytesN32
  vKey : BytesN32
  policyMeta : PolicyMeta
  maxCalls : ℕ
  proofKey : BytesN32
  hookProven : Bool

/-- Everything the per-call helpers need, less what they carry along. -/
structure WalkCtx where
  account : EvmAddress
  epoch : Uint256
  vKey : BytesN32
  settlementSigner : BytesN32
  adScopeAll : Bool
  actionId : UInt8
  nowTs : U64

/-- What the clock-free half of the rules learned about one call. -/
structure Checked where
  token : BytesN32
  row : TokenLimitRow
  amount : ℕ

/-- A bucket carried across the calls of one batch. In memory they are keyed as their rows are. -/
structure Running where
  bucket : AgentRateLimit.Bucket
  dirty : Bool
  ceiling : Bool

/-- The two buckets a call draws on and the stored level of each. -/
structure Floors where
  agentKey : BytesN32
  ceilingKey : BytesN32
  agentFloor : ℕ
  ceilingFloor : ℕ

/-- A refusal and the call it is about. -/
abbrev Refused := Refusal × ℕ

/-- A refusal that did not come. -/
theorem unless_ok {ε α : Type} {p : Prop} [Decidable p] {e : ε} {x : Except ε α} {a : α} :
    (if p then .error e else x) = .ok a ↔ ¬p ∧ x = .ok a := by
  by_cases h : p <;> simp [h]

section Rules

variable (H : Host) (cx : Context)

/-! ## The gate -/

/-- Does the account itself report this module as its hook, or, on Kernel, the forwarder it nominated? -/
def hookMounted (account : EvmAddress) (s : Storage) : Bool :=
  let reported := match cx.isModuleInstalled account with
    | some ret => decide (32 ≤ ret.length ∧ Layout.ofBytes (ret.take 32) = 1)
    | none => false
  let forwarder := s.trustedForwarder account
  if reported then true
  else if forwarder = 0 then false
  else match cx.validationConfig account with
    | some ret => decide (64 ≤ ret.length ∧
        Layout.ofBytes ((ret.drop 32).take 32) = forwarder.toNat)
    | none => false

def gate (account : EvmAddress) (agentId : BytesN32) (mode : Mode) (s : Storage) :
    Except Refusal Gate :=
  if s.installedTypes account ≠ TYPE_BIT_VALIDATOR ||| TYPE_BIT_HOOK then .error .notMounted
  -- the hook running is the proof, so the hook itself does not ask
  else if mode ≠ .commit ∧ hookMounted cx account s = false then .error .notMounted
  else
    let epoch := s.epoch account
    let aKey := agentKey H.primitives epoch agentId
    let policyMeta := s.policyMeta aKey account
    let vKey := versionKey H.primitives aKey (s.version aKey account)
    let key := proofKey H.primitives vKey (s.hookInstalls account)
    let passed (maxCalls : ℕ) : Gate := {
      epoch, aKey, vKey, policyMeta, maxCalls
      proofKey := key
      hookProven := s.hookProven key account }
    if s.fingerprint aKey account = 0 then .error .noPolicy
    else if mode = .commit then .ok (passed MAX_BATCH)
    else if mode = .dry ∧ policyMeta.validUntil ≠ 0 ∧
        policyMeta.validUntil.toNat ≤ cx.msg.timestamp.toNat then .error .expired
    else if MAX_UNCOUNTED ≤ (s.uncounted aKey account).toNat then .error .paused
    else if s.uncounted aKey account ≠ 0 then .ok (passed 1)
    else .ok (passed MAX_BATCH)

/-- Whoever passes the gate has a live policy on an account with both halves. -/
theorem gate_ok {H : Host} {cx : Context} {account : EvmAddress} {agentId : BytesN32} {mode : Mode}
    {s : Storage} {g : Gate} (h : gate H cx account agentId mode s = .ok g) :
    let aKey := agentKey H.primitives (s.epoch account) agentId
    s.installedTypes account = TYPE_BIT_VALIDATOR ||| TYPE_BIT_HOOK ∧ s.fingerprint aKey account ≠ 0 ∧
      g.epoch = s.epoch account ∧ g.aKey = aKey ∧
      g.vKey = versionKey H.primitives aKey (s.version aKey account) ∧
      g.policyMeta = s.policyMeta aKey account := by
  unfold gate at h
  obtain ⟨hmounted, h⟩ := unless_ok.mp h
  obtain ⟨-, h⟩ := unless_ok.mp h
  obtain ⟨hpolicy, h⟩ := unless_ok.mp h
  refine ⟨of_not_not hmounted, hpolicy, ?_⟩
  split at h
  · cases h
    exact ⟨rfl, rfl, rfl, rfl⟩
  · obtain ⟨-, h⟩ := unless_ok.mp h
    obtain ⟨-, h⟩ := unless_ok.mp h
    split at h
    · cases h
      exact ⟨rfl, rfl, rfl, rfl⟩
    · cases h
      exact ⟨rfl, rfl, rfl, rfl⟩

/-! ## One call -/

/-- The clock-free rules for one call: reach, then size. -/
def checkStatic (ctx : WalkCtx) (c : Call) (s : Storage) : Except Refusal Checked :=
  if s.flag (targetKey H.primitives ctx.epoch c.target) ctx.account = false then
    .error .targetNotPinned
  else if c.value ≠ 0 then .error .valueAttached
  else if c.data.length < 4 then .error .malformedCall
  else if actionIdOf (c.data.take 4) = 0 ∨ actionIdOf (c.data.take 4) ≠ ctx.actionId then
    .error .actionNotAllowed
  else match decodeLock H.primitives c.data with
    | none => .error .badArguments
    | some params =>
      if params.adSettlementSigner ≠ ctx.settlementSigner then .error .settlementSignerMismatch
      else
        let token := params.adChainToken
        let row := s.agentLimit (tokenKey H.primitives ctx.vKey token) ctx.account
        if row.capacity = 0 then .error .tokenNotAllowed
        else if s.flag (orderTokenKey H.primitives ctx.vKey params.orderChainToken) ctx.account
            = false then .error .tokenNotAllowed
        else if ctx.adScopeAll = false ∧ s.flag (adKey H.primitives ctx.vKey
            (H.primitives.keccak256 params.adId)) ctx.account = false then .error .adNotInScope
        else match adAmount params with
          | none => .error .amountNotScalable
          | some amount =>
            if amount = 0 then .error .amountNotScalable
            else if row.maxPerOrder.toNat < amount then .error .overPerOrderCap
            else .ok { token, row, amount }

/-- A bucket never spent from stores nothing and reads as full. -/
def floors (ctx : WalkCtx) (c : Checked) (s : Storage) : Except Refusal Floors :=
  let aKey := tokenKey H.primitives ctx.vKey c.token
  let cKey := ceilKey H.primitives ctx.epoch c.token
  let ceilingCapacity := (s.accountLimit cKey ctx.account).capacity
  if ceilingCapacity = 0 then .error .noAccountCeiling
  else
    let agentStored := s.agentBucket aKey ctx.account
    let ceilingStored := s.accountBucket cKey ctx.account
    .ok {
      agentKey := aKey
      ceilingKey := cKey
      agentFloor := if agentStored.lastTs = 0 then c.row.capacity.toNat else agentStored.level.toNat
      ceilingFloor :=
        if ceilingStored.lastTs = 0 then ceilingCapacity.toNat else ceilingStored.level.toNat }

/-- The first request against a bucket is free, the rest are held cumulatively to the floor. -/
def fitsFloor (pending amount floor : ℕ) : Check PolicyError (Bool × ℕ) := do
  let total ← Check.add 256 pending amount
  pure (decide (pending = 0 ∨ total ≤ floor), total)

/-- Holds a request to the floors, and adds it to what this transaction has asked for. -/
def reserve (ctx : WalkCtx) (c : Checked) : Tx PolicyError Storage (Option Refusal) := do
  let s ← Tx.read
  match floors H ctx c s with
  | .error refusal => pure (some refusal)
  | .ok f => do
    let agentSlot := pendingSlot H.primitives ctx.account f.agentKey
    let ceilingSlot := pendingSlot H.primitives ctx.account f.ceilingKey
    let agent ← Tx.lift (fitsFloor (s.tload agentSlot).toNat c.amount f.agentFloor)
    let ceiling ← Tx.lift (fitsFloor (s.tload ceilingSlot).toNat c.amount f.ceilingFloor)
    if agent.1 = false ∨ ceiling.1 = false then pure (some .overStoredAllowance)
    else do
      Tx.modify fun s => s.tstore agentSlot (BitVec.ofNat 256 agent.2)
      Tx.modify fun s => s.tstore ceilingSlot (BitVec.ofNat 256 ceiling.2)
      pure none

/-- Takes what the hook debited out of what the transaction has asked for. -/
def releaseSlot (slot : BytesN32) (amount : ℕ) (s : Storage) : Storage :=
  let pending := (s.tload slot).toNat
  if pending = 0 then s
  else s.tstore slot (if amount < pending then BitVec.ofNat 256 (pending - amount) else 0)

def release (ctx : WalkCtx) (c : Checked) (s : Storage) : Storage :=
  releaseSlot (pendingSlot H.primitives ctx.account (ceilKey H.primitives ctx.epoch c.token)) c.amount
    (releaseSlot (pendingSlot H.primitives ctx.account (tokenKey H.primitives ctx.vKey c.token))
      c.amount s)

/-! ## The hook's spend -/

/-- A bucket never spent from reads as full. -/
def readBucket (stored : AgentRateLimit.Bucket) (limit : AgentRateLimit.Limit) (nowTs : U64) :
    AgentRateLimit.Bucket :=
  if stored.lastTs = 0 then AgentRateLimit.full limit nowTs else stored

def TokenLimitRow.rate (row : TokenLimitRow) : AgentRateLimit.Limit where
  capacity := row.capacity
  refillPerSecond := row.refillPerSecond

/-- The running bucket of a key, read from storage the first time. -/
def acquire (running : Map BytesN32 Running) (key : BytesN32) (stored : Running) : Running :=
  (running.get? key).getD stored

def acquireAgent (ctx : WalkCtx) (c : Checked) (running : Map BytesN32 Running) (s : Storage) :
    Running :=
  let key := tokenKey H.primitives ctx.vKey c.token
  acquire running key {
    bucket := readBucket (s.agentBucket key ctx.account) c.row.rate ctx.nowTs
    dirty := false
    ceiling := false }

def acquireCeiling (ctx : WalkCtx) (c : Checked) (running : Map BytesN32 Running) (s : Storage) :
    Option Running :=
  let key := ceilKey H.primitives ctx.epoch c.token
  let rate := s.accountLimit key ctx.account
  if rate.capacity = 0 then none
  else some (acquire running key {
    bucket := readBucket (s.accountBucket key ctx.account) rate ctx.nowTs
    dirty := false
    ceiling := true })

/-- Both allowances are checked before either is written. -/
def spend (ctx : WalkCtx) (c : Checked) (running : Map BytesN32 Running) (s : Storage) :
    Check PolicyError (Except Refusal (Map BytesN32 Running)) :=
  let aKey := tokenKey H.primitives ctx.vKey c.token
  let cKey := ceilKey H.primitives ctx.epoch c.token
  let agent := acquireAgent H ctx c running s
  match acquireCeiling H ctx c (running.set aKey agent) s with
  | none => pure (.error .noAccountCeiling)
  | some ceiling => do
    let nextAgent ← AgentRateLimit.trySpend c.row.rate agent.bucket c.amount ctx.nowTs
    match nextAgent with
    | none => pure (.error .agentAllowanceExceeded)
    | some nextAgent => do
      let nextCeil ← AgentRateLimit.trySpend (s.accountLimit cKey ctx.account) ceiling.bucket c.amount
        ctx.nowTs
      match nextCeil with
      | none => pure (.error .accountCeilingExceeded)
      | some nextCeil =>
        let running := running.set aKey { agent with bucket := nextAgent, dirty := true }
        pure (.ok (running.set cKey {
          bucket := nextCeil
          dirty := true
          ceiling := (acquire running cKey ceiling).ceiling }))

/-- The buckets are written once, at the end. -/
def commitRow (account : EvmAddress) (key : BytesN32) (r : Running) (s : Storage) : Storage :=
  if r.dirty = false then s
  else if r.ceiling then { s with accountBucket := s.accountBucket.put key account r.bucket }
  else { s with agentBucket := s.agentBucket.put key account r.bucket }

def commit (account : EvmAddress) (running : Map BytesN32 Running) (s : Storage) : Storage :=
  running.entries.foldl (fun s e => commitRow account e.1 e.2 s) s

/-! ## The walk -/

/-- Decode the request; how many calls it may carry. -/
def beginWalk (gate : Gate) (callData : Bytes) (mode : Mode) :
    Check PolicyError (Except Refusal (List Call)) := do
  let decoded ← decodeCalls callData (mode = .commit)
  match decoded with
  | none => pure (.error .malformedRequest)
  | some calls =>
    if calls.length = 0 ∨ MAX_BATCH < calls.length then pure (.error .malformedRequest)
    else if gate.maxCalls < calls.length then pure (.error .singlesOnly)
    else if 1 < calls.length ∧ gate.hookProven = false ∧ mode ≠ .commit then
      pure (.error .hookNotProven)
    else pure (.ok calls)

def walkCtx (account : EvmAddress) (gate : Gate) (mode : Mode) : WalkCtx where
  account
  epoch := gate.epoch
  vKey := gate.vKey
  settlementSigner := gate.policyMeta.settlementSigner
  adScopeAll := gate.policyMeta.adScopeAll
  actionId := gate.policyMeta.actionId
  nowTs := if mode = .validate then 0 else cx.nowTs

/-- The validator's loop. -/
def reserveEach (ctx : WalkCtx) : List Call → ℕ → Tx PolicyError Storage (Option Refused)
  | [], _ => pure none
  | c :: calls, i => do
    let s ← Tx.read
    match checkStatic H ctx c s with
    | .error refusal => pure (some (refusal, i))
    | .ok checked => do
      let refusal ← reserve H ctx checked
      match refusal with
      | some refusal => pure (some (refusal, i))
      | none => reserveEach ctx calls (i + 1)

/-- The hook's loop. -/
def spendEach (ctx : WalkCtx) : List Call → ℕ → Map BytesN32 Running →
    Tx PolicyError Storage (Except Refused (Map BytesN32 Running))
  | [], _, running => pure (.ok running)
  | c :: calls, i, running => do
    let s ← Tx.read
    match checkStatic H ctx c s with
    | .error refusal => pure (.error (refusal, i))
    | .ok checked => do
      let spent ← Tx.lift (spend H ctx checked running s)
      match spent with
      | .error refusal => pure (.error (refusal, i))
      | .ok running => do
        Tx.modify (release H ctx checked)
        spendEach ctx calls (i + 1) running

/-- The validator's walk: nothing but what the transaction has asked for is written. -/
def walkValidate (account : EvmAddress) (gate : Gate) (callData : Bytes) :
    Tx PolicyError Storage (Option Refused) := do
  let begun ← Tx.lift (beginWalk gate callData .validate)
  match begun with
  | .error refusal => pure (some (refusal, NO_CALL))
  | .ok calls => reserveEach H (walkCtx cx account gate .validate) calls 0

/-- The hook's walk. -/
def walkCommit (account : EvmAddress) (gate : Gate) (callData : Bytes) :
    Tx PolicyError Storage (Option Refused) := do
  let begun ← Tx.lift (beginWalk gate callData .commit)
  match begun with
  | .error refusal => pure (some (refusal, NO_CALL))
  | .ok calls => do
    let walked ← spendEach H (walkCtx cx account gate .commit) calls 0 ∅
    match walked with
    | .error refused => pure (some refused)
    | .ok running => do
      Tx.modify (commit account running)
      pure none

section Walks

variable {H : Host} {cx : Context} {account : EvmAddress} {gate : Gate} {callData : Bytes}
  {s s' : Storage}

end Walks

/-! ## `preflight` -/

/-- What `preflight` has been asked for so far, per bucket. -/
abbrev Asked := Map BytesN32 ℕ

def Asked.total (asked : Asked) (key : BytesN32) : ℕ := (asked.get? key).getD 0

end Rules

end AgentPolicy
end ProofBridge
