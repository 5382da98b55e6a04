import ProofBridge.Core.Keys
import ProofBridge.Core.Outside
import ProofBridge.Core.RateLimit

/-!
# The agent account's records

A maker's account acts through its owner and through agents. An agent's policy says what it may lock
and how fast; a guard rail on an ad says which owner calls wait, and a schedule is one announced call.
A revoked policy stays as its own tombstone.
-/

namespace ProofBridge
namespace AgentAccount

open ContractLib

inductive AccountError
  | noPolicyForAgent
  | agentRevoked
  | policyExpired
  | badSignature
  | unsupportedContext
  | targetNotAllowed
  | actionNotAllowed
  | badArgs
  | tokenNotAllowed
  | capExceeded
  | settlementSignerMismatch
  | badPolicy
  | badTargets
  | badOwner
  | adNotAllowed
  | volumeExceeded
  | noVolumeLimit
  | notScheduled
  | badGuardRail
  | noGuardRail
  | guardRailArchived
  | schemaTooNew
  | scopeMismatch
  | ownerPathRetired
  | fundsLeft
  | badApproval
  | functionNotAllowed
  | guardRailOutOfBounds
  | adNotClosed
  | disarmLowersTimelock
  deriving DecidableEq, Repr

def MAX_WHITELIST_TOKENS : ℕ := 16
def MAX_TARGETS : ℕ := 2
def MAX_AD_SCOPE : ℕ := 16
def MAX_AD_ID_BYTES : ℕ := 512

/-- The longest delay of a guard rail: 30 days. -/
def MAX_GUARD_DELAY : ℕ := 30 * 86400

/-- The shortest window of a guard rail: an hour. -/
def MIN_GUARD_WINDOW : ℕ := 3600

/-- The latest `valid_until` a policy may name. -/
def MAX_VALID_UNTIL : ℕ := 2 ^ 48

def MAX_GUARDED_ADS : ℕ := 16

def SCHEMA_VERSION : U32 := 4

/-! ## Records -/

/-- What an agent may do with one token: the cap on one lock, in the token's own units, and the
rate of its locks. -/
structure TokenLimit where
  token : BytesN32
  maxPerOrder : U128
  rate : Limit
  deriving DecidableEq, Repr

structure TokenBucket where
  token : BytesN32
  bucket : Bucket
  deriving DecidableEq, Repr

structure AgentPolicy where
  /-- The one selector the agent may invoke on a pinned target. -/
  allowedAction : Symbol
  /-- The ad tokens, each with its size and rate. -/
  adTokens : List TokenLimit
  orderTokens : List BytesN32
  /-- 0 = no expiry; else usable before it. -/
  validUntil : U64
  revoked : Bool
  /-- The identity every lock must name. -/
  settlementSigner : BytesN32
  /-- `none` = every ad of the account. -/
  adScope : Option (List AdId)
  /-- One row per token spent from. -/
  buckets : List TokenBucket
  deriving DecidableEq, Repr

/-- The limit every agent shares for one token, and its live bucket. -/
structure AccountVolume where
  limit : Limit
  bucket : Bucket
  deriving DecidableEq, Repr

/-- Where a schedule applies: one ad, or the whole account. -/
inductive Scope
  | ad (adId : AdId)
  | account
  deriving DecidableEq, Repr

/-- The owner's brake on one ad. -/
structure GuardRail where
  /-- A withdrawal at or below this needs no announcement, but spends `bucket`. -/
  threshold : U128
  delay : U64
  window : U64
  rate : Limit
  bucket : Bucket
  deriving DecidableEq, Repr

/-- One announced owner call, bound to its exact arguments. -/
structure Schedule where
  commitment : BytesN32
  readyAt : ℕ
  expiresAt : ℕ
  deriving DecidableEq, Repr

/-! ## Host values -/

/-- A value as the host passes it in a call. -/
inductive Value
  | void
  | u32 (n : U32)
  | u64 (n : U64)
  | u128 (n : U128)
  | i128 (n : ℤ)
  | bool (b : Bool)
  | symbol (s : Symbol)
  | string (s : Bytes)
  | bytes32 (b : BytesN32)
  | address (a : Address)
  | vec (items : List Value)
  | map (fields : List (Symbol × Value))
  /-- A value no decoder here reads. -/
  | other (xdr : Bytes)

namespace Value

def u32? : Value → Option U32
  | u32 n => some n
  | _ => none

def u64? : Value → Option U64
  | u64 n => some n
  | _ => none

def u128? : Value → Option U128
  | u128 n => some n
  | _ => none

def bool? : Value → Option Bool
  | bool b => some b
  | _ => none

def symbol? : Value → Option Symbol
  | symbol s => some s
  | _ => none

def string? : Value → Option Bytes
  | string s => some s
  | _ => none

def bytes32? : Value → Option BytesN32
  | bytes32 b => some b
  | _ => none

def address? : Value → Option Address
  | address a => some a
  | _ => none

def vec? : Value → Option (List Value)
  | vec items => some items
  | _ => none

def map? : Value → Option (List (Symbol × Value))
  | map fields => some fields
  | _ => none

/-- A record's value has exactly the record's fields, by name. -/
def limit? : Value → Option Limit
  | map [("capacity", u128 capacity), ("refill_per_second", u128 refillPerSecond)] =>
    some { capacity, refillPerSecond }
  | _ => none

def bucket? : Value → Option Bucket
  | map [("last_ts", u64 lastTs), ("level", u128 level)] => some { level, lastTs }
  | _ => none

def tokenLimit? : Value → Option TokenLimit
  | map [("max_per_order", u128 maxPerOrder), ("rate", rate), ("token", bytes32 token)] =>
    rate.limit?.map fun rate => { token, maxPerOrder, rate }
  | _ => none

def guardRail? : Value → Option GuardRail
  | map [("bucket", bucket), ("delay", u64 delay), ("rate", rate), ("threshold", u128 threshold),
      ("window", u64 window)] => do
    let bucket ← bucket.bucket?
    let rate ← rate.limit?
    some { threshold, delay, window, rate, bucket }
  | _ => none

/-- `Option<T>`: the void value is `none`. -/
def option? {α : Type} (decode : Value → Option α) : Value → Option (Option α)
  | void => some none
  | v => (decode v).map some

/-- `typed_vec`: a vector whose every element decodes. -/
def typedVec? {α : Type} (decode : Value → Option α) (v : Value) : Option (List α) :=
  v.vec?.bind fun items => items.mapM decode

/-- A field of a map, by name. -/
def field? (fields : List (Symbol × Value)) (name : Symbol) : Option Value :=
  (fields.find? fun f => f.1 = name).map Prod.snd

def ofLimit (l : Limit) : Value :=
  map [("capacity", u128 l.capacity), ("refill_per_second", u128 l.refillPerSecond)]

def ofBucket (b : Bucket) : Value := map [("last_ts", u64 b.lastTs), ("level", u128 b.level)]

def ofTokenLimit (l : TokenLimit) : Value :=
  map [("max_per_order", u128 l.maxPerOrder), ("rate", ofLimit l.rate), ("token", bytes32 l.token)]

def ofGuardRail (g : GuardRail) : Value :=
  map [("bucket", ofBucket g.bucket), ("delay", u64 g.delay), ("rate", ofLimit g.rate),
    ("threshold", u128 g.threshold), ("window", u64 g.window)]

def ofOption {α : Type} (encode : α → Value) : Option α → Value
  | some a => encode a
  | none => void

end Value

/-! ## Storage -/

inductive AccountEvent
  | targetsSet (targets : List Address)
  | policySet (agentId : BytesN32) (policy : AgentPolicy)
  | accountLimitSet (token : BytesN32) (limit : Limit)
  | guardRailSet (adId : AdId) (armed : Bool) (threshold : U128) (delay window : U64)
  | scheduled (scope : Scope) (action : Symbol) (args : List Value) (commitment : BytesN32)
      (readyAt expiresAt : ℕ)
  | cancelled (scope : Scope) (action : Symbol)
  | agentRevoked (agentId : BytesN32)
  | upgraded (newWasmHash : BytesN32)
  | migrated (fromVersion toVersion : U32)

structure State where
  owner : Address
  targets : List Address
  schemaVersion : U32
  policies : Map BytesN32 AgentPolicy
  volumes : Map BytesN32 AccountVolume
  guardRails : Map AdId GuardRail
  schedules : Map (Scope × Symbol) Schedule
  /-- The ads that carry a guard rail. -/
  guardedAds : List AdId
  /-- The code an upgrade put in this code's place. -/
  replacedBy : Option BytesN32
  published : List AccountEvent

/-! ## The policy's rules -/

/-- The token's row; `none` is not an ad token. -/
def limitFor (p : AgentPolicy) (token : BytesN32) : Option TokenLimit :=
  p.adTokens.find? fun l => l.token = token

def bucketFor (p : AgentPolicy) (token : BytesN32) : Option Bucket :=
  (p.buckets.find? fun b => b.token = token).map TokenBucket.bucket

/-- The rows with this token's bucket replaced, or appended the first time. -/
def putRow (token : BytesN32) (bucket : Bucket) : List TokenBucket → List TokenBucket
  | [] => [{ token, bucket }]
  | b :: rows => if b.token = token then { token, bucket } :: rows else b :: putRow token bucket rows

def putBucket (p : AgentPolicy) (token : BytesN32) (bucket : Bucket) : AgentPolicy :=
  { p with buckets := putRow token bucket p.buckets }

def checkGuardBounds (g : GuardRail) : Check AccountError Unit := do
  Check.require (¬(g.delay = 0 ∨ g.window = 0)) .badGuardRail
  Check.require (¬(MAX_GUARD_DELAY < g.delay.toNat ∨ g.window.toNat < MIN_GUARD_WINDOW))
    .guardRailOutOfBounds

/-- `next` is at least as strict as `cur` on every axis. -/
def isTightening (cur next : GuardRail) : Bool :=
  next.threshold.toNat ≤ cur.threshold.toNat && decide (cur.delay.toNat ≤ next.delay.toNat) &&
    decide (next.window.toNat ≤ cur.window.toNat) &&
    decide (next.rate.capacity.toNat ≤ cur.rate.capacity.toNat) &&
    decide (next.rate.refillPerSecond.toNat ≤ cur.rate.refillPerSecond.toNat)

/-- `subset`. -/
def subset {α : Type} [DecidableEq α] (small big : List α) : Bool := small.all fun x => x ∈ big

/-- `next` is no wider than `cur` on every axis. -/
def isPolicyTightening (cur next : AgentPolicy) : Bool :=
  next.allowedAction = cur.allowedAction && subset next.orderTokens cur.orderTokens &&
    decide (next.settlementSigner = cur.settlementSigner) &&
    (cur.validUntil = 0 ||
      (next.validUntil ≠ 0 && decide (next.validUntil.toNat ≤ cur.validUntil.toNat))) &&
    (match cur.adScope, next.adScope with
      | none, _ => true
      | some _, none => false
      | some c, some n => subset n c) &&
    next.adTokens.all fun l =>
      match limitFor cur l.token with
      | some c => l.maxPerOrder.toNat ≤ c.maxPerOrder.toNat &&
          decide (l.rate.capacity.toNat ≤ c.rate.capacity.toNat) &&
          decide (l.rate.refillPerSecond.toNat ≤ c.rate.refillPerSecond.toNat)
      | none => false

/-- A first limit is loosening; against a row neither number may rise. -/
def isLimitTightening (cur : Option AccountVolume) (next : Limit) : Bool :=
  match cur with
  | some v => next.capacity.toNat ≤ v.limit.capacity.toNat &&
      decide (next.refillPerSecond.toNat ≤ v.limit.refillPerSecond.toNat)
  | none => false

/-- Carry one token's spent bucket over, settled at the old rate and clamped to the new one. -/
def carryBucket (cur : AgentPolicy) (now : U64) (p : AgentPolicy) (l : TokenLimit) : AgentPolicy :=
  match bucketFor cur l.token, limitFor cur l.token with
  | some b, some c =>
    putBucket p l.token {
      level := BitVec.ofNat 128 (min (available c.rate b now.toNat) l.rate.capacity.toNat)
      lastTs := now }
  | _, _ => p

def carryBuckets (cur next : AgentPolicy) (now : U64) : AgentPolicy :=
  next.adTokens.foldl (carryBucket cur now) next

/-- A limit admits something and refills. -/
def validateLimit (limit : Limit) : Check AccountError Unit :=
  Check.require (¬(limit.capacity = 0 ∨ limit.refillPerSecond = 0)) .badPolicy

def validateTokenLimit (l : TokenLimit) : Check AccountError Unit := do
  validateLimit l.rate
  Check.require (¬(l.maxPerOrder = 0 ∨ l.rate.capacity.toNat < l.maxPerOrder.toNat)) .badPolicy

/-- A token list entry: not zero, and not among the earlier ones. -/
def checkToken (token : BytesN32) (seen : List BytesN32) : Check AccountError Unit := do
  Check.require (isZeroBytes32 token = false) .badPolicy
  Check.require (token ∉ seen) .badPolicy

/-- The ad tokens in order: each a new token with a well-formed limit and an account-wide row. -/
def validateAdTokens (volumes : Map BytesN32 AccountVolume) (seen : List BytesN32) :
    List TokenLimit → Check AccountError Unit
  | [] => pure ()
  | l :: rest => do
    checkToken l.token seen
    validateTokenLimit l
    Check.require ((volumes.get? l.token).isSome = true) .noVolumeLimit
    validateAdTokens volumes (seen ++ [l.token]) rest

def validateOrderTokens (seen : List BytesN32) : List BytesN32 → Check AccountError Unit
  | [] => pure ()
  | t :: rest => do
    checkToken t seen
    validateOrderTokens (seen ++ [t]) rest

def validateAds (seen : List AdId) : List AdId → Check AccountError Unit
  | [] => pure ()
  | a :: rest => do
    Check.require (¬(a = [] ∨ MAX_AD_ID_BYTES < a.length)) .badPolicy
    Check.require (a ∉ seen) .badPolicy
    validateAds (seen ++ [a]) rest

def validateAdScope : Option (List AdId) → Check AccountError Unit
  | none => pure ()
  | some ads => do
    Check.require (¬(ads = [] ∨ MAX_AD_SCOPE < ads.length)) .badPolicy
    validateAds [] ads

/-- Install-time validation; the auth path never checks these again. -/
def validate (env : Env) (volumes : Map BytesN32 AccountVolume) (p : AgentPolicy) :
    Check AccountError Unit := do
  Check.require (p.allowedAction = "lock_for_order") .badPolicy
  Check.require (¬(p.adTokens = [] ∨ MAX_WHITELIST_TOKENS < p.adTokens.length)) .badPolicy
  validateAdTokens volumes [] p.adTokens
  Check.require (¬(p.orderTokens = [] ∨ MAX_WHITELIST_TOKENS < p.orderTokens.length)) .badPolicy
  validateOrderTokens [] p.orderTokens
  Check.require (isZeroBytes32 p.settlementSigner = false) .badPolicy
  Check.require (¬(p.validUntil ≠ 0 ∧
    (p.validUntil.toNat ≤ env.now ∨ MAX_VALID_UNTIL < p.validUntil.toNat))) .badPolicy
  validateAdScope p.adScope

def adInScope (p : AgentPolicy) (adId : AdId) : Bool :=
  match p.adScope with
  | none => true
  | some ads => adId ∈ ads

/-! ## Schedules -/

/-- The per-ad calls an owner announces on a guarded ad. -/
def adActions : List Symbol :=
  ["withdraw_from_ad", "close_ad", "lock_for_order", "set_guard_rail", "set_settlement_signer"]

/-- The account-wide calls that wait while any ad is guarded. -/
def accountActions : List Symbol :=
  ["upgrade", "set_policy", "set_account_limit", "set_targets", "sweep", "resume_settlement"]

def actionsFor : Scope → List Symbol
  | .ad _ => adActions
  | .account => accountActions

/-- The escrow functions `call` reaches at once while an ad is guarded. -/
def instantEscrowCalls : List Symbol :=
  ["create_ad", "fund_ad", "halt_settlement", "dispute", "respond_to_dispute", "finalize_dispute",
    "claim_cancel", "finalize_cancel", "cancel_never_locked", "repin_order", "unlock",
    "present_settled", "record_settled", "claim"]

/-- A token's own functions, never reached as the account. -/
def isTokenFunction (fnName : Symbol) : Bool :=
  fnName ∈ ["transfer", "transfer_from", "approve", "burn", "burn_from"]

namespace State

variable (s : State)

def anyGuarded : Bool := !s.guardedAds.isEmpty

def isGuarded (adId : AdId) : Bool := adId ∈ s.guardedAds

/-- The longest delay and the shortest window across the guarded ads, leaving `skip` out. -/
def timelockWithout (skip : Option AdId) : Check AccountError (ℕ × ℕ) :=
  s.guardedAds.foldlM (fun t adId =>
    if skip = some adId then pure t
    else do
      let g ← Check.expect (s.guardRails.get? adId) .guardRailArchived
      pure (max t.1 g.delay.toNat, min t.2 g.window.toNat)) (0, maxU64)

def accountTimelock : Check AccountError (ℕ × ℕ) := do
  Check.require (s.guardedAds ≠ []) .noGuardRail
  s.timelockWithout none

def clearSchedule (scope : Scope) (action : Symbol) : State :=
  { s with schedules := s.schedules.remove (scope, action) }

def setSchedule (scope : Scope) (action : Symbol) (row : Schedule) : State :=
  { s with schedules := s.schedules.set (scope, action) row }

/-- Every schedule this ad's settings timed: its own and the account-wide ones. -/
def clearAllSchedules (adId : AdId) : State :=
  [Scope.ad adId, Scope.account].foldl
    (fun s scope => (actionsFor scope).foldl (fun s a => s.clearSchedule scope a) s) s

/-- Rewrites the pending row of one action. -/
def restampAction (scope : Scope) (f : Schedule → Schedule) (s : State) (a : Symbol) : State :=
  match s.schedules.get? (scope, a) with
  | some row => s.setSchedule scope a (f row)
  | none => s

/-- `restamp`: every pending row in `scope` matures no earlier than `notBefore`, its window kept. -/
def restamp (scope : Scope) (notBefore : ℕ) : State :=
  (actionsFor scope).foldl (restampAction scope fun row =>
    if row.readyAt < notBefore then
      { row with
        readyAt := notBefore
        expiresAt := saturatingAdd row.expiresAt (notBefore - row.readyAt) }
    else row) s

/-- `clamp_windows`: every pending row in `scope` expires within `window` of its open time. -/
def clampWindows (scope : Scope) (window : ℕ) : State :=
  (actionsFor scope).foldl (restampAction scope fun row =>
    if saturatingAdd row.readyAt window < row.expiresAt then
      { row with expiresAt := saturatingAdd row.readyAt window }
    else row) s

/-- `remove_guard_rail`. -/
def removeGuardRail (adId : AdId) : State :=
  { s with
    guardRails := s.guardRails.remove adId
    guardedAds := s.guardedAds.filter fun a => a ≠ adId }

/-- `put_guard_rail`, for an ad the roster has room for. -/
def putGuardRail (adId : AdId) (g : GuardRail) : State :=
  { s with
    guardRails := s.guardRails.set adId g
    guardedAds := if adId ∈ s.guardedAds then s.guardedAds else s.guardedAds ++ [adId] }

end State

end AgentAccount
end ProofBridge
