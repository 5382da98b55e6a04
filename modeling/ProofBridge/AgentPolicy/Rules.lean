import ProofBridge.AgentPolicy.Operation

/-!
# What an agent may do

Rows are never deleted: an install moves on to the rows of a new epoch, and a policy to those of a new
version. `Rules` is what an owner's calls come to when whatever an install or a policy replaces is
forgotten, `RuleRows` the rows of one account that carry it. Each of the owner's calls turns its
sender's rows and nobody else's; what the agents and the EntryPoint call leaves all of them alone.
-/

namespace ProofBridge
namespace AgentPolicy

open ContractLib Evm

/-! ## What the owner's calls come to -/

structure Rules where
  types : Uint256
  targets : EvmAddress → Bool
  /-- The bytes of each agent's policy. -/
  policies : BytesN32 → Option Bytes
  revoked : BytesN32 → Bool

namespace Rules

def blank : Rules where
  types := 0
  targets _ := false
  policies _ := none
  revoked _ := false

/-- A revocation is never forgotten. -/
def forget (r : Rules) : Rules := { r with targets := fun _ => false, policies := fun _ => none }

def pin (r : Rules) (targets : List EvmAddress) (allowed : Bool) : Rules :=
  { r with targets := fun target => if target ∈ targets then allowed else r.targets target }

/-- The first half mounted begins anew. -/
def install (r : Rules) (bit : Uint256) (targets : List EvmAddress) : Rules :=
  pin { (if r.types = 0 then r.forget else r) with types := r.types ||| bit } targets true

/-- So does the last half taken off; with nothing mounted there is nothing to take. -/
def uninstall (r : Rules) (bit : Uint256) : Rules :=
  if r.types = 0 then r
  else
    let left := if bit = 0 ∨ r.types &&& bit = 0 then 0 else r.types &&& ~~~bit
    { (if left = 0 then r.forget else r) with types := left }

def grant (r : Rules) (agentId : BytesN32) (policy : Bytes) : Rules :=
  { r with policies := Function.update r.policies agentId (some policy) }

def revoke (r : Rules) (agentId : BytesN32) : Rules :=
  { r with
    policies := Function.update r.policies agentId none
    revoked := Function.update r.revoked agentId true }

end Rules

/-- The half an install names, and the targets it pins. -/
def installed (data : Bytes) : Check PolicyError (Uint256 × List EvmAddress) := do
  let args ← installArgs data
  let bit ← typeBit args.1
  if args.1 = MODULE_TYPE_VALIDATOR ∧ 0 < args.2.length then do
    let targets ← Check.expectTrap (decodeTargets args.2) .callFailed
    pure (bit, targets)
  else pure (bit, [])

/-- What an accepted call makes of its sender's rules. -/
def Rules.after (r : Rules) : Entry → Rules
  | .onInstall data =>
    match installed data with
    | .ok (bit, targets) => r.install bit targets
    | .error _ => r
  | .onUninstall data =>
    match uninstallBit data with
    | .ok bit => r.uninstall bit
    | .error _ => r
  | .setTargets targets allowed => r.pin targets allowed
  | .setAgentPolicy agentId policy => r.grant agentId policy
  | .revokeAgent agentId => r.revoke agentId
  | _ => r

/-- The rows of one account that carry its rules. -/
structure RuleRows where
  epoch : Uint256
  types : Uint256
  revoked : BytesN32 → Bool
  fingerprint : BytesN32 → BytesN32
  version : BytesN32 → Uint256
  policyMeta : BytesN32 → PolicyMeta
  flag : BytesN32 → Bool
  agentLimit : BytesN32 → TokenLimitRow

def Storage.rulesFor (account : EvmAddress) (s : Storage) : RuleRows where
  epoch := s.epoch account
  types := s.installedTypes account
  revoked agentId := s.revoked agentId account
  fingerprint key := s.fingerprint key account
  version key := s.version key account
  policyMeta key := s.policyMeta key account
  flag key := s.flag key account
  agentLimit key := s.agentLimit key account

/-- Every key of the list is given the value. -/
def setEach {V : Type} (m : BytesN32 → V) (keys : List BytesN32) (value : V) : BytesN32 → V :=
  fun key => if key ∈ keys then value else m key

namespace RuleRows

variable (P : Primitives) (rows : RuleRows)

def pinned (targets : List EvmAddress) (allowed : Bool) : RuleRows :=
  { rows with flag := setEach rows.flag (targets.map (targetKey P rows.epoch)) allowed }

def metaOf (d : AgentPolicyCodec.Decoded) : PolicyMeta where
  settlementSigner := d.settlementSigner
  validUntil := d.validUntil
  adScopeAll := d.adScopeAll
  actionId := d.actionId

def limitOf (row : AgentPolicyCodec.TokenRow) : TokenLimitRow where
  maxPerOrder := row.maxPerOrder
  capacity := row.capacity
  refillPerSecond := row.refillPerSecond

section Written

variable {P rows} {agentId : BytesN32} {policy : Bytes} {d : AgentPolicyCodec.Decoded} {version : Uint256}

end Written

/-- An agent revoked. -/
def killed (agentId : BytesN32) : RuleRows :=
  { rows with
    fingerprint := Function.update rows.fingerprint (agentKey P rows.epoch agentId) 0
    revoked := Function.update rows.revoked agentId true }

section Killed

variable {P rows} {agentId : BytesN32}

end Killed

end RuleRows

/-! ## What each call does to them -/

/-- The sender's rows are now `rows`, and nobody else's changed. -/
structure Turns (cx : Context) (s s' : Storage) (rows : RuleRows) : Prop where
  own : s'.rulesFor cx.msg.sender = rows
  others : ∀ account, account ≠ cx.msg.sender → s'.rulesFor account = s.rulesFor account

section Specs

variable {H : Host} {cx : Context} {s s' s'' : Storage} {rows rows' : RuleRows}

theorem Turns.refl : Turns cx s s (s.rulesFor cx.msg.sender) := ⟨rfl, fun _ _ => rfl⟩

theorem Turns.trans (first : Turns cx s s' rows) (second : Turns cx s' s'' rows') :
    Turns cx s s'' rows' :=
  ⟨second.own, fun account h => (second.others account h).trans (first.others account h)⟩

end Specs

/-! ## What leaves them alone -/

section Frames

variable {ν : Type} {g : Storage → ν} {H : Host} {cx : Context} {ctx : WalkCtx} {account : EvmAddress}

open Tx (Frames)

end Frames

end AgentPolicy
end ProofBridge
