import ProofBridge.AgentPolicy.Calldata

/-!
# The keys of the policy module's rows

Every row of the module is `key => account => value`, and the key is a hash that carries the install
epoch, the agent, and for what a policy wrote its version. A reader takes a row by hashing what is
current, so a row of an earlier epoch or version is never asked for again. `Names` are the words a run
speaks of; `CollisionFree` says the hash keeps apart what the module hashes for them.
-/

namespace ProofBridge
namespace AgentPolicy

open ContractLib Evm
open Eip712 (concat)

/-! ## Keys -/

/-- `abi.encode(key, label, value)`, where the label is a string. -/
def labelled (key : BytesN32) (label : String) (value : BytesN32) : Bytes :=
  concat [key, 0x60, value, BitVec.ofNat 256 (bytesOf label).length]
    ++ Abi.padRight (bytesOf label)

section Keys

variable (P : Primitives)

def agentKey (e : Uint256) (agentId : BytesN32) : BytesN32 := P.keccak256 (concat [e, agentId])

def versionKey (aKey : BytesN32) (version : Uint256) : BytesN32 :=
  P.keccak256 (concat [aKey, version])

def orderTokenKey (vKey token : BytesN32) : BytesN32 := P.keccak256 (labelled vKey "orderToken" token)

def adKey (vKey adIdHash : BytesN32) : BytesN32 := P.keccak256 (labelled vKey "ad" adIdHash)

def tokenKey (vKey token : BytesN32) : BytesN32 := P.keccak256 (labelled vKey "token" token)

def targetKey (e : Uint256) (target : EvmAddress) : BytesN32 :=
  P.keccak256 (labelled e "target" (toBytes32 target))

def ceilKey (e : Uint256) (token : BytesN32) : BytesN32 := P.keccak256 (labelled e "ceiling" token)

/-- `gate.proofKey`. -/
def proofKey (vKey : BytesN32) (hookInstalls : Uint256) : BytesN32 :=
  P.keccak256 (labelled vKey "hook" hookInstalls)

def PENDING_NAMESPACE : BytesN32 := P.keccak256 (bytesOf "ProofBridge.AgentPolicy.pending")

/-- The transient slot of what a bucket was asked for in this transaction. -/
def pendingSlot (account : EvmAddress) (key : BytesN32) : BytesN32 :=
  P.keccak256 (concat [toBytes32 account, P.keccak256 (concat [PENDING_NAMESPACE P, key])])

end Keys

/-! ## What is hashed -/

/-- What was hashed under a label says which label, and what for. -/
theorem labelled_inj {key key' value value' : BytesN32} {label label' : String}
    (h : labelled key label value = labelled key' label' value') :
    key = key' ∧ value = value' ∧ BitVec.ofNat 256 (bytesOf label).length
      = BitVec.ofNat 256 (bytesOf label').length := by
  have hwords := (List.append_inj h (by rw [Eip712.length_concat, Eip712.length_concat]; rfl)).1
  have hwords := Eip712.concat_injective hwords
  simp only [List.cons.injEq, and_true, true_and] at hwords
  exact hwords

/-- The words a run speaks of. -/
structure Names where
  epochs : Set Uint256
  agents : Set BytesN32
  versions : Set Uint256
  hookInstalls : Set Uint256
  tokens : Set BytesN32
  orderTokens : Set BytesN32
  adIdHashes : Set BytesN32
  targets : Set EvmAddress

/-- What the module hashes for them. -/
inductive Names.Hashed (N : Names) (P : Primitives) : Bytes → Prop
  | agent {e agentId} (he : e ∈ N.epochs) (hagent : agentId ∈ N.agents) :
    Hashed N P (concat [e, agentId])
  | target {e target} (he : e ∈ N.epochs) (htarget : target ∈ N.targets) :
    Hashed N P (labelled e "target" (toBytes32 target))
  | ceiling {e token} (he : e ∈ N.epochs) (htoken : token ∈ N.tokens) :
    Hashed N P (labelled e "ceiling" token)
  | version {e agentId version} (he : e ∈ N.epochs) (hagent : agentId ∈ N.agents)
    (hversion : version ∈ N.versions) : Hashed N P (concat [agentKey P e agentId, version])
  | token {e agentId version token} (he : e ∈ N.epochs) (hagent : agentId ∈ N.agents)
    (hversion : version ∈ N.versions) (htoken : token ∈ N.tokens) :
    Hashed N P (labelled (versionKey P (agentKey P e agentId) version) "token" token)
  | orderToken {e agentId version token} (he : e ∈ N.epochs) (hagent : agentId ∈ N.agents)
    (hversion : version ∈ N.versions) (htoken : token ∈ N.orderTokens) :
    Hashed N P (labelled (versionKey P (agentKey P e agentId) version) "orderToken" token)
  | ad {e agentId version hash} (he : e ∈ N.epochs) (hagent : agentId ∈ N.agents)
    (hversion : version ∈ N.versions) (hhash : hash ∈ N.adIdHashes) :
    Hashed N P (labelled (versionKey P (agentKey P e agentId) version) "ad" hash)
  | hook {e agentId version installs} (he : e ∈ N.epochs) (hagent : agentId ∈ N.agents)
    (hversion : version ∈ N.versions) (hinstalls : installs ∈ N.hookInstalls) :
    Hashed N P (labelled (versionKey P (agentKey P e agentId) version) "hook" installs)

/-- No two of them have one hash. -/
def CollisionFree (P : Primitives) (N : Names) : Prop := Set.InjOn P.keccak256 {b | N.Hashed P b}

end AgentPolicy
end ProofBridge
