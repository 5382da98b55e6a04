import ProofBridge.Core.Keys
import ProofBridge.Lib.Map
import ProofBridge.Lib.Run

/-!
# The registrar

The home-chain half of registration by proof: an account approves a registration elsewhere under its
own authorization, and the registrar appends it to the home chain's tree as a `REGISTERED` leaf. The
leaf names the destination, so it is good for one registry.
-/

namespace ProofBridge
namespace Registrar

open ContractLib

inductive RegistrarError
  | alreadyInitialized
  | notInitialized
  | appendFailed
  | staleEpoch
  deriving DecidableEq, Repr

inductive RegistrarEvent
  | initialized (merkleManager : Address)
  | registrationLeaf (account blsCommitment : BytesN32) (epoch : U64) (dstChainId : U128)
      (dstRegistryId subject : BytesN32)
  deriving DecidableEq, Repr

/-- What the registrar calls. -/
structure Tree (Y : Type) where
  /-- `try_append_order_hash` on the Merkle manager answered true. -/
  appendOrderHash : Y → Env → (merkleManager manager : Address) → BytesN32 → ℕ → Option Y

structure State where
  init : Bool
  merkleManager : Option Address
  /-- The lowest epoch an account's next leaf may carry. -/
  next : Map BytesN32 ℕ
  published : List RegistrarEvent

/-- The registrar and everything around it. -/
structure Chain (Y : Type) where
  state : State
  outside : Y

def State.fresh : State where
  init := false
  merkleManager := none
  next := ∅
  published := []

def Chain.fresh {Y : Type} (y : Y) : Chain Y where
  state := .fresh
  outside := y

/-- `next_epoch`. -/
def State.nextEpoch (s : State) (account : BytesN32) : ℕ := (s.next.get? account).getD 0

variable {Y : Type}

abbrev setState (f : State → State) : Tx RegistrarError (Chain Y) Unit :=
  Tx.modify fun c => { c with state := f c.state }

abbrev publish (e : RegistrarEvent) : Tx RegistrarError (Chain Y) Unit :=
  setState fun s => { s with published := e :: s.published }

def initializeContract (merkleManager : Address) : Tx RegistrarError (Chain Y) Unit := do
  let c ← Tx.read
  Tx.require (c.state.init = false) .alreadyInitialized
  setState fun s => { s with init := true, merkleManager := some merkleManager }
  publish (.initialized merkleManager)

/-- Append the registration leaf of `account`, which authorizes it. -/
def registerLeaf (T : Tree Y) (H : Host) (env : Env) (account : Address) (blsCommitment : BytesN32)
    (epoch : U64) (dstChainId : U128) (dstRegistryId : BytesN32) :
    Tx RegistrarError (Chain Y) BytesN32 := do
  let c ← Tx.read
  let merkleManager ← Tx.expect c.state.merkleManager .notInitialized
  Tx.demand (env.authorized account = true) .unauthorized
  let account32 := addressToBytes32 account
  Tx.require (c.state.nextEpoch account32 ≤ epoch.toNat) .staleEpoch
  -- the last epoch has no next one
  Tx.require (epoch.toNat + 1 < 2 ^ 64) .staleEpoch
  setState fun s => { s with next := s.next.set account32 (epoch.toNat + 1) }
  let subject := registrationSubject H dstChainId dstRegistryId account32 blsCommitment epoch
  let y ← Tx.expect (T.appendOrderHash c.outside (env.inside H.address) merkleManager H.address
    subject LEAF_DOMAIN_REGISTERED) .appendFailed
  Tx.modify fun c => { c with outside := y }
  publish (.registrationLeaf account32 blsCommitment epoch dstChainId dstRegistryId subject)
  pure subject

/-- The entry points that change state, with their arguments. -/
inductive Call
  | initializeContract (merkleManager : Address)
  | registerLeaf (account : Address) (blsCommitment : BytesN32) (epoch : U64) (dstChainId : U128)
      (dstRegistryId : BytesN32)
  deriving DecidableEq, Repr

inductive Ret
  | unit
  | subject (s : BytesN32)
  deriving DecidableEq, Repr

/-- Run a call. -/
def exec (T : Tree Y) (H : Host) (env : Env) : Call → Tx RegistrarError (Chain Y) Ret
  | .initializeContract merkleManager =>
    Tx.answer (fun _ => .unit) (initializeContract merkleManager)
  | .registerLeaf account blsCommitment epoch dstChainId dstRegistryId =>
    Tx.answer .subject (registerLeaf T H env account blsCommitment epoch dstChainId dstRegistryId)

/-- The registrar with its host; `outside` is what may happen around it. -/
def system (T : Tree Y) (H : Host) (outside : Y → Y → Prop) :
    System RegistrarError (Chain Y) (Env × Call) Ret where
  call t := exec T H t.1 t.2
  admits _ _ := True
  outside c c' := ∃ y, outside c.outside y ∧ c' = { c with outside := y }

end Registrar
end ProofBridge
