import ProofBridge.Evm.AdminTimelock
import ProofBridge.Evm.KeyRegistry

/-!
# The EVM key registry with its admin

The contract as it is deployed: the registry, with `TwoStepAdmin` and `AdminTimelock` over the same
storage. The admin pauses; wiring the guards and turning registration by proof on wait for the
timelock.
-/

namespace ProofBridge
namespace Evm
namespace KeyRegistry

open ContractLib

/-- What the contract reverts with. -/
inductive ContractError
  /-- A refusal of `TwoStepAdmin`, `AdminTimelock` or `Pausable`. -/
  | admin (e : AdminError)
  | registry (e : RegistryError)
  | zeroAdmin
  | badEnv
  | proofRegistrationRefsUnset
  deriving DecidableEq

/-- The contract's storage. -/
structure Contract (Y : Type) where
  access : AdminTimelock
  registry : Registry Y

namespace Contract

variable {Y : Type}

abbrev onAccess {α : Type} (x : Tx AdminError AdminTimelock α) : Tx ContractError (Contract Y) α :=
  Tx.zoom Contract.access (fun s access => { s with access }) .admin x

abbrev onRegistry {α : Type} (x : Tx RegistryError (Registry Y) α) :
    Tx ContractError (Contract Y) α :=
  Tx.zoom Contract.registry (fun s registry => { s with registry }) .registry x

abbrev setSettings (f : Settings → Settings) : Tx ContractError (Contract Y) Unit :=
  Tx.modify fun s => { s with registry := { s.registry with settings := f s.registry.settings } }

/-- Nothing wired, nobody registered. -/
def unwired : Settings where
  paused := false
  positionGuards := []
  rootAnchor := 0
  proofVerifier := 0
  proofSources := []
  proofRegistrationEnabled := false

/-- Before the constructor has run. -/
def blank (y : Y) : Contract Y where
  access := .deployed 0
  registry := .deployed unwired y

/-- `constructor`. -/
def construct (admin : EvmAddress) (env : Bytes) : Tx ContractError (Contract Y) Unit := do
  Tx.require (admin ≠ 0) .zeroAdmin
  Tx.require (env ∈ [ascii "local", ascii "testnet", ascii "mainnet"]) .badEnv
  Tx.modify fun s => { s with access := .deployed admin }

section Admin

variable (P : Primitives) (H : Host) (hasCode : EvmAddress → Bool) (msg : Message)

/-- `_pause`: refused while paused. -/
def pause : Tx ContractError (Contract Y) Unit := do
  onAccess (AdminTimelock.onlyAdmin msg)
  let s ← Tx.read
  Tx.require (s.registry.settings.paused = false) (.admin .enforcedPause)
  setSettings fun w => { w with paused := true }

/-- `_unpause`: refused while not paused. -/
def unpause : Tx ContractError (Contract Y) Unit := do
  onAccess (AdminTimelock.onlyAdmin msg)
  let s ← Tx.read
  Tx.require (s.registry.settings.paused = true) (.admin .expectedPause)
  setSettings fun w => { w with paused := false }

def setPositionGuards (guards : List EvmAddress) : Tx ContractError (Contract Y) Unit := do
  onAccess (AdminTimelock.timelocked P msg 0)
  setSettings fun w => { w with positionGuards := guards }

/-- `keccak256(abi.encode(this.setProofRegistration.selector))`. -/
def proofRegistrationKey : BytesN32 :=
  P.keccak256 (Eip712.concat [(0x91306487 : BytesN32) <<< 224])

/-- Enabling or rewiring waits the delay; disabling is a brake. This chain is never a source. -/
def setProofRegistration (anchor verifier : EvmAddress) (sources : List Uint256) (enabled : Bool) :
    Tx ContractError (Contract Y) Unit := do
  onAccess (AdminTimelock.timelockedUnless P msg (!enabled) (proofRegistrationKey P))
  Tx.require (¬(enabled = true ∧
    (hasCode anchor = false ∨ hasCode verifier = false ∨ sources = [])))
    .proofRegistrationRefsUnset
  Tx.require (H.chainId ∉ sources) (.registry (.sourceNotAllowed H.chainId))
  setSettings fun w => { w with
    rootAnchor := anchor
    proofVerifier := verifier
    proofSources := sources
    proofRegistrationEnabled := enabled }

end Admin

end Contract

end KeyRegistry
end Evm
end ProofBridge
