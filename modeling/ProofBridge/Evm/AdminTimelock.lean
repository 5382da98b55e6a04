import ProofBridge.Evm.EscrowAdmin

/-!
# The admin of an EVM contract

`TwoStepAdmin` with `AdminTimelock`, over the storage they own: who administers the contract, who is
nominated, and the timelock. A contract that inherits them runs these on its own storage; the
escrows' are `EscrowAdmin`.
-/

namespace ProofBridge
namespace Evm

open ContractLib

/-- What `TwoStepAdmin` and `AdminTimelock` store. -/
structure AdminTimelock where
  admin : EvmAddress
  /-- Zero: nobody is nominated. -/
  pendingAdmin : EvmAddress
  timelock : Timelock.State

namespace AdminTimelock

def deployed (admin : EvmAddress) : AdminTimelock where
  admin := admin
  pendingAdmin := 0
  timelock := .fresh

abbrev onTimelock {α : Type} (x : Tx AdminError Timelock.State α) : Tx AdminError AdminTimelock α :=
  Tx.zoom AdminTimelock.timelock (fun s t => { s with timelock := t }) id x

variable (P : Primitives) (msg : Message)

def onlyAdmin : Tx AdminError AdminTimelock Unit := do
  let s ← Tx.read
  Tx.require (msg.sender = s.admin) .notAdmin

/-- Nominate the next admin; zero withdraws a nomination. -/
def transferAdmin (successor : EvmAddress) : Tx AdminError AdminTimelock Unit := do
  onlyAdmin msg
  let s ← Tx.read
  Tx.require (successor ≠ s.admin) (.invalidAdmin successor)
  Tx.modify fun s => { s with pendingAdmin := successor }

/-- The nominee takes over; the handover voids the old admin's pending proposals. -/
def acceptAdmin : Tx AdminError AdminTimelock Unit := do
  let s ← Tx.read
  Tx.require (msg.sender = s.pendingAdmin) .notPendingAdmin
  Tx.modify fun s => { s with admin := msg.sender, pendingAdmin := 0 }
  onTimelock EscrowAdmin.bumpEpoch

def activateTimelock : Tx AdminError AdminTimelock Unit := do
  onlyAdmin msg
  onTimelock Timelock.activate

def proposeAction (data : Bytes) : Tx AdminError AdminTimelock Unit := do
  onlyAdmin msg
  onTimelock (Timelock.propose P msg data)

def cancelAction (id : BytesN32) : Tx AdminError AdminTimelock Unit := do
  onlyAdmin msg
  onTimelock (Timelock.cancel id)

/-- Before activation the admin; after, a ripe proposal of this exact calldata, from anyone. -/
def timelocked (key : BytesN32) : Tx AdminError AdminTimelock Unit := do
  let s ← Tx.read
  if s.timelock.active = false then
    Tx.require (msg.sender = s.admin) .notAdmin
  else
    onTimelock (Timelock.consume msg (P.keccak256 msg.data) key)

/-- A brake stays instant for the admin and records its time under `key`. -/
def timelockedUnless (brake : Bool) (key : BytesN32) : Tx AdminError AdminTimelock Unit := do
  if brake = true then
    onlyAdmin msg
    onTimelock (Tx.modify fun t => { t with brakedAt := t.brakedAt.set key msg.timestamp })
  else timelocked P msg key

@[simp] theorem onlyAdmin_ok {msg : Message} {s : AdminTimelock} {r : Unit × AdminTimelock} :
    onlyAdmin msg s = .ok r ↔ msg.sender = s.admin ∧ r = ((), s) := by
  rw [onlyAdmin, Tx.bind_read_ok, Tx.require_ok]

/-- A setter's gate leaves the admin where it was. -/
theorem timelocked_admin {P : Primitives} {msg : Message} {key : BytesN32} {s s' : AdminTimelock}
    (ok : timelocked P msg key s = .ok ((), s')) : s'.admin = s.admin := by
  rw [timelocked, Tx.bind_read_ok, Tx.ite_apply] at ok
  split at ok
  · rw [(Prod.mk.inj (Tx.require_ok.mp ok).2).2]
  · obtain ⟨_, timelock, -, hs'⟩ := Tx.zoom_ok.mp ok
    rw [(Prod.mk.inj hs').2]

theorem timelockedUnless_admin {P : Primitives} {msg : Message} {brake : Bool} {key : BytesN32}
    {s s' : AdminTimelock} (ok : timelockedUnless P msg brake key s = .ok ((), s')) :
    s'.admin = s.admin := by
  cases brake with
  | false => exact timelocked_admin ok
  | true =>
    rw [timelockedUnless, if_pos rfl, Tx.bind_ok] at ok
    obtain ⟨_, s₁, hadmin, hbrake⟩ := ok
    obtain ⟨_, timelock, -, hs'⟩ := Tx.zoom_ok.mp hbrake
    rw [(Prod.mk.inj hs').2, (Prod.mk.inj (onlyAdmin_ok.mp hadmin).2).2]

end AdminTimelock
end Evm
end ProofBridge
