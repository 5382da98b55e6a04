import ProofBridge.AdManager.LedgerRuns
import ProofBridge.DisputeManager.Step

/-!
# An AdManager among its dispute modules

The escrow and the dispute modules of a chain are separate contracts: the escrow calls the module an
order was filed with, anybody calls a module directly, and new modules are deployed at any time.
`World` adds the modules to whatever else is around an escrow, `withModules` is what the escrow then
sees of them, and `system` interleaves the calls of both contracts.
-/

namespace ProofBridge
namespace Disputes

open ContractLib
open AdManager (AdManagerError)
open DisputeManager (DisputeManagerError)

/-- The dispute modules deployed on a chain, by contract id, and everything else there. -/
structure World (R : Type) where
  modules : Map BytesN32 DisputeManager.State
  rest : R

variable {R : Type}

/-- The host, as the contract `id` sees it. -/
def hostAt (H : Host) (id : BytesN32) : Host := { H with contractId := id }

namespace World

/-- The open record the module `id` holds for an order. -/
def record (w : World R) (id orderHash : BytesN32) : Option DisputeRecord :=
  (w.modules.get? id).bind fun state => state.getDispute orderHash

/-- Call an entry point of a module: a contract error comes back by its code, anything else is a
host failure. -/
def invoke {α : Type} (w : World R) (module : Address)
    (x : BytesN32 → Tx DisputeManagerError (DisputeManager.Chain R) α) :
    Except ModuleFailure (α × World R) :=
  match module with
  | .account _ => .error .host
  | .contract id =>
    match w.modules.get? id with
    | none => .error .host
    | some state =>
      match x id { state, outside := w.rest } with
      | .ok (a, c) => .ok (a, { modules := w.modules.set id c.state, rest := c.outside })
      | .error (.error e) => .error (.contractError e.code)
      | .error (.trap _) => .error .host

/-- Read a view of a module. -/
def consult {α : Type} (w : World R) (module : Address) (f : DisputeManager.State → α) :
    Except ModuleFailure α :=
  match module with
  | .account _ => .error .host
  | .contract id =>
    match w.modules.get? id with
    | none => .error .host
    | some state => .ok (f state)

theorem invoke_ok {α : Type} {w w' : World R} {module : Address}
    {x : BytesN32 → Tx DisputeManagerError (DisputeManager.Chain R) α} {a : α}
    (h : w.invoke module x = .ok (a, w')) :
    ∃ id state c, module = .contract id ∧ w.modules.get? id = some state ∧
      x id { state, outside := w.rest } = .ok (a, c) ∧
      w' = { modules := w.modules.set id c.state, rest := c.outside } := by
  unfold invoke at h
  split at h
  · cases h
  · next id =>
    split at h
    · cases h
    · next state hstate =>
      split at h
      · next a c hok =>
        cases h
        exact ⟨id, state, c, rfl, hstate, hok, rfl⟩
      · cases h
      · cases h

theorem consult_ok {α : Type} {w : World R} {module : Address} {f : DisputeManager.State → α}
    {a : α} (h : w.consult module f = .ok a) :
    ∃ id state, module = .contract id ∧ w.modules.get? id = some state ∧ a = f state := by
  unfold consult at h
  split at h
  · cases h
  · next id =>
    split at h
    · cases h
    · next state hstate =>
      cases h
      exact ⟨id, state, rfl, hstate, rfl⟩

theorem consult_of_get? {α : Type} {w : World R} {id : BytesN32} {state : DisputeManager.State}
    (h : w.modules.get? id = some state) (f : DisputeManager.State → α) :
    w.consult (.contract id) f = .ok (f state) := by
  simp only [consult, h]

end World

/-- What the escrow sees: the modules are the dispute contracts deployed here, and everything else
is as `O` has it. -/
def withModules (O : Outside R) (H : Host) : Outside (World R) where
  transfer w env token payer payee amount :=
    (O.transfer w.rest env token payer payee amount).map fun rest => { w with rest }
  balance w := O.balance w.rest
  decimals w := O.decimals w.rest
  appendOrderHash w env merkleManager manager orderHash side :=
    (O.appendOrderHash w.rest env merkleManager manager orderHash side).map fun rest =>
      { w with rest }
  verifyProof w := O.verifyProof w.rest
  isRootValid w := O.isRootValid w.rest
  isAnchored w := O.isAnchored w.rest
  anchorDelay w := O.anchorDelay w.rest
  verifierRegistry w := O.verifierRegistry w.rest
  hasUsableSlot w := O.hasUsableSlot w.rest
  isApprovedMaker w := O.isApprovedMaker w.rest
  slotUsable w := O.slotUsable w.rest
  expiredAt w := O.expiredAt w.rest
  repinApproval w := O.repinApproval w.rest
  openDispute w env module filing :=
    w.invoke module fun id => DisputeManager.openDispute O.toTokens (hostAt H id) env filing
  settleBond w env module settlement := Except.map Prod.snd
    (w.invoke module fun id => DisputeManager.settleBond O.toTokens (hostAt H id) env settlement)
  recordResponse w env module response := Except.map Prod.snd
    (w.invoke module fun _ => DisputeManager.recordResponse env response)
  outcomeOf w env module orderHash := w.consult module (DisputeManager.outcomeOf env orderHash)
  initiatorOf w _ module orderHash := w.consult module (DisputeManager.initiatorOf orderHash)
  challengeDeadlineOf w _ module orderHash :=
    w.consult module (DisputeManager.challengeDeadlineOf orderHash)

/-! ## Both contracts at once -/

/-- A call of the escrow, or of a module. -/
inductive Call
  | escrow (call : AdManager.Call)
  | module (id : BytesN32) (call : DisputeManager.Call)
  deriving DecidableEq

inductive Ret
  | escrow (ret : AdManager.Ret)
  | module (ret : DisputeManager.Ret)
  deriving DecidableEq

/-- The escrow with the modules around it. -/
abbrev Chain (R : Type) := AdManager.Chain (World R)

/-- A call somebody makes to a module directly. -/
def moduleCall (O : Outside R) (H : Host) (env : Env) (id : BytesN32) (call : DisputeManager.Call) :
    Tx (AdManagerError ⊕ DisputeManagerError) (Chain R) DisputeManager.Ret := fun s =>
  match s.core.outside.modules.get? id with
  | none => .error (.trap .callFailed)
  | some state =>
    match DisputeManager.exec O.toTokens (hostAt H id) env call
        { state, outside := s.core.outside.rest } with
    | .ok (ret, c) => .ok (ret, { s with core := { s.core with
        outside := { modules := s.core.outside.modules.set id c.state, rest := c.outside } } })
    | .error e => .error (e.map Sum.inr)

/-- Run a call of either contract. -/
def exec (O : Outside R) (H : Host) (env : Env) :
    Call → Tx (AdManagerError ⊕ DisputeManagerError) (Chain R) Ret
  | .escrow call => Tx.answer .escrow
      (Tx.zoom (fun s : Chain R => s) (fun _ s => s) Sum.inl
        (AdManager.exec (withModules O H) H env call))
  | .module id call => Tx.answer .module (moduleCall O H env id call)

/-- The chain with its host: nobody authorizes as the escrow, anybody may deploy a module, and
`outside` is what may happen to everything else. -/
def system (O : Outside R) (H : Host) (outside : R → R → Prop) :
    System (AdManagerError ⊕ DisputeManagerError) (Chain R) (Env × Call) Ret where
  call t := exec O H t.1 t.2
  admits _ t := t.1.authorized H.address = false
  outside s s' := ∃ w, s' = { s with core := { s.core with outside := w } } ∧
    ((∃ rest, outside s.core.outside.rest rest ∧ w = { s.core.outside with rest }) ∨
      ∃ id, s.core.outside.modules.get? id = none ∧
        w = { s.core.outside with modules := s.core.outside.modules.set id .fresh })

/-- The escrow just deployed, before any module is. -/
def start (rest : R) : Chain R := AdManager.Chain.fresh { modules := ∅, rest }

abbrev History := List ((Env × Call) × Ret)

variable {O : Outside R} {H : Host} {env : Env} {s s' : Chain R} {outside : R → R → Prop}

/-- Everything an accepted call of either contract did. -/
inductive Step (O : Outside R) (H : Host) (env : Env) (s : Chain R) : Call → Ret → Chain R → Prop
  | escrow {call : AdManager.Call} {ret : AdManager.Ret} {s' : Chain R}
      (h : AdManager.Step (withModules O H) H env s call ret s') :
      Step O H env s (.escrow call) (.escrow ret) s'
  | module {id : BytesN32} {call : DisputeManager.Call} {ret : DisputeManager.Ret}
      {state : DisputeManager.State} {c : DisputeManager.Chain R}
      (hstate : s.core.outside.modules.get? id = some state)
      (h : DisputeManager.Step O.toTokens (hostAt H id) env
        { state, outside := s.core.outside.rest } call ret c) :
      Step O H env s (.module id call) (.module ret)
        { s with core := { s.core with
          outside := { modules := s.core.outside.modules.set id c.state, rest := c.outside } } }

theorem step_of_exec {call : Call} {ret : Ret} (ok : exec O H env call s = .ok (ret, s')) :
    Step O H env s call ret s' := by
  cases call with
  | escrow call =>
    obtain ⟨a, ok, rfl⟩ := Tx.answer_ok.mp ok
    obtain ⟨r, s₁, ok, heq⟩ := Tx.zoom_ok.mp ok
    cases heq
    exact .escrow (AdManager.step_of_exec ok)
  | module id call =>
    obtain ⟨a, ok, rfl⟩ := Tx.answer_ok.mp ok
    unfold moduleCall at ok
    split at ok
    · cases ok
    · next state hstate =>
      split at ok
      · next r c hok =>
        cases ok
        exact .module hstate (DisputeManager.step_of_exec hok)
      · cases ok

end Disputes
end ProofBridge
