import ProofBridge.Core.Types

/-!
# The 24-hour delay on admin setters

A timelocked setter is its own execute. Before activation it is the admin's, instantly. After
activation it runs only when exactly this call was proposed at least `DELAY` seconds ago and at
most `GRACE` after that, in the current admin epoch, and then anyone may call it; the proposal is
consumed. A brake records its time under a key, and a proposal on that key made at or before the
brake can never run.
-/

namespace ProofBridge

open ContractLib

/-- The minimum time between a proposal and its execution: 24 hours. -/
def DELAY : ℕ := 24 * 60 * 60

/-- How long a ripe proposal stays executable: 14 days. -/
def GRACE : ℕ := 14 * 24 * 60 * 60

/-- The timelock's own storage, and what it has published. -/
structure Timelock where
  /-- The bypass is closed. One-way. -/
  active : Bool
  /-- The admin epoch, bumped on every accepted handover. -/
  epoch : ℕ
  /-- Pending proposals: `id -> (eta, epoch)`. -/
  proposals : Map BytesN32 (ℕ × ℕ)
  /-- When a brake on a key was last pulled. -/
  brakes : Map BytesN32 ℕ
  published : List Event

namespace Timelock

def fresh : Timelock where
  active := false
  epoch := 0
  proposals := ∅
  brakes := ∅
  published := []

abbrev publish (e : Event) : Tx Fault Timelock Unit :=
  Tx.modify fun t => { t with published := e :: t.published }

/-- A new admin starts with no pending proposals. -/
def bumpEpoch : Tx Fault Timelock Unit := do
  let t ← Tx.read
  let next ← Tx.lift (Check.add 32 t.epoch 1)
  Tx.modify fun t => { t with epoch := next }

/-- The earliest execution time of a proposal that can still run; 0 = none. -/
def eta (env : Env) (id : BytesN32) (t : Timelock) : Check Fault ℕ :=
  match t.proposals.get? id with
  | some (ripe, e) =>
    if e = t.epoch then do
      let last ← Check.add 64 ripe GRACE
      if env.now ≤ last then pure ripe else pure 0
    else .ok 0
  | none => .ok 0

def setActive (env : Env) : Tx Fault Timelock Unit := do
  Tx.modify fun t => { t with active := true }
  publish (.timelockActivated env.now)

/-- Close the bypass if it is still open. -/
def closeBypass (env : Env) : Tx Fault Timelock Unit := do
  let t ← Tx.read
  if t.active = false then setActive env else pure ()

/-- Close the bypass for good. -/
def activate (env : Env) : Tx Fault Timelock Unit := do
  let t ← Tx.read
  Tx.require (t.active = false) .timelockAlreadyActive
  setActive env

/-- Queue a call. Closes the bypass if still open. -/
def propose (H : Host) (env : Env) (fnName : Symbol) (args : Bytes) :
    Tx Fault Timelock BytesN32 := do
  let args ← Tx.expect (H.argsFromXdr args) .timelockBadArgs
  closeBypass env
  let id := H.actionId fnName args
  let pending ← Tx.view (eta env id)
  Tx.require (pending = 0) .timelockAlreadyProposed
  let ripe ← Tx.lift (Check.add 64 env.now DELAY)
  Tx.modify fun t => { t with proposals := t.proposals.set id (ripe, t.epoch) }
  publish (.actionProposed id ripe fnName)
  pure id

/-- Drop a pending proposal. -/
def cancel (env : Env) (id : BytesN32) : Tx Fault Timelock Unit := do
  let t ← Tx.read
  Tx.require ((t.proposals.get? id).isSome = true) .timelockNotProposed
  Tx.modify fun t => { t with proposals := t.proposals.remove id }
  publish (.actionCancelled id env.now)

/-- Refused when a brake on `key` was pulled at or after the proposal was made. -/
def requireUnbraked (key : Option BytesN32) (ripe : ℕ) (t : Timelock) : Check Fault Unit :=
  match key with
  | none => .ok ()
  | some k =>
    let braked := (t.brakes.get? k).getD 0
    if braked ≠ 0 then do
      let proposed ← Check.sub ripe DELAY
      Check.require (braked < proposed) .timelockCancelledByBrake
    else .ok ()

/-- The gate at the top of a timelocked setter. -/
def gateKeyed (H : Host) (env : Env) (admin : Address) (fnName : Symbol) (args : List Val)
    (key : Option BytesN32) : Tx Fault Timelock Unit := do
  let t ← Tx.read
  if t.active = false then
    requireAuth env admin
  else
    let id := H.actionId fnName args
    let proposal ← Tx.expect (t.proposals.get? id) .timelockNotProposed
    Tx.require (proposal.2 = t.epoch) .timelockNotProposed
    Tx.require (proposal.1 ≤ env.now) .timelockTooEarly
    let last ← Tx.lift (Check.add 64 proposal.1 GRACE)
    Tx.require (env.now ≤ last) .timelockExpired
    Tx.view (requireUnbraked key proposal.1)
    Tx.modify fun t => { t with proposals := t.proposals.remove id }
    publish (.actionExecuted id env.now)

/-- `gate`: no brake names the call. -/
def gate (H : Host) (env : Env) (admin : Address) (fnName : Symbol) (args : List Val) :
    Tx Fault Timelock Unit :=
  gateKeyed H env admin fnName args none

/-- A brake stays instant for the admin and voids every proposal on `key` made up to now; anything
else is gated, keyed by `key`. -/
def gateUnless (H : Host) (env : Env) (admin : Address) (brake : Bool) (fnName : Symbol)
    (args : List Val) (key : BytesN32) : Tx Fault Timelock Unit :=
  if brake = true then do
    requireAuth env admin
    Tx.modify fun t => { t with brakes := t.brakes.set key env.now }
  else gateKeyed H env admin fnName args (some key)

/-! ## What every reachable timelock satisfies -/

/-- No proposal was made before the epoch of time: its delay was added to a time. -/
def Ripe (proposals : Map BytesN32 (ℕ × ℕ)) : Prop :=
  ∀ id ripe epoch, proposals.get? id = some (ripe, epoch) → DELAY ≤ ripe

theorem ripe_empty : Ripe ∅ := by
  intro id ripe epoch h
  simp at h

variable {H : Host} {env : Env} {t : Timelock} {proposals : Map BytesN32 (ℕ × ℕ)}

theorem Ripe.set {id : BytesN32} {ripe epoch : ℕ} (h : Ripe proposals) (hripe : DELAY ≤ ripe) :
    Ripe (proposals.set id (ripe, epoch)) := by
  intro id' ripe' epoch' h'
  rw [Map.get?_set] at h'
  split at h'
  · obtain ⟨rfl, -⟩ := Prod.mk.inj (Option.some.inj h')
    exact hripe
  · exact h id' ripe' epoch' h'

theorem Ripe.remove {id : BytesN32} (h : Ripe proposals) : Ripe (proposals.remove id) := by
  intro id' ripe' epoch' h'
  rw [Map.get?_remove] at h'
  split at h'
  · cases h'
  · exact h id' ripe' epoch' h'

/-! ## What each call does -/

theorem closeBypass_ok {r : Unit × Timelock} (ok : closeBypass env t = .ok r) :
    ∃ published, r.2 = { t with active := true, published } := by
  simp only [closeBypass, Tx.bind_read_ok, Tx.ite_apply] at ok
  split at ok
  · simp only [setActive, Tx.bind_modify_ok, Tx.modify_ok] at ok
    exact ⟨_, by rw [ok]⟩
  · next hactive =>
    rw [Bool.not_eq_false] at hactive
    exact ⟨t.published, by rw [Tx.pure_ok.mp ok, ← hactive]⟩

theorem bumpEpoch_ok {r : Unit × Timelock} (ok : bumpEpoch t = .ok r) :
    r.2 = { t with epoch := t.epoch + 1 } := by
  simp only [bumpEpoch, Tx.bind_read_ok, Tx.bind_lift_ok, Tx.modify_ok, Check.add_ok] at ok
  obtain ⟨_, ⟨-, rfl⟩, rfl⟩ := ok
  rfl

theorem activate_ok {r : Unit × Timelock} (ok : activate env t = .ok r) :
    t.active = false ∧ ∃ published, r.2 = { t with active := true, published } := by
  simp only [activate, setActive, Tx.bind_read_ok, Tx.bind_require_ok, Tx.bind_modify_ok,
    Tx.modify_ok] at ok
  obtain ⟨hactive, rfl⟩ := ok
  exact ⟨hactive, _, rfl⟩

/-- A proposal is queued under the id of exactly its call, in the current epoch. -/
theorem propose_ok {fnName : Symbol} {encoded : Bytes} {r : BytesN32 × Timelock}
    (ok : propose H env fnName encoded t = .ok r) :
    ∃ args published, H.argsFromXdr encoded = some args ∧ r.1 = H.actionId fnName args ∧
      r.2 = { t with
        active := true
        proposals := t.proposals.set (H.actionId fnName args) (env.now + DELAY, t.epoch)
        published } := by
  simp only [propose, Tx.bind_expect_ok] at ok
  obtain ⟨args, hargs, ok⟩ := ok
  rw [Tx.bind_ok] at ok
  obtain ⟨⟨⟩, t₁, hactive, ok⟩ := ok
  obtain ⟨published, ht₁⟩ := closeBypass_ok hactive
  obtain rfl : t₁ = { t with active := true, published } := ht₁
  simp only [Tx.bind_view_ok, Tx.bind_require_ok, Tx.bind_lift_ok, Tx.bind_modify_ok,
    Tx.pure_ok, Check.add_ok] at ok
  obtain ⟨_, -, -, _, ⟨-, rfl⟩, rfl⟩ := ok
  exact ⟨args, _, hargs, rfl, rfl⟩

theorem cancel_ok {id : BytesN32} {r : Unit × Timelock} (ok : cancel env id t = .ok r) :
    ∃ published, r.2 = { t with proposals := t.proposals.remove id, published } := by
  simp only [cancel, Tx.bind_read_ok, Tx.bind_require_ok, Tx.bind_modify_ok,
    Tx.modify_ok] at ok
  obtain ⟨-, rfl⟩ := ok
  exact ⟨_, rfl⟩

/-- What the gate asks of the proposal it consumes. -/
structure Ripened (env : Env) (id : BytesN32) (key : Option BytesN32) (ripe : ℕ) (t : Timelock) :
    Prop where
  pending : t.proposals.get? id = some (ripe, t.epoch)
  reached : ripe ≤ env.now
  fresh : env.now ≤ ripe + GRACE
  unbraked : requireUnbraked key ripe t = .ok ()

/-- Before activation the gate is the admin's; after, it consumes a ripe proposal of its call. -/
theorem gateKeyed_ok {admin : Address} {fnName : Symbol} {args : List Val}
    {key : Option BytesN32} {r : Unit × Timelock}
    (ok : gateKeyed H env admin fnName args key t = .ok r) :
    t.active = false ∧ env.authorized admin = true ∧ r.2 = t ∨
      t.active = true ∧ ∃ ripe published, Ripened env (H.actionId fnName args) key ripe t ∧
        r.2 = { t with
          proposals := t.proposals.remove (H.actionId fnName args), published } := by
  simp only [gateKeyed, Tx.bind_read_ok, Tx.ite_apply] at ok
  split at ok
  · next hactive =>
    simp only [requireAuth, Tx.demand_ok] at ok
    exact .inl ⟨hactive, ok.1, by rw [ok.2]⟩
  · next hactive =>
    rw [Bool.not_eq_false] at hactive
    simp only [Tx.bind_expect_ok, Tx.bind_require_ok, Tx.bind_lift_ok, Tx.bind_view_ok,
      Tx.bind_modify_ok, Tx.modify_ok, Check.add_ok] at ok
    obtain ⟨⟨ripe, epoch⟩, hpending, rfl, hreached, _, ⟨-, rfl⟩, hfresh, ⟨⟩, hunbraked, rfl⟩ := ok
    exact .inr ⟨hactive, ripe, _, ⟨hpending, hreached, hfresh, hunbraked⟩, rfl⟩

/-- A brake records its time and touches no proposal. -/
theorem gateUnless_brake_ok {admin : Address} {fnName : Symbol} {args : List Val} {key : BytesN32}
    {r : Unit × Timelock} (ok : gateUnless H env admin true fnName args key t = .ok r) :
    env.authorized admin = true ∧ r.2 = { t with brakes := t.brakes.set key env.now } := by
  unfold gateUnless requireAuth at ok
  rw [if_pos rfl] at ok
  simp only [Tx.bind_demand_ok, Tx.modify_ok] at ok
  exact ⟨ok.1, by rw [ok.2]⟩

/-- A proposal made after every brake on its key: what `requireUnbraked` lets through. -/
theorem requireUnbraked_ok {key : BytesN32} {ripe braked : ℕ}
    (ok : requireUnbraked (some key) ripe t = .ok ()) (h : t.brakes.get? key = some braked) :
    braked = 0 ∨ braked < ripe - DELAY := by
  simp only [requireUnbraked, h, Option.getD_some] at ok
  split at ok
  · simp only [Check.bind_ok, Check.sub_ok, Check.require_ok] at ok
    obtain ⟨proposed, ⟨-, hproposed⟩, hlt⟩ := ok
    rw [hproposed] at hlt
    exact .inr hlt
  · next hzero => exact .inl (not_not.mp hzero)

/-! ## No proposal predates the delay -/

theorem bumpEpoch_proposals {r : Unit × Timelock} (ok : bumpEpoch t = .ok r) :
    r.2.proposals = t.proposals := by
  rw [bumpEpoch_ok ok]

theorem activate_proposals {r : Unit × Timelock} (ok : activate env t = .ok r) :
    r.2.proposals = t.proposals := by
  obtain ⟨-, _, hr⟩ := activate_ok ok
  rw [hr]

theorem propose_proposals {fnName : Symbol} {args : Bytes} {r : BytesN32 × Timelock}
    (ok : propose H env fnName args t = .ok r) :
    ∃ epoch, r.2.proposals = t.proposals.set r.1 (env.now + DELAY, epoch) := by
  obtain ⟨args', _, -, hid, hr⟩ := propose_ok ok
  exact ⟨t.epoch, by rw [hr, hid]⟩

theorem cancel_proposals {id : BytesN32} {r : Unit × Timelock}
    (ok : cancel env id t = .ok r) : r.2.proposals = t.proposals.remove id := by
  obtain ⟨_, hr⟩ := cancel_ok ok
  rw [hr]

/-- The gate consumes the proposal it ran under, or touches none. -/
theorem gateKeyed_proposals {admin : Address} {fnName : Symbol} {args : List Val}
    {key : Option BytesN32} {r : Unit × Timelock}
    (ok : gateKeyed H env admin fnName args key t = .ok r) :
    r.2.proposals = t.proposals ∨ ∃ id, r.2.proposals = t.proposals.remove id := by
  rcases gateKeyed_ok ok with ⟨-, -, hr⟩ | ⟨-, _, _, -, hr⟩
  · exact .inl (by rw [hr])
  · exact .inr ⟨_, by rw [hr]⟩

theorem gateUnless_proposals {admin : Address} {brake : Bool} {fnName : Symbol} {args : List Val}
    {key : BytesN32} {r : Unit × Timelock}
    (ok : gateUnless H env admin brake fnName args key t = .ok r) :
    r.2.proposals = t.proposals ∨ ∃ id, r.2.proposals = t.proposals.remove id := by
  cases brake with
  | true => exact .inl (by rw [(gateUnless_brake_ok ok).2])
  | false => exact gateKeyed_proposals ok

theorem requireUnbraked_safe {key : Option BytesN32} {ripe : ℕ} (h : DELAY ≤ ripe) :
    (requireUnbraked key ripe t).Safe .underflow := by
  unfold requireUnbraked
  split
  · exact Check.safe_ok
  · simp only [Check.safe_ite, Check.safe_bind, Check.safe_sub, Check.safe_require, Check.safe_ok]
    exact ⟨fun _ => ⟨fun _ => h, fun _ _ => trivial⟩, fun _ => trivial⟩

theorem gateKeyed_safe {admin : Address} {fnName : Symbol} {args : List Val}
    {key : Option BytesN32} (h : Ripe t.proposals) :
    Tx.Safe .underflow (gateKeyed H env admin fnName args key) t := by
  unfold gateKeyed
  simp only [Tx.safe_bind_read, Tx.safe_ite, Tx.safe_demand, Tx.safe_bind_expect,
    Tx.safe_bind_require, Tx.safe_bind_lift, Tx.safe_bind_view, Tx.safe_bind_modify,
    Tx.safe_modify, Check.safe_add, reduceCtorEq, false_implies, true_and, implies_true, and_true]
  intro _ proposal hproposal _ _ _ _ _
  exact requireUnbraked_safe (h _ _ _ hproposal)

theorem gateUnless_safe {admin : Address} {brake : Bool} {fnName : Symbol} {args : List Val}
    {key : BytesN32} (h : Ripe t.proposals) :
    Tx.Safe .underflow (gateUnless H env admin brake fnName args key) t := by
  unfold gateUnless
  rw [Tx.safe_ite]
  refine ⟨fun _ => ?_, fun _ => gateKeyed_safe h⟩
  simp only [Tx.safe_bind_demand, Tx.safe_modify, reduceCtorEq, false_implies, implies_true,
    and_true]

theorem eta_safe {id : BytesN32} : (eta env id t).Safe .underflow := by
  unfold eta
  split
  · rw [Check.safe_ite]
    refine ⟨fun _ => ?_, fun _ => Check.safe_ok⟩
    simp [Check.safe_bind]
  · exact Check.safe_ok

theorem propose_safe {fnName : Symbol} {args : Bytes} :
    Tx.Safe .underflow (propose H env fnName args) t := by
  unfold propose
  rw [Tx.safe_bind_expect]
  intro args' _
  rw [Tx.safe_bind]
  constructor
  · unfold closeBypass setActive
    simp
  · intro _ t₁ _
    simp only [Tx.safe_bind_view, Tx.safe_bind_require, Tx.safe_bind_lift, Tx.safe_bind_modify,
      Tx.safe_pure, Check.safe_add, eta_safe, reduceCtorEq, false_implies, implies_true, and_self]

theorem cancel_safe {id : BytesN32} : Tx.Safe .underflow (cancel env id) t := by
  unfold cancel
  simp

theorem activate_safe : Tx.Safe .underflow (activate env) t := by
  unfold activate setActive
  simp

theorem bumpEpoch_safe : Tx.Safe .underflow bumpEpoch t := by
  unfold bumpEpoch
  simp

end Timelock
end ProofBridge
