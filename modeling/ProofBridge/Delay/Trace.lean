import ProofBridge.Core.Timelock
import ProofBridge.Lib.Run

/-!
# What a timelock lets through

A contract reaches its timelock only through the calls of `TimelockCall`. The trace lists the ones
a contract made, the newest first, each with the environment it ran in. One slot of the timelock
serves a proposal, its renewal, its cancellation and its execution, so what a slot says is read off
the trace: `Standing` names the proposal that filled it and says that nothing since has ended it.
-/

namespace ProofBridge
namespace Delay

open ContractLib

/-- A call a contract makes to the timelock it carries. `gate` is `gate_keyed`, which `gate` and
`gate_unless` end in; `brake` is a `gate_unless` on a call that is a brake. -/
inductive TimelockCall
  | activate
  | propose (fnName : Symbol) (args : Bytes)
  | cancel (id : BytesN32)
  | bumpEpoch
  | gate (admin : Address) (fnName : Symbol) (args : List Val) (key : Option BytesN32)
  | brake (admin : Address) (fnName : Symbol) (args : List Val) (key : BytesN32)
  deriving DecidableEq

/-- The timelock calls of a contract, the newest first. -/
abbrev Trace := List (Env × TimelockCall)

namespace TimelockCall

def exec (H : Host) (env : Env) : TimelockCall → Tx Fault Timelock Unit
  | activate => Timelock.activate env
  | propose fnName args => Tx.answer (fun _ => ()) (Timelock.propose H env fnName args)
  | cancel id => Timelock.cancel env id
  | bumpEpoch => Timelock.bumpEpoch
  | gate admin fnName args key => Timelock.gateKeyed H env admin fnName args key
  | brake admin fnName args key => Timelock.gateUnless H env admin true fnName args key

/-- The call closes the bypass. -/
def closes : TimelockCall → Bool
  | activate | propose .. => true
  | cancel .. | bumpEpoch | gate .. | brake .. => false

/-- A proposal of `id` stands no longer after the call. -/
def ends (H : Host) (id : BytesN32) : TimelockCall → Bool
  | cancel id' => id' = id
  | bumpEpoch => true
  | gate _ fnName args _ => H.actionId fnName args = id
  | activate | propose .. | brake .. => false

/-- The call is a brake on `key`. -/
def brakes (key : BytesN32) : TimelockCall → Bool
  | brake _ _ _ key' => key' = key
  | activate | propose .. | cancel .. | bumpEpoch | gate .. => false

end TimelockCall

/-- The bypass was closed. -/
def closed (trace : Trace) : Bool := trace.any fun e => e.2.closes

/-- The admin epoch: how often the admin changed. -/
def epochOf (trace : Trace) : ℕ := trace.countP fun e => e.2 = .bumpEpoch

/-- Ledger time never goes back. -/
def Chronological (trace : Trace) : Prop :=
  trace.Pairwise fun later earlier => earlier.1.now ≤ later.1.now

@[simp] theorem closed_cons (e : Env × TimelockCall) (trace : Trace) :
    closed (e :: trace) = (e.2.closes || closed trace) := rfl

theorem epochOf_cons (e : Env × TimelockCall) (trace : Trace) :
    epochOf (e :: trace) = epochOf trace + if e.2 = .bumpEpoch then 1 else 0 := by
  unfold epochOf
  rw [List.countP_cons]
  simp

variable {H : Host} {env : Env} {t t' : Timelock} {trace : Trace} {call : TimelockCall}

/-! ## Where a slot comes from -/

/-- `encoded` was proposed for `fnName` under `id`, and nothing since but a handover has ended it:
`since` is what came after the proposal, `earlier` what came before. -/
structure Queued (H : Host) (id : BytesN32) (fnName : Symbol) (args : List Val) (proposer : Env)
    (since earlier trace : Trace) : Prop where
  split : ∃ encoded, H.argsFromXdr encoded = some args ∧
    trace = since ++ (proposer, .propose fnName encoded) :: earlier
  named : H.actionId fnName args = id
  standing : ∀ e ∈ since, e.2.ends H id = true → e.2 = .bumpEpoch

namespace Queued

variable {id : BytesN32} {fnName : Symbol} {args : List Val} {proposer : Env}
  {since earlier : Trace}

/-- A call that ends nothing of `id`, a handover apart, leaves it queued. -/
theorem cons (h : Queued H id fnName args proposer since earlier trace)
    {e : Env × TimelockCall} (he : e.2.ends H id = true → e.2 = .bumpEpoch) :
    Queued H id fnName args proposer (e :: since) earlier (e :: trace) where
  split := by
    obtain ⟨encoded, hargs, htrace⟩ := h.split
    exact ⟨encoded, hargs, by rw [htrace, List.cons_append]⟩
  named := h.named
  standing := by
    intro e' he'
    rcases List.mem_cons.mp he' with rfl | he'
    · exact he
    · exact h.standing e' he'

end Queued

/-- The slot `(ripe, epoch)` under `id` was filled by a proposal of the trace. -/
def Filled (H : Host) (trace : Trace) (id : BytesN32) (ripe epoch : ℕ) : Prop :=
  ∃ fnName args proposer since earlier, Queued H id fnName args proposer since earlier trace ∧
    ripe = proposer.now + DELAY ∧ epoch = epochOf earlier

theorem Filled.cons {id : BytesN32} {ripe epoch : ℕ} (h : Filled H trace id ripe epoch)
    {e : Env × TimelockCall} (he : e.2.ends H id = true → e.2 = .bumpEpoch) :
    Filled H (e :: trace) id ripe epoch := by
  obtain ⟨fnName, args, proposer, since, earlier, hqueued, hripe, hepoch⟩ := h
  exact ⟨fnName, args, proposer, e :: since, earlier, hqueued.cons he, hripe, hepoch⟩

/-- The timelock is what its trace made of it. -/
structure Tracks (H : Host) (trace : Trace) (t : Timelock) : Prop where
  active : t.active = closed trace
  epoch : t.epoch = epochOf trace
  filled : ∀ id ripe epoch, t.proposals.get? id = some (ripe, epoch) →
    Filled H trace id ripe epoch
  /-- A brake's record is no older than any brake on the key. -/
  braked : ∀ key, ∀ e ∈ trace, e.2.brakes key = true →
    ∃ time, t.brakes.get? key = some time ∧ e.1.now ≤ time

namespace Tracks

theorem fresh : Tracks H [] .fresh where
  active := rfl
  epoch := rfl
  filled := by
    intro id ripe epoch h
    simp [Timelock.fresh] at h
  braked := by simp

/-- A call that ends no proposal and is no brake. -/
theorem kept (h : Tracks H trace t) (hactive : t'.active = (call.closes || t.active))
    (hepoch : t'.epoch = t.epoch + if call = .bumpEpoch then 1 else 0)
    (hproposals : ∀ id slot, t'.proposals.get? id = some slot →
      t.proposals.get? id = some slot ∧ (call.ends H id = true → call = .bumpEpoch))
    (hbrakes : t'.brakes = t.brakes) (hcall : ∀ key, call.brakes key = false) :
    Tracks H ((env, call) :: trace) t' where
  active := by rw [hactive, h.active, closed_cons]
  epoch := by rw [hepoch, h.epoch, epochOf_cons]
  filled := by
    intro id ripe epoch hslot
    obtain ⟨hslot, hends⟩ := hproposals id _ hslot
    exact (h.filled id ripe epoch hslot).cons hends
  braked := by
    intro key e he hbrake
    rcases List.mem_cons.mp he with rfl | he
    · rw [hcall key] at hbrake
      cases hbrake
    · rw [hbrakes]
      exact h.braked key e he hbrake

/-- A slot removed is no slot of another call. -/
theorem removed (h : Tracks H trace t) {id : BytesN32}
    (hactive : t'.active = (call.closes || t.active)) (hepoch : t'.epoch = t.epoch)
    (hproposals : t'.proposals = t.proposals.remove id) (hbrakes : t'.brakes = t.brakes)
    (hbump : call ≠ .bumpEpoch) (hends : ∀ id', call.ends H id' = true → id' = id)
    (hcall : ∀ key, call.brakes key = false) : Tracks H ((env, call) :: trace) t' := by
  refine h.kept hactive (by rw [hepoch, if_neg hbump, Nat.add_zero]) ?_ hbrakes hcall
  intro id' slot hslot
  rw [hproposals, Map.get?_remove] at hslot
  split at hslot
  · cases hslot
  · next hne => exact ⟨hslot, fun h' => absurd (hends id' h') hne⟩

theorem proposed (h : Tracks H trace t) {fnName : Symbol} {encoded : Bytes} {args : List Val}
    (hargs : H.argsFromXdr encoded = some args) (hactive : t'.active = true)
    (hepoch : t'.epoch = t.epoch)
    (hproposals : t'.proposals
      = t.proposals.set (H.actionId fnName args) (env.now + DELAY, t.epoch))
    (hbrakes : t'.brakes = t.brakes) :
    Tracks H ((env, .propose fnName encoded) :: trace) t' where
  active := by rw [hactive, closed_cons, TimelockCall.closes, Bool.true_or]
  epoch := by
    rw [hepoch, h.epoch, epochOf_cons, if_neg (by simp), Nat.add_zero]
  filled := by
    intro id ripe epoch hslot
    rw [hproposals, Map.get?_set] at hslot
    split at hslot
    · next hid =>
      obtain ⟨rfl, rfl⟩ := Prod.mk.inj (Option.some.inj hslot)
      exact ⟨fnName, args, env, [], trace, ⟨⟨encoded, hargs, rfl⟩, hid.symm, by simp⟩, rfl,
        h.epoch⟩
    · exact (h.filled id ripe epoch hslot).cons (by simp [TimelockCall.ends])
  braked := by
    intro key e he hbrake
    rcases List.mem_cons.mp he with rfl | he
    · cases hbrake
    · rw [hbrakes]
      exact h.braked key e he hbrake

/-- A brake is the newest of its key, because ledger time never goes back. -/
theorem brake (h : Tracks H trace t) {admin : Address} {fnName : Symbol} {args : List Val}
    {key : BytesN32} (hclock : ∀ e ∈ trace, e.1.now ≤ env.now) :
    Tracks H ((env, .brake admin fnName args key) :: trace)
      { t with brakes := t.brakes.set key env.now } where
  active := by rw [h.active, closed_cons, TimelockCall.closes, Bool.false_or]
  epoch := by rw [h.epoch, epochOf_cons, if_neg (by simp), Nat.add_zero]
  filled := by
    intro id ripe epoch hslot
    exact (h.filled id ripe epoch hslot).cons (by simp [TimelockCall.ends])
  braked := by
    intro key' e he hbrake
    show ∃ time, (t.brakes.set key env.now).get? key' = some time ∧ _
    rw [Map.get?_set]
    split
    · refine ⟨env.now, rfl, ?_⟩
      rcases List.mem_cons.mp he with rfl | he
      · exact le_rfl
      · exact hclock e he
    · next hne =>
      rcases List.mem_cons.mp he with rfl | he
      · have hkey : key = key' := of_decide_eq_true hbrake
        exact absurd hkey.symm hne
      · exact h.braked key' e he hbrake

/-- One timelock call. -/
theorem step (h : Tracks H trace t) (hclock : ∀ e ∈ trace, e.1.now ≤ env.now)
    (ok : call.exec H env t = .ok ((), t')) : Tracks H ((env, call) :: trace) t' := by
  cases call with
  | activate =>
    obtain ⟨hactive, _, heq⟩ := Timelock.activate_ok ok
    obtain rfl : t' = _ := heq
    exact h.kept rfl rfl (fun id slot hslot => ⟨hslot, by simp [TimelockCall.ends]⟩) rfl
      (fun _ => rfl)
  | propose fnName encoded =>
    obtain ⟨id, ok, -⟩ := Tx.answer_ok.mp ok
    obtain ⟨args, _, hargs, -, heq⟩ := Timelock.propose_ok ok
    obtain rfl : t' = _ := heq
    exact h.proposed hargs rfl rfl rfl rfl
  | cancel id =>
    obtain ⟨_, heq⟩ := Timelock.cancel_ok ok
    obtain rfl : t' = _ := heq
    exact h.removed rfl rfl rfl rfl (by simp) (fun id' hends => (of_decide_eq_true hends).symm)
      (fun _ => rfl)
  | bumpEpoch =>
    obtain rfl : t' = _ := Timelock.bumpEpoch_ok ok
    exact h.kept rfl rfl (fun id slot hslot => ⟨hslot, fun _ => rfl⟩) rfl (fun _ => rfl)
  | gate admin fnName args key =>
    rcases Timelock.gateKeyed_ok ok with ⟨hactive, -, heq⟩ | ⟨hactive, ripe, _, hripened, heq⟩
    · -- before activation no proposal exists, so none is ended
      obtain rfl : t' = t := heq
      refine h.kept rfl rfl (fun id slot hslot => ⟨hslot, ?_⟩) rfl (fun _ => rfl)
      obtain ⟨_, _, _, since, earlier, hqueued, -⟩ := h.filled id slot.1 slot.2 hslot
      obtain ⟨encoded, -, htrace⟩ := hqueued.split
      have hopen : closed trace = false := by rw [← h.active, hactive]
      rw [htrace] at hopen
      simp [closed, TimelockCall.closes] at hopen
    · obtain rfl : t' = _ := heq
      exact h.removed rfl rfl rfl rfl (by simp) (fun id' hends => (of_decide_eq_true hends).symm)
        (fun _ => rfl)
  | brake admin fnName args key =>
    obtain ⟨-, heq⟩ := Timelock.gateUnless_brake_ok ok
    obtain rfl : t' = _ := heq
    exact h.brake hclock

end Tracks

/-! ## What the gate lets through -/

/-- The call a timelock call names: a proposal's, or a gated setter's. -/
def TimelockCall.names (H : Host) : TimelockCall → Option (Symbol × List Val)
  | propose fnName encoded => (H.argsFromXdr encoded).map fun args => (fnName, args)
  | gate _ fnName args _ => some (fnName, args)
  | activate | cancel .. | bumpEpoch | brake .. => none

/-- No two different calls of the trace share an id. -/
def CollisionFree (H : Host) (trace : Trace) : Prop :=
  ∀ e ∈ trace, ∀ e' ∈ trace, ∀ call ∈ e.2.names H, ∀ call' ∈ e'.2.names H,
    H.actionId call.1 call.2 = H.actionId call'.1 call'.2 → call = call'

instance (H : Host) (trace : Trace) : Decidable (CollisionFree H trace) :=
  inferInstanceAs (Decidable (∀ e ∈ trace, ∀ e' ∈ trace, ∀ call ∈ e.2.names H,
    ∀ call' ∈ e'.2.names H, H.actionId call.1 call.2 = H.actionId call'.1 call'.2 → call = call'))

/-- The calls of the trace, made one after another from `t₀`, lead to `t`. -/
inductive Plays (H : Host) (t₀ : Timelock) : Trace → Timelock → Prop
  | start : Plays H t₀ [] t₀
  | made {trace : Trace} {t t' : Timelock} {env : Env} {call : TimelockCall}
      (plays : Plays H t₀ trace t) (ok : call.exec H env t = .ok ((), t')) :
      Plays H t₀ ((env, call) :: trace) t'

namespace Plays

variable {t₀ : Timelock}

/-- Every call of a trace was made on the timelock the rest of the trace left. -/
theorem split {later earlier : Trace} (plays : Plays H t₀ (later ++ (env, call) :: earlier) t) :
    ∃ a b, Plays H t₀ earlier a ∧ call.exec H env a = .ok ((), b) := by
  induction later generalizing t with
  | nil =>
    cases plays with
    | made plays ok => exact ⟨_, _, plays, ok⟩
  | cons e later ih =>
    cases plays with
    | made plays _ => exact ih plays

end Plays

end Delay
end ProofBridge
