import ProofBridge.Delay.Trace

/-!
# A contract that carries the timelock

A `Carrier` says of a contract where it keeps its timelock and which timelock calls each of its
accepted calls makes. Whatever else the contract does, its runs are then runs of the timelock, and
what the timelock promises holds of the contract's setters.
-/

namespace ProofBridge
namespace Delay

open ContractLib

/-- Make timelock calls one after another. -/
def perform (H : Host) (env : Env) : List TimelockCall → Tx Fault Timelock Unit
  | [] => pure ()
  | call :: calls => do
    call.exec H env
    perform H env calls

variable {ε σ τ ρ : Type}

/-- A contract that reaches its timelock through the timelock's own calls alone. -/
structure Carrier (H : Host) (S : System ε σ (Env × τ) ρ) where
  timelock : σ → Timelock
  /-- The timelock calls of an accepted call, in order. -/
  calls : Env → σ → τ → List TimelockCall
  performs : ∀ {env s call r s'}, S.call (env, call) s = .ok (r, s') →
    perform H env (calls env s call) (timelock s) = .ok ((), timelock s')
  kept : ∀ {s s'}, S.outside s s' → timelock s' = timelock s

namespace Carrier

variable {H : Host} {S : System ε σ (Env × τ) ρ}

/-- A run of the contract together with its trace. -/
inductive Traced (C : Carrier H S) (s₀ : σ) : List ((Env × τ) × ρ) → Trace → σ → Prop
  | start : Traced C s₀ [] [] s₀
  | accepted {history : List ((Env × τ) × ρ)} {trace : Trace} {s s' : σ} {env : Env} {call : τ}
      {r : ρ} (traced : Traced C s₀ history trace s) (admitted : S.admits s (env, call))
      (ok : S.call (env, call) s = .ok (r, s')) :
      Traced C s₀ (((env, call), r) :: history)
        (((C.calls env s call).map fun c => (env, c)).reverse ++ trace) s'
  | refused {history : List ((Env × τ) × ρ)} {trace : Trace} {s : σ} {t : Env × τ} {e : Failure ε}
      (traced : Traced C s₀ history trace s) (failed : S.call t s = .error e) :
      Traced C s₀ history trace s
  | outside {history : List ((Env × τ) × ρ)} {trace : Trace} {s s' : σ}
      (traced : Traced C s₀ history trace s) (moved : S.outside s s') :
      Traced C s₀ history trace s'

variable {C : Carrier H S} {s₀ s : σ} {history : List ((Env × τ) × ρ)} {trace : Trace}

/-- Play a script of calls with its trace; one that is refused ends it. -/
def play (C : Carrier H S) : List (Env × τ) → List ((Env × τ) × ρ) × Trace × σ →
    Option (List ((Env × τ) × ρ) × Trace × σ)
  | [], p => some p
  | t :: ts, (history, trace, s) =>
    match S.call t s with
    | .ok (r, s') =>
      play C ts ((t, r) :: history,
        ((C.calls t.1 s t.2).map fun c => (t.1, c)).reverse ++ trace, s')
    | .error _ => none

/-- Every run of the contract has a trace. -/
theorem traced_of_run (run : Run S s₀ history s) : ∃ trace, C.Traced s₀ history trace s := by
  induction run with
  | start => exact ⟨[], .start⟩
  | accepted run admitted ok ih =>
    obtain ⟨trace, traced⟩ := ih
    exact ⟨_, .accepted traced admitted ok⟩
  | refused run failed ih =>
    obtain ⟨trace, traced⟩ := ih
    exact ⟨trace, .refused traced failed⟩
  | outside run moved ih =>
    obtain ⟨trace, traced⟩ := ih
    exact ⟨trace, .outside traced moved⟩

/-! ## Its trace is one of the timelock's -/

theorem plays_of_perform {env : Env} {t₀ t t' : Timelock} {calls : List TimelockCall}
    (plays : Plays H t₀ trace t) (ok : perform H env calls t = .ok ((), t')) :
    Plays H t₀ ((calls.map fun c => (env, c)).reverse ++ trace) t' := by
  induction calls generalizing trace t with
  | nil =>
    cases Tx.pure_ok.mp ok
    exact plays
  | cons call calls ih =>
    obtain ⟨⟨⟩, t₁, hcall, hrest⟩ := Tx.bind_ok.mp ok
    have hplays := ih (plays.made hcall) hrest
    rw [List.map_cons, List.reverse_cons, List.append_assoc]
    exact hplays

namespace Traced

theorem plays (traced : C.Traced s₀ history trace s) :
    Plays H (C.timelock s₀) trace (C.timelock s) := by
  induction traced with
  | start => exact .start
  | accepted traced admitted ok ih => exact plays_of_perform ih (C.performs ok)
  | refused traced failed ih => exact ih
  | outside traced moved ih =>
    rw [C.kept moved]
    exact ih

end Traced

end Carrier

/-! ## What a call makes

The rules by which the timelock calls of a contract call are read off its body. -/

/-- From `s`, an accepted call makes exactly these timelock calls. -/
def Makes (H : Host) (env : Env) (timelock : σ → Timelock) (calls : List TimelockCall) {α : Type}
    (x : Tx ε σ α) (s : σ) : Prop :=
  ∀ r, x s = .ok r → perform H env calls (timelock s) = .ok ((), timelock r.2)

namespace Makes

variable {H : Host} {env : Env} {timelock : σ → Timelock} {calls : List TimelockCall}
  {call : TimelockCall} {α β ε' : Type} {x : Tx ε σ α} {f : α → Tx ε σ β} {s : σ}

/-- What comes before a timelock call may read the state. -/
theorem after (hx : Tx.Frames timelock x)
    (hf : ∀ a s', x s = .ok (a, s') → Makes H env timelock calls (f a) s') :
    Makes H env timelock calls (x >>= f) s := by
  intro r ok
  obtain ⟨a, s', hfirst, hrest⟩ := Tx.bind_ok.mp ok
  rw [← hx s _ hfirst]
  exact hf a s' hfirst r hrest

/-- What comes after the timelock calls leaves the timelock alone. -/
theorem before (hx : Makes H env timelock calls x s) (hf : ∀ a, Tx.Frames timelock (f a)) :
    Makes H env timelock calls (x >>= f) s := by
  intro r ok
  obtain ⟨a, s', hfirst, hrest⟩ := Tx.bind_ok.mp ok
  rw [hf a s' r hrest]
  exact hx _ hfirst

theorem read {f : σ → Tx ε σ β} (hf : Makes H env timelock calls (f s) s) :
    Makes H env timelock calls (Tx.read >>= f) s := hf

/-- One timelock call, run on the timelock the contract keeps. -/
theorem zoom {put : σ → Timelock → σ} {rename : Fault → ε} {y : Tx Fault Timelock α}
    (hy : ∀ a t, y (timelock s) = .ok (a, t) → call.exec H env (timelock s) = .ok ((), t))
    (hput : ∀ t, timelock (put s t) = t) :
    Makes H env timelock [call] (Tx.zoom timelock put rename y) s := by
  intro r ok
  obtain ⟨a, t, hok, rfl⟩ := Tx.zoom_ok.mp ok
  rw [hput t]
  exact Tx.bind_ok.mpr ⟨(), t, hy a t hok, Tx.pure_ok.mpr rfl⟩

theorem answer {g : α → β} (hx : Makes H env timelock calls x s) :
    Makes H env timelock calls (Tx.answer g x) s := by
  intro r ok
  obtain ⟨a, hok, -⟩ := Tx.answer_ok.mp ok
  exact hx _ hok

end Makes

/-- What `gate_unless` makes: a brake, or the gate on its key. -/
def gateUnless (admin : Address) (brake : Bool) (fnName : Symbol) (args : List Val)
    (key : BytesN32) : TimelockCall :=
  if brake = true then .brake admin fnName args key else .gate admin fnName args (some key)

end Delay
end ProofBridge
