import Mathlib.Logic.Function.Basic
import ProofBridge.Lib.Run

/-!
# Many systems side by side

A family of contracts that share nothing, one for each index: a call goes to one member and the others
stand still. What ties them is only what is promised of a call in the state all of them are in. A run
of the family is a run of each member (`Run.member`), and a promise is what an invariant over the
family may use.
-/

namespace ContractLib

variable {ι ε σ τ ρ : Type} [DecidableEq ι]

/-- Run one member's call, beside the others' states. -/
def callAt (i : ι) (x : Tx ε σ ρ) : Tx ε (ι → σ) ρ := fun w =>
  match x (w i) with
  | .ok (r, s) => .ok (r, Function.update w i s)
  | .error e => .error e

/-- Every member, each call promised what `promised` says of it in the state of all. -/
def System.family (S : ι → System ε σ τ ρ) (promised : (ι → σ) → ι → τ → Prop) :
    System ε (ι → σ) (ι × τ) ρ where
  call t := callAt t.1 ((S t.1).call t.2)
  admits w t := promised w t.1 t.2 ∧ (S t.1).admits (w t.1) t.2
  outside w w' := ∃ i s, (S i).outside (w i) s ∧ w' = Function.update w i s

/-- What a run accepted of one member. -/
def eventsOf (i : ι) (h : List ((ι × τ) × ρ)) : List (τ × ρ) :=
  h.filterMap fun e => if e.1.1 = i then some (e.1.2, e.2) else none

theorem eventsOf_cons (i j : ι) (t : τ) (r : ρ) (h : List ((ι × τ) × ρ)) :
    eventsOf i (((j, t), r) :: h) = if j = i then (t, r) :: eventsOf i h else eventsOf i h := by
  unfold eventsOf
  rw [List.filterMap_cons]
  by_cases hj : j = i
  · rw [if_pos hj, if_pos hj]
  · rw [if_neg hj, if_neg hj]

theorem callAt_ok {i : ι} {x : Tx ε σ ρ} {w w' : ι → σ} {r : ρ} (ok : callAt i x w = .ok (r, w')) :
    ∃ s, x (w i) = .ok (r, s) ∧ w' = Function.update w i s := by
  unfold callAt at ok
  split at ok
  · next r₁ s hx =>
    cases ok
    exact ⟨s, hx, rfl⟩
  · cases ok

namespace Run

variable {S : ι → System ε σ τ ρ} {promised : (ι → σ) → ι → τ → Prop} {w₀ w : ι → σ}
  {h : List ((ι × τ) × ρ)}

/-- The induction over a run of a family: each event is one of one member's. -/
theorem family_invariant {I : List ((ι × τ) × ρ) → (ι → σ) → Prop} (start : I [] w₀)
    (accepted : ∀ {h w i t r s}, Run (System.family S promised) w₀ h w → I h w →
      promised w i t → (S i).admits (w i) t → (S i).call t (w i) = .ok (r, s) →
      I (((i, t), r) :: h) (Function.update w i s))
    (around : ∀ {h w i s}, Run (System.family S promised) w₀ h w → I h w →
      (S i).outside (w i) s → I h (Function.update w i s))
    (run : Run (System.family S promised) w₀ h w) : I h w := by
  refine run.invariant start ?_ ?_
  · rintro h w ⟨i, t⟩ r w' run ih ⟨hpromised, hadmits⟩ ok
    obtain ⟨s, hok, rfl⟩ := callAt_ok ok
    exact accepted run ih hpromised hadmits hok
  · rintro h w w' run ih ⟨i, s, hmoved, rfl⟩
    exact around run ih hmoved

/-- A run of a family is a run of each member. -/
theorem member (i : ι) (run : Run (System.family S promised) w₀ h w) :
    Run (S i) (w₀ i) (eventsOf i h) (w i) := by
  refine run.family_invariant (I := fun h w => Run (S i) (w₀ i) (eventsOf i h) (w i)) .start ?_ ?_
  · intro h w j t r s _ ih _ hadmits ok
    rw [eventsOf_cons]
    by_cases hj : j = i
    · subst hj
      rw [if_pos rfl, Function.update_self]
      exact ih.accepted hadmits ok
    · rw [if_neg hj, Function.update_of_ne (Ne.symm hj)]
      exact ih
  · intro h w j s _ ih hmoved
    by_cases hj : j = i
    · subst hj
      rw [Function.update_self]
      exact ih.outside hmoved
    · rw [Function.update_of_ne (Ne.symm hj)]
      exact ih

end Run

end ContractLib
