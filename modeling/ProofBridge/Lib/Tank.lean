import Mathlib.Algebra.BigOperators.Intervals
import Mathlib.Algebra.Group.Action.Defs
import Mathlib.Algebra.Order.BigOperators.Group.Finset
import Mathlib.Order.Interval.Finset.Nat
import Mathlib.Tactic.Ring

/-!
# Flow out of a tank

A `Tank` is anything that is drawn from and refills: what a state has left at a time, and how fast
that may grow. Whatever is drawn between two times is bounded by what was left at the first one, what
was put in on purpose, and what flowed in since at the rates then in force.
-/

namespace ContractLib

open Finset

/-- What is left in a state at a time, and the rate it grows at. -/
structure Tank (σ : Type) where
  level : σ → ℕ → ℕ
  rate : σ → ℕ
  grows : ∀ s {t t' : ℕ}, t ≤ t' → level s t' ≤ level s t + rate s * (t' - t)

/-- What one event did to a tank. -/
structure Draw where
  time : ℕ
  /-- What was taken. -/
  amount : ℕ
  /-- What was put in. -/
  gain : ℕ
  /-- The rate the event left in force. -/
  rate : ℕ

/-- The rate in force in the second `u`: the one the last event up to it left, or the first one. -/
def rateAt (first : ℕ) : List Draw → ℕ → ℕ
  | [], _ => first
  | d :: draws, u => if d.time ≤ u then d.rate else rateAt first draws u

/-- Events come at non-decreasing times; the newest is the first of the list. -/
def InOrder (draws : List Draw) : Prop := draws.Pairwise fun later earlier => earlier.time ≤ later.time

variable {σ : Type} {T : Tank σ} {s₀ s : σ} {draws : List Draw}

/-- The events `draws` lead from `s₀` to `s`. -/
inductive Drawn (T : Tank σ) (s₀ : σ) : List Draw → σ → Prop
  | start : Drawn T s₀ [] s₀
  | draw {draws : List Draw} {s s' : σ} {t a g : ℕ} (drawn : Drawn T s₀ draws s)
      (hdraw : T.level s' t + a ≤ T.level s t + g) :
      Drawn T s₀ (⟨t, a, g, T.rate s'⟩ :: draws) s'

/-- Nothing taken or put in, at a level and a rate that did not change. -/
theorem Drawn.idle {s' : σ} (h : Drawn T s₀ draws s) (t : ℕ) (hlevel : ∀ t, T.level s' t = T.level s t) :
    Drawn T s₀ (⟨t, 0, 0, T.rate s'⟩ :: draws) s' :=
  .draw h (by rw [hlevel])

/-- After the last event only its own rate counts, before it the earlier ones. -/
theorem sum_rateAt_cons {first t₀ t₁ : ℕ} {d : Draw} (h₀ : t₀ ≤ d.time) (h₁ : d.time ≤ t₁) :
    ∑ u ∈ Ico t₀ t₁, rateAt first (d :: draws) u
      = ∑ u ∈ Ico t₀ d.time, rateAt first draws u + d.rate * (t₁ - d.time) := by
  rw [← sum_Ico_consecutive _ h₀ h₁]
  have hbefore : ∑ u ∈ Ico t₀ d.time, rateAt first (d :: draws) u
      = ∑ u ∈ Ico t₀ d.time, rateAt first draws u := by
    refine sum_congr rfl fun u hu => ?_
    have hlt := (mem_Ico.mp hu).2
    rw [rateAt, if_neg (Nat.not_le_of_lt hlt)]
  have hafter : ∑ u ∈ Ico d.time t₁, rateAt first (d :: draws) u = d.rate * (t₁ - d.time) := by
    have hconst : ∀ u ∈ Ico d.time t₁, rateAt first (d :: draws) u = d.rate := by
      intro u hu
      rw [rateAt, if_pos (mem_Ico.mp hu).1]
    rw [sum_congr rfl hconst, sum_const, Nat.card_Ico, smul_eq_mul, Nat.mul_comm]
  rw [hbefore, hafter]

/-- The conservation law: what was drawn and what is left came from the first level, from what was
put in and from the rates in force. -/
theorem Drawn.flow (h : Drawn T s₀ draws s) (horder : InOrder draws) {t₀ t₁ : ℕ} (ht : t₀ ≤ t₁)
    (hfrom : ∀ d ∈ draws, t₀ ≤ d.time) (hto : ∀ d ∈ draws, d.time ≤ t₁) :
    (draws.map Draw.amount).sum + T.level s t₁
      ≤ T.level s₀ t₀ + (draws.map Draw.gain).sum
        + ∑ u ∈ Ico t₀ t₁, rateAt (T.rate s₀) draws u := by
  induction h generalizing t₁ with
  | start =>
    have hgrow := T.grows s₀ ht
    simp only [List.map_nil, List.sum_nil, zero_add, add_zero, rateAt, sum_const, Nat.card_Ico,
      smul_eq_mul]
    rwa [Nat.mul_comm] at hgrow
  | @draw draws s s' t a g drawn hdraw ih =>
    obtain ⟨hlatest, horder⟩ := List.pairwise_cons.mp horder
    have hfrom' : ∀ d ∈ draws, t₀ ≤ d.time := fun d hd => hfrom d (List.mem_cons_of_mem _ hd)
    have h₀ : t₀ ≤ t := hfrom _ List.mem_cons_self
    have h₁ : t ≤ t₁ := hto _ List.mem_cons_self
    have hbefore := ih horder h₀ hfrom' hlatest
    have hgrow := T.grows s' h₁
    rw [sum_rateAt_cons h₀ h₁, List.map_cons, List.map_cons, List.sum_cons, List.sum_cons]
    dsimp only
    omega

/-- With every rate in force at most `R`, the inflow is at most `R` a second. -/
theorem sum_rateAt_le {first t₀ t₁ R : ℕ} (hfirst : first ≤ R) (hrates : ∀ d ∈ draws, d.rate ≤ R) :
    ∑ u ∈ Ico t₀ t₁, rateAt first draws u ≤ R * (t₁ - t₀) := by
  have hle : ∀ u, rateAt first draws u ≤ R := by
    intro u
    induction draws with
    | nil => exact hfirst
    | cons d draws ih =>
      rw [rateAt]
      split
      · exact hrates d List.mem_cons_self
      · exact ih fun d' hd' => hrates d' (List.mem_cons_of_mem _ hd')
  calc ∑ u ∈ Ico t₀ t₁, rateAt first draws u
      ≤ ∑ _u ∈ Ico t₀ t₁, R := sum_le_sum fun u _ => hle u
    _ = R * (t₁ - t₀) := by rw [sum_const, Nat.card_Ico, smul_eq_mul, Nat.mul_comm]

end ContractLib
