import ProofBridge.Lib.Run

/-!
# Two systems side by side

Two contracts that share nothing run in one world: a call goes to one of them, and what happens
around one leaves the other alone. What ties them is only what is promised of a call in the state
both are in, so a run of the pair is a run of each, and a promise is what an invariant over both may
use.
-/

namespace ContractLib

variable {ε ε' σ σ' τ τ' ρ ρ' : Type}

/-- Run one system's call, beside the other's state. -/
def callLeft (x : Tx ε σ ρ) : Tx (ε ⊕ ε') (σ × σ') (ρ ⊕ ρ') := fun p =>
  match x p.1 with
  | .ok (r, s) => .ok (.inl r, (s, p.2))
  | .error e => .error (e.map Sum.inl)

def callRight (x : Tx ε' σ' ρ') : Tx (ε ⊕ ε') (σ × σ') (ρ ⊕ ρ') := fun p =>
  match x p.2 with
  | .ok (r, s) => .ok (.inr r, (p.1, s))
  | .error e => .error (e.map Sum.inr)

/-- Both systems, each call promised what `promised` says of it in the state of both. -/
def System.pair (S : System ε σ τ ρ) (T : System ε' σ' τ' ρ')
    (promised : σ × σ' → τ ⊕ τ' → Prop) :
    System (ε ⊕ ε') (σ × σ') (τ ⊕ τ') (ρ ⊕ ρ') where
  call
    | .inl t => callLeft (S.call t)
    | .inr t => callRight (T.call t)
  admits p t := promised p t ∧
    match t with
    | .inl t => S.admits p.1 t
    | .inr t => T.admits p.2 t
  outside p p' := (S.outside p.1 p'.1 ∧ p'.2 = p.2) ∨ (T.outside p.2 p'.2 ∧ p'.1 = p.1)

/-- What a run accepted of the left system. -/
def lefts (h : List ((τ ⊕ τ') × (ρ ⊕ ρ'))) : List (τ × ρ) :=
  h.filterMap fun e => match e with
    | (.inl t, .inl r) => some (t, r)
    | _ => none

def rights (h : List ((τ ⊕ τ') × (ρ ⊕ ρ'))) : List (τ' × ρ') :=
  h.filterMap fun e => match e with
    | (.inr t, .inr r) => some (t, r)
    | _ => none

theorem callLeft_ok {x : Tx ε σ ρ} {p p' : σ × σ'} {r : ρ ⊕ ρ'}
    (ok : (callLeft x : Tx (ε ⊕ ε') (σ × σ') (ρ ⊕ ρ')) p = .ok (r, p')) :
    ∃ r₁ s₁, x p.1 = .ok (r₁, s₁) ∧ r = .inl r₁ ∧ p' = (s₁, p.2) := by
  unfold callLeft at ok
  split at ok
  · next r₁ s₁ hx =>
    cases ok
    exact ⟨r₁, s₁, hx, rfl, rfl⟩
  · cases ok

theorem callRight_ok {x : Tx ε' σ' ρ'} {p p' : σ × σ'} {r : ρ ⊕ ρ'}
    (ok : (callRight x : Tx (ε ⊕ ε') (σ × σ') (ρ ⊕ ρ')) p = .ok (r, p')) :
    ∃ r₁ s₁, x p.2 = .ok (r₁, s₁) ∧ r = .inr r₁ ∧ p' = (p.1, s₁) := by
  unfold callRight at ok
  split at ok
  · next r₁ s₁ hx =>
    cases ok
    exact ⟨r₁, s₁, hx, rfl, rfl⟩
  · cases ok

namespace Run

variable {S : System ε σ τ ρ} {T : System ε' σ' τ' ρ'} {promised : σ × σ' → τ ⊕ τ' → Prop}
  {p₀ p : σ × σ'} {h : List ((τ ⊕ τ') × (ρ ⊕ ρ'))}

/-- The induction over a run of two systems: each event is one of either's. -/
theorem pair_invariant {I : List ((τ ⊕ τ') × (ρ ⊕ ρ')) → σ → σ' → Prop} (start : I [] p₀.1 p₀.2)
    (left : ∀ {h s s' t r u}, Run (S.pair T promised) p₀ h (s, s') → I h s s' →
      promised (s, s') (.inl t) → S.admits s t → S.call t s = .ok (r, u) →
      I ((.inl t, .inl r) :: h) u s')
    (right : ∀ {h s s' t r u}, Run (S.pair T promised) p₀ h (s, s') → I h s s' →
      promised (s, s') (.inr t) → T.admits s' t → T.call t s' = .ok (r, u) →
      I ((.inr t, .inr r) :: h) s u)
    (aroundLeft : ∀ {h s s' u}, I h s s' → S.outside s u → I h u s')
    (aroundRight : ∀ {h s s' u}, I h s s' → T.outside s' u → I h s u)
    (run : Run (S.pair T promised) p₀ h p) : I h p.1 p.2 := by
  refine run.invariant (I := fun h p => I h p.1 p.2) start ?_ ?_
  · rintro h ⟨s, s'⟩ t r q run ih ⟨hpromised, hadmits⟩ ok
    cases t with
    | inl t =>
      obtain ⟨r₁, s₁, hok, rfl, rfl⟩ := callLeft_ok ok
      exact left run ih hpromised hadmits hok
    | inr t =>
      obtain ⟨r₁, s₁, hok, rfl, rfl⟩ := callRight_ok ok
      exact right run ih hpromised hadmits hok
  · rintro h ⟨s, s'⟩ ⟨u, u'⟩ _ ih (⟨hmoved, hsame⟩ | ⟨hmoved, hsame⟩)
    · cases hsame
      exact aroundLeft ih hmoved
    · cases hsame
      exact aroundRight ih hmoved

/-- A run of two systems is a run of the left one. -/
theorem left (run : Run (S.pair T promised) p₀ h p) : Run S p₀.1 (lefts h) p.1 := by
  refine run.pair_invariant (I := fun h s _ => Run S p₀.1 (lefts h) s) .start ?_ ?_ ?_ ?_
  · intro h s s' t r u _ ih _ hadmits ok
    exact ih.accepted hadmits ok
  · intro h s s' t r u _ ih _ _ _
    exact ih
  · intro h s s' u ih hmoved
    exact ih.outside hmoved
  · intro h s s' u ih _
    exact ih

theorem right (run : Run (S.pair T promised) p₀ h p) : Run T p₀.2 (rights h) p.2 := by
  refine run.pair_invariant (I := fun h _ s' => Run T p₀.2 (rights h) s') .start ?_ ?_ ?_ ?_
  · intro h s s' t r u _ ih _ _ _
    exact ih
  · intro h s s' t r u _ ih _ hadmits ok
    exact ih.accepted hadmits ok
  · intro h s s' u ih _
    exact ih
  · intro h s s' u ih hmoved
    exact ih.outside hmoved

end Run

end ContractLib
