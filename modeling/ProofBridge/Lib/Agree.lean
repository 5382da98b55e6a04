import ProofBridge.Lib.Tx

/-!
# Two implementations of one call

`Agrees Q x y s t` says that the calls `x` from `s` and `y` from `t` are both accepted, with answers
and states `Q` relates, or both refused. `Lockstep` hands one script to two implementations, call by
call; a refused call is rolled back on the side that refused it. A relation every pair of calls
agrees on is then kept along the whole script, and the two sides accept the same calls of it.
-/

namespace ContractLib

variable {ε ε' σ τ α α' β β' γ : Type}

namespace Tx

/-- Going on after a step that passes under a condition and touches nothing. -/
theorem bind_passing_ok {x : Tx ε σ α'} {p : Prop} {a : α'} {f : α' → Tx ε σ α} {s : σ} {r : α × σ}
    (hx : ∀ r, x s = .ok r ↔ p ∧ r = (a, s)) :
    (x >>= f) s = .ok r ↔ p ∧ f a s = .ok r := by
  rw [Tx.bind_ok]
  constructor
  · rintro ⟨a', s', hok, hrest⟩
    obtain ⟨hp, heq⟩ := (hx _).mp hok
    obtain ⟨rfl, rfl⟩ := Prod.mk.inj heq
    exact ⟨hp, hrest⟩
  · rintro ⟨hp, hrest⟩
    exact ⟨a, s, (hx _).mpr ⟨hp, rfl⟩, hrest⟩

/-- Going on after a check that answers nothing. -/
theorem bind_check_ok {c : Check ε Unit} {f : Unit → Tx ε σ α} {s : σ} {r : α × σ} :
    (Tx.lift c >>= f) s = .ok r ↔ c = .ok () ∧ f () s = .ok r := by
  rw [Tx.bind_lift_ok]
  constructor
  · rintro ⟨⟨⟩, hc, hrest⟩
    exact ⟨hc, hrest⟩
  · rintro ⟨hc, hrest⟩
    exact ⟨(), hc, hrest⟩

/-- Going on after two such checks. -/
theorem bind_checks_ok {c d : Check ε Unit} {f : Unit → Tx ε σ α} {s : σ} {r : α × σ} :
    (Tx.lift c >>= fun _ => Tx.lift d >>= f) s = .ok r
      ↔ (c = .ok () ∧ d = .ok ()) ∧ f () s = .ok r := by
  rw [bind_check_ok, bind_check_ok, and_assoc]

/-- Going on after a condition and a check. -/
theorem bind_require_check_ok {p : Prop} [Decidable p] {e : ε} {c : Check ε Unit}
    {f : Unit → Tx ε σ α} {s : σ} {r : α × σ} :
    (Tx.require p e >>= fun _ => Tx.lift c >>= f) s = .ok r
      ↔ (p ∧ c = .ok ()) ∧ f () s = .ok r := by
  rw [Tx.bind_require_ok, bind_check_ok, and_assoc]

/-- Going on after a check that answered yes. -/
theorem bind_verdict_ok {c : Check ε Bool} {e : ε} {f : Unit → Tx ε σ α} {s : σ} {r : α × σ} :
    (Tx.lift c >>= fun b => Tx.require (b = true) e >>= f) s = .ok r
      ↔ c = .ok true ∧ f () s = .ok r := by
  simp only [Tx.bind_lift_ok, Tx.bind_require_ok]
  constructor
  · rintro ⟨_, hc, rfl, hrest⟩
    exact ⟨hc, hrest⟩
  · rintro ⟨hc, hrest⟩
    exact ⟨true, hc, rfl, hrest⟩

/-- Going on after an answer that was yes. -/
theorem bind_answer_ok {o : Option Bool} {trap : Trap} {e : ε} {f : Unit → Tx ε σ α} {s : σ}
    {r : α × σ} :
    (Tx.expectTrap o trap >>= fun b => Tx.require (b = true) e >>= f) s = .ok r
      ↔ o = some true ∧ f () s = .ok r := by
  simp only [Tx.bind_expectTrap_ok, Tx.bind_require_ok]
  constructor
  · rintro ⟨_, ho, rfl, hrest⟩
    exact ⟨ho, hrest⟩
  · rintro ⟨ho, hrest⟩
    exact ⟨true, ho, rfl, hrest⟩

/-- Both accepted with what `Q` relates, or both refused. -/
def Agrees (Q : α → σ → β → τ → Prop) (x : Tx ε σ α) (y : Tx ε' τ β) (s : σ) (t : τ) : Prop :=
  match x s, y t with
  | .ok (a, s'), .ok (b, t') => Q a s' b t'
  | .error _, .error _ => True
  | _, _ => False

/-- Of two accepted calls, only the states they leave are compared. -/
abbrev Leaving (R : σ → τ → Prop) : α → σ → β → τ → Prop := fun _ s' _ t' => R s' t'

/-- Whether the call is accepted. -/
def Accepts (x : Tx ε σ α) (s : σ) : Prop := ∃ r, x s = .ok r

theorem accepts_iff_isSome {x : Tx ε σ α} {s : σ} :
    x.Accepts s ↔ (x s).toOption.isSome = true := by
  unfold Accepts
  cases x s with
  | ok r => exact ⟨fun _ => rfl, fun _ => ⟨r, rfl⟩⟩
  | error e => simp [Except.toOption]

instance {x : Tx ε σ α} {s : σ} : Decidable (x.Accepts s) :=
  decidable_of_iff _ accepts_iff_isSome.symm

/-- The state a call leaves: the one it found, when it is refused. -/
def after (x : Tx ε σ α) (s : σ) : σ :=
  match x s with
  | .ok (_, s') => s'
  | .error _ => s

namespace Agrees

variable {Q : α → σ → β → τ → Prop} {x : Tx ε σ α} {y : Tx ε' τ β} {s : σ} {t : τ}

theorem of_ok {a : α} {s' : σ} {b : β} {t' : τ} (hx : x s = .ok (a, s')) (hy : y t = .ok (b, t'))
    (hQ : Q a s' b t') : Agrees Q x y s t := by
  rw [Agrees, hx, hy]
  exact hQ

theorem of_refused (hx : ¬x.Accepts s) (hy : ¬y.Accepts t) : Agrees Q x y s t := by
  unfold Agrees
  cases hx' : x s with
  | ok r => exact absurd ⟨r, hx'⟩ hx
  | error e =>
    cases hy' : y t with
    | ok r => exact absurd ⟨r, hy'⟩ hy
    | error e' => trivial

/-- What each side accepts, as a condition of its own. -/
theorem of_iff {p q : Prop} {a : α} {s' : σ} {b : β} {t' : τ}
    (hx : ∀ r, x s = .ok r ↔ p ∧ r = (a, s')) (hy : ∀ r, y t = .ok r ↔ q ∧ r = (b, t'))
    (hpq : p ↔ q) (hQ : p → Q a s' b t') : Agrees Q x y s t := by
  by_cases hp : p
  · exact of_ok ((hx _).mpr ⟨hp, rfl⟩) ((hy _).mpr ⟨hpq.mp hp, rfl⟩) (hQ hp)
  · apply of_refused
    · rintro ⟨r, hr⟩
      exact hp ((hx r).mp hr).1
    · rintro ⟨r, hr⟩
      exact hp (hpq.mpr ((hy r).mp hr).1)

/-- The two ways of agreeing. -/
theorem outcomes (h : Agrees Q x y s t) :
    (∃ a s' b t', x s = .ok (a, s') ∧ y t = .ok (b, t') ∧ Q a s' b t') ∨
      ∃ e e', x s = .error e ∧ y t = .error e' := by
  unfold Agrees at h
  cases hx : x s with
  | error e =>
    cases hy : y t with
    | error e' => exact .inr ⟨e, e', rfl, rfl⟩
    | ok r =>
      rw [hx, hy] at h
      exact h.elim
  | ok r =>
    cases hy : y t with
    | error e' =>
      rw [hx, hy] at h
      exact h.elim
    | ok r' =>
      rw [hx, hy] at h
      exact .inl ⟨_, _, _, _, rfl, rfl, h⟩

theorem accepts_iff (h : Agrees Q x y s t) : x.Accepts s ↔ y.Accepts t := by
  rcases h.outcomes with ⟨a, s', b, t', hx, hy, -⟩ | ⟨e, e', hx, hy⟩
  · exact ⟨fun _ => ⟨_, hy⟩, fun _ => ⟨_, hx⟩⟩
  · simp [Accepts, hx, hy]

theorem mono {Q' : α → σ → β → τ → Prop} (h : Agrees Q x y s t)
    (hQ : ∀ a s' b t', Q a s' b t' → Q' a s' b t') : Agrees Q' x y s t := by
  rcases h.outcomes with ⟨a, s', b, t', hx, hy, h⟩ | ⟨e, e', hx, hy⟩
  · exact of_ok hx hy (hQ _ _ _ _ h)
  · rw [Agrees, hx, hy]
    trivial

/-- Each side passes a condition of its own and goes on. -/
theorem of_guarded {p q : Prop} {x' : Tx ε σ α} {y' : Tx ε' τ β}
    (hx : ∀ r, x s = .ok r ↔ p ∧ x' s = .ok r) (hy : ∀ r, y t = .ok r ↔ q ∧ y' t = .ok r)
    (hpq : p ↔ q) (h : p → Agrees Q x' y' s t) : Agrees Q x y s t := by
  by_cases hp : p
  · rcases (h hp).outcomes with ⟨a, s', b, t', hx', hy', hQ⟩ | ⟨e, e', hx', hy'⟩
    · exact of_ok ((hx _).mpr ⟨hp, hx'⟩) ((hy _).mpr ⟨hpq.mp hp, hy'⟩) hQ
    · apply of_refused
      · rintro ⟨r, hr⟩
        rw [((hx r).mp hr).2] at hx'
        cases hx'
      · rintro ⟨r, hr⟩
        rw [((hy r).mp hr).2] at hy'
        cases hy'
  · apply of_refused
    · rintro ⟨r, hr⟩
      exact hp ((hx r).mp hr).1
    · rintro ⟨r, hr⟩
      exact hp (hpq.mpr ((hy r).mp hr).1)

/-- A refused call leaves the relation as it was. -/
theorem after {R : σ → τ → Prop} (h : Agrees (Leaving R) x y s t) (hR : R s t) :
    R (x.after s) (y.after t) := by
  unfold Tx.after
  rcases h.outcomes with ⟨a, s', b, t', hx, hy, h⟩ | ⟨e, e', hx, hy⟩
  · rw [hx, hy]
    exact h
  · rw [hx, hy]
    exact hR

theorem bind {Q' : α' → σ → β' → τ → Prop} {f : α → Tx ε σ α'} {g : β → Tx ε' τ β'}
    (h : Agrees Q x y s t) (hf : ∀ a s' b t', x s = .ok (a, s') → y t = .ok (b, t') →
      Q a s' b t' → Agrees Q' (f a) (g b) s' t') : Agrees Q' (x >>= f) (y >>= g) s t := by
  show match (match x s with | .ok (a, s') => f a s' | .error e => .error e),
    (match y t with | .ok (b, t') => g b t' | .error e => .error e) with
    | .ok (a, s'), .ok (b, t') => Q' a s' b t'
    | .error _, .error _ => True
    | _, _ => False
  rcases h.outcomes with ⟨a, s', b, t', hx, hy, h⟩ | ⟨e, e', hx, hy⟩
  · rw [hx, hy]
    exact hf a s' b t' hx hy h
  · rw [hx, hy]
    trivial

/-- Only one side goes on, and what it does next is accepted. -/
theorem then_right {Q' : α → σ → β' → τ → Prop} {z : Tx ε' τ β'} {g : β' → Tx ε' τ β}
    (h : Agrees Q' x z s t) (hg : ∀ a s' b' t', Q' a s' b' t' →
      ∃ b t'', g b' t' = .ok (b, t'') ∧ Q a s' b t'') : Agrees Q x (z >>= g) s t := by
  rcases h.outcomes with ⟨a, s', b', t', hx, hz, h⟩ | ⟨e, e', hx, hz⟩
  · obtain ⟨b, t'', hgo, hQ⟩ := hg a s' b' t' h
    exact of_ok hx (Tx.bind_ok.mpr ⟨b', t', hz, hgo⟩) hQ
  · apply of_refused
    · rintro ⟨r, hr⟩
      rw [hx] at hr
      cases hr
    · rintro ⟨r, hr⟩
      obtain ⟨b', t', hok, -⟩ := Tx.bind_ok.mp hr
      rw [hz] at hok
      cases hok

theorem pure {a : α} {b : β} (h : Q a s b t) :
    Agrees Q (pure a : Tx ε σ α) (pure b : Tx ε' τ β) s t := h

/-- Each side reads its own state. -/
theorem read {f : σ → Tx ε σ α} {g : τ → Tx ε' τ β} (h : Agrees Q (f s) (g t) s t) :
    Agrees Q (Tx.read >>= f) (Tx.read >>= g) s t := h

theorem read_left {f : σ → Tx ε σ α} (h : Agrees Q (f s) y s t) :
    Agrees Q (Tx.read >>= f) y s t := h

theorem read_right {g : τ → Tx ε' τ β} (h : Agrees Q x (g t) s t) :
    Agrees Q x (Tx.read >>= g) s t := h

theorem modify_left {m : σ → σ} {f : Unit → Tx ε σ α} (h : Agrees Q (f ()) y (m s) t) :
    Agrees Q (Tx.modify m >>= f) y s t := h

theorem modify_right {m : τ → τ} {g : Unit → Tx ε' τ β} (h : Agrees Q x (g ()) s (m t)) :
    Agrees Q x (Tx.modify m >>= g) s t := h

theorem modify {Q : Unit → σ → Unit → τ → Prop} {m : σ → σ} {m' : τ → τ}
    (h : Q () (m s) () (m' t)) :
    Agrees Q (Tx.modify m : Tx ε σ Unit) (Tx.modify m' : Tx ε' τ Unit) s t := h

/-- A step only one side takes, and which is accepted. -/
theorem left {z : Tx ε σ α'} {a : α'} {s₁ : σ} {f : α' → Tx ε σ α} (hz : z s = .ok (a, s₁))
    (h : Agrees Q (f a) y s₁ t) : Agrees Q (z >>= f) y s t := by
  have hrun : (z >>= f) s = f a s₁ := by
    show (match z s with | .ok (a, s') => f a s' | .error e => .error e) = _
    rw [hz]
  rw [Agrees, hrun]
  exact h

theorem right {z : Tx ε' τ β'} {b : β'} {t₁ : τ} {g : β' → Tx ε' τ β} (hz : z t = .ok (b, t₁))
    (h : Agrees Q x (g b) s t₁) : Agrees Q x (z >>= g) s t := by
  have hrun : (z >>= g) t = g b t₁ := by
    show (match z t with | .ok (b, t') => g b t' | .error e => .error e) = _
    rw [hz]
  rw [Agrees, hrun]
  exact h

theorem require {p q : Prop} [Decidable p] [Decidable q] {e : ε} {e' : ε'} {f : Unit → Tx ε σ α}
    {g : Unit → Tx ε' τ β} (hpq : p ↔ q) (h : p → Agrees Q (f ()) (g ()) s t) :
    Agrees Q (Tx.require p e >>= f) (Tx.require q e' >>= g) s t := by
  by_cases hp : p
  · have hq : q := hpq.mp hp
    refine bind (of_ok (Q := fun _ s' _ t' => s' = s ∧ t' = t) (Tx.require_ok.mpr ⟨hp, rfl⟩)
      (Tx.require_ok.mpr ⟨hq, rfl⟩) ⟨rfl, rfl⟩) ?_
    rintro ⟨⟩ s' ⟨⟩ t' - - ⟨rfl, rfl⟩
    exact h hp
  · apply of_refused
    · rintro ⟨r, hr⟩
      exact hp (Tx.bind_require_ok.mp hr).1
    · rintro ⟨r, hr⟩
      exact hp (hpq.mpr (Tx.bind_require_ok.mp hr).1)

theorem expect_right {o : Option β'} {b : β'} {e : ε'} {g : β' → Tx ε' τ β} (ho : o = some b)
    (h : Agrees Q x (g b) s t) : Agrees Q x (Tx.expect o e >>= g) s t := by
  cases ho
  exact h

theorem lift {c : Check ε α'} {d : Check ε' β'} {a : α'} {b : β'} {f : α' → Tx ε σ α}
    {g : β' → Tx ε' τ β} (hc : c = .ok a) (hd : d = .ok b) (h : Agrees Q (f a) (g b) s t) :
    Agrees Q (Tx.lift c >>= f) (Tx.lift d >>= g) s t := by
  cases hc
  cases hd
  exact h

/-- A check that answers the same on both sides. -/
theorem lift_same {c : Check ε α'} {d : Check ε' α'} {f : α' → Tx ε σ α} {g : α' → Tx ε' τ β}
    (hcd : ∀ a, c = .ok a ↔ d = .ok a) (h : ∀ a, c = .ok a → Agrees Q (f a) (g a) s t) :
    Agrees Q (Tx.lift c >>= f) (Tx.lift d >>= g) s t := by
  cases hc : c with
  | ok a =>
    subst hc
    exact lift rfl ((hcd a).mp rfl) (h a rfl)
  | error e =>
    apply of_refused
    · rintro ⟨r, hr⟩
      obtain ⟨a, ha, -⟩ := Tx.bind_lift_ok.mp hr
      cases ha
    · rintro ⟨r, hr⟩
      obtain ⟨a, ha, -⟩ := Tx.bind_lift_ok.mp hr
      rw [← hcd, hc] at ha
      cases ha

theorem view {F : σ → Check ε α'} {G : τ → Check ε' β'} {a : α'} {b : β'} {f : α' → Tx ε σ α}
    {g : β' → Tx ε' τ β} (hF : F s = .ok a) (hG : G t = .ok b) (h : Agrees Q (f a) (g b) s t) :
    Agrees Q (Tx.view F >>= f) (Tx.view G >>= g) s t :=
  lift hF hG h

/-- A view that answers the same on both sides. -/
theorem view_same {F : σ → Check ε α'} {G : τ → Check ε' α'} {f : α' → Tx ε σ α}
    {g : α' → Tx ε' τ β} (hFG : ∀ a, F s = .ok a ↔ G t = .ok a)
    (h : ∀ a, F s = .ok a → Agrees Q (f a) (g a) s t) :
    Agrees Q (Tx.view F >>= f) (Tx.view G >>= g) s t :=
  lift_same hFG h

/-- A check both sides make, each on its own state. -/
theorem check {F : σ → Check ε Unit} {G : τ → Check ε' Unit} {f : Unit → Tx ε σ α}
    {g : Unit → Tx ε' τ β} (hFG : F s = .ok () ↔ G t = .ok ())
    (h : F s = .ok () → Agrees Q (f ()) (g ()) s t) :
    Agrees Q (Tx.view F >>= f) (Tx.view G >>= g) s t := by
  by_cases hF : F s = .ok ()
  · exact view hF (hFG.mp hF) (h hF)
  · apply of_refused
    · rintro ⟨r, hr⟩
      obtain ⟨⟨⟩, hok, -⟩ := Tx.bind_view_ok.mp hr
      exact hF hok
    · rintro ⟨r, hr⟩
      obtain ⟨⟨⟩, hok, -⟩ := Tx.bind_view_ok.mp hr
      exact hF (hFG.mpr hok)

theorem ite {p q : Prop} [Decidable p] [Decidable q] {x' : Tx ε σ α} {y' : Tx ε' τ β}
    (hpq : p ↔ q) (h : p → Agrees Q x y s t) (h' : ¬p → Agrees Q x' y' s t) :
    Agrees Q (if p then x else x') (if q then y else y') s t := by
  by_cases hp : p
  · rw [if_pos hp, if_pos (hpq.mp hp)]
    exact h hp
  · rw [if_neg hp, if_neg (hpq.not.mp hp)]
    exact h' hp

theorem zoom {σ' τ' ε₁ ε₂ : Type} {Q' : α → σ' → β → τ' → Prop} {part : σ → σ'}
    {put : σ → σ' → σ} {part' : τ → τ'} {put' : τ → τ' → τ} {rename : ε₁ → ε} {rename' : ε₂ → ε'}
    {x : Tx ε₁ σ' α} {y : Tx ε₂ τ' β} (h : Agrees Q' x y (part s) (part' t))
    (hput : ∀ a c b c', Q' a c b c' → Q a (put s c) b (put' t c')) :
    Agrees Q (Tx.zoom part put rename x) (Tx.zoom part' put' rename' y) s t := by
  rcases h.outcomes with ⟨a, c, b, c', hx, hy, h⟩ | ⟨e, e', hx, hy⟩
  · exact of_ok (Tx.zoom_ok.mpr ⟨a, c, hx, rfl⟩) (Tx.zoom_ok.mpr ⟨b, c', hy, rfl⟩)
      (hput _ _ _ _ h)
  · unfold Agrees Tx.zoom
    rw [hx, hy]
    trivial

/-- Only the left side works on a part of its state. -/
theorem zoom_left {σ' ε₁ : Type} {Q' : α → σ' → β → τ → Prop} {part : σ → σ'} {put : σ → σ' → σ}
    {rename : ε₁ → ε} {x : Tx ε₁ σ' α} (h : Agrees Q' x y (part s) t)
    (hput : ∀ a c b t', Q' a c b t' → Q a (put s c) b t') :
    Agrees Q (Tx.zoom part put rename x) y s t := by
  rcases h.outcomes with ⟨a, c, b, t', hx, hy, h⟩ | ⟨e, e', hx, hy⟩
  · exact of_ok (Tx.zoom_ok.mpr ⟨a, c, hx, rfl⟩) hy (hput _ _ _ _ h)
  · unfold Agrees Tx.zoom
    rw [hx, hy]
    trivial

theorem answer_left {h' : α → α'} {Q : α' → σ → β → τ → Prop}
    (h : Agrees (fun a s' b t' => Q (h' a) s' b t') x y s t) : Agrees Q (Tx.answer h' x) y s t := by
  unfold Agrees Tx.answer
  rcases h.outcomes with ⟨a, s', b, t', hx, hy, h⟩ | ⟨e, e', hx, hy⟩
  · rw [hx, hy]
    exact h
  · rw [hx, hy]
    trivial

theorem answer_right {h' : β → β'} {Q : α → σ → β' → τ → Prop}
    (h : Agrees (fun a s' b t' => Q a s' (h' b) t') x y s t) : Agrees Q x (Tx.answer h' y) s t := by
  unfold Agrees Tx.answer
  rcases h.outcomes with ⟨a, s', b, t', hx, hy, h⟩ | ⟨e, e', hx, hy⟩
  · rw [hx, hy]
    exact h
  · rw [hx, hy]
    trivial

end Agrees
end Tx

/-- One script handed to two implementations, the newest call first. `fair` is what the environment
promises of a call. -/
inductive Lockstep (x : γ → Tx ε σ α) (y : γ → Tx ε' τ β) (fair : σ → τ → γ → Prop) (s₀ : σ)
    (t₀ : τ) : List γ → σ → τ → Prop
  | start : Lockstep x y fair s₀ t₀ [] s₀ t₀
  | step {script : List γ} {s : σ} {t : τ} {c : γ} (run : Lockstep x y fair s₀ t₀ script s t)
      (promised : fair s t c) :
      Lockstep x y fair s₀ t₀ (c :: script) ((x c).after s) ((y c).after t)

namespace Lockstep

variable {x : γ → Tx ε σ α} {y : γ → Tx ε' τ β} {fair : σ → τ → γ → Prop} {s₀ s : σ} {t₀ t : τ}
  {script : List γ} {R : σ → τ → Prop}

/-- A relation every promised call keeps holds all along the script. -/
theorem invariant (start : R s₀ t₀)
    (step : ∀ {s t c}, R s t → fair s t c → R ((x c).after s) ((y c).after t))
    (run : Lockstep x y fair s₀ t₀ script s t) : R s t := by
  induction run with
  | start => exact start
  | step run promised ih => exact step ih promised

/-- A relation the two sides of every call agree on holds all along the script. -/
theorem related (start : R s₀ t₀) (step : ∀ {s t c}, R s t → fair s t c →
      Tx.Agrees (Tx.Leaving R) (x c) (y c) s t)
    (run : Lockstep x y fair s₀ t₀ script s t) : R s t := by
  apply run.invariant start
  intro s t c hR promised
  exact (step hR promised).after hR

end Lockstep
end ContractLib
