import ProofBridge.Lib.Tx

/-!
# Runs of a contract

A `System` is a contract, or several, seen from outside: the calls it takes, what the host
promises about a call that arrives, and what may change around it between two calls. A
`Run` is any finite sequence of such events. Its history lists the accepted calls with
their answers, the newest first; a refused call leaves no trace, because the host rolls it
back.

`Run.invariant` is the induction every safety result goes through: what the start has and
every accepted call and outside change keep holds in every reachable state.
-/

namespace ContractLib

/-- A contract with its environment. -/
structure System (ε σ τ ρ : Type) where
  /-- The call `t` as the contract runs it. -/
  call : τ → Tx ε σ ρ
  /-- What the host and the other parties promise about a call that arrives. -/
  admits : σ → τ → Prop
  /-- What may happen around the contract between two of its calls. -/
  outside : σ → σ → Prop

variable {ε σ τ ρ : Type}

/-- `Run S s₀ h s`: some run of `S` from `s₀` accepted exactly the calls of `h` and is now in
`s`. -/
inductive Run (S : System ε σ τ ρ) (s₀ : σ) : List (τ × ρ) → σ → Prop
  | start : Run S s₀ [] s₀
  | accepted {h : List (τ × ρ)} {s s' : σ} {t : τ} {r : ρ} (run : Run S s₀ h s)
      (admitted : S.admits s t) (ok : S.call t s = .ok (r, s')) : Run S s₀ ((t, r) :: h) s'
  | refused {h : List (τ × ρ)} {s : σ} {t : τ} {e : Failure ε} (run : Run S s₀ h s)
      (failed : S.call t s = .error e) : Run S s₀ h s
  | outside {h : List (τ × ρ)} {s s' : σ} (run : Run S s₀ h s) (moved : S.outside s s') :
      Run S s₀ h s'

namespace Run

variable {S : System ε σ τ ρ} {s₀ s₁ s : σ} {h h₁ : List (τ × ρ)}

/-- What the start has and every event keeps holds in every reachable state. -/
theorem invariant {I : List (τ × ρ) → σ → Prop} (start : I [] s₀)
    (accepted : ∀ {h s t r s'}, Run S s₀ h s → I h s → S.admits s t →
      S.call t s = .ok (r, s') → I ((t, r) :: h) s')
    (outside : ∀ {h s s'}, Run S s₀ h s → I h s → S.outside s s' → I h s')
    (run : Run S s₀ h s) : I h s := by
  induction run with
  | start => exact start
  | accepted run admitted ok ih => exact accepted run ih admitted ok
  | refused run failed ih => exact ih
  | outside run moved ih => exact outside run ih moved

/-- A run may be continued. -/
theorem trans (first : Run S s₀ h₁ s₁) (second : Run S s₁ h s) : Run S s₀ (h ++ h₁) s := by
  induction second with
  | start => exact first
  | accepted run admitted ok ih => exact .accepted ih admitted ok
  | refused run failed ih => exact .refused ih failed
  | outside run moved ih => exact .outside ih moved

/-- Every accepted call of a history ran in a state the run had reached, and the rest of the
history continues from the state it left. -/
theorem split {e : τ × ρ} (run : Run S s₀ (h ++ e :: h₁) s) :
    ∃ a b, Run S s₀ h₁ a ∧ S.admits a e.1 ∧ S.call e.1 a = .ok (e.2, b) ∧ Run S b h s := by
  generalize hk : h ++ e :: h₁ = k at run
  induction run generalizing h with
  | start => simp at hk
  | @accepted k a b t r run admitted ok ih =>
    cases h with
    | nil =>
      cases hk
      exact ⟨a, b, run, admitted, ok, .start⟩
    | cons e' h =>
      cases hk
      obtain ⟨a', b', hrun, hadm, hok, hrest⟩ := ih rfl
      exact ⟨a', b', hrun, hadm, hok, .accepted hrest admitted ok⟩
  | refused run failed ih =>
    obtain ⟨a', b', hrun, hadm, hok, hrest⟩ := ih hk
    exact ⟨a', b', hrun, hadm, hok, .refused hrest failed⟩
  | outside run moved ih =>
    obtain ⟨a', b', hrun, hadm, hok, hrest⟩ := ih hk
    exact ⟨a', b', hrun, hadm, hok, .outside hrest moved⟩

/-- A run may be cut between any two of its accepted calls. -/
theorem cut (run : Run S s₀ (h ++ h₁) s) : ∃ a, Run S s₀ h₁ a ∧ Run S a h s := by
  generalize hk : h ++ h₁ = k at run
  induction run generalizing h with
  | start =>
    obtain ⟨rfl, rfl⟩ := List.append_eq_nil_iff.mp hk
    exact ⟨s₀, .start, .start⟩
  | @accepted k a b t r run admitted ok ih =>
    cases h with
    | nil =>
      rw [List.nil_append] at hk
      rw [hk]
      exact ⟨b, .accepted run admitted ok, .start⟩
    | cons e h =>
      cases hk
      obtain ⟨c, hrun, hrest⟩ := ih rfl
      exact ⟨c, hrun, .accepted hrest admitted ok⟩
  | refused run failed ih =>
    obtain ⟨c, hrun, hrest⟩ := ih hk
    exact ⟨c, hrun, .refused hrest failed⟩
  | outside run moved ih =>
    obtain ⟨c, hrun, hrest⟩ := ih hk
    exact ⟨c, hrun, .outside hrest moved⟩

/-- A relation every event keeps between a fixed state and the one reached. -/
theorem preserves {R : σ → Prop} (start : R s₀)
    (accepted : ∀ {s t r s'}, R s → S.call t s = .ok (r, s') → R s')
    (outside : ∀ {s s'}, R s → S.outside s s' → R s') (run : Run S s₀ h s) : R s :=
  invariant (I := fun _ => R) start (fun _ hR _ ok => accepted hR ok)
    (fun _ hR moved => outside hR moved) run

end Run

/-- An accepted call with the state it found and the one it left. -/
structure Passage (σ τ ρ : Type) where
  before : σ
  event : τ × ρ
  after : σ

/-- A run with the states its accepted calls passed, the newest first. -/
inductive Passages (S : System ε σ τ ρ) (s₀ : σ) : List (Passage σ τ ρ) → σ → Prop
  | start : Passages S s₀ [] s₀
  | accepted {ps : List (Passage σ τ ρ)} {s s' : σ} {t : τ} {r : ρ} (run : Passages S s₀ ps s)
      (admitted : S.admits s t) (ok : S.call t s = .ok (r, s')) :
      Passages S s₀ (⟨s, (t, r), s'⟩ :: ps) s'
  | refused {ps : List (Passage σ τ ρ)} {s : σ} {t : τ} {e : Failure ε} (run : Passages S s₀ ps s)
      (failed : S.call t s = .error e) : Passages S s₀ ps s
  | outside {ps : List (Passage σ τ ρ)} {s s' : σ} (run : Passages S s₀ ps s)
      (moved : S.outside s s') : Passages S s₀ ps s'

theorem Passages.run {S : System ε σ τ ρ} {s₀ s : σ} {ps : List (Passage σ τ ρ)}
    (run : Passages S s₀ ps s) : Run S s₀ (ps.map Passage.event) s := by
  induction run with
  | start => exact .start
  | accepted run admitted ok ih => exact .accepted ih admitted ok
  | refused run failed ih => exact .refused ih failed
  | outside run moved ih => exact .outside ih moved

/-- Every run passes some states. -/
theorem Run.passages {S : System ε σ τ ρ} {s₀ s : σ} {h : List (τ × ρ)} (run : Run S s₀ h s) :
    ∃ ps, ps.map Passage.event = h ∧ Passages S s₀ ps s := by
  induction run with
  | start => exact ⟨[], rfl, .start⟩
  | @accepted h s s' t r run admitted ok ih =>
    obtain ⟨ps, rfl, hps⟩ := ih
    exact ⟨⟨s, (t, r), s'⟩ :: ps, rfl, .accepted hps admitted ok⟩
  | refused run failed ih =>
    obtain ⟨ps, heq, hps⟩ := ih
    exact ⟨ps, heq, .refused hps failed⟩
  | outside run moved ih =>
    obtain ⟨ps, heq, hps⟩ := ih
    exact ⟨ps, heq, .outside hps moved⟩

/-- Play a script of calls; one that is refused ends it. -/
def play (S : System ε σ τ ρ) : List τ → List (τ × ρ) → σ → Option (List (τ × ρ) × σ)
  | [], h, s => some (h, s)
  | t :: ts, h, s =>
    match S.call t s with
    | .ok (r, s') => play S ts ((t, r) :: h) s'
    | .error _ => none

/-- A script that plays to its end is a run. -/
theorem Run.of_play {S : System ε σ τ ρ} {s₀ s s' : σ} {ts : List τ} {h h' : List (τ × ρ)}
    (run : Run S s₀ h s) (admitted : ∀ t ∈ ts, ∀ s, S.admits s t)
    (played : play S ts h s = some (h', s')) : Run S s₀ h' s' := by
  induction ts generalizing h s with
  | nil =>
    cases played
    exact run
  | cons t ts ih =>
    unfold play at played
    split at played
    · next r s₁ hok =>
      have hstep := Run.accepted run (admitted t List.mem_cons_self s) hok
      exact ih hstep (fun t ht => admitted t (List.mem_cons_of_mem _ ht)) played
    · cases played

/-- What a script leads to from `s₀`, where it plays to its end. -/
theorem Run.played {S : System ε σ τ ρ} {s₀ : σ} {ts : List τ}
    (hplays : (play S ts [] s₀).isSome = true) (admitted : ∀ t ∈ ts, ∀ s, S.admits s t) :
    Run S s₀ ((play S ts [] s₀).getD ([], s₀)).1 ((play S ts [] s₀).getD ([], s₀)).2 := by
  obtain ⟨r, hr⟩ := Option.isSome_iff_exists.mp hplays
  rw [hr, Option.getD_some]
  exact Run.of_play .start admitted hr

/-- Every call of a script is admitted where it arrives. -/
def admitsAll (S : System ε σ τ ρ) [∀ s t, Decidable (S.admits s t)] : List τ → σ → Bool
  | [], _ => true
  | t :: ts, s => decide (S.admits s t) &&
    match S.call t s with
    | .ok (_, s') => admitsAll S ts s'
    | .error _ => true

/-- What a script leads to, where the states it passes decide what is admitted. -/
theorem Run.of_admitsAll {S : System ε σ τ ρ} [∀ s t, Decidable (S.admits s t)] {s₀ s s' : σ}
    {ts : List τ} {h h' : List (τ × ρ)} (run : Run S s₀ h s) (admitted : admitsAll S ts s = true)
    (played : play S ts h s = some (h', s')) : Run S s₀ h' s' := by
  induction ts generalizing h s with
  | nil =>
    cases played
    exact run
  | cons t ts ih =>
    unfold play at played
    unfold admitsAll at admitted
    rw [Bool.and_eq_true] at admitted
    obtain ⟨hadmits, hrest⟩ := admitted
    split at played
    · next r s₁ hok =>
      rw [hok] at hrest
      exact ih (.accepted run (of_decide_eq_true hadmits) hok) hrest played
    · cases played

/-- `Run.played`, where the states it passes decide what is admitted. -/
theorem Run.played_admitted {S : System ε σ τ ρ} [∀ s t, Decidable (S.admits s t)] {s₀ : σ}
    {ts : List τ} (hplays : (play S ts [] s₀).isSome = true) (admitted : admitsAll S ts s₀ = true) :
    Run S s₀ ((play S ts [] s₀).getD ([], s₀)).1 ((play S ts [] s₀).getD ([], s₀)).2 := by
  obtain ⟨r, hr⟩ := Option.isSome_iff_exists.mp hplays
  rw [hr, Option.getD_some]
  exact Run.of_admitsAll .start admitted hr

end ContractLib
