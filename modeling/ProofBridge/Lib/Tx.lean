import Mathlib.Data.BitVec
import Mathlib.Tactic.Common

/-!
# Transactional calls

A contract call reads and writes a state, and either succeeds with an answer or fails; a
failed call leaves nothing behind, because the host rolls it back. `Tx ε σ α` is such a
call over a state `σ`, with the contract's own errors `ε`.

Two families of lemmas are what every proof about a call uses:

* the **inversion lemmas** `bind_*_ok`, which turn `x s = .ok r` for a `do` block into the
  conjunction of the checks it passed and the state it left;
* the **safety lemmas** `safe_*`, which push "this call does not stop on the trap `t`"
  through a `do` block.
-/

namespace ContractLib

/-- What stops a call inside the host rather than with an error of the contract. -/
inductive Trap
  /-- A checked addition or multiplication went over its width. -/
  | overflow
  /-- A checked subtraction went below zero. -/
  | underflow
  /-- `require_auth` found no authorization. -/
  | unauthorized
  /-- A slice was taken out of its bounds. -/
  | sliceBounds
  /-- A contract called without the `try_` form failed. -/
  | callFailed
  /-- An assertion failed, or an absent value was unwrapped. -/
  | panicked
  deriving DecidableEq, Repr

/-- A failed call: an error of the contract, or a trap. -/
inductive Failure (ε : Type)
  | error (e : ε)
  | trap (t : Trap)
  deriving DecidableEq, Repr

namespace Failure

/-- The same failure with the contract's error renamed. -/
def map {ε ε' : Type} (g : ε → ε') : Failure ε → Failure ε'
  | error e => error (g e)
  | trap t => trap t

@[simp] theorem map_eq_trap {ε ε' : Type} (g : ε → ε') (f : Failure ε) (t : Trap) :
    f.map g = trap t ↔ f = trap t := by
  cases f <;> simp [map]

end Failure

/-- A computation that may fail and touches no state: a check, or a view. -/
abbrev Check (ε α : Type) := Except (Failure ε) α

namespace Check

variable {ε ε' α β : Type}

/-- Fail with the error `e` unless `p` holds. -/
def require (p : Prop) [Decidable p] (e : ε) : Check ε Unit :=
  if p then .ok () else .error (.error e)

/-- Stop on the trap `t` unless `p` holds. -/
def demand (p : Prop) [Decidable p] (t : Trap) : Check ε Unit :=
  if p then .ok () else .error (.trap t)

/-- The value of an option, or the error `e`. -/
def expect (o : Option α) (e : ε) : Check ε α :=
  match o with
  | some a => .ok a
  | none => .error (.error e)

/-- The value of an option, or the trap `t`. -/
def expectTrap (o : Option α) (t : Trap) : Check ε α :=
  match o with
  | some a => .ok a
  | none => .error (.trap t)

/-- Addition of unsigned integers of width `w`, as overflow checks compile it. -/
def add (w a b : ℕ) : Check ε ℕ := if a + b < 2 ^ w then .ok (a + b) else .error (.trap .overflow)

/-- Multiplication of unsigned integers of width `w`. -/
def mul (w a b : ℕ) : Check ε ℕ := if a * b < 2 ^ w then .ok (a * b) else .error (.trap .overflow)

/-- Subtraction of unsigned integers. -/
def sub (a b : ℕ) : Check ε ℕ := if b ≤ a then .ok (a - b) else .error (.trap .underflow)

/-- The same check with the contract's error renamed. -/
def mapError (g : ε → ε') (x : Check ε α) : Check ε' α :=
  match x with
  | .ok a => .ok a
  | .error e => .error (e.map g)

/-- The check does not stop on the trap `t`. -/
def Safe (t : Trap) (x : Check ε α) : Prop := x ≠ .error (.trap t)

section Inversion

variable {x : Check ε α} {f : α → Check ε β} {a : α} {b : β}

@[simp] theorem pure_ok {a' : α} : (pure a : Check ε α) = .ok a' ↔ a' = a := by
  show Except.ok a = Except.ok a' ↔ _
  rw [Except.ok.injEq, eq_comm]

theorem ite_ok {p : Prop} [Decidable p] {a' : α} {e : Failure ε} :
    (if p then .ok a else .error e : Check ε α) = .ok a' ↔ p ∧ a' = a := by
  by_cases h : p <;> simp [h, eq_comm]

theorem bind_ok : (x >>= f) = .ok b ↔ ∃ a, x = .ok a ∧ f a = .ok b := by
  cases x <;> simp [bind, Except.bind]

theorem ok_bind {a : α} : ((.ok a : Check ε α) >>= f) = f a := rfl

@[simp] theorem map_ok {g : α → β} : g <$> x = .ok b ↔ ∃ a, x = .ok a ∧ g a = b := by
  cases x <;> simp [Functor.map, Except.map]

@[simp] theorem require_ok {p : Prop} [Decidable p] {e : ε} {u : Unit} :
    require p e = .ok u ↔ p := by
  unfold require
  split <;> simp_all

@[simp] theorem demand_ok {p : Prop} [Decidable p] {t : Trap} {u : Unit} :
    (demand p t : Check ε Unit) = .ok u ↔ p := by
  unfold demand
  split <;> simp_all

@[simp] theorem expect_ok {o : Option α} {e : ε} : expect o e = .ok a ↔ o = some a := by
  cases o <;> simp [expect]

@[simp] theorem expectTrap_ok {o : Option α} {t : Trap} :
    (expectTrap o t : Check ε α) = .ok a ↔ o = some a := by
  cases o <;> simp [expectTrap]

@[simp] theorem add_ok {w m n k : ℕ} :
    (add w m n : Check ε ℕ) = .ok k ↔ m + n < 2 ^ w ∧ k = m + n :=
  ite_ok

@[simp] theorem mul_ok {w m n k : ℕ} :
    (mul w m n : Check ε ℕ) = .ok k ↔ m * n < 2 ^ w ∧ k = m * n :=
  ite_ok

@[simp] theorem sub_ok {m n k : ℕ} : (sub m n : Check ε ℕ) = .ok k ↔ n ≤ m ∧ k = m - n :=
  ite_ok

@[simp] theorem mapError_ok {g : ε → ε'} : mapError g x = .ok a ↔ x = .ok a := by
  cases x <;> simp [mapError]

theorem ok_of_toOption (h : x.toOption = some a) : x = .ok a := by
  cases x with
  | ok b =>
    cases h
    rfl
  | error e => cases h

theorem ok_of_isSome (h : x.toOption.isSome = true) : ∃ a, x = .ok a := by
  obtain ⟨a, ha⟩ := Option.isSome_iff_exists.mp h
  exact ⟨a, ok_of_toOption ha⟩

/-- A call that answered `a` was accepted: the answer alone is what a test evaluates. -/
theorem accepted_of_answer {σ : Type} {y : Check ε (α × σ)}
    (h : y.toOption.map Prod.fst = some a) : ∃ s', y = .ok (a, s') := by
  rcases y with _ | ⟨a', s'⟩
  · cases h
  · obtain rfl : a' = a := Option.some.inj h
    exact ⟨s', rfl⟩

end Inversion

section Safety

variable {t : Trap} {x : Check ε α} {f : α → Check ε β}

@[simp] theorem safe_ok {a : α} : Safe t (.ok a : Check ε α) := by simp [Safe]

@[simp] theorem safe_pure {a : α} : Safe t (pure a : Check ε α) := by simp [Safe, pure, Except.pure]

@[simp] theorem safe_error {e : ε} : Safe t (.error (.error e) : Check ε α) := by simp [Safe]

@[simp] theorem safe_trap {t' : Trap} : Safe t (.error (.trap t') : Check ε α) ↔ t' ≠ t := by
  simp [Safe]

theorem safe_bind : Safe t (x >>= f) ↔ Safe t x ∧ ∀ a, x = .ok a → Safe t (f a) := by
  cases x <;> simp [Safe, bind, Except.bind]

@[simp] theorem safe_map {g : α → β} : Safe t (g <$> x) ↔ Safe t x := by
  cases x <;> simp [Safe, Functor.map, Except.map]

@[simp] theorem safe_require {p : Prop} [Decidable p] {e : ε} : Safe t (require p e) := by
  unfold Safe require
  split <;> simp

@[simp] theorem safe_expect {o : Option α} {e : ε} : Safe t (expect o e) := by
  cases o <;> simp [Safe, expect]

@[simp] theorem safe_expectTrap {o : Option α} {t' : Trap} :
    Safe t (expectTrap o t' : Check ε α) ↔ (t' = t → o ≠ none) := by
  cases o <;> simp [Safe, expectTrap]

theorem safe_ite_trap {p : Prop} [Decidable p] {a : α} {t' : Trap} :
    Safe t (if p then .ok a else .error (.trap t') : Check ε α) ↔ (t' = t → p) := by
  by_cases h : p <;> simp [h, Safe]

@[simp] theorem safe_add {w m n : ℕ} :
    Safe t (add w m n : Check ε ℕ) ↔ (Trap.overflow = t → m + n < 2 ^ w) :=
  safe_ite_trap

@[simp] theorem safe_mul {w m n : ℕ} :
    Safe t (mul w m n : Check ε ℕ) ↔ (Trap.overflow = t → m * n < 2 ^ w) :=
  safe_ite_trap

@[simp] theorem safe_sub {m n : ℕ} :
    Safe t (sub m n : Check ε ℕ) ↔ (Trap.underflow = t → n ≤ m) :=
  safe_ite_trap

@[simp] theorem safe_mapError {g : ε → ε'} : Safe t (mapError g x) ↔ Safe t x := by
  cases x <;> simp [Safe, mapError]

@[simp] theorem safe_ite {p : Prop} [Decidable p] {x y : Check ε α} :
    Safe t (if p then x else y) ↔ (p → Safe t x) ∧ (¬p → Safe t y) := by
  by_cases h : p <;> simp [h]

end Safety

end Check

/-- A call over the state `σ`: the answer and the state it leaves, or a failure. -/
def Tx (ε σ α : Type) := σ → Check ε (α × σ)

namespace Tx

variable {ε ε' σ τ α β : Type}

instance : Monad (Tx ε σ) where
  pure a := fun s => .ok (a, s)
  bind x f := fun s =>
    match x s with
    | .ok (a, s') => f a s'
    | .error e => .error e

/-- The state as it stands. -/
def read : Tx ε σ σ := fun s => .ok (s, s)

/-- Replace the state by `f` of it. -/
def modify (f : σ → σ) : Tx ε σ Unit := fun s => .ok ((), f s)

/-- Stop with the contract's error `e`. -/
def fail (e : ε) : Tx ε σ α := fun _ => .error (.error e)

/-- Stop with the error `e` unless `p` holds. -/
def require (p : Prop) [Decidable p] (e : ε) : Tx ε σ Unit := fun s =>
  if p then .ok ((), s) else .error (.error e)

/-- Stop on the trap `t` unless `p` holds. -/
def demand (p : Prop) [Decidable p] (t : Trap) : Tx ε σ Unit := fun s =>
  if p then .ok ((), s) else .error (.trap t)

/-- Run a check or a view. -/
def lift (x : Check ε α) : Tx ε σ α := fun s =>
  match x with
  | .ok a => .ok (a, s)
  | .error e => .error e

/-- Run a check of the state. -/
def view (f : σ → Check ε α) : Tx ε σ α := fun s => lift (f s) s

/-- The value of an option, or the error `e`. -/
def expect (o : Option α) (e : ε) : Tx ε σ α := fun s =>
  match o with
  | some a => .ok (a, s)
  | none => .error (.error e)

/-- The value of an option, or the trap `t`. -/
def expectTrap (o : Option α) (t : Trap) : Tx ε σ α := fun s =>
  match o with
  | some a => .ok (a, s)
  | none => .error (.trap t)

/-- Run a call over a part `τ` of the state, its errors renamed by `g`. -/
def zoom (part : σ → τ) (put : σ → τ → σ) (g : ε' → ε) (x : Tx ε' τ α) : Tx ε σ α := fun s =>
  match x (part s) with
  | .ok (a, t) => .ok (a, put s t)
  | .error e => .error (e.map g)

/-- The same call, its answer read through `g`. -/
def answer (g : α → β) (x : Tx ε σ α) : Tx ε σ β := fun s =>
  match x s with
  | .ok (a, s') => .ok (g a, s')
  | .error e => .error e

/-! ## Inversion of a successful call

No inversion lemma is proved by `rfl`, although some hold definitionally: rewriting with a
definitional equation makes the kernel compare the two programs by running them. -/

section Inversion

variable {s : σ} {r : β × σ} {f : α → Tx ε σ β} {k : Unit → Tx ε σ β}

@[simp] theorem pure_ok {b : β} : (pure b : Tx ε σ β) s = .ok r ↔ r = (b, s) := by
  show Except.ok (b, s) = Except.ok r ↔ _
  rw [Except.ok.injEq, eq_comm]

theorem bind_ok {x : Tx ε σ α} :
    (x >>= f) s = .ok r ↔ ∃ a s', x s = .ok (a, s') ∧ f a s' = .ok r := by
  show (match x s with | .ok (a, s') => f a s' | .error e => .error e) = _ ↔ _
  cases hx : x s with
  | error e => simp
  | ok p =>
    obtain ⟨a, s'⟩ := p
    constructor
    · intro h
      exact ⟨a, s', rfl, h⟩
    · rintro ⟨_, _, h, h'⟩
      cases h
      exact h'

@[simp] theorem bind_pure_ok {a : α} : ((pure a : Tx ε σ α) >>= f) s = .ok r ↔ f a s = .ok r :=
  ⟨id, id⟩

@[simp] theorem bind_read_ok {f : σ → Tx ε σ β} : (read >>= f) s = .ok r ↔ f s s = .ok r :=
  ⟨id, id⟩

@[simp] theorem modify_ok {g : σ → σ} {r : Unit × σ} :
    (modify g : Tx ε σ Unit) s = .ok r ↔ r = ((), g s) := by
  rw [modify, Except.ok.injEq, eq_comm]

@[simp] theorem bind_modify_ok {g : σ → σ} : (modify g >>= k) s = .ok r ↔ k () (g s) = .ok r :=
  ⟨id, id⟩

@[simp] theorem fail_ok {e : ε} : (fail e : Tx ε σ β) s = .ok r ↔ False := by
  simp [fail]

@[simp] theorem bind_fail_ok {e : ε} : ((fail e : Tx ε σ α) >>= f) s = .ok r ↔ False := by
  simp [bind_ok]

@[simp] theorem require_ok {p : Prop} [Decidable p] {e : ε} {r : Unit × σ} :
    (require p e : Tx ε σ Unit) s = .ok r ↔ p ∧ r = ((), s) := by
  unfold require
  split <;> simp_all [eq_comm]

@[simp] theorem bind_require_ok {p : Prop} [Decidable p] {e : ε} :
    (require p e >>= k) s = .ok r ↔ p ∧ k () s = .ok r := by
  rw [bind_ok]
  constructor
  · rintro ⟨⟨⟩, s', h, h'⟩
    obtain ⟨hp, hs⟩ := require_ok.mp h
    cases hs
    exact ⟨hp, h'⟩
  · rintro ⟨hp, h⟩
    exact ⟨(), s, require_ok.mpr ⟨hp, rfl⟩, h⟩

@[simp] theorem demand_ok {p : Prop} [Decidable p] {t : Trap} {r : Unit × σ} :
    (demand p t : Tx ε σ Unit) s = .ok r ↔ p ∧ r = ((), s) := by
  unfold demand
  split <;> simp_all [eq_comm]

@[simp] theorem bind_demand_ok {p : Prop} [Decidable p] {t : Trap} :
    (demand p t >>= k) s = .ok r ↔ p ∧ k () s = .ok r := by
  rw [bind_ok]
  constructor
  · rintro ⟨⟨⟩, s', h, h'⟩
    obtain ⟨hp, hs⟩ := demand_ok.mp h
    cases hs
    exact ⟨hp, h'⟩
  · rintro ⟨hp, h⟩
    exact ⟨(), s, demand_ok.mpr ⟨hp, rfl⟩, h⟩

@[simp] theorem lift_ok {x : Check ε β} :
    (lift x : Tx ε σ β) s = .ok r ↔ ∃ b, x = .ok b ∧ r = (b, s) := by
  unfold lift
  cases x <;> simp [eq_comm]

@[simp] theorem bind_lift_ok {x : Check ε α} :
    (lift x >>= f) s = .ok r ↔ ∃ a, x = .ok a ∧ f a s = .ok r := by
  rw [bind_ok]
  constructor
  · rintro ⟨a, s', h, h'⟩
    obtain ⟨b, hb, hs⟩ := lift_ok.mp h
    cases hs
    exact ⟨a, hb, h'⟩
  · rintro ⟨a, ha, h⟩
    exact ⟨a, s, lift_ok.mpr ⟨a, ha, rfl⟩, h⟩

@[simp] theorem view_ok {g : σ → Check ε β} :
    (view g : Tx ε σ β) s = .ok r ↔ ∃ b, g s = .ok b ∧ r = (b, s) :=
  lift_ok

@[simp] theorem bind_view_ok {g : σ → Check ε α} :
    (view g >>= f) s = .ok r ↔ ∃ a, g s = .ok a ∧ f a s = .ok r :=
  bind_lift_ok

@[simp] theorem expect_ok {o : Option β} {e : ε} :
    (expect o e : Tx ε σ β) s = .ok r ↔ ∃ b, o = some b ∧ r = (b, s) := by
  unfold expect
  cases o <;> simp [eq_comm]

@[simp] theorem bind_expect_ok {o : Option α} {e : ε} :
    (expect o e >>= f) s = .ok r ↔ ∃ a, o = some a ∧ f a s = .ok r := by
  rw [bind_ok]
  cases o <;> simp [expect]

@[simp] theorem expectTrap_ok {o : Option β} {t : Trap} :
    (expectTrap o t : Tx ε σ β) s = .ok r ↔ ∃ b, o = some b ∧ r = (b, s) := by
  unfold expectTrap
  cases o <;> simp [eq_comm]

@[simp] theorem bind_expectTrap_ok {o : Option α} {t : Trap} :
    (expectTrap o t >>= f) s = .ok r ↔ ∃ a, o = some a ∧ f a s = .ok r := by
  rw [bind_ok]
  cases o <;> simp [expectTrap]

@[simp] theorem zoom_ok {part : σ → τ} {put : σ → τ → σ} {g : ε' → ε} {x : Tx ε' τ β} :
    zoom part put g x s = .ok r ↔ ∃ b t, x (part s) = .ok (b, t) ∧ r = (b, put s t) := by
  unfold zoom
  cases hx : x (part s) with
  | error e => simp
  | ok p => simp [Prod.ext_iff, eq_comm]

@[simp] theorem bind_zoom_ok {part : σ → τ} {put : σ → τ → σ} {g : ε' → ε} {x : Tx ε' τ α} :
    (zoom part put g x >>= f) s = .ok r ↔
      ∃ a t, x (part s) = .ok (a, t) ∧ f a (put s t) = .ok r := by
  rw [bind_ok]
  constructor
  · rintro ⟨a, s', h, h'⟩
    obtain ⟨b, t, ht, hs⟩ := zoom_ok.mp h
    cases hs
    exact ⟨a, t, ht, h'⟩
  · rintro ⟨a, t, ht, h⟩
    exact ⟨a, put s t, zoom_ok.mpr ⟨a, t, ht, rfl⟩, h⟩

@[simp] theorem answer_ok {g : α → β} {x : Tx ε σ α} :
    answer g x s = .ok r ↔ ∃ a, x s = .ok (a, r.2) ∧ r.1 = g a := by
  unfold answer
  cases hx : x s with
  | error e => simp
  | ok p =>
    obtain ⟨a, s'⟩ := p
    obtain ⟨b, s''⟩ := r
    simp only [Except.ok.injEq, Prod.mk.injEq]
    constructor
    · rintro ⟨rfl, rfl⟩
      exact ⟨a, ⟨rfl, rfl⟩, rfl⟩
    · rintro ⟨_, ⟨rfl, rfl⟩, rfl⟩
      exact ⟨rfl, rfl⟩

@[simp] theorem ite_apply {p : Prop} [Decidable p] {x y : Tx ε σ α} :
    (if p then x else y) s = if p then x s else y s := by
  split <;> rfl

end Inversion

/-! ## Calls that do not stop on a given trap -/

/-- From the state `s`, the call does not stop on the trap `t`. -/
def Safe (t : Trap) (x : Tx ε σ α) (s : σ) : Prop := x s ≠ .error (.trap t)

section Safety

variable {t : Trap} {s : σ} {f : α → Tx ε σ β} {k : Unit → Tx ε σ β}

theorem safe_bind {x : Tx ε σ α} :
    Safe t (x >>= f) s ↔ Safe t x s ∧ ∀ a s', x s = .ok (a, s') → Safe t (f a) s' := by
  show (match x s with | .ok (a, s') => f a s' | .error e => .error e) ≠ _ ↔ x s ≠ _ ∧ _
  cases hx : x s with
  | error e => simp
  | ok p =>
    obtain ⟨a, s'⟩ := p
    constructor
    · intro h
      refine ⟨by simp, fun b s'' hb => ?_⟩
      cases hb
      exact h
    · rintro ⟨-, h⟩
      exact h a s' rfl

@[simp] theorem safe_pure {b : β} : Safe t (pure b : Tx ε σ β) s := by
  show Except.ok (b, s) ≠ _
  simp

@[simp] theorem safe_read : Safe t (read : Tx ε σ σ) s := by
  simp [Safe, read]

@[simp] theorem safe_modify {g : σ → σ} : Safe t (modify g : Tx ε σ Unit) s := by
  simp [Safe, modify]

@[simp] theorem safe_fail {e : ε} : Safe t (fail e : Tx ε σ β) s := by
  simp [Safe, fail]

@[simp] theorem safe_require {p : Prop} [Decidable p] {e : ε} :
    Safe t (require p e : Tx ε σ Unit) s := by
  unfold Safe require
  split <;> simp

@[simp] theorem safe_demand {p : Prop} [Decidable p] {t' : Trap} :
    Safe t (demand p t' : Tx ε σ Unit) s ↔ t' = t → p := by
  unfold Safe demand
  split <;> simp_all

@[simp] theorem safe_lift {x : Check ε β} :
    Safe t (lift x : Tx ε σ β) s ↔ x.Safe t := by
  unfold Safe Check.Safe lift
  cases x <;> simp

@[simp] theorem safe_view {g : σ → Check ε β} :
    Safe t (view g : Tx ε σ β) s ↔ (g s).Safe t :=
  safe_lift

@[simp] theorem safe_expect {o : Option β} {e : ε} : Safe t (expect o e : Tx ε σ β) s := by
  unfold Safe expect
  cases o <;> simp

@[simp] theorem safe_expectTrap {o : Option β} {t' : Trap} :
    Safe t (expectTrap o t' : Tx ε σ β) s ↔ t' = t → o ≠ none := by
  unfold Safe expectTrap
  cases o <;> simp

@[simp] theorem safe_zoom {part : σ → τ} {put : σ → τ → σ} {g : ε' → ε} {x : Tx ε' τ β} :
    Safe t (zoom part put g x) s ↔ Safe t x (part s) := by
  unfold Safe zoom
  cases x (part s) <;> simp

@[simp] theorem safe_answer {g : α → β} {x : Tx ε σ α} :
    Safe t (answer g x) s ↔ Safe t x s := by
  unfold Safe answer
  cases x s <;> simp

@[simp] theorem safe_ite {p : Prop} [Decidable p] {x y : Tx ε σ α} :
    Safe t (if p then x else y) s ↔ (p → Safe t x s) ∧ (¬p → Safe t y s) := by
  by_cases h : p <;> simp [h]

/-! The same steps at the head of a `do` block: what a passed step says is there for the rest. -/

@[simp] theorem safe_bind_read {f : σ → Tx ε σ β} : Safe t (read >>= f) s ↔ Safe t (f s) s :=
  ⟨id, id⟩

@[simp] theorem safe_bind_modify {g : σ → σ} : Safe t (modify g >>= k) s ↔ Safe t (k ()) (g s) :=
  ⟨id, id⟩

@[simp] theorem safe_bind_require {p : Prop} [Decidable p] {e : ε} :
    Safe t (require p e >>= k) s ↔ (p → Safe t (k ()) s) := by
  rw [safe_bind]
  constructor
  · intro h hp
    exact h.2 () s (require_ok.mpr ⟨hp, rfl⟩)
  · intro h
    refine ⟨safe_require, fun a s' ok => ?_⟩
    obtain ⟨hp, heq⟩ := require_ok.mp ok
    cases heq
    exact h hp

@[simp] theorem safe_bind_demand {p : Prop} [Decidable p] {t' : Trap} :
    Safe t (demand p t' >>= k) s ↔ (t' = t → p) ∧ (p → Safe t (k ()) s) := by
  rw [safe_bind, safe_demand]
  refine and_congr_right fun _ => ?_
  constructor
  · intro h hp
    exact h () s (demand_ok.mpr ⟨hp, rfl⟩)
  · intro h a s' ok
    obtain ⟨hp, heq⟩ := demand_ok.mp ok
    cases heq
    exact h hp

@[simp] theorem safe_bind_lift {x : Check ε α} :
    Safe t (lift x >>= f) s ↔ x.Safe t ∧ ∀ a, x = .ok a → Safe t (f a) s := by
  rw [safe_bind, safe_lift]
  refine and_congr_right fun _ => ?_
  constructor
  · intro h a ha
    exact h a s (lift_ok.mpr ⟨a, ha, rfl⟩)
  · intro h a s' ok
    obtain ⟨b, hb, heq⟩ := lift_ok.mp ok
    cases heq
    exact h a hb

@[simp] theorem safe_bind_view {g : σ → Check ε α} :
    Safe t (view g >>= f) s ↔ (g s).Safe t ∧ ∀ a, g s = .ok a → Safe t (f a) s :=
  safe_bind_lift

@[simp] theorem safe_bind_expect {o : Option α} {e : ε} :
    Safe t (expect o e >>= f) s ↔ ∀ a, o = some a → Safe t (f a) s := by
  rw [safe_bind]
  cases o <;> simp [expect]

@[simp] theorem safe_bind_expectTrap {o : Option α} {t' : Trap} :
    Safe t (expectTrap o t' >>= f) s ↔
      (t' = t → o ≠ none) ∧ ∀ a, o = some a → Safe t (f a) s := by
  rw [safe_bind, safe_expectTrap]
  refine and_congr_right fun _ => ?_
  cases o <;> simp [expectTrap]

@[simp] theorem safe_bind_zoom {part : σ → τ} {put : σ → τ → σ} {g : ε' → ε} {x : Tx ε' τ α} :
    Safe t (zoom part put g x >>= f) s ↔
      Safe t x (part s) ∧ ∀ a c, x (part s) = .ok (a, c) → Safe t (f a) (put s c) := by
  rw [safe_bind, safe_zoom]
  refine and_congr_right fun _ => ?_
  constructor
  · intro h a c hc
    exact h a _ (zoom_ok.mpr ⟨a, c, hc, rfl⟩)
  · intro h a s' ok
    obtain ⟨b, c, hc, heq⟩ := zoom_ok.mp ok
    cases heq
    exact h a c hc

end Safety

/-! ## Calls that leave a part of the state alone -/

/-- Whatever the call does, it leaves the part `g` of the state as it was. -/
def Frames {ν : Type} (g : σ → ν) (x : Tx ε σ α) : Prop := ∀ s r, x s = .ok r → g r.2 = g s

namespace Frames

variable {ν : Type} {g : σ → ν}

theorem bind {x : Tx ε σ α} {f : α → Tx ε σ β} (hx : Frames g x) (hf : ∀ a, Frames g (f a)) :
    Frames g (x >>= f) := by
  intro s r ok
  obtain ⟨a, s', hfirst, hrest⟩ := bind_ok.mp ok
  exact (hf a s' r hrest).trans (hx s _ hfirst)

theorem pure {a : α} : Frames g (pure a : Tx ε σ α) := by
  intro s r ok
  cases pure_ok.mp ok
  rfl

theorem read : Frames g (read : Tx ε σ σ) := by
  intro s r ok
  cases ok
  rfl

theorem modify {f : σ → σ} (hf : ∀ s, g (f s) = g s) : Frames g (modify f : Tx ε σ Unit) := by
  intro s r ok
  cases modify_ok.mp ok
  exact hf s

theorem require {p : Prop} [Decidable p] {e : ε} : Frames g (require p e : Tx ε σ Unit) := by
  intro s r ok
  cases (require_ok.mp ok).2
  rfl

theorem demand {p : Prop} [Decidable p] {t : Trap} : Frames g (demand p t : Tx ε σ Unit) := by
  intro s r ok
  cases (demand_ok.mp ok).2
  rfl

theorem expect {o : Option α} {e : ε} : Frames g (expect o e : Tx ε σ α) := by
  intro s r ok
  obtain ⟨a, -, heq⟩ := expect_ok.mp ok
  cases heq
  rfl

theorem expectTrap {o : Option α} {t : Trap} : Frames g (expectTrap o t : Tx ε σ α) := by
  intro s r ok
  obtain ⟨a, -, heq⟩ := expectTrap_ok.mp ok
  cases heq
  rfl

theorem lift {x : Check ε α} : Frames g (lift x : Tx ε σ α) := by
  intro s r ok
  obtain ⟨a, -, heq⟩ := lift_ok.mp ok
  cases heq
  rfl

theorem view {f : σ → Check ε α} : Frames g (view f : Tx ε σ α) := by
  intro s r ok
  obtain ⟨a, -, heq⟩ := view_ok.mp ok
  cases heq
  rfl

theorem zoom {part : σ → τ} {put : σ → τ → σ} {rename : ε' → ε} {x : Tx ε' τ α}
    (hput : ∀ s t, g (put s t) = g s) : Frames g (zoom part put rename x) := by
  intro s r ok
  obtain ⟨a, t, -, heq⟩ := zoom_ok.mp ok
  cases heq
  exact hput s t

/-- What follows a call that leaves `g` alone starts from a state with the same `g`. -/
theorem rest {x : Tx ε σ α} {f : α → Tx ε σ β} {s : σ} {r : β × σ} (hx : Frames g x)
    (ok : (x >>= f) s = .ok r) : ∃ a s', g s' = g s ∧ f a s' = .ok r := by
  obtain ⟨a, s', hfirst, hrest⟩ := bind_ok.mp ok
  exact ⟨a, s', hx s _ hfirst, hrest⟩

theorem ite {p : Prop} [Decidable p] {x y : Tx ε σ α} (hx : Frames g x) (hy : Frames g y) :
    Frames g (if p then x else y) := by
  split
  · exact hx
  · exact hy

theorem answer {x : Tx ε σ α} {f : α → β} (hx : Frames g x) : Frames g (answer f x) := by
  intro s r ok
  obtain ⟨a, hfirst, -⟩ := answer_ok.mp ok
  exact hx s _ hfirst

end Frames

end Tx

end ContractLib
