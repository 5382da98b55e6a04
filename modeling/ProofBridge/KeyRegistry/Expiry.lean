import Mathlib.Data.List.TakeWhile
import ProofBridge.KeyRegistry.Slots

/-!
# When a slot dies

A slot's date only moves earlier, so a slot refused once stays refused. The expiry the registry
records is not the date, which may lie in the past already when it is named, but the earliest time
from which the slot is unusable; both are read here off one small machine, `Move`.
-/

namespace ProofBridge
namespace KeyRegistry

open ContractLib

/-! ## One slot and its recorded expiry -/

/-- A slot, if it is stored, and the expiry recorded for it. -/
abbrev Lifetime := Option KeySlot × ℕ

/-- What a call at the time `now` does to a slot that was handed out. -/
inductive Move (now : ℕ) : Lifetime → Lifetime → Prop
  | kept (p : Lifetime) : Move now p p
  | dropped (p : Lifetime) : Move now p (none, 0)
  | shortened (slot : KeySlot) (recorded date : ℕ) (hdate : date ≠ 0)
      (hshorter : slot.validUntil ≠ 0 → date < slot.validUntil) :
      Move now (some slot, recorded) (some { slot with validUntil := date },
        if recorded = 0 then max date now else min recorded (max date now))

namespace Lifetime

/-- The slot is refused at the time `now`: it is gone, or past its bound. -/
def Refused (now : ℕ) (p : Lifetime) : Prop :=
  ∀ slot, p.1 = some slot → slot.validUntil ≠ 0 ∧ slot.validUntil ≤ now

/-- What the recorded expiry says of the slot, after calls at the times `times`. -/
structure Exact (times : List ℕ) (p : Lifetime) : Prop where
  gone : p.1 = none → p.2 = 0
  unbounded : ∀ slot, p.1 = some slot → (p.2 = 0 ↔ slot.validUntil = 0)
  bound : ∀ slot, p.1 = some slot → slot.validUntil ≠ 0 →
    ∀ now, (∀ t ∈ times, t ≤ now) → (p.2 ≤ now ↔ slot.validUntil ≤ now)

end Lifetime

namespace Move

variable {now now' : ℕ} {times : List ℕ} {p q : Lifetime}

/-- The dead stay dead. -/
theorem refused (h : Move now p q) {t t' : ℕ} (ht : t ≤ t') (hp : p.Refused t) : q.Refused t' := by
  cases h with
  | kept =>
    intro slot hslot
    obtain ⟨hbound, hle⟩ := hp slot hslot
    exact ⟨hbound, hle.trans ht⟩
  | dropped =>
    intro slot hslot
    cases hslot
  | shortened slot recorded date hdate hshorter =>
    obtain ⟨hbound, hle⟩ := hp slot rfl
    intro slot' hslot'
    obtain rfl := Option.some.inj hslot'
    have hlt := hshorter hbound
    exact ⟨hdate, by show date ≤ t'; omega⟩

/-- The recorded expiry only moves earlier while the slot is stored. -/
theorem earlier (h : Move now p q) (hstored : q.1.isSome = true) (hp : p.2 ≠ 0) :
    q.2 ≠ 0 ∧ q.2 ≤ p.2 := by
  cases h with
  | kept => exact ⟨hp, le_rfl⟩
  | dropped => cases hstored
  | shortened slot recorded date hdate hshorter =>
    show (if recorded = 0 then _ else _) ≠ 0 ∧ (if recorded = 0 then _ else _) ≤ recorded
    rw [if_neg hp]
    have hmax : date ≤ max date now := le_max_left date now
    constructor
    · have hpos : 0 < min recorded (max date now) :=
        lt_min (Nat.pos_of_ne_zero hp) (by omega)
      omega
    · exact min_le_left _ _

/-- A later call does not change which earlier times the expiry covers. -/
theorem covers_iff (h : Move now p q) (hstored : q.1.isSome = true) {t : ℕ} (ht : t < now) :
    (q.2 ≠ 0 ∧ q.2 ≤ t) ↔ (p.2 ≠ 0 ∧ p.2 ≤ t) := by
  cases h with
  | kept => exact Iff.rfl
  | dropped => cases hstored
  | shortened slot recorded date hdate hshorter =>
    show ((if recorded = 0 then _ else _) ≠ 0 ∧ (if recorded = 0 then _ else _) ≤ t) ↔ _
    have hmax : now ≤ max date now := le_max_right date now
    split
    · next hrecorded =>
      rw [hrecorded]
      omega
    · next hrecorded =>
      show min recorded (max date now) ≠ 0 ∧ min recorded (max date now) ≤ t ↔ _
      omega

/-- One call keeps the recorded expiry exact. -/
theorem exact (h : Move now p q) (hp : p.Exact times) : q.Exact (now :: times) := by
  cases h with
  | kept =>
    refine ⟨hp.gone, hp.unbounded, ?_⟩
    intro slot hslot hbound t ht
    exact hp.bound slot hslot hbound t fun t' ht' => ht t' (List.mem_cons_of_mem _ ht')
  | dropped =>
    have hgone : ∀ {P : KeySlot → Prop} slot, (none : Option KeySlot) = some slot → P slot := by
      intro P slot hslot
      cases hslot
    exact ⟨fun _ => rfl, hgone, hgone⟩
  | shortened slot recorded date hdate hshorter =>
    have hunbounded : recorded = 0 ↔ slot.validUntil = 0 := hp.unbounded slot rfl
    have hmax : date ≤ max date now := le_max_left date now
    refine ⟨fun hnone => (by cases hnone), ?_, ?_⟩
    · intro slot' hslot'
      obtain rfl := Option.some.inj hslot'
      show (if recorded = 0 then _ else _) = 0 ↔ date = 0
      split <;> omega
    · intro slot' hslot' _ t ht
      obtain rfl := Option.some.inj hslot'
      show (if recorded = 0 then _ else _) ≤ t ↔ date ≤ t
      have hnow : now ≤ t := ht now List.mem_cons_self
      split
      · omega
      · next hrecorded =>
        have hbound : slot.validUntil ≠ 0 := fun h0 => hrecorded (hunbounded.mpr h0)
        have hlt := hshorter hbound
        have hcovers : recorded ≤ t ↔ slot.validUntil ≤ t :=
          hp.bound slot rfl hbound t fun t' ht' => ht t' (List.mem_cons_of_mem _ ht')
        omega

/-- A slot that is gone does not come back. -/
theorem stored (h : Move now p q) (hq : q.1.isSome = true) : p.1.isSome = true := by
  cases h with
  | kept => exact hq
  | dropped => cases hq
  | shortened => rfl

end Move

/-- Calls at these times, the latest first. -/
inductive Moves : List ℕ → Lifetime → Lifetime → Prop
  | nil (p : Lifetime) : Moves [] p p
  | cons {now : ℕ} {times : List ℕ} {p q q' : Lifetime} (moves : Moves times p q)
      (move : Move now q q') : Moves (now :: times) p q'

namespace Moves

variable {times : List ℕ} {p q : Lifetime}

theorem refused (h : Moves times p q) {t t' : ℕ} (ht : t ≤ t') (hp : p.Refused t) :
    q.Refused t' := by
  induction h with
  | nil =>
    intro slot hslot
    obtain ⟨hbound, hle⟩ := hp slot hslot
    exact ⟨hbound, hle.trans ht⟩
  | cons moves move ih => exact move.refused le_rfl (ih hp)

theorem earlier (h : Moves times p q) (hstored : q.1.isSome = true) (hp : p.2 ≠ 0) :
    q.2 ≠ 0 ∧ q.2 ≤ p.2 := by
  induction h with
  | nil => exact ⟨hp, le_rfl⟩
  | cons moves move ih =>
    obtain ⟨hne, hle⟩ := ih (move.stored hstored) hp
    obtain ⟨hne', hle'⟩ := move.earlier hstored hne
    exact ⟨hne', hle'.trans hle⟩

theorem covers_iff (h : Moves times p q) (hstored : q.1.isSome = true) {t : ℕ}
    (ht : ∀ t' ∈ times, t < t') : (q.2 ≠ 0 ∧ q.2 ≤ t) ↔ (p.2 ≠ 0 ∧ p.2 ≤ t) := by
  induction h with
  | nil => exact Iff.rfl
  | cons moves move ih =>
    rw [move.covers_iff hstored (ht _ List.mem_cons_self)]
    exact ih (move.stored hstored) fun t' ht' => ht t' (List.mem_cons_of_mem _ ht')

end Moves

/-! ## The registry moves its slots this way -/

variable {Y : Type} {N : Neighbors Y} {H : KeyHost} {env : Env} {c c₁ c₂ : Chain Y}
  {account : BytesN32} {id : U32} {k k' : Keys}

def Keys.lifetime (k : Keys) (account : BytesN32) (id : U32) : Lifetime :=
  (k.getSlot account id, k.getExpiredAt account id)

/-- The id was handed out. -/
def Keys.Allocated (k : Keys) (account : BytesN32) (id : U32) : Prop :=
  id.toNat < (k.getEntry account).nextSlotId.toNat

/-- The id was handed out by this call, to a slot without a bound. -/
structure Born (k : Keys) (account : BytesN32) (id : U32) (k' : Keys) : Prop where
  next : id = (k.getEntry account).nextSlotId
  slot : ∃ slot, slot.validUntil = 0 ∧
    k'.lifetime account id = (some slot, k.getExpiredAt account id)

theorem Keys.SameSlots.lifetime (h : k.SameSlots k' account) :
    k'.lifetime account id = k.lifetime account id := by
  unfold Keys.lifetime
  rw [h.slot, h.expiry]

theorem Keys.SameSlots.move (h : k.SameSlots k' account) :
    Move env.now (k.lifetime account id) (k'.lifetime account id) := by
  rw [h.lifetime]
  exact .kept _

theorem Added.move {account' commitment : BytesN32} {slotId : U32}
    (h : Added N env account' commitment slotId c k') (hsound : c.keys.Sound account') :
    Move env.now (c.keys.lifetime account id) (k'.lifetime account id) ∨
      Born c.keys account id k' := by
  obtain ⟨dropped, kept, hroom, rfl⟩ := h.made
  by_cases haccount : account = account'
  · subst haccount
    have hreads : AddedReads env account commitment slotId dropped kept c.keys _ := addedReads
    by_cases hid : id = slotId
    · -- a slot that is dropped was live, hence handed out before
      have hlive : id ∉ dropped := by
        intro hdropped
        have hlt := hsound.below id ((hroom.mem id).mpr (.inl hdropped))
        rw [hid, h.next] at hlt
        exact lt_irrefl _ hlt
      refine .inr ⟨hid.trans h.next,
        { commitment, validUntil := 0, registeredAt := env.now }, rfl, ?_⟩
      unfold Keys.lifetime
      rw [hreads.slot, if_pos hid, hreads.expiry, if_neg hlive]
    · left
      unfold Keys.lifetime
      rw [hreads.slot, if_neg hid, hreads.expiry]
      split
      · exact .dropped _
      · exact .kept _
  · exact .inl (sameSlots_insert haccount).move

/-- Every accepted call moves a slot this way or hands it out. -/
theorem Step.move {call : Call} {r : Ret} (h : Step N H env c call r k')
    (hsound : ∀ account, c.keys.Sound account) :
    Move env.now (c.keys.lifetime account id) (k'.lifetime account id) ∨
      Born c.keys account id k' := by
  cases h with
  | quiet => exact .inl (.kept _)
  | registered _ _ hadded =>
    rcases hadded.move (hsound _) with hmove | hborn
    · exact .inl hmove
    · exact .inr ⟨hborn.next, hborn.slot⟩
  | proven hadded => exact hadded.move (hsound _)
  | @shortened account' commitment _ validUntil slotId slot hkey hslot hdate hshorter =>
    left
    have hread : (c.keys.shorten account' env.now slotId slot validUntil.toNat).lifetime account id
        = if (account, id) = (account', slotId) then
            (some { slot with validUntil := validUntil.toNat },
              if c.keys.getExpiredAt account' slotId = 0 then max validUntil.toNat env.now
              else min (c.keys.getExpiredAt account' slotId) (max validUntil.toNat env.now))
          else c.keys.lifetime account id := by
      show ((Keys.setSlot _ _ _ _).getSlot account id,
        (Keys.setExpiredAt _ _ _ _).getExpiredAt account id) = _
      rw [Keys.getSlot_setSlot, Keys.getExpiredAt_setExpiredAt]
      split <;> rfl
    rw [hread]
    split
    · next hpair =>
      obtain ⟨rfl, rfl⟩ := Prod.mk.inj hpair
      unfold Keys.lifetime
      rw [hslot]
      exact .shortened slot _ _ hdate hshorter
    · exact .kept _
  | revoked =>
    left
    unfold Keys.lifetime
    rw [getSlot_leave, getExpiredAt_leave]
    split
    · exact .dropped _
    · exact .kept _
  | cancelled => exact .inl (sameSlots_setNonce c.keys).move
  | approved => exact .inl (sameSlots_setApproval c.keys).move
  | repinned => exact .inl (sameSlots_setRepin c.keys).move

/-- Ids once handed out stay so. -/
theorem Step.next_le {call : Call} {r : Ret} (h : Step N H env c call r k') :
    (c.keys.getEntry account).nextSlotId.toNat ≤ (k'.getEntry account).nextSlotId.toNat := by
  cases hadds : added? H.toHost ((env, call), r) with
  | none => exact (h.kept hadds account).1 ▸ le_rfl
  | some a =>
    obtain ⟨account', commitment, slotId⟩ := a
    obtain ⟨k₁, hadded, hsame⟩ := h.added hadds
    rw [(hsame account).entry]
    obtain ⟨dropped, kept, -, rfl⟩ := hadded.made
    by_cases haccount : account = account'
    · subst haccount
      have hreads : AddedReads env account commitment slotId dropped kept c.keys _ := addedReads
      rw [hreads.entry, ← hadded.next, BitVec.toNat_add]
      exact (Nat.le_succ _).trans_eq (Nat.mod_eq_of_lt hadded.fits).symm
    · rw [(sameSlots_insert haccount).entry]

/-- One call keeps the recorded expiry of every slot exact. -/
theorem Step.exact {call : Call} {r : Ret} {times : List ℕ} (h : Step N H env c call r k')
    (hsound : ∀ account, c.keys.Sound account) (hexact : (c.keys.lifetime account id).Exact times) :
    (k'.lifetime account id).Exact (env.now :: times) := by
  rcases h.move hsound with hmove | hborn
  · exact hmove.exact hexact
  · obtain ⟨slot, hunbounded, hread⟩ := hborn.slot
    -- an id not yet handed out is not stored, and has no expiry
    have hnone : c.keys.getSlot account id = none := by
      rw [← Option.not_isSome_iff_eq_none, (hsound account).stored]
      intro hlive
      have hlt := (hsound account).below id hlive
      rw [hborn.next] at hlt
      exact lt_irrefl _ hlt
    have hzero : c.keys.getExpiredAt account id = 0 := hexact.gone hnone
    rw [hread, hzero]
    refine ⟨fun h => (by cases h), ?_, ?_⟩
    · intro slot' hslot'
      obtain rfl := Option.some.inj hslot'
      simp [hunbounded]
    · intro slot' hslot' hbound
      obtain rfl := Option.some.inj hslot'
      exact absurd hunbounded hbound

/-! ## Over a run -/

variable {outside : Y → Y → Prop} {y : Y} {history earlier later : History}

/-- The time of the block a call ran in. -/
def calledAt (e : (Env × Call) × Ret) : ℕ := e.1.1.now

/-- Blocks come at non-decreasing times. -/
def Chronological (history : History) : Prop :=
  history.Pairwise fun later earlier => calledAt earlier ≤ calledAt later

instance (history : History) : Decidable (Chronological history) :=
  inferInstanceAs (Decidable (List.Pairwise _ _))

/-- The calls up to a time, and those after it. -/
def asOf (now : ℕ) (history : History) : History :=
  history.dropWhile fun e => decide (now < calledAt e)

def since (now : ℕ) (history : History) : History :=
  history.takeWhile fun e => decide (now < calledAt e)

theorem since_append_asOf {now : ℕ} : since now history ++ asOf now history = history :=
  List.takeWhile_append_dropWhile

theorem le_of_mem_asOf {now : ℕ} (hchron : Chronological history) {e : (Env × Call) × Ret}
    (he : e ∈ asOf now history) : calledAt e ≤ now := by
  induction history with
  | nil => cases he
  | cons e' history ih =>
    obtain ⟨hhead, htail⟩ := List.pairwise_cons.mp hchron
    unfold asOf at he
    rw [List.dropWhile_cons] at he
    split at he
    · exact ih htail he
    · next hle =>
      rw [decide_eq_true_eq, not_lt] at hle
      rcases List.mem_cons.mp he with rfl | he
      · exact hle
      · exact (hhead e he).trans hle

theorem lt_of_mem_since {now : ℕ} {e : (Env × Call) × Ret} (he : e ∈ since now history) :
    now < calledAt e := by
  have hlater : decide (now < calledAt e) = true :=
    @List.mem_takeWhile_imp _ (fun e => decide (now < calledAt e)) _ _ he
  exact of_decide_eq_true hlater

theorem moves_of_run (first : Run (system N H outside) (Chain.fresh y) earlier c₁)
    (hid : c₁.keys.Allocated account id) (second : Run (system N H outside) c₁ later c₂) :
    Moves (later.map calledAt) (c₁.keys.lifetime account id) (c₂.keys.lifetime account id) ∧
      c₂.keys.Allocated account id := by
  induction second with
  | start => exact ⟨.nil _, hid⟩
  | @accepted later c c' t r run admitted ok ih =>
    obtain ⟨hmoves, hallocated⟩ := ih
    have hsound := sound_of_run (first.trans run)
    have hstep := (step_of_exec (fun account => (hsound account).nodup) ok).1
    refine ⟨?_, hallocated.trans_le hstep.next_le⟩
    rcases hstep.move hsound with hmove | hborn
    · exact .cons hmoves hmove
    · -- the id was handed out long before
      have hlt : id.toNat < (c.keys.getEntry account).nextSlotId.toNat := hallocated
      rw [← hborn.next] at hlt
      exact absurd hlt (lt_irrefl _)
  | refused run failed ih => exact ih
  | outside run moved ih =>
    obtain ⟨y', -, rfl⟩ := moved
    exact ih

theorem exact_of_run (run : Run (system N H outside) (Chain.fresh y) history c) :
    (c.keys.lifetime account id).Exact (history.map calledAt) := by
  induction run with
  | start => exact ⟨fun _ => rfl, fun _ h => (by cases h), fun _ h => (by cases h)⟩
  | @accepted history c c' t r run admitted ok ih =>
    have hsound := sound_of_run run
    exact (step_of_exec (fun account => (hsound account).nodup) ok).1.exact hsound ih
  | refused run failed ih => exact ih
  | outside run moved ih =>
    obtain ⟨y', -, rfl⟩ := moved
    exact ih

/-- No commitment is handed to a verifier. -/
def Keys.Refuses (k : Keys) (account : BytesN32) (id : U32) (env : Env) : Prop :=
  ∀ commitment, k.commitmentAt account env id ≠ .ok commitment

theorem refuses_iff : k.Refuses account id env ↔ (k.lifetime account id).Refused env.now := by
  unfold Keys.Refuses Keys.commitmentAt Lifetime.Refused Keys.lifetime
  simp only [ne_eq, Check.bind_ok, Check.expect_ok, Check.require_ok, Check.pure_ok]
  constructor
  · intro h slot hslot
    by_contra hbound
    exact h slot.commitment ⟨slot, hslot, ⟨⟩, hbound, rfl⟩
  · rintro h commitment ⟨slot, hslot, ⟨⟩, hbound, rfl⟩
    exact hbound (h slot hslot)

theorem refuses_of_bound {bound : ℕ}
    (hslot : (k.getSlot account id).map (fun slot => slot.validUntil) = some bound)
    (hbound : bound ≠ 0) (hle : bound ≤ env.now) : k.Refuses account id env := by
  rw [refuses_iff]
  intro slot hread
  change k.getSlot account id = some slot at hread
  rw [hread, Option.map_some, Option.some.injEq] at hslot
  rw [hslot]
  exact ⟨hbound, hle⟩

/-- While a slot is stored, its expiry is what is recorded for it. -/
theorem expiredAt_eq {times : List ℕ} (hexact : (k.lifetime account id).Exact times)
    {slot : KeySlot} (hslot : k.getSlot account id = some slot) :
    k.expiredAt account id = k.getExpiredAt account id := by
  have hunbounded : k.getExpiredAt account id = 0 ↔ slot.validUntil = 0 :=
    hexact.unbounded slot hslot
  unfold Keys.expiredAt
  rw [hslot]
  show (if slot.validUntil ≠ 0 then _ else 0) = _
  split
  · next hbound => rw [if_neg fun h0 => hbound (hunbounded.mp h0)]
  · next hbound => exact (hunbounded.mpr (not_not.mp hbound)).symm

/-- Death is permanent and its time exact: a slot refused once is refused ever after, and while it
is stored, its expiry is the earliest time from which it is unusable, which only moves earlier. -/
theorem slot_death (first : Run (system N H outside) (Chain.fresh y) earlier c₁)
    (second : Run (system N H outside) c₁ later c₂) (hchron : Chronological (later ++ earlier))
    (hid : c₁.keys.Allocated account id) :
    (∀ env₁ env₂ : Env, env₁.now ≤ env₂.now → c₁.keys.Refuses account id env₁ →
      c₂.keys.Refuses account id env₂) ∧
    ∀ slot, c₂.keys.getSlot account id = some slot →
      (c₂.keys.expiredAt account id = 0 ↔ slot.validUntil = 0) ∧
      (∀ env : Env, ∃ c, Run (system N H outside) (Chain.fresh y)
          (asOf env.now (later ++ earlier)) c ∧
        Run (system N H outside) c (since env.now (later ++ earlier)) c₂ ∧
        ((c.keys.getSlot account id).isSome = true →
          (c.keys.Refuses account id env ↔
            c₂.keys.expiredAt account id ≠ 0 ∧ c₂.keys.expiredAt account id ≤ env.now))) ∧
      (c₁.keys.expiredAt account id ≠ 0 → c₂.keys.expiredAt account id ≠ 0 ∧
        c₂.keys.expiredAt account id ≤ c₁.keys.expiredAt account id) := by
  have hrun := first.trans second
  have hexact := @exact_of_run _ _ _ _ account id _ _ _ hrun
  obtain ⟨hmoves, -⟩ := moves_of_run first hid second
  constructor
  · intro env₁ env₂ hle hrefuses
    rw [refuses_iff] at hrefuses ⊢
    exact hmoves.refused hle hrefuses
  · intro slot hslot
    have hstored : (c₂.keys.lifetime account id).1.isSome = true := by
      show (c₂.keys.getSlot account id).isSome = true
      rw [hslot]
      rfl
    rw [expiredAt_eq hexact hslot]
    refine ⟨hexact.unbounded slot hslot, ?_, ?_⟩
    · intro env
      have hcut : Run (system N H outside) (Chain.fresh y)
          (since env.now (later ++ earlier) ++ asOf env.now (later ++ earlier)) c₂ := by
        rw [since_append_asOf]
        exact hrun
      obtain ⟨c, hasOf, hsince⟩ := hcut.cut
      refine ⟨c, hasOf, hsince, ?_⟩
      intro hstored'
      obtain ⟨slot', hslot'⟩ := Option.isSome_iff_exists.mp hstored'
      have hlive := ((sound_of_run hasOf account).stored id).mp hstored'
      obtain ⟨hmoves', -⟩ :=
        moves_of_run hasOf ((sound_of_run hasOf account).below id hlive) hsince
      have hlater : ∀ t ∈ (since env.now (later ++ earlier)).map calledAt, env.now < t := by
        intro t ht
        obtain ⟨e, he, rfl⟩ := List.mem_map.mp ht
        exact lt_of_mem_since he
      have hbefore : ∀ t ∈ (asOf env.now (later ++ earlier)).map calledAt, t ≤ env.now := by
        intro t ht
        obtain ⟨e, he, rfl⟩ := List.mem_map.mp ht
        exact le_of_mem_asOf hchron he
      have hcovers : c₂.keys.getExpiredAt account id ≠ 0 ∧ c₂.keys.getExpiredAt account id ≤ env.now
          ↔ c.keys.getExpiredAt account id ≠ 0 ∧ c.keys.getExpiredAt account id ≤ env.now :=
        hmoves'.covers_iff hstored hlater
      have hexact' := @exact_of_run _ _ _ _ account id _ _ _ hasOf
      have hunbounded : c.keys.getExpiredAt account id = 0 ↔ slot'.validUntil = 0 :=
        hexact'.unbounded slot' hslot'
      rw [refuses_iff, hcovers]
      constructor
      · intro hrefused
        obtain ⟨hbound, hle⟩ := hrefused slot' hslot'
        exact ⟨fun h0 => hbound (hunbounded.mp h0),
          (hexact'.bound slot' hslot' hbound env.now hbefore).mpr hle⟩
      · rintro ⟨hrecorded, hle⟩ slot'' hslot''
        obtain rfl := Option.some.inj (hslot'.symm.trans hslot'')
        have hbound : slot'.validUntil ≠ 0 := fun h0 => hrecorded (hunbounded.mpr h0)
        exact ⟨hbound, (hexact'.bound slot' hslot' hbound env.now hbefore).mp hle⟩
    · intro hexpired
      have hstored₁ : ∃ slot₁, c₁.keys.getSlot account id = some slot₁ := by
        cases hread : c₁.keys.getSlot account id with
        | none =>
          unfold Keys.expiredAt at hexpired
          rw [hread] at hexpired
          exact absurd rfl hexpired
        | some slot₁ => exact ⟨slot₁, rfl⟩
      obtain ⟨slot₁, hslot₁⟩ := hstored₁
      rw [expiredAt_eq (exact_of_run first) hslot₁] at hexpired ⊢
      exact hmoves.earlier hstored hexpired

/-- The sample key before it is killed. -/
def sampleNamed : History × Chain Unit :=
  (play sampleKeySystem sampleKeyCalls.dropLast [] (Chain.fresh ())).getD ([], Chain.fresh ())

def sampleKilled : History × Chain Unit :=
  (play sampleKeySystem (sampleKeyCalls.drop 3) [] sampleNamed.2).getD ([], sampleNamed.2)

/-- Named for 5000 and killed at 1200, the key dies at 1200; nothing brings it back after 5000. -/
theorem slot_death_sample :
    sampleNamed.2.keys.expiredAt 0x3A 0 = 5000 ∧ sampleKilled.2.keys.expiredAt 0x3A 0 = 1200 ∧
    sampleKilled.2.keys.expiredAt 0x3A 0 ≤ sampleNamed.2.keys.expiredAt 0x3A 0 ∧
    (∀ env : Env, 5000 ≤ env.now → sampleKilled.2.keys.Refuses 0x3A 0 env) := by
  have hfirst : Run sampleKeySystem (Chain.fresh ()) sampleNamed.1 sampleNamed.2 :=
    Run.played (by decide +kernel) fun _ _ _ => trivial
  have hsecond : Run sampleKeySystem sampleNamed.2 sampleKilled.1 sampleKilled.2 :=
    Run.played (by decide +kernel) fun _ _ _ => trivial
  have hchron : Chronological (sampleKilled.1 ++ sampleNamed.1) := by decide +kernel
  have hall : sampleNamed.2.keys.Allocated 0x3A 0 := by
    unfold Keys.Allocated
    decide +kernel
  obtain ⟨hdead, hstored⟩ := slot_death hfirst hsecond hchron hall
  have hnamed : sampleNamed.2.keys.expiredAt 0x3A 0 = 5000 := by decide +kernel
  have hslot : ∃ slot, sampleKilled.2.keys.getSlot 0x3A 0 = some slot :=
    Option.isSome_iff_exists.mp (by decide +kernel)
  obtain ⟨slot, hslot⟩ := hslot
  refine ⟨hnamed, by decide +kernel, ?_, ?_⟩
  · refine ((hstored slot hslot).2.2 ?_).2
    rw [hnamed]
    decide
  · intro env hle
    have hdate : (sampleNamed.2.keys.getSlot 0x3A 0).map (fun slot => slot.validUntil)
        = some 5000 := by
      decide +kernel
    exact hdead (sampleEnv 5000) env hle (refuses_of_bound hdate (by decide) (by decide))

end KeyRegistry
end ProofBridge
