import ProofBridge.KeyRegistry.Expiry

/-!
# What the registry remembers of a dead slot

While a guard reports a position of the account, no call takes a slot's record away until 30 days
after the slot's expiry, and no expiry is recorded before the time it is recorded at. So what a guard's
position relies on is there for as long as `GRACE_PERIOD` after the position began.
-/

namespace ProofBridge
namespace Grace

open ContractLib KeyRegistry

variable {Y : Type} {N : Neighbors Y} {H : KeyHost} {env : Env} {c : KeyRegistry.Chain Y}
  {account : BytesN32} {id : U32} {k k' : Keys}

/-- One of the registry's guards reports a position of the account. -/
def Guarded (N : Neighbors Y) (c : KeyRegistry.Chain Y) (account : BytesN32) : Prop :=
  ∃ guard ∈ c.state.guards.getD [], N.hasOpenPositions c.outside guard account = some true

theorem hasOpenPositions_of_guard {ask : Address → BytesN32 → Option Bool} {guards : List Address}
    {guard : Address} {inFlight : Bool} (hguard : guard ∈ guards)
    (hopen : ask guard account = some true)
    (ok : hasOpenPositions ask account guards = .ok inFlight) : inFlight = true := by
  induction guards with
  | nil => cases hguard
  | cons other guards ih =>
    unfold hasOpenPositions at ok
    obtain ⟨answer, hanswer, ok⟩ := Check.bind_ok.mp ok
    rw [Check.expectTrap_ok] at hanswer
    split at ok
    · exact Check.pure_ok.mp ok
    · next hnone =>
      rcases List.mem_cons.mp hguard with rfl | hmem
      · rw [hopen] at hanswer
        exact absurd (Option.some.inj hanswer).symm hnone
      · exact ih hmem ok

theorem pruneAtOnce_of_guarded (h : Guarded N c account) {atOnce : Bool}
    (ok : pruneAtOnce N account c = .ok atOnce) : atOnce = false := by
  obtain ⟨guard, hmem, hopen⟩ := h
  unfold pruneAtOnce at ok
  rw [if_neg (List.ne_nil_of_mem hmem)] at ok
  obtain ⟨inFlight, hanswer, ok⟩ := Check.bind_ok.mp ok
  have hinFlight := hasOpenPositions_of_guard hmem hopen hanswer
  subst hinFlight
  exact Check.pure_ok.mp ok

theorem not_released (h : Guarded N c account) :
    requireNoOpenPositions (N.hasOpenPositions c.outside) c.state.guards account ≠ .ok () := by
  intro ok
  obtain ⟨guard, hmem, hopen⟩ := h
  unfold requireNoOpenPositions at ok
  obtain ⟨⟨⟩, -, ok⟩ := Check.bind_ok.mp ok
  obtain ⟨inFlight, hanswer, ok⟩ := Check.bind_ok.mp ok
  have hnone := Check.require_ok.mp ok
  rw [hasOpenPositions_of_guard hmem hopen hanswer] at hnone
  cases hnone

/-- A slot that is stored was stored before. -/
theorem stored_of_moves {times : List ℕ} {p q : Lifetime} (h : Moves times p q)
    (hq : q.1.isSome = true) : p.1.isSome = true := by
  induction h with
  | nil => exact hq
  | cons moves move ih => exact ih (move.stored hq)

/-! ## A slot that goes -/

/-- A slot that room was made of is one whose expiry is 30 days gone. -/
theorem farPast_of_dropped (hguard : Guarded N c account) {dropped kept : List U32}
    (hroom : Room N env account c dropped kept) (hid : id ∈ dropped)
    (hstored : (c.keys.getSlot account id).isSome = true) :
    FarPast env.now false (c.keys.expiredAt account id) := by
  cases hroom with
  | spare => cases hid
  | pruned hfull hatOnce hroom =>
    have hlater := pruneAtOnce_of_guarded hguard hatOnce
    subst hlater
    exact (prunable_iff hstored).mp (List.mem_filter.mp hid).2

theorem added_remembers {account' commitment : BytesN32} {slotId : U32}
    (h : Added N env account' commitment slotId c k')
    (hguard : Guarded N c account) (hstored : (c.keys.getSlot account id).isSome = true) :
    (k'.getSlot account id).isSome = true ∨
      FarPast env.now false (c.keys.expiredAt account id) := by
  obtain ⟨dropped, kept, hroom, rfl⟩ := h.made
  by_cases haccount : account = account'
  · subst haccount
    have hreads : AddedReads env account commitment slotId dropped kept c.keys _ := addedReads
    rw [hreads.slot]
    split
    · exact .inl rfl
    · split
      · next hdropped => exact .inr (farPast_of_dropped hguard hroom hdropped hstored)
      · exact .inl hstored
  · left
    rw [(sameSlots_insert haccount).slot]
    exact hstored

/-- A call that takes a slot's record away, while a guard reports a position of its account, comes 30
days after the slot's expiry. -/
theorem step_remembers {call : KeyRegistry.Call} {r : KeyRegistry.Ret}
    (h : KeyRegistry.Step N H env c call r k') (hsound : c.keys.Sound account)
    (hguard : Guarded N c account) (hstored : (c.keys.getSlot account id).isSome = true) :
    (k'.getSlot account id).isSome = true ∨
      FarPast env.now false (c.keys.expiredAt account id) := by
  cases h with
  | quiet => exact .inl hstored
  | registered _ _ hadded =>
    have hkept := added_remembers hadded hguard hstored
    exact hkept
  | proven hadded => exact added_remembers hadded hguard hstored
  | @shortened account' commitment _ validUntil slotId slot hkey hslot hdate hshorter =>
    left
    show ((Keys.setSlot _ _ _ _).getSlot account id).isSome = true
    rw [Keys.getSlot_setSlot]
    split
    · rfl
    · exact hstored
  | @revoked account' _ nonce hnonce hrelease =>
    left
    rw [getSlot_leave]
    split
    · next hleft =>
      -- the account has a live slot, so the guard was asked
      obtain ⟨rfl, hid⟩ := hleft
      exact absurd (hrelease (List.ne_nil_of_mem ((hsound.stored id).mp hstored)))
        (not_released hguard)
    · exact hstored
  | cancelled => exact .inl hstored
  | approved => exact .inl hstored
  | repinned => exact .inl hstored

/-! ## What a position relies on -/

/-- What the registry holds, after calls at the times `times`, of a slot a position has relied on since
`start`. -/
structure Remembered (start : ℕ) (times : List ℕ) (k : Keys) (account : BytesN32) (id : U32) :
    Prop where
  /-- No expiry lies before the position. -/
  floor : k.getExpiredAt account id = 0 ∨ start ≤ k.getExpiredAt account id
  /-- The record is there, or 30 days are over. -/
  stored : (k.getSlot account id).isSome = true ∨ ∃ t ∈ times, start + GRACE_PERIOD < t

theorem Move.floor {now start : ℕ} {p q : Lifetime} (h : Move now p q) (hstart : start ≤ now)
    (hp : p.2 = 0 ∨ start ≤ p.2) : q.2 = 0 ∨ start ≤ q.2 := by
  cases h with
  | kept => exact hp
  | dropped => exact .inl rfl
  | shortened slot recorded date hdate hshorter =>
    right
    show start ≤ if recorded = 0 then max date now else min recorded (max date now)
    have hmax : now ≤ max date now := le_max_right date now
    split
    · omega
    · next hrecorded =>
      have hrecorded' := hp.resolve_left hrecorded
      exact le_min hrecorded' (hstart.trans hmax)

/-- A slot that is usable now is stored, and no expiry of it has come. -/
theorem remembered_of_usable {times : List ℕ} {commitment : BytesN32}
    (hexact : (k.lifetime account id).Exact times) (htimes : ∀ t ∈ times, t ≤ env.now)
    (husable : k.commitmentAt account env id = .ok commitment) :
    Remembered env.now [] k account id := by
  obtain ⟨slot, hslot, husable⟩ := Check.bind_ok.mp husable
  obtain ⟨⟨⟩, hlive, -⟩ := Check.bind_ok.mp husable
  have hslot := Check.expect_ok.mp hslot
  have hlive := Check.require_ok.mp hlive
  refine ⟨?_, .inl (by rw [hslot]; rfl)⟩
  by_cases hrecorded : k.getExpiredAt account id = 0
  · exact .inl hrecorded
  · right
    have hbound : slot.validUntil ≠ 0 :=
      fun h0 => hrecorded ((hexact.unbounded slot hslot).mpr h0)
    have hcovers : k.getExpiredAt account id ≤ env.now ↔ slot.validUntil ≤ env.now :=
      hexact.bound slot hslot hbound env.now htimes
    omega

/-- A call of the registry keeps what a position relies on, while a guard reports the position. -/
theorem remembered_of_step {call : KeyRegistry.Call} {r : KeyRegistry.Ret} {start : ℕ}
    {times : List ℕ} (h : KeyRegistry.Step N H env c call r k')
    (hsound : ∀ account, c.keys.Sound account)
    (hexact : ∀ id, ∃ times, (c.keys.lifetime account id).Exact times)
    (hallocated : c.keys.Allocated account id) (hguard : Guarded N c account)
    (hstart : start ≤ env.now) (hkept : Remembered start times c.keys account id) :
    Remembered start (env.now :: times) k' account id := by
  have hmove : Move env.now (c.keys.lifetime account id) (k'.lifetime account id) := by
    rcases h.move hsound with hmove | hborn
    · exact hmove
    · -- the id was handed out long before
      have hlt : id.toNat < (c.keys.getEntry account).nextSlotId.toNat := hallocated
      rw [← hborn.next] at hlt
      exact absurd hlt (lt_irrefl _)
  refine ⟨Move.floor hmove hstart hkept.floor, ?_⟩
  rcases hkept.stored with hstored | ⟨t, ht, hover⟩
  · rcases step_remembers h (hsound account) hguard hstored with hstored' | ⟨hexpired, hfar⟩
    · exact .inl hstored'
    · right
      obtain ⟨slot, hslot⟩ := Option.isSome_iff_exists.mp hstored
      obtain ⟨_, hexact⟩ := hexact id
      rw [expiredAt_eq hexact hslot] at hexpired hfar
      rw [if_neg Bool.false_ne_true] at hfar
      have hfloor := hkept.floor.resolve_left hexpired
      refine ⟨env.now, List.mem_cons_self, ?_⟩
      omega
  · exact .inr ⟨t, List.mem_cons_of_mem _ ht, hover⟩

end Grace
end ProofBridge
