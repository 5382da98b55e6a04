import ProofBridge.Core.Bank
import ProofBridge.KeyRegistry.Step
import ProofBridge.Lib.Issue

/-!
# The slots of an account

Five stores hold the slots of an account: the entry with its live list, the slots themselves, their
expiries, the used commitments and the slot each key occupies. `Keys.Sound` says how they agree, and
`Registered` what the history of the accepted registrations says of them.
-/

namespace ProofBridge
namespace KeyRegistry

open ContractLib

variable {Y : Type} {N : Neighbors Y} {H : KeyHost} {env : Env} {c c' : Chain Y}
  {account : BytesN32} {k k' : Keys}

/-- The records of one account agree. -/
structure Keys.Sound (k : Keys) (account : BytesN32) : Prop where
  few : (k.getEntry account).live.length ≤ MAX_ACTIVE_SLOTS
  nodup : (k.getEntry account).live.Nodup
  below : ∀ id ∈ (k.getEntry account).live, id.toNat < (k.getEntry account).nextSlotId.toNat
  stored : ∀ id, (k.getSlot account id).isSome = true ↔ id ∈ (k.getEntry account).live
  /-- A stored slot is the one its key occupies. -/
  keyed : ∀ id slot, k.getSlot account id = some slot →
    k.getKeySlot account slot.commitment = some id
  /-- A key occupies the slot it was given, while that is stored. -/
  named : ∀ commitment id, k.getKeySlot account commitment = some id →
    k.isUsed account commitment = true ∧ id.toNat < (k.getEntry account).nextSlotId.toNat ∧
      ∀ slot, k.getSlot account id = some slot → slot.commitment = commitment

theorem Keys.sound_fresh (account : BytesN32) : Keys.fresh.Sound account where
  few := Nat.zero_le _
  nodup := List.nodup_nil
  below id h := by cases h
  stored id := by
    constructor
    · intro h
      cases h
    · intro h
      cases h
  keyed id slot h := by cases h
  named commitment id h := by cases h

/-- The stores of one account's slots, as they are read. -/
structure Keys.SameSlots (k k' : Keys) (account : BytesN32) : Prop where
  entry : k'.getEntry account = k.getEntry account
  slot : ∀ id, k'.getSlot account id = k.getSlot account id
  expiry : ∀ id, k'.getExpiredAt account id = k.getExpiredAt account id
  keySlot : ∀ commitment, k'.getKeySlot account commitment = k.getKeySlot account commitment
  used : ∀ commitment, k'.isUsed account commitment = k.isUsed account commitment

theorem Keys.SameSlots.refl (k : Keys) (account : BytesN32) : k.SameSlots k account :=
  ⟨rfl, fun _ => rfl, fun _ => rfl, fun _ => rfl, fun _ => rfl⟩

theorem sameSlots_setNonce {account' : BytesN32} {nonce : ℕ} (k : Keys) :
    k.SameSlots (k.setNonce account' nonce) account :=
  ⟨rfl, fun _ => rfl, fun _ => rfl, fun _ => rfl, fun _ => rfl⟩

theorem sameSlots_setApproval {account' maker : BytesN32} {a : MakerApproval} (k : Keys) :
    k.SameSlots (k.setApproval account' maker a) account :=
  ⟨rfl, fun _ => rfl, fun _ => rfl, fun _ => rfl, fun _ => rfl⟩

theorem sameSlots_setRepin {account' orderHash : BytesN32} {r : RepinApproval} (k : Keys) :
    k.SameSlots (k.setRepin account' orderHash r) account :=
  ⟨rfl, fun _ => rfl, fun _ => rfl, fun _ => rfl, fun _ => rfl⟩

theorem Keys.SameSlots.sound (h : k.SameSlots k' account) (hsound : k.Sound account) :
    k'.Sound account where
  few := by rw [h.entry]; exact hsound.few
  nodup := by rw [h.entry]; exact hsound.nodup
  below := by rw [h.entry]; exact hsound.below
  stored id := by rw [h.entry, h.slot]; exact hsound.stored id
  keyed id slot hslot := by
    rw [h.keySlot]
    rw [h.slot] at hslot
    exact hsound.keyed id slot hslot
  named commitment id hid := by
    rw [h.keySlot] at hid
    obtain ⟨hused, hbelow, hslot⟩ := hsound.named commitment id hid
    rw [h.used, h.entry]
    refine ⟨hused, hbelow, ?_⟩
    intro slot h'
    rw [h.slot] at h'
    exact hslot slot h'

/-! ## Dropping slots -/

section Room

variable {dropped kept : List U32}

theorem Room.length (h : Room N env account c dropped kept) : kept.length < MAX_ACTIVE_SLOTS := by
  cases h with
  | spare hspare => exact hspare
  | pruned _ _ hroom => exact hroom

/-- Room is made by splitting the live slots in two. -/
theorem Room.mem (h : Room N env account c dropped kept) (id : U32) :
    (id ∈ (c.keys.getEntry account).live ↔ id ∈ dropped ∨ id ∈ kept) := by
  cases h with
  | spare => simp
  | @pruned atOnce =>
    rw [List.mem_filter, List.mem_filter]
    cases prunable env account atOnce c.keys id <;> simp

theorem Room.disjoint (h : Room N env account c dropped kept) {id : U32} (hid : id ∈ kept) :
    id ∉ dropped := by
  cases h with
  | spare => simp
  | pruned =>
    rw [List.mem_filter] at hid ⊢
    simp_all

theorem Room.nodup (h : Room N env account c dropped kept)
    (hnodup : (c.keys.getEntry account).live.Nodup) : kept.Nodup := by
  cases h with
  | spare => exact hnodup
  | pruned => exact hnodup.filter _

end Room

/-! ## Adding a slot -/

section Added

variable {commitment : BytesN32} {slotId : U32}

/-- What a new slot leaves in the stores of its own account. -/
structure AddedReads (env : Env) (account commitment : BytesN32) (slotId : U32)
    (dropped kept : List U32) (k k' : Keys) : Prop where
  entry : k'.getEntry account = { nextSlotId := slotId + 1, live := kept ++ [slotId] }
  slot : ∀ id, k'.getSlot account id
    = if id = slotId then some { commitment, validUntil := 0, registeredAt := env.now }
      else if id ∈ dropped then none else k.getSlot account id
  expiry : ∀ id, k'.getExpiredAt account id
    = if id ∈ dropped then 0 else k.getExpiredAt account id
  keySlot : ∀ commitment', k'.getKeySlot account commitment'
    = if commitment' = commitment then some slotId else k.getKeySlot account commitment'
  used : ∀ commitment', k'.isUsed account commitment'
    = (decide (commitment' = commitment) || k.isUsed account commitment')

theorem addedReads {dropped kept : List U32} : AddedReads env account commitment slotId dropped kept
    k ((k.removeSlots account dropped).insertSlot account commitment env.now slotId
      { nextSlotId := slotId + 1, live := kept ++ [slotId] }) where
  entry := by
    show (Keys.setEntry _ _ _).getEntry account = _
    rw [Keys.getEntry_setEntry, if_pos rfl]
  slot id := by
    show (Keys.setSlot _ _ _ _).getSlot account id = _
    rw [Keys.getSlot_setSlot, Keys.getSlot_removeSlots]
    simp
  expiry id := by
    show (Keys.removeSlots _ _ _).getExpiredAt account id = _
    rw [Keys.getExpiredAt_removeSlots]
    simp
  keySlot commitment' := by
    show (Keys.setKeySlot _ _ _ _).getKeySlot account commitment' = _
    rw [Keys.getKeySlot_setKeySlot]
    obtain ⟨slots, expiries, hremove⟩ := @Keys.removeSlots_eq k account dropped
    rw [hremove]
    simp only [Prod.mk.injEq, true_and]
    rfl
  used commitment' := by
    show (Keys.setUsed _ _ _).isUsed account commitment' = _
    rw [Keys.isUsed_setUsed]
    obtain ⟨slots, expiries, hremove⟩ := @Keys.removeSlots_eq k account dropped
    rw [hremove]
    simp only [Prod.mk.injEq, true_and]
    rfl

/-- A new slot of another account changes nothing. -/
theorem sameSlots_insert {account' : BytesN32} {dropped : List U32} {entry : RegistryEntry}
    (h : account' ≠ account) : k.SameSlots ((k.removeSlots account dropped).insertSlot account
      commitment env.now slotId entry) account' := by
  have hpair : ∀ {A : Type} (a b : A), (account', a) ≠ (account, b) :=
    fun a b heq => h (Prod.mk.inj heq).1
  obtain ⟨slots, expiries, hremove⟩ := @Keys.removeSlots_eq k account dropped
  constructor
  · show (Keys.setEntry _ _ _).getEntry account' = _
    rw [Keys.getEntry_setEntry, if_neg h, hremove]
    rfl
  · intro id
    show (Keys.setSlot _ _ _ _).getSlot account' id = _
    rw [Keys.getSlot_setSlot, if_neg (hpair _ _), Keys.getSlot_removeSlots, if_neg fun hc => h hc.1]
  · intro id
    show (Keys.removeSlots _ _ _).getExpiredAt account' id = _
    rw [Keys.getExpiredAt_removeSlots, if_neg fun hc => h hc.1]
  · intro commitment'
    show (Keys.setKeySlot _ _ _ _).getKeySlot account' commitment' = _
    rw [Keys.getKeySlot_setKeySlot, if_neg (hpair _ _), hremove]
    rfl
  · intro commitment'
    show (Keys.setUsed _ _ _).isUsed account' commitment' = _
    rw [Keys.isUsed_setUsed, decide_eq_false (hpair _ _), hremove]
    rfl

/-- A new slot keeps the stores in agreement. -/
theorem Added.sound (h : Added N env account commitment slotId c k')
    (hsound : c.keys.Sound account) : k'.Sound account := by
  obtain ⟨dropped, kept, hroom, rfl⟩ := h.made
  have hreads : AddedReads env account commitment slotId dropped kept c.keys _ := addedReads
  have hnext := h.next
  have hbelow : ∀ id ∈ kept, id.toNat < slotId.toNat := by
    intro id hid
    rw [hnext]
    exact hsound.below id ((hroom.mem id).mpr (.inr hid))
  have hfresh : slotId ∉ kept := fun hid => lt_irrefl _ (hbelow slotId hid)
  have hsucc : (slotId + 1).toNat = slotId.toNat + 1 := by
    rw [BitVec.toNat_add]
    exact Nat.mod_eq_of_lt h.fits
  constructor
  · rw [hreads.entry, List.length_append]
    exact hroom.length
  · rw [hreads.entry]
    exact List.nodup_append.mpr ⟨hroom.nodup hsound.nodup, List.nodup_singleton _,
      fun a ha b hb heq => hfresh (by rw [List.mem_singleton.mp hb] at heq; exact heq ▸ ha)⟩
  · rw [hreads.entry]
    intro id hid
    rw [hsucc]
    rcases List.mem_append.mp hid with hid | hid
    · exact Nat.lt_succ_of_lt (hbelow id hid)
    · rw [List.mem_singleton.mp hid]
      exact Nat.lt_succ_self _
  · intro id
    rw [hreads.entry, hreads.slot, List.mem_append, List.mem_singleton]
    split
    · next hid => simp [hid]
    · next hid =>
      split
      · next hdropped =>
        have hkept : id ∉ kept := fun hkept => hroom.disjoint hkept hdropped
        simp [hid, hkept]
      · next hdropped =>
        rw [hsound.stored, hroom.mem]
        simp [hid, hdropped]
  · intro id slot hslot
    rw [hreads.slot] at hslot
    rw [hreads.keySlot]
    split at hslot
    · next hid =>
      obtain rfl := Option.some.inj hslot
      rw [if_pos rfl, hid]
    · split at hslot
      · cases hslot
      · have hkey := hsound.keyed id slot hslot
        rw [if_neg, hkey]
        -- the new key was never used, a stored slot's key was
        intro heq
        have hused := (hsound.named _ _ hkey).1
        rw [heq, h.unused] at hused
        cases hused
  · intro commitment' id hid
    rw [hreads.keySlot] at hid
    rw [hreads.used, hreads.entry, hsucc]
    split at hid
    · next hcommitment =>
      obtain rfl := Option.some.inj hid
      refine ⟨by simp [hcommitment], Nat.lt_succ_self _, ?_⟩
      intro slot hslot
      rw [hreads.slot, if_pos rfl] at hslot
      obtain rfl := Option.some.inj hslot
      exact hcommitment.symm
    · next hcommitment =>
      obtain ⟨hused, hlt, hnamed⟩ := hsound.named commitment' id hid
      rw [← hnext] at hlt
      refine ⟨by simp [hused], Nat.lt_succ_of_lt hlt, ?_⟩
      intro slot hslot
      rw [hreads.slot, if_neg fun heq => lt_irrefl _ (heq ▸ hlt)] at hslot
      split at hslot
      · cases hslot
      · exact hnamed slot hslot

end Added

/-! ## The other writes -/

/-- A new date leaves every other slot, and its own slot's key, as they were. -/
theorem sound_shorten {slotId : U32} {slot : KeySlot} {account' : BytesN32} {now validUntil : ℕ}
    (hslot : k.getSlot account slotId = some slot) (hsound : k.Sound account') :
    (k.shorten account now slotId slot validUntil).Sound account' := by
  have hread : ∀ id, (k.shorten account now slotId slot validUntil).getSlot account' id
      = if (account', id) = (account, slotId) then some { slot with validUntil }
        else k.getSlot account' id := fun id => Keys.getSlot_setSlot
  have hback : ∀ id slot', (k.shorten account now slotId slot validUntil).getSlot account' id
      = some slot' → ∃ old, k.getSlot account' id = some old ∧
        slot'.commitment = old.commitment := by
    intro id slot' h'
    rw [hread] at h'
    split at h'
    · next hpair =>
      obtain ⟨rfl, rfl⟩ := Prod.mk.inj hpair
      obtain rfl := Option.some.inj h'
      exact ⟨slot, hslot, rfl⟩
    · exact ⟨slot', h', rfl⟩
  refine { hsound with stored := ?_, keyed := ?_, named := ?_ }
  · intro id
    rw [hread]
    split
    · next hpair =>
      obtain ⟨rfl, rfl⟩ := Prod.mk.inj hpair
      have hstored := hsound.stored id
      rw [hslot] at hstored
      exact hstored
    · exact hsound.stored id
  · intro id slot' h'
    obtain ⟨old, hold, hcommitment⟩ := hback id slot' h'
    rw [hcommitment]
    exact hsound.keyed id old hold
  · intro commitment id hid
    obtain ⟨hused, hlt, hnamed⟩ := hsound.named commitment id hid
    refine ⟨hused, hlt, ?_⟩
    intro slot' h'
    obtain ⟨old, hold, hcommitment⟩ := hback id slot' h'
    rw [hcommitment]
    exact hnamed old hold

/-- What a revocation leaves in the stores of the slots. -/
theorem getSlot_leave {account' : BytesN32} {nonce : ℕ} {id : U32} :
    (k.leave account nonce).getSlot account' id
      = if account' = account ∧ id ∈ (k.getEntry account).live then none
        else k.getSlot account' id :=
  Keys.getSlot_removeSlots

theorem getExpiredAt_leave {account' : BytesN32} {nonce : ℕ} {id : U32} :
    (k.leave account nonce).getExpiredAt account' id
      = if account' = account ∧ id ∈ (k.getEntry account).live then 0
        else k.getExpiredAt account' id :=
  Keys.getExpiredAt_removeSlots

theorem getEntry_leave {account' : BytesN32} {nonce : ℕ} :
    (k.leave account nonce).getEntry account'
      = if account' = account then { k.getEntry account with live := [] }
        else k.getEntry account' := by
  show (Keys.setEntry _ _ _).getEntry account' = _
  obtain ⟨slots, expiries, hremove⟩ := @Keys.removeSlots_eq k account (k.getEntry account).live
  rw [Keys.getEntry_setEntry, hremove]
  rfl

theorem getKeySlot_leave {account' commitment : BytesN32} {nonce : ℕ} :
    (k.leave account nonce).getKeySlot account' commitment = k.getKeySlot account' commitment := by
  obtain ⟨slots, expiries, hremove⟩ := @Keys.removeSlots_eq k account (k.getEntry account).live
  unfold Keys.leave
  rw [hremove]
  rfl

theorem isUsed_leave {account' commitment : BytesN32} {nonce : ℕ} :
    (k.leave account nonce).isUsed account' commitment = k.isUsed account' commitment := by
  obtain ⟨slots, expiries, hremove⟩ := @Keys.removeSlots_eq k account (k.getEntry account).live
  unfold Keys.leave
  rw [hremove]
  rfl

/-- A revocation leaves the account without slots. -/
theorem getSlot_leave_self {nonce : ℕ} {id : U32} (hsound : k.Sound account) :
    (k.leave account nonce).getSlot account id = none := by
  rw [getSlot_leave]
  split
  · rfl
  · next hnot =>
    cases hread : k.getSlot account id with
    | none => rfl
    | some slot => exact absurd ⟨rfl, (hsound.stored id).mp (by rw [hread]; rfl)⟩ hnot

theorem sound_leave {account' : BytesN32} {nonce : ℕ} (hsound : k.Sound account') :
    (k.leave account nonce).Sound account' := by
  by_cases haccount : account' = account
  · subst haccount
    have hentry : (k.leave account' nonce).getEntry account'
        = { k.getEntry account' with live := [] } := by
      rw [getEntry_leave, if_pos rfl]
    constructor
    · rw [hentry]
      exact Nat.zero_le _
    · rw [hentry]
      exact List.nodup_nil
    · rw [hentry]
      intro id hid
      cases hid
    · intro id
      rw [hentry, getSlot_leave_self hsound]
      simp
    · intro id slot hslot
      rw [getSlot_leave_self hsound] at hslot
      cases hslot
    · intro commitment id hid
      rw [getKeySlot_leave] at hid
      obtain ⟨hused, hlt, -⟩ := hsound.named commitment id hid
      rw [isUsed_leave, hentry]
      refine ⟨hused, hlt, ?_⟩
      intro slot hslot
      rw [getSlot_leave_self hsound] at hslot
      cases hslot
  · have hsame : k.SameSlots (k.leave account nonce) account' := by
      constructor
      · rw [getEntry_leave, if_neg haccount]
      · intro id
        rw [getSlot_leave, if_neg fun h => haccount h.1]
      · intro id
        rw [getExpiredAt_leave, if_neg fun h => haccount h.1]
      · exact fun _ => getKeySlot_leave
      · exact fun _ => isUsed_leave
    exact hsame.sound hsound

/-! ## Every reachable state -/

/-- One accepted call keeps the stores of every account in agreement. -/
theorem Step.sound {call : Call} {r : Ret} (h : Step N H env c call r k')
    (hsound : ∀ account, c.keys.Sound account) (account : BytesN32) : k'.Sound account := by
  cases h with
  | quiet => exact hsound account
  | @registered account' _ _ _ _ _ _ k₁ _ _ hadded =>
    have hadd : k₁.Sound account := by
      by_cases haccount : account = account'
      · subst haccount
        exact hadded.sound (hsound account)
      · obtain ⟨dropped, kept, -, rfl⟩ := hadded.made
        exact (sameSlots_insert haccount).sound (hsound account)
    exact (sameSlots_setNonce k₁).sound hadd
  | @proven account' _ _ _ _ _ _ _ _ hadded =>
    by_cases haccount : account = account'
    · subst haccount
      exact hadded.sound (hsound account)
    · obtain ⟨dropped, kept, -, rfl⟩ := hadded.made
      exact (sameSlots_insert haccount).sound (hsound account)
  | shortened hkey hslot => exact sound_shorten hslot (hsound account)
  | revoked => exact sound_leave (hsound account)
  | cancelled => exact (sameSlots_setNonce c.keys).sound (hsound account)
  | approved => exact (sameSlots_setApproval c.keys).sound (hsound account)
  | repinned => exact (sameSlots_setRepin c.keys).sound (hsound account)

/-- The accepted calls of a run, with their answers, the newest first. -/
abbrev History := List ((Env × Call) × Ret)

variable {outside : Y → Y → Prop} {y : Y} {history : History}

theorem sound_of_run (run : Run (system N H outside) (Chain.fresh y) history c)
    (account : BytesN32) : c.keys.Sound account := by
  induction run generalizing account with
  | start => exact Keys.sound_fresh account
  | accepted run admitted ok ih =>
    exact (step_of_exec (fun account => (ih account).nodup) ok).1.sound ih account
  | refused run failed ih => exact ih account
  | outside run moved ih =>
    obtain ⟨y', -, rfl⟩ := moved
    exact ih account

/-! ## What was ever registered -/

/-- The slot an accepted call added, if it added one: the account, the key and the id. -/
def added? (H : Host) (e : (Env × Call) × Ret) : Option (BytesN32 × BytesN32 × U32) :=
  match e.1.2, e.2 with
  | .register account _ blsPubKey _ _ _, .slot slotId
  | .registerByProof account blsPubKey _ _ _ _ _, .slot slotId =>
    some (account, keyCommitment H blsPubKey, slotId)
  | _, _ => none

/-- The keys and slots an account ever registered, by either path, the newest first. -/
def registrations (H : Host) (account : BytesN32) (history : History) : List (BytesN32 × U32) :=
  history.filterMap fun e => (added? H e).bind fun a => if a.1 = account then some a.2 else none

theorem registrations_cons {H : Host} {e : (Env × Call) × Ret} :
    registrations H account (e :: history)
      = ((added? H e).bind fun a => if a.1 = account then some a.2 else none).toList
        ++ registrations H account history := by
  unfold registrations
  rw [List.filterMap_cons]
  cases (added? H e).bind fun a => if a.1 = account then some a.2 else none <;> rfl

/-- A call that adds a slot left the stores as adding it did. -/
theorem Step.added {call : Call} {r : Ret} {account' commitment : BytesN32} {slotId : U32}
    (h : Step N H env c call r k')
    (hadds : added? H.toHost ((env, call), r) = some (account', commitment, slotId)) :
    ∃ k₁, Added N env account' commitment slotId c k₁ ∧ ∀ account, k₁.SameSlots k' account := by
  cases h with
  | @registered _ _ _ _ _ _ _ k₁ _ _ hadded =>
    obtain ⟨rfl, rfl, rfl⟩ : _ = account' ∧ _ = commitment ∧ _ = slotId := by
      simpa [added?] using hadds
    exact ⟨k₁, hadded, fun _ => sameSlots_setNonce k₁⟩
  | proven hadded =>
    obtain ⟨rfl, rfl, rfl⟩ : _ = account' ∧ _ = commitment ∧ _ = slotId := by
      simpa [added?] using hadds
    exact ⟨k', hadded, Keys.SameSlots.refl k'⟩
  | @quiet call r hcall =>
    cases call
    case register | registerByProof => cases hcall
    all_goals cases hadds
  | shortened | revoked | cancelled | approved | repinned => cases hadds

/-- Any other call uses no key and hands out no id. -/
theorem Step.kept {call : Call} {r : Ret} (h : Step N H env c call r k')
    (hadds : added? H.toHost ((env, call), r) = none) (account : BytesN32) :
    (k'.getEntry account).nextSlotId = (c.keys.getEntry account).nextSlotId ∧
      (∀ commitment, k'.isUsed account commitment = c.keys.isUsed account commitment) ∧
      ∀ commitment, k'.getKeySlot account commitment = c.keys.getKeySlot account commitment := by
  cases h with
  | registered | proven => cases hadds
  | revoked =>
    refine ⟨?_, fun _ => isUsed_leave, fun _ => getKeySlot_leave⟩
    rw [getEntry_leave]
    split
    · next haccount => rw [haccount]
    · rfl
  | quiet | shortened | cancelled | approved | repinned =>
    exact ⟨rfl, fun _ => rfl, fun _ => rfl⟩

/-- What the records of an account say of its registrations. -/
abbrev Registered (k : Keys) (account : BytesN32) (registered : List (BytesN32 × U32)) : Prop :=
  Issued BitVec.toNat (k.isUsed account) (k.getEntry account).nextSlotId.toNat registered

theorem Added.registered {registered : List (BytesN32 × U32)} {commitment : BytesN32}
    {slotId : U32} (hadded : Added N env account commitment slotId c k')
    (h : Registered c.keys account registered) :
    Registered k' account ((commitment, slotId) :: registered) := by
  obtain ⟨dropped, kept, hroom, rfl⟩ := hadded.made
  have hreads : AddedReads env account commitment slotId dropped kept c.keys _ := addedReads
  refine h.cons hadded.unused (by rw [hadded.next]) ?_ hreads.used
  rw [hreads.entry, ← hadded.next, BitVec.toNat_add]
  exact Nat.mod_eq_of_lt hadded.fits

theorem registered_of_run (run : Run (system N H outside) (Chain.fresh y) history c)
    (account : BytesN32) : Registered c.keys account (registrations H.toHost account history) := by
  induction run with
  | start => exact .nil fun _ => rfl
  | @accepted history c c' t r run admitted ok ih =>
    obtain ⟨env, call⟩ := t
    have hstep := (step_of_exec (fun account => (sound_of_run run account).nodup) ok).1
    rw [registrations_cons]
    cases hadds : added? H.toHost ((env, call), r) with
    | none =>
      obtain ⟨hnext, hused, -⟩ := hstep.kept hadds account
      exact ih.congr hused (by rw [hnext])
    | some a =>
      obtain ⟨account', commitment, slotId⟩ := a
      obtain ⟨k₁, hadded, hsame⟩ := hstep.added hadds
      have hsame := hsame account
      by_cases haccount : account' = account
      · subst haccount
        have hcons := hadded.registered ih
        simp only [Option.bind_some, if_pos, Option.toList_some, List.singleton_append]
        exact hcons.congr hsame.used (by rw [hsame.entry])
      · obtain ⟨dropped, kept, -, hmade⟩ := hadded.made
        have hother : c.keys.SameSlots k₁ account := by
          rw [hmade]
          exact sameSlots_insert (Ne.symm haccount)
        simp only [Option.bind_some, if_neg haccount, Option.toList_none, List.nil_append]
        exact ih.congr (fun commitment' => (hsame.used commitment').trans (hother.used commitment'))
          (by rw [hsame.entry, hother.entry])
  | refused run failed ih => exact ih
  | outside run moved ih =>
    obtain ⟨y', -, rfl⟩ := moved
    exact ih

/-! ## What pruning drops -/

/-- The expiry lies far enough in the past: 30 days, or any time when dead slots may go at once. -/
def FarPast (now : ℕ) (atOnce : Bool) (expiry : ℕ) : Prop :=
  expiry ≠ 0 ∧ (if atOnce = true then expiry else expiry + GRACE_PERIOD) < now

instance (now : ℕ) (atOnce : Bool) (expiry : ℕ) : Decidable (FarPast now atOnce expiry) :=
  inferInstanceAs (Decidable (_ ∧ _))

theorem prunable_iff {atOnce : Bool} {id : U32} (hstored : (k.getSlot account id).isSome = true) :
    prunable env account atOnce k id = true ↔ FarPast env.now atOnce (k.expiredAt account id) := by
  obtain ⟨slot, hslot⟩ := Option.isSome_iff_exists.mp hstored
  have hnow := env.now_le
  unfold prunable FarPast
  rw [hslot]
  simp only [Bool.and_eq_true, decide_eq_true_eq]
  cases atOnce with
  | true => simp
  | false =>
    -- a sum past `u64::MAX` is cut to it, which no ledger time exceeds
    have hcut : saturatingAdd (k.expiredAt account id) GRACE_PERIOD < env.now
        ↔ k.expiredAt account id + GRACE_PERIOD < env.now := by
      unfold saturatingAdd
      omega
    simp [hcut]

/-- Pruning drops exactly the slots whose expiry is far enough in the past, and keeps every other
one once, in order. -/
theorem prune_exact {entry' : RegistryEntry} (hsound : c.keys.Sound account)
    (ok : prune N env account (c.keys.getEntry account) c = .ok (entry', c')) :
    ∃ atOnce, pruneAtOnce N account c = .ok atOnce ∧
      entry'.live = (c.keys.getEntry account).live.filter
        (fun id => ¬FarPast env.now atOnce (c.keys.expiredAt account id)) ∧
      ∀ id, c'.keys.getSlot account id
        = if FarPast env.now atOnce (c.keys.expiredAt account id) then none
          else c.keys.getSlot account id := by
  obtain ⟨atOnce, published, hatOnce, rfl, rfl⟩ := prune_ok hsound.nodup ok
  have hprunable : ∀ id ∈ (c.keys.getEntry account).live,
      prunable env account atOnce c.keys id
        = decide (FarPast env.now atOnce (c.keys.expiredAt account id)) := by
    intro id hid
    rw [Bool.eq_iff_iff, decide_eq_true_eq]
    exact prunable_iff ((hsound.stored id).mpr hid)
  refine ⟨atOnce, hatOnce, ?_, ?_⟩
  · refine List.filter_congr fun id hid => ?_
    rw [hprunable id hid, decide_not]
  · intro id
    show (c.keys.removeSlots account _).getSlot account id = _
    rw [Keys.getSlot_removeSlots]
    by_cases hid : id ∈ (c.keys.getEntry account).live
    · simp only [List.mem_filter, hid, true_and, hprunable id hid, decide_eq_true_eq]
    · -- a slot that is not live is not stored, and has no expiry
      have hnone : c.keys.getSlot account id = none := by
        rw [← Option.not_isSome_iff_eq_none, hsound.stored]
        exact hid
      rw [hnone, ite_self, ite_self]

/-! ## A sample run -/

/-- The generator of G1. -/
def sampleKey : BytesN 96 :=
  ⟨Eip712.concat [0x17f1d3a73197d7942695638c4fa9ac0fc3688c4f9774b905a14e3a3f171bac58,
    0x6c55e83ff97a1aeffb3af00adb22c6bb08b3f481e3aaa0f1a09e30ed741d8ae4,
    0xfcf5e095d5d00af600db18cb2c04b3edd03cc744a2888ae40caa232946c5e7e1], by simp⟩

/-- Keccak-256 on the byte strings the sample hashes: its key, and the parts of its domain. -/
def sampleKeysKeccak (b : Bytes) : BytesN32 :=
  match b.length with
  | 128 => if b = eip2537 sampleKey then
      0x17324a2fdcdb2cdcf2a8697d8dc07e3ee621d20e7dfb64771438fe28ce1701c1
    else 0xcc869df6e0e307988f83e7827d13e328a06963ee96ad55660bb6be9e0df344b8
  | 53 => 0x599a80fcaa47b95e2323ab4d34d34e0cc9feda4b843edafcc30c7bdf60ea15bf
  | 16 => 0x99dab66a843ffd98dc07deec8550f487474b93c4ed0c1fe652636b75a653b7b0
  | 1 => 0xad7c5bef027816a800da1736444fb58a807ef4c9603b7848673f7e3a68eb14a5
  | _ => 0xfd7d76e497f6a375ab444422d2a39195d3c8de4542b0199067543b27f1a1d0e0

def sampleKeyHost : KeyHost where
  toHost := { sampleHost 0x4B with keccak256 := sampleKeysKeccak }
  sha256 _ := 0
  secp256k1Recover _ _ _ := none
  ed25519Verify _ _ _ := false
  pairing _ _ _ _ := some true

/-- Nothing is around the sample registry. -/
def noNeighbors : Neighbors Unit where
  hasOpenPositions _ _ _ := none
  isAnchored _ _ _ _ _ := false
  verifyProof _ _ _ _ := false

abbrev sampleKeySystem : System RegistryError (Chain Unit) (Env × Call) Ret :=
  system noNeighbors sampleKeyHost (fun _ _ => False)

/-- The maker registers a key, names a date for it, and kills it before the date. -/
def sampleKeyCalls : List (Env × Call) :=
  [(sampleEnv 100, .initializeContract (.account 0x0A) 1 (ascii "testnet")),
    (sampleEnv 1000, .register 0x3A (.stellar (.account 0x3A)) sampleKey
      ⟨List.replicate 192 0, rfl⟩ 0 2000),
    (sampleEnv 1100, .setValidUntil 0x3A (.stellar (.account 0x3A))
      (keyCommitment sampleKeyHost.toHost sampleKey) 5000),
    (sampleEnv 1200, .setValidUntil 0x3A (.stellar (.account 0x3A))
      (keyCommitment sampleKeyHost.toHost sampleKey) 1)]

def sampleKeyRun : History × Chain Unit :=
  (play sampleKeySystem sampleKeyCalls [] (Chain.fresh ())).getD ([], Chain.fresh ())

theorem run_sampleKey : Run sampleKeySystem (Chain.fresh ()) sampleKeyRun.1 sampleKeyRun.2 :=
  Run.played (by decide +kernel) fun _ _ _ => trivial

end KeyRegistry
end ProofBridge
