import ProofBridge.Lib.Agree
import ProofBridge.Parity.RegistrySlots

/-!
# The records of both registries

What the two registries store of an account, compared record by record. On EVM a missing record reads
as zeros, the slot a key occupies is stored plus one, and the live slots are in no order; on Soroban
a missing record is absent. Every write both contracts make keeps the records alike.
-/

namespace ProofBridge
namespace Parity

open ContractLib

/-! ## One account's records -/

/-- A slot, as EVM stores it. -/
def evmSlot (slot : KeyRegistry.KeySlot) : Evm.KeyRegistry.KeySlot where
  commitment := slot.commitment
  validUntil := slot.validUntil
  registeredAt := slot.registeredAt

def evmApproval (a : KeyRegistry.MakerApproval) : Evm.KeyRegistry.MakerApproval where
  approved := a.approved
  nonce := a.nonce
  generation := a.generation

def evmRepin (r : KeyRegistry.RepinApproval) : Evm.KeyRegistry.RepinApproval where
  fromSlot := r.fromSlot
  toSlot := r.toSlot
  nonce := r.nonce

/-- How EVM stores the slot of a key: plus one, zero for none. -/
def plusOne : Option U32 → ℕ
  | none => 0
  | some id => id.toNat + 1

section Records

variable {Y : Type} (s : Evm.KeyRegistry.Registry Y) (k : KeyRegistry.Keys) (account : BytesN32)

/-- An account's slots on both chains. -/
structure SameSlots : Prop where
  live : (s.entry account).liveSlots.Perm (k.getEntry account).live
  next : (s.entry account).nextSlotId = (k.getEntry account).nextSlotId
  slots : ∀ id, (s.entry account).slots.get? id = (k.getSlot account id).map evmSlot
  expiries : ∀ id, (s.expiries.get? (account, id)).getD 0 = k.getExpiredAt account id
  used : ∀ commitment, s.used account commitment = k.isUsed account commitment
  keys : ∀ commitment, s.keyAt account commitment = plusOne (k.getKeySlot account commitment)

/-- Everything either registry stores of an account. -/
structure SameAccount : Prop extends SameSlots s k account where
  nonce : (s.nonce account).toNat = k.getNonce account
  approvals : ∀ maker, s.approval account maker = evmApproval (k.getApproval account maker)
  generation : s.generation account = k.getApprovalGen account
  repins : ∀ orderHash, s.repin account orderHash = evmRepin (k.getRepin account orderHash)
  /-- A commitment of zero would read as no slot on EVM. -/
  nonzero : ∀ commitment, k.isUsed account commitment = true → commitment ≠ 0

end Records

variable {Y : Type} {s : Evm.KeyRegistry.Registry Y} {k : KeyRegistry.Keys}
  {account account' : BytesN32}

theorem sameAccount_fresh {settings : Evm.KeyRegistry.Settings} {y : Y} :
    SameAccount (.deployed settings y) .fresh account where
  live := List.Perm.nil
  next := rfl
  slots _ := rfl
  expiries _ := rfl
  used _ := rfl
  keys _ := rfl
  nonce := rfl
  approvals _ := rfl
  generation := rfl
  repins _ := rfl
  nonzero _ h := by cases h

/-! ## Reading them -/

section Views

variable {timestamp : Evm.Uint256} {env : Env}

theorem SameSlots.slot (h : SameSlots s k account) (id : U32) :
    (s.entry account).slot id = ((k.getSlot account id).map evmSlot).getD .unset := by
  rw [Evm.KeyRegistry.RegistryEntry.slot, h.slots]

theorem SameSlots.expiredAt (h : SameSlots s k account) (id : U32) :
    Evm.KeyRegistry.expiredAt account (s.entry account) s.expiries id
      = k.expiredAt account id := by
  unfold Evm.KeyRegistry.expiredAt KeyRegistry.Keys.expiredAt
  rw [h.slot, h.expiries]
  cases k.getSlot account id with
  | none => rfl
  | some slot =>
    show (if slot.validUntil = 0 then 0 else _) = if slot.validUntil ≠ 0 then _ else 0
    by_cases hbound : slot.validUntil = 0 <;> simp [hbound, evmSlot]

/-- The entry a record of both chains implies on EVM. -/
theorem SameSlots.sound (h : SameSlots s k account) (hsound : k.Sound account) :
    (s.entry account).Sound where
  few := by
    rw [h.live.length_eq]
    exact hsound.few
  nodup := h.live.nodup_iff.mpr hsound.nodup
  below id hid := by
    rw [h.next]
    exact hsound.below id (h.live.mem_iff.mp hid)
  stored id := by
    rw [h.slots, Option.isSome_map, hsound.stored, h.live.mem_iff]

/-- A key in use occupies the same slot on both chains while that is stored. -/
theorem SameAccount.slotOfKey (h : SameAccount s k account) (hsound : k.Sound account)
    {commitment : BytesN32} {id : U32} :
    Evm.KeyRegistry.slotOfKey account commitment s = .ok id
      ↔ k.slotOfKey account commitment = some id := by
  have hkey := h.keys commitment
  unfold Evm.KeyRegistry.Registry.keyAt at hkey
  simp only [Evm.KeyRegistry.slotOfKey, KeyRegistry.Keys.slotOfKey, hkey, Check.bind_ok,
    Check.require_ok, Check.pure_ok, Option.filter_eq_some_iff]
  cases hoccupied : k.getKeySlot account commitment with
  | none => simp [plusOne]
  | some id' =>
    obtain ⟨hused, -, hnamed⟩ := hsound.named commitment id' hoccupied
    have hid : BitVec.ofNat 32 (plusOne (some id') - 1) = id' := by
      simp [plusOne]
    rw [hid, h.slot]
    have hstored : (((k.getSlot account id').map evmSlot).getD .unset).commitment = commitment
        ↔ (k.getSlot account id').isSome = true := by
      cases hslot : k.getSlot account id' with
      | none => exact iff_of_false (Ne.symm (h.nonzero commitment hused)) (by simp)
      | some slot => exact iff_of_true (hnamed slot hslot) rfl
    rw [hstored]
    constructor
    · rintro ⟨-, -, -, hsome, rfl⟩
      exact ⟨rfl, hsome⟩
    · rintro ⟨hid', hsome⟩
      cases hid'
      exact ⟨(), Nat.succ_ne_zero _, (), hsome, rfl⟩

theorem SameAccount.commitmentAt (h : SameAccount s k account) (hsound : k.Sound account)
    (hnow : timestamp.toNat = env.now) {id : U32} {commitment : BytesN32} :
    Evm.KeyRegistry.commitmentAt timestamp account id s = .ok commitment
      ↔ k.commitmentAt account env id = .ok commitment := by
  unfold Evm.KeyRegistry.commitmentAt KeyRegistry.Keys.commitmentAt
  dsimp only
  rw [h.slot]
  simp only [Check.bind_ok, Check.require_ok, Check.expect_ok, Check.pure_ok, hnow]
  cases hslot : k.getSlot account id with
  | none => simp [Evm.KeyRegistry.KeySlot.unset]
  | some slot =>
    have hused := (hsound.named _ _ (hsound.keyed id slot hslot)).1
    have hne := h.nonzero _ hused
    simpa [evmSlot] using fun _ _ => hne

theorem SameAccount.hasUsableSlot (h : SameAccount s k account) (hsound : k.Sound account)
    (hnow : timestamp.toNat = env.now) :
    Evm.KeyRegistry.hasUsableSlot timestamp account s = k.hasUsableSlot account env := by
  unfold Evm.KeyRegistry.hasUsableSlot KeyRegistry.Keys.hasUsableSlot
  rw [Bool.eq_iff_iff, List.any_eq_true, List.any_eq_true]
  apply exists_congr
  intro id
  rw [h.live.mem_iff]
  apply and_congr_right
  intro hlive
  obtain ⟨slot, hslot⟩ := Option.isSome_iff_exists.mp ((hsound.stored id).mpr hlive)
  rw [h.slot, hslot, hnow]
  rfl

theorem SameAccount.isApprovedMaker (h : SameAccount s k account) {maker : BytesN32} :
    Evm.KeyRegistry.isApprovedMaker account maker s = k.isApprovedMaker account maker := by
  unfold Evm.KeyRegistry.isApprovedMaker KeyRegistry.Keys.isApprovedMaker
  rw [h.approvals, h.generation]
  rfl

end Views

/-! ## Writing them -/

/-- The records of every account are alike. -/
abbrev SameKeys (s : Evm.KeyRegistry.Registry Y) (k : KeyRegistry.Keys) : Prop :=
  ∀ account, SameAccount s k account

section Writes

/-- No record reads the settings, or what is around the registry. -/
theorem SameKeys.rewire (h : SameKeys s k) {settings : Evm.KeyRegistry.Settings} {outside : Y} :
    SameKeys { s with settings, outside } k := fun account => { h account with }

theorem SameKeys.setNonce (h : SameKeys s k) {nonce : ℕ} (hnonce : nonce < 2 ^ 64) :
    SameKeys { s with nonceOf := s.nonceOf.set account (BitVec.ofNat 256 nonce) }
      (k.setNonce account nonce) := by
  intro account'
  refine { h account' with nonce := ?_ }
  rw [KeyRegistry.Keys.getNonce_setNonce]
  unfold Evm.KeyRegistry.Registry.nonce
  rw [Map.get?_set]
  split
  · show (BitVec.ofNat 256 nonce).toNat = nonce
    rw [BitVec.toNat_ofNat]
    exact Nat.mod_eq_of_lt (lt_trans hnonce (by norm_num))
  · exact (h account').nonce

theorem SameKeys.setGeneration (h : SameKeys s k) {generation : ℕ} :
    SameKeys { s with approvalGeneration := s.approvalGeneration.set account generation }
      (k.setApprovalGen account generation) := by
  intro account'
  refine { h account' with generation := ?_ }
  rw [KeyRegistry.Keys.getApprovalGen_setApprovalGen]
  unfold Evm.KeyRegistry.Registry.generation
  rw [Map.get?_set]
  split
  · rfl
  · exact (h account').generation

theorem SameKeys.setApproval (h : SameKeys s k) {maker : BytesN32} (a : KeyRegistry.MakerApproval) :
    SameKeys { s with makerApprovals := s.makerApprovals.set (account, maker) (evmApproval a) }
      (k.setApproval account maker a) := by
  intro account'
  refine { h account' with approvals := ?_ }
  intro maker'
  rw [KeyRegistry.Keys.getApproval_setApproval]
  unfold Evm.KeyRegistry.Registry.approval
  rw [Map.get?_set]
  split
  · rfl
  · exact (h account').approvals maker'

theorem SameKeys.setRepin (h : SameKeys s k) {orderHash : BytesN32}
    (r : KeyRegistry.RepinApproval) :
    SameKeys { s with repins := s.repins.set (account, orderHash) (evmRepin r) }
      (k.setRepin account orderHash r) := by
  intro account'
  refine { h account' with repins := ?_ }
  intro orderHash'
  rw [KeyRegistry.Keys.getRepin_setRepin]
  unfold Evm.KeyRegistry.Registry.repin
  rw [Map.get?_set]
  split
  · rfl
  · exact (h account').repins orderHash'

/-- The Soroban records of one account's slots were rewritten: those of every other account, and
everything but the slots, stayed. -/
structure Rewritten (account : BytesN32) (k k' : KeyRegistry.Keys) : Prop where
  entry : ∀ account', account' ≠ account → k'.getEntry account' = k.getEntry account'
  slot : ∀ account', account' ≠ account → ∀ id, k'.getSlot account' id = k.getSlot account' id
  expiry : ∀ account', account' ≠ account →
    ∀ id, k'.getExpiredAt account' id = k.getExpiredAt account' id
  rest : ∃ entries slots expiries, k' = { k with entries, slots, expiries }

/-- One account's slots rewritten on both chains. -/
theorem SameKeys.rewrite (h : SameKeys s k) {e : Evm.KeyRegistry.RegistryEntry}
    {expiries : Map (BytesN32 × U32) ℕ} {k' : KeyRegistry.Keys} (hkeys : Rewritten account k k')
    (hexpiries : ∀ account', account' ≠ account →
      ∀ id, expiries.get? (account', id) = s.expiries.get? (account', id))
    (live : e.liveSlots.Perm (k'.getEntry account).live)
    (next : e.nextSlotId = (k'.getEntry account).nextSlotId)
    (slots : ∀ id, e.slots.get? id = (k'.getSlot account id).map evmSlot)
    (expiry : ∀ id, (expiries.get? (account, id)).getD 0 = k'.getExpiredAt account id) :
    SameKeys { s with entries := s.entries.set account e, expiries } k' := by
  intro account'
  have hsame := h account'
  have hentry := @Evm.KeyRegistry.entry_of_set Y s account account' e
    { s with entries := s.entries.set account e, expiries } rfl
  obtain ⟨entries, slots', expiries', hrest⟩ := hkeys.rest
  by_cases haccount : account' = account
  · subst haccount
    rw [if_pos rfl] at hentry
    exact {
      live := by rw [hentry]; exact live
      next := by rw [hentry]; exact next
      slots := by rw [hentry]; exact slots
      expiries := expiry
      used := by rw [hrest]; exact hsame.used
      keys := by rw [hrest]; exact hsame.keys
      nonce := by rw [hrest]; exact hsame.nonce
      approvals := by rw [hrest]; exact hsame.approvals
      generation := by rw [hrest]; exact hsame.generation
      repins := by rw [hrest]; exact hsame.repins
      nonzero := by rw [hrest]; exact hsame.nonzero }
  · rw [if_neg haccount] at hentry
    exact {
      live := by rw [hentry, hkeys.entry _ haccount]; exact hsame.live
      next := by rw [hentry, hkeys.entry _ haccount]; exact hsame.next
      slots := by
        intro id
        rw [hentry, hkeys.slot _ haccount]
        exact hsame.slots id
      expiries := by
        intro id
        rw [hkeys.expiry _ haccount, ← hsame.expiries]
        exact congrArg (Option.getD · 0) (hexpiries _ haccount id)
      used := by rw [hrest]; exact hsame.used
      keys := by rw [hrest]; exact hsame.keys
      nonce := by rw [hrest]; exact hsame.nonce
      approvals := by rw [hrest]; exact hsame.approvals
      generation := by rw [hrest]; exact hsame.generation
      repins := by rw [hrest]; exact hsame.repins
      nonzero := by rw [hrest]; exact hsame.nonzero }

/-- A new date and a new expiry for one stored slot. -/
theorem SameKeys.shorten (h : SameKeys s k) {id : U32} {slot : KeyRegistry.KeySlot}
    {validUntil now : ℕ} :
    SameKeys { s with
        entries := s.entries.set account { s.entry account with
          slots := (s.entry account).slots.set id { evmSlot slot with validUntil } }
        expiries := s.expiries.set (account, id)
          (if k.getExpiredAt account id = 0 then max validUntil now
            else min (k.getExpiredAt account id) (max validUntil now)) }
      (k.shorten account now id slot validUntil) := by
  have hslot : ∀ account' id', (k.shorten account now id slot validUntil).getSlot account' id'
      = if (account', id') = (account, id) then some { slot with validUntil }
        else k.getSlot account' id' := fun _ _ => KeyRegistry.Keys.getSlot_setSlot
  have hexpiry : ∀ account' id', (k.shorten account now id slot validUntil).getExpiredAt account' id'
      = if (account', id') = (account, id) then _ else k.getExpiredAt account' id' :=
    fun _ _ => KeyRegistry.Keys.getExpiredAt_setExpiredAt
  have hother : ∀ account' id', account' ≠ account → (account', id') ≠ (account, id) :=
    fun _ _ haccount heq => haccount (Prod.mk.inj heq).1
  refine h.rewrite ⟨fun _ _ => rfl, ?_, ?_, _, _, _, rfl⟩ ?_ (h account).live (h account).next ?_ ?_
  · intro account' haccount id'
    rw [hslot, if_neg (hother _ _ haccount)]
  · intro account' haccount id'
    rw [hexpiry, if_neg (hother _ _ haccount)]
  · intro account' haccount id'
    exact Map.get?_set_ne (hother _ _ haccount)
  · intro id'
    rw [hslot, Map.get?_set]
    simp only [Prod.mk.injEq, true_and]
    split
    · rfl
    · exact (h account).slots id'
  · intro id'
    rw [hexpiry, Map.get?_set]
    split
    · rfl
    · exact (h account).expiries id'

/-- Removing expiries one after the other. -/
theorem expiry_foldl_remove {expiries : Map (BytesN32 × U32) ℕ} {ids : List U32} {id : U32} :
    (ids.foldl (fun expiries id => expiries.remove (account, id)) expiries).get? (account', id)
      = if account' = account ∧ id ∈ ids then none else expiries.get? (account', id) := by
  induction ids generalizing expiries with
  | nil => simp
  | cons id' ids ih =>
    rw [List.foldl_cons, ih, Map.get?_remove]
    simp only [Prod.mk.injEq, List.mem_cons]
    by_cases haccount : account' = account <;> by_cases hid : id = id' <;> simp [haccount, hid]

/-- Slots of one account dropped, and an entry stored without them. -/
theorem rewritten_removeSlots {dropped : List U32} {entry : KeyRegistry.RegistryEntry} :
    Rewritten account k ((k.removeSlots account dropped).setEntry account entry) := by
  obtain ⟨slots, expiries, hremove⟩ := @KeyRegistry.Keys.removeSlots_eq k account dropped
  refine ⟨?_, ?_, ?_, _, slots, expiries, by rw [hremove]; rfl⟩
  · intro account' haccount
    rw [KeyRegistry.Keys.getEntry_setEntry, if_neg haccount, hremove]
    rfl
  · intro account' haccount id
    show (k.removeSlots account dropped).getSlot account' id = _
    rw [KeyRegistry.Keys.getSlot_removeSlots, if_neg fun hc => haccount hc.1]
  · intro account' haccount id
    show (k.removeSlots account dropped).getExpiredAt account' id = _
    rw [KeyRegistry.Keys.getExpiredAt_removeSlots, if_neg fun hc => haccount hc.1]

/-- Every slot of an account, dropped. -/
theorem SameKeys.clear (h : SameKeys s k) :
    SameKeys { s with
        entries := s.entries.set account { s.entry account with
          slots := (s.entry account).liveSlots.foldl (fun slots id => slots.remove id)
            (s.entry account).slots
          liveSlots := [] }
        expiries := (s.entry account).liveSlots.foldl
          (fun expiries id => expiries.remove (account, id)) s.expiries }
      ((k.removeSlots account (k.getEntry account).live).setEntry account
        { k.getEntry account with live := [] }) := by
  have hentry : (KeyRegistry.Keys.setEntry (k.removeSlots account (k.getEntry account).live)
      account { k.getEntry account with live := [] }).getEntry account
        = { k.getEntry account with live := [] } := by
    rw [KeyRegistry.Keys.getEntry_setEntry, if_pos rfl]
  refine h.rewrite rewritten_removeSlots ?_ ?_ ?_ ?_ ?_
  · intro account' haccount id
    rw [expiry_foldl_remove, if_neg fun hc => haccount hc.1]
  · rw [hentry]
  · rw [hentry]
    exact (h account).next
  · intro id
    show _ = ((k.removeSlots account _).getSlot account id).map evmSlot
    rw [Evm.KeyRegistry.get?_foldl_remove, KeyRegistry.Keys.getSlot_removeSlots,
      (h account).slots]
    simp only [(h account).live.mem_iff, true_and]
    split <;> rfl
  · intro id
    show _ = (k.removeSlots account _).getExpiredAt account id
    rw [expiry_foldl_remove, KeyRegistry.Keys.getExpiredAt_removeSlots, ← (h account).expiries]
    simp only [(h account).live.mem_iff, true_and]
    split <;> rfl

/-- Both registries drop the same slots. -/
theorem SameSlots.prunable (h : SameSlots s k account) (hsound : k.Sound account)
    {timestamp : Evm.Uint256} {env : Env} (hnow : timestamp.toNat = env.now) {atOnce : Bool}
    {id : U32} (hlive : id ∈ (k.getEntry account).live) :
    Evm.KeyRegistry.prunable timestamp account atOnce (s.entry account) s.expiries id
      = KeyRegistry.prunable env account atOnce k id := by
  rw [Bool.eq_iff_iff, prunable_evm_iff, KeyRegistry.prunable_iff ((hsound.stored id).mpr hlive),
    h.expiredAt, hnow]

theorem SameKeys.prune (h : SameKeys s k) (hsound : k.Sound account) {timestamp : Evm.Uint256}
    {env : Env} (hnow : timestamp.toNat = env.now) {atOnce : Bool} :
    SameKeys { s with
        entries := s.entries.set account (Evm.KeyRegistry.pruneLoop timestamp account atOnce 0
          (s.entry account) s.expiries).1
        expiries := (Evm.KeyRegistry.pruneLoop timestamp account atOnce 0
          (s.entry account) s.expiries).2 }
      ((k.removeSlots account ((k.getEntry account).live.filter
        (KeyRegistry.prunable env account atOnce k))).setEntry account { k.getEntry account with
          live := (k.getEntry account).live.filter fun id =>
            !KeyRegistry.prunable env account atOnce k id }) := by
  have hsame := h account
  have hswept := @Evm.KeyRegistry.pruneLoop_exact timestamp account atOnce _ s.expiries
    (hsame.toSameSlots.sound hsound)
  have hdropped : ∀ id, (id ∈ (s.entry account).liveSlots ∧ Evm.KeyRegistry.prunable timestamp
      account atOnce (s.entry account) s.expiries id = true) ↔
      id ∈ (k.getEntry account).live.filter (KeyRegistry.prunable env account atOnce k) := by
    intro id
    rw [List.mem_filter, hsame.live.mem_iff]
    apply and_congr_right
    intro hlive
    rw [hsame.toSameSlots.prunable hsound hnow hlive]
  have hentry : ∀ (k' : KeyRegistry.Keys) entry, (k'.setEntry account entry).getEntry account
      = entry := by
    intro k' entry
    rw [KeyRegistry.Keys.getEntry_setEntry, if_pos rfl]
  refine h.rewrite rewritten_removeSlots ?_ ?_ ?_ ?_ ?_
  · intro account' haccount id
    rw [hswept.expiries, if_neg fun hc => haccount hc.1]
  · rw [hentry]
    refine hswept.live.trans ((hsame.live.filter _).trans (List.Perm.of_eq ?_))
    refine List.filter_congr fun id hid => ?_
    rw [hsame.toSameSlots.prunable hsound hnow hid]
  · rw [hentry]
    exact hswept.next.trans hsame.next
  · intro id
    show _ = ((k.removeSlots account _).getSlot account id).map evmSlot
    rw [hswept.slots, KeyRegistry.Keys.getSlot_removeSlots, hsame.slots]
    simp only [hdropped, true_and]
    split <;> rfl
  · intro id
    show _ = (k.removeSlots account _).getExpiredAt account id
    rw [hswept.expiries, KeyRegistry.Keys.getExpiredAt_removeSlots, ← hsame.expiries]
    simp only [hdropped, true_and]
    split <;> rfl

/-- Storing an entry as it is stored. -/
theorem SameKeys.setEntry_self (h : SameKeys s k) :
    SameKeys s (k.setEntry account (k.getEntry account)) := by
  intro account'
  have hentry : (k.setEntry account (k.getEntry account)).getEntry account' = k.getEntry account' := by
    rw [KeyRegistry.Keys.getEntry_setEntry]
    split
    · next heq => rw [heq]
    · rfl
  refine { h account' with live := ?_, next := ?_ }
  · rw [hentry]
    exact (h account').live
  · rw [hentry]
    exact (h account').next

/-- A new slot, once both have made room: on Soroban the entry with room is not stored before. -/
theorem SameKeys.insert {entry : KeyRegistry.RegistryEntry}
    (h : SameKeys s (k.setEntry account entry)) {commitment : BytesN32} (hne : commitment ≠ 0)
    {now : ℕ} {id next : U32} :
    SameKeys { s with
        entries := s.entries.set account {
          nextSlotId := next
          slots := (s.entry account).slots.set id
            { commitment, validUntil := 0, registeredAt := now }
          liveSlots := (s.entry account).liveSlots ++ [id] }
        usedCommitment := s.usedCommitment.set (account, commitment) true
        slotOfKey := s.slotOfKey.set (account, commitment) (id.toNat + 1) }
      (k.insertSlot account commitment now id
        { nextSlotId := next, live := entry.live ++ [id] }) := by
  have hentry : ∀ (k' : KeyRegistry.Keys) entry, (k'.setEntry account entry).getEntry account
      = entry := by
    intro k' entry
    rw [KeyRegistry.Keys.getEntry_setEntry, if_pos rfl]
  have hsame := h account
  have hlive := hsame.live
  rw [hentry] at hlive
  have hslot : ∀ account' id', (k.setSlot account id
      { commitment, validUntil := 0, registeredAt := now }).getSlot account' id'
        = if (account', id') = (account, id) then _ else k.getSlot account' id' :=
    fun _ _ => KeyRegistry.Keys.getSlot_setSlot
  have hslots : SameKeys { s with entries := s.entries.set account {
        nextSlotId := next
        slots := (s.entry account).slots.set id { commitment, validUntil := 0, registeredAt := now }
        liveSlots := (s.entry account).liveSlots ++ [id] } }
      ((k.setSlot account id { commitment, validUntil := 0, registeredAt := now }).setEntry account
        { nextSlotId := next, live := entry.live ++ [id] }) := by
    refine h.rewrite ⟨?_, ?_, fun _ _ _ => rfl, _, _, _, rfl⟩ (fun _ _ _ => rfl) ?_ ?_ ?_
      hsame.expiries
    · intro account' haccount
      rw [KeyRegistry.Keys.getEntry_setEntry, KeyRegistry.Keys.getEntry_setEntry, if_neg haccount,
        if_neg haccount]
      rfl
    · intro account' haccount id'
      exact (hslot account' id').trans (if_neg fun heq => haccount (Prod.mk.inj heq).1)
    · rw [hentry]
      exact hlive.append_right [id]
    · rw [hentry]
    · intro id'
      show _ = ((k.setSlot account id _).getSlot account id').map evmSlot
      rw [hslot, Map.get?_set]
      simp only [Prod.mk.injEq, true_and]
      split
      · rfl
      · exact hsame.slots id'
  intro account'
  refine { hslots account' with used := ?_, keys := ?_, nonzero := ?_ }
  · intro commitment'
    show (((s.usedCommitment.set (account, commitment) true).get? (account', commitment')).getD false)
      = (KeyRegistry.Keys.setUsed _ account commitment).isUsed account' commitment'
    rw [KeyRegistry.Keys.isUsed_setUsed, Map.get?_set]
    split
    · next heq => simp [heq]
    · next heq =>
      rw [decide_eq_false heq]
      exact (h account').used commitment'
  · intro commitment'
    show (((s.slotOfKey.set (account, commitment) (id.toNat + 1)).get? (account', commitment')).getD 0)
      = plusOne ((KeyRegistry.Keys.setKeySlot _ account commitment id).getKeySlot account' commitment')
    rw [KeyRegistry.Keys.getKeySlot_setKeySlot, Map.get?_set]
    split
    · rfl
    · exact (h account').keys commitment'
  · intro commitment'
    show (KeyRegistry.Keys.setUsed _ account commitment).isUsed account' commitment' = true → _
    rw [KeyRegistry.Keys.isUsed_setUsed, Bool.or_eq_true, decide_eq_true_eq]
    rintro (heq | hused)
    · rw [(Prod.mk.inj heq).2]
      exact hne
    · exact (h account').nonzero commitment' hused

end Writes

end Parity
end ProofBridge
