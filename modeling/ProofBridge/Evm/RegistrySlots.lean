import ProofBridge.Evm.KeyRegistry
import ProofBridge.Lib.Issue

/-!
# The slots of an account on EVM

The stores that hold an account's slots agree in every reachable state, and the pruning loop, which
moves live slots around while it walks over them, drops exactly the dead ones.
-/

namespace ProofBridge
namespace Evm
namespace KeyRegistry

open ContractLib

/-! ## The pruning loop -/

theorem swapPop_last {kept : List U32} {id : U32} :
    swapPop (kept ++ [id]) kept.length = kept := by
  simp [swapPop]

theorem swapPop_middle {kept rest : List U32} {id last : U32} :
    swapPop (kept ++ id :: (rest ++ [last])) kept.length = kept ++ last :: rest := by
  have hlast : (kept ++ id :: (rest ++ [last])).getLast? = some last := by
    rw [← List.cons_append, ← List.append_assoc, List.getLast?_concat]
  rw [swapPop, hlast, Option.getD_some, List.set_append_right _ _ le_rfl, Nat.sub_self,
    List.set_cons_zero, ← List.cons_append, ← List.append_assoc, List.dropLast_concat]

/-- Whatever is dropped, what has been walked over stays in front and the rest stays behind. -/
theorem swapPop_perm {kept rest : List U32} {id : U32} :
    ∃ rest', swapPop (kept ++ id :: rest) kept.length = kept ++ rest' ∧ rest'.Perm rest := by
  rcases List.eq_nil_or_concat rest with rfl | ⟨init, last, rfl⟩
  · exact ⟨[], by rw [swapPop_last, List.append_nil], List.Perm.nil⟩
  · rw [List.concat_eq_append]
    refine ⟨last :: init, swapPop_middle, ?_⟩
    exact (List.perm_append_singleton last init).symm

section Loop

variable {timestamp : Uint256} {account : BytesN32} {atOnce : Bool}

/-- Dropping one slot changes nothing for another. -/
theorem prunable_remove {e : RegistryEntry} {expiries : Map (BytesN32 × U32) ℕ}
    {live : List U32} {id id' : U32} (h : id' ≠ id) :
    prunable timestamp account atOnce { e with slots := e.slots.remove id, liveSlots := live }
      (expiries.remove (account, id)) id'
      = prunable timestamp account atOnce e expiries id' := by
  have hpair : (account, id') ≠ (account, id) := fun heq => h (Prod.mk.inj heq).2
  have hslot : RegistryEntry.slot { e with slots := e.slots.remove id, liveSlots := live } id'
      = e.slot id' := by
    unfold RegistryEntry.slot
    rw [Map.get?_remove_ne h]
  unfold prunable expiredAt
  rw [hslot, Map.get?_remove_ne hpair]

/-- What the loop leaves of an entry and of the expiries, from the place it has reached: `kept` has
been walked over, `rest` has not. -/
structure Swept (timestamp : Uint256) (account : BytesN32) (atOnce : Bool)
    (kept rest : List U32) (e : RegistryEntry) (expiries : Map (BytesN32 × U32) ℕ)
    (r : RegistryEntry × Map (BytesN32 × U32) ℕ) : Prop where
  next : r.1.nextSlotId = e.nextSlotId
  live : r.1.liveSlots.Perm
    (kept ++ rest.filter fun id => !prunable timestamp account atOnce e expiries id)
  slots : ∀ id, r.1.slots.get? id
    = if id ∈ rest ∧ prunable timestamp account atOnce e expiries id = true then none
      else e.slots.get? id
  expiries : ∀ account' id, r.2.get? (account', id)
    = if account' = account ∧ id ∈ rest ∧ prunable timestamp account atOnce e expiries id = true
      then none else expiries.get? (account', id)

/-- The slot looked at is dropped, and the last one takes its place. -/
theorem Swept.dropped {kept rest rest' : List U32} {id : U32} {e : RegistryEntry}
    {expiries : Map (BytesN32 × U32) ℕ} {live : List U32}
    {r : RegistryEntry × Map (BytesN32 × U32) ℕ}
    (h : Swept timestamp account atOnce kept rest'
      { e with slots := e.slots.remove id, liveSlots := live }
      (expiries.remove (account, id)) r) (hnotin : id ∉ rest) (hperm : rest'.Perm rest)
    (hprunable : prunable timestamp account atOnce e expiries id = true) :
    Swept timestamp account atOnce kept (id :: rest) e expiries r where
  next := h.next
  live := by
    refine h.live.trans ((List.Perm.refl kept).append ?_)
    rw [List.filter_cons_of_neg (by simp [hprunable])]
    refine (hperm.filter _).trans (List.Perm.of_eq (List.filter_congr fun id' hid' => ?_))
    have hne : id' ≠ id := by
      rintro rfl
      exact hnotin hid'
    rw [prunable_remove hne]
  slots id' := by
    rw [h.slots, Map.get?_remove]
    simp only [hperm.mem_iff]
    by_cases hid : id' = id
    · subst hid
      simp [hnotin, hprunable]
    · rw [prunable_remove hid, if_neg hid]
      simp [hid]
  expiries account' id' := by
    rw [h.expiries, Map.get?_remove]
    simp only [hperm.mem_iff]
    by_cases hid : id' = id
    · subst hid
      by_cases haccount : account' = account <;> simp [haccount, hnotin, hprunable]
    · rw [prunable_remove hid]
      simp [hid]

/-- The slot looked at stays. -/
theorem Swept.kept {kept rest : List U32} {id : U32} {e : RegistryEntry}
    {expiries : Map (BytesN32 × U32) ℕ} {r : RegistryEntry × Map (BytesN32 × U32) ℕ}
    (h : Swept timestamp account atOnce (kept ++ [id]) rest e expiries r)
    (hprunable : ¬prunable timestamp account atOnce e expiries id = true) :
    Swept timestamp account atOnce kept (id :: rest) e expiries r where
  next := h.next
  live := by
    refine h.live.trans (List.Perm.of_eq ?_)
    rw [List.filter_cons_of_pos (by simp [hprunable]), List.append_assoc]
    rfl
  slots id' := by
    rw [h.slots]
    by_cases hid : id' = id
    · subst hid
      simp [hprunable]
    · simp [hid]
  expiries account' id' := by
    rw [h.expiries]
    by_cases hid : id' = id
    · subst hid
      simp [hprunable]
    · simp [hid]

theorem pruneLoop_swept {n : ℕ} {kept rest : List U32} {e : RegistryEntry}
    {expiries : Map (BytesN32 × U32) ℕ} (hlive : e.liveSlots = kept ++ rest)
    (hn : rest.length = n) (hnodup : e.liveSlots.Nodup) :
    Swept timestamp account atOnce kept rest e expiries
      (pruneLoop timestamp account atOnce kept.length e expiries) := by
  induction n generalizing kept rest e expiries with
  | zero =>
    obtain rfl := List.length_eq_zero_iff.mp hn
    rw [List.append_nil] at hlive
    rw [pruneLoop, dif_neg (by rw [hlive]; exact lt_irrefl _)]
    exact ⟨rfl, by rw [hlive]; simp, by simp, by simp⟩
  | succ n ih =>
    cases rest with
    | nil => cases hn
    | cons id rest =>
      rw [List.length_cons, Nat.add_right_cancel_iff] at hn
      have hlt : kept.length < e.liveSlots.length := by
        rw [hlive, List.length_append, List.length_cons]
        omega
      have hid : e.liveSlots[kept.length] = id := by
        simp [hlive]
      rw [hlive, List.nodup_append] at hnodup
      obtain ⟨hkept, hrest, hapart⟩ := hnodup
      obtain ⟨hnotin, hrest⟩ := List.nodup_cons.mp hrest
      rw [pruneLoop, dif_pos hlt]
      simp only [hid]
      split
      · next hprunable =>
        obtain ⟨rest', hswap, hperm⟩ := @swapPop_perm kept rest id
        have hlive' : swapPop e.liveSlots kept.length = kept ++ rest' := by
          rw [hlive, hswap]
        have hnodup' : (kept ++ rest').Nodup := by
          rw [((List.Perm.refl kept).append hperm).nodup_iff]
          exact List.nodup_append.mpr ⟨hkept, hrest, fun a ha b hb =>
            hapart a ha b (List.mem_cons_of_mem id hb)⟩
        have hswept := @ih kept rest'
          { e with slots := e.slots.remove id, liveSlots := swapPop e.liveSlots kept.length }
          (expiries.remove (account, id)) hlive' (hperm.length_eq.trans hn)
          (by rw [hlive']; exact hnodup')
        exact hswept.dropped hnotin hperm hprunable
      · next hprunable =>
        have hnodup' : (kept ++ id :: rest).Nodup := List.nodup_append.mpr
          ⟨hkept, List.nodup_cons.mpr ⟨hnotin, hrest⟩, hapart⟩
        have hswept := @ih (kept ++ [id]) rest e expiries
          (by rw [hlive, List.append_assoc]; rfl) hn (by rw [hlive]; exact hnodup')
        rw [List.length_append, List.length_singleton] at hswept
        exact hswept.kept hprunable

end Loop

/-! ## One account's stores -/

variable {Y : Type} {N : Neighbors Y} {H : Host} {timestamp : Uint256} {s s' : Registry Y}
  {account : BytesN32}

/-- The slot a key was given, plus one. -/
def Registry.keyAt (s : Registry Y) (account commitment : BytesN32) : ℕ :=
  (s.slotOfKey.get? (account, commitment)).getD 0

/-- An entry's slots and its live list agree. -/
structure RegistryEntry.Sound (e : RegistryEntry) : Prop where
  few : e.liveSlots.length ≤ MAX_ACTIVE_SLOTS
  nodup : e.liveSlots.Nodup
  below : ∀ id ∈ e.liveSlots, id.toNat < e.nextSlotId.toNat
  stored : ∀ id, (e.slots.get? id).isSome = true ↔ id ∈ e.liveSlots

theorem RegistryEntry.sound_empty : RegistryEntry.empty.Sound where
  few := Nat.zero_le _
  nodup := List.nodup_nil
  below id h := by cases h
  stored id := by simp [RegistryEntry.empty]

/-- An entry with room for one more slot: as it was, or pruned. -/
inductive Room (N : Neighbors Y) (timestamp : Uint256) (account : BytesN32) (s : Registry Y) :
    RegistryEntry → Prop
  | spare (hspare : (s.entry account).liveSlots.length < MAX_ACTIVE_SLOTS) :
      Room N timestamp account s (s.entry account)
  | pruned {atOnce : Bool} (hfull : MAX_ACTIVE_SLOTS ≤ (s.entry account).liveSlots.length)
      (hatOnce : pruneAtOnce N account s = .ok atOnce)
      (hroom : (pruneLoop timestamp account atOnce 0 (s.entry account) s.expiries).1.liveSlots.length
        < MAX_ACTIVE_SLOTS) :
      Room N timestamp account s
        (pruneLoop timestamp account atOnce 0 (s.entry account) s.expiries).1

/-- What pruning leaves of a sound entry: exactly the slots that are not prunable, once each. -/
theorem pruneLoop_exact {atOnce : Bool} {e : RegistryEntry} {expiries : Map (BytesN32 × U32) ℕ}
    (hsound : e.Sound) :
    Swept timestamp account atOnce [] e.liveSlots e expiries
      (pruneLoop timestamp account atOnce 0 e expiries) :=
  pruneLoop_swept rfl rfl hsound.nodup

theorem Swept.mem {atOnce : Bool} {e : RegistryEntry} {expiries : Map (BytesN32 × U32) ℕ}
    {r : RegistryEntry × Map (BytesN32 × U32) ℕ}
    (h : Swept timestamp account atOnce [] e.liveSlots e expiries r) (id : U32) :
    id ∈ r.1.liveSlots ↔
      id ∈ e.liveSlots ∧ ¬prunable timestamp account atOnce e expiries id = true := by
  rw [h.live.mem_iff, List.nil_append, List.mem_filter]
  simp

theorem Swept.sound {atOnce : Bool} {e : RegistryEntry} {expiries : Map (BytesN32 × U32) ℕ}
    {r : RegistryEntry × Map (BytesN32 × U32) ℕ}
    (h : Swept timestamp account atOnce [] e.liveSlots e expiries r) (hsound : e.Sound) :
    r.1.Sound where
  few := by
    rw [h.live.length_eq, List.nil_append]
    exact (List.length_filter_le _ _).trans hsound.few
  nodup := by
    rw [h.live.nodup_iff, List.nil_append]
    exact hsound.nodup.filter _
  below id hid := by
    rw [h.next]
    exact hsound.below id ((h.mem id).mp hid).1
  stored id := by
    rw [h.slots, h.mem]
    split
    · next hdropped => simp [hdropped]
    · next hkept =>
      rw [hsound.stored]
      constructor
      · intro hid
        exact ⟨hid, fun hprunable => hkept ⟨hid, hprunable⟩⟩
      · exact And.left

theorem Room.sound {e : RegistryEntry} (h : Room N timestamp account s e)
    (hsound : (s.entry account).Sound) :
    e.Sound ∧ e.liveSlots.length < MAX_ACTIVE_SLOTS ∧
      e.nextSlotId = (s.entry account).nextSlotId := by
  cases h with
  | spare hspare => exact ⟨hsound, hspare, rfl⟩
  | @pruned atOnce hfull hatOnce hroom =>
    have hswept := @pruneLoop_exact timestamp account atOnce _ s.expiries hsound
    exact ⟨hswept.sound hsound, hroom, hswept.next⟩

/-- Making room stores nothing. -/
theorem Room.slot {e : RegistryEntry} (h : Room N timestamp account s e)
    (hsound : (s.entry account).Sound) {id : U32} {slot : KeySlot}
    (hslot : e.slots.get? id = some slot) : (s.entry account).slots.get? id = some slot := by
  cases h with
  | spare => exact hslot
  | @pruned atOnce =>
    have hswept := @pruneLoop_exact timestamp account atOnce _ s.expiries hsound
    rw [hswept.slots] at hslot
    split at hslot
    · cases hslot
    · exact hslot

/-- A slot was added for a key that never had one. -/
structure Added (N : Neighbors Y) (timestamp : Uint256) (account commitment : BytesN32)
    (slotId : U32) (s s' : Registry Y) : Prop where
  unused : s.used account commitment = false
  room : ∃ e, Room N timestamp account s e ∧ slotId = e.nextSlotId ∧
    s'.entry account = {
      nextSlotId := slotId + 1
      slots := e.slots.set slotId
        { commitment, validUntil := 0, registeredAt := timestamp.toNat % 2 ^ 64 }
      liveSlots := e.liveSlots ++ [slotId] }
  fits : slotId.toNat + 1 < 2 ^ 32
  others : ∀ account', account' ≠ account → s'.entry account' = s.entry account'
  used : ∀ account' commitment', s'.used account' commitment'
    = (decide ((account', commitment') = (account, commitment)) || s.used account' commitment')
  keys : ∀ account' commitment', s'.keyAt account' commitment'
    = if (account', commitment') = (account, commitment) then slotId.toNat + 1
      else s.keyAt account' commitment'

theorem Added.sound {commitment : BytesN32} {slotId : U32}
    (h : Added N timestamp account commitment slotId s s') (hsound : (s.entry account).Sound) :
    (s'.entry account).Sound := by
  obtain ⟨e, hroom, hnext, hentry⟩ := h.room
  obtain ⟨he, hspare, -⟩ := hroom.sound hsound
  have hbelow : ∀ id ∈ e.liveSlots, id.toNat < slotId.toNat := by
    rw [hnext]
    exact he.below
  have hfresh : slotId ∉ e.liveSlots := fun hid => lt_irrefl _ (hbelow slotId hid)
  have hsucc : (slotId + 1).toNat = slotId.toNat + 1 := by
    rw [BitVec.toNat_add]
    exact Nat.mod_eq_of_lt h.fits
  rw [hentry]
  constructor
  · rw [List.length_append]
    exact hspare
  · exact List.nodup_append.mpr ⟨he.nodup, List.nodup_singleton _, fun a ha b hb heq =>
      hfresh (by rw [List.mem_singleton.mp hb] at heq; exact heq ▸ ha)⟩
  · intro id hid
    rw [hsucc]
    rcases List.mem_append.mp hid with hid | hid
    · exact Nat.lt_succ_of_lt (hbelow id hid)
    · rw [List.mem_singleton.mp hid]
      exact Nat.lt_succ_self _
  · intro id
    rw [Map.get?_set, List.mem_append, List.mem_singleton]
    split
    · next hid => simp [hid]
    · next hid =>
      rw [he.stored]
      simp [hid]

/-! ## What each call does to the slots -/

theorem entry_of_set {account' : BytesN32} {e : RegistryEntry} {r : Registry Y}
    (h : r.entries = s.entries.set account e) :
    r.entry account' = if account' = account then e else s.entry account' := by
  unfold Registry.entry
  rw [h, Map.get?_set]
  split <;> rfl

/-- The slots and the used keys of one account, as they are read. -/
structure SameSlots (s s' : Registry Y) (account : BytesN32) : Prop where
  entry : s'.entry account = s.entry account
  used : ∀ commitment, s'.used account commitment = s.used account commitment
  keys : ∀ commitment, s'.keyAt account commitment = s.keyAt account commitment

theorem pruneFull_ok (ok : pruneFull N timestamp account s = .ok ((), s')) :
    ∃ e, Room N timestamp account s e ∧ s'.entry account = e ∧
      (∀ account', account' ≠ account → s'.entry account' = s.entry account') ∧
      s'.usedCommitment = s.usedCommitment ∧ s'.slotOfKey = s.slotOfKey := by
  simp only [pruneFull, Tx.bind_read_ok, Tx.ite_apply] at ok
  split at ok
  · next hfull =>
    obtain ⟨⟨⟩, s₁, hprune, hrest⟩ := Tx.bind_ok.mp ok
    simp only [prune, Tx.bind_view_ok, Tx.modify_ok, Prod.mk.injEq, true_and] at hprune
    obtain ⟨atOnce, hatOnce, rfl⟩ := hprune
    simp only [Tx.bind_read_ok, Tx.require_ok, Prod.mk.injEq, true_and] at hrest
    obtain ⟨hroom, rfl⟩ := hrest
    have hentry : Registry.entry { s with
        entries := s.entries.set account
          (pruneLoop timestamp account atOnce 0 (s.entry account) s.expiries).1
        expiries := (pruneLoop timestamp account atOnce 0 (s.entry account) s.expiries).2 } account
        = (pruneLoop timestamp account atOnce 0 (s.entry account) s.expiries).1 := by
      rw [entry_of_set rfl, if_pos rfl]
    rw [hentry] at hroom
    refine ⟨_, .pruned hfull hatOnce hroom, hentry, ?_, rfl, rfl⟩
    intro account' haccount
    rw [entry_of_set rfl, if_neg haccount]
  · next hspare =>
    obtain rfl := (Prod.mk.inj (Tx.pure_ok.mp ok)).2
    exact ⟨_, .spare (Nat.lt_of_not_le hspare), rfl, fun _ _ => rfl, rfl, rfl⟩

theorem addSlot_ok {commitment : BytesN32} {slotId : U32}
    (ok : addSlot N timestamp account commitment s = .ok (slotId, s')) :
    Added N timestamp account commitment slotId s s' := by
  simp only [addSlot, Tx.bind_read_ok, Tx.bind_require_ok] at ok
  obtain ⟨hunused, ok⟩ := ok
  obtain ⟨⟨⟩, s₁, hfull, ok⟩ := Tx.bind_ok.mp ok
  obtain ⟨e, hroom, rfl, hothers, hused, hkeys⟩ := pruneFull_ok hfull
  simp only [Tx.bind_read_ok, Tx.bind_lift_ok, Tx.bind_modify_ok, Tx.pure_ok, Check.add_ok,
    Prod.mk.injEq] at ok
  obtain ⟨next, ⟨hfits, rfl⟩, rfl, rfl⟩ := ok
  have hsucc : BitVec.ofNat 32 ((s₁.entry account).nextSlotId.toNat + 1)
      = (s₁.entry account).nextSlotId + 1 := by
    apply BitVec.eq_of_toNat_eq
    simp [BitVec.toNat_add]
  refine ⟨hunused, ⟨s₁.entry account, hroom, rfl, ?_⟩, hfits, ?_, ?_, ?_⟩
  · rw [entry_of_set rfl, if_pos rfl, hsucc]
  · intro account' haccount
    rw [entry_of_set rfl, if_neg haccount, hothers account' haccount]
  · intro account' commitment'
    unfold Registry.used
    rw [Map.get?_set, hused]
    split
    · next h => simp [h]
    · next h => simp [h]
  · intro account' commitment'
    unfold Registry.keyAt
    rw [Map.get?_set, hkeys]
    split <;> rfl

/-- The slot an accepted call added, if it added one: the account, the key and the id. -/
def added? (H : Host) (call : Call) (r : Ret) : Option (BytesN32 × BytesN32 × U32) :=
  match call, r with
  | .register account _ blsPubKey _ _ _, .slot slotId
  | .registerByProof account blsPubKey _ _ _ _ _, .slot slotId =>
    some (account, H.keccak256 blsPubKey, slotId)
  | _, _ => none

/-- What an accepted call did to the slots. -/
inductive Step (N : Neighbors Y) (H : Host) (timestamp : Uint256) (s : Registry Y) :
    Call → Ret → Registry Y → Prop
  | added {call : Call} {r : Ret} {account commitment : BytesN32} {slotId : U32} {s₁ s' : Registry Y}
      (hcall : added? H call r = some (account, commitment, slotId))
      (hadded : Added N timestamp account commitment slotId s s₁)
      (hsame : ∀ account, SameSlots s₁ s' account) : Step N H timestamp s call r s'
  | shortened {call : Call} {r : Ret} {account keyCommitment : BytesN32} {slotId : U32}
      {validUntil : ℕ} {s' : Registry Y} (hcall : added? H call r = none)
      (hkey : s.keyAt account keyCommitment ≠ 0)
      (hslot : ((s.entry account).slot slotId).commitment = keyCommitment)
      (hentry : ∀ account', s'.entry account' = if account' = account then { s.entry account with
        slots := (s.entry account).slots.set slotId
          { (s.entry account).slot slotId with validUntil } } else s.entry account')
      (hused : s'.usedCommitment = s.usedCommitment) (hkeys : s'.slotOfKey = s.slotOfKey) :
      Step N H timestamp s call r s'
  | revoked {call : Call} {r : Ret} {account : BytesN32} {s' : Registry Y}
      (hcall : added? H call r = none)
      (hentry : ∀ account', s'.entry account' = if account' = account then { s.entry account with
        slots := (s.entry account).liveSlots.foldl (fun slots id => slots.remove id)
          (s.entry account).slots
        liveSlots := [] } else s.entry account')
      (hused : s'.usedCommitment = s.usedCommitment) (hkeys : s'.slotOfKey = s.slotOfKey) :
      Step N H timestamp s call r s'
  | kept {call : Call} {r : Ret} {s' : Registry Y} (hcall : added? H call r = none)
      (hsame : ∀ account, SameSlots s s' account) : Step N H timestamp s call r s'

theorem whenNotPaused_ok {α : Type} {f : Unit → Tx RegistryError (Registry Y) α}
    {r : α × Registry Y} (ok : (whenNotPaused >>= f) s = .ok r) : f () s = .ok r := by
  obtain ⟨⟨⟩, s₁, hread, hrest⟩ := Tx.bind_ok.mp ok
  simp only [whenNotPaused, Tx.bind_read_ok, Tx.require_ok, Prod.mk.injEq, true_and] at hread
  obtain ⟨-, rfl⟩ := hread
  exact hrest

theorem bumpNonce_same {nonce : Uint256} {r : Unit × Registry Y}
    (ok : bumpNonce account nonce s = .ok r) : ∀ account', SameSlots s r.2 account' := by
  simp only [bumpNonce, Tx.bind_lift_ok, Tx.modify_ok] at ok
  obtain ⟨_, -, rfl⟩ := ok
  exact fun _ => ⟨rfl, fun _ => rfl, fun _ => rfl⟩

/-- Every accepted call is such a step. -/
theorem step_of_exec {call : Call} {r : Ret} (ok : exec N H timestamp call s = .ok (r, s')) :
    Step N H timestamp s call r s' := by
  cases call with
  | register account owner blsPubKey pop nonce deadline =>
    obtain ⟨slotId, hok, rfl⟩ := Tx.answer_ok.mp ok
    have hok := whenNotPaused_ok hok
    simp only [Tx.bind_lift_ok, Tx.bind_require_ok, Tx.bind_read_ok] at hok
    obtain ⟨⟨⟩, -, -, -, -, ⟨⟩, -, ⟨⟩, -, ⟨⟩, -, hok⟩ := hok
    obtain ⟨id, s₁, hadd, hok⟩ := Tx.bind_ok.mp hok
    obtain ⟨⟨⟩, s₂, hbump, hpure⟩ := Tx.bind_ok.mp hok
    obtain ⟨rfl, rfl⟩ := Prod.mk.inj (Tx.pure_ok.mp hpure)
    exact .added rfl (addSlot_ok hadd) (bumpNonce_same hbump)
  | registerByProof account blsPubKey pop epoch sourceChainId targetRoot proof =>
    obtain ⟨slotId, hok, rfl⟩ := Tx.answer_ok.mp ok
    have hok := whenNotPaused_ok hok
    simp only [Tx.bind_lift_ok, Tx.bind_require_ok, Tx.bind_read_ok, Tx.bind_expectTrap_ok] at hok
    obtain ⟨-, -, -, -, -, _, -, -, ⟨⟩, -, _, -, -, hadd⟩ := hok
    exact .added rfl (addSlot_ok hadd) fun _ => ⟨rfl, fun _ => rfl, fun _ => rfl⟩
  | setValidUntil account owner keyCommitment validUntil =>
    obtain ⟨⟨⟩, hok, rfl⟩ := Tx.answer_ok.mp ok
    simp only [setValidUntil, slotOfKey, Tx.bind_view_ok, Tx.bind_read_ok, Tx.bind_require_ok,
      Tx.bind_lift_ok, Tx.modify_ok, Check.bind_ok, Check.require_ok, Check.pure_ok, Prod.mk.injEq,
      true_and] at hok
    obtain ⟨_, ⟨⟨⟩, hkey, ⟨⟩, hslot, rfl⟩, -, -, ⟨⟩, -, rfl⟩ := hok
    exact .shortened rfl hkey hslot (fun account' => entry_of_set rfl) rfl rfl
  | revoke account owner nonce =>
    obtain ⟨⟨⟩, hok, rfl⟩ := Tx.answer_ok.mp ok
    have hok := whenNotPaused_ok hok
    simp only [Tx.bind_lift_ok, Tx.bind_require_ok, Tx.bind_read_ok, Tx.bind_modify_ok] at hok
    obtain ⟨-, ⟨⟩, -, ⟨⟩, -, ⟨⟩, -, hok⟩ := hok
    obtain ⟨⟨⟩, s₁, hbump, hok⟩ := Tx.bind_ok.mp hok
    simp only [bumpNonce, Tx.bind_lift_ok, Tx.modify_ok, Prod.mk.injEq, true_and] at hbump
    obtain ⟨_, -, rfl⟩ := hbump
    simp only [Tx.bind_lift_ok, Tx.modify_ok, Prod.mk.injEq, true_and] at hok
    obtain ⟨_, -, rfl⟩ := hok
    exact .revoked rfl (fun account' => entry_of_set rfl) rfl rfl
  | cancel account owner nonce =>
    obtain ⟨⟨⟩, hok, rfl⟩ := Tx.answer_ok.mp ok
    have hok := whenNotPaused_ok hok
    simp only [Tx.bind_lift_ok, Tx.bind_require_ok, Tx.bind_read_ok] at hok
    obtain ⟨-, ⟨⟩, -, ⟨⟩, -, hbump⟩ := hok
    exact .kept rfl (bumpNonce_same hbump)
  | approveMaker account maker approved owner nonce deadline =>
    obtain ⟨⟨⟩, hok, rfl⟩ := Tx.answer_ok.mp ok
    simp only [approveMaker, Tx.bind_lift_ok, Tx.bind_require_ok, Tx.bind_read_ok, Tx.modify_ok,
      Prod.mk.injEq, true_and] at hok
    obtain ⟨-, ⟨⟩, -, -, ⟨⟩, -, ⟨⟩, -, _, -, rfl⟩ := hok
    exact .kept rfl fun _ => ⟨rfl, fun _ => rfl, fun _ => rfl⟩
  | approveRepin account orderHash fromSlot toSlot owner nonce =>
    obtain ⟨⟨⟩, hok, rfl⟩ := Tx.answer_ok.mp ok
    simp only [approveRepin, Tx.bind_lift_ok, Tx.bind_require_ok, Tx.bind_read_ok, Tx.modify_ok,
      Prod.mk.injEq, true_and] at hok
    obtain ⟨-, ⟨⟩, -, ⟨⟩, -, _, -, rfl⟩ := hok
    exact .kept rfl fun _ => ⟨rfl, fun _ => rfl, fun _ => rfl⟩

/-! ## Every reachable state -/

/-- The accepted calls of a run with the times of their blocks, the newest first. -/
abbrev History := List ((Uint256 × Call) × Ret)

/-- The keys and slots an account ever registered, by either path, the newest first. -/
def registrations (H : Host) (account : BytesN32) (history : History) : List (BytesN32 × U32) :=
  history.filterMap fun e =>
    (added? H e.1.2 e.2).bind fun a => if a.1 = account then some a.2 else none

/-- No key that was registered hashes to zero, which marks an unset slot. -/
def NoZeroKey (H : Host) (history : History) : Prop :=
  ∀ e ∈ history, ∀ a, added? H e.1.2 e.2 = some a → a.2.1 ≠ 0

theorem noZeroKey_iff {H : Host} {history : History} : NoZeroKey H history ↔
    ∀ e ∈ history, (added? H e.1.2 e.2).all (fun a => decide (a.2.1 ≠ 0)) = true := by
  unfold NoZeroKey
  simp only [Option.all_eq_true, decide_eq_true_eq]

instance (H : Host) (history : History) : Decidable (NoZeroKey H history) :=
  decidable_of_iff _ noZeroKey_iff.symm

theorem registrations_cons {e : (Uint256 × Call) × Ret} {history : History} :
    registrations H account (e :: history)
      = ((added? H e.1.2 e.2).bind fun a => if a.1 = account then some a.2 else none).toList
        ++ registrations H account history := by
  unfold registrations
  rw [List.filterMap_cons]
  cases (added? H e.1.2 e.2).bind fun a => if a.1 = account then some a.2 else none <;> rfl

theorem ne_zero_of_registered {history : History} (hzero : NoZeroKey H history)
    {commitment : BytesN32} (h : commitment ∈ (registrations H account history).map Prod.fst) :
    commitment ≠ 0 := by
  obtain ⟨p, hp, rfl⟩ := List.mem_map.mp h
  obtain ⟨e, he, hp⟩ := List.mem_filterMap.mp hp
  obtain ⟨a, ha, hif⟩ := Option.bind_eq_some_iff.mp hp
  split at hif
  · obtain rfl := Option.some.inj hif
    exact hzero e he a ha
  · cases hif

/-- The stores of one account agree with each other and with what was registered. -/
structure Registry.Sound (s : Registry Y) (account : BytesN32)
    (registered : List (BytesN32 × U32)) : Prop where
  slots : (s.entry account).Sound
  issued : Issued BitVec.toNat (s.used account) (s.entry account).nextSlotId.toNat registered
  keyed : ∀ commitment, s.keyAt account commitment ≠ 0 → s.used account commitment = true
  owned : ∀ id slot, (s.entry account).slots.get? id = some slot →
    s.used account slot.commitment = true

theorem Registry.Sound.same {registered : List (BytesN32 × U32)}
    (h : s.Sound account registered) (hsame : SameSlots s s' account) :
    s'.Sound account registered where
  slots := by rw [hsame.entry]; exact h.slots
  issued := h.issued.congr hsame.used (by rw [hsame.entry])
  keyed commitment hkey := by
    rw [hsame.keys] at hkey
    rw [hsame.used]
    exact h.keyed commitment hkey
  owned id slot hslot := by
    rw [hsame.entry] at hslot
    rw [hsame.used]
    exact h.owned id slot hslot

theorem Registry.Sound.added {registered : List (BytesN32 × U32)} {commitment : BytesN32}
    {slotId : U32} (h : s.Sound account registered)
    (hadded : Added N timestamp account commitment slotId s s') :
    s'.Sound account ((commitment, slotId) :: registered) := by
  have hslots := hadded.sound h.slots
  have hused : ∀ commitment', s'.used account commitment'
      = (decide (commitment' = commitment) || s.used account commitment') := by
    intro commitment'
    rw [hadded.used]
    simp
  obtain ⟨e, hroom, hnext, hentry⟩ := hadded.room
  obtain ⟨-, -, hsame⟩ := hroom.sound h.slots
  refine ⟨hslots, h.issued.cons hadded.unused (by rw [hnext, hsame]) ?_ hused, ?_, ?_⟩
  · rw [hentry, ← hsame, ← hnext, BitVec.toNat_add]
    exact Nat.mod_eq_of_lt hadded.fits
  · intro commitment' hkey
    rw [hadded.keys] at hkey
    rw [hused]
    split at hkey
    · next heq => simp [(Prod.mk.inj heq).2]
    · simp [h.keyed commitment' hkey]
  · intro id slot hslot
    rw [hentry, Map.get?_set] at hslot
    rw [hused]
    split at hslot
    · obtain rfl := Option.some.inj hslot
      simp
    · simp [h.owned id slot (hroom.slot h.slots hslot)]

/-- Removing slots one after the other. -/
theorem get?_foldl_remove {slots : Map U32 KeySlot} {ids : List U32} {id : U32} :
    (ids.foldl (fun slots id => slots.remove id) slots).get? id
      = if id ∈ ids then none else slots.get? id := by
  induction ids generalizing slots with
  | nil => rfl
  | cons id' ids ih =>
    rw [List.foldl_cons, ih, Map.get?_remove]
    simp only [List.mem_cons]
    split_ifs <;> first | rfl | simp_all

/-- A slot that has a key is stored. -/
theorem RegistryEntry.Sound.mem_of_commitment {e : RegistryEntry} {commitment : BytesN32}
    {slotId : U32} (h : e.Sound) (hslot : (e.slot slotId).commitment = commitment)
    (hne : commitment ≠ 0) : slotId ∈ e.liveSlots := by
  rw [← h.stored]
  by_contra hnone
  rw [Bool.not_eq_true, Option.isSome_eq_false_iff, Option.isNone_iff_eq_none] at hnone
  apply hne
  rw [← hslot, RegistryEntry.slot, hnone]
  rfl

theorem RegistryEntry.Sound.set_slot {e : RegistryEntry} {slotId : U32} {slot : KeySlot}
    (h : e.Sound) (hstored : slotId ∈ e.liveSlots) :
    RegistryEntry.Sound { e with slots := e.slots.set slotId slot } where
  few := h.few
  nodup := h.nodup
  below := h.below
  stored id := by
    rw [Map.get?_set]
    split
    · next hid => simp [hid, hstored]
    · exact h.stored id

theorem RegistryEntry.Sound.cleared {e : RegistryEntry} (h : e.Sound) :
    RegistryEntry.Sound { e with
      slots := e.liveSlots.foldl (fun slots id => slots.remove id) e.slots
      liveSlots := [] } where
  few := Nat.zero_le _
  nodup := List.nodup_nil
  below id hid := by cases hid
  stored id := by
    rw [get?_foldl_remove]
    split
    · next hid => simp
    · next hid =>
      rw [h.stored]
      simp [hid]

theorem Registry.Sound.ne_zero {history : History} {commitment : BytesN32}
    (h : s.Sound account (registrations H account history)) (hzero : NoZeroKey H history)
    (hkey : s.keyAt account commitment ≠ 0) : commitment ≠ 0 :=
  ne_zero_of_registered hzero ((h.issued.used_iff commitment).mp (h.keyed commitment hkey))

/-- One accepted call. -/
theorem Step.sound {call : Call} {r : Ret} {history : History}
    (h : Step N H timestamp s call r s')
    (hzero : NoZeroKey H history)
    (hsound : s.Sound account (registrations H account history)) :
    s'.Sound account (registrations H account (((timestamp, call), r) :: history)) := by
  rw [registrations_cons]
  cases h with
  | @added account' commitment slotId s₁ _ hcall hadded hsame =>
    rw [hcall, Option.bind_some]
    by_cases haccount : account' = account
    · subst haccount
      rw [if_pos rfl]
      exact (hsound.added hadded).same (hsame account')
    · rw [if_neg haccount]
      have hother : SameSlots s s₁ account := by
        have hpair : ∀ commitment', (account, commitment') ≠ (account', commitment) :=
          fun _ heq => haccount (Prod.mk.inj heq).1.symm
        refine ⟨hadded.others account (Ne.symm haccount), fun commitment' => ?_,
          fun commitment' => ?_⟩
        · rw [hadded.used, decide_eq_false (hpair commitment'), Bool.false_or]
        · rw [hadded.keys, if_neg (hpair commitment')]
      exact (hsound.same hother).same (hsame account)
  | @shortened account' keyCommitment slotId validUntil _ hcall hkey hslot hentry hused hkeys =>
    rw [hcall, Option.bind_none]
    have hused' : ∀ commitment, s'.used account commitment = s.used account commitment := by
      intro commitment
      unfold Registry.used
      rw [hused]
    have hkeyed : ∀ commitment, s'.keyAt account commitment ≠ 0 →
        s'.used account commitment = true := by
      intro commitment hne
      rw [hused']
      unfold Registry.keyAt at hne
      rw [hkeys] at hne
      exact hsound.keyed commitment hne
    by_cases haccount : account = account'
    · subst haccount
      have hstored : slotId ∈ (s.entry account).liveSlots :=
        hsound.slots.mem_of_commitment hslot (hsound.ne_zero hzero hkey)
      have hentry' := hentry account
      rw [if_pos rfl] at hentry'
      refine ⟨?_, hsound.issued.congr hused' (by rw [hentry']), hkeyed, ?_⟩
      · rw [hentry']
        exact hsound.slots.set_slot hstored
      · intro id slot hget
        rw [hentry', Map.get?_set] at hget
        rw [hused']
        split at hget
        · obtain rfl := Option.some.inj hget
          show s.used account ((s.entry account).slot slotId).commitment = true
          rw [hslot]
          exact hsound.keyed _ hkey
        · exact hsound.owned id slot hget
    · have hentry' := hentry account
      rw [if_neg haccount] at hentry'
      exact ⟨by rw [hentry']; exact hsound.slots,
        hsound.issued.congr hused' (by rw [hentry']), hkeyed,
        fun id slot hget => by rw [hused']; exact hsound.owned id slot (hentry' ▸ hget)⟩
  | @revoked account' _ hcall hentry hused hkeys =>
    rw [hcall, Option.bind_none]
    have hused' : ∀ commitment, s'.used account commitment = s.used account commitment := by
      intro commitment
      unfold Registry.used
      rw [hused]
    have hkeyed : ∀ commitment, s'.keyAt account commitment ≠ 0 →
        s'.used account commitment = true := by
      intro commitment hne
      rw [hused']
      unfold Registry.keyAt at hne
      rw [hkeys] at hne
      exact hsound.keyed commitment hne
    by_cases haccount : account = account'
    · subst haccount
      have hentry' := hentry account
      rw [if_pos rfl] at hentry'
      refine ⟨?_, hsound.issued.congr hused' (by rw [hentry']), hkeyed, ?_⟩
      · rw [hentry']
        exact hsound.slots.cleared
      · intro id slot hget
        rw [hentry', get?_foldl_remove] at hget
        rw [hused']
        split at hget
        · cases hget
        · exact hsound.owned id slot hget
    · have hentry' := hentry account
      rw [if_neg haccount] at hentry'
      exact ⟨by rw [hentry']; exact hsound.slots,
        hsound.issued.congr hused' (by rw [hentry']), hkeyed,
        fun id slot hget => by rw [hused']; exact hsound.owned id slot (hentry' ▸ hget)⟩
  | kept hcall hsame =>
    rw [hcall, Option.bind_none]
    exact hsound.same (hsame account)

variable {outside : Y → Y → Prop} {y : Y} {history : History}

theorem Registry.sound_deployed {settings : Settings} :
    (Registry.deployed settings y).Sound account [] where
  slots := RegistryEntry.sound_empty
  issued := .nil fun _ => rfl
  keyed _ h := absurd rfl h
  owned _ _ h := by cases h

/-- Every account's stores agree in every reachable state. -/
theorem sound_of_run {settings : Settings}
    (run : Run (system N H outside) (Registry.deployed settings y) history s)
    (hzero : NoZeroKey H history) : s.Sound account (registrations H account history) := by
  induction run with
  | start => exact Registry.sound_deployed
  | @accepted history s s' t r run admitted ok ih =>
    have hearlier : NoZeroKey H history := fun e he => hzero e (List.mem_cons_of_mem _ he)
    exact (step_of_exec ok).sound hearlier (ih hearlier)
  | refused run failed ih => exact ih hzero
  | outside run moved ih =>
    obtain ⟨settings', y', -, rfl⟩ := moved
    exact (ih hzero).same ⟨rfl, fun _ => rfl, fun _ => rfl⟩

/-- A record is there, that is, has a key, exactly for the live slots. -/
theorem Registry.Sound.recorded (h : s.Sound account (registrations H account history))
    (hzero : NoZeroKey H history) (id : U32) :
    ((s.entry account).slot id).commitment ≠ 0 ↔ id ∈ (s.entry account).liveSlots := by
  constructor
  · exact h.slots.mem_of_commitment rfl
  · intro hid
    obtain ⟨slot, hslot⟩ := Option.isSome_iff_exists.mp ((h.slots.stored id).mpr hid)
    rw [RegistryEntry.slot, hslot]
    exact ne_zero_of_registered hzero ((h.issued.used_iff _).mp (h.owned id slot hslot))

/-! ## A sample run -/

/-- The generator of G1, in the form the precompiles take. -/
def sampleKey : Bytes :=
  Eip712.concat [0x17f1d3a73197d7942695638c4fa9ac0f,
    0xc3688c4f9774b905a14e3a3f171bac586c55e83ff97a1aeffb3af00adb22c6bb,
    0x8b3f481e3aaa0f1a09e30ed741d8ae4,
    0xfcf5e095d5d00af600db18cb2c04b3edd03cc744a2888ae40caa232946c5e7e1]

/-- Its keccak256. -/
def sampleCommitment : BytesN32 :=
  0x17324a2fdcdb2cdcf2a8697d8dc07e3ee621d20e7dfb64771438fe28ce1701c1

def sampleHost : Host where
  chainId := 1
  this := 0x4B
  keccak256 _ := sampleCommitment
  popValid _ _ _ _ := true
  ownerSigned _ _ _ _ _ _ := true

/-- Nothing is around the sample registry. -/
def noNeighbors : Neighbors Unit where
  hasOpenPositions _ _ _ := none
  isAnchored _ _ _ _ _ := none
  verify _ _ _ _ := none

def sampleSettings : Settings where
  paused := false
  positionGuards := []
  rootAnchor := 0
  proofVerifier := 0
  proofSources := []
  proofRegistrationEnabled := false

abbrev sampleSystem : System RegistryError (Registry Unit) (Uint256 × Call) Ret :=
  system noNeighbors sampleHost (fun _ _ => False)

/-- An account registers a key and retires it. -/
def sampleCalls : List (Uint256 × Call) :=
  [(1000, .register 0x3A ⟨.secp256k1, [⟨1, 0x4B, 0⟩], []⟩ sampleKey (List.replicate 256 0) 0 2000),
    (1100, .setValidUntil 0x3A ⟨.secp256k1, [], []⟩ sampleCommitment 5000)]

def sampleRun : History × Registry Unit :=
  (play sampleSystem sampleCalls [] (.deployed sampleSettings ())).getD
    ([], .deployed sampleSettings ())

theorem run_sample :
    Run sampleSystem (.deployed sampleSettings ()) sampleRun.1 sampleRun.2 :=
  Run.played (by decide +kernel) fun _ _ _ => trivial

end KeyRegistry
end Evm
end ProofBridge
