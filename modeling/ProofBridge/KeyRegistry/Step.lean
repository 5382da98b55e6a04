import ProofBridge.KeyRegistry.Model

/-!
# What one call of the registry can do

`Step` says once what an accepted call did to the records of the accounts, and under which guards.
Every invariant of the registry is a case analysis of it.
-/

namespace ProofBridge
namespace KeyRegistry

open ContractLib

/-! ## Reading what was written -/

namespace Keys

variable {k : Keys} {account account' : BytesN32}

theorem getEntry_setEntry {entry : RegistryEntry} :
    (k.setEntry account entry).getEntry account'
      = if account' = account then entry else k.getEntry account' := by
  unfold getEntry setEntry
  rw [Map.get?_set]
  split <;> rfl

theorem getSlot_setSlot {slotId slotId' : U32} {slot : KeySlot} :
    (k.setSlot account slotId slot).getSlot account' slotId'
      = if (account', slotId') = (account, slotId) then some slot
        else k.getSlot account' slotId' := by
  unfold getSlot setSlot
  rw [Map.get?_set]

theorem getExpiredAt_setExpiredAt {slotId slotId' : U32} {time : ℕ} :
    (k.setExpiredAt account slotId time).getExpiredAt account' slotId'
      = if (account', slotId') = (account, slotId) then time
        else k.getExpiredAt account' slotId' := by
  unfold getExpiredAt setExpiredAt
  rw [Map.get?_set]
  split <;> rfl

theorem getKeySlot_setKeySlot {commitment commitment' : BytesN32} {slotId : U32} :
    (k.setKeySlot account commitment slotId).getKeySlot account' commitment'
      = if (account', commitment') = (account, commitment) then some slotId
        else k.getKeySlot account' commitment' := by
  unfold getKeySlot setKeySlot
  rw [Map.get?_set]

theorem isUsed_setUsed {commitment commitment' : BytesN32} :
    (k.setUsed account commitment).isUsed account' commitment'
      = (decide ((account', commitment') = (account, commitment))
        || k.isUsed account' commitment') := by
  unfold isUsed setUsed
  rw [Map.get?_set]
  split
  · next h => simp [h]
  · next h => simp [h]

theorem getNonce_setNonce {nonce : ℕ} :
    (k.setNonce account nonce).getNonce account'
      = if account' = account then nonce else k.getNonce account' := by
  unfold getNonce setNonce
  rw [Map.get?_set]
  split <;> rfl

theorem getApproval_setApproval {maker maker' : BytesN32} {a : MakerApproval} :
    (k.setApproval account maker a).getApproval account' maker'
      = if (account', maker') = (account, maker) then a else k.getApproval account' maker' := by
  unfold getApproval setApproval
  rw [Map.get?_set]
  split <;> rfl

theorem getRepin_setRepin {orderHash orderHash' : BytesN32} {r : RepinApproval} :
    (k.setRepin account orderHash r).getRepin account' orderHash'
      = if (account', orderHash') = (account, orderHash) then r
        else k.getRepin account' orderHash' := by
  unfold getRepin setRepin
  rw [Map.get?_set]
  split <;> rfl

theorem getApprovalGen_setApprovalGen {generation : ℕ} :
    (k.setApprovalGen account generation).getApprovalGen account'
      = if account' = account then generation else k.getApprovalGen account' := by
  unfold getApprovalGen setApprovalGen
  rw [Map.get?_set]
  split <;> rfl

/-- Drop the records of several slots. -/
def removeSlots (k : Keys) (account : BytesN32) (ids : List U32) : Keys :=
  ids.foldl (fun k slotId => k.removeSlot account slotId) k

theorem getSlot_removeSlot {slotId slotId' : U32} :
    (k.removeSlot account slotId).getSlot account' slotId'
      = if (account', slotId') = (account, slotId) then none else k.getSlot account' slotId' := by
  unfold getSlot removeSlot
  rw [Map.get?_remove]

theorem getExpiredAt_removeSlot {slotId slotId' : U32} :
    (k.removeSlot account slotId).getExpiredAt account' slotId'
      = if (account', slotId') = (account, slotId) then 0
        else k.getExpiredAt account' slotId' := by
  unfold getExpiredAt removeSlot
  rw [Map.get?_remove]
  split <;> rfl

theorem getSlot_removeSlots {ids : List U32} {slotId : U32} :
    (k.removeSlots account ids).getSlot account' slotId
      = if account' = account ∧ slotId ∈ ids then none else k.getSlot account' slotId := by
  unfold removeSlots
  induction ids generalizing k with
  | nil => simp
  | cons id ids ih =>
    rw [List.foldl_cons, ih, getSlot_removeSlot]
    simp only [Prod.mk.injEq, List.mem_cons]
    split_ifs <;> first | rfl | grind

theorem getExpiredAt_removeSlots {ids : List U32} {slotId : U32} :
    (k.removeSlots account ids).getExpiredAt account' slotId
      = if account' = account ∧ slotId ∈ ids then 0 else k.getExpiredAt account' slotId := by
  unfold removeSlots
  induction ids generalizing k with
  | nil => simp
  | cons id ids ih =>
    rw [List.foldl_cons, ih, getExpiredAt_removeSlot]
    simp only [Prod.mk.injEq, List.mem_cons]
    split_ifs <;> first | rfl | grind

/-- Dropping slots moves only the slots and their expiries. -/
theorem removeSlots_eq {ids : List U32} : ∃ slots expiries,
    k.removeSlots account ids = { k with slots, expiries } := by
  unfold removeSlots
  induction ids generalizing k with
  | nil => exact ⟨k.slots, k.expiries, rfl⟩
  | cons id ids ih =>
    obtain ⟨slots, expiries, h⟩ := @ih (k.removeSlot account id)
    exact ⟨slots, expiries, h⟩

/-- The records of a new slot. -/
def insertSlot (k : Keys) (account commitment : BytesN32) (now : ℕ) (slotId : U32)
    (entry : RegistryEntry) : Keys :=
  (((k.setSlot account slotId { commitment, validUntil := 0, registeredAt := now }).setEntry
    account entry).setUsed account commitment).setKeySlot account commitment slotId

/-- A new date for a slot, and the expiry it records. -/
def shorten (k : Keys) (account : BytesN32) (now : ℕ) (slotId : U32) (slot : KeySlot)
    (validUntil : ℕ) : Keys :=
  (k.setSlot account slotId { slot with validUntil }).setExpiredAt account slotId
    (if k.getExpiredAt account slotId = 0 then max validUntil now
      else min (k.getExpiredAt account slotId) (max validUntil now))

/-- An account leaves: no slots, a new nonce, a new generation of approvals. -/
def leave (k : Keys) (account : BytesN32) (nonce : ℕ) : Keys :=
  (((k.removeSlots account (k.getEntry account).live).setEntry account
    { k.getEntry account with live := [] }).setNonce account nonce).setApprovalGen account
      (k.getApprovalGen account + 1)

end Keys

variable {Y : Type} {N : Neighbors Y} {H : KeyHost} {env : Env} {c c' : Chain Y}

/-- The records of the accounts. -/
abbrev Chain.keys (c : Chain Y) : Keys := c.state.keys

/-- The same registry with other records. -/
def Chain.withKeys (c : Chain Y) (keys : Keys) (published : List RegistryEvent) : Chain Y :=
  { c with state := { c.state with keys, published } }

/-! ## Pruning -/

section Prune

variable {account : BytesN32} {atOnce : Bool}

/-- Dropping one slot changes nothing for another. -/
theorem prunable_removeSlot {k : Keys} {slotId slotId' : U32} (h : slotId' ≠ slotId) :
    prunable env account atOnce (k.removeSlot account slotId) slotId'
      = prunable env account atOnce k slotId' := by
  have hne : (account, slotId') ≠ (account, slotId) := fun heq => h (Prod.mk.inj heq).2
  unfold prunable Keys.expiredAt
  rw [Keys.getSlot_removeSlot, if_neg hne, Keys.getExpiredAt_removeSlot, if_neg hne]

/-- The loop keeps, in order, what it does not drop, and drops exactly what is prunable. -/
theorem pruneEach_ok {ids kept : List U32} (hnodup : ids.Nodup)
    (ok : pruneEach env account atOnce ids c = .ok (kept, c')) :
    kept = ids.filter (fun id => !prunable env account atOnce c.keys id) ∧
      ∃ published, c' = c.withKeys
        (c.keys.removeSlots account (ids.filter (prunable env account atOnce c.keys)))
        published := by
  induction ids generalizing c kept with
  | nil =>
    obtain ⟨rfl, rfl⟩ := Prod.mk.inj (Tx.pure_ok.mp ok)
    exact ⟨rfl, c'.state.published, rfl⟩
  | cons id ids ih =>
    obtain ⟨hid, hrest⟩ := List.nodup_cons.mp hnodup
    unfold pruneEach at ok
    simp only [Tx.bind_read_ok, Tx.ite_apply] at ok
    split at ok
    · next hprunable =>
      simp only [Tx.bind_modify_ok] at ok
      obtain ⟨hkept, published, hc'⟩ := ih hrest ok
      have hsame : ∀ id' ∈ ids, prunable env account atOnce (c.keys.removeSlot account id) id'
          = prunable env account atOnce c.keys id' := fun id' hid' =>
        prunable_removeSlot fun heq => hid (heq ▸ hid')
      have hdropped : ids.filter (prunable env account atOnce (c.keys.removeSlot account id))
          = ids.filter (prunable env account atOnce c.keys) := List.filter_congr hsame
      constructor
      · rw [hkept, List.filter_cons_of_neg (by simp [hprunable])]
        exact List.filter_congr fun id' hid' => congrArg not (hsame id' hid')
      · refine ⟨published, hc'.trans ?_⟩
        show c.withKeys ((c.keys.removeSlot account id).removeSlots account
          (ids.filter (prunable env account atOnce (c.keys.removeSlot account id)))) published = _
        rw [hdropped, List.filter_cons_of_pos hprunable]
        rfl
    · next hprunable =>
      rw [Tx.bind_ok] at ok
      obtain ⟨kept', c₁, hrec, hpure⟩ := ok
      obtain ⟨rfl, rfl⟩ := Prod.mk.inj (Tx.pure_ok.mp hpure)
      obtain ⟨hkept, hc'⟩ := ih hrest hrec
      constructor
      · rw [List.filter_cons_of_pos (by simp [hprunable]), hkept]
      · rw [List.filter_cons_of_neg hprunable]
        exact hc'

/-- Room for one more slot: `kept` stays live, `dropped` goes. -/
inductive Room (N : Neighbors Y) (env : Env) (account : BytesN32) (c : Chain Y) :
    (dropped kept : List U32) → Prop
  | spare (hspare : (c.keys.getEntry account).live.length < MAX_ACTIVE_SLOTS) :
      Room N env account c [] (c.keys.getEntry account).live
  | pruned {atOnce : Bool} (hfull : MAX_ACTIVE_SLOTS ≤ (c.keys.getEntry account).live.length)
      (hatOnce : pruneAtOnce N account c = .ok atOnce)
      (hroom : ((c.keys.getEntry account).live.filter
        fun id => !prunable env account atOnce c.keys id).length < MAX_ACTIVE_SLOTS) :
      Room N env account c
        ((c.keys.getEntry account).live.filter (prunable env account atOnce c.keys))
        ((c.keys.getEntry account).live.filter fun id => !prunable env account atOnce c.keys id)

theorem prune_ok {entry entry' : RegistryEntry} (hnodup : entry.live.Nodup)
    (ok : prune N env account entry c = .ok (entry', c')) :
    ∃ atOnce published, pruneAtOnce N account c = .ok atOnce ∧
      entry' = { entry with
        live := entry.live.filter fun id => !prunable env account atOnce c.keys id } ∧
      c' = c.withKeys
        (c.keys.removeSlots account (entry.live.filter (prunable env account atOnce c.keys)))
        published := by
  simp only [prune, Tx.bind_view_ok] at ok
  obtain ⟨atOnce, hatOnce, ok⟩ := ok
  obtain ⟨kept, c₁, heach, hpure⟩ := Tx.bind_ok.mp ok
  obtain ⟨rfl, rfl⟩ := Prod.mk.inj (Tx.pure_ok.mp hpure)
  obtain ⟨rfl, published, hc₁⟩ := pruneEach_ok hnodup heach
  exact ⟨atOnce, published, hatOnce, rfl, hc₁⟩

theorem pruneFull_ok {entry' : RegistryEntry} (hnodup : (c.keys.getEntry account).live.Nodup)
    (ok : pruneFull N env account (c.keys.getEntry account) c = .ok (entry', c')) :
    ∃ dropped published, Room N env account c dropped entry'.live ∧
      entry'.nextSlotId = (c.keys.getEntry account).nextSlotId ∧
      c' = c.withKeys (c.keys.removeSlots account dropped) published := by
  simp only [pruneFull, Tx.ite_apply] at ok
  split at ok
  · next hfull =>
    obtain ⟨pruned, c₁, hprune, hrest⟩ := Tx.bind_ok.mp ok
    obtain ⟨atOnce, published, hatOnce, hentry, hc₁⟩ := prune_ok hnodup hprune
    simp only [Tx.bind_require_ok, Tx.pure_ok, Prod.mk.injEq] at hrest
    obtain ⟨hroom, rfl, rfl⟩ := hrest
    rw [hentry] at hroom ⊢
    exact ⟨_, published, .pruned hfull hatOnce hroom, rfl, hc₁⟩
  · next hspare =>
    obtain ⟨rfl, rfl⟩ := Prod.mk.inj (Tx.pure_ok.mp ok)
    exact ⟨[], c'.state.published, .spare (Nat.lt_of_not_le hspare), rfl, rfl⟩

/-- A slot was added for a key that never had one. -/
structure Added (N : Neighbors Y) (env : Env) (account commitment : BytesN32) (slotId : U32)
    (c : Chain Y) (k' : Keys) : Prop where
  unused : c.keys.isUsed account commitment = false
  next : slotId = (c.keys.getEntry account).nextSlotId
  fits : slotId.toNat + 1 < 2 ^ 32
  made : ∃ dropped kept, Room N env account c dropped kept ∧
    k' = (c.keys.removeSlots account dropped).insertSlot account commitment env.now slotId
      { nextSlotId := slotId + 1, live := kept ++ [slotId] }

theorem addSlot_ok {commitment : BytesN32} {slotId : U32}
    (hnodup : (c.keys.getEntry account).live.Nodup)
    (ok : addSlot N env account commitment c = .ok (slotId, c')) :
    ∃ k published, Added N env account commitment slotId c k ∧ c' = c.withKeys k published := by
  simp only [addSlot, Tx.bind_read_ok, Tx.bind_require_ok] at ok
  obtain ⟨hunused, ok⟩ := ok
  obtain ⟨entry, c₁, hfull, ok⟩ := Tx.bind_ok.mp ok
  obtain ⟨dropped, published, hroom, hnext, rfl⟩ := pruneFull_ok hnodup hfull
  simp only [Tx.bind_lift_ok, Tx.bind_modify_ok, Tx.pure_ok, Check.add_ok, Prod.mk.injEq] at ok
  obtain ⟨next, ⟨hfits, rfl⟩, rfl, rfl⟩ := ok
  have hsucc : BitVec.ofNat 32 (entry.nextSlotId.toNat + 1) = entry.nextSlotId + 1 := by
    apply BitVec.eq_of_toNat_eq
    simp [BitVec.toNat_add]
  refine ⟨_, published, ⟨hunused, hnext, hfits, dropped, _, hroom, rfl⟩, ?_⟩
  rw [hsucc]
  rfl

end Prune

/-! ## The step -/

/-- The calls that touch no record of an account. -/
def Call.quiet : Call → Bool
  | .initializeContract .. | .pause | .unpause | .transferAdmin .. | .acceptAdmin
  | .activateTimelock | .proposeAction .. | .cancelAction .. | .setPositionGuards ..
  | .setProofRegistration .. => true
  | _ => false

/-- The owner of the account authorized the message at this registry. -/
def Authorized (H : KeyHost) (env : Env) (c : Chain Y) (account : BytesN32) (owner : OwnerAuth)
    (msg : KeyMessage) : Prop :=
  ∃ config, c.state.config = some config ∧ checkOwner H config env account owner msg = .ok ()

/-- What an accepted call did to the records. -/
inductive Step (N : Neighbors Y) (H : KeyHost) (env : Env) (c : Chain Y) : Call → Ret → Keys → Prop
  | quiet {call : Call} {r : Ret} (hcall : call.quiet = true) : Step N H env c call r c.keys
  | registered {account : BytesN32} {owner : OwnerAuth} {blsPubKey : BytesN 96} {pop : BytesN 192}
      {nonce deadline : U64} {slotId : U32} {k : Keys}
      (hnonce : nonce.toNat = c.keys.getNonce account)
      (howner : Authorized H env c account owner
        (.register (keyCommitment H.toHost blsPubKey) nonce deadline))
      (hadded : Added N env account (keyCommitment H.toHost blsPubKey) slotId c k) :
      Step N H env c (.register account owner blsPubKey pop nonce deadline) (.slot slotId)
        (k.setNonce account (nonce.toNat + 1))
  | proven {account : BytesN32} {blsPubKey : BytesN 96} {pop : BytesN 192} {epoch : U64}
      {sourceChainId : U128} {targetRoot : BytesN32} {proof : Bytes} {slotId : U32} {k : Keys}
      (hadded : Added N env account (keyCommitment H.toHost blsPubKey) slotId c k) :
      Step N H env c
        (.registerByProof account blsPubKey pop epoch sourceChainId targetRoot proof)
        (.slot slotId) k
  | shortened {account commitment : BytesN32} {owner : OwnerAuth} {validUntil : U64} {slotId : U32}
      {slot : KeySlot} (hkey : c.keys.getKeySlot account commitment = some slotId)
      (hslot : c.keys.getSlot account slotId = some slot) (hdate : validUntil.toNat ≠ 0)
      (hshorter : slot.validUntil ≠ 0 → validUntil.toNat < slot.validUntil)
      (howner : Authorized H env c account owner (.retire commitment validUntil)) :
      Step N H env c (.setValidUntil account owner commitment validUntil) .unit
        (c.keys.shorten account env.now slotId slot validUntil.toNat)
  | revoked {account : BytesN32} {owner : OwnerAuth} {nonce : U64}
      (hnonce : nonce.toNat = c.keys.getNonce account)
      (hguard : (c.keys.getEntry account).live ≠ [] →
        requireNoOpenPositions (N.hasOpenPositions c.outside) c.state.guards account = .ok ())
      (howner : Authorized H env c account owner (.revoke nonce)) :
      Step N H env c (.revoke account owner nonce) .unit
        (c.keys.leave account (nonce.toNat + 1))
  | cancelled {account : BytesN32} {owner : OwnerAuth} {nonce : U64}
      (hnonce : nonce.toNat = c.keys.getNonce account)
      (howner : Authorized H env c account owner (.cancel nonce)) :
      Step N H env c (.cancelPending account owner nonce) .unit
        (c.keys.setNonce account (nonce.toNat + 1))
  | approved {account maker : BytesN32} {approved : Bool} {owner : OwnerAuth}
      {nonce deadline : U64} (hnonce : nonce.toNat = (c.keys.getApproval account maker).nonce)
      (howner : Authorized H env c account owner (.approveMaker maker approved nonce deadline)) :
      Step N H env c (.approveMaker account maker approved owner nonce deadline) .unit
        (c.keys.setApproval account maker
          { approved, nonce := nonce.toNat + 1, generation := c.keys.getApprovalGen account })
  | repinned {account orderHash : BytesN32} {fromSlot toSlot : U32} {owner : OwnerAuth}
      {nonce : U64} (hnonce : nonce.toNat = (c.keys.getRepin account orderHash).nonce)
      (howner : Authorized H env c account owner (.repin orderHash fromSlot toSlot nonce)) :
      Step N H env c (.approveRepin account orderHash fromSlot toSlot owner nonce) .unit
        (c.keys.setRepin account orderHash { fromSlot, toSlot, nonce := nonce.toNat + 1 })

/-! ## Every accepted call is such a step -/

/-- What follows the config's read has it, in the same state. -/
theorem of_requireConfig {α : Type} {f : KeysConfig → Tx RegistryError (Chain Y) α}
    {r : α × Chain Y} (ok : (requireConfig >>= f) c = .ok r) :
    ∃ config, c.state.config = some config ∧ f config c = .ok r := by
  obtain ⟨config, c₁, hread, hrest⟩ := Tx.bind_ok.mp ok
  simp only [requireConfig, Tx.bind_read_ok, Tx.expect_ok, Prod.mk.injEq] at hread
  obtain ⟨config', hconfig, rfl, rfl⟩ := hread
  exact ⟨config, hconfig, hrest⟩

theorem of_requireNotPaused {α : Type} {f : Unit → Tx RegistryError (Chain Y) α}
    {r : α × Chain Y} (ok : (requireNotPaused >>= f) c = .ok r) : f () c = .ok r := by
  obtain ⟨⟨⟩, c₁, hread, hrest⟩ := Tx.bind_ok.mp ok
  simp only [requireNotPaused, Tx.bind_read_ok, Tx.require_ok, Prod.mk.injEq, true_and] at hread
  obtain ⟨-, rfl⟩ := hread
  exact hrest

theorem of_requireDeadline {α : Type} {deadline : U64} {f : Unit → Tx RegistryError (Chain Y) α}
    {r : α × Chain Y} (ok : (requireDeadline env deadline >>= f) c = .ok r) : f () c = .ok r := by
  obtain ⟨⟨⟩, c₁, hread, hrest⟩ := Tx.bind_ok.mp ok
  simp only [requireDeadline, Tx.bind_require_ok, Tx.require_ok, Prod.mk.injEq, true_and] at hread
  obtain ⟨-, -, rfl⟩ := hread
  exact hrest

section Owner

variable {account : BytesN32} {owner : OwnerAuth} {nonce : U64}

theorem register_ok {blsPubKey : BytesN 96} {pop : BytesN 192} {deadline : U64} {slotId : U32}
    (hnodup : (c.keys.getEntry account).live.Nodup)
    (ok : register N H env account owner blsPubKey pop nonce deadline c = .ok (slotId, c')) :
    ∃ k published, c' = c.withKeys k published ∧
      Step N H env c (.register account owner blsPubKey pop nonce deadline) (.slot slotId) k := by
  unfold register at ok
  obtain ⟨config, hconfig, ok⟩ := of_requireConfig ok
  have ok := of_requireNotPaused ok
  have ok := of_requireDeadline ok
  simp only [Tx.bind_read_ok, Tx.bind_require_ok, Tx.bind_lift_ok] at ok
  obtain ⟨hnonce, -, _, -, -, ⟨⟩, howner, ok⟩ := ok
  obtain ⟨id, c₁, hadd, ok⟩ := Tx.bind_ok.mp ok
  obtain ⟨k, published, hadded, rfl⟩ := addSlot_ok hnodup hadd
  simp only [Tx.bind_lift_ok, Tx.bind_modify_ok, Tx.pure_ok, Check.add_ok, Prod.mk.injEq] at ok
  obtain ⟨_, ⟨-, rfl⟩, rfl, rfl⟩ := ok
  exact ⟨_, _, rfl, .registered hnonce ⟨config, hconfig, howner⟩ hadded⟩

theorem registerByProof_ok {blsPubKey : BytesN 96} {pop : BytesN 192} {epoch : U64}
    {sourceChainId : U128} {targetRoot : BytesN32} {proof : Bytes} {slotId : U32}
    (hnodup : (c.keys.getEntry account).live.Nodup)
    (ok : registerByProof N H env account blsPubKey pop epoch sourceChainId targetRoot proof c
      = .ok (slotId, c')) :
    ∃ k published, c' = c.withKeys k published ∧ Step N H env c
      (.registerByProof account blsPubKey pop epoch sourceChainId targetRoot proof)
      (.slot slotId) k := by
  unfold registerByProof at ok
  obtain ⟨config, hconfig, ok⟩ := of_requireConfig ok
  have ok := of_requireNotPaused ok
  simp only [Tx.bind_read_ok, Tx.bind_require_ok, Tx.bind_expect_ok, Tx.bind_lift_ok] at ok
  obtain ⟨_, -, -, -, -, -, _, -, -, -, ok⟩ := ok
  obtain ⟨id, c₁, hadd, ok⟩ := Tx.bind_ok.mp ok
  obtain ⟨k, published, hadded, rfl⟩ := addSlot_ok hnodup hadd
  simp only [Tx.bind_modify_ok, Tx.pure_ok, Prod.mk.injEq] at ok
  obtain ⟨rfl, rfl⟩ := ok
  exact ⟨_, _, rfl, .proven hadded⟩

theorem setValidUntil_ok {commitment : BytesN32} {validUntil : U64}
    (ok : setValidUntil H env account owner commitment validUntil c = .ok ((), c')) :
    ∃ k published, c' = c.withKeys k published ∧
      Step N H env c (.setValidUntil account owner commitment validUntil) .unit k := by
  unfold setValidUntil at ok
  obtain ⟨config, hconfig, ok⟩ := of_requireConfig ok
  simp only [Tx.bind_read_ok, Tx.bind_require_ok, Tx.bind_expect_ok, Tx.bind_lift_ok,
    Tx.bind_modify_ok, Tx.modify_ok, Prod.mk.injEq, true_and, not_or, not_and, not_le] at ok
  obtain ⟨slotId, hkey, slot, hslot, ⟨hdate, hshorter⟩, ⟨⟩, howner, rfl⟩ := ok
  exact ⟨_, _, rfl, .shortened hkey hslot hdate hshorter ⟨config, hconfig, howner⟩⟩

theorem revoke_ok (ok : revoke N H env account owner nonce c = .ok ((), c')) :
    ∃ k published, c' = c.withKeys k published ∧
      Step N H env c (.revoke account owner nonce) .unit k := by
  unfold revoke at ok
  obtain ⟨config, hconfig, ok⟩ := of_requireConfig ok
  have ok := of_requireNotPaused ok
  simp only [Tx.bind_read_ok, Tx.bind_require_ok, Tx.bind_lift_ok, Tx.bind_modify_ok,
    Tx.modify_ok, Check.add_ok, Prod.mk.injEq, true_and] at ok
  obtain ⟨hnonce, ⟨⟩, hguard, ⟨⟩, howner, _, ⟨-, rfl⟩, _, ⟨-, rfl⟩, rfl⟩ := ok
  refine ⟨_, _, rfl, .revoked hnonce ?_ ⟨config, hconfig, howner⟩⟩
  intro hlive
  rw [if_pos hlive] at hguard
  exact hguard

theorem cancelPending_ok (ok : cancelPending H env account owner nonce c = .ok ((), c')) :
    ∃ k published, c' = c.withKeys k published ∧
      Step N H env c (.cancelPending account owner nonce) .unit k := by
  unfold cancelPending at ok
  obtain ⟨config, hconfig, ok⟩ := of_requireConfig ok
  have ok := of_requireNotPaused ok
  simp only [Tx.bind_read_ok, Tx.bind_require_ok, Tx.bind_lift_ok, Tx.bind_modify_ok,
    Tx.modify_ok, Check.add_ok, Prod.mk.injEq, true_and] at ok
  obtain ⟨hnonce, ⟨⟩, howner, _, ⟨-, rfl⟩, rfl⟩ := ok
  exact ⟨_, _, rfl, .cancelled hnonce ⟨config, hconfig, howner⟩⟩

theorem approveMaker_ok {maker : BytesN32} {approved : Bool} {deadline : U64}
    (ok : approveMaker H env account maker approved owner nonce deadline c = .ok ((), c')) :
    ∃ k published, c' = c.withKeys k published ∧
      Step N H env c (.approveMaker account maker approved owner nonce deadline) .unit k := by
  unfold approveMaker at ok
  obtain ⟨config, hconfig, ok⟩ := of_requireConfig ok
  simp only [Tx.bind_read_ok, Tx.bind_require_ok] at ok
  obtain ⟨-, ok⟩ := ok
  have ok := of_requireDeadline ok
  simp only [Tx.bind_require_ok, Tx.bind_lift_ok, Tx.bind_modify_ok, Tx.modify_ok, Check.add_ok,
    Prod.mk.injEq, true_and] at ok
  obtain ⟨hnonce, ⟨⟩, howner, _, ⟨-, rfl⟩, rfl⟩ := ok
  exact ⟨_, _, rfl, .approved hnonce ⟨config, hconfig, howner⟩⟩

theorem approveRepin_ok {orderHash : BytesN32} {fromSlot toSlot : U32}
    (ok : approveRepin H env account orderHash fromSlot toSlot owner nonce c = .ok ((), c')) :
    ∃ k published, c' = c.withKeys k published ∧
      Step N H env c (.approveRepin account orderHash fromSlot toSlot owner nonce) .unit k := by
  unfold approveRepin at ok
  obtain ⟨config, hconfig, ok⟩ := of_requireConfig ok
  simp only [Tx.bind_read_ok, Tx.bind_require_ok, Tx.bind_lift_ok, Tx.bind_modify_ok,
    Tx.modify_ok, Check.add_ok, Prod.mk.injEq, true_and] at ok
  obtain ⟨hnonce, ⟨⟩, howner, _, ⟨-, rfl⟩, rfl⟩ := ok
  exact ⟨_, _, rfl, .repinned hnonce ⟨config, hconfig, howner⟩⟩

end Owner

/-- An owner's call moves the records and nothing else. -/
theorem owner_step {call : Call} {r : Ret} (hnodup : ∀ account, (c.keys.getEntry account).live.Nodup)
    (hcall : call.quiet = false) (ok : exec N H env call c = .ok (r, c')) :
    ∃ k published, c' = c.withKeys k published ∧ Step N H env c call r k := by
  cases call
  case register =>
    obtain ⟨slotId, hok, rfl⟩ := Tx.answer_ok.mp ok
    exact register_ok (hnodup _) hok
  case registerByProof =>
    obtain ⟨slotId, hok, rfl⟩ := Tx.answer_ok.mp ok
    exact registerByProof_ok (hnodup _) hok
  case setValidUntil =>
    obtain ⟨⟨⟩, hok, rfl⟩ := Tx.answer_ok.mp ok
    exact setValidUntil_ok hok
  case revoke =>
    obtain ⟨⟨⟩, hok, rfl⟩ := Tx.answer_ok.mp ok
    exact revoke_ok hok
  case cancelPending =>
    obtain ⟨⟨⟩, hok, rfl⟩ := Tx.answer_ok.mp ok
    exact cancelPending_ok hok
  case approveMaker =>
    obtain ⟨⟨⟩, hok, rfl⟩ := Tx.answer_ok.mp ok
    exact approveMaker_ok hok
  case approveRepin =>
    obtain ⟨⟨⟩, hok, rfl⟩ := Tx.answer_ok.mp ok
    exact approveRepin_ok hok
  all_goals cases hcall

/-! ## The admin's calls -/

/-- What no admin call moves. -/
def Chain.framed (c : Chain Y) : Keys × Y := (c.keys, c.outside)

section Admin

variable {ν : Type} {g : Chain Y → ν}

theorem frames_requireAdmin : Tx.Frames g (requireAdmin env) :=
  .bind .view fun _ => .bind .demand fun _ => .pure

theorem frames_requireConfig : Tx.Frames g requireConfig :=
  .bind .read fun _ => .expect

theorem frames_onTimelock {α : Type} {x : Tx Fault Timelock α}
    (hg : ∀ c t, g { c with state := { c.state with timelock := t } } = g c) :
    Tx.Frames g (onTimelock x) :=
  .zoom hg

end Admin

/-- An admin's call moves no record and nothing around the contract. -/
theorem admin_frame {call : Call} {r : Ret} (hcall : call.quiet = true)
    (ok : exec N H env call c = .ok (r, c')) : c'.framed = c.framed := by
  have hframes : Tx.Frames Chain.framed (exec N H env call) := by
    cases call
    case initializeContract =>
      exact .answer (.bind .read fun _ => .bind .require fun _ => .bind .lift fun _ =>
        .bind (.modify fun _ => rfl) fun _ => .modify fun _ => rfl)
    case pause | unpause | transferAdmin =>
      exact .answer (.bind frames_requireAdmin fun _ => .bind (.modify fun _ => rfl) fun _ =>
        .modify fun _ => rfl)
    case acceptAdmin =>
      exact .answer (.bind .read fun _ => .bind .expect fun _ => .bind .demand fun _ =>
        .bind .view fun _ => .bind (.modify fun _ => rfl) fun _ =>
        .bind (frames_onTimelock fun _ _ => rfl) fun _ => .modify fun _ => rfl)
    case activateTimelock | proposeAction | cancelAction =>
      exact .answer (.bind frames_requireAdmin fun _ => frames_onTimelock fun _ _ => rfl)
    case setPositionGuards =>
      exact .answer (.bind frames_requireConfig fun _ => .bind .view fun _ =>
        .bind (frames_onTimelock fun _ _ => rfl) fun _ => .bind (.modify fun _ => rfl) fun _ =>
        .modify fun _ => rfl)
    case setProofRegistration =>
      exact .answer (.bind frames_requireConfig fun _ => .bind .view fun _ =>
        .bind (frames_onTimelock fun _ _ => rfl) fun _ => .bind .require fun _ =>
        .bind .require fun _ => .bind (.modify fun _ => rfl) fun _ => .modify fun _ => rfl)
    all_goals cases hcall
  exact hframes _ _ ok

/-- Every accepted call is a step, and moves nothing around the contract. -/
theorem step_of_exec {call : Call} {r : Ret}
    (hnodup : ∀ account, (c.keys.getEntry account).live.Nodup)
    (ok : exec N H env call c = .ok (r, c')) :
    Step N H env c call r c'.keys ∧ c'.outside = c.outside := by
  cases hcall : call.quiet with
  | true =>
    have hframed := admin_frame hcall ok
    obtain ⟨hkeys, houtside⟩ := Prod.mk.inj hframed
    rw [hkeys]
    exact ⟨.quiet hcall, houtside⟩
  | false =>
    obtain ⟨k, published, rfl, hstep⟩ := owner_step hnodup hcall ok
    exact ⟨hstep, rfl⟩

end KeyRegistry
end ProofBridge
