import ProofBridge.RootAnchor.History
import ProofBridge.Core.Bank

/-!
# The quorum behind an anchor

The stored count is compared with the calls of the run itself. `Counted` ties the record of every
root to its callers; a stamp that is no longer current belongs to an earlier epoch or generation, so
nothing stale is counted.
-/

namespace ProofBridge
namespace RootAnchor

open ContractLib

/-! ## Stamps -/

theorem stampOf_eq {epoch gen : ℕ} (h : gen < 2 ^ 32) : stampOf epoch gen = epoch * 2 ^ 32 + gen := by
  unfold stampOf
  rw [← Nat.shiftLeft_add_eq_or_of_lt h, Nat.shiftLeft_eq]

/-- A stamp determines its epoch and its generation. -/
theorem stampOf_inj {epoch gen epoch' gen' : ℕ} (h : gen < 2 ^ 32) (h' : gen' < 2 ^ 32)
    (heq : stampOf epoch gen = stampOf epoch' gen') : epoch = epoch' ∧ gen = gen' := by
  rw [stampOf_eq h, stampOf_eq h'] at heq
  omega

/-! ## The records and the calls -/

/-- A root below its threshold: the count is the number of its callers in the current epoch of its
record, and each of them is stamped. -/
structure Pending (history : History) (n : Notary) (key : RootKey) (record : AnchorRec) : Prop where
  count : record.approvals
    = (callers key record.ledgerSeq record.setEpoch record.gen history).length
  latest : ∀ seq epoch, ∀ signer ∈ callers key seq epoch record.gen history,
    epoch ≤ record.setEpoch
  stamped : ∀ seq, ∀ signer ∈ callers key seq record.setEpoch record.gen history,
    seq = record.ledgerSeq ∧
      n.getApprovalStamp key signer = some (stampOf record.setEpoch record.gen)

/-- A root that reached its threshold: the count is what it was at that moment. -/
def Reached (history : History) (key : RootKey) (record : AnchorRec) : Prop :=
  ∃ earlier, earlier <:+ history ∧ epochOf earlier = record.setEpoch ∧
    genOf key earlier = record.gen ∧
    record.approvals
      = (callers key record.ledgerSeq record.setEpoch record.gen earlier).length ∧
    (setAt record.setEpoch history).2 ≤ record.approvals

/-- What every reachable notary satisfies at one root. -/
structure RootCounted (history : History) (n : Notary) (key : RootKey) : Prop where
  members : ∀ seq epoch gen, ∀ signer ∈ callers key seq epoch gen history,
    signer ∈ (setAt epoch history).1
  gen : (n.recordOf key).gen = genOf key history
  gen_lt : genOf key history < 2 ^ 32
  record_epoch : (n.recordOf key).setEpoch ≤ epochOf history
  stamps : ∀ signer stamp, n.getApprovalStamp key signer = some stamp →
    ∃ seq epoch gen, stamp = stampOf epoch gen ∧ signer ∈ callers key seq epoch gen history
  pending : (n.recordOf key).anchored = false → Pending history n key (n.recordOf key)
  reached : (n.recordOf key).anchored = true → Reached history key (n.recordOf key)

/-- What every reachable notary satisfies. -/
structure Counted (history : History) (n : Notary) : Prop where
  epoch : n.setEpoch = epochOf history
  set : setAt n.setEpoch history = (n.signers, n.threshold)
  root : ∀ key, RootCounted history n key

theorem Counted.fresh : Counted [] .fresh where
  epoch := rfl
  set := rfl
  root key := {
    members := fun _ _ _ _ h => by cases h
    gen := rfl
    gen_lt := Nat.two_pow_pos 32
    record_epoch := le_rfl
    stamps := fun signer stamp h => by simp [Notary.getApprovalStamp, Notary.fresh] at h
    pending := fun _ =>
      { count := rfl
        latest := fun _ _ _ h => by cases h
        stamped := fun _ _ h => by cases h }
    reached := fun h => by cases h }

section Steps

variable {history : History} {n n' : Notary} {key : RootKey}
variable {env : Env} {call : Call} {ret : Ret}

theorem recordOf_set {key' : RootKey} {record : AnchorRec}
    (h : n'.anchors = n.anchors.set key record) :
    n'.recordOf key' = if key' = key then record else n.recordOf key' := by
  simp only [Notary.recordOf, Notary.getAnchor, h, Map.get?_set]
  split <;> rfl

theorem epochOf_le_cons (t : (Env × Call) × Ret) : epochOf history ≤ epochOf (t :: history) :=
  epochOf_suffix (List.suffix_cons t history)

theorem RootCounted.reached_cons {record : AnchorRec} (hepoch : record.setEpoch ≤ epochOf history)
    (h : Reached history key record) : Reached (((env, call), ret) :: history) key record := by
  obtain ⟨earlier, hsuffix, hrest⟩ := h
  refine ⟨earlier, hsuffix.trans (List.suffix_cons _ _), ?_⟩
  rw [setAt_cons_of_le hepoch]
  exact hrest

/-- A root that a call neither approved nor revoked stays as it was, whatever set is in force. -/
theorem RootCounted.frame (h : RootCounted history n key)
    (hcallers : ∀ seq epoch gen, callers key seq epoch gen (((env, call), ret) :: history)
      = callers key seq epoch gen history)
    (hgen : genOf key (((env, call), ret) :: history) = genOf key history)
    (hrecord : n'.recordOf key = n.recordOf key)
    (hstamp : ∀ signer, n'.getApprovalStamp key signer = n.getApprovalStamp key signer) :
    RootCounted (((env, call), ret) :: history) n' key where
  members := by
    intro seq epoch gen signer hmem
    rw [hcallers] at hmem
    rw [setAt_cons_of_le (callers_bounds hmem).1]
    exact h.members seq epoch gen signer hmem
  gen := by rw [hrecord, hgen, h.gen]
  gen_lt := by
    rw [hgen]
    exact h.gen_lt
  record_epoch := by
    rw [hrecord]
    exact h.record_epoch.trans (epochOf_le_cons _)
  stamps := by
    intro signer stamp hs
    rw [hstamp] at hs
    obtain ⟨seq, epoch, gen, heq, hmem⟩ := h.stamps signer stamp hs
    exact ⟨seq, epoch, gen, heq, by rw [hcallers]; exact hmem⟩
  pending := by
    intro hpending
    rw [hrecord] at hpending ⊢
    obtain ⟨hcount, hlatest, hstamped⟩ := h.pending hpending
    constructor
    · rw [hcallers]
      exact hcount
    · intro seq epoch signer hmem
      rw [hcallers] at hmem
      exact hlatest seq epoch signer hmem
    · intro seq signer hmem
      rw [hcallers] at hmem
      rw [hstamp]
      exact hstamped seq signer hmem
  reached := by
    intro hanchored
    rw [hrecord] at hanchored ⊢
    exact RootCounted.reached_cons h.record_epoch (h.reached hanchored)

/-- A call that installs no set keeps the set in force. -/
theorem Counted.of_root (h : Counted history n) (hset : call.newSet? = none)
    (hsigners : n'.signers = n.signers) (hthreshold : n'.threshold = n.threshold)
    (hepoch : n'.setEpoch = n.setEpoch)
    (hroot : ∀ key, RootCounted (((env, call), ret) :: history) n' key) :
    Counted (((env, call), ret) :: history) n' where
  epoch := by rw [hepoch, epochOf_cons hset, h.epoch]
  set := by rw [setAt_cons hset, hepoch, h.set, hsigners, hthreshold]
  root := hroot

/-- A call that installs no set, approves nothing and revokes nothing. -/
theorem Counted.frame (h : Counted history n) (hset : call.newSet? = none)
    (happroval : call.approval? = none)
    (hrevoke : ∀ key : RootKey, call ≠ .revokeAnchor key.1 key.2)
    (hsigners : n'.signers = n.signers) (hthreshold : n'.threshold = n.threshold)
    (hepoch : n'.setEpoch = n.setEpoch) (hanchors : n'.anchors = n.anchors)
    (hstamps : n'.approvalStamps = n.approvalStamps) :
    Counted (((env, call), ret) :: history) n' := by
  refine h.of_root hset hsigners hthreshold hepoch fun key => ?_
  have hrecord : n'.recordOf key = n.recordOf key := by
    simp only [Notary.recordOf, Notary.getAnchor, hanchors]
  have hstamp : ∀ signer, n'.getApprovalStamp key signer = n.getApprovalStamp key signer := by
    intro signer
    simp only [Notary.getApprovalStamp, hstamps]
  exact (h.root key).frame (fun _ _ _ => callers_cons happroval) (genOf_cons (hrevoke key)) hrecord
    hstamp

/-- A new signer set opens a new epoch; no record and no stamp belongs to it. -/
theorem Counted.newSet (h : Counted history n) {signers : List Address} {threshold : U32}
    {monotonic : Bool} (hcall : call.newSet? = some (signers, threshold))
    (happroval : call.approval? = none)
    (hrevoke : ∀ key : RootKey, call ≠ .revokeAnchor key.1 key.2) :
    Counted (((env, call), ret) :: history)
      { n with signers, threshold := threshold.toNat, setEpoch := n.setEpoch + 1, monotonic } where
  epoch := by simp [epochOf, hcall, h.epoch]
  set := by simp [setAt, hcall, h.epoch]
  root key :=
    (h.root key).frame (fun _ _ _ => callers_cons happroval) (genOf_cons (hrevoke key)) rfl
      (fun _ => rfl)

/-- A revocation opens a new generation of its root; nobody has called in it yet. -/
theorem Counted.revoked (h : Counted history n) {sourceChainId : U128} {root : BytesN32}
    {record : AnchorRec} (hrecord : n.getAnchor (sourceChainId, root) = some record)
    (hgen : record.gen + 1 < 2 ^ 32) :
    Counted (((env, .revokeAnchor sourceChainId root), ret) :: history)
      { n with
        anchors := n.anchors.set (sourceChainId, root) { record with
          gen := record.gen + 1, approvals := 0, anchored := false, anchoredAt := 0,
          ledgerSeq := 0 } } := by
  refine h.of_root rfl rfl rfl rfl fun key => ?_
  by_cases hkey : key = (sourceChainId, root)
  · subst hkey
    have hold := h.root (sourceChainId, root)
    have hread : n.recordOf (sourceChainId, root) = record := by
      rw [Notary.recordOf, hrecord]
      rfl
    have hgen' : genOf (sourceChainId, root)
        (((env, Call.revokeAnchor sourceChainId root), ret) :: history) = record.gen + 1 := by
      rw [← hread, hold.gen]
      simp [genOf]
    -- no caller belongs to a generation that has not begun
    have hnone : ∀ seq epoch, callers (sourceChainId, root) seq epoch (record.gen + 1)
        (((env, Call.revokeAnchor sourceChainId root), ret) :: history) = [] := by
      intro seq epoch
      rw [callers_cons rfl, List.eq_nil_iff_forall_not_mem]
      intro signer hmem
      have hbound := (callers_bounds hmem).2
      rw [← hold.gen, hread] at hbound
      omega
    have hstamps : ∀ signer stamp, n.getApprovalStamp (sourceChainId, root) signer = some stamp →
        ∃ seq epoch gen, stamp = stampOf epoch gen ∧
          signer ∈ callers (sourceChainId, root) seq epoch gen
            (((env, Call.revokeAnchor sourceChainId root), ret) :: history) := by
      intro signer stamp hs
      obtain ⟨seq, epoch, gen, heq, hmem⟩ := hold.stamps signer stamp hs
      exact ⟨seq, epoch, gen, heq, by rw [callers_cons rfl]; exact hmem⟩
    constructor
    · intro seq epoch gen signer hmem
      rw [callers_cons rfl] at hmem
      rw [setAt_cons rfl]
      exact hold.members seq epoch gen signer hmem
    · rw [recordOf_set rfl, if_pos rfl, hgen']
    · rw [hgen']
      exact hgen
    · rw [recordOf_set rfl, if_pos rfl, epochOf_cons rfl, ← hread]
      exact hold.record_epoch
    · exact hstamps
    · intro _
      rw [recordOf_set rfl, if_pos rfl]
      constructor
      · rw [hnone]
        rfl
      · intro seq epoch signer hmem
        rw [hnone] at hmem
        cases hmem
      · intro seq signer hmem
        rw [hnone] at hmem
        cases hmem
    · intro hanchored
      rw [recordOf_set rfl, if_pos rfl] at hanchored
      cases hanchored
  · have hother : (Call.revokeAnchor sourceChainId root) ≠ .revokeAnchor key.1 key.2 := by
      intro heq
      cases heq
      exact hkey rfl
    refine (h.root key).frame (fun _ _ _ => callers_cons rfl) (genOf_cons hother) ?_ (fun _ => rfl)
    rw [recordOf_set rfl, if_neg hkey]

/-- The callers once one more signer called. -/
theorem callers_anchor {signer : Address} {key : RootKey} {ledgerSeq : U64} {seq epoch gen : ℕ} :
    callers key seq epoch gen (((env, .anchor signer key.1 key.2 ledgerSeq), ret) :: history) =
      if ledgerSeq.toNat = seq ∧ epochOf history = epoch ∧ genOf key history = gen
      then (callers key seq epoch gen history).insert signer
      else callers key seq epoch gen history := by
  simp [callers, Call.approval?]

theorem members_anchor {signer : Address} {ledgerSeq : U64} (hold : RootCounted history n key)
    (hset : setAt (epochOf history) history = (n.signers, n.threshold))
    (hmember : signer ∈ n.signers) (seq epoch gen : ℕ) :
    ∀ a ∈ callers key seq epoch gen
        (((env, .anchor signer key.1 key.2 ledgerSeq), ret) :: history),
      a ∈ (setAt epoch (((env, .anchor signer key.1 key.2 ledgerSeq), ret) :: history)).1 := by
  intro a hmem
  rw [setAt_cons rfl]
  rw [callers_anchor] at hmem
  split at hmem
  · next hmatch =>
    rcases List.mem_insert_iff.mp hmem with rfl | hmem
    · rw [← hmatch.2.1, hset]
      exact hmember
    · exact hold.members seq epoch gen a hmem
  · exact hold.members seq epoch gen a hmem

/-- A call on another root leaves this one alone. -/
theorem RootCounted.of_other (h : RootCounted history n key) {signer : Address}
    {sourceChainId : U128} {root : BytesN32} {ledgerSeq : U64}
    (hkey : key ≠ (sourceChainId, root)) (hrecord : n'.recordOf key = n.recordOf key)
    (hstamp : ∀ signer, n'.getApprovalStamp key signer = n.getApprovalStamp key signer) :
    RootCounted (((env, .anchor signer sourceChainId root ledgerSeq), ret) :: history) n' key :=
  h.frame (fun _ _ _ => callers_cons_ne rfl hkey) (genOf_cons (by simp)) hrecord hstamp

/-- A call on an anchored root changes nothing, although the caller is a caller now. -/
theorem Counted.repeated (h : Counted history n) {signer : Address} {sourceChainId : U128}
    {root : BytesN32} {ledgerSeq : U64} (hmember : signer ∈ n.signers)
    (hanchored : (n.recordOf (sourceChainId, root)).anchored = true) :
    Counted (((env, .anchor signer sourceChainId root ledgerSeq), ret) :: history) n := by
  refine h.of_root rfl rfl rfl rfl fun key => ?_
  by_cases hkey : key = (sourceChainId, root)
  · subst hkey
    have hold := h.root (sourceChainId, root)
    have hgen : genOf (sourceChainId, root)
        (((env, .anchor signer sourceChainId root ledgerSeq), ret) :: history)
        = genOf (sourceChainId, root) history := genOf_cons (by simp)
    constructor
    · exact members_anchor hold (h.epoch ▸ h.set) hmember
    · rw [hgen, hold.gen]
    · rw [hgen]
      exact hold.gen_lt
    · exact hold.record_epoch.trans (epochOf_le_cons _)
    · intro signer' stamp hs
      obtain ⟨seq, epoch, gen, heq, hmem⟩ := hold.stamps signer' stamp hs
      exact ⟨seq, epoch, gen, heq, callers_suffix (List.suffix_cons _ _) hmem⟩
    · intro hpending
      rw [hanchored] at hpending
      cases hpending
    · intro _
      exact RootCounted.reached_cons hold.record_epoch (hold.reached hanchored)
  · exact (h.root key).of_other hkey rfl (fun _ => rfl)

/-! ### One more approval -/

/-- Before the sequence is compared: the count is that of the current epoch. -/
theorem Pending.inEpoch {record : AnchorRec} (h : Pending history n key record)
    (hepoch : record.setEpoch ≤ n.setEpoch) :
    Pending history n key (record.inEpoch n.setEpoch) := by
  unfold AnchorRec.inEpoch
  split
  · next hne =>
    -- whoever called in this generation called before the set in force was installed
    have hnone : ∀ seq, callers key seq n.setEpoch record.gen history = [] := by
      intro seq
      rw [List.eq_nil_iff_forall_not_mem]
      intro signer hmem
      have := h.latest seq n.setEpoch signer hmem
      omega
    constructor
    · show 0 = _
      rw [hnone]
      rfl
    · intro seq epoch signer hmem
      exact (h.latest seq epoch signer hmem).trans hepoch
    · intro seq signer hmem
      rw [hnone] at hmem
      cases hmem
  · exact h

theorem AnchorRec.named_fields {record named : AnchorRec} {monotonic : Bool}
    {latest ledgerSeq : ℕ} (ok : record.named monotonic latest ledgerSeq = .ok named) :
    named.setEpoch = record.setEpoch ∧ named.gen = record.gen ∧
      named.anchored = record.anchored ∧ named.ledgerSeq = ledgerSeq := by
  unfold AnchorRec.named at ok
  split at ok
  · split at ok
    · cases ok
    · cases ok
      exact ⟨rfl, rfl, rfl, rfl⟩
  · split at ok
    · cases ok
    · next hseq =>
      cases ok
      exact ⟨rfl, rfl, rfl, (not_not.mp hseq).symm⟩

/-- After the sequence is compared: the count is that of the caller's own sequence. -/
theorem Pending.named {record named : AnchorRec} {monotonic : Bool} {latest ledgerSeq : ℕ}
    (h : Pending history n key record)
    (ok : record.named monotonic latest ledgerSeq = .ok named) : Pending history n key named := by
  unfold AnchorRec.named at ok
  split at ok
  · next hzero =>
    split at ok
    · cases ok
    · cases ok
      -- nobody is counted, so nobody called with any sequence
      have hnone : ∀ seq, callers key seq record.setEpoch record.gen history = [] := by
        intro seq
        rw [List.eq_nil_iff_forall_not_mem]
        intro signer hmem
        obtain rfl := (h.stamped seq signer hmem).1
        have hlength := List.length_pos_of_mem hmem
        rw [← h.count] at hlength
        omega
      refine ⟨?_, h.latest, ?_⟩
      · rw [hnone]
        exact hzero
      · intro seq signer hmem
        rw [hnone] at hmem
        cases hmem
  · split at ok
    · cases ok
    · cases ok
      exact h

/-- The count after the caller's stamp was looked up. -/
theorem Pending.counted {named counted : AnchorRec} {signer : Address} {ledgerSeq : U64}
    (h : Pending history n key named)
    (hstamps : ∀ signer stamp, n.getApprovalStamp key signer = some stamp →
      ∃ seq epoch gen, stamp = stampOf epoch gen ∧ signer ∈ callers key seq epoch gen history)
    (hgen_lt : genOf key history < 2 ^ 32) (hseq : named.ledgerSeq = ledgerSeq.toNat)
    (hepoch : named.setEpoch = epochOf history) (hgen : named.gen = genOf key history)
    (hcounted : counted =
      if n.getApprovalStamp key signer = some (stampOf named.setEpoch named.gen) then named
      else { named with approvals := named.approvals + 1 })
    (hafter : ∀ key' signer', n'.getApprovalStamp key' signer' =
      if key' = key ∧ signer' = signer then some (stampOf named.setEpoch named.gen)
      else n.getApprovalStamp key' signer') :
    Pending (((env, .anchor signer key.1 key.2 ledgerSeq), ret) :: history) n' key counted := by
  have hfields : counted.setEpoch = named.setEpoch ∧ counted.gen = named.gen ∧
      counted.ledgerSeq = named.ledgerSeq := by
    rw [hcounted]
    split <;> exact ⟨rfl, rfl, rfl⟩
  obtain ⟨hepoch', hgen', hseq'⟩ := hfields
  constructor
  · rw [hepoch', hgen', hseq', callers_anchor,
      if_pos ⟨hseq.symm, hepoch.symm, hgen.symm⟩, hcounted]
    split
    · next hstamp =>
      -- its stamp is current, so it is one of the callers already
      obtain ⟨seq, epoch, gen, heq, hmem⟩ := hstamps signer _ hstamp
      have hbound := (callers_bounds hmem).2
      obtain ⟨rfl, rfl⟩ := stampOf_inj (hgen ▸ hgen_lt) (hbound.trans_lt hgen_lt) heq
      obtain rfl := (h.stamped seq signer hmem).1
      rw [List.insert_of_mem hmem]
      exact h.count
    · next hfresh =>
      have hnew : signer ∉ callers key named.ledgerSeq named.setEpoch named.gen history :=
        fun hmem => hfresh (h.stamped _ signer hmem).2
      rw [List.length_insert_of_not_mem hnew, ← h.count]
  · intro seq epoch a hmem
    have hbound := (callers_bounds hmem).1
    rw [epochOf_cons rfl] at hbound
    rw [hepoch', hepoch]
    exact hbound
  · intro seq a hmem
    rw [hepoch', hgen', callers_anchor] at hmem
    rw [hepoch', hgen', hseq', hafter]
    have hold : a ∈ callers key seq named.setEpoch named.gen history →
        seq = named.ledgerSeq ∧
          (if key = key ∧ a = signer then some (stampOf named.setEpoch named.gen)
            else n.getApprovalStamp key a) = some (stampOf named.setEpoch named.gen) := by
      intro hmem
      obtain ⟨hs, hstamp⟩ := h.stamped seq a hmem
      refine ⟨hs, ?_⟩
      split
      · rfl
      · exact hstamp
    split at hmem
    · next hmatch =>
      rcases List.mem_insert_iff.mp hmem with rfl | hmem
      · exact ⟨by rw [hseq, hmatch.1], if_pos ⟨rfl, rfl⟩⟩
      · exact hold hmem
    · exact hold hmem

theorem AnchorRec.inEpoch_fields (record : AnchorRec) (setEpoch : ℕ) :
    (record.inEpoch setEpoch).setEpoch = setEpoch ∧ (record.inEpoch setEpoch).gen = record.gen ∧
      (record.inEpoch setEpoch).anchored = record.anchored := by
  unfold AnchorRec.inEpoch
  split
  · exact ⟨rfl, rfl, rfl⟩
  · next h => exact ⟨not_not.mp h, rfl, rfl⟩

theorem Counted.approved (h : Counted history n) {signer : Address} {sourceChainId : U128}
    {root : BytesN32} {ledgerSeq : U64} {named counted final : AnchorRec}
    (happroved : Approved env n n' signer (sourceChainId, root) ledgerSeq.toNat named counted
      final) :
    Counted (((env, .anchor signer sourceChainId root ledgerSeq), ret) :: history) n' := by
  refine h.of_root rfl happroved.rules.signers happroved.rules.threshold happroved.rules.setEpoch
    fun key => ?_
  by_cases hkey : key = (sourceChainId, root)
  · subst hkey
    have hold := h.root (sourceChainId, root)
    have hgen : genOf (sourceChainId, root)
        (((env, .anchor signer sourceChainId root ledgerSeq), ret) :: history)
        = genOf (sourceChainId, root) history := genOf_cons (by simp)
    have hset : ∀ epoch, setAt epoch
        (((env, .anchor signer sourceChainId root ledgerSeq), ret) :: history)
        = setAt epoch history := fun _ => setAt_cons rfl
    have hbefore := (hold.pending happroved.pending).inEpoch (h.epoch ▸ hold.record_epoch)
    obtain ⟨hepoch₁, hgen₁, hanchored₁⟩ :=
      AnchorRec.inEpoch_fields (n.recordOf (sourceChainId, root)) n.setEpoch
    have hnamed := hbefore.named happroved.named_ok
    obtain ⟨hepoch₂, hgen₂, hanchored₂, hseq⟩ := AnchorRec.named_fields happroved.named_ok
    have hepoch : named.setEpoch = epochOf history := by rw [hepoch₂, hepoch₁, h.epoch]
    have hgen' : named.gen = genOf (sourceChainId, root) history := by
      rw [hgen₂, hgen₁, hold.gen]
    have hanchored : named.anchored = false := by
      rw [hanchored₂, hanchored₁, happroved.pending]
    have hafter : Pending (((env, .anchor signer sourceChainId root ledgerSeq), ret) :: history) n'
        (sourceChainId, root) counted :=
      hnamed.counted hold.stamps hold.gen_lt hseq hepoch hgen' happroved.counted_eq
        happroved.stamps
    have hcounted : counted.setEpoch = named.setEpoch ∧ counted.gen = named.gen ∧
        counted.anchored = named.anchored := by
      rw [happroved.counted_eq]
      split <;> exact ⟨rfl, rfl, rfl⟩
    have hfinal : final.setEpoch = named.setEpoch ∧ final.gen = named.gen ∧
        final.ledgerSeq = counted.ledgerSeq ∧ final.approvals = counted.approvals := by
      rw [happroved.final_eq, ← hcounted.1, ← hcounted.2.1]
      split <;> exact ⟨rfl, rfl, rfl, rfl⟩
    have hread : n'.recordOf (sourceChainId, root) = final := by
      rw [recordOf_set happroved.anchors, if_pos rfl]
    constructor
    · exact members_anchor hold (h.epoch ▸ h.set) happroved.member
    · rw [hread, hgen, hfinal.2.1, hgen']
    · rw [hgen]
      exact hold.gen_lt
    · rw [hread, hfinal.1, hepoch]
      exact epochOf_le_cons _
    · intro signer' stamp hs
      rw [happroved.stamps] at hs
      split at hs
      · next heq =>
        cases hs
        refine ⟨ledgerSeq.toNat, named.setEpoch, named.gen, rfl, ?_⟩
        rw [callers_anchor, if_pos ⟨rfl, hepoch.symm, hgen'.symm⟩, heq.2]
        exact List.mem_insert_self
      · obtain ⟨seq, epoch, gen, heq, hmem⟩ := hold.stamps signer' stamp hs
        exact ⟨seq, epoch, gen, heq, callers_suffix (List.suffix_cons _ _) hmem⟩
    · intro hpending
      rw [hread] at hpending ⊢
      have hbelow : final = counted := by
        have heq := happroved.final_eq
        split at heq
        · rw [heq] at hpending
          cases hpending
        · exact heq
      rw [hbelow]
      exact hafter
    · intro hreached
      rw [hread] at hreached ⊢
      have habove : n.threshold ≤ counted.approvals := by
        by_contra hlt
        rw [happroved.final_eq, if_neg hlt, hcounted.2.2, hanchored] at hreached
        cases hreached
      refine ⟨_, List.suffix_refl _, ?_, ?_, ?_, ?_⟩
      · rw [epochOf_cons rfl, hfinal.1, hepoch]
      · rw [hgen, hfinal.2.1, hgen']
      · rw [hfinal.2.2.2, hfinal.2.2.1, hfinal.1, hfinal.2.1, ← hcounted.1, ← hcounted.2.1]
        exact hafter.count
      · rw [hset, hfinal.1, hepoch, ← h.epoch, h.set, hfinal.2.2.2]
        exact habove
  · refine (h.root key).of_other hkey ?_ fun signer' => ?_
    · rw [recordOf_set happroved.anchors, if_neg hkey]
    · rw [happroved.stamps, if_neg fun heq => hkey heq.1]

/-- Every accepted call keeps the count. -/
theorem Counted.step {s s' : State} (h : Counted history s.notary)
    (hstep : Step env s call s') : Counted (((env, call), ret) :: history) s'.notary := by
  cases hstep with
  | quiet hcall hnotary hreaches =>
    rw [hnotary]
    refine h.frame ?_ ?_ ?_ rfl rfl rfl rfl rfl <;>
      cases call <;> simp_all [Call.quiet, Call.newSet?, Call.approval?]
  | newSet hcall hnodup hpos hepoch hmonotonic hnotary hreaches =>
    rw [hnotary]
    refine h.newSet hcall ?_ ?_ <;> cases call <;> simp_all [Call.newSet?, Call.approval?]
  | revoked hrecord hgen hnotary hreaches =>
    rw [hnotary]
    exact h.revoked hrecord hgen
  | latestReset hnotary hreaches =>
    rw [hnotary]
    exact h.frame rfl rfl (by simp) rfl rfl rfl rfl rfl
  | delaySet hbound hnotary hreaches =>
    rw [hnotary]
    exact h.frame rfl rfl (by simp) rfl rfl rfl rfl rfl
  | monotonicSet hnotary hreaches =>
    rw [hnotary]
    exact h.frame rfl rfl (by simp) rfl rfl rfl rfl rfl
  | repeated hmember hanchored => exact h.repeated hmember hanchored
  | approved happroved hreaches => exact h.approved happroved

end Steps

/-! ## Whole runs -/

section Runs

variable {H : Host} {history : History} {s : State}

/-- The count holds in every reachable state. -/
theorem counted_of_run (run : Run (system H) State.fresh history s) :
    Counted history s.notary := by
  refine Run.invariant (I := fun history s => Counted history s.notary) .fresh ?_ ?_ run
  · intro history s t ret s' _ h _ ok
    exact h.step (step_of_exec ok)
  · intro history s s' _ h moved
    cases moved

/-- What the record of a root says about the calls of the run. -/
structure Quorum (history : History) (key : RootKey) (record : AnchorRec) : Prop where
  /-- The record is of the root's current generation. -/
  generation : record.gen = genOf key history
  /-- Each caller is counted once. -/
  distinct : (callers key record.ledgerSeq record.setEpoch record.gen history).Nodup
  /-- The callers are members of the one set installed in the record's epoch. -/
  members : ∀ signer ∈ callers key record.ledgerSeq record.setEpoch record.gen history,
    signer ∈ (setAt record.setEpoch history).1
  /-- Below the threshold, the count is the number of the callers. -/
  pending : record.anchored = false → record.approvals
    = (callers key record.ledgerSeq record.setEpoch record.gen history).length
  /-- Once reached, the count is the number of the callers at that moment, in that epoch and
  generation, and it is at least that set's threshold. -/
  reached : record.anchored = true → ∃ later earlier, history = later ++ earlier ∧
    epochOf earlier = record.setEpoch ∧ genOf key earlier = record.gen ∧
    record.approvals
      = (callers key record.ledgerSeq record.setEpoch record.gen earlier).length ∧
    (setAt record.setEpoch history).2 ≤ record.approvals
  /-- So at least a threshold of members called. -/
  enough : record.anchored = true → (setAt record.setEpoch history).2
    ≤ (callers key record.ledgerSeq record.setEpoch record.gen history).length

/-- In every reachable state, a root counts as anchored only behind a full quorum of one signer
set, in one epoch, for one ledger sequence, since its last revocation; and its count is exact until
the quorum is there. -/
theorem anchor_quorum (run : Run (system H) State.fresh history s) {key : RootKey}
    {record : AnchorRec} (hrecord : s.notary.getAnchor key = some record) :
    Quorum history key record := by
  have hroot := (counted_of_run run).root key
  have hread : s.notary.recordOf key = record := by
    rw [Notary.recordOf, hrecord]
    rfl
  have hgen := hroot.gen
  have hpending := hroot.pending
  have hreached := hroot.reached
  rw [hread] at hgen hpending hreached
  have hreached' : record.anchored = true → ∃ later earlier, history = later ++ earlier ∧
      epochOf earlier = record.setEpoch ∧ genOf key earlier = record.gen ∧
      record.approvals
        = (callers key record.ledgerSeq record.setEpoch record.gen earlier).length ∧
      (setAt record.setEpoch history).2 ≤ record.approvals := by
    intro hanchored
    obtain ⟨earlier, ⟨later, hsplit⟩, hrest⟩ := hreached hanchored
    exact ⟨later, earlier, hsplit.symm, hrest⟩
  exact {
    generation := hgen
    distinct := callers_nodup
    members := hroot.members _ _ _
    pending := fun h => (hpending h).count
    reached := hreached'
    enough := by
      intro hanchored
      obtain ⟨later, earlier, hsplit, -, -, hcount, hthreshold⟩ := hreached' hanchored
      have hsub : callers key record.ledgerSeq record.setEpoch record.gen earlier
          ⊆ callers key record.ledgerSeq record.setEpoch record.gen history :=
        callers_suffix (hsplit ▸ List.suffix_append _ _)
      have hle := (callers_nodup.subperm hsub).length_le
      omega }

end Runs

/-! ## Two signers, one root -/

/-- Two signers approve one root; the route's anchors must age 100 seconds. -/
def sampleCalls (threshold : U32) : List (Env × Call) :=
  [.initializeContract (.account 0x0A) [.account 0x3A, .account 0xB1] threshold,
    .setAnchorDelay 1 100, .anchor (.account 0x3A) 1 0x77 5,
    .anchor (.account 0xB1) 1 0x77 5].map fun call => (sampleEnv 1000, call)

def sampleRun (threshold : U32) : History × State :=
  (play (system (sampleHost 0xA0)) (sampleCalls threshold) [] State.fresh).getD ([], State.fresh)

theorem run_sample {threshold : U32} (hplays : (play (system (sampleHost 0xA0))
      (sampleCalls threshold) [] State.fresh).isSome = true) :
    Run (system (sampleHost 0xA0)) State.fresh (sampleRun threshold).1
      (sampleRun threshold).2 :=
  Run.played hplays fun _ _ _ => trivial

theorem anchor_quorum_sample : Quorum (sampleRun 2).1 (1, 0x77) ⟨5, true, 1000, 2, 1, 0⟩ :=
  anchor_quorum (run_sample (by decide +kernel)) (by decide +kernel)

/-- A call on a root that was anchored already is accepted and not counted. -/
theorem repeat_not_counted : ¬ ∀ (H : Host) (history : History) (s : State) (key : RootKey)
    (record : AnchorRec), Run (system H) State.fresh history s →
      s.notary.getAnchor key = some record → record.approvals
        = (callers key record.ledgerSeq record.setEpoch record.gen history).length := by
  intro h
  have hcount := h (sampleHost 0xA0) (sampleRun 1).1 (sampleRun 1).2 (1, 0x77)
    ⟨5, true, 1000, 1, 1, 0⟩ (run_sample (by decide +kernel)) (by decide +kernel)
  exact absurd hcount (by decide +kernel)

end RootAnchor
end ProofBridge
