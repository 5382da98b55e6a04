import ProofBridge.RootAnchor.Quorum

/-!
# Delay and order of the anchors

A root that a consumer may use reached its threshold in some call of the run, has not been revoked
since, and has aged by the delay in force. While the monotonic mode stays on and a route's sequence
is not reset, the roots reach their threshold in the order of their ledger sequences.
-/

namespace ProofBridge
namespace RootAnchor

open ContractLib

variable {H : Host} {history : History} {env : Env} {call : Call} {s s' : State} {key : RootKey}

/-- The root reached its threshold in the accepted call `entry`, which led from `a` to `b`. -/
structure ReachedIn (H : Host) (key : RootKey) (entry : (Env × Call) × Ret) (a b : State) :
    Prop where
  ran : exec H entry.1.1 entry.1.2 a = .ok (entry.2, b)
  approves : ∃ signer ledgerSeq, entry.1.2 = .anchor signer key.1 key.2 ledgerSeq
  before : (a.notary.recordOf key).anchored = false
  after : (b.notary.recordOf key).anchored = true
  /-- The quorum is one of the set in force. -/
  epoch : (b.notary.recordOf key).setEpoch = b.notary.setEpoch
  threshold : b.notary.threshold ≤ (b.notary.recordOf key).approvals
  moment : (b.notary.recordOf key).anchoredAt = entry.1.1.now
  /-- The call says so. -/
  published : reaches b.published
    = (key, (b.notary.recordOf key).ledgerSeq, entry.1.1.now) :: reaches a.published

/-- The revocation of a root. -/
abbrev Call.revokes (key : RootKey) (call : Call) : Prop := call = .revokeAnchor key.1 key.2

/-- A root that is anchored after a call was anchored before it, or the call anchored it. -/
theorem anchored_of_exec {ret : Ret} (ok : exec H env call s = .ok (ret, s'))
    (h : (s'.notary.recordOf key).anchored = true) :
    (s'.notary.recordOf key = s.notary.recordOf key ∧ ¬call.revokes key) ∨
      ReachedIn H key ((env, call), ret) s s' := by
  have hstep := step_of_exec ok
  cases hstep with
  | quiet hcall hnotary hreaches =>
    refine .inl ⟨by rw [hnotary], ?_⟩
    rintro rfl
    cases hcall
  | newSet hcall hnodup hpos hepoch hmonotonic hnotary hreaches =>
    refine .inl ⟨by rw [hnotary]; rfl, ?_⟩
    rintro rfl
    cases hcall
  | revoked hrecord hgen hnotary hreaches =>
    rw [hnotary] at h ⊢
    rw [recordOf_set rfl] at h ⊢
    split at h
    · cases h
    · next hkey =>
      refine .inl ⟨if_neg hkey, ?_⟩
      intro heq
      cases heq
      exact hkey rfl
  | latestReset hnotary hreaches => exact .inl ⟨by rw [hnotary]; rfl, by simp [Call.revokes]⟩
  | delaySet hbound hnotary hreaches =>
    exact .inl ⟨by rw [hnotary]; rfl, by simp [Call.revokes]⟩
  | monotonicSet hnotary hreaches => exact .inl ⟨by rw [hnotary]; rfl, by simp [Call.revokes]⟩
  | repeated hmember hanchored => exact .inl ⟨rfl, by simp [Call.revokes]⟩
  | @approved signer sourceChainId root ledgerSeq _ named counted final happroved hreaches =>
    by_cases hkey : key = (sourceChainId, root)
    · subst hkey
      have hread : s'.notary.recordOf (sourceChainId, root) = final := by
        rw [recordOf_set happroved.anchors, if_pos rfl]
      have hcounted : counted.anchored = false ∧ counted.setEpoch = s.notary.setEpoch := by
        have hnamed : named.anchored = false ∧ named.setEpoch = s.notary.setEpoch := by
          obtain ⟨hepoch, -, hanchored⟩ := AnchorRec.inEpoch_fields
            (s.notary.recordOf (sourceChainId, root)) s.notary.setEpoch
          have hnamed := AnchorRec.named_fields happroved.named_ok
          exact ⟨by rw [hnamed.2.2.1, hanchored, happroved.pending], by rw [hnamed.1, hepoch]⟩
        rw [happroved.counted_eq]
        split <;> exact hnamed
      have habove : s.notary.threshold ≤ counted.approvals := by
        by_contra hlt
        rw [hread, happroved.final_eq, if_neg hlt, hcounted.1] at h
        cases h
      have hfinal := happroved.final_eq
      rw [if_pos habove] at hfinal
      rw [if_pos habove] at hreaches
      refine .inr ⟨ok, ⟨signer, ledgerSeq, rfl⟩, happroved.pending, h, ?_, ?_, ?_, ?_⟩
      · rw [hread, hfinal, happroved.rules.setEpoch]
        exact hcounted.2
      · rw [hread, hfinal, happroved.rules.threshold]
        exact habove
      · rw [hread, hfinal]
      · rw [hread, hfinal]
        exact hreaches
    · refine .inl ⟨?_, by simp [Call.revokes]⟩
      rw [recordOf_set happroved.anchors, if_neg hkey]

/-- A call publishes that a root reached its threshold only if it did. -/
theorem reaches_of_exec {entry : (Env × Call) × Ret} {a b : State}
    (ok : exec H entry.1.1 entry.1.2 a = .ok (entry.2, b)) :
    (∃ key, ReachedIn H key entry a b) ∨ reaches b.published = reaches a.published := by
  obtain ⟨⟨env, call⟩, ret⟩ := entry
  have hstep := step_of_exec ok
  cases hstep with
  | quiet hcall hnotary hreaches => exact .inr hreaches
  | newSet hcall hnodup hpos hepoch hmonotonic hnotary hreaches => exact .inr hreaches
  | revoked hrecord hgen hnotary hreaches => exact .inr hreaches
  | latestReset hnotary hreaches => exact .inr hreaches
  | delaySet hbound hnotary hreaches => exact .inr hreaches
  | monotonicSet hnotary hreaches => exact .inr hreaches
  | repeated hmember hanchored => exact .inr rfl
  | @approved signer sourceChainId root ledgerSeq _ named counted final happroved hreaches =>
    by_cases habove : a.notary.threshold ≤ counted.approvals
    · have hafter : (b.notary.recordOf (sourceChainId, root)).anchored = true := by
        rw [recordOf_set happroved.anchors, if_pos rfl, happroved.final_eq, if_pos habove]
      rcases anchored_of_exec ok hafter with ⟨hsame, -⟩ | hreached
      · rw [hsame, happroved.pending] at hafter
        cases hafter
      · exact .inl ⟨_, hreached⟩
    · rw [if_neg habove] at hreaches
      exact .inr hreaches

/-! ## How an anchored root came to be one -/

/-- The root reached its threshold in `entry`, and nothing after it revoked the root. -/
def AnchoredBy (H : Host) (key : RootKey) (history : History) (s : State)
    (later : History) (entry : (Env × Call) × Ret) (earlier : History) : Prop :=
  history = later ++ entry :: earlier ∧
    ∃ a b, Run (system H) State.fresh earlier a ∧ ReachedIn H key entry a b ∧
      Run (system H) b later s ∧ ∀ t ∈ later, ¬t.1.2.revokes key

/-- Every anchored root was anchored by a call of the run, at the moment its record names. -/
theorem anchoredBy_of_run (run : Run (system H) State.fresh history s)
    (h : (s.notary.recordOf key).anchored = true) :
    ∃ later entry earlier, AnchoredBy H key history s later entry earlier ∧
      (s.notary.recordOf key).anchoredAt = entry.1.1.now := by
  revert h
  refine Run.invariant (I := fun history s => (s.notary.recordOf key).anchored = true →
    ∃ later entry earlier, AnchoredBy H key history s later entry earlier ∧
      (s.notary.recordOf key).anchoredAt = entry.1.1.now) ?_ ?_ ?_ run
  · intro h
    cases h
  · rintro history s ⟨env, call⟩ ret s' run ih _ ok h
    rcases anchored_of_exec ok h with ⟨hsame, hrevokes⟩ | hreached
    · rw [hsame] at h ⊢
      obtain ⟨later, entry, earlier, ⟨hsplit, a, b, hearlier, hreached, hlater, hkept⟩, hat⟩ := ih h
      refine ⟨((env, call), ret) :: later, entry, earlier, ⟨?_, a, b, hearlier, hreached, ?_, ?_⟩, hat⟩
      · rw [hsplit, List.cons_append]
      · exact .accepted hlater trivial ok
      · intro t ht
        rcases List.mem_cons.mp ht with rfl | ht
        · exact hrevokes
        · exact hkept t ht
    · refine ⟨[], ((env, call), ret), history, ⟨rfl, s, s', run, hreached, .start, ?_⟩,
        hreached.moment⟩
      intro t ht
      cases ht
  · intro history s s' _ _ moved
    cases moved

theorem isAnchored_iff {chainId : U128} {root : BytesN32} : isAnchored env chainId root s = true ↔
    (s.notary.recordOf (chainId, root)).anchored = true ∧
      (s.notary.recordOf (chainId, root)).anchoredAt + s.notary.getDelay chainId ≤ env.now := by
  unfold isAnchored Notary.recordOf
  cases s.notary.getAnchor (chainId, root) with
  | none => simp [AnchorRec.absent]
  | some record =>
    simp only [Bool.and_eq_true, decide_eq_true_eq, Option.getD_some, and_assoc]
    refine and_congr_right fun _ => ?_
    omega

/-- A root that reached its threshold after a revocation did so by calls that came after it. -/
theorem quorum_after_revoke {entry revocation : (Env × Call) × Ret} {between before : History}
    {a b : State} (run : Run (system H) State.fresh (between ++ revocation :: before) a)
    (hrevokes : revocation.1.2.revokes key) (hreached : ReachedIn H key entry a b) :
    ∃ members : List Address, members.Nodup ∧ b.notary.threshold ≤ members.length ∧
      ∀ signer ∈ members, signer ∈ b.notary.signers ∧ ∃ at' ledgerSeq ret,
        ((at', .anchor signer key.1 key.2 ledgerSeq), ret) ∈ entry :: between ∧
          ledgerSeq.toNat = (b.notary.recordOf key).ledgerSeq := by
  obtain ⟨⟨env, call⟩, ret⟩ := entry
  have hcounted : Counted (((env, call), ret) :: (between ++ revocation :: before)) b.notary :=
    (counted_of_run run).step (step_of_exec hreached.ran)
  have hroot := hcounted.root key
  obtain ⟨earlier, hsuffix, -, -, hcount, hthreshold⟩ := hroot.reached hreached.after
  rw [hreached.epoch, hcounted.set] at hthreshold
  refine ⟨callers key (b.notary.recordOf key).ledgerSeq (b.notary.recordOf key).setEpoch
    (b.notary.recordOf key).gen earlier, callers_nodup, by omega, ?_⟩
  intro signer hmem
  have hmem' := callers_suffix hsuffix hmem
  have hsigner := hroot.members _ _ _ signer hmem'
  rw [hreached.epoch, hcounted.set] at hsigner
  refine ⟨hsigner, ?_⟩
  obtain ⟨later, env', ledgerSeq, ret', earlier', hsplit, hseq, -, hgen⟩ := mem_callers.mp hmem'
  refine ⟨env', ledgerSeq, ret', ?_, hseq⟩
  -- a call before the revocation belongs to an earlier generation
  have hlt : genOf key before < genOf key
      (((env, call), ret) :: (between ++ revocation :: before)) := by
    have hstep : genOf key (revocation :: before) = genOf key before + 1 := by
      obtain ⟨⟨env'', call'⟩, ret''⟩ := revocation
      have hcall : call' = .revokeAnchor key.1 key.2 := hrevokes
      simp [genOf, hcall]
    have hle : genOf key (revocation :: before)
        ≤ genOf key (((env, call), ret) :: (between ++ revocation :: before)) :=
      genOf_suffix ((List.suffix_append between _).trans (List.suffix_cons _ _))
    omega
  rw [← hroot.gen, ← hgen] at hlt
  have hafter : ¬earlier' <:+ before := by
    intro h
    have hle : genOf key earlier' ≤ genOf key before := genOf_suffix h
    omega
  rw [← List.cons_append] at hsplit
  rcases List.append_eq_append_iff.mp hsplit with ⟨rest, hlater, htail⟩ | ⟨rest, hhead, htail⟩
  · cases rest with
    | nil =>
      -- the call is no revocation
      obtain ⟨heq, -⟩ := List.cons.inj htail
      rw [heq] at hrevokes
      cases hrevokes
    | cons t rest =>
      obtain ⟨-, hbefore⟩ := List.cons.inj htail
      refine absurd ?_ hafter
      rw [hbefore]
      exact (List.suffix_cons _ _).trans (List.suffix_append _ _)
  · cases rest with
    | nil =>
      obtain ⟨heq, -⟩ := List.cons.inj htail
      rw [← heq] at hrevokes
      cases hrevokes
    | cons t rest =>
      obtain ⟨heq, -⟩ := List.cons.inj htail
      rw [hhead, heq]
      exact List.mem_append_right _ List.mem_cons_self

/-! ## The order of the anchors of a route -/

/-- The sequences of the roots of a chain that reached the threshold, the newest first. -/
def reachedOn (chainId : U128) (published : List AnchorEvent) : List ℕ :=
  (reaches published).filterMap fun r => if r.1.1 = chainId then some r.2.1 else none

/-- What a stretch of a run adds to the anchors of a route, from the latest sequence `start`. -/
structure Ordered (start latest : ℕ) (new : List ℕ) : Prop where
  increasing : new.Pairwise (· > ·)
  above : ∀ seq ∈ new, start < seq
  bounded : ∀ seq ∈ new, seq ≤ latest
  latest : latest = max start (new.headD 0)

theorem Ordered.start (start : ℕ) : Ordered start start [] where
  increasing := .nil
  above _ h := by cases h
  bounded _ h := by cases h
  latest := (max_eq_left (Nat.zero_le _)).symm

theorem Ordered.cons {start latest seq : ℕ} {new : List ℕ} (h : Ordered start latest new)
    (hseq : latest < seq) : Ordered start (max latest seq) (seq :: new) where
  increasing := by
    refine List.pairwise_cons.mpr ⟨fun seq' hmem => ?_, h.increasing⟩
    have := h.bounded seq' hmem
    omega
  above := by
    intro seq' hmem
    have hstart := h.latest
    rcases List.mem_cons.mp hmem with rfl | hmem
    · omega
    · exact h.above seq' hmem
  bounded := by
    intro seq' hmem
    rcases List.mem_cons.mp hmem with rfl | hmem
    · omega
    · have := h.bounded seq' hmem
      omega
  latest := by
    have hstart := h.latest
    simp only [List.headD_cons]
    omega

/-- What one call does to the anchors of a route while the monotonic mode is on. -/
theorem ordered_step {chainId : U128} {start : ℕ} {new : List ℕ}
    (hstep : Step env s call s') (hmono : s.notary.monotonic = true)
    (hkept : call ≠ .setMonotonic false) (hreset : ∀ seq, call ≠ .resetLatestSeq chainId seq)
    (h : Ordered start (s.notary.getLatestSeq chainId) new) :
    s'.notary.monotonic = true ∧ ∃ added,
      reachedOn chainId s'.published = added ++ reachedOn chainId s.published ∧
        Ordered start (s'.notary.getLatestSeq chainId) (added ++ new) := by
  have hsame : reaches s'.published = reaches s.published →
      s'.notary.getLatestSeq chainId = s.notary.getLatestSeq chainId →
      ∃ added, reachedOn chainId s'.published = added ++ reachedOn chainId s.published ∧
        Ordered start (s'.notary.getLatestSeq chainId) (added ++ new) := by
    intro hreaches hlatest
    refine ⟨[], by rw [reachedOn, hreaches]; rfl, ?_⟩
    rw [hlatest]
    exact h
  cases hstep with
  | quiet hcall hnotary hreaches =>
    exact ⟨by rw [hnotary, hmono], hsame hreaches (by rw [hnotary])⟩
  | newSet hcall hnodup hpos hepoch hmonotonic hnotary hreaches =>
    refine ⟨?_, hsame hreaches (by rw [hnotary]; rfl)⟩
    rw [hnotary]
    rcases hmonotonic with hm | hm
    · exact hm.trans hmono
    · exact hm
  | revoked hrecord hgen hnotary hreaches =>
    exact ⟨by rw [hnotary, hmono], hsame hreaches (by rw [hnotary]; rfl)⟩
  | @latestReset sourceChainId seq _ hnotary hreaches =>
    refine ⟨by rw [hnotary, hmono], hsame hreaches ?_⟩
    have hne : chainId ≠ sourceChainId := by
      rintro rfl
      exact hreset seq rfl
    rw [hnotary]
    simp only [Notary.getLatestSeq, Map.get?_set_ne hne]
  | delaySet hbound hnotary hreaches =>
    exact ⟨by rw [hnotary, hmono], hsame hreaches (by rw [hnotary]; rfl)⟩
  | @monotonicSet monotonic _ hnotary hreaches =>
    refine ⟨?_, hsame hreaches (by rw [hnotary]; rfl)⟩
    rw [hnotary]
    cases monotonic with
    | true => rfl
    | false => exact absurd rfl hkept
  | repeated hmember hanchored => exact ⟨hmono, hsame rfl rfl⟩
  | @approved signer sourceChainId root ledgerSeq _ named counted final happroved hreaches =>
    refine ⟨by rw [happroved.rules.monotonic, hmono], ?_⟩
    by_cases habove : s.notary.threshold ≤ counted.approvals
    · rw [if_pos habove] at hreaches
      by_cases hchain : sourceChainId = chainId
      · subst hchain
        have hnew : s.notary.getLatestSeq sourceChainId < counted.ledgerSeq := by
          have := happroved.monotonic habove
          simp only [hmono, true_and, not_le] at this
          exact this
        refine ⟨[counted.ledgerSeq], ?_, ?_⟩
        · simp [reachedOn, hreaches]
        · rw [happroved.latest, if_pos ⟨rfl, habove⟩]
          exact h.cons hnew
      · refine ⟨[], ?_, ?_⟩
        · simp [reachedOn, hreaches, hchain]
        · rw [happroved.latest, if_neg fun heq => hchain heq.1.symm]
          exact h
    · rw [if_neg habove] at hreaches
      refine hsame hreaches ?_
      rw [happroved.latest, if_neg fun heq => habove heq.2]

theorem ordered_of_stretch {chainId : U128} {s₁ : State} {during : History}
    (stretch : Run (system H) s₁ during s) (hmono : s₁.notary.monotonic = true)
    (hkept : ∀ t ∈ during, t.1.2 ≠ .setMonotonic false)
    (hreset : ∀ t ∈ during, ∀ seq, t.1.2 ≠ .resetLatestSeq chainId seq) :
    ∃ new, reachedOn chainId s.published = new ++ reachedOn chainId s₁.published ∧
      Ordered (s₁.notary.getLatestSeq chainId) (s.notary.getLatestSeq chainId) new := by
  suffices s.notary.monotonic = true ∧ ∃ new,
      reachedOn chainId s.published = new ++ reachedOn chainId s₁.published ∧
        Ordered (s₁.notary.getLatestSeq chainId) (s.notary.getLatestSeq chainId) new from this.2
  revert hkept hreset
  refine Run.invariant (I := fun during s => (∀ t ∈ during, t.1.2 ≠ .setMonotonic false) →
    (∀ t ∈ during, ∀ seq, t.1.2 ≠ .resetLatestSeq chainId seq) →
    s.notary.monotonic = true ∧ ∃ new,
      reachedOn chainId s.published = new ++ reachedOn chainId s₁.published ∧
        Ordered (s₁.notary.getLatestSeq chainId) (s.notary.getLatestSeq chainId) new) ?_ ?_ ?_
    stretch
  · intro _ _
    exact ⟨hmono, [], rfl, .start _⟩
  · rintro during s ⟨env, call⟩ ret s' _ ih _ ok hkept hreset
    obtain ⟨hmono', new, hpub, hordered⟩ :=
      ih (fun t ht => hkept t (List.mem_cons_of_mem _ ht))
        (fun t ht => hreset t (List.mem_cons_of_mem _ ht))
    obtain ⟨hmono'', added, hpub', hordered'⟩ :=
      ordered_step (step_of_exec ok) hmono' (hkept _ List.mem_cons_self)
        (hreset _ List.mem_cons_self) hordered
    refine ⟨hmono'', added ++ new, ?_, hordered'⟩
    rw [hpub', hpub, List.append_assoc]
  · intro during s s' _ _ moved
    cases moved

/-! ## Both together -/

/-- What holds of the anchors after a run `before` to `s₁` and a stretch `during` from there. -/
structure Discipline (H : Host) (before during : History) (s₁ s₂ : State) : Prop where
  /-- A usable root reached its threshold, was not revoked since, and aged by the delay in force. -/
  usable : ∀ env key, isAnchored env key.1 key.2 s₂ = true →
    ∃ later entry earlier, AnchoredBy H key (during ++ before) s₂ later entry earlier ∧
      entry.1.1.now + s₂.notary.getDelay key.1 ≤ env.now
  /-- After a revocation that takes a fresh quorum and a full delay. -/
  revoked : ∀ env key later revocation earlier,
    during ++ before = later ++ revocation :: earlier → revocation.1.2.revokes key →
    isAnchored env key.1 key.2 s₂ = true →
    ∃ rest entry between a b, later = rest ++ entry :: between ∧ ReachedIn H key entry a b ∧
      entry.1.1.now + s₂.notary.getDelay key.1 ≤ env.now ∧
      ∃ members : List Address, members.Nodup ∧ b.notary.threshold ≤ members.length ∧
        ∀ signer ∈ members, signer ∈ b.notary.signers ∧ ∃ at' ledgerSeq ret,
          ((at', .anchor signer key.1 key.2 ledgerSeq), ret) ∈ entry :: between ∧
            ledgerSeq.toNat = (b.notary.recordOf key).ledgerSeq
  /-- With the monotonic mode on and the route not reset, sequences only rise. -/
  ordered : ∀ chainId, s₁.notary.monotonic = true →
    (∀ t ∈ during, t.1.2 ≠ .setMonotonic false) →
    (∀ t ∈ during, ∀ seq, t.1.2 ≠ .resetLatestSeq chainId seq) →
    ∃ new, reachedOn chainId s₂.published = new ++ reachedOn chainId s₁.published ∧
      Ordered (s₁.notary.getLatestSeq chainId) (s₂.notary.getLatestSeq chainId) new
  /-- What is published as reached is what reached its threshold. -/
  published : ∀ entry a b, exec H entry.1.1 entry.1.2 a = .ok (entry.2, b) →
    (∃ key, ReachedIn H key entry a b) ∨ reaches b.published = reaches a.published

theorem anchor_discipline {before during : History} {s₁ s₂ : State}
    (first : Run (system H) State.fresh before s₁) (stretch : Run (system H) s₁ during s₂) :
    Discipline H before during s₁ s₂ where
  usable := by
    intro env key husable
    obtain ⟨hanchored, haged⟩ := isAnchored_iff.mp husable
    obtain ⟨later, entry, earlier, hby, hat⟩ :=
      anchoredBy_of_run (first.trans stretch) hanchored
    rw [hat] at haged
    exact ⟨later, entry, earlier, hby, haged⟩
  revoked := by
    intro env key later revocation earlier hsplit hrevokes husable
    obtain ⟨hanchored, haged⟩ := isAnchored_iff.mp husable
    obtain ⟨later', entry, earlier', ⟨hsplit', a, b, hrun, hreached, -, hkept⟩, hat⟩ :=
      anchoredBy_of_run (first.trans stretch) hanchored
    rw [hat] at haged
    have hnot : entry ≠ revocation := by
      rintro rfl
      obtain ⟨signer, ledgerSeq, hcall⟩ := hreached.approves
      have hrevokes : entry.1.2 = .revokeAnchor key.1 key.2 := hrevokes
      rw [hcall] at hrevokes
      cases hrevokes
    -- the revocation is not among what followed the anchoring, so it came before
    obtain ⟨between, hlater, hearlier⟩ : ∃ between, later = later' ++ entry :: between ∧
        earlier' = between ++ revocation :: earlier := by
      rw [hsplit] at hsplit'
      rcases List.append_eq_append_iff.mp hsplit' with ⟨rest, hlong, htail⟩ | ⟨rest, hlong, htail⟩
      · cases rest with
        | nil => exact absurd (List.cons.inj htail).1.symm hnot
        | cons t rest =>
          obtain ⟨rfl, -⟩ := List.cons.inj htail
          refine absurd hrevokes (hkept _ ?_)
          rw [hlong]
          exact List.mem_append_right _ List.mem_cons_self
      · cases rest with
        | nil => exact absurd (List.cons.inj htail).1 hnot
        | cons t rest =>
          obtain ⟨rfl, hearlier⟩ := List.cons.inj htail
          exact ⟨rest, hlong, hearlier⟩
    rw [hearlier] at hrun
    exact ⟨later', entry, between, a, b, hlater, hreached, haged,
      quorum_after_revoke hrun hrevokes hreached⟩
  ordered chainId := ordered_of_stretch stretch
  published entry a b := reaches_of_exec

theorem anchor_discipline_sample :
    Discipline (sampleHost 0xA0) [] (sampleRun 2).1 State.fresh (sampleRun 2).2 :=
  anchor_discipline .start (run_sample (by decide +kernel))

end RootAnchor
end ProofBridge
