import ProofBridge.RootAnchor.Model

/-!
# What one call of the RootAnchor can do

`Step` says it once: which part of the notary's storage each entry point moves, and under which
guards. Every invariant is a case analysis of it.
-/

namespace ProofBridge
namespace RootAnchor

open ContractLib

variable {H : Host} {env : Env} {s s' : State}

/-- The roots that reached the threshold, the newest first: the root, its ledger sequence and the
moment. -/
def reaches (published : List AnchorEvent) : List (RootKey × ℕ × ℕ) :=
  published.filterMap fun
    | .anchored chainId root ledgerSeq anchoredAt => some ((chainId, root), ledgerSeq, anchoredAt)
    | _ => none

@[simp] theorem reaches_anchored (chainId : U128) (root : BytesN32) (ledgerSeq anchoredAt : ℕ)
    (published : List AnchorEvent) :
    reaches (.anchored chainId root ledgerSeq anchoredAt :: published)
      = ((chainId, root), ledgerSeq, anchoredAt) :: reaches published := rfl

/-- The calls that move nothing of the notary's storage. -/
def Call.quiet : Call → Bool
  | .pause | .unpause | .transferAdmin .. | .acceptAdmin | .activateTimelock | .proposeAction ..
  | .cancelAction .. => true
  | _ => false

/-- The signer set a call installs. -/
def Call.newSet? : Call → Option (List Address × U32)
  | .initializeContract _ signers threshold | .setSigners signers threshold =>
    some (signers, threshold)
  | _ => none

/-- The record of a root, as `anchor` reads it. -/
def Notary.recordOf (n : Notary) (key : RootKey) : AnchorRec := (n.getAnchor key).getD .absent

/-- The signers, their epoch and the routes' settings stayed. -/
structure Notary.SameRules (n n' : Notary) : Prop where
  signers : n'.signers = n.signers
  threshold : n'.threshold = n.threshold
  setEpoch : n'.setEpoch = n.setEpoch
  monotonic : n'.monotonic = n.monotonic
  delays : n'.delays = n.delays

/-- An approval taken into account: the record it leaves, its stamp, and the threshold. -/
structure Approved (env : Env) (n n' : Notary) (signer : Address) (key : RootKey) (ledgerSeq : ℕ)
    (named counted final : AnchorRec) : Prop where
  rules : n.SameRules n'
  member : signer ∈ n.signers
  pending : (n.recordOf key).anchored = false
  named_ok : ((n.recordOf key).inEpoch n.setEpoch).named n.monotonic (n.getLatestSeq key.1) ledgerSeq
    = .ok named
  counted_eq : counted =
    if n.getApprovalStamp key signer = some (stampOf named.setEpoch named.gen) then named
    else { named with approvals := named.approvals + 1 }
  monotonic : n.threshold ≤ counted.approvals →
    ¬(n.monotonic = true ∧ counted.ledgerSeq ≤ n.getLatestSeq key.1)
  final_eq : final =
    if n.threshold ≤ counted.approvals then { counted with anchored := true, anchoredAt := env.now }
    else counted
  stamps : ∀ key' signer', n'.getApprovalStamp key' signer' =
    if key' = key ∧ signer' = signer then some (stampOf named.setEpoch named.gen)
    else n.getApprovalStamp key' signer'
  latest : ∀ chainId, n'.getLatestSeq chainId =
    if chainId = key.1 ∧ n.threshold ≤ counted.approvals
    then max (n.getLatestSeq chainId) counted.ledgerSeq else n.getLatestSeq chainId
  anchors : n'.anchors = n.anchors.set key final

/-- What an accepted call did to the notary's storage. -/
inductive Step (env : Env) (s : State) : Call → State → Prop
  | quiet {call : Call} {s' : State} (hcall : call.quiet = true) (hnotary : s'.notary = s.notary)
      (hreaches : reaches s'.published = reaches s.published) : Step env s call s'
  | newSet {call : Call} {s' : State} {signers : List Address} {threshold : U32} {monotonic : Bool}
      (hcall : call.newSet? = some (signers, threshold)) (hnodup : signers.Nodup)
      (hpos : threshold.toNat ≠ 0) (hepoch : s.notary.setEpoch + 1 < 2 ^ 32)
      (hmonotonic : monotonic = s.notary.monotonic ∨ monotonic = true)
      (hnotary : s'.notary = { s.notary with
        signers, threshold := threshold.toNat, setEpoch := s.notary.setEpoch + 1, monotonic })
      (hreaches : reaches s'.published = reaches s.published) : Step env s call s'
  | revoked {sourceChainId : U128} {root : BytesN32} {record : AnchorRec} {s' : State}
      (hrecord : s.notary.getAnchor (sourceChainId, root) = some record)
      (hgen : record.gen + 1 < 2 ^ 32)
      (hnotary : s'.notary = { s.notary with
        anchors := s.notary.anchors.set (sourceChainId, root) { record with
          gen := record.gen + 1, approvals := 0, anchored := false, anchoredAt := 0,
          ledgerSeq := 0 } })
      (hreaches : reaches s'.published = reaches s.published) :
      Step env s (.revokeAnchor sourceChainId root) s'
  | latestReset {sourceChainId : U128} {seq : U64} {s' : State}
      (hnotary : s'.notary = { s.notary with
        latestSeqs := s.notary.latestSeqs.set sourceChainId seq.toNat })
      (hreaches : reaches s'.published = reaches s.published) :
      Step env s (.resetLatestSeq sourceChainId seq) s'
  | delaySet {sourceChainId : U128} {delay : U64} {s' : State}
      (hbound : delay.toNat ≤ MAX_ANCHOR_DELAY)
      (hnotary : s'.notary = { s.notary with
        delays := s.notary.delays.set sourceChainId delay.toNat })
      (hreaches : reaches s'.published = reaches s.published) :
      Step env s (.setAnchorDelay sourceChainId delay) s'
  | monotonicSet {monotonic : Bool} {s' : State}
      (hnotary : s'.notary = { s.notary with monotonic })
      (hreaches : reaches s'.published = reaches s.published) :
      Step env s (.setMonotonic monotonic) s'
  | repeated {signer : Address} {sourceChainId : U128} {root : BytesN32} {ledgerSeq : U64}
      (hmember : signer ∈ s.notary.signers)
      (hanchored : (s.notary.recordOf (sourceChainId, root)).anchored = true) :
      Step env s (.anchor signer sourceChainId root ledgerSeq) s
  | approved {signer : Address} {sourceChainId : U128} {root : BytesN32} {ledgerSeq : U64}
      {s' : State} {named counted final : AnchorRec}
      (happroved : Approved env s.notary s'.notary signer (sourceChainId, root) ledgerSeq.toNat
        named counted final)
      (hreaches : reaches s'.published =
        if s.notary.threshold ≤ counted.approvals
        then ((sourceChainId, root), counted.ledgerSeq, env.now) :: reaches s.published
        else reaches s.published) :
      Step env s (.anchor signer sourceChainId root ledgerSeq) s'

/-! ## Every accepted call is such a step -/

theorem adminOf_ok {r : Address × State} (ok : adminOf s = .ok r) : r.2 = s := by
  unfold adminOf at ok
  simp only [Tx.bind_read_ok, Tx.bind_require_ok, Tx.view_ok] at ok
  obtain ⟨-, admin, -, rfl⟩ := ok
  rfl

theorem requireAdmin_ok {r : Address × State} (ok : requireAdmin env s = .ok r) : r.2 = s := by
  unfold requireAdmin at ok
  rw [Tx.bind_ok] at ok
  obtain ⟨admin, s₁, hadmin, ok⟩ := ok
  obtain rfl : s₁ = s := adminOf_ok hadmin
  simp only [Tx.bind_demand_ok, Tx.pure_ok] at ok
  obtain ⟨-, rfl⟩ := ok
  rfl

/-- A timelock step moves the timelock alone. -/
theorem onTimelock_ok {α : Type} {x : Tx Fault Timelock α} {a : α}
    (ok : onTimelock x s = .ok (a, s')) : ∃ timelock, s' = { s with timelock } := by
  obtain ⟨_, t, -, heq⟩ := Tx.zoom_ok.mp ok
  exact ⟨t, (Prod.mk.inj heq).2⟩

/-- A step of the admin, once its admin is known. -/
theorem of_requireAdmin {α : Type} {k : Address → Tx RootAnchorError State α} {r : α × State}
    (ok : (requireAdmin env >>= k) s = .ok r) : ∃ admin, k admin s = .ok r := by
  rw [Tx.bind_ok] at ok
  obtain ⟨admin, s₁, hadmin, ok⟩ := ok
  obtain rfl : s₁ = s := requireAdmin_ok hadmin
  exact ⟨admin, ok⟩

theorem of_adminOf {α : Type} {k : Address → Tx RootAnchorError State α} {r : α × State}
    (ok : (adminOf >>= k) s = .ok r) : ∃ admin, k admin s = .ok r := by
  rw [Tx.bind_ok] at ok
  obtain ⟨admin, s₁, hadmin, ok⟩ := ok
  obtain rfl : s₁ = s := adminOf_ok hadmin
  exact ⟨admin, ok⟩

/-- What follows a gate runs in the same notary. -/
theorem of_onTimelock {α β : Type} {x : Tx Fault Timelock α} {k : α → Tx RootAnchorError State β}
    {r : β × State} (ok : (onTimelock x >>= k) s = .ok r) :
    ∃ a timelock, k a { s with timelock } = .ok r := by
  rw [Tx.bind_ok] at ok
  obtain ⟨a, s₁, hgate, ok⟩ := ok
  obtain ⟨timelock, rfl⟩ := onTimelock_ok hgate
  exact ⟨a, timelock, ok⟩

/-- What a new signer set leaves. -/
theorem applySigners_ok {signers : List Address} {threshold : U32}
    (ok : applySigners signers threshold s = .ok ((), s')) :
    threshold.toNat ≠ 0 ∧ signers.Nodup ∧ s.notary.setEpoch + 1 < 2 ^ 32 ∧
      s' = { s with
        notary := { s.notary with
          signers, threshold := threshold.toNat, setEpoch := s.notary.setEpoch + 1 }
        published := .signersSet signers threshold.toNat (s.notary.setEpoch + 1)
          :: s.published } := by
  unfold applySigners at ok
  simp only [Tx.bind_require_ok, Tx.bind_read_ok, Tx.bind_lift_ok, Check.add_ok,
    Tx.bind_modify_ok, Tx.modify_ok] at ok
  obtain ⟨⟨hpos, -⟩, hnodup, _, ⟨hepoch, rfl⟩, heq⟩ := ok
  cases heq
  exact ⟨hpos, hnodup, hepoch, rfl⟩

theorem quiet_of_exec {call : Call} {ret : Ret} (hcall : call.quiet = true)
    (ok : exec H env call s = .ok (ret, s')) :
    s'.notary = s.notary ∧ reaches s'.published = reaches s.published := by
  cases call <;> simp only [Call.quiet, Bool.false_eq_true] at hcall <;>
    simp only [exec, Tx.answer_ok] at ok <;> obtain ⟨a, ok, -⟩ := ok
  case pause =>
    obtain ⟨admin, ok⟩ := of_requireAdmin ok
    simp only [Tx.bind_modify_ok, Tx.modify_ok, Prod.mk.injEq] at ok
    obtain ⟨-, rfl⟩ := ok
    exact ⟨rfl, rfl⟩
  case unpause =>
    obtain ⟨admin, ok⟩ := of_requireAdmin ok
    simp only [Tx.bind_modify_ok, Tx.modify_ok, Prod.mk.injEq] at ok
    obtain ⟨-, rfl⟩ := ok
    exact ⟨rfl, rfl⟩
  case transferAdmin =>
    obtain ⟨admin, ok⟩ := of_requireAdmin ok
    simp only [Tx.bind_modify_ok, Tx.modify_ok, Prod.mk.injEq] at ok
    obtain ⟨-, rfl⟩ := ok
    exact ⟨rfl, rfl⟩
  case acceptAdmin =>
    unfold acceptAdmin at ok
    simp only [Tx.bind_read_ok, Tx.bind_expect_ok, Tx.bind_demand_ok, Tx.bind_view_ok,
      Tx.bind_modify_ok] at ok
    obtain ⟨pending, -, -, old, -, ok⟩ := ok
    obtain ⟨_, timelock, ok⟩ := of_onTimelock ok
    cases Tx.modify_ok.mp ok
    exact ⟨rfl, rfl⟩
  case activateTimelock =>
    obtain ⟨admin, ok⟩ := of_requireAdmin ok
    obtain ⟨timelock, rfl⟩ := onTimelock_ok ok
    exact ⟨rfl, rfl⟩
  case proposeAction =>
    obtain ⟨admin, ok⟩ := of_requireAdmin ok
    obtain ⟨timelock, rfl⟩ := onTimelock_ok ok
    exact ⟨rfl, rfl⟩
  case cancelAction =>
    obtain ⟨admin, ok⟩ := of_requireAdmin ok
    obtain ⟨timelock, rfl⟩ := onTimelock_ok ok
    exact ⟨rfl, rfl⟩

/-- What counting an approval leaves: the stamp is there, whether it was written now or before. -/
theorem countApproval_ok {key : RootKey} {signer : Address} {record counted : AnchorRec}
    (ok : countApproval key signer record s = .ok (counted, s')) :
    s.notary.SameRules s'.notary ∧ s'.notary.anchors = s.notary.anchors ∧
      s'.notary.latestSeqs = s.notary.latestSeqs ∧
      reaches s'.published = reaches s.published ∧
      counted = (if s.notary.getApprovalStamp key signer
          = some (stampOf record.setEpoch record.gen) then record
        else { record with approvals := record.approvals + 1 }) ∧
      ∀ key' signer', s'.notary.getApprovalStamp key' signer' =
        if key' = key ∧ signer' = signer then some (stampOf record.setEpoch record.gen)
        else s.notary.getApprovalStamp key' signer' := by
  unfold countApproval at ok
  simp only [Tx.bind_read_ok, Tx.ite_apply] at ok
  split at ok
  · next hfresh =>
    simp only [Tx.bind_modify_ok, Tx.bind_lift_ok, Check.add_ok, Tx.pure_ok, Prod.mk.injEq] at ok
    obtain ⟨_, ⟨-, rfl⟩, rfl, rfl⟩ := ok
    refine ⟨⟨rfl, rfl, rfl, rfl, rfl⟩, rfl, rfl, rfl, by rw [if_neg hfresh], ?_⟩
    intro key' signer'
    simp only [Notary.getApprovalStamp, Map.get?_set, Prod.mk.injEq]
  · next hstamped =>
    simp only [Tx.pure_ok, Prod.mk.injEq] at ok
    obtain ⟨rfl, rfl⟩ := ok
    have hstamp := not_not.mp hstamped
    refine ⟨⟨rfl, rfl, rfl, rfl, rfl⟩, rfl, rfl, rfl, by rw [if_pos hstamp], ?_⟩
    intro key' signer'
    split
    · next h =>
      rw [h.1, h.2]
      exact hstamp
    · rfl

/-- What the threshold test leaves. -/
theorem reachThreshold_ok {key : RootKey} {record final : AnchorRec} {latest : ℕ}
    (hlatest : s.notary.getLatestSeq key.1 = latest)
    (ok : reachThreshold env key latest record s = .ok (final, s')) :
    s.notary.SameRules s'.notary ∧ s'.notary.anchors = s.notary.anchors ∧
      s'.notary.approvalStamps = s.notary.approvalStamps ∧
      (s.notary.threshold ≤ record.approvals →
        ¬(s.notary.monotonic = true ∧ record.ledgerSeq ≤ latest)) ∧
      final = (if s.notary.threshold ≤ record.approvals
        then { record with anchored := true, anchoredAt := env.now } else record) ∧
      reaches s'.published = (if s.notary.threshold ≤ record.approvals
        then (key, record.ledgerSeq, env.now) :: reaches s.published
        else reaches s.published) ∧
      ∀ chainId, s'.notary.getLatestSeq chainId =
        if chainId = key.1 ∧ s.notary.threshold ≤ record.approvals
        then max (s.notary.getLatestSeq chainId) record.ledgerSeq
        else s.notary.getLatestSeq chainId := by
  unfold reachThreshold at ok
  simp only [Tx.bind_read_ok, Tx.ite_apply] at ok
  split at ok
  · next hreached =>
    simp only [Tx.bind_require_ok, Tx.bind_modify_ok, Tx.pure_ok, Prod.mk.injEq] at ok
    obtain ⟨hmono, rfl, rfl⟩ := ok
    refine ⟨⟨rfl, rfl, rfl, rfl, rfl⟩, rfl, rfl, fun _ => hmono, by rw [if_pos hreached],
      by rw [if_pos hreached]; rfl, ?_⟩
    intro chainId
    simp only [hreached, and_true, Notary.getLatestSeq] at hlatest ⊢
    by_cases hlt : latest < record.ledgerSeq
    · rw [if_pos hlt, Map.get?_set]
      split
      · next h =>
        rw [h, hlatest, max_eq_right hlt.le, Option.getD_some]
      · rfl
    · rw [if_neg hlt]
      split
      · next h =>
        rw [h, hlatest, max_eq_left (not_lt.mp hlt)]
      · rfl
  · next hbelow =>
    simp only [Tx.pure_ok, Prod.mk.injEq] at ok
    obtain ⟨rfl, rfl⟩ := ok
    refine ⟨⟨rfl, rfl, rfl, rfl, rfl⟩, rfl, rfl, fun h => absurd h hbelow,
      by rw [if_neg hbelow], by rw [if_neg hbelow], ?_⟩
    intro chainId
    rw [if_neg fun h => hbelow h.2]

theorem Notary.SameRules.trans {n n' n'' : Notary} (h : n.SameRules n') (h' : n'.SameRules n'') :
    n.SameRules n'' where
  signers := h'.signers.trans h.signers
  threshold := h'.threshold.trans h.threshold
  setEpoch := h'.setEpoch.trans h.setEpoch
  monotonic := h'.monotonic.trans h.monotonic
  delays := h'.delays.trans h.delays

theorem step_of_anchor {signer : Address} {sourceChainId : U128} {root : BytesN32}
    {ledgerSeq : U64} (ok : anchor env signer sourceChainId root ledgerSeq s = .ok ((), s')) :
    Step env s (.anchor signer sourceChainId root ledgerSeq) s' := by
  unfold anchor at ok
  simp only [Tx.bind_read_ok, Tx.bind_require_ok, Tx.bind_demand_ok, Tx.ite_apply] at ok
  obtain ⟨-, -, -, hmember, ok⟩ := ok
  split at ok
  · next hanchored =>
    cases Tx.pure_ok.mp ok
    exact .repeated hmember hanchored
  · next hpending =>
    rw [Tx.bind_lift_ok] at ok
    obtain ⟨named, hnamed, ok⟩ := ok
    rw [Tx.bind_ok] at ok
    obtain ⟨counted, s₁, hcount, ok⟩ := ok
    rw [Tx.bind_ok] at ok
    obtain ⟨final, s₂, hreach, ok⟩ := ok
    cases Tx.modify_ok.mp ok
    obtain ⟨hrules, hanchors, hlatest, hpub, hcounted, hstamps⟩ := countApproval_ok hcount
    have hl : ∀ chainId, s₁.notary.getLatestSeq chainId = s.notary.getLatestSeq chainId := by
      intro chainId
      simp only [Notary.getLatestSeq, hlatest]
    obtain ⟨hrules', hanchors', hstamps', hmono, hfinal, hpub', hlatest'⟩ :=
      reachThreshold_ok (hl _) hreach
    rw [hrules.threshold] at hmono hfinal hpub' hlatest'
    rw [hrules.monotonic] at hmono
    have hrules'' := hrules.trans hrules'
    have happroved : Approved env s.notary
        { s₂.notary with anchors := s₂.notary.anchors.set (sourceChainId, root) final }
        signer (sourceChainId, root) ledgerSeq.toNat named counted final := {
      rules := ⟨hrules''.signers, hrules''.threshold, hrules''.setEpoch, hrules''.monotonic,
        hrules''.delays⟩
      member := hmember
      pending := Bool.not_eq_true _ ▸ hpending
      named_ok := hnamed
      counted_eq := hcounted
      monotonic := hmono
      final_eq := hfinal
      stamps := by
        intro key' signer'
        rw [← hstamps]
        show s₂.notary.approvalStamps.get? _ = s₁.notary.approvalStamps.get? _
        rw [hstamps']
      latest := by
        intro chainId
        rw [← hl]
        exact hlatest' chainId
      anchors := by rw [← hanchors, ← hanchors'] }
    rw [hpub] at hpub'
    exact .approved happroved hpub'

/-- Every accepted call is a step. -/
theorem step_of_exec {call : Call} {ret : Ret} (ok : exec H env call s = .ok (ret, s')) :
    Step env s call s' := by
  by_cases hcall : call.quiet = true
  · obtain ⟨hnotary, hreaches⟩ := quiet_of_exec hcall ok
    exact .quiet hcall hnotary hreaches
  cases call <;> simp only [Call.quiet, not_true_eq_false] at hcall <;>
    simp only [exec, Tx.answer_ok] at ok <;> obtain ⟨a, ok, -⟩ := ok
  case initializeContract admin signers threshold =>
    unfold initializeContract at ok
    simp only [Tx.bind_read_ok, Tx.bind_require_ok] at ok
    obtain ⟨-, ok⟩ := ok
    rw [Tx.bind_ok] at ok
    obtain ⟨⟨⟩, s₁, hset, ok⟩ := ok
    obtain ⟨hpos, hnodup, hepoch, rfl⟩ := applySigners_ok hset
    simp only [Tx.bind_modify_ok, Tx.modify_ok, Prod.mk.injEq] at ok
    obtain ⟨-, rfl⟩ := ok
    exact .newSet rfl hnodup hpos hepoch (.inr rfl) rfl rfl
  case setSigners signers threshold =>
    obtain ⟨admin, ok⟩ := of_adminOf ok
    obtain ⟨_, timelock, ok⟩ := of_onTimelock ok
    obtain ⟨hpos, hnodup, hepoch, rfl⟩ := applySigners_ok ok
    exact .newSet rfl hnodup hpos hepoch (.inl rfl) rfl rfl
  case revokeAnchor sourceChainId root =>
    obtain ⟨admin, ok⟩ := of_requireAdmin ok
    simp only [Tx.bind_read_ok, Tx.bind_expect_ok, Tx.bind_require_ok, Tx.bind_lift_ok,
      Check.add_ok, Tx.bind_modify_ok, Tx.modify_ok, Prod.mk.injEq] at ok
    obtain ⟨record, hrecord, -, _, ⟨hgen, rfl⟩, -, rfl⟩ := ok
    exact .revoked hrecord hgen rfl rfl
  case resetLatestSeq sourceChainId seq =>
    obtain ⟨admin, ok⟩ := of_adminOf ok
    rw [Tx.bind_read_ok] at ok
    obtain ⟨_, timelock, ok⟩ := of_onTimelock ok
    simp only [Tx.bind_modify_ok, Tx.modify_ok, Prod.mk.injEq] at ok
    obtain ⟨-, rfl⟩ := ok
    exact .latestReset rfl rfl
  case setAnchorDelay sourceChainId delay =>
    obtain ⟨admin, ok⟩ := of_adminOf ok
    rw [Tx.bind_read_ok] at ok
    obtain ⟨_, timelock, ok⟩ := of_onTimelock ok
    simp only [Tx.bind_require_ok, Tx.bind_modify_ok, Tx.modify_ok, Prod.mk.injEq] at ok
    obtain ⟨hbound, -, rfl⟩ := ok
    exact .delaySet hbound rfl rfl
  case setMonotonic monotonic =>
    obtain ⟨admin, ok⟩ := of_adminOf ok
    obtain ⟨_, timelock, ok⟩ := of_onTimelock ok
    simp only [Tx.bind_modify_ok, Tx.modify_ok, Prod.mk.injEq] at ok
    obtain ⟨-, rfl⟩ := ok
    exact .monotonicSet rfl rfl
  case anchor signer sourceChainId root ledgerSeq => exact step_of_anchor ok

end RootAnchor
end ProofBridge
