import ProofBridge.AgentAccount.Announcements

/-!
# What one call does to the brake

The inversion every result about guard rails and announcements goes through: an accepted call leaves
the brake alone, spends the row it had to announce, charges a rail's bucket, or is one of the four
that write rails and rows.
-/

namespace ProofBridge
namespace AgentAccount

open ContractLib

variable {Y : Type} {N : Neighbors Y} {H : AccountHost} {env : Env} {c c' : Chain Y} {s s' : State}
  {scope : Scope} {action : Symbol} {adId : AdId}

/-- The rows a loosened or disarmed rail takes with it. -/
def Cleared (adId : AdId) (scope : Scope) (action : Symbol) : Prop :=
  (scope = .ad adId ∨ scope = .account) ∧ action ∈ actionsFor scope

/-- Nothing stored is lost but what a loosened or disarmed rail takes with it. -/
def ClearedRows (adId : AdId) (s s' : State) : Prop :=
  ∀ scope action, (Cleared adId scope action → s'.row scope action = none) ∧
    (¬Cleared adId scope action → s'.row scope action = s.row scope action)

/-- The calls that write rails or rows of their own. -/
def Call.writesBrake : Call → Bool
  | .setGuardRail .. | .disarmClosedAd .. | .schedule .. | .cancel .. => true
  | _ => false

/-- The escrow functions that take from an ad or re-point it. -/
def extractive (fnName : Symbol) : Bool :=
  fnName ∈ ["withdraw_from_ad", "close_ad", "lock_for_order", "set_settlement_signer"]

/-- A call of an extractive function names an ad that carries no rail. -/
def Call.Unguarded (s : State) : Call → Prop
  | .call _ fnName args _ _ => extractive fnName = true →
      ∃ adId amount, decodeAdCall fnName args = .ok (adId, amount) ∧ s.isGuarded adId = false
  | _ => True

/-- What an accepted call does to the rails, the roster and the stored rows. -/
inductive BrakeStep (H : AccountHost) (env : Env) (s s' : State) : Call → Prop
  | kept {call : Call} (hcall : call.writesBrake = false) (hnone : call.announcement s = none)
      (hopen : call.Unguarded s) (hrails : s'.rails = s.rails) (hrows : s'.schedules = s.schedules) : BrakeStep H env s s' call
  | spent {call : Call} {scope : Scope} {action : Symbol} {args : List Value}
      (hcall : call.writesBrake = false)
      (hann : call.announcement s = some (scope, action, args))
      (hspendable : Spendable H env s scope action args) (hrails : s'.rails = s.rails)
      (hrows : s'.schedules = s.schedules.remove (scope, action)) : BrakeStep H env s s' call
  | charged {target : Address} {fnName : Symbol} {args : List Value}
      {pay : Option (Address × U128)} {approvals : List Approval} {adId : AdId} {amount : ℕ}
      {g : GuardRail} {bucket : Bucket}
      (hfn : fnName = "withdraw_from_ad" ∨ fnName = "lock_for_order")
      (hdecode : decodeAdCall fnName args = .ok (adId, amount))
      (hnone : escrowAnnouncement s fnName args = none) (hguarded : s.isGuarded adId = true)
      (hg : s.guardRails.get? adId = some g) (hthreshold : amount ≤ g.threshold.toNat)
      (hspend : trySpend g.rate g.bucket amount env.timestamp = some bucket)
      (hrails : s'.rails = (s.guardRails.set adId { g with bucket }, s.guardedAds))
      (hrows : s'.schedules = s.schedules) :
      BrakeStep H env s s' (.call target fnName args pay approvals)
  | scheduled {scope : Scope} {action : Symbol} {args args' : List Value} {delay window : ℕ}
      (hterms : scheduleTerms scope action args s = .ok (args', delay, window))
      (hrails : s'.rails = s.rails)
      (hrows : s'.schedules = s.schedules.set (scope, action) {
        commitment := H.argsCommitment args'
        readyAt := env.now + delay
        expiresAt := env.now + delay + window }) :
      BrakeStep H env s s' (.schedule scope action args)
  | cancelled {scope : Scope} {action : Symbol} (hrails : s'.rails = s.rails)
      (hrows : s'.schedules = s.schedules.remove (scope, action)) :
      BrakeStep H env s s' (.cancel scope action)
  | armed {adId : AdId} {g armed : GuardRail} (hbounds : checkGuardBounds g = .ok ())
      (hfound : ¬(s.guardRails.get? adId = none ∧ s.isGuarded adId = true))
      (htight : loosens (s.guardRails.get? adId) (some g) = false)
      (harmed : armed = settleRail (s.guardRails.get? adId) g env.timestamp)
      (hrails : s'.rails = (s.putGuardRail adId armed).rails)
      (hrows : ∀ scope action, s'.row scope action
        = if action ∈ actionsFor scope then
            (s.row scope action).map (retimed env s s' adId armed scope)
          else s.row scope action) :
      BrakeStep H env s s' (.setGuardRail adId (some g))
  | loosened {adId : AdId} {g armed : GuardRail} (hbounds : checkGuardBounds g = .ok ())
      (hloosens : loosens (s.guardRails.get? adId) (some g) = true)
      (hspendable : Spendable H env s (.ad adId) "set_guard_rail" (guardRailArgs adId (some g)))
      (harmed : armed = settleRail (s.guardRails.get? adId) g env.timestamp)
      (hrails : s'.rails = (s.putGuardRail adId armed).rails)
      (hrows : ClearedRows adId s s') :
      BrakeStep H env s s' (.setGuardRail adId (some g))
  | disarmed {adId : AdId}
      (hspendable : loosens (s.guardRails.get? adId) none = true →
        Spendable H env s (.ad adId) "set_guard_rail" (guardRailArgs adId none))
      (hfound : ¬(s.guardRails.get? adId = none ∧ s.isGuarded adId = true))
      (hrails : s'.rails = (s.removeGuardRail adId).rails) (hrows : ClearedRows adId s s') :
      BrakeStep H env s s' (.setGuardRail adId none)
  | disarmedClosed {escrow : Address} {adId : AdId} {t t' : ℕ × ℕ}
      (hguarded : s.isGuarded adId = true) (hbefore : s.timelockWithout none = .ok t)
      (hafter : s.timelockWithout (some adId) = .ok t') (hkept : ¬(t'.1 < t.1 ∨ t.2 < t'.2))
      (hrails : s'.rails = (s.removeGuardRail adId).rails) (hrows : ClearedRows adId s s') :
      BrakeStep H env s s' (.disarmClosedAd escrow adId)

/-! ## Calls that leave the brake alone -/

/-- The rails, the roster and the stored rows. -/
def Chain.brake (c : Chain Y) : (Map AdId GuardRail × List AdId) × Map (Scope × Symbol) Schedule :=
  (c.state.rails, c.state.schedules)

theorem frames_checkContexts {ν : Type} {g : Chain Y → ν} {targets : List Address} {p : AgentPolicy}
    {contexts : List Context}
    (hg : ∀ c volumes, g { c with state := { c.state with volumes } } = g c) :
    Tx.Frames g (checkContexts H env targets p contexts) := by
  induction contexts generalizing p with
  | nil => exact .pure
  | cons ctx rest ih =>
    cases ctx with
    | other =>
      intro c r ok
      cases ok
    | contract ctx =>
      refine .bind ?_ fun _ => ih
      exact .bind .require fun _ => .bind .require fun _ => .bind .lift fun _ =>
        .bind .require fun _ => .bind .require fun _ => .bind .expect fun _ =>
        .bind .require fun _ => .bind .require fun _ => .bind .lift fun _ =>
        .bind .require fun _ => .bind .require fun _ => .bind .read fun _ =>
        .bind .expect fun _ => .bind .expect fun _ => .bind .expect fun _ =>
        .bind (.modify fun c => hg c _) fun _ => .pure

theorem kept_of_frames {call : Call} {x : Tx AccountError (Chain Y) Ret} {r : Ret}
    (hcall : call.writesBrake = false) (hnone : call.announcement c.state = none)
    (hopen : call.Unguarded c.state) (hframes : Tx.Frames Chain.brake x) (ok : x c = .ok (r, c')) :
    BrakeStep H env c.state c'.state call := by
  obtain ⟨hrails, hrows⟩ := Prod.mk.inj (hframes _ _ ok)
  exact .kept hcall hnone hopen hrails hrows

theorem of_requireOwner {α : Type} {f : Unit → Tx AccountError (Chain Y) α} {r : α × Chain Y}
    (ok : (requireOwner env >>= f) c = .ok r) : f () c = .ok r := by
  obtain ⟨⟨⟩, c₁, hc₁, ok⟩ := (frames_requireOwner (g := id)).rest ok
  rw [id, id] at hc₁
  exact hc₁ ▸ ok

theorem of_requireTarget {α : Type} {target : Address} {f : Unit → Tx AccountError (Chain Y) α}
    {r : α × Chain Y} (ok : (requireTarget target >>= f) c = .ok r) : f () c = .ok r := by
  obtain ⟨⟨⟩, c₁, hc₁, ok⟩ := (frames_requireTarget (g := id)).rest ok
  rw [id, id] at hc₁
  exact hc₁ ▸ ok

/-- The account's own calls: their announcement spent where they need one, and the rest framed. -/
theorem step_of_spendIf {α : Type} {call : Call} {loosens : Bool} {args : List Value}
    {f : Unit → Tx AccountError (Chain Y) α} {r : α} (hcall : call.writesBrake = false)
    (hann : call.announcement c.state = accountAnnouncement c.state loosens action args)
    (hopen : call.Unguarded c.state) (hrest : Tx.Frames Chain.brake (f ()))
    (ok : (spendIf H env loosens action args >>= f) c = .ok (r, c')) :
    BrakeStep H env c.state c'.state call := by
  obtain ⟨⟨⟩, c₁, hspend, ok⟩ := Tx.bind_ok.mp ok
  obtain ⟨hrails, hrows⟩ := Prod.mk.inj (hrest _ _ ok)
  rcases spendIf_ok hspend with ⟨hnone, rfl⟩ | ⟨hsome, hspendable, rfl⟩
  · exact .kept hcall (hann.trans hnone) hopen hrails hrows
  · exact .spent hcall (hann.trans hsome) hspendable hrails hrows

theorem setTargets_brake {targets : List Address} (ok : setTargets H env targets c = .ok ((), c')) :
    BrakeStep H env c.state c'.state (.setTargets targets) := by
  have hrest := of_requireOwner ok
  rw [Tx.bind_read_ok] at hrest
  refine step_of_spendIf rfl rfl trivial ?_ hrest
  exact .bind .lift fun _ => .bind (.modify fun _ => rfl) fun _ => .modify fun _ => rfl

theorem setAccountLimit_brake {token : BytesN32} {limit : Limit}
    (ok : setAccountLimit H env token limit c = .ok ((), c')) :
    BrakeStep H env c.state c'.state (.setAccountLimit token limit) := by
  have hrest := of_requireOwner ok
  rw [Tx.bind_lift_ok] at hrest
  obtain ⟨⟨⟩, -, hrest⟩ := hrest
  rw [Tx.bind_read_ok] at hrest
  refine step_of_spendIf rfl rfl trivial ?_ hrest
  exact .bind (.modify fun _ => rfl) fun _ => .modify fun _ => rfl

theorem upgrade_brake {newWasmHash : BytesN32} (ok : upgrade H env newWasmHash c = .ok ((), c')) :
    BrakeStep H env c.state c'.state (.upgrade newWasmHash) := by
  have hrest := of_requireOwner ok
  refine step_of_spendIf rfl rfl trivial ?_ hrest
  exact .bind (.modify fun _ => rfl) fun _ => .modify fun _ => rfl

theorem sweep_brake {token payee : Address} {amount : U128}
    (ok : sweep N H env token payee amount c = .ok ((), c')) :
    BrakeStep H env c.state c'.state (.sweep token payee amount) := by
  have hrest := of_requireOwner ok
  refine step_of_spendIf rfl rfl trivial ?_ hrest
  exact .bind .lift fun _ => .bind .read fun _ => .bind .expectTrap fun _ => .modify fun _ => rfl

/-- A policy write spends its announcement exactly where it is no tightening and an ad is guarded. -/
theorem settlePolicy_ok {agentId : BytesN32} {next p : AgentPolicy}
    (ok : settlePolicy H env agentId next c = .ok (p, c')) :
    (accountAnnouncement c.state (!tightensPolicy c.state agentId next) "set_policy"
        (policyArgs agentId next) = none ∧ c' = c ∧
      (p = next ∨ ∃ cur, c.state.policies.get? agentId = some cur ∧
        isPolicyTightening cur next = true ∧ p = carryBuckets cur next env.timestamp)) ∨
    (accountAnnouncement c.state (!tightensPolicy c.state agentId next) "set_policy"
        (policyArgs agentId next) = some (.account, "set_policy", policyArgs agentId next) ∧
      Spendable H env c.state .account "set_policy" (policyArgs agentId next) ∧
      c' = { c with state := c.state.clearSchedule .account "set_policy" } ∧ p = next) := by
  unfold settlePolicy at ok
  rw [Tx.bind_read_ok] at ok
  unfold accountAnnouncement tightensPolicy
  cases hguarded : c.state.anyGuarded with
  | false =>
    rw [hguarded] at ok
    obtain ⟨rfl, rfl⟩ := Prod.mk.inj (Tx.pure_ok.mp ok)
    exact .inl ⟨rfl, rfl, .inl rfl⟩
  | true =>
    rw [hguarded, if_pos rfl] at ok
    cases hfilter : (c.state.policies.get? agentId).filter fun cur => isPolicyTightening cur next with
    | some cur =>
      rw [hfilter] at ok
      obtain ⟨rfl, rfl⟩ := Prod.mk.inj (Tx.pure_ok.mp ok)
      obtain ⟨hcur, htight⟩ := Option.filter_eq_some_iff.mp hfilter
      exact .inl ⟨rfl, rfl, .inr ⟨cur, hcur, htight, rfl⟩⟩
    | none =>
      rw [hfilter] at ok
      obtain ⟨⟨⟩, c₁, hspend, ok⟩ := Tx.bind_ok.mp ok
      obtain ⟨rfl, rfl⟩ := Prod.mk.inj (Tx.pure_ok.mp ok)
      obtain ⟨hspendable, rfl⟩ := spend_ok hspend
      exact .inr ⟨rfl, hspendable, rfl, rfl⟩

theorem setPolicy_brake {agentId : BytesN32} {allowedAction : Symbol} {adTokens : List TokenLimit}
    {orderTokens : List BytesN32} {validUntil : U64} {settlementSigner : BytesN32}
    {adScope : Option (List AdId)}
    (ok : setPolicy H env agentId allowedAction adTokens orderTokens validUntil settlementSigner
      adScope c = .ok ((), c')) :
    BrakeStep H env c.state c'.state (.setPolicy agentId allowedAction adTokens orderTokens
      validUntil settlementSigner adScope) := by
  have hrest := of_requireOwner ok
  simp only [Tx.bind_require_ok, Tx.bind_read_ok, Tx.bind_lift_ok] at hrest
  obtain ⟨-, -, ⟨⟩, -, hrest⟩ := hrest
  obtain ⟨p, c₁, hsettle, hrest⟩ := Tx.bind_ok.mp hrest
  simp only [Tx.bind_modify_ok, Tx.modify_ok, Prod.mk.injEq, true_and] at hrest
  obtain rfl := hrest
  rcases settlePolicy_ok hsettle with ⟨hnone, rfl, -⟩ | ⟨hsome, hspendable, rfl, -⟩
  · exact .kept rfl hnone trivial rfl rfl
  · exact .spent rfl hsome hspendable rfl rfl

/-! ## The owner's escrow calls -/

theorem isGuarded_anyGuarded (h : s.isGuarded adId = true) : s.anyGuarded = true := by
  unfold State.anyGuarded
  unfold State.isGuarded at h
  cases hroster : s.guardedAds with
  | nil =>
    rw [hroster] at h
    exact absurd (of_decide_eq_true h) List.not_mem_nil
  | cons a ads => rfl

/-- What the account lets through `call`, and at what price. -/
theorem checkOwnerCall_ok {target : Address} {fnName : Symbol} {args : List Value}
    {pay : Option (Address × U128)} {approvals : List Approval}
    (ok : checkOwnerCall H env fnName args c = .ok ((), c')) :
    BrakeStep H env c.state c'.state (.call target fnName args pay approvals) ∧
      c'.outside = c.outside := by
  unfold checkOwnerCall at ok
  simp only [Tx.bind_require_ok, Tx.bind_read_ok, Tx.ite_apply] at ok
  obtain ⟨-, ok⟩ := ok
  have hann : Call.announcement c.state (.call target fnName args pay approvals)
      = escrowAnnouncement c.state fnName args := rfl
  split at ok
  · next hresume =>
    subst hresume
    rw [Tx.bind_lift_ok] at ok
    obtain ⟨⟨⟩, -, ok⟩ := ok
    have hresume : escrowAnnouncement c.state "resume_settlement" args
        = accountAnnouncement c.state true "resume_settlement" args := by
      unfold escrowAnnouncement accountAnnouncement
      rw [if_pos rfl, Bool.and_true]
    rcases spendIf_ok ok with ⟨hnone, rfl⟩ | ⟨hsome, hspendable, rfl⟩
    · refine ⟨.kept rfl (hresume.trans hnone) (fun hext => ?_) rfl rfl, rfl⟩
      exact absurd hext (by decide)
    · exact ⟨.spent rfl (hresume.trans hsome) hspendable rfl rfl, rfl⟩
  · next hresume =>
    split at ok
    · next hother =>
      obtain ⟨-, hc⟩ := Tx.require_ok.mp ok
      obtain ⟨-, rfl⟩ := Prod.mk.inj hc
      have hnone : escrowAnnouncement c'.state fnName args = none := by
        unfold escrowAnnouncement
        rw [if_neg hresume, if_neg hother]
      refine ⟨.kept rfl hnone (fun hext => ?_) rfl rfl, rfl⟩
      exact absurd (of_decide_eq_true hext) hother
    · next hnamed =>
      have hnamed := not_not.mp hnamed
      rw [Tx.bind_lift_ok] at ok
      obtain ⟨⟨adId, amount⟩, hdecode, ok⟩ := ok
      rw [Tx.ite_apply] at ok
      split at ok
      · next hguarded =>
        unfold checkGuardedCall at ok
        simp only [Tx.bind_read_ok, Tx.bind_expect_ok, Tx.ite_apply] at ok
        obtain ⟨g, hg, ok⟩ := ok
        have hunfold : escrowAnnouncement c.state fnName args
            = if alwaysAnnounced fnName ∨ g.threshold.toNat < amount then
                some (.ad adId, fnName, args)
              else none := by
          unfold escrowAnnouncement
          simp only [if_neg hresume, if_pos hnamed, hdecode, if_pos hguarded, hg]
        have halways : (alwaysAnnounced fnName = true ∨ g.threshold.toNat < amount) ↔
            (fnName = "close_ad" ∨ fnName = "set_settlement_signer" ∨
              g.threshold.toNat < amount) := by
          unfold alwaysAnnounced
          rw [Bool.or_eq_true, decide_eq_true_eq, decide_eq_true_eq, or_assoc]
        simp only [halways] at hunfold
        split at ok
        · next hannounced =>
          obtain ⟨hspendable, rfl⟩ := spend_ok ok
          rw [if_pos hannounced] at hunfold
          exact ⟨.spent rfl (hann.trans hunfold) hspendable rfl rfl, rfl⟩
        · next hfree =>
          rw [if_neg hfree] at hunfold
          rw [not_or, not_or] at hfree
          obtain ⟨hclose, hsigner, hthreshold⟩ := hfree
          simp only [Tx.bind_expect_ok, Tx.modify_ok, Prod.mk.injEq, true_and] at ok
          obtain ⟨bucket, hspend, rfl⟩ := ok
          have hfn : fnName = "withdraw_from_ad" ∨ fnName = "lock_for_order" := by
            simp only [List.mem_cons, List.not_mem_nil, or_false] at hnamed
            tauto
          have hrails : (c.state.putGuardRail adId { g with bucket }).rails
              = (c.state.guardRails.set adId { g with bucket }, c.state.guardedAds) := by
            have hmem : adId ∈ c.state.guardedAds := of_decide_eq_true hguarded
            unfold State.putGuardRail State.rails
            rw [if_pos hmem]
          exact ⟨.charged hfn hdecode hunfold hguarded hg (Nat.le_of_not_lt hthreshold) hspend
            hrails rfl, rfl⟩
      · next hguarded =>
        have hnone : escrowAnnouncement c.state fnName args = none := by
          unfold escrowAnnouncement
          simp only [if_neg hresume, if_pos hnamed, hdecode, if_neg hguarded]
        obtain ⟨-, rfl⟩ := Prod.mk.inj (Tx.pure_ok.mp ok)
        refine ⟨.kept rfl (hann.trans hnone) (fun _ => ⟨adId, amount, hdecode, ?_⟩) rfl rfl, rfl⟩
        exact Bool.not_eq_true _ ▸ hguarded

theorem call_brake {target : Address} {fnName : Symbol} {args : List Value}
    {pay : Option (Address × U128)} {approvals : List Approval} {v : Value}
    (ok : call N H env target fnName args pay approvals c = .ok (v, c')) :
    BrakeStep H env c.state c'.state (.call target fnName args pay approvals) := by
  have hrest := of_requireTarget (of_requireOwner ok)
  obtain ⟨⟨⟩, c₁, hcheck, hrest⟩ := Tx.bind_ok.mp hrest
  have hstate : c'.state = c₁.state := frames_callWith (g := Chain.state) (fun _ _ => rfl) _ _ hrest
  rw [hstate]
  exact (checkOwnerCall_ok hcheck).1

/-! ## The calls that write rails and rows -/

theorem clearedRows_clear {s₀ : State} (hrows : ∀ scope action,
      ¬Cleared adId scope action → s₀.row scope action = s.row scope action) :
    ClearedRows adId s (s₀.clearAllSchedules adId) := by
  intro scope action
  rw [row_clearAllSchedules]
  constructor
  · intro hcleared
    exact if_pos hcleared
  · intro hkept
    exact (if_neg hkept).trans (hrows scope action hkept)

/-- An event is no part of the brake. -/
theorem rails_published {e : List AccountEvent} : ({ s with published := e } : State).rails = s.rails :=
  rfl

theorem clearedRows_published {s₀ : State} {e : List AccountEvent} (h : ClearedRows adId s s₀) :
    ClearedRows adId s { s₀ with published := e } := h

theorem disarm_ok {s₀ : State} (hrails : c.state.rails = s₀.rails)
    (hrows : ∀ scope action, ¬Cleared adId scope action →
      c.state.row scope action = s₀.row scope action)
    (ok : disarm adId c = .ok ((), c')) :
    c'.state.rails = (s₀.removeGuardRail adId).rails ∧ ClearedRows adId s₀ c'.state := by
  simp only [disarm, Tx.bind_modify_ok, Tx.modify_ok, Prod.mk.injEq, true_and] at ok
  obtain rfl := ok
  obtain ⟨hguards, hroster⟩ := Prod.mk.inj hrails
  constructor
  · rw [rails_published, rails_clearAllSchedules]
    unfold State.removeGuardRail State.rails
    rw [hguards, hroster]
  · apply clearedRows_published
    exact clearedRows_clear hrows

theorem spendRail_ok {guardRail : Option GuardRail}
    (ok : spendRail H env adId (c.state.guardRails.get? adId) guardRail c = .ok ((), c')) :
    (loosens (c.state.guardRails.get? adId) guardRail = true →
        Spendable H env c.state (.ad adId) "set_guard_rail" (guardRailArgs adId guardRail)) ∧
      (loosens (c.state.guardRails.get? adId) guardRail = false → c' = c) ∧
      c'.state.rails = c.state.rails ∧
      ∀ scope action, ¬Cleared adId scope action →
        c'.state.row scope action = c.state.row scope action := by
  unfold spendRail at ok
  split at ok
  · next hloosens =>
    obtain ⟨hspendable, rfl⟩ := spend_ok ok
    refine ⟨fun _ => hspendable, fun h => ?_, rfl, ?_⟩
    · rw [hloosens] at h
      cases h
    · intro scope action hkept
      show (c.state.clearSchedule (.ad adId) "set_guard_rail").row scope action = _
      rw [row_clearSchedule, if_neg]
      rintro ⟨rfl, rfl⟩
      have hlisted : "set_guard_rail" ∈ adActions := by decide
      exact hkept ⟨.inl rfl, hlisted⟩
  · next hloosens =>
    obtain ⟨-, rfl⟩ := Prod.mk.inj (Tx.pure_ok.mp ok)
    exact ⟨fun h => absurd h hloosens, fun _ => rfl, rfl, fun _ _ _ => rfl⟩

theorem putGuardRail_congr {s₀ : State} {g : GuardRail} (h : s.rails = s₀.rails) :
    (s.putGuardRail adId g).rails = (s₀.putGuardRail adId g).rails := by
  obtain ⟨hguards, hroster⟩ := Prod.mk.inj h
  unfold State.putGuardRail State.rails
  rw [hguards, hroster]

theorem setGuardRail_brake {guardRail : Option GuardRail}
    (ok : setGuardRail H env adId guardRail c = .ok ((), c')) :
    BrakeStep H env c.state c'.state (.setGuardRail adId guardRail) := by
  have hrest := of_requireOwner ok
  rw [Tx.bind_lift_ok] at hrest
  obtain ⟨⟨⟩, hbounds, hrest⟩ := hrest
  rw [Tx.bind_read_ok, Tx.bind_require_ok] at hrest
  obtain ⟨hfound, hrest⟩ := hrest
  obtain ⟨⟨⟩, c₁, hspend, hrest⟩ := Tx.bind_ok.mp hrest
  obtain ⟨hspendable, hsame, hrails, hrows⟩ := spendRail_ok hspend
  cases guardRail with
  | none =>
    obtain ⟨hrails', hrows'⟩ := disarm_ok hrails hrows hrest
    exact .disarmed hspendable hfound hrails' hrows'
  | some g =>
    simp only [arm, Tx.bind_require_ok, Tx.bind_read_ok, Tx.bind_modify_ok] at hrest
    obtain ⟨-, -, -, hrest⟩ := hrest
    obtain ⟨⟨⟩, c₂, hsettle, hrest⟩ := Tx.bind_ok.mp hrest
    obtain ⟨-, rfl⟩ := Prod.mk.inj (Tx.modify_ok.mp hrest)
    unfold settleSchedules at hsettle
    split at hsettle
    · next hloosens =>
      obtain ⟨-, rfl⟩ := Prod.mk.inj (Tx.modify_ok.mp hsettle)
      refine .loosened hbounds hloosens (hspendable hloosens) rfl ?_ ?_
      · rw [rails_published, rails_clearAllSchedules]
        exact putGuardRail_congr hrails
      · apply clearedRows_published
        exact clearedRows_clear hrows
    · next htight =>
      rw [Bool.not_eq_true] at htight
      obtain rfl := hsame htight
      have hretimed : retime env adId _ _ c₁.state.timelockOr _ = .ok ((), c₂) := hsettle
      obtain ⟨hrails', hrows'⟩ := retime_ok timelockOr_le hretimed
      refine .armed hbounds hfound htight rfl hrails' fun scope action => ?_
      refine (hrows' scope action).trans ?_
      cases scope <;> rfl

theorem disarmClosedAd_brake {escrow : Address}
    (ok : disarmClosedAd N H env escrow adId c = .ok ((), c')) :
    BrakeStep H env c.state c'.state (.disarmClosedAd escrow adId) := by
  have hrest := of_requireTarget (of_requireOwner ok)
  simp only [Tx.bind_read_ok, Tx.bind_require_ok, Tx.bind_lift_ok] at hrest
  obtain ⟨hguarded, -, -, -, t, ht, t', ht', hkept, hrest⟩ := hrest
  obtain ⟨hrails, hrows⟩ := disarm_ok rfl (fun _ _ _ => rfl) hrest
  exact .disarmedClosed hguarded ht ht' hkept hrails hrows

theorem schedule_brake {args : List Value} (ok : schedule H env scope action args c = .ok ((), c')) :
    BrakeStep H env c.state c'.state (.schedule scope action args) := by
  have hrest := of_requireOwner ok
  simp only [Tx.bind_read_ok, Tx.bind_lift_ok, Tx.bind_require_ok, Tx.bind_modify_ok, Tx.modify_ok,
    Prod.mk.injEq, true_and] at hrest
  obtain ⟨⟨args', delay, window⟩, hterms, -, -, rfl⟩ := hrest
  exact .scheduled hterms rfl rfl

theorem cancel_brake (ok : cancel env scope action c = .ok ((), c')) :
    BrakeStep H env c.state c'.state (.cancel scope action) := by
  have hrest := of_requireOwner ok
  simp only [Tx.bind_read_ok, Tx.bind_require_ok, Tx.bind_modify_ok, Tx.modify_ok,
    Prod.mk.injEq, true_and] at hrest
  obtain ⟨-, rfl⟩ := hrest
  exact .cancelled rfl rfl

/-- What any accepted call does to the brake. -/
theorem brakeStep_of_exec {call : Call} {r : Ret} (ok : exec N H env call c = .ok (r, c')) :
    BrakeStep H env c.state c'.state call := by
  cases call
  case checkAuth =>
    refine kept_of_frames rfl rfl trivial (.answer ?_) ok
    exact .bind .lift fun _ => .bind .read fun _ => .bind .expect fun _ => .bind .require fun _ =>
      .bind .require fun _ => .bind .require fun _ =>
      .bind (frames_checkContexts fun _ _ => rfl) fun _ =>
      .modify fun _ => rfl
  case setTargets =>
    obtain ⟨⟨⟩, hok, rfl⟩ := Tx.answer_ok.mp ok
    exact setTargets_brake hok
  case setPolicy =>
    obtain ⟨⟨⟩, hok, rfl⟩ := Tx.answer_ok.mp ok
    exact setPolicy_brake hok
  case setAccountLimit =>
    obtain ⟨⟨⟩, hok, rfl⟩ := Tx.answer_ok.mp ok
    exact setAccountLimit_brake hok
  case setGuardRail =>
    obtain ⟨⟨⟩, hok, rfl⟩ := Tx.answer_ok.mp ok
    exact setGuardRail_brake hok
  case disarmClosedAd =>
    obtain ⟨⟨⟩, hok, rfl⟩ := Tx.answer_ok.mp ok
    exact disarmClosedAd_brake hok
  case schedule =>
    obtain ⟨⟨⟩, hok, rfl⟩ := Tx.answer_ok.mp ok
    exact schedule_brake hok
  case cancel =>
    obtain ⟨⟨⟩, hok, rfl⟩ := Tx.answer_ok.mp ok
    exact cancel_brake hok
  case revokeAgent =>
    refine kept_of_frames rfl rfl trivial (.answer ?_) ok
    exact .bind frames_requireOwner fun _ => .bind .read fun _ => .bind .expect fun _ =>
      .ite .pure (.bind (.modify fun _ => rfl) fun _ => .modify fun _ => rfl)
  case upgrade =>
    obtain ⟨⟨⟩, hok, rfl⟩ := Tx.answer_ok.mp ok
    exact upgrade_brake hok
  case migrate =>
    refine kept_of_frames rfl rfl trivial (.answer ?_) ok
    exact .bind frames_requireOwner fun _ => .bind .read fun _ => .bind .require fun _ =>
      .bind (.modify fun _ => rfl) fun _ => .bind (.modify fun _ => rfl) fun _ => .pure
  case createAd =>
    refine kept_of_frames rfl rfl trivial (.answer ?_) ok
    exact .bind frames_requireOwner fun _ => .bind frames_requireTarget fun _ =>
      .bind .lift fun _ => frames_payAndCall fun _ _ => rfl
  case fundAd =>
    refine kept_of_frames rfl rfl trivial (.answer ?_) ok
    exact .bind frames_requireOwner fun _ => .bind frames_requireTarget fun _ =>
      .bind .view fun _ => .bind .lift fun _ => frames_payAndCall fun _ _ => rfl
  case call =>
    obtain ⟨v, hok, rfl⟩ := Tx.answer_ok.mp ok
    exact call_brake hok
  case sweep =>
    obtain ⟨⟨⟩, hok, rfl⟩ := Tx.answer_ok.mp ok
    exact sweep_brake hok

end AgentAccount
end ProofBridge
