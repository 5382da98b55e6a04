import ProofBridge.Disputes.Windows
import ProofBridge.RootAnchor.Model

/-!
# The instants of one order

From its lock on, every instant the escrow and its modules compute of an order is the one the natural
numbers have: no sum saturates, no difference is cut, no sum overflows. Only a ruling, made inside
the window of the one before, pushes a clock on without bound.
-/

namespace ProofBridge
namespace Disputes

open ContractLib
open AdManager (OrderParams)

variable {R : Type} {O : Outside R} {H : Host} {env : Env} {s s' : Chain R}
  {outside : R → R → Prop}

/-- Every anchor answers within the cap its admin sets a delay under. -/
def Capped (O : Outside R) : Prop :=
  ∀ w anchor chainId delay, O.anchorDelay w anchor chainId = some delay →
    delay.toNat ≤ RootAnchor.MAX_ANCHOR_DELAY

/-- The call rules a dispute. -/
def Call.ruling : Call → Bool
  | .module _ (.resolveDispute ..) => true
  | _ => false

/-- The last second a clock of the order can name, where rulings are made before `limit`. -/
def latest (params : OrderParams) (t : RouteTiming) (limit : ℕ) : ℕ :=
  max limit (params.deadline.toNat + MAX_CHALLENGE_PERIOD) + t.buffer

/-- The lock's reading of the anchor, and how late the order's dispute can end. -/
structure Dated (params : OrderParams) (orderHash : BytesN32) (t : RouteTiming)
    (delay limit : ℕ) (s : Chain R) : Prop where
  anchorDelay : (s.core.ledger.getOrder orderHash).anchorDelay = delay
  periods : ∀ id state, s.core.outside.modules.get? id = some state → state.Periods
  late : s.core.ledger.status orderHash = .disputed → ∀ id d,
    s.core.ledger.disputeManagers.get? orderHash = some (.contract id) →
    s.core.outside.record id orderHash = some d → d.challengeDeadline ≤ latest params t limit

/-! ## One call -/

/-- A write that leaves an order other than disputed disputes no order. -/
theorem disputed_before_set {l l' : Ledger} {orderHash k : BytesN32} {rec : OrderRecord}
    (h : l'.orders = l.orders.set orderHash rec) (hrec : rec.status ≠ .disputed)
    (hafter : l'.status k = .disputed) : l.status k = .disputed := by
  rw [Ledger.status_of_set h] at hafter
  split at hafter
  · exact absurd hafter hrec
  · exact hafter

/-- An order becomes disputed by a filing, before its window's end. -/
theorem filed_in_window {X : Type} {O : Outside X} {s s' : AdManager.Chain X} {call : AdManager.Call}
    {ret : AdManager.Ret} (hstep : AdManager.Step O H env s call ret s') {k : BytesN32}
    (hbefore : s.core.ledger.status k ≠ .disputed)
    (hafter : s'.core.ledger.status k = .disputed) :
    ∃ params t, call.params? = some params ∧
      Escrow.requireDisputable env k params.orderChainId params.deadline.toNat s.core = .ok t := by
  have hfilled : ∀ {config params orderHash byEvidence} {s₁ s₂ : AdManager.Chain X},
      AdManager.Filled O H env config params orderHash byEvidence s₁ s₂ →
      s₂.core.ledger.status k = .disputed → s₁.core.ledger.status k = .disputed := by
    intro config params orderHash byEvidence s₁ s₂ hfilled hafter
    obtain ⟨hat, hother⟩ := hfilled.legs
    by_cases heq : k = orderHash
    · subst heq
      have hstatus := congrArg (fun l => l.record.status) hat
      rw [show (AdManager.leg k s₂).record.status = .disputed from hafter] at hstatus
      cases hstatus
    · have hstatus := congrArg (fun l => l.record.status) (hother k heq)
      exact hstatus.symm.trans hafter
  cases hstep with
  | @dispute params filer evidence config orderHash ad amount bond t manager x hconfig hhash had
      hparty hamount hdisputable =>
    by_cases heq : k = orderHash
    · subst heq
      exact ⟨params, t, rfl, hdisputable⟩
    · rw [Ledger.status_of_set (l := s.core.ledger) rfl, if_neg heq] at hafter
      exact absurd hafter hbefore
  | admin hcall hframe =>
    rw [hframe.ledger] at hafter
    exact absurd hafter hbefore
  | lockForOrder =>
    exact absurd (disputed_before_set rfl Status.noConfusion hafter) hbefore
  | unlock hconfig hhash hlive hnullifier htiming hcutoff had hhalt hroot hinputs hproof hspent
      hfill =>
    have hstatus := hfilled hfill hafter
    subst hspent
    exact absurd hstatus hbefore
  | presentSettled hconfig hhash hlive hanchored hproof hfill =>
    exact absurd (hfilled hfill hafter) hbefore
  | claimCancel => exact absurd (disputed_before_set rfl Status.noConfusion hafter) hbefore
  | finalizeDispute hconfig hhash hdisputed hverdict hamount had hend hreached hlocked hpaid =>
    obtain ⟨c, out, ⟨x, claimable, events, rfl⟩, -, rfl⟩ := AdManager.Locks.ruling_frame hpaid
    exact absurd (disputed_before_set rfl Status.noConfusion hafter) hbefore
  | finalizeCancel => exact absurd (disputed_before_set rfl Status.noConfusion hafter) hbefore
  | cancelNeverLocked => exact absurd (disputed_before_set rfl Status.noConfusion hafter) hbefore
  | repinOrder hconfig hhash hopened =>
    refine absurd (disputed_before_set rfl ?_ hafter) hbefore
    show s.core.ledger.status _ ≠ _
    rw [hopened]
    exact Status.noConfusion
  | _ => exact absurd hafter hbefore

section Step

variable {chainId : U128} {params : OrderParams} {orderHash : BytesN32} {t : RouteTiming}
  {delay limit : ℕ}

theorem periods_of_modules {w w' : World R} {id : BytesN32} {state : DisputeManager.State}
    (hmodules : w'.modules = w.modules.set id state) (hstate : state.Periods)
    (h : ∀ id state, w.modules.get? id = some state → state.Periods) :
    ∀ id state, w'.modules.get? id = some state → state.Periods := by
  intro id' state' hget
  rw [hmodules, Map.get?_set] at hget
  split at hget
  · rw [← Option.some.inj hget]
    exact hstate
  · exact h id' state' hget

/-- A module keeps its periods over a call an escrow makes of it. -/
theorem periods_of_moved {id : BytesN32} {call : DisputeManager.Call}
    (hmoved : Moved O H env id call s s') (hcall : call.administrative = false)
    (h : ∀ id state, s.core.outside.modules.get? id = some state → state.Periods) :
    ∀ id state, s'.core.outside.modules.get? id = some state → state.Periods := by
  obtain ⟨hstate, hstep, hmodules⟩ := hmoved
  refine periods_of_modules hmodules ?_ h
  exact (h _ _ hstate).of_params (DisputeManager.params_of_step hstep hcall)

/-- A filing names its order's clocks, and comes before its window's end. -/
theorem Dated.filed (h : Dated params orderHash t delay limit s) {id : BytesN32} {filing : Filing}
    (hmoved : Moved O H env id (.openDispute filing) s s') (horder : filing.orderHash = orderHash)
    (hdeadline : filing.deadline = params.deadline.toNat) (hbuffer : filing.buffer = t.buffer)
    (hnow : env.now < params.deadline.toNat + t.buffer) {d : DisputeRecord}
    (hrecord : s'.core.outside.record id orderHash = some d) :
    d.challengeDeadline ≤ latest params t limit := by
  obtain ⟨hstate, hstep, hmodules⟩ := hmoved
  obtain ⟨d', hopen, hle⟩ := DisputeManager.deadline_of_filing (h.periods _ _ hstate) hstep
  rw [record_of_modules hmodules, if_pos rfl, ← horder, hopen] at hrecord
  obtain rfl := Option.some.inj hrecord
  rw [hdeadline, hbuffer] at hle
  have hlate := le_max_right limit (params.deadline.toNat + MAX_CHALLENGE_PERIOD)
  have hinside : (env.inside H.address).now = env.now := rfl
  rw [hinside] at hle
  unfold latest
  omega

theorem Dated.escrow {call : AdManager.Call} {ret : AdManager.Ret} (hgoing : Ongoing H chainId s)
    (htimed : Timed H chainId params orderHash t s) (h : Dated params orderHash t delay limit s)
    (hsame : ∀ p, call.params? = some p → AdManager.hashOrder H p chainId = .ok orderHash →
      p = params)
    (hstep : AdManager.Step (withModules O H) H env s call ret s') :
    Dated params orderHash t delay limit s' := by
  obtain ⟨hstamp, -⟩ := (AdManager.legStep_of_step hstep orderHash).stamp htimed.locked
  simp only [AdManager.OrderRecord.stamp, Prod.mk.injEq] at hstamp
  have hdelay : (s'.core.ledger.getOrder orderHash).anchorDelay = delay :=
    hstamp.2.2.2.trans h.anchorDelay
  cases touch_of_step hgoing.agreement hstep with
  | apart hcall hmodules hmanagers hdisputed =>
    refine ⟨hdelay, by rw [hmodules]; exact h.periods, fun hstatus id d hmanager hrecord => ?_⟩
    rw [hmanagers] at hmanager
    unfold World.record at hrecord
    rw [hmodules] at hrecord
    exact h.late ((hdisputed _).mp hstatus) id d hmanager hrecord
  | @filed id filing p config t' hcall hparams hconfig hhash htiming hdeadline hbuffer hnew hescrow
      hmoved hmanagers hdisputed =>
    refine ⟨hdelay, periods_of_moved hmoved rfl h.periods, fun hstatus id' d hmanager hrecord => ?_⟩
    by_cases heq : filing.orderHash = orderHash
    · rw [hgoing.chainId _ hconfig, heq] at hhash
      obtain rfl := hsame p hparams hhash
      rw [heq, htimed.timing] at htiming
      obtain rfl := Except.ok.inj htiming
      rw [heq] at hnew
      have hbefore : s.core.ledger.status orderHash ≠ .disputed := by
        rcases hnew with hnew | hnew <;> rw [hnew] <;> exact Status.noConfusion
      obtain ⟨p', t', hp', hdisputable⟩ := filed_in_window hstep hbefore hstatus
      obtain rfl := Option.some.inj (hparams.symm.trans hp')
      obtain ⟨-, htiming', hnow⟩ := Escrow.requireDisputable_ok hdisputable
      rw [htimed.timing] at htiming'
      obtain rfl := Except.ok.inj htiming'
      rw [windowEnd_of_timed htimed] at hnow
      rw [hmanagers, heq, Map.get?_set_self] at hmanager
      cases hmanager
      exact h.filed hmoved heq hdeadline hbuffer (lt_of_lt_of_le hnow (Nat.min_le_left _ _)) hrecord
    · rw [hmanagers, Map.get?_set_ne (Ne.symm heq)] at hmanager
      obtain ⟨hstate, hmodule, hmodules⟩ := hmoved
      rw [record_of_other hstate hmodule hmodules (.inr fun ho => heq (Option.some.inj ho))]
        at hrecord
      exact h.late (((hdisputed _).mp hstatus).resolve_left (Ne.symm heq)) id' d hmanager hrecord
  | @responded id response p config ad hcall hconfig hhash had hparty hbefore hmanager hescrow hmoved
      hmanagers hdisputed =>
    refine ⟨hdelay, periods_of_moved hmoved rfl h.periods, fun hstatus id' d hmanager' hrecord => ?_⟩
    rw [hmanagers] at hmanager'
    have hlate := h.late ((hdisputed _).mp hstatus) id'
    obtain ⟨hstate, hmodule, hmodules⟩ := hmoved
    by_cases heq : id' = id
    · subst heq
      rw [record_of_modules hmodules, if_pos rfl] at hrecord
      have hmap := DisputeManager.deadline_of_response hmodule orderHash
      rw [hrecord] at hmap
      obtain ⟨d₀, hd₀, hsame₀⟩ := Option.map_eq_some_iff.mp hmap.symm
      rw [← hsame₀]
      exact hlate d₀ hmanager' ((record_of_state hstate _).trans hd₀)
    · rw [record_of_other hstate hmodule hmodules (.inl (Ne.symm heq))] at hrecord
      exact hlate d hmanager' hrecord
  | @closed id settlement hcall hbefore hmanager hescrow hmoved hmanagers hdisputed =>
    refine ⟨hdelay, periods_of_moved hmoved rfl h.periods, fun hstatus id' d hmanager' hrecord => ?_⟩
    obtain ⟨hne, hstatus⟩ := (hdisputed _).mp hstatus
    rw [hmanagers] at hmanager'
    obtain ⟨hstate, hmodule, hmodules⟩ := hmoved
    rw [record_of_other hstate hmodule hmodules (.inr fun ho => hne (Option.some.inj ho).symm)]
      at hrecord
    exact h.late hstatus id' d hmanager' hrecord

/-- What a call somebody makes to a module directly did. -/
theorem module_of_exec {id : BytesN32} {call : DisputeManager.Call} {ret : Ret}
    (ok : exec O H env (.module id call) s = .ok (ret, s')) :
    ∃ state ret' c, s.core.outside.modules.get? id = some state ∧
      DisputeManager.exec O.toTokens (hostAt H id) env call
        { state, outside := s.core.outside.rest } = .ok (ret', c) ∧
      s' = { s with core := { s.core with
        outside := { modules := s.core.outside.modules.set id c.state, rest := c.outside } } } := by
  obtain ⟨a, ok, -⟩ := Tx.answer_ok.mp ok
  unfold moduleCall at ok
  split at ok
  · cases ok
  · next state hstate =>
    split at ok
    · next r c hok =>
      cases ok
      exact ⟨state, _, c, hstate, hok, rfl⟩
    · cases ok

theorem Dated.module {id : BytesN32} {call : DisputeManager.Call} {ret : Ret}
    (htimed : Timed H chainId params orderHash t s)
    (h : Dated params orderHash t delay limit s) (hself : env.authorized H.address = false)
    (hlimit : (Call.module id call).ruling = true → env.now < limit)
    (ok : exec O H env (.module id call) s = .ok (ret, s')) :
    Dated params orderHash t delay limit s' := by
  obtain ⟨state, ret', c, hstate, hok, rfl⟩ := module_of_exec ok
  have hperiods := DisputeManager.periods_of_exec (h.periods _ _ hstate) hok
  have hstep := DisputeManager.step_of_exec hok
  refine ⟨h.anchorDelay, periods_of_modules rfl hperiods h.periods,
    fun hstatus id' d hmanager hrecord => ?_⟩
  have hstatus : s.core.ledger.status orderHash = .disputed := hstatus
  obtain ⟨filer, id₀, history, hopen⟩ := htimed.dispute hstatus
  obtain ⟨d₀, hd₀, hescrow₀, hrecorded⟩ := hopen.record
  obtain rfl : id' = id₀ := by
    have hsame := hmanager.symm.trans hopen.manager
    cases hsame
    rfl
  have hlate := h.late hstatus id' d₀ hopen.manager hd₀
  by_cases heq : id' = id
  · subst heq
    rw [record_of_state hstate] at hd₀
    obtain ⟨d', hd', hcase⟩ := DisputeManager.deadline_of_foreign hself hstep hd₀ hescrow₀
    rw [record_of_modules (w := s.core.outside) rfl, if_pos rfl, hd'] at hrecord
    obtain rfl := Option.some.inj hrecord
    rcases hcase with hkept | ⟨⟨outcome, rfl⟩, hruled⟩
    · rw [hkept]
      exact hlate
    · -- a ruling gives the order's buffer again, from when it is made
      have hnow := hlimit rfl
      have hmax := le_max_left limit (params.deadline.toNat + MAX_CHALLENGE_PERIOD)
      have hmax' := le_max_right limit (params.deadline.toNat + MAX_CHALLENGE_PERIOD)
      rw [hruled, hrecorded.orderDeadline, hrecorded.orderBuffer]
      refine Nat.add_le_add_right ?_ _
      exact max_le (hnow.le.trans hmax) ((Nat.le_add_right _ _).trans hmax')
  · rw [record_of_modules (w := s.core.outside) rfl, if_neg heq] at hrecord
    exact h.late hstatus id' d hopen.manager hrecord

theorem Dated.around (h : Dated params orderHash t delay limit s)
    (htimed : Timed H chainId params orderHash t s)
    (hmoved : (system O H outside).outside s s') : Dated params orderHash t delay limit s' := by
  have hmoved' := hmoved
  obtain ⟨w, rfl, hw⟩ := hmoved
  refine ⟨h.anchorDelay, ?_, fun hstatus id d hmanager hrecord => ?_⟩
  · rcases hw with ⟨rest, -, rfl⟩ | ⟨id, hnew, rfl⟩
    · exact h.periods
    · exact periods_of_modules rfl DisputeManager.State.periods_fresh h.periods
  · have hstatus : s.core.ledger.status orderHash = .disputed := hstatus
    obtain ⟨filer, id₀, history, hopen⟩ := htimed.dispute hstatus
    obtain ⟨d₀, hd₀, -⟩ := hopen.record
    obtain rfl : id₀ = id := by
      have hsame := hopen.manager.symm.trans hmanager
      cases hsame
      rfl
    refine h.late hstatus id₀ d hmanager ?_
    rcases hw with ⟨rest, -, rfl⟩ | ⟨id', hnew, rfl⟩
    · exact hrecord
    · rw [record_of_modules (w := s.core.outside) rfl, if_neg] at hrecord
      · exact hrecord
      · rintro rfl
        unfold World.record at hd₀
        rw [hnew] at hd₀
        cases hd₀

end Step

/-! ## From the lock on -/

theorem anchorDelayNow_le (hcapped : Capped O) {chainId : U128} {current : ℕ}
    (h : AdManager.anchorDelayNow (withModules O H) chainId s = .ok current) :
    current ≤ RootAnchor.MAX_ANCHOR_DELAY := by
  unfold AdManager.anchorDelayNow at h
  split at h
  · rw [← Except.ok.inj h]
    exact Nat.zero_le _
  · simp only [Check.bind_ok, Check.expect_ok, Check.pure_ok] at h
    obtain ⟨answer, hanswer, rfl⟩ := h
    exact hcapped _ _ _ _ hanswer

section Runs

variable {chainId : U128} {params : OrderParams} {orderHash : BytesN32} {t : RouteTiming}
  {delay limit : ℕ}

theorem periods_of_run {rest : R} {history : History}
    (run : Run (system O H outside) (start rest) history s) :
    ∀ id state, s.core.outside.modules.get? id = some state → state.Periods := by
  refine run.invariant (I := fun _ s => ∀ id state, s.core.outside.modules.get? id = some state →
    state.Periods) ?_ ?_ ?_
  · intro id state hget
    cases hget
  · rintro history s ⟨env, call⟩ ret s' run h _ ok
    cases call with
    | module id call =>
      obtain ⟨state, ret', c, hstate, hok, rfl⟩ := module_of_exec ok
      exact periods_of_modules rfl (DisputeManager.periods_of_exec (h _ _ hstate) hok) h
    | escrow call =>
      have ok : exec O H env (.escrow call) s = .ok (ret, s') := ok
      cases step_of_exec ok with
      | escrow hstep =>
        cases touch_of_step (agreement_of_run run) hstep with
        | apart hcall hmodules =>
          rw [hmodules]
          exact h
        | filed _ _ _ _ _ _ _ _ _ hmoved => exact periods_of_moved hmoved rfl h
        | responded _ _ _ _ _ _ _ _ hmoved => exact periods_of_moved hmoved rfl h
        | closed _ _ _ _ hmoved => exact periods_of_moved hmoved rfl h
  · rintro history s s' _ h ⟨w, rfl, ⟨rest, -, rfl⟩ | ⟨id, hnew, rfl⟩⟩
    · exact h
    · exact periods_of_modules rfl DisputeManager.State.periods_fresh h

theorem dated_of_run {s₁ : Chain R} {history : History} {known : List OrderParams}
    (hgoing : Ongoing H chainId s₁) (htimed : Timed H chainId params orderHash t s₁)
    (hdated : Dated params orderHash t delay limit s₁)
    (hhash : AdManager.hashOrder H params chainId = .ok orderHash)
    (hfree : AdManager.CollisionFree H chainId known) (hmem : params ∈ known)
    (run : Run (system O H outside) s₁ history s) (hknown : ordersOf history ⊆ known)
    (hrulings : ∀ e ∈ history, e.1.2.ruling = true → e.1.1.now < limit) :
    Dated params orderHash t delay limit s := by
  refine run.invariant (I := fun history s => ordersOf history ⊆ known →
    (∀ e ∈ history, e.1.2.ruling = true → e.1.1.now < limit) →
    Dated params orderHash t delay limit s) (fun _ _ => hdated) ?_ ?_ hknown hrulings
  · rintro history s ⟨env, call⟩ ret s' run ih hself ok hknown hrulings
    have hbefore : ordersOf history ⊆ known := fun p hp => by
      obtain ⟨e, he, hp⟩ := List.mem_filterMap.mp hp
      exact hknown (List.mem_filterMap.mpr ⟨e, List.mem_cons_of_mem _ he, hp⟩)
    have h := ih hbefore fun e he => hrulings e (List.mem_cons_of_mem _ he)
    obtain ⟨hgoing', htimed'⟩ := timed_of_run hgoing htimed hhash hfree hmem run hbefore
    cases call with
    | module id call => exact h.module htimed' hself (hrulings _ List.mem_cons_self) ok
    | escrow call =>
      have ok : exec O H env (.escrow call) s = .ok (ret, s') := ok
      cases step_of_exec ok with
      | escrow hstep =>
        refine h.escrow hgoing' htimed' (fun p hp hhash' => ?_) hstep
        have hpmem : p ∈ known := hknown (List.mem_filterMap.mpr ⟨_, List.mem_cons_self, hp⟩)
        exact hfree.eq_of_hashOrder hpmem hmem hhash' hhash
  · rintro history s s' run ih hmoved hknown hrulings
    obtain ⟨-, htimed'⟩ := timed_of_run hgoing htimed hhash hfree hmem run hknown
    exact (ih hknown hrulings).around htimed' hmoved

/-- A lock records the anchor's delay as it is, and admits only a deadline its clocks leave room
for. -/
theorem dated_of_lock (limit : ℕ) {rest : R} {history₀ : History} {slot : U32} {ret : Ret} {version : ℕ}
    (run₀ : Run (system O H outside) (start rest) history₀ s)
    (hcapped : Capped O)
    (hchain : ∀ config, s.core.settings.config = some config → config.chainId = chainId)
    (hlocked : exec O H env (.escrow (.lockForOrder params slot)) s = .ok (ret, s'))
    (hhash : AdManager.hashOrder H params chainId = .ok orderHash)
    (hcurrent : Escrow.currentTiming params.orderChainId s.core = .ok (version, t)) :
    ∃ delay, AdManager.anchorDelayNow (withModules O H) params.orderChainId s = .ok delay ∧
      delay ≤ RootAnchor.MAX_ANCHOR_DELAY ∧ Dated params orderHash t delay limit s' ∧
      env.now + t.minWindow ≤ params.deadline.toNat ∧
      params.deadline.toNat ≤ env.now + MAX_ORDER_WINDOW := by
  have hperiods := periods_of_run run₀
  cases step_of_exec hlocked with
  | escrow hstep =>
    cases hstep with
    | admin hcall => cases hcall
    | @lockForOrder _ _ config ad timingVersion amount orderHash' anchorDelay x hconfig had hchecks
        hauth hhash' hnew hdelay hfit happend =>
      rw [hchain _ hconfig, hhash] at hhash'
      obtain rfl := Except.ok.inj hhash'
      have hcap := anchorDelayNow_le hcapped hdelay
      simp only [AdManager.lockChecks, Check.bind_ok, Check.mapError_ok, Check.pure_ok,
        Prod.mk.injEq] at hchecks
      obtain ⟨-, -, -, -, -, -, -, -, -, -, _, hwindow, -⟩ := hchecks
      simp only [Escrow.requireMinWindow, hcurrent, Check.bind_ok, Check.add_ok, Check.require_ok,
        Check.pure_ok] at hwindow
      obtain ⟨_, hsame, _, ⟨-, rfl⟩, _, hsoon, _, ⟨-, rfl⟩, _, hfar, -⟩ := hwindow
      obtain rfl := Except.ok.inj hsame
      refine ⟨anchorDelay, hdelay, hcap, ⟨?_, ?_, fun hdisputed => ?_⟩, hsoon, hfar⟩
      · rw [AdManager.getOrder_of_set (l := s.core.ledger) rfl, if_pos rfl]
        refine min_eq_left (hcap.trans ?_)
        decide
      · have hmodules : x.modules = s.core.outside.modules := modules_of_append happend
        show ∀ id state, x.modules.get? id = some state → state.Periods
        rw [hmodules]
        exact hperiods
      · rw [Ledger.status_of_set (l := s.core.ledger) rfl, if_pos rfl] at hdisputed
        cases hdisputed

end Runs

/-! ## Exactness -/

/-- Every instant of a locked order is the exact one and fits 64 bits. Rulings are made before
`limit`. -/
structure Instants (O : Outside R) (H : Host) (params : OrderParams) (orderHash : BytesN32)
    (t : RouteTiming) (delay limit : ℕ) (s : Chain R) : Prop where
  window_fits : params.deadline.toNat + t.buffer < 2 ^ 64
  windowEnd : Escrow.windowEnd orderHash params.deadline.toNat t.buffer s.core
    = params.deadline.toNat + t.buffer
  margin_le : t.margin ≤ params.deadline.toNat + t.buffer
  presentationCutoff : AdManager.presentationCutoff orderHash params t s
    = params.deadline.toNat + t.buffer - t.margin
  /-- The re-pin cutoff is not cut at 0. -/
  stagger_le : t.claimStagger ≤ params.deadline.toNat
  evidenceGrace : ∀ current,
    AdManager.anchorDelayNow (withModules O H) params.orderChainId s = .ok current →
    max current delay + t.buffer < 2 ^ 64 ∧
      AdManager.evidenceGrace (withModules O H) orderHash params.orderChainId t.buffer s
        = .ok (max current delay + t.buffer)
  /-- A claimed cancel waits for its window, and the grace where the payout was denied. -/
  cancelEnd : ∀ maker finalizesAt,
    AdManager.cancelEnd (withModules O H) maker params orderHash t s = .ok finalizesAt →
    finalizesAt = params.deadline.toNat + t.buffer ∨ ∃ current,
      AdManager.anchorDelayNow (withModules O H) params.orderChainId s = .ok current ∧
      finalizesAt = params.deadline.toNat + t.buffer + (max current delay + t.buffer)
  /-- A filing inside the window: with any period a module accepts, the deadline it writes. -/
  filing : ∀ (env : Env) p, DisputeManager.validate p = .ok () →
    env.now < params.deadline.toNat + t.buffer →
    max (env.now + p.challengePeriod) (params.deadline.toNat + t.buffer) < 2 ^ 64 ∧
      DisputeManager.filingDeadline env p params.deadline.toNat t.buffer
        = .ok (max (env.now + p.challengePeriod) (params.deadline.toNat + t.buffer))
  /-- A ruling inside the challenge window, and the end of the dispute. -/
  ruling : s.core.ledger.status orderHash = .disputed → ∃ id d,
    s.core.ledger.disputeManagers.get? orderHash = some (.contract id) ∧
    s.core.outside.record id orderHash = some d ∧ d.challengeDeadline < 2 ^ 64 ∧
    (∀ env : Env, env.now < d.challengeDeadline → env.now < limit →
      Check.add (ε := DisputeManager.DisputeManagerError) 64 (max env.now d.orderDeadline) d.buffer
        = .ok (max env.now params.deadline.toNat + t.buffer)) ∧
    ∀ (env : Env) maker outcome finalizesAt,
      AdManager.disputeEnd (withModules O H) env maker params orderHash outcome s
        = .ok finalizesAt →
      finalizesAt = d.challengeDeadline ∨ ∃ current,
        AdManager.anchorDelayNow (withModules O H) params.orderChainId s = .ok current ∧
        finalizesAt = d.challengeDeadline + (max current delay + t.buffer)

theorem saturatingAdd_eq {a b : ℕ} (h : a + b < 2 ^ 64) : saturatingAdd a b = a + b :=
  min_eq_left (Nat.le_sub_one_of_lt h)

/-- What the module answers the escrow of a record it holds. -/
theorem challengeDeadline_of_record {w : World R} {id orderHash : BytesN32} {d : DisputeRecord}
    (h : w.record id orderHash = some d) (O : Outside R) (H : Host) :
    (withModules O H).challengeDeadlineOf w env (.contract id) orderHash
      = .ok d.challengeDeadline := by
  obtain ⟨state, hstate, hopen⟩ := Option.bind_eq_some_iff.mp h
  show World.consult w (.contract id) (DisputeManager.challengeDeadlineOf orderHash) = _
  rw [World.consult_of_get? hstate, DisputeManager.challengeDeadlineOf, hopen]
  rfl

/-- The grace an instant waits for, where the anchor answered. -/
theorem read_of_grace {orderChainId : U128} {orderHash : BytesN32} {buffer grace : ℕ}
    (h : AdManager.evidenceGrace (withModules O H) orderHash orderChainId buffer s = .ok grace) :
    ∃ current, AdManager.anchorDelayNow (withModules O H) orderChainId s = .ok current := by
  unfold AdManager.evidenceGrace at h
  obtain ⟨current, hcurrent, -⟩ := Check.bind_ok.mp h
  exact ⟨current, hcurrent⟩

section Exact

variable {chainId : U128} {params : OrderParams} {orderHash : BytesN32} {t : RouteTiming}
  {delay limit : ℕ}

/-- What a locked order keeps makes its instants exact, where 64 bits hold the last second a clock
of it can name. -/
theorem instants_of_dated (htimed : Timed H chainId params orderHash t s)
    (h : Dated params orderHash t delay limit s) (hcapped : Capped O) (hvalid : t.Valid)
    (hdelay : delay ≤ RootAnchor.MAX_ANCHOR_DELAY)
    (hstagger : t.claimStagger ≤ params.deadline.toNat)
    (hroom : params.deadline.toNat + MAX_CHALLENGE_PERIOD + 2 * t.buffer
      + RootAnchor.MAX_ANCHOR_DELAY < 2 ^ 64)
    (hlimit : limit + 2 * t.buffer + RootAnchor.MAX_ANCHOR_DELAY < 2 ^ 64) :
    Instants O H params orderHash t delay limit s := by
  have hmargin := hvalid.margin_le
  have hwindow : params.deadline.toNat + t.buffer < 2 ^ 64 := by omega
  have hend : Escrow.windowEnd orderHash params.deadline.toNat t.buffer s.core
      = params.deadline.toNat + t.buffer := by
    rw [windowEnd_of_timed htimed, saturatingAdd_eq hwindow]
  have hgrace : ∀ current,
      AdManager.anchorDelayNow (withModules O H) params.orderChainId s = .ok current →
      max current delay + t.buffer ≤ RootAnchor.MAX_ANCHOR_DELAY + t.buffer := by
    intro current hcurrent
    exact Nat.add_le_add_right (max_le (anchorDelayNow_le hcapped hcurrent) hdelay) _
  have hexact : ∀ current,
      AdManager.anchorDelayNow (withModules O H) params.orderChainId s = .ok current →
      AdManager.evidenceGrace (withModules O H) orderHash params.orderChainId t.buffer s
        = .ok (max current delay + t.buffer) := by
    intro current hcurrent
    have hle := hgrace current hcurrent
    unfold AdManager.evidenceGrace
    rw [hcurrent, h.anchorDelay, Check.ok_bind, saturatingAdd_eq (by omega)]
    rfl
  refine ⟨hwindow, hend, by omega, ?_, hstagger, ?_, ?_, ?_, ?_⟩
  · unfold AdManager.presentationCutoff
    rw [hend]
  · intro current hcurrent
    have hle := hgrace current hcurrent
    exact ⟨by omega, hexact current hcurrent⟩
  · intro maker finalizesAt hfinal
    simp only [AdManager.cancelEnd, hend, Check.bind_ok] at hfinal
    obtain ⟨denied, -, hfinal⟩ := hfinal
    split at hfinal
    · exact .inl (Check.pure_ok.mp hfinal)
    · obtain ⟨grace, hgraced, hfinal⟩ := Check.bind_ok.mp hfinal
      obtain ⟨current, hcurrent⟩ := read_of_grace hgraced
      have hle := hgrace current hcurrent
      rw [hexact current hcurrent] at hgraced
      obtain rfl := Except.ok.inj hgraced
      refine .inr ⟨current, hcurrent, ?_⟩
      rw [Check.pure_ok.mp hfinal, saturatingAdd_eq (by omega)]
  · intro env p hperiod hbefore
    have hle := DisputeManager.challengePeriod_le hperiod
    have hmax : max (env.now + p.challengePeriod) (params.deadline.toNat + t.buffer) < 2 ^ 64 :=
      max_lt (by omega) hwindow
    refine ⟨hmax, ?_⟩
    simp only [DisputeManager.filingDeadline, Check.bind_ok, Check.add_ok, Check.pure_ok]
    exact ⟨_, ⟨lt_of_le_of_lt (le_max_left _ _) hmax, rfl⟩, _, ⟨hwindow, rfl⟩, rfl⟩
  · intro hdisputed
    obtain ⟨filer, id, history, hopen⟩ := htimed.dispute hdisputed
    obtain ⟨d, hrecord, -, hrecorded⟩ := hopen.record
    have hlate := h.late hdisputed id d hopen.manager hrecord
    have hfits : d.challengeDeadline + t.buffer + RootAnchor.MAX_ANCHOR_DELAY < 2 ^ 64 := by
      unfold latest at hlate
      rcases max_choice limit (params.deadline.toNat + MAX_CHALLENGE_PERIOD) with heq | heq <;>
        rw [heq] at hlate <;> omega
    refine ⟨id, d, hopen.manager, hrecord, by omega, ?_, ?_⟩
    · intro env _ hearly
      rw [hrecorded.orderDeadline, hrecorded.orderBuffer]
      refine Check.add_ok.mpr ⟨?_, rfl⟩
      rcases max_choice env.now params.deadline.toNat with heq | heq <;> rw [heq] <;> omega
    · intro env maker outcome finalizesAt hfinal
      have hdeadline : Escrow.disputeChallengeDeadline (withModules O H) env orderHash s.core
          = .ok d.challengeDeadline := by
        simp only [Escrow.disputeChallengeDeadline, Escrow.orderDisputeManager, hopen.manager,
          Check.bind_ok, Check.expect_ok, Option.some.injEq, exists_eq_left']
        exact moduleAnswer_ok.mpr (challengeDeadline_of_record hrecord O H)
      simp only [AdManager.disputeEnd, hdeadline, Check.bind_ok, Check.mapError_ok] at hfinal
      obtain ⟨challengeEnd, hchallenge, hfinal⟩ := hfinal
      obtain rfl := Except.ok.inj hchallenge
      split at hfinal
      · exact .inl (Check.pure_ok.mp hfinal)
      · obtain ⟨denied, -, hfinal⟩ := Check.bind_ok.mp hfinal
        split at hfinal
        · exact .inl (Check.pure_ok.mp hfinal)
        · obtain ⟨t', ht', hfinal⟩ := Check.bind_ok.mp hfinal
          rw [Check.mapError_ok, htimed.timing] at ht'
          obtain rfl := Except.ok.inj ht'
          obtain ⟨grace, hgraced, hfinal⟩ := Check.bind_ok.mp hfinal
          obtain ⟨current, hcurrent⟩ := read_of_grace hgraced
          have hle := hgrace current hcurrent
          rw [hexact current hcurrent] at hgraced
          obtain rfl := Except.ok.inj hgraced
          refine .inr ⟨current, hcurrent, ?_⟩
          rw [Check.pure_ok.mp hfinal, saturatingAdd_eq (by omega)]

end Exact

/-! ## Every lock, every run -/

/-- From every lock before `2 ^ 63` on, in every run whose rulings are made before `limit`, the
instants are exact, and the ad leg's co-signed window is open half a buffer past the deadline. -/
def LocksExact (O : Outside R) (H : Host) (outside : R → R → Prop) (limit : ℕ) : Prop :=
  ∀ {rest : R} {history₀ history : History} {s₀ s₁ s : Chain R} {env : Env} {params : OrderParams}
    {slot : U32} {orderHash : BytesN32} {ret : Ret} {config : ContractConfig},
    Run (system O H outside) (start rest) history₀ s₀ → env.authorized H.address = false →
    env.now < 2 ^ 63 → s₀.core.settings.config = some config →
    exec O H env (.escrow (.lockForOrder params slot)) s₀ = .ok (ret, s₁) →
    AdManager.hashOrder H params config.chainId = .ok orderHash →
    Run (system O H outside) s₁ history s →
    AdManager.CollisionFree H config.chainId (params :: ordersOf history) →
    (∀ e ∈ history, e.1.2.ruling = true → e.1.1.now < limit) →
    ∃ version t delay, Escrow.currentTiming params.orderChainId s₀.core = .ok (version, t) ∧
      t.Valid ∧
      AdManager.anchorDelayNow (withModules O H) params.orderChainId s₀ = .ok delay ∧
      Instants O H params orderHash t delay limit s ∧
      env.now ≤ params.deadline.toNat - t.claimStagger ∧
      params.deadline.toNat + t.buffer / 2 ≤ params.deadline.toNat + t.buffer - t.margin ∧
      15 * 60 ≤ t.buffer / 2

theorem locks_exact {limit : ℕ} (hcapped : Capped O) (hlimit : limit ≤ 2 ^ 63) :
    LocksExact O H outside limit := by
  intro rest history₀ history s₀ s₁ s env params slot orderHash ret config run₀ hself hnow hconfig
    hlocked hhash run hfree hrulings
  have hchain : ∀ config', s₀.core.settings.config = some config' →
      config'.chainId = config.chainId := by
    intro config' hconfig'
    obtain rfl := Option.some.inj (hconfig.symm.trans hconfig')
    rfl
  obtain ⟨version, t, hcurrent, hvalid, htimed₁⟩ := timed_of_lock run₀ hchain hlocked hhash
  obtain ⟨delay, hread, hdelay, hdated₁, hsoon, hfar⟩ :=
    dated_of_lock limit run₀ hcapped hchain hlocked hhash hcurrent
  have hgoing₀ : Ongoing H config.chainId s₀ :=
    ⟨agreement_of_run run₀, sound_of_run run₀, config, hconfig, rfl⟩
  have hgoing₁ := hgoing₀.step hself (step_of_exec hlocked)
  have hknown : ordersOf history ⊆ params :: ordersOf history := List.subset_cons_self _ _
  obtain ⟨-, htimed⟩ := timed_of_run hgoing₁ htimed₁ hhash hfree List.mem_cons_self run hknown
  have hdated := dated_of_run hgoing₁ htimed₁ hdated₁ hhash hfree List.mem_cons_self run hknown
    hrulings
  have hminBuffer := hvalid.min_buffer
  have hbuffer := hvalid.max_buffer
  have hmargin := hvalid.margin_le
  have hstagger := hvalid.stagger
  have hMIN : MIN_BUFFER = 1800 := rfl
  have hMAX : MAX_BUFFER = 86400 := rfl
  have hWINDOW : MAX_ORDER_WINDOW = 604800 := rfl
  have hPERIOD : MAX_CHALLENGE_PERIOD = 604800 := rfl
  have hDELAY : RootAnchor.MAX_ANCHOR_DELAY = 604800 := rfl
  exact ⟨version, t, delay, hcurrent, hvalid, hread,
    instants_of_dated htimed hdated hcapped hvalid hdelay (by omega) (by omega) (by omega),
    by omega, by omega, by omega⟩

end Disputes
end ProofBridge
