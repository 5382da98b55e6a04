import ProofBridge.OrderPortal.Deposits

/-!
# The cutoff of a deposit

This leg computes one instant: the last second of the co-signed unlock, a stagger before the
deadline. The clocks it is read on are those of the version the create recorded, for good.
-/

namespace ProofBridge
namespace OrderPortal

open ContractLib

variable {X : Type} {O : Outside X} {H : Host} {env : Env} {s s' : Chain X}
  {outside : X → X → Prop}

/-- An order created on the clocks `t`. -/
structure Timed (params : OrderParams) (orderHash : BytesN32) (t : RouteTiming) (s : Chain X) :
    Prop where
  created : s.core.ledger.status orderHash ≠ .none
  timing : Escrow.orderTiming orderHash params.adChainId s.core = .ok t

/-- An order's record, after a write of any order's. -/
theorem getOrder_of_set {l l' : Ledger} {orderHash : BytesN32} {rec : OrderRecord}
    (h : l'.orders = l.orders.set orderHash rec) (k : BytesN32) :
    l'.getOrder k = if k = orderHash then rec else l.getOrder k := by
  unfold Ledger.getOrder
  rw [h, Map.get?_set]
  split <;> rfl

section Step

variable {params : OrderParams} {orderHash : BytesN32} {t : RouteTiming}

/-- What keeps an order's existence and its version, and only adds clocks. -/
theorem Timed.frame (h : Timed params orderHash t s)
    (hstatus : s'.core.ledger.status orderHash ≠ .none)
    (hversion : (s'.core.ledger.getOrder orderHash).timingVersion
      = (s.core.ledger.getOrder orderHash).timingVersion)
    (hgrows : s.core.settings.Grows s'.core.settings) : Timed params orderHash t s' := by
  refine ⟨hstatus, ?_⟩
  have htiming := h.timing
  unfold Escrow.orderTiming at htiming ⊢
  rw [Check.expect_ok] at htiming ⊢
  rw [hversion]
  exact hgrows.timings _ _ _ htiming

/-- An exit keeps every order's version. -/
theorem Exited.version {config : ContractConfig} {params : OrderParams}
    {orderHash recipient : BytesN32} {status : Status} {event : Event}
    (h : Exited O H env config params orderHash status recipient event s s')
    (hstatus : status ≠ .none) (k : BytesN32) :
    (s'.core.ledger.getOrder k).timingVersion = (s.core.ledger.getOrder k).timingVersion ∧
      (s.core.ledger.status k ≠ .none → s'.core.ledger.status k ≠ .none) := by
  obtain ⟨x, claimable, events, rfl⟩ := h.frame
  have hrecord := @getOrder_of_set s.core.ledger (Escrow.closeOrder orderHash params.bridger status
    s.core.ledger) _ _ rfl k
  constructor
  · show (Ledger.getOrder (Escrow.closeOrder orderHash params.bridger status s.core.ledger)
      k).timingVersion = _
    rw [hrecord]
    split
    · next heq =>
      rw [heq]
    · rfl
  · intro hbefore
    show (Ledger.getOrder (Escrow.closeOrder orderHash params.bridger status s.core.ledger)
      k).status ≠ _
    rw [hrecord]
    split
    · exact hstatus
    · exact hbefore

theorem Timed.step {call : Call} {ret : Ret} (h : Timed params orderHash t s)
    (hsound : s.core.settings.Sound) (hstep : Step O H env s call ret s') :
    Timed params orderHash t s' := by
  have hgrows := (settings_of_step hstep hsound).2
  cases hstep with
  | admin hcall honly =>
    refine h.frame ?_ ?_ hgrows
    · rw [honly.ledger]
      exact h.created
    · rw [honly.ledger]
  | createOrder hconfig hvalid hdecimals hwindow hhash hnew =>
    have hne : orderHash ≠ _ := fun heq => h.created (heq ▸ hnew)
    refine h.frame ?_ ?_ hgrows
    · rw [Ledger.status_of_set (l := s.core.ledger) rfl, if_neg hne]
      exact h.created
    · rw [getOrder_of_set (l := s.core.ledger) rfl, if_neg hne]
  | unlock hconfig hhash hopened hnullifier htiming hcutoff hinputs hroot hproof hspent hexit =>
    obtain ⟨hversion, hstatus⟩ := hexit.version Status.noConfusion orderHash
    subst hspent
    exact h.frame (hstatus h.created) hversion hgrows
  | refundByCancel hconfig hhash hevidence hexit =>
    obtain ⟨hversion, hstatus⟩ := hexit.version Status.noConfusion orderHash
    exact h.frame (hstatus h.created) hversion hgrows
  | presentSettled hconfig hhash hevidence hexit =>
    obtain ⟨hversion, hstatus⟩ := hexit.version Status.noConfusion orderHash
    exact h.frame (hstatus h.created) hversion hgrows
  | payMakerByForfeit hconfig hhash hevidence hmarked hexit =>
    obtain ⟨hversion, hstatus⟩ := hexit.version Status.noConfusion orderHash
    subst hmarked
    exact h.frame (hstatus h.created) hversion hgrows
  | recordSettled => exact h.frame h.created rfl hgrows
  | claim => exact h.frame h.created rfl hgrows

theorem timed_of_run {s₁ : Chain X} {history : History} (hsound : s₁.core.settings.Sound)
    (htimed : Timed params orderHash t s₁) (run : Run (system O H outside) s₁ history s) :
    Timed params orderHash t s := by
  have hboth : s.core.settings.Sound ∧ Timed params orderHash t s := by
    refine run.preserves (R := fun s => s.core.settings.Sound ∧ Timed params orderHash t s)
      ⟨hsound, htimed⟩ ?_ ?_
    · rintro s ⟨env, call⟩ ret s' ⟨hs, h⟩ ok
      have hstep := step_of_exec ok
      exact ⟨(settings_of_step hstep hs).1, h.step hs hstep⟩
    · rintro s s' ⟨hs, h⟩ ⟨x', -, rfl⟩
      exact ⟨hs, ⟨h.created, h.timing⟩⟩
  exact hboth.2

end Step

/-- From every create on, in every run, the cutoff of the co-signed unlock is the exact one and no
earlier than the create. -/
def CreatesExact (O : Outside X) (H : Host) (outside : X → X → Prop) : Prop :=
  ∀ {x : X} {history₀ history : History} {s₀ s₁ s : Chain X} {env : Env} {params : OrderParams}
    {ret : Ret} {orderHash : BytesN32},
    Run (system O H outside) (Chain.fresh x) history₀ s₀ →
    exec O H env (.createOrder params) s₀ = .ok (ret, s₁) → ret = .order orderHash →
    Run (system O H outside) s₁ history s →
    ∃ version t, Escrow.currentTiming params.adChainId s₀.core = .ok (version, t) ∧ t.Valid ∧
      Escrow.orderTiming orderHash params.adChainId s.core = .ok t ∧
      t.claimStagger ≤ params.deadline.toNat ∧
      env.now ≤ params.deadline.toNat - t.claimStagger

theorem creates_exact : CreatesExact O H outside := by
  intro x history₀ history s₀ s₁ s env params ret orderHash run₀ hcreate hret run
  have hsound := sound_of_run run₀
  have hstep := step_of_exec hcreate
  have hsound₁ := (settings_of_step hstep hsound).1
  cases hstep with
  | admin hcall => cases hcall
  | @createOrder _ config version orderHash' x₁ x₂ hconfig hvalid hdecimals hwindow hhash hnew =>
    cases hret
    simp only [Escrow.requireMinWindow, Check.bind_ok, Check.add_ok, Check.require_ok,
      Check.pure_ok] at hwindow
    obtain ⟨⟨_, t⟩, hcurrent, _, ⟨-, rfl⟩, _, hsoon, _, ⟨-, rfl⟩, _, -, rfl⟩ := hwindow
    have hstored : s₀.core.settings.getRouteTimingAt params.adChainId version = some t := by
      simp only [Escrow.currentTiming, Check.bind_ok, Check.expect_ok, Check.pure_ok,
        Prod.mk.injEq] at hcurrent
      obtain ⟨t', ht', rfl, rfl⟩ := hcurrent
      exact ht'
    have hvalid := hsound.timings_valid _ _ _ hstored
    have hstagger := hvalid.stagger
    have hsoon : env.now + t.minWindow ≤ params.deadline.toNat := hsoon
    refine ⟨version, t, hcurrent, hvalid, (timed_of_run hsound₁ ⟨?_, ?_⟩ run).timing, by omega,
      by omega⟩
    · rw [Ledger.status_of_set (l := s₀.core.ledger) rfl, if_pos rfl]
      exact Status.noConfusion
    · unfold Escrow.orderTiming
      rw [getOrder_of_set (l := s₀.core.ledger) rfl, if_pos rfl]
      exact Check.expect_ok.mpr hstored

end OrderPortal
end ProofBridge
