import ProofBridge.Evm.AdLegRuns

/-!
# The instants of the EVM ad leg

From a lock on, every instant is computed as on the natural numbers: nothing reverts for its width,
and nothing is cut. Only rulings, each made inside the last one's window, can push a clock on without
bound.
-/

namespace ProofBridge
namespace Evm
namespace AdLeg

open ContractLib

variable {hash : AdOrderParams → BytesN32} {ctx : Context} {s s' : Chain} {k : BytesN32}
  {p : AdOrderParams} {t : RouteTiming} {delay limit : ℕ}

/-- The grace of an order whose lock read `delay`, in natural numbers. -/
def graceOf (p : AdOrderParams) (t : RouteTiming) (delay : ℕ) (s : Chain) : ℕ :=
  max (s.anchorDelayNow p.orderChainId) delay + t.buffer

/-- Every instant of a locked order is the exact one and fits 64 bits. Rulings are made before
`limit`. -/
structure Exact (p : AdOrderParams) (t : RouteTiming) (delay limit : ℕ) (k : BytesN32) (s : Chain) :
    Prop where
  window_fits : p.deadline.toNat + t.buffer < 2 ^ 64
  windowEnd : s.windowEnd k p.deadline.toNat t.buffer = .ok (p.deadline.toNat + t.buffer)
  margin_le : t.margin ≤ p.deadline.toNat + t.buffer
  presentationCutoff : s.presentationCutoff k p = .ok (p.deadline.toNat + t.buffer - t.margin)
  stagger_le : t.claimStagger ≤ p.deadline.toNat
  repinCutoff : s.repinCutoff k p = .ok (p.deadline.toNat - t.claimStagger)
  grace_fits : graceOf p t delay s < 2 ^ 64
  evidenceGrace : s.evidenceGrace k p.orderChainId = .ok (graceOf p t delay s)
  /-- A claimed cancel waits for its window, and the grace where the payout was denied. -/
  cancelEnd : ∀ ctx, s.status k = .claimed → s.cancelEnd ctx k p
    = .ok (p.deadline.toNat + t.buffer + if ctx.denied = true then graceOf p t delay s else 0)
  /-- A filing inside the window: with any period a module accepts, the deadline it writes. -/
  filing : ∀ ctx period, validatePeriod period = .ok () →
    ctx.now < p.deadline.toNat + t.buffer →
    max (ctx.now + period) (p.deadline.toNat + t.buffer) < 2 ^ 64 ∧
      filingDeadline ctx period (p.deadline.toNat % 2 ^ 64) t.buffer
        = .ok (max (ctx.now + period) (p.deadline.toNat + t.buffer))
  /-- A ruling inside the challenge window, and the end of the dispute. -/
  ruling : s.status k = .disputed → ∃ d, s.recordOf k = some d ∧ d.challengeDeadline < 2 ^ 64 ∧
    (∀ ctx, ctx.now < d.challengeDeadline → ctx.now < limit →
      max ctx.now p.deadline.toNat + t.buffer < 2 ^ 64 ∧
        rulingDeadline ctx d = .ok (max ctx.now p.deadline.toNat + t.buffer)) ∧
    ∀ ctx outcome, s.disputeEnd ctx k p outcome = .ok (d.challengeDeadline +
      if outcome ≠ .makerForfeit ∧ ctx.denied = true then graceOf p t delay s else 0)

theorem Kept.grace (h : Kept p t delay limit k s) (hfits : graceOf p t delay s < 2 ^ 64) :
    s.evidenceGrace k p.orderChainId = .ok (graceOf p t delay s) := by
  rw [Chain.evidenceGrace, h.timing, h.anchorDelay]
  have hmax : (if s.anchorDelayNow p.orderChainId < delay then delay
      else s.anchorDelayNow p.orderChainId) = max (s.anchorDelayNow p.orderChainId) delay := by
    split
    · next hlt => exact (max_eq_right hlt.le).symm
    · next hge => exact (max_eq_left (not_lt.mp hge)).symm
  rw [hmax]
  exact Check.add_ok.mpr ⟨lt_trans hfits (by norm_num), rfl⟩

/-- An instant and a grace, where the payout was denied. -/
theorem add_grace {instant : ℕ} {denied : Bool} {grace : Check ClockError ℕ} {g : ℕ}
    (hgrace : grace = .ok g) (hinstant : instant < 2 ^ 64) (hg : g < 2 ^ 64) :
    (if denied = true then do
        let grace ← grace
        Check.add 256 instant grace
      else .ok instant : Check ClockError ℕ)
      = .ok (instant + if denied = true then g else 0) := by
  cases denied with
  | false => rfl
  | true =>
    rw [if_pos rfl, if_pos rfl, hgrace, Check.ok_bind]
    refine Check.add_ok.mpr ⟨?_, rfl⟩
    calc instant + g < 2 ^ 64 + 2 ^ 64 := Nat.add_lt_add hinstant hg
      _ < 2 ^ 256 := by norm_num

/-- What a locked order keeps makes its instants exact, where 64 bits hold the last second a clock
of it can name. -/
theorem Kept.exact (h : Kept p t delay limit k s) (hsound : s.Sound) (hvalid : t.Valid)
    (hdelay : delay ≤ MAX_ANCHOR_DELAY) (hstagger : t.claimStagger ≤ p.deadline.toNat)
    (hroom : p.deadline.toNat + MAX_CHALLENGE_PERIOD + t.buffer < 2 ^ 64)
    (hlimit : limit + t.buffer < 2 ^ 64) :
    Exact p t delay limit k s := by
  have hmargin := hvalid.margin_le
  have hbuffer := hvalid.max_buffer
  have hlive := hsound.anchorDelayNow_le p.orderChainId
  have hwindow : p.deadline.toNat + t.buffer < 2 ^ 64 := by omega
  have hmarginLe : t.margin ≤ p.deadline.toNat + t.buffer := by omega
  have hgrace : graceOf p t delay s < 2 ^ 64 := by
    have hle : graceOf p t delay s ≤ MAX_ANCHOR_DELAY + MAX_BUFFER :=
      Nat.add_le_add (max_le hlive hdelay) hbuffer
    exact lt_of_le_of_lt hle (by decide)
  have hcutoff : s.presentationCutoff k p = .ok (p.deadline.toNat + t.buffer - t.margin) := by
    unfold Chain.presentationCutoff
    rw [h.timing]
    dsimp only
    rw [h.windowEnd hwindow, Check.ok_bind]
    exact Check.sub_ok.mpr ⟨hmarginLe, rfl⟩
  refine ⟨hwindow, h.windowEnd hwindow, hmarginLe, hcutoff, hstagger, ?_, hgrace, h.grace hgrace,
    ?_, ?_, ?_⟩
  · rw [Chain.repinCutoff, h.timing]
    exact Check.sub_ok.mpr ⟨hstagger, rfl⟩
  · intro ctx hclaimed
    unfold Chain.cancelEnd
    rw [hcutoff, h.claim hclaimed]
    exact add_grace (h.grace hgrace) hwindow hgrace
  · intro ctx period hperiod hbefore
    rw [validatePeriod, Check.require_ok] at hperiod
    rw [Nat.mod_eq_of_lt (by omega : p.deadline.toNat < 2 ^ 64)]
    exact ⟨max_lt (by omega) hwindow, filingDeadline_eq hperiod.2 (by omega) hbefore⟩
  · intro hdisputed
    obtain ⟨d, hd, hdeadline, hd', hle⟩ := h.dispute hdisputed
    have hfits : d.challengeDeadline < 2 ^ 64 := by
      refine lt_of_le_of_lt hle ?_
      rcases max_choice limit (p.deadline.toNat + MAX_CHALLENGE_PERIOD) with heq | heq <;>
        rw [heq] <;> omega
    refine ⟨d, hd, hfits, ?_, ?_⟩
    · intro ctx _ hearly
      have hruled : max ctx.now d.orderDeadline + d.buffer < 2 ^ 64 := by
        rw [hdeadline, hd']
        rcases max_choice ctx.now p.deadline.toNat with heq | heq <;> rw [heq] <;> omega
      rw [rulingDeadline_eq hruled]
      rw [hdeadline, hd'] at hruled ⊢
      exact ⟨hruled, rfl⟩
    · intro ctx outcome
      have hend : s.challengeDeadline k = d.challengeDeadline := by
        rw [Chain.challengeDeadline, hd]
        rfl
      unfold Chain.disputeEnd
      rw [hend]
      by_cases hforfeit : outcome = .makerForfeit
      · rw [if_pos hforfeit, if_neg (fun h => h.1 hforfeit)]
        rfl
      · rw [if_neg hforfeit, add_grace (h.grace hgrace) hfits hgrace]
        simp only [ne_eq, hforfeit, not_false_eq_true, true_and]

/-- From every lock before `2 ^ 63` on, in every run whose rulings are made before `limit`, the
instants are exact, and the ad leg's co-signed window is open half a buffer past the deadline. -/
def LocksExact (hash : AdOrderParams → BytesN32) (limit : ℕ) : Prop :=
  ∀ {history₀ history : List ((Context × Call) × Unit)} {s₀ s₁ s : Chain} {ctx : Context}
    {p : AdOrderParams}, Run (system hash) Chain.fresh history₀ s₀ → ctx.now < 2 ^ 63 →
    lockForOrder hash ctx p s₀ = .ok ((), s₁) → Run (system hash) s₁ history s →
    (∀ e ∈ history, ∀ q, e.1.2.params? = some q → hash q = hash p → q = p) →
    (∀ e ∈ history, e.1.2.ruling = true → e.1.1.now < limit) →
    ∃ t, t = s₀.timingAt p.orderChainId (s₀.version p.orderChainId) ∧ t.Valid ∧
      Exact p t (s₀.anchorDelayNow p.orderChainId) limit (hash p) s ∧
      ctx.now ≤ p.deadline.toNat - t.claimStagger ∧
      p.deadline.toNat + t.buffer / 2 ≤ p.deadline.toNat + t.buffer - t.margin ∧
      15 * 60 ≤ t.buffer / 2

theorem locks_exact (hlimit : limit ≤ 2 ^ 63) : LocksExact hash limit := by
  intro history₀ history s₀ s₁ s ctx p run₀ hnow hlock run hsame hrulings
  have hsound := sound_of_run run₀
  obtain ⟨v, hset, rfl, hsoon, hfar, hkept⟩ := kept_of_lock limit hsound hlock
  have hvalid := hsound.timings _ _ hset (le_refl _)
  have hstep := @step_of_exec hash ctx _ _ (.lockForOrder p) hsound hlock
  have hminBuffer := hvalid.min_buffer
  have hbuffer := hvalid.max_buffer
  have hmargin := hvalid.margin_le
  have hstagger := hvalid.stagger
  have hMIN : MIN_BUFFER = 1800 := rfl
  have hMAX : MAX_BUFFER = 86400 := rfl
  have hWINDOW : MAX_ORDER_WINDOW = 604800 := rfl
  have hPERIOD : MAX_CHALLENGE_PERIOD = 604800 := rfl
  obtain ⟨hs, hk⟩ := kept_of_run hstep.2.1 hkept run hsame hrulings (by omega)
  refine ⟨_, rfl, hvalid, hk.exact hs hvalid (hsound.anchorDelayNow_le _) (by omega) (by omega)
    (by omega), by omega, by omega, by omega⟩

/-! ## Ruling after ruling -/

/-- A ruling in time is taken. -/
theorem resolveDispute_runs {manager : EvmAddress} {d : Record} {outcome : DisputeOutcome}
    {finalizeAt : ℕ} (hpasses : ctx.passes = true)
    (houtcome : outcome ≠ .tradeProceeds ∧ outcome ≠ .none)
    (hd : s.disputes.get? (manager, k) = some d) (hbefore : ctx.now < d.challengeDeadline)
    (hruling : rulingDeadline ctx d = .ok finalizeAt) :
    resolveDispute ctx manager k outcome s = .ok ((), { s with
      disputes := s.disputes.set (manager, k)
        { d with ruling := outcome, challengeDeadline := finalizeAt } }) := by
  rw [resolveDispute, Tx.bind_ok]
  refine ⟨(), s, passed_ok.mpr ⟨hpasses, rfl⟩, ?_⟩
  rw [Tx.bind_require_ok, Tx.bind_read_ok, Tx.bind_expect_ok]
  refine ⟨houtcome, d, hd, ?_⟩
  rw [Tx.bind_require_ok, Tx.bind_lift_ok]
  exact ⟨hbefore, finalizeAt, hruling, Tx.modify_ok.mpr rfl⟩

def sampleAt (now : ℕ) : Context where
  timestamp := BitVec.ofNat 256 now
  passes := true
  denied := false
  byBridger := false

theorem sampleAt_now {now : ℕ} (h : now < 2 ^ 64) : (sampleAt now).now = now := by
  show (BitVec.ofNat 256 now).toNat = now
  rw [BitVec.toNat_ofNat]
  exact Nat.mod_eq_of_lt (lt_trans h (by norm_num))

def sampleHash : AdOrderParams → BytesN32 := fun _ => 1

def sampleParams : AdOrderParams where
  orderChainToken := 1
  adChainToken := 2
  amount := 1000
  bridger := 3
  orderChainId := 7
  srcOrderPortal := 4
  orderRecipient := 5
  adId := []
  adCreator := 6
  adRecipient := 6
  salt := 0
  orderDecimals := 6
  adDecimals := 6
  deadline := 8200
  adSettlementSigner := 6
  lpFeeBps := 0
  protocolFeeBps := 0

/-- A route with a day of buffer, and a module that gives an hour to challenge. -/
def sampleReady : List (Context × Call) :=
  [(sampleAt 100, .setRouteTiming 7 ⟨3600, 86400, 600, 0⟩),
    (sampleAt 100, .setDisputeManager 0xD1), (sampleAt 100, .setDisputeParams 0xD1 7 3600)]

def sampleReadied : List ((Context × Call) × Unit) × Chain :=
  (play (system sampleHash) sampleReady [] Chain.fresh).getD ([], Chain.fresh)

/-- The order locked at 1000. -/
def sampleLocked : Chain :=
  match lockForOrder sampleHash (sampleAt 1000) sampleParams sampleReadied.2 with
  | .ok r => r.2
  | .error _ => Chain.fresh

/-- And disputed a second later. -/
def sampleDisputed : Chain :=
  match dispute sampleHash (sampleAt 1001) sampleParams sampleLocked with
  | .ok r => r.2
  | .error _ => Chain.fresh

/-- An order in dispute, whose challenge window ends at `challengeDeadline`. -/
structure Disputed (challengeDeadline : ℕ) (s : Chain) : Prop where
  status : s.status 1 = .disputed
  manager : s.moduleOf 1 = 0xD1
  record : ∃ ruling, s.disputes.get? (0xD1, 1) = some ⟨challengeDeadline, ruling, 8200, 86400⟩

/-- A ruling in the last second pushes the clock on by almost a day. -/
theorem ruling_pushes {challengeDeadline : ℕ} (h : Disputed challengeDeadline s)
    (hpast : 8200 < challengeDeadline) (hfits : challengeDeadline + 86399 < 2 ^ 64) :
    ∃ s', exec sampleHash (sampleAt (challengeDeadline - 1)) (.resolveDispute 0xD1 1 .mutualRefund) s
      = .ok ((), s') ∧ Disputed (challengeDeadline + 86399) s' := by
  obtain ⟨hstatus, hmanager, ruling, hrecord⟩ := h
  have hnow : (sampleAt (challengeDeadline - 1)).now = challengeDeadline - 1 := sampleAt_now (by omega)
  have hnext : max (sampleAt (challengeDeadline - 1)).now 8200 + 86400 = challengeDeadline + 86399 := by
    rw [hnow, max_eq_left (by omega)]
    omega
  have hruling : rulingDeadline (sampleAt (challengeDeadline - 1))
      ⟨challengeDeadline, ruling, 8200, 86400⟩ = .ok (challengeDeadline + 86399) := by
    rw [← hnext]
    refine rulingDeadline_eq ?_
    show max (sampleAt (challengeDeadline - 1)).now 8200 + 86400 < 2 ^ 64
    rw [hnext]
    exact hfits
  have hbefore : (sampleAt (challengeDeadline - 1)).now < challengeDeadline := by
    rw [hnow]
    omega
  have houtcome : DisputeOutcome.mutualRefund ≠ .tradeProceeds ∧
      DisputeOutcome.mutualRefund ≠ .none := by decide
  exact ⟨_, resolveDispute_runs rfl houtcome hrecord hbefore hruling,
    ⟨hstatus, hmanager, .mutualRefund, Map.get?_set_self _ _ _⟩⟩

/-- Rulings, each in the last second of the one before, push it on as far as 64 bits go. -/
theorem rulings_push {challengeDeadline : ℕ} (h : Disputed challengeDeadline s)
    (hpast : 8200 < challengeDeadline) (n : ℕ)
    (hfits : challengeDeadline + n * 86399 < 2 ^ 64) :
    ∃ history s', Run (system sampleHash) s history s' ∧
      (∀ e ∈ history, e.1.2.params? = none) ∧ Disputed (challengeDeadline + n * 86399) s' := by
  induction n with
  | zero =>
    refine ⟨[], s, .start, ?_, ?_⟩
    · intro e he
      cases he
    · rw [Nat.zero_mul]
      exact h
  | succ n ih =>
    have hsum : challengeDeadline + (n + 1) * 86399 = challengeDeadline + n * 86399 + 86399 := by
      rw [Nat.succ_mul, Nat.add_assoc]
    rw [hsum] at hfits ⊢
    have hle : challengeDeadline ≤ challengeDeadline + n * 86399 := Nat.le_add_right _ _
    obtain ⟨history, s₁, run, hnone, hdisputed⟩ := ih (lt_of_le_of_lt (Nat.le_add_right _ _) hfits)
    obtain ⟨s₂, hruns, hpushed⟩ := ruling_pushes hdisputed (lt_of_lt_of_le hpast hle) hfits
    refine ⟨((sampleAt (challengeDeadline + n * 86399 - 1), .resolveDispute 0xD1 1 .mutualRefund), ())
      :: history, s₂, run.accepted trivial hruns, ?_, ?_⟩
    · intro e he
      rcases List.mem_cons.mp he with rfl | he
      · rfl
      · exact hnone e he
    · exact hpushed

theorem run_sampleReadied : Run (system sampleHash) Chain.fresh sampleReadied.1 sampleReadied.2 :=
  Run.played (by decide +kernel) fun _ _ _ => trivial

theorem sampleLocked_ok : lockForOrder sampleHash (sampleAt 1000) sampleParams sampleReadied.2
    = .ok ((), sampleLocked) := by
  obtain ⟨⟨⟨⟩, s'⟩, ok⟩ := Check.ok_of_isSome (x := lockForOrder sampleHash (sampleAt 1000)
    sampleParams sampleReadied.2) (by decide +kernel)
  rw [sampleLocked, ok]

theorem sampleDisputed_ok : dispute sampleHash (sampleAt 1001) sampleParams sampleLocked
    = .ok ((), sampleDisputed) := by
  obtain ⟨⟨⟨⟩, s'⟩, ok⟩ := Check.ok_of_isSome (x := dispute sampleHash (sampleAt 1001)
    sampleParams sampleLocked) (by decide +kernel)
  rw [sampleDisputed, ok]

theorem disputed_sample : Disputed 94600 sampleDisputed where
  status := by decide +kernel
  manager := by decide +kernel
  record := ⟨.none, by decide +kernel⟩

/-- Without a bound on the times of the rulings, one of them can have no deadline in 64 bits. -/
theorem rulings_overrun : ¬LocksExact sampleHash (2 ^ 256) := by
  intro hexact
  have hlast : 94600 + 213506453474107 * 86399 = 18446744073709465293 := by norm_num
  obtain ⟨history, s, run, hnone, hstatus, hmanager, ruling, hrecord⟩ :=
    rulings_push disputed_sample (by norm_num) 213506453474107 (by norm_num)
  rw [hlast] at hrecord
  have hfiled : Run (system sampleHash) sampleLocked [((sampleAt 1001, .dispute sampleParams), ())]
      sampleDisputed := Run.accepted .start trivial sampleDisputed_ok
  have hsame : ∀ e ∈ history ++ [((sampleAt 1001, .dispute sampleParams), ())], ∀ q,
      e.1.2.params? = some q → sampleHash q = sampleHash sampleParams → q = sampleParams := by
    intro e he q hq _
    rcases List.mem_append.mp he with he | he
    · rw [hnone e he] at hq
      cases hq
    · obtain rfl := List.mem_singleton.mp he
      exact (Option.some.inj hq).symm
  obtain ⟨t, ht, -, hclocks, -⟩ := hexact run_sampleReadied (by decide +kernel) sampleLocked_ok
    (hfiled.trans run) hsame fun e _ _ => e.1.1.timestamp.isLt
  have hbuffer : t.buffer = 86400 := by
    rw [ht]
    decide +kernel
  obtain ⟨d, hd, -, hruled, -⟩ := hclocks.ruling hstatus
  have hd' : s.recordOf 1 = some ⟨18446744073709465293, ruling, 8200, 86400⟩ := by
    rw [Chain.recordOf, hmanager]
    exact hrecord
  obtain rfl := Option.some.inj (hd.symm.trans hd')
  have hnow : (sampleAt 18446744073709465292).now = 18446744073709465292 :=
    sampleAt_now (by norm_num)
  obtain ⟨hfits, -⟩ := hruled (sampleAt 18446744073709465292) (by rw [hnow]; norm_num)
    (by rw [hnow]; norm_num)
  have hlate := le_max_left (sampleAt 18446744073709465292).now sampleParams.deadline.toNat
  rw [hnow] at hlate hfits
  rw [hbuffer] at hfits
  omega

end AdLeg
end Evm
end ProofBridge
