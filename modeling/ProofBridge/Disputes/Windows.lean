import ProofBridge.Disputes.Clock
import ProofBridge.OrderPortal.Step

/-!
# The windows of one order do not overlap

What the lock fixed decides every door of the order for good: the co-signed unlock closes a margin
before the window's end, and a cancel or a ruling is final only after it. `Timed` is what any state
after the lock keeps, whatever is retimed, claimed, disputed, answered or ruled in between.
-/

namespace ProofBridge
namespace Disputes

open ContractLib
open AdManager (OrderParams)

variable {R : Type} {O : Outside R} {H : Host} {env : Env} {s s' : Chain R}
  {outside : R → R → Prop}

/-- The order a call of the escrow names. -/
def Call.params? : Call → Option OrderParams
  | .escrow call => call.params?
  | .module .. => none

/-- Every order the escrow was told about. -/
def ordersOf (history : History) : List OrderParams := history.filterMap fun e => e.1.2.params?

/-- An order locked on the clocks `t`, and everything since written on those. -/
structure Timed (H : Host) (chainId : U128) (params : OrderParams) (orderHash : BytesN32)
    (t : RouteTiming) (s : Chain R) : Prop where
  locked : s.core.ledger.status orderHash ≠ .none
  timing : Escrow.orderTiming orderHash params.orderChainId s.core = .ok t
  claim : ∀ claim, s.core.ledger.claims.get? orderHash = some claim →
    claim.finalizeAt = saturatingAdd params.deadline.toNat t.buffer
  dispute : s.core.ledger.status orderHash = .disputed → ∃ filer id history,
    Open H chainId filer params.deadline.toNat t.buffer id orderHash history s

/-! ## One call -/

theorem timing_of_record {c c' : Core (World R)} {orderHash : BytesN32} {chainId : U128}
    {t : RouteTiming}
    (hversion : (c'.ledger.getOrder orderHash).timingVersion
      = (c.ledger.getOrder orderHash).timingVersion)
    (hgrows : c.settings.Grows c'.settings)
    (h : Escrow.orderTiming orderHash chainId c = .ok t) :
    Escrow.orderTiming orderHash chainId c' = .ok t := by
  unfold Escrow.orderTiming at h ⊢
  rw [Check.expect_ok] at h ⊢
  rw [hversion]
  exact hgrows.timings _ _ _ h

section Step

variable {chainId : U128} {params : OrderParams} {orderHash : BytesN32} {t : RouteTiming}

theorem Timed.escrow {call : AdManager.Call} {ret : AdManager.Ret} (hgoing : Ongoing H chainId s)
    (h : Timed H chainId params orderHash t s)
    (hsame : ∀ p, call.params? = some p → AdManager.hashOrder H p chainId = .ok orderHash →
      p = params)
    (hstep : AdManager.Step (withModules O H) H env s call ret s') :
    Timed H chainId params orderHash t s' := by
  have hleg := AdManager.legStep_of_step hstep orderHash
  obtain ⟨hstamp, hlocked⟩ := hleg.stamp h.locked
  have hgrows := (AdManager.settings_of_step hstep hgoing.sound).2.settings
  refine ⟨hlocked, ?_, fun claim hclaim => ?_, fun hdisputed => ?_⟩
  · simp only [AdManager.OrderRecord.stamp, Prod.mk.injEq] at hstamp
    exact timing_of_record hstamp.2.2.1 hgrows h.timing
  · rcases AdManager.claim_of_step hstep hclaim with hbefore |
      ⟨p, config, t', rfl, hconfig, hhash, htiming, hfinal⟩
    · exact h.claim claim hbefore
    · rw [hgoing.chainId _ hconfig] at hhash
      obtain rfl := hsame p rfl hhash
      rw [h.timing] at htiming
      cases htiming
      exact hfinal
  · have htouch := touch_of_step hgoing.agreement hstep
    by_cases hbefore : s.core.ledger.status orderHash = .disputed
    · obtain ⟨filer, id, history, hopen⟩ := h.dispute hbefore
      have hopen' := (@Open.touched _ _ _ _ _ _ _ _ _ _ _ _ _ hopen hgoing.chainId _ ret htouch).resolve_right
        (not_not.mpr hdisputed)
      exact ⟨filer, id, _, hopen'⟩
    · cases htouch with
      | apart _ _ _ hiff => exact absurd ((hiff _).mp hdisputed) hbefore
      | responded _ _ _ _ _ _ _ _ _ _ hiff => exact absurd ((hiff _).mp hdisputed) hbefore
      | closed _ _ _ _ _ _ hiff => exact absurd ((hiff _).mp hdisputed).2 hbefore
      | @filed id filing p config t' hcall hparams hconfig hhash htiming hdeadline hbuffer hnew
          hescrow hmoved hmanagers hiff =>
        have horder := ((hiff _).mp hdisputed).resolve_right hbefore
        subst horder
        rw [hgoing.chainId _ hconfig] at hhash
        obtain rfl := hsame p hparams hhash
        rw [h.timing] at htiming
        cases htiming
        have hopen := @open_of_filed _ _ _ _ _ _ chainId _ _ hescrow hmoved
          (by rw [hmanagers, Map.get?_set_self]) hdisputed
        rw [hdeadline, hbuffer] at hopen
        exact ⟨_, id, _, hopen⟩

theorem Timed.module {id : BytesN32} {call : DisputeManager.Call} {ret : DisputeManager.Ret}
    {state : DisputeManager.State} {c : DisputeManager.Chain R}
    (h : Timed H chainId params orderHash t s) (hself : env.authorized H.address = false)
    (hstate : s.core.outside.modules.get? id = some state)
    (hstep : DisputeManager.Step O.toTokens (hostAt H id) env
      { state, outside := s.core.outside.rest } call ret c) :
    Timed H chainId params orderHash t { s with core := { s.core with
      outside := { modules := s.core.outside.modules.set id c.state, rest := c.outside } } } := by
  refine ⟨h.locked, h.timing, h.claim, fun hdisputed => ?_⟩
  obtain ⟨filer, id', history, hopen⟩ := h.dispute hdisputed
  exact ⟨filer, id', _, hopen.direct hself hstate hstep⟩

theorem Timed.around (h : Timed H chainId params orderHash t s)
    (hmoved : (system O H outside).outside s s') : Timed H chainId params orderHash t s' := by
  have hmoved' := hmoved
  obtain ⟨w, rfl, -⟩ := hmoved
  refine ⟨h.locked, h.timing, h.claim, fun hdisputed => ?_⟩
  obtain ⟨filer, id, history, hopen⟩ := h.dispute hdisputed
  exact ⟨filer, id, history, hopen.around hmoved'⟩

end Step

/-! ## From the lock on -/

section Runs

variable {chainId : U128} {params : OrderParams} {orderHash : BytesN32} {t : RouteTiming}
  {known : List OrderParams}

theorem timed_of_run {s₁ : Chain R} {history : History} (hgoing : Ongoing H chainId s₁)
    (htimed : Timed H chainId params orderHash t s₁)
    (hhash : AdManager.hashOrder H params chainId = .ok orderHash)
    (hfree : AdManager.CollisionFree H chainId known) (hmem : params ∈ known)
    (run : Run (system O H outside) s₁ history s) (hknown : ordersOf history ⊆ known) :
    Ongoing H chainId s ∧ Timed H chainId params orderHash t s := by
  refine run.invariant (I := fun history s => ordersOf history ⊆ known →
    Ongoing H chainId s ∧ Timed H chainId params orderHash t s) (fun _ => ⟨hgoing, htimed⟩)
    ?_ ?_ hknown
  · rintro history s ⟨env, call⟩ ret s' _ ih hself ok hknown
    obtain ⟨hgoing, htimed⟩ := ih fun p hp => by
      obtain ⟨e, he, hp⟩ := List.mem_filterMap.mp hp
      exact hknown (List.mem_filterMap.mpr ⟨e, List.mem_cons_of_mem _ he, hp⟩)
    have hstep := step_of_exec ok
    refine ⟨hgoing.step hself hstep, ?_⟩
    cases hstep with
    | module hstate hmodule => exact htimed.module hself hstate hmodule
    | @escrow call ret _ hstep =>
      refine htimed.escrow hgoing (fun p hp hhash' => ?_) hstep
      have hpmem : p ∈ known := hknown (List.mem_filterMap.mpr ⟨_, List.mem_cons_self, hp⟩)
      exact hfree.eq_of_hashOrder hpmem hmem hhash' hhash
  · rintro history s s' _ ih hmoved hknown
    obtain ⟨hgoing, htimed⟩ := ih hknown
    exact ⟨hgoing.around hmoved, htimed.around hmoved⟩

/-- A lock writes the clocks of its route's current version with the order. -/
theorem timed_of_lock {rest : R} {history₀ : History} {slot : U32} {ret : Ret}
    (run₀ : Run (system O H outside) (start rest) history₀ s)
    (hchain : ∀ config, s.core.settings.config = some config → config.chainId = chainId)
    (hlocked : exec O H env (.escrow (.lockForOrder params slot)) s = .ok (ret, s'))
    (hhash : AdManager.hashOrder H params chainId = .ok orderHash) :
    ∃ version t, Escrow.currentTiming params.orderChainId s.core = .ok (version, t) ∧ t.Valid ∧
      Timed H chainId params orderHash t s' := by
  cases step_of_exec hlocked with
  | escrow hstep =>
    cases hstep with
    | admin hcall => cases hcall
    | @lockForOrder _ _ config ad timingVersion amount orderHash' anchorDelay x hconfig had hchecks
        hauth hhash' hnew =>
      rw [hchain _ hconfig, hhash] at hhash'
      obtain rfl := Except.ok.inj hhash'
      simp only [AdManager.lockChecks, Check.bind_ok, Check.mapError_ok, Check.pure_ok,
        Prod.mk.injEq] at hchecks
      obtain ⟨-, -, -, -, -, -, -, -, -, -, _, hwindow, -, -, _, -, _, -, -, -, rfl, rfl⟩ := hchecks
      simp only [Escrow.requireMinWindow, Check.bind_ok, Check.pure_ok] at hwindow
      obtain ⟨⟨version, t⟩, hcurrent, -, -, -, -, -, -, -, -, rfl⟩ := hwindow
      have hstored : s.core.settings.getRouteTimingAt params.orderChainId timingVersion = some t := by
        simp only [Escrow.currentTiming, Check.bind_ok, Check.expect_ok, Check.pure_ok,
          Prod.mk.injEq] at hcurrent
        obtain ⟨t', ht', rfl, rfl⟩ := hcurrent
        exact ht'
      have hvalid := (sound_of_run run₀).settings.timings_valid _ _ _ hstored
      refine ⟨timingVersion, t, hcurrent, hvalid, ?_, ?_, fun claim hclaim => ?_,
        fun hdisputed => ?_⟩
      · rw [Ledger.status_of_set (l := s.core.ledger) rfl, if_pos rfl]
        exact Status.noConfusion
      · unfold Escrow.orderTiming
        rw [AdManager.getOrder_of_set (l := s.core.ledger) rfl, if_pos rfl]
        exact Check.expect_ok.mpr hstored
      · -- no claim was open on an order nobody had locked
        have hnone := (legs_of_run run₀ orderHash).no_claim (by
          show s.core.ledger.status orderHash ≠ _
          rw [hnew]
          exact Status.noConfusion)
        have hsome : (AdManager.leg orderHash s).claim = some claim := hclaim
        rw [hnone] at hsome
        cases hsome
      · rw [Ledger.status_of_set (l := s.core.ledger) rfl, if_pos rfl] at hdisputed
        cases hdisputed

end Runs

/-! ## The doors -/

/-- The window of a timed order ends where its clocks say, claimed or not. -/
theorem windowEnd_of_timed {chainId : U128} {params : OrderParams} {orderHash : BytesN32}
    {t : RouteTiming} (h : Timed H chainId params orderHash t s) :
    Escrow.windowEnd orderHash params.deadline.toNat t.buffer s.core
      = saturatingAdd params.deadline.toNat t.buffer := by
  unfold Escrow.windowEnd
  split
  · next claim hstatus hclaim => exact h.claim claim hclaim
  · rfl

/-- An extended end is no earlier. -/
theorem le_of_cancelEnd {maker : Address} {params : OrderParams} {orderHash : BytesN32}
    {t : RouteTiming} {finalizesAt : ℕ}
    (hwindow : Escrow.windowEnd orderHash params.deadline.toNat t.buffer s.core ≤ maxU64)
    (h : AdManager.cancelEnd (withModules O H) maker params orderHash t s = .ok finalizesAt) :
    Escrow.windowEnd orderHash params.deadline.toNat t.buffer s.core ≤ finalizesAt := by
  simp only [AdManager.cancelEnd, Check.bind_ok, Check.mapError_ok] at h
  obtain ⟨denied, -, h⟩ := h
  split at h
  · rw [Check.pure_ok.mp h]
  · simp only [Check.bind_ok, Check.pure_ok] at h
    obtain ⟨grace, -, rfl⟩ := h
    exact le_saturatingAdd hwindow

section Doors

variable {chainId : U128} {params : OrderParams} {orderHash : BytesN32} {t : RouteTiming}
  {ret : Ret}

theorem unlock_before (hgoing : Ongoing H chainId s) (h : Timed H chainId params orderHash t s)
    (hhash : AdManager.hashOrder H params chainId = .ok orderHash)
    {nullifierHash targetRoot : BytesN32} {proof cosigData : Bytes}
    (ok : exec O H env (.escrow (.unlock params nullifierHash targetRoot proof cosigData)) s
      = .ok (ret, s')) :
    env.now < saturatingAdd params.deadline.toNat t.buffer - t.margin := by
  cases step_of_exec ok with
  | escrow hstep =>
    cases hstep with
    | admin hcall => cases hcall
    | unlock hconfig hhash' hlive hnullifier htiming hcutoff =>
      rw [hgoing.chainId _ hconfig, hhash] at hhash'
      obtain rfl := Except.ok.inj hhash'
      rw [h.timing] at htiming
      cases htiming
      unfold AdManager.presentationCutoff at hcutoff
      rw [windowEnd_of_timed h] at hcutoff
      exact hcutoff

theorem cancel_after (hgoing : Ongoing H chainId s) (h : Timed H chainId params orderHash t s)
    (hhash : AdManager.hashOrder H params chainId = .ok orderHash)
    (ok : exec O H env (.escrow (.finalizeCancel params)) s = .ok (ret, s')) :
    saturatingAdd params.deadline.toNat t.buffer ≤ env.now := by
  cases step_of_exec ok with
  | escrow hstep =>
    cases hstep with
    | admin hcall => cases hcall
    | finalizeCancel hconfig hhash' htiming hfinalizable hamount had hend hreached =>
      rw [hgoing.chainId _ hconfig, hhash] at hhash'
      obtain rfl := Except.ok.inj hhash'
      rw [h.timing] at htiming
      cases htiming
      have hwindow := windowEnd_of_timed h
      have hle := le_of_cancelEnd (by rw [hwindow]; exact Nat.min_le_right _ _) hend
      rw [hwindow] at hle
      exact hle.trans hreached

theorem dispute_after (hgoing : Ongoing H chainId s) (h : Timed H chainId params orderHash t s)
    (hhash : AdManager.hashOrder H params chainId = .ok orderHash)
    (ok : exec O H env (.escrow (.finalizeDispute params)) s = .ok (ret, s')) :
    params.deadline.toNat + t.buffer ≤ env.now := by
  have hdisputed : s.core.ledger.status orderHash = .disputed := by
    cases step_of_exec ok with
    | escrow hstep =>
      cases hstep with
      | admin hcall => cases hcall
      | finalizeDispute hconfig hhash' hdisputed =>
        rw [hgoing.chainId _ hconfig, hhash] at hhash'
        obtain rfl := Except.ok.inj hhash'
        exact hdisputed
  obtain ⟨filer, id, history, hopen⟩ := h.dispute hdisputed
  obtain ⟨d, hrecord, -, hrecorded⟩ := hopen.record
  exact hrecorded.window.trans (finalize_of_open hgoing hopen hrecord hrecorded ok hhash).1

end Doors

/-- The calls that release an order's lock without a presentation. -/
def releases (params : OrderParams) : AdManager.Call → Prop
  | .finalizeCancel params' => params' = params
  | .finalizeDispute params' => params' = params
  | _ => False

theorem release_after {chainId : U128} {params : OrderParams} {orderHash : BytesN32}
    {t : RouteTiming} {ret : Ret} {call : AdManager.Call} (hgoing : Ongoing H chainId s)
    (h : Timed H chainId params orderHash t s)
    (hhash : AdManager.hashOrder H params chainId = .ok orderHash) (hcall : releases params call)
    (ok : exec O H env (.escrow call) s = .ok (ret, s')) :
    saturatingAdd params.deadline.toNat t.buffer ≤ env.now := by
  cases call <;> simp only [releases] at hcall
  · subst hcall
    exact (Nat.min_le_left _ _).trans (dispute_after hgoing h hhash ok)
  · subst hcall
    exact cancel_after hgoing h hhash ok

/-- **Window separation.** From one lock, over any two ways the run may go on: a co-signed unlock is
accepted only a margin before the window's end, a release only from its end on, on the clocks of the
version the lock recorded; so every unlock comes before every release, and so does every co-signed
fill of the order leg. -/
theorem windows_apart {rest : R} {history₀ history history' : History} {s₀ s₁ : Chain R}
    {env₀ : Env} {params : OrderParams} {slot : U32} {orderHash : BytesN32} {ret : Ret}
    {chainId : U128} {known : List OrderParams}
    (run₀ : Run (system O H outside) (start rest) history₀ s₀)
    (hself : env₀.authorized H.address = false)
    (hchain : ∀ config, s₀.core.settings.config = some config → config.chainId = chainId)
    (hlocked : exec O H env₀ (.escrow (.lockForOrder params slot)) s₀ = .ok (ret, s₁))
    (hhash : AdManager.hashOrder H params chainId = .ok orderHash)
    (hfree : AdManager.CollisionFree H chainId known) (hmem : params ∈ known)
    (run : Run (system O H outside) s₁ history s) (hknown : ordersOf history ⊆ known)
    (run' : Run (system O H outside) s₁ history' s') (hknown' : ordersOf history' ⊆ known) :
    ∃ version t, Escrow.currentTiming params.orderChainId s₀.core = .ok (version, t) ∧
      (∀ env nullifierHash targetRoot proof cosigData ret s₂,
        exec O H env (.escrow (.unlock params nullifierHash targetRoot proof cosigData)) s
          = .ok (ret, s₂) →
        env.now < params.deadline.toNat + t.buffer - t.margin ∧
        ∀ env' call ret' s₃, releases params call →
          exec O H env' (.escrow call) s' = .ok (ret', s₃) → env.now < env'.now) ∧
      (∀ env call ret s₂, releases params call → exec O H env (.escrow call) s = .ok (ret, s₂) →
        min (params.deadline.toNat + t.buffer) maxU64 ≤ env.now ∧
        ∀ (Y : Type) (O' : Outside Y) (H' : Host) (env' : Env) (order : OrderPortal.OrderParams)
          nullifierHash targetRoot proof cosigData ret' (sₚ sₚ' : OrderPortal.Chain Y),
          order.deadline = params.deadline →
          OrderPortal.exec O' H' env' (.unlock order nullifierHash targetRoot proof cosigData) sₚ
            = .ok (ret', sₚ') →
          env'.now ≤ params.deadline.toNat ∧
            (params.deadline.toNat < maxU64 → env'.now < env.now)) := by
  obtain ⟨version, t, hcurrent, hvalid, htimed₁⟩ := timed_of_lock run₀ hchain hlocked hhash
  have hgoing₁ : Ongoing H chainId s₁ := by
    have hconfig : ∃ config, s₀.core.settings.config = some config ∧ config.chainId = chainId := by
      cases step_of_exec hlocked with
      | escrow hstep =>
        cases hstep with
        | admin hcall => cases hcall
        | lockForOrder hconfig => exact ⟨_, hconfig, hchain _ hconfig⟩
    have hgoing₀ : Ongoing H chainId s₀ := ⟨agreement_of_run run₀, sound_of_run run₀, hconfig⟩
    exact hgoing₀.step hself (step_of_exec hlocked)
  obtain ⟨hgoing, htimed⟩ := timed_of_run hgoing₁ htimed₁ hhash hfree hmem run hknown
  obtain ⟨hgoing', htimed'⟩ := timed_of_run hgoing₁ htimed₁ hhash hfree hmem run' hknown'
  refine ⟨version, t, hcurrent, ?_, ?_⟩
  · intro env nullifierHash targetRoot proof cosigData ret s₂ ok
    have hbefore := unlock_before hgoing htimed hhash ok
    have hcap : saturatingAdd params.deadline.toNat t.buffer ≤ params.deadline.toNat + t.buffer :=
      Nat.min_le_left _ _
    refine ⟨by omega, fun env' call ret' s₃ hcall ok' => ?_⟩
    have hafter := release_after hgoing' htimed' hhash hcall ok'
    omega
  · intro env call ret s₂ hcall ok
    have hafter := release_after hgoing htimed hhash hcall ok
    refine ⟨hafter, ?_⟩
    intro Y O' H' env' order nullifierHash targetRoot proof cosigData ret' sₚ sₚ' hdeadline okₚ
    have hcutoff : env'.now ≤ params.deadline.toNat := by
      cases OrderPortal.step_of_exec okₚ with
      | admin hcall => cases hcall
      | unlock hconfig hhash hopened hnullifier htiming hcutoff =>
        rw [hdeadline] at hcutoff
        exact hcutoff.trans (Nat.sub_le _ _)
    refine ⟨hcutoff, fun hlt => ?_⟩
    have hbuffer := hvalid.min_buffer
    unfold saturatingAdd at hafter
    unfold MIN_BUFFER at hbuffer
    omega

/-! ## The sample's lock -/

/-- The sample just before its order is locked. -/
def sampleReady : History × Chain Bank :=
  (play sampleSystem sampleCalls.dropLast.dropLast.dropLast [] sampleStart).getD ([], sampleStart)

theorem run_sampleReady : Run sampleSystem (start (Bank.endowed 1000000 (.contract 0xAD)))
    sampleReady.1 sampleReady.2 := by
  have hplayed : Run sampleSystem sampleStart sampleReady.1 sampleReady.2 := by
    refine Run.played (by decide +kernel) fun t ht s => ?_
    have hsub := List.dropLast_subset _ (List.dropLast_subset _ (List.dropLast_subset _ ht))
    exact sampleCalls_admitted t hsub s
  simpa using run_sampleStart.trans hplayed

def sampleLock : Env × Call := (sampleEnv 1000, .escrow (.lockForOrder AdManager.sampleParams 0))

/-- The sample's order may be unlocked before 8200 + 86400 - 600 and released from 94600 on. -/
theorem windows_apart_sample :
    (∀ env nullifierHash targetRoot proof cosigData ret s₂,
      exec Bank.world (sampleHost 0xAD) env (.escrow (.unlock AdManager.sampleParams nullifierHash
        targetRoot proof cosigData)) (sampleAfter sampleLock sampleReady.2) = .ok (ret, s₂) →
      env.now < 94000) ∧
    ∀ env call ret s₂, releases AdManager.sampleParams call →
      exec Bank.world (sampleHost 0xAD) env (.escrow call) (sampleAfter sampleLock sampleReady.2)
        = .ok (ret, s₂) → 94600 ≤ env.now := by
  have hlocked := @sampleAfter_ok sampleLock sampleReady.2
    (.escrow (.order sampleOrderHash)) (by decide +kernel)
  have hconfig : sampleReady.2.core.settings.config
      = some ⟨.account 0x0A, .contract 0x77, .contract 0x78, .contract 0x79, 2⟩ := by
    decide +kernel
  have hchain : ∀ config, sampleReady.2.core.settings.config = some config →
      config.chainId = 2 := by
    intro config h
    rw [hconfig] at h
    cases h
    rfl
  have hhash : AdManager.hashOrder (sampleHost 0xAD) AdManager.sampleParams 2
      = .ok sampleOrderHash := by
    decide +kernel
  obtain ⟨version, t, hcurrent, hunlock, hrelease⟩ :=
    windows_apart run_sampleReady rfl hchain hlocked hhash AdManager.sample_collisionFree
      (List.mem_singleton.mpr rfl) .start (List.nil_subset _) .start (List.nil_subset _)
  have hcurrent' : Escrow.currentTiming AdManager.sampleParams.orderChainId sampleReady.2.core
      = .ok (1, ⟨3600, 86400, 600, 600⟩) := by
    decide +kernel
  rw [hcurrent'] at hcurrent
  cases hcurrent
  have hend : min (AdManager.sampleParams.deadline.toNat + 86400) maxU64 = 94600 := by
    decide +kernel
  refine ⟨fun env nullifierHash targetRoot proof cosigData ret s₂ ok =>
    (hunlock env nullifierHash targetRoot proof cosigData ret s₂ ok).1,
    fun env call ret s₂ hcall ok => ?_⟩
  have hafter := (hrelease env call ret s₂ hcall ok).1
  rw [hend] at hafter
  exact hafter

/-! ## At the end of time -/

/-- The sample order, due in the last second a ledger can count. -/
def lastParams : OrderParams := { AdManager.sampleParams with deadline := 2 ^ 64 - 1 }

/-- Wire a route, lock the order a week before the end and claim its cancel in the last second. -/
def lastCalls : List (Env × Call) :=
  (AdManager.sampleCalls.dropLast.map fun t => (sampleEnv (2 ^ 64 - 604801), .escrow t.2)) ++
  [(sampleEnv (2 ^ 64 - 604801), .escrow (.lockForOrder lastParams 0)),
    (sampleEnv (2 ^ 64 - 1), .escrow (.claimCancel lastParams))]

def lastRun : History × Chain Bank :=
  (play sampleSystem lastCalls [] sampleStart).getD ([], sampleStart)

theorem run_last :
    Run sampleSystem (start (Bank.endowed 1000000 (.contract 0xAD))) lastRun.1 lastRun.2 := by
  have hplayed : Run sampleSystem sampleStart lastRun.1 lastRun.2 := by
    refine Run.played (by decide +kernel) fun t ht s => ?_
    simp only [lastCalls, List.mem_append, List.mem_map, List.mem_cons, List.not_mem_nil,
      or_false] at ht
    rcases ht with ⟨t, -, rfl⟩ | rfl | rfl <;> rfl
  simpa using run_sampleStart.trans hplayed

/-- A cancel can be final before the deadline and the buffer have run, where the ledger cannot count
that far. -/
theorem finalize_in_last_second :
    ¬ ∀ (R : Type) (O : Outside R) (H : Host) (outside : R → R → Prop) (rest : R)
      (history : History) (s s' : Chain R) (env : Env) (params : OrderParams) (config : ContractConfig)
      (orderHash : BytesN32) (t : RouteTiming) (ret : Ret),
      Run (system O H outside) (start rest) history s →
      s.core.settings.config = some config →
      AdManager.hashOrder H params config.chainId = .ok orderHash →
      Escrow.orderTiming orderHash params.orderChainId s.core = .ok t →
      exec O H env (.escrow (.finalizeCancel params)) s = .ok (ret, s') →
      params.deadline.toNat + t.buffer ≤ env.now := by
  intro hclaim
  have hfinal := @sampleAfter_ok (sampleEnv (2 ^ 64 - 1), .escrow (.finalizeCancel lastParams))
    lastRun.2 (.escrow .unit) (by decide +kernel)
  have hlate := hclaim Bank Bank.world (sampleHost 0xAD) Bank.gift
    (Bank.endowed 1000000 (.contract 0xAD)) lastRun.1 lastRun.2 _ _ lastParams
    ⟨.account 0x0A, .contract 0x77, .contract 0x78, .contract 0x79, 2⟩ sampleOrderHash
    ⟨3600, 86400, 600, 600⟩ (.escrow .unit) run_last (by decide +kernel) (by decide +kernel)
    (by decide +kernel) hfinal
  exact absurd hlate (by decide +kernel)

end Disputes
end ProofBridge
