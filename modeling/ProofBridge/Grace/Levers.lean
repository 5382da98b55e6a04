import ProofBridge.AdManager.Orders

/-!
# The levers of a denial

What the denial rule reads of the AdManager's own storage besides the order: the makers' halts, the
root verifiers and when they changed, and the registries. Each entry is overwritten in place, and yet
what once counted against an order locked before goes on counting: `Levers.Denies` stands under every
`LeverStep`.
-/

namespace ProofBridge
namespace Grace

open ContractLib AdManager

variable {X : Type} {O : Outside X} {H : Host} {env : Env} {s s' : Chain X}
  {outside : X → X → Prop}

structure Levers where
  halts : Map Address Halt
  rootVerifiers : Map U128 Address
  rootVerifierChangedAt : Map U128 ℕ
  keyRegistry : Option Address
  registryEpoch : ℕ
  registries : Map ℕ Address

def levers (s : Chain X) : Levers where
  halts := s.halts
  rootVerifiers := s.core.settings.rootVerifiers
  rootVerifierChangedAt := s.core.settings.rootVerifierChangedAt
  keyRegistry := s.keyRegistry
  registryEpoch := s.registryEpoch
  registries := s.registries

/-- What one call, made at `now`, can do to the levers. -/
inductive LeverStep (now : ℕ) (l : Levers) : Levers → Prop
  | kept : LeverStep now l l
  /-- `halt_settlement`. -/
  | halted (maker : Address) (lastResumedAt : ℕ) :
      LeverStep now l { l with halts := l.halts.set maker { halted := true, lastResumedAt } }
  /-- `resume_settlement`. -/
  | resumed (maker : Address) :
      LeverStep now l
        { l with halts := l.halts.set maker { halted := false, lastResumedAt := now } }
  /-- `set_root_verifier` and `unset_root_verifier`. -/
  | rewired (chainId : U128) (rootVerifiers : Map U128 Address)
      (hother : ∀ c, c ≠ chainId → rootVerifiers.get? c = l.rootVerifiers.get? c) :
      LeverStep now l
        { l with
          rootVerifiers
          rootVerifierChangedAt := l.rootVerifierChangedAt.set chainId now }
  /-- `set_key_registry`. -/
  | moved (registry : Address) :
      LeverStep now l
        { l with
          keyRegistry := some registry
          registryEpoch := l.registryEpoch + 1
          registries := l.registries.set (l.registryEpoch + 1) registry }

/-! ## The calls are steps of the levers -/

/-- The calls that are levers. -/
def isLever : Call → Bool
  | .haltSettlement .. | .resumeSettlement .. | .setRootVerifier .. | .unsetRootVerifier ..
  | .setKeyRegistry .. => true
  | _ => false

theorem frames_getConfig : Tx.Frames levers (Tx.view getConfig : Tx _ (Chain X) _) := .view

theorem frames_asAdmin : Tx.Frames levers (asAdmin env : Tx _ (Chain X) _) :=
  .bind .view fun _ => .bind .demand fun _ => .pure

/-- A step of the shared code that leaves the verifiers alone. -/
theorem frames_onCore {α : Type} {x : Tx Fault (Core X) α}
    (hx : Tx.Frames (fun c : Core X =>
      (c.settings.rootVerifiers, c.settings.rootVerifierChangedAt)) x) :
    Tx.Frames levers (onCore x : Tx _ (Chain X) α) := by
  rintro s r ok
  obtain ⟨a, c, hcore, rfl⟩ := Tx.zoom_ok.mp ok
  obtain ⟨hverifiers, hchanged⟩ := Prod.mk.inj (hx _ _ hcore)
  show levers { s with core := c } = levers s
  unfold levers
  rw [hverifiers, hchanged]

theorem frames_onTimelock {α : Type} {x : Tx Fault Timelock α} :
    Tx.Frames levers (onCore (onTimelock x) : Tx _ (Chain X) α) :=
  frames_onCore (.zoom fun _ _ => rfl)

theorem frames_gated {fnName : Symbol} {args : List Val} :
    Tx.Frames levers (gated H env fnName args : Tx _ (Chain X) _) :=
  .bind .view fun _ => frames_onTimelock

/-- An administrative call that is no lever leaves them alone. -/
theorem frames_admin {call : Call} (hadmin : call.administrative = true)
    (hlever : isLever call = false) : Tx.Frames levers (exec O H env call) := by
  cases call <;> simp only [Call.administrative, isLever, Bool.false_eq_true, Bool.true_eq_false]
    at hadmin hlever
  case initializeContract =>
    exact .answer (.bind .read fun _ => .bind .require fun _ => .bind .demand fun _ =>
      .bind (.modify fun _ => rfl) fun _ => .modify fun _ => rfl)
  case pause | unpause | transferAdmin =>
    exact .answer (.bind frames_asAdmin fun _ =>
      frames_onCore (.bind (.modify fun _ => rfl) fun _ => .modify fun _ => rfl))
  case acceptAdmin =>
    exact .answer (.bind .view fun _ => .bind .demand fun _ => .bind .view fun _ =>
      frames_onCore (.bind (.modify fun _ => rfl) fun _ => .bind (.zoom fun _ _ => rfl) fun _ =>
        .modify fun _ => rfl))
  case activateTimelock | proposeAction | cancelAction =>
    exact .answer (.bind frames_asAdmin fun _ => frames_onTimelock)
  case setProtocolFeePool =>
    exact .answer (.bind frames_gated fun _ => .bind .require fun _ =>
      .bind (.modify fun _ => rfl) fun _ => .modify fun _ => rfl)
  case setFeeBps =>
    exact .answer (.bind frames_gated fun _ => .bind .read fun _ => .bind .require fun _ =>
      .bind (.modify fun _ => rfl) fun _ => .modify fun _ => rfl)
  case setChain =>
    exact .answer (.bind frames_gated fun _ => .bind .require fun _ =>
      .bind (.modify fun _ => rfl) fun _ => .modify fun _ => rfl)
  case removeChain =>
    exact .answer (.bind frames_gated fun _ => .bind (.modify fun _ => rfl) fun _ =>
      .modify fun _ => rfl)
  case setRouteTiming =>
    exact .answer (.bind frames_gated fun _ => frames_onCore (.bind .require fun _ =>
      .bind .read fun _ => .bind .lift fun _ => .bind (.modify fun _ => rfl) fun _ =>
        .modify fun _ => rfl))
  case setDisputeManager =>
    exact .answer (.bind frames_gated fun _ => frames_onCore (.modify fun _ => rfl))
  case setRootAnchor =>
    exact .answer (.bind frames_gated fun _ => frames_onCore
      (.bind (.modify fun _ => rfl) fun _ => .modify fun _ => rfl))
  case setTokenRoute =>
    exact .answer (.bind frames_gated fun _ => .bind .require fun _ => .bind .read fun _ =>
      .bind .require fun _ => .bind (frames_onCore (.modify fun _ => rfl)) fun _ =>
        .modify fun _ => rfl)
  case removeTokenRoute =>
    exact .answer (.bind frames_gated fun _ => .bind .read fun _ =>
      .bind (frames_onCore (.modify fun _ => rfl)) fun _ => .modify fun _ => rfl)

/-- Nothing but the admin's calls and the makers' halts touches the levers. -/
theorem levers_of_order {call : Call} {ret : Ret} (hcall : call.administrative = false)
    (hstep : Step O H env s call ret s') : levers s' = levers s := by
  cases hstep with
  | admin hadmin hframe =>
    rw [hcall] at hadmin
    cases hadmin
  | @unlock params nullifierHash targetRoot proof cosigData config orderHash t ad publicInputs s₁ s₂
      hconfig hhash hlive hnullifier htiming hcutoff had hhalt hroot hinputs hproof hspent
      hfilled =>
    obtain ⟨hclosed, hcounted, hamount, had, hlocked, hcharged, hpaid⟩ := hfilled
    obtain ⟨x, rfl⟩ := hclosed.frame
    obtain ⟨x', claimable, events, rfl⟩ := hpaid.moneyOnly
    subst hspent
    rfl
  | presentSettled hconfig hhash hlive hanchored hproof hfilled =>
    obtain ⟨hclosed, hcounted, hamount, had, hlocked, hcharged, hpaid⟩ := hfilled
    obtain ⟨x, rfl⟩ := hclosed.frame
    obtain ⟨x', claimable, events, rfl⟩ := hpaid.moneyOnly
    rfl
  | @finalizeDispute params config orderHash verdict amount finalizesAt ad s₁ manager x₁ x₂ hconfig
      hhash hdisputed hverdict hamount had hend hreached hlocked hpaid hcounted hmanager hsettle
      happend =>
    obtain ⟨c, out, ⟨x, claimable, events, rfl⟩, -, rfl⟩ := Locks.ruling_frame hpaid
    rfl
  | _ => rfl

theorem leverStep_of_exec {call : Call} {ret : Ret} (ok : exec O H env call s = .ok (ret, s')) :
    LeverStep env.now (levers s) (levers s') := by
  have kept (hlevers : levers s' = levers s) : LeverStep env.now (levers s) (levers s') := by
    rw [hlevers]
    exact .kept
  cases hadmin : call.administrative with
  | false => exact kept (levers_of_order hadmin (step_of_exec ok))
  | true =>
  cases hlever : isLever call with
  | false => exact kept (frames_admin hadmin hlever _ _ ok)
  | true =>
  cases call <;> simp only [isLever, Bool.false_eq_true] at hlever <;>
    obtain ⟨⟨⟩, ok, -⟩ := Tx.answer_ok.mp ok
  case haltSettlement =>
    simp only [haltSettlement, requireAuth, Tx.bind_demand_ok, Tx.bind_read_ok, Tx.bind_modify_ok,
      Tx.modify_ok, Prod.mk.injEq, true_and] at ok
    obtain ⟨-, rfl⟩ := ok
    exact .halted _ _
  case resumeSettlement =>
    simp only [resumeSettlement, requireAuth, Tx.bind_demand_ok, Tx.bind_read_ok,
      Tx.bind_expect_ok, Tx.bind_require_ok, Tx.bind_modify_ok, Tx.modify_ok, Prod.mk.injEq,
      true_and] at ok
    obtain ⟨-, halt, -, -, rfl⟩ := ok
    exact .resumed _
  case setRootVerifier =>
    unfold setRootVerifier at ok
    obtain ⟨config, -, ok⟩ := Tx.bind_view_ok.mp ok
    obtain ⟨_, c, hcore, heq⟩ := Tx.zoom_ok.mp ok
    cases heq
    unfold Escrow.setRootVerifierGated at hcore
    obtain ⟨⟨⟩, c₁, hgate, hset⟩ := Tx.bind_ok.mp hcore
    obtain ⟨_, t, -, heq⟩ := Tx.zoom_ok.mp hgate
    cases heq
    simp only [Escrow.setRootVerifier, Tx.bind_modify_ok, Tx.modify_ok, Prod.mk.injEq,
      true_and] at hset
    subst hset
    refine .rewired (l := levers s) _ _ ?_
    intro other hother
    show (Map.set _ _ _).get? other = _
    rw [Map.get?_set, if_neg hother]
    rfl
  case unsetRootVerifier =>
    unfold unsetRootVerifier at ok
    obtain ⟨config, -, ok⟩ := Tx.bind_view_ok.mp ok
    obtain ⟨_, c, hcore, heq⟩ := Tx.zoom_ok.mp ok
    cases heq
    unfold Escrow.unsetRootVerifier at hcore
    obtain ⟨⟨⟩, c₁, hgate, hset⟩ := Tx.bind_ok.mp hcore
    obtain ⟨_, t, -, heq⟩ := Tx.zoom_ok.mp hgate
    cases heq
    simp only [Tx.bind_modify_ok, Tx.modify_ok, Prod.mk.injEq, true_and] at hset
    subst hset
    refine .rewired (l := levers s) _ _ ?_
    intro other hother
    show (Map.remove _ _).get? other = _
    rw [Map.get?_remove, if_neg hother]
    rfl
  case setKeyRegistry =>
    unfold setKeyRegistry at ok
    obtain ⟨_, s₁, hlevers, ok⟩ := Tx.Frames.rest frames_gated ok
    simp only [Tx.bind_read_ok, Tx.bind_lift_ok, Check.add_ok, Tx.bind_modify_ok, Tx.modify_ok,
      Prod.mk.injEq, true_and] at ok
    obtain ⟨epoch, ⟨-, rfl⟩, rfl⟩ := ok
    rw [← hlevers]
    exact .moved _

/-! ## What stands -/

/-- The levers deny an order of `maker` locked at `lockedAt` under `registry`. -/
inductive Levers.Denies (verifierOf : Address → Option Address) (registry maker : Address)
    (chainId : U128) (lockedAt : ℕ) (l : Levers) : Prop
  | halted {h : Halt} (hhalt : l.halts.get? maker = some h)
      (hcounts : h.halted = true ∨ lockedAt ≤ h.lastResumedAt)
  | unset (hnone : l.rootVerifiers.get? chainId = none)
  | changed (hlater : lockedAt < (l.rootVerifierChangedAt.get? chainId).getD 0)
  /-- The chain's verifier reads another registry. -/
  | split {verifier theirs : Address} (hverifier : l.rootVerifiers.get? chainId = some verifier)
      (htheirs : verifierOf verifier = some theirs) (hne : registry ≠ theirs)

structure Levers.Sound (l : Levers) : Prop where
  /-- The epochs count from one. -/
  started : ∀ epoch registry, l.registries.get? epoch = some registry → 0 < epoch
  unset : l.keyRegistry = none → l.registryEpoch = 0
  bounded : ∀ epoch registry, l.registries.get? epoch = some registry → epoch ≤ l.registryEpoch
  current : ∀ registry, l.keyRegistry = some registry →
    l.registries.get? l.registryEpoch = some registry

section Steps

variable {now : ℕ} {l l' : Levers} {verifierOf : Address → Option Address}
  {registry maker : Address} {chainId : U128} {lockedAt : ℕ}

/-- A call after the lock's second takes back no denial. -/
theorem LeverStep.denies (hstep : LeverStep now l l') (hnow : lockedAt < now)
    (h : l.Denies verifierOf registry maker chainId lockedAt) :
    l'.Denies verifierOf registry maker chainId lockedAt := by
  cases hstep with
  | kept => exact h
  | moved =>
    cases h with
    | halted hhalt hcounts => exact .halted hhalt hcounts
    | unset hnone => exact .unset hnone
    | changed hlater => exact .changed hlater
    | split hverifier htheirs hne => exact .split hverifier htheirs hne
  | halted other lastResumedAt =>
    cases h with
    | @halted h hhalt hcounts =>
      by_cases hmaker : maker = other
      · refine .halted (h := ⟨true, lastResumedAt⟩) ?_ (.inl rfl)
        show (Map.set _ _ _).get? maker = _
        rw [Map.get?_set, if_pos hmaker]
      · refine .halted (h := h) ?_ hcounts
        show (Map.set _ _ _).get? maker = _
        rw [Map.get?_set, if_neg hmaker, hhalt]
    | unset hnone => exact .unset hnone
    | changed hlater => exact .changed hlater
    | split hverifier htheirs hne => exact .split hverifier htheirs hne
  | resumed other =>
    cases h with
    | @halted h hhalt hcounts =>
      by_cases hmaker : maker = other
      · -- the resume is stamped after the lock
        refine .halted (h := ⟨false, now⟩) ?_ (.inr hnow.le)
        show (Map.set _ _ _).get? maker = _
        rw [Map.get?_set, if_pos hmaker]
      · refine .halted (h := h) ?_ hcounts
        show (Map.set _ _ _).get? maker = _
        rw [Map.get?_set, if_neg hmaker, hhalt]
    | unset hnone => exact .unset hnone
    | changed hlater => exact .changed hlater
    | split hverifier htheirs hne => exact .split hverifier htheirs hne
  | rewired other rootVerifiers hother =>
    by_cases hchain : chainId = other
    · -- the change itself is after the lock
      apply Levers.Denies.changed
      show lockedAt < ((Map.set _ _ _).get? chainId).getD 0
      rw [Map.get?_set, if_pos hchain]
      exact hnow
    · have hverifiers := hother chainId hchain
      cases h with
      | halted hhalt hcounts => exact .halted hhalt hcounts
      | unset hnone => exact .unset (hverifiers.trans hnone)
      | changed hlater =>
        apply Levers.Denies.changed
        show lockedAt < ((Map.set _ _ _).get? chainId).getD 0
        rw [Map.get?_set, if_neg hchain]
        exact hlater
      | split hverifier htheirs hne => exact .split (hverifiers.trans hverifier) htheirs hne

theorem LeverStep.sound (hstep : LeverStep now l l') (h : l.Sound) : l'.Sound := by
  cases hstep with
  | kept => exact h
  | halted => exact ⟨h.started, h.unset, h.bounded, h.current⟩
  | resumed => exact ⟨h.started, h.unset, h.bounded, h.current⟩
  | rewired => exact ⟨h.started, h.unset, h.bounded, h.current⟩
  | moved other =>
    constructor
    · intro epoch r hget
      have hget : (Map.set _ _ _).get? epoch = some r := hget
      rw [Map.get?_set] at hget
      split at hget
      · next heq =>
        rw [heq]
        exact Nat.succ_pos _
      · exact h.started _ _ hget
    · intro hnone
      cases hnone
    · intro epoch r hget
      show epoch ≤ l.registryEpoch + 1
      have hget : (Map.set _ _ _).get? epoch = some r := hget
      rw [Map.get?_set] at hget
      split at hget
      · next heq => exact heq.le
      · exact (h.bounded _ _ hget).trans (Nat.le_succ _)
    · intro r hr
      show (Map.set _ _ _).get? (l.registryEpoch + 1) = _
      rw [Map.get?_set, if_pos rfl]
      exact hr

/-- An epoch's registry is never rewritten. -/
theorem LeverStep.epoch_kept (hstep : LeverStep now l l') (h : l.Sound) {epoch : ℕ}
    (hget : l.registries.get? epoch = some registry) :
    l'.registries.get? epoch = some registry := by
  cases hstep with
  | kept => exact hget
  | halted => exact hget
  | resumed => exact hget
  | rewired => exact hget
  | moved other =>
    have hle := h.bounded _ _ hget
    show (Map.set _ _ _).get? epoch = _
    rw [Map.get?_set, if_neg (by omega)]
    exact hget

end Steps

/-! ## Over a run -/

theorem levers_sound_of_run {x : X} {history : History}
    (run : Run (system O H outside) (Chain.fresh x) history s) : (levers s).Sound := by
  refine run.preserves (R := fun s => (levers s).Sound) ⟨?_, fun _ => rfl, ?_, ?_⟩ ?_ ?_
  · intro epoch registry h
    cases h
  · intro epoch registry h
    cases h
  · intro registry h
    cases h
  · rintro s ⟨env, call⟩ ret s' h ok
    exact (leverStep_of_exec ok).sound h
  · rintro s s' h ⟨x', -, rfl⟩
    exact h

/-- Over a run that goes on, an epoch's registry stands. -/
theorem registry_of_run {x : X} {s₀ : Chain X} {earlier history : History} {epoch : ℕ}
    {registry : Address} (first : Run (system O H outside) (Chain.fresh x) earlier s₀)
    (run : Run (system O H outside) s₀ history s)
    (hget : s₀.registries.get? epoch = some registry) :
    s.registries.get? epoch = some registry := by
  refine run.invariant (I := fun _ s => s.registries.get? epoch = some registry) hget ?_ ?_
  · rintro history s ⟨env, call⟩ ret s' run ih - ok
    exact (leverStep_of_exec ok).epoch_kept (levers_sound_of_run (first.trans run)) ih
  · rintro history s s' run ih ⟨x', -, rfl⟩
    exact ih

/-- Over a run whose calls all come after the lock's second, a denial by the levers stands. -/
theorem denies_of_run {s₀ : Chain X} {history : History} {verifierOf : Address → Option Address}
    {registry maker : Address} {chainId : U128} {lockedAt : ℕ}
    (run : Run (system O H outside) s₀ history s)
    (hlater : ∀ e ∈ history, lockedAt < e.1.1.now)
    (h : (levers s₀).Denies verifierOf registry maker chainId lockedAt) :
    (levers s).Denies verifierOf registry maker chainId lockedAt := by
  refine run.invariant (I := fun history s => (∀ e ∈ history, lockedAt < e.1.1.now) →
    (levers s).Denies verifierOf registry maker chainId lockedAt) (fun _ => h) ?_ ?_ hlater
  · rintro history s ⟨env, call⟩ ret s' run ih - ok hlater
    have hbefore := ih fun e he => hlater e (List.mem_cons_of_mem _ he)
    exact (leverStep_of_exec ok).denies (hlater _ List.mem_cons_self) hbefore
  · rintro history s s' run ih ⟨x', -, rfl⟩ hlater
    exact ih hlater

/-! ## The denial rule -/

/-- The levers as the rule reads them. -/
theorem denies_iff {maker registry : Address} {chainId : U128} {lockedAt : ℕ}
    {verifierOf : Address → Option Address}
    (hverifiers : ∀ verifier, O.verifierRegistry s.core.outside verifier = verifierOf verifier) :
    (levers s).Denies verifierOf registry maker chainId lockedAt ↔
      haltCounts maker lockedAt s = true ∨ verifierGap chainId lockedAt s = true ∨
        registrySplit O chainId (some registry) s = true := by
  unfold haltCounts verifierGap registrySplit
  rw [Bool.or_eq_true, Option.isNone_iff_eq_none, decide_eq_true_eq]
  constructor
  · rintro (⟨hhalt, hcounts⟩ | hnone | hlater | ⟨hverifier, htheirs, hne⟩)
    · left
      have hhalt : s.halts.get? maker = _ := hhalt
      rw [hhalt]
      simpa using hcounts
    · exact .inr (.inl (.inl hnone))
    · exact .inr (.inl (.inr hlater))
    · right
      right
      have hverifier : s.core.settings.rootVerifiers.get? chainId = _ := hverifier
      simp only [hverifier, hverifiers, htheirs]
      simpa using hne
  · rintro (hhalt | (hnone | hlater) | hsplit)
    · split at hhalt
      · next h hget =>
        refine .halted hget ?_
        simpa using hhalt
      · cases hhalt
    · exact .unset hnone
    · exact .changed hlater
    · split at hsplit
      · cases hsplit
      · next verifier hget =>
        split at hsplit
        · next theirs hanswer =>
          rw [hverifiers] at hanswer
          refine .split hget hanswer ?_
          simpa using hsplit
        · cases hsplit

/-- The rule, for an order locked under a registry that answers. -/
theorem coSignDenied_iff {maker registry : Address} {params : OrderParams} {orderHash : BytesN32}
    {limit expiry : ℕ} {verifierOf : Address → Option Address}
    (hregistry : s.registries.get? (s.core.ledger.getOrder orderHash).registryEpoch
      = some registry)
    (hverifiers : ∀ verifier, O.verifierRegistry s.core.outside verifier = verifierOf verifier)
    (hexpiry : (O.expiredAt s.core.outside registry params.adSettlementSigner
      (s.core.ledger.getOrder orderHash).pinnedSlot).map (·.toNat) = some expiry) :
    coSignDenied O maker params orderHash limit s = .ok true ↔
      (s.core.ledger.getOrder orderHash).repinned = true ∨
      (levers s).Denies verifierOf registry maker params.orderChainId
        (s.core.ledger.getOrder orderHash).lockedAt ∨
      expiry ≠ 0 ∧ expiry ≤ limit := by
  obtain ⟨e, he, rfl⟩ := Option.map_eq_some_iff.mp hexpiry
  have hpin : pinExpired O registry params (s.core.ledger.getOrder orderHash).pinnedSlot limit s
      = .ok (decide (e.toNat ≠ 0 ∧ e.toNat ≤ limit)) := by
    unfold pinExpired
    rw [he]
    rfl
  unfold coSignDenied
  rw [denies_iff hverifiers]
  simp only [hregistry, hpin]
  cases (s.core.ledger.getOrder orderHash).repinned
  · cases haltCounts maker (s.core.ledger.getOrder orderHash).lockedAt s
    · cases verifierGap params.orderChainId (s.core.ledger.getOrder orderHash).lockedAt s
      · cases registrySplit O params.orderChainId (some registry) s
        · simp
        · simp
      · simp
    · simp
  · simp

end Grace
end ProofBridge
