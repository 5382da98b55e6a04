import ProofBridge.Disputes.Instants
import ProofBridge.Grace.Held

/-!
# A denial stands

An order whose co-signed payout is denied stays denied while it lives: by the levers without end, by
a dead slot for the 30 days that the registry keeps the slot's record while the AdManager guards the
account. No grace reaches that far past a lock, so no cancel comes before the grace of an order that
was entitled to it.
-/

namespace ProofBridge
namespace Grace

open ContractLib
open AdManager (OrderParams CollisionFree)
open KeyRegistry (Neighbors GRACE_PERIOD)
open Disputes (sampleOrderHash)

variable {X Y : Type} {O : Outside X} {N : Neighbors Y} {H : Host} {KH : KeyHost}
  {aroundAd : X → X → Prop} {aroundKeys : Y → Y → Prop} {R : Address}
  {verifierOf : Address → Option Address} {env : Env}

section Runs

variable {x : X} {y : Y} {earlier later : JointHistory} {chainId : U128}
  {known : List OrderParams} {orderHash : BytesN32} {params : OrderParams} {slot : U32}
  {lockedAt : ℕ} {s : AdManager.Chain X} {p q : AdManager.Chain X × KeyRegistry.Chain Y}

/-- Over a run, a leg that is live was live before. -/
theorem live_of_run {s₀ : AdManager.Chain X} {history : AdManager.History}
    (run : Run (AdManager.system O H aroundAd) s₀ history s)
    (hlocked : (AdManager.leg orderHash s₀).record.status ≠ .none)
    (hlive : s.live orderHash = true) : s₀.live orderHash = true := by
  by_contra hdead
  have hterminal := terminal_of_dead hlocked hdead
  have hlive : (AdManager.leg orderHash s).record.status.live = true := hlive
  rw [AdManager.terminal_of_run run hterminal] at hlive
  exact hdead hlive

/-- Over a run, an order not re-pinned was not re-pinned before. -/
theorem pin_of_run {s₀ : AdManager.Chain X} {history : AdManager.History}
    (run : Run (AdManager.system O H aroundAd) s₀ history s)
    (hlocked : (AdManager.leg orderHash s₀).record.status ≠ .none)
    (hpin : (AdManager.leg orderHash s).record.repinned = false) :
    (AdManager.leg orderHash s₀).record.repinned = false := by
  have hkept := run.preserves (R := fun s => (AdManager.leg orderHash s).record.status ≠ .none ∧
    ((AdManager.leg orderHash s).record.repinned = false →
      (AdManager.leg orderHash s₀).record.repinned = false)) ⟨hlocked, id⟩ ?_ ?_
  · exact hkept.2 hpin
  · rintro s ⟨env, call⟩ ret s' ⟨hexists, ih⟩ ok
    have hleg := AdManager.legStep_of_step (AdManager.step_of_exec ok) orderHash
    exact ⟨(hleg.stamp hexists).2, fun hpin => ih (pin_before hleg hexists hpin).1⟩
  · rintro s s' h ⟨w, -, rfl⟩
    exact h

/-- The expiry of a slot that was pinned and is dead now is remembered for 30 days from the lock. -/
theorem expiry_of_run {history later : JointHistory} {limit : ℕ}
    (run : Run (joint O N H KH aroundAd aroundKeys R verifierOf)
      (AdManager.Chain.fresh x, KeyRegistry.Chain.fresh y) history p)
    (hheld : Held R orderHash params slot lockedAt [] p.1 p.2)
    (second : Run (joint O N H KH aroundAd aroundKeys R verifierOf) p later q)
    (hlater : ∀ e ∈ later, lockedAt ≤ calledAt e)
    (hchain : ∀ config, q.1.core.settings.config = some config → config.chainId = chainId)
    (hfree : CollisionFree H chainId known)
    (hknown : AdManager.ordersOf (lefts (later ++ history)) ⊆ known) (hmem : params ∈ known)
    (hhash : AdManager.hashOrder H params chainId = .ok orderHash)
    (hlive : q.1.live orderHash = true)
    (hexpired : p.2.keys.expiredAt params.adSettlementSigner slot ≠ 0 ∧
      p.2.keys.expiredAt params.adSettlementSigner slot ≤ limit) :
    (q.2.keys.expiredAt params.adSettlementSigner slot ≠ 0 ∧
      q.2.keys.expiredAt params.adSettlementSigner slot ≤ limit) ∨
    ∃ e ∈ later, lockedAt + GRACE_PERIOD < calledAt e := by
  have hheld' := held_of_run run hheld second hlater hchain hfree hknown hmem hhash
  rcases (hheld'.remembered hlive).stored with hstored | ⟨t, ht, hover⟩
  · left
    obtain ⟨hmoves, -⟩ := KeyRegistry.moves_of_run run.right hheld.allocated second.right
    have hmoved : (q.2.keys.lifetime params.adSettlementSigner slot).1.isSome = true := hstored
    have hbefore := stored_of_moves hmoves hmoved
    obtain ⟨slot₁, hslot₁⟩ := Option.isSome_iff_exists.mp hbefore
    obtain ⟨slot₂, hslot₂⟩ := Option.isSome_iff_exists.mp hstored
    rw [KeyRegistry.expiredAt_eq (KeyRegistry.exact_of_run run.right) hslot₁] at hexpired
    rw [KeyRegistry.expiredAt_eq (KeyRegistry.exact_of_run (run.right.trans second.right)) hslot₂]
    obtain ⟨hne, hle⟩ := hmoves.earlier hmoved hexpired.1
    exact ⟨hne, hle.trans hexpired.2⟩
  · obtain ⟨e, he, rfl⟩ := List.mem_map.mp ht
    exact .inr ⟨e, he, hover⟩

/-- **A denial stands.** Whatever is called of either contract after the lock's second, an order denied
once is denied while it lives, or was locked more than 30 days ago. -/
theorem denial_stands {history later : JointHistory} {maker : Address} {limit : ℕ}
    (run : Run (joint O N H KH aroundAd aroundKeys R verifierOf)
      (AdManager.Chain.fresh x, KeyRegistry.Chain.fresh y) history p)
    (second : Run (joint O N H KH aroundAd aroundKeys R verifierOf) p later q)
    (hchron : Chronological history) (hlater : ∀ e ∈ later, env.now < calledAt e)
    (hlock : lockCall env params slot orderHash ∈ history)
    (hregistry : p.1.registries.get? (p.1.core.ledger.getOrder orderHash).registryEpoch = some R)
    (hchain : ∀ config, q.1.core.settings.config = some config → config.chainId = chainId)
    (hfree : CollisionFree H chainId known)
    (hknown : AdManager.ordersOf (lefts (later ++ history)) ⊆ known)
    (hp : Answered O N H R verifierOf p) (hq : Answered O N H R verifierOf q)
    (hlive : q.1.live orderHash = true)
    (hdenied : AdManager.coSignDenied O maker params orderHash limit p.1 = .ok true) :
    AdManager.coSignDenied O maker params orderHash limit q.1 = .ok true ∨
      ∃ e ∈ later, env.now + GRACE_PERIOD < calledAt e := by
  have hchainₚ := chainId_before run.left second.left hchain
  obtain ⟨earlier, between, a, b, version, delay, rfl, first, lock, since, hhash, hlocked, hheld⟩ :=
    cut_at_lock run hchron hchainₚ hlock hregistry
  have hsince : ∀ e ∈ between, env.now ≤ calledAt e := fun e he =>
    (List.pairwise_append.mp hchron).2.2 e he _ List.mem_cons_self
  have hmem := hknown (mem_orders_of_lock (List.mem_append_right later hlock))
  have hknownₚ := orders_of_subset hknown (List.subset_append_right later _)
  have hheldₚ := held_of_run lock hheld since hsince hchainₚ hfree hknownₚ hmem hhash
  have hlater' : ∀ e ∈ later, env.now ≤ calledAt e := fun e he => (hlater e he).le
  have hliveₚ := live_of_run second.left hheldₚ.locked hlive
  have hheld' : Held R orderHash params slot env.now ((later ++ between).map calledAt) q.1 q.2 := by
    refine held_of_run lock hheld (since.trans second) ?_ hchain hfree ?_ hmem hhash
    · intro e he
      rcases List.mem_append.mp he with he | he
      · exact hlater' e he
      · exact hsince e he
    · rw [List.append_assoc]
      exact hknown
  rw [coSignDenied_iff hheldₚ.registry hp.verifiers (hp.expiry _ _)] at hdenied
  rw [coSignDenied_iff hheld'.registry hq.verifiers (hq.expiry _ _)]
  have hstampₚ : (p.1.core.ledger.getOrder orderHash).lockedAt = env.now := hheldₚ.stamped
  have hstamp' : (q.1.core.ledger.getOrder orderHash).lockedAt = env.now := hheld'.stamped
  rw [hstampₚ] at hdenied
  rw [hstamp']
  cases hpin : (q.1.core.ledger.getOrder orderHash).repinned with
  | true => exact .inl (.inl rfl)
  | false =>
    have hpinₚ : (p.1.core.ledger.getOrder orderHash).repinned = false :=
      pin_of_run second.left hheldₚ.locked hpin
    have hslotₚ : (p.1.core.ledger.getOrder orderHash).pinnedSlot = slot := hheldₚ.pinned hpinₚ
    have hslot' : (q.1.core.ledger.getOrder orderHash).pinnedSlot = slot := hheld'.pinned hpin
    rw [hslotₚ] at hdenied
    rw [hslot']
    rcases hdenied with hrepinned | hdenies | hexpired
    · rw [hpinₚ] at hrepinned
      cases hrepinned
    · left
      right
      left
      exact denies_of_run second.left (fun e he => lt_of_mem_lefts hlater he) hdenies
    · -- the dead slot is still stored, and the pair goes on from here
      have hrestart : Held R orderHash params slot env.now [] p.1 p.2 := by
        refine { hheldₚ with remembered := fun _ => ⟨(hheldₚ.remembered hliveₚ).floor, .inl ?_⟩ }
        by_contra hgone
        rw [Option.not_isSome_iff_eq_none] at hgone
        apply hexpired.1
        unfold KeyRegistry.Keys.expiredAt
        rw [hgone]
      rcases expiry_of_run run hrestart second hlater' hchain hfree hknown hmem hhash hlive hexpired
        with hstands | hover
      · exact .inl (.inr (.inr hstands))
      · exact .inr hover

end Runs

/-! ## The grace -/

section Clocks

variable {x : X} {s s₀ s' : AdManager.Chain X} {history history₀ : AdManager.History}
  {chainId : U128} {known : List OrderParams} {orderHash : BytesN32} {params : OrderParams}
  {t : RouteTiming}

/-- The clocks an order opened under, and the window's end a claim of it wrote. -/
structure Clocked (orderHash : BytesN32) (params : OrderParams) (t : RouteTiming)
    (s : AdManager.Chain X) : Prop where
  timing : Escrow.orderTiming orderHash params.orderChainId s.core = .ok t
  claim : ∀ claim, s.core.ledger.claims.get? orderHash = some claim →
    claim.finalizeAt = saturatingAdd params.deadline.toNat t.buffer

theorem Clocked.step {call : AdManager.Call} {ret : AdManager.Ret}
    (h : Clocked orderHash params t s) (hsound : s.Sound)
    (hlocked : (AdManager.leg orderHash s).record.status ≠ .none)
    (hchain : ∀ config, s.core.settings.config = some config → config.chainId = chainId)
    (hsame : ∀ p, call.params? = some p → AdManager.hashOrder H p chainId = .ok orderHash →
      p = params)
    (hstep : AdManager.Step O H env s call ret s') : Clocked orderHash params t s' := by
  obtain ⟨hstamp, -⟩ := (AdManager.legStep_of_step hstep orderHash).stamp hlocked
  simp only [AdManager.OrderRecord.stamp, Prod.mk.injEq] at hstamp
  have hversion : (s'.core.ledger.getOrder orderHash).timingVersion
    = (s.core.ledger.getOrder orderHash).timingVersion := hstamp.2.2.1
  have hgrows := (AdManager.settings_of_step hstep hsound).2.settings
  have htiming := h.timing
  unfold Escrow.orderTiming at htiming
  constructor
  · unfold Escrow.orderTiming
    rw [hversion]
    exact Check.expect_ok.mpr (hgrows.timings _ _ _ (Check.expect_ok.mp htiming))
  · intro claim hclaim
    rcases AdManager.claim_of_step hstep hclaim with hbefore |
      ⟨p, config, t', rfl, hconfig, hhash, htiming', hfinal⟩
    · exact h.claim claim hbefore
    · rw [hchain _ hconfig] at hhash
      obtain rfl := hsame p rfl hhash
      rw [h.timing] at htiming'
      obtain rfl := Except.ok.inj htiming'
      exact hfinal

end Clocks

section Runs

variable {x : X} {y : Y} {chainId : U128} {known : List OrderParams} {orderHash : BytesN32}
  {params : OrderParams} {slot : U32} {t : RouteTiming}
  {a b p q : AdManager.Chain X × KeyRegistry.Chain Y}

theorem delay_le (hcapped : Disputes.Capped O) {s : AdManager.Chain X} {delay : ℕ}
    (h : AdManager.anchorDelayNow O chainId s = .ok delay) :
    delay ≤ RootAnchor.MAX_ANCHOR_DELAY := by
  unfold AdManager.anchorDelayNow at h
  split at h
  · rw [← Except.ok.inj h]
    exact Nat.zero_le _
  · obtain ⟨answer, hanswer, h⟩ := Check.bind_ok.mp h
    rw [Check.pure_ok.mp h]
    exact hcapped _ _ _ _ (Check.expect_ok.mp hanswer)

end Runs

/-! ## A slot killed under a lock

The world of the sample answers each contract from a copy of the other's state, brought up to date
after every call. -/

/-- Balances, beside the registry's keys. -/
abbrev Mirror := Bank × KeyRegistry.Keys

def mirrorWorld : Outside Mirror where
  transfer w env token payer payee amount :=
    (Bank.transfer w.1 env token payer payee amount).map fun b => (b, w.2)
  balance w token holder := some (w.1.balance token holder)
  decimals _ _ := some 7
  appendOrderHash w _ _ _ _ _ := some w
  verifyProof _ _ _ _ := true
  isRootValid _ _ _ _ _ _ := some true
  isAnchored _ _ _ _ _ := true
  anchorDelay _ _ _ := some 3600
  verifierRegistry _ _ := some (.contract 0x4B)
  hasUsableSlot _ _ _ _ := some true
  isApprovedMaker _ _ _ _ := true
  slotUsable w env _ account slot := (w.2.commitmentAt account env slot).toBool
  expiredAt w _ account slot := some (BitVec.ofNat 64 (w.2.expiredAt account slot))
  repinApproval _ _ _ _ := none
  openDispute w _ _ _ := .ok (0, w)
  settleBond w _ _ _ := .ok w
  recordResponse w _ _ _ := .ok w
  outcomeOf _ _ _ _ := .ok (.none, true, none)
  initiatorOf _ _ _ _ := .ok none
  challengeDeadlineOf _ _ _ _ := .ok 0

/-- The AdManager's positions, as the registry reads them. -/
def mirrorNeighbors : Neighbors (BytesN32 → Bool) where
  hasOpenPositions positions guard account :=
    if guard = .contract 0xAD then some (positions account) else none
  isAnchored _ _ _ _ _ := false
  verifyProof _ _ _ _ := false

abbrev SampleState := AdManager.Chain Mirror × KeyRegistry.Chain (BytesN32 → Bool)

abbrev sampleJoint :=
  joint mirrorWorld mirrorNeighbors (sampleHost 0xAD) KeyRegistry.sampleKeyHost
    (fun w w' => w'.1 = w.1) (fun _ _ => True) (.contract 0x4B) fun _ => some (.contract 0x4B)

/-- Bring both copies up to date. -/
def sync (p : SampleState) : SampleState :=
  ({ p.1 with core := { p.1.core with outside := (p.1.core.outside.1, p.2.keys) } },
    { p.2 with outside := fun account => AdManager.hasOpenPositions account p.1 })

theorem run_sync {start p : SampleState} {history : JointHistory}
    (run : Run sampleJoint start history p) : Run sampleJoint start history (sync p) := by
  have hleft : Run sampleJoint start history
      ({ p.1 with core := { p.1.core with outside := (p.1.core.outside.1, p.2.keys) } }, p.2) :=
    .outside run (.inl ⟨⟨(p.1.core.outside.1, p.2.keys), rfl, rfl⟩, rfl⟩)
  exact .outside hleft (.inr ⟨⟨_, trivial, rfl⟩, rfl⟩)

/-- Every date the registry holds fits its width. -/
def Dated (k : KeyRegistry.Keys) : Prop :=
  (∀ e ∈ k.slots.entries, e.2.validUntil < 2 ^ 64) ∧ ∀ e ∈ k.expiries.entries, e.2 < 2 ^ 64

instance (k : KeyRegistry.Keys) : Decidable (Dated k) :=
  inferInstanceAs (Decidable (_ ∧ _))

theorem expiredAt_lt {k : KeyRegistry.Keys} (h : Dated k) (account : BytesN32) (slot : U32) :
    k.expiredAt account slot < 2 ^ 64 := by
  have hrecorded : k.getExpiredAt account slot < 2 ^ 64 := by
    unfold KeyRegistry.Keys.getExpiredAt
    cases hget : k.expiries.get? (account, slot) with
    | none => exact Nat.two_pow_pos 64
    | some recorded => exact h.2 _ (AList.mem_lookup_iff.mp hget)
  unfold KeyRegistry.Keys.expiredAt
  split
  · next stored hget =>
    have hdate := h.1 _ (AList.mem_lookup_iff.mp hget)
    split
    · split
      · exact hdate
      · exact hrecorded
    · exact Nat.two_pow_pos 64
  · exact Nat.two_pow_pos 64

theorem answered_sync {p : SampleState} (h : Dated p.2.keys) :
    Answered mirrorWorld mirrorNeighbors (sampleHost 0xAD) (.contract 0x4B)
      (fun _ => some (.contract 0x4B)) (sync p) := by
  constructor
  · intro env account slot husable
    have husable : (p.2.keys.commitmentAt account env slot).toBool = true := husable
    cases hread : p.2.keys.commitmentAt account env slot with
    | ok commitment => exact ⟨commitment, hread⟩
    | error e =>
      rw [hread] at husable
      cases husable
  · intro account slot
    show some (BitVec.ofNat 64 (p.2.keys.expiredAt account slot)).toNat = _
    rw [BitVec.toNat_ofNat, Nat.mod_eq_of_lt (expiredAt_lt h account slot)]
    rfl
  · intro verifier
    rfl
  · intro account
    rfl

/-- A call the sample may make: nobody signs as the AdManager, which guards its positions. -/
def ready (p : SampleState) (t : JointCall) : Bool :=
  decide (Dated p.2.keys) &&
    match t with
    | .inl t => !t.1.authorized (.contract 0xAD)
    | .inr _ => decide (p.1.core.ledger.inFlight.entries = [] ∨
        .contract 0xAD ∈ p.2.state.guards.getD [])

/-- Play a script, with the copies brought up to date before every call. -/
def playSynced : List JointCall → JointHistory → SampleState → Option (JointHistory × SampleState)
  | [], history, p => some (history, sync p)
  | t :: ts, history, p =>
    if ready (sync p) t then
      match sampleJoint.call t (sync p) with
      | .ok (r, p') => playSynced ts ((t, r) :: history) p'
      | .error _ => none
    else none

theorem admits_of_ready {p : SampleState} {t : JointCall} (h : ready (sync p) t = true) :
    sampleJoint.admits (sync p) t := by
  unfold ready at h
  rw [Bool.and_eq_true, decide_eq_true_eq] at h
  obtain ⟨hdated, h⟩ := h
  have hanswered := answered_sync (p := p) hdated
  cases t with
  | inl t =>
    have hself : t.1.authorized (.contract 0xAD) = false := by simpa using h
    exact ⟨⟨hanswered, trivial⟩, hself⟩
  | inr t =>
    refine ⟨⟨hanswered, ?_⟩, trivial⟩
    intro account hopen
    rcases of_decide_eq_true h with hnone | hguards
    · have hcount : 0 < (sync p).1.core.ledger.getInFlight account := of_decide_eq_true hopen
      unfold Ledger.getInFlight Map.get? AList.lookup at hcount
      rw [hnone] at hcount
      cases hcount
    · exact hguards

theorem run_of_playSynced {start p p' : SampleState} {ts : List JointCall}
    {history history' : JointHistory} (run : Run sampleJoint start history p)
    (played : playSynced ts history p = some (history', p')) :
    Run sampleJoint start history' p' := by
  induction ts generalizing history p with
  | nil =>
    cases played
    exact run_sync run
  | cons t ts ih =>
    unfold playSynced at played
    split at played
    · next hready =>
      split at played
      · next r p₁ hok => exact ih ((run_sync run).accepted (admits_of_ready hready) hok) played
      · cases played
    · cases played

theorem calls_of_playSynced {p p' : SampleState} {ts : List JointCall}
    {history history' : JointHistory} (played : playSynced ts history p = some (history', p')) :
    history'.map Prod.fst = ts.reverse ++ history.map Prod.fst := by
  induction ts generalizing history p with
  | nil =>
    cases played
    rfl
  | cons t ts ih =>
    unfold playSynced at played
    split at played
    · split at played
      · rw [ih played]
        simp
      · cases played
    · cases played

theorem possession_length : (List.replicate 192 (0 : UInt8)).length = 192 := List.length_replicate

/-- A key with one slot, and one order locked on it; the key is then killed. -/
def killedCalls : List JointCall :=
  [.inr (sampleEnv 100, .initializeContract (.account 0x0A) 1 (ascii "testnet")),
    .inr (sampleEnv 100, .setPositionGuards [.contract 0xAD]),
    .inr (sampleEnv 1000, .register 0x3A (.stellar (.account 0x3A)) KeyRegistry.sampleKey
      ⟨List.replicate 192 0, possession_length⟩ 0 2000)] ++
  ([.initializeContract (.account 0x0A) (.contract 0x77) (.contract 0x78) (.contract 0x79) 2,
    .setKeyRegistry (.contract 0x4B), .setChain 1 0x50, .setTokenRoute 0x22 0x11 1,
    .setRouteTiming 1 ⟨3600, 86400, 600, 600⟩, .setRootVerifier 1 (.contract 0x7B),
    .setRootAnchor (.contract 0x7C), .setProtocolFeePool 0xFE, .setFeeBps 10 5,
    .createAd (.account 0x3A) [97, 100, 45, 49] 0x22 500000 1 0x3B 0x3A,
    .lockForOrder AdManager.sampleParams 0].map fun call => .inl (sampleEnv 1000, call)) ++
  [.inr (sampleEnv 1200, .setValidUntil 0x3A (.stellar (.account 0x3A))
    (keyCommitment KeyRegistry.sampleKeyHost.toHost KeyRegistry.sampleKey) 1)]

def sampleStart : SampleState :=
  (.fresh (AdManager.sampleStart, .fresh), .fresh fun _ => false)

def killed : JointHistory × SampleState :=
  (playSynced killedCalls [] sampleStart).getD ([], sampleStart)

/-- The maker claims the window's end, and finalizes the cancel later. -/
def claimedLock : JointHistory × SampleState :=
  (playSynced [.inl (sampleEnv 8300, .claimCancel AdManager.sampleParams)] [] killed.2).getD
    ([], killed.2)

theorem played_killed :
    playSynced killedCalls [] sampleStart = some (killed.1, killed.2) := by
  have hplays : (playSynced killedCalls [] sampleStart).isSome = true := by decide +kernel
  obtain ⟨r, hr⟩ := Option.isSome_iff_exists.mp hplays
  unfold killed
  rw [hr]
  rfl

theorem played_claimedLock :
    playSynced [.inl (sampleEnv 8300, .claimCancel AdManager.sampleParams)] [] killed.2
      = some (claimedLock.1, claimedLock.2) := by
  have hplays : (playSynced [.inl (sampleEnv 8300, .claimCancel AdManager.sampleParams)] []
    killed.2).isSome = true := by decide +kernel
  obtain ⟨r, hr⟩ := Option.isSome_iff_exists.mp hplays
  unfold claimedLock
  rw [hr]
  rfl

theorem lock_killed :
    lockCall (sampleEnv 1000) AdManager.sampleParams 0 sampleOrderHash ∈ killed.1 := by
  have hret : (killed.1[1]?).map Prod.snd = some (.inl (.order sampleOrderHash)) := by
    decide +kernel
  have hcall : (killed.1[1]?).map Prod.fst
      = some (.inl (sampleEnv 1000, .lockForOrder AdManager.sampleParams 0)) := by
    rw [← List.getElem?_map, calls_of_playSynced played_killed]
    rfl
  obtain ⟨e, he, hfst⟩ := Option.map_eq_some_iff.mp hcall
  rw [he] at hret
  obtain rfl : e = lockCall (sampleEnv 1000) AdManager.sampleParams 0 sampleOrderHash :=
    Prod.ext hfst (Option.some.inj hret)
  exact List.mem_of_getElem? he

theorem answered_of_playSynced {p p' : SampleState} {ts : List JointCall}
    {history history' : JointHistory} (played : playSynced ts history p = some (history', p'))
    (hdated : Dated p'.2.keys) :
    Answered mirrorWorld mirrorNeighbors (sampleHost 0xAD) (.contract 0x4B)
      (fun _ => some (.contract 0x4B)) p' := by
  induction ts generalizing history p with
  | nil =>
    cases played
    exact answered_sync hdated
  | cons t ts ih =>
    unfold playSynced at played
    split at played
    · split at played
      · exact ih played
      · cases played
    · cases played

theorem chainId_claimedLock (config : ContractConfig)
    (h : claimedLock.2.1.core.settings.config = some config) : config.chainId = 2 := by
  have hchain : claimedLock.2.1.core.settings.config.map (·.chainId) = some 2 := by decide +kernel
  rw [h] at hchain
  exact Option.some.inj hchain

theorem orders_claimedLock :
    AdManager.ordersOf (lefts (claimedLock.1 ++ killed.1)) ⊆ [AdManager.sampleParams] := by
  have horders : AdManager.ordersOf (lefts (claimedLock.1 ++ killed.1))
    = [AdManager.sampleParams, AdManager.sampleParams] := by decide +kernel
  rw [horders]
  simp

/-- The key was killed at 1200, and denies the unlock up to the cutoff ever after. -/
theorem denial_stands_sample :
    AdManager.coSignDenied mirrorWorld (.account 0x3A) AdManager.sampleParams sampleOrderHash 94000
      claimedLock.2.1 = .ok true := by
  have hstands : AdManager.coSignDenied mirrorWorld (.account 0x3A) AdManager.sampleParams
      sampleOrderHash 94000 claimedLock.2.1 = .ok true ∨
      ∃ e ∈ claimedLock.1, (sampleEnv 1000).now + GRACE_PERIOD < calledAt e :=
    denial_stands (run_of_playSynced .start played_killed)
      (run_of_playSynced .start played_claimedLock) (by decide +kernel) (by decide +kernel)
      lock_killed (by decide +kernel) chainId_claimedLock AdManager.sample_collisionFree
      orders_claimedLock (answered_of_playSynced played_killed (by decide +kernel))
      (answered_of_playSynced played_claimedLock (by decide +kernel)) (by decide +kernel)
      (by decide +kernel)
  refine hstands.resolve_right ?_
  decide +kernel

end Grace
end ProofBridge
