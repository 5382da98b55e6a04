import ProofBridge.Grace.Levers
import ProofBridge.Grace.Memory
import ProofBridge.Lib.Pair

/-!
# An order beside its registry

The AdManager and the key registry an order was locked under share a chain and call each other.
`Held` is what the two of them keep of the order from its lock on, whatever is called of either: the
registry it names, the slot it pins, and what the registry remembers of that slot while the order
lives.
-/

namespace ProofBridge
namespace Grace

open ContractLib
open AdManager (OrderParams CollisionFree)
open KeyRegistry (Neighbors GRACE_PERIOD)

variable {X Y : Type} {O : Outside X} {N : Neighbors Y} {H : Host} {KH : KeyHost}
  {aroundAd : X → X → Prop} {aroundKeys : Y → Y → Prop} {R : Address}
  {verifierOf : Address → Option Address} {env : Env}

/-! ## The pair -/

/-- The registry at `R` and the AdManager answer each other from their own states. -/
structure Answered (O : Outside X) (N : Neighbors Y) (H : Host) (R : Address)
    (verifierOf : Address → Option Address) (p : AdManager.Chain X × KeyRegistry.Chain Y) :
    Prop where
  /-- `commitment_at`. -/
  usable : ∀ env account slot, O.slotUsable p.1.core.outside env R account slot = true →
    ∃ commitment, p.2.keys.commitmentAt account env slot = .ok commitment
  /-- `expired_at`. -/
  expiry : ∀ account slot, (O.expiredAt p.1.core.outside R account slot).map (·.toNat)
    = some (p.2.keys.expiredAt account slot)
  /-- `registry()` of a root verifier, which never changes. -/
  verifiers : ∀ verifier, O.verifierRegistry p.1.core.outside verifier = verifierOf verifier
  /-- `has_open_positions`. -/
  positions : ∀ account, N.hasOpenPositions p.2.outside H.address account
    = some (AdManager.hasOpenPositions account p.1)

/-- The AdManager is one of the registry's guards while it holds a position. -/
def Guarding (H : Host) (p : AdManager.Chain X × KeyRegistry.Chain Y) : Prop :=
  ∀ account, AdManager.hasOpenPositions account p.1 = true →
    H.address ∈ p.2.state.guards.getD []

/-- An AdManager and a key registry on one chain, and what is promised between them. -/
def joint (O : Outside X) (N : Neighbors Y) (H : Host) (KH : KeyHost) (aroundAd : X → X → Prop)
    (aroundKeys : Y → Y → Prop) (R : Address) (verifierOf : Address → Option Address) :=
  (AdManager.system O H aroundAd).pair (KeyRegistry.system N KH aroundKeys) fun p t =>
    Answered O N H R verifierOf p ∧
      match t with
      | .inl _ => True
      | .inr _ => Guarding H p

abbrev JointCall := (Env × AdManager.Call) ⊕ (Env × KeyRegistry.Call)

abbrev JointHistory := List (JointCall × (AdManager.Ret ⊕ KeyRegistry.Ret))

/-- The time of the block a call ran in. -/
def calledAt (e : JointCall × (AdManager.Ret ⊕ KeyRegistry.Ret)) : ℕ :=
  match e.1 with
  | .inl t => t.1.now
  | .inr t => t.1.now

/-- Both contracts run in the blocks of one chain. -/
def Chronological (history : JointHistory) : Prop :=
  history.Pairwise fun later earlier => calledAt earlier ≤ calledAt later

instance (history : JointHistory) : Decidable (Chronological history) :=
  inferInstanceAs (Decidable (List.Pairwise _ _))

theorem lt_of_mem_lefts {history : JointHistory} {bound : ℕ}
    (h : ∀ e ∈ history, bound < calledAt e) {e : (Env × AdManager.Call) × AdManager.Ret}
    (he : e ∈ lefts history) : bound < e.1.1.now := by
  obtain ⟨e', he', hleft⟩ := List.mem_filterMap.mp he
  have hlater := h e' he'
  split at hleft
  · cases hleft
    exact hlater
  · cases hleft

theorem le_of_mem_rights {history : JointHistory} {bound : ℕ}
    (h : ∀ e ∈ history, calledAt e ≤ bound) {t : ℕ}
    (ht : t ∈ (rights history).map KeyRegistry.calledAt) : t ≤ bound := by
  obtain ⟨e, he, rfl⟩ := List.mem_map.mp ht
  obtain ⟨e', he', hright⟩ := List.mem_filterMap.mp he
  have hearlier := h e' he'
  split at hright
  · cases hright
    exact hearlier
  · cases hright

/-! ## One order -/

section Order

variable {orderHash : BytesN32} {params : OrderParams} {slot : U32} {lockedAt : ℕ}
  {times : List ℕ} {s s' : AdManager.Chain X} {c c' : KeyRegistry.Chain Y}

theorem terminal_of_dead {status : Status} (hlocked : status ≠ .none) (hdead : ¬status.live = true) :
    status.terminal = true := by
  revert hlocked hdead
  cases status <;> decide

/-- A leg once locked that is live after a call was live before it. -/
theorem live_before {now : ℕ} {l l' : AdManager.Leg} (hstep : AdManager.LegStep now l l')
    (hlocked : l.record.status ≠ .none) (hlive : l'.record.status.live = true) :
    l.record.status.live = true := by
  by_contra hdead
  rw [hstep.terminal (terminal_of_dead hlocked hdead)] at hlive
  exact hdead hlive

/-- A leg's pin moves only by a re-pin, which stays marked. -/
theorem pin_before {now : ℕ} {l l' : AdManager.Leg} (hstep : AdManager.LegStep now l l')
    (hlocked : l.record.status ≠ .none) (hpin : l'.record.repinned = false) :
    l.record.repinned = false ∧ l'.record.pinnedSlot = l.record.pinnedSlot := by
  cases hstep with
  | locked hnew => exact absurd hnew hlocked
  | repinned => cases hpin
  | _ => exact ⟨hpin, rfl⟩

/-- What the two contracts keep of an order locked at `lockedAt` under the registry at `R`, with `slot`
pinned, after calls at the times `times`. -/
structure Held (R : Address) (orderHash : BytesN32) (params : OrderParams) (slot : U32)
    (lockedAt : ℕ) (times : List ℕ) (s : AdManager.Chain X) (c : KeyRegistry.Chain Y) : Prop where
  locked : (AdManager.leg orderHash s).record.status ≠ .none
  stamped : (AdManager.leg orderHash s).record.lockedAt = lockedAt
  registry : s.registries.get? (AdManager.leg orderHash s).record.registryEpoch = some R
  pinned : (AdManager.leg orderHash s).record.repinned = false →
    (AdManager.leg orderHash s).record.pinnedSlot = slot
  allocated : c.keys.Allocated params.adSettlementSigner slot
  remembered : s.live orderHash = true →
    Remembered lockedAt times c.keys params.adSettlementSigner slot

theorem Remembered.later {start : ℕ} {k : KeyRegistry.Keys} {account : BytesN32} {id : U32}
    (h : Remembered start times k account id) (now : ℕ) :
    Remembered start (now :: times) k account id := by
  refine ⟨h.floor, ?_⟩
  rcases h.stored with hstored | ⟨t, ht, hover⟩
  · exact .inl hstored
  · exact .inr ⟨t, List.mem_cons_of_mem _ ht, hover⟩

/-- A call of the AdManager keeps it. -/
theorem Held.ad {call : AdManager.Call} {ret : AdManager.Ret}
    (h : Held R orderHash params slot lockedAt times s c) (hsound : (levers s).Sound)
    (ok : AdManager.exec O H env call s = .ok (ret, s')) :
    Held R orderHash params slot lockedAt (env.now :: times) s' c := by
  have hleg := AdManager.legStep_of_step (AdManager.step_of_exec ok) orderHash
  obtain ⟨hstamp, hlocked⟩ := hleg.stamp h.locked
  simp only [AdManager.OrderRecord.stamp, Prod.mk.injEq] at hstamp
  obtain ⟨hlockedAt, hepoch, -, -⟩ := hstamp
  constructor
  · exact hlocked
  · exact hlockedAt.trans h.stamped
  · rw [hepoch]
    exact (leverStep_of_exec ok).epoch_kept hsound h.registry
  · intro hpin
    obtain ⟨hbefore, hsame⟩ := pin_before hleg h.locked hpin
    exact hsame.trans (h.pinned hbefore)
  · exact h.allocated
  · intro hlive
    exact (h.remembered (live_before hleg h.locked hlive)).later _

/-- So does a call of the registry, which the AdManager guards. -/
theorem Held.key {call : KeyRegistry.Call} {ret : KeyRegistry.Ret}
    (h : Held R orderHash params slot lockedAt times s c)
    (hsound : ∀ account, c.keys.Sound account)
    (hexact : ∀ id, ∃ times, (c.keys.lifetime params.adSettlementSigner id).Exact times)
    (hguard : s.live orderHash = true → Guarded N c params.adSettlementSigner)
    (hnow : lockedAt ≤ env.now)
    (ok : KeyRegistry.exec N KH env call c = .ok (ret, c')) :
    Held R orderHash params slot lockedAt (env.now :: times) s c' := by
  have hstep := (KeyRegistry.step_of_exec (fun account => (hsound account).nodup) ok).1
  constructor
  · exact h.locked
  · exact h.stamped
  · exact h.registry
  · exact h.pinned
  · exact h.allocated.trans_le hstep.next_le
  · intro hlive
    exact remembered_of_step hstep hsound hexact h.allocated (hguard hlive) hnow
      (h.remembered hlive)

end Order

/-! ## From the lock on -/

section Runs

variable {x : X} {y : Y} {earlier later : JointHistory} {chainId : U128}
  {known : List OrderParams} {orderHash : BytesN32} {params : OrderParams} {slot : U32}
  {lockedAt : ℕ} {s : AdManager.Chain X} {a b p q : AdManager.Chain X × KeyRegistry.Chain Y}

theorem orders_of_subset {history : JointHistory}
    (hknown : AdManager.ordersOf (lefts history) ⊆ known) (h : earlier ⊆ history) :
    AdManager.ordersOf (lefts earlier) ⊆ known :=
  fun _ hmem => hknown (List.filterMap_subset _ (List.filterMap_subset _ h) hmem)

/-- The signer of a live order has a position. -/
theorem position_of_run
    (run : Run (AdManager.system O H aroundAd) (AdManager.Chain.fresh x) (lefts earlier) s)
    (hchain : ∀ config, s.core.settings.config = some config → config.chainId = chainId)
    (hfree : CollisionFree H chainId known)
    (hknown : AdManager.ordersOf (lefts earlier) ⊆ known) (hmem : params ∈ known)
    (hhash : AdManager.hashOrder H params chainId = .ok orderHash)
    (hlive : s.live orderHash = true) :
    AdManager.hasOpenPositions params.adSettlementSigner s = true := by
  have hlocks := AdManager.locks_of_run run hchain hfree hknown
  have hsub : ∀ e ∈ AdManager.book (lefts earlier), e.2 ∈ known :=
    fun e he => hknown (AdManager.mem_ordersOf_of_mem_book he)
  have hentry := hlocks.entry hfree hsub hmem hhash hlive
  obtain ⟨ad, amount, hpayable⟩ := hlocks.payable hentry hlive
  exact decide_eq_true hpayable.counted

/-- What a lock wrote of its order. -/
structure LockedAs (O : Outside X) (env : Env) (orderHash : BytesN32) (params : OrderParams)
    (slot : U32) (version delay : ℕ) (s s' : AdManager.Chain X) : Prop where
  fresh : s.core.ledger.status orderHash = .none
  usable : AdManager.requireSlotUsable O env s.keyRegistry params.adSettlementSigner slot s = .ok ()
  window : Escrow.requireMinWindow env params.orderChainId params.deadline.toNat s.core
    = .ok version
  anchored : AdManager.anchorDelayNow O params.orderChainId s = .ok delay
  record : s'.core.ledger.getOrder orderHash =
    { status := .opened, lockedAt := env.now, registryEpoch := s.registryEpoch
      timingVersion := version, anchorDelay := min delay (2 ^ 32 - 1), pinnedSlot := slot
      repinned := false }
  claims : s'.core.ledger.claims = s.core.ledger.claims
  settings : s'.core.settings = s.core.settings
  registries : s'.registries = s.registries

theorem lockedAs_of_exec {s' : AdManager.Chain X}
    (hchain : ∀ config, s.core.settings.config = some config → config.chainId = chainId)
    (ok : AdManager.exec O H env (.lockForOrder params slot) s = .ok (.order orderHash, s')) :
    AdManager.hashOrder H params chainId = .ok orderHash ∧
      ∃ version delay, LockedAs O env orderHash params slot version delay s s' := by
  cases AdManager.step_of_exec ok with
  | admin hcall => cases hcall
  | @lockForOrder _ _ config ad timingVersion amount _ anchorDelay w hconfig had hchecks hauth hhash
      hnew hdelay hfit happend =>
    rw [hchain _ hconfig] at hhash
    obtain ⟨hchecked, hwindow⟩ := AdManager.lockChecks_ok hchecks
    simp only [AdManager.lockChecks, Check.bind_ok] at hchecks
    obtain ⟨_, -, _, -, _, -, ⟨⟩, husable, -⟩ := hchecks
    rw [← hchecked.signer] at husable
    refine ⟨hhash, timingVersion, anchorDelay, hnew, husable, hwindow, hdelay, ?_, rfl, rfl, rfl⟩
    rw [AdManager.getOrder_of_set (l := s.core.ledger) rfl, if_pos rfl]

/-- A lock under the registry at `R` pins a slot that is stored there, and no expiry of has come. -/
theorem held_of_lock {version delay : ℕ}
    (first : Run (joint O N H KH aroundAd aroundKeys R verifierOf)
      (AdManager.Chain.fresh x, KeyRegistry.Chain.fresh y) earlier a)
    (hchron : ∀ e ∈ earlier, calledAt e ≤ env.now)
    (hanswered : Answered O N H R verifierOf a) (hkeys : a.1.keyRegistry = some R)
    (hlocked : LockedAs O env orderHash params slot version delay a.1 s) :
    Held R orderHash params slot env.now [] s a.2 := by
  have hcurrent := (levers_sound_of_run first.left).current R hkeys
  have husable := hlocked.usable
  rw [hkeys] at husable
  obtain ⟨commitment, hcommitment⟩ := hanswered.usable _ _ _ (Check.require_ok.mp husable)
  have hexact := @KeyRegistry.exact_of_run _ _ _ _ params.adSettlementSigner slot _ _ _ first.right
  have hremembered :=
    remembered_of_usable hexact (fun t ht => le_of_mem_rights hchron ht) hcommitment
  have hstored := hremembered.stored.resolve_right fun ⟨t, ht, _⟩ => by cases ht
  have hsound := KeyRegistry.sound_of_run first.right params.adSettlementSigner
  constructor
  · show (s.core.ledger.getOrder orderHash).status ≠ _
    rw [hlocked.record]
    exact Status.noConfusion
  · show (s.core.ledger.getOrder orderHash).lockedAt = _
    rw [hlocked.record]
  · show s.registries.get? (s.core.ledger.getOrder orderHash).registryEpoch = _
    rw [hlocked.record, hlocked.registries]
    exact hcurrent
  · intro _
    show (s.core.ledger.getOrder orderHash).pinnedSlot = _
    rw [hlocked.record]
  · exact hsound.below slot ((hsound.stored slot).mp hstored)
  · intro _
    exact hremembered

/-- From the lock on, whatever either contract does. -/
theorem held_of_run
    (first : Run (joint O N H KH aroundAd aroundKeys R verifierOf)
      (AdManager.Chain.fresh x, KeyRegistry.Chain.fresh y) earlier b)
    (hheld : Held R orderHash params slot lockedAt [] b.1 b.2)
    (second : Run (joint O N H KH aroundAd aroundKeys R verifierOf) b later p)
    (hlater : ∀ e ∈ later, lockedAt ≤ calledAt e)
    (hchain : ∀ config, p.1.core.settings.config = some config → config.chainId = chainId)
    (hfree : CollisionFree H chainId known)
    (hknown : AdManager.ordersOf (lefts (later ++ earlier)) ⊆ known) (hmem : params ∈ known)
    (hhash : AdManager.hashOrder H params chainId = .ok orderHash) :
    Held R orderHash params slot lockedAt (later.map calledAt) p.1 p.2 := by
  have hall := second.pair_invariant (I := fun h s c => (∀ e ∈ h, lockedAt ≤ calledAt e) →
    (∀ config, s.core.settings.config = some config → config.chainId = chainId) →
    AdManager.ordersOf (lefts (h ++ earlier)) ⊆ known →
    Held R orderHash params slot lockedAt (h.map calledAt) s c) ?_ ?_ ?_ ?_ ?_
  · exact hall hlater hchain hknown
  · intro _ _ _
    exact hheld
  · rintro h s c ⟨env, call⟩ ret s' run ih - - ok hlater hchain hknown
    have hrun := (first.trans run).left
    have hbefore := (AdManager.settings_of_step (AdManager.step_of_exec ok)
      (AdManager.sound_of_run hrun)).2.chainId hchain
    refine (ih (fun e he => hlater e (List.mem_cons_of_mem _ he)) hbefore ?_).ad
      (levers_sound_of_run hrun) ok
    intro params' hmem'
    exact hknown (AdManager.ordersOf_cons hmem')
  · rintro h s c ⟨env, call⟩ ret c' run ih ⟨hanswered, hguarding⟩ - ok hlater hchain hknown
    have hrun := first.trans run
    have hbefore := ih (fun e he => hlater e (List.mem_cons_of_mem _ he)) hchain hknown
    refine hbefore.key (KeyRegistry.sound_of_run hrun.right)
      (fun id => ⟨_, KeyRegistry.exact_of_run hrun.right⟩) ?_ (hlater _ List.mem_cons_self) ok
    intro hlive
    have hopen := position_of_run hrun.left hchain hfree hknown hmem hhash hlive
    refine ⟨H.address, hguarding _ hopen, ?_⟩
    rw [hanswered.positions, hopen]
  · rintro h s c s' ih ⟨w, -, rfl⟩ hlater hchain hknown
    have hheld := ih hlater hchain hknown
    exact ⟨hheld.locked, hheld.stamped, hheld.registry, hheld.pinned, hheld.allocated,
      hheld.remembered⟩
  · rintro h s c c' ih ⟨w, -, rfl⟩ hlater hchain hknown
    have hheld := ih hlater hchain hknown
    exact ⟨hheld.locked, hheld.stamped, hheld.registry, hheld.pinned, hheld.allocated,
      hheld.remembered⟩

/-- The chain id of the last state is that of every state before it. -/
theorem chainId_before {s₀ : AdManager.Chain X} {history₀ history : AdManager.History}
    (first : Run (AdManager.system O H aroundAd) (AdManager.Chain.fresh x) history₀ s₀)
    (second : Run (AdManager.system O H aroundAd) s₀ history s)
    (hchain : ∀ config, s.core.settings.config = some config → config.chainId = chainId) :
    ∀ config, s₀.core.settings.config = some config → config.chainId = chainId := by
  refine second.invariant (I := fun _ s =>
    (∀ config, s.core.settings.config = some config → config.chainId = chainId) →
      ∀ config, s₀.core.settings.config = some config → config.chainId = chainId)
    id ?_ ?_ hchain
  · rintro history s ⟨env, call⟩ ret s' run ih - ok hchain
    apply ih
    exact (AdManager.settings_of_step (AdManager.step_of_exec ok)
      (AdManager.sound_of_run (first.trans run))).2.chainId hchain
  · rintro history s s' run ih ⟨w, -, rfl⟩ hchain
    exact ih hchain

/-- The registry an order was locked under is the one the contract read then. -/
theorem keyRegistry_of_lock {s₀ s₁ : AdManager.Chain X} {history₀ history : AdManager.History}
    {version delay : ℕ}
    (first : Run (AdManager.system O H aroundAd) (AdManager.Chain.fresh x) history₀ s₀)
    (hlocked : LockedAs O env orderHash params slot version delay s₀ s₁)
    (since : Run (AdManager.system O H aroundAd) s₀ history s)
    (hstamp : AdManager.OrderRecord.stamp (s.core.ledger.getOrder orderHash)
      = AdManager.OrderRecord.stamp (s₁.core.ledger.getOrder orderHash))
    (hregistry : s.registries.get? (s.core.ledger.getOrder orderHash).registryEpoch = some R) :
    s₀.keyRegistry = some R := by
  simp only [AdManager.OrderRecord.stamp, hlocked.record, Prod.mk.injEq] at hstamp
  rw [hstamp.2.1] at hregistry
  have hbefore := levers_sound_of_run first
  cases hkeys : s₀.keyRegistry with
  | none =>
    have hpos := (levers_sound_of_run (first.trans since)).started _ _ hregistry
    have hzero : s₀.registryEpoch = 0 := hbefore.unset hkeys
    rw [hzero] at hpos
    exact absurd hpos (lt_irrefl 0)
  | some registry =>
    have hcurrent := registry_of_run first since (hbefore.current registry hkeys)
    exact hcurrent.symm.trans hregistry

/-- The call that locked an order. -/
abbrev lockCall (env : Env) (params : OrderParams) (slot : U32) (orderHash : BytesN32) :
    JointCall × (AdManager.Ret ⊕ KeyRegistry.Ret) :=
  (.inl (env, .lockForOrder params slot), .inl (.order orderHash))

theorem mem_orders_of_lock {history : JointHistory}
    (h : lockCall env params slot orderHash ∈ history) :
    params ∈ AdManager.ordersOf (lefts history) :=
  List.mem_filterMap.mpr ⟨_, List.mem_filterMap.mpr ⟨_, h, rfl⟩, rfl⟩

/-- A run with a lock in it, cut there. -/
theorem cut_at_lock {history : JointHistory}
    (run : Run (joint O N H KH aroundAd aroundKeys R verifierOf)
      (AdManager.Chain.fresh x, KeyRegistry.Chain.fresh y) history p)
    (hchron : Chronological history)
    (hchain : ∀ config, p.1.core.settings.config = some config → config.chainId = chainId)
    (hlock : lockCall env params slot orderHash ∈ history)
    (hregistry : p.1.registries.get? (p.1.core.ledger.getOrder orderHash).registryEpoch = some R) :
    ∃ earlier between a b version delay,
      history = between ++ lockCall env params slot orderHash :: earlier ∧
      Run (joint O N H KH aroundAd aroundKeys R verifierOf)
        (AdManager.Chain.fresh x, KeyRegistry.Chain.fresh y) earlier a ∧
      Run (joint O N H KH aroundAd aroundKeys R verifierOf)
        (AdManager.Chain.fresh x, KeyRegistry.Chain.fresh y)
        (lockCall env params slot orderHash :: earlier) b ∧
      Run (joint O N H KH aroundAd aroundKeys R verifierOf) b between p ∧
      AdManager.hashOrder H params chainId = .ok orderHash ∧
      LockedAs O env orderHash params slot version delay a.1 b.1 ∧
      Held R orderHash params slot env.now [] b.1 b.2 := by
  obtain ⟨between, earlier, rfl⟩ := List.append_of_mem hlock
  obtain ⟨a, b, first, hadmits, ok, since⟩ := run.split
  have lock := first.accepted hadmits ok
  obtain ⟨⟨hanswered, -⟩, hself⟩ := hadmits
  obtain ⟨ret, s, hexec, hret, rfl⟩ := callLeft_ok ok
  cases hret
  have hexec : AdManager.exec O H env (.lockForOrder params slot) a.1
    = .ok (.order orderHash, s) := hexec
  have hchain₀ := chainId_before first.left (.trans (.accepted .start hself hexec) since.left) hchain
  obtain ⟨hhash, version, delay, hlocked⟩ := lockedAs_of_exec hchain₀ hexec
  have hchron₀ : ∀ e ∈ earlier, calledAt e ≤ env.now :=
    (List.pairwise_cons.mp (List.pairwise_append.mp hchron).2.1).1
  have hexists : (AdManager.leg orderHash s).record.status ≠ .none := by
    show (s.core.ledger.getOrder orderHash).status ≠ _
    rw [hlocked.record]
    exact Status.noConfusion
  have hstamp := (AdManager.stamp_of_run since.left hexists).1
  have hkeys := keyRegistry_of_lock first.left hlocked
    (.trans (.accepted .start hself hexec) since.left) hstamp hregistry
  exact ⟨earlier, between, a, _, version, delay, rfl, first, lock, since, hhash, hlocked,
    held_of_lock (a := a) (s := s) first hchron₀ hanswered hkeys hlocked⟩

end Runs

end Grace
end ProofBridge
