import ProofBridge.Evm.AdLeg

/-!
# The runs of the EVM ad leg

What one call can do to an order's slot, and what a run keeps of an order from its lock on: its own
timing, its claim's end and its dispute's deadlines.
-/

namespace ProofBridge
namespace Evm
namespace AdLeg

open ContractLib

variable {hash : AdOrderParams → BytesN32} {ctx : Context} {s s' : Chain} {k : BytesN32}

/-! ## One slot -/

/-- What the chain keeps of one order's clocks. -/
structure Slot where
  order : Order
  claim : Claim
  record : Option Record

def slot (k : BytesN32) (s : Chain) : Slot where
  order := s.order k
  claim := s.claimOf k
  record := s.recordOf k

/-- The arbiter's call. -/
def Call.ruling : Call → Bool
  | .resolveDispute .. => true
  | _ => false

/-- What one call can do to the slot of `k`. -/
inductive SlotStep (hash : AdOrderParams → BytesN32) (ctx : Context) (s : Chain) (k : BytesN32)
    (call : Call) (l l' : Slot) : Prop
  | kept (hkept : l' = l)
  | locked (p : AdOrderParams) (v : ℕ) (hnamed : call.params? = some p) (hhash : hash p = k)
      (hnew : l.order.status = .none)
      (hwindow : requireMinWindow ctx p.orderChainId p.deadline.toNat s = .ok v)
      (horder : l'.order = {
        status := .opened
        lockedAt := ctx.now64
        timingVersion := v
        anchorDelay := s.anchorDelayNow p.orderChainId % 2 ^ 32 })
  | claimed (p : AdOrderParams) (finalizeAt : ℕ) (hnamed : call.params? = some p) (hhash : hash p = k)
      (hopened : l.order.status = .opened)
      (hend : (Check.add 256 p.deadline.toNat (s.orderTiming k p.orderChainId).buffer :
        Check ClockError ℕ) = .ok finalizeAt)
      (horder : l'.order = { l.order with status := .claimed })
      (hclaim : l'.claim = ⟨ctx.now64, finalizeAt % 2 ^ 64⟩)
  | disputed (p : AdOrderParams) (windowEnd period challengeDeadline : ℕ)
      (hnamed : call.params? = some p) (hhash : hash p = k)
      (hopen : l.order.status = .opened ∨ l.order.status = .claimed)
      (hend : s.windowEnd k (p.deadline.toNat % 2 ^ 64) (s.orderTiming k p.orderChainId).buffer
        = .ok windowEnd)
      (hbefore : ctx.now < windowEnd)
      (hperiod : s.challengePeriod.get? (s.disputeManager, p.orderChainId) = some period)
      (hdeadline : filingDeadline ctx period (p.deadline.toNat % 2 ^ 64)
        (s.orderTiming k p.orderChainId).buffer = .ok challengeDeadline)
      (horder : l'.order = { l.order with status := .disputed })
      (hrecord : l'.record = some {
        challengeDeadline, ruling := .none, orderDeadline := p.deadline.toNat % 2 ^ 64
        buffer := (s.orderTiming k p.orderChainId).buffer })
  | ruled (d : Record) (outcome : DisputeOutcome) (finalizeAt : ℕ) (hcall : call.ruling = true)
      (hrecord : l.record = some d) (hbefore : ctx.now < d.challengeDeadline)
      (hdeadline : rulingDeadline ctx d = .ok finalizeAt)
      (horder : l'.order = l.order) (hclaim : l'.claim = l.claim)
      (hruled : l'.record = some { d with ruling := outcome, challengeDeadline := finalizeAt })
  | closed (status : Status) (hterminal : status.terminal = true)
      (horder : l'.order = { l.order with status })

/-- What the admins set, of what the clocks read. -/
def Chain.settings (s : Chain) :=
  (s.timingVersion, s.routeTimingAt, s.anchorDelay, s.challengePeriod)

/-- A slot whose entries are the same is the same. -/
theorem slot_congr (horders : s'.orders.get? k = s.orders.get? k)
    (hclaims : s'.claims.get? k = s.claims.get? k)
    (hmanagers : s'.disputeModuleOf.get? k = s.disputeModuleOf.get? k)
    (hdisputes : ∀ m, s'.disputes.get? (m, k) = s.disputes.get? (m, k)) : slot k s' = slot k s := by
  simp only [slot, Chain.order, Chain.claimOf, Chain.recordOf, Chain.moduleOf, horders, hclaims,
    hmanagers, hdisputes]

/-- The order a call has just rewritten. -/
theorem order_set {o : Order} : { s with orders := s.orders.set k o }.order k = o := by
  rw [Chain.order, Map.get?_set_self, Option.getD_some]

theorem passed_ok {r : Unit × Chain} :
    passed ctx s = .ok r ↔ ctx.passes = true ∧ r = ((), s) := by
  rw [passed, Tx.require_ok]

theorem settleBond_ok {h : BytesN32} {r : Unit × Chain} :
    settleBond h s = .ok r ↔ (s.recordOf h).isSome = true ∧
      r = ((), { s with disputes := s.disputes.remove (s.moduleOf h, h) }) := by
  rw [settleBond, Tx.bind_read_ok, Tx.bind_require_ok, Tx.modify_ok]

/-- The other orders' records are the same. -/
def OthersKept (h : BytesN32) (disputes disputes' : Map (EvmAddress × BytesN32) Record) : Prop :=
  ∀ m k, k ≠ h → disputes'.get? (m, k) = disputes.get? (m, k)

theorem othersKept_remove {h : BytesN32} {m : EvmAddress}
    {disputes : Map (EvmAddress × BytesN32) Record} :
    OthersKept h disputes (disputes.remove (m, h)) := by
  intro m' k hne
  exact Map.get?_remove_ne fun heq => hne (Prod.mk.inj heq).2

theorem othersKept_set {h : BytesN32} {m : EvmAddress} {d : Record}
    {disputes : Map (EvmAddress × BytesN32) Record} :
    OthersKept h disputes (disputes.set (m, h) d) := by
  intro m' k hne
  exact Map.get?_set_ne fun heq => hne (Prod.mk.inj heq).2

/-- An evidence close takes at most the order's own record. -/
theorem closeDisputeByEvidence_ok {p : AdOrderParams} {r : Unit × Chain}
    (ok : closeDisputeByEvidence hash ctx p s = .ok r) :
    ∃ disputes, OthersKept (hash p) s.disputes disputes ∧ r = ((), { s with disputes }) := by
  have hsettled : ∀ {r : Unit × Chain}, settleBond (hash p) s = .ok r →
      ∃ disputes, OthersKept (hash p) s.disputes disputes ∧ r = ((), { s with disputes }) := by
    intro r hr
    obtain ⟨-, rfl⟩ := settleBond_ok.mp hr
    exact ⟨_, othersKept_remove, rfl⟩
  rw [closeDisputeByEvidence, Tx.bind_read_ok, Tx.ite_apply] at ok
  split at ok
  · rw [Tx.ite_apply] at ok
    split at ok
    · rw [Tx.bind_view_ok] at ok
      obtain ⟨_, -, ok⟩ := ok
      exact hsettled ok
    · exact hsettled ok
  · exact ⟨s.disputes, fun _ _ _ => rfl, Tx.pure_ok.mp ok⟩

/-- A call that ends the order `h`: its slot closes and the others are left alone. -/
theorem closed_step {h : BytesN32} {call : Call} {status : Status}
    {claims : Map BytesN32 Claim} {disputes : Map (EvmAddress × BytesN32) Record}
    (hterminal : status.terminal = true) (hclaims : ∀ k, k ≠ h → claims.get? k = s.claims.get? k)
    (hdisputes : OthersKept h s.disputes disputes) (k : BytesN32) :
    SlotStep hash ctx s k call (slot k s) (slot k { s with
      orders := s.orders.set h { s.order h with status }, claims, disputes }) := by
  by_cases hk : k = h
  · subst hk
    exact .closed status hterminal order_set
  · exact .kept (slot_congr (Map.get?_set_ne hk) (hclaims k hk) rfl
      fun m => hdisputes m k hk)

/-! ## Every call -/

section Calls

variable {p : AdOrderParams} {r : Unit × Chain}

/-- A call takes every slot one step. -/
def Steps (hash : AdOrderParams → BytesN32) (ctx : Context) (call : Call) (s s' : Chain) : Prop :=
  ∀ k, SlotStep hash ctx s k call (slot k s) (slot k s')

theorem lockForOrder_step (ok : lockForOrder hash ctx p s = .ok r) :
    Steps hash ctx (.lockForOrder p) s r.2 ∧ r.2.settings = s.settings := by
  rw [lockForOrder, Tx.bind_ok] at ok
  obtain ⟨_, _, hpassed, ok⟩ := ok
  obtain ⟨-, hs⟩ := passed_ok.mp hpassed
  cases hs
  rw [Tx.bind_view_ok] at ok
  obtain ⟨v, hwindow, ok⟩ := ok
  rw [Tx.bind_read_ok, Tx.bind_require_ok, Tx.modify_ok] at ok
  obtain ⟨hnew, rfl⟩ := ok
  refine ⟨fun k => ?_, rfl⟩
  by_cases hk : k = hash p
  · subst hk
    exact .locked p v rfl rfl hnew hwindow order_set
  · exact .kept (slot_congr (Map.get?_set_ne hk) rfl rfl fun _ => rfl)

theorem unlock_step (ok : unlock hash ctx p s = .ok r) :
    Steps hash ctx (.unlock p) s r.2 ∧ r.2.settings = s.settings := by
  rw [unlock, Tx.bind_view_ok] at ok
  obtain ⟨cutoff, -, ok⟩ := ok
  rw [Tx.bind_require_ok, Tx.bind_read_ok, Tx.bind_require_ok, Tx.bind_ok] at ok
  obtain ⟨-, -, _, _, hpassed, ok⟩ := ok
  obtain ⟨-, hs⟩ := passed_ok.mp hpassed
  cases hs
  rw [Tx.bind_ok] at ok
  obtain ⟨_, _, hclose, ok⟩ := ok
  obtain ⟨disputes, hdisputes, heq⟩ := closeDisputeByEvidence_ok hclose
  cases heq
  rw [fill, Tx.bind_modify_ok, Tx.modify_ok] at ok
  subst ok
  exact ⟨closed_step rfl (fun k hk => Map.get?_remove_ne hk) hdisputes, rfl⟩

theorem presentSettled_step (ok : presentSettled hash ctx p s = .ok r) :
    Steps hash ctx (.presentSettled p) s r.2 ∧ r.2.settings = s.settings := by
  rw [presentSettled, Tx.bind_read_ok, Tx.bind_require_ok, Tx.bind_ok] at ok
  obtain ⟨-, _, _, hpassed, ok⟩ := ok
  obtain ⟨-, hs⟩ := passed_ok.mp hpassed
  cases hs
  rw [Tx.bind_ok] at ok
  obtain ⟨_, _, hclose, ok⟩ := ok
  obtain ⟨disputes, hdisputes, heq⟩ := closeDisputeByEvidence_ok hclose
  cases heq
  rw [fill, Tx.bind_modify_ok, Tx.modify_ok] at ok
  subst ok
  exact ⟨closed_step rfl (fun k hk => Map.get?_remove_ne hk) hdisputes, rfl⟩

theorem claimCancel_step (ok : claimCancel hash ctx p s = .ok r) :
    Steps hash ctx (.claimCancel p) s r.2 ∧ r.2.settings = s.settings := by
  rw [claimCancel, Tx.bind_read_ok, Tx.bind_require_ok, Tx.bind_require_ok, Tx.bind_lift_ok] at ok
  obtain ⟨hopened, -, finalizeAt, hend, ok⟩ := ok
  rw [Tx.bind_modify_ok, Tx.modify_ok] at ok
  subst ok
  refine ⟨fun k => ?_, rfl⟩
  by_cases hk : k = hash p
  · subst hk
    refine .claimed p finalizeAt rfl rfl hopened hend order_set ?_
    rw [slot, Chain.claimOf, Map.get?_set_self, Option.getD_some]
  · exact .kept (slot_congr (Map.get?_set_ne hk) (Map.get?_set_ne hk) rfl fun _ => rfl)

theorem finalizeCancel_step (ok : finalizeCancel hash ctx p s = .ok r) :
    Steps hash ctx (.finalizeCancel p) s r.2 ∧ r.2.settings = s.settings := by
  rw [finalizeCancel, Tx.bind_read_ok, Tx.bind_require_ok, Tx.bind_require_ok,
    Tx.bind_view_ok] at ok
  obtain ⟨-, -, finalizesAt, -, ok⟩ := ok
  rw [Tx.bind_require_ok, Tx.bind_ok] at ok
  obtain ⟨-, _, _, hpassed, ok⟩ := ok
  obtain ⟨-, hs⟩ := passed_ok.mp hpassed
  cases hs
  rw [Tx.bind_modify_ok, Tx.modify_ok] at ok
  subst ok
  exact ⟨closed_step rfl (fun k hk => Map.get?_remove_ne hk) fun _ _ _ => rfl, rfl⟩

theorem openDispute_ok {h : BytesN32} {peerChainId : Uint256} {deadline buffer : ℕ}
    (ok : openDispute ctx h peerChainId deadline buffer s = .ok r) :
    ∃ period challengeDeadline,
      s.challengePeriod.get? (s.disputeManager, peerChainId) = some period ∧
      filingDeadline ctx period deadline buffer = .ok challengeDeadline ∧
      r = ((), { s with disputes := s.disputes.set (s.disputeManager, h) {
        challengeDeadline, ruling := .none, orderDeadline := deadline, buffer } }) := by
  rw [openDispute, Tx.bind_read_ok, Tx.bind_require_ok] at ok
  obtain ⟨-, ok⟩ := ok
  rw [Tx.bind_require_ok, Tx.bind_lift_ok] at ok
  obtain ⟨hperiod, challengeDeadline, hdeadline, ok⟩ := ok
  rw [Tx.modify_ok] at ok
  cases hget : s.challengePeriod.get? (s.disputeManager, peerChainId) with
  | none =>
    rw [hget] at hperiod
    exact absurd rfl hperiod
  | some period =>
    rw [hget] at hdeadline
    exact ⟨period, challengeDeadline, rfl, hdeadline, ok⟩

theorem dispute_step (ok : dispute hash ctx p s = .ok r) :
    Steps hash ctx (.dispute p) s r.2 ∧ r.2.settings = s.settings := by
  rw [dispute, Tx.bind_ok] at ok
  obtain ⟨_, _, hpassed, ok⟩ := ok
  obtain ⟨-, hs⟩ := passed_ok.mp hpassed
  cases hs
  rw [Tx.bind_read_ok] at ok
  rw [Tx.bind_require_ok, Tx.bind_view_ok] at ok
  obtain ⟨hopen, windowEnd, hend, ok⟩ := ok
  rw [Tx.bind_require_ok, Tx.bind_require_ok, Tx.bind_ok] at ok
  obtain ⟨hbefore, -, _, s₁, hfiled, ok⟩ := ok
  obtain ⟨period, challengeDeadline, hperiod, hdeadline, heq⟩ := openDispute_ok hfiled
  cases heq
  rw [Tx.bind_modify_ok, Tx.bind_modify_ok, Tx.modify_ok] at ok
  subst ok
  refine ⟨fun k => ?_, rfl⟩
  by_cases hk : k = hash p
  · subst hk
    refine .disputed p windowEnd period challengeDeadline rfl rfl hopen hend hbefore hperiod
      hdeadline order_set ?_
    simp only [slot, Chain.recordOf, Chain.moduleOf, Map.get?_set_self, Option.getD_some]
  · exact .kept (slot_congr (Map.get?_set_ne hk) (Map.get?_remove_ne hk) (Map.get?_set_ne hk)
      fun m => othersKept_set m k hk)

theorem finalizeDispute_step (ok : finalizeDispute hash ctx p s = .ok r) :
    Steps hash ctx (.finalizeDispute p) s r.2 ∧ r.2.settings = s.settings := by
  rw [finalizeDispute, Tx.bind_read_ok, Tx.bind_require_ok, Tx.bind_expect_ok] at ok
  obtain ⟨-, d, -, ok⟩ := ok
  rw [Tx.bind_require_ok] at ok
  obtain ⟨-, ok⟩ := ok
  rw [Tx.bind_view_ok] at ok
  obtain ⟨disputeEnd, -, ok⟩ := ok
  rw [Tx.bind_require_ok, Tx.bind_ok] at ok
  obtain ⟨-, _, _, hpassed, ok⟩ := ok
  obtain ⟨-, hs⟩ := passed_ok.mp hpassed
  cases hs
  rw [Tx.bind_modify_ok, settleBond_ok] at ok
  obtain ⟨-, rfl⟩ := ok
  exact ⟨closed_step rfl (fun _ _ => rfl) othersKept_remove, rfl⟩

theorem cancelNeverLocked_step (ok : cancelNeverLocked hash ctx p s = .ok r) :
    Steps hash ctx (.cancelNeverLocked p) s r.2 ∧ r.2.settings = s.settings := by
  rw [cancelNeverLocked, Tx.bind_read_ok, Tx.bind_require_ok, Tx.bind_require_ok,
    Tx.bind_require_ok, Tx.bind_ok] at ok
  obtain ⟨-, -, -, _, _, hpassed, ok⟩ := ok
  obtain ⟨-, hs⟩ := passed_ok.mp hpassed
  cases hs
  rw [Tx.modify_ok] at ok
  subst ok
  exact ⟨closed_step rfl (fun _ _ => rfl) fun _ _ _ => rfl, rfl⟩

theorem repinOrder_step (ok : repinOrder hash ctx p s = .ok r) : r.2 = s := by
  rw [repinOrder, Tx.bind_view_ok] at ok
  obtain ⟨cutoff, -, ok⟩ := ok
  rw [Tx.bind_read_ok, Tx.bind_require_ok, Tx.bind_require_ok] at ok
  obtain ⟨-, -, hpassed⟩ := ok
  obtain ⟨-, rfl⟩ := passed_ok.mp hpassed
  rfl

theorem resolveDispute_step {manager : EvmAddress} {h : BytesN32} {outcome : DisputeOutcome}
    (ok : resolveDispute ctx manager h outcome s = .ok r) :
    Steps hash ctx (.resolveDispute manager h outcome) s r.2 ∧ r.2.settings = s.settings := by
  rw [resolveDispute, Tx.bind_ok] at ok
  obtain ⟨_, _, hpassed, ok⟩ := ok
  obtain ⟨-, hs⟩ := passed_ok.mp hpassed
  cases hs
  rw [Tx.bind_require_ok, Tx.bind_read_ok, Tx.bind_expect_ok] at ok
  obtain ⟨-, d, hd, ok⟩ := ok
  rw [Tx.bind_require_ok, Tx.bind_lift_ok] at ok
  obtain ⟨hbefore, finalizeAt, hdeadline, ok⟩ := ok
  rw [Tx.modify_ok] at ok
  subst ok
  refine ⟨fun k => ?_, rfl⟩
  by_cases hk : (s.moduleOf k, k) = (manager, h)
  · obtain ⟨rfl, rfl⟩ := Prod.mk.inj hk
    refine .ruled d outcome finalizeAt rfl hd hbefore hdeadline rfl rfl ?_
    show (s.disputes.set (s.moduleOf k, k) _).get? (s.moduleOf k, k) = _
    rw [Map.get?_set_self]
  · refine .kept ?_
    have hrecord : (s.disputes.set (manager, h) { d with
        ruling := outcome, challengeDeadline := finalizeAt }).get? (s.moduleOf k, k)
          = s.disputes.get? (s.moduleOf k, k) := Map.get?_set_ne hk
    simp only [slot, Chain.recordOf]
    exact congrArg (Slot.mk (s.order k) (s.claimOf k)) hrecord

/-! ## What the admins set -/

/-- Every timing, delay and period written passed its check. -/
structure Chain.Sound (s : Chain) : Prop where
  timings : ∀ c v, v ≠ 0 → v ≤ s.version c → (s.timingAt c v).Valid
  delays : ∀ a delay, s.anchorDelay.get? a = some delay → delay ≤ MAX_ANCHOR_DELAY
  periods : ∀ m period, s.challengePeriod.get? m = some period → period ≤ MAX_CHALLENGE_PERIOD

/-- A version, once written, stands. -/
structure Chain.Grows (s s' : Chain) : Prop where
  version : ∀ c, s.version c ≤ s'.version c
  timing : ∀ c v, v ≤ s.version c → s'.timingAt c v = s.timingAt c v

theorem sound_fresh : Chain.fresh.Sound where
  timings := by
    intro c v hv hle
    exact absurd (Nat.le_zero.mp hle) hv
  delays := by
    intro a delay h
    cases h
  periods := by
    intro m period h
    cases h

theorem Chain.Sound.of_settings (h : s.Sound) (hsettings : s'.settings = s.settings) :
    s'.Sound ∧ s.Grows s' := by
  simp only [Chain.settings, Prod.mk.injEq] at hsettings
  obtain ⟨hversions, htimings, hdelays, hperiods⟩ := hsettings
  have hversion : s'.version = s.version := by
    ext c
    rw [Chain.version, Chain.version, hversions]
  have htiming : s'.timingAt = s.timingAt := by
    funext c v
    rw [Chain.timingAt, Chain.timingAt, htimings]
  refine ⟨⟨?_, ?_, ?_⟩, ⟨?_, ?_⟩⟩
  · rw [hversion, htiming]
    exact h.timings
  · rw [hdelays]
    exact h.delays
  · rw [hperiods]
    exact h.periods
  · intro c
    rw [hversion]
  · intro c v _
    rw [htiming]

theorem setRouteTiming_step {chainId : Uint256} {timing : RouteTiming} (h : s.Sound)
    (ok : setRouteTiming ctx chainId timing s = .ok r) :
    (∀ k, slot k r.2 = slot k s) ∧ r.2.Sound ∧ s.Grows r.2 := by
  rw [setRouteTiming, Tx.bind_ok] at ok
  obtain ⟨_, _, hpassed, ok⟩ := ok
  obtain ⟨-, hs⟩ := passed_ok.mp hpassed
  cases hs
  rw [Tx.bind_lift_ok] at ok
  obtain ⟨_, hvalidate, ok⟩ := ok
  have hvalid : timing.Valid := by
    unfold validateTiming at hvalidate
    split at hvalidate
    · next hok => exact RouteTiming.valid_of_validate hok
    · cases hvalidate
  rw [Tx.bind_read_ok, Tx.bind_lift_ok] at ok
  obtain ⟨v, hv, ok⟩ := ok
  obtain ⟨-, rfl⟩ := Check.add_ok.mp hv
  rw [Tx.modify_ok] at ok
  subst ok
  have hversion : ∀ c, ({ s with
      timingVersion := s.timingVersion.set chainId (s.version chainId + 1)
      routeTimingAt := s.routeTimingAt.set (chainId, s.version chainId + 1) timing } : Chain).version
        c = if c = chainId then s.version chainId + 1 else s.version c := by
    intro c
    unfold Chain.version
    rw [Map.get?_set]
    split <;> rfl
  have htiming : ∀ c v, ({ s with
      timingVersion := s.timingVersion.set chainId (s.version chainId + 1)
      routeTimingAt := s.routeTimingAt.set (chainId, s.version chainId + 1) timing } : Chain).timingAt
        c v = if (c, v) = (chainId, s.version chainId + 1) then timing else s.timingAt c v := by
    intro c v
    unfold Chain.timingAt
    rw [Map.get?_set]
    split <;> rfl
  refine ⟨fun _ => rfl, ⟨?_, h.delays, h.periods⟩, ⟨?_, ?_⟩⟩
  · intro c v hpos hle
    rw [htiming]
    split
    · exact hvalid
    · next hne =>
      rw [hversion] at hle
      split at hle
      · next hc =>
        subst hc
        have hother : v ≠ s.version c + 1 := fun heq => hne (by rw [heq])
        exact h.timings c v hpos (by omega)
      · exact h.timings c v hpos hle
  · intro c
    rw [hversion]
    split
    · next hc =>
      rw [hc]
      omega
    · exact le_refl _
  · intro c v hle
    rw [htiming, if_neg]
    intro heq
    obtain ⟨rfl, rfl⟩ := Prod.mk.inj heq
    omega

theorem setRootAnchor_step {anchor : EvmAddress} (ok : setRootAnchor ctx anchor s = .ok r) :
    (∀ k, slot k r.2 = slot k s) ∧ r.2.settings = s.settings := by
  rw [setRootAnchor, Tx.bind_ok] at ok
  obtain ⟨_, _, hpassed, ok⟩ := ok
  obtain ⟨-, hs⟩ := passed_ok.mp hpassed
  cases hs
  rw [Tx.bind_require_ok, Tx.modify_ok] at ok
  obtain ⟨-, rfl⟩ := ok
  exact ⟨fun _ => rfl, rfl⟩

theorem setDisputeManager_step {manager : EvmAddress}
    (ok : setDisputeManager ctx manager s = .ok r) :
    (∀ k, slot k r.2 = slot k s) ∧ r.2.settings = s.settings := by
  rw [setDisputeManager, Tx.bind_ok] at ok
  obtain ⟨_, _, hpassed, ok⟩ := ok
  obtain ⟨-, hs⟩ := passed_ok.mp hpassed
  cases hs
  rw [Tx.bind_require_ok, Tx.modify_ok] at ok
  obtain ⟨-, rfl⟩ := ok
  exact ⟨fun _ => rfl, rfl⟩

theorem setDisputeParams_step {manager : EvmAddress} {chainId : Uint256} {period : ℕ} (h : s.Sound)
    (ok : setDisputeParams ctx manager chainId period s = .ok r) :
    (∀ k, slot k r.2 = slot k s) ∧ r.2.Sound ∧ s.Grows r.2 := by
  rw [setDisputeParams, Tx.bind_ok] at ok
  obtain ⟨_, _, hpassed, ok⟩ := ok
  obtain ⟨-, hs⟩ := passed_ok.mp hpassed
  cases hs
  rw [Tx.bind_lift_ok] at ok
  obtain ⟨_, hvalidate, ok⟩ := ok
  rw [validatePeriod, Check.require_ok] at hvalidate
  rw [Tx.modify_ok] at ok
  subst ok
  refine ⟨fun _ => rfl, ⟨h.timings, h.delays, ?_⟩, ⟨fun _ => le_refl _, fun _ _ _ => rfl⟩⟩
  intro m period' hget
  rw [Map.get?_set] at hget
  split at hget
  · cases hget
    exact hvalidate.2
  · exact h.periods m period' hget

theorem setAnchorDelay_step {anchor : EvmAddress} {chainId : Uint256} {delay : ℕ} (h : s.Sound)
    (ok : setAnchorDelay ctx anchor chainId delay s = .ok r) :
    (∀ k, slot k r.2 = slot k s) ∧ r.2.Sound ∧ s.Grows r.2 := by
  rw [setAnchorDelay, Tx.bind_ok] at ok
  obtain ⟨_, _, hpassed, ok⟩ := ok
  obtain ⟨-, hs⟩ := passed_ok.mp hpassed
  cases hs
  rw [Tx.bind_require_ok, Tx.modify_ok] at ok
  obtain ⟨hdelay, rfl⟩ := ok
  refine ⟨fun _ => rfl, ⟨h.timings, ?_, h.periods⟩, ⟨fun _ => le_refl _, fun _ _ _ => rfl⟩⟩
  intro a delay' hget
  rw [Map.get?_set] at hget
  split at hget
  · cases hget
    exact hdelay
  · exact h.delays a delay' hget

/-- **The machine.** An accepted call takes every slot one step, and only adds to the timings. -/
theorem step_of_exec {call : Call} (h : s.Sound) (ok : exec hash ctx call s = .ok r) :
    Steps hash ctx call s r.2 ∧ r.2.Sound ∧ s.Grows r.2 := by
  have of_slots : (∀ k, slot k r.2 = slot k s) → Steps hash ctx call s r.2 :=
    fun hslots k => .kept (hslots k)
  cases call with
  | lockForOrder p =>
    obtain ⟨hsteps, hsettings⟩ := lockForOrder_step ok
    exact ⟨hsteps, h.of_settings hsettings⟩
  | unlock p =>
    obtain ⟨hsteps, hsettings⟩ := unlock_step ok
    exact ⟨hsteps, h.of_settings hsettings⟩
  | claimCancel p =>
    obtain ⟨hsteps, hsettings⟩ := claimCancel_step ok
    exact ⟨hsteps, h.of_settings hsettings⟩
  | finalizeCancel p =>
    obtain ⟨hsteps, hsettings⟩ := finalizeCancel_step ok
    exact ⟨hsteps, h.of_settings hsettings⟩
  | dispute p =>
    obtain ⟨hsteps, hsettings⟩ := dispute_step ok
    exact ⟨hsteps, h.of_settings hsettings⟩
  | finalizeDispute p =>
    obtain ⟨hsteps, hsettings⟩ := finalizeDispute_step ok
    exact ⟨hsteps, h.of_settings hsettings⟩
  | cancelNeverLocked p =>
    obtain ⟨hsteps, hsettings⟩ := cancelNeverLocked_step ok
    exact ⟨hsteps, h.of_settings hsettings⟩
  | repinOrder p =>
    have hkept := repinOrder_step ok
    refine ⟨of_slots fun k => by rw [hkept], h.of_settings (by rw [hkept])⟩
  | presentSettled p =>
    obtain ⟨hsteps, hsettings⟩ := presentSettled_step ok
    exact ⟨hsteps, h.of_settings hsettings⟩
  | setRouteTiming chainId timing =>
    obtain ⟨hslots, hrest⟩ := setRouteTiming_step h ok
    exact ⟨of_slots hslots, hrest⟩
  | setRootAnchor anchor =>
    obtain ⟨hslots, hsettings⟩ := setRootAnchor_step ok
    exact ⟨of_slots hslots, h.of_settings hsettings⟩
  | setDisputeManager manager =>
    obtain ⟨hslots, hsettings⟩ := setDisputeManager_step ok
    exact ⟨of_slots hslots, h.of_settings hsettings⟩
  | setDisputeParams manager chainId period =>
    obtain ⟨hslots, hrest⟩ := setDisputeParams_step h ok
    exact ⟨of_slots hslots, hrest⟩
  | resolveDispute manager orderHash outcome =>
    obtain ⟨hsteps, hsettings⟩ := resolveDispute_step ok
    exact ⟨hsteps, h.of_settings hsettings⟩
  | setAnchorDelay anchor chainId delay =>
    obtain ⟨hslots, hrest⟩ := setAnchorDelay_step h ok
    exact ⟨of_slots hslots, hrest⟩

end Calls

/-! ## From a lock on -/

/-- A locked order: its timing `t`, what the anchor's delay was at the lock, and what has been
written on its clocks since. Rulings were made before `limit`. -/
structure Kept (p : AdOrderParams) (t : RouteTiming) (delay limit : ℕ) (k : BytesN32) (s : Chain) :
    Prop where
  locked : (s.order k).status ≠ .none
  version : (s.order k).timingVersion ≤ s.version p.orderChainId
  timing : s.orderTiming k p.orderChainId = t
  anchorDelay : (s.order k).anchorDelay = delay
  claim : (s.order k).status = .claimed →
    (s.claimOf k).finalizeAt = p.deadline.toNat + t.buffer
  dispute : (s.order k).status = .disputed → ∃ d, s.recordOf k = some d ∧
    d.orderDeadline = p.deadline.toNat ∧ d.buffer = t.buffer ∧
    d.challengeDeadline ≤ max limit (p.deadline.toNat + MAX_CHALLENGE_PERIOD) + t.buffer

variable {p : AdOrderParams} {t : RouteTiming} {delay limit : ℕ}

/-- The window of a locked order ends a buffer after its deadline, claimed or not. -/
theorem Kept.windowEnd (h : Kept p t delay limit k s) (hfits : p.deadline.toNat + t.buffer < 2 ^ 64) :
    s.windowEnd k p.deadline.toNat t.buffer = .ok (p.deadline.toNat + t.buffer) := by
  unfold Chain.windowEnd
  split
  · next hclaimed => rw [h.claim hclaimed]
  · exact Check.add_ok.mpr ⟨lt_trans hfits (by norm_num), rfl⟩

/-- A filing before the window's end writes the deadline it should. -/
theorem filingDeadline_eq {period deadline buffer : ℕ} (hperiod : period ≤ MAX_CHALLENGE_PERIOD)
    (hfits : deadline + buffer + MAX_CHALLENGE_PERIOD < 2 ^ 64) (hbefore : ctx.now < deadline + buffer) :
    filingDeadline ctx period deadline buffer = .ok (max (ctx.now + period) (deadline + buffer)) := by
  have hnow : ctx.now64 = ctx.now := Nat.mod_eq_of_lt (by omega)
  have hchallenge : (Check.add 64 ctx.now64 period : Check ClockError ℕ) = .ok (ctx.now + period) := by
    rw [hnow]
    exact Check.add_ok.mpr ⟨by omega, rfl⟩
  have hleast : (Check.add 64 deadline buffer : Check ClockError ℕ) = .ok (deadline + buffer) :=
    Check.add_ok.mpr ⟨by omega, rfl⟩
  rw [filingDeadline, hchallenge, Check.ok_bind, hleast, Check.ok_bind]
  refine congrArg Except.ok ?_
  split
  · next hlt => exact (max_eq_right hlt.le).symm
  · next hge => exact (max_eq_left (not_lt.mp hge)).symm

/-- And so does a ruling, where 64 bits hold the time and a buffer more. -/
theorem rulingDeadline_eq {d : Record} (hfits : max ctx.now d.orderDeadline + d.buffer < 2 ^ 64) :
    rulingDeadline ctx d = .ok (max ctx.now d.orderDeadline + d.buffer) := by
  have hnow : ctx.now64 = ctx.now :=
    Nat.mod_eq_of_lt (lt_of_le_of_lt ((le_max_left _ _).trans (Nat.le_add_right _ _)) hfits)
  rw [rulingDeadline, hnow]
  have hbase : (if d.orderDeadline < ctx.now then ctx.now else d.orderDeadline)
      = max ctx.now d.orderDeadline := by
    split
    · next hlt => exact (max_eq_left hlt.le).symm
    · next hge => exact (max_eq_right (not_lt.mp hge)).symm
  rw [hbase]
  exact Check.add_ok.mpr ⟨hfits, rfl⟩

/-- The timing of a slot whose version stands. -/
theorem Kept.timing_of_grows (h : Kept p t delay limit k s) (hgrows : s.Grows s')
    (hversion : (s'.order k).timingVersion = (s.order k).timingVersion) :
    (s'.order k).timingVersion ≤ s'.version p.orderChainId ∧
      s'.orderTiming k p.orderChainId = t := by
  refine ⟨?_, ?_⟩
  · rw [hversion]
    exact h.version.trans (hgrows.version _)
  · rw [Chain.orderTiming, hversion, hgrows.timing _ _ h.version]
    exact h.timing

theorem Kept.step {call : Call} (h : Kept p t delay limit k s) (hgrows : s.Grows s')
    (hsound : s.Sound) (hsame : ∀ q, call.params? = some q → hash q = k → q = p)
    (hruling : call.ruling = true → ctx.now < limit)
    (hfits : p.deadline.toNat + t.buffer + MAX_CHALLENGE_PERIOD < 2 ^ 64)
    (hstep : SlotStep hash ctx s k call (slot k s) (slot k s')) : Kept p t delay limit k s' := by
  have hdeadline : p.deadline.toNat % 2 ^ 64 = p.deadline.toNat := Nat.mod_eq_of_lt (by omega)
  cases hstep with
  | kept hkept =>
    simp only [slot, Slot.mk.injEq] at hkept
    obtain ⟨horder, hclaim, hrecord⟩ := hkept
    obtain ⟨hversion, htiming⟩ := h.timing_of_grows hgrows (by rw [horder])
    refine ⟨by rw [horder]; exact h.locked, hversion, htiming, by rw [horder]; exact h.anchorDelay,
      ?_, ?_⟩
    · rw [horder, hclaim]
      exact h.claim
    · rw [horder, hrecord]
      exact h.dispute
  | locked q v hnamed hhash hnew hwindow horder => exact absurd hnew h.locked
  | claimed q finalizeAt hnamed hhash hopened hend horder hclaim =>
    obtain rfl := hsame q hnamed hhash
    have horder : s'.order k = { s.order k with status := .claimed } := horder
    have hclaim : s'.claimOf k = ⟨ctx.now64, finalizeAt % 2 ^ 64⟩ := hclaim
    obtain ⟨hversion, htiming⟩ := h.timing_of_grows hgrows (by rw [horder])
    rw [h.timing] at hend
    obtain ⟨-, rfl⟩ := Check.add_ok.mp hend
    refine ⟨by rw [horder]; exact Status.noConfusion, hversion, htiming,
      by rw [horder]; exact h.anchorDelay, fun _ => ?_, fun hdisputed => ?_⟩
    · rw [hclaim]
      exact Nat.mod_eq_of_lt (by omega)
    · rw [horder] at hdisputed
      cases hdisputed
  | disputed q windowEnd period challengeDeadline hnamed hhash hopen hend hbefore hperiod
      hfiling horder hrecord =>
    obtain rfl := hsame q hnamed hhash
    have horder : s'.order k = { s.order k with status := .disputed } := horder
    have hrecord : s'.recordOf k = some {
        challengeDeadline, ruling := .none, orderDeadline := q.deadline.toNat % 2 ^ 64
        buffer := (s.orderTiming k q.orderChainId).buffer } := hrecord
    obtain ⟨hversion, htiming⟩ := h.timing_of_grows hgrows (by rw [horder])
    rw [h.timing, hdeadline] at hend hfiling hrecord
    rw [h.windowEnd (by omega)] at hend
    obtain rfl := Except.ok.inj hend
    have hmax := hsound.periods _ _ hperiod
    rw [filingDeadline_eq hmax hfits hbefore] at hfiling
    obtain rfl := Except.ok.inj hfiling
    refine ⟨by rw [horder]; exact Status.noConfusion, hversion, htiming,
      by rw [horder]; exact h.anchorDelay, fun hclaimed => ?_,
      fun _ => ⟨_, hrecord, rfl, rfl, ?_⟩⟩
    · rw [horder] at hclaimed
      cases hclaimed
    · have hlimit := le_max_right limit (q.deadline.toNat + MAX_CHALLENGE_PERIOD)
      apply max_le
      · omega
      · omega
  | ruled d outcome finalizeAt hcall hrecord hbefore hruled horder hclaim hrecord' =>
    have horder : s'.order k = s.order k := horder
    have hclaim : s'.claimOf k = s.claimOf k := hclaim
    have hrecord : s.recordOf k = some d := hrecord
    have hrecord' : s'.recordOf k
      = some { d with ruling := outcome, challengeDeadline := finalizeAt } := hrecord'
    obtain ⟨hversion, htiming⟩ := h.timing_of_grows hgrows (by rw [horder])
    refine ⟨by rw [horder]; exact h.locked, hversion, htiming, by rw [horder]; exact h.anchorDelay,
      ?_, ?_⟩
    · rw [horder, hclaim]
      exact h.claim
    · rw [horder]
      intro hdisputed
      obtain ⟨d', hd', hdeadline', hbuffer, hle⟩ := h.dispute hdisputed
      rw [hrecord] at hd'
      obtain rfl := Option.some.inj hd'
      refine ⟨_, hrecord', hdeadline', hbuffer, ?_⟩
      have hnow := hruling hcall
      unfold rulingDeadline at hruled
      obtain ⟨-, rfl⟩ := Check.add_ok.mp hruled
      have hnow64 : ctx.now64 ≤ ctx.now := Nat.mod_le _ _
      have hlimit := le_max_left limit (p.deadline.toNat + MAX_CHALLENGE_PERIOD)
      have hlater := le_max_right limit (p.deadline.toNat + MAX_CHALLENGE_PERIOD)
      dsimp only
      rw [hdeadline', hbuffer]
      split <;> omega
  | closed status hterminal horder =>
    have horder : s'.order k = { s.order k with status } := horder
    obtain ⟨hversion, htiming⟩ := h.timing_of_grows hgrows (by rw [horder])
    refine ⟨?_, hversion, htiming, by rw [horder]; exact h.anchorDelay, fun hclaimed => ?_,
      fun hdisputed => ?_⟩
    · rw [horder]
      rintro rfl
      cases hterminal
    · rw [horder] at hclaimed
      cases hclaimed
      cases hterminal
    · rw [horder] at hdisputed
      cases hdisputed
      cases hterminal

/-! ## Whole runs -/

theorem sound_of_run {history : List ((Context × Call) × Unit)}
    (run : Run (system hash) Chain.fresh history s) : s.Sound := by
  refine run.preserves (R := Chain.Sound) sound_fresh ?_ ?_
  · rintro s ⟨ctx, call⟩ ret s' hs ok
    exact (step_of_exec hs ok).2.1
  · rintro s s' hs ⟨disputes, rfl, -⟩
    exact ⟨hs.timings, hs.delays, hs.periods⟩

theorem kept_of_run {history : List ((Context × Call) × Unit)} {s₁ : Chain} (hsound : s₁.Sound)
    (hkept : Kept p t delay limit k s₁) (run : Run (system hash) s₁ history s)
    (hsame : ∀ e ∈ history, ∀ q, e.1.2.params? = some q → hash q = k → q = p)
    (hrulings : ∀ e ∈ history, e.1.2.ruling = true → e.1.1.now < limit)
    (hfits : p.deadline.toNat + t.buffer + MAX_CHALLENGE_PERIOD < 2 ^ 64) :
    s.Sound ∧ Kept p t delay limit k s := by
  induction run with
  | start => exact ⟨hsound, hkept⟩
  | accepted run admitted ok ih =>
    obtain ⟨hs, hk⟩ := ih (fun e he => hsame e (List.mem_cons_of_mem _ he))
      (fun e he => hrulings e (List.mem_cons_of_mem _ he))
    obtain ⟨hsteps, hs', hgrows⟩ := step_of_exec hs ok
    exact ⟨hs', hk.step hgrows hs (hsame _ List.mem_cons_self) (hrulings _ List.mem_cons_self)
      hfits (hsteps k)⟩
  | refused run failed ih => exact ih hsame hrulings
  | outside run moved ih =>
    obtain ⟨hs, hk⟩ := ih hsame hrulings
    obtain ⟨disputes, rfl, hdisputes⟩ := moved
    refine ⟨⟨hs.timings, hs.delays, hs.periods⟩, hk.locked, hk.version, hk.timing, hk.anchorDelay,
      hk.claim, fun hdisputed => ?_⟩
    obtain ⟨d, hd, hrest⟩ := hk.dispute hdisputed
    exact ⟨d, (hdisputes _ k hk.locked).trans hd, hrest⟩

theorem Chain.Sound.anchorDelayNow_le (h : s.Sound) (chainId : Uint256) :
    s.anchorDelayNow chainId ≤ MAX_ANCHOR_DELAY := by
  unfold Chain.anchorDelayNow
  split
  · exact Nat.zero_le _
  · cases hget : s.anchorDelay.get? (s.rootAnchor, chainId) with
    | none => exact Nat.zero_le _
    | some delay => exact h.delays _ _ hget

/-- A lock writes the current timing and the whole delay with the order. -/
theorem kept_of_lock (limit : ℕ) (h : s.Sound) (ok : lockForOrder hash ctx p s = .ok ((), s')) :
    ∃ v, v ≠ 0 ∧ v = s.version p.orderChainId ∧
      ctx.now + (s.timingAt p.orderChainId v).minWindow ≤ p.deadline.toNat ∧
      p.deadline.toNat ≤ ctx.now + MAX_ORDER_WINDOW ∧
      Kept p (s.timingAt p.orderChainId v) (s.anchorDelayNow p.orderChainId) limit (hash p) s' := by
  rw [lockForOrder, Tx.bind_ok] at ok
  obtain ⟨_, _, hpassed, ok⟩ := ok
  obtain ⟨-, hs⟩ := passed_ok.mp hpassed
  cases hs
  rw [Tx.bind_view_ok] at ok
  obtain ⟨v, hwindow, ok⟩ := ok
  rw [Tx.bind_read_ok, Tx.bind_require_ok, Tx.modify_ok] at ok
  obtain ⟨-, heq⟩ := ok
  obtain rfl := (Prod.mk.inj heq).2
  unfold requireMinWindow at hwindow
  simp only [Check.bind_ok, Check.require_ok, Check.add_ok, Check.pure_ok] at hwindow
  obtain ⟨_, hset, minAllowed, ⟨-, rfl⟩, _, hsoon, maxAllowed, ⟨-, rfl⟩, _, hfar, rfl⟩ := hwindow
  have hdelay := h.anchorDelayNow_le p.orderChainId
  have hnarrow : s.anchorDelayNow p.orderChainId % 2 ^ 32 = s.anchorDelayNow p.orderChainId :=
    Nat.mod_eq_of_lt (lt_of_le_of_lt hdelay (by decide))
  refine ⟨_, hset, rfl, hsoon, hfar, ?_⟩
  refine ⟨?_, ?_, ?_, ?_, ?_, ?_⟩
  · rw [order_set]
    exact Status.noConfusion
  · rw [order_set]
    exact le_refl _
  · rw [Chain.orderTiming, order_set]
    rfl
  · rw [order_set]
    exact hnarrow
  · rw [order_set]
    exact fun hclaimed => Status.noConfusion hclaimed
  · rw [order_set]
    exact fun hdisputed => Status.noConfusion hdisputed

end AdLeg
end Evm
end ProofBridge
