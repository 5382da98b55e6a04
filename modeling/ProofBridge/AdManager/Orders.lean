import ProofBridge.AdManager.LedgerRuns

/-!
# One order through its life

`Leg` is everything this contract keeps about one order hash: its record, its claim, the dispute
module it was filed with, whether its settlement was recorded, and the leaves appended for it.
`LegStep` is the state machine of a leg, one constructor for each transition, and every accepted call
takes each leg one such step or leaves it alone.
-/

namespace ProofBridge
namespace AdManager

open ContractLib

variable {X : Type} {O : Outside X} {H : Host} {env : Env} {s s' : Chain X}
  {outside : X → X → Prop}

/-- What the contract keeps about one order. -/
@[ext] structure Leg where
  record : OrderRecord
  claim : Option ClaimRecord
  /-- The dispute module the order was filed with. -/
  manager : Option Address
  /-- Its SETTLED leaf was appended. -/
  settled : Bool
  /-- The kinds of leaves appended for it, the newest first. -/
  leaves : List ℕ
  deriving DecidableEq, Repr

/-- The leg of `orderHash`. -/
def leg (orderHash : BytesN32) (s : Chain X) : Leg where
  record := s.core.ledger.getOrder orderHash
  claim := s.core.ledger.claims.get? orderHash
  manager := s.core.ledger.disputeManagers.get? orderHash
  settled := s.core.ledger.isSettledRecorded orderHash
  leaves := leavesOf orderHash s.core.leaves

/-- A leg nothing happened to. -/
def Leg.absent : Leg where
  record := .absent
  claim := none
  manager := none
  settled := false
  leaves := []

namespace Leg

/-- The leg with its status moved. -/
def move (l : Leg) (status : Status) : Leg := { l with record := { l.record with status } }

end Leg

/-- What one call, made at `now`, can do to a leg. -/
inductive LegStep (now : ℕ) (l : Leg) : Leg → Prop
  | kept : LegStep now l l
  /-- `lock_for_order`. -/
  | locked (hnew : l.record.status = .none) (registryEpoch timingVersion anchorDelay : ℕ)
      (pinnedSlot : U32) :
      LegStep now l { l with
        record := { status := .opened, lockedAt := now, registryEpoch, timingVersion, anchorDelay,
                    pinnedSlot, repinned := false }
        leaves := LEAF_DOMAIN_ORDER :: l.leaves }
  /-- `claim_cancel`. -/
  | claimed (hopened : l.record.status = .opened) (finalizeAt : ℕ) :
      LegStep now l { l.move .claimed with claim := some { openedAt := now, finalizeAt } }
  /-- `dispute`. -/
  | disputed (hopened : l.record.status = .opened ∨ l.record.status = .claimed)
      (manager : Address) :
      LegStep now l { l.move .disputed with manager := some manager, claim := none }
  /-- `unlock` and `present_settled`. -/
  | filled (hlive : l.record.status.live = true) :
      LegStep now l { l.move .filled with claim := none }
  /-- `finalize_dispute`. -/
  | resolved (hdisputed : l.record.status = .disputed) (outcome : DisputeOutcome) :
      LegStep now l { l.move .resolved with leaves := rulingDomain outcome :: l.leaves }
  /-- `finalize_cancel`. -/
  | cancelled (hclaimed : l.record.status = .claimed) :
      LegStep now l { l.move .cancelled with
        claim := none, leaves := LEAF_DOMAIN_CANCEL :: l.leaves }
  /-- `cancel_never_locked`. -/
  | neverLocked (hnone : l.record.status = .none) :
      LegStep now l { l.move .cancelled with leaves := LEAF_DOMAIN_CANCEL :: l.leaves }
  /-- `repin_order`. -/
  | repinned (hopened : l.record.status = .opened) (pinnedSlot : U32) :
      LegStep now l { l with record := { l.record with pinnedSlot, repinned := true } }
  /-- `record_settled`. -/
  | recorded (hfilled : l.record.status = .filled) (hnew : l.settled = false) :
      LegStep now l { l with settled := true, leaves := LEAF_DOMAIN_SETTLED :: l.leaves }

/-! ## The calls are steps of the machine -/

theorem getOrder_of_set {l l' : Ledger} {orderHash : BytesN32} {rec : OrderRecord}
    (h : l'.orders = l.orders.set orderHash rec) (k : BytesN32) :
    l'.getOrder k = if k = orderHash then rec else l.getOrder k := by
  unfold Ledger.getOrder
  rw [h, Map.get?_set]
  split <;> rfl

/-- A leg none of whose parts moved. -/
theorem leg_congr {orderHash : BytesN32}
    (horder : s'.core.ledger.getOrder orderHash = s.core.ledger.getOrder orderHash)
    (hclaim : s'.core.ledger.claims.get? orderHash = s.core.ledger.claims.get? orderHash)
    (hmanager : s'.core.ledger.disputeManagers.get? orderHash
      = s.core.ledger.disputeManagers.get? orderHash)
    (hsettled : s'.core.ledger.isSettledRecorded orderHash
      = s.core.ledger.isSettledRecorded orderHash)
    (hleaves : leavesOf orderHash s'.core.leaves = leavesOf orderHash s.core.leaves) :
    leg orderHash s' = leg orderHash s := by
  unfold leg
  rw [horder, hclaim, hmanager, hsettled, hleaves]

/-- A call that wrote neither the orders nor the leaves. -/
theorem leg_of_ledger (orderHash : BytesN32)
    (horders : s'.core.ledger.orders = s.core.ledger.orders)
    (hclaims : s'.core.ledger.claims = s.core.ledger.claims)
    (hmanagers : s'.core.ledger.disputeManagers = s.core.ledger.disputeManagers)
    (hsettled : s'.core.ledger.settled = s.core.ledger.settled)
    (hleaves : s'.core.leaves = s.core.leaves) : leg orderHash s' = leg orderHash s := by
  refine leg_congr ?_ ?_ ?_ ?_ ?_
  · unfold Ledger.getOrder
    rw [horders]
  · rw [hclaims]
  · rw [hmanagers]
  · unfold Ledger.isSettledRecorded
    rw [hsettled]
  · rw [hleaves]

/-- A call that wrote under one order hash only. -/
theorem legStep_at {orderHash : BytesN32} {now : ℕ} {l' : Leg}
    (hstep : LegStep now (leg orderHash s) l') (hat : leg orderHash s' = l')
    (hother : ∀ k, k ≠ orderHash → leg k s' = leg k s) (k : BytesN32) :
    LegStep now (leg k s) (leg k s') := by
  by_cases heq : k = orderHash
  · subst heq
    rw [hat]
    exact hstep
  · rw [hother k heq]
    exact .kept

/-- The parts of another order's leg that writes under `orderHash` leave alone. -/
theorem leg_other {orderHash k : BytesN32} (hne : k ≠ orderHash)
    (horders : (∃ rec, s'.core.ledger.orders = s.core.ledger.orders.set orderHash rec) ∨
      s'.core.ledger.orders = s.core.ledger.orders)
    (hclaims : s'.core.ledger.claims.get? k = s.core.ledger.claims.get? k)
    (hmanagers : s'.core.ledger.disputeManagers.get? k = s.core.ledger.disputeManagers.get? k)
    (hsettled : s'.core.ledger.isSettledRecorded k = s.core.ledger.isSettledRecorded k)
    (hleaves : leavesOf k s'.core.leaves = leavesOf k s.core.leaves) : leg k s' = leg k s := by
  refine leg_congr ?_ hclaims hmanagers hsettled hleaves
  rcases horders with ⟨rec, horders⟩ | horders
  · rw [getOrder_of_set horders, if_neg hne]
  · unfold Ledger.getOrder
    rw [horders]

theorem Filled.legs {config : ContractConfig} {params : OrderParams} {orderHash : BytesN32}
    {byEvidence : Bool} (h : Filled O H env config params orderHash byEvidence s s') :
    leg orderHash s' = { (leg orderHash s).move .filled with claim := none } ∧
      ∀ k, k ≠ orderHash → leg k s' = leg k s := by
  obtain ⟨hclosed, hcounted, hamount, had, hlocked, hcharged, hpaid⟩ := h
  obtain ⟨x, rfl⟩ := hclosed.frame
  obtain ⟨x', claimable, events, rfl⟩ := hpaid.moneyOnly
  constructor
  · unfold leg
    rw [getOrder_of_set (l := s.core.ledger) rfl, if_pos rfl]
    simp only [Escrow.closeOrder, Map.get?_remove_self]
    rfl
  · intro k hne
    refine leg_other hne (.inl ⟨_, rfl⟩) ?_ rfl rfl rfl
    exact Map.get?_remove_ne hne

/-- **The machine.** An accepted call takes every leg one step. -/
theorem legStep_of_step {call : Call} {ret : Ret} (hstep : Step O H env s call ret s')
    (k : BytesN32) : LegStep env.now (leg k s) (leg k s') := by
  have hkept : leg k s' = leg k s → LegStep env.now (leg k s) (leg k s') := by
    intro heq
    rw [heq]
    exact .kept
  cases hstep with
  | admin hcall hframe =>
    apply hkept
    apply leg_of_ledger
    · rw [hframe.ledger]
    · rw [hframe.ledger]
    · rw [hframe.ledger]
    · rw [hframe.ledger]
    · exact hframe.leaves
  | createAd => exact .kept
  | setSettlementSigner => exact .kept
  | fundAd => exact .kept
  | withdrawFromAd => exact .kept
  | closeAd => exact .kept
  | respondToDispute => exact .kept
  | claim => exact .kept
  | @lockForOrder params signerSlot config ad timingVersion amount orderHash anchorDelay x hconfig
      had hchecks hauth hhash hnew =>
    refine legStep_at (.locked hnew s.registryEpoch timingVersion (min anchorDelay (2 ^ 32 - 1))
      signerSlot) ?_ ?_ k
    · unfold leg
      rw [getOrder_of_set (l := s.core.ledger) rfl, if_pos rfl, leavesOf_cons, if_pos rfl]
      rfl
    · intro k hne
      exact leg_other hne (.inl ⟨_, rfl⟩) rfl rfl rfl (leavesOf_cons_ne hne _ _)
  | @unlock params nullifierHash targetRoot proof cosigData config orderHash t ad publicInputs s₁ s₂
      hconfig hhash hlive hnullifier htiming hcutoff had hhalt hroot hinputs hproof hspent
      hfilled =>
    obtain ⟨hat, hother⟩ := hfilled.legs
    subst hspent
    exact legStep_at (.filled hlive) hat hother k
  | presentSettled hconfig hhash hlive hanchored hproof hfilled =>
    obtain ⟨hat, hother⟩ := hfilled.legs
    exact legStep_at (.filled hlive) hat hother k
  | @claimCancel params config orderHash t hconfig hhash hopened =>
    refine legStep_at (.claimed hopened (saturatingAdd params.deadline.toNat t.buffer)) ?_ ?_ k
    · unfold leg
      rw [getOrder_of_set (l := s.core.ledger) rfl, if_pos rfl, Map.get?_set_self]
      rfl
    · intro k hne
      exact leg_other hne (.inl ⟨_, rfl⟩) (Map.get?_set_ne hne) rfl rfl rfl
  | @dispute params filer evidence config orderHash ad amount bond t manager x hconfig hhash had
      hparty hamount hdisputable =>
    obtain ⟨hstatus, -, -⟩ := Escrow.requireDisputable_ok hdisputable
    refine legStep_at (.disputed hstatus manager) ?_ ?_ k
    · unfold leg
      rw [getOrder_of_set (l := s.core.ledger) rfl, if_pos rfl, Map.get?_set_self,
        Map.get?_remove_self]
      rfl
    · intro k hne
      exact leg_other hne (.inl ⟨_, rfl⟩) (Map.get?_remove_ne hne) (Map.get?_set_ne hne) rfl rfl
  | @finalizeDispute params config orderHash verdict amount finalizesAt ad s₁ manager x₁ x₂ hconfig
      hhash hdisputed hverdict hamount had hend hreached hlocked hpaid =>
    obtain ⟨c, out, ⟨x, claimable, events, rfl⟩, -, rfl⟩ := Locks.ruling_frame hpaid
    refine legStep_at (.resolved hdisputed verdict.1) ?_ ?_ k
    · unfold leg
      rw [getOrder_of_set (l := s.core.ledger) rfl, if_pos rfl, leavesOf_cons, if_pos rfl]
      rfl
    · intro k hne
      exact leg_other hne (.inl ⟨_, rfl⟩) rfl rfl rfl (leavesOf_cons_ne hne _ _)
  | @finalizeCancel params config orderHash t amount finalizesAt ad x hconfig hhash htiming
      hfinalizable =>
    simp only [Escrow.requireFinalizable, Check.bind_ok, Check.require_ok] at hfinalizable
    obtain ⟨-, hclaimed, -⟩ := hfinalizable
    refine legStep_at (.cancelled hclaimed) ?_ ?_ k
    · unfold leg
      rw [getOrder_of_set (l := s.core.ledger) rfl, if_pos rfl, leavesOf_cons, if_pos rfl]
      simp only [Escrow.closeOrder, Map.get?_remove_self]
      rfl
    · intro k hne
      exact leg_other hne (.inl ⟨_, rfl⟩) (Map.get?_remove_ne hne) rfl rfl
        (leavesOf_cons_ne hne _ _)
  | @cancelNeverLocked params targetRoot nullifierHash proof publicInputs config orderHash x hconfig
      hhash hnever =>
    refine legStep_at (.neverLocked hnever) ?_ ?_ k
    · unfold leg
      rw [getOrder_of_set (l := s.core.ledger) rfl, if_pos rfl, leavesOf_cons, if_pos rfl]
      rfl
    · intro k hne
      exact leg_other hne (.inl ⟨_, rfl⟩) rfl rfl rfl (leavesOf_cons_ne hne _ _)
  | @repinOrder params config orderHash t registry consent hconfig hhash hopened =>
    refine legStep_at (.repinned hopened consent.2.1) ?_ ?_ k
    · unfold leg
      rw [getOrder_of_set (l := s.core.ledger) rfl, if_pos rfl]
      rfl
    · intro k hne
      exact leg_other hne (.inl ⟨_, rfl⟩) rfl rfl rfl rfl
  | @recordSettled params config orderHash x hconfig hhash hfilled hnew =>
    refine legStep_at (.recorded hfilled hnew) ?_ ?_ k
    · unfold leg
      rw [Ledger.isSettledRecorded_of_set (l := s.core.ledger) rfl, leavesOf_cons, if_pos rfl,
        decide_eq_true rfl]
      rfl
    · intro k hne
      refine leg_other hne (.inr rfl) rfl rfl ?_ (leavesOf_cons_ne hne _ _)
      rw [Ledger.isSettledRecorded_of_set (l := s.core.ledger) rfl, decide_eq_false hne]
      rfl

/-- A fill opens no claim. -/
theorem Filled.claim {config : ContractConfig} {params : OrderParams} {orderHash : BytesN32}
    {byEvidence : Bool} (hfilled : Filled O H env config params orderHash byEvidence s s')
    {k : BytesN32} {claim : ClaimRecord} (h : s'.core.ledger.claims.get? k = some claim) :
    s.core.ledger.claims.get? k = some claim := by
  obtain ⟨hat, hother⟩ := hfilled.legs
  by_cases heq : k = orderHash
  · have hnone : (leg k s').claim = none := by rw [heq, hat]
    rw [show (leg k s').claim = some claim from h] at hnone
    cases hnone
  · have hclaim := congrArg Leg.claim (hother k heq)
    exact hclaim.symm.trans h

/-- A claim's end is written once, by the claim, on the clocks the order opened under. -/
theorem claim_of_step {call : Call} {ret : Ret} (hstep : Step O H env s call ret s')
    {k : BytesN32} {claim : ClaimRecord} (h : s'.core.ledger.claims.get? k = some claim) :
    s.core.ledger.claims.get? k = some claim ∨
      ∃ params config t, call = .claimCancel params ∧ s.core.settings.config = some config ∧
        hashOrder H params config.chainId = .ok k ∧
        Escrow.orderTiming k params.orderChainId s.core = .ok t ∧
        claim.finalizeAt = saturatingAdd params.deadline.toNat t.buffer := by
  have hremoved : ∀ {m : Map BytesN32 ClaimRecord} {o : BytesN32},
      (m.remove o).get? k = some claim → m.get? k = some claim := by
    intro m o hget
    rw [Map.get?_remove] at hget
    split at hget
    · cases hget
    · exact hget
  cases hstep with
  | admin hcall hframe =>
    rw [hframe.ledger] at h
    exact .inl h
  | @claimCancel params config orderHash t hconfig hhash hopened hdeadline htiming =>
    by_cases heq : k = orderHash
    · subst heq
      simp only [Map.get?_set_self, Option.some.injEq] at h
      subst h
      exact .inr ⟨params, config, t, rfl, hconfig, hhash, htiming, rfl⟩
    · exact .inl ((Map.get?_set_ne heq).symm.trans h)
  | @unlock params nullifierHash targetRoot proof cosigData config orderHash t ad publicInputs s₁ s₂
      hconfig hhash hlive hnullifier htiming hcutoff had hhalt hroot hinputs hproof hspent
      hfilled =>
    have hbefore := hfilled.claim h
    subst hspent
    exact .inl hbefore
  | presentSettled hconfig hhash hlive hanchored hproof hfilled =>
    exact .inl (hfilled.claim h)
  | finalizeDispute hconfig hhash hdisputed hverdict hamount had hend hreached hlocked hpaid =>
    obtain ⟨c, out, ⟨x, claimable, events, rfl⟩, -, rfl⟩ := Locks.ruling_frame hpaid
    exact .inl h
  | dispute => exact .inl (hremoved h)
  | finalizeCancel => exact .inl (hremoved h)
  | _ => exact .inl h

/-! ## What every reachable leg satisfies -/

/-- The leaves a leg may have, by its status. -/
def Leg.mayHold (l : Leg) : List (List ℕ) :=
  match l.record.status with
  | .none => [[]]
  | .opened | .claimed | .disputed => [[LEAF_DOMAIN_ORDER]]
  | .filled =>
    if l.settled then [[LEAF_DOMAIN_SETTLED, LEAF_DOMAIN_ORDER]] else [[LEAF_DOMAIN_ORDER]]
  | .cancelled => [[LEAF_DOMAIN_CANCEL], [LEAF_DOMAIN_CANCEL, LEAF_DOMAIN_ORDER]]
  | .resolved =>
    [[LEAF_DOMAIN_CANCEL, LEAF_DOMAIN_ORDER], [LEAF_DOMAIN_FORFEIT, LEAF_DOMAIN_ORDER]]

structure Leg.Sound (l : Leg) : Prop where
  leaves : l.leaves ∈ l.mayHold
  /-- Only a filled leg's settlement is recorded. -/
  settled : l.settled = true → l.record.status = .filled
  /-- A window is open exactly while the leg is claimed. -/
  claim : l.claim.isSome = true ↔ l.record.status = .claimed
  /-- A disputed leg knows its module. -/
  manager : l.record.status = .disputed → l.manager.isSome = true

theorem Leg.sound_absent : Leg.absent.Sound where
  leaves := List.mem_singleton.mpr rfl
  settled h := by cases h
  claim := by simp [Leg.absent, OrderRecord.absent]
  manager h := by cases h

/-- A leg that holds a claim is claimed; any other status means none is open. -/
theorem Leg.Sound.no_claim {l : Leg} (h : l.Sound) (hstatus : l.record.status ≠ .claimed) :
    l.claim = none := by
  rw [← Option.isNone_iff_eq_none, Option.isNone_iff_eq_none, ← Option.not_isSome_iff_eq_none]
  intro hsome
  exact hstatus (h.claim.mp hsome)

/-- Only a filled leg's settlement can have been recorded. -/
theorem Leg.Sound.unsettled {l : Leg} (h : l.Sound) (hstatus : l.record.status ≠ .filled) :
    l.settled = false := by
  cases hsettled : l.settled with
  | false => rfl
  | true => exact absurd (h.settled hsettled) hstatus

theorem LegStep.sound {now : ℕ} {l l' : Leg} (hstep : LegStep now l l') (h : l.Sound) :
    l'.Sound := by
  have hleaves := h.leaves
  cases hstep with
  | kept => exact h
  | locked hnew =>
    have hsettled := h.unsettled (by rw [hnew]; decide)
    have hclaim := h.no_claim (by rw [hnew]; decide)
    rw [Leg.mayHold, hnew, List.mem_singleton] at hleaves
    refine ⟨?_, ?_, ?_, ?_⟩
    · simp [Leg.mayHold, hleaves]
    · simp [hsettled]
    · simp [hclaim]
    · simp
  | claimed hopened =>
    have hsettled := h.unsettled (by rw [hopened]; decide)
    rw [Leg.mayHold, hopened] at hleaves
    exact ⟨hleaves, by simp [hsettled, Leg.move], by simp [Leg.move], by simp [Leg.move]⟩
  | disputed hopened =>
    have hsettled := h.unsettled (by rcases hopened with h | h <;> rw [h] <;> decide)
    refine ⟨?_, by simp [hsettled, Leg.move], by simp [Leg.move], by simp⟩
    rcases hopened with hopened | hopened <;> rw [Leg.mayHold, hopened] at hleaves <;>
      exact hleaves
  | filled hlive =>
    have hnot : l.record.status ≠ .filled := by
      intro heq
      rw [heq] at hlive
      cases hlive
    have hsettled := h.unsettled hnot
    refine ⟨?_, by simp [Leg.move], by simp [Leg.move], by simp [Leg.move]⟩
    cases hstatus : l.record.status <;> rw [hstatus] at hlive <;> cases hlive <;>
      rw [Leg.mayHold, hstatus] at hleaves <;> simpa [Leg.mayHold, Leg.move, hsettled] using hleaves
  | resolved hdisputed outcome =>
    have hsettled := h.unsettled (by rw [hdisputed]; decide)
    have hclaim := h.no_claim (by rw [hdisputed]; decide)
    rw [Leg.mayHold, hdisputed, List.mem_singleton] at hleaves
    refine ⟨?_, by simp [hsettled, Leg.move], by simp [hclaim, Leg.move], by simp [Leg.move]⟩
    by_cases houtcome : outcome = .bridgerForfeit
    · simp [Leg.mayHold, Leg.move, hleaves, rulingDomain, houtcome]
    · simp [Leg.mayHold, Leg.move, hleaves, rulingDomain, houtcome]
  | cancelled hclaimed =>
    have hsettled := h.unsettled (by rw [hclaimed]; decide)
    rw [Leg.mayHold, hclaimed, List.mem_singleton] at hleaves
    refine ⟨?_, by simp [hsettled, Leg.move], by simp [Leg.move], by simp [Leg.move]⟩
    simp [Leg.mayHold, Leg.move, hleaves]
  | neverLocked hnone =>
    have hsettled := h.unsettled (by rw [hnone]; decide)
    have hclaim := h.no_claim (by rw [hnone]; decide)
    rw [Leg.mayHold, hnone, List.mem_singleton] at hleaves
    refine ⟨?_, by simp [hsettled, Leg.move], by simp [hclaim, Leg.move], by simp [Leg.move]⟩
    simp [Leg.mayHold, Leg.move, hleaves]
  | repinned hopened =>
    exact ⟨hleaves, h.settled, h.claim, h.manager⟩
  | recorded hfilled hnew =>
    rw [Leg.mayHold, hfilled, hnew] at hleaves
    refine ⟨?_, fun _ => hfilled, h.claim, h.manager⟩
    simp only [Bool.false_eq_true, if_false, List.mem_singleton] at hleaves
    simp [Leg.mayHold, hfilled, hleaves]

/-- In every reachable state every leg is sound. -/
theorem legs_of_run {x : X} {history : History}
    (run : Run (system O H outside) (Chain.fresh x) history s) (orderHash : BytesN32) :
    (leg orderHash s).Sound := by
  refine run.invariant (I := fun _ s => (leg orderHash s).Sound) ?_ ?_ ?_
  · exact Leg.sound_absent
  · intro history s t ret s' _ hsound _ ok
    exact (legStep_of_step (step_of_exec ok) orderHash).sound hsound
  · intro history s s' _ hsound hmoved
    obtain ⟨x', -, rfl⟩ := hmoved
    exact hsound

/-- A leg that was never disputed names no module. -/
def Leg.Free (l : Leg) : Prop :=
  l.record.status = .none ∨ l.record.status = .opened ∨ l.record.status = .claimed →
    l.manager = none

theorem LegStep.free {now : ℕ} {l l' : Leg} (hstep : LegStep now l l') (h : l.Free) :
    l'.Free := by
  intro hstatus
  cases hstep with
  | kept => exact h hstatus
  | locked hnew => exact h (.inl hnew)
  | claimed hopened => exact h (.inr (.inl hopened))
  | repinned hopened => exact h (.inr (.inl hopened))
  | recorded => exact h hstatus
  | _ => rcases hstatus with hstatus | hstatus | hstatus <;> cases hstatus

/-! ## What a leg keeps -/

theorem not_terminal_of_live {status : Status} (h : status.live = true) :
    status.terminal = false := by
  cases status <;> first
    | rfl
    | cases h

/-- A leg that ended never changes its status again. -/
theorem LegStep.terminal {now : ℕ} {l l' : Leg} (hstep : LegStep now l l')
    (h : l.record.status.terminal = true) : l'.record.status = l.record.status := by
  cases hstep with
  | kept => rfl
  | locked hnew => rw [hnew] at h; cases h
  | claimed hopened => rw [hopened] at h; cases h
  | disputed hopened => rcases hopened with hopened | hopened <;> rw [hopened] at h <;> cases h
  | filled hlive =>
    rw [not_terminal_of_live hlive] at h
    cases h
  | resolved hdisputed => rw [hdisputed] at h; cases h
  | cancelled hclaimed => rw [hclaimed] at h; cases h
  | neverLocked hnone => rw [hnone] at h; cases h
  | repinned hopened => rfl
  | recorded => rfl

/-- A disputed leg stays disputed until it ends. -/
theorem LegStep.disputed_or_ended {now : ℕ} {l l' : Leg} (hstep : LegStep now l l')
    (h : l.record.status = .disputed) :
    l'.record.status = .disputed ∨ l'.record.status.terminal = true := by
  cases hstep with
  | kept => exact .inl h
  | locked hnew => rw [hnew] at h; cases h
  | claimed hopened => rw [hopened] at h; cases h
  | disputed hopened => exact .inl rfl
  | filled hlive => exact .inr rfl
  | resolved hdisputed => exact .inr rfl
  | cancelled hclaimed => rw [hclaimed] at h; cases h
  | neverLocked hnone => rw [hnone] at h; cases h
  | repinned hopened => rw [hopened] at h; cases h
  | recorded hfilled => rw [hfilled] at h; cases h

/-- What the lock stamped on the order. -/
def OrderRecord.stamp (r : OrderRecord) : ℕ × ℕ × ℕ × ℕ :=
  (r.lockedAt, r.registryEpoch, r.timingVersion, r.anchorDelay)

/-- Once a leg exists, nothing rewrites its stamp, and it never reads as absent again. -/
theorem LegStep.stamp {now : ℕ} {l l' : Leg} (hstep : LegStep now l l')
    (h : l.record.status ≠ .none) :
    OrderRecord.stamp l'.record = OrderRecord.stamp l.record ∧ l'.record.status ≠ .none := by
  cases hstep with
  | locked hnew => exact absurd hnew h
  | neverLocked hnone => exact absurd hnone h
  | kept => exact ⟨rfl, h⟩
  | claimed => exact ⟨rfl, Status.noConfusion⟩
  | disputed => exact ⟨rfl, Status.noConfusion⟩
  | filled => exact ⟨rfl, Status.noConfusion⟩
  | resolved => exact ⟨rfl, Status.noConfusion⟩
  | cancelled => exact ⟨rfl, Status.noConfusion⟩
  | repinned => exact ⟨rfl, h⟩
  | recorded => exact ⟨rfl, h⟩

/-- Over a run that goes on from a state with the leg, the stamp stands. -/
theorem stamp_of_run {s₀ : Chain X} {history : History} {orderHash : BytesN32}
    (run : Run (system O H outside) s₀ history s)
    (h : (leg orderHash s₀).record.status ≠ .none) :
    OrderRecord.stamp (leg orderHash s).record = OrderRecord.stamp (leg orderHash s₀).record ∧
      (leg orderHash s).record.status ≠ .none := by
  refine run.preserves (R := fun s =>
    OrderRecord.stamp (leg orderHash s).record = OrderRecord.stamp (leg orderHash s₀).record ∧
      (leg orderHash s).record.status ≠ .none) ⟨rfl, h⟩ ?_ ?_
  · intro s t ret s' hkept ok
    obtain ⟨hstamp, hstatus⟩ := (legStep_of_step (step_of_exec ok) orderHash).stamp hkept.2
    exact ⟨hstamp.trans hkept.1, hstatus⟩
  · intro s s' hkept hmoved
    obtain ⟨x', -, rfl⟩ := hmoved
    exact hkept

/-- Over a run, an order that ended stays as it ended. -/
theorem terminal_of_run {s₀ : Chain X} {history : History} {orderHash : BytesN32}
    (run : Run (system O H outside) s₀ history s)
    (h : (leg orderHash s₀).record.status.terminal = true) :
    (leg orderHash s).record.status = (leg orderHash s₀).record.status := by
  refine run.preserves (R := fun s =>
    (leg orderHash s).record.status = (leg orderHash s₀).record.status) rfl ?_ ?_
  · intro s t ret s' hkept ok
    refine ((legStep_of_step (step_of_exec ok) orderHash).terminal ?_).trans hkept
    rw [hkept]
    exact h
  · intro s s' hkept hmoved
    obtain ⟨x', -, rfl⟩ := hmoved
    exact hkept

end AdManager
end ProofBridge
