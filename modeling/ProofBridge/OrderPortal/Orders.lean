import ProofBridge.OrderPortal.Conservation

/-!
# One deposit through its life

`Leg` is what this contract keeps about one order hash, with the exits the run accepted for it; and
`LegStep` is the state machine of a leg. This leg has no clock of its own: a deposit is opened once
and one of four exits closes it.
-/

namespace ProofBridge
namespace OrderPortal

open ContractLib

variable {X : Type} {O : Outside X} {H : Host} {env : Env} {s s' : Chain X}
  {outside : X → X → Prop} {chainId : U128}

/-- How a deposit may leave. -/
inductive Exit
  /-- `unlock`: filled by a co-signed proof. -/
  | cosigned
  /-- `refund_by_cancel`: refunded on the ad leg's CANCEL leaf. -/
  | refunded
  /-- `present_settled`: filled on the ad leg's SETTLED leaf. -/
  | presented
  /-- `pay_maker_by_forfeit`: filled on the ad leg's FORFEIT leaf. -/
  | forfeited
  deriving DecidableEq, Repr

/-- The status an exit leaves the order in. -/
def Exit.status : Exit → Status
  | .refunded => .cancelled
  | .cosigned | .presented | .forfeited => .filled

/-- The exit a call takes, and the order it takes it with. -/
def Call.exit? : Call → Option (Exit × OrderParams)
  | .unlock params .. => some (.cosigned, params)
  | .refundByCancel params .. => some (.refunded, params)
  | .presentSettled params .. => some (.presented, params)
  | .payMakerByForfeit params .. => some (.forfeited, params)
  | _ => none

/-- The exit a call takes of the order `orderHash`. -/
def Call.exitOf (H : Host) (chainId : U128) (orderHash : BytesN32) (call : Call) : Option Exit :=
  match call.exit? with
  | none => none
  | some (exit, params) => if hashOrder H params chainId = .ok orderHash then some exit else none

/-- The exits a run accepted of one order, the newest first. -/
def exitsOf (H : Host) (chainId : U128) (orderHash : BytesN32) (history : History) : List Exit :=
  history.filterMap fun e => e.1.2.exitOf H chainId orderHash

/-- What the contract keeps about one order, and how it left. -/
structure Leg where
  status : Status
  /-- Its SETTLED leaf was appended, or never may be. -/
  settled : Bool
  /-- The kinds of leaves appended for it, the newest first. -/
  leaves : List ℕ
  exits : List Exit
  deriving DecidableEq, Repr

def leg (H : Host) (chainId : U128) (orderHash : BytesN32) (history : History) (s : Chain X) :
    Leg where
  status := s.core.ledger.status orderHash
  settled := s.core.ledger.isSettledRecorded orderHash
  leaves := leavesOf orderHash s.core.leaves
  exits := exitsOf H chainId orderHash history

/-- What one call can do to a leg. -/
inductive LegStep (l : Leg) : Leg → Prop
  | kept : LegStep l l
  /-- `create_order`. -/
  | created (hnew : l.status = .none) :
      LegStep l { l with status := .opened, leaves := LEAF_DOMAIN_AD :: l.leaves }
  /-- One of the four exits; a forfeit marks the order recorded without a leaf. -/
  | exited (hlive : l.status.live = true) (exit : Exit) :
      LegStep l { l with
        status := exit.status
        settled := l.settled || decide (exit = .forfeited)
        exits := exit :: l.exits }
  /-- `record_settled`. -/
  | recorded (hfilled : l.status = .filled) (hnew : l.settled = false) :
      LegStep l { l with settled := true, leaves := LEAF_DOMAIN_SETTLED :: l.leaves }

/-! ## The calls are steps of the machine -/

theorem exitOf_none {call : Call} (h : call.exit? = none) (k : BytesN32) :
    call.exitOf H chainId k = none := by
  unfold Call.exitOf
  rw [h]

theorem exitOf_some {call : Call} {exit : Exit} {params : OrderParams} {orderHash : BytesN32}
    (h : call.exit? = some (exit, params)) (hhash : hashOrder H params chainId = .ok orderHash)
    (k : BytesN32) : call.exitOf H chainId k = if k = orderHash then some exit else none := by
  unfold Call.exitOf
  rw [h]
  simp only [hhash, Except.ok.injEq, eq_comm (a := orderHash)]

theorem exitsOf_cons (k : BytesN32) (history : History) (env : Env) (call : Call) (ret : Ret) :
    exitsOf H chainId k (((env, call), ret) :: history)
      = (call.exitOf H chainId k).toList ++ exitsOf H chainId k history := by
  unfold exitsOf
  rw [List.filterMap_cons]
  cases call.exitOf H chainId k <;> simp

/-- A call that takes no exit and moves no part of the leg. -/
theorem leg_of_ledger {history : History} {call : Call} {ret : Ret} (k : BytesN32)
    (hexit : call.exit? = none)
    (hstatus : s'.core.ledger.status k = s.core.ledger.status k)
    (hsettled : s'.core.ledger.isSettledRecorded k = s.core.ledger.isSettledRecorded k)
    (hleaves : leavesOf k s'.core.leaves = leavesOf k s.core.leaves) :
    leg H chainId k (((env, call), ret) :: history) s' = leg H chainId k history s := by
  unfold leg
  rw [hstatus, hsettled, hleaves, exitsOf_cons, exitOf_none hexit]
  rfl

/-- An exit takes its order's leg one step and leaves the others alone. -/
theorem legStep_of_exited (history : History) (call : Call) (ret : Ret) (exit : Exit)
    {config : ContractConfig} {params : OrderParams} {orderHash recipient : BytesN32}
    {event : Event} {s₁ : Chain X}
    (hexited : Exited O H env config params orderHash exit.status recipient event s₁ s')
    (hexit : call.exit? = some (exit, params))
    (hhash : hashOrder H params chainId = .ok orderHash)
    (hlive : (s.core.ledger.status orderHash).live = true)
    (hsame : s₁.core.ledger.orders = s.core.ledger.orders ∧ s₁.core.leaves = s.core.leaves)
    (hmark : ∀ k, s₁.core.ledger.isSettledRecorded k
      = (s.core.ledger.isSettledRecorded k || decide (k = orderHash ∧ exit = .forfeited)))
    (k : BytesN32) :
    LegStep (leg H chainId k history s)
      (leg H chainId k (((env, call), ret) :: history) s') := by
  obtain ⟨x, claimable, events, rfl⟩ := hexited.frame
  have hstatus : ∀ k, (Escrow.closeOrder orderHash params.bridger exit.status
      s₁.core.ledger).status k = if k = orderHash then exit.status else s.core.ledger.status k := by
    intro k
    rw [Ledger.status_of_set (l := s₁.core.ledger) rfl, Ledger.status_of_eq hsame.1]
  have hleg : leg H chainId k (((env, call), ret) :: history)
      { s₁ with core := { s₁.core with
        outside := x
        ledger := { Escrow.closeOrder orderHash params.bridger exit.status s₁.core.ledger with
          claimable }
        events } }
      = { status := if k = orderHash then exit.status else s.core.ledger.status k
          settled := s.core.ledger.isSettledRecorded k
            || decide (k = orderHash ∧ exit = .forfeited)
          leaves := leavesOf k s.core.leaves
          exits := (if k = orderHash then [exit] else []) ++ exitsOf H chainId k history } := by
    unfold leg
    rw [exitsOf_cons, exitOf_some hexit hhash, ← hstatus, ← hmark, ← hsame.2]
    congr 1
    split <;> rfl
  rw [hleg]
  by_cases heq : k = orderHash
  · subst heq
    simp only [if_true, true_and]
    exact .exited hlive exit
  · simp only [heq, if_false, false_and, decide_false, Bool.or_false]
    exact .kept

/-- **The machine.** An accepted call takes every leg one step. -/
theorem legStep_of_step {history : History} {call : Call} {ret : Ret}
    (hchain : ∀ config, s.core.settings.config = some config → config.chainId = chainId)
    (hstep : Step O H env s call ret s') (k : BytesN32) :
    LegStep (leg H chainId k history s)
      (leg H chainId k (((env, call), ret) :: history) s') := by
  have hkept : leg H chainId k (((env, call), ret) :: history) s' = leg H chainId k history s →
      LegStep (leg H chainId k history s)
        (leg H chainId k (((env, call), ret) :: history) s') := by
    intro heq
    rw [heq]
    exact .kept
  cases hstep with
  | admin hcall honly =>
    apply hkept
    apply leg_of_ledger
    · cases call <;> first
        | rfl
        | cases hcall
    · rw [honly.ledger]
    · rw [honly.ledger]
    · rw [honly.leaves]
  | @createOrder params config timingVersion orderHash x₁ x₂ hconfig hvalid hdecimals hwindow hhash
      hnew =>
    by_cases heq : k = orderHash
    · subst heq
      have hleg : leg H chainId k (((env, .createOrder params), .order k) :: history)
          { s with core := { s.core with
            outside := x₂
            leaves := (k, LEAF_DOMAIN_AD) :: s.core.leaves
            ledger := { s.core.ledger with
              orders := s.core.ledger.orders.set k
                { status := .opened, lockedAt := env.now, registryEpoch := 0, timingVersion
                  anchorDelay := 0, pinnedSlot := 0, repinned := false }
              inFlight := storeNonzero s.core.ledger.inFlight params.bridger
                (s.core.ledger.getInFlight params.bridger + 1) }
            events := .orderCreated k params.bridger params.orderChainToken
              params.amount.toNat params.adChainId params.adChainToken params.adManager params.adId
              params.adCreator params.adRecipient :: s.core.events } }
          = { leg H chainId k history s with
              status := .opened, leaves := LEAF_DOMAIN_AD :: leavesOf k s.core.leaves } := by
        unfold leg
        rw [exitsOf_cons, exitOf_none rfl, Ledger.status_of_set (l := s.core.ledger) rfl,
          if_pos rfl, leavesOf_cons, if_pos rfl]
        rfl
      rw [hleg]
      exact .created hnew
    · apply hkept
      apply leg_of_ledger k rfl
      · rw [Ledger.status_of_set (l := s.core.ledger) rfl, if_neg heq]
      · rfl
      · exact leavesOf_cons_ne heq _ _
  | @unlock params nullifierHash targetRoot proof cosigData config orderHash t publicInputs s₁ s₂
      hconfig hhash hopened hnullifier htiming hcutoff hinputs hroot hproof hspent hexit =>
    rw [hchain _ hconfig] at hhash
    have hlive : (s.core.ledger.status orderHash).live = true := by rw [hopened]; rfl
    subst hspent
    have hmark : ∀ k, Ledger.isSettledRecorded
        { s.core.ledger with nullifiers := s.core.ledger.nullifiers.set nullifierHash true } k
        = (s.core.ledger.isSettledRecorded k
          || decide (k = orderHash ∧ Exit.cosigned = .forfeited)) := by
      intro k
      simp [Ledger.isSettledRecorded]
    have hmoved := legStep_of_exited history
      (.unlock params nullifierHash targetRoot proof cosigData) .unit .cosigned hexit rfl hhash
      hlive ⟨rfl, rfl⟩ hmark k
    exact hmoved
  | @refundByCancel params targetRoot proof config orderHash s₁ hconfig hhash hevidence hexit =>
    rw [hchain _ hconfig] at hhash
    have hmoved := legStep_of_exited history (.refundByCancel params targetRoot proof) .unit
      .refunded hexit rfl hhash hevidence.live ⟨rfl, rfl⟩ (fun k => by simp) k
    exact hmoved
  | presentSettled hconfig hhash hevidence hexit =>
    rw [hchain _ hconfig] at hhash
    exact legStep_of_exited history _ _ .presented hexit rfl hhash hevidence.live ⟨rfl, rfl⟩
      (fun k => by simp) k
  | @payMakerByForfeit params targetRoot proof config orderHash s₁ s₂ hconfig hhash hevidence
      hmarked hexit =>
    rw [hchain _ hconfig] at hhash
    subst hmarked
    have hmark : ∀ k, Ledger.isSettledRecorded
        { s.core.ledger with settled := s.core.ledger.settled.set orderHash true } k
        = (s.core.ledger.isSettledRecorded k
          || decide (k = orderHash ∧ Exit.forfeited = .forfeited)) := by
      intro k
      rw [Ledger.isSettledRecorded_of_set (l := s.core.ledger) rfl, Bool.or_comm]
      simp
    have hmoved := legStep_of_exited history (.payMakerByForfeit params targetRoot proof) .unit
      .forfeited hexit rfl hhash hevidence.live ⟨rfl, rfl⟩ hmark k
    exact hmoved
  | @recordSettled params config orderHash x hconfig hhash hfilled hnew =>
    by_cases heq : k = orderHash
    · subst heq
      have hleg : leg H chainId k (((env, .recordSettled params), .unit) :: history)
          { s with core := { s.core with
            outside := x
            leaves := (k, LEAF_DOMAIN_SETTLED) :: s.core.leaves
            ledger := { s.core.ledger with settled := s.core.ledger.settled.set k true }
            events := .settledRecorded k :: s.core.events } }
          = { leg H chainId k history s with
              settled := true, leaves := LEAF_DOMAIN_SETTLED :: leavesOf k s.core.leaves } := by
        unfold leg
        rw [exitsOf_cons, exitOf_none rfl,
          Ledger.isSettledRecorded_of_set (l := s.core.ledger) rfl, decide_eq_true rfl,
          leavesOf_cons, if_pos rfl]
        rfl
      rw [hleg]
      exact .recorded hfilled hnew
    · apply hkept
      apply leg_of_ledger k rfl
      · rfl
      · rw [Ledger.isSettledRecorded_of_set (l := s.core.ledger) rfl, decide_eq_false heq]
        rfl
      · exact leavesOf_cons_ne heq _ _
  | claim =>
    apply hkept
    exact leg_of_ledger k rfl rfl rfl rfl

/-! ## What every reachable leg satisfies -/

/-- The exits and the leaves a leg may have, by its status and its mark. -/
def Leg.Sound (l : Leg) : Prop :=
  match l.status with
  | .none => l.exits = [] ∧ l.leaves = [] ∧ l.settled = false
  | .opened => l.exits = [] ∧ l.leaves = [LEAF_DOMAIN_AD] ∧ l.settled = false
  | .cancelled => l.exits = [.refunded] ∧ l.leaves = [LEAF_DOMAIN_AD] ∧ l.settled = false
  | .filled =>
    (l.exits = [.forfeited] ∧ l.leaves = [LEAF_DOMAIN_AD] ∧ l.settled = true) ∨
    ((l.exits = [.cosigned] ∨ l.exits = [.presented]) ∧
      l.leaves = if l.settled then [LEAF_DOMAIN_SETTLED, LEAF_DOMAIN_AD] else [LEAF_DOMAIN_AD])
  | .claimed | .disputed | .resolved => False

theorem LegStep.sound {l l' : Leg} (hstep : LegStep l l') (h : l.Sound) : l'.Sound := by
  cases hstep with
  | kept => exact h
  | created hnew =>
    unfold Leg.Sound at h
    rw [hnew] at h
    obtain ⟨hexits, hleaves, hsettled⟩ := h
    exact ⟨hexits, congrArg _ hleaves, hsettled⟩
  | exited hlive exit =>
    have hopened : l.status = .opened := by
      unfold Leg.Sound at h
      cases hstatus : l.status <;> rw [hstatus] at h hlive <;> first
        | rfl
        | exact h.elim
        | cases hlive
    unfold Leg.Sound at h
    rw [hopened] at h
    obtain ⟨hexits, hleaves, hsettled⟩ := h
    cases exit <;> simp [Leg.Sound, Exit.status, hexits, hleaves, hsettled]
  | recorded hfilled hnew =>
    unfold Leg.Sound at h ⊢
    rw [hfilled] at h
    simp only [hfilled]
    rcases h with ⟨-, -, hsettled⟩ | ⟨hexits, hleaves⟩
    · rw [hnew] at hsettled
      cases hsettled
    · rw [hnew] at hleaves
      exact .inr ⟨hexits, congrArg _ hleaves⟩

/-- In every reachable state every leg is sound. -/
theorem legs_of_run {x : X} {history : History} {wNative : Address}
    (run : Run (system O H outside) (Chain.fresh x) history s)
    (hconfig : ∀ config, s.core.settings.config = some config →
      config.chainId = chainId ∧ config.wNativeToken = wNative) (orderHash : BytesN32) :
    (leg H chainId orderHash history s).Sound := by
  have hall := run_invariant (I := fun history s => ∀ k, (leg H chainId k history s).Sound)
    ?_ ?_ ?_ run hconfig (List.Subset.refl (ordersOf history))
  · exact hall orderHash
  · intro k
    exact ⟨rfl, rfl, rfl⟩
  · intro history s env call ret s' h _ hconfig _ _ _ hstep k
    exact (legStep_of_step (fun config hc => (hconfig config hc).1) hstep k).sound (h k)
  · intro history s x' h _
    exact h

end OrderPortal
end ProofBridge
