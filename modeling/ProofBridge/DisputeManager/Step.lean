import ProofBridge.DisputeManager.Model

/-!
# What one call of the DisputeManager can do

`Step` says once which records, credits and tokens each entry point moves, and under which guards.
The administrative calls move none of them.
-/

namespace ProofBridge
namespace DisputeManager

open ContractLib

variable {Y : Type} {T : Tokens Y} {H : Host} {env : Env} {c c' : Chain Y}

/-- A payout was pushed, or credited where the token refused it. -/
inductive Paid (T : Tokens Y) (H : Host) (env : Env) (payee token : Address) (amount : ℕ)
    (c : Chain Y) : Chain Y → Prop
  | pushed (y : Y)
      (h : T.transfer c.outside (env.inside H.address) token H.address payee (asI128 amount)
        = some y) :
      Paid T H env payee token amount c { c with outside := y }
  | creditedNative (h : c.state.wNative = some token)
      (hfit : c.state.getClaimable payee + amount < 2 ^ 128) :
      Paid T H env payee token amount c
        { c with state := { c.state with
          claimable := c.state.claimable.set payee (c.state.getClaimable payee + amount)
          published := .bondCredited payee amount :: c.state.published } }
  | creditedToken {wNative : Address} (h : c.state.wNative = some wNative) (hne : token ≠ wNative)
      (hfit : c.state.getTokenClaimable payee token + amount < 2 ^ 128) :
      Paid T H env payee token amount c
        { c with state := { c.state with
          tokenClaimable := c.state.tokenClaimable.set (payee, token)
            (c.state.getTokenClaimable payee token + amount)
          published := .tokenBondCredited payee token amount :: c.state.published } }

/-- What closing a record does with its bond; a zero bond is routed nowhere. -/
inductive Routed (T : Tokens Y) (H : Host) (env : Env) (orderHash : BytesN32) (d : DisputeRecord)
    (payee : Address) (toFiler : Bool) (c : Chain Y) : Chain Y → Prop
  | nothing (h : d.bond = 0) : Routed T H env orderHash d payee toFiler c c
  | paid {c' : Chain Y} (h : d.bond ≠ 0) (hpaid : Paid T H env payee d.bondToken d.bond c c') :
      Routed T H env orderHash d payee toFiler c
        { c' with state := { c'.state with
          published := .bondRouted orderHash payee d.bond toFiler :: c'.state.published } }

/-- The state with the record under `orderHash` written. -/
def State.withDispute (s : State) (orderHash : BytesN32) (d : DisputeRecord) (e : DisputeEvent) :
    State :=
  { s with disputes := s.disputes.set orderHash d, published := e :: s.published }

/-- The state with the record under `orderHash` closed. -/
def State.closed (s : State) (orderHash : BytesN32) : State :=
  { s with disputes := s.disputes.remove orderHash }

/-- What the administrative calls leave alone. -/
def held (c : Chain Y) :
    Y × Map BytesN32 DisputeRecord × Map Address ℕ × Map (Address × Address) ℕ × Option Address :=
  (c.outside, c.state.disputes, c.state.claimable, c.state.tokenClaimable, c.state.wNative)

theorem wNative_of_held (h : held c' = held c) : c'.state.wNative = c.state.wNative := by
  simp only [held, Prod.mk.injEq] at h
  exact h.2.2.2.2

/-- What every reachable module satisfies of its settings. -/
structure State.Sound (s : State) : Prop where
  /-- Every bond floor passed its validation. -/
  floors : ∀ chainId p, s.params.get? chainId = some p → p.bondFloor < 2 ^ 127
  minimums : ∀ key config, s.bondConfigs.get? key = some config → config.minBond < 2 ^ 127
  /-- The wrapped native token is wired with the admin. -/
  wired : s.admin = none → s.wNative = none

theorem State.sound_fresh : State.fresh.Sound where
  floors _ _ h := by simp [fresh] at h
  minimums _ _ h := by simp [fresh] at h
  wired _ := rfl

/-- The admin's calls. -/
def Call.administrative : Call → Bool
  | .setEscrow .. | .setDisputeParams .. | .setArbiter .. | .setProtocolFeePool ..
  | .setBondConfig .. | .activateTimelock | .proposeAction .. | .cancelAction ..
  | .transferAdmin .. | .acceptAdmin => true
  | _ => false

/-- Everything an accepted call did. -/
inductive Step (T : Tokens Y) (H : Host) (env : Env) (c : Chain Y) : Call → Ret → Chain Y → Prop
  | admin {call : Call} {ret : Ret} {c' : Chain Y} (hcall : call.administrative = true)
      (hwired : c.state.admin ≠ none)
      (hheld : held c' = held c)
      (hsound : c.state.Sound → c'.state.Sound) : Step T H env c call ret c'
  | initializeContract {admin wNative : Address} (hnew : c.state.admin = none) :
      Step T H env c (.initializeContract admin wNative) .unit
        { c with state := { c.state with admin := some admin, wNative := some wNative } }
  | openDispute {filing : Filing} {p : DisputeParams} {token : Address} {bond deadline : ℕ} {y : Y}
      (hcaller : env.authorized filing.escrow = true)
      (hescrow : c.state.isEscrow filing.escrow = true)
      (hnew : c.state.getDispute filing.orderHash = none)
      (hparams : c.state.params.get? filing.peerChainId = some p)
      (hbond : bondOf p filing.token filing.peerChainId filing.amount c.state = .ok (token, bond))
      (hauth : env.authorized filing.filer = true)
      (hpull : T.transfer c.outside (env.inside H.address) token filing.filer H.address
        (asI128 bond) = some y)
      (hdeadline : filingDeadline env p filing.deadline filing.buffer = .ok deadline) :
      Step T H env c (.openDispute filing) (.bond bond)
        { outside := y
          state := c.state.withDispute filing.orderHash
            { initiator := filing.filer, bond, challengeDeadline := deadline
              initiatorEvidence := filing.evidence, responderEvidence := 0, ruling := .none
              escrow := filing.escrow, orderDeadline := filing.deadline, buffer := filing.buffer
              bondToken := token }
            (.disputeFiled filing.orderHash filing.filer bond deadline filing.evidence) }
  | settleBond {settlement : Settlement} {d : DisputeRecord} {c' : Chain Y}
      (hauth : env.authorized settlement.escrow = true)
      (hopen : c.state.getDispute settlement.orderHash = some d)
      (hescrow : d.escrow = settlement.escrow)
      (hrouted : Routed T H env settlement.orderHash d
        (bondPayee d (bondReturnsToFiler settlement.outcome settlement.filerIsBridger
          settlement.returnToFiler) c.state)
        (bondReturnsToFiler settlement.outcome settlement.filerIsBridger settlement.returnToFiler)
        { c with state := c.state.closed settlement.orderHash } c') :
      Step T H env c (.settleBond settlement) .unit c'
  | recordResponse {response : Response} {d : DisputeRecord}
      (hauth : env.authorized response.escrow = true)
      (hresponder : env.authorized response.responder = true)
      (hopen : c.state.getDispute response.orderHash = some d)
      (hescrow : d.escrow = response.escrow)
      (hother : d.initiator ≠ response.responder)
      (hnonzero : response.evidence ≠ 0)
      (hfirst : d.responderEvidence = 0)
      (hunruled : d.ruling = .none)
      (hbefore : env.now < d.challengeDeadline) :
      Step T H env c (.recordResponse response) .unit
        { c with state := (c.state.withDispute response.orderHash
          { d with responderEvidence := response.evidence }
          (.disputeResponded response.orderHash response.responder response.evidence)) }
  | resolveDispute {orderHash : BytesN32} {outcome : DisputeOutcome} {arbiter : Address}
      {d : DisputeRecord}
      (harbiter : c.state.arbiter = some arbiter)
      (hauth : env.authorized arbiter = true)
      (houtcome : outcome ≠ .tradeProceeds ∧ outcome ≠ .none)
      (hopen : c.state.getDispute orderHash = some d)
      (hbefore : env.now < d.challengeDeadline)
      (hfit : max env.now d.orderDeadline + d.buffer < 2 ^ 64) :
      Step T H env c (.resolveDispute orderHash outcome) .unit
        { c with state := (c.state.withDispute orderHash
          { d with
            ruling := outcome
            challengeDeadline := max env.now d.orderDeadline + d.buffer }
          (.disputeRuled orderHash outcome (max env.now d.orderDeadline + d.buffer))) }
  | claimNative {call : Call} {recipient wNative : Address} {y : Y}
      (hcall : call = .claim recipient ∨ call = .claimToken recipient wNative)
      (hnative : c.state.wNative = some wNative)
      (howed : c.state.getClaimable recipient ≠ 0)
      (hpush : T.transfer c.outside (env.inside H.address) wNative H.address recipient
        (asI128 (c.state.getClaimable recipient)) = some y) :
      Step T H env c call .unit
        { outside := y
          state := { c.state with
            claimable := c.state.claimable.set recipient 0
            published := .bondClaimed recipient (c.state.getClaimable recipient)
              :: c.state.published } }
  | claimToken {recipient token : Address} {y : Y}
      (hother : c.state.wNative ≠ some token)
      (howed : c.state.getTokenClaimable recipient token ≠ 0)
      (hpush : T.transfer c.outside (env.inside H.address) token H.address recipient
        (asI128 (c.state.getTokenClaimable recipient token)) = some y) :
      Step T H env c (.claimToken recipient token) .unit
        { outside := y
          state := { c.state with
            tokenClaimable := c.state.tokenClaimable.set (recipient, token) 0
            published := .tokenBondClaimed recipient token
              (c.state.getTokenClaimable recipient token) :: c.state.published } }

/-! ## The administrative calls -/

/-- `held`, and what soundness speaks of. -/
def heldSound (c : Chain Y) :=
  (held c, c.state.admin, c.state.params, c.state.bondConfigs)

theorem onTimelock_frames {α : Type} {x : Tx Fault Timelock α} :
    Tx.Frames (heldSound (Y := Y)) (onTimelock x) :=
  Tx.Frames.zoom fun _ _ => rfl

theorem gate_frames {fnName : Symbol} {args : List Val} :
    Tx.Frames (heldSound (Y := Y)) (gate H env fnName args) :=
  Tx.Frames.bind Tx.Frames.view fun _ => onTimelock_frames

theorem requireAdmin_frames : Tx.Frames (heldSound (Y := Y)) (requireAdmin env) := by
  unfold requireAdmin
  apply Tx.Frames.bind Tx.Frames.view
  intro admin
  exact Tx.Frames.bind Tx.Frames.demand fun _ => Tx.Frames.pure

/-- A write of a setting, then its event. -/
theorem setting_frames {f : State → State} {e : DisputeEvent}
    (hf : ∀ c : Chain Y, heldSound { c with state := f c.state } = heldSound c) :
    Tx.Frames (heldSound (Y := Y)) (setState f >>= fun _ => publish e) :=
  Tx.Frames.bind (Tx.Frames.modify hf) fun _ => Tx.Frames.modify fun _ => rfl

/-- The calls that move nothing soundness speaks of. -/
def Call.settings : Call → Bool
  | .setEscrow .. | .setArbiter .. | .setProtocolFeePool .. | .activateTimelock
  | .proposeAction .. | .cancelAction .. | .transferAdmin .. => true
  | _ => false

theorem exec_frames {call : Call} (hcall : call.settings = true) :
    Tx.Frames (heldSound (Y := Y)) (exec T H env call) := by
  cases call <;> simp only [Call.settings, Bool.false_eq_true] at hcall <;>
    apply Tx.Frames.answer
  case setEscrow =>
    apply Tx.Frames.bind Tx.Frames.view
    intro admin
    exact Tx.Frames.bind onTimelock_frames fun _ => setting_frames fun _ => rfl
  case setArbiter => exact Tx.Frames.bind gate_frames fun _ => setting_frames fun _ => rfl
  case setProtocolFeePool => exact Tx.Frames.bind gate_frames fun _ => setting_frames fun _ => rfl
  case activateTimelock => exact Tx.Frames.bind requireAdmin_frames fun _ => onTimelock_frames
  case proposeAction => exact Tx.Frames.bind requireAdmin_frames fun _ => onTimelock_frames
  case cancelAction => exact Tx.Frames.bind requireAdmin_frames fun _ => onTimelock_frames
  case transferAdmin =>
    exact Tx.Frames.bind requireAdmin_frames fun _ => setting_frames fun _ => rfl

/-- An admin's call needs an admin. -/
theorem wired_of_getAdmin {α : Type} {k : Address → Tx DisputeManagerError (Chain Y) α}
    {r : α × Chain Y} (ok : (Tx.view getAdmin >>= k) c = .ok r) : c.state.admin ≠ none := by
  obtain ⟨admin, hadmin, -⟩ := Tx.bind_view_ok.mp ok
  rw [Check.expect_ok.mp hadmin]
  exact Option.some_ne_none admin

theorem gate_wired {fnName : Symbol} {args : List Val} {α : Type}
    {k : Unit → Tx DisputeManagerError (Chain Y) α} {r : α × Chain Y}
    (ok : (gate H env fnName args >>= k) c = .ok r) : c.state.admin ≠ none := by
  obtain ⟨_, c₁, hgate, -⟩ := Tx.bind_ok.mp ok
  exact wired_of_getAdmin hgate

theorem requireAdmin_wired {α : Type} {k : Address → Tx DisputeManagerError (Chain Y) α}
    {r : α × Chain Y} (ok : (requireAdmin env >>= k) c = .ok r) : c.state.admin ≠ none := by
  obtain ⟨_, c₁, hadmin, -⟩ := Tx.bind_ok.mp ok
  exact wired_of_getAdmin hadmin

theorem exec_wired {call : Call} {r : Ret × Chain Y} (hcall : call.settings = true)
    (ok : exec T H env call c = .ok r) : c.state.admin ≠ none := by
  cases call <;> simp only [Call.settings, Bool.false_eq_true] at hcall <;>
    simp only [exec, Tx.answer_ok] at ok <;> obtain ⟨a, ok, -⟩ := ok
  case setEscrow => exact wired_of_getAdmin ok
  case setArbiter => exact gate_wired ok
  case setProtocolFeePool => exact gate_wired ok
  case activateTimelock => exact requireAdmin_wired ok
  case proposeAction => exact requireAdmin_wired ok
  case cancelAction => exact requireAdmin_wired ok
  case transferAdmin => exact requireAdmin_wired ok

theorem Step.of_heldSound {call : Call} {ret : Ret} (hcall : call.settings = true)
    (hwired : c.state.admin ≠ none) (h : heldSound c' = heldSound c) :
    Step T H env c call ret c' := by
  simp only [heldSound, Prod.mk.injEq] at h
  obtain ⟨hheld, hadmin, hparams, hconfigs⟩ := h
  have hnative := wNative_of_held hheld
  have hadministrative : call.administrative = true := by
    cases call <;> first
      | rfl
      | cases hcall
  refine .admin hadministrative hwired hheld fun hs => ⟨?_, ?_, ?_⟩
  · rw [hparams]
    exact hs.floors
  · rw [hconfigs]
    exact hs.minimums
  · rw [hadmin, hnative]
    exact hs.wired

theorem bondFloor_lt {p : DisputeParams} (h : validate p = .ok ()) : p.bondFloor < 2 ^ 127 := by
  unfold validate DisputeParams.validate at h
  by_cases hperiod : p.challengePeriod < MIN_CHALLENGE_PERIOD ∨
      MAX_CHALLENGE_PERIOD < p.challengePeriod
  · rw [if_pos hperiod] at h
    cases h
  by_cases hfloor : p.bondFloor = 0 ∨ 2 ^ 127 ≤ p.bondFloor
  · rw [if_neg hperiod, if_pos hfloor] at h
    cases h
  · omega

theorem setDisputeParams_step {chainId : U128} {params : DisputeParams}
    (ok : setDisputeParams H env chainId params c = .ok ((), c')) :
    Step T H env c (.setDisputeParams chainId params) .unit c' := by
  unfold setDisputeParams at ok
  have hwired := gate_wired ok
  rw [Tx.bind_ok] at ok
  obtain ⟨_, c₁, hgate, ok⟩ := ok
  have hframe := gate_frames c _ hgate
  simp only [Tx.bind_lift_ok, Tx.bind_modify_ok, Tx.modify_ok, Prod.mk.injEq, true_and] at ok
  obtain ⟨_, hvalid, rfl⟩ := ok
  simp only [heldSound, Prod.mk.injEq] at hframe
  obtain ⟨hheld, hadmin, hparams, hconfigs⟩ := hframe
  have hnative := wNative_of_held hheld
  refine .admin rfl hwired hheld fun hs => ⟨fun chain p hp => ?_, ?_, ?_⟩
  · rw [Map.get?_set] at hp
    split at hp
    · rw [← Option.some.inj hp]
      exact bondFloor_lt hvalid
    · exact hs.floors chain p (hparams ▸ hp)
  · show ∀ key config, c₁.state.bondConfigs.get? key = some config → _
    rw [hconfigs]
    exact hs.minimums
  · show c₁.state.admin = none → c₁.state.wNative = none
    rw [hadmin, hnative]
    exact hs.wired

theorem minBond_lt {config : BondConfig} (h : config.validate = true) :
    config.minBond < 2 ^ 127 := by
  unfold BondConfig.validate at h
  split at h
  · next hzero =>
    rw [hzero]
    exact Nat.two_pow_pos _
  · exact (of_decide_eq_true h).2

theorem setBondConfig_step {token : Address} {peerChainId : U128} {config : BondConfig}
    (ok : setBondConfig H env token peerChainId config c = .ok ((), c')) :
    Step T H env c (.setBondConfig token peerChainId config) .unit c' := by
  unfold setBondConfig at ok
  have hwired := gate_wired ok
  rw [Tx.bind_ok] at ok
  obtain ⟨_, c₁, hgate, ok⟩ := ok
  have hframe := gate_frames c _ hgate
  simp only [Tx.bind_require_ok, Tx.bind_modify_ok, Tx.modify_ok, Prod.mk.injEq, true_and] at ok
  obtain ⟨hvalid, rfl⟩ := ok
  simp only [heldSound, Prod.mk.injEq] at hframe
  obtain ⟨hheld, hadmin, hparams, hconfigs⟩ := hframe
  have hnative := wNative_of_held hheld
  refine .admin rfl hwired hheld fun hs => ⟨?_, fun key cfg hcfg => ?_, ?_⟩
  · show ∀ chainId p, c₁.state.params.get? chainId = some p → _
    rw [hparams]
    exact hs.floors
  · simp only [hconfigs] at hcfg
    split at hcfg
    · rw [Map.get?_remove] at hcfg
      split at hcfg
      · cases hcfg
      · exact hs.minimums key cfg hcfg
    · rw [Map.get?_set] at hcfg
      split at hcfg
      · rw [← Option.some.inj hcfg]
        exact minBond_lt hvalid
      · exact hs.minimums key cfg hcfg
  · show c₁.state.admin = none → c₁.state.wNative = none
    rw [hadmin, hnative]
    exact hs.wired

theorem acceptAdmin_step (ok : acceptAdmin env c = .ok ((), c')) :
    Step T H env c .acceptAdmin .unit c' := by
  unfold acceptAdmin at ok
  simp only [Tx.bind_read_ok, Tx.bind_expect_ok, Tx.bind_demand_ok, Tx.bind_view_ok,
    Tx.bind_modify_ok, Tx.bind_zoom_ok, Tx.modify_ok, Prod.mk.injEq, true_and] at ok
  obtain ⟨pending, -, -, old, hadmin, _, t, -, rfl⟩ := ok
  have hwired : c.state.admin ≠ none := by
    rw [Check.expect_ok.mp hadmin]
    exact Option.some_ne_none old
  exact .admin rfl hwired rfl fun hs => ⟨hs.floors, hs.minimums, fun hnone => by cases hnone⟩

/-! ## The entry points' inversions -/

theorem initializeContract_step {admin wNative : Address}
    (ok : initializeContract admin wNative c = .ok ((), c')) :
    Step T H env c (.initializeContract admin wNative) .unit c' := by
  unfold initializeContract at ok
  simp only [Tx.bind_read_ok, Tx.bind_require_ok, Tx.modify_ok, Prod.mk.injEq, true_and] at ok
  obtain ⟨hnew, rfl⟩ := ok
  exact .initializeContract hnew

theorem pullBond_ok {filer token : Address} {bond : ℕ} {r : Unit × Chain Y}
    (ok : pullBond T H env filer token bond c = .ok r) :
    ∃ y, T.transfer c.outside (env.inside H.address) token filer H.address (asI128 bond) = some y ∧
      r.2 = { c with outside := y } := by
  unfold pullBond at ok
  simp only [Tx.bind_read_ok, Tx.bind_expectTrap_ok, Tx.bind_expect_ok, Tx.bind_lift_ok,
    Tx.bind_require_ok, Tx.modify_ok] at ok
  obtain ⟨_, -, y, hpull, _, -, _, -, -, rfl⟩ := ok
  exact ⟨y, hpull, rfl⟩

theorem openDispute_step {filing : Filing} {bond : ℕ}
    (ok : openDispute T H env filing c = .ok (bond, c')) :
    Step T H env c (.openDispute filing) (.bond bond) c' := by
  unfold openDispute requireEscrow at ok
  rw [Tx.bind_ok] at ok
  obtain ⟨_, c₁, hescrow, ok⟩ := ok
  simp only [Tx.bind_demand_ok, Tx.bind_read_ok, Tx.require_ok, Prod.mk.injEq, true_and] at hescrow
  obtain ⟨hcaller, hescrow, rfl⟩ := hescrow
  simp only [Tx.bind_read_ok, Tx.bind_require_ok, Tx.bind_expect_ok, Tx.bind_lift_ok,
    Tx.bind_demand_ok] at ok
  obtain ⟨hnew, p, hparams, ⟨token, amount⟩, hbond, hauth, ok⟩ := ok
  rw [Tx.bind_ok] at ok
  obtain ⟨_, c₂, hpulled, ok⟩ := ok
  obtain ⟨y, hpull, rfl⟩ := pullBond_ok hpulled
  simp only [Tx.bind_lift_ok, Tx.bind_modify_ok, Tx.pure_ok, Prod.mk.injEq] at ok
  obtain ⟨deadline, hdeadline, rfl, rfl⟩ := ok
  exact .openDispute hcaller hescrow hnew hparams hbond hauth hpull hdeadline

theorem payOrCredit_ok {payee token : Address} {amount : ℕ} {r : Unit × Chain Y}
    (ok : payOrCredit T H env payee token amount c = .ok r) :
    Paid T H env payee token amount c r.2 := by
  unfold payOrCredit at ok
  rw [Tx.bind_read_ok] at ok
  cases hpush : T.transfer c.outside (env.inside H.address) token H.address payee
      (asI128 amount) with
  | some y =>
    rw [hpush] at ok
    obtain rfl := Tx.modify_ok.mp ok
    exact .pushed y hpush
  | none =>
    rw [hpush] at ok
    unfold credit at ok
    simp only [Tx.bind_read_ok, Tx.bind_expect_ok, Tx.ite_apply] at ok
    obtain ⟨wNative, hnative, ok⟩ := ok
    split at ok
    · next heq =>
      subst heq
      simp only [Tx.bind_lift_ok, Tx.bind_modify_ok, Tx.modify_ok, Check.add_ok] at ok
      obtain ⟨_, ⟨hfit, rfl⟩, rfl⟩ := ok
      exact .creditedNative hnative hfit
    · next hne =>
      simp only [Tx.bind_lift_ok, Tx.bind_modify_ok, Tx.modify_ok, Check.add_ok] at ok
      obtain ⟨_, ⟨hfit, rfl⟩, rfl⟩ := ok
      exact .creditedToken hnative hne hfit

theorem settleBond_step {settlement : Settlement}
    (ok : settleBond T H env settlement c = .ok ((), c')) :
    Step T H env c (.settleBond settlement) .unit c' := by
  unfold settleBond at ok
  simp only [Tx.bind_demand_ok, Tx.bind_read_ok, Tx.bind_expect_ok, Tx.bind_require_ok,
    Tx.bind_modify_ok, Tx.ite_apply] at ok
  obtain ⟨hauth, d, hopen, hescrow, ok⟩ := ok
  refine .settleBond hauth hopen hescrow ?_
  split at ok
  · next hbond =>
    rw [Tx.bind_ok] at ok
    obtain ⟨_, c₁, hpaid, ok⟩ := ok
    have hpaid := payOrCredit_ok hpaid
    cases Tx.modify_ok.mp ok
    exact .paid hbond hpaid
  · next hbond =>
    cases Tx.pure_ok.mp ok
    exact .nothing (not_not.mp hbond)

theorem recordResponse_step {response : Response}
    (ok : recordResponse env response c = .ok ((), c')) :
    Step T H env c (.recordResponse response) .unit c' := by
  unfold recordResponse at ok
  simp only [Tx.bind_demand_ok, Tx.bind_read_ok, Tx.bind_expect_ok, Tx.bind_require_ok,
    Tx.bind_modify_ok, Tx.modify_ok, Prod.mk.injEq, true_and] at ok
  obtain ⟨hauth, hresponder, d, hopen, hescrow, hother, hnonzero, hfirst, hunruled, hbefore, rfl⟩ :=
    ok
  exact .recordResponse hauth hresponder hopen hescrow hother hnonzero hfirst hunruled hbefore

theorem resolveDispute_step {orderHash : BytesN32} {outcome : DisputeOutcome}
    (ok : resolveDispute env orderHash outcome c = .ok ((), c')) :
    Step T H env c (.resolveDispute orderHash outcome) .unit c' := by
  unfold resolveDispute at ok
  simp only [Tx.bind_demand_ok, Tx.bind_read_ok, Tx.bind_expect_ok, Tx.bind_require_ok,
    Tx.bind_lift_ok, Tx.bind_modify_ok, Tx.modify_ok, Check.add_ok, Prod.mk.injEq, true_and] at ok
  obtain ⟨arbiter, harbiter, hauth, houtcome, d, hopen, hbefore, _, ⟨hfit, rfl⟩, rfl⟩ := ok
  exact .resolveDispute harbiter hauth houtcome hopen hbefore hfit

theorem claim_step {recipient : Address} {call : Call} (ok : claim T H env recipient c = .ok ((), c'))
    (hcall : ∀ wNative, c.state.wNative = some wNative →
      call = .claim recipient ∨ call = .claimToken recipient wNative) :
    Step T H env c call .unit c' := by
  unfold claim at ok
  simp only [Tx.bind_read_ok, Tx.bind_require_ok, Tx.bind_modify_ok, Tx.bind_expect_ok,
    Tx.modify_ok, Prod.mk.injEq, true_and] at ok
  obtain ⟨howed, wNative, hnative, y, hpush, rfl⟩ := ok
  exact .claimNative (hcall wNative hnative) hnative howed hpush

theorem claimToken_step {recipient token : Address}
    (ok : claimToken T H env recipient token c = .ok ((), c')) :
    Step T H env c (.claimToken recipient token) .unit c' := by
  unfold claimToken at ok
  simp only [Tx.bind_read_ok, Tx.ite_apply] at ok
  split at ok
  · next hnative =>
    refine claim_step ok fun wNative hw => .inr ?_
    rw [hnative] at hw
    rw [Option.some.inj hw]
  · next hother =>
    simp only [Tx.bind_require_ok, Tx.bind_modify_ok, Tx.bind_expect_ok, Tx.modify_ok,
      Prod.mk.injEq, true_and] at ok
    obtain ⟨howed, y, hpush, rfl⟩ := ok
    exact .claimToken hother howed hpush

/-- An accepted call did what `Step` says. -/
theorem step_of_exec {call : Call} {ret : Ret} (ok : exec T H env call c = .ok (ret, c')) :
    Step T H env c call ret c' := by
  by_cases hcall : call.settings = true
  · exact .of_heldSound hcall (exec_wired hcall ok) (exec_frames hcall c _ ok)
  · cases call <;> simp only [Call.settings, not_true_eq_false] at hcall <;>
      simp only [exec, Tx.answer_ok] at ok <;> obtain ⟨a, ok, rfl⟩ := ok
    case initializeContract => exact initializeContract_step ok
    case setDisputeParams => exact setDisputeParams_step ok
    case setBondConfig => exact setBondConfig_step ok
    case acceptAdmin => exact acceptAdmin_step ok
    case openDispute => exact openDispute_step ok
    case settleBond => exact settleBond_step ok
    case recordResponse => exact recordResponse_step ok
    case resolveDispute => exact resolveDispute_step ok
    case claim => exact claim_step ok fun _ _ => .inl rfl
    case claimToken => exact claimToken_step ok

/-! ## What one call does to one record -/

/-- The call files a dispute over `orderHash`. -/
def Call.files (orderHash : BytesN32) : Call → Bool
  | .openDispute filing => filing.orderHash = orderHash
  | _ => false

/-- The call closes the dispute over `orderHash`. -/
def Call.closes (orderHash : BytesN32) : Call → Bool
  | .settleBond settlement => settlement.orderHash = orderHash
  | _ => false

/-- Everything a filing fixes for good. -/
def stake (d : DisputeRecord) : Address × Address × ℕ × Address × ℕ × ℕ :=
  (d.initiator, d.bondToken, d.bond, d.escrow, d.orderDeadline, d.buffer)

/-- What a call did to the record under `orderHash`. -/
inductive RecordStep (orderHash : BytesN32) (call : Call) (s s' : State) : Prop
  | filed {d : DisputeRecord} (hcall : call.files orderHash = true)
      (hnew : s.getDispute orderHash = none) (hopen : s'.getDispute orderHash = some d)
  | closed {d : DisputeRecord} (hcall : call.closes orderHash = true)
      (hopen : s.getDispute orderHash = some d) (hgone : s'.getDispute orderHash = none)
  | kept (hfiles : call.files orderHash = false) (hcloses : call.closes orderHash = false)
      (hstake : (s'.getDispute orderHash).map stake = (s.getDispute orderHash).map stake)

theorem getDispute_withDispute (s : State) (orderHash o : BytesN32) (d : DisputeRecord)
    (e : DisputeEvent) :
    (s.withDispute orderHash d e).getDispute o = if o = orderHash then some d else s.getDispute o :=
  Map.get?_set _ _ _ _

theorem getDispute_closed (s : State) (orderHash o : BytesN32) :
    (s.closed orderHash).getDispute o = if o = orderHash then none else s.getDispute o :=
  Map.get?_remove _ _ _

/-- Paying a bond out touches no record. -/
theorem Paid.disputes {payee token : Address} {amount : ℕ}
    (h : Paid T H env payee token amount c c') : c'.state.disputes = c.state.disputes := by
  cases h <;> rfl

theorem Routed.disputes {orderHash : BytesN32} {d : DisputeRecord} {payee : Address}
    {toFiler : Bool} (h : Routed T H env orderHash d payee toFiler c c') :
    c'.state.disputes = c.state.disputes := by
  cases h with
  | nothing => rfl
  | paid hbond hpaid => exact hpaid.disputes

theorem getDispute_of_disputes {s s' : State} (h : s'.disputes = s.disputes)
    (orderHash : BytesN32) : s'.getDispute orderHash = s.getDispute orderHash := by
  unfold State.getDispute
  rw [h]

/-- A rewrite of one record keeps every record's stake. -/
theorem stake_withDispute {s : State} {orderHash : BytesN32} {d d' : DisputeRecord}
    {e : DisputeEvent} (hopen : s.getDispute orderHash = some d) (hstake : stake d' = stake d)
    (o : BytesN32) :
    ((s.withDispute orderHash d' e).getDispute o).map stake = (s.getDispute o).map stake := by
  rw [getDispute_withDispute]
  split
  · next heq =>
    rw [heq, hopen, Option.map_some, Option.map_some, hstake]
  · rfl

theorem recordStep_of_step {call : Call} {ret : Ret} (h : Step T H env c call ret c')
    (orderHash : BytesN32) : RecordStep orderHash call c.state c'.state := by
  cases h with
  | admin hcall hwired hheld =>
    simp only [held, Prod.mk.injEq] at hheld
    refine .kept ?_ ?_ (by rw [getDispute_of_disputes hheld.2.1])
    · cases call <;> first
        | rfl
        | cases hcall
    · cases call <;> first
        | rfl
        | cases hcall
  | initializeContract hnew => exact .kept rfl rfl rfl
  | @openDispute filing p token bond deadline y hcaller hescrow hnew =>
    by_cases heq : filing.orderHash = orderHash
    · subst heq
      exact .filed (decide_eq_true rfl) hnew ((getDispute_withDispute ..).trans (if_pos rfl))
    · refine .kept (decide_eq_false heq) rfl ?_
      rw [getDispute_withDispute, if_neg (Ne.symm heq)]
  | @settleBond settlement d _ hauth hopen hescrow hrouted =>
    have hafter := getDispute_of_disputes hrouted.disputes orderHash
    by_cases heq : settlement.orderHash = orderHash
    · subst heq
      refine .closed (decide_eq_true rfl) hopen ?_
      rw [hafter, getDispute_closed, if_pos rfl]
    · refine .kept rfl (decide_eq_false heq) ?_
      rw [hafter, getDispute_closed, if_neg (Ne.symm heq)]
  | recordResponse hauth hresponder hopen =>
    exact .kept rfl rfl (stake_withDispute hopen (by rfl) orderHash)
  | resolveDispute harbiter hauth houtcome hopen =>
    exact .kept rfl rfl (stake_withDispute hopen (by rfl) orderHash)
  | claimNative hcall =>
    rcases hcall with rfl | rfl
    · exact .kept rfl rfl rfl
    · exact .kept rfl rfl rfl
  | claimToken => exact .kept rfl rfl rfl

/-- The order whose record the call is about. -/
def Call.order : Call → Option BytesN32
  | .openDispute filing => some filing.orderHash
  | .settleBond settlement => some settlement.orderHash
  | .recordResponse response => some response.orderHash
  | .resolveDispute orderHash _ => some orderHash
  | _ => none

theorem order_of_administrative {call : Call} (h : call.administrative = true) :
    call.order = none := by
  cases call <;> first
    | rfl
    | cases h

/-- A call about another order leaves a record as it is. -/
theorem getDispute_of_other {call : Call} {ret : Ret} (h : Step T H env c call ret c')
    {orderHash : BytesN32} (hother : call.order ≠ some orderHash) :
    c'.state.getDispute orderHash = c.state.getDispute orderHash := by
  have hne : ∀ {o : BytesN32}, some o ≠ some orderHash → orderHash ≠ o := by
    rintro o ho rfl
    exact ho rfl
  cases h with
  | admin hcall hwired hheld =>
    simp only [held, Prod.mk.injEq] at hheld
    exact getDispute_of_disputes hheld.2.1 orderHash
  | initializeContract => rfl
  | openDispute => rw [getDispute_withDispute, if_neg (hne hother)]
  | settleBond hauth hopen hescrow hrouted =>
    rw [getDispute_of_disputes hrouted.disputes, getDispute_closed, if_neg (hne hother)]
  | recordResponse => rw [getDispute_withDispute, if_neg (hne hother)]
  | resolveDispute => rw [getDispute_withDispute, if_neg (hne hother)]
  | claimNative => rfl
  | claimToken => rfl

/-- What a filing wrote. -/
theorem filed_of_step {filing : Filing} {ret : Ret}
    (h : Step T H env c (.openDispute filing) ret c') :
    c.state.getDispute filing.orderHash = none ∧ ∃ p token bond deadline,
      filingDeadline env p filing.deadline filing.buffer = .ok deadline ∧
      env.authorized filing.escrow = true ∧
      c'.state.getDispute filing.orderHash = some
        { initiator := filing.filer, bond, challengeDeadline := deadline
          initiatorEvidence := filing.evidence, responderEvidence := 0, ruling := .none
          escrow := filing.escrow, orderDeadline := filing.deadline, buffer := filing.buffer
          bondToken := token } := by
  cases h with
  | admin hcall => cases hcall
  | claimNative hcall => rcases hcall with hcall | hcall <;> cases hcall
  | @openDispute _ p token bond deadline y hcaller hescrow hnew hparams hbond hauth hpull
      hdeadline =>
    refine ⟨hnew, p, token, bond, deadline, hdeadline, hcaller, ?_⟩
    rw [getDispute_withDispute, if_pos rfl]

theorem closed_of_step {settlement : Settlement} {ret : Ret}
    (h : Step T H env c (.settleBond settlement) ret c') :
    env.authorized settlement.escrow = true ∧
      ∃ d, c.state.getDispute settlement.orderHash = some d ∧ d.escrow = settlement.escrow := by
  cases h with
  | admin hcall => cases hcall
  | claimNative hcall => rcases hcall with hcall | hcall <;> cases hcall
  | settleBond hauth hopen hescrow => exact ⟨hauth, _, hopen, hescrow⟩

/-- Whoever did not authorize a call finds its own record's stake as it was. -/
theorem stake_of_foreign {self : Address} {call : Call} {ret : Ret}
    (hself : env.authorized self = false) (h : Step T H env c call ret c') (orderHash : BytesN32) :
    (c'.state.getDispute orderHash).map stake = (c.state.getDispute orderHash).map stake ∨
      (∀ d, c.state.getDispute orderHash = some d → d.escrow ≠ self) ∧
        ∀ d, c'.state.getDispute orderHash = some d → d.escrow ≠ self := by
  have hforeign : ∀ who, env.authorized who = true → who ≠ self := by
    rintro who hwho rfl
    rw [hself] at hwho
    cases hwho
  cases recordStep_of_step h orderHash with
  | kept hfiles hcloses hstake => exact .inl hstake
  | @filed d hcall hnew hopen =>
    cases call <;> simp only [Call.files, Bool.false_eq_true, decide_eq_true_eq] at hcall
    subst hcall
    obtain ⟨-, p, token, bond, deadline, -, hcaller, hopen'⟩ := filed_of_step h
    refine .inr ⟨fun d hd => ?_, fun d hd => ?_⟩
    · rw [hnew] at hd
      cases hd
    · rw [hopen'] at hd
      cases hd
      exact hforeign _ hcaller
  | @closed d hcall hopen hgone =>
    cases call <;> simp only [Call.closes, Bool.false_eq_true, decide_eq_true_eq] at hcall
    subst hcall
    obtain ⟨hcaller, d', hopen', hescrow⟩ := closed_of_step h
    refine .inr ⟨fun d hd => ?_, fun d hd => ?_⟩
    · rw [hopen'] at hd
      cases hd
      rw [hescrow]
      exact hforeign _ hcaller
    · rw [hgone] at hd
      cases hd

/-- A payout goes through where the credit it may become fits. -/
theorem payOrCredit_succeeds {payee token wNative : Address} {amount : ℕ}
    (hnative : c.state.wNative = some wNative)
    (hclaimable : c.state.getClaimable payee + amount < 2 ^ 128)
    (htoken : c.state.getTokenClaimable payee token + amount < 2 ^ 128) :
    ∃ c', payOrCredit T H env payee token amount c = .ok ((), c') := by
  unfold payOrCredit
  simp only [Tx.bind_read_ok]
  cases T.transfer c.outside (env.inside H.address) token H.address payee (asI128 amount) with
  | some y => exact ⟨_, rfl⟩
  | none =>
    unfold credit
    by_cases heq : token = wNative
    · simp only [Tx.bind_read_ok, Tx.bind_expect_ok, hnative, Option.some.injEq, exists_eq_left',
        if_pos heq, Tx.bind_lift_ok, Tx.bind_modify_ok, Tx.modify_ok, Check.add_ok]
      exact ⟨_, _, ⟨hclaimable, rfl⟩, rfl⟩
    · simp only [Tx.bind_read_ok, Tx.bind_expect_ok, hnative, Option.some.injEq, exists_eq_left',
        if_neg heq, Tx.bind_lift_ok, Tx.bind_modify_ok, Tx.modify_ok, Check.add_ok]
      exact ⟨_, _, ⟨htoken, rfl⟩, rfl⟩

/-- Before its initialization a module serves nobody and holds no dispute. -/
structure State.Wired (s : State) : Prop where
  admin : s.wNative = none → s.admin = none
  escrows : s.wNative = none → ∀ escrow, s.isEscrow escrow = false
  disputes : s.wNative = none → ∀ orderHash, s.getDispute orderHash = none

theorem State.wired_fresh : State.fresh.Wired := ⟨fun _ => rfl, fun _ _ => rfl, fun _ _ => rfl⟩

theorem State.wired_of_some {s : State} {wNative : Address} (h : s.wNative = some wNative) :
    s.Wired := by
  refine ⟨fun hnone => ?_, fun hnone => ?_, fun hnone => ?_⟩ <;>
    rw [h] at hnone <;> cases hnone

theorem Paid.wNative {payee token : Address} {amount : ℕ}
    (h : Paid T H env payee token amount c c') : c'.state.wNative = c.state.wNative := by
  cases h <;> rfl

theorem Routed.wNative {orderHash : BytesN32} {d : DisputeRecord} {payee : Address}
    {toFiler : Bool} (h : Routed T H env orderHash d payee toFiler c c') :
    c'.state.wNative = c.state.wNative := by
  cases h with
  | nothing => rfl
  | paid hbond hpaid => exact hpaid.wNative

theorem State.Wired.step {call : Call} {ret : Ret} (h : c.state.Wired)
    (hstep : Step T H env c call ret c') : c'.state.Wired := by
  cases hnative : c.state.wNative with
  | some wNative =>
    -- wired once, wired for good
    have hafter : ∃ w, c'.state.wNative = some w := by
      cases hstep with
      | admin hcall hwired hheld => exact ⟨wNative, (wNative_of_held hheld).trans hnative⟩
      | initializeContract => exact ⟨_, rfl⟩
      | settleBond hauth hopen hescrow hrouted =>
        exact ⟨wNative, hrouted.wNative.trans hnative⟩
      | _ => exact ⟨wNative, hnative⟩
    obtain ⟨w, hw⟩ := hafter
    exact wired_of_some hw
  | none =>
    have hclosed : ∀ orderHash d, c.state.getDispute orderHash = some d → False := by
      intro orderHash d hopen
      rw [h.disputes hnative] at hopen
      cases hopen
    cases hstep with
    | admin hcall hwired => exact absurd (h.admin hnative) hwired
    | initializeContract => exact wired_of_some rfl
    | openDispute hcaller hescrow =>
      rw [h.escrows hnative] at hescrow
      cases hescrow
    | settleBond hauth hopen => exact (hclosed _ _ hopen).elim
    | recordResponse hauth hresponder hopen => exact (hclosed _ _ hopen).elim
    | resolveDispute harbiter hauth houtcome hopen => exact (hclosed _ _ hopen).elim
    | claimNative => exact ⟨h.admin, h.escrows, h.disputes⟩
    | claimToken => exact ⟨h.admin, h.escrows, h.disputes⟩

/-! ## The challenge periods a module keeps -/

/-- Every challenge period a module holds is one it accepted. -/
def State.Periods (s : State) : Prop :=
  ∀ chainId p, s.params.get? chainId = some p → p.challengePeriod ≤ MAX_CHALLENGE_PERIOD

theorem State.periods_fresh : State.fresh.Periods := by
  intro chainId p h
  cases h

theorem State.Periods.of_params {s s' : State} (h : s.Periods) (hparams : s'.params = s.params) :
    s'.Periods := by
  unfold State.Periods
  rw [hparams]
  exact h

theorem Paid.params {payee token : Address} {amount : ℕ}
    (h : Paid T H env payee token amount c c') : c'.state.params = c.state.params := by
  cases h <;> rfl

theorem Routed.params {orderHash : BytesN32} {d : DisputeRecord} {payee : Address}
    {toFiler : Bool} (h : Routed T H env orderHash d payee toFiler c c') :
    c'.state.params = c.state.params := by
  cases h with
  | nothing => rfl
  | paid hbond hpaid => exact hpaid.params

/-- Only the admin's calls set parameters. -/
theorem params_of_step {call : Call} {ret : Ret} (h : Step T H env c call ret c')
    (hcall : call.administrative = false) : c'.state.params = c.state.params := by
  cases h with
  | admin hadmin =>
    rw [hcall] at hadmin
    cases hadmin
  | settleBond hauth hopen hescrow hrouted => exact hrouted.params
  | _ => rfl

theorem challengePeriod_le {p : DisputeParams} (h : validate p = .ok ()) :
    p.challengePeriod ≤ MAX_CHALLENGE_PERIOD := by
  unfold validate DisputeParams.validate at h
  by_cases hperiod : p.challengePeriod < MIN_CHALLENGE_PERIOD ∨
      MAX_CHALLENGE_PERIOD < p.challengePeriod
  · rw [if_pos hperiod] at h
    cases h
  · exact not_lt.mp (not_or.mp hperiod).2

theorem params_of_heldSound (h : heldSound c' = heldSound c) :
    c'.state.params = c.state.params := by
  simp only [heldSound, Prod.mk.injEq] at h
  exact h.2.2.1

theorem setDisputeParams_periods {chainId : U128} {params : DisputeParams} (h : c.state.Periods)
    (ok : setDisputeParams H env chainId params c = .ok ((), c')) : c'.state.Periods := by
  rw [setDisputeParams, Tx.bind_ok] at ok
  obtain ⟨_, c₁, hgate, ok⟩ := ok
  have hparams := params_of_heldSound (gate_frames c _ hgate)
  rw [Tx.bind_lift_ok] at ok
  obtain ⟨_, hvalid, ok⟩ := ok
  rw [Tx.bind_modify_ok, Tx.modify_ok] at ok
  rw [(Prod.mk.inj ok).2]
  intro chain p hp
  have hp : (c₁.state.params.set chainId params).get? chain = some p := hp
  rw [Map.get?_set] at hp
  split at hp
  · rw [← Option.some.inj hp]
    exact challengePeriod_le hvalid
  · rw [hparams] at hp
    exact h chain p hp

theorem setBondConfig_params {token : Address} {peerChainId : U128} {config : BondConfig}
    (ok : setBondConfig H env token peerChainId config c = .ok ((), c')) :
    c'.state.params = c.state.params := by
  rw [setBondConfig, Tx.bind_ok] at ok
  obtain ⟨_, c₁, hgate, ok⟩ := ok
  have hparams := params_of_heldSound (gate_frames c _ hgate)
  rw [Tx.bind_require_ok, Tx.bind_modify_ok, Tx.modify_ok] at ok
  rw [(Prod.mk.inj ok.2).2]
  exact hparams

theorem acceptAdmin_params (ok : acceptAdmin env c = .ok ((), c')) :
    c'.state.params = c.state.params := by
  unfold acceptAdmin at ok
  simp only [Tx.bind_read_ok, Tx.bind_expect_ok, Tx.bind_demand_ok, Tx.bind_view_ok,
    Tx.bind_modify_ok, Tx.bind_zoom_ok, Tx.modify_ok, Prod.mk.injEq] at ok
  obtain ⟨pending, -, -, old, -, _, t, -, -, rfl⟩ := ok
  rfl

/-- An accepted call keeps the periods within their bound. -/
theorem periods_of_exec {call : Call} {ret : Ret} (h : c.state.Periods)
    (ok : exec T H env call c = .ok (ret, c')) : c'.state.Periods := by
  by_cases hadmin : call.administrative = false
  · exact h.of_params (params_of_step (step_of_exec ok) hadmin)
  by_cases hcall : call.settings = true
  · exact h.of_params (params_of_heldSound (exec_frames hcall c _ ok))
  cases call with
  | setDisputeParams =>
    obtain ⟨_, ok, -⟩ := Tx.answer_ok.mp ok
    exact setDisputeParams_periods h ok
  | setBondConfig =>
    obtain ⟨_, ok, -⟩ := Tx.answer_ok.mp ok
    exact h.of_params (setBondConfig_params ok)
  | acceptAdmin =>
    obtain ⟨_, ok, -⟩ := Tx.answer_ok.mp ok
    exact h.of_params (acceptAdmin_params ok)
  | _ => first
    | exact absurd rfl hcall
    | exact absurd rfl hadmin

/-! ## How a record's deadline moves -/

/-- A filing's deadline, under any period a module holds. -/
theorem deadline_of_filing {filing : Filing} {ret : Ret} (hperiods : c.state.Periods)
    (h : Step T H env c (.openDispute filing) ret c') :
    ∃ d, c'.state.getDispute filing.orderHash = some d ∧ d.challengeDeadline
      ≤ max (env.now + MAX_CHALLENGE_PERIOD) (filing.deadline + filing.buffer) := by
  cases h with
  | admin hcall => cases hcall
  | claimNative hcall => rcases hcall with hcall | hcall <;> cases hcall
  | @openDispute _ p token bond deadline y hcaller hserved hnew hparams hbond hauth hpull
      hdeadline =>
    refine ⟨_, (getDispute_withDispute ..).trans (if_pos rfl), ?_⟩
    have hperiod := hperiods _ p hparams
    simp only [filingDeadline, Check.bind_ok, Check.add_ok, Check.pure_ok] at hdeadline
    obtain ⟨_, ⟨-, rfl⟩, _, ⟨-, rfl⟩, rfl⟩ := hdeadline
    exact max_le_max_right _ (Nat.add_le_add_left hperiod _)

/-- A response leaves every deadline. -/
theorem deadline_of_response {response : Response} {ret : Ret}
    (h : Step T H env c (.recordResponse response) ret c') (orderHash : BytesN32) :
    (c'.state.getDispute orderHash).map DisputeRecord.challengeDeadline
      = (c.state.getDispute orderHash).map DisputeRecord.challengeDeadline := by
  cases h with
  | admin hcall => cases hcall
  | claimNative hcall => rcases hcall with hcall | hcall <;> cases hcall
  | recordResponse hauth hresponder hopen =>
    rw [getDispute_withDispute]
    split
    · next heq =>
      rw [heq, hopen]
      rfl
    · rfl

/-- Of a record whose escrow did not authorize the call, only a ruling moves the deadline. -/
theorem deadline_of_foreign {self : Address} {call : Call} {ret : Ret} {d : DisputeRecord}
    {orderHash : BytesN32} (hself : env.authorized self = false) (h : Step T H env c call ret c')
    (hopen : c.state.getDispute orderHash = some d) (hescrow : d.escrow = self) :
    ∃ d', c'.state.getDispute orderHash = some d' ∧
      (d'.challengeDeadline = d.challengeDeadline ∨
        (∃ outcome, call = .resolveDispute orderHash outcome) ∧
          d'.challengeDeadline = max env.now d.orderDeadline + d.buffer) := by
  by_cases hother : call.order ≠ some orderHash
  · exact ⟨d, (getDispute_of_other h hother).trans hopen, .inl rfl⟩
  have horder := not_not.mp hother
  have hforeign : ∀ who, env.authorized who = true → d.escrow = who → False := by
    rintro who hwho rfl
    rw [hescrow, hself] at hwho
    cases hwho
  cases h with
  | openDispute hcaller hserved hnew =>
    rw [Option.some.inj horder, hopen] at hnew
    cases hnew
  | settleBond hauth hopen' hescrow' =>
    rw [Option.some.inj horder, hopen] at hopen'
    cases hopen'
    exact (hforeign _ hauth hescrow').elim
  | recordResponse hauth hresponder hopen' hescrow' =>
    rw [Option.some.inj horder, hopen] at hopen'
    cases hopen'
    exact (hforeign _ hauth hescrow').elim
  | resolveDispute harbiter hauth houtcome hopen' =>
    obtain rfl := Option.some.inj horder
    rw [hopen] at hopen'
    cases hopen'
    exact ⟨_, (getDispute_withDispute ..).trans (if_pos rfl), .inr ⟨⟨_, rfl⟩, rfl⟩⟩
  | admin hcall =>
    rw [order_of_administrative hcall] at horder
    cases horder
  | initializeContract => cases horder
  | claimNative hcall => rcases hcall with rfl | rfl <;> cases horder
  | claimToken => cases horder

end DisputeManager
end ProofBridge
