import ProofBridge.OrderPortal.AdminSpec

/-!
# What each call does

`Step O H env s call ret s'` says everything an accepted call did. The four exits of a deposit
differ in what they check; what they do is one move, `Exited`: the order closes, its bridger is
counted out, and the deposit is paid to one side.
-/

namespace ProofBridge
namespace OrderPortal

open ContractLib

variable {X : Type} {O : Outside X} {H : Host} {env : Env} {s s' : Chain X}

/-- The order ended in `status` and its deposit was paid to `recipient`. -/
inductive Exited (O : Outside X) (H : Host) (env : Env) (config : ContractConfig)
    (params : OrderParams) (orderHash : BytesN32) (status : Status) (recipient : BytesN32)
    (event : Event) (s : Chain X) : Chain X → Prop
  | intro {c : Core X} (hcounted : 1 ≤ s.core.ledger.getInFlight params.bridger)
      (hpaid : Escrow.Paid O H env config.wNativeToken recipient params.orderChainToken
        params.amount.toNat
        { s.core with
          ledger := Escrow.closeOrder orderHash params.bridger status s.core.ledger
          events := event :: s.core.events } c) :
      Exited O H env config params orderHash status recipient event s { s with core := c }

/-- What the ad leg's leaf under `domain` was accepted on. -/
structure Evidence (O : Outside X) (env : Env) (config : ContractConfig) (orderHash : BytesN32)
    (adChainId : U128) (targetRoot : BytesN32) (proof : Bytes) (domain : ℕ) (s : Chain X) :
    Prop where
  live : (s.core.ledger.status orderHash).live = true
  anchored : Escrow.requireAnchored O env adChainId targetRoot s.core = .ok ()
  proven : Escrow.verifyProof O config.verifier
    (buildEventPublicInputs targetRoot orderHash domain) proof s.core = .ok ()

/-- Everything an accepted call did. -/
inductive Step (O : Outside X) (H : Host) (env : Env) (s : Chain X) : Call → Ret → Chain X → Prop
  | admin {call : Call} {ret : Ret} {s' : Chain X} (hcall : call.administrative = true)
      (honly : s.core.SettingsOnly s'.core) : Step O H env s call ret s'
  | createOrder {params : OrderParams} {config : ContractConfig} {timingVersion : ℕ}
      {orderHash : BytesN32} {x₁ x₂ : X}
      (hconfig : s.core.settings.config = some config)
      (hvalid : validateOrder params s = .ok ())
      (hdecimals : assertOrderDecimals O params config.wNativeToken s = .ok ())
      (hwindow : Escrow.requireMinWindow env params.adChainId params.deadline.toNat s.core
        = .ok timingVersion)
      (hhash : hashOrder H params config.chainId = .ok orderHash)
      (hnew : s.core.ledger.status orderHash = .none)
      (hauth : env.authorized (.account params.bridger) = true)
      (hpull : O.transfer s.core.outside (env.inside H.address)
        (underlying config.wNativeToken params.orderChainToken) (.account params.bridger) H.address
          (asI128 params.amount.toNat) = some x₁)
      (happend : O.appendOrderHash x₁ (env.inside H.address) config.merkleManager H.address
        orderHash LEAF_DOMAIN_AD = some x₂) :
      Step O H env s (.createOrder params) (.order orderHash)
        { s with core := { s.core with
          outside := x₂
          leaves := (orderHash, LEAF_DOMAIN_AD) :: s.core.leaves
          ledger := { s.core.ledger with
            orders := s.core.ledger.orders.set orderHash
              { status := .opened, lockedAt := env.now, registryEpoch := 0, timingVersion
                anchorDelay := 0, pinnedSlot := 0, repinned := false }
            inFlight := storeNonzero s.core.ledger.inFlight params.bridger
              (s.core.ledger.getInFlight params.bridger + 1) }
          events := .orderCreated orderHash params.bridger params.orderChainToken
            params.amount.toNat params.adChainId params.adChainToken params.adManager params.adId
            params.adCreator params.adRecipient :: s.core.events } }
  | unlock {params : OrderParams} {nullifierHash targetRoot : BytesN32} {proof cosigData : Bytes}
      {config : ContractConfig} {orderHash : BytesN32} {t : RouteTiming} {publicInputs : Bytes}
      {s₁ s₂ : Chain X}
      (hconfig : s.core.settings.config = some config)
      (hhash : hashOrder H params config.chainId = .ok orderHash)
      (hopened : s.core.ledger.status orderHash = .opened)
      (hnullifier : s.core.ledger.isNullifierUsed nullifierHash = false)
      (htiming : Escrow.orderTiming orderHash params.adChainId s.core = .ok t)
      (hcutoff : env.now ≤ params.deadline.toNat - t.claimStagger)
      (hinputs : buildPublicInputs nullifierHash targetRoot orderHash 0 = .ok publicInputs)
      (hroot : requireRootValid O env params orderHash nullifierHash targetRoot cosigData s
        = .ok ())
      (hproof : Escrow.verifyProof O config.verifier publicInputs proof s.core = .ok ())
      (hspent : s₁ = { s with core := { s.core with ledger := { s.core.ledger with
        nullifiers := s.core.ledger.nullifiers.set nullifierHash true } } })
      (hexit : Exited O H env config params orderHash .filled params.adRecipient
        (.orderSettled orderHash false) s₁ s₂) :
      Step O H env s (.unlock params nullifierHash targetRoot proof cosigData) .unit
        { s₂ with core := { s₂.core with
          events := .orderUnlocked orderHash params.adRecipient nullifierHash
            :: s₂.core.events } }
  | refundByCancel {params : OrderParams} {targetRoot : BytesN32} {proof : Bytes}
      {config : ContractConfig} {orderHash : BytesN32} {s₁ : Chain X}
      (hconfig : s.core.settings.config = some config)
      (hhash : hashOrder H params config.chainId = .ok orderHash)
      (hevidence : Evidence O env config orderHash params.adChainId targetRoot proof
        LEAF_DOMAIN_CANCEL s)
      (hexit : Exited O H env config params orderHash .cancelled params.bridger
        (.orderCancelled orderHash true) s s₁) :
      Step O H env s (.refundByCancel params targetRoot proof) .unit
        { s₁ with core := { s₁.core with
          events := .orderRefunded orderHash params.bridger params.amount.toNat
            :: s₁.core.events } }
  | presentSettled {params : OrderParams} {targetRoot : BytesN32} {proof : Bytes}
      {config : ContractConfig} {orderHash : BytesN32} {s' : Chain X}
      (hconfig : s.core.settings.config = some config)
      (hhash : hashOrder H params config.chainId = .ok orderHash)
      (hevidence : Evidence O env config orderHash params.adChainId targetRoot proof
        LEAF_DOMAIN_SETTLED s)
      (hexit : Exited O H env config params orderHash .filled params.adRecipient
        (.orderSettled orderHash true) s s') :
      Step O H env s (.presentSettled params targetRoot proof) .unit s'
  | payMakerByForfeit {params : OrderParams} {targetRoot : BytesN32} {proof : Bytes}
      {config : ContractConfig} {orderHash : BytesN32} {s₁ s₂ : Chain X}
      (hconfig : s.core.settings.config = some config)
      (hhash : hashOrder H params config.chainId = .ok orderHash)
      (hevidence : Evidence O env config orderHash params.adChainId targetRoot proof
        LEAF_DOMAIN_FORFEIT s)
      (hmarked : s₁ = { s with core := { s.core with ledger := { s.core.ledger with
        settled := s.core.ledger.settled.set orderHash true } } })
      (hexit : Exited O H env config params orderHash .filled params.adRecipient
        (.orderSettled orderHash true) s₁ s₂) :
      Step O H env s (.payMakerByForfeit params targetRoot proof) .unit
        { s₂ with core := { s₂.core with events := .orderForfeited orderHash :: s₂.core.events } }
  | recordSettled {params : OrderParams} {config : ContractConfig} {orderHash : BytesN32} {x : X}
      (hconfig : s.core.settings.config = some config)
      (hhash : hashOrder H params config.chainId = .ok orderHash)
      (hfilled : s.core.ledger.status orderHash = .filled)
      (hnew : s.core.ledger.isSettledRecorded orderHash = false)
      (happend : O.appendOrderHash s.core.outside (env.inside H.address) config.merkleManager
        H.address orderHash LEAF_DOMAIN_SETTLED = some x) :
      Step O H env s (.recordSettled params) .unit
        { s with core := { s.core with
          outside := x
          leaves := (orderHash, LEAF_DOMAIN_SETTLED) :: s.core.leaves
          ledger := { s.core.ledger with settled := s.core.ledger.settled.set orderHash true }
          events := .settledRecorded orderHash :: s.core.events } }
  | claim {recipient token : BytesN32} {config : ContractConfig} {x : X}
      (hconfig : s.core.settings.config = some config)
      (howed : s.core.ledger.getClaimable recipient token ≠ 0)
      (hpush : O.transfer s.core.outside (env.inside H.address)
        (underlying config.wNativeToken token) H.address (.account recipient)
          (asI128 (s.core.ledger.getClaimable recipient token)) = some x) :
      Step O H env s (.claim recipient token) .unit
        { s with core := { s.core with
          outside := x
          ledger := { s.core.ledger with
            claimable := s.core.ledger.claimable.remove (recipient, token) }
          events := .payoutClaimed recipient token (s.core.ledger.getClaimable recipient token)
            :: s.core.events } }

/-! ## The entry points' inversions -/

theorem createOrder_step {params : OrderParams} {orderHash : BytesN32}
    (ok : createOrder O H env params s = .ok (orderHash, s')) :
    Step O H env s (.createOrder params) (.order orderHash) s' := by
  unfold createOrder at ok
  simp only [Tx.bind_view_ok, Tx.bind_lift_ok, Tx.bind_read_ok, Tx.bind_require_ok,
    Tx.bind_demand_ok, getConfig, Check.expect_ok, Check.mapError_ok] at ok
  obtain ⟨_, -, config, hconfig, ⟨⟩, hvalid, ⟨⟩, hdecimals, timingVersion, hwindow, orderHash',
    hhash, hnew, bridger, hbridger, hauth, ok⟩ := ok
  obtain rfl : bridger = .account params.bridger := by
    unfold bytes32ToAccountAddress at hbridger
    split at hbridger
    · cases hbridger
    · exact (Except.ok.inj hbridger).symm
  simp only [Tx.bind_zoom_ok, Tx.bind_modify_ok, Tx.pure_ok, Prod.mk.injEq] at ok
  obtain ⟨_, c₁, hpull, _, c₂, happend, _, c₃, hopen, _, c₄, hcount, rfl, rfl⟩ := ok
  obtain ⟨x₁, hx₁, rfl⟩ := Escrow.transferFromUser_ok hpull
  obtain ⟨x₂, hx₂, rfl⟩ := Escrow.appendToMerkle_ok happend
  cases Tx.modify_ok.mp hopen
  obtain rfl := Escrow.countIn_ok hcount
  exact .createOrder hconfig hvalid hdecimals hwindow hhash hnew hauth hx₁ hx₂

theorem requireEvidence_ok {config : ContractConfig} {orderHash targetRoot : BytesN32}
    {adChainId : U128} {proof : Bytes} {domain : ℕ} {r : Unit × Chain X}
    (ok : requireEvidence O env config orderHash adChainId targetRoot proof domain s = .ok r) :
    Evidence O env config orderHash adChainId targetRoot proof domain s ∧ r.2 = s := by
  unfold requireEvidence at ok
  simp only [Tx.bind_view_ok, Tx.view_ok, Check.mapError_ok, Escrow.requirePresentable,
    Check.require_ok] at ok
  obtain ⟨_, hlive, ⟨⟩, hanchored, ⟨⟩, hproof, rfl⟩ := ok
  exact ⟨⟨hlive, hanchored, hproof⟩, rfl⟩

/-- The maker's two steps: the order is filled, then paid. -/
theorem exited_of_fill {config : ContractConfig} {params : OrderParams} {orderHash : BytesN32}
    {byEvidence : Bool} {c : Core X}
    (hfill : Escrow.fill orderHash params.bridger byEvidence s.core = .ok ((), c))
    (hpay : payMaker O H env config params { s with core := c } = .ok ((), s')) :
    Exited O H env config params orderHash .filled params.adRecipient
      (.orderSettled orderHash byEvidence) s s' := by
  obtain ⟨hcounted, rfl⟩ := Escrow.fill_ok hfill
  unfold payMaker at hpay
  obtain ⟨_, c₁, hpaid, heq⟩ := Tx.zoom_ok.mp hpay
  cases heq
  exact ⟨hcounted, Escrow.payOrCredit_ok hpaid⟩

theorem unlock_step {params : OrderParams} {nullifierHash targetRoot : BytesN32}
    {proof cosigData : Bytes}
    (ok : unlock O H env params nullifierHash targetRoot proof cosigData s = .ok ((), s')) :
    Step O H env s (.unlock params nullifierHash targetRoot proof cosigData) .unit s' := by
  unfold unlock at ok
  simp only [Tx.bind_view_ok, Tx.bind_read_ok, Tx.bind_require_ok, Tx.bind_lift_ok, getConfig,
    Check.expect_ok, Check.mapError_ok] at ok
  obtain ⟨config, hconfig, orderHash, hhash, hopened, hnullifier, t, htiming, hcutoff,
    publicInputs, hinputs, ⟨⟩, hroot, ⟨⟩, hproof, ok⟩ := ok
  simp only [Tx.bind_zoom_ok] at ok
  obtain ⟨_, c₁, hspend, _, c₂, hfill, ok⟩ := ok
  cases Tx.modify_ok.mp hspend
  rw [Tx.bind_ok] at ok
  obtain ⟨⟨⟩, s₃, hpay, ok⟩ := ok
  cases Tx.modify_ok.mp ok
  exact .unlock hconfig hhash hopened hnullifier htiming hcutoff hinputs hroot hproof rfl
    (exited_of_fill hfill hpay)

theorem refundByCancel_step {params : OrderParams} {targetRoot : BytesN32} {proof : Bytes}
    (ok : refundByCancel O H env params targetRoot proof s = .ok ((), s')) :
    Step O H env s (.refundByCancel params targetRoot proof) .unit s' := by
  unfold refundByCancel at ok
  simp only [Tx.bind_view_ok, Tx.bind_lift_ok, getConfig, Check.expect_ok] at ok
  obtain ⟨config, hconfig, orderHash, hhash, ok⟩ := ok
  rw [Tx.bind_ok] at ok
  obtain ⟨⟨⟩, s₁, hevidence, ok⟩ := ok
  obtain ⟨hevidence, rfl⟩ := requireEvidence_ok hevidence
  rw [Tx.bind_zoom_ok] at ok
  obtain ⟨_, c₁, hcancel, ok⟩ := ok
  obtain ⟨hcounted, rfl⟩ := Escrow.cancel_ok hcancel
  unfold refundBridger at ok
  rw [Tx.bind_zoom_ok] at ok
  obtain ⟨_, c₂, hpaid, ok⟩ := ok
  cases Tx.modify_ok.mp ok
  exact .refundByCancel hconfig hhash hevidence ⟨hcounted, Escrow.payOrCredit_ok hpaid⟩

theorem presentSettled_step {params : OrderParams} {targetRoot : BytesN32} {proof : Bytes}
    (ok : presentSettled O H env params targetRoot proof s = .ok ((), s')) :
    Step O H env s (.presentSettled params targetRoot proof) .unit s' := by
  unfold presentSettled at ok
  simp only [Tx.bind_view_ok, Tx.bind_lift_ok, getConfig, Check.expect_ok] at ok
  obtain ⟨config, hconfig, orderHash, hhash, ok⟩ := ok
  rw [Tx.bind_ok] at ok
  obtain ⟨⟨⟩, s₁, hevidence, ok⟩ := ok
  obtain ⟨hevidence, rfl⟩ := requireEvidence_ok hevidence
  rw [Tx.bind_zoom_ok] at ok
  obtain ⟨_, c₁, hfill, hpay⟩ := ok
  exact .presentSettled hconfig hhash hevidence (exited_of_fill hfill hpay)

theorem payMakerByForfeit_step {params : OrderParams} {targetRoot : BytesN32} {proof : Bytes}
    (ok : payMakerByForfeit O H env params targetRoot proof s = .ok ((), s')) :
    Step O H env s (.payMakerByForfeit params targetRoot proof) .unit s' := by
  unfold payMakerByForfeit at ok
  simp only [Tx.bind_view_ok, Tx.bind_lift_ok, getConfig, Check.expect_ok] at ok
  obtain ⟨config, hconfig, orderHash, hhash, ok⟩ := ok
  rw [Tx.bind_ok] at ok
  obtain ⟨⟨⟩, s₁, hevidence, ok⟩ := ok
  obtain ⟨hevidence, rfl⟩ := requireEvidence_ok hevidence
  simp only [Tx.bind_zoom_ok] at ok
  obtain ⟨_, c₁, hfill, _, c₂, hmark, ok⟩ := ok
  obtain ⟨hcounted, rfl⟩ := Escrow.fill_ok hfill
  cases Tx.modify_ok.mp hmark
  unfold payMaker at ok
  rw [Tx.bind_zoom_ok] at ok
  obtain ⟨_, c₃, hpaid, ok⟩ := ok
  cases Tx.modify_ok.mp ok
  -- marking the order recorded and closing it commute
  exact .payMakerByForfeit hconfig hhash hevidence rfl ⟨hcounted, Escrow.payOrCredit_ok hpaid⟩

theorem recordSettled_step {params : OrderParams}
    (ok : recordSettled O H env params s = .ok ((), s')) :
    Step O H env s (.recordSettled params) .unit s' := by
  unfold recordSettled at ok
  simp only [Tx.bind_view_ok, Tx.bind_lift_ok, getConfig, Check.expect_ok] at ok
  obtain ⟨config, hconfig, orderHash, hhash, ok⟩ := ok
  obtain ⟨_, c₁, hrecord, heq⟩ := Tx.zoom_ok.mp ok
  cases heq
  obtain ⟨x, hfilled, hnew, hx, rfl⟩ := Escrow.recordSettled_ok hrecord
  exact .recordSettled hconfig hhash hfilled hnew hx

theorem claim_step {recipient token : BytesN32}
    (ok : claim O H env recipient token s = .ok ((), s')) :
    Step O H env s (.claim recipient token) .unit s' := by
  unfold claim at ok
  simp only [Tx.bind_view_ok, getConfig, Check.expect_ok] at ok
  obtain ⟨config, hconfig, ok⟩ := ok
  obtain ⟨_, c₁, hclaim, heq⟩ := Tx.zoom_ok.mp ok
  cases heq
  obtain ⟨x, howed, hx, rfl⟩ := Escrow.claim_ok hclaim
  exact .claim hconfig howed hx

/-- Every accepted call is a step. -/
theorem step_of_exec {call : Call} {ret : Ret} (ok : exec O H env call s = .ok (ret, s')) :
    Step O H env s call ret s' := by
  by_cases hcall : call.administrative = true
  · exact .admin hcall (only_of_exec hcall ok)
  cases call <;> simp only [Call.administrative, not_true_eq_false] at hcall <;>
    simp only [exec, Tx.answer_ok] at ok <;> obtain ⟨a, ok, rfl⟩ := ok
  case createOrder => exact createOrder_step ok
  case unlock => exact unlock_step ok
  case refundByCancel => exact refundByCancel_step ok
  case presentSettled => exact presentSettled_step ok
  case payMakerByForfeit => exact payMakerByForfeit_step ok
  case recordSettled => exact recordSettled_step ok
  case claim => exact claim_step ok

end OrderPortal
end ProofBridge
