import ProofBridge.OrderPortal.Deposits

/-!
# No call underflows

The one subtraction an exit makes is the account's count, and an order that can still exit is
counted. The admin's calls subtract nothing but a proposal's delay.
-/

namespace ProofBridge
namespace OrderPortal

open ContractLib

variable {X : Type} {O : Outside X} {H : Host} {env : Env} {s s' : Chain X}

theorem asAdmin_safe : Tx.Safe .underflow (asAdmin env) s := by
  unfold asAdmin getConfig
  simp

/-- An admin's step is as safe as what follows the gate. -/
theorem safe_of_gated {fnName : Symbol} {args : List Val}
    {k : Unit → Tx OrderPortalError (Chain X) Unit} (hsound : s.core.settings.Sound)
    (hk : ∀ s₁, Tx.Safe .underflow (k ()) s₁) :
    Tx.Safe .underflow (gated H env fnName args >>= k) s := by
  rw [Tx.safe_bind]
  refine ⟨?_, fun _ s₁ _ => hk s₁⟩
  unfold gated getConfig
  simp only [Tx.safe_bind_view, Check.safe_expect, true_and, Tx.safe_zoom]
  intro config _
  exact Timelock.gateKeyed_safe hsound.ripe

theorem safe_of_asAdmin {α : Type} {x : ContractConfig → Tx Fault (Core X) α}
    (hx : ∀ config, Tx.Safe .underflow (x config) s.core) :
    Tx.Safe .underflow (asAdmin env >>= fun config => onCore (x config)) s := by
  rw [Tx.safe_bind]
  refine ⟨asAdmin_safe, fun config s₁ hadmin => ?_⟩
  obtain rfl : s₁ = s := asAdmin_ok hadmin
  rw [Tx.safe_zoom]
  exact hx config

theorem admin_safe {call : Call} (hcall : call.administrative = true)
    (hsound : s.core.settings.Sound) : Tx.Safe .underflow (exec O H env call) s := by
  cases call <;> simp only [Call.administrative, Bool.false_eq_true] at hcall <;>
    simp only [exec, Tx.safe_answer]
  case initializeContract =>
    unfold initializeContract
    simp
  case pause => exact safe_of_asAdmin fun _ => by simp [Escrow.pause]
  case unpause => exact safe_of_asAdmin fun _ => by simp [Escrow.unpause]
  case transferAdmin => exact safe_of_asAdmin fun _ => by simp [Escrow.transferAdmin]
  case acceptAdmin =>
    unfold acceptAdmin getConfig Escrow.pendingAdmin
    simp [Escrow.acceptAdmin_safe]
  case activateTimelock => exact safe_of_asAdmin fun _ => by simp [Timelock.activate_safe]
  case proposeAction => exact safe_of_asAdmin fun _ => by simp [Timelock.propose_safe]
  case cancelAction => exact safe_of_asAdmin fun _ => by simp [Timelock.cancel_safe]
  case setChain => exact safe_of_gated hsound fun _ => by simp
  case removeChain => exact safe_of_gated hsound fun _ => by simp
  case setRootVerifier =>
    unfold setRootVerifier getConfig
    simp only [Tx.safe_bind_view, Check.safe_expect, true_and, Tx.safe_zoom]
    exact fun _ _ => Escrow.setRootVerifierGated_safe hsound.ripe
  case unsetRootVerifier =>
    unfold unsetRootVerifier getConfig
    simp only [Tx.safe_bind_view, Check.safe_expect, true_and, Tx.safe_zoom]
    exact fun _ _ => Escrow.unsetRootVerifier_safe hsound.ripe
  case setRouteTiming =>
    refine safe_of_gated hsound fun s₁ => ?_
    rw [Tx.safe_zoom]
    exact Escrow.setRouteTiming_safe
  case setRootAnchor => exact safe_of_gated hsound fun _ => by simp [Escrow.setRootAnchor]
  case setTokenRoute => exact safe_of_gated hsound fun _ => by simp
  case removeTokenRoute => exact safe_of_gated hsound fun _ => by simp

theorem validateOrder_safe {params : OrderParams} : (validateOrder params s).Safe .underflow := by
  unfold validateOrder assertInRange
  simp [Check.safe_bind, bytes32ToAccountAddress]

theorem assertOrderDecimals_safe {params : OrderParams} {wNative : Address} :
    (assertOrderDecimals O params wNative s).Safe .underflow := by
  unfold assertOrderDecimals
  simp [Check.safe_bind, Escrow.tokenDecimals_safe]

theorem requireRootValid_safe {params : OrderParams}
    {orderHash nullifierHash targetRoot : BytesN32} {cosigData : Bytes} :
    (requireRootValid O env params orderHash nullifierHash targetRoot cosigData s).Safe
      .underflow := by
  unfold requireRootValid
  simp [Check.safe_bind]

theorem createOrder_safe {params : OrderParams} :
    Tx.Safe .underflow (createOrder O H env params) s := by
  unfold createOrder getConfig Escrow.requireNotPaused
  simp [validateOrder_safe, assertOrderDecimals_safe, Escrow.requireMinWindow_safe, hashOrder_safe,
    Escrow.bytes32ToAccountAddress_safe, Escrow.transferFromUser_safe, Escrow.appendToMerkle_safe,
    Escrow.countIn_safe]

theorem payMaker_safe {config : ContractConfig} {params : OrderParams} :
    Tx.Safe .underflow (payMaker O H env config params) s := by
  unfold payMaker
  rw [Tx.safe_zoom]
  exact Escrow.payOrCredit_safe

theorem refundBridger_safe {config : ContractConfig} {orderHash : BytesN32}
    {params : OrderParams} : Tx.Safe .underflow (refundBridger O H env config orderHash params) s := by
  unfold refundBridger
  rw [Tx.safe_bind_zoom]
  exact ⟨Escrow.payOrCredit_safe, fun _ _ _ => Tx.safe_modify⟩

/-- An evidence path is as safe as what it does once the evidence is in. -/
theorem safe_of_evidence {config : ContractConfig} {orderHash targetRoot : BytesN32}
    {adChainId : U128} {proof : Bytes} {domain : ℕ}
    {k : Unit → Tx OrderPortalError (Chain X) Unit}
    (hk : (s.core.ledger.status orderHash).live = true → Tx.Safe .underflow (k ()) s) :
    Tx.Safe .underflow
      (requireEvidence O env config orderHash adChainId targetRoot proof domain >>= k) s := by
  rw [Tx.safe_bind]
  refine ⟨?_, fun _ s₁ hevidence => ?_⟩
  · unfold requireEvidence Escrow.requirePresentable Escrow.verifyProof
    simp [Escrow.requireAnchored_safe]
  · obtain ⟨hevidence, rfl⟩ := requireEvidence_ok hevidence
    exact hk hevidence.live

/-- On a state whose deposits are in order, no call underflows. -/
theorem exec_safe {chainId : U128} {orders : List (BytesN32 × OrderParams)}
    {known : List OrderParams} {call : Call} (h : Deposits H chainId orders s)
    (hsound : s.core.settings.Sound)
    (hchain : ∀ config, s.core.settings.config = some config → config.chainId = chainId)
    (hcollision : CollisionFree H chainId known) (hsub : ∀ e ∈ orders, e.2 ∈ known)
    (hparams : ∀ params, call.params? = some params → params ∈ known) :
    Tx.Safe .underflow (exec O H env call) s := by
  by_cases hcall : call.administrative = true
  · exact admin_safe hcall hsound
  -- whoever can still exit is counted
  have hcounted : ∀ {params orderHash config}, call.params? = some params →
      s.core.settings.config = some config → hashOrder H params config.chainId = .ok orderHash →
      (s.core.ledger.status orderHash).live = true →
      1 ≤ s.core.ledger.getInFlight params.bridger := by
    intro params orderHash config hp hconfig hhash hlive
    rw [hchain _ hconfig] at hhash
    exact h.counted_of_live (h.entry hcollision hsub (hparams _ hp) hhash hlive) hlive
  cases call <;> simp only [Call.administrative, not_true_eq_false] at hcall <;>
    simp only [exec, Tx.safe_answer]
  case createOrder => exact createOrder_safe
  case unlock params nullifierHash targetRoot proof cosigData =>
    unfold unlock getConfig
    simp only [Tx.safe_bind_view, Tx.safe_bind_lift, Tx.safe_bind_read, Tx.safe_bind_require,
      Tx.safe_bind_zoom, Tx.safe_modify, Check.safe_expect, Check.expect_ok, Check.safe_mapError,
      Check.safe_require, Escrow.orderTiming_safe, requireRootValid_safe, Escrow.verifyProof,
      Escrow.buildPublicInputs_safe, hashOrder_safe, true_and]
    intro config hconfig orderHash hhash hopened _ t _ _ publicInputs _ _ _ _ _ _ c hspend
    cases hspend
    have hone := hcounted rfl hconfig hhash (by rw [hopened]; rfl)
    refine ⟨Escrow.fill_safe hone, fun _ c₁ _ => ?_⟩
    rw [Tx.safe_bind]
    exact ⟨payMaker_safe, fun _ _ _ => Tx.safe_modify⟩
  case refundByCancel params targetRoot proof =>
    unfold refundByCancel getConfig
    simp only [Tx.safe_bind_view, Tx.safe_bind_lift, Check.safe_expect, Check.expect_ok,
      hashOrder_safe, true_and]
    intro config hconfig orderHash hhash
    refine safe_of_evidence fun hlive => ?_
    rw [Tx.safe_bind_zoom]
    exact ⟨Escrow.cancel_safe (hcounted rfl hconfig hhash hlive), fun _ _ _ => refundBridger_safe⟩
  case presentSettled params targetRoot proof =>
    unfold presentSettled getConfig
    simp only [Tx.safe_bind_view, Tx.safe_bind_lift, Check.safe_expect, Check.expect_ok,
      hashOrder_safe, true_and]
    intro config hconfig orderHash hhash
    refine safe_of_evidence fun hlive => ?_
    rw [Tx.safe_bind_zoom]
    exact ⟨Escrow.fill_safe (hcounted rfl hconfig hhash hlive), fun _ _ _ => payMaker_safe⟩
  case payMakerByForfeit params targetRoot proof =>
    unfold payMakerByForfeit getConfig
    simp only [Tx.safe_bind_view, Tx.safe_bind_lift, Check.safe_expect, Check.expect_ok,
      hashOrder_safe, true_and]
    intro config hconfig orderHash hhash
    refine safe_of_evidence fun hlive => ?_
    simp only [Tx.safe_bind_zoom, Tx.safe_modify, true_and]
    refine ⟨Escrow.fill_safe (hcounted rfl hconfig hhash hlive), fun _ c₁ _ _ c₂ _ => ?_⟩
    rw [Tx.safe_bind]
    exact ⟨payMaker_safe, fun _ _ _ => Tx.safe_modify⟩
  case recordSettled =>
    unfold recordSettled getConfig
    simp [hashOrder_safe, Escrow.recordSettled_safe]
  case claim =>
    unfold claim getConfig
    simp [Escrow.claim_safe]

end OrderPortal
end ProofBridge
