import ProofBridge.AdManager.Locks

/-!
# No subtraction underflows

The subtractions of this contract are those on an ad's balance and locked amount, on a count of
open positions, and of a proposal's delay. On a state whose lock ledger holds, each of them takes
something out of a number that has it.
-/

namespace ProofBridge
namespace AdManager

open ContractLib

variable {X : Type} {O : Outside X} {H : Host} {env : Env} {s : Chain X}

/-! ## The reads subtract nothing -/

section Reads

variable {params : OrderParams} {orderHash : BytesN32} {maker : Address}

theorem assertInRange_safe {decimals : ℕ} {t : Trap} : (assertInRange decimals).Safe t :=
  Check.safe_require

theorem adAmount_safe {t : Trap} : (adAmount params).Safe t := by
  unfold adAmount
  rw [Check.safe_mapError]
  exact scale_safe

theorem requireRegistered_safe {signer : BytesN32} :
    (requireRegistered O env signer maker s).Safe .underflow := by
  unfold requireRegistered
  simp [Check.safe_bind]

theorem validateOrder_safe {ad : Ad} {t : Trap} : (validateOrder ad params s).Safe t := by
  unfold validateOrder
  simp [Check.safe_bind, assertInRange_safe, Escrow.bytes32ToAccountAddress_safe]

theorem assertAdDecimals_safe {wNative : Address} :
    (assertAdDecimals O params wNative s).Safe .underflow := by
  unfold assertAdDecimals
  simp [Check.safe_bind, Escrow.tokenDecimals_safe]

theorem requireSlotUsable_safe {registry : Option Address} {signer : BytesN32} {slot : U32}
    {t : Trap} : (requireSlotUsable O env registry signer slot s).Safe t := by
  unfold requireSlotUsable
  split <;> simp

theorem anchorDelayNow_safe {orderChainId : U128} {t : Trap} :
    (anchorDelayNow O orderChainId s).Safe t := by
  unfold anchorDelayNow
  split <;> simp

theorem coSignDenied_safe {limit : ℕ} :
    (coSignDenied O maker params orderHash limit s).Safe .underflow := by
  unfold coSignDenied pinExpired
  dsimp only
  split
  · exact Check.safe_ok
  · split
    · exact Check.safe_ok
    · split
      · exact Check.safe_ok
      · simp

theorem evidenceGrace_safe {orderChainId : U128} {buffer : ℕ} {t : Trap} :
    (evidenceGrace O orderHash orderChainId buffer s).Safe t := by
  unfold evidenceGrace
  simp [anchorDelayNow_safe]

theorem cancelEnd_safe {t : RouteTiming} :
    (cancelEnd O maker params orderHash t s).Safe .underflow := by
  unfold cancelEnd
  simp [Check.safe_bind, coSignDenied_safe, evidenceGrace_safe]

theorem disputeEnd_safe {outcome : DisputeOutcome} :
    (disputeEnd O env maker params orderHash outcome s).Safe .underflow := by
  unfold disputeEnd
  simp [Check.safe_bind, Escrow.disputeChallengeDeadline_safe, coSignDenied_safe,
    Escrow.orderTiming_safe, evidenceGrace_safe]

theorem evidenceDenied_safe : (evidenceDenied O params orderHash s maker).Safe .underflow := by
  unfold evidenceDenied
  simp [Check.safe_bind, Escrow.orderTiming_safe, coSignDenied_safe]

theorem requireRootValid_safe {nullifierHash targetRoot : BytesN32} {cosigData : Bytes} :
    (requireRootValid O env params orderHash nullifierHash targetRoot cosigData s).Safe
      .underflow := by
  unfold requireRootValid
  simp [Check.safe_bind]

theorem requireParty_safe {filer : Address} {bridgerSide : BytesN32} {t : Trap} :
    (requireParty filer maker bridgerSide).Safe t := by
  unfold requireParty
  simp [Check.safe_bind, Escrow.bytes32ToAccountAddress_safe]

/-- The one subtraction a lock makes is of what an ad has locked from what it holds. -/
theorem lockChecks_safe {config : ContractConfig} {ad : Ad} {signerSlot : U32}
    (hcovered : ad.locked ≤ ad.balance) :
    (lockChecks O env config ad params signerSlot s).Safe .underflow := by
  unfold lockChecks
  simp [Check.safe_bind, validateOrder_safe, requireRegistered_safe, requireSlotUsable_safe,
    assertAdDecimals_safe, Escrow.requireMinWindow_safe, adAmount_safe, hcovered]

end Reads

/-! ## Paying out of an ad -/

/-- What a live order of the book finds on its ad. -/
structure Payable (s : Chain X) (params : OrderParams) (ad : Ad) (amount : ℕ) : Prop extends
    Backed s params ad amount where
  held : amount ≤ ad.locked
  covered : ad.locked ≤ ad.balance
  fits : ad.balance < 2 ^ 128
  counted : 1 ≤ s.core.ledger.getInFlight params.adSettlementSigner

/-- Spending a nullifier takes nothing an order is paid from. -/
theorem Payable.spend {params : OrderParams} {ad : Ad} {amount : ℕ} (h : Payable s params ad amount)
    (nullifierHash : BytesN32) :
    Payable { s with core := { s.core with ledger := { s.core.ledger with
      nullifiers := s.core.ledger.nullifiers.set nullifierHash true } } } params ad amount :=
  ⟨⟨h.lookup, h.worth, h.positive, h.token, h.fees⟩, h.held, h.covered, h.fits, h.counted⟩

theorem Locks.payable {chainId : U128} {orders : List (BytesN32 × OrderParams)}
    (h : Locks H chainId orders s) {params : OrderParams} {orderHash : BytesN32}
    (hmem : (orderHash, params) ∈ orders) (hlive : s.live orderHash = true) :
    ∃ ad amount, Payable s params ad amount := by
  obtain ⟨ad, amount, hb⟩ := h.backed _ hmem
  have hs := h.ads _ _ hb.lookup
  have hheld : amount ≤ ad.locked := by
    rw [hs.locked, ← lockedOn_self hb.worth]
    exact le_liveTotal hmem hlive
  have hcounted : 1 ≤ s.core.ledger.getInFlight params.adSettlementSigner := by
    rw [h.counted, ← signedBy_self params]
    exact le_liveTotal hmem hlive
  exact ⟨ad, amount, ⟨hb, hheld, hs.covered, hs.fits, hcounted⟩⟩

/-- A fee within the ceilings leaves something of every amount. -/
theorem fees_le (amount : ℕ) {lpBps protocolBps : ℕ} (hlp : lpBps ≤ MAX_FEE_BPS)
    (hprot : protocolBps ≤ MAX_FEE_BPS) :
    amount * lpBps / 10000 + amount * protocolBps / 10000 ≤ amount := by
  have h₁ := bps_le_hundredth amount hlp
  have h₂ := bps_le_hundredth amount hprot
  omega

/-- Charging a fee within the ceilings on what the ad holds succeeds. -/
theorem chargeFee_succeeds {ad : Ad} {params : OrderParams} (orderHash : BytesN32) {amount : ℕ}
    (forfeit : Bool) (s : Chain X) (hlp : params.lpFeeBps.toNat ≤ MAX_FEE_BPS)
    (hprot : params.protocolFeeBps.toNat ≤ MAX_FEE_BPS) (hheld : amount ≤ ad.balance)
    (hfits : ad.balance < 2 ^ 128) :
    ∃ r, chargeFee ad params orderHash amount forfeit s = .ok r := by
  have hw : amount < 2 ^ 128 := hheld.trans_lt hfits
  have hlp' : (if forfeit then 0 else params.lpFeeBps.toNat) ≤ MAX_FEE_BPS := by
    split
    · exact Nat.zero_le _
    · exact hlp
  have hsum := fees_le amount hlp' hprot
  have hsplit : (splitFee amount _ _ : Check AdManagerError (ℕ × ℕ)) = _ :=
    splitFee_eq hw hlp' hprot
  generalize amount * (if forfeit then 0 else params.lpFeeBps.toNat) / 10000 = lpFee at hsum hsplit
  generalize amount * params.protocolFeeBps.toNat / 10000 = protocolFee at hsum hsplit
  have hlpFee : lpFee ≤ amount := by omega
  have hout : amount - lpFee ≤ ad.balance := by omega
  have hprotFee : protocolFee ≤ amount - lpFee := by omega
  refine ⟨(({ ad with balance := ad.balance - (amount - lpFee) },
      amount - lpFee - protocolFee, protocolFee),
    { s with core := { s.core with
      events := .feeCharged orderHash lpFee protocolFee :: s.core.events } }), ?_⟩
  unfold chargeFee
  simp only [Tx.bind_lift_ok, Tx.bind_modify_ok, Tx.pure_ok, Check.sub_ok]
  exact ⟨_, hsplit, _, ⟨hlpFee, rfl⟩, _, ⟨hout, rfl⟩, _, ⟨hprotFee, rfl⟩, rfl⟩

theorem chargeFee_safe {ad : Ad} {params : OrderParams} {orderHash : BytesN32} {amount : ℕ}
    {forfeit : Bool} (hlp : params.lpFeeBps.toNat ≤ MAX_FEE_BPS)
    (hprot : params.protocolFeeBps.toNat ≤ MAX_FEE_BPS) (hheld : amount ≤ ad.balance)
    (hfits : ad.balance < 2 ^ 128) :
    Tx.Safe .underflow (chargeFee ad params orderHash amount forfeit) s := by
  obtain ⟨r, hr⟩ := chargeFee_succeeds orderHash forfeit s
    hlp hprot hheld hfits
  unfold Tx.Safe
  rw [hr]
  simp

theorem payNet_safe {config : ContractConfig} {recipient token : BytesN32} {net fee : ℕ} :
    Tx.Safe .underflow (payNet O H env config recipient token net fee) s := by
  unfold payNet
  rw [Tx.safe_bind_zoom]
  refine ⟨Escrow.payOrCredit_safe, fun _ c _ => ?_⟩
  unfold payProtocolFee
  rw [Tx.safe_bind_read]
  split
  · rw [Tx.safe_ite]
    refine ⟨fun _ => ?_, fun _ => Tx.safe_pure⟩
    rw [Tx.safe_zoom]
    exact Escrow.payOrCredit_safe
  · exact Tx.safe_pure

theorem payFromAd_safe {config : ContractConfig} {params : OrderParams} {orderHash : BytesN32}
    {ad : Ad} {amount : ℕ} (had : s.ads.get? params.adId = some ad)
    (hamount : adAmount params = .ok amount) (hfees : params.lpFeeBps.toNat ≤ MAX_FEE_BPS ∧
      params.protocolFeeBps.toNat ≤ MAX_FEE_BPS) (hheld : amount ≤ ad.locked)
    (hcovered : ad.locked ≤ ad.balance) (hfits : ad.balance < 2 ^ 128) :
    Tx.Safe .underflow (payFromAd O H env config params orderHash) s := by
  unfold payFromAd
  simp only [Tx.safe_bind_lift, Tx.safe_bind_view, getAd, Check.safe_expect, Check.expect_ok,
    Check.safe_sub, adAmount_safe, true_and]
  intro amount' hamount' ad' had'
  obtain rfl : amount' = amount := Except.ok.inj (hamount'.symm.trans hamount)
  obtain rfl : ad' = ad := Option.some.inj (had'.symm.trans had)
  refine ⟨fun _ => hheld, fun locked _ => ?_⟩
  rw [Tx.safe_bind]
  refine ⟨chargeFee_safe hfees.1 hfees.2 (hheld.trans hcovered) hfits, fun charged s₁ _ => ?_⟩
  rw [Tx.safe_bind_modify]
  exact payNet_safe

theorem closeDispute_safe {params : OrderParams} {orderHash : BytesN32}
    {outcome : DisputeOutcome} :
    Tx.Safe .underflow (closeDispute O H env params orderHash outcome) s := by
  unfold closeDispute
  rw [Tx.safe_bind_read, Tx.safe_zoom]
  exact Escrow.closeDisputeByEvidence_safe fun _ => evidenceDenied_safe

/-- A dispute closed by evidence leaves an order as countable as it was. -/
theorem fill_safe {params : OrderParams} {orderHash : BytesN32} {byEvidence : Bool} {ad : Ad}
    {amount : ℕ} {s₁ : Chain X} (h : Payable s params ad amount)
    (hclose : closeDispute O H env params orderHash .tradeProceeds s = .ok ((), s₁)) :
    Tx.Safe .underflow (onCore (Escrow.fill orderHash params.adSettlementSigner byEvidence)) s₁ := by
  unfold closeDispute at hclose
  rw [Tx.bind_read_ok] at hclose
  obtain ⟨_, c₁, hclosed, heq⟩ := Tx.zoom_ok.mp hclose
  cases heq
  obtain ⟨x, rfl⟩ := (Escrow.closeDisputeByEvidence_ok hclosed).frame
  rw [Tx.safe_zoom]
  exact Escrow.fill_safe h.counted

/-- What a fill leaves of a payable order's ad can still be paid from. -/
theorem payFilled_safe {config : ContractConfig} {params : OrderParams} {orderHash : BytesN32}
    {byEvidence : Bool} {ad : Ad} {amount : ℕ} {s₁ s₂ : Chain X} (h : Payable s params ad amount)
    (hclose : closeDispute O H env params orderHash .tradeProceeds s = .ok ((), s₁))
    (hfill : onCore (Escrow.fill orderHash params.adSettlementSigner byEvidence) s₁
      = .ok ((), s₂)) :
    Tx.Safe .underflow (payFromAd O H env config params orderHash) s₂ := by
  unfold closeDispute at hclose
  rw [Tx.bind_read_ok] at hclose
  obtain ⟨_, c₁, hclosed, heq⟩ := Tx.zoom_ok.mp hclose
  cases heq
  obtain ⟨x, rfl⟩ := (Escrow.closeDisputeByEvidence_ok hclosed).frame
  obtain ⟨_, c₂, -, heq⟩ := Tx.zoom_ok.mp hfill
  cases heq
  exact payFromAd_safe h.lookup h.worth ⟨h.fees.1, h.fees.2.1⟩ h.held h.covered h.fits

/-- What is left of a payable order's payment: it succeeds whenever a credit that cannot be pushed
would still fit its width. -/
theorem payFromAd_succeeds {config : ContractConfig} {params : OrderParams}
    {orderHash : BytesN32} {ad : Ad} {amount : ℕ} (h : Payable s params ad amount)
    (hroom : ∀ recipient token,
      s.core.ledger.getClaimable recipient token + amount < 2 ^ 128) :
    ∃ s', payFromAd O H env config params orderHash s = .ok ((), s') := by
  obtain ⟨r, hcharge⟩ : ∃ r,
      chargeFee { ad with locked := ad.locked - amount } params orderHash amount false s = .ok r :=
    chargeFee_succeeds orderHash false s h.fees.1 h.fees.2.1 (h.held.trans h.covered) h.fits
  obtain ⟨lpFee, protocolFee, hcharged, rfl⟩ := chargeFee_ok hcharge
  have hlp := hcharged.lp_le
  have hprot := hcharged.protocol_le
  -- the state the payments start from
  generalize hs₁ : ({ s with
    core := { s.core with events := .feeCharged orderHash lpFee protocolFee :: s.core.events }
    ads := s.ads.set params.adId (({ ad with locked := ad.locked - amount } : Ad).release 0
      (amount - lpFee)) } : Chain X) = s₁
  have hnet : s₁.core.ledger.getClaimable params.orderRecipient ad.token
      + (amount - lpFee - protocolFee) < 2 ^ 128 := by
    have hr := hroom params.orderRecipient ad.token
    subst hs₁
    show s.core.ledger.getClaimable _ _ + _ < _
    omega
  obtain ⟨c₁, hpay⟩ : ∃ c, Escrow.payOrCredit O H env config.wNativeToken params.orderRecipient
      ad.token (amount - lpFee - protocolFee) s₁.core = .ok ((), c) :=
    Escrow.payOrCredit_succeeds hnet
  have hpaid := Escrow.payOrCredit_ok hpay
  have hfee : ∃ s', payProtocolFee O H env config ad.token protocolFee { s₁ with core := c₁ }
      = .ok ((), s') := by
    unfold payProtocolFee
    simp only [Tx.bind_read_ok]
    cases hpool : s₁.fees.pool with
    | none => exact ⟨_, Tx.pure_ok.mpr rfl⟩
    | some pool =>
      simp only [Tx.ite_apply]
      split
      · have hcredit : c₁.ledger.getClaimable pool ad.token + protocolFee < 2 ^ 128 := by
          have hr := hroom pool ad.token
          have hle : c₁.ledger.getClaimable pool ad.token ≤
              s₁.core.ledger.getClaimable pool ad.token + (amount - lpFee - protocolFee) :=
            hpaid.getClaimable_le pool ad.token
          have hsame : s₁.core.ledger.getClaimable pool ad.token
              = s.core.ledger.getClaimable pool ad.token := by
            subst hs₁
            rfl
          omega
        obtain ⟨c₂, hc₂⟩ : ∃ c, Escrow.payOrCredit O H env config.wNativeToken pool ad.token
            protocolFee c₁ = .ok ((), c) :=
          Escrow.payOrCredit_succeeds hcredit
        exact ⟨_, Tx.zoom_ok.mpr ⟨(), c₂, hc₂, rfl⟩⟩
      · exact ⟨_, Tx.pure_ok.mpr rfl⟩
  obtain ⟨s', hs'⟩ := hfee
  refine ⟨s', ?_⟩
  unfold payFromAd
  simp only [Tx.bind_lift_ok, Tx.bind_view_ok, getAd, Check.expect_ok, Check.sub_ok]
  refine ⟨amount, h.worth, ad, h.lookup, _, ⟨h.held, rfl⟩, ?_⟩
  rw [Tx.bind_ok]
  refine ⟨_, _, hcharge, ?_⟩
  rw [Tx.bind_modify_ok]
  unfold payNet
  rw [Tx.bind_zoom_ok]
  subst hs₁
  exact ⟨(), c₁, hpay, hs'⟩

/-! ## Every call -/

theorem asAdmin_safe : Tx.Safe .underflow (asAdmin env) s := by
  unfold asAdmin getConfig
  simp

theorem gated_safe {fnName : Symbol} {args : List Val} (hsound : s.Sound) :
    Tx.Safe .underflow (gated H env fnName args) s := by
  unfold gated getConfig
  simp only [Tx.safe_bind_view, Check.safe_expect, true_and, Tx.safe_zoom]
  intro config _
  exact Timelock.gateKeyed_safe hsound.settings.ripe

/-- An admin's step is as safe as what follows the gate. -/
theorem safe_of_gated {fnName : Symbol} {args : List Val}
    {k : Unit → Tx AdManagerError (Chain X) Unit} (hsound : s.Sound)
    (hk : ∀ s₁, Tx.Safe .underflow (k ()) s₁) :
    Tx.Safe .underflow (gated H env fnName args >>= k) s := by
  rw [Tx.safe_bind]
  exact ⟨gated_safe hsound, fun _ s₁ _ => hk s₁⟩

theorem safe_of_asAdmin {α : Type} {x : ContractConfig → Tx Fault (Core X) α}
    (hx : ∀ config, Tx.Safe .underflow (x config) s.core) :
    Tx.Safe .underflow (asAdmin env >>= fun config => onCore (x config)) s := by
  rw [Tx.safe_bind]
  refine ⟨asAdmin_safe, fun config s₁ hadmin => ?_⟩
  obtain ⟨-, rfl⟩ := asAdmin_ok hadmin
  rw [Tx.safe_zoom]
  exact hx config

theorem admin_safe {call : Call} (hcall : call.administrative = true) (hsound : s.Sound) :
    Tx.Safe .underflow (exec O H env call) s := by
  have hripe := hsound.settings.ripe
  cases call <;> simp only [Call.administrative, Bool.false_eq_true] at hcall <;>
    simp only [exec, Tx.safe_answer]
  case initializeContract =>
    unfold initializeContract
    simp
  case pause => exact safe_of_asAdmin fun _ => by simp [Escrow.pause]
  case unpause => exact safe_of_asAdmin fun _ => by simp [Escrow.unpause]
  case transferAdmin => exact safe_of_asAdmin fun _ => by simp [Escrow.transferAdmin]
  case acceptAdmin =>
    unfold acceptAdmin getConfig Escrow.pendingAdmin
    simp [Escrow.acceptAdmin_safe]
  case activateTimelock =>
    exact safe_of_asAdmin fun _ => by simp [Timelock.activate_safe]
  case proposeAction =>
    exact safe_of_asAdmin fun _ => by simp [Timelock.propose_safe]
  case cancelAction =>
    exact safe_of_asAdmin fun _ => by simp [Timelock.cancel_safe]
  case setProtocolFeePool => exact safe_of_gated hsound fun _ => by simp
  case setFeeBps => exact safe_of_gated hsound fun _ => by simp
  case setChain => exact safe_of_gated hsound fun _ => by simp
  case removeChain => exact safe_of_gated hsound fun _ => by simp
  case setRootVerifier =>
    unfold setRootVerifier getConfig
    simp only [Tx.safe_bind_view, Check.safe_expect, true_and, Tx.safe_zoom]
    exact fun _ _ => Escrow.setRootVerifierGated_safe hripe
  case unsetRootVerifier =>
    unfold unsetRootVerifier getConfig
    simp only [Tx.safe_bind_view, Check.safe_expect, true_and, Tx.safe_zoom]
    exact fun _ _ => Escrow.unsetRootVerifier_safe hripe
  case setKeyRegistry => exact safe_of_gated hsound fun _ => by simp
  case setRouteTiming =>
    refine safe_of_gated hsound fun s₁ => ?_
    rw [Tx.safe_zoom]
    exact Escrow.setRouteTiming_safe
  case setDisputeManager => exact safe_of_gated hsound fun _ => by simp
  case setRootAnchor =>
    exact safe_of_gated hsound fun _ => by simp [Escrow.setRootAnchor]
  case setTokenRoute => exact safe_of_gated hsound fun _ => by simp
  case removeTokenRoute => exact safe_of_gated hsound fun _ => by simp
  case haltSettlement =>
    unfold haltSettlement
    simp
  case resumeSettlement =>
    unfold resumeSettlement
    simp

theorem createAd_safe {creator : Address} {adId : AdId} {adToken : BytesN32}
    {initialAmount : U128} {orderChainId : U128} {adRecipient settlementSigner : BytesN32} :
    Tx.Safe .underflow (createAd O H env creator adId adToken initialAmount orderChainId
      adRecipient settlementSigner) s := by
  unfold createAd getConfig Escrow.requireNotPaused
  simp [requireRegistered_safe, Escrow.transferFromUser_safe]

theorem setSettlementSigner_safe {adId : AdId} {identity : BytesN32} :
    Tx.Safe .underflow (setSettlementSigner O env adId identity) s := by
  unfold setSettlementSigner getAd
  simp [requireRegistered_safe]

theorem fundAd_safe {adId : AdId} {amount : U128} :
    Tx.Safe .underflow (fundAd O H env adId amount) s := by
  unfold fundAd getConfig getAd Escrow.requireNotPaused
  simp [Escrow.transferFromUser_safe]

theorem withdrawFromAd_safe {adId : AdId} {amount : U128} {payee : Address}
    (hcovered : ∀ ad, s.ads.get? adId = some ad → ad.locked ≤ ad.balance) :
    Tx.Safe .underflow (withdrawFromAd O H env adId amount payee) s := by
  unfold withdrawFromAd getConfig getAd
  simp only [Tx.safe_bind_view, Tx.safe_bind_require, Tx.safe_bind_lift, Tx.safe_bind_demand,
    Tx.safe_bind_modify, Tx.safe_bind_zoom, Tx.safe_modify, Check.safe_expect, Check.expect_ok,
    Check.safe_sub, Check.sub_ok, reduceCtorEq, false_implies, true_and, implies_true, and_true]
  intro config _ ad had _
  refine ⟨fun _ => hcovered ad had, ?_⟩
  rintro _ ⟨-, rfl⟩ havailable _
  refine ⟨fun _ => havailable.trans (Nat.sub_le _ _), fun _ _ => ?_⟩
  exact Escrow.transferTokens_safe

theorem closeAd_safe {adId : AdId} {payee : Address} :
    Tx.Safe .underflow (closeAd O H env adId payee) s := by
  unfold closeAd getConfig getAd
  simp only [Tx.safe_bind_view, Tx.safe_bind_require, Tx.safe_bind_demand, Tx.safe_bind_modify,
    Check.safe_expect, reduceCtorEq, false_implies, true_and]
  intro config _ ad _ _ _
  rw [Tx.safe_bind]
  refine ⟨?_, fun _ _ _ => Tx.safe_modify⟩
  unfold payRemaining
  rw [Tx.safe_ite, Tx.safe_zoom]
  exact ⟨fun _ => Escrow.transferTokens_safe, fun _ => Tx.safe_pure⟩

theorem lockForOrder_safe {params : OrderParams} {signerSlot : U32}
    (hcovered : ∀ ad, s.ads.get? params.adId = some ad → ad.locked ≤ ad.balance) :
    Tx.Safe .underflow (lockForOrder O H env params signerSlot) s := by
  unfold lockForOrder getConfig getAd Escrow.requireNotPaused
  simp only [Tx.safe_bind_view, Tx.safe_bind_require, Tx.safe_bind_lift, Tx.safe_bind_read,
    Tx.safe_bind_demand, Tx.safe_bind_modify, Tx.safe_bind_zoom, Tx.safe_pure, Tx.safe_modify,
    Check.safe_mapError, Check.safe_require, Check.safe_expect, Check.expect_ok, Check.safe_add,
    hashOrder_safe, anchorDelayNow_safe, Escrow.countIn_safe, Escrow.appendToMerkle_safe,
    reduceCtorEq, false_implies, true_and, implies_true, and_true]
  intro _ _ config _ ad had
  exact lockChecks_safe (hcovered ad had)

/-- On a state whose lock ledger holds, no call underflows. -/
theorem exec_safe {chainId : U128} {orders : List (BytesN32 × OrderParams)}
    {known : List OrderParams} {call : Call} (h : Locks H chainId orders s) (hsound : s.Sound)
    (hchain : ∀ config, s.core.settings.config = some config → config.chainId = chainId)
    (hfree : CollisionFree H chainId known) (hsub : ∀ e ∈ orders, e.2 ∈ known)
    (hparams : ∀ params, call.params? = some params → params ∈ known) :
    Tx.Safe .underflow (exec O H env call) s := by
  by_cases hcall : call.administrative = true
  · exact admin_safe hcall hsound
  have hcovered : ∀ adId ad, s.ads.get? adId = some ad → ad.locked ≤ ad.balance :=
    fun adId ad had => (h.ads adId ad had).covered
  -- what a live order of this call finds on the ledger
  have hpayable : ∀ {params orderHash config}, call.params? = some params →
      s.core.settings.config = some config → hashOrder H params config.chainId = .ok orderHash →
      (s.core.ledger.status orderHash).live = true → ∃ ad amount, Payable s params ad amount := by
    intro params orderHash config hp hconfig hhash hlive
    rw [hchain _ hconfig] at hhash
    exact h.payable (h.entry hfree hsub (hparams _ hp) hhash hlive) hlive
  cases call <;> simp only [Call.administrative, not_true_eq_false] at hcall <;>
    simp only [exec, Tx.safe_answer]
  case createAd => exact createAd_safe
  case setSettlementSigner => exact setSettlementSigner_safe
  case fundAd => exact fundAd_safe
  case withdrawFromAd => exact withdrawFromAd_safe (hcovered _)
  case closeAd => exact closeAd_safe
  case lockForOrder => exact lockForOrder_safe (hcovered _)
  case unlock params nullifierHash targetRoot proof cosigData =>
    unfold unlock getConfig getAd requireSettleable
    simp only [Tx.safe_bind_view, Tx.safe_bind_require, Tx.safe_bind_lift, Tx.safe_bind_read,
      Tx.safe_bind_zoom, Tx.safe_modify, Check.safe_expect, Check.expect_ok, Check.safe_require,
      Check.require_ok, Check.safe_mapError, Escrow.orderTiming_safe, requireRootValid_safe,
      Escrow.buildPublicInputs_safe, Escrow.verifyProof, hashOrder_safe, true_and]
    intro config hconfig orderHash hhash _ hlive _ t _ _ ad _ _ _ _ publicInputs _ _ _ _ c hc
    cases hc
    obtain ⟨ad, amount, hp⟩ := hpayable rfl hconfig hhash hlive
    have hp' := hp.spend nullifierHash
    rw [Tx.safe_bind]
    refine ⟨closeDispute_safe, fun _ s₁ hclose => ?_⟩
    rw [Tx.safe_bind]
    refine ⟨fill_safe hp' hclose, fun _ s₂ hfill => ?_⟩
    rw [Tx.safe_bind]
    exact ⟨payFilled_safe hp' hclose hfill, fun _ _ _ => Tx.safe_modify⟩
  case claimCancel =>
    unfold claimCancel getConfig Escrow.requireStatus Escrow.openClaim
    simp [hashOrder_safe, Escrow.requireReached_safe, Escrow.orderTiming_safe]
  case dispute =>
    unfold dispute getConfig getAd
    simp [hashOrder_safe, requireParty_safe, Escrow.tokenContract_eq, adAmount_safe,
      Escrow.openDispute_safe]
  case respondToDispute =>
    unfold respondToDispute getConfig getAd Escrow.requireStatus
    simp [hashOrder_safe, requireParty_safe, Escrow.recordResponse_safe]
  case finalizeDispute params =>
    unfold finalizeDispute getConfig getAd Escrow.requireStatus
    simp only [Tx.safe_bind_view, Tx.safe_bind_lift, Check.safe_expect, Check.expect_ok,
      Check.safe_require, Check.require_ok, Check.safe_mapError, Check.mapError_ok,
      Check.safe_sub, Check.sub_ok, hashOrder_safe, Escrow.disputeOutcome_safe, adAmount_safe,
      disputeEnd_safe, Escrow.requireReached_safe, true_and]
    intro config hconfig orderHash hhash _ hdisputed verdict _ amount hamount ad had finalizesAt _
      _ _
    obtain ⟨ad', amount', hp⟩ := hpayable rfl hconfig hhash (by rw [hdisputed]; rfl)
    obtain rfl : amount = amount' := Except.ok.inj (hamount.symm.trans hp.worth)
    obtain rfl : ad = ad' := Option.some.inj (had.symm.trans hp.lookup)
    refine ⟨fun _ => hp.held, ?_⟩
    rintro _ ⟨-, rfl⟩
    rw [Tx.safe_bind]
    refine ⟨?_, fun payout s₁ hcharge => ?_⟩
    · unfold forfeitPayout
      rw [Tx.safe_ite]
      refine ⟨fun _ => ?_, fun _ => Tx.safe_pure⟩
      exact chargeFee_safe hp.fees.1 hp.fees.2.1 (hp.held.trans hp.covered) hp.fits
    rw [Tx.safe_bind_modify, Tx.safe_bind]
    refine ⟨?_, fun _ s₂ hpay => ?_⟩
    · unfold payForfeit
      rw [Tx.safe_ite]
      exact ⟨fun _ => payNet_safe, fun _ => Tx.safe_pure⟩
    -- the count is still the one the lock left
    have hcounted : 1 ≤ s₂.core.ledger.getInFlight params.adSettlementSigner := by
      obtain ⟨c, out, ⟨x, claimable, events, rfl⟩, -, rfl⟩ :=
        Locks.ruling_frame (rulingPaid_ok hcharge hpay)
      exact hp.counted
    simp only [Tx.safe_bind_zoom, Tx.safe_modify, Escrow.appendToMerkle_safe, Escrow.settleBond_safe,
      implies_true, and_true]
    exact Escrow.resolve_safe hcounted
  case finalizeCancel params =>
    unfold finalizeCancel getConfig getAd
    simp only [Tx.safe_bind_view, Tx.safe_bind_lift, Tx.safe_bind_modify, Tx.safe_bind_zoom,
      Tx.safe_modify, Check.safe_expect, Check.expect_ok, Check.safe_mapError, Check.mapError_ok,
      Check.safe_sub, Check.sub_ok, hashOrder_safe, Escrow.orderTiming_safe,
      Escrow.requireFinalizable_safe, adAmount_safe, cancelEnd_safe, Escrow.requireReached_safe,
      Escrow.appendToMerkle_safe, true_and, implies_true, and_true]
    intro config hconfig orderHash hhash t _ _ hfinalizable amount hamount ad had finalizesAt _ _ _
    have hclaimed : s.core.ledger.status orderHash = .claimed := by
      simp only [Escrow.requireFinalizable, Check.bind_ok, Check.require_ok] at hfinalizable
      exact hfinalizable.choose_spec.1
    obtain ⟨ad', amount', hp⟩ := hpayable rfl hconfig hhash (by rw [hclaimed]; rfl)
    obtain rfl : amount = amount' := Except.ok.inj (hamount.symm.trans hp.worth)
    obtain rfl : ad = ad' := Option.some.inj (had.symm.trans hp.lookup)
    refine ⟨fun _ => hp.held, fun _ _ => ?_⟩
    exact Escrow.cancel_safe hp.counted
  case cancelNeverLocked =>
    unfold cancelNeverLocked getConfig Escrow.requireStatus Escrow.verifyProof
    simp [hashOrder_safe, Escrow.requireReached_safe, Escrow.currentTiming_safe,
      Escrow.requireAnchored_safe, Escrow.buildPublicInputs_safe, Escrow.appendToMerkle_safe]
  case repinOrder =>
    unfold repinOrder getConfig
    simp [hashOrder_safe, Escrow.orderTiming_safe]
  case presentSettled params targetRoot proof =>
    unfold presentSettled getConfig Escrow.requirePresentable Escrow.verifyProof
    simp only [Tx.safe_bind_view, Tx.safe_bind_lift, Check.safe_expect, Check.expect_ok,
      Check.safe_require, Check.require_ok, Check.safe_mapError, Check.mapError_ok,
      Escrow.requireAnchored_safe, hashOrder_safe, true_and]
    intro config hconfig orderHash hhash _ hlive _ _ _ _
    obtain ⟨ad, amount, hp⟩ := hpayable rfl hconfig hhash hlive
    rw [Tx.safe_bind]
    refine ⟨closeDispute_safe, fun _ s₁ hclose => ?_⟩
    rw [Tx.safe_bind]
    exact ⟨fill_safe hp hclose, fun _ s₂ hfill => payFilled_safe hp hclose hfill⟩
  case recordSettled =>
    unfold recordSettled getConfig
    simp [hashOrder_safe, Escrow.recordSettled_safe]
  case claim =>
    unfold claim getConfig
    simp [Escrow.claim_safe]

end AdManager
end ProofBridge
