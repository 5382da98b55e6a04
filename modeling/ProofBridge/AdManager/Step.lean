import ProofBridge.AdManager.AdminSpec

/-!
# What each call does

`Step O H env s call s'` says everything an accepted call did: the checks it passed and the state
it left, one constructor for each entry point that touches an ad or an order, and one for all the
administrative ones. `step_of_exec` is the only proof that unfolds an entry point; every invariant
is a case analysis of `Step`.
-/

namespace ProofBridge
namespace AdManager

open ContractLib

variable {X : Type} {O : Outside X} {H : Host} {env : Env} {s s' : Chain X}

/-! ## Paying out of an ad -/

/-- The fee of a payout: what the LP keeps, what the protocol takes, and the checks the charge
passed on the way. -/
structure Charged (ad : Ad) (params : OrderParams) (amount : ℕ) (forfeit : Bool)
    (lpFee protocolFee : ℕ) : Prop where
  split : (splitFee amount (if forfeit then 0 else params.lpFeeBps.toNat)
    params.protocolFeeBps.toNat : Check AdManagerError (ℕ × ℕ)) = .ok (lpFee, protocolFee)
  lp_le : lpFee ≤ amount
  out_le : amount - lpFee ≤ ad.balance
  protocol_le : protocolFee ≤ amount - lpFee

theorem chargeFee_ok {ad : Ad} {params : OrderParams} {orderHash : BytesN32} {amount : ℕ}
    {forfeit : Bool} {r : (Ad × ℕ × ℕ) × Chain X}
    (ok : chargeFee ad params orderHash amount forfeit s = .ok r) :
    ∃ lpFee protocolFee, Charged ad params amount forfeit lpFee protocolFee ∧
      r = (({ ad with balance := ad.balance - (amount - lpFee) },
          amount - lpFee - protocolFee, protocolFee),
        { s with core := { s.core with
          events := .feeCharged orderHash lpFee protocolFee :: s.core.events } }) := by
  unfold chargeFee at ok
  simp only [Tx.bind_lift_ok, Tx.bind_modify_ok, Tx.pure_ok, Check.sub_ok] at ok
  obtain ⟨fee, hfee, _, ⟨hlp, rfl⟩, _, ⟨hout, rfl⟩, _, ⟨hprot, rfl⟩, rfl⟩ := ok
  exact ⟨fee.1, fee.2, ⟨hfee, hlp, hout, hprot⟩, rfl⟩

/-- The protocol's fee was paid to the pool; without a pool or a fee nothing was. -/
inductive FeePaid (O : Outside X) (H : Host) (env : Env) (wNative : Address)
    (pool : Option BytesN32) (token : BytesN32) (fee : ℕ) (c : Core X) : Core X → Prop
  | nothing (h : pool = none ∨ fee = 0) : FeePaid O H env wNative pool token fee c c
  | paid {recipient : BytesN32} {c' : Core X} (hpool : pool = some recipient) (hfee : fee ≠ 0)
      (h : Escrow.Paid O H env wNative recipient token fee c c') :
      FeePaid O H env wNative pool token fee c c'

/-- What `pay_net` leaves: the recipient was paid its net, then the pool its fee. -/
inductive NetPaid (O : Outside X) (H : Host) (env : Env) (wNative : Address)
    (pool : Option BytesN32) (recipient token : BytesN32) (net fee : ℕ) (c : Core X) :
    Core X → Prop
  | intro {c₁ c₂ : Core X} (hnet : Escrow.Paid O H env wNative recipient token net c c₁)
      (hfee : FeePaid O H env wNative pool token fee c₁ c₂) :
      NetPaid O H env wNative pool recipient token net fee c c₂

theorem NetPaid.moneyOnly {wNative : Address} {pool : Option BytesN32}
    {recipient token : BytesN32} {net fee : ℕ} {c c' : Core X}
    (h : NetPaid O H env wNative pool recipient token net fee c c') :
    Escrow.MoneyOnly c c' := by
  obtain ⟨hnet, hfee⟩ := h
  cases hfee with
  | nothing => exact hnet.moneyOnly
  | paid hpool hfee h => exact hnet.moneyOnly.trans h.moneyOnly

theorem payNet_ok {config : ContractConfig} {recipient token : BytesN32} {net fee : ℕ}
    {r : Unit × Chain X} (ok : payNet O H env config recipient token net fee s = .ok r) :
    ∃ c, NetPaid O H env config.wNativeToken s.fees.pool recipient token net fee s.core c ∧
      r.2 = { s with core := c } := by
  unfold payNet at ok
  rw [Tx.bind_zoom_ok] at ok
  obtain ⟨⟨⟩, c₁, hnet, ok⟩ := ok
  have hnet := Escrow.payOrCredit_ok hnet
  unfold payProtocolFee at ok
  rw [Tx.bind_read_ok] at ok
  cases hpool : s.fees.pool with
  | none =>
    simp only [hpool, Tx.pure_ok] at ok
    subst ok
    exact ⟨c₁, ⟨hnet, .nothing (.inl rfl)⟩, rfl⟩
  | some pool =>
    simp only [hpool, Tx.ite_apply] at ok
    split at ok
    · next hfee =>
      obtain ⟨_, c₂, hpaid, rfl⟩ := Tx.zoom_ok.mp ok
      exact ⟨c₂, ⟨hnet, .paid rfl hfee (Escrow.payOrCredit_ok hpaid)⟩, rfl⟩
    · next hfee =>
      obtain rfl := Tx.pure_ok.mp ok
      exact ⟨c₁, ⟨hnet, .nothing (.inr (not_not.mp hfee))⟩, rfl⟩

/-- An ad after `out` of a lock of `amount` left its balance. -/
def Ad.release (ad : Ad) (amount out : ℕ) : Ad :=
  { ad with locked := ad.locked - amount, balance := ad.balance - out }

/-- What a fill did: it ended any open dispute, closed the order and paid its amount out of the
ad. -/
inductive Filled (O : Outside X) (H : Host) (env : Env) (config : ContractConfig)
    (params : OrderParams) (orderHash : BytesN32) (byEvidence : Bool) (s : Chain X) :
    Chain X → Prop
  | intro {c₁ c₂ : Core X} {ad : Ad} {amount lpFee protocolFee : ℕ}
      (hclosed : Escrow.EvidenceClosed O H env orderHash .tradeProceeds
        ((s.ads.get? params.adId).map Ad.maker) (evidenceDenied O params orderHash s) s.core c₁)
      (hcounted : 1 ≤ s.core.ledger.getInFlight params.adSettlementSigner)
      (hamount : adAmount params = .ok amount)
      (had : s.ads.get? params.adId = some ad)
      (hlocked : amount ≤ ad.locked)
      (hcharged : Charged ad params amount false lpFee protocolFee)
      (hpaid : NetPaid O H env config.wNativeToken s.fees.pool params.orderRecipient ad.token
        (amount - lpFee - protocolFee) protocolFee
        { c₁ with
          ledger := Escrow.closeOrder orderHash params.adSettlementSigner .filled s.core.ledger
          events := .feeCharged orderHash lpFee protocolFee ::
            .orderSettled orderHash byEvidence :: s.core.events } c₂) :
      Filled O H env config params orderHash byEvidence s
        { s with core := c₂, ads := s.ads.set params.adId (ad.release amount (amount - lpFee)) }

/-- The three steps every fill is made of. -/
theorem filled_ok {config : ContractConfig} {params : OrderParams} {orderHash : BytesN32}
    {byEvidence : Bool} {s₁ s₂ s₃ : Chain X}
    (hclose : closeDispute O H env params orderHash .tradeProceeds s = .ok ((), s₁))
    (hfill : onCore (Escrow.fill orderHash params.adSettlementSigner byEvidence) s₁
      = .ok ((), s₂))
    (hpay : payFromAd O H env config params orderHash s₂ = .ok ((), s₃)) :
    Filled O H env config params orderHash byEvidence s s₃ := by
  unfold closeDispute at hclose
  rw [Tx.bind_read_ok] at hclose
  obtain ⟨_, c₁, hclosed, heq⟩ := Tx.zoom_ok.mp hclose
  cases heq
  have hclosed := Escrow.closeDisputeByEvidence_ok hclosed
  obtain ⟨x, rfl⟩ := hclosed.frame
  obtain ⟨_, c₂, hclosing, heq⟩ := Tx.zoom_ok.mp hfill
  cases heq
  obtain ⟨hcounted, rfl⟩ := Escrow.fill_ok hclosing
  unfold payFromAd at hpay
  simp only [Tx.bind_lift_ok, Tx.bind_view_ok, getAd, Check.expect_ok, Check.sub_ok] at hpay
  obtain ⟨amount, hamount, ad, had, _, ⟨hlocked, rfl⟩, hpay⟩ := hpay
  rw [Tx.bind_ok] at hpay
  obtain ⟨charged, s₄, hcharge, hpay⟩ := hpay
  obtain ⟨lpFee, protocolFee, hcharged, heq⟩ := chargeFee_ok hcharge
  cases heq
  rw [Tx.bind_modify_ok] at hpay
  obtain ⟨c₃, hnet, rfl⟩ := payNet_ok hpay
  exact .intro hclosed hcounted hamount had hlocked
    ⟨hcharged.split, hcharged.lp_le, hcharged.out_le, hcharged.protocol_le⟩ hnet

/-- What the pay-out of a ruling did: a maker forfeit pays the bridger out of the released lock,
every other outcome only releases it. -/
inductive RulingPaid (O : Outside X) (H : Host) (env : Env) (config : ContractConfig)
    (params : OrderParams) (orderHash : BytesN32) (outcome : DisputeOutcome) (amount : ℕ) (ad : Ad)
    (s : Chain X) : Chain X → Prop
  | released (houtcome : outcome ≠ .makerForfeit) :
      RulingPaid O H env config params orderHash outcome amount ad s
        { s with ads := s.ads.set params.adId (ad.release amount 0) }
  | forfeited {c : Core X} {lpFee protocolFee : ℕ} (houtcome : outcome = .makerForfeit)
      (hcharged : Charged ad params amount true lpFee protocolFee)
      (hpaid : NetPaid O H env config.wNativeToken s.fees.pool params.orderRecipient
        params.adChainToken (amount - lpFee - protocolFee) protocolFee
        { s.core with events := .feeCharged orderHash lpFee protocolFee :: s.core.events } c) :
      RulingPaid O H env config params orderHash outcome amount ad s
        { s with core := c, ads := s.ads.set params.adId (ad.release amount (amount - lpFee)) }

theorem rulingPaid_ok {config : ContractConfig} {params : OrderParams} {orderHash : BytesN32}
    {outcome : DisputeOutcome} {amount : ℕ} {ad : Ad} {payout : Ad × ℕ × ℕ} {s₁ s₂ : Chain X}
    (hcharge : forfeitPayout { ad with locked := ad.locked - amount } params orderHash outcome
      amount s = .ok (payout, s₁))
    (hpay : payForfeit O H env config params outcome payout.2
      { s₁ with ads := s₁.ads.set params.adId payout.1 } = .ok ((), s₂)) :
    RulingPaid O H env config params orderHash outcome amount ad s s₂ := by
  unfold forfeitPayout at hcharge
  unfold payForfeit at hpay
  rw [Tx.ite_apply] at hcharge hpay
  by_cases houtcome : outcome = .makerForfeit
  · rw [if_pos houtcome] at hcharge hpay
    obtain ⟨lpFee, protocolFee, hcharged, heq⟩ := chargeFee_ok hcharge
    cases heq
    obtain ⟨c, hnet, rfl⟩ := payNet_ok hpay
    exact .forfeited houtcome
      ⟨hcharged.split, hcharged.lp_le, hcharged.out_le, hcharged.protocol_le⟩ hnet
  · rw [if_neg houtcome] at hcharge hpay
    cases Tx.pure_ok.mp hcharge
    cases Tx.pure_ok.mp hpay
    exact .released houtcome

/-! ## One call -/

/-- Everything an accepted call did. -/
inductive Step (O : Outside X) (H : Host) (env : Env) (s : Chain X) : Call → Ret → Chain X → Prop
  | admin {call : Call} {ret : Ret} {s' : Chain X} (hcall : call.administrative = true)
      (hframe : Frame s s') : Step O H env s call ret s'
  | createAd {creator : Address} {adId : AdId} {adToken : BytesN32} {initialAmount : U128}
      {orderChainId : U128} {adRecipient settlementSigner : BytesN32} {config : ContractConfig}
      {routed : BytesN32} {x : X}
      (hconfig : s.core.settings.config = some config)
      (hroute : s.core.settings.routes.get? (adToken, orderChainId) = some routed)
      (hnew : s.ads.get? adId = none)
      (hauth : env.authorized creator = true)
      (hregistered : requireRegistered O env settlementSigner creator s = .ok ())
      (hpull : O.transfer s.core.outside (env.inside H.address)
        (underlying config.wNativeToken adToken) creator H.address (asI128 initialAmount.toNat)
          = some x) :
      Step O H env s (.createAd creator adId adToken initialAmount orderChainId adRecipient
          settlementSigner) .unit
        { s with
          core := { s.core with
            outside := x
            events := .adCreated adId creator adToken initialAmount.toNat orderChainId
              settlementSigner :: s.core.events }
          ads := s.ads.set adId
            { orderChainId, adRecipient, maker := creator, token := adToken
              balance := initialAmount.toNat, locked := 0, isOpen := true
              orderChainToken := routed, settlementSigner } }
  | setSettlementSigner {adId : AdId} {identity : BytesN32} {ad : Ad}
      (had : s.ads.get? adId = some ad)
      (hauth : env.authorized ad.maker = true)
      (hregistered : requireRegistered O env identity ad.maker s = .ok ()) :
      Step O H env s (.setSettlementSigner adId identity) .unit
        { s with
          core := { s.core with
            events := .settlementSignerSet adId ad.settlementSigner identity :: s.core.events }
          ads := s.ads.set adId { ad with settlementSigner := identity } }
  | fundAd {adId : AdId} {amount : U128} {config : ContractConfig} {ad : Ad} {x : X}
      (hconfig : s.core.settings.config = some config)
      (had : s.ads.get? adId = some ad)
      (hopen : ad.isOpen = true)
      (hauth : env.authorized ad.maker = true)
      (hpull : O.transfer s.core.outside (env.inside H.address)
        (underlying config.wNativeToken ad.token) ad.maker H.address (asI128 amount.toNat)
          = some x)
      (hfit : ad.balance + amount.toNat < 2 ^ 128) :
      Step O H env s (.fundAd adId amount) .unit
        { s with
          core := { s.core with
            outside := x
            events := .adFunded adId ad.maker amount.toNat (ad.balance + amount.toNat)
              :: s.core.events }
          ads := s.ads.set adId { ad with balance := ad.balance + amount.toNat } }
  | withdrawFromAd {adId : AdId} {amount : U128} {payee : Address} {config : ContractConfig}
      {ad : Ad} {x : X}
      (hconfig : s.core.settings.config = some config)
      (had : s.ads.get? adId = some ad)
      (havailable : amount.toNat ≤ ad.balance - ad.locked)
      (hauth : env.authorized ad.maker = true)
      (hpush : O.transfer s.core.outside (env.inside H.address)
        (underlying config.wNativeToken ad.token) H.address payee (asI128 amount.toNat) = some x) :
      Step O H env s (.withdrawFromAd adId amount payee) .unit
        { s with
          core := { s.core with
            outside := x
            events := .adWithdrawn adId ad.maker amount.toNat (ad.balance - amount.toNat)
              :: s.core.events }
          ads := s.ads.set adId { ad with balance := ad.balance - amount.toNat } }
  | closeAd {adId : AdId} {payee : Address} {config : ContractConfig} {ad : Ad} {x : X}
      (hconfig : s.core.settings.config = some config)
      (had : s.ads.get? adId = some ad)
      (hlocked : ad.locked = 0)
      (hauth : env.authorized ad.maker = true)
      (hpush : (ad.balance = 0 ∧ x = s.core.outside) ∨
        O.transfer s.core.outside (env.inside H.address)
          (underlying config.wNativeToken ad.token) H.address payee (asI128 ad.balance)
            = some x) :
      Step O H env s (.closeAd adId payee) .unit
        { s with
          core := { s.core with
            outside := x
            events := .adClosed adId ad.maker :: s.core.events }
          ads := s.ads.set adId { ad with balance := 0, isOpen := false } }
  | lockForOrder {params : OrderParams} {signerSlot : U32} {config : ContractConfig} {ad : Ad}
      {timingVersion amount : ℕ} {orderHash : BytesN32} {anchorDelay : ℕ} {x : X}
      (hconfig : s.core.settings.config = some config)
      (had : s.ads.get? params.adId = some ad)
      (hchecks : lockChecks O env config ad params signerSlot s = .ok (timingVersion, amount))
      (hauth : env.authorized ad.maker = true)
      (hhash : hashOrder H params config.chainId = .ok orderHash)
      (hnew : s.core.ledger.status orderHash = .none)
      (hdelay : anchorDelayNow O params.orderChainId s = .ok anchorDelay)
      (hfit : ad.locked + amount < 2 ^ 128)
      (happend : O.appendOrderHash s.core.outside (env.inside H.address) config.merkleManager
        H.address orderHash LEAF_DOMAIN_ORDER = some x) :
      Step O H env s (.lockForOrder params signerSlot) (.order orderHash)
        { s with
          core := { s.core with
            outside := x
            leaves := (orderHash, LEAF_DOMAIN_ORDER) :: s.core.leaves
            ledger := { s.core.ledger with
              orders := s.core.ledger.orders.set orderHash
                { status := .opened, lockedAt := env.now, registryEpoch := s.registryEpoch
                  timingVersion, anchorDelay := min anchorDelay (2 ^ 32 - 1)
                  pinnedSlot := signerSlot, repinned := false }
              inFlight := storeNonzero s.core.ledger.inFlight params.adSettlementSigner
                (s.core.ledger.getInFlight params.adSettlementSigner + 1) }
            events := .orderLocked orderHash params.adId ad.maker ad.token amount params.bridger
              params.orderRecipient :: s.core.events }
          ads := s.ads.set params.adId { ad with locked := ad.locked + amount } }
  | unlock {params : OrderParams} {nullifierHash targetRoot : BytesN32} {proof cosigData : Bytes}
      {config : ContractConfig} {orderHash : BytesN32} {t : RouteTiming} {ad : Ad}
      {publicInputs : Bytes} {s₁ s₂ : Chain X}
      (hconfig : s.core.settings.config = some config)
      (hhash : hashOrder H params config.chainId = .ok orderHash)
      (hlive : (s.core.ledger.status orderHash).live = true)
      (hnullifier : s.core.ledger.isNullifierUsed nullifierHash = false)
      (htiming : Escrow.orderTiming orderHash params.orderChainId s.core = .ok t)
      (hcutoff : env.now < presentationCutoff orderHash params t s)
      (had : s.ads.get? params.adId = some ad)
      (hhalt : isHalted ad.maker s = false)
      (hroot : requireRootValid O env params orderHash nullifierHash targetRoot cosigData s
        = .ok ())
      (hinputs : buildPublicInputs nullifierHash targetRoot orderHash 1 = .ok publicInputs)
      (hproof : Escrow.verifyProof O config.verifier publicInputs proof s.core = .ok ())
      (hspent : s₁ = { s with core := { s.core with ledger := { s.core.ledger with
        nullifiers := s.core.ledger.nullifiers.set nullifierHash true } } })
      (hfilled : Filled O H env config params orderHash false s₁ s₂) :
      Step O H env s (.unlock params nullifierHash targetRoot proof cosigData) .unit
        { s₂ with core := { s₂.core with
          events := .orderUnlocked orderHash params.orderRecipient nullifierHash
            :: s₂.core.events } }
  | claimCancel {params : OrderParams} {config : ContractConfig} {orderHash : BytesN32}
      {t : RouteTiming}
      (hconfig : s.core.settings.config = some config)
      (hhash : hashOrder H params config.chainId = .ok orderHash)
      (hopened : s.core.ledger.status orderHash = .opened)
      (hdeadline : params.deadline.toNat ≤ env.now)
      (htiming : Escrow.orderTiming orderHash params.orderChainId s.core = .ok t) :
      Step O H env s (.claimCancel params) .unit
        { s with core := { s.core with
          ledger := { s.core.ledger with
            claims := s.core.ledger.claims.set orderHash
              { openedAt := env.now
                finalizeAt := saturatingAdd params.deadline.toNat t.buffer }
            orders := s.core.ledger.orders.set orderHash
              { s.core.ledger.getOrder orderHash with status := .claimed } }
          events := .claimOpened orderHash (saturatingAdd params.deadline.toNat t.buffer)
            :: s.core.events } }
  | dispute {params : OrderParams} {filer : Address} {evidence : BytesN32}
      {config : ContractConfig} {orderHash : BytesN32} {ad : Ad} {amount bond : ℕ}
      {t : RouteTiming} {manager : Address} {x : X}
      (hconfig : s.core.settings.config = some config)
      (hhash : hashOrder H params config.chainId = .ok orderHash)
      (had : s.ads.get? params.adId = some ad)
      (hparty : requireParty filer ad.maker params.orderRecipient = .ok ())
      (hamount : adAmount params = .ok amount)
      (hdisputable : Escrow.requireDisputable env orderHash params.orderChainId
        params.deadline.toNat s.core = .ok t)
      (hmanager : s.core.settings.disputeManager = some manager)
      (hopen : O.openDispute s.core.outside (env.inside H.address) manager
        { escrow := H.address, orderHash, peerChainId := params.orderChainId, filer, evidence
          deadline := params.deadline.toNat, buffer := t.buffer
          token := underlying config.wNativeToken ad.token, amount } = .ok (bond, x)) :
      Step O H env s (.dispute params filer evidence) (.bond bond)
        { s with core := { s.core with
          outside := x
          ledger := { s.core.ledger with
            disputeManagers := s.core.ledger.disputeManagers.set orderHash manager
            orders := s.core.ledger.orders.set orderHash
              { s.core.ledger.getOrder orderHash with status := .disputed }
            claims := s.core.ledger.claims.remove orderHash } } }
  | respondToDispute {params : OrderParams} {responder : Address} {evidence : BytesN32}
      {config : ContractConfig} {orderHash : BytesN32} {ad : Ad} {manager : Address} {x : X}
      (hconfig : s.core.settings.config = some config)
      (hhash : hashOrder H params config.chainId = .ok orderHash)
      (hdisputed : s.core.ledger.status orderHash = .disputed)
      (had : s.ads.get? params.adId = some ad)
      (hparty : requireParty responder ad.maker params.orderRecipient = .ok ())
      (hmanager : s.core.ledger.disputeManagers.get? orderHash = some manager)
      (hrespond : O.recordResponse s.core.outside (env.inside H.address) manager
        { escrow := H.address, orderHash, responder, evidence } = .ok x) :
      Step O H env s (.respondToDispute params responder evidence) .unit
        { s with core := { s.core with outside := x } }
  | finalizeDispute {params : OrderParams} {config : ContractConfig} {orderHash : BytesN32}
      {verdict : DisputeOutcome × Option Address} {amount finalizesAt : ℕ} {ad : Ad}
      {s₁ : Chain X} {manager : Address} {x₁ x₂ : X}
      (hconfig : s.core.settings.config = some config)
      (hhash : hashOrder H params config.chainId = .ok orderHash)
      (hdisputed : s.core.ledger.status orderHash = .disputed)
      (hverdict : Escrow.disputeOutcome O env orderHash s.core = .ok verdict)
      (hamount : adAmount params = .ok amount)
      (had : s.ads.get? params.adId = some ad)
      (hend : disputeEnd O env ad.maker params orderHash verdict.1 s = .ok finalizesAt)
      (hreached : finalizesAt ≤ env.now)
      (hlocked : amount ≤ ad.locked)
      (hpaid : RulingPaid O H env config params orderHash verdict.1 amount ad s s₁)
      (hcounted : 1 ≤ s₁.core.ledger.getInFlight params.adSettlementSigner)
      (hmanager : s₁.core.ledger.disputeManagers.get? orderHash = some manager)
      (hsettle : O.settleBond s₁.core.outside (env.inside H.address) manager
        { escrow := H.address, orderHash, outcome := verdict.1
          filerIsBridger := decide (verdict.2 ≠ some ad.maker), returnToFiler := false } = .ok x₁)
      (happend : O.appendOrderHash x₁ (env.inside H.address) config.merkleManager H.address
        orderHash (rulingDomain verdict.1) = some x₂) :
      Step O H env s (.finalizeDispute params) .unit
        { s₁ with core := { s₁.core with
          outside := x₂
          ledger := { Escrow.closeOrder orderHash params.adSettlementSigner .resolved
            s₁.core.ledger with claims := s₁.core.ledger.claims }
          leaves := (orderHash, rulingDomain verdict.1) :: s₁.core.leaves
          events := .disputeFinalized orderHash verdict.1 :: s₁.core.events } }
  | finalizeCancel {params : OrderParams} {config : ContractConfig} {orderHash : BytesN32}
      {t : RouteTiming} {amount finalizesAt : ℕ} {ad : Ad} {x : X}
      (hconfig : s.core.settings.config = some config)
      (hhash : hashOrder H params config.chainId = .ok orderHash)
      (htiming : Escrow.orderTiming orderHash params.orderChainId s.core = .ok t)
      (hfinalizable : Escrow.requireFinalizable env orderHash t.buffer s.core = .ok ())
      (hamount : adAmount params = .ok amount)
      (had : s.ads.get? params.adId = some ad)
      (hend : cancelEnd O ad.maker params orderHash t s = .ok finalizesAt)
      (hreached : finalizesAt ≤ env.now)
      (hlocked : amount ≤ ad.locked)
      (hcounted : 1 ≤ s.core.ledger.getInFlight params.adSettlementSigner)
      (happend : O.appendOrderHash s.core.outside (env.inside H.address) config.merkleManager
        H.address orderHash LEAF_DOMAIN_CANCEL = some x) :
      Step O H env s (.finalizeCancel params) .unit
        { s with
          core := { s.core with
            outside := x
            ledger := Escrow.closeOrder orderHash params.adSettlementSigner .cancelled
              s.core.ledger
            leaves := (orderHash, LEAF_DOMAIN_CANCEL) :: s.core.leaves
            events := .lockCancelled orderHash params.adId amount ::
              .orderCancelled orderHash false :: s.core.events }
          ads := s.ads.set params.adId (ad.release amount 0) }
  | cancelNeverLocked {params : OrderParams} {targetRoot nullifierHash : BytesN32}
      {proof publicInputs : Bytes} {config : ContractConfig} {orderHash : BytesN32} {x : X}
      (hconfig : s.core.settings.config = some config)
      (hhash : hashOrder H params config.chainId = .ok orderHash)
      (hnever : s.core.ledger.status orderHash = .none)
      (hdeadline : params.deadline.toNat ≤ env.now)
      (hanchored : Escrow.requireAnchored O env params.orderChainId targetRoot s.core = .ok ())
      (hinputs : buildPublicInputs nullifierHash targetRoot orderHash 1 = .ok publicInputs)
      (hproof : Escrow.verifyProof O config.verifier publicInputs proof s.core = .ok ())
      (happend : O.appendOrderHash s.core.outside (env.inside H.address) config.merkleManager
        H.address orderHash LEAF_DOMAIN_CANCEL = some x) :
      Step O H env s (.cancelNeverLocked params targetRoot nullifierHash proof) .unit
        { s with core := { s.core with
          outside := x
          ledger := { s.core.ledger with
            orders := s.core.ledger.orders.set orderHash
              { s.core.ledger.getOrder orderHash with status := .cancelled } }
          leaves := (orderHash, LEAF_DOMAIN_CANCEL) :: s.core.leaves
          events := .orderCancelled orderHash false :: s.core.events } }
  | repinOrder {params : OrderParams} {config : ContractConfig} {orderHash : BytesN32}
      {t : RouteTiming} {registry : Address} {consent : U32 × U32 × U64}
      (hconfig : s.core.settings.config = some config)
      (hhash : hashOrder H params config.chainId = .ok orderHash)
      (hopened : s.core.ledger.status orderHash = .opened)
      (htiming : Escrow.orderTiming orderHash params.orderChainId s.core = .ok t)
      (hcutoff : env.now ≤ params.deadline.toNat - t.claimStagger)
      (hregistry : s.registries.get? (s.core.ledger.getOrder orderHash).registryEpoch
        = some registry)
      (hconsent : O.repinApproval s.core.outside registry params.adSettlementSigner orderHash
        = some consent)
      (hfrom : consent.1 = (s.core.ledger.getOrder orderHash).pinnedSlot) :
      Step O H env s (.repinOrder params) .unit
        { s with core := { s.core with
          ledger := { s.core.ledger with
            orders := s.core.ledger.orders.set orderHash
              { s.core.ledger.getOrder orderHash with
                pinnedSlot := consent.2.1, repinned := true } }
          events := .orderRepinned orderHash consent.1 consent.2.1 :: s.core.events } }
  | presentSettled {params : OrderParams} {targetRoot : BytesN32} {proof : Bytes}
      {config : ContractConfig} {orderHash : BytesN32} {s' : Chain X}
      (hconfig : s.core.settings.config = some config)
      (hhash : hashOrder H params config.chainId = .ok orderHash)
      (hlive : (s.core.ledger.status orderHash).live = true)
      (hanchored : Escrow.requireAnchored O env params.orderChainId targetRoot s.core = .ok ())
      (hproof : Escrow.verifyProof O config.verifier
        (buildEventPublicInputs targetRoot orderHash LEAF_DOMAIN_SETTLED) proof s.core = .ok ())
      (hfilled : Filled O H env config params orderHash true s s') :
      Step O H env s (.presentSettled params targetRoot proof) .unit s'
  | recordSettled {params : OrderParams} {config : ContractConfig} {orderHash : BytesN32} {x : X}
      (hconfig : s.core.settings.config = some config)
      (hhash : hashOrder H params config.chainId = .ok orderHash)
      (hfilled : s.core.ledger.status orderHash = .filled)
      (hnew : s.core.ledger.isSettledRecorded orderHash = false)
      (happend : O.appendOrderHash s.core.outside (env.inside H.address) config.merkleManager
        H.address orderHash LEAF_DOMAIN_SETTLED = some x) :
      Step O H env s (.recordSettled params) .unit
        { s with core := { s.core with
          outside := x
          leaves := (orderHash, LEAF_DOMAIN_SETTLED) :: s.core.leaves
          ledger := { s.core.ledger with settled := s.core.ledger.settled.set orderHash true }
          events := .settledRecorded orderHash :: s.core.events } }
  | claim {recipient token : BytesN32} {config : ContractConfig} {x : X}
      (hconfig : s.core.settings.config = some config)
      (howed : s.core.ledger.getClaimable recipient token ≠ 0)
      (hpush : O.transfer s.core.outside (env.inside H.address)
        (underlying config.wNativeToken token) H.address (.account recipient)
          (asI128 (s.core.ledger.getClaimable recipient token)) = some x) :
      Step O H env s (.claim recipient token) .unit
        { s with core := { s.core with
          outside := x
          ledger := { s.core.ledger with
            claimable := s.core.ledger.claimable.remove (recipient, token) }
          events := .payoutClaimed recipient token (s.core.ledger.getClaimable recipient token)
            :: s.core.events } }

/-! ## The entry points' inversions -/

theorem createAd_step {creator : Address} {adId : AdId} {adToken : BytesN32}
    {initialAmount : U128} {orderChainId : U128} {adRecipient settlementSigner : BytesN32}
    (ok : createAd O H env creator adId adToken initialAmount orderChainId adRecipient
      settlementSigner s = .ok ((), s')) :
    Step O H env s (.createAd creator adId adToken initialAmount orderChainId adRecipient
      settlementSigner) .unit s' := by
  unfold createAd at ok
  simp only [Tx.bind_view_ok, Tx.bind_read_ok, Tx.bind_require_ok, Tx.bind_demand_ok,
    Tx.bind_expect_ok, Tx.bind_zoom_ok, Tx.bind_modify_ok, Tx.modify_ok, Prod.mk.injEq,
    true_and, getConfig, Check.expect_ok] at ok
  obtain ⟨_, -, config, hconfig, -, -, -, routed, hroute, hnew, hauth, ⟨⟩, hregistered, _, c₁,
    hpull, rfl⟩ := ok
  obtain ⟨x, hx, rfl⟩ := Escrow.transferFromUser_ok hpull
  exact .createAd hconfig hroute hnew hauth hregistered hx

theorem setSettlementSigner_step {adId : AdId} {identity : BytesN32}
    (ok : setSettlementSigner O env adId identity s = .ok ((), s')) :
    Step O H env s (.setSettlementSigner adId identity) .unit s' := by
  unfold setSettlementSigner at ok
  simp only [Tx.bind_view_ok, Tx.bind_demand_ok, Tx.bind_modify_ok, Tx.modify_ok,
    Prod.mk.injEq, true_and, getAd, Check.expect_ok] at ok
  obtain ⟨ad, had, hauth, ⟨⟩, hregistered, rfl⟩ := ok
  exact .setSettlementSigner had hauth hregistered

theorem fundAd_step {adId : AdId} {amount : U128}
    (ok : fundAd O H env adId amount s = .ok ((), s')) :
    Step O H env s (.fundAd adId amount) .unit s' := by
  unfold fundAd at ok
  simp only [Tx.bind_view_ok, Tx.bind_require_ok, Tx.bind_demand_ok, Tx.bind_zoom_ok,
    Tx.bind_lift_ok, Tx.bind_modify_ok, Tx.modify_ok, Prod.mk.injEq, true_and, getConfig, getAd,
    Check.expect_ok, Check.add_ok] at ok
  obtain ⟨_, -, config, hconfig, ad, had, hopen, -, hauth, _, c₁, hpull, _, ⟨hfit, rfl⟩, rfl⟩ := ok
  obtain ⟨x, hx, rfl⟩ := Escrow.transferFromUser_ok hpull
  exact .fundAd hconfig had hopen hauth hx hfit

theorem withdrawFromAd_step {adId : AdId} {amount : U128} {payee : Address}
    (ok : withdrawFromAd O H env adId amount payee s = .ok ((), s')) :
    Step O H env s (.withdrawFromAd adId amount payee) .unit s' := by
  unfold withdrawFromAd at ok
  simp only [Tx.bind_view_ok, Tx.bind_require_ok, Tx.bind_demand_ok, Tx.bind_zoom_ok,
    Tx.bind_lift_ok, Tx.bind_modify_ok, Tx.modify_ok, Prod.mk.injEq, true_and, getConfig, getAd,
    Check.expect_ok, Check.sub_ok] at ok
  obtain ⟨config, hconfig, ad, had, -, _, ⟨-, rfl⟩, havailable, hauth, _, ⟨-, rfl⟩, _, c₁, hpush,
    rfl⟩ := ok
  obtain ⟨x, hx, rfl⟩ := Escrow.transferTokens_ok hpush
  exact .withdrawFromAd hconfig had havailable hauth hx

theorem closeAd_step {adId : AdId} {payee : Address}
    (ok : closeAd O H env adId payee s = .ok ((), s')) :
    Step O H env s (.closeAd adId payee) .unit s' := by
  unfold closeAd at ok
  simp only [Tx.bind_view_ok, Tx.bind_require_ok, Tx.bind_demand_ok, Tx.bind_modify_ok, getConfig,
    getAd, Check.expect_ok] at ok
  obtain ⟨config, hconfig, ad, had, hlocked, hauth, ok⟩ := ok
  rw [Tx.bind_ok] at ok
  obtain ⟨⟨⟩, s₁, hpay, ok⟩ := ok
  cases Tx.modify_ok.mp ok
  unfold payRemaining at hpay
  rw [Tx.ite_apply] at hpay
  split at hpay
  · obtain ⟨_, c₁, hpush, heq⟩ := Tx.zoom_ok.mp hpay
    cases heq
    obtain ⟨x, hx, rfl⟩ := Escrow.transferTokens_ok hpush
    exact .closeAd hconfig had hlocked hauth (.inr hx)
  · next hzero =>
    cases Tx.pure_ok.mp hpay
    have hbalance : ad.balance = 0 := Nat.eq_zero_of_not_pos hzero
    exact .closeAd hconfig had hlocked hauth (.inl ⟨hbalance, rfl⟩)

theorem lockForOrder_step {params : OrderParams} {signerSlot : U32} {orderHash : BytesN32}
    (ok : lockForOrder O H env params signerSlot s = .ok (orderHash, s')) :
    Step O H env s (.lockForOrder params signerSlot) (.order orderHash) s' := by
  unfold lockForOrder at ok
  simp only [Tx.bind_view_ok, Tx.bind_read_ok, Tx.bind_require_ok, Tx.bind_demand_ok,
    Tx.bind_lift_ok, Tx.bind_modify_ok, getConfig, getAd, Check.expect_ok, Check.add_ok] at ok
  obtain ⟨_, -, config, hconfig, ad, had, checked, hchecks, hauth, orderHash', hhash, hnew,
    anchorDelay, hdelay, _, ⟨hfit, rfl⟩, ok⟩ := ok
  simp only [Tx.bind_zoom_ok, Tx.bind_modify_ok, Tx.pure_ok, Prod.mk.injEq] at ok
  obtain ⟨_, c₁, hopen, _, c₂, hcount, _, c₃, happend, rfl, rfl⟩ := ok
  cases Tx.modify_ok.mp hopen
  obtain rfl := Escrow.countIn_ok hcount
  obtain ⟨x, hx, rfl⟩ := Escrow.appendToMerkle_ok happend
  exact .lockForOrder hconfig had hchecks hauth hhash hnew hdelay hfit hx

theorem unlock_step {params : OrderParams} {nullifierHash targetRoot : BytesN32}
    {proof cosigData : Bytes}
    (ok : unlock O H env params nullifierHash targetRoot proof cosigData s = .ok ((), s')) :
    Step O H env s (.unlock params nullifierHash targetRoot proof cosigData) .unit s' := by
  unfold unlock at ok
  simp only [Tx.bind_view_ok, Tx.bind_read_ok, Tx.bind_require_ok, Tx.bind_lift_ok, getConfig,
    getAd, Check.expect_ok, Check.mapError_ok, requireSettleable, Check.require_ok] at ok
  obtain ⟨config, hconfig, orderHash, hhash, _, hlive, hnullifier, t, htiming, hcutoff, ad, had,
    hhalt, ⟨⟩, hroot, publicInputs, hinputs, ⟨⟩, hproof, ok⟩ := ok
  rw [Tx.bind_zoom_ok] at ok
  obtain ⟨_, c₁, hspend, ok⟩ := ok
  cases Tx.modify_ok.mp hspend
  rw [Tx.bind_ok] at ok
  obtain ⟨⟨⟩, s₁, hclose, ok⟩ := ok
  rw [Tx.bind_ok] at ok
  obtain ⟨⟨⟩, s₂, hfill, ok⟩ := ok
  rw [Tx.bind_ok] at ok
  obtain ⟨⟨⟩, s₃, hpay, ok⟩ := ok
  cases Tx.modify_ok.mp ok
  exact .unlock hconfig hhash hlive hnullifier htiming hcutoff had hhalt hroot hinputs hproof rfl
    (filled_ok hclose hfill hpay)

theorem claimCancel_step {params : OrderParams}
    (ok : claimCancel H env params s = .ok ((), s')) :
    Step O H env s (.claimCancel params) .unit s' := by
  unfold claimCancel at ok
  simp only [Tx.bind_view_ok, Tx.bind_read_ok, Tx.bind_lift_ok, getConfig, Check.expect_ok,
    Check.mapError_ok, Escrow.requireStatus, Escrow.requireReached, Check.require_ok] at ok
  obtain ⟨config, hconfig, orderHash, hhash, _, hopened, _, hdeadline, t, htiming, ok⟩ := ok
  obtain ⟨_, c₁, hclaim, heq⟩ := Tx.zoom_ok.mp ok
  cases heq
  obtain rfl := Escrow.openClaim_ok hclaim
  -- an open order has no window yet, so the claim's end is `deadline + buffer`
  have hwindow : Escrow.windowEnd orderHash params.deadline.toNat t.buffer s.core
      = saturatingAdd params.deadline.toNat t.buffer := by
    unfold Escrow.windowEnd
    rw [hopened]
  rw [hwindow]
  exact .claimCancel hconfig hhash hopened hdeadline htiming

theorem dispute_step {params : OrderParams} {filer : Address} {evidence : BytesN32} {bond : ℕ}
    (ok : dispute O H env params filer evidence s = .ok (bond, s')) :
    Step O H env s (.dispute params filer evidence) (.bond bond) s' := by
  unfold dispute at ok
  simp only [Tx.bind_view_ok, Tx.bind_lift_ok, getConfig, getAd, Check.expect_ok,
    Check.mapError_ok, Escrow.tokenContract_eq, Except.ok.injEq] at ok
  obtain ⟨config, hconfig, orderHash, hhash, ad, had, ⟨⟩, hparty, _, rfl, amount, hamount, ok⟩ := ok
  obtain ⟨_, c₁, hopen, heq⟩ := Tx.zoom_ok.mp ok
  cases heq
  obtain ⟨t, manager, x, ht, hmanager, hx, rfl⟩ := Escrow.openDispute_ok hopen
  exact .dispute hconfig hhash had hparty hamount ht hmanager hx

theorem respondToDispute_step {params : OrderParams} {responder : Address} {evidence : BytesN32}
    (ok : respondToDispute O H env params responder evidence s = .ok ((), s')) :
    Step O H env s (.respondToDispute params responder evidence) .unit s' := by
  unfold respondToDispute at ok
  simp only [Tx.bind_view_ok, Tx.bind_lift_ok, getConfig, getAd, Check.expect_ok,
    Check.mapError_ok, Escrow.requireStatus, Check.require_ok] at ok
  obtain ⟨config, hconfig, orderHash, hhash, _, hdisputed, ad, had, ⟨⟩, hparty, ok⟩ := ok
  obtain ⟨_, c₁, hrespond, heq⟩ := Tx.zoom_ok.mp ok
  cases heq
  obtain ⟨manager, x, hmanager, hx, rfl⟩ := Escrow.recordResponse_ok hrespond
  exact .respondToDispute hconfig hhash hdisputed had hparty hmanager hx

theorem finalizeDispute_step {params : OrderParams}
    (ok : finalizeDispute O H env params s = .ok ((), s')) :
    Step O H env s (.finalizeDispute params) .unit s' := by
  unfold finalizeDispute at ok
  simp only [Tx.bind_view_ok, Tx.bind_lift_ok, getConfig, getAd, Check.expect_ok,
    Check.mapError_ok, Escrow.requireStatus, Escrow.requireReached, Check.require_ok,
    Check.sub_ok] at ok
  obtain ⟨config, hconfig, orderHash, hhash, _, hdisputed, verdict, hverdict, amount, hamount, ad,
    had, finalizesAt, hend, _, hreached, _, ⟨hlocked, rfl⟩, ok⟩ := ok
  rw [Tx.bind_ok] at ok
  obtain ⟨payout, s₁, hcharge, ok⟩ := ok
  rw [Tx.bind_modify_ok, Tx.bind_ok] at ok
  obtain ⟨⟨⟩, s₂, hpay, ok⟩ := ok
  simp only [Tx.bind_zoom_ok, Tx.modify_ok] at ok
  obtain ⟨_, c₁, hresolve, _, c₂, hsettle, _, c₃, happend, heq⟩ := ok
  cases heq
  obtain ⟨hcounted, rfl⟩ := Escrow.resolve_ok hresolve
  obtain ⟨manager, x, hmanager, hx, rfl⟩ := Escrow.settleBond_ok hsettle
  obtain ⟨x', hx', rfl⟩ := Escrow.appendToMerkle_ok happend
  exact .finalizeDispute hconfig hhash hdisputed hverdict hamount had hend hreached hlocked
    (rulingPaid_ok hcharge hpay) hcounted hmanager hx hx'

theorem finalizeCancel_step {params : OrderParams}
    (ok : finalizeCancel O H env params s = .ok ((), s')) :
    Step O H env s (.finalizeCancel params) .unit s' := by
  unfold finalizeCancel at ok
  simp only [Tx.bind_view_ok, Tx.bind_lift_ok, Tx.bind_modify_ok, getConfig, getAd,
    Check.expect_ok, Check.mapError_ok, Escrow.requireReached, Check.require_ok,
    Check.sub_ok] at ok
  obtain ⟨config, hconfig, orderHash, hhash, t, htiming, ⟨⟩, hfinalizable, amount, hamount, ad, had,
    finalizesAt, hend, _, hreached, _, ⟨hlocked, rfl⟩, ok⟩ := ok
  simp only [Tx.bind_zoom_ok, Tx.modify_ok] at ok
  obtain ⟨_, c₁, hcancel, _, c₂, happend, heq⟩ := ok
  cases heq
  obtain ⟨hcounted, rfl⟩ := Escrow.cancel_ok hcancel
  obtain ⟨x, hx, rfl⟩ := Escrow.appendToMerkle_ok happend
  exact .finalizeCancel hconfig hhash htiming hfinalizable hamount had hend hreached hlocked
    hcounted hx

theorem cancelNeverLocked_step {params : OrderParams} {targetRoot nullifierHash : BytesN32}
    {proof : Bytes}
    (ok : cancelNeverLocked O H env params targetRoot nullifierHash proof s = .ok ((), s')) :
    Step O H env s (.cancelNeverLocked params targetRoot nullifierHash proof) .unit s' := by
  unfold cancelNeverLocked at ok
  simp only [Tx.bind_view_ok, Tx.bind_lift_ok, Tx.bind_read_ok, Tx.bind_require_ok, getConfig,
    Check.expect_ok, Check.mapError_ok, Escrow.requireStatus, Escrow.requireReached,
    Check.require_ok] at ok
  obtain ⟨config, hconfig, orderHash, hhash, _, hnever, _, hdeadline, -, _, -, ⟨⟩, hanchored,
    publicInputs, hinputs, ⟨⟩, hproof, ok⟩ := ok
  simp only [Tx.bind_zoom_ok, Tx.modify_ok] at ok
  obtain ⟨_, c₁, hset, _, c₂, happend, heq⟩ := ok
  cases heq
  cases hset
  obtain ⟨x, hx, rfl⟩ := Escrow.appendToMerkle_ok happend
  exact .cancelNeverLocked hconfig hhash hnever hdeadline hanchored hinputs hproof hx

theorem repinOrder_step {params : OrderParams}
    (ok : repinOrder O H env params s = .ok ((), s')) :
    Step O H env s (.repinOrder params) .unit s' := by
  unfold repinOrder at ok
  simp only [Tx.bind_view_ok, Tx.bind_lift_ok, Tx.bind_read_ok, Tx.bind_require_ok,
    Tx.bind_expect_ok, Tx.bind_expectTrap_ok, getConfig, Check.expect_ok, Check.mapError_ok] at ok
  obtain ⟨config, hconfig, orderHash, hhash, hopened, t, htiming, hcutoff, registry, hregistry,
    consent, hconsent, ⟨-, hfrom⟩, -, ok⟩ := ok
  simp only [Tx.bind_zoom_ok, Tx.modify_ok] at ok
  obtain ⟨_, c₁, hset, heq⟩ := ok
  cases heq
  cases hset
  exact .repinOrder hconfig hhash hopened htiming hcutoff hregistry hconsent hfrom

theorem presentSettled_step {params : OrderParams} {targetRoot : BytesN32} {proof : Bytes}
    (ok : presentSettled O H env params targetRoot proof s = .ok ((), s')) :
    Step O H env s (.presentSettled params targetRoot proof) .unit s' := by
  unfold presentSettled at ok
  simp only [Tx.bind_view_ok, Tx.bind_lift_ok, getConfig, Check.expect_ok, Check.mapError_ok,
    Escrow.requirePresentable, Check.require_ok] at ok
  obtain ⟨config, hconfig, orderHash, hhash, _, hlive, ⟨⟩, hanchored, ⟨⟩, hproof, ok⟩ := ok
  rw [Tx.bind_ok] at ok
  obtain ⟨⟨⟩, s₁, hclose, ok⟩ := ok
  rw [Tx.bind_ok] at ok
  obtain ⟨⟨⟩, s₂, hfill, hpay⟩ := ok
  exact .presentSettled hconfig hhash hlive hanchored hproof (filled_ok hclose hfill hpay)

theorem recordSettled_step {params : OrderParams}
    (ok : recordSettled O H env params s = .ok ((), s')) :
    Step O H env s (.recordSettled params) .unit s' := by
  unfold recordSettled at ok
  simp only [Tx.bind_view_ok, Tx.bind_lift_ok, getConfig, Check.expect_ok] at ok
  obtain ⟨config, hconfig, orderHash, hhash, ok⟩ := ok
  obtain ⟨_, c₁, hrecord, heq⟩ := Tx.zoom_ok.mp ok
  cases heq
  obtain ⟨x, hfilled, hnew, hx, rfl⟩ := Escrow.recordSettled_ok hrecord
  exact .recordSettled hconfig hhash hfilled hnew hx

theorem claim_step {recipient token : BytesN32}
    (ok : claim O H env recipient token s = .ok ((), s')) :
    Step O H env s (.claim recipient token) .unit s' := by
  unfold claim at ok
  simp only [Tx.bind_view_ok, getConfig, Check.expect_ok] at ok
  obtain ⟨config, hconfig, ok⟩ := ok
  obtain ⟨_, c₁, hclaim, heq⟩ := Tx.zoom_ok.mp ok
  cases heq
  obtain ⟨x, howed, hx, rfl⟩ := Escrow.claim_ok hclaim
  exact .claim hconfig howed hx

/-- Every accepted call is a step. -/
theorem step_of_exec {call : Call} {ret : Ret} (ok : exec O H env call s = .ok (ret, s')) :
    Step O H env s call ret s' := by
  by_cases hcall : call.administrative = true
  · exact .admin hcall (frame_of_exec hcall ok)
  -- what is left are the ads and the orders, one entry point each
  cases call <;> simp only [Call.administrative, not_true_eq_false] at hcall <;>
    simp only [exec, Tx.answer_ok] at ok <;> obtain ⟨a, ok, rfl⟩ := ok
  case createAd => exact createAd_step ok
  case setSettlementSigner => exact setSettlementSigner_step ok
  case fundAd => exact fundAd_step ok
  case withdrawFromAd => exact withdrawFromAd_step ok
  case closeAd => exact closeAd_step ok
  case lockForOrder => exact lockForOrder_step ok
  case unlock => exact unlock_step ok
  case claimCancel => exact claimCancel_step ok
  case dispute => exact dispute_step ok
  case respondToDispute => exact respondToDispute_step ok
  case finalizeDispute => exact finalizeDispute_step ok
  case finalizeCancel => exact finalizeCancel_step ok
  case cancelNeverLocked => exact cancelNeverLocked_step ok
  case repinOrder => exact repinOrder_step ok
  case presentSettled => exact presentSettled_step ok
  case recordSettled => exact recordSettled_step ok
  case claim => exact claim_step ok

end AdManager
end ProofBridge
