import ProofBridge.AdManager.LedgerRuns
import ProofBridge.Core.Money

/-!
# Solvency

For every token, the native marker and the wrapped native token being one, what the contract was
asked to hold is what its ads say they hold plus what it owes in credits. Every payout out of an ad
splits the locked amount into the taker's net, the LP's fee and the protocol's fee, and charges a
protocol fee only where a pool takes it.
-/

namespace ProofBridge
namespace AdManager

open ContractLib

variable {X : Type} {O : Outside X} {H : Host} {env : Env} {s s' : Chain X}
  {outside : X → X → Prop}

/-- What an ad says it holds of `asset`. -/
def adWorth (wNative asset : Address) (_ : AdId) (ad : Ad) : ℕ :=
  worth wNative asset ad.token ad.balance

/-- What the ads say they hold of `asset`, under either spelling of it. -/
def adsIn (wNative asset : Address) (s : Chain X) : ℕ := Map.total (adWorth wNative asset) s.ads

theorem adsIn_set (wNative asset : Address) {adId : AdId} {ad ad' : Ad}
    (had : s.ads.get? adId = some ad) (hads : s'.ads = s.ads.set adId ad') :
    adsIn wNative asset s' + adWorth wNative asset adId ad
      = adsIn wNative asset s + adWorth wNative asset adId ad' := by
  have htotal := Map.total_set (adWorth wNative asset) s.ads adId ad'
  rw [Map.weightAt_of_get? had, ← hads] at htotal
  exact htotal

theorem adsIn_new (wNative asset : Address) {adId : AdId} {ad : Ad}
    (hnew : s.ads.get? adId = none) (hads : s'.ads = s.ads.set adId ad) :
    adsIn wNative asset s' = adsIn wNative asset s + adWorth wNative asset adId ad := by
  have htotal := Map.total_set_of_none (f := adWorth wNative asset) (v := ad) hnew
  rw [← hads] at htotal
  exact htotal

/-- The books balance: what is free of each token is what the ads say they hold of it. -/
structure Solvent (P : ExactTokens O.toTokens H.address) (wNative : Address) (s : Chain X) :
    Prop where
  balanced : ∀ asset, free P wNative asset s.core = adsIn wNative asset s
  credits : CreditsFit s.core.ledger

/-! ## The split of a payout -/

theorem Charged.protocol_eq {ad : Ad} {params : OrderParams} {amount : ℕ} {forfeit : Bool}
    {lpFee protocolFee : ℕ} (h : Charged ad params amount forfeit lpFee protocolFee) :
    protocolFee = amount * params.protocolFeeBps.toNat / 10000 := by
  have hsplit := h.split
  simp only [splitFee, Check.bind_ok, Check.pure_ok, Prod.mk.injEq] at hsplit
  obtain ⟨_, -, _, hprot, -, rfl⟩ := hsplit
  exact bpsOf_ok hprot

/-- A protocol fee is only charged where a pool takes it. -/
theorem Charged.pooled {ad ad' : Ad} {params : OrderParams} {amount amount' : ℕ} {forfeit : Bool}
    {lpFee protocolFee : ℕ} (h : Charged ad params amount forfeit lpFee protocolFee)
    (hbacked : Backed s params ad' amount') (hfee : protocolFee ≠ 0) :
    s.fees.pool.isSome = true := by
  rcases hbacked.fees.2.2 with hzero | hpool
  · rw [h.protocol_eq, hzero] at hfee
    simp at hfee
  · exact hpool

/-- What a net payment and its fee take out of what is free. -/
theorem free_netPaid {P : ExactTokens O.toTokens H.address} (asset : Address) {wNative : Address}
    {pool : Option BytesN32} {recipient token : BytesN32} {net fee : ℕ} {c c' : Core X}
    (hw : net + fee < 2 ^ 128) (hpool : fee ≠ 0 → pool.isSome = true)
    (h : NetPaid O H env wNative pool recipient token net fee c c') :
    free P wNative asset c' = free P wNative asset c - worth wNative asset token (net + fee) := by
  obtain ⟨hnet, hfee⟩ := h
  have hfirst := free_paid (P := P) asset (by omega) hnet
  rw [worth_add]
  cases hfee with
  | nothing hnone =>
    -- without a pool there was no fee either
    have hzero : fee = 0 := by
      by_contra hne
      have hsome := hpool hne
      rcases hnone with hnone | hnone
      · rw [hnone] at hsome
        cases hsome
      · exact hne hnone
    rw [hfirst, hzero]
    simp [worth]
  | paid hrecipient hne hpaid =>
    have hsecond := free_paid (P := P) asset (by omega) hpaid
    rw [hsecond, hfirst]
    push_cast
    omega

theorem NetPaid.creditsFit {wNative : Address} {pool : Option BytesN32}
    {recipient token : BytesN32} {net fee : ℕ} {c c' : Core X}
    (h : NetPaid O H env wNative pool recipient token net fee c c')
    (hfit : CreditsFit c.ledger) : CreditsFit c'.ledger := by
  obtain ⟨hnet, hfee⟩ := h
  cases hfee with
  | nothing hnone => exact hfit.paid hnet
  | paid hrecipient hne hpaid => exact (hfit.paid hnet).paid hpaid

/-! ## One step -/

section Step

variable {P : ExactTokens O.toTokens H.address} {wNative : Address}

/-- A move that touches no ad, no credit and no token. -/
theorem Solvent.frame (h : Solvent P wNative s) (hads : s'.ads = s.ads)
    (hclaimable : s'.core.ledger.claimable = s.core.ledger.claimable)
    (hnet : ∀ t, P.net s'.core.outside t = P.net s.core.outside t) : Solvent P wNative s' where
  balanced asset := by
    have hads' : adsIn wNative asset s' = adsIn wNative asset s := by
      unfold adsIn
      rw [hads]
    rw [free_congr (hnet asset) hclaimable, hads']
    exact h.balanced asset
  credits := h.credits.of_eq hclaimable

/-- A move of one ad: its balance changes by what is free. -/
theorem Solvent.setAd (h : Solvent P wNative s) {adId : AdId} {ad ad' : Ad}
    (had : s.ads.get? adId = some ad) (hads : s'.ads = s.ads.set adId ad')
    (htoken : ad'.token = ad.token) (hcredits : CreditsFit s'.core.ledger)
    (hfree : ∀ asset, free P wNative asset s'.core + worth wNative asset ad.token ad.balance
      = free P wNative asset s.core + worth wNative asset ad.token ad'.balance) :
    Solvent P wNative s' where
  balanced asset := by
    have hset := adsIn_set wNative asset had hads
    have hbefore := h.balanced asset
    have hmove := hfree asset
    unfold adWorth at hset
    rw [htoken] at hset
    omega
  credits := hcredits

/-- What leaves the balance is worth what is free of it. -/
theorem worth_sub (wNative asset : Address) (token : BytesN32) {balance out : ℕ} (h : out ≤ balance) :
    worth wNative asset token (balance - out) + worth wNative asset token out
      = worth wNative asset token balance := by
  rw [← worth_add, Nat.sub_add_cancel h]

/-- The net and the fee of a payout are what leaves the ad. -/
theorem Solvent.paidOut (h : Solvent P wNative s) {params : OrderParams} {ad : Ad} {amount : ℕ}
    {forfeit : Bool} {lpFee protocolFee : ℕ} {recipient : BytesN32} {c c' : Core X}
    (hpayable : Payable s params ad amount)
    (hcharged : Charged ad params amount forfeit lpFee protocolFee)
    (hnet : ∀ t, P.net c.outside t = P.net s.core.outside t)
    (hclaimable : c.ledger.claimable = s.core.ledger.claimable)
    (hpaid : NetPaid O H env wNative s.fees.pool recipient ad.token
      (amount - lpFee - protocolFee) protocolFee c c')
    (hcore : s'.core = c')
    (hads : s'.ads = s.ads.set params.adId (ad.release amount (amount - lpFee))) :
    Solvent P wNative s' := by
  have hfits := hpayable.fits
  have hout := hcharged.out_le
  have hprot := hcharged.protocol_le
  have hsum : amount - lpFee - protocolFee + protocolFee = amount - lpFee := by omega
  have hfit := h.credits.of_eq hclaimable
  refine h.setAd hpayable.lookup hads rfl (hcore ▸ hpaid.creditsFit hfit) fun asset => ?_
  have hpool := hcharged.pooled hpayable.toBacked
  have hfree := free_netPaid (P := P) asset (by omega) hpool hpaid
  have hsame : free P wNative asset c = free P wNative asset s.core :=
    free_congr (hnet asset) hclaimable
  have hworth := worth_sub wNative asset ad.token hout
  rw [hcore, hfree, hsame, hsum]
  show _ = free P wNative asset s.core
    + ((worth wNative asset ad.token (ad.balance - (amount - lpFee)) : ℕ) : ℤ)
  omega

/-- A fill keeps the books balanced. -/
theorem Solvent.filled (h : Solvent P wNative s) (hoff : HandsOff O P outside)
    {config : ContractConfig} (hwNative : config.wNativeToken = wNative) {params : OrderParams}
    {orderHash : BytesN32} {byEvidence : Bool} {ad : Ad} {amount : ℕ}
    (hpayable : Payable s params ad amount)
    (hfilled : Filled O H env config params orderHash byEvidence s s') : Solvent P wNative s' := by
  obtain ⟨hclosed, hcounted, hamount, had, hlocked, hcharged, hpaid⟩ := hfilled
  obtain rfl := Option.some.inj (had.symm.trans hpayable.lookup)
  obtain rfl := Except.ok.inj (hamount.symm.trans hpayable.worth)
  subst hwNative
  refine h.paidOut hpayable hcharged ?_ ?_ hpaid rfl rfl
  · -- closing the dispute moved nothing of ours
    cases hclosed with
    | nothing => exact fun _ => rfl
    | settled hflags hmanager hsettle => exact hoff.settleBond hsettle
  · rfl

/-- A ruling's pay-out keeps the books balanced: a maker forfeit pays out of the lock it releases,
and every other outcome leaves the lock in the ad. -/
theorem Solvent.ruled (h : Solvent P wNative s) {config : ContractConfig}
    (hwNative : config.wNativeToken = wNative) {params : OrderParams} {orderHash : BytesN32}
    {outcome : DisputeOutcome} {ad : Ad} {amount : ℕ} (hpayable : Payable s params ad amount)
    (hruled : RulingPaid O H env config params orderHash outcome amount ad s s') :
    Solvent P wNative s' := by
  subst hwNative
  cases hruled with
  | released houtcome => exact h.setAd hpayable.lookup rfl rfl h.credits fun _ => rfl
  | forfeited houtcome hcharged hpaid =>
    rw [hpayable.token] at hpaid
    refine h.paidOut hpayable hcharged ?_ ?_ hpaid rfl rfl
    · exact fun _ => rfl
    · rfl

/-- An accepted call keeps the books balanced. -/
theorem Solvent.step (h : Solvent P wNative s) (hoff : HandsOff O P outside) {chainId : U128}
    {orders : List (BytesN32 × OrderParams)} {known : List OrderParams} {call : Call} {ret : Ret}
    (hlocks : Locks H chainId orders s)
    (hconfig : ∀ config, s.core.settings.config = some config →
      config.chainId = chainId ∧ config.wNativeToken = wNative)
    (hcollision : CollisionFree H chainId known) (hsub : ∀ e ∈ orders, e.2 ∈ known)
    (hparams : ∀ params, call.params? = some params → params ∈ known)
    (hself : env.authorized H.address = false) (hstep : Step O H env s call ret s') :
    Solvent P wNative s' := by
  have hother : ∀ a, env.authorized a = true → a ≠ H.address := by
    rintro a ha rfl
    rw [hself] at ha
    cases ha
  have hpayable : ∀ {params orderHash config}, call.params? = some params →
      s.core.settings.config = some config → hashOrder H params config.chainId = .ok orderHash →
      s.live orderHash = true → ∃ ad amount, Payable s params ad amount := by
    intro params orderHash config hp hc hhash hlive
    rw [(hconfig _ hc).1] at hhash
    exact hlocks.payable (hlocks.entry hcollision hsub (hparams _ hp) hhash hlive) hlive
  cases hstep with
  | admin hcall hframe =>
    refine h.frame hframe.ads ?_ fun t => ?_
    · rw [hframe.ledger]
    · rw [hframe.outside]
  | @createAd creator adId adToken initialAmount orderChainId adRecipient settlementSigner config
      routed x hc hroute hnew hauth hregistered hpull =>
    have hwNative := (hconfig _ hc).2
    subst hwNative
    refine ⟨fun asset => ?_, h.credits⟩
    have hfree := free_pull (P := P) asset { s.core with outside := x }
      (hother _ hauth) (BitVec.isLt _) hpull rfl rfl
    rw [adsIn_new _ asset hnew rfl, Nat.cast_add, ← h.balanced asset]
    exact hfree
  | setSettlementSigner had hauth hregistered =>
    exact h.setAd had rfl rfl h.credits fun _ => rfl
  | @fundAd adId amount config ad x hc had hopen hauth hpull hfit =>
    have hwNative := (hconfig _ hc).2
    subst hwNative
    refine h.setAd had rfl rfl h.credits fun asset => ?_
    have hfree := free_pull (P := P) asset { s.core with outside := x }
      (hother _ hauth) (BitVec.isLt _) hpull rfl rfl
    show free P config.wNativeToken asset { s.core with outside := x } + _ = _
    rw [hfree, worth_add]
    push_cast
    omega
  | @withdrawFromAd adId amount payee config ad x hc had havailable hauth hpush =>
    have hwNative := (hconfig _ hc).2
    subst hwNative
    refine h.setAd had rfl rfl h.credits fun asset => ?_
    have hfree := free_push (P := P) asset { s.core with outside := x }
      (BitVec.isLt _) hpush rfl rfl
    have hworth := worth_sub config.wNativeToken asset ad.token
      (havailable.trans (Nat.sub_le _ _))
    show free P config.wNativeToken asset { s.core with outside := x } + _
      = _ + ((worth config.wNativeToken asset ad.token (ad.balance - amount.toNat) : ℕ) : ℤ)
    rw [hfree]
    omega
  | @closeAd adId payee config ad x hc had hlocked hauth hpush =>
    have hwNative := (hconfig _ hc).2
    subst hwNative
    refine h.setAd had rfl rfl h.credits fun asset => ?_
    have hzero : worth config.wNativeToken asset ad.token 0 = 0 := by simp [worth]
    show free P config.wNativeToken asset { s.core with outside := x } + _
      = _ + ((worth config.wNativeToken asset ad.token 0 : ℕ) : ℤ)
    rcases hpush with ⟨hbalance, rfl⟩ | hpush
    · rw [hbalance]
    · have hfree := free_push (P := P) asset { s.core with outside := x }
        (hlocks.ads _ _ had).fits hpush rfl rfl
      rw [hfree, hzero]
      omega
  | @lockForOrder params signerSlot config ad timingVersion amount orderHash anchorDelay x hc had
      hchecks hauth hhash hnew hdelay hfit happend =>
    refine h.setAd had rfl rfl h.credits fun asset => ?_
    have hsame : free P wNative asset { s.core with outside := x } = free P wNative asset s.core :=
      free_congr (hoff.append happend asset) rfl
    exact congrArg (· + _) hsame
  | @unlock params nullifierHash targetRoot proof cosigData config orderHash t ad publicInputs s₁ s₂
      hc hhash hlive hnullifier htiming hcutoff had hhalt hroot hinputs hproof hspent hfilled =>
    obtain ⟨ad, amount, hp⟩ := hpayable rfl hc hhash hlive
    subst hspent
    have hspend : Solvent P wNative { s with core := { s.core with ledger := { s.core.ledger with
        nullifiers := s.core.ledger.nullifiers.set nullifierHash true } } } :=
      h.frame rfl rfl (fun _ => rfl)
    have hfill := hspend.filled hoff (hconfig _ hc).2 (hp.spend nullifierHash) hfilled
    exact hfill.frame rfl rfl (fun _ => rfl)
  | claimCancel => exact h.frame rfl rfl (fun _ => rfl)
  | @dispute params filer evidence config orderHash ad amount bond t manager x hc hhash had hparty
      hamount hdisputable hmanager hopen =>
    -- the filer is the ad's maker or an account, never this contract
    have hfiler : filer ≠ H.address := by
      unfold requireParty at hparty
      split at hparty
      · next heq =>
        rw [heq]
        exact (hlocks.ads _ _ had).maker
      · simp only [Check.bind_ok, Check.mapError_ok, Check.require_ok,
          bytes32ToAccountAddress] at hparty
        obtain ⟨bridger, hbridger, rfl⟩ := hparty
        split at hbridger
        · cases hbridger
        · cases hbridger
          exact Address.noConfusion
    exact h.frame rfl rfl (hoff.openDispute hfiler hopen)
  | respondToDispute hc hhash hdisputed had hparty hmanager hrespond =>
    exact h.frame rfl rfl (hoff.recordResponse hrespond)
  | @finalizeDispute params config orderHash verdict amount finalizesAt ad s₁ manager x₁ x₂ hc hhash
      hdisputed hverdict hamount had hend hreached hlocked hpaid hcounted hmanager hsettle
      happend =>
    obtain ⟨ad', amount', hp⟩ := hpayable rfl hc hhash (by simp [Chain.live, hdisputed, Status.live])
    obtain rfl : amount = amount' := Except.ok.inj (hamount.symm.trans hp.worth)
    obtain rfl : ad = ad' := Option.some.inj (had.symm.trans hp.lookup)
    have hruled := h.ruled (hconfig _ hc).2 hp hpaid
    refine hruled.frame rfl rfl fun t => ?_
    exact (hoff.append happend t).trans (hoff.settleBond hsettle t)
  | finalizeCancel hc hhash htiming hfinalizable hamount had hend hreached hlocked hcounted
      happend =>
    refine h.setAd had rfl rfl h.credits fun asset => ?_
    exact congrArg (· + _) (free_congr (hoff.append happend asset) rfl)
  | cancelNeverLocked hc hhash hnever hdeadline hanchored hinputs hproof happend =>
    exact h.frame rfl rfl (hoff.append happend)
  | repinOrder => exact h.frame rfl rfl (fun _ => rfl)
  | presentSettled hc hhash hlive hanchored hproof hfilled =>
    obtain ⟨ad, amount, hp⟩ := hpayable rfl hc hhash hlive
    exact h.filled hoff (hconfig _ hc).2 hp hfilled
  | recordSettled hc hhash hfilled hnew happend => exact h.frame rfl rfl (hoff.append happend)
  | @claim recipient token config x hc howed hpush =>
    have hwNative := (hconfig _ hc).2
    subst hwNative
    refine ⟨fun asset => ?_, h.credits.remove rfl⟩
    have hbefore := h.balanced asset
    have hclaimed := free_claim (P := P) asset { s.core with
      outside := x
      ledger := { s.core.ledger with
        claimable := s.core.ledger.claimable.remove (recipient, token) } }
      (h.credits _ _) hpush rfl rfl
    rw [← hclaimed] at hbefore
    exact hbefore

end Step

/-! ## Whole runs -/

/-- The books balance in every reachable state. -/
theorem solvent_of_run {P : ExactTokens O.toTokens H.address} (hoff : HandsOff O P outside) {x : X}
    (hstart : ∀ t, P.net x t = 0) {history : History} {chainId : U128} {wNative : Address}
    {known : List OrderParams} (run : Run (system O H outside) (Chain.fresh x) history s)
    (hconfig : ∀ config, s.core.settings.config = some config →
      config.chainId = chainId ∧ config.wNativeToken = wNative)
    (hcollision : CollisionFree H chainId known) (hknown : ordersOf history ⊆ known) :
    Solvent P wNative s := by
  refine Run.invariant (I := fun history s =>
    (∀ config, s.core.settings.config = some config →
      config.chainId = chainId ∧ config.wNativeToken = wNative) →
    ordersOf history ⊆ known → Solvent P wNative s) ?_ ?_ ?_ run hconfig hknown
  · intro _ _
    refine ⟨fun asset => ?_, fun _ _ => Nat.two_pow_pos _⟩
    show P.net x asset - 0 = 0
    rw [hstart, sub_zero]
  · rintro history s ⟨env, call⟩ ret s' run ih hadmits ok hconfig hknown
    have hsound := sound_of_run run
    have hstep := step_of_exec ok
    have hgrows := (settings_of_step hstep hsound).2
    -- a config that stands now stands in every later state, up to its admin
    have hconfig' : ∀ config, s.core.settings.config = some config →
        config.chainId = chainId ∧ config.wNativeToken = wNative := by
      intro config hc
      obtain ⟨admin, hc'⟩ := hgrows.settings.config config hc
      exact hconfig { config with admin } hc'
    have hbefore : ordersOf history ⊆ known := fun params hmem => hknown (ordersOf_cons hmem)
    have hlocks := locks_of_run run (fun config hc => (hconfig' config hc).1) hcollision hbefore
    have hparams : ∀ params, call.params? = some params → params ∈ known :=
      fun params hp => hknown (mem_ordersOf_head hp)
    exact (ih hconfig' hbefore).step hoff hlocks hconfig' hcollision
      (fun e he => hbefore (mem_ordersOf_of_mem_book he)) hparams hadmits hstep
  · rintro history s s' run ih ⟨x', hmoved, rfl⟩ hconfig hknown
    exact (ih hconfig hknown).frame rfl rfl (hoff.outside hmoved)

end AdManager
end ProofBridge
