import ProofBridge.OrderPortal.Deposits
import ProofBridge.Core.Money

/-!
# Conservation

What the portal was asked to hold of a token is what its open orders deposited plus what it owes in
credits. Four exits compete for one deposit: whichever is taken closes the order, so a deposit is
paid once, and a nullifier once spent admits no second fill.
-/

namespace ProofBridge
namespace OrderPortal

open ContractLib

variable {X : Type} {O : Outside X} {H : Host} {env : Env} {s s' : Chain X}
  {outside : X → X → Prop}

/-! ## Counting the exits of a run -/

/-- The order an exit closes and the side it pays: the maker on a fill, the bridger on a refund. -/
def Call.payout : Call → Option (OrderParams × BytesN32)
  | .unlock params .. | .presentSettled params .. | .payMakerByForfeit params .. =>
    some (params, params.adRecipient)
  | .refundByCancel params .. => some (params, params.bridger)
  | _ => none

/-- The call is an exit of the order `orderHash`. -/
def Call.pays (H : Host) (chainId : U128) (orderHash : BytesN32) (call : Call) : Bool :=
  match call.payout with
  | none => false
  | some payout =>
    match hashOrder H payout.1 chainId with
    | .ok k => k = orderHash
    | .error _ => false

/-- The call fills an order with the nullifier. -/
def Call.spends (nullifierHash : BytesN32) : Call → Bool
  | .unlock _ spent .. => spent = nullifierHash
  | _ => false

/-- How many times a run paid an order out. -/
def payouts (H : Host) (chainId : U128) (orderHash : BytesN32) (history : History) : ℕ :=
  history.countP fun e => e.1.2.pays H chainId orderHash

/-- How many fills of a run spent a nullifier. -/
def fillsWith (nullifierHash : BytesN32) (history : History) : ℕ :=
  history.countP fun e => e.1.2.spends nullifierHash

theorem Call.pays_of_payout {chainId : U128} {call : Call} {params : OrderParams}
    {recipient orderHash : BytesN32} (hpayout : call.payout = some (params, recipient))
    (hhash : hashOrder H params chainId = .ok orderHash) (k : BytesN32) :
    call.pays H chainId k = decide (orderHash = k) := by
  unfold Call.pays
  simp only [hpayout, hhash]

theorem Call.pays_of_none {chainId : U128} {call : Call} (hpayout : call.payout = none)
    (k : BytesN32) : call.pays H chainId k = false := by
  unfold Call.pays
  simp only [hpayout]

/-- An order was paid out once if it has ended, and a nullifier spent once if it is used. -/
structure Tally (H : Host) (chainId : U128) (history : History) (s : Chain X) : Prop where
  paid : ∀ orderHash, payouts H chainId orderHash history
    = if (s.core.ledger.status orderHash).terminal then 1 else 0
  spent : ∀ nullifierHash, fillsWith nullifierHash history
    = if s.core.ledger.isNullifierUsed nullifierHash then 1 else 0

namespace Tally

variable {chainId : U128} {history : History} {call : Call} {ret : Ret}

/-- A call that is no exit ends no order. -/
theorem frame (h : Tally H chainId history s) (hpayout : call.payout = none)
    (hspends : ∀ n, call.spends n = false)
    (hended : ∀ k, (s'.core.ledger.status k).terminal = (s.core.ledger.status k).terminal)
    (hnullifiers : s'.core.ledger.nullifiers = s.core.ledger.nullifiers) :
    Tally H chainId (((env, call), ret) :: history) s' where
  paid k := by
    unfold payouts
    rw [List.countP_cons, Call.pays_of_none hpayout, hended]
    exact h.paid k
  spent n := by
    have hused : s'.core.ledger.isNullifierUsed n = s.core.ledger.isNullifierUsed n := by
      unfold Ledger.isNullifierUsed
      rw [hnullifiers]
    unfold fillsWith
    rw [List.countP_cons, hspends, hused]
    exact h.spent n

/-- An exit ends its order, which had not ended. -/
theorem paid_exit (h : Tally H chainId history s) {params : OrderParams}
    {recipient orderHash : BytesN32} {rec : OrderRecord}
    (hpayout : call.payout = some (params, recipient))
    (hhash : hashOrder H params chainId = .ok orderHash)
    (hlive : (s.core.ledger.status orderHash).live = true) (hrec : rec.status.terminal = true)
    (horders : s'.core.ledger.orders = s.core.ledger.orders.set orderHash rec) (k : BytesN32) :
    payouts H chainId k (((env, call), ret) :: history)
      = if (s'.core.ledger.status k).terminal then 1 else 0 := by
  have hstatus := Ledger.status_of_set horders
  have hbefore := h.paid k
  unfold payouts at hbefore ⊢
  rw [List.countP_cons, hbefore, Call.pays_of_payout hpayout hhash, hstatus]
  by_cases heq : k = orderHash
  · subst heq
    have hnot : (s.core.ledger.status k).terminal = false := by
      cases hs : s.core.ledger.status k <;> simp_all [Status.live, Status.terminal]
    simp [hnot, hrec]
  · simp [heq, Ne.symm heq]

/-- An exit on evidence spends no nullifier. -/
theorem exit (h : Tally H chainId history s) {params : OrderParams}
    {recipient orderHash : BytesN32} {rec : OrderRecord}
    (hpayout : call.payout = some (params, recipient)) (hspends : ∀ n, call.spends n = false)
    (hhash : hashOrder H params chainId = .ok orderHash)
    (hlive : (s.core.ledger.status orderHash).live = true) (hrec : rec.status.terminal = true)
    (horders : s'.core.ledger.orders = s.core.ledger.orders.set orderHash rec)
    (hnullifiers : s'.core.ledger.nullifiers = s.core.ledger.nullifiers) :
    Tally H chainId (((env, call), ret) :: history) s' where
  paid := h.paid_exit hpayout hhash hlive hrec horders
  spent n := by
    have hused : s'.core.ledger.isNullifierUsed n = s.core.ledger.isNullifierUsed n := by
      unfold Ledger.isNullifierUsed
      rw [hnullifiers]
    unfold fillsWith
    rw [List.countP_cons, hspends, hused]
    exact h.spent n

/-- The terminal statuses move only where an exit sets one. -/
theorem step (h : Tally H chainId history s)
    (hchain : ∀ config, s.core.settings.config = some config → config.chainId = chainId)
    (hstep : Step O H env s call ret s') : Tally H chainId (((env, call), ret) :: history) s' := by
  cases hstep with
  | admin hcall honly =>
    refine h.frame ?_ ?_ (fun k => by rw [honly.ledger]) (by rw [honly.ledger])
    · cases call <;> first | rfl | cases hcall
    · intro n
      cases call <;> first | rfl | cases hcall
  | createOrder hconfig hvalid hdecimals hwindow hhash hnew =>
    refine h.frame rfl (fun _ => rfl) (fun k => ?_) rfl
    rw [Ledger.status_of_set rfl]
    split
    · next heq =>
      rw [heq, hnew]
      rfl
    · rfl
  | @unlock params nullifierHash targetRoot proof cosigData config orderHash t publicInputs s₁ s₂
      hconfig hhash hopened hnullifier htiming hcutoff hinputs hroot hproof hspent hexit =>
    rw [hchain _ hconfig] at hhash
    obtain ⟨x, claimable, events, hs₂⟩ := hexit.frame
    have hlive : (s.core.ledger.status orderHash).live = true := by rw [hopened]; rfl
    have horders : s₂.core.ledger.orders = s.core.ledger.orders.set orderHash
        { s.core.ledger.getOrder orderHash with status := .filled } := by
      rw [hs₂, hspent]
      rfl
    have hnullifiers : s₂.core.ledger.nullifiers
        = s.core.ledger.nullifiers.set nullifierHash true := by
      rw [hs₂, hspent]
      rfl
    refine ⟨h.paid_exit rfl hhash hlive rfl horders, fun n => ?_⟩
    have hbefore := h.spent n
    have hused := Ledger.isNullifierUsed_of_set hnullifiers n
    unfold fillsWith at hbefore ⊢
    rw [List.countP_cons, hbefore]
    show _ = if s₂.core.ledger.isNullifierUsed n then 1 else 0
    rw [hused]
    by_cases heq : n = nullifierHash
    · subst heq
      simp [Call.spends, hnullifier]
    · simp [Call.spends, heq, Ne.symm heq]
  | refundByCancel hconfig hhash hevidence hexit =>
    rw [hchain _ hconfig] at hhash
    obtain ⟨x, claimable, events, rfl⟩ := hexit.frame
    exact h.exit rfl (fun _ => rfl) hhash hevidence.live rfl rfl rfl
  | presentSettled hconfig hhash hevidence hexit =>
    rw [hchain _ hconfig] at hhash
    obtain ⟨x, claimable, events, rfl⟩ := hexit.frame
    exact h.exit rfl (fun _ => rfl) hhash hevidence.live rfl rfl rfl
  | payMakerByForfeit hconfig hhash hevidence hmarked hexit =>
    rw [hchain _ hconfig] at hhash
    obtain ⟨x, claimable, events, rfl⟩ := hexit.frame
    subst hmarked
    exact h.exit rfl (fun _ => rfl) hhash hevidence.live rfl rfl rfl
  | recordSettled => exact h.frame rfl (fun _ => rfl) (fun _ => rfl) rfl
  | claim => exact h.frame rfl (fun _ => rfl) (fun _ => rfl) rfl

end Tally

/-! ## Conservation -/

/-- What an order deposited of `asset`. -/
def depositWorth (wNative asset : Address) (params : OrderParams) : ℕ :=
  worth wNative asset params.orderChainToken params.amount.toNat

/-- What the open orders deposited of `asset`, under either spelling of it. -/
def depositsIn (wNative asset : Address) (orders : List (BytesN32 × OrderParams)) (s : Chain X) :
    ℕ :=
  liveTotal s.holds (depositWorth wNative asset) orders

/-- The books balance: what is free of each token is what the open orders deposited of it. -/
structure Conserved (P : ExactTokens O.toTokens H.address) (wNative : Address)
    (orders : List (BytesN32 × OrderParams)) (s : Chain X) : Prop where
  balanced : ∀ asset, free P wNative asset s.core = depositsIn wNative asset orders s
  credits : CreditsFit s.core.ledger

namespace Conserved

variable {P : ExactTokens O.toTokens H.address} {wNative : Address}
  {orders : List (BytesN32 × OrderParams)}

/-- A move that touches no order, no credit and no token. -/
theorem frame (h : Conserved P wNative orders s)
    (horders : s'.core.ledger.orders = s.core.ledger.orders)
    (hclaimable : s'.core.ledger.claimable = s.core.ledger.claimable)
    (hnet : ∀ t, P.net s'.core.outside t = P.net s.core.outside t) :
    Conserved P wNative orders s' where
  balanced asset := by
    have hstatus := Ledger.status_of_eq horders
    have hholds : s'.holds = s.holds := funext fun k => by simp [Chain.holds, hstatus]
    have hsame : depositsIn wNative asset orders s' = depositsIn wNative asset orders s := by
      unfold depositsIn
      rw [hholds]
    rw [free_congr (hnet asset) hclaimable, hsame]
    exact h.balanced asset
  credits := h.credits.of_eq hclaimable

/-- An exit pays out exactly what its order deposited. -/
theorem exited {chainId : U128} (h : Conserved P wNative orders s)
    (hdeposits : Deposits H chainId orders s) {config : ContractConfig}
    (hwNative : config.wNativeToken = wNative) {params : OrderParams} {orderHash : BytesN32}
    {status : Status} {recipient : BytesN32} {event : Event} (hmem : (orderHash, params) ∈ orders)
    (hlive : (s.core.ledger.status orderHash).live = true) (hstatus : status.terminal = true)
    (hexit : Exited O H env config params orderHash status recipient event s s') :
    Conserved P wNative orders s' := by
  have horders := hexit.orders
  obtain ⟨hcounted, hpaid⟩ := hexit
  subst hwNative
  refine ⟨fun asset => ?_, CreditsFit.paid ?_ hpaid⟩
  swap
  · exact h.credits.of_eq rfl
  have htotal := hdeposits.exit_total hmem hlive horders hstatus
    (depositWorth config.wNativeToken asset)
  have hfree := free_paid (P := P) asset params.amount.isLt hpaid
  have hbefore := h.balanced asset
  have hsame : free P config.wNativeToken asset { s.core with
      ledger := Escrow.closeOrder orderHash params.bridger status s.core.ledger
      events := event :: s.core.events } = free P config.wNativeToken asset s.core :=
    free_congr rfl rfl
  unfold depositsIn at hbefore ⊢
  rw [hsame] at hfree
  show free P config.wNativeToken asset _ = _
  rw [hfree]
  unfold depositWorth at htotal hbefore ⊢
  omega

/-- An accepted call keeps the books balanced. -/
theorem step {chainId : U128} {history : History} {known : List OrderParams} {call : Call}
    {ret : Ret} (h : Conserved P wNative (book history) s)
    (hdeposits : Deposits H chainId (book history) s) (hoff : HandsOff O P outside)
    (hconfig : ∀ config, s.core.settings.config = some config →
      config.chainId = chainId ∧ config.wNativeToken = wNative)
    (hcollision : CollisionFree H chainId known) (hknown : ordersOf history ⊆ known)
    (hparams : ∀ params, call.params? = some params → params ∈ known)
    (hstep : Step O H env s call ret s') :
    Conserved P wNative (book (((env, call), ret) :: history)) s' := by
  have hsub : ∀ e ∈ book history, e.2 ∈ known := fun e he => hknown (mem_ordersOf_of_mem_book he)
  have hentry : ∀ {params orderHash config}, call.params? = some params →
      s.core.settings.config = some config → hashOrder H params config.chainId = .ok orderHash →
      (s.core.ledger.status orderHash).live = true → (orderHash, params) ∈ book history := by
    intro params orderHash config hp hc hhash hlive
    rw [(hconfig _ hc).1] at hhash
    exact hdeposits.entry hcollision hsub (hparams _ hp) hhash hlive
  cases hstep with
  | admin hcall honly =>
    rw [book_cons_of_none (by cases call <;> cases ret <;> cases hcall <;> rfl)]
    exact h.frame (by rw [honly.ledger]) (by rw [honly.ledger]) (fun t => by rw [honly.outside])
  | @createOrder params config timingVersion orderHash x₁ x₂ hc hvalid hdecimals hwindow hhash hnew
      hauth hpull happend =>
    have hwNative := (hconfig _ hc).2
    subst hwNative
    refine ⟨fun asset => ?_, h.credits⟩
    have hpayer : (.account params.bridger : Address) ≠ H.address := Address.noConfusion
    have hfree := free_pull (P := P) asset { s.core with outside := x₁ } hpayer
      params.amount.isLt hpull rfl rfl
    have happended : free P config.wNativeToken asset { s.core with outside := x₂ }
        = free P config.wNativeToken asset { s.core with outside := x₁ } :=
      free_congr (hoff.append happend asset) rfl
    have htotal := hdeposits.create_total params { s with core := { s.core with
      ledger := { s.core.ledger with
        orders := s.core.ledger.orders.set orderHash
          { status := .opened, lockedAt := env.now, registryEpoch := 0, timingVersion
            anchorDelay := 0, pinnedSlot := 0, repinned := false } } } }
      hnew rfl rfl (depositWorth config.wNativeToken asset)
    have hbefore := h.balanced asset
    show free P config.wNativeToken asset { s.core with outside := x₂ }
      = ((liveTotal _ _ ((orderHash, params) :: book history) : ℕ) : ℤ)
    rw [happended, hfree]
    unfold depositsIn at hbefore
    refine Eq.trans ?_ (congrArg Nat.cast htotal).symm
    unfold depositWorth at hbefore ⊢
    push_cast
    omega
  | @unlock params nullifierHash targetRoot proof cosigData config orderHash t publicInputs s₁ s₂
      hc hhash hopened hnullifier htiming hcutoff hinputs hroot hproof hspent hexit =>
    have hlive : (s.core.ledger.status orderHash).live = true := by rw [hopened]; rfl
    have hmem := hentry rfl hc hhash hlive
    have hbefore : Conserved P wNative (book history) s₁ := by
      subst hspent
      exact h.frame rfl rfl (fun _ => rfl)
    have hbooked : Deposits H chainId (book history) s₁ := by
      subst hspent
      exact hdeposits.frame rfl rfl
    have hafter := hbefore.exited hbooked (hconfig _ hc).2 hmem (by subst hspent; exact hlive) rfl
      hexit
    exact hafter.frame rfl rfl (fun _ => rfl)
  | refundByCancel hc hhash hevidence hexit =>
    have hmem := hentry rfl hc hhash hevidence.live
    have hafter := h.exited hdeposits (hconfig _ hc).2 hmem hevidence.live rfl hexit
    exact hafter.frame rfl rfl (fun _ => rfl)
  | presentSettled hc hhash hevidence hexit =>
    have hmem := hentry rfl hc hhash hevidence.live
    exact h.exited hdeposits (hconfig _ hc).2 hmem hevidence.live rfl hexit
  | @payMakerByForfeit params targetRoot proof config orderHash s₁ s₂ hc hhash hevidence hmarked
      hexit =>
    have hmem := hentry rfl hc hhash hevidence.live
    have hbefore : Conserved P wNative (book history) s₁ := by
      subst hmarked
      exact h.frame rfl rfl (fun _ => rfl)
    have hbooked : Deposits H chainId (book history) s₁ := by
      subst hmarked
      exact hdeposits.frame rfl rfl
    have hafter := hbefore.exited hbooked (hconfig _ hc).2 hmem
      (by subst hmarked; exact hevidence.live) rfl hexit
    exact hafter.frame rfl rfl (fun _ => rfl)
  | recordSettled hc hhash hfilled hnew happend =>
    exact h.frame rfl rfl (hoff.append happend)
  | @claim recipient token config x hc howed hpush =>
    have hwNative := (hconfig _ hc).2
    subst hwNative
    refine ⟨fun asset => ?_, h.credits.remove rfl⟩
    have hfree := free_claim (P := P) asset
      { s.core with
        outside := x
        ledger := { s.core.ledger with
          claimable := s.core.ledger.claimable.remove (recipient, token) } }
      (h.credits recipient token) hpush rfl rfl
    exact hfree.trans (h.balanced asset)

end Conserved

/-! ## One exit -/

/-- An exit closed its open order and paid its exact amount to one side, in one way: everything the
call did to the tokens and the credits is that payment. -/
structure PaidOut (O : Outside X) (H : Host) (env : Env) (wNative : Address)
    (orderHash : BytesN32) (params : OrderParams) (recipient : BytesN32) (s s' : Chain X) :
    Prop where
  opened : s.core.ledger.status orderHash = .opened
  closed : (s'.core.ledger.status orderHash).terminal = true
  paid : ∃ c c', c.outside = s.core.outside ∧ c.ledger.claimable = s.core.ledger.claimable ∧
    Escrow.Paid O H env wNative recipient params.orderChainToken params.amount.toNat c c' ∧
    s'.core.outside = c'.outside ∧ s'.core.ledger.claimable = c'.ledger.claimable

theorem Exited.paidOut {config : ContractConfig} {params : OrderParams} {orderHash : BytesN32}
    {status : Status} {recipient : BytesN32} {event : Event}
    (h : Exited O H env config params orderHash status recipient event s s')
    (hopened : s.core.ledger.status orderHash = .opened) (hstatus : status.terminal = true) :
    PaidOut O H env config.wNativeToken orderHash params recipient s s' := by
  have hframe := h.frame
  obtain ⟨hcounted, hpaid⟩ := h
  refine ⟨hopened, ?_, _, _, ?_, ?_, hpaid, rfl, rfl⟩
  rotate_left
  · rfl
  · rfl
  obtain ⟨x, claimable, events, heq⟩ := hframe
  rw [heq]
  show (Ledger.status _ _).terminal = true
  rw [Ledger.status_of_set (l := s.core.ledger) rfl, if_pos rfl]
  exact hstatus

/-- Every exit pays out one open order of the book. -/
theorem paidOut_of_step {chainId : U128} {wNative : Address}
    {orders : List (BytesN32 × OrderParams)} {known : List OrderParams} {call : Call} {ret : Ret}
    {params : OrderParams} {recipient : BytesN32} (hdeposits : Deposits H chainId orders s)
    (hconfig : ∀ config, s.core.settings.config = some config →
      config.chainId = chainId ∧ config.wNativeToken = wNative)
    (hcollision : CollisionFree H chainId known) (hsub : ∀ e ∈ orders, e.2 ∈ known)
    (hmem : params ∈ known) (hpayout : call.payout = some (params, recipient))
    (hstep : Step O H env s call ret s') :
    ∃ orderHash, (orderHash, params) ∈ orders ∧
      PaidOut O H env wNative orderHash params recipient s s' := by
  cases hstep with
  | admin hcall =>
    cases call <;> simp only [Call.administrative, Bool.false_eq_true] at hcall <;> cases hpayout
  | createOrder => cases hpayout
  | recordSettled => cases hpayout
  | claim => cases hpayout
  | @unlock params nullifierHash targetRoot proof cosigData config orderHash t publicInputs s₁ s₂
      hc hhash hopened hnullifier htiming hcutoff hinputs hroot hproof hspent hexit =>
    cases hpayout
    obtain ⟨hchain, rfl⟩ := hconfig _ hc
    rw [hchain] at hhash
    have hentry := hdeposits.entry hcollision hsub hmem hhash (by rw [hopened]; rfl)
    subst hspent
    obtain ⟨hopen, hclosed, c, c', hout, hclaim, hpaid, hafter⟩ := hexit.paidOut hopened rfl
    exact ⟨orderHash, hentry, hopen, hclosed, c, c', hout, hclaim, hpaid, hafter⟩
  | refundByCancel hc hhash hevidence hexit =>
    cases hpayout
    obtain ⟨hchain, rfl⟩ := hconfig _ hc
    rw [hchain] at hhash
    have hentry := hdeposits.entry hcollision hsub hmem hhash hevidence.live
    obtain ⟨hopen, hclosed, c, c', hout, hclaim, hpaid, hafter⟩ :=
      hexit.paidOut (hdeposits.plain _ hevidence.live) rfl
    exact ⟨_, hentry, hopen, hclosed, c, c', hout, hclaim, hpaid, hafter⟩
  | presentSettled hc hhash hevidence hexit =>
    cases hpayout
    obtain ⟨hchain, rfl⟩ := hconfig _ hc
    rw [hchain] at hhash
    have hentry := hdeposits.entry hcollision hsub hmem hhash hevidence.live
    exact ⟨_, hentry, hexit.paidOut (hdeposits.plain _ hevidence.live) rfl⟩
  | payMakerByForfeit hc hhash hevidence hmarked hexit =>
    cases hpayout
    obtain ⟨hchain, rfl⟩ := hconfig _ hc
    rw [hchain] at hhash
    have hentry := hdeposits.entry hcollision hsub hmem hhash hevidence.live
    subst hmarked
    obtain ⟨hopen, hclosed, c, c', hout, hclaim, hpaid, hafter⟩ :=
      hexit.paidOut (hdeposits.plain _ hevidence.live) rfl
    exact ⟨_, hentry, hopen, hclosed, c, c', hout, hclaim, hpaid, hafter⟩

/-- What is no exit and no claim credits nobody and takes no token out. -/
theorem nothing_paid_of_step {P : ExactTokens O.toTokens H.address} (hoff : HandsOff O P outside)
    {call : Call} {ret : Ret} (hpayout : call.payout = none)
    (hclaim : ∀ recipient token, call ≠ .claim recipient token)
    (hstep : Step O H env s call ret s') :
    s'.core.ledger.claimable = s.core.ledger.claimable ∧
      ∀ t, P.net s.core.outside t ≤ P.net s'.core.outside t := by
  cases hstep with
  | admin hcall honly => exact ⟨by rw [honly.ledger], fun t => by rw [honly.outside]⟩
  | @createOrder params config timingVersion orderHash x₁ x₂ hc hvalid hdecimals hwindow hhash hnew
      hauth hpull happend =>
    refine ⟨rfl, fun t => ?_⟩
    have hpayer : (.account params.bridger : Address) ≠ H.address := Address.noConfusion
    have hpulled := P.net_pull hpayer hpull t
    have hamount := P.nonneg hpull
    have happended := hoff.append happend t
    show _ ≤ P.net x₂ t
    rw [happended, hpulled]
    split <;> omega
  | unlock => cases hpayout
  | refundByCancel => cases hpayout
  | presentSettled => cases hpayout
  | payMakerByForfeit => cases hpayout
  | recordSettled hc hhash hfilled hnew happend =>
    exact ⟨rfl, fun t => (hoff.append happend t).ge⟩
  | claim => exact absurd rfl (hclaim _ _)

/-! ## Whole runs -/

theorem tally_of_run {x : X} {history : History} {chainId : U128} {wNative : Address}
    (run : Run (system O H outside) (Chain.fresh x) history s)
    (hconfig : ∀ config, s.core.settings.config = some config →
      config.chainId = chainId ∧ config.wNativeToken = wNative) :
    Tally H chainId history s := by
  refine run_invariant (I := fun history s => Tally H chainId history s) ?_ ?_ ?_ run hconfig
    (List.Subset.refl (ordersOf history))
  · exact ⟨fun _ => rfl, fun _ => rfl⟩
  · intro history s env call ret s' h _ hconfig _ _ _ hstep
    exact h.step (fun config hc => (hconfig config hc).1) hstep
  · intro history s x' h _
    exact ⟨h.paid, h.spent⟩

theorem conserved_of_run {P : ExactTokens O.toTokens H.address} (hoff : HandsOff O P outside)
    {x : X} (hstart : ∀ t, P.net x t = 0) {history : History} {chainId : U128} {wNative : Address}
    {known : List OrderParams} (run : Run (system O H outside) (Chain.fresh x) history s)
    (hconfig : ∀ config, s.core.settings.config = some config →
      config.chainId = chainId ∧ config.wNativeToken = wNative)
    (hcollision : CollisionFree H chainId known) (hknown : ordersOf history ⊆ known) :
    Conserved P wNative (book history) s := by
  have hboth := run_invariant (I := fun history s =>
    Deposits H chainId (book history) s ∧ Conserved P wNative (book history) s)
    (x := x) ?_ ?_ ?_ run hconfig hknown
  · exact hboth.2
  · refine ⟨.fresh x, fun asset => ?_, fun _ _ => Nat.two_pow_pos _⟩
    have hnet := hstart asset
    show P.net x asset - _ = _
    rw [hnet]
    rfl
  · intro history s env call ret s' h _ hconfig hknown hparams _ hstep
    have hchain : ∀ config, s.core.settings.config = some config → config.chainId = chainId :=
      fun config hc => (hconfig config hc).1
    exact ⟨h.1.step hchain hcollision hknown hparams hstep,
      h.2.step h.1 hoff hconfig hcollision hknown hparams hstep⟩
  · intro history s x' h hmoved
    exact ⟨h.1.frame rfl rfl, h.2.frame rfl rfl (hoff.outside hmoved)⟩

/-- **Conservation.** In every reachable state, and for every token, what the portal holds beyond
unsolicited transfers is what its open orders deposited plus what it owes in credits. An order is
paid out once if it ended and never otherwise, in full and to one side, and a nullifier fills at
most one order. -/
theorem portal_conserves {P : ExactTokens O.toTokens H.address} (hoff : HandsOff O P outside)
    {x : X} (hstart : ∀ t, P.held x t = P.unsolicited x t) {history : History} {chainId : U128}
    {wNative : Address} {known : List OrderParams}
    (run : Run (system O H outside) (Chain.fresh x) history s)
    (hconfig : ∀ config, s.core.settings.config = some config →
      config.chainId = chainId ∧ config.wNativeToken = wNative)
    (hcollision : CollisionFree H chainId known) (hknown : ordersOf history ⊆ known) :
    (∀ asset, P.held s.core.outside asset - P.unsolicited s.core.outside asset
      = depositsIn wNative asset (book history) s + creditsIn wNative asset s.core.ledger) ∧
    ((book history).map Prod.fst).Nodup ∧
    (∀ orderHash, payouts H chainId orderHash history
      = if (s.core.ledger.status orderHash).terminal then 1 else 0) ∧
    (∀ nullifierHash, fillsWith nullifierHash history ≤ 1) ∧
    ∀ env call ret s', env.authorized H.address = false → exec O H env call s = .ok (ret, s') →
      (∀ params recipient, call.payout = some (params, recipient) → params ∈ known →
        ∃ orderHash, (orderHash, params) ∈ book history ∧
          PaidOut O H env wNative orderHash params recipient s s') ∧
      (call.payout = none → (∀ recipient token, call ≠ .claim recipient token) →
        s'.core.ledger.claimable = s.core.ledger.claimable ∧
          ∀ t, P.net s.core.outside t ≤ P.net s'.core.outside t) := by
  have hnet : ∀ t, P.net x t = 0 := by
    intro t
    unfold ExactTokens.net
    rw [hstart, sub_self]
  have hconserved := conserved_of_run hoff hnet run hconfig hcollision hknown
  have hdeposits := deposits_of_run run hconfig hcollision hknown
  have htally := tally_of_run run hconfig
  refine ⟨fun asset => ?_, hdeposits.nodup, htally.paid, fun n => ?_,
    fun env call ret s' _ ok => ⟨fun params recipient hpayout hmem => ?_, fun hpayout hclaim => ?_⟩⟩
  · have hbalanced := hconserved.balanced asset
    unfold free ExactTokens.net at hbalanced
    omega
  · rw [htally.spent n]
    split <;> omega
  · have hsub : ∀ e ∈ book history, e.2 ∈ known :=
      fun e he => hknown (mem_ordersOf_of_mem_book he)
    exact paidOut_of_step hdeposits hconfig hcollision hsub hmem hpayout (step_of_exec ok)
  · exact nothing_paid_of_step hoff hpayout hclaim (step_of_exec ok)

/-- The sample's portal holds the one deposit, and a refund would pay it back once. -/
theorem portal_conserves_sample :
    sampleRun.2.core.outside.balance (.contract 0x11) (.contract 0x50) = 100000 ∧
    (∀ asset, sampleRun.2.core.outside.balance asset (.contract 0x50)
        - sampleRun.2.core.outside.unasked asset (.contract 0x50)
      = depositsIn (.contract 0x59) asset (book sampleRun.1) sampleRun.2
        + creditsIn (.contract 0x59) asset sampleRun.2.core.ledger) ∧
    ∀ ret s', exec Bank.world (sampleHost 0x50) (sampleEnv 9000) (.refundByCancel sampleParams 8 [])
        sampleRun.2 = .ok (ret, s') →
      ∃ orderHash, (orderHash, sampleParams) ∈ book sampleRun.1 ∧
        PaidOut Bank.world (sampleHost 0x50) (sampleEnv 9000) (.contract 0x59) orderHash
          sampleParams 0xB1 sampleRun.2 s' := by
  have hempty : ∀ t, (Bank.exact (sampleHost 0x50).address).held sampleStart t
      = (Bank.exact (sampleHost 0x50).address).unsolicited sampleStart t := fun _ => rfl
  have hconserved := portal_conserves (Bank.handsOff _) hempty run_sample sample_config
    sample_collisionFree sample_orders
  refine ⟨by decide +kernel, hconserved.1, fun ret s' ok => ?_⟩
  exact (hconserved.2.2.2.2 _ _ _ _ (by decide) ok).1 _ _ rfl (List.mem_singleton.mpr rfl)

end OrderPortal
end ProofBridge
