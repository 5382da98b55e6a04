import ProofBridge.AdManager.Orders
import ProofBridge.Disputes.World

/-!
# What an escrow call does to the disputes

Only four of the escrow's entry points reach a module. `Touch` says once what any accepted call did:
it touched no module and no disputed order, or it filed, answered or closed exactly one dispute, in
the module the order was filed with.
-/

namespace ProofBridge
namespace Disputes

open ContractLib

variable {R : Type} {O : Outside R} {H : Host} {env : Env} {s s' : Chain R}

/-! ## What the calls around a dispute leave alone -/

theorem modules_of_transfer {w w' : World R} {token payer payee : Address} {amount : ℤ}
    (h : (withModules O H).transfer w env token payer payee amount = some w') :
    w'.modules = w.modules := by
  obtain ⟨rest, -, rfl⟩ := Option.map_eq_some_iff.mp h
  rfl

theorem modules_of_append {w w' : World R} {merkleManager manager : Address}
    {orderHash : BytesN32} {side : ℕ}
    (h : (withModules O H).appendOrderHash w env merkleManager manager orderHash side = some w') :
    w'.modules = w.modules := by
  obtain ⟨rest, -, rfl⟩ := Option.map_eq_some_iff.mp h
  rfl

theorem modules_of_paid {wNative : Address} {recipient token : BytesN32} {amount : ℕ}
    {c c' : Core (World R)}
    (h : Escrow.Paid (withModules O H) H env wNative recipient token amount c c') :
    c'.outside.modules = c.outside.modules := by
  cases h with
  | pushed x hpush => exact modules_of_transfer hpush
  | credited => rfl

theorem modules_of_netPaid {wNative : Address} {pool : Option BytesN32}
    {recipient token : BytesN32} {net fee : ℕ} {c c' : Core (World R)}
    (h : AdManager.NetPaid (withModules O H) H env wNative pool recipient token net fee c c') :
    c'.outside.modules = c.outside.modules := by
  obtain ⟨hnet, hfee⟩ := h
  cases hfee with
  | nothing => exact modules_of_paid hnet
  | paid hpool hfee hpaid => exact (modules_of_paid hpaid).trans (modules_of_paid hnet)

theorem modules_of_ruling {config : ContractConfig} {params : AdManager.OrderParams}
    {orderHash : BytesN32} {outcome : DisputeOutcome} {amount : ℕ} {ad : AdManager.Ad}
    (h : AdManager.RulingPaid (withModules O H) H env config params orderHash outcome amount ad
      s s') : s'.core.outside.modules = s.core.outside.modules := by
  cases h with
  | released => rfl
  | forfeited houtcome hcharged hpaid =>
    have hmodules := modules_of_netPaid hpaid
    exact hmodules

/-! ## A module's turn -/

/-- The module `id` took `call`, made by the escrow; every other module is as it was. -/
inductive Moved (O : Outside R) (H : Host) (env : Env) (id : BytesN32)
    (call : DisputeManager.Call) (s s' : Chain R) : Prop
  | intro {state : DisputeManager.State} {rest : R} {c : DisputeManager.Chain R}
      {ret : DisputeManager.Ret}
      (hstate : s.core.outside.modules.get? id = some state)
      (hstep : DisputeManager.Step O.toTokens (hostAt H id) (env.inside H.address)
        { state, outside := rest } call ret c)
      (hmodules : s'.core.outside.modules = s.core.outside.modules.set id c.state)

theorem map_snd_ok {ε α β : Type} {x : Except ε (α × β)} {b : β}
    (h : Except.map Prod.snd x = .ok b) : ∃ a, x = .ok (a, b) := by
  cases x with
  | error e => cases h
  | ok p =>
    cases h
    exact ⟨p.1, rfl⟩

theorem openDispute_moved {w w' : World R} {manager : Address} {filing : Filing} {bond : ℕ}
    (h : (withModules O H).openDispute w (env.inside H.address) manager filing = .ok (bond, w')) :
    ∃ id state c, manager = .contract id ∧ w.modules.get? id = some state ∧
      DisputeManager.Step O.toTokens (hostAt H id) (env.inside H.address)
        { state, outside := w.rest } (.openDispute filing) (.bond bond) c ∧
      w'.modules = w.modules.set id c.state := by
  obtain ⟨id, state, c, hmanager, hstate, hok, rfl⟩ := World.invoke_ok h
  exact ⟨id, state, c, hmanager, hstate, DisputeManager.openDispute_step hok, rfl⟩

theorem settleBond_moved {w w' : World R} {manager : Address} {settlement : Settlement}
    (h : (withModules O H).settleBond w (env.inside H.address) manager settlement = .ok w') :
    ∃ id state c, manager = .contract id ∧ w.modules.get? id = some state ∧
      DisputeManager.Step O.toTokens (hostAt H id) (env.inside H.address)
        { state, outside := w.rest } (.settleBond settlement) .unit c ∧
      w'.modules = w.modules.set id c.state := by
  obtain ⟨u, hinvoke⟩ := map_snd_ok h
  obtain ⟨id, state, c, hmanager, hstate, hok, rfl⟩ := World.invoke_ok hinvoke
  exact ⟨id, state, c, hmanager, hstate, DisputeManager.settleBond_step hok, rfl⟩

theorem recordResponse_moved {w w' : World R} {manager : Address} {response : Response}
    (h : (withModules O H).recordResponse w (env.inside H.address) manager response = .ok w') :
    ∃ id state c, manager = .contract id ∧ w.modules.get? id = some state ∧
      DisputeManager.Step O.toTokens (hostAt H id) (env.inside H.address)
        { state, outside := w.rest } (.recordResponse response) .unit c ∧
      w'.modules = w.modules.set id c.state := by
  obtain ⟨u, hinvoke⟩ := map_snd_ok h
  obtain ⟨id, state, c, hmanager, hstate, hok, rfl⟩ := World.invoke_ok hinvoke
  exact ⟨id, state, c, hmanager, hstate, DisputeManager.recordResponse_step hok, rfl⟩

/-! ## The two halves of a dispute -/

/-- The escrow and the modules agree: an order is disputed here exactly while the module it was
filed with holds this escrow's record of it. -/
structure Agreement (H : Host) (s : Chain R) : Prop where
  held : ∀ orderHash, s.core.ledger.status orderHash = .disputed → ∃ id d,
    s.core.ledger.disputeManagers.get? orderHash = some (.contract id) ∧
      s.core.outside.record id orderHash = some d ∧ d.escrow = H.address
  only : ∀ id orderHash d, s.core.outside.record id orderHash = some d → d.escrow = H.address →
    s.core.ledger.status orderHash = .disputed ∧
      s.core.ledger.disputeManagers.get? orderHash = some (.contract id)
  /-- An order that was never disputed names no module. -/
  free : ∀ orderHash, s.core.ledger.status orderHash = .none ∨
      s.core.ledger.status orderHash = .opened ∨ s.core.ledger.status orderHash = .claimed →
    s.core.ledger.disputeManagers.get? orderHash = none
  wired : ∀ id state, s.core.outside.modules.get? id = some state → state.Wired

/-- The call answers a dispute. -/
def responds : AdManager.Call → Bool
  | .respondToDispute .. => true
  | _ => false

/-- What an accepted escrow call did to the disputes. -/
inductive Touch (O : Outside R) (H : Host) (env : Env) (call : AdManager.Call) (s s' : Chain R) :
    Prop
  | apart (hcall : responds call = false)
      (hmodules : s'.core.outside.modules = s.core.outside.modules)
      (hmanagers : s'.core.ledger.disputeManagers = s.core.ledger.disputeManagers)
      (hdisputed : ∀ k, s'.core.ledger.status k = .disputed ↔ s.core.ledger.status k = .disputed)
  /-- `dispute`. -/
  | filed {id : BytesN32} {filing : Filing} {params : AdManager.OrderParams}
      {config : ContractConfig} {t : RouteTiming}
      (hcall : responds call = false)
      (hparams : call.params? = some params)
      (hconfig : s.core.settings.config = some config)
      (hhash : AdManager.hashOrder H params config.chainId = .ok filing.orderHash)
      (htiming : Escrow.orderTiming filing.orderHash params.orderChainId s.core = .ok t)
      (hdeadline : filing.deadline = params.deadline.toNat) (hbuffer : filing.buffer = t.buffer)
      (hnew : s.core.ledger.status filing.orderHash = .opened ∨
        s.core.ledger.status filing.orderHash = .claimed)
      (hescrow : filing.escrow = H.address)
      (hmoved : Moved O H env id (.openDispute filing) s s')
      (hmanagers : s'.core.ledger.disputeManagers
        = s.core.ledger.disputeManagers.set filing.orderHash (.contract id))
      (hdisputed : ∀ k, s'.core.ledger.status k = .disputed ↔
        k = filing.orderHash ∨ s.core.ledger.status k = .disputed)
  /-- `respond_to_dispute`. -/
  | responded {id : BytesN32} {response : Response} {params : AdManager.OrderParams}
      {config : ContractConfig} {ad : AdManager.Ad}
      (hcall : call = .respondToDispute params response.responder response.evidence)
      (hconfig : s.core.settings.config = some config)
      (hhash : AdManager.hashOrder H params config.chainId = .ok response.orderHash)
      (had : s.ads.get? params.adId = some ad)
      (hparty : AdManager.requireParty response.responder ad.maker params.orderRecipient = .ok ())
      (hbefore : s.core.ledger.status response.orderHash = .disputed)
      (hmanager : s.core.ledger.disputeManagers.get? response.orderHash = some (.contract id))
      (hescrow : response.escrow = H.address)
      (hmoved : Moved O H env id (.recordResponse response) s s')
      (hmanagers : s'.core.ledger.disputeManagers = s.core.ledger.disputeManagers)
      (hdisputed : ∀ k, s'.core.ledger.status k = .disputed ↔ s.core.ledger.status k = .disputed)
  /-- The three exits of a dispute: `finalize_dispute`, and the evidence of `unlock` and
  `present_settled`. -/
  | closed {id : BytesN32} {settlement : Settlement}
      (hcall : responds call = false)
      (hbefore : s.core.ledger.status settlement.orderHash = .disputed)
      (hmanager : s.core.ledger.disputeManagers.get? settlement.orderHash = some (.contract id))
      (hescrow : settlement.escrow = H.address)
      (hmoved : Moved O H env id (.settleBond settlement) s s')
      (hmanagers : s'.core.ledger.disputeManagers = s.core.ledger.disputeManagers)
      (hdisputed : ∀ k, s'.core.ledger.status k = .disputed ↔
        k ≠ settlement.orderHash ∧ s.core.ledger.status k = .disputed)

/-- An order's status moved, outside a dispute. -/
theorem disputed_of_set {l l' : Ledger} {orderHash : BytesN32} {rec : OrderRecord}
    (h : l'.orders = l.orders.set orderHash rec) (hbefore : l.status orderHash ≠ .disputed)
    (hafter : rec.status ≠ .disputed) (k : BytesN32) :
    l'.status k = .disputed ↔ l.status k = .disputed := by
  rw [Ledger.status_of_set h]
  split
  · next heq =>
    rw [heq]
    exact ⟨fun hd => absurd hd hafter, fun hd => absurd hd hbefore⟩
  · exact Iff.rfl

/-- A dispute ended. -/
theorem disputed_of_close {l l' : Ledger} {orderHash : BytesN32} {rec : OrderRecord}
    (h : l'.orders = l.orders.set orderHash rec) (hafter : rec.status ≠ .disputed) (k : BytesN32) :
    l'.status k = .disputed ↔ k ≠ orderHash ∧ l.status k = .disputed := by
  rw [Ledger.status_of_set h]
  split
  · next heq => exact ⟨fun hd => absurd hd hafter, fun hd => absurd heq hd.1⟩
  · next hne => exact ⟨fun hd => ⟨hne, hd⟩, fun hd => hd.2⟩

theorem initiator_of_record {w : World R} {id orderHash : BytesN32} {d : DisputeRecord}
    (h : w.record id orderHash = some d) (H : Host) (O : Outside R) :
    (withModules O H).initiatorOf w env (.contract id) orderHash = .ok (some d.initiator) := by
  unfold World.record at h
  obtain ⟨state, hstate, hopen⟩ := Option.bind_eq_some_iff.mp h
  show World.consult w (.contract id) (DisputeManager.initiatorOf orderHash) = _
  rw [World.consult_of_get? hstate, DisputeManager.initiatorOf, hopen]
  rfl

/-- A fill of a live order ends its dispute, if it has one. -/
theorem touch_of_filled {config : ContractConfig} {params : AdManager.OrderParams}
    {orderHash : BytesN32} {byEvidence : Bool} {call : AdManager.Call}
    (hcall : responds call = false) (h : Agreement H s)
    (hlive : (s.core.ledger.status orderHash).live = true)
    (hfilled : AdManager.Filled (withModules O H) H env config params orderHash byEvidence s s') :
    Touch O H env call s s' := by
  obtain ⟨hclosed, hcounted, hamount, had, hlocked, hcharged, hpaid⟩ := hfilled
  have hmodules := modules_of_netPaid hpaid
  obtain ⟨x', claimable, events, rfl⟩ := hpaid.moneyOnly
  have hended : Status.filled ≠ .disputed := by decide
  by_cases hdisputed : s.core.ledger.status orderHash = .disputed
  · obtain ⟨id, d, hmanager, hrecord, -⟩ := h.held orderHash hdisputed
    cases hclosed with
    | nothing hflags =>
      -- the record names its filer and the ad its maker, so there was something to close
      unfold Escrow.evidenceFlags Escrow.disputeFiler at hflags
      simp only [hmanager, initiator_of_record hrecord, moduleAnswer, had, Option.map_some,
        Check.ok_bind] at hflags
      split at hflags
      · cases hflags
      · obtain ⟨b, -, hb⟩ := Check.bind_ok.mp hflags
        cases hb
    | @settled flags manager x hflags hmanager' hsettle =>
      rw [hmanager] at hmanager'
      cases hmanager'
      obtain ⟨id', state, c, heq, hstate, hstep, hmoved⟩ := settleBond_moved hsettle
      cases heq
      refine .closed hcall hdisputed hmanager rfl ⟨hstate, hstep, hmodules.trans hmoved⟩ rfl ?_
      exact disputed_of_close (l := s.core.ledger) rfl hended
  · have hfree := h.free orderHash (by
      cases hstatus : s.core.ledger.status orderHash <;> rw [hstatus] at hlive hdisputed <;>
        simp_all [Status.live])
    cases hclosed with
    | nothing =>
      exact .apart hcall hmodules rfl (disputed_of_set (l := s.core.ledger) rfl hdisputed hended)
    | settled hflags hmanager =>
      rw [hfree] at hmanager
      cases hmanager

/-- An accepted escrow call touched the disputes as `Touch` says. -/
theorem touch_of_step (h : Agreement H s) {call : AdManager.Call} {ret : AdManager.Ret}
    (hstep : AdManager.Step (withModules O H) H env s call ret s') :
    Touch O H env call s s' := by
  cases hstep with
  | admin hcall hframe =>
    refine .apart ?_ ?_ ?_ fun k => ?_
    · cases call <;> first
        | rfl
        | cases hcall
    · rw [hframe.outside]
    · rw [hframe.ledger]
    · rw [hframe.ledger]
  | createAd hconfig hroute hnew hauth hregistered hpull =>
    exact .apart rfl (modules_of_transfer hpull) rfl fun _ => Iff.rfl
  | setSettlementSigner => exact .apart rfl rfl rfl fun _ => Iff.rfl
  | fundAd hconfig had hopen hauth hpull =>
    exact .apart rfl (modules_of_transfer hpull) rfl fun _ => Iff.rfl
  | withdrawFromAd hconfig had havailable hauth hpush =>
    exact .apart rfl (modules_of_transfer hpush) rfl fun _ => Iff.rfl
  | closeAd hconfig had hlocked hauth hpush =>
    refine .apart rfl ?_ rfl fun _ => Iff.rfl
    rcases hpush with ⟨-, rfl⟩ | hpush
    · rfl
    · exact modules_of_transfer hpush
  | lockForOrder hconfig had hchecks hauth hhash hnew hdelay hfit happend =>
    refine .apart rfl (modules_of_append happend) rfl ?_
    refine disputed_of_set (l := s.core.ledger) rfl ?_ Status.noConfusion
    rw [hnew]
    exact Status.noConfusion
  | @unlock params nullifierHash targetRoot proof cosigData config orderHash t ad publicInputs s₁ s₂
      hconfig hhash hlive hnullifier htiming hcutoff had hhalt hroot hinputs hproof hspent
      hfilled =>
    subst hspent
    -- the spent nullifier is nothing the disputes read
    have hspent : Agreement H { s with core := { s.core with ledger := { s.core.ledger with
        nullifiers := s.core.ledger.nullifiers.set nullifierHash true } } } :=
      ⟨h.held, h.only, h.free, h.wired⟩
    have htouch : Touch O H env (.unlock params nullifierHash targetRoot proof cosigData) _ _ :=
      touch_of_filled rfl hspent hlive hfilled
    cases htouch with
    | apart hcall hmodules hmanagers hdisputed => exact .apart hcall hmodules hmanagers hdisputed
    | filed hcall hparams hconfig hhash htiming hdeadline hbuffer hnew hescrow hmoved hmanagers
        hdisputed =>
      obtain ⟨hstate, hmodule, hmodules⟩ := hmoved
      exact .filed hcall hparams hconfig hhash htiming hdeadline hbuffer hnew hescrow ⟨hstate, hmodule, hmodules⟩ hmanagers hdisputed
    | responded hcall => cases hcall
    | closed hcall hbefore hmanager hescrow hmoved hmanagers hdisputed =>
      obtain ⟨hstate, hmodule, hmodules⟩ := hmoved
      exact .closed hcall hbefore hmanager hescrow ⟨hstate, hmodule, hmodules⟩ hmanagers hdisputed
  | @claimCancel params config orderHash t hconfig hhash hopened =>
    refine .apart rfl rfl rfl ?_
    refine disputed_of_set (l := s.core.ledger) rfl ?_ Status.noConfusion
    rw [hopened]
    exact Status.noConfusion
  | @dispute params filer evidence config orderHash ad amount bond t manager x hconfig hhash had
      hparty hamount hdisputable hmanager hopen =>
    obtain ⟨hstatus, htiming, -⟩ := Escrow.requireDisputable_ok hdisputable
    obtain ⟨id, state, c, rfl, hstate, hmodule, hmodules⟩ := openDispute_moved hopen
    let filing : Filing := ⟨H.address, orderHash, params.orderChainId, filer, evidence,
      params.deadline.toNat, t.buffer, underlying config.wNativeToken ad.token, amount⟩
    refine @Touch.filed _ _ _ _ _ _ _ _ filing _ _ _
      rfl rfl hconfig hhash htiming rfl rfl hstatus rfl ⟨hstate, hmodule, hmodules⟩ rfl fun k => ?_
    rw [Ledger.status_of_set (l := s.core.ledger) rfl]
    split
    · next heq => exact ⟨fun _ => .inl heq, fun _ => rfl⟩
    · next hne => exact ⟨.inr, fun hd => hd.resolve_left hne⟩
  | @respondToDispute params responder evidence config orderHash ad manager x hconfig hhash
      hdisputed had hparty hmanager hrespond =>
    obtain ⟨id, state, c, rfl, hstate, hmodule, hmodules⟩ := recordResponse_moved hrespond
    exact @Touch.responded _ _ _ _ _ _ _ _ ⟨H.address, orderHash, responder, evidence⟩ _ _ _ rfl hconfig hhash had
      hparty hdisputed hmanager rfl ⟨hstate, hmodule, hmodules⟩ rfl fun _ => Iff.rfl
  | @finalizeDispute params config orderHash verdict amount finalizesAt ad s₁ manager x₁ x₂ hconfig
      hhash hdisputed hverdict hamount had hend hreached hlocked hpaid hcounted hmanager hsettle
      happend =>
    have hruled := modules_of_ruling hpaid
    obtain ⟨id, state, c, rfl, hstate, hmodule, hmodules⟩ := settleBond_moved hsettle
    have happended := modules_of_append happend
    rw [hruled] at hstate hmodules
    obtain ⟨c', out, ⟨x, claimable, events, rfl⟩, -, rfl⟩ := AdManager.Locks.ruling_frame hpaid
    refine @Touch.closed _ _ _ _ _ _ _ _ ⟨H.address, orderHash, verdict.1,
      decide (verdict.2 ≠ some ad.maker), false⟩ rfl hdisputed hmanager rfl
      ⟨hstate, hmodule, happended.trans hmodules⟩ rfl ?_
    exact disputed_of_close (l := s.core.ledger) rfl Status.noConfusion
  | @finalizeCancel params config orderHash t amount finalizesAt ad x hconfig hhash htiming
      hfinalizable hamount had hend hreached hlocked hcounted happend =>
    simp only [Escrow.requireFinalizable, Check.bind_ok, Check.require_ok] at hfinalizable
    obtain ⟨-, hclaimed, -⟩ := hfinalizable
    refine .apart rfl (modules_of_append happend) rfl ?_
    refine disputed_of_set (l := s.core.ledger) rfl ?_ Status.noConfusion
    rw [hclaimed]
    exact Status.noConfusion
  | cancelNeverLocked hconfig hhash hnever hdeadline hanchored hinputs hproof happend =>
    refine .apart rfl (modules_of_append happend) rfl ?_
    refine disputed_of_set (l := s.core.ledger) rfl ?_ Status.noConfusion
    rw [hnever]
    exact Status.noConfusion
  | repinOrder hconfig hhash hopened =>
    refine .apart rfl rfl rfl ?_
    refine disputed_of_set (l := s.core.ledger) rfl ?_ ?_
    · rw [hopened]
      exact Status.noConfusion
    · show s.core.ledger.status _ ≠ _
      rw [hopened]
      exact Status.noConfusion
  | presentSettled hconfig hhash hlive hanchored hproof hfilled =>
    exact touch_of_filled rfl h hlive hfilled
  | recordSettled hconfig hhash hfilled hnew happend =>
    exact .apart rfl (modules_of_append happend) rfl fun _ => Iff.rfl
  | claim hconfig howed hpush =>
    exact .apart rfl (modules_of_transfer hpush) rfl fun _ => Iff.rfl

end Disputes
end ProofBridge
