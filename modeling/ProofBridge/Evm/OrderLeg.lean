import ProofBridge.Evm.OrderPortal
import ProofBridge.Lib.Run

/-!
# The clock of the EVM order leg

The OrderPortal's co-signed unlock stops `claimStagger` before the deadline, on the timing its order
was created under. Every other check of an exit is answered by its context.
-/

namespace ProofBridge
namespace Evm
namespace OrderLeg

open ContractLib Evm.OrderPortal

inductive ExitError
  /-- Another check of the call. -/
  | refused
  | orderNotOpen (orderHash : BytesN32)
  | orderExpired (cutoff : ℕ)
  | notClaimable (orderHash : BytesN32) (status : Status)
  | invalidTiming (field : ℕ)
  deriving DecidableEq, Repr

section Entries

variable {X : Type} (P : Primitives) (ctx : Context) (passes : Bool)

/-- How an order's slot reads; an unset one is zero. -/
def slot (orderHash : BytesN32) (s : Portal X) : Slot :=
  (s.orders.get? orderHash).getD ⟨.none, 0, 0⟩

def version (chainId : Uint256) (s : Portal X) : ℕ := (s.timingVersion.get? chainId).getD 0

def timingAt (chainId : Uint256) (v : ℕ) (s : Portal X) : RouteTiming :=
  (s.routeTimingAt.get? (chainId, v)).getD ⟨0, 0, 0, 0⟩

/-- `_orderTiming`. -/
def orderTiming (orderHash : BytesN32) (chainId : Uint256) (s : Portal X) : RouteTiming :=
  timingAt chainId (slot orderHash s).timingVersion s

/-- The last second of the co-signed unlock. -/
def unlockCutoff (orderHash : BytesN32) (p : OrderParams) (s : Portal X) : Check ExitError ℕ :=
  Check.sub p.deadline.toNat (orderTiming orderHash p.adChainId s).claimStagger

abbrev setStatus (orderHash : BytesN32) (status : Status) : Tx ExitError (Portal X) Unit :=
  Tx.modify fun s => { s with orders := s.orders.set orderHash { slot orderHash s with status } }

def unlock (p : OrderParams) : Tx ExitError (Portal X) Unit := do
  let orderHash := hashOrder P p ctx.chainId ctx.this
  let s ← Tx.read
  Tx.require ((slot orderHash s).status = .opened) (.orderNotOpen orderHash)
  let cutoff ← Tx.view (unlockCutoff orderHash p)
  Tx.require (ctx.timestamp.toNat ≤ cutoff) (.orderExpired cutoff)
  Tx.require (passes = true) .refused
  setStatus orderHash .filled

/-- The ad leg's leaf ends the order; no deadline is read. -/
def exitByEvidence (ends : Status) (p : OrderParams) : Tx ExitError (Portal X) Unit := do
  let orderHash := hashOrder P p ctx.chainId ctx.this
  let s ← Tx.read
  Tx.require ((slot orderHash s).status.live = true)
    (.notClaimable orderHash (slot orderHash s).status)
  Tx.require (passes = true) .refused
  setStatus orderHash ends

def refundByCancel (p : OrderParams) : Tx ExitError (Portal X) Unit :=
  exitByEvidence P ctx passes .cancelled p

def payMakerByForfeit (p : OrderParams) : Tx ExitError (Portal X) Unit :=
  exitByEvidence P ctx passes .filled p

def presentSettled (p : OrderParams) : Tx ExitError (Portal X) Unit :=
  exitByEvidence P ctx passes .filled p

def setRouteTiming (chainId : Uint256) (timing : RouteTiming) : Tx ExitError (Portal X) Unit := do
  Tx.require (passes = true) .refused
  Tx.lift (match timing.validate with
    | .ok _ => .ok ()
    | .error field => .error (.error (.invalidTiming field)))
  let s ← Tx.read
  let v ← Tx.lift (Check.add 32 (version chainId s) 1)
  Tx.modify fun s => { s with
    timingVersion := s.timingVersion.set chainId v
    routeTimingAt := s.routeTimingAt.set (chainId, v) timing }

end Entries

/-! ## The leg as its chain sees it -/

inductive Call
  | createOrder (p : OrderParams)
  | unlock (p : OrderParams)
  | refundByCancel (p : OrderParams)
  | payMakerByForfeit (p : OrderParams)
  | presentSettled (p : OrderParams)
  | setRouteTiming (chainId : Uint256) (timing : RouteTiming)
  deriving DecidableEq

/-- The order a call names. -/
def Call.params? : Call → Option OrderParams
  | .createOrder p | .unlock p | .refundByCancel p | .payMakerByForfeit p | .presentSettled p =>
    some p
  | .setRouteTiming .. => none

/-- A call, with the block and message it comes in and whether its other checks pass. -/
structure Asked where
  timestamp : Uint256
  sender : EvmAddress
  value : Uint256
  passes : Bool
  call : Call

variable {X : Type} (P : Primitives) (W : World X) (chainId : Uint256) (this : EvmAddress)

/-- The context of a call of the portal `this`. -/
def Asked.context (c : Asked) : Context where
  timestamp := c.timestamp
  chainId := chainId
  sender := c.sender
  value := c.value
  this := this

def exec (c : Asked) : Tx (EvmError ⊕ ExitError) (Portal X) Unit :=
  let ctx := c.context chainId this
  let exit (x : Tx ExitError (Portal X) Unit) : Tx (EvmError ⊕ ExitError) (Portal X) Unit :=
    Tx.zoom (fun s => s) (fun _ s => s) Sum.inr x
  match c.call with
  | .createOrder p => Tx.answer (fun _ => ())
      (Tx.zoom (fun s => s) (fun _ s => s) Sum.inl (createOrder P W ctx p))
  | .unlock p => exit (unlock P ctx c.passes p)
  | .refundByCancel p => exit (refundByCancel P ctx c.passes p)
  | .payMakerByForfeit p => exit (payMakerByForfeit P ctx c.passes p)
  | .presentSettled p => exit (presentSettled P ctx c.passes p)
  | .setRouteTiming c' timing => exit (setRouteTiming c.passes c' timing)

/-- The portal with its chain: the other setters and everything around it leave the orders and their
timings alone. -/
def system : System (EvmError ⊕ ExitError) (Portal X) Asked Unit where
  call := exec P W chainId this
  admits _ _ := True
  outside s s' := s'.orders = s.orders ∧ s'.timingVersion = s.timingVersion ∧
    s'.routeTimingAt = s.routeTimingAt

/-- A portal just deployed, in the world `x`. -/
def deployed (x : X) : Portal X where
  paused := false
  peerEscrow := ∅
  tokenRoute := ∅
  orders := ∅
  inFlightOf := ∅
  timingVersion := ∅
  routeTimingAt := ∅
  outside := x
  logs := []

/-! ## What every call keeps -/

section Runs

variable {P : Primitives} {W : World X} {chainId : Uint256} {this : EvmAddress}
  {s s' : Portal X} {k : BytesN32} {p : OrderParams} {t : RouteTiming} {passes : Bool}
  {ctx : Context}

/-- Every timing written passed `validate`. -/
def Sound (s : Portal X) : Prop := ∀ c v, v ≠ 0 → v ≤ version c s → (timingAt c v s).Valid

/-- An order created under the timing `t`. -/
structure Kept (p : OrderParams) (t : RouteTiming) (k : BytesN32) (s : Portal X) : Prop where
  created : (slot k s).status ≠ .none
  version : (slot k s).timingVersion ≤ version p.adChainId s
  timing : orderTiming k p.adChainId s = t

/-- What a call did: to the slots of the orders that exist, and to the timings. -/
structure Step (s s' : Portal X) : Prop where
  status : ∀ k, (slot k s).status ≠ .none → (slot k s').status ≠ .none
  stands : ∀ k, (slot k s).status ≠ .none → (slot k s').timingVersion = (slot k s).timingVersion
  sound : Sound s → Sound s'
  version : ∀ c, OrderLeg.version c s ≤ OrderLeg.version c s'
  timing : ∀ c v, v ≤ OrderLeg.version c s → timingAt c v s' = timingAt c v s

theorem Kept.step (h : Kept p t k s) (hstep : Step s s') : Kept p t k s' := by
  have hversion := hstep.stands k h.created
  refine ⟨hstep.status k h.created, ?_, ?_⟩
  · rw [hversion]
    exact h.version.trans (hstep.version _)
  · rw [orderTiming, hversion, hstep.timing _ _ h.version]
    exact h.timing

/-- A call that writes one order's slot, and no timing. -/
theorem step_of_set {h : BytesN32} {o : Slot} (horders : s'.orders = s.orders.set h o)
    (hversions : s'.timingVersion = s.timingVersion) (htimings : s'.routeTimingAt = s.routeTimingAt)
    (hstatus : o.status ≠ .none)
    (hstands : (slot h s).status ≠ .none → o.timingVersion = (slot h s).timingVersion) :
    Step s s' := by
  have hslot : ∀ k, slot k s' = if k = h then o else slot k s := by
    intro k
    rw [slot, horders, Map.get?_set]
    split <;> rfl
  have hversion : ∀ c, version c s' = version c s := fun c => by rw [version, version, hversions]
  have htiming : ∀ c v, timingAt c v s' = timingAt c v s := fun c v => by
    rw [timingAt, timingAt, htimings]
  refine ⟨fun k hk => ?_, fun k hk => ?_, fun hs c v hpos hle => ?_, fun c => ?_, fun c v _ => ?_⟩
  · rw [hslot]
    split
    · exact hstatus
    · exact hk
  · rw [hslot]
    split
    · next heq =>
      subst heq
      exact hstands hk
    · rfl
  · rw [htiming]
    rw [hversion] at hle
    exact hs c v hpos hle
  · rw [hversion]
  · rw [htiming]

theorem unlock_step {r : Unit × Portal X} (ok : unlock P ctx passes p s = .ok r) :
    Step s r.2 := by
  unfold unlock at ok
  rw [Tx.bind_read_ok, Tx.bind_require_ok, Tx.bind_view_ok] at ok
  obtain ⟨-, cutoff, -, ok⟩ := ok
  rw [Tx.bind_require_ok, Tx.bind_require_ok, Tx.modify_ok] at ok
  obtain ⟨-, -, rfl⟩ := ok
  exact step_of_set rfl rfl rfl Status.noConfusion fun _ => rfl

theorem exitByEvidence_step {ends : Status} (hends : ends ≠ .none) {r : Unit × Portal X}
    (ok : exitByEvidence P ctx passes ends p s = .ok r) : Step s r.2 := by
  unfold exitByEvidence at ok
  rw [Tx.bind_read_ok, Tx.bind_require_ok, Tx.bind_require_ok, Tx.modify_ok] at ok
  obtain ⟨-, -, rfl⟩ := ok
  exact step_of_set rfl rfl rfl hends fun _ => rfl

theorem setRouteTiming_step {c : Uint256} {timing : RouteTiming} {r : Unit × Portal X}
    (ok : setRouteTiming passes c timing s = .ok r) : Step s r.2 := by
  rw [setRouteTiming, Tx.bind_require_ok, Tx.bind_lift_ok] at ok
  obtain ⟨-, _, hvalidate, ok⟩ := ok
  have hvalid : timing.Valid := by
    split at hvalidate
    · next hok => exact RouteTiming.valid_of_validate hok
    · cases hvalidate
  rw [Tx.bind_read_ok, Tx.bind_lift_ok] at ok
  obtain ⟨v, hv, ok⟩ := ok
  obtain ⟨-, rfl⟩ := Check.add_ok.mp hv
  rw [Tx.modify_ok] at ok
  subst ok
  have hversion : ∀ c', version c' { s with
      timingVersion := s.timingVersion.set c (version c s + 1)
      routeTimingAt := s.routeTimingAt.set (c, version c s + 1) timing }
        = if c' = c then version c s + 1 else version c' s := by
    intro c'
    unfold version
    rw [Map.get?_set]
    split <;> rfl
  have htiming : ∀ c' v, timingAt c' v { s with
      timingVersion := s.timingVersion.set c (version c s + 1)
      routeTimingAt := s.routeTimingAt.set (c, version c s + 1) timing }
        = if (c', v) = (c, version c s + 1) then timing else timingAt c' v s := by
    intro c' v
    unfold timingAt
    rw [Map.get?_set]
    split <;> rfl
  refine ⟨fun _ hk => hk, fun _ _ => rfl, fun hs c' v hpos hle => ?_, fun c' => ?_,
    fun c' v hle => ?_⟩
  · rw [htiming]
    split
    · exact hvalid
    · next hne =>
      rw [hversion] at hle
      split at hle
      · next hc =>
        subst hc
        have hother : v ≠ version c' s + 1 := fun heq => hne (by rw [heq])
        exact hs c' v hpos (by omega)
      · exact hs c' v hpos hle
  · rw [hversion]
    split
    · next hc =>
      rw [hc]
      exact Nat.le_succ _
    · exact le_refl _
  · rw [htiming, if_neg]
    intro heq
    obtain ⟨rfl, rfl⟩ := Prod.mk.inj heq
    exact absurd hle (Nat.not_succ_le_self _)

/-- What a create wrote, and what its window was. -/
theorem createOrder_effect {r : BytesN32 × Portal X} (ok : createOrder P W ctx p s = .ok r) :
    ∃ v, requireMinWindow ctx p.adChainId p.deadline s = .ok v ∧
      (slot (hashOrder P p ctx.chainId ctx.this) s).status = .none ∧
      r.2.orders = s.orders.set (hashOrder P p ctx.chainId ctx.this)
        ⟨.opened, ctx.timestamp.toNat % 2 ^ 64, v⟩ ∧
      r.2.timingVersion = s.timingVersion ∧ r.2.routeTimingAt = s.routeTimingAt := by
  unfold createOrder at ok
  rw [Tx.bind_read_ok, Tx.bind_require_ok, Tx.bind_view_ok] at ok
  obtain ⟨-, orderHash, hvalid, ok⟩ := ok
  rw [(validateOrder_ok hvalid).hash, Tx.bind_view_ok] at ok
  obtain ⟨v, hwindow, ok⟩ := ok
  rw [Tx.bind_ok] at ok
  obtain ⟨_, s₁, hopen, ok⟩ := ok
  rw [Evm.OrderPortal.openOrder, Tx.bind_read_ok, Tx.bind_require_ok, Tx.modify_ok] at hopen
  obtain ⟨hnew, hs₁⟩ := hopen
  obtain rfl := (Prod.mk.inj hs₁).2
  rw [Tx.bind_lift_ok] at ok
  obtain ⟨token, -, ok⟩ := ok
  rw [Tx.bind_ok] at ok
  obtain ⟨_, s₂, hpull, ok⟩ := ok
  have hpulled : ∃ x, s₂ = { s with
      orders := s.orders.set (hashOrder P p ctx.chainId ctx.this)
        ⟨.opened, ctx.timestamp.toNat % 2 ^ 64, v⟩
      outside := x } := by
    rw [pullFunds, Tx.bind_read_ok, Tx.ite_apply] at hpull
    split at hpull
    · rw [Tx.bind_require_ok, Tx.bind_expectTrap_ok] at hpull
      obtain ⟨-, x, -, hpull⟩ := hpull
      exact ⟨x, (Prod.mk.inj (Tx.modify_ok.mp hpull)).2⟩
    · rw [Tx.bind_require_ok, Tx.bind_expectTrap_ok] at hpull
      obtain ⟨-, _, -, hpull⟩ := hpull
      rw [Tx.bind_expectTrap_ok] at hpull
      obtain ⟨x, -, hpull⟩ := hpull
      rw [Tx.bind_expectTrap_ok] at hpull
      obtain ⟨_, -, hpull⟩ := hpull
      rw [Tx.bind_lift_ok] at hpull
      obtain ⟨_, -, hpull⟩ := hpull
      rw [Tx.bind_require_ok, Tx.modify_ok] at hpull
      exact ⟨x, (Prod.mk.inj hpull.2).2⟩
  obtain ⟨x, rfl⟩ := hpulled
  rw [Tx.bind_read_ok, Tx.bind_expectTrap_ok] at ok
  obtain ⟨_, -, ok⟩ := ok
  rw [Tx.bind_modify_ok, Tx.pure_ok] at ok
  subst ok
  refine ⟨v, hwindow, ?_, rfl, rfl, rfl⟩
  rw [slot]
  cases hget : s.orders.get? (hashOrder P p ctx.chainId ctx.this) with
  | none => rfl
  | some o =>
    rw [hget] at hnew
    exact hnew

theorem step_of_exec {c : Asked} {r : Unit × Portal X}
    (ok : exec P W chainId this c s = .ok r) : Step s r.2 := by
  have of_exit : ∀ {x : Tx ExitError (Portal X) Unit},
      (∀ {r : Unit × Portal X}, x s = .ok r → Step s r.2) →
      Tx.zoom (fun s => s) (fun _ s => s) Sum.inr x s
        = (.ok r : Check (EvmError ⊕ ExitError) _) → Step s r.2 := by
    intro x hx hr
    obtain ⟨a, s₁, hok, rfl⟩ := Tx.zoom_ok.mp hr
    exact hx hok
  unfold exec at ok
  cases hcall : c.call with
  | createOrder p =>
    rw [hcall] at ok
    obtain ⟨_, hok, -⟩ := Tx.answer_ok.mp ok
    obtain ⟨a, s₁, hok, heq⟩ := Tx.zoom_ok.mp hok
    obtain ⟨v, -, hnew, horders, hversions, htimings⟩ := createOrder_effect hok
    rw [(Prod.mk.inj heq).2]
    exact step_of_set horders hversions htimings Status.noConfusion fun hset => absurd hnew hset
  | unlock p =>
    rw [hcall] at ok
    exact of_exit unlock_step ok
  | refundByCancel p =>
    rw [hcall] at ok
    exact of_exit (exitByEvidence_step Status.noConfusion) ok
  | payMakerByForfeit p =>
    rw [hcall] at ok
    exact of_exit (exitByEvidence_step Status.noConfusion) ok
  | presentSettled p =>
    rw [hcall] at ok
    exact of_exit (exitByEvidence_step Status.noConfusion) ok
  | setRouteTiming c' timing =>
    rw [hcall] at ok
    exact of_exit setRouteTiming_step ok

theorem sound_of_run {x : X} {history : List (Asked × Unit)}
    (run : Run (system P W chainId this) (deployed x) history s) : Sound s := by
  refine run.preserves (R := Sound) ?_ ?_ ?_
  · intro c v hpos hle
    exact absurd (Nat.le_zero.mp hle) hpos
  · intro s c ret s' hs ok
    exact (step_of_exec ok).sound hs
  · rintro s s' hs ⟨-, hversions, htimings⟩ c v hpos hle
    rw [timingAt, htimings]
    rw [version, hversions] at hle
    exact hs c v hpos hle

theorem kept_of_run {s₁ : Portal X} {history : List (Asked × Unit)} (hkept : Kept p t k s₁)
    (run : Run (system P W chainId this) s₁ history s) : Kept p t k s := by
  refine run.preserves (R := Kept p t k) hkept ?_ ?_
  · intro s c ret s' hk ok
    exact hk.step (step_of_exec ok)
  · rintro s s' hk ⟨horders, hversions, htimings⟩
    have hslot : slot k s' = slot k s := by rw [slot, slot, horders]
    refine ⟨?_, ?_, ?_⟩
    · rw [hslot]
      exact hk.created
    · rw [hslot, version, hversions]
      exact hk.version
    · rw [orderTiming, hslot, timingAt, htimings]
      exact hk.timing

/-- From every create on, in every run, the cutoff of the co-signed unlock is the exact one and no
earlier than the create. -/
def CreatesExact (P : Primitives) (W : World X) (chainId : Uint256) (this : EvmAddress) : Prop :=
  ∀ {x : X} {history₀ history : List (Asked × Unit)} {s₀ s₁ s : Portal X} {ctx : Context}
    {p : OrderParams} {orderHash : BytesN32},
    Run (system P W chainId this) (deployed x) history₀ s₀ →
    createOrder P W ctx p s₀ = .ok (orderHash, s₁) → Run (system P W chainId this) s₁ history s →
    ∃ t, t = timingAt p.adChainId (version p.adChainId s₀) s₀ ∧ t.Valid ∧
      t.claimStagger ≤ p.deadline.toNat ∧
      unlockCutoff orderHash p s = .ok (p.deadline.toNat - t.claimStagger) ∧
      ctx.timestamp.toNat ≤ p.deadline.toNat - t.claimStagger

theorem creates_exact : CreatesExact P W chainId this := by
  intro x history₀ history s₀ s₁ s ctx p orderHash run₀ hcreate run
  obtain ⟨v, hwindow, -, horders, hversions, htimings⟩ := createOrder_effect hcreate
  have hhash : orderHash = hashOrder P p ctx.chainId ctx.this := (createOrder_ok hcreate).hash
  unfold requireMinWindow at hwindow
  simp only [Check.bind_ok, Check.require_ok, Check.add_ok, Check.pure_ok] at hwindow
  obtain ⟨_, hset, minAllowed, ⟨-, rfl⟩, _, hsoon, maxAllowed, ⟨-, rfl⟩, _, -, rfl⟩ := hwindow
  have hvalid : (timingAt p.adChainId (version p.adChainId s₀) s₀).Valid :=
    sound_of_run run₀ _ _ hset (le_refl _)
  dsimp only at horders hversions htimings
  have hslot : slot orderHash s₁
      = ⟨.opened, ctx.timestamp.toNat % 2 ^ 64, version p.adChainId s₀⟩ := by
    rw [slot, horders, hhash, Map.get?_set_self, Option.getD_some]
    rfl
  have hkept : Kept p (timingAt p.adChainId (version p.adChainId s₀) s₀) orderHash s₁ := by
    refine ⟨?_, ?_, ?_⟩
    · rw [hslot]
      exact Status.noConfusion
    · have hversion : version p.adChainId s₁ = version p.adChainId s₀ := by
        rw [version, version, hversions]
      exact le_of_eq (by rw [hslot, hversion, version])
    · show timingAt p.adChainId (slot orderHash s₁).timingVersion s₁ = _
      rw [hslot, timingAt, timingAt, htimings, version]
  have hminWindow : ((s₀.routeTimingAt.get? (p.adChainId, version p.adChainId s₀)).map
      RouteTiming.minWindow).getD 0
        = (timingAt p.adChainId (version p.adChainId s₀) s₀).minWindow := by
    unfold timingAt
    cases s₀.routeTimingAt.get? (p.adChainId, version p.adChainId s₀) <;> rfl
  have hsoon : ctx.timestamp.toNat + (timingAt p.adChainId (version p.adChainId s₀) s₀).minWindow
      ≤ p.deadline.toNat := by
    rw [← hminWindow]
    exact hsoon
  have hstagger := hvalid.stagger
  refine ⟨_, rfl, hvalid, by omega, ?_, by omega⟩
  rw [unlockCutoff, (kept_of_run hkept run).timing]
  exact Check.sub_ok.mpr ⟨by omega, rfl⟩

end Runs

end OrderLeg
end Evm
end ProofBridge
