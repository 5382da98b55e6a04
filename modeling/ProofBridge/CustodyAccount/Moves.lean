import ProofBridge.CustodyAccount.Step

/-!
# Every accepted call, taken apart

Each function of the account is one announcement or one move, a batch a move for each of its calls.
-/

namespace ProofBridge
namespace CustodyAccount

open ContractLib Evm

variable {D : Deployment} {msg : Message} {s s' : State} {scope key : BytesN32} {action : Selector}
  {adId : AdId} {rail : GuardRail} {Y : Type} {N : Neighbors Y} {y : Y} {oc : OwnerCall}
  {c c' : Chain Y}

/-! ## Arming -/

theorem raiseDelay_ok {before : ℕ} (ok : raiseDelay msg scope before rail s = .ok ((), s')) :
    MapsRows (Schedule.raised msg before rail) scope (visited scope) s s' := by
  unfold raiseDelay at ok
  split at ok
  · next hlt =>
    rw [Tx.bind_lift_ok] at ok
    obtain ⟨notBefore, hnotBefore, ok⟩ := ok
    obtain ⟨-, rfl⟩ := Check.add_ok.mp hnotBefore
    obtain ⟨hsettings, hrows⟩ := restamp_ok ok
    refine ⟨hsettings, fun scope' action => ?_⟩
    rw [hrows]
    unfold Schedule.raised
    simp only [hlt, if_true]
  · next hle =>
    obtain rfl : s' = s := (Prod.mk.inj (Tx.pure_ok.mp ok)).2
    refine ⟨rfl, fun scope' action => ?_⟩
    unfold Schedule.raised
    simp only [hle, if_false, Option.map_id', ite_self]

theorem retime_ok {adBefore accountBefore : ℕ} (hkey : key ≠ ACCOUNT_SCOPE)
    (ok : retime msg key adBefore accountBefore rail s = .ok ((), s')) :
    s'.settings = s.settings ∧ ∀ scope action, s'.row scope action
      = if action ∈ visited scope then
          (s.row scope action).map fun row =>
            if scope = key then (row.raised msg adBefore rail).clamped rail.window.toNat
            else if scope = ACCOUNT_SCOPE then
              (row.raised msg accountBefore rail).clamped s.accountTimelock.2
            else row
        else s.row scope action := by
  rw [retime, Tx.bind_ok] at ok
  obtain ⟨⟨⟩, s₁, h₁, ok⟩ := ok
  rw [Tx.bind_ok] at ok
  obtain ⟨⟨⟩, s₂, h₂, ok⟩ := ok
  rw [Tx.bind_ok] at ok
  obtain ⟨⟨⟩, s₃, h₃, ok⟩ := ok
  rw [Tx.bind_read_ok] at ok
  obtain ⟨hsettings₁, hrows₁⟩ := raiseDelay_ok h₁
  obtain ⟨hsettings₂, hrows₂⟩ := raiseDelay_ok h₂
  obtain ⟨hsettings₃, hrows₃⟩ := clampWindow_ok h₃
  obtain ⟨hsettings, hrows⟩ := clampWindow_ok ok
  have hkept : s₃.settings = s.settings := hsettings₃.trans (hsettings₂.trans hsettings₁)
  refine ⟨hsettings.trans hkept, fun scope action => ?_⟩
  rw [hrows, hrows₃, hrows₂, hrows₁, accountTimelock_congr hkept]
  by_cases hlisted : action ∈ visited scope
  · by_cases had : scope = key
    · subst had
      simp [hlisted, hkey, Option.map_map, Function.comp_def]
    · by_cases haccount : scope = ACCOUNT_SCOPE
      · subst haccount
        simp [hlisted, had, Option.map_map, Function.comp_def]
      · simp [hlisted, had, haccount]
  · have hkeyed : ¬(scope = key ∧ action ∈ visited key) := fun h => hlisted (h.1 ▸ h.2)
    have haccounted : ¬(scope = ACCOUNT_SCOPE ∧ action ∈ visited ACCOUNT_SCOPE) :=
      fun h => hlisted (h.1 ▸ h.2)
    simp only [hkeyed, haccounted, hlisted, if_false]

theorem checkOwner_ok (ok : checkOwner msg s = .ok ((), s')) : msg.sender = s.owner ∧ s' = s := by
  rw [checkOwner, Tx.bind_read_ok, Tx.require_ok] at ok
  exact ⟨ok.1, (Prod.mk.inj ok.2).2⟩

theorem requireInBounds_ok (ok : requireInBounds rail = .ok ()) :
    rail.delay.toNat ≤ MAX_GUARD_DELAY ∧ MIN_GUARD_WINDOW ≤ rail.window.toNat := by
  rw [requireInBounds, Check.require_ok, not_or, not_lt, not_lt] at ok
  exact ok

theorem beforeGuarded_ok (ok : beforeGuarded s = .ok ((), s')) :
    s' = { s with pendingOwner := if s.guarded = [] then 0 else s.pendingOwner } := by
  rw [beforeGuarded, Tx.bind_read_ok, Tx.ite_apply] at ok
  split at ok
  · next hnone =>
    rw [onFirstGuard, Tx.modify_ok] at ok
    rw [if_pos (List.length_eq_zero_iff.mp hnone)]
    exact (Prod.mk.inj ok).2
  · next hsome =>
    have hne : s.guarded ≠ [] := fun h => hsome (List.length_eq_zero_iff.mpr h)
    rw [if_neg hne]
    exact (Prod.mk.inj (Tx.pure_ok.mp ok)).2

/-- A new key is added to the roster, and the first one of all stands a nomination down. -/
theorem enroll_ok {current : Option Guard} (ok : enroll current key s = .ok ((), s')) :
    s' = { s with
      guarded := if current.isSome then s.guarded else s.guarded ++ [key]
      pendingOwner := if current.isSome = false ∧ s.guarded = [] then 0 else s.pendingOwner } := by
  cases current with
  | some g => exact (Prod.mk.inj (Tx.pure_ok.mp ok)).2
  | none =>
    rw [enroll, Option.isSome_none, if_neg Bool.false_ne_true, Tx.bind_read_ok,
      Tx.bind_require_ok] at ok
    obtain ⟨-, ok⟩ := ok
    rw [Tx.bind_ok] at ok
    obtain ⟨⟨⟩, s₁, hfirst, ok⟩ := ok
    obtain rfl := beforeGuarded_ok hfirst
    rw [Tx.modify_ok] at ok
    obtain rfl : s' = _ := (Prod.mk.inj ok).2
    simp

theorem clearSchedules_frame : (s.clearSchedules key).guards = s.guards ∧
    (s.clearSchedules key).guarded = s.guarded ∧ (s.clearSchedules key).owner = s.owner ∧
    (s.clearSchedules key).pendingOwner = s.pendingOwner := by
  have hsettings : (s.clearSchedules key).settings = s.settings := settings_clearSchedules
  simpa only [State.settings, Prod.mk.injEq] using hsettings

/-- The row a loosening spends is among those it clears. -/
theorem clearedRows_of_spent {s₁ : State} (hkey : key ≠ ACCOUNT_SCOPE) (hlisted : action ∈ visited key)
    (hrows : s₁.schedules = (s.deleteSchedule key action).schedules) :
    ClearedRows key s (s₁.clearSchedules key) := by
  intro scope action'
  rw [row_clearSchedules hkey]
  split
  · rfl
  · next hkept =>
    have hsame : s₁.row scope action' = (s.deleteSchedule key action).row scope action' := by
      unfold State.row
      rw [hrows]
    rw [hsame, row_deleteSchedule, if_neg]
    rintro ⟨rfl, rfl⟩
    exact hkept ⟨.inl rfl, hlisted⟩

theorem setGuardRail_listed (hkey : key ≠ ACCOUNT_SCOPE) :
    Selector.setGuardRail ∈ visited key ∧ Selector.disarmGuardRail ∈ visited key := by
  rw [mem_visited, mem_visited, actionsFor, if_neg hkey]
  decide

/-- An arming call: it loosened a rail, spending its row, or it armed or tightened one. -/
theorem setGuardRail_ok (hkey : D.adKey adId ≠ ACCOUNT_SCOPE)
    (ok : setGuardRail D msg adId rail s = .ok ((), s')) :
    msg.sender = s.owner ∧ RailInBounds rail ∧
      ((∃ g row, s.guards.get? (D.adKey adId) = some g ∧ isTightening g.rail rail = false ∧
          Spendable D msg s (D.adKey adId) Selector.setGuardRail (D.ownCall msg) row ∧
          (∃ bucket, s'.guards = s.guards.set (D.adKey adId) ⟨rail, bucket⟩) ∧
          s'.guarded = s.guarded ∧ s'.owner = s.owner ∧ s'.pendingOwner = s.pendingOwner ∧
          ClearedRows (D.adKey adId) s s') ∨
        ((∀ g, s.guards.get? (D.adKey adId) = some g → isTightening g.rail rail = true) ∧
          (∃ bucket, s'.guards = s.guards.set (D.adKey adId) ⟨rail, bucket⟩) ∧
          s'.guarded = (if (s.guards.get? (D.adKey adId)).isSome then s.guarded
            else s.guarded ++ [D.adKey adId]) ∧
          s'.owner = s.owner ∧
          s'.pendingOwner = (if (s.guards.get? (D.adKey adId)).isSome = false ∧ s.guarded = []
            then 0 else s.pendingOwner) ∧
          ∀ scope action, s'.row scope action
            = if action ∈ visited scope then
                (s.row scope action).map (retimed msg s s' (D.adKey adId) rail scope)
              else s.row scope action)) := by
  rw [setGuardRail, Tx.bind_ok] at ok
  obtain ⟨⟨⟩, s₀, howner, ok⟩ := ok
  obtain ⟨hsender, rfl⟩ := checkOwner_ok howner
  simp only [Tx.bind_require_ok, Tx.bind_lift_ok, Tx.bind_read_ok] at ok
  obtain ⟨hzero, hwide, ⟨⟩, hbounds, ok⟩ := ok
  obtain ⟨hdelay, hwindow⟩ := requireInBounds_ok hbounds
  rw [not_or, not_lt, not_lt] at hwide
  have hrail : RailInBounds rail := by
    refine ⟨Nat.pos_of_ne_zero fun h => hzero (.inl ?_), hdelay, hwindow, hwide.1, hwide.2⟩
    exact BitVec.eq_of_toNat_eq h
  refine ⟨hsender, hrail, ?_⟩
  rw [Tx.bind_ok] at ok
  obtain ⟨⟨⟩, s₁, hspend, ok⟩ := ok
  simp only [Tx.bind_lift_ok] at ok
  obtain ⟨level, -, ok⟩ := ok
  rw [Tx.bind_ok] at ok
  obtain ⟨⟨⟩, s₂, henroll, ok⟩ := ok
  obtain rfl := enroll_ok henroll
  rw [Tx.bind_modify_ok, Tx.ite_apply] at ok
  rcases spendIf_ok hspend with ⟨hloosens, ⟨row, hrow⟩, rfl⟩ | ⟨htight, rfl⟩
  · -- a loosening: the rows go, its own among them
    rw [if_pos hloosens, Tx.modify_ok] at ok
    obtain rfl : s' = _ := (Prod.mk.inj ok).2
    obtain ⟨g, hg, hlooser⟩ := (Option.any_eq_true _ _).mp hloosens
    left
    refine ⟨g, row, hg, by simpa using hlooser, hrow, ?_⟩
    obtain ⟨hguards, hroster, howner', hpending⟩ := @clearSchedules_frame
      (State.putGuard _ (D.adKey adId) _) (D.adKey adId)
    rw [hguards, hroster, howner', hpending]
    refine ⟨⟨_, rfl⟩, ?_, rfl, ?_, clearedRows_of_spent hkey (setGuardRail_listed hkey).1 rfl⟩
    · show (if (s₀.guards.get? (D.adKey adId)).isSome = true then s₀.guarded else _) = _
      rw [hg, Option.isSome_some, if_pos rfl]
    · show (if (s₀.guards.get? (D.adKey adId)).isSome = false ∧ _ then 0 else s₀.pendingOwner) = _
      rw [hg, Option.isSome_some, if_neg fun h => Bool.noConfusion h.1]
  · rw [if_neg (by rw [htight]; exact Bool.false_ne_true)] at ok
    right
    have htightens : ∀ g, s₁.guards.get? (D.adKey adId) = some g →
        isTightening g.rail rail = true := by
      intro g hg
      rw [hg, Option.any_some, Bool.not_eq_false'] at htight
      exact htight
    obtain ⟨hsettings, hrows⟩ := retime_ok hkey ok
    obtain ⟨hguards, hroster⟩ := settings_guards hsettings
    refine ⟨htightens, ⟨_, hguards⟩, hroster, congrArg (fun x => x.2.2.1) hsettings,
      congrArg (fun x => x.2.2.2) hsettings, fun scope action => ?_⟩
    have hbefore : (if s₁.guarded.length = 0 then 0 else s₁.accountTimelock.1)
        = s₁.accountTimelock.1 := by
      split
      · next hnone =>
        unfold State.accountTimelock State.accountTimelockWithout
        rw [List.length_eq_zero_iff.mp hnone]
        rfl
      · rfl
    rw [hrows, hbefore]
    unfold retimed
    rw [accountTimelock_congr hsettings]
    rfl

/-! ## Taking a rail off -/

/-- A rail is gone, and with it every row its settings timed. -/
structure Disarms (key : BytesN32) (s s' : State) : Prop where
  found : (s.guards.get? key).isSome = true
  guards : s'.guards = s.guards.remove key
  roster : s'.guarded = swapPop key s.guarded
  pending : s'.pendingOwner = s.pendingOwner
  rows : ClearedRows key s s'

theorem Disarms.move (h : Disarms (D.adKey adId) s s') : Move D msg s s' :=
  .disarmed h.found h.guards h.roster h.rows

theorem disarm_ok (hkey : key ≠ ACCOUNT_SCOPE) (hfound : (s.guards.get? key).isSome = true)
    (ok : disarm key s = .ok ((), s')) : Disarms key s s' := by
  rw [disarm, Tx.modify_ok] at ok
  obtain rfl : s' = _ := (Prod.mk.inj ok).2
  obtain ⟨hguards, hroster, -, hpending⟩ := @clearSchedules_frame
    { s with guards := s.guards.remove key, guarded := swapPop key s.guarded } key
  refine ⟨hfound, hguards, hroster, hpending, fun scope action => ?_⟩
  rw [row_clearSchedules hkey]
  rfl

theorem disarmGuardRail_ok (hkey : D.adKey adId ≠ ACCOUNT_SCOPE)
    (ok : disarmGuardRail D msg adId s = .ok ((), s')) :
    (∃ row, Spendable D msg s (D.adKey adId) Selector.disarmGuardRail (D.ownCall msg) row) ∧
      Disarms (D.adKey adId) s s' := by
  rw [disarmGuardRail, Tx.bind_ok] at ok
  obtain ⟨⟨⟩, s₀, howner, ok⟩ := ok
  obtain ⟨hsender, rfl⟩ := checkOwner_ok howner
  rw [Tx.bind_read_ok, Tx.bind_require_ok] at ok
  obtain ⟨hfound, ok⟩ := ok
  rw [Tx.bind_ok] at ok
  obtain ⟨⟨⟩, s₁, hspend, ok⟩ := ok
  obtain ⟨hrow, hs₁⟩ := spend_ok hspend
  have hfound₁ : (s₁.guards.get? (D.adKey adId)).isSome = true := by
    rw [hs₁]
    exact hfound
  obtain ⟨-, hguards, hroster, hpending, -⟩ := disarm_ok hkey hfound₁ ok
  subst hs₁
  refine ⟨hrow, hfound, hguards, hroster, hpending, ?_⟩
  rw [disarm, Tx.modify_ok] at ok
  obtain rfl : s' = _ := (Prod.mk.inj ok).2
  exact clearedRows_of_spent hkey (setGuardRail_listed hkey).2 rfl

theorem disarmClosedAd_ok {adManager : EvmAddress} (hkey : D.adKey adId ≠ ACCOUNT_SCOPE)
    (ok : disarmClosedAd D msg N y adManager adId s = .ok ((), s')) :
    Disarms (D.adKey adId) s s' := by
  rw [disarmClosedAd, Tx.bind_ok] at ok
  obtain ⟨⟨⟩, s₀, howner, ok⟩ := ok
  obtain ⟨hsender, rfl⟩ := checkOwner_ok howner
  simp only [Tx.bind_read_ok, Tx.bind_require_ok, Tx.bind_expectTrap_ok] at ok
  obtain ⟨hfound, -, ad, -, -, -, -, ok⟩ := ok
  exact disarm_ok hkey hfound ok

/-! ## Announcing -/

/-- An announcement is stored under the ad it names, or under the account, and takes the timing of
that scope. -/
theorem schedule_ok (ok : schedule D msg N y scope oc s = .ok ((), s')) :
    ∃ action kind, actionOf D oc.target oc.value oc.data = .ok (action, scope) ∧
      kindOf D N y action scope oc.target oc.data = .ok kind ∧ (kind = .delayed ∨ kind = .perAd) ∧
      ∃ delay window, (nowTs msg).toNat + delay + window < 2 ^ 64 ∧
        (if scope = ACCOUNT_SCOPE then s.guarded ≠ [] ∧ s.accountTimelock = (delay, window)
          else ∃ g, s.guards.get? scope = some g ∧ g.rail.delay.toNat = delay ∧
            g.rail.window.toNat = window) ∧
        s' = s.putSchedule scope action
          ⟨D.commitment oc, (nowTs msg).toNat + delay, (nowTs msg).toNat + delay + window⟩ := by
  rw [schedule, Tx.bind_ok] at ok
  obtain ⟨⟨⟩, s₀, howner, ok⟩ := ok
  obtain ⟨hsender, rfl⟩ := checkOwner_ok howner
  rw [Tx.bind_lift_ok] at ok
  obtain ⟨⟨action, adKey⟩, named, ok⟩ := ok
  dsimp only at ok
  simp only [Tx.bind_lift_ok, Tx.bind_require_ok, Tx.bind_view_ok] at ok
  obtain ⟨kind, hkind, hwaits, ⟨⟩, -, ⟨delay, window⟩, hterms, ok⟩ := ok
  simp only [Check.add_ok, Tx.modify_ok, Prod.mk.injEq, true_and] at ok
  obtain ⟨readyAt, ⟨-, rfl⟩, expiresAt, ⟨hfits, rfl⟩, rfl⟩ := ok
  have hscope : adKey = scope ∧ (if scope = ACCOUNT_SCOPE then
      s₀.guarded ≠ [] ∧ s₀.accountTimelock = (delay, window)
      else ∃ g, s₀.guards.get? scope = some g ∧ g.rail.delay.toNat = delay ∧
        g.rail.window.toNat = window) := by
    unfold scheduleTerms at hterms
    split at hterms
    · next haccount =>
      simp only [Check.bind_ok, Check.require_ok, Check.pure_ok] at hterms
      obtain ⟨-, hnone, -, hguarded, htiming⟩ := hterms
      rw [if_pos haccount]
      exact ⟨hnone.trans haccount.symm, fun h => hguarded (h ▸ rfl), htiming.symm⟩
    · next had =>
      simp only [Check.bind_ok, Check.require_ok, Check.expect_ok, Check.pure_ok,
        Prod.mk.injEq] at hterms
      obtain ⟨-, hsame, g, hg, hdelay, hwindow⟩ := hterms
      rw [if_neg had]
      exact ⟨hsame, g, hg, hdelay.symm, hwindow.symm⟩
  obtain ⟨rfl, htiming⟩ := hscope
  exact ⟨action, kind, named, hkind, hwaits, delay, window, hfits, htiming, rfl⟩

theorem cancel_ok (ok : cancel msg scope action s = .ok ((), s')) :
    s' = s.deleteSchedule scope action := by
  rw [cancel, Tx.bind_ok] at ok
  obtain ⟨⟨⟩, s₀, howner, ok⟩ := ok
  obtain ⟨hsender, rfl⟩ := checkOwner_ok howner
  simp only [Tx.bind_read_ok, Tx.bind_require_ok, Tx.modify_ok] at ok
  exact (Prod.mk.inj ok.2).2

/-! ## Ownership -/

theorem transferOwnership_ok {newOwner : EvmAddress}
    (ok : transferOwnership D msg newOwner s = .ok ((), s')) :
    msg.sender = s.owner ∧ s'.pendingOwner = newOwner ∧ s'.owner = s.owner ∧
      s'.guarded = s.guarded ∧
      ((newOwner = 0 ∨ s.guarded = []) ∧ s' = { s with pendingOwner := newOwner } ∨
        newOwner ≠ 0 ∧ s.guarded ≠ [] ∧
          (∃ row, Spendable D msg s ACCOUNT_SCOPE Selector.transferOwnership (D.ownCall msg) row) ∧
          s' = { s.deleteSchedule ACCOUNT_SCOPE Selector.transferOwnership with
            pendingOwner := newOwner }) := by
  rw [transferOwnership, Tx.bind_ok] at ok
  obtain ⟨⟨⟩, s₀, howner, ok⟩ := ok
  obtain ⟨hsender, rfl⟩ := checkOwner_ok howner
  rw [Tx.bind_ok] at ok
  obtain ⟨⟨⟩, s₁, hgate, ok⟩ := ok
  rw [Tx.modify_ok] at ok
  obtain rfl : s' = _ := (Prod.mk.inj ok).2
  rw [gateNomination, Tx.ite_apply] at hgate
  split at hgate
  · next hne =>
    rcases gateSelf_ok hgate with ⟨hnone, rfl⟩ | ⟨hguarded, hrow, rfl⟩
    · exact ⟨hsender, rfl, rfl, rfl, .inl ⟨.inr hnone, rfl⟩⟩
    · exact ⟨hsender, rfl, rfl, rfl, .inr ⟨hne, hguarded, hrow, rfl⟩⟩
  · next hzero =>
    obtain rfl : s₁ = s₀ := (Prod.mk.inj (Tx.pure_ok.mp hgate)).2
    exact ⟨hsender, rfl, rfl, rfl, .inl ⟨.inl (not_not.mp hzero), rfl⟩⟩

theorem acceptOwnership_ok (ok : acceptOwnership msg s = .ok ((), s')) :
    msg.sender = s.pendingOwner ∧ s' = { s with owner := msg.sender, pendingOwner := 0 } := by
  rw [acceptOwnership, Tx.bind_read_ok, Tx.bind_require_ok, Tx.modify_ok] at ok
  exact ⟨ok.1, (Prod.mk.inj ok.2).2⟩

/-! ## Calls made as the account -/

theorem onAccount_ok {α : Type} {x : Y → Tx CustodyError State α} {a : α} :
    onAccount x c = .ok (a, c') ↔
      ∃ s', x c.outside c.state = .ok (a, s') ∧ c' = { c with state := s' } := by
  rw [onAccount, Tx.bind_read_ok, Tx.zoom_ok]
  constructor
  · rintro ⟨b, s', hx, heq⟩
    cases heq
    exact ⟨s', hx, rfl⟩
  · rintro ⟨s', hx, rfl⟩
    exact ⟨a, s', hx, rfl⟩

theorem callOut_ok (ok : callOut N oc c = .ok ((), c')) :
    ∃ y, N.call c.outside oc.target oc.value oc.data = some y ∧ c' = { c with outside := y } := by
  simp only [callOut, Tx.bind_read_ok, Tx.bind_expectTrap_ok, Tx.modify_ok] at ok
  obtain ⟨y, hy, hc'⟩ := ok
  exact ⟨y, hy, (Prod.mk.inj hc').2⟩

/-- A list of calls made one after the other, each past the gate of the state it found. -/
inductive Made (D : Deployment) (N : Neighbors Y) (msg : Message) :
    List OwnerCall → Chain Y → Chain Y → Prop
  | done {c : Chain Y} : Made D N msg [] c c
  | call {oc : OwnerCall} {calls : List OwnerCall} {c c' : Chain Y} {s₁ : State} {y₁ : Y}
      (foreign : oc.target ≠ D.this)
      (plain : c.state.guarded = [] → s₁ = c.state)
      (judged : c.state.guarded ≠ [] → Judged D N c.outside msg c.state s₁ oc)
      (made : N.call c.outside oc.target oc.value oc.data = some y₁)
      (rest : Made D N msg calls ⟨s₁, y₁⟩ c') : Made D N msg (oc :: calls) c c'

theorem made_of_gate {calls : List OwnerCall} {s₁ : State} {y₁ : Y}
    (hgate : gate D msg N c.outside oc c.state = .ok ((), s₁))
    (hcall : N.call c.outside oc.target oc.value oc.data = some y₁)
    (hrest : Made D N msg calls ⟨s₁, y₁⟩ c') : Made D N msg (oc :: calls) c c' := by
  obtain ⟨hforeign, hplain | hjudged⟩ := gate_ok hgate
  · exact .call hforeign (fun _ => hplain.2) (fun h => absurd hplain.1 h) hcall hrest
  · exact .call hforeign (fun h => absurd h hjudged.1) (fun _ => hjudged.2) hcall hrest

theorem batch_ok {calls : List OwnerCall} (ok : batch D msg N calls c = .ok ((), c')) :
    Made D N msg calls c c' := by
  induction calls generalizing c with
  | nil =>
    obtain rfl : c' = c := (Prod.mk.inj (Tx.pure_ok.mp ok)).2
    exact .done
  | cons oc calls ih =>
    rw [batch, Tx.bind_ok] at ok
    obtain ⟨⟨⟩, c₁, hgate, ok⟩ := ok
    obtain ⟨s₁, hs₁, rfl⟩ := onAccount_ok.mp hgate
    rw [Tx.bind_ok] at ok
    obtain ⟨⟨⟩, c₂, hcall, ok⟩ := ok
    obtain ⟨y₁, hy₁, rfl⟩ := callOut_ok hcall
    exact made_of_gate hs₁ hy₁ (ih ok)

theorem ownerOnly_ok (ok : onAccount (fun _ => checkOwner msg) c = .ok ((), c')) :
    msg.sender = c.state.owner ∧ c' = c := by
  obtain ⟨s', hs', rfl⟩ := onAccount_ok.mp ok
  obtain ⟨hsender, rfl⟩ := checkOwner_ok hs'
  exact ⟨hsender, rfl⟩

theorem execute_ok (ok : execute D msg N oc c = .ok ((), c')) : Made D N msg [oc] c c' := by
  rw [execute, Tx.bind_ok] at ok
  obtain ⟨⟨⟩, c₀, howner, ok⟩ := ok
  obtain ⟨hsender, rfl⟩ := ownerOnly_ok howner
  rw [Tx.bind_ok] at ok
  obtain ⟨⟨⟩, c₁, hgate, ok⟩ := ok
  obtain ⟨s₁, hs₁, rfl⟩ := onAccount_ok.mp hgate
  obtain ⟨y₁, hy₁, rfl⟩ := callOut_ok ok
  exact made_of_gate hs₁ hy₁ .done

theorem executeBatch_ok {calls : List OwnerCall}
    (ok : executeBatch D msg N calls c = .ok ((), c')) : Made D N msg calls c c' := by
  rw [executeBatch, Tx.bind_ok] at ok
  obtain ⟨⟨⟩, c₀, howner, ok⟩ := ok
  obtain ⟨hsender, rfl⟩ := ownerOnly_ok howner
  exact batch_ok ok

theorem sweep_ok {token payee : EvmAddress} {amount : Uint256}
    (ok : sweep D msg N token payee amount c = .ok ((), c')) :
    (c.state.guarded = [] ∧ c'.state = c.state) ∨ (c.state.guarded ≠ [] ∧
      (∃ row, Spendable D msg c.state ACCOUNT_SCOPE Selector.sweep (D.ownCall msg) row) ∧
      c'.state = c.state.deleteSchedule ACCOUNT_SCOPE Selector.sweep) := by
  rw [sweep, Tx.bind_ok] at ok
  obtain ⟨⟨⟩, c₀, howner, ok⟩ := ok
  obtain ⟨hsender, rfl⟩ := ownerOnly_ok howner
  rw [Tx.bind_ok] at ok
  obtain ⟨⟨⟩, c₁, hgate, ok⟩ := ok
  obtain ⟨s₁, hs₁, rfl⟩ := onAccount_ok.mp hgate
  simp only [Tx.bind_read_ok, Tx.bind_expectTrap_ok, Tx.modify_ok] at ok
  obtain ⟨y, -, hc'⟩ := ok
  obtain rfl : c' = _ := (Prod.mk.inj hc').2
  exact gateSelf_ok hs₁

/-! ## Any call -/

/-- Any number of moves. -/
abbrev Moves (D : Deployment) (msg : Message) : State → State → Prop :=
  Relation.ReflTransGen (Move D msg)

theorem Made.moves {calls : List OwnerCall} (h : Made D N msg calls c c') :
    Moves D msg c.state c'.state := by
  induction h with
  | done => exact .refl
  | @call oc calls c c' s₁ y₁ foreign plain judged made rest ih =>
    have hmove : Move D msg c.state s₁ := by
      by_cases hguarded : c.state.guarded = []
      · exact plain hguarded ▸ .same
      · exact (judged hguarded).move
    exact Relation.ReflTransGen.head hmove ih

/-- The calls that store no announcement. -/
def Call.stores : Call → Bool
  | .schedule .. => true
  | _ => false

theorem moves_of_exec {call : Call} (hkeys : ∀ adId, D.adKey adId ≠ ACCOUNT_SCOPE)
    (hcall : call.stores = false) (ok : exec D N msg call c = .ok ((), c')) :
    Moves D msg c.state c'.state := by
  cases call with
  | setGuardRail adId rail =>
    rw [exec] at ok
    obtain ⟨s', hs', rfl⟩ := onAccount_ok.mp ok
    apply Relation.ReflTransGen.single
    obtain ⟨-, hbounds, hloosened | harmed⟩ := setGuardRail_ok (hkeys adId) hs'
    · obtain ⟨g, row, hg, -, -, ⟨bucket, hguards⟩, hroster, -, -, hrows⟩ := hloosened
      exact .loosened hbounds hg hguards hroster hrows
    · obtain ⟨htight, ⟨bucket, hguards⟩, hroster, -, -, hrows⟩ := harmed
      exact .armed hbounds htight hguards hroster hrows
  | disarmGuardRail adId =>
    rw [exec] at ok
    obtain ⟨s', hs', rfl⟩ := onAccount_ok.mp ok
    exact .single (disarmGuardRail_ok (hkeys adId) hs').2.move
  | disarmClosedAd adManager adId =>
    rw [exec] at ok
    obtain ⟨s', hs', rfl⟩ := onAccount_ok.mp ok
    exact .single (disarmClosedAd_ok (hkeys adId) hs').move
  | schedule scope oc => cases hcall
  | cancel scope action =>
    rw [exec] at ok
    obtain ⟨s', hs', rfl⟩ := onAccount_ok.mp ok
    exact .single (.of_spent (cancel_ok hs'))
  | transferOwnership newOwner =>
    rw [exec] at ok
    obtain ⟨s', hs', rfl⟩ := onAccount_ok.mp ok
    apply Relation.ReflTransGen.single
    obtain ⟨-, -, -, -, ⟨-, hplain⟩ | ⟨-, -, -, hspent⟩⟩ := transferOwnership_ok hs'
    · subst hplain
      exact .kept rfl rfl rfl
    · subst hspent
      exact .removed rfl rfl rfl
  | acceptOwnership =>
    rw [exec] at ok
    obtain ⟨s', hs', rfl⟩ := onAccount_ok.mp ok
    obtain ⟨-, rfl⟩ := acceptOwnership_ok hs'
    exact .single (.kept rfl rfl rfl)
  | execute oc =>
    rw [exec] at ok
    exact (execute_ok ok).moves
  | executeBatch calls =>
    rw [exec] at ok
    exact (executeBatch_ok ok).moves
  | sweep token payee amount =>
    rw [exec] at ok
    apply Relation.ReflTransGen.single
    rcases sweep_ok ok with ⟨-, hplain⟩ | ⟨-, -, hspent⟩
    · exact hplain ▸ .same
    · exact .of_spent hspent
  | batchRest calls =>
    rw [exec] at ok
    exact (batch_ok ok).moves

end CustodyAccount
end ProofBridge
