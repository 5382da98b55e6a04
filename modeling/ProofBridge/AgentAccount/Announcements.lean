import ProofBridge.AgentAccount.Volume

/-!
# The owner's announcements

While an ad is guarded, what loosens or extracts is announced first: `schedule` stores a row under a
scope and an action, and the call itself spends it. `BrakeStep` says once what any accepted call does
to the guard rails, to the roster of guarded ads and to the stored rows; every result about the brake
is derived from it.
-/

namespace ProofBridge
namespace AgentAccount

open ContractLib

variable {Y : Type} {N : Neighbors Y} {H : AccountHost} {env : Env} {c c' : Chain Y} {s s' : State}
  {scope : Scope} {action : Symbol} {adId : AdId}

/-! ## Stored rows -/

/-- The row stored under a scope and an action. -/
def State.row (s : State) (scope : Scope) (action : Symbol) : Option Schedule :=
  s.schedules.get? (scope, action)

/-- A row that opens no earlier than `notBefore`, its window kept. -/
def Schedule.restamped (notBefore : ℕ) (row : Schedule) : Schedule :=
  if row.readyAt < notBefore then
    { row with
      readyAt := notBefore
      expiresAt := saturatingAdd row.expiresAt (notBefore - row.readyAt) }
  else row

/-- A row that closes within `window` of its open time. -/
def Schedule.clamped (window : ℕ) (row : Schedule) : Schedule :=
  if saturatingAdd row.readyAt window < row.expiresAt then
    { row with expiresAt := saturatingAdd row.readyAt window }
  else row

theorem row_clearSchedule {scope' : Scope} {action' : Symbol} :
    (s.clearSchedule scope' action').row scope action
      = if scope = scope' ∧ action = action' then none else s.row scope action := by
  unfold State.clearSchedule State.row
  rw [Map.get?_remove]
  simp only [Prod.mk.injEq]

theorem row_setSchedule {scope' : Scope} {action' : Symbol} {row : Schedule} :
    (s.setSchedule scope' action' row).row scope action
      = if scope = scope' ∧ action = action' then some row else s.row scope action := by
  unfold State.setSchedule State.row
  rw [Map.get?_set]
  simp only [Prod.mk.injEq]

theorem row_clears {scope' : Scope} {actions : List Symbol} :
    (actions.foldl (fun s a => s.clearSchedule scope' a) s).row scope action
      = if scope = scope' ∧ action ∈ actions then none else s.row scope action := by
  induction actions generalizing s with
  | nil => simp
  | cons a actions ih =>
    rw [List.foldl_cons, ih, row_clearSchedule]
    by_cases hscope : scope = scope'
    · by_cases haction : action = a
      · simp [hscope, haction]
      · simp [hscope, haction]
    · simp [hscope]

/-- Clearing takes every row of the ad and of the account. -/
theorem row_clearAllSchedules :
    (s.clearAllSchedules adId).row scope action
      = if (scope = .ad adId ∨ scope = .account) ∧ action ∈ actionsFor scope then none
        else s.row scope action := by
  unfold State.clearAllSchedules
  rw [List.foldl_cons, List.foldl_cons, List.foldl_nil, row_clears, row_clears]
  by_cases had : scope = .ad adId
  · simp [had]
  · by_cases haccount : scope = .account
    · simp [haccount]
    · simp [had, haccount]

theorem row_restampAction {scope' : Scope} {f : Schedule → Schedule} {a : Symbol} :
    (State.restampAction scope' f s a).row scope action
      = if scope = scope' ∧ action = a then (s.row scope action).map f else s.row scope action := by
  unfold State.restampAction
  by_cases hkey : scope = scope' ∧ action = a
  · obtain ⟨rfl, rfl⟩ := hkey
    rw [if_pos ⟨rfl, rfl⟩]
    cases hrow : s.schedules.get? (scope, action) with
    | some row =>
      dsimp only
      rw [row_setSchedule, if_pos ⟨rfl, rfl⟩]
      unfold State.row
      rw [hrow]
      rfl
    | none =>
      unfold State.row
      dsimp only
      rw [hrow]
      rfl
  · rw [if_neg hkey]
    split
    · rw [row_setSchedule, if_neg hkey]
    · rfl

/-- A pass over a scope's actions rewrites each of its rows once. -/
theorem row_restampActions {scope' : Scope} {f : Schedule → Schedule} {actions : List Symbol}
    (hnodup : actions.Nodup) :
    (actions.foldl (State.restampAction scope' f) s).row scope action
      = if scope = scope' ∧ action ∈ actions then (s.row scope action).map f
        else s.row scope action := by
  induction actions generalizing s with
  | nil => simp
  | cons a actions ih =>
    obtain ⟨hfresh, hnodup⟩ := List.nodup_cons.mp hnodup
    rw [List.foldl_cons, ih hnodup, row_restampAction]
    by_cases hscope : scope = scope'
    · by_cases haction : action = a
      · subst haction
        simp [hscope, hfresh]
      · simp [hscope, haction]
    · simp [hscope]

theorem actionsFor_nodup : (actionsFor scope).Nodup := by
  cases scope with
  | ad adId =>
    show adActions.Nodup
    decide
  | account =>
    show accountActions.Nodup
    decide

theorem row_restamp {scope' : Scope} {notBefore : ℕ} :
    (s.restamp scope' notBefore).row scope action
      = if scope = scope' ∧ action ∈ actionsFor scope' then
          (s.row scope action).map (Schedule.restamped notBefore)
        else s.row scope action :=
  row_restampActions actionsFor_nodup

theorem row_clampWindows {scope' : Scope} {window : ℕ} :
    (s.clampWindows scope' window).row scope action
      = if scope = scope' ∧ action ∈ actionsFor scope' then
          (s.row scope action).map (Schedule.clamped window)
        else s.row scope action :=
  row_restampActions actionsFor_nodup

/-! ## The guard rails -/

/-- The guard rails and the roster of guarded ads. -/
def State.rails (s : State) : Map AdId GuardRail × List AdId := (s.guardRails, s.guardedAds)

theorem rails_foldl {α : Type} {f : State → α → State} {items : List α} {s : State}
    (hf : ∀ s a, (f s a).rails = s.rails) : (items.foldl f s).rails = s.rails := by
  induction items generalizing s with
  | nil => rfl
  | cons a items ih => exact ih.trans (hf s a)

theorem rails_clearAllSchedules : (s.clearAllSchedules adId).rails = s.rails :=
  rails_foldl fun _ _ => rails_foldl fun _ _ => rfl

theorem rails_restamps {f : Schedule → Schedule} :
    ((actionsFor scope).foldl (State.restampAction scope f) s).rails = s.rails := by
  apply rails_foldl
  intro s a
  unfold State.restampAction
  split <;> rfl

theorem accountTimelock_congr (h : s'.rails = s.rails) : s'.accountTimelock = s.accountTimelock := by
  obtain ⟨hrails, hroster⟩ := Prod.mk.inj h
  unfold State.accountTimelock State.timelockWithout
  rw [hrails, hroster]

/-- What a rail asks of the account: its delay and its window. -/
def GuardRail.timing (g : GuardRail) : ℕ × ℕ := (g.delay.toNat, g.window.toNat)

/-- The members a timelock is taken over: the guarded ads but one, with their timings. -/
def State.railed (s : State) (skip : Option AdId) (adId : AdId) (t : ℕ × ℕ) : Prop :=
  adId ∈ s.guardedAds ∧ skip ≠ some adId ∧ (s.guardRails.get? adId).map GuardRail.timing = some t

/-- `t` is the longest delay and the shortest window over the guarded ads but `skip`. -/
structure IsTimelock (s : State) (skip : Option AdId) (t : ℕ × ℕ) : Prop where
  delay_le : ∀ adId m, s.railed skip adId m → m.1 ≤ t.1
  le_window : ∀ adId m, s.railed skip adId m → t.2 ≤ m.2
  delay_eq : t.1 = 0 ∨ ∃ adId m, s.railed skip adId m ∧ t.1 = m.1
  window_le : t.2 ≤ maxU64
  window_eq : t.2 = maxU64 ∨ ∃ adId m, s.railed skip adId m ∧ t.2 = m.2

theorem timelock_foldlM {skip : Option AdId} {ads : List AdId} {t t' : ℕ × ℕ}
    (ok : (ads.foldlM (fun t adId =>
      if skip = some adId then pure t
      else do
        let g ← Check.expect (s.guardRails.get? adId) .guardRailArchived
        pure (max t.1 g.delay.toNat, min t.2 g.window.toNat)) t
          : Check AccountError (ℕ × ℕ)) = .ok t') :
    (t.1 ≤ t'.1 ∧ t'.2 ≤ t.2) ∧
      (∀ adId ∈ ads, skip ≠ some adId → ∀ g, s.guardRails.get? adId = some g →
        g.delay.toNat ≤ t'.1 ∧ t'.2 ≤ g.window.toNat) ∧
      (t'.1 = t.1 ∨ ∃ adId ∈ ads, skip ≠ some adId ∧
        ∃ g, s.guardRails.get? adId = some g ∧ t'.1 = g.delay.toNat) ∧
      (t'.2 = t.2 ∨ ∃ adId ∈ ads, skip ≠ some adId ∧
        ∃ g, s.guardRails.get? adId = some g ∧ t'.2 = g.window.toNat) := by
  induction ads generalizing t with
  | nil =>
    cases ok
    exact ⟨⟨le_rfl, le_rfl⟩, (fun _ h => by cases h), .inl rfl, .inl rfl⟩
  | cons a ads ih =>
    rw [List.foldlM_cons] at ok
    split at ok
    · next hskip =>
      obtain ⟨hbounds, hall, hdelay, hwindow⟩ := ih ok
      refine ⟨hbounds, ?_, ?_, ?_⟩
      · intro adId hmem hne
        rcases List.mem_cons.mp hmem with rfl | hmem
        · exact absurd hskip hne
        · exact hall adId hmem hne
      · rcases hdelay with hdelay | ⟨adId, hmem, h⟩
        · exact .inl hdelay
        · exact .inr ⟨adId, List.mem_cons_of_mem _ hmem, h⟩
      · rcases hwindow with hwindow | ⟨adId, hmem, h⟩
        · exact .inl hwindow
        · exact .inr ⟨adId, List.mem_cons_of_mem _ hmem, h⟩
    · next hskip =>
      rw [bind_assoc] at ok
      obtain ⟨g, hg, ok⟩ := Check.bind_ok.mp ok
      rw [Check.expect_ok] at hg
      obtain ⟨⟨hle, hge⟩, hall, hdelay, hwindow⟩ := ih ok
      dsimp only at hle hge hdelay hwindow
      refine ⟨⟨(le_max_left _ _).trans hle, hge.trans (min_le_left _ _)⟩, ?_, ?_, ?_⟩
      · intro adId hmem hne g' hg'
        rcases List.mem_cons.mp hmem with rfl | hmem
        · rw [hg] at hg'
          cases hg'
          exact ⟨(le_max_right _ _).trans hle, hge.trans (min_le_right _ _)⟩
        · exact hall adId hmem hne g' hg'
      · rcases hdelay with hdelay | ⟨adId, hmem, h⟩
        · rcases max_choice t.1 g.delay.toNat with hmax | hmax
          · exact .inl (hdelay.trans hmax)
          · exact .inr ⟨a, List.mem_cons_self, hskip, g, hg, hdelay.trans hmax⟩
        · exact .inr ⟨adId, List.mem_cons_of_mem _ hmem, h⟩
      · rcases hwindow with hwindow | ⟨adId, hmem, h⟩
        · rcases min_choice t.2 g.window.toNat with hmin | hmin
          · exact .inl (hwindow.trans hmin)
          · exact .inr ⟨a, List.mem_cons_self, hskip, g, hg, hwindow.trans hmin⟩
        · exact .inr ⟨adId, List.mem_cons_of_mem _ hmem, h⟩

theorem isTimelock_of_ok {skip : Option AdId} {t : ℕ × ℕ} (ok : s.timelockWithout skip = .ok t) :
    IsTimelock s skip t := by
  obtain ⟨⟨-, hle⟩, hall, hdelay, hwindow⟩ := timelock_foldlM ok
  refine ⟨?_, ?_, ?_, hle, ?_⟩
  · rintro adId m ⟨hmem, hne, hm⟩
    obtain ⟨g, hg, rfl⟩ := Option.map_eq_some_iff.mp hm
    exact (hall adId hmem hne g hg).1
  · rintro adId m ⟨hmem, hne, hm⟩
    obtain ⟨g, hg, rfl⟩ := Option.map_eq_some_iff.mp hm
    exact (hall adId hmem hne g hg).2
  · refine hdelay.imp_right fun ⟨adId, hmem, hne, g, hg, heq⟩ => ⟨adId, g.timing, ⟨hmem, hne, ?_⟩, heq⟩
    rw [hg]
    rfl
  · refine hwindow.imp_right fun ⟨adId, hmem, hne, g, hg, heq⟩ => ⟨adId, g.timing, ⟨hmem, hne, ?_⟩, heq⟩
    rw [hg]
    rfl

/-- With a rail for every other guarded ad there is a timelock. -/
theorem timelockWithout_total {skip : Option AdId}
    (h : ∀ adId ∈ s.guardedAds, skip ≠ some adId → (s.guardRails.get? adId).isSome = true) :
    ∃ t, s.timelockWithout skip = .ok t := by
  unfold State.timelockWithout
  generalize (0, maxU64) = t
  generalize s.guardedAds = ads at h
  induction ads generalizing t with
  | nil => exact ⟨t, rfl⟩
  | cons a ads ih =>
    rw [List.foldlM_cons]
    have hrest := fun t => ih t fun adId hmem => h adId (List.mem_cons_of_mem _ hmem)
    split
    · exact hrest t
    · next hskip =>
      obtain ⟨g, hg⟩ := Option.isSome_iff_exists.mp (h a List.mem_cons_self hskip)
      rw [hg]
      exact hrest _

/-- The timelock is what its members make it. -/
theorem IsTimelock.eq {skip skip' : Option AdId} {t t' : ℕ × ℕ} (h : IsTimelock s skip t)
    (h' : IsTimelock s' skip' t') (hmembers : ∀ adId m, s.railed skip adId m ↔ s'.railed skip' adId m) :
    t = t' := by
  have hdelay : t.1 = t'.1 := by
    apply Nat.le_antisymm
    · rcases h.delay_eq with heq | ⟨adId, m, hrailed, heq⟩
      · exact heq ▸ Nat.zero_le _
      · exact heq ▸ h'.delay_le adId m ((hmembers adId m).mp hrailed)
    · rcases h'.delay_eq with heq | ⟨adId, m, hrailed, heq⟩
      · exact heq ▸ Nat.zero_le _
      · exact heq ▸ h.delay_le adId m ((hmembers adId m).mpr hrailed)
  have hwindow : t.2 = t'.2 := by
    apply Nat.le_antisymm
    · rcases h'.window_eq with heq | ⟨adId, m, hrailed, heq⟩
      · exact heq ▸ h.window_le
      · exact heq ▸ h.le_window adId m ((hmembers adId m).mpr hrailed)
    · rcases h.window_eq with heq | ⟨adId, m, hrailed, heq⟩
      · exact heq ▸ h'.window_le
      · exact heq ▸ h'.le_window adId m ((hmembers adId m).mp hrailed)
  exact Prod.ext hdelay hwindow

/-- The account's timelock as arming reads it: none while nothing is guarded. -/
def State.timelockOr (s : State) : ℕ × ℕ :=
  match s.accountTimelock with
  | .ok t => t
  | .error _ => (0, maxU64)

theorem timelockOr_le : s.timelockOr.2 ≤ maxU64 := by
  unfold State.timelockOr
  split
  · next t ht =>
    unfold State.accountTimelock at ht
    obtain ⟨-, -, ht⟩ := Check.bind_ok.mp ht
    exact (isTimelock_of_ok ht).window_le
  · exact le_rfl

/-! ## What a call has to announce -/

/-- The owner's calls on a guarded ad that no threshold can pass. -/
def alwaysAnnounced (fnName : Symbol) : Bool :=
  fnName = "close_ad" || fnName = "set_settlement_signer"

/-- The announcement an escrow call needs. -/
def escrowAnnouncement (s : State) (fnName : Symbol) (args : List Value) :
    Option (Scope × Symbol × List Value) :=
  if fnName = "resume_settlement" then
    if s.anyGuarded then some (.account, fnName, args) else none
  else if fnName ∈ ["withdraw_from_ad", "close_ad", "lock_for_order", "set_settlement_signer"] then
    match decodeAdCall fnName args with
    | .ok (adId, amount) =>
      if s.isGuarded adId then
        match s.guardRails.get? adId with
        | some g =>
          if alwaysAnnounced fnName ∨ g.threshold.toNat < amount then some (.ad adId, fnName, args)
          else none
        | none => none
      else none
    | .error _ => none
  else none

/-- The account's own call, announced where it loosens while an ad is guarded. -/
def accountAnnouncement (s : State) (loosens : Bool) (action : Symbol) (args : List Value) :
    Option (Scope × Symbol × List Value) :=
  if s.anyGuarded && loosens then some (.account, action, args) else none

/-- The policy a `set_policy` installs, before any bucket is carried over. -/
def newPolicy (allowedAction : Symbol) (adTokens : List TokenLimit) (orderTokens : List BytesN32)
    (validUntil : U64) (settlementSigner : BytesN32) (adScope : Option (List AdId)) :
    AgentPolicy where
  allowedAction
  adTokens
  orderTokens
  validUntil
  revoked := false
  settlementSigner
  adScope
  buckets := []

/-- The write is no wider than the live policy. -/
def tightensPolicy (s : State) (agentId : BytesN32) (p : AgentPolicy) : Bool :=
  ((s.policies.get? agentId).filter fun cur => isPolicyTightening cur p).isSome

/-- The announcement a call has to spend in a state: its scope, its action and the arguments it
commits to. -/
def Call.announcement (s : State) : Call → Option (Scope × Symbol × List Value)
  | .setTargets targets => accountAnnouncement s (targets.any fun t => t ∉ s.targets) "set_targets"
      [.vec (targets.map Value.address)]
  | .setPolicy agentId allowedAction adTokens orderTokens validUntil settlementSigner adScope =>
    let p := newPolicy allowedAction adTokens orderTokens validUntil settlementSigner adScope
    accountAnnouncement s (!tightensPolicy s agentId p) "set_policy" (policyArgs agentId p)
  | .setAccountLimit token limit => accountAnnouncement s
      (!isLimitTightening (s.volumes.get? token) limit) "set_account_limit"
      [.bytes32 token, Value.ofLimit limit]
  | .setGuardRail adId guardRail =>
    if loosens (s.guardRails.get? adId) guardRail then
      some (.ad adId, "set_guard_rail", guardRailArgs adId guardRail)
    else none
  | .upgrade newWasmHash => accountAnnouncement s true "upgrade" [.bytes32 newWasmHash]
  | .sweep token payee amount => accountAnnouncement s true "sweep"
      [.address token, .address payee, .u128 amount]
  | .call _ fnName args _ _ => escrowAnnouncement s fnName args
  | _ => none

/-- A stored row that this call may spend now. -/
def Spendable (H : AccountHost) (env : Env) (s : State) (scope : Scope) (action : Symbol)
    (args : List Value) : Prop :=
  ∃ row, s.row scope action = some row ∧ row.commitment = H.argsCommitment args ∧
    row.readyAt ≤ env.now ∧ env.now < row.expiresAt

theorem spend_ok {args : List Value} (ok : spend H env scope action args c = .ok ((), c')) :
    Spendable H env c.state scope action args ∧
      c' = { c with state := c.state.clearSchedule scope action } := by
  simp only [spend, Tx.bind_read_ok, Tx.bind_expect_ok, Tx.bind_require_ok, Tx.modify_ok,
    Prod.mk.injEq, true_and, not_or, not_lt, not_le, not_not, ne_eq] at ok
  obtain ⟨row, hrow, ⟨hcommitment, hready, hexpires⟩, rfl⟩ := ok
  exact ⟨⟨row, hrow, hcommitment, hready, hexpires⟩, rfl⟩

theorem spendIf_ok {loosens : Bool} {args : List Value}
    (ok : spendIf H env loosens action args c = .ok ((), c')) :
    (accountAnnouncement c.state loosens action args = none ∧ c' = c) ∨
      (accountAnnouncement c.state loosens action args = some (.account, action, args) ∧
        Spendable H env c.state .account action args ∧
        c' = { c with state := c.state.clearSchedule .account action }) := by
  unfold accountAnnouncement
  simp only [spendIf, Tx.bind_read_ok, Tx.ite_apply] at ok
  split at ok
  · next hguarded =>
    obtain ⟨hspendable, hc'⟩ := spend_ok ok
    exact .inr ⟨if_pos hguarded, hspendable, hc'⟩
  · next hguarded =>
    obtain ⟨-, rfl⟩ := Prod.mk.inj (Tx.pure_ok.mp ok)
    exact .inl ⟨if_neg hguarded, rfl⟩

/-! ## Retiming -/

/-- A pending row under a delay that rose to `armed`'s. -/
def Schedule.raised (env : Env) (before : ℕ) (armed : GuardRail) (row : Schedule) : Schedule :=
  if before < armed.delay.toNat then row.restamped (env.now + armed.delay.toNat) else row

/-- A pending row under a window that shrank. -/
def Schedule.shortened (before window : ℕ) (row : Schedule) : Schedule :=
  if window < before then row.clamped window else row

/-- What arming or tightening an ad's rail makes of a pending row, from the settings `s` before and
`s'` after. -/
def retimed (env : Env) (s s' : State) (adId : AdId) (armed : GuardRail) (scope : Scope)
    (row : Schedule) : Schedule :=
  match scope with
  | .ad adId' =>
    let current := s.guardRails.get? adId
    if adId' = adId then
      (row.raised env ((current.map fun g => g.delay.toNat).getD 0) armed).shortened
        ((current.map fun g => g.window.toNat).getD maxU64) armed.window.toNat
    else row
  | .account =>
    (row.raised env s.timelockOr.1 armed).shortened s.timelockOr.2 s'.timelockOr.2

theorem raiseDelay_ok {before : ℕ} {armed : GuardRail} {scope' : Scope}
    (ok : raiseDelay env scope' before armed c = .ok ((), c')) :
    c'.state.rails = c.state.rails ∧ ∀ scope action, c'.state.row scope action
      = if scope = scope' ∧ action ∈ actionsFor scope' then
          (c.state.row scope action).map (Schedule.raised env before armed)
        else c.state.row scope action := by
  unfold raiseDelay at ok
  unfold Schedule.raised
  split at ok
  · next hlt =>
    simp only [Tx.bind_lift_ok, Check.add_ok, Tx.modify_ok, Prod.mk.injEq, true_and] at ok
    obtain ⟨notBefore, ⟨-, rfl⟩, rfl⟩ := ok
    refine ⟨rails_restamps, fun scope action => ?_⟩
    show (c.state.restamp scope' _).row scope action = _
    rw [row_restamp]
    simp only [hlt, if_true]
  · next hle =>
    obtain ⟨-, rfl⟩ := Prod.mk.inj (Tx.pure_ok.mp ok)
    refine ⟨rfl, fun scope action => ?_⟩
    simp only [hle, if_false, Option.map_id', ite_self]

theorem shortenWindow_ok {before window : ℕ} {scope' : Scope}
    (ok : shortenWindow scope' before window c = .ok ((), c')) :
    c'.state.rails = c.state.rails ∧ ∀ scope action, c'.state.row scope action
      = if scope = scope' ∧ action ∈ actionsFor scope' then
          (c.state.row scope action).map (Schedule.shortened before window)
        else c.state.row scope action := by
  unfold shortenWindow at ok
  unfold Schedule.shortened
  split at ok
  · next hlt =>
    obtain ⟨-, rfl⟩ := Prod.mk.inj (Tx.modify_ok.mp ok)
    refine ⟨rails_restamps, fun scope action => ?_⟩
    show (c.state.clampWindows scope' window).row scope action = _
    rw [row_clampWindows]
    simp only [hlt, if_true]
  · next hle =>
    obtain ⟨-, rfl⟩ := Prod.mk.inj (Tx.pure_ok.mp ok)
    refine ⟨rfl, fun scope action => ?_⟩
    simp only [hle, if_false, Option.map_id', ite_self]

theorem retime_ok {current : Option GuardRail} {armed : GuardRail} {accountBefore : ℕ × ℕ}
    (hbefore : accountBefore.2 ≤ maxU64)
    (ok : retime env adId current armed accountBefore c = .ok ((), c')) :
    c'.state.rails = c.state.rails ∧ ∀ scope action, c'.state.row scope action
      = if action ∈ actionsFor scope then
          (c.state.row scope action).map fun row => match scope with
            | .ad adId' =>
              if adId' = adId then
                (row.raised env ((current.map fun g => g.delay.toNat).getD 0) armed).shortened
                  ((current.map fun g => g.window.toNat).getD maxU64) armed.window.toNat
              else row
            | .account => (row.raised env accountBefore.1 armed).shortened accountBefore.2
                c'.state.timelockOr.2
        else c.state.row scope action := by
  obtain ⟨⟨⟩, c₁, hc₁, ok⟩ := Tx.bind_ok.mp ok
  obtain ⟨⟨⟩, c₂, hc₂, ok⟩ := Tx.bind_ok.mp ok
  obtain ⟨⟨⟩, c₃, hc₃, ok⟩ := Tx.bind_ok.mp ok
  obtain ⟨hrails₁, hrows₁⟩ := raiseDelay_ok hc₁
  obtain ⟨hrails₂, hrows₂⟩ := raiseDelay_ok hc₂
  obtain ⟨hrails₃, hrows₃⟩ := shortenWindow_ok hc₃
  rw [Tx.bind_read_ok] at ok
  have hlast : c'.state.rails = c₃.state.rails ∧ ∀ scope action, c'.state.row scope action
      = if scope = .account ∧ action ∈ actionsFor .account then
          (c₃.state.row scope action).map
            (Schedule.shortened accountBefore.2 c'.state.timelockOr.2)
        else c₃.state.row scope action := by
    cases htimelock : c₃.state.accountTimelock with
    | ok t =>
      rw [htimelock] at ok
      obtain ⟨hrails, hrows⟩ := shortenWindow_ok ok
      have hwindow : c'.state.timelockOr.2 = t.2 := by
        unfold State.timelockOr
        rw [accountTimelock_congr hrails, htimelock]
      rw [hwindow]
      exact ⟨hrails, hrows⟩
    | error e =>
      rw [htimelock] at ok
      obtain ⟨-, rfl⟩ := Prod.mk.inj (Tx.pure_ok.mp ok)
      refine ⟨rfl, fun scope action => ?_⟩
      have hwindow : c'.state.timelockOr.2 = maxU64 := by
        unfold State.timelockOr
        rw [htimelock]
      have hkept : Schedule.shortened accountBefore.2 maxU64 = id := by
        funext row
        exact if_neg (Nat.not_lt.mpr hbefore)
      rw [hwindow, hkept, Option.map_id, id, ite_self]
  obtain ⟨hrails₄, hrows₄⟩ := hlast
  refine ⟨hrails₄.trans (hrails₃.trans (hrails₂.trans hrails₁)), fun scope action => ?_⟩
  rw [hrows₄, hrows₃, hrows₂, hrows₁]
  by_cases haction : action ∈ actionsFor scope
  · rw [if_pos haction]
    cases scope with
    | account =>
      rw [if_pos ⟨rfl, haction⟩, if_neg (fun h => by cases h.1), if_pos ⟨rfl, haction⟩,
        if_neg (fun h => by cases h.1), Option.map_map]
      rfl
    | ad adId' =>
      rw [if_neg (fun h => by cases h.1)]
      by_cases had : adId' = adId
      · subst had
        rw [if_pos ⟨rfl, haction⟩, if_neg (fun h => by cases h.1), if_pos ⟨rfl, haction⟩,
          Option.map_map]
        simp only [if_true]
        rfl
      · have hne : ∀ a, ¬(Scope.ad adId' = .ad adId ∧ a) := fun a h => had (Scope.ad.inj h.1)
        rw [if_neg (hne _), if_neg (fun h => by cases h.1), if_neg (hne _)]
        simp only [had, if_false, Option.map_id']
  · have hnone : ∀ scope', ¬(scope = scope' ∧ action ∈ actionsFor scope') :=
      fun scope' h => haction (h.1 ▸ h.2)
    rw [if_neg (hnone _), if_neg (hnone _), if_neg (hnone _), if_neg (hnone _), if_neg haction]

end AgentAccount
end ProofBridge
