import ProofBridge.AgentAccount.BrakeStep
import ProofBridge.AgentAccount.VolumeRuns

/-!
# Pending announcements obey the settings in force

A row is stored under the delay and the window of its day. Later changes of the settings move it,
shorten it or take it away, so that in every reachable state each stored row waits out what is in
force now: its ad's timing, or the account's, which is the longest delay and the shortest window over
the guarded ads.
-/

namespace ProofBridge
namespace AgentAccount

open ContractLib

variable {Y : Type} {N : Neighbors Y} {H : AccountHost} {outside : Y → Y → Prop} {env : Env}
  {c c' : Chain Y} {s s' : State} {scope : Scope} {action : Symbol} {adId : AdId} {call : Call}
  {r : Ret} {h : History}

/-! ## A row and its timing -/

/-- The call announces a row anew. -/
def Call.announces (scope : Scope) (action : Symbol) : Call → Bool
  | .schedule scope' action' _ => scope' = scope && decide (action' = action)
  | _ => false

/-- When a row was last announced. -/
def announcedAt (scope : Scope) (action : Symbol) (h : History) : Option ℕ :=
  h.findSome? fun e => if e.1.2.announces scope action then some (timeOf e) else none

theorem announcedAt_cons {e : (Env × Call) × Ret} : announcedAt scope action (e :: h)
    = if e.1.2.announces scope action then some (timeOf e) else announcedAt scope action h := by
  unfold announcedAt
  rw [List.findSome?_cons]
  split <;> split <;> simp_all

theorem announcedAt_le {t : ℕ} (hlate : ∀ e ∈ h, timeOf e ≤ env.now)
    (ht : announcedAt scope action h = some t) : t ≤ env.now := by
  obtain ⟨e, he, heq⟩ := List.exists_of_findSome?_eq_some ht
  split at heq
  · cases heq
    exact hlate e he
  · cases heq

/-- A row announced at `t` that waits the delay and stays open for no more than the window. -/
structure Schedule.Obeys (row : Schedule) (t : ℕ) (timing : ℕ × ℕ) : Prop where
  waits : t + timing.1 ≤ row.readyAt
  closes : row.expiresAt ≤ row.readyAt + timing.2

theorem Schedule.Obeys.raised {row : Schedule} {t before : ℕ} {timing : ℕ × ℕ} {armed : GuardRail}
    {delay : ℕ} (hrow : row.Obeys t timing) (ht : t ≤ env.now)
    (hdelay : delay ≤ timing.1 ∨ before < armed.delay.toNat ∧ delay ≤ armed.delay.toNat) :
    (row.raised env before armed).Obeys t (delay, timing.2) := by
  obtain ⟨hwaits, hcloses⟩ := hrow
  unfold Schedule.raised Schedule.restamped saturatingAdd
  split
  · split
    · refine ⟨?_, ?_⟩ <;> dsimp only <;> omega
    · refine ⟨?_, ?_⟩ <;> dsimp only <;> omega
  · refine ⟨?_, ?_⟩ <;> dsimp only <;> omega

theorem Schedule.Obeys.shortened {row : Schedule} {t before window delay : ℕ}
    (hrow : row.Obeys t (delay, before)) : (row.shortened before window).Obeys t (delay, window) := by
  obtain ⟨hwaits, hcloses⟩ := hrow
  dsimp only at hwaits hcloses
  unfold Schedule.shortened Schedule.clamped saturatingAdd
  split
  · split
    · refine ⟨?_, ?_⟩ <;> dsimp only <;> omega
    · refine ⟨?_, ?_⟩ <;> dsimp only <;> omega
  · refine ⟨?_, ?_⟩ <;> dsimp only <;> omega

/-! ## The invariant -/

/-- The roster lists the ads that carry a rail, and every rail is within the bounds of a rail. -/
structure Rostered (s : State) : Prop where
  listed : ∀ adId, adId ∈ s.guardedAds ↔ (s.guardRails.get? adId).isSome = true
  delayed : ∀ adId g, s.guardRails.get? adId = some g → 0 < g.delay.toNat

theorem Rostered.congr (hs : Rostered s) (h : s'.rails = s.rails) : Rostered s' := by
  obtain ⟨hguards, hroster⟩ := Prod.mk.inj h
  refine ⟨?_, ?_⟩
  · rw [hguards, hroster]
    exact hs.listed
  · rw [hguards]
    exact hs.delayed

theorem Rostered.timelock (hs : Rostered s) (hguarded : s.guardedAds ≠ []) :
    ∃ t, s.accountTimelock = .ok t := by
  have htotal : ∃ t, s.timelockWithout none = .ok t :=
    timelockWithout_total fun adId hmem _ => (hs.listed adId).mp hmem
  obtain ⟨t, ht⟩ := htotal
  refine ⟨t, ?_⟩
  unfold State.accountTimelock
  exact Check.bind_ok.mpr ⟨(), Check.require_ok.mpr hguarded, ht⟩

theorem accountTimelock_ok {t : ℕ × ℕ} (ok : s.accountTimelock = .ok t) :
    s.guardedAds ≠ [] ∧ s.timelockWithout none = .ok t := by
  obtain ⟨⟨⟩, hguarded, ht⟩ := Check.bind_ok.mp ok
  exact ⟨Check.require_ok.mp hguarded, ht⟩

theorem guardRails_put {g : GuardRail} : (s.putGuardRail adId g).guardRails = s.guardRails.set adId g :=
  rfl

theorem mem_putGuardRail {g : GuardRail} {adId' : AdId} :
    adId' ∈ (s.putGuardRail adId g).guardedAds ↔ adId' = adId ∨ adId' ∈ s.guardedAds := by
  unfold State.putGuardRail
  dsimp only
  split
  · next hmem =>
    constructor
    · exact .inr
    · rintro (rfl | h)
      · exact hmem
      · exact h
  · rw [List.mem_append, List.mem_singleton, or_comm]

theorem Rostered.put {g : GuardRail} (hs : Rostered s) (hdelay : 0 < g.delay.toNat) :
    Rostered (s.putGuardRail adId g) := by
  refine ⟨fun adId' => ?_, fun adId' g' hg' => ?_⟩
  · rw [mem_putGuardRail, guardRails_put, Map.get?_set]
    split
    · next heq => simp [heq]
    · next hne => simp [hne, hs.listed]
  · rw [guardRails_put, Map.get?_set] at hg'
    split at hg'
    · cases hg'
      exact hdelay
    · exact hs.delayed adId' g' hg'

theorem Rostered.remove (hs : Rostered s) : Rostered (s.removeGuardRail adId) := by
  unfold State.removeGuardRail
  refine ⟨fun adId' => ?_, fun adId' g' hg' => ?_⟩
  · rw [List.mem_filter, Map.get?_remove, hs.listed]
    split
    · next heq => simp [heq]
    · next hne => simp [hne]
  · rw [Map.get?_remove] at hg'
    split at hg'
    · cases hg'
    · exact hs.delayed adId' g' hg'

theorem checkGuardBounds_ok {g : GuardRail} (ok : checkGuardBounds g = .ok ()) :
    0 < g.delay.toNat ∧ g.delay.toNat ≤ MAX_GUARD_DELAY ∧ MIN_GUARD_WINDOW ≤ g.window.toNat := by
  simp only [checkGuardBounds, Check.bind_ok, Check.require_ok, not_or, not_lt] at ok
  obtain ⟨⟨⟩, ⟨hdelay, -⟩, hmax, hmin⟩ := ok
  refine ⟨Nat.pos_of_ne_zero fun hzero => hdelay ?_, hmax, hmin⟩
  exact BitVec.eq_of_toNat_eq hzero

/-- Charging a rail's bucket is putting the rail back. -/
theorem rails_charged {g : GuardRail} {bucket : Bucket} (hguarded : s.isGuarded adId = true)
    (hrails : s'.rails = (s.guardRails.set adId { g with bucket }, s.guardedAds)) :
    s'.rails = (s.putGuardRail adId { g with bucket }).rails := by
  have hmem : adId ∈ s.guardedAds := of_decide_eq_true hguarded
  rw [hrails]
  unfold State.putGuardRail State.rails
  rw [if_pos hmem]

theorem Rostered.step (hs : Rostered s) (step : BrakeStep H env s s' call) : Rostered s' := by
  cases step with
  | kept hcall hnone hopen hrails hrows => exact hs.congr hrails
  | spent hcall hann hspendable hrails hrows => exact hs.congr hrails
  | scheduled hterms hrails hrows => exact hs.congr hrails
  | cancelled hrails hrows => exact hs.congr hrails
  | @charged _ _ _ _ _ adId _ g _ hfn hdecode hnone hguarded hg hthreshold hspend hrails hrows =>
    have hdelay : 0 < g.delay.toNat := hs.delayed adId g hg
    apply Rostered.congr _ (rails_charged hguarded hrails)
    exact hs.put hdelay
  | armed hbounds hfound htight harmed hrails hrows =>
    exact (hs.put (harmed ▸ (checkGuardBounds_ok hbounds).1)).congr hrails
  | loosened hbounds hloosens hspendable harmed hrails hrows =>
    exact (hs.put (harmed ▸ (checkGuardBounds_ok hbounds).1)).congr hrails
  | disarmed hspendable hfound hrails hrows => exact hs.remove.congr hrails
  | disarmedClosed hguarded hbefore hafter hkept hrails hrows => exact hs.remove.congr hrails

theorem rostered_new {owner : Address} {targets : List Address}
    (hnew : construct H owner targets = .ok s) : Rostered s := by
  simp only [construct, Check.bind_ok, Check.require_ok, Check.pure_ok] at hnew
  obtain ⟨-, -, -, -, rfl⟩ := hnew
  refine ⟨?_, ?_⟩
  · intro adId
    simp
  · intro adId g hg
    cases hg

theorem rostered_of_run {owner : Address} {targets : List Address} {s₀ : State} {y : Y}
    (hnew : construct H owner targets = .ok s₀)
    (run : Run (system N H outside) ⟨s₀, y⟩ h c) : Rostered c.state := by
  induction run with
  | start => exact rostered_new hnew
  | refused run failed ih => exact ih
  | outside run moved ih =>
    obtain ⟨y', -, rfl⟩ := moved
    exact ih
  | accepted run admitted ok ih => exact ih.step (brakeStep_of_exec ok)

theorem guards_of_removed (hrails : s'.rails = (s.removeGuardRail adId).rails) (adId' : AdId) :
    s'.guardRails.get? adId' = if adId' = adId then none else s.guardRails.get? adId' := by
  rw [(Prod.mk.inj hrails).1]
  exact Map.get?_remove _ _ _

/-- Every stored row was announced, and waits out the timing its scope has now. -/
structure Timely (h : History) (s : State) : Prop where
  rostered : Rostered s
  stored : ∀ scope action row, s.row scope action = some row → action ∈ actionsFor scope
  ofAd : ∀ adId action row, s.row (.ad adId) action = some row →
    ∃ g t, s.guardRails.get? adId = some g ∧ announcedAt (.ad adId) action h = some t ∧
      row.Obeys t g.timing
  ofAccount : ∀ action row, s.row .account action = some row →
    ∃ timing t, s.accountTimelock = .ok timing ∧ announcedAt .account action h = some t ∧
      row.Obeys t timing

/-! ## What one call does to it -/

/-- The timelock depends on the roster and on the timings of its rails alone. -/
theorem accountTimelock_of_timing {timing : ℕ × ℕ} (hrostered : Rostered s')
    (hroster : s'.guardedAds = s.guardedAds)
    (hsame : ∀ adId, (s'.guardRails.get? adId).map GuardRail.timing
      = (s.guardRails.get? adId).map GuardRail.timing)
    (ok : s.accountTimelock = .ok timing) : s'.accountTimelock = .ok timing := by
  obtain ⟨hguarded, ht⟩ := accountTimelock_ok ok
  obtain ⟨timing', ht'⟩ := hrostered.timelock (hroster ▸ hguarded)
  have hmembers : ∀ adId m, s.railed none adId m ↔ s'.railed none adId m := by
    intro adId m
    unfold State.railed
    rw [hroster, hsame]
  rw [ht', (isTimelock_of_ok ht).eq (isTimelock_of_ok (accountTimelock_ok ht').2) hmembers]

/-- No row is new and no timing changed. -/
theorem Timely.frame (hs : Timely h s) (hrostered : Rostered s')
    (hroster : s'.guardedAds = s.guardedAds)
    (hsame : ∀ adId, (s'.guardRails.get? adId).map GuardRail.timing
      = (s.guardRails.get? adId).map GuardRail.timing)
    (hrows : ∀ scope action row, s'.row scope action = some row → s.row scope action = some row)
    (hcall : ∀ scope action row, s'.row scope action = some row →
      call.announces scope action = false) :
    Timely (((env, call), r) :: h) s' := by
  refine ⟨hrostered, ?_, ?_, ?_⟩
  · intro scope action row hrow
    exact hs.stored scope action row (hrows scope action row hrow)
  · intro adId action row hrow
    obtain ⟨g, t, hg, ht, hobeys⟩ := hs.ofAd adId action row (hrows _ _ _ hrow)
    have htiming := hsame adId
    rw [hg] at htiming
    obtain ⟨g', hg', htiming⟩ := Option.map_eq_some_iff.mp htiming
    refine ⟨g', t, hg', ?_, htiming ▸ hobeys⟩
    rw [announcedAt_cons, hcall _ _ _ hrow]
    exact ht
  · intro action row hrow
    obtain ⟨timing, t, htiming, ht, hobeys⟩ := hs.ofAccount action row (hrows _ _ _ hrow)
    refine ⟨timing, t, accountTimelock_of_timing hrostered hroster hsame htiming, ?_, hobeys⟩
    rw [announcedAt_cons, hcall _ _ _ hrow]
    exact ht

/-- A loosened or disarmed rail takes every row its settings timed. -/
theorem Timely.cleared (hs : Timely h s) (hrostered : Rostered s')
    (hother : ∀ adId', adId' ≠ adId → s'.guardRails.get? adId' = s.guardRails.get? adId')
    (hrows : ClearedRows adId s s') (hcall : ∀ scope action, call.announces scope action = false) :
    Timely (((env, call), r) :: h) s' := by
  -- a row that is still there is one of another ad, as it was
  have hkept : ∀ scope action row, s'.row scope action = some row →
      s.row scope action = some row ∧ scope ≠ .ad adId ∧ scope ≠ .account := by
    intro scope action row hrow
    obtain ⟨hgone, hsame⟩ := hrows scope action
    by_cases hcleared : Cleared adId scope action
    · rw [hgone hcleared] at hrow
      cases hrow
    · rw [hsame hcleared] at hrow
      have haction := hs.stored scope action row hrow
      have hscope : ¬(scope = .ad adId ∨ scope = .account) := fun h => hcleared ⟨h, haction⟩
      exact ⟨hrow, fun h => hscope (.inl h), fun h => hscope (.inr h)⟩
  refine ⟨hrostered, ?_, ?_, ?_⟩
  · intro scope action row hrow
    exact hs.stored scope action row (hkept scope action row hrow).1
  · intro adId' action row hrow
    obtain ⟨hold, hne, -⟩ := hkept _ _ _ hrow
    obtain ⟨g, t, hg, ht, hobeys⟩ := hs.ofAd adId' action row hold
    refine ⟨g, t, ?_, ?_, hobeys⟩
    · rw [hother adId' fun heq => hne (heq ▸ rfl)]
      exact hg
    · rw [announcedAt_cons, hcall]
      exact ht
  · intro action row hrow
    exact absurd rfl (hkept _ _ _ hrow).2.2

/-- A schedule names an action of its scope, and takes the timing of its scope. -/
theorem scheduleTerms_ok {args args' : List Value} {delay window : ℕ}
    (ok : scheduleTerms scope action args s = .ok (args', delay, window)) :
    action ∈ actionsFor scope ∧ match scope with
      | .ad adId => ∃ g, s.guardRails.get? adId = some g ∧ g.timing = (delay, window)
      | .account => s.accountTimelock = .ok (delay, window) := by
  cases scope with
  | ad adId =>
    unfold scheduleTerms at ok
    dsimp only at ok
    obtain ⟨⟨named, amount⟩, hdecode, ok⟩ := Check.bind_ok.mp ok
    obtain ⟨⟨⟩, -, ok⟩ := Check.bind_ok.mp ok
    -- whatever the arguments, the ad's own rail times the row
    have htimed : ∃ g, guardRailForSchedule adId s = .ok g ∧ g.timing = (delay, window) := by
      have hlast : ∀ args'' : List Value, ((do
          let args ← pure args''
          let g ← guardRailForSchedule adId s
          pure (args, g.delay.toNat, g.window.toNat) : Check AccountError _)
            = .ok (args', delay, window)) →
          ∃ g, guardRailForSchedule adId s = .ok g ∧ g.timing = (delay, window) := by
        intro args'' ok
        obtain ⟨g, hg, ok⟩ := Check.bind_ok.mp (Check.ok_bind ▸ ok)
        cases ok
        exact ⟨g, hg, rfl⟩
      split at ok
      · obtain ⟨next, -, ok⟩ := Check.bind_ok.mp ok
        cases next with
        | none => exact hlast _ (Check.ok_bind ▸ ok)
        | some g =>
          obtain ⟨⟨⟩, -, ok⟩ := Check.bind_ok.mp ok
          exact hlast _ ok
      · exact hlast _ ok
    obtain ⟨g, hg, htiming⟩ := htimed
    refine ⟨?_, g, ?_, htiming⟩
    · show action ∈ adActions
      unfold decodeAdCall at hdecode
      split at hdecode
      · next heq => exact heq ▸ by decide
      split at hdecode
      · next heq => exact heq ▸ by decide
      split at hdecode
      · next heq => exact heq ▸ by decide
      split at hdecode
      · next heq => exact heq ▸ by decide
      split at hdecode
      · next heq => exact heq ▸ by decide
      · cases hdecode
    · unfold guardRailForSchedule at hg
      split at hg
      · next g' hg' =>
        cases hg
        exact hg'
      · cases hg
  | account =>
    unfold scheduleTerms at ok
    dsimp only at ok
    obtain ⟨⟨⟩, hcheck, ok⟩ := Check.bind_ok.mp ok
    obtain ⟨timing, htiming, ok⟩ := Check.bind_ok.mp ok
    rw [Check.pure_ok] at ok
    cases ok
    refine ⟨?_, htiming⟩
    show action ∈ accountActions
    unfold checkAccountCall at hcheck
    split at hcheck
    · next heq => exact heq ▸ by decide
    split at hcheck
    · next heq => exact heq ▸ by decide
    split at hcheck
    · next heq => exact heq ▸ by decide
    split at hcheck
    · next heq => exact heq ▸ by decide
    split at hcheck
    · next heq => exact heq ▸ by decide
    split at hcheck
    · next heq => exact heq ▸ by decide
    · cases hcheck

theorem not_announces (hcall : call.writesBrake = false) : call.announces scope action = false := by
  cases call <;> first | rfl | cases hcall

theorem row_of_same (h : s'.schedules = s.schedules) : s'.row scope action = s.row scope action := by
  unfold State.row
  rw [h]

theorem row_of_removed {scope' : Scope} {action' : Symbol} {row : Schedule}
    (h : s'.schedules = s.schedules.remove (scope', action')) (hrow : s'.row scope action = some row) :
    s.row scope action = some row ∧ ¬(scope = scope' ∧ action = action') := by
  unfold State.row at hrow ⊢
  rw [h, Map.get?_remove] at hrow
  split at hrow
  · cases hrow
  · next hne => exact ⟨hrow, fun heq => hne (Prod.ext heq.1 heq.2)⟩

/-- A rail's settings are what the owner names; only its bucket is settled. -/
theorem timing_settleRail {current : Option GuardRail} {g : GuardRail} {now : U64} :
    (settleRail current g now).timing = g.timing := rfl

theorem railed_put {g : GuardRail} {adId' : AdId} {m : ℕ × ℕ}
    (hrails : s'.rails = (s.putGuardRail adId g).rails) :
    s'.railed none adId' m ↔
      (adId' = adId ∧ m = g.timing) ∨ (adId' ≠ adId ∧ s.railed none adId' m) := by
  obtain ⟨hguards, hroster⟩ := Prod.mk.inj hrails
  unfold State.railed
  rw [hguards, hroster, mem_putGuardRail, guardRails_put, Map.get?_set]
  by_cases heq : adId' = adId
  · simp [heq, eq_comm]
  · simp [heq]

/-- After a rail is put the account waits no longer than before, or than that rail asks. -/
theorem delay_put {g : GuardRail} {t t' : ℕ × ℕ} (ht : IsTimelock s none t) (ht' : IsTimelock s' none t')
    (hrails : s'.rails = (s.putGuardRail adId g).rails) : t'.1 ≤ t.1 ∨ t'.1 ≤ g.delay.toNat := by
  rcases ht'.delay_eq with hzero | ⟨adId', m, hrailed, heq⟩
  · exact .inl (hzero ▸ Nat.zero_le _)
  · rcases (railed_put hrails).mp hrailed with ⟨-, rfl⟩ | ⟨-, hold⟩
    · exact .inr (heq ▸ le_rfl)
    · exact .inl (heq ▸ ht.delay_le adId' m hold)

/-- Arming and tightening retime what is pending. -/
theorem Timely.armed (hs : Timely h s) (hlate : ∀ e ∈ h, timeOf e ≤ env.now) {armed : GuardRail}
    (hrostered : Rostered s')
    (hrails : s'.rails = (s.putGuardRail adId armed).rails)
    (hrows : ∀ scope action, s'.row scope action
      = if action ∈ actionsFor scope then
          (s.row scope action).map (retimed env s s' adId armed scope)
        else s.row scope action)
    (hcall : ∀ scope action, call.announces scope action = false) :
    Timely (((env, call), r) :: h) s' := by
  obtain ⟨hguards, hroster⟩ := Prod.mk.inj hrails
  have hpending : ∀ scope action row', s'.row scope action = some row' →
      ∃ row, s.row scope action = some row ∧ action ∈ actionsFor scope ∧
        row' = retimed env s s' adId armed scope row := by
    intro scope action row' hrow'
    rw [hrows] at hrow'
    split at hrow'
    · next haction =>
      obtain ⟨row, hrow, rfl⟩ := Option.map_eq_some_iff.mp hrow'
      exact ⟨row, hrow, haction, rfl⟩
    · next haction => exact absurd (hs.stored scope action row' hrow') haction
  refine ⟨hrostered, ?_, ?_, ?_⟩
  · intro scope action row' hrow'
    obtain ⟨row, -, haction, -⟩ := hpending scope action row' hrow'
    exact haction
  · intro adId' action row' hrow'
    obtain ⟨row, hrow, -, rfl⟩ := hpending _ action row' hrow'
    obtain ⟨cur, t, hcur, ht, hobeys⟩ := hs.ofAd adId' action row hrow
    have hannounced : announcedAt (.ad adId') action (((env, call), r) :: h) = some t := by
      rw [announcedAt_cons, hcall]
      exact ht
    unfold retimed
    dsimp only
    by_cases had : adId' = adId
    · -- the ad's own rows move with its rail
      subst had
      refine ⟨armed, t, ?_, hannounced, ?_⟩
      · rw [hguards, guardRails_put, Map.get?_set_self]
      · rw [if_pos rfl, hcur]
        have hrises : armed.delay.toNat ≤ cur.timing.1 ∨
            cur.delay.toNat < armed.delay.toNat ∧ armed.delay.toNat ≤ armed.delay.toNat := by
          rcases Nat.lt_or_ge cur.delay.toNat armed.delay.toNat with hlt | hle
          · exact .inr ⟨hlt, le_rfl⟩
          · exact .inl hle
        exact (hobeys.raised (announcedAt_le hlate ht) hrises).shortened
    · refine ⟨cur, t, ?_, hannounced, ?_⟩
      · rw [hguards, guardRails_put, Map.get?_set_ne had]
        exact hcur
      · rw [if_neg had]
        exact hobeys
  · intro action row' hrow'
    obtain ⟨row, hrow, -, rfl⟩ := hpending _ action row' hrow'
    obtain ⟨timing, t, htiming, ht, hobeys⟩ := hs.ofAccount action row hrow
    have hguarded' : s'.guardedAds ≠ [] := by
      intro hempty
      have hmem : adId ∈ s'.guardedAds := hroster ▸ mem_putGuardRail.mpr (.inl rfl)
      rw [hempty] at hmem
      cases hmem
    obtain ⟨timing', htiming'⟩ := hrostered.timelock hguarded'
    have hannounced : announcedAt .account action (((env, call), r) :: h) = some t := by
      rw [announcedAt_cons, hcall]
      exact ht
    have hold := isTimelock_of_ok (accountTimelock_ok htiming).2
    have hnew := isTimelock_of_ok (accountTimelock_ok htiming').2
    have hbefore : s.timelockOr = timing := by
      unfold State.timelockOr
      rw [htiming]
    have hafter : s'.timelockOr = timing' := by
      unfold State.timelockOr
      rw [htiming']
    refine ⟨timing', t, htiming', hannounced, ?_⟩
    unfold retimed
    dsimp only
    rw [hbefore, hafter]
    have hrises : timing'.1 ≤ timing.1 ∨
        timing.1 < armed.delay.toNat ∧ timing'.1 ≤ armed.delay.toNat := by
      rcases Nat.lt_or_ge timing.1 armed.delay.toNat with hlt | hle
      · rcases delay_put hold hnew hrails with hput | hput
        · exact .inl hput
        · exact .inr ⟨hlt, hput⟩
      · rcases delay_put hold hnew hrails with hput | hput
        · exact .inl hput
        · exact .inl (hput.trans hle)
    exact (hobeys.raised (announcedAt_le hlate ht) hrises).shortened

/-- What any accepted call leaves of the announcements. -/
theorem Timely.step (hs : Timely h s) (hlate : ∀ e ∈ h, timeOf e ≤ env.now)
    (step : BrakeStep H env s s' call) : Timely (((env, call), r) :: h) s' := by
  have hrostered := hs.rostered.step step
  cases step with
  | kept hcall hnone hopen hrails hrows =>
    obtain ⟨hguards, hroster⟩ := Prod.mk.inj hrails
    refine hs.frame hrostered hroster (fun _ => by rw [hguards]) ?_ ?_
    · intro scope action row hrow
      rwa [row_of_same hrows] at hrow
    · exact fun _ _ _ _ => not_announces hcall
  | spent hcall hann hspendable hrails hrows =>
    obtain ⟨hguards, hroster⟩ := Prod.mk.inj hrails
    refine hs.frame hrostered hroster (fun _ => by rw [hguards]) ?_ ?_
    · exact fun scope action row hrow => (row_of_removed hrows hrow).1
    · exact fun _ _ _ _ => not_announces hcall
  | cancelled hrails hrows =>
    obtain ⟨hguards, hroster⟩ := Prod.mk.inj hrails
    refine hs.frame hrostered hroster (fun _ => by rw [hguards]) ?_ ?_
    · exact fun scope action row hrow => (row_of_removed hrows hrow).1
    · exact fun _ _ _ _ => rfl
  | @charged target fnName args pay approvals adId amount g bucket hfn hdecode hnone hguarded hg
      hthreshold hspend hrails hrows =>
    obtain ⟨hguards, hroster⟩ := Prod.mk.inj hrails
    refine hs.frame hrostered hroster ?_ ?_ ?_
    · intro adId'
      rw [hguards, Map.get?_set]
      split
      · next heq =>
        rw [heq, hg]
        rfl
      · rfl
    · intro scope action row hrow
      rwa [row_of_same hrows] at hrow
    · exact fun _ _ _ _ => rfl
  | @scheduled scope₀ action₀ args args' delay window hterms hrails hrows =>
    obtain ⟨hlisted, htiming⟩ := scheduleTerms_ok hterms
    obtain ⟨hguards, hroster⟩ := Prod.mk.inj hrails
    have hsplit : ∀ scope action row, s'.row scope action = some row →
        (scope = scope₀ ∧ action = action₀ ∧ row.Obeys env.now (delay, window)) ∨
          (s.row scope action = some row ∧
            Call.announces scope action (.schedule scope₀ action₀ args) = false) := by
      intro scope action row hrow
      unfold State.row at hrow ⊢
      rw [hrows, Map.get?_set] at hrow
      split at hrow
      · next heq =>
        obtain ⟨rfl, rfl⟩ := Prod.mk.inj heq
        cases hrow
        exact .inl ⟨rfl, rfl, le_rfl, le_rfl⟩
      · next hne =>
        refine .inr ⟨hrow, ?_⟩
        rw [Bool.eq_false_iff]
        intro hann
        rw [Call.announces, Bool.and_eq_true, decide_eq_true_eq, decide_eq_true_eq] at hann
        exact hne (Prod.ext hann.1.symm hann.2.symm)
    have hself : announcedAt scope₀ action₀ (((env, .schedule scope₀ action₀ args), r) :: h)
        = some env.now := by
      rw [announcedAt_cons]
      simp [Call.announces]
    refine ⟨hrostered, ?_, ?_, ?_⟩
    · intro scope action row hrow
      rcases hsplit _ _ _ hrow with ⟨rfl, rfl, -⟩ | ⟨hold, -⟩
      · exact hlisted
      · exact hs.stored scope action row hold
    · intro adId action row hrow
      rcases hsplit _ _ _ hrow with ⟨rfl, rfl, hobeys⟩ | ⟨hold, hcall⟩
      · obtain ⟨g, hg, htiming⟩ := htiming
        exact ⟨g, env.now, hguards ▸ hg, hself, htiming ▸ hobeys⟩
      · obtain ⟨g, t, hg, ht, hobeys⟩ := hs.ofAd adId action row hold
        refine ⟨g, t, hguards ▸ hg, ?_, hobeys⟩
        rw [announcedAt_cons, hcall]
        exact ht
    · intro action row hrow
      rcases hsplit _ _ _ hrow with ⟨rfl, rfl, hobeys⟩ | ⟨hold, hcall⟩
      · exact ⟨_, env.now, (accountTimelock_congr hrails).trans htiming, hself, hobeys⟩
      · obtain ⟨timing, t, htiming, ht, hobeys⟩ := hs.ofAccount action row hold
        refine ⟨timing, t, (accountTimelock_congr hrails).trans htiming, ?_, hobeys⟩
        rw [announcedAt_cons, hcall]
        exact ht
  | armed hbounds hfound htight harmed hrails hrows =>
    exact hs.armed hlate hrostered hrails hrows fun _ _ => rfl
  | @loosened adId g armed hbounds hloosens hspendable harmed hrails hrows =>
    refine hs.cleared hrostered ?_ hrows fun _ _ => rfl
    intro adId' hne
    rw [(Prod.mk.inj hrails).1, guardRails_put, Map.get?_set_ne hne]
  | disarmed hspendable hfound hrails hrows =>
    refine hs.cleared hrostered ?_ hrows fun _ _ => rfl
    intro adId' hne
    rw [guards_of_removed hrails, if_neg hne]
  | disarmedClosed hguarded hbefore hafter hkept hrails hrows =>
    refine hs.cleared hrostered ?_ hrows fun _ _ => rfl
    intro adId' hne
    rw [guards_of_removed hrails, if_neg hne]

/-! ## Runs -/

theorem timely_new {owner : Address} {targets : List Address}
    (hnew : construct H owner targets = .ok s) : Timely [] s := by
  have hrostered := rostered_new hnew
  simp only [construct, Check.bind_ok, Check.require_ok, Check.pure_ok] at hnew
  obtain ⟨-, -, -, -, rfl⟩ := hnew
  exact ⟨hrostered, (fun _ _ _ h => by cases h), (fun _ _ _ h => by cases h), fun _ _ h => by cases h⟩

theorem timely_of_run {owner : Address} {targets : List Address} {s₀ : State} {y : Y}
    (hnew : construct H owner targets = .ok s₀)
    (run : Run (system N H outside) ⟨s₀, y⟩ h c) (hchron : Chronological h) : Timely h c.state := by
  induction run with
  | start => exact timely_new hnew
  | refused run failed ih => exact ih hchron
  | outside run moved ih =>
    obtain ⟨y', -, rfl⟩ := moved
    exact ih hchron
  | accepted run admitted ok ih =>
    obtain ⟨hlate, hchron⟩ := List.pairwise_cons.mp hchron
    exact (ih hchron).step hlate (brakeStep_of_exec ok)

end AgentAccount
end ProofBridge
