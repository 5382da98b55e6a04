import ProofBridge.AgentAccount.Timing

/-!
# The account's timelock over whole runs

Pending announcements always wait out the settings in force, a loosened or disarmed rail takes the
announcements its settings timed, and the account's own timelock never loosens at once: only a
matured announcement of exactly that change makes it shorter.
-/

namespace ProofBridge
namespace AgentAccount

open ContractLib

variable {Y : Type} {N : Neighbors Y} {H : AccountHost} {outside : Y → Y → Prop} {env : Env}
  {c c' : Chain Y} {s s' : State} {scope : Scope} {action : Symbol} {adId : AdId} {call : Call}
  {r : Ret} {h : History} {owner : Address} {targets : List Address} {s₀ : State} {y : Y}

/-! ## A sample brake -/

def sampleRail (delay : U64) : GuardRail where
  threshold := 100
  delay
  window := 3600
  rate := ⟨1000, 1⟩
  bucket := ⟨0, 0⟩

/-- Two ads are guarded; a withdrawal from the second and the disarm of the first are announced. -/
def sampleBrakeCalls : List (Env × Call) :=
  [(sampleEnv 100, .setGuardRail (ascii "ad") (some (sampleRail 7200))),
    (sampleEnv 100, .setGuardRail (ascii "be") (some (sampleRail 3600))),
    (sampleEnv 200, .schedule (.ad (ascii "be")) "withdraw_from_ad"
      [.string (ascii "be"), .u128 500, .address (.account 0x3A)]),
    (sampleEnv 200, .schedule (.ad (ascii "ad")) "set_guard_rail" [.string (ascii "ad"), .void])]

def sampleBraked : History × Chain Unit :=
  (play sampleAccountSystem sampleBrakeCalls [] sampleNew).getD ([], sampleNew)

theorem construct_sampleNew :
    construct sampleAccountHost (.account 0x0A) [.contract 0xAD] = .ok sampleNew.state := by
  rfl

theorem run_sampleBraked : Run sampleAccountSystem sampleNew sampleBraked.1 sampleBraked.2 :=
  Run.played_admitted (by decide +kernel) (by decide +kernel)

theorem chronological_sampleBraked : Chronological sampleBraked.1 := by
  have htimes : (sampleBraked.1.map timeOf).Pairwise fun later earlier => earlier ≤ later := by
    decide +kernel
  exact List.pairwise_map.mp htimes

/-- The sample's state after one more call. -/
def sampleStep (t : Env × Call) (c : Chain Unit) : Chain Unit :=
  match exec noEscrows sampleAccountHost t.1 t.2 c with
  | .ok r => r.2
  | .error _ => c

theorem sampleStep_ok {t : Env × Call} {c : Chain Unit}
    (h : (exec noEscrows sampleAccountHost t.1 t.2 c).toOption.isSome = true) :
    ∃ r, exec noEscrows sampleAccountHost t.1 t.2 c = .ok (r, sampleStep t c) := by
  unfold sampleStep
  cases hexec : exec noEscrows sampleAccountHost t.1 t.2 c with
  | ok r => exact ⟨r.1, rfl⟩
  | error e =>
    rw [hexec] at h
    cases h

/-- The first ad's disarm, once its announcement matured. -/
def sampleDisarm : Env × Call := (sampleEnv 8000, .setGuardRail (ascii "ad") none)

/-! ## Loosening a rail -/

/-- An ad's rail was loosened or taken off. -/
def RailLoosened (adId : AdId) (s s' : State) : Prop :=
  ∃ g, s.guardRails.get? adId = some g ∧
    ∀ g', s'.guardRails.get? adId = some g' → isTightening g g' = false

theorem isTightening_self {g : GuardRail} {bucket : Bucket} :
    isTightening g { g with bucket } = true := by
  simp [isTightening]

theorem not_loosened_of_same (h : s'.guardRails.get? adId = s.guardRails.get? adId) :
    ¬RailLoosened adId s s' := by
  rintro ⟨g, hg, hloose⟩
  have htight := hloose g (h.trans hg)
  rw [isTightening_self] at htight
  cases htight

theorem ClearedRows.none (hrows : ClearedRows adId s s')
    (hstored : ∀ scope action row, s.row scope action = some row → action ∈ actionsFor scope)
    (hscope : scope = .ad adId ∨ scope = .account) : s'.row scope action = none := by
  obtain ⟨hgone, hsame⟩ := hrows scope action
  by_cases haction : action ∈ actionsFor scope
  · exact hgone ⟨hscope, haction⟩
  · rw [hsame fun h => haction h.2]
    cases hrow : s.row scope action with
    | none => rfl
    | some row => exact absurd (hstored scope action row hrow) haction

/-- What loosens a rail: an announced change of it, or a disarm. -/
theorem loosening_of_step (step : BrakeStep H env s s' call) (hloosened : RailLoosened adId s s') :
    ClearedRows adId s s' ∧
      ((∃ g, call = .setGuardRail adId (some g) ∧
          Spendable H env s (.ad adId) "set_guard_rail" (guardRailArgs adId (some g))) ∨
        s'.rails = (s.removeGuardRail adId).rails) := by
  have hapart : s'.guardRails.get? adId ≠ s.guardRails.get? adId :=
    fun heq => not_loosened_of_same heq hloosened
  have hremoved : ∀ {adId' : AdId}, s'.rails = (s.removeGuardRail adId').rails → adId = adId' := by
    intro adId' hrails
    by_contra hne
    exact hapart (by rw [guards_of_removed hrails, if_neg hne])
  cases step with
  | kept hcall hnone hopen hrails hrows => exact absurd (by rw [(Prod.mk.inj hrails).1]) hapart
  | spent hcall hann hspendable hrails hrows =>
    exact absurd (by rw [(Prod.mk.inj hrails).1]) hapart
  | scheduled hterms hrails hrows => exact absurd (by rw [(Prod.mk.inj hrails).1]) hapart
  | cancelled hrails hrows => exact absurd (by rw [(Prod.mk.inj hrails).1]) hapart
  | @charged _ _ _ _ _ adId' _ g bucket hfn hdecode hnone hguarded hg hthreshold hspend hrails hrows =>
    -- the rail keeps its settings
    have hguards := (Prod.mk.inj hrails).1
    by_cases had : adId = adId'
    · subst had
      obtain ⟨g', hg', hloose⟩ := hloosened
      rw [hg] at hg'
      cases hg'
      have htight := hloose { g with bucket } (by rw [hguards, Map.get?_set_self])
      rw [isTightening_self] at htight
      cases htight
    · exact absurd (by rw [hguards, Map.get?_set_ne had]) hapart
  | @armed adId' g armed hbounds hfound htight harmed hrails hrows =>
    have hguards := (Prod.mk.inj hrails).1
    by_cases had : adId = adId'
    · subst had
      obtain ⟨g', hg', hloose⟩ := hloosened
      have hnow := hloose armed (by rw [hguards, guardRails_put, Map.get?_set_self])
      rw [hg'] at htight harmed
      have hsettled : isTightening g' armed = isTightening g' g := harmed ▸ rfl
      rw [hsettled] at hnow
      unfold loosens at htight
      dsimp only at htight
      rw [hnow] at htight
      cases htight
    · exact absurd (by rw [hguards, guardRails_put, Map.get?_set_ne had]) hapart
  | @loosened adId' g armed hbounds hloosens hspendable harmed hrails hrows =>
    have had : adId = adId' := by
      by_contra hne
      exact hapart (by rw [(Prod.mk.inj hrails).1, guardRails_put, Map.get?_set_ne hne])
    subst had
    exact ⟨hrows, .inl ⟨g, rfl, hspendable⟩⟩
  | disarmed hspendable hfound hrails hrows =>
    obtain rfl := hremoved hrails
    exact ⟨hrows, .inr hrails⟩
  | disarmedClosed hguarded hbefore hafter hkept hrails hrows =>
    obtain rfl := hremoved hrails
    exact ⟨hrows, .inr hrails⟩

/-- What its settings timed goes with a loosened rail. -/
theorem loosened_clears (hs : Timely h s) (step : BrakeStep H env s s' call)
    (hloosened : RailLoosened adId s s') (action : Symbol) :
    s'.row (.ad adId) action = none ∧ s'.row .account action = none := by
  obtain ⟨hrows, -⟩ := loosening_of_step step hloosened
  exact ⟨hrows.none hs.stored (.inl rfl), hrows.none hs.stored (.inr rfl)⟩

/-- Retiming, shortening and clearing all visit an action's row. -/
def Visited (scope : Scope) (action : Symbol) : Prop :=
  ∀ s : State,
    (∀ notBefore, (s.restamp scope notBefore).row scope action
      = (s.row scope action).map (Schedule.restamped notBefore)) ∧
    (∀ window, (s.clampWindows scope window).row scope action
      = (s.row scope action).map (Schedule.clamped window)) ∧
    ∀ adId, scope = .ad adId ∨ scope = .account →
      (s.clearAllSchedules adId).row scope action = none

theorem visited_of_listed (haction : action ∈ actionsFor scope) : Visited scope action := by
  intro s
  refine ⟨fun notBefore => ?_, fun window => ?_, fun adId hscope => ?_⟩
  · rw [row_restamp, if_pos ⟨rfl, haction⟩]
  · rw [row_clampWindows, if_pos ⟨rfl, haction⟩]
  · rw [row_clearAllSchedules, if_pos ⟨hscope, haction⟩]

/-- Pending announcements always obey the settings now in force. -/
theorem announcements_obey (hnew : construct H owner targets = .ok s₀)
    (run : Run (system N H outside) ⟨s₀, y⟩ h c) (hchron : Chronological h) :
    (∀ adId action row, c.state.row (.ad adId) action = some row →
      ∃ g t, c.state.isGuarded adId = true ∧ c.state.guardRails.get? adId = some g ∧
        announcedAt (.ad adId) action h = some t ∧ t + g.delay.toNat ≤ row.readyAt ∧
        row.expiresAt ≤ row.readyAt + g.window.toNat) ∧
    (∀ action row, c.state.row .account action = some row →
      ∃ timing t, c.state.guardedAds ≠ [] ∧ IsTimelock c.state none timing ∧
        announcedAt .account action h = some t ∧ t + timing.1 ≤ row.readyAt ∧
        row.expiresAt ≤ row.readyAt + timing.2) ∧
    (∀ env call r c', exec N H env call c = .ok (r, c') → ∀ adId,
      RailLoosened adId c.state c'.state → ∀ action,
        c'.state.row (.ad adId) action = none ∧ c'.state.row .account action = none) ∧
    ∀ s scope action args terms,
      scheduleTerms scope action args s = .ok terms → Visited scope action := by
  have htimely := timely_of_run hnew run hchron
  refine ⟨?_, ?_, ?_, ?_⟩
  · intro adId action row hrow
    obtain ⟨g, t, hg, ht, hobeys⟩ := htimely.ofAd adId action row hrow
    have hmem := (htimely.rostered.listed adId).mpr (hg ▸ rfl)
    exact ⟨g, t, decide_eq_true hmem, hg, ht, hobeys.waits, hobeys.closes⟩
  · intro action row hrow
    obtain ⟨timing, t, htiming, ht, hobeys⟩ := htimely.ofAccount action row hrow
    obtain ⟨hguarded, hok⟩ := accountTimelock_ok htiming
    exact ⟨timing, t, hguarded, isTimelock_of_ok hok, ht, hobeys.waits, hobeys.closes⟩
  · intro env call r c' ok adId hloosened
    exact loosened_clears htimely (brakeStep_of_exec ok) hloosened
  · intro s scope action args terms hterms
    exact visited_of_listed (scheduleTerms_ok hterms).1

theorem announcements_obey_sample :
    ∃ row, sampleBraked.2.state.row (.ad (ascii "be")) "withdraw_from_ad" = some row ∧
      200 + 3600 ≤ row.readyAt ∧ row.expiresAt ≤ row.readyAt + 3600 := by
  obtain ⟨hads, -⟩ := announcements_obey construct_sampleNew run_sampleBraked
    chronological_sampleBraked
  have hrow : (sampleBraked.2.state.row (.ad (ascii "be")) "withdraw_from_ad").isSome = true := by
    decide +kernel
  obtain ⟨row, hrow⟩ := Option.isSome_iff_exists.mp hrow
  obtain ⟨g, t, -, hg, ht, hwaits, hcloses⟩ := hads _ _ row hrow
  have htiming : (sampleBraked.2.state.guardRails.get? (ascii "be")).map GuardRail.timing
      = some (3600, 3600) := by decide +kernel
  have hannounced : announcedAt (.ad (ascii "be")) "withdraw_from_ad" sampleBraked.1 = some 200 := by
    decide +kernel
  rw [hannounced] at ht
  cases ht
  rw [hg] at htiming
  obtain ⟨hdelay, hwindow⟩ := Prod.mk.inj (Option.some.inj htiming)
  rw [hdelay] at hwaits
  rw [hwindow] at hcloses
  exact ⟨row, hrow, hwaits, hcloses⟩

/-- Disarming one ad leaves another's announcements, which its own settings time. -/
theorem other_ads_row_survives :
    ¬∀ (h : History) (c c' : Chain Unit) (env : Env) (call : Call) (r : Ret) (adId : AdId),
      Run sampleAccountSystem sampleNew h c → Chronological h →
      exec noEscrows sampleAccountHost env call c = .ok (r, c') → RailLoosened adId c.state c'.state →
      ∀ scope action row, c.state.row scope action = some row → c'.state.row scope action = none := by
  intro hclaim
  obtain ⟨r, hdisarm⟩ := sampleStep_ok (t := sampleDisarm) (c := sampleBraked.2) (by decide +kernel)
  have hguarded : (sampleBraked.2.state.guardRails.get? (ascii "ad")).isSome = true := by
    decide +kernel
  have hdisarmed : (sampleStep sampleDisarm sampleBraked.2).state.guardRails.get? (ascii "ad")
      = none := by decide +kernel
  obtain ⟨g, hg⟩ := Option.isSome_iff_exists.mp hguarded
  have hloosened : RailLoosened (ascii "ad") sampleBraked.2.state
      (sampleStep sampleDisarm sampleBraked.2).state := by
    refine ⟨g, hg, fun g' hg' => ?_⟩
    rw [hdisarmed] at hg'
    cases hg'
  have hrow : (sampleBraked.2.state.row (.ad (ascii "be")) "withdraw_from_ad").isSome = true := by
    decide +kernel
  obtain ⟨row, hrow⟩ := Option.isSome_iff_exists.mp hrow
  have hgone := hclaim _ _ _ _ _ r _ run_sampleBraked chronological_sampleBraked hdisarm hloosened
    _ _ row hrow
  have hkept : ((sampleStep sampleDisarm sampleBraked.2).state.row (.ad (ascii "be"))
      "withdraw_from_ad").isSome = true := by decide +kernel
  rw [hgone] at hkept
  cases hkept

/-! ## The account's timelock -/

/-- With every member kept, no laxer, the timelock is no laxer. -/
theorem timelock_mono {t t' : ℕ × ℕ} (ht : IsTimelock s none t) (ht' : IsTimelock s' none t')
    (hkept : ∀ adId m, s.railed none adId m →
      ∃ m', s'.railed none adId m' ∧ m.1 ≤ m'.1 ∧ m'.2 ≤ m.2) : t.1 ≤ t'.1 ∧ t'.2 ≤ t.2 := by
  constructor
  · rcases ht.delay_eq with hzero | ⟨adId, m, hrailed, heq⟩
    · exact hzero ▸ Nat.zero_le _
    · obtain ⟨m', hrailed', hdelay, -⟩ := hkept adId m hrailed
      exact heq ▸ hdelay.trans (ht'.delay_le adId m' hrailed')
  · rcases ht.window_eq with hmax | ⟨adId, m, hrailed, heq⟩
    · exact hmax ▸ ht'.window_le
    · obtain ⟨m', hrailed', -, hwindow⟩ := hkept adId m hrailed
      exact heq ▸ (ht'.le_window adId m' hrailed').trans hwindow

/-- The longest delay fell, the shortest window grew, or no ad is guarded any more. -/
def TimelockLoosened (s s' : State) : Prop :=
  s.guardedAds ≠ [] ∧ (s'.guardedAds = [] ∨
    ∃ t t', IsTimelock s none t ∧ IsTimelock s' none t' ∧ (t'.1 < t.1 ∨ t.2 < t'.2))

/-- Nothing is loosened where every member stays and is no laxer. -/
theorem not_loosened_of_kept (hroster : s.guardedAds ≠ [] → s'.guardedAds ≠ [])
    (hkept : ∀ adId m, s.railed none adId m →
      ∃ m', s'.railed none adId m' ∧ m.1 ≤ m'.1 ∧ m'.2 ≤ m.2) : ¬TimelockLoosened s s' := by
  rintro ⟨hguarded, hempty | ⟨t, t', ht, ht', hlax⟩⟩
  · exact hroster hguarded hempty
  · have hmono := timelock_mono ht ht' hkept
    omega

theorem not_loosened_of_railed (hroster : s'.guardedAds = s.guardedAds)
    (hsame : ∀ adId, (s'.guardRails.get? adId).map GuardRail.timing
      = (s.guardRails.get? adId).map GuardRail.timing) : ¬TimelockLoosened s s' := by
  refine not_loosened_of_kept (fun h => hroster ▸ h) fun adId m hrailed => ?_
  refine ⟨m, ?_, le_rfl, le_rfl⟩
  unfold State.railed
  rw [hroster, hsame]
  exact hrailed

/-- The step that loosens the timelock is a loosening or disarm whose announcement matured. -/
theorem loosened_of_step (hs : Rostered s) (step : BrakeStep H env s s' call)
    (hloosened : TimelockLoosened s s') :
    ∃ adId guardRail, call = .setGuardRail adId guardRail ∧
      loosens (s.guardRails.get? adId) guardRail = true ∧
      Spendable H env s (.ad adId) "set_guard_rail" (guardRailArgs adId guardRail) ∧
      s'.row (.ad adId) "set_guard_rail" = none := by
  have hrostered := hs.step step
  have hlisted : "set_guard_rail" ∈ adActions := by decide
  cases step with
  | kept hcall hnone hopen hrails hrows =>
    obtain ⟨hguards, hroster⟩ := Prod.mk.inj hrails
    exact absurd hloosened (not_loosened_of_railed hroster fun _ => by rw [hguards])
  | spent hcall hann hspendable hrails hrows =>
    obtain ⟨hguards, hroster⟩ := Prod.mk.inj hrails
    exact absurd hloosened (not_loosened_of_railed hroster fun _ => by rw [hguards])
  | scheduled hterms hrails hrows =>
    obtain ⟨hguards, hroster⟩ := Prod.mk.inj hrails
    exact absurd hloosened (not_loosened_of_railed hroster fun _ => by rw [hguards])
  | cancelled hrails hrows =>
    obtain ⟨hguards, hroster⟩ := Prod.mk.inj hrails
    exact absurd hloosened (not_loosened_of_railed hroster fun _ => by rw [hguards])
  | @charged _ _ _ _ _ adId _ g bucket hfn hdecode hnone hguarded hg hthreshold hspend hrails hrows =>
    obtain ⟨hguards, hroster⟩ := Prod.mk.inj hrails
    refine absurd hloosened (not_loosened_of_railed hroster fun adId' => ?_)
    rw [hguards, Map.get?_set]
    split
    · next heq =>
      rw [heq, hg]
      rfl
    · rfl
  | @armed adId g armed hbounds hfound htight harmed hrails hrows =>
    refine absurd hloosened (not_loosened_of_kept ?_ ?_)
    · intro _ hempty
      have hmem : adId ∈ s'.guardedAds := (Prod.mk.inj hrails).2 ▸ mem_putGuardRail.mpr (.inl rfl)
      rw [hempty] at hmem
      cases hmem
    · intro adId' m hrailed
      by_cases had : adId' = adId
      · -- a rail that was there is only tightened
        subst had
        refine ⟨armed.timing, (railed_put hrails).mpr (.inl ⟨rfl, rfl⟩), ?_⟩
        obtain ⟨cur, hcur, rfl⟩ := Option.map_eq_some_iff.mp hrailed.2.2
        rw [hcur] at htight
        unfold loosens isTightening at htight
        simp only [Bool.not_eq_false', Bool.and_eq_true, decide_eq_true_eq] at htight
        rw [harmed, timing_settleRail]
        exact ⟨htight.1.1.1.2, htight.1.1.2⟩
      · exact ⟨m, (railed_put hrails).mpr (.inr ⟨had, hrailed⟩), le_rfl, le_rfl⟩
  | @loosened adId g armed hbounds hloosens hspendable harmed hrails hrows =>
    exact ⟨adId, some g, rfl, hloosens, hspendable, (hrows _ _).1 ⟨.inl rfl, hlisted⟩⟩
  | @disarmed adId hspendable hfound hrails hrows =>
    cases hcur : s.guardRails.get? adId with
    | some cur =>
      have hloosens : loosens (s.guardRails.get? adId) none = true := hcur ▸ rfl
      exact ⟨adId, none, rfl, hloosens, hspendable hloosens, (hrows _ _).1 ⟨.inl rfl, hlisted⟩⟩
    | none =>
      -- an ad that was not guarded: nothing of the timelock goes
      refine absurd hloosened (not_loosened_of_railed ?_ fun adId' => ?_)
      · have hnotmem : adId ∉ s.guardedAds := by
          rw [hs.listed, hcur]
          exact Bool.false_ne_true
        rw [(Prod.mk.inj hrails).2]
        show s.guardedAds.filter _ = _
        rw [List.filter_eq_self]
        intro a ha
        exact decide_eq_true fun heq => hnotmem (heq ▸ ha)
      · rw [guards_of_removed hrails]
        split
        · next heq => rw [heq, hcur]
        · rfl
  | @disarmedClosed escrow adId t t' hguarded hbefore hafter hkept hrails hrows =>
    exfalso
    have hold := isTimelock_of_ok hbefore
    have hleft := isTimelock_of_ok hafter
    have hmembers : ∀ adId' m, s'.railed none adId' m ↔ s.railed (some adId) adId' m := by
      intro adId' m
      unfold State.railed
      rw [guards_of_removed hrails, (Prod.mk.inj hrails).2]
      unfold State.removeGuardRail
      dsimp only
      rw [List.mem_filter]
      by_cases had : adId' = adId
      · simp [had]
      · simp [had, Ne.symm had]
    obtain ⟨-, hempty | ⟨t₁, t₁', ht₁, ht₁', hlax⟩⟩ := hloosened
    · -- the last rail: the delay falls to nothing, which the check refuses
      have hzero : t'.1 = 0 := by
        rcases hleft.delay_eq with hzero | ⟨adId', m, hrailed, -⟩
        · exact hzero
        · have hmem := ((hmembers adId' m).mpr hrailed).1
          rw [hempty] at hmem
          cases hmem
      have hmem : adId ∈ s.guardedAds := of_decide_eq_true hguarded
      obtain ⟨g, hg⟩ := Option.isSome_iff_exists.mp ((hs.listed adId).mp hmem)
      have hpos := hs.delayed adId g hg
      have hle := hold.delay_le adId g.timing ⟨hmem, (by simp), hg ▸ rfl⟩
      have hdelay : g.timing.1 = g.delay.toNat := rfl
      omega
    · obtain rfl := ht₁.eq hold fun _ _ => Iff.rfl
      obtain rfl := ht₁'.eq hleft hmembers
      exact hkept hlax

/-- The account-wide timelock never loosens at once: a step that lowers the longest delay, raises the
shortest window or empties the roster has spent a matured announcement of exactly that change. -/
theorem timelock_never_loosens (hnew : construct H owner targets = .ok s₀)
    (run : Run (system N H outside) ⟨s₀, y⟩ h c) (ok : exec N H env call c = .ok (r, c'))
    (hloosened : TimelockLoosened c.state c'.state) :
    ∃ adId guardRail, call = .setGuardRail adId guardRail ∧
      loosens (c.state.guardRails.get? adId) guardRail = true ∧
      Spendable H env c.state (.ad adId) "set_guard_rail" (guardRailArgs adId guardRail) ∧
      c'.state.row (.ad adId) "set_guard_rail" = none :=
  loosened_of_step (rostered_of_run hnew run) (brakeStep_of_exec ok) hloosened

theorem timelock_never_loosens_sample :
    Spendable sampleAccountHost (sampleEnv 8000) sampleBraked.2.state (.ad (ascii "ad"))
      "set_guard_rail" (guardRailArgs (ascii "ad") none) := by
  obtain ⟨r, hdisarm⟩ := sampleStep_ok (t := sampleDisarm) (c := sampleBraked.2) (by decide +kernel)
  have hbefore : sampleBraked.2.state.timelockWithout none = .ok (7200, 3600) := by decide +kernel
  have hafter : (sampleStep sampleDisarm sampleBraked.2).state.timelockWithout none
      = .ok (3600, 3600) := by decide +kernel
  have hguarded : sampleBraked.2.state.guardedAds ≠ [] := by decide +kernel
  have hloosened : TimelockLoosened sampleBraked.2.state
      (sampleStep sampleDisarm sampleBraked.2).state :=
    ⟨hguarded, .inr ⟨_, _, isTimelock_of_ok hbefore, isTimelock_of_ok hafter, .inl (by decide)⟩⟩
  obtain ⟨adId, guardRail, hcall, -, hspendable, -⟩ :=
    timelock_never_loosens construct_sampleNew run_sampleBraked hdisarm hloosened
  cases hcall
  exact hspendable

end AgentAccount
end ProofBridge
