import ProofBridge.Core.EscrowSpec

/-!
# What the admin surface can and cannot do

Every admin step of the shared code touches the settings alone, keeps them sound, and only adds
to them: the config keeps everything but its admin, and a stored timing version stays what it was.
-/

namespace ProofBridge

open ContractLib

variable {X : Type} {H : Host} {env : Env} {c : Core X}

/-- What every reachable settings satisfy. -/
structure Settings.Sound (st : Settings) : Prop where
  /-- Nothing is configured before `initialize`. -/
  unconfigured : st.initialized = false → st.config = none
  /-- No version beyond the current one is stored. -/
  versions : ∀ chainId version, st.getTimingVersion chainId < version →
    st.getRouteTimingAt chainId version = none
  /-- Every stored timing passed its validation. -/
  timings_valid : ∀ chainId version t, st.getRouteTimingAt chainId version = some t → t.Valid
  ripe : st.timelock.proposals |> Timelock.Ripe

/-- How settings may change: only the admin of the config, and only new timing versions. -/
structure Settings.Grows (st st' : Settings) : Prop where
  config : ∀ cfg, st.config = some cfg → ∃ admin, st'.config = some { cfg with admin }
  timings : ∀ chainId version t, st.getRouteTimingAt chainId version = some t →
    st'.getRouteTimingAt chainId version = some t

theorem Settings.sound_fresh : Settings.fresh.Sound where
  unconfigured _ := rfl
  versions _ _ _ := rfl
  timings_valid _ _ _ h := by simp [fresh, getRouteTimingAt] at h
  ripe := Timelock.ripe_empty

namespace Settings.Grows

theorem refl (st : Settings) : st.Grows st where
  config cfg h := ⟨cfg.admin, h⟩
  timings _ _ _ h := h

theorem trans {st st' st'' : Settings} (h : st.Grows st') (h' : st'.Grows st'') :
    st.Grows st'' where
  config cfg hcfg := by
    obtain ⟨admin, h₁⟩ := h.config cfg hcfg
    exact h'.config { cfg with admin } h₁
  timings chainId version t ht := h'.timings _ _ _ (h.timings _ _ _ ht)

end Settings.Grows

/-- A step of the settings: it keeps what is sound sound, and only grows it. -/
def Settings.Step (st st' : Settings) : Prop := st.Sound → st'.Sound ∧ st.Grows st'

namespace Settings.Step

theorem refl (st : Settings) : st.Step st := fun h => ⟨h, .refl st⟩

theorem trans {st st' st'' : Settings} (h : st.Step st') (h' : st'.Step st'') : st.Step st'' := by
  intro hs
  obtain ⟨hs', hg⟩ := h hs
  obtain ⟨hs'', hg'⟩ := h' hs'
  exact ⟨hs'', hg.trans hg'⟩

/-- A step that touches none of what soundness and growth speak of. -/
theorem of_eq {st st' : Settings} (hinit : st'.initialized = st.initialized)
    (hconfig : st'.config = st.config) (htimings : st'.timings = st.timings)
    (hversions : st'.timingVersions = st.timingVersions)
    (hripe : Timelock.Ripe st.timelock.proposals → Timelock.Ripe st'.timelock.proposals) :
    st.Step st' := by
  intro hs
  have hv : st'.getTimingVersion = st.getTimingVersion := by
    funext chainId
    simp [getTimingVersion, hversions]
  have ht : st'.getRouteTimingAt = st.getRouteTimingAt := by
    funext chainId version
    simp [getRouteTimingAt, htimings]
  refine ⟨⟨?_, ?_, ?_, hripe hs.ripe⟩, ⟨?_, ?_⟩⟩
  · rw [hinit, hconfig]
    exact hs.unconfigured
  · rw [hv, ht]
    exact hs.versions
  · rw [ht]
    exact hs.timings_valid
  · intro cfg hcfg
    exact ⟨cfg.admin, by rw [hconfig, hcfg]⟩
  · rw [ht]
    exact fun _ _ _ h => h

end Settings.Step

/-- Nothing but the settings and what was published changed. -/
structure Core.SettingsOnly (c c' : Core X) : Prop where
  ledger : c'.ledger = c.ledger
  leaves : c'.leaves = c.leaves
  outside : c'.outside = c.outside
  step : c.settings.Step c'.settings

namespace Core.SettingsOnly

theorem refl (c : Core X) : c.SettingsOnly c := ⟨rfl, rfl, rfl, .refl _⟩

theorem trans {c c' c'' : Core X} (h : c.SettingsOnly c') (h' : c'.SettingsOnly c'') :
    c.SettingsOnly c'' where
  ledger := h'.ledger.trans h.ledger
  leaves := h'.leaves.trans h.leaves
  outside := h'.outside.trans h.outside
  step := h.step.trans h'.step

end Core.SettingsOnly

/-- Turning the timelock is a step of the settings. -/
theorem onTimelock_only {α : Type} {x : Tx Fault Timelock α} {r : α × Core X}
    (hripe : ∀ t r, x t = .ok r → Timelock.Ripe t.proposals → Timelock.Ripe r.2.proposals)
    (ok : onTimelock x c = .ok r) : c.SettingsOnly r.2 := by
  obtain ⟨a, t, ht, rfl⟩ := Tx.zoom_ok.mp ok
  exact ⟨rfl, rfl, rfl, .of_eq rfl rfl rfl rfl (hripe _ _ ht)⟩

theorem ripe_of_gateKeyed {admin : Address} {fnName : Symbol} {args : List Val}
    {key : Option BytesN32} (t : Timelock) (r : Unit × Timelock)
    (ok : Timelock.gateKeyed H env admin fnName args key t = .ok r)
    (h : Timelock.Ripe t.proposals) : Timelock.Ripe r.2.proposals := by
  rcases Timelock.gateKeyed_proposals ok with heq | ⟨id, heq⟩
  · rw [heq]
    exact h
  · rw [heq]
    exact h.remove

theorem activate_only {r : Unit × Core X} (ok : onTimelock (Timelock.activate env) c = .ok r) :
    c.SettingsOnly r.2 := by
  refine onTimelock_only (fun t r hr h => ?_) ok
  rw [Timelock.activate_proposals hr]
  exact h

theorem propose_only {fnName : Symbol} {args : Bytes} {r : BytesN32 × Core X}
    (ok : onTimelock (Timelock.propose H env fnName args) c = .ok r) : c.SettingsOnly r.2 := by
  refine onTimelock_only (fun t r hr h => ?_) ok
  obtain ⟨epoch, heq⟩ := Timelock.propose_proposals hr
  rw [heq]
  exact h.set (Nat.le_add_left _ _)

theorem cancel_only {id : BytesN32} {r : Unit × Core X}
    (ok : onTimelock (Timelock.cancel env id) c = .ok r) : c.SettingsOnly r.2 := by
  refine onTimelock_only (fun t r hr h => ?_) ok
  rw [Timelock.cancel_proposals hr]
  exact h.remove

/-- A setting the shared soundness does not speak of. -/
theorem settingsOnly_of_eq {f : Settings → Settings}
    (hinit : (f c.settings).initialized = c.settings.initialized)
    (hconfig : (f c.settings).config = c.settings.config)
    (htimings : (f c.settings).timings = c.settings.timings)
    (hversions : (f c.settings).timingVersions = c.settings.timingVersions)
    (htimelock : (f c.settings).timelock = c.settings.timelock) {r : Unit × Core X}
    (ok : (setSettings f : Tx Fault (Core X) Unit) c = .ok r) : c.SettingsOnly r.2 := by
  obtain rfl := Tx.modify_ok.mp ok
  refine ⟨rfl, rfl, rfl, .of_eq hinit hconfig htimings hversions ?_⟩
  rw [htimelock]
  exact id

/-- The first call of a contract that was never configured. -/
theorem settingsOnly_of_first {config : ContractConfig}
    (hnew : c.settings.initialized = false) :
    c.SettingsOnly { c with settings := { c.settings with
      config := some config, initialized := true } } := by
  refine ⟨rfl, rfl, rfl, fun hs => ?_⟩
  have hnone := hs.unconfigured hnew
  refine ⟨⟨?_, hs.versions, hs.timings_valid, hs.ripe⟩, ⟨?_, fun _ _ _ h => h⟩⟩
  · intro hinit
    cases hinit
  · intro cfg hcfg
    rw [hnone] at hcfg
    cases hcfg

namespace Escrow

theorem pause_only {config : ContractConfig} {r : Unit × Core X} (ok : pause config c = .ok r) :
    c.SettingsOnly r.2 := by
  unfold pause at ok
  simp only [Tx.bind_modify_ok, Tx.modify_ok] at ok
  subst ok
  exact ⟨rfl, rfl, rfl, .of_eq rfl rfl rfl rfl id⟩

theorem unpause_only {config : ContractConfig} {r : Unit × Core X}
    (ok : unpause config c = .ok r) : c.SettingsOnly r.2 := by
  unfold unpause at ok
  simp only [Tx.bind_modify_ok, Tx.modify_ok] at ok
  subst ok
  exact ⟨rfl, rfl, rfl, .of_eq rfl rfl rfl rfl id⟩

theorem transferAdmin_only {config : ContractConfig} {successor : Address} {r : Unit × Core X}
    (ok : transferAdmin config successor c = .ok r) : c.SettingsOnly r.2 := by
  unfold transferAdmin at ok
  simp only [Tx.bind_modify_ok, Tx.modify_ok] at ok
  subst ok
  exact ⟨rfl, rfl, rfl, .of_eq rfl rfl rfl rfl id⟩

/-- A handover changes the config's admin and nothing else of it. -/
theorem acceptAdmin_only {config : ContractConfig} {pending : Address} {r : Unit × Core X}
    (hconfig : c.settings.config = some config)
    (ok : acceptAdmin config pending c = .ok r) : c.SettingsOnly r.2 := by
  unfold acceptAdmin at ok
  simp only [Tx.bind_modify_ok] at ok
  rw [Tx.bind_ok] at ok
  obtain ⟨⟨⟩, c₁, hbump, ok⟩ := ok
  obtain rfl := Tx.modify_ok.mp ok
  have hbumped := onTimelock_only
    (fun t r hr h => by rw [Timelock.bumpEpoch_proposals hr]; exact h) hbump
  refine ⟨hbumped.ledger, hbumped.leaves, hbumped.outside, .trans ?_ hbumped.step⟩
  intro hs
  refine ⟨⟨fun hinit => ?_, hs.versions, hs.timings_valid, hs.ripe⟩, ⟨fun cfg hcfg => ?_, ?_⟩⟩
  · rw [hs.unconfigured hinit] at hconfig
    cases hconfig
  · rw [hconfig] at hcfg
    obtain rfl := Option.some.inj hcfg
    exact ⟨pending, rfl⟩
  · exact fun _ _ _ h => h

theorem setRootVerifierGated_only {admin module : Address} {chainId : U128} {r : Unit × Core X}
    (ok : setRootVerifierGated H env admin chainId module c = .ok r) : c.SettingsOnly r.2 := by
  unfold setRootVerifierGated at ok
  rw [Tx.bind_ok] at ok
  obtain ⟨⟨⟩, c₁, hgate, ok⟩ := ok
  unfold setRootVerifier at ok
  simp only [Tx.bind_modify_ok, Tx.modify_ok] at ok
  subst ok
  exact (onTimelock_only ripe_of_gateKeyed hgate).trans
    ⟨rfl, rfl, rfl, .of_eq rfl rfl rfl rfl id⟩

theorem unsetRootVerifier_only {admin : Address} {chainId : U128} {r : Unit × Core X}
    (ok : unsetRootVerifier H env admin chainId c = .ok r) : c.SettingsOnly r.2 := by
  unfold unsetRootVerifier at ok
  rw [Tx.bind_ok] at ok
  obtain ⟨⟨⟩, c₁, hgate, ok⟩ := ok
  simp only [Tx.bind_modify_ok, Tx.modify_ok] at ok
  subst ok
  refine (onTimelock_only ?_ hgate).trans ⟨rfl, rfl, rfl, .of_eq rfl rfl rfl rfl id⟩
  intro t r hr h
  rcases Timelock.gateUnless_proposals hr with heq | ⟨id, heq⟩
  · rw [heq]
    exact h
  · rw [heq]
    exact h.remove

theorem setRootAnchor_only {anchor : Address} {r : Unit × Core X}
    (ok : setRootAnchor anchor c = .ok r) : c.SettingsOnly r.2 := by
  unfold setRootAnchor at ok
  simp only [Tx.bind_modify_ok, Tx.modify_ok] at ok
  subst ok
  exact ⟨rfl, rfl, rfl, .of_eq rfl rfl rfl rfl id⟩

/-- A retiming adds the next version and leaves every earlier one readable. -/
theorem setRouteTiming_only {chainId : U128} {timing : RouteTiming} {r : Unit × Core X}
    (ok : setRouteTiming chainId timing c = .ok r) : c.SettingsOnly r.2 := by
  unfold setRouteTiming at ok
  simp only [Tx.bind_require_ok, Tx.bind_read_ok, Tx.bind_lift_ok, Tx.bind_modify_ok,
    Tx.modify_ok, Check.add_ok] at ok
  obtain ⟨hvalid, _, ⟨-, rfl⟩, rfl⟩ := ok
  refine ⟨rfl, rfl, rfl, fun hs => ?_⟩
  have hkey : ∀ chain version t,
      c.settings.getRouteTimingAt chain version = some t →
        (chain, version) ≠ (chainId, c.settings.getTimingVersion chainId + 1) := by
    rintro chain version t ht heq
    obtain ⟨rfl, rfl⟩ := Prod.mk.inj heq
    rw [hs.versions chain _ (Nat.lt_succ_self _)] at ht
    cases ht
  refine ⟨⟨hs.unconfigured, ?_, ?_, hs.ripe⟩, ⟨fun cfg h => ⟨cfg.admin, h⟩, ?_⟩⟩
  · intro chain version hlt
    simp only [Settings.getTimingVersion, Map.get?_set] at hlt
    simp only [Settings.getRouteTimingAt, Map.get?_set]
    split at hlt
    · next heq =>
      subst heq
      have hlt' : c.settings.getTimingVersion chain + 1 < version := hlt
      rw [if_neg (fun heq => hlt'.ne' (Prod.mk.inj heq).2)]
      exact hs.versions chain version (Nat.lt_of_succ_lt hlt')
    · next hne =>
      rw [if_neg (fun heq => hne (Prod.mk.inj heq).1)]
      exact hs.versions chain version hlt
  · intro chain version t ht
    simp only [Settings.getRouteTimingAt, Map.get?_set] at ht
    split at ht
    · obtain rfl := Option.some.inj ht
      exact RouteTiming.valid_of_validate hvalid
    · exact hs.timings_valid chain version t ht
  · intro chain version t ht
    show Map.get? (Map.set _ _ _) _ = _
    rw [Map.get?_set_ne (hkey chain version t ht)]
    exact ht

end Escrow

end ProofBridge
