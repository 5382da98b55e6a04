import ProofBridge.CustodyAccount.Gate

/-!
# The guard rail over whole runs

What holds of every run of the account: each stored row waits out the settings in force, and while any
ad is guarded nothing leaves it but through the gate. A nomination that can complete while an ad is
guarded was announced.
-/

namespace ProofBridge
namespace CustodyAccount

open ContractLib Evm

variable {D : Deployment} {msg : Message} {s s' s₀ : State} {scope key : BytesN32}
  {action : Selector} {Y : Type} {N : Neighbors Y} {y : Y} {oc : OwnerCall} {call : Call}
  {c c' : Chain Y} {outside : Y → Y → Prop} {owner : EvmAddress}

/-! ## Nominations -/

/-- The call nominated a new owner under a guard, consuming the row that announced it. -/
def Nominates (D : Deployment) (newOwner : EvmAddress)
    (p : Passage (Chain Y) (Message × Call) Unit) : Prop :=
  p.event.1.2 = .transferOwnership newOwner ∧ p.before.state.guarded ≠ [] ∧
    ∃ row, Spendable D p.event.1.1 p.before.state ACCOUNT_SCOPE Selector.transferOwnership
      (D.ownCall p.event.1.1) row

theorem Judged.frame (h : Judged D N y msg s s' oc) :
    s'.pendingOwner = s.pendingOwner ∧ s'.guarded = s.guarded := by
  cases h with
  | instant named kind same => exact same ▸ ⟨rfl, rfl⟩
  | unguarded named kind unarmed same => exact same ▸ ⟨rfl, rfl⟩
  | charged named kind armed small read within debited left =>
    subst left
    exact ⟨rfl, rfl⟩
  | announcedAd named kind spendable left =>
    subst left
    exact ⟨rfl, rfl⟩
  | announced named kind spendable left =>
    subst left
    exact ⟨rfl, rfl⟩

theorem Made.frame {calls : List OwnerCall} (h : Made D N msg calls c c') :
    c'.state.pendingOwner = c.state.pendingOwner ∧ c'.state.guarded = c.state.guarded := by
  induction h with
  | done => exact ⟨rfl, rfl⟩
  | @call oc calls c c' s₁ y₁ foreign plain judged made rest ih =>
    have hstep : s₁.pendingOwner = c.state.pendingOwner ∧ s₁.guarded = c.state.guarded := by
      by_cases hguarded : c.state.guarded = []
      · rw [plain hguarded]
        exact ⟨rfl, rfl⟩
      · exact (judged hguarded).frame
    exact ⟨ih.1.trans hstep.1, ih.2.trans hstep.2⟩

/-- A nomination stands under a guard only where it stood under one before, or was just announced. -/
theorem nomination_of_exec (hs : Rostered c.state) (hkeys : ∀ adId, D.adKey adId ≠ ACCOUNT_SCOPE)
    (ok : exec D N msg call c = .ok ((), c')) (hguarded : c'.state.guarded ≠ [])
    (hpending : c'.state.pendingOwner ≠ 0) :
    (c.state.guarded ≠ [] ∧ c'.state.pendingOwner = c.state.pendingOwner) ∨
      Nominates D c'.state.pendingOwner ⟨c, ((msg, call), ()), c'⟩ := by
  have hsame : c'.state.pendingOwner = c.state.pendingOwner ∧ c'.state.guarded = c.state.guarded →
      c.state.guarded ≠ [] ∧ c'.state.pendingOwner = c.state.pendingOwner :=
    fun h => ⟨h.2 ▸ hguarded, h.1⟩
  cases call with
  | setGuardRail adId rail =>
    rw [exec] at ok
    obtain ⟨s', hs', rfl⟩ := onAccount_ok.mp ok
    obtain ⟨-, -, hloosened | harmed⟩ := setGuardRail_ok (hkeys adId) hs'
    · obtain ⟨g, row, -, -, -, -, hroster, -, hkept, -⟩ := hloosened
      exact .inl (hsame ⟨hkept, hroster⟩)
    · obtain ⟨-, -, hroster, -, hkept, -⟩ := harmed
      left
      rw [hkept] at hpending ⊢
      split at hpending
      · exact absurd rfl hpending
      · next hstood =>
        rw [if_neg hstood]
        refine ⟨fun hnone => hstood ⟨?_, hnone⟩, rfl⟩
        -- with nothing guarded the ad was not armed
        rw [Bool.eq_false_iff]
        intro hsome
        have hmem := (hs.listed _).mpr hsome
        rw [hnone] at hmem
        cases hmem
  | disarmGuardRail adId =>
    rw [exec] at ok
    obtain ⟨s', hs', rfl⟩ := onAccount_ok.mp ok
    have hdisarms := (disarmGuardRail_ok (hkeys adId) hs').2
    exact .inl ⟨List.ne_nil_of_mem ((hs.listed _).mpr hdisarms.found), hdisarms.pending⟩
  | disarmClosedAd adManager adId =>
    rw [exec] at ok
    obtain ⟨s', hs', rfl⟩ := onAccount_ok.mp ok
    have hdisarms := disarmClosedAd_ok (hkeys adId) hs'
    exact .inl ⟨List.ne_nil_of_mem ((hs.listed _).mpr hdisarms.found), hdisarms.pending⟩
  | schedule scope oc =>
    rw [exec] at ok
    obtain ⟨s', hs', rfl⟩ := onAccount_ok.mp ok
    obtain ⟨action, kind, -, -, -, delay, window, -, -, rfl⟩ := schedule_ok hs'
    exact .inl (hsame ⟨rfl, rfl⟩)
  | cancel scope action =>
    rw [exec] at ok
    obtain ⟨s', hs', rfl⟩ := onAccount_ok.mp ok
    obtain rfl := cancel_ok hs'
    exact .inl (hsame ⟨rfl, rfl⟩)
  | transferOwnership newOwner =>
    rw [exec] at ok
    obtain ⟨s', hs', rfl⟩ := onAccount_ok.mp ok
    obtain ⟨-, hnew, -, hroster, ⟨hfree, -⟩ | ⟨-, hold, hrow, -⟩⟩ := transferOwnership_ok hs'
    · rcases hfree with rfl | hnone
      · exact absurd hnew hpending
      · exact absurd (hroster.trans hnone) hguarded
    · subst hnew
      exact .inr ⟨rfl, hold, hrow⟩
  | acceptOwnership =>
    rw [exec] at ok
    obtain ⟨s', hs', rfl⟩ := onAccount_ok.mp ok
    obtain ⟨-, rfl⟩ := acceptOwnership_ok hs'
    exact absurd rfl hpending
  | execute oc =>
    rw [exec] at ok
    exact .inl (hsame (execute_ok ok).frame)
  | executeBatch calls =>
    rw [exec] at ok
    exact .inl (hsame (executeBatch_ok ok).frame)
  | sweep token payee amount =>
    rw [exec] at ok
    rcases sweep_ok ok with ⟨-, hplain⟩ | ⟨-, -, hspent⟩
    · rw [hplain] at hguarded ⊢
      exact .inl ⟨hguarded, rfl⟩
    · rw [hspent] at hguarded ⊢
      exact .inl ⟨hguarded, rfl⟩
  | batchRest calls =>
    rw [exec] at ok
    exact .inl (hsame (batch_ok ok).frame)

/-- Whoever may accept the account while an ad is guarded was nominated under a guard. -/
theorem nominated_of_run {ps : List (Passage (Chain Y) (Message × Call) Unit)}
    (hkeys : ∀ adId, D.adKey adId ≠ ACCOUNT_SCOPE) (hnew : initialized owner = .ok s₀)
    (run : Passages (system D N outside) ⟨s₀, y⟩ ps c)
    (hchron : Chronological (ps.map Passage.event)) (hguarded : c.state.guarded ≠ [])
    (hpending : c.state.pendingOwner ≠ 0) : ∃ p ∈ ps, Nominates D c.state.pendingOwner p := by
  induction run with
  | start =>
    simp only [initialized, Check.bind_ok, Check.require_ok, Check.pure_ok] at hnew
    obtain ⟨-, -, rfl⟩ := hnew
    exact absurd rfl hguarded
  | refused run failed ih => exact ih hchron hguarded hpending
  | outside run moved ih =>
    obtain ⟨y', -, rfl⟩ := moved
    exact ih hchron hguarded hpending
  | @accepted ps c c' t r run admitted ok ih =>
    obtain ⟨-, hchron⟩ := List.pairwise_cons.mp hchron
    have hs := (timely_of_run hkeys hnew run.run hchron).rostered
    rcases nomination_of_exec hs hkeys ok hguarded hpending with ⟨hguarded', hkept⟩ | hnominates
    · rw [hkept] at hpending ⊢
      obtain ⟨p, hp, hnominates⟩ := ih hchron hguarded' hpending
      exact ⟨p, List.mem_cons_of_mem _ hp, hnominates⟩
    · exact ⟨_, List.mem_cons_self, hnominates⟩

/-! ## The account's calls -/

/-- The call spent the account's row of exactly this call. -/
def Consumes (D : Deployment) (msg : Message) (action : Selector) (s s' : State) : Prop :=
  (∃ row, Spendable D msg s ACCOUNT_SCOPE action (D.ownCall msg) row) ∧
    s'.row ACCOUNT_SCOPE action = none

/-- What a guard makes of an accepted call. -/
def Guarded (D : Deployment) (N : Neighbors Y) (msg : Message) (c c' : Chain Y) : Call → Prop
  | .execute oc => Made D N msg [oc] c c'
  | .executeBatch calls => Made D N msg calls c c'
  | .batchRest calls => Made D N msg calls c c'
  | .sweep .. => c.state.guarded ≠ [] → Consumes D msg Selector.sweep c.state c'.state
  | .transferOwnership newOwner => c.state.guarded ≠ [] → newOwner ≠ 0 →
      Consumes D msg Selector.transferOwnership c.state c'.state
  | _ => True

theorem guarded_of_exec (ok : exec D N msg call c = .ok ((), c')) : Guarded D N msg c c' call := by
  cases call with
  | execute oc =>
    rw [exec] at ok
    exact execute_ok ok
  | executeBatch calls =>
    rw [exec] at ok
    exact executeBatch_ok ok
  | batchRest calls =>
    rw [exec] at ok
    exact batch_ok ok
  | sweep token payee amount =>
    rw [exec] at ok
    intro hguarded
    rcases sweep_ok ok with ⟨hnone, -⟩ | ⟨-, hrow, hspent⟩
    · exact absurd hnone hguarded
    · exact ⟨hrow, hspent ▸ row_spent⟩
  | transferOwnership newOwner =>
    rw [exec] at ok
    intro hguarded hne
    obtain ⟨s', hs', rfl⟩ := onAccount_ok.mp ok
    obtain ⟨-, -, -, -, ⟨hfree, -⟩ | ⟨-, -, hrow, rfl⟩⟩ := transferOwnership_ok hs'
    · rcases hfree with hzero | hnone
      · exact absurd hzero hne
      · exact absurd hnone hguarded
    · exact ⟨hrow, row_spent⟩
  | _ => trivial

/-- Restamping, clamping and clearing all visit the row. -/
structure Maintained (scope : BytesN32) (action : Selector) : Prop where
  restamped : ∀ {s s' : State} {notBefore : ℕ}, restamp scope notBefore s = .ok ((), s') →
    s'.row scope action = (s.row scope action).map (Schedule.restamped notBefore)
  clamped : ∀ {s s' : State} {window : ℕ}, clampWindow scope window s = .ok ((), s') →
    s'.row scope action = (s.row scope action).map (Schedule.clamped window)
  cleared : ∀ {s : State} {key : BytesN32}, key ≠ ACCOUNT_SCOPE → scope = key ∨ scope = ACCOUNT_SCOPE →
    (s.clearSchedules key).row scope action = none

theorem maintained_of_visited (h : action ∈ visited scope) : Maintained scope action := by
  refine ⟨fun ok => ?_, fun ok => ?_, fun hkey hscope => ?_⟩
  · rw [(restamp_ok ok).2, if_pos ⟨rfl, h⟩]
  · rw [(clampWindow_ok ok).2, if_pos ⟨rfl, h⟩]
  · rw [row_clearSchedules hkey, if_pos ⟨hscope, h⟩]

/-- The one row an announcement is stored in is the one its call is gated by. -/
theorem stored_as_gated (ok : schedule D msg N y scope oc s = .ok ((), s')) :
    ∃ action, Maintained scope action ∧
      (∀ scope' action', s'.row scope' action' ≠ s.row scope' action' →
        scope' = scope ∧ action' = action) ∧
      (∀ msg' y' s₁ s₁', gate D msg' N y' oc s₁ = .ok ((), s₁') → ∀ scope' action',
        s₁'.row scope' action' ≠ s₁.row scope' action' → scope' = scope ∧ action' = action) ∧
      ∀ msg' call, D.ownCall msg' = oc → dispatched msg'.data call = true → ∀ row,
        ownRow D call = some row → row = (action, scope) := by
  obtain ⟨action, kind, named, hkind, hwaits, delay, window, -, -, rfl⟩ := schedule_ok ok
  refine ⟨action, maintained_of_visited (named_scope (actionOf_ok named) hkind hwaits), ?_, ?_, ?_⟩
  · intro scope' action' hmoved
    rw [row_putSchedule] at hmoved
    split at hmoved
    · next heq => exact heq
    · exact absurd rfl hmoved
  · intro msg' y' s₁ s₁' hgate scope' action' hmoved
    obtain ⟨-, ⟨-, hplain⟩ | ⟨-, hjudged⟩⟩ := gate_ok hgate
    · exact absurd (hplain ▸ rfl) hmoved
    · have hspent := hjudged.spends hmoved
      rw [named] at hspent
      cases hspent
      exact ⟨rfl, rfl⟩
  · intro msg' call hown hdispatched row hrow
    have hnamed := ownRow_named hdispatched hrow
    rw [hown, named] at hnamed
    cases hnamed
    rfl

/-! ## A sample account -/

/-- The sweep the owner of the sample announces. -/
def sampleSweep : OwnerCall where
  target := 0x1111
  value := 0
  data := [0x62, 0xc0, 0x67, 0x67] ++ Eip712.concat [0x7777, 0x2222, 5]

/-- The arming of an ad "ad" with a delay and a window of an hour. -/
def sampleArm : Bytes :=
  [0xfb, 0x8c, 0x7f, 0x96] ++ Eip712.concat [0xc0, 100, 3600, 3600, 1000, 1, 2]
    ++ Abi.padRight [0x61, 0x64]

/-- Keccak-256 on what the sample hashes. -/
def sampleKeccak (b : Bytes) : BytesN32 :=
  if b = [0x61, 0x64] then 0xebd6f888b589f38ab6d5d1da951dcb2c8146ae589ab46d452a4a986e524c0512
  else if b = encodeCall sampleSweep then
    0x4e1a3a005e8c6e9fc2ee09ae94278319d7eb265f56676a8b8df7405350ea7958
  else 1

def sampleDeployment : Deployment where
  keccak256 := sampleKeccak
  this := 0x1111
  module := 0x3333

/-- An escrow is pinned, and every call goes through. -/
def sampleNeighbors : Neighbors Unit where
  isTargetPinned _ target := target = 0x4444
  accountLimit _ _ := ⟨0, 0⟩
  ads _ _ _ := none
  call _ _ _ _ := some ()
  pay _ _ _ _ := some ()

abbrev sampleSystem : System CustodyError (Chain Unit) (Message × Call) Unit :=
  system sampleDeployment sampleNeighbors fun _ _ => False

instance (c : Chain Unit) (t : Message × Call) : Decidable (sampleSystem.admits c t) :=
  inferInstanceAs (Decidable (_ ∧ _ ∧ _))

def sampleNew : Chain Unit := ⟨⟨0x0A, 0, ∅, [], ∅⟩, ()⟩

def sampleMessage (timestamp : Uint256) (data : Bytes) : Message := ⟨timestamp, 0x0A, data⟩

/-- An ad is guarded and a sweep is announced. -/
def sampleCalls : List (Message × Call) :=
  [(sampleMessage 100 sampleArm, .setGuardRail [0x61, 0x64] ⟨100, 3600, 3600, 1000, 1⟩),
    (sampleMessage 200 [], .schedule ACCOUNT_SCOPE sampleSweep)]

def sampleAnnounced : History × Chain Unit :=
  (play sampleSystem sampleCalls [] sampleNew).getD ([], sampleNew)

theorem run_sampleAnnounced : Run sampleSystem sampleNew sampleAnnounced.1 sampleAnnounced.2 :=
  Run.played_admitted (by decide +kernel) (by decide +kernel)

theorem chronological_sampleAnnounced : Chronological sampleAnnounced.1 := by
  have htimes : (sampleAnnounced.1.map timeOf).Pairwise fun later earlier => earlier ≤ later := by
    decide +kernel
  exact List.pairwise_map.mp htimes

theorem sampleKeccak_ne_zero (b : Bytes) : sampleKeccak b ≠ 0 := by
  unfold sampleKeccak
  split
  · decide
  split
  · decide
  · decide

/-! ## The guard rail -/

/-- While any ad is guarded, nothing leaves the account but through the gate; every row waits out the
settings in force, and is announced, maintained and spent under one scope and action. -/
theorem guarded_custody {ps : List (Passage (Chain Y) (Message × Call) Unit)}
    (hkeys : ∀ adId, D.adKey adId ≠ ACCOUNT_SCOPE) (hnew : initialized owner = .ok s₀)
    (run : Passages (system D N outside) ⟨s₀, y⟩ ps c)
    (hchron : Chronological (ps.map Passage.event)) :
    (∀ msg call c', exec D N msg call c = .ok ((), c') → Guarded D N msg c c' call) ∧
    (c.state.guarded ≠ [] → c.state.pendingOwner ≠ 0 →
      ∃ p ∈ ps, Nominates D c.state.pendingOwner p) ∧
    (∀ scope action row, c.state.row scope action = some row → Maintained scope action ∧
      ∃ timing t, c.state.timing scope = some timing ∧
        announcedAt D scope action (ps.map Passage.event) = some t ∧
        t + timing.1 ≤ row.readyAt ∧ row.expiresAt ≤ row.readyAt + timing.2) ∧
    (∀ msg y scope oc s s', schedule D msg N y scope oc s = .ok ((), s') →
      ∃ action, Maintained scope action ∧
        (∀ scope' action', s'.row scope' action' ≠ s.row scope' action' →
          scope' = scope ∧ action' = action) ∧
        (∀ msg' y' s₁ s₁', gate D msg' N y' oc s₁ = .ok ((), s₁') → ∀ scope' action',
          s₁'.row scope' action' ≠ s₁.row scope' action' → scope' = scope ∧ action' = action) ∧
        ∀ msg' call, D.ownCall msg' = oc → dispatched msg'.data call = true → ∀ row,
          ownRow D call = some row → row = (action, scope)) ∧
    Function.Injective encodeCall := by
  have htimely := timely_of_run hkeys hnew run.run hchron
  refine ⟨fun _ _ _ ok => guarded_of_exec ok, ?_, ?_, ?_, encodeCall_injective⟩
  · exact nominated_of_run hkeys hnew run hchron
  · intro scope action row hrow
    obtain ⟨timing, t, htiming, ht, hobeys⟩ := htimely.obeys scope action row hrow
    exact ⟨maintained_of_visited (htimely.stored scope action row hrow).1, timing, t, htiming, ht,
      hobeys.waits, hobeys.closes⟩
  · intro msg y scope oc s s' ok
    exact stored_as_gated ok

theorem guarded_custody_sample :
    ∃ c', exec sampleDeployment sampleNeighbors (sampleMessage 3800 sampleSweep.data)
        (.sweep 0x7777 0x2222 5) sampleAnnounced.2 = .ok ((), c') ∧
      Consumes sampleDeployment (sampleMessage 3800 sampleSweep.data) Selector.sweep
        sampleAnnounced.2.state c'.state := by
  obtain ⟨ps, hps, run⟩ := run_sampleAnnounced.passages
  have hchron : Chronological (ps.map Passage.event) := hps ▸ chronological_sampleAnnounced
  have hnew : initialized 0x0A = .ok sampleNew.state := rfl
  have hall := guarded_custody (D := sampleDeployment) sampleKeccak_ne_zero hnew run hchron
  have hsome : (exec sampleDeployment sampleNeighbors (sampleMessage 3800 sampleSweep.data)
      (.sweep 0x7777 0x2222 5) sampleAnnounced.2).toOption.isSome = true := by decide +kernel
  have hguarded : sampleAnnounced.2.state.guarded ≠ [] := by decide +kernel
  cases hexec : exec sampleDeployment sampleNeighbors (sampleMessage 3800 sampleSweep.data)
      (.sweep 0x7777 0x2222 5) sampleAnnounced.2 with
  | error e =>
    rw [hexec] at hsome
    cases hsome
  | ok r => exact ⟨r.2, rfl, hall.1 _ _ _ hexec hguarded⟩

end CustodyAccount
end ProofBridge
