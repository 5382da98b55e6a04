import ProofBridge.CustodyAccount.Timing

/-!
# The announcements of a run

Every stored row was announced, and waits out the timing its scope has now.
-/

namespace ProofBridge
namespace CustodyAccount

open ContractLib Evm

variable {D : Deployment} {msg : Message} {s s' : State} {scope key : BytesN32} {action : Selector}
  {rail : GuardRail} {Y : Type} {N : Neighbors Y} {oc : OwnerCall} {call : Call} {h : History}
  {c c' : Chain Y} {outside : Y → Y → Prop}

/-- The timing a scope has now, where it has one. -/
def State.timing (s : State) (scope : BytesN32) : Option (ℕ × ℕ) :=
  if scope = ACCOUNT_SCOPE then if s.guarded = [] then none else some s.accountTimelock
  else (s.guards.get? scope).map fun g => (g.rail.delay.toNat, g.rail.window.toNat)

/-- Every stored row is one the loops reach, was announced, and waits out its scope's timing. -/
structure Timely (D : Deployment) (h : History) (s : State) : Prop where
  rostered : Rostered s
  stored : ∀ scope action row, s.row scope action = some row →
    action ∈ visited scope ∧ row.readyAt ≠ 0
  obeys : ∀ scope action row, s.row scope action = some row →
    ∃ timing t, s.timing scope = some timing ∧ announcedAt D scope action h = some t ∧
      row.Obeys t timing

theorem timing_ad (hscope : scope ≠ ACCOUNT_SCOPE) : s.timing scope
    = (s.guards.get? scope).map fun g => (g.rail.delay.toNat, g.rail.window.toNat) := by
  rw [State.timing, if_neg hscope]

theorem timing_account (hguarded : s.guarded ≠ []) :
    s.timing ACCOUNT_SCOPE = some s.accountTimelock := by
  rw [State.timing, if_pos rfl, if_neg hguarded]

/-- A call that announces nothing leaves the announcements of the run as they were. -/
theorem Timely.quiet {e : (Message × Call) × Unit} (hs : Timely D h s)
    (hcall : e.1.2.stores = false) : Timely D (e :: h) s := by
  refine ⟨hs.rostered, hs.stored, fun scope action row hrow => ?_⟩
  obtain ⟨timing, t, htiming, ht, hobeys⟩ := hs.obeys scope action row hrow
  refine ⟨timing, t, htiming, ?_, hobeys⟩
  rw [announcedAt_cons, not_announces hcall]
  exact ht

/-- No row is new and no timing changed. -/
theorem Timely.frame (hs : Timely D h s) (hrostered : Rostered s')
    (htiming : ∀ scope, s'.timing scope = s.timing scope)
    (hrows : ∀ scope action row, s'.row scope action = some row → s.row scope action = some row) :
    Timely D h s' := by
  refine ⟨hrostered, fun scope action row hrow => hs.stored scope action row (hrows _ _ _ hrow),
    fun scope action row hrow => ?_⟩
  rw [htiming]
  exact hs.obeys scope action row (hrows _ _ _ hrow)

/-- A loosened or disarmed rail takes every row its settings timed. -/
theorem Timely.cleared (hs : Timely D h s) (hrostered : Rostered s')
    (hother : ∀ key', key' ≠ key → s'.guards.get? key' = s.guards.get? key')
    (hrows : ClearedRows key s s') : Timely D h s' := by
  have hkept : ∀ scope action row, s'.row scope action = some row →
      s.row scope action = some row ∧ scope ≠ key ∧ scope ≠ ACCOUNT_SCOPE := by
    intro scope action row hrow
    rw [hrows] at hrow
    split at hrow
    · cases hrow
    · next hout =>
      have hlisted := (hs.stored scope action row hrow).1
      exact ⟨hrow, fun h => hout ⟨.inl h, hlisted⟩, fun h => hout ⟨.inr h, hlisted⟩⟩
  refine ⟨hrostered, ?_, ?_⟩
  · intro scope action row hrow
    exact hs.stored scope action row (hkept scope action row hrow).1
  · intro scope action row hrow
    obtain ⟨hold, had, haccount⟩ := hkept scope action row hrow
    obtain ⟨timing, t, htiming, ht, hobeys⟩ := hs.obeys scope action row hold
    refine ⟨timing, t, ?_, ht, hobeys⟩
    rw [timing_ad haccount, hother scope had, ← timing_ad haccount]
    exact htiming

theorem nowTs_toNat (hmsg : msg.timestamp.toNat < 2 ^ 64) :
    (nowTs msg).toNat = msg.timestamp.toNat := by
  rw [nowTs, BitVec.toNat_setWidth]
  exact Nat.mod_eq_of_lt hmsg

/-- Arming and tightening retime what is pending. -/
theorem Timely.armed {bucket : AgentRateLimit.Bucket} (hs : Timely D h s)
    (hlate : ∀ e ∈ h, timeOf e ≤ (nowTs msg).toNat)
    (hrostered : Rostered s') (hkey : key ≠ ACCOUNT_SCOPE)
    (hguards : s'.guards = s.guards.set key ⟨rail, bucket⟩)
    (hroster : s'.guarded = if (s.guards.get? key).isSome then s.guarded else s.guarded ++ [key])
    (hrows : ∀ scope action, s'.row scope action
      = if action ∈ visited scope then (s.row scope action).map (retimed msg s s' key rail scope)
        else s.row scope action) : Timely D h s' := by
  have hpending : ∀ scope action row', s'.row scope action = some row' →
      ∃ row, s.row scope action = some row ∧ action ∈ visited scope ∧ row.readyAt ≠ 0 ∧
        row' = retimed msg s s' key rail scope row := by
    intro scope action row' hrow'
    rw [hrows] at hrow'
    split at hrow'
    · obtain ⟨row, hrow, rfl⟩ := Option.map_eq_some_iff.mp hrow'
      obtain ⟨hlisted, hwritten⟩ := hs.stored scope action row hrow
      exact ⟨row, hrow, hlisted, hwritten, rfl⟩
    · next hunlisted => exact absurd (hs.stored scope action row' hrow').1 hunlisted
  have hretimed : ∀ scope action row', s'.row scope action = some row' →
      (action ∈ visited scope ∧ row'.readyAt ≠ 0) ∧
        ∃ timing t, s'.timing scope = some timing ∧ announcedAt D scope action h = some t ∧
          row'.Obeys t timing := by
    intro scope action row' hrow'
    obtain ⟨row, hrow, hlisted, hwritten, rfl⟩ := hpending scope action row' hrow'
    obtain ⟨timing, t, htiming, ht, hobeys⟩ := hs.obeys scope action row hrow
    have hpast := announcedAt_le hlate ht
    unfold retimed
    by_cases had : scope = key
    · -- the ad's own rows move with its rail
      subst had
      rw [if_pos rfl]
      rw [timing_ad hkey] at htiming
      obtain ⟨cur, hcur, rfl⟩ := Option.map_eq_some_iff.mp htiming
      have hbefore : s.adDelay scope = cur.rail.delay.toNat := by
        unfold State.adDelay
        rw [hcur]
        rfl
      have hrises : rail.delay.toNat ≤ cur.rail.delay.toNat ∨
          s.adDelay scope < rail.delay.toNat ∧ rail.delay.toNat ≤ rail.delay.toNat := by
        omega
      obtain ⟨hraised, hraisedAt⟩ := hobeys.raised hpast hrises hwritten
      obtain ⟨hcut, hcutAt⟩ := Schedule.Obeys.clamped (w := rail.window.toNat) hraised hraisedAt
      refine ⟨⟨hlisted, hcutAt⟩, _, t, ?_, ht, hcut⟩
      rw [timing_ad hkey, hguards, Map.get?_set_self]
      rfl
    rw [if_neg had]
    by_cases haccount : scope = ACCOUNT_SCOPE
    · -- the account's rows move with the longest delay
      subst haccount
      rw [if_pos rfl]
      have hguarded : s.guarded ≠ [] := by
        intro hnone
        rw [State.timing, if_pos rfl, if_pos hnone] at htiming
        cases htiming
      rw [timing_account hguarded] at htiming
      cases htiming
      have hguarded' : s'.guarded ≠ [] := by
        rw [hroster]
        split
        · exact hguarded
        · exact List.append_ne_nil_of_right_ne_nil _ (List.cons_ne_nil key [])
      have hdelay := delay_armed hguards hroster
      have hrises : s'.accountTimelock.1 ≤ s.accountTimelock.1 ∨
          s.accountTimelock.1 < rail.delay.toNat ∧
            s'.accountTimelock.1 ≤ rail.delay.toNat := by
        omega
      obtain ⟨hraised, hraisedAt⟩ := hobeys.raised hpast hrises hwritten
      obtain ⟨hcut, hcutAt⟩ := Schedule.Obeys.clamped (w := s'.accountTimelock.2) hraised hraisedAt
      exact ⟨⟨hlisted, hcutAt⟩, _, t, timing_account hguarded', ht, hcut⟩
    · rw [if_neg haccount]
      refine ⟨⟨hlisted, hwritten⟩, timing, t, ?_, ht, hobeys⟩
      rw [timing_ad haccount, hguards, Map.get?_set_ne had, ← timing_ad haccount]
      exact htiming
  exact ⟨hrostered, fun scope action row hrow => (hretimed scope action row hrow).1,
    fun scope action row hrow => (hretimed scope action row hrow).2⟩

theorem row_of_schedules (hrows : s'.schedules = s.schedules) : s'.row scope action = s.row scope action := by
  unfold State.row
  rw [hrows]

/-- What one move leaves of the announcements. -/
theorem Timely.move (hs : Timely D h s) (hkeys : ∀ adId, D.adKey adId ≠ ACCOUNT_SCOPE)
    (hlate : ∀ e ∈ h, timeOf e ≤ (nowTs msg).toNat) (move : Move D msg s s') : Timely D h s' := by
  have hrostered := hs.rostered.move hkeys move
  have htimed : s'.guards = s.guards → s'.guarded = s.guarded →
      ∀ scope, s'.timing scope = s.timing scope := by
    intro hguards hroster scope
    unfold State.timing State.accountTimelock State.accountTimelockWithout State.rail
    rw [hguards, hroster]
  cases move with
  | kept guards roster rows =>
    refine hs.frame hrostered (htimed guards roster) fun scope action row hrow => ?_
    rwa [row_of_schedules rows] at hrow
  | removed guards roster rows =>
    refine hs.frame hrostered (htimed guards roster) fun scope action row hrow => ?_
    unfold State.row at hrow ⊢
    rw [rows, Map.get?_remove] at hrow
    split at hrow
    · cases hrow
    · exact hrow
  | @charged key g next found guards roster rows =>
    refine hs.frame hrostered (fun scope => ?_) fun scope action row hrow => ?_
    · unfold State.timing
      rw [accountTimelock_charged found guards roster, roster, guards, Map.get?_set]
      by_cases heq : scope = key
      · rw [if_pos heq, heq, found]
        rfl
      · rw [if_neg heq]
    · rwa [row_of_schedules rows] at hrow
  | armed bounds tight guards roster rows =>
    exact hs.armed hlate hrostered (hkeys _) guards roster rows
  | loosened bounds found guards roster rows =>
    refine hs.cleared hrostered (fun key' hne => ?_) rows
    rw [guards, Map.get?_set_ne hne]
  | disarmed found guards roster rows =>
    refine hs.cleared hrostered (fun key' hne => ?_) rows
    rw [guards, Map.get?_remove_ne hne]

theorem Timely.moves (hs : Timely D h s) (hkeys : ∀ adId, D.adKey adId ≠ ACCOUNT_SCOPE)
    (hlate : ∀ e ∈ h, timeOf e ≤ (nowTs msg).toNat) (moves : Moves D msg s s') : Timely D h s' := by
  induction moves with
  | refl => exact hs
  | tail _ move ih => exact ih.move hkeys hlate move

/-- A new announcement waits from now. -/
theorem Timely.scheduled {y : Y} (hs : Timely D h s) (hmsg : msg.timestamp.toNat < 2 ^ 64)
    (ok : schedule D msg N y scope oc s = .ok ((), s')) :
    Timely D (((msg, .schedule scope oc), ()) :: h) s' := by
  obtain ⟨action₀, kind, named, hkind, hwaits, delay, window, -, hterms, rfl⟩ := schedule_ok ok
  have htiming : s.timing scope = some (delay, window) ∧ 0 < delay := by
    split at hterms
    · next haccount =>
      obtain ⟨hguarded, hlock⟩ := hterms
      have hpos := hs.rostered.delay_pos hguarded
      rw [haccount, timing_account hguarded, hlock]
      rw [hlock] at hpos
      exact ⟨rfl, hpos⟩
    · next had =>
      obtain ⟨g, hg, rfl, rfl⟩ := hterms
      rw [timing_ad had, hg]
      exact ⟨rfl, hs.rostered.delayed scope g hg⟩
  have hsplit : ∀ scope' action row,
      (s.putSchedule scope action₀ ⟨D.commitment oc, (nowTs msg).toNat + delay,
        (nowTs msg).toNat + delay + window⟩).row scope' action = some row →
      (scope' = scope ∧ action = action₀ ∧ row = ⟨D.commitment oc, (nowTs msg).toNat + delay,
        (nowTs msg).toNat + delay + window⟩) ∨
        (s.row scope' action = some row ∧ ¬(scope = scope' ∧ action₀ = action)) := by
    intro scope' action row hrow
    rw [row_putSchedule] at hrow
    split at hrow
    · next heq =>
      cases hrow
      exact .inl ⟨heq.1, heq.2, rfl⟩
    · next hne => exact .inr ⟨hrow, fun heq => hne ⟨heq.1.symm, heq.2.symm⟩⟩
  have hannounces : ∀ scope' action, (Call.schedule scope oc).announces D scope' action
      = (decide (scope = scope') && decide (action₀ = action)) := by
    intro scope' action
    unfold Call.announces
    dsimp only
    rw [named]
  refine ⟨⟨hs.rostered.listed, hs.rostered.nodup, hs.rostered.keyed, hs.rostered.delayed⟩, ?_, ?_⟩
  · intro scope' action row hrow
    rcases hsplit scope' action row hrow with ⟨rfl, rfl, rfl⟩ | ⟨hold, -⟩
    · refine ⟨named_scope (actionOf_ok named) hkind hwaits, ?_⟩
      dsimp only
      omega
    · exact hs.stored scope' action row hold
  · intro scope' action row hrow
    rw [announcedAt_cons, hannounces]
    rcases hsplit scope' action row hrow with ⟨rfl, rfl, rfl⟩ | ⟨hold, hne⟩
    · refine ⟨(delay, window), timeOf ((msg, .schedule scope' oc), ()), htiming.1, by simp, ?_⟩
      rw [nowTs_toNat hmsg]
      exact ⟨le_rfl, le_rfl⟩
    · obtain ⟨timing, t, htiming', ht, hobeys⟩ := hs.obeys scope' action row hold
      refine ⟨timing, t, htiming', ?_, hobeys⟩
      rw [if_neg]
      · exact ht
      · simpa using fun h h' => hne ⟨h, h'⟩

/-! ## Runs -/

theorem timely_new {owner : EvmAddress} (hnew : initialized owner = .ok s) : Timely D [] s := by
  simp only [initialized, Check.bind_ok, Check.require_ok, Check.pure_ok] at hnew
  obtain ⟨-, -, rfl⟩ := hnew
  refine ⟨⟨?_, List.nodup_nil, List.not_mem_nil, ?_⟩, ?_, ?_⟩
  · intro key
    simp
  · intro key g hg
    cases hg
  · intro scope action row hrow
    cases hrow
  · intro scope action row hrow
    cases hrow

theorem timely_of_exec (hs : Timely D h c.state) (hkeys : ∀ adId, D.adKey adId ≠ ACCOUNT_SCOPE)
    (hmsg : msg.timestamp.toNat < 2 ^ 64) (hlate : ∀ e ∈ h, timeOf e ≤ msg.timestamp.toNat)
    (ok : exec D N msg call c = .ok ((), c')) : Timely D (((msg, call), ()) :: h) c'.state := by
  have hlate' : ∀ e ∈ h, timeOf e ≤ (nowTs msg).toNat := nowTs_toNat hmsg ▸ hlate
  cases hcall : call.stores with
  | false => exact (hs.moves hkeys hlate' (moves_of_exec hkeys hcall ok)).quiet hcall
  | true =>
    cases call with
    | schedule scope oc =>
      rw [exec] at ok
      obtain ⟨s', hs', rfl⟩ := onAccount_ok.mp ok
      exact hs.scheduled hmsg hs'
    | _ => cases hcall

theorem timely_of_run {owner : EvmAddress} {s₀ : State} {y : Y}
    (hkeys : ∀ adId, D.adKey adId ≠ ACCOUNT_SCOPE) (hnew : initialized owner = .ok s₀)
    (run : Run (system D N outside) ⟨s₀, y⟩ h c) (hchron : Chronological h) : Timely D h c.state := by
  induction run with
  | start => exact timely_new hnew
  | refused run failed ih => exact ih hchron
  | outside run moved ih =>
    obtain ⟨y', -, rfl⟩ := moved
    exact ih hchron
  | accepted run admitted ok ih =>
    obtain ⟨hlate, hchron⟩ := List.pairwise_cons.mp hchron
    exact timely_of_exec (ih hchron) hkeys admitted.1 hlate ok

end CustodyAccount
end ProofBridge
