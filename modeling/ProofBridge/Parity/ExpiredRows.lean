import ProofBridge.AgentAccount.Timelock
import ProofBridge.CustodyAccount.GuardRail

/-!
# Expired announcements

An expired row stays stored. Neither chain lets a call spend it, until the arming of a longer delay
restamps it into the future with the rows still pending. Apart from that an expired announcement is
dead: no later call is authorized by it unless it is announced again.
-/

namespace ProofBridge

open ContractLib

/-! ## On Soroban -/

namespace AgentAccount

variable {Y : Type} {N : Neighbors Y} {H : AccountHost} {outside : Y → Y → Prop} {env : Env}
  {c c' : Chain Y} {s s' : State} {scope : Scope} {action : Symbol} {call : Call} {t : ℕ}
  {ps : List (Passage (Chain Y) (Env × Call) Ret)}

/-- What is stored of an announcement, if anything, expired by `t`. -/
def ExpiredBy (t : ℕ) (scope : Scope) (action : Symbol) (s : State) : Prop :=
  ∀ row, s.row scope action = some row → row.expiresAt ≤ t

/-- The delay a scope has before a call. -/
def State.delayOf (s : State) : Scope → ℕ
  | .ad adId => ((s.guardRails.get? adId).map fun g => g.delay.toNat).getD 0
  | .account => s.timelockOr.1

/-- Arming or tightening this ad's rail moves the rows of this scope. -/
def Scope.timedBy (adId : AdId) : Scope → Prop
  | .ad adId' => adId' = adId
  | .account => True

/-- The call arms or tightens a rail with a longer delay than the scope had, while an expired row of
the scope is still stored. -/
def Revives (scope : Scope) (action : Symbol) (env : Env) (s : State) : Call → Prop
  | .setGuardRail adId (some g) =>
    loosens (s.guardRails.get? adId) (some g) = false ∧ scope.timedBy adId ∧
      s.delayOf scope < g.delay.toNat ∧
      ∃ row, s.row scope action = some row ∧ row.expiresAt ≤ env.now
  | _ => False

theorem expiresAt_shortened {row : Schedule} {before window : ℕ} :
    (row.shortened before window).expiresAt ≤ row.expiresAt := by
  unfold Schedule.shortened Schedule.clamped
  split
  · split
    · next hover => exact hover.le
    · exact le_rfl
  · exact le_rfl

/-- Without a longer delay, retiming only cuts a row. -/
theorem expiresAt_retimed {adId : AdId} {armed : GuardRail} {row : Schedule}
    (hdelay : scope.timedBy adId → armed.delay.toNat ≤ s.delayOf scope) :
    (retimed env s s' adId armed scope row).expiresAt ≤ row.expiresAt := by
  cases scope with
  | ad adId' =>
    unfold retimed
    dsimp only
    split
    · next heq =>
      subst heq
      have hle : armed.delay.toNat ≤ ((s.guardRails.get? adId').map fun g => g.delay.toNat).getD 0 :=
        hdelay rfl
      have hsame : row.raised env (((s.guardRails.get? adId').map fun g => g.delay.toNat).getD 0)
          armed = row := by
        rw [Schedule.raised, if_neg (Nat.not_lt.mpr hle)]
      rw [hsame]
      exact expiresAt_shortened
    · exact le_rfl
  | account =>
    unfold retimed
    dsimp only
    have hle : armed.delay.toNat ≤ s.timelockOr.1 := hdelay trivial
    have hsame : row.raised env s.timelockOr.1 armed = row := by
      rw [Schedule.raised, if_neg (Nat.not_lt.mpr hle)]
    rw [hsame]
    exact expiresAt_shortened

theorem ExpiredBy.same (hs : ExpiredBy t scope action s)
    (hrow : ∀ row, s'.row scope action = some row → s.row scope action = some row) :
    ExpiredBy t scope action s' := fun row h => hs row (hrow row h)

theorem ExpiredBy.clearedRows {adId : AdId} (hs : ExpiredBy t scope action s)
    (hrows : ClearedRows adId s s') : ExpiredBy t scope action s' := by
  apply hs.same
  intro row hrow
  obtain ⟨hgone, hkept⟩ := hrows scope action
  by_cases hcleared : Cleared adId scope action
  · rw [hgone hcleared] at hrow
    cases hrow
  · rwa [hkept hcleared] at hrow

/-- A call that neither announces the row anew nor revives it leaves it expired. -/
theorem ExpiredBy.step (hs : ExpiredBy t scope action s) (ht : t ≤ env.now)
    (hquiet : call.announces scope action = false) (hkeeps : ¬Revives scope action env s call)
    (step : BrakeStep H env s s' call) : ExpiredBy t scope action s' := by
  cases step with
  | kept hcall hnone hopen hrails hrows =>
    exact hs.same fun row hrow => by rwa [row_of_same hrows] at hrow
  | spent hcall hann hspendable hrails hrows =>
    exact hs.same fun row hrow => (row_of_removed hrows hrow).1
  | charged hfn hdecode hnone hguarded hg hthreshold hspend hrails hrows =>
    exact hs.same fun row hrow => by rwa [row_of_same hrows] at hrow
  | @scheduled scope₀ action₀ args args' delay window hterms hrails hrows =>
    apply hs.same
    intro row hrow
    unfold State.row at hrow ⊢
    rw [hrows, Map.get?_set] at hrow
    split at hrow
    · next heq =>
      obtain ⟨rfl, rfl⟩ := Prod.mk.inj heq
      simp [Call.announces] at hquiet
    · exact hrow
  | cancelled hrails hrows => exact hs.same fun row hrow => (row_of_removed hrows hrow).1
  | @armed adId g armed hbounds hfound htight harmed hrails hrows =>
    intro row' hrow'
    rw [hrows] at hrow'
    split at hrow'
    · obtain ⟨row, hrow, rfl⟩ := Option.map_eq_some_iff.mp hrow'
      refine le_trans (expiresAt_retimed fun htimed => ?_) (hs row hrow)
      have hdelay : armed.delay.toNat = g.delay.toNat := by rw [harmed]; rfl
      rw [hdelay]
      refine Nat.not_lt.mp fun hlonger => hkeeps ⟨htight, htimed, hlonger, row, hrow, ?_⟩
      exact (hs row hrow).trans ht
    · exact hs row' hrow'
  | loosened hbounds hloosens hspendable harmed hrails hrows => exact hs.clearedRows hrows
  | disarmed hspendable hfound hrails hrows => exact hs.clearedRows hrows
  | disarmedClosed hguarded hbefore hafter hkept hrails hrows => exact hs.clearedRows hrows

end AgentAccount

/-! ## On an EVM chain -/

namespace CustodyAccount

open Evm

variable {D : Deployment} {Y : Type} {N : Neighbors Y} {outside : Y → Y → Prop} {msg : Message}
  {c c' : Chain Y} {s s' : State} {scope key : BytesN32} {action : Selector} {rail : GuardRail}
  {call : Call} {t : ℕ} {ps : List (Passage (Chain Y) (Message × Call) Unit)}

/-- What is stored of an announcement, if anything, expired by `t`. -/
def ExpiredBy (t : ℕ) (scope : BytesN32) (action : Selector) (s : State) : Prop :=
  ∀ row, s.row scope action = some row → row.expiresAt ≤ t

/-- The delay a scope has before a call. -/
def State.delayOf (s : State) (scope : BytesN32) : ℕ :=
  if scope = ACCOUNT_SCOPE then s.accountTimelock.1 else s.adDelay scope

/-- The call arms or tightens a rail with a longer delay than the scope had, while an expired row of
the scope is still stored. -/
def Revives (D : Deployment) (scope : BytesN32) (action : Selector) (msg : Message) (s : State) :
    Call → Prop
  | .setGuardRail adId rail =>
    (∀ g, s.guards.get? (D.adKey adId) = some g → isTightening g.rail rail = true) ∧
      (scope = D.adKey adId ∨ scope = ACCOUNT_SCOPE) ∧ s.delayOf scope < rail.delay.toNat ∧
      ∃ row, s.row scope action = some row ∧ row.expiresAt ≤ msg.timestamp.toNat
  | _ => False

theorem expiresAt_clamped {row : Schedule} {window : ℕ} :
    (row.clamped window).expiresAt ≤ row.expiresAt := by
  unfold Schedule.clamped
  split
  · next hover => exact hover.2.le
  · exact le_rfl

/-- Without a longer delay, retiming only cuts a row. -/
theorem expiresAt_retimed {row : Schedule} (hkey : key ≠ ACCOUNT_SCOPE)
    (hdelay : scope = key ∨ scope = ACCOUNT_SCOPE → rail.delay.toNat ≤ s.delayOf scope) :
    (retimed msg s s' key rail scope row).expiresAt ≤ row.expiresAt := by
  unfold retimed
  split
  · next had =>
    subst had
    have hle := hdelay (.inl rfl)
    rw [State.delayOf, if_neg hkey] at hle
    rw [Schedule.raised, if_neg (Nat.not_lt.mpr hle)]
    exact expiresAt_clamped
  split
  · next haccount =>
    have hle := hdelay (.inr haccount)
    rw [State.delayOf, if_pos haccount] at hle
    rw [Schedule.raised, if_neg (Nat.not_lt.mpr hle)]
    exact expiresAt_clamped
  · exact le_rfl

theorem ExpiredBy.same (hs : ExpiredBy t scope action s)
    (hrow : ∀ row, s'.row scope action = some row → s.row scope action = some row) :
    ExpiredBy t scope action s' := fun row h => hs row (hrow row h)

theorem row_of_deleted {scope' : BytesN32} {action' : Selector} {row : Schedule}
    (hrow : (s.deleteSchedule scope' action').row scope action = some row) :
    s.row scope action = some row := by
  rw [row_deleteSchedule] at hrow
  split at hrow
  · cases hrow
  · exact hrow

theorem ExpiredBy.clearedRows (hs : ExpiredBy t scope action s) (hrows : ClearedRows key s s') :
    ExpiredBy t scope action s' := by
  apply hs.same
  intro row hrow
  rw [hrows] at hrow
  split at hrow
  · cases hrow
  · exact hrow

theorem ExpiredBy.made {calls : List OwnerCall} (hs : ExpiredBy t scope action c.state)
    (made : Made D N msg calls c c') : ExpiredBy t scope action c'.state := by
  induction made with
  | done => exact hs
  | @call oc calls c c' s₁ y₁ foreign plain judged made rest ih =>
    apply ih
    apply hs.same
    intro row hrow
    by_cases hguarded : c.state.guarded = []
    · rwa [plain hguarded] at hrow
    · cases judged hguarded with
      | instant named kind same => rwa [same] at hrow
      | unguarded named kind unarmed same => rwa [same] at hrow
      | charged named kind armed small read within debited left =>
        subst left
        exact hrow
      | announcedAd named kind spendable left => exact row_of_deleted (left ▸ hrow)
      | announced named kind spendable left => exact row_of_deleted (left ▸ hrow)

/-- A call that neither announces the row anew nor revives it leaves it expired. -/
theorem ExpiredBy.exec (hs : ExpiredBy t scope action c.state)
    (hkeys : ∀ adId, D.adKey adId ≠ ACCOUNT_SCOPE) (ht : t ≤ msg.timestamp.toNat)
    (hquiet : call.announces D scope action = false)
    (hkeeps : ¬Revives D scope action msg c.state call)
    (ok : exec D N msg call c = .ok ((), c')) : ExpiredBy t scope action c'.state := by
  cases call with
  | setGuardRail adId rail =>
    rw [CustodyAccount.exec] at ok
    obtain ⟨s', hs', rfl⟩ := onAccount_ok.mp ok
    obtain ⟨-, -, hloosened | harmed⟩ := setGuardRail_ok (hkeys adId) hs'
    · obtain ⟨g, row, -, -, -, -, -, -, -, hrows⟩ := hloosened
      exact hs.clearedRows hrows
    · obtain ⟨htight, -, -, -, -, hrows⟩ := harmed
      intro row' hrow'
      rw [hrows] at hrow'
      split at hrow'
      · obtain ⟨row, hrow, rfl⟩ := Option.map_eq_some_iff.mp hrow'
        refine le_trans (expiresAt_retimed (hkeys adId) fun htimed => ?_) (hs row hrow)
        refine Nat.not_lt.mp fun hlonger => hkeeps ⟨htight, htimed, hlonger, row, hrow, ?_⟩
        exact (hs row hrow).trans ht
      · exact hs row' hrow'
  | disarmGuardRail adId =>
    rw [CustodyAccount.exec] at ok
    obtain ⟨s', hs', rfl⟩ := onAccount_ok.mp ok
    exact hs.clearedRows (disarmGuardRail_ok (hkeys adId) hs').2.rows
  | disarmClosedAd adManager adId =>
    rw [CustodyAccount.exec] at ok
    obtain ⟨s', hs', rfl⟩ := onAccount_ok.mp ok
    exact hs.clearedRows (disarmClosedAd_ok (hkeys adId) hs').rows
  | schedule scope' oc =>
    rw [CustodyAccount.exec] at ok
    obtain ⟨s', hs', rfl⟩ := onAccount_ok.mp ok
    obtain ⟨action', kind, named, -, -, delay, window, -, -, rfl⟩ := schedule_ok hs'
    apply hs.same
    intro row hrow
    rw [row_putSchedule] at hrow
    split at hrow
    · next heq =>
      obtain ⟨rfl, rfl⟩ := heq
      simp [Call.announces, named] at hquiet
    · exact hrow
  | cancel scope' action' =>
    rw [CustodyAccount.exec] at ok
    obtain ⟨s', hs', rfl⟩ := onAccount_ok.mp ok
    obtain rfl := cancel_ok hs'
    exact hs.same fun row hrow => row_of_deleted hrow
  | transferOwnership newOwner =>
    rw [CustodyAccount.exec] at ok
    obtain ⟨s', hs', rfl⟩ := onAccount_ok.mp ok
    obtain ⟨-, -, -, -, ⟨-, rfl⟩ | ⟨-, -, -, rfl⟩⟩ := transferOwnership_ok hs'
    · exact hs.same fun row hrow => hrow
    · exact hs.same fun row hrow => row_of_deleted hrow
  | acceptOwnership =>
    rw [CustodyAccount.exec] at ok
    obtain ⟨s', hs', rfl⟩ := onAccount_ok.mp ok
    obtain ⟨-, rfl⟩ := acceptOwnership_ok hs'
    exact hs.same fun row hrow => hrow
  | execute oc =>
    rw [CustodyAccount.exec] at ok
    exact hs.made (execute_ok ok)
  | executeBatch calls =>
    rw [CustodyAccount.exec] at ok
    exact hs.made (executeBatch_ok ok)
  | sweep token payee amount =>
    rw [CustodyAccount.exec] at ok
    rcases sweep_ok ok with ⟨-, hplain⟩ | ⟨-, -, hspent⟩
    · exact hs.same fun row hrow => hplain ▸ hrow
    · exact hs.same fun row hrow => row_of_deleted (hspent ▸ hrow)
  | batchRest calls =>
    rw [CustodyAccount.exec] at ok
    exact hs.made (batch_ok ok)

end CustodyAccount

/-! ## Both chains -/

end ProofBridge
