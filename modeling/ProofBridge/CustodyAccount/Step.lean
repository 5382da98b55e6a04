import ProofBridge.CustodyAccount.Rows
import Mathlib.Logic.Relation

/-!
# What a call does to the guard rail

Every accepted call stores one announcement, or is a sequence of moves: a row goes, a bucket is
charged, a rail is armed with the pending rows retimed, or a rail is loosened or taken off with every
row its settings timed. The gate lets a call through in one of five ways.
-/

namespace ProofBridge
namespace CustodyAccount

open ContractLib Evm

variable {D : Deployment} {msg : Message} {s s' : State} {scope key : BytesN32} {action : Selector}
  {rail : GuardRail} {Y : Type} {N : Neighbors Y} {y : Y} {oc : OwnerCall}

/-! ## Retiming -/

/-- A pending row under a delay that rose to `rail`'s. -/
def Schedule.raised (msg : Message) (before : ℕ) (rail : GuardRail) (row : Schedule) : Schedule :=
  if before < rail.delay.toNat then row.restamped ((nowTs msg).toNat + rail.delay.toNat) else row

/-- The delay an ad has, none before it is armed. -/
def State.adDelay (s : State) (key : BytesN32) : ℕ :=
  ((s.guards.get? key).map fun g => g.rail.delay.toNat).getD 0

/-- What arming or tightening an ad's rail makes of a pending row, from the settings `s` before and
`s'` after. -/
def retimed (msg : Message) (s s' : State) (key : BytesN32) (rail : GuardRail) (scope : BytesN32)
    (row : Schedule) : Schedule :=
  if scope = key then (row.raised msg (s.adDelay key) rail).clamped rail.window.toNat
  else if scope = ACCOUNT_SCOPE then
    (row.raised msg s.accountTimelock.1 rail).clamped s'.accountTimelock.2
  else row

/-- Every row of the ad and of the account is gone, and no other row moved. -/
def ClearedRows (key : BytesN32) (s s' : State) : Prop :=
  ∀ scope action, s'.row scope action
    = if (scope = key ∨ scope = ACCOUNT_SCOPE) ∧ action ∈ visited scope then none
      else s.row scope action

/-- What an owner may arm. -/
structure RailInBounds (rail : GuardRail) : Prop where
  delayed : 0 < rail.delay.toNat
  delay_le : rail.delay.toNat ≤ MAX_GUARD_DELAY
  window_ge : MIN_GUARD_WINDOW ≤ rail.window.toNat
  capacity_le : rail.capacity.toNat ≤ AgentRateLimit.U128_MAX
  refill_le : rail.refillPerSecond.toNat ≤ AgentRateLimit.U128_MAX

/-- What a part of a call does to the settings and the rows, short of storing a row. -/
inductive Move (D : Deployment) (msg : Message) (s s' : State) : Prop
  /-- Nothing the guard rail reads. -/
  | kept (guards : s'.guards = s.guards) (roster : s'.guarded = s.guarded)
      (rows : s'.schedules = s.schedules)
  /-- A row was spent or stood down. -/
  | removed {scope : BytesN32} {action : Selector} (guards : s'.guards = s.guards)
      (roster : s'.guarded = s.guarded) (rows : s'.schedules = s.schedules.remove (scope, action))
  /-- A small call was charged to its ad's bucket. -/
  | charged {key : BytesN32} {g : Guard} {next : AgentRateLimit.Bucket}
      (found : s.guards.get? key = some g)
      (guards : s'.guards = s.guards.set key { g with bucket := next })
      (roster : s'.guarded = s.guarded) (rows : s'.schedules = s.schedules)
  /-- A rail was armed or tightened. -/
  | armed {adId : AdId} {rail : GuardRail} {bucket : AgentRateLimit.Bucket}
      (bounds : RailInBounds rail)
      (tight : ∀ g, s.guards.get? (D.adKey adId) = some g → isTightening g.rail rail = true)
      (guards : s'.guards = s.guards.set (D.adKey adId) ⟨rail, bucket⟩)
      (roster : s'.guarded = if (s.guards.get? (D.adKey adId)).isSome then s.guarded
        else s.guarded ++ [D.adKey adId])
      (rows : ∀ scope action, s'.row scope action
        = if action ∈ visited scope then
            (s.row scope action).map (retimed msg s s' (D.adKey adId) rail scope)
          else s.row scope action)
  /-- A rail was loosened. -/
  | loosened {adId : AdId} {g : Guard} {rail : GuardRail} {bucket : AgentRateLimit.Bucket}
      (bounds : RailInBounds rail) (found : s.guards.get? (D.adKey adId) = some g)
      (guards : s'.guards = s.guards.set (D.adKey adId) ⟨rail, bucket⟩)
      (roster : s'.guarded = s.guarded) (rows : ClearedRows (D.adKey adId) s s')
  /-- A rail was taken off. -/
  | disarmed {adId : AdId} (found : (s.guards.get? (D.adKey adId)).isSome = true)
      (guards : s'.guards = s.guards.remove (D.adKey adId))
      (roster : s'.guarded = swapPop (D.adKey adId) s.guarded)
      (rows : ClearedRows (D.adKey adId) s s')

theorem Move.of_spent (hs' : s' = s.deleteSchedule scope action) : Move D msg s s' := by
  subst hs'
  exact .removed rfl rfl rfl

theorem Move.same : Move D msg s s := .kept rfl rfl rfl

theorem settings_guards (h : s'.settings = s.settings) :
    s'.guards = s.guards ∧ s'.guarded = s.guarded :=
  ⟨congrArg (fun x => x.1) h, congrArg (fun x => x.2.1) h⟩

theorem accountTimelock_congr (h : s'.settings = s.settings) :
    s'.accountTimelock = s.accountTimelock := by
  obtain ⟨hguards, hroster⟩ := settings_guards h
  unfold State.accountTimelock State.accountTimelockWithout State.rail
  rw [hguards, hroster]

/-! ## The gate -/

/-- How the gate of a guarded account lets a call through. -/
inductive Judged (D : Deployment) (N : Neighbors Y) (y : Y) (msg : Message) (s s' : State)
    (oc : OwnerCall) : Prop
  /-- On the instant list. -/
  | instant {action : Selector} {adKey : BytesN32}
      (named : actionOf D oc.target oc.value oc.data = .ok (action, adKey))
      (kind : kindOf D N y action adKey oc.target oc.data = .ok .instant) (same : s' = s)
  /-- A per-ad call on an ad without a guard. -/
  | unguarded {action : Selector} {adKey : BytesN32}
      (named : actionOf D oc.target oc.value oc.data = .ok (action, adKey))
      (kind : kindOf D N y action adKey oc.target oc.data = .ok .perAd)
      (unarmed : s.guards.get? adKey = none) (same : s' = s)
  /-- A withdrawal or a lock within the threshold, debited from the ad's bucket. -/
  | charged {action : Selector} {adKey : BytesN32} {g : Guard} {amount : ℕ}
      {next : AgentRateLimit.Bucket}
      (named : actionOf D oc.target oc.value oc.data = .ok (action, adKey))
      (kind : kindOf D N y action adKey oc.target oc.data = .ok .perAd)
      (armed : s.guards.get? adKey = some g) (small : action = WITHDRAW ∨ action = LOCK)
      (read : amountOf action oc.data = .ok amount) (within : amount ≤ g.rail.threshold.toNat)
      (debited : AgentRateLimit.trySpend (limitOf g.rail) g.bucket amount (nowTs msg)
        = (.ok (some next) : Check CustodyError _))
      (left : s' = s.putGuard adKey { g with bucket := next })
  /-- A per-ad call that spends the ad's row of exactly this call. -/
  | announcedAd {action : Selector} {adKey : BytesN32} {row : Schedule}
      (named : actionOf D oc.target oc.value oc.data = .ok (action, adKey))
      (kind : kindOf D N y action adKey oc.target oc.data = .ok .perAd)
      (spendable : Spendable D msg s adKey action oc row) (left : s' = s.deleteSchedule adKey action)
  /-- A delayed call that spends the account's row of exactly this call. -/
  | announced {action : Selector} {adKey : BytesN32} {row : Schedule}
      (named : actionOf D oc.target oc.value oc.data = .ok (action, adKey))
      (kind : kindOf D N y action adKey oc.target oc.data = .ok .delayed)
      (spendable : Spendable D msg s ACCOUNT_SCOPE action oc row)
      (left : s' = s.deleteSchedule ACCOUNT_SCOPE action)

theorem Judged.move (h : Judged D N y msg s s' oc) : Move D msg s s' := by
  cases h with
  | instant named kind same => exact same ▸ .same
  | unguarded named kind unarmed same => exact same ▸ .same
  | charged named kind armed small read within debited left =>
    subst left
    exact .charged armed rfl rfl rfl
  | announcedAd named kind spendable left => exact .of_spent left
  | announced named kind spendable left => exact .of_spent left

/-! ## Actions and kinds -/

/-- What `actionOf` makes of a call. -/
inductive Named (D : Deployment) (oc : OwnerCall) : Selector → BytesN32 → Prop
  | native (hvalue : oc.value ≠ 0) : Named D oc NATIVE_OUT 0
  | escrowAd {adId : AdId} (hvalue : oc.value = 0)
      (listed : selectorOf oc.data ∈ [WITHDRAW, CLOSE, SET_SIGNER, LOCK]) :
      Named D oc (selectorOf oc.data) (D.adKey adId)
  | ownAd {adId : AdId} (hvalue : oc.value = 0) (own : oc.target = D.this)
      (listed : selectorOf oc.data ∈ [Selector.setGuardRail, Selector.disarmGuardRail]) :
      Named D oc (selectorOf oc.data) (D.adKey adId)
  | other (hvalue : oc.value = 0)
      (unlisted : selectorOf oc.data ∉ [WITHDRAW, CLOSE, SET_SIGNER, LOCK]) :
      Named D oc (selectorOf oc.data) 0

theorem actionOf_ok (ok : actionOf D oc.target oc.value oc.data = .ok (action, key)) :
    Named D oc action key := by
  unfold actionOf at ok
  dsimp only at ok
  split at ok
  · next hvalue =>
    cases ok
    exact .native hvalue
  next hvalue =>
  rw [ne_eq, not_not] at hvalue
  split at ok
  · next h =>
    obtain ⟨_, -, ok⟩ := Check.bind_ok.mp ok
    cases ok
    exact .escrowAd hvalue (by simp [h])
  next hwithdraw =>
  split at ok
  · next h =>
    obtain ⟨_, -, ok⟩ := Check.bind_ok.mp ok
    cases ok
    exact .escrowAd hvalue (by simp [h])
  next hclose =>
  split at ok
  · next h =>
    obtain ⟨_, -, ok⟩ := Check.bind_ok.mp ok
    cases ok
    exact .escrowAd hvalue (by simp [h])
  next hsigner =>
  split at ok
  · next h =>
    obtain ⟨_, -, ok⟩ := Check.bind_ok.mp ok
    cases ok
    exact .escrowAd hvalue (by simp [h])
  next hlock =>
  split at ok
  · next h =>
    obtain ⟨_, -, ok⟩ := Check.bind_ok.mp ok
    cases ok
    exact .ownAd hvalue h.1 (by simp [h.2])
  · cases ok
    exact .other hvalue (by simp [hwithdraw, hclose, hsigner, hlock])

/-- A per-ad call names an ad. -/
theorem kindOf_perAd {target : EvmAddress} {data : Bytes}
    (ok : kindOf D N y action key target data = .ok .perAd) : key ≠ 0 := by
  unfold kindOf at ok
  split at ok
  · cases ok
  split at ok
  · cases ok
  split at ok
  · split at ok
    · next hne => exact hne
    split at ok <;> cases ok
  split at ok
  · unfold moduleKind at ok
    split at ok
    · cases ok
    split at ok
    · cases ok
    split at ok
    · obtain ⟨⟨_, allowed⟩, -, ok⟩ := Check.bind_ok.mp ok
      cases allowed <;> cases ok
    split at ok
    · obtain ⟨_, -, ok⟩ := Check.bind_ok.mp ok
      dsimp only at ok
      split at ok <;> cases ok
    · cases ok
  split at ok
  · cases ok
  split at ok
  · next hne => exact hne
  split at ok
  · cases ok
  split at ok <;> cases ok

/-- A delayed call is one of the account's listed actions, and names no ad. -/
theorem kindOf_delayed (named : Named D oc action key)
    (ok : kindOf D N y action key oc.target oc.data = .ok .delayed) :
    action ∈ visited ACCOUNT_SCOPE ∧ key = 0 := by
  -- an action outside the per-ad escrow calls names an ad only on the account itself
  have hother : ∀ a, a ∉ [WITHDRAW, CLOSE, SET_SIGNER, LOCK, Selector.setGuardRail,
      Selector.disarmGuardRail] → action = a → key = 0 := by
    intro a hunlisted heq
    subst heq
    cases named with
    | native hvalue => rfl
    | escrowAd hvalue listed => exact absurd (List.mem_append_left _ listed) hunlisted
    | ownAd hvalue own listed =>
      exact absurd (List.mem_append_right [WITHDRAW, CLOSE, SET_SIGNER, LOCK] listed) hunlisted
    | other hvalue unlisted => rfl
  have hlisted : (visited ACCOUNT_SCOPE).all (fun a => decide (a ∉ [WITHDRAW, CLOSE, SET_SIGNER,
      LOCK, Selector.setGuardRail, Selector.disarmGuardRail])) = true := by decide +kernel
  have hmem : action ∈ visited ACCOUNT_SCOPE := by
    unfold kindOf at ok
    split at ok
    · next h => exact h ▸ by decide
    split at ok
    · next h =>
      rcases h with h | h
      · exact h ▸ by decide
      · exact h ▸ by decide
    split at ok
    · split at ok
      · cases ok
      split at ok
      · next h =>
        rcases h with h | h
        · exact h ▸ by decide
        · exact h ▸ by decide
      · cases ok
    split at ok
    · unfold moduleKind at ok
      split at ok
      · cases ok
      split at ok
      · next h =>
        rcases h with h | h | h | h | h | h
        · exact h ▸ by decide
        · exact h ▸ by decide
        · exact h ▸ by decide
        · exact h ▸ by decide
        · exact h ▸ by decide
        · exact h ▸ by decide
      split at ok
      · next h => exact h ▸ by decide
      split at ok
      · next h => exact h ▸ by decide
      · cases ok
    split at ok
    · cases ok
    split at ok
    · cases ok
    split at ok
    · next h =>
      rcases h with h | h
      · exact h ▸ by decide
      · exact h ▸ by decide
    split at ok <;> cases ok
  have hunlisted := of_decide_eq_true (List.all_eq_true.mp hlisted action hmem)
  exact ⟨hmem, hother action hunlisted rfl⟩

/-- An action on an ad is one of the ad's listed actions. -/
theorem Named.listed (named : Named D oc action key) (hkey : key ≠ 0) : action ∈ visited key := by
  have hvisited : visited key = [WITHDRAW, CLOSE, LOCK, Selector.setGuardRail,
      Selector.disarmGuardRail, SET_SIGNER] := by
    have hscope : key ≠ ACCOUNT_SCOPE := hkey
    unfold visited actionsFor
    rw [if_neg hscope]
    decide
  rw [hvisited]
  cases named with
  | native hvalue => exact absurd rfl hkey
  | escrowAd hvalue listed =>
    simp only [List.mem_cons, List.not_mem_nil, or_false] at listed ⊢
    tauto
  | ownAd hvalue own listed =>
    simp only [List.mem_cons, List.not_mem_nil, or_false] at listed ⊢
    tauto
  | other hvalue unlisted => exact absurd rfl hkey

/-- What is announced or gated is so under the ad it names, or under the account when it names none. -/
theorem named_scope {kind : Kind} (named : Named D oc action key)
    (ok : kindOf D N y action key oc.target oc.data = .ok kind)
    (hkind : kind = .delayed ∨ kind = .perAd) : action ∈ visited key := by
  rcases hkind with rfl | rfl
  · obtain ⟨hlisted, rfl⟩ := kindOf_delayed named ok
    exact hlisted
  · exact named.listed (kindOf_perAd ok)

/-! ## The gate, inverted -/

theorem gateAdCall_ok (named : actionOf D oc.target oc.value oc.data = .ok (action, key))
    (kind : kindOf D N y action key oc.target oc.data = .ok .perAd) (hown : oc.target ≠ D.this)
    (ok : gateAdCall D msg key action oc s = .ok ((), s')) : Judged D N y msg s s' oc := by
  rw [gateAdCall, Tx.bind_read_ok] at ok
  cases hg : s.guards.get? key with
  | none =>
    rw [hg] at ok
    exact .unguarded named kind hg (Prod.mk.inj (Tx.pure_ok.mp ok)).2
  | some g =>
    rw [hg] at ok
    simp only [Tx.bind_lift_ok, Tx.ite_apply] at ok
    obtain ⟨amount, hamount, ok⟩ := ok
    split at ok
    · obtain ⟨⟨row, hrow⟩, hs'⟩ := spend_ok ok
      exact .announcedAd named kind hrow hs'
    · next hsmall =>
      simp only [Tx.bind_lift_ok, Tx.bind_expect_ok, Tx.modify_ok, Prod.mk.injEq, true_and] at ok
      obtain ⟨spent, hspent, next, rfl, hs'⟩ := ok
      rw [not_or, not_or, not_lt] at hsmall
      obtain ⟨hclose, hsigner, hwithin⟩ := hsmall
      have hwhich : action = WITHDRAW ∨ action = LOCK := by
        cases actionOf_ok named with
        | native hvalue => exact absurd rfl (kindOf_perAd kind)
        | escrowAd hvalue listed =>
          simp only [List.mem_cons, List.not_mem_nil, or_false] at listed
          rcases listed with h | h | h | h
          · exact .inl h
          · exact absurd h hclose
          · exact absurd h hsigner
          · exact .inr h
        | ownAd hvalue own listed => exact absurd own hown
        | other hvalue unlisted => exact absurd rfl (kindOf_perAd kind)
      exact .charged named kind hg hwhich hamount hwithin hspent hs'

theorem gate_ok (ok : gate D msg N y oc s = .ok ((), s')) :
    oc.target ≠ D.this ∧
      ((s.guarded = [] ∧ s' = s) ∨ (s.guarded ≠ [] ∧ Judged D N y msg s s' oc)) := by
  rw [gate, Tx.bind_require_ok, Tx.bind_read_ok, Tx.ite_apply] at ok
  obtain ⟨hown, ok⟩ := ok
  refine ⟨hown, ?_⟩
  split at ok
  · next hnone =>
    exact .inl ⟨List.length_eq_zero_iff.mp hnone, (Prod.mk.inj (Tx.pure_ok.mp ok)).2⟩
  · next hsome =>
    refine .inr ⟨fun h => hsome (h ▸ rfl), ?_⟩
    rw [Tx.bind_lift_ok] at ok
    obtain ⟨⟨action, adKey⟩, named, ok⟩ := ok
    dsimp only at ok
    rw [Tx.bind_lift_ok] at ok
    obtain ⟨kind, hkind, ok⟩ := ok
    cases kind with
    | refused => exact absurd ok (by rw [gateKind, Tx.fail_ok]; exact id)
    | instant => exact .instant named hkind (Prod.mk.inj (Tx.pure_ok.mp ok)).2
    | perAd => exact gateAdCall_ok named hkind hown ok
    | delayed =>
      obtain ⟨⟨row, hrow⟩, hs'⟩ := spend_ok ok
      exact .announced named hkind hrow hs'

theorem gateSelf_ok (ok : gateSelf D msg action s = .ok ((), s')) :
    (s.guarded = [] ∧ s' = s) ∨ (s.guarded ≠ [] ∧
      (∃ row, Spendable D msg s ACCOUNT_SCOPE action (D.ownCall msg) row) ∧
      s' = s.deleteSchedule ACCOUNT_SCOPE action) := by
  rw [gateSelf, Tx.bind_read_ok, Tx.ite_apply] at ok
  split at ok
  · next hsome =>
    obtain ⟨hspendable, hs'⟩ := spend_ok ok
    exact .inr ⟨fun h => hsome (h ▸ rfl), hspendable, hs'⟩
  · next hnone =>
    rw [not_not] at hnone
    exact .inl ⟨List.length_eq_zero_iff.mp hnone, (Prod.mk.inj (Tx.pure_ok.mp ok)).2⟩

end CustodyAccount
end ProofBridge
