import ProofBridge.CustodyAccount.Model

/-!
# Stored rows

What each operation on the schedules does to the row under a scope and an action: spent, deleted,
moved behind a longer delay, cut to a shorter window, cleared.
-/

namespace ProofBridge
namespace CustodyAccount

open ContractLib Evm

variable {D : Deployment} {msg : Message} {s s' : State} {scope scope' key : BytesN32}
  {action action' : Selector} {c : OwnerCall}

/-- The row stored under a scope and an action. -/
def State.row (s : State) (scope : BytesN32) (action : Selector) : Option Schedule :=
  s.schedules.get? (scope, action)

/-- Everything but the rows. -/
def State.settings (s : State) : Map BytesN32 Guard × List BytesN32 × EvmAddress × EvmAddress :=
  (s.guards, s.guarded, s.owner, s.pendingOwner)

/-- A row that opens no earlier than `notBefore`, its window kept. -/
def Schedule.restamped (notBefore : ℕ) (row : Schedule) : Schedule :=
  if row.readyAt ≠ 0 ∧ row.readyAt < notBefore then
    { row with
      readyAt := notBefore
      expiresAt := row.expiresAt + (notBefore - row.readyAt) }
  else row

/-- A row that closes within `window` of its open time. -/
def Schedule.clamped (window : ℕ) (row : Schedule) : Schedule :=
  if row.readyAt ≠ 0 ∧ row.readyAt + window < row.expiresAt then
    { row with expiresAt := row.readyAt + window }
  else row

theorem row_deleteSchedule :
    (s.deleteSchedule scope' action').row scope action
      = if scope = scope' ∧ action = action' then none else s.row scope action := by
  unfold State.deleteSchedule State.row
  rw [Map.get?_remove]
  simp only [Prod.mk.injEq]

theorem row_putSchedule {row : Schedule} :
    (s.putSchedule scope' action' row).row scope action
      = if scope = scope' ∧ action = action' then some row else s.row scope action := by
  unfold State.putSchedule State.row
  rw [Map.get?_set]
  simp only [Prod.mk.injEq]

@[simp] theorem settings_putSchedule {row : Schedule} :
    (s.putSchedule scope action row).settings = s.settings := rfl

@[simp] theorem settings_deleteSchedule : (s.deleteSchedule scope action).settings = s.settings := rfl

/-- What `schedule` reads is the row where one is stored, and zeros where none is. -/
theorem schedule_cases (s : State) (scope : BytesN32) (action : Selector) :
    (∃ row, s.row scope action = some row ∧ s.schedule scope action = row) ∨
      (s.row scope action = none ∧ s.schedule scope action = Schedule.zero) := by
  unfold State.schedule State.row
  cases h : s.schedules.get? (scope, action) with
  | some row => exact .inl ⟨row, rfl, rfl⟩
  | none => exact .inr ⟨rfl, rfl⟩

/-! ## Spending -/

/-- A stored row authorizes exactly this call now. -/
structure Spendable (D : Deployment) (msg : Message) (s : State) (scope : BytesN32)
    (action : Selector) (c : OwnerCall) (row : Schedule) : Prop where
  stored : s.row scope action = some row
  committed : row.commitment = D.commitment c
  matured : row.readyAt ≤ msg.timestamp.toNat
  unexpired : msg.timestamp.toNat < row.expiresAt

theorem spend_ok (ok : spend D msg scope action c s = .ok ((), s')) :
    (∃ row, Spendable D msg s scope action c row) ∧ s' = s.deleteSchedule scope action := by
  simp only [spend, Tx.bind_read_ok, Tx.bind_require_ok, Tx.modify_ok, not_or, not_not,
    Prod.mk.injEq, true_and] at ok
  obtain ⟨⟨hwritten, hcommitted, hmatured, hunexpired⟩, rfl⟩ := ok
  refine ⟨?_, rfl⟩
  rcases schedule_cases s scope action with ⟨row, hrow, hread⟩ | ⟨-, hread⟩
  · rw [hread] at hcommitted hmatured hunexpired
    exact ⟨row, hrow, hcommitted, Nat.le_of_not_lt hmatured, Nat.lt_of_not_le hunexpired⟩
  · rw [hread] at hwritten
    exact absurd rfl hwritten

theorem spendIf_ok {loosening : Bool}
    (ok : spendIf D msg loosening scope action c s = .ok ((), s')) :
    (loosening = true ∧ (∃ row, Spendable D msg s scope action c row)
        ∧ s' = s.deleteSchedule scope action) ∨
      (loosening = false ∧ s' = s) := by
  cases loosening with
  | true =>
    rw [spendIf, if_pos rfl] at ok
    obtain ⟨hspendable, hs'⟩ := spend_ok ok
    exact .inl ⟨rfl, hspendable, hs'⟩
  | false =>
    rw [spendIf, if_neg Bool.false_ne_true, Tx.pure_ok] at ok
    exact .inr ⟨rfl, (Prod.mk.inj ok).2⟩

/-! ## Loops over the rows of a scope -/

/-- A call that puts each row of one scope, of the actions `actions`, through `g`. -/
def MapsRows (g : Schedule → Schedule) (scope : BytesN32) (actions : List Selector)
    (s s' : State) : Prop :=
  s'.settings = s.settings ∧ ∀ scope' action, s'.row scope' action
    = if scope' = scope ∧ action ∈ actions then (s.row scope' action).map g
      else s.row scope' action

variable {g : Schedule → Schedule} {actions : List Selector}

theorem MapsRows.none : MapsRows g scope [] s s := by
  refine ⟨rfl, fun scope' action => ?_⟩
  rw [if_neg (fun h => List.not_mem_nil h.2)]

/-- A row put through a function that leaves it as it is. -/
theorem MapsRows.fixed (h : ∀ row, s.row scope action = some row → g row = row) :
    MapsRows g scope [action] s s := by
  refine ⟨rfl, fun scope' action' => ?_⟩
  split
  · next heq =>
    obtain ⟨rfl, haction⟩ := heq
    rw [List.mem_singleton] at haction
    subst haction
    cases hrow : s.row scope' action' with
    | none => rfl
    | some row => rw [Option.map_some, h row hrow]
  · rfl

theorem MapsRows.put {row : Schedule} (hrow : s.row scope action = some row) :
    MapsRows g scope [action] s (s.putSchedule scope action (g row)) := by
  refine ⟨rfl, fun scope' action' => ?_⟩
  rw [row_putSchedule]
  simp only [List.mem_singleton]
  split
  · next heq =>
    obtain ⟨rfl, rfl⟩ := heq
    rw [hrow]
    rfl
  · rfl

theorem restampRow_ok {notBefore : ℕ} (ok : restampRow scope notBefore action s = .ok ((), s')) :
    MapsRows (Schedule.restamped notBefore) scope [action] s s' := by
  simp only [restampRow, Tx.bind_read_ok, Tx.ite_apply] at ok
  rcases schedule_cases s scope action with ⟨row, hrow, hread⟩ | ⟨hrow, hread⟩
  · rw [hread] at ok
    split at ok
    · next hbehind =>
      simp only [Tx.bind_lift_ok, Tx.modify_ok, Check.add_ok, Prod.mk.injEq, true_and] at ok
      obtain ⟨expiresAt, ⟨-, rfl⟩, rfl⟩ := ok
      have hput := MapsRows.put (g := Schedule.restamped notBefore) hrow
      rwa [Schedule.restamped, if_pos hbehind] at hput
    · next hahead =>
      obtain rfl : s' = s := (Prod.mk.inj (Tx.pure_ok.mp ok)).2
      refine MapsRows.fixed fun row' hrow' => ?_
      rw [hrow] at hrow'
      cases hrow'
      rw [Schedule.restamped, if_neg hahead]
  · rw [hread, if_neg (fun h => h.1 rfl)] at ok
    obtain rfl : s' = s := (Prod.mk.inj (Tx.pure_ok.mp ok)).2
    refine MapsRows.fixed fun row' hrow' => ?_
    rw [hrow] at hrow'
    cases hrow'

theorem clampRow_ok {window : ℕ} (ok : clampRow scope window action s = .ok ((), s')) :
    MapsRows (Schedule.clamped window) scope [action] s s' := by
  simp only [clampRow, Tx.bind_read_ok, Tx.ite_apply] at ok
  rcases schedule_cases s scope action with ⟨row, hrow, hread⟩ | ⟨hrow, hread⟩
  · rw [hread] at ok
    have hfixed : ¬(row.readyAt ≠ 0 ∧ row.readyAt + window < row.expiresAt) →
        MapsRows (Schedule.clamped window) scope [action] s s := by
      intro hwithin
      refine MapsRows.fixed fun row' hrow' => ?_
      rw [hrow] at hrow'
      cases hrow'
      rw [Schedule.clamped, if_neg hwithin]
    split at ok
    · next hwritten =>
      simp only [Tx.bind_lift_ok, Tx.ite_apply, Check.add_ok] at ok
      obtain ⟨closes, ⟨-, rfl⟩, ok⟩ := ok
      split at ok
      · next hover =>
        rw [Tx.modify_ok] at ok
        obtain rfl : s' = _ := (Prod.mk.inj ok).2
        have hput := MapsRows.put (g := Schedule.clamped window) hrow
        rwa [Schedule.clamped, if_pos ⟨hwritten, hover⟩] at hput
      · next hwithin =>
        obtain rfl : s' = s := (Prod.mk.inj (Tx.pure_ok.mp ok)).2
        exact hfixed fun h => hwithin h.2
    · next hunwritten =>
      obtain rfl : s' = s := (Prod.mk.inj (Tx.pure_ok.mp ok)).2
      exact hfixed fun h => hunwritten h.1
  · rw [hread, if_neg (fun h => h rfl)] at ok
    obtain rfl : s' = s := (Prod.mk.inj (Tx.pure_ok.mp ok)).2
    refine MapsRows.fixed fun row' hrow' => ?_
    rw [hrow] at hrow'
    cases hrow'

/-- A loop over distinct actions puts each row through the function once. -/
theorem eachRow_ok {f : Selector → Tx CustodyError State Unit}
    (hf : ∀ action s s', f action s = .ok ((), s') → MapsRows g scope [action] s s')
    (hnodup : actions.Nodup) (ok : eachRow f actions s = .ok ((), s')) :
    MapsRows g scope actions s s' := by
  induction actions generalizing s with
  | nil =>
    obtain rfl : s' = s := (Prod.mk.inj (Tx.pure_ok.mp ok)).2
    exact MapsRows.none
  | cons action actions ih =>
    rw [eachRow, Tx.bind_ok] at ok
    obtain ⟨⟨⟩, s₁, hfirst, ok⟩ := ok
    obtain ⟨hnotin, hnodup⟩ := List.nodup_cons.mp hnodup
    obtain ⟨hsettings₁, hrows₁⟩ := hf action s s₁ hfirst
    obtain ⟨hsettings, hrows⟩ := ih hnodup ok
    refine ⟨hsettings.trans hsettings₁, fun scope' action' => ?_⟩
    rw [hrows, hrows₁]
    simp only [List.mem_cons]
    by_cases hscope : scope' = scope
    · by_cases hhead : action' = action
      · subst hhead
        simp [hscope, hnotin]
      · simp [hscope, hhead]
    · simp [hscope]

/-- The rows a scope's loops reach, without the padding. -/
theorem visited_nodup : (visited scope).Nodup := by
  unfold visited actionsFor
  split
  · decide
  · decide

theorem restamp_ok {notBefore : ℕ} (ok : restamp scope notBefore s = .ok ((), s')) :
    MapsRows (Schedule.restamped notBefore) scope (visited scope) s s' :=
  eachRow_ok (fun _ _ _ => restampRow_ok) visited_nodup ok

theorem clampWindow_ok {window : ℕ} (ok : clampWindow scope window s = .ok ((), s')) :
    MapsRows (Schedule.clamped window) scope (visited scope) s s' :=
  eachRow_ok (fun _ _ _ => clampRow_ok) visited_nodup ok

/-! ## Clearing -/

theorem settings_clearRow : (s.clearRow scope action).settings = s.settings := by
  unfold State.clearRow
  split <;> rfl

theorem row_clearRow : (s.clearRow scope' action').row scope action
    = if action ≠ 0 ∧ scope = scope' ∧ action = action' then none else s.row scope action := by
  unfold State.clearRow
  split
  · next hne =>
    rw [row_deleteSchedule]
    split
    · next h => rw [if_pos ⟨h.2 ▸ hne, h⟩]
    · next h => rw [if_neg fun h' => h h'.2]
  · next hzero =>
    rw [if_neg]
    rintro ⟨hne, -, rfl⟩
    exact hzero hne

theorem settings_clears {rows : List (Selector × Selector)} {s : State} :
    (rows.foldl (fun s row => (s.clearRow key row.1).clearRow ACCOUNT_SCOPE row.2) s).settings
      = s.settings := by
  induction rows generalizing s with
  | nil => rfl
  | cons row rows ih => rw [List.foldl_cons, ih, settings_clearRow, settings_clearRow]

theorem row_clears {rows : List (Selector × Selector)} {s : State} :
    (rows.foldl (fun s row => (s.clearRow key row.1).clearRow ACCOUNT_SCOPE row.2) s).row scope action
      = if action ≠ 0 ∧ ((scope = key ∧ action ∈ rows.map Prod.fst)
          ∨ (scope = ACCOUNT_SCOPE ∧ action ∈ rows.map Prod.snd)) then none
        else s.row scope action := by
  induction rows generalizing s with
  | nil => simp
  | cons row rows ih =>
    rw [List.foldl_cons, ih, row_clearRow, row_clearRow]
    simp only [List.map_cons, List.mem_cons, ← ite_or]
    refine if_congr ?_ rfl rfl
    tauto

/-- The loops stop at the first zero, and clearing skips the zeros: both reach the same rows. -/
theorem mem_visited : action ∈ visited scope ↔ action ∈ actionsFor scope ∧ action ≠ 0 := by
  have hall : ∀ actions : List Selector, 0 ∉ actions →
      (padActions actions).takeWhile (· ≠ 0) = actions := by
    intro actions hzero
    have htail : (List.replicate (16 - actions.length) (0 : Selector)).takeWhile (· ≠ 0) = [] := by
      cases 16 - actions.length with
      | zero => rfl
      | succ n => rfl
    unfold padActions
    rw [List.takeWhile_append_of_pos, htail, List.append_nil]
    intro a ha
    rw [decide_eq_true_eq]
    rintro rfl
    exact hzero ha
  have hpad : ∀ actions : List Selector, 0 ∉ actions →
      (action ∈ (padActions actions).takeWhile (· ≠ 0) ↔ action ∈ padActions actions ∧ action ≠ 0) := by
    intro actions hzero
    rw [hall actions hzero]
    unfold padActions
    rw [List.mem_append, List.mem_replicate]
    constructor
    · intro h
      exact ⟨.inl h, fun heq => hzero (heq ▸ h)⟩
    · rintro ⟨h | ⟨-, rfl⟩, hne⟩
      · exact h
      · exact absurd rfl hne
  unfold visited actionsFor
  split
  · exact hpad _ (by decide)
  · exact hpad _ (by decide)

theorem settings_clearSchedules : (s.clearSchedules key).settings = s.settings := settings_clears

/-- Clearing takes every row a loop would reach, of the ad and of the account. -/
theorem row_clearSchedules (hkey : key ≠ ACCOUNT_SCOPE) :
    (s.clearSchedules key).row scope action
      = if (scope = key ∨ scope = ACCOUNT_SCOPE) ∧ action ∈ visited scope then none
        else s.row scope action := by
  unfold State.clearSchedules
  rw [row_clears]
  refine if_congr ?_ rfl rfl
  have hfst : (adActions.zip accountActions).map Prod.fst = adActions := by decide
  have hsnd : (adActions.zip accountActions).map Prod.snd = accountActions := by decide
  rw [hfst, hsnd, mem_visited, actionsFor]
  by_cases had : scope = key
  · subst had
    rw [if_neg hkey]
    simp only [hkey, true_and, false_and, or_false, and_comm]
  · by_cases haccount : scope = ACCOUNT_SCOPE
    · rw [if_pos haccount]
      simp [haccount, Ne.symm hkey, and_comm]
    · simp [had, haccount]

end CustodyAccount
end ProofBridge
