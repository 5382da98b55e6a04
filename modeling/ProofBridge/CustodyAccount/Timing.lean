import ProofBridge.CustodyAccount.Moves

/-!
# Announcements obey the settings in force

A row is stored under the delay and the window of its day. Later changes of the settings move it, cut
it or take it away, so that in every reachable state each stored row waits out what is in force now:
its ad's timing, or the account's.
-/

namespace ProofBridge
namespace CustodyAccount

open ContractLib Evm

variable {D : Deployment} {msg : Message} {s s' : State} {scope key : BytesN32} {action : Selector}
  {rail : GuardRail} {Y : Type} {N : Neighbors Y} {oc : OwnerCall} {call : Call} {h : History}
  {c c' : Chain Y} {outside : Y → Y → Prop}

/-! ## A row and its timing -/

/-- The call announces a row anew. -/
def Call.announces (D : Deployment) (scope : BytesN32) (action : Selector) : Call → Bool
  | .schedule scope' oc =>
    match actionOf D oc.target oc.value oc.data with
    | .ok (action', _) => decide (scope' = scope) && decide (action' = action)
    | .error _ => false
  | _ => false

/-- When a row was last announced. -/
def announcedAt (D : Deployment) (scope : BytesN32) (action : Selector) (h : History) : Option ℕ :=
  h.findSome? fun e => if e.1.2.announces D scope action then some (timeOf e) else none

theorem announcedAt_cons {e : (Message × Call) × Unit} : announcedAt D scope action (e :: h)
    = if e.1.2.announces D scope action then some (timeOf e) else announcedAt D scope action h := by
  unfold announcedAt
  rw [List.findSome?_cons]
  split <;> split <;> simp_all

theorem announcedAt_le {t now : ℕ} (hlate : ∀ e ∈ h, timeOf e ≤ now)
    (ht : announcedAt D scope action h = some t) : t ≤ now := by
  obtain ⟨e, he, heq⟩ := List.exists_of_findSome?_eq_some ht
  split at heq
  · cases heq
    exact hlate e he
  · cases heq

theorem not_announces (hcall : call.stores = false) : call.announces D scope action = false := by
  cases call <;> first | rfl | cases hcall

/-- A row announced at `t` that waits the delay and stays open for no more than the window. -/
structure Schedule.Obeys (row : Schedule) (t : ℕ) (timing : ℕ × ℕ) : Prop where
  waits : t + timing.1 ≤ row.readyAt
  closes : row.expiresAt ≤ row.readyAt + timing.2

theorem Schedule.Obeys.raised {row : Schedule} {t before delay : ℕ} {timing : ℕ × ℕ}
    (hrow : row.Obeys t timing) (ht : t ≤ (nowTs msg).toNat)
    (hdelay : delay ≤ timing.1 ∨ before < rail.delay.toNat ∧ delay ≤ rail.delay.toNat)
    (hwritten : row.readyAt ≠ 0) :
    (row.raised msg before rail).Obeys t (delay, timing.2) ∧ (row.raised msg before rail).readyAt ≠ 0 := by
  obtain ⟨hwaits, hcloses⟩ := hrow
  unfold Schedule.raised Schedule.restamped
  split
  · split
    · refine ⟨⟨?_, ?_⟩, ?_⟩ <;> dsimp only <;> omega
    · exact ⟨⟨by dsimp only; omega, hcloses⟩, hwritten⟩
  · exact ⟨⟨by dsimp only; omega, hcloses⟩, hwritten⟩

theorem Schedule.Obeys.clamped {row : Schedule} {t before w delay : ℕ}
    (hrow : row.Obeys t (delay, before)) (hwritten : row.readyAt ≠ 0) :
    (row.clamped w).Obeys t (delay, w) ∧ (row.clamped w).readyAt ≠ 0 := by
  obtain ⟨hwaits, hcloses⟩ := hrow
  dsimp only at hwaits hcloses
  unfold Schedule.clamped
  split
  · refine ⟨⟨?_, ?_⟩, ?_⟩ <;> dsimp only <;> omega
  · exact ⟨⟨hwaits, by dsimp only; omega⟩, hwritten⟩

/-! ## The roster -/

theorem swapPop_perm {front rest : List BytesN32} (hfirst : key ∉ front) :
    (swapPop key (front ++ key :: rest)).Perm (front ++ rest) := by
  have hindex : (front ++ key :: rest).idxOf? key = some front.length := by
    rw [List.idxOf?_eq_some_iff]
    refine ⟨by simp, by simp, fun j hj => ?_⟩
    rw [List.getElem_append_left hj]
    exact fun heq => hfirst (heq ▸ List.getElem_mem hj)
  unfold swapPop
  rw [hindex]
  rcases List.eq_nil_or_concat rest with rfl | ⟨init, last, rfl⟩
  · simp
  · rw [List.concat_eq_append]
    have hlast : (front ++ key :: (init ++ [last])).getLastD 0 = last := by
      rw [← List.cons_append, ← List.append_assoc, List.getLastD_concat]
    dsimp only
    rw [hlast, List.set_append_right _ _ le_rfl, Nat.sub_self, List.set_cons_zero,
      ← List.cons_append, ← List.append_assoc, List.dropLast_concat]
    exact List.Perm.append_left front (List.perm_append_singleton last init).symm

/-- The roster lists the armed ads, each once, and every rail has a delay. -/
structure Rostered (s : State) : Prop where
  listed : ∀ key, key ∈ s.guarded ↔ (s.guards.get? key).isSome = true
  nodup : s.guarded.Nodup
  keyed : ACCOUNT_SCOPE ∉ s.guarded
  delayed : ∀ key g, s.guards.get? key = some g → 0 < g.rail.delay.toNat

theorem Rostered.unarmed (hs : Rostered s) : s.guards.get? ACCOUNT_SCOPE = none := by
  have hunlisted := hs.keyed
  rw [hs.listed, Option.not_isSome_iff_eq_none] at hunlisted
  exact hunlisted

theorem Rostered.swapped (hs : Rostered s) (hkey : key ∈ s.guarded) :
    (∀ key', key' ∈ swapPop key s.guarded ↔ key' ∈ s.guarded ∧ key' ≠ key) ∧
      (swapPop key s.guarded).Nodup := by
  obtain ⟨front, rest, hsplit⟩ := List.append_of_mem hkey
  have hnodup := hs.nodup
  rw [hsplit] at hnodup ⊢
  have hfirst : key ∉ front := by
    intro hmem
    exact (List.nodup_append.mp hnodup).2.2 key hmem key List.mem_cons_self rfl
  have hrest : key ∉ rest := (List.nodup_cons.mp (List.nodup_append.mp hnodup).2.1).1
  have hperm : (swapPop key (front ++ key :: rest)).Perm (front ++ rest) := swapPop_perm hfirst
  refine ⟨fun key' => ?_, ?_⟩
  · rw [hperm.mem_iff]
    simp only [List.mem_append, List.mem_cons]
    constructor
    · rintro (hmem | hmem)
      · exact ⟨.inl hmem, fun heq => hfirst (heq ▸ hmem)⟩
      · exact ⟨.inr (.inr hmem), fun heq => hrest (heq ▸ hmem)⟩
    · rintro ⟨hmem | rfl | hmem, hne⟩
      · exact .inl hmem
      · exact absurd rfl hne
      · exact .inr hmem
  · apply hperm.nodup_iff.mpr
    exact hnodup.sublist (List.Sublist.append_left (List.sublist_cons_self key rest) front)

theorem Rostered.set {g : Guard} (hs : Rostered s) (hkey : key ≠ ACCOUNT_SCOPE)
    (hdelay : 0 < g.rail.delay.toNat) (hguards : s'.guards = s.guards.set key g)
    (hroster : s'.guarded = if (s.guards.get? key).isSome then s.guarded else s.guarded ++ [key]) :
    Rostered s' := by
  have hmem : ∀ key', key' ∈ s'.guarded ↔ key' = key ∨ key' ∈ s.guarded := by
    intro key'
    rw [hroster]
    split
    · next hsome =>
      constructor
      · exact .inr
      · rintro (rfl | hmem)
        · exact (hs.listed key').mpr hsome
        · exact hmem
    · rw [List.mem_append, List.mem_singleton, or_comm]
  refine ⟨fun key' => ?_, ?_, ?_, ?_⟩
  · rw [hmem, hguards, Map.get?_set]
    split
    · next heq => simp [heq]
    · next hne => simp [hne, hs.listed]
  · rw [hroster]
    split
    · exact hs.nodup
    · next hnone =>
      rw [List.nodup_append]
      refine ⟨hs.nodup, List.nodup_singleton key, ?_⟩
      rintro a ha b hb rfl
      rw [List.mem_singleton] at hb
      subst hb
      exact hnone ((hs.listed a).mp ha)
  · rw [hmem]
    rintro (heq | hmem)
    · exact hkey heq.symm
    · exact hs.keyed hmem
  · intro key' g' hg'
    rw [hguards, Map.get?_set] at hg'
    split at hg'
    · cases hg'
      exact hdelay
    · exact hs.delayed key' g' hg'

theorem Rostered.move (hs : Rostered s) (hkeys : ∀ adId, D.adKey adId ≠ ACCOUNT_SCOPE)
    (move : Move D msg s s') : Rostered s' := by
  cases move with
  | kept guards roster rows =>
    refine ⟨?_, roster ▸ hs.nodup, roster ▸ hs.keyed, guards ▸ hs.delayed⟩
    rw [guards, roster]
    exact hs.listed
  | removed guards roster rows =>
    refine ⟨?_, roster ▸ hs.nodup, roster ▸ hs.keyed, guards ▸ hs.delayed⟩
    rw [guards, roster]
    exact hs.listed
  | @charged key g next found guards roster rows =>
    have hlisted : (s.guards.get? key).isSome = true := by rw [found]; rfl
    refine hs.set (g := { g with bucket := next }) ?_ (hs.delayed key g found) guards ?_
    · rintro rfl
      exact hs.keyed ((hs.listed _).mpr hlisted)
    · rw [if_pos hlisted]
      exact roster
  | armed bounds tight guards roster rows =>
    exact hs.set (hkeys _) bounds.delayed guards roster
  | loosened bounds found guards roster rows =>
    refine hs.set (hkeys _) bounds.delayed guards ?_
    rw [found, Option.isSome_some, if_pos rfl]
    exact roster
  | @disarmed adId found guards roster rows =>
    obtain ⟨hmem, hnodup⟩ := hs.swapped ((hs.listed _).mpr found)
    refine ⟨fun key' => ?_, roster ▸ hnodup, ?_, ?_⟩
    · rw [roster, guards, hmem, Map.get?_remove, hs.listed]
      split
      · next heq => simp [heq]
      · next hne => simp [hne]
    · rw [roster, hmem]
      exact fun h => hs.keyed h.1
    · intro key' g' hg'
      rw [guards, Map.get?_remove] at hg'
      split at hg'
      · cases hg'
      · exact hs.delayed key' g' hg'

/-! ## The account's timing -/

theorem timelock_fold_le {n : ℕ} {skip : BytesN32} {keys : List BytesN32} {t : ℕ × ℕ} :
    (keys.foldl (fun t key =>
      if key = skip then t
      else
        (if t.1 < (s.rail key).delay.toNat then (s.rail key).delay.toNat else t.1,
          if (s.rail key).window.toNat < t.2 then (s.rail key).window.toNat else t.2)) t).1 ≤ n
      ↔ t.1 ≤ n ∧ ∀ key ∈ keys, key ≠ skip → (s.rail key).delay.toNat ≤ n := by
  induction keys generalizing t with
  | nil => simp
  | cons key keys ih =>
    rw [List.foldl_cons, ih]
    simp only [List.mem_cons, forall_eq_or_imp]
    split
    · next hskip => simp [hskip]
    · next hskip =>
      dsimp only
      simp only [hskip, ne_eq, not_false_eq_true, forall_const, ← and_assoc]
      refine and_congr_left fun _ => ?_
      split <;> omega

/-- The account waits the longest delay of its guarded ads. -/
theorem delay_le_iff {n : ℕ} : s.accountTimelock.1 ≤ n
    ↔ ∀ key ∈ s.guarded, key ≠ 0 → (s.rail key).delay.toNat ≤ n := by
  unfold State.accountTimelock State.accountTimelockWithout
  rw [timelock_fold_le]
  simp

theorem rail_of_guard {g : Guard} (hg : s.guards.get? key = some g) : s.rail key = g.rail := by
  unfold State.rail
  rw [hg]
  rfl

/-- With an ad guarded, the account has a delay. -/
theorem Rostered.delay_pos (hs : Rostered s) (hguarded : s.guarded ≠ []) :
    0 < s.accountTimelock.1 := by
  obtain ⟨key, hmem⟩ := List.exists_mem_of_ne_nil _ hguarded
  obtain ⟨g, hg⟩ := Option.isSome_iff_exists.mp ((hs.listed key).mp hmem)
  have hle := delay_le_iff.mp le_rfl key hmem fun h : key = ACCOUNT_SCOPE => hs.keyed (h ▸ hmem)
  rw [rail_of_guard hg] at hle
  exact (hs.delayed key g hg).trans_le hle

/-- After a rail is armed the account waits no longer than before, or than that rail asks. -/
theorem delay_armed {bucket : AgentRateLimit.Bucket}
    (hguards : s'.guards = s.guards.set key ⟨rail, bucket⟩)
    (hroster : s'.guarded = if (s.guards.get? key).isSome then s.guarded else s.guarded ++ [key]) :
    s'.accountTimelock.1 ≤ max s.accountTimelock.1 rail.delay.toNat := by
  rw [delay_le_iff]
  intro key' hmem hne
  by_cases heq : key' = key
  · have hrail : s'.rail key' = rail := by
      apply rail_of_guard (g := ⟨rail, bucket⟩)
      rw [hguards, heq, Map.get?_set_self]
    rw [hrail]
    exact le_max_right _ _
  · have hmem' : key' ∈ s.guarded := by
      rw [hroster] at hmem
      split at hmem
      · exact hmem
      · rcases List.mem_append.mp hmem with hmem | hmem
        · exact hmem
        · exact absurd (List.mem_singleton.mp hmem) heq
    have hrail : s'.rail key' = s.rail key' := by
      unfold State.rail
      rw [hguards, Map.get?_set_ne heq]
    rw [hrail]
    exact (delay_le_iff.mp le_rfl key' hmem' hne).trans (le_max_left _ _)

/-- Charging a bucket leaves every rail as it is. -/
theorem accountTimelock_charged {g : Guard} {next : AgentRateLimit.Bucket}
    (found : s.guards.get? key = some g)
    (guards : s'.guards = s.guards.set key { g with bucket := next })
    (roster : s'.guarded = s.guarded) : s'.accountTimelock = s.accountTimelock := by
  have hrail : s'.rail = s.rail := by
    funext key'
    unfold State.rail
    rw [guards, Map.get?_set]
    split
    · next heq =>
      rw [heq, found]
      rfl
    · rfl
  unfold State.accountTimelock State.accountTimelockWithout
  rw [hrail, roster]

end CustodyAccount
end ProofBridge
