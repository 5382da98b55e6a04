import ProofBridge.CustodyAccount.Announcements

/-!
# The guard rail of a run

While any ad is guarded, whatever the account is made to do is on the instant list, small and charged,
about an unguarded ad, or announced: it consumes the one row committed to exactly that call. A call is
stored and spent under one scope and one action, which every maintenance loop visits.
-/

namespace ProofBridge
namespace CustodyAccount

open ContractLib Evm

variable {D : Deployment} {msg : Message} {s s' : State} {scope key : BytesN32} {action : Selector}
  {adId : AdId} {rail : GuardRail} {Y : Type} {N : Neighbors Y} {y : Y} {oc : OwnerCall}
  {call : Call} {h : History} {c c' : Chain Y} {outside : Y → Y → Prop}

/-! ## The commitment -/

theorem encodeCall_injective : Function.Injective encodeCall := by
  intro oc oc' heq
  obtain ⟨target, value, data⟩ := oc
  obtain ⟨target', value', data'⟩ := oc'
  unfold encodeCall at heq
  dsimp only at heq
  obtain ⟨hhead, htail⟩ := List.append_inj heq (by simp [Eip712.length_concat])
  have hwords := Eip712.concat_injective hhead
  simp only [List.cons.injEq, and_true, true_and] at hwords
  obtain ⟨htarget, rfl, hlength⟩ := hwords
  have htarget' : target = target' := by
    have hnarrow := congrArg (BitVec.setWidth 160) htarget
    simpa [toBytes32] using hnarrow
  -- the lengths agree modulo 2^256, and within a word by the padding
  have hpadded := congrArg List.length htail
  rw [Abi.length_padRight, Abi.length_padRight] at hpadded
  have hmod := congrArg BitVec.toNat hlength
  rw [BitVec.toNat_ofNat, BitVec.toNat_ofNat] at hmod
  have hlen : data.length = data'.length := by omega
  obtain rfl := Abi.padRight_inj hlen htail
  rw [htarget']

/-! ## Single use -/

/-- A row that is spent is gone. -/
theorem row_spent : (s.deleteSchedule scope action).row scope action = none := by
  rw [row_deleteSchedule, if_pos ⟨rfl, rfl⟩]

/-- The gate moves no row but the one of the action it was named under. -/
theorem Judged.spends (judged : Judged D N y msg s s' oc) {scope' : BytesN32} {action' : Selector}
    (hmoved : s'.row scope' action' ≠ s.row scope' action') :
    actionOf D oc.target oc.value oc.data = .ok (action', scope') := by
  have hdeleted : ∀ scope action, (s.deleteSchedule scope action).row scope' action'
      ≠ s.row scope' action' → scope' = scope ∧ action' = action := by
    intro scope action hne
    rw [row_deleteSchedule] at hne
    split at hne
    · next heq => exact heq
    · exact absurd rfl hne
  cases judged with
  | instant named kind same => exact absurd (same ▸ rfl) hmoved
  | unguarded named kind unarmed same => exact absurd (same ▸ rfl) hmoved
  | charged named kind armed small read within debited left =>
    subst left
    exact absurd rfl hmoved
  | announcedAd named kind spendable left =>
    subst left
    obtain ⟨rfl, rfl⟩ := hdeleted _ _ hmoved
    exact named
  | announced named kind spendable left =>
    subst left
    obtain ⟨rfl, rfl⟩ := hdeleted _ _ hmoved
    obtain ⟨-, rfl⟩ := kindOf_delayed (actionOf_ok named) kind
    exact named

/-! ## The account's own functions -/

/-- The row an own function spends. -/
def ownRow (D : Deployment) : Call → Option (Selector × BytesN32)
  | .setGuardRail adId _ => some (Selector.setGuardRail, D.adKey adId)
  | .disarmGuardRail adId => some (Selector.disarmGuardRail, D.adKey adId)
  | .sweep .. => some (Selector.sweep, ACCOUNT_SCOPE)
  | .transferOwnership _ => some (Selector.transferOwnership, ACCOUNT_SCOPE)
  | _ => none

/-- The longer decoder reads the same string. -/
theorem adIdArg_of_guardRailArgs {args : Bytes} (h : guardRailArgs args = some (adId, rail)) :
    adIdArg args = some adId := by
  simp only [guardRailArgs, Option.bind_eq_bind, Option.bind_eq_some_iff, Abi.hasHead] at h
  obtain ⟨⟨⟩, hhead, adId', hstring, _, -, _, -, _, -, _, -, _, -, hread⟩ := h
  cases hread
  rw [Option.ite_none_right_eq_some] at hhead
  have hshort : 0 + 32 * 1 ≤ args.length := by omega
  simp only [adIdArg, Abi.hasHead, hshort, if_true, Option.bind_eq_bind, Option.bind_some]
  exact hstring

/-- An own function is announced under the row it spends. -/
theorem ownRow_named (hdispatched : dispatched msg.data call = true) {row : Selector × BytesN32}
    (hrow : ownRow D call = some row) :
    actionOf D (D.ownCall msg).target (D.ownCall msg).value (D.ownCall msg).data = .ok row := by
  have hown : (D.ownCall msg).target = D.this := rfl
  have hadCall : ∀ a adId, (a = Selector.setGuardRail ∨ a = Selector.disarmGuardRail) →
      selectorOf msg.data = a → adIdArg (argsOf msg.data) = some adId →
      actionOf D D.this 0 msg.data = .ok (a, D.adKey adId) := by
    intro a adId hlisted haction hadId
    have hunlisted : a ≠ WITHDRAW ∧ a ≠ CLOSE ∧ a ≠ SET_SIGNER ∧ a ≠ LOCK := by
      rcases hlisted with rfl | rfl <;> decide
    unfold actionOf
    dsimp only
    rw [haction, if_neg (not_not.mpr rfl), if_neg hunlisted.1, if_neg hunlisted.2.1,
      if_neg hunlisted.2.2.1, if_neg hunlisted.2.2.2, if_pos ⟨rfl, hlisted⟩, hadId]
    rfl
  have hplain : ∀ a, (a = Selector.sweep ∨ a = Selector.transferOwnership) →
      selectorOf msg.data = a → actionOf D D.this 0 msg.data = .ok (a, 0) := by
    intro a hlisted haction
    have hunlisted : a ≠ WITHDRAW ∧ a ≠ CLOSE ∧ a ≠ SET_SIGNER ∧ a ≠ LOCK ∧
        ¬(a = Selector.setGuardRail ∨ a = Selector.disarmGuardRail) := by
      rcases hlisted with rfl | rfl <;> decide
    unfold actionOf
    dsimp only
    rw [haction, if_neg (not_not.mpr rfl), if_neg hunlisted.1, if_neg hunlisted.2.1,
      if_neg hunlisted.2.2.1, if_neg hunlisted.2.2.2.1, if_neg fun h => hunlisted.2.2.2.2 h.2]
    rfl
  show actionOf D D.this 0 msg.data = .ok row
  cases call with
  | setGuardRail adId rail =>
    cases hrow
    simp only [dispatched, Bool.and_eq_true, decide_eq_true_eq] at hdispatched
    exact hadCall _ adId (.inl rfl) hdispatched.1 (adIdArg_of_guardRailArgs hdispatched.2)
  | disarmGuardRail adId =>
    cases hrow
    simp only [dispatched, Bool.and_eq_true, decide_eq_true_eq] at hdispatched
    exact hadCall _ adId (.inr rfl) hdispatched.1 hdispatched.2
  | sweep token payee amount =>
    cases hrow
    simp only [dispatched, Bool.and_eq_true, decide_eq_true_eq] at hdispatched
    exact hplain _ (.inl rfl) hdispatched.1
  | transferOwnership newOwner =>
    cases hrow
    simp only [dispatched, Bool.and_eq_true, decide_eq_true_eq] at hdispatched
    exact hplain _ (.inr rfl) hdispatched.1
  | _ => cases hrow

end CustodyAccount
end ProofBridge
