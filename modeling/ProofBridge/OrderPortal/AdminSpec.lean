import ProofBridge.OrderPortal.Model
import ProofBridge.Core.SettingsSpec

/-!
# The admin's calls

None of them touches an order, a leaf or a token: the shared settings move as `SettingsOnly` says,
and the supported chains are this contract's own.
-/

namespace ProofBridge
namespace OrderPortal

open ContractLib

variable {X : Type} {O : Outside X} {H : Host} {env : Env} {s s' : Chain X}

/-- A shared step that moved only the settings. -/
theorem only_of_onCore {α : Type} {x : Tx Fault (Core X) α} {a : α}
    (honly : ∀ {r : α × Core X}, x s.core = .ok r → s.core.SettingsOnly r.2)
    (ok : onCore x s = .ok (a, s')) : s.core.SettingsOnly s'.core := by
  obtain ⟨_, c, hc, heq⟩ := Tx.zoom_ok.mp ok
  cases heq
  exact honly hc

theorem asAdmin_ok {r : ContractConfig × Chain X} (ok : asAdmin env s = .ok r) : r.2 = s := by
  unfold asAdmin at ok
  simp only [Tx.bind_view_ok, Tx.bind_demand_ok, Tx.pure_ok] at ok
  obtain ⟨config, -, -, rfl⟩ := ok
  rfl

theorem gated_only {fnName : Symbol} {args : List Val} {a : Unit}
    (ok : gated H env fnName args s = .ok (a, s')) : s.core.SettingsOnly s'.core := by
  unfold gated at ok
  rw [Tx.bind_view_ok] at ok
  obtain ⟨config, -, ok⟩ := ok
  exact only_of_onCore (fun h => onTimelock_only ripe_of_gateKeyed h) ok

/-- What the admin's own step does after the gate let it through. -/
theorem only_of_gated {fnName : Symbol} {args : List Val}
    {k : Unit → Tx OrderPortalError (Chain X) Unit} {a : Unit}
    (ok : (gated H env fnName args >>= k) s = .ok (a, s'))
    (hk : ∀ {s₁}, k () s₁ = .ok (a, s') → s₁.core.SettingsOnly s'.core) :
    s.core.SettingsOnly s'.core := by
  rw [Tx.bind_ok] at ok
  obtain ⟨⟨⟩, s₁, hgate, ok⟩ := ok
  exact (gated_only hgate).trans (hk ok)

/-- An admin step that runs one shared step once its admin is known. -/
theorem only_of_adminCore {α : Type} {x : ContractConfig → Tx Fault (Core X) α} {a : α}
    (ok : (asAdmin env >>= fun config => onCore (x config)) s = .ok (a, s'))
    (honly : ∀ {config} {r : α × Core X}, x config s.core = .ok r → s.core.SettingsOnly r.2) :
    s.core.SettingsOnly s'.core := by
  rw [Tx.bind_ok] at ok
  obtain ⟨config, s₁, hadmin, ok⟩ := ok
  obtain rfl : s₁ = s := asAdmin_ok hadmin
  exact only_of_onCore honly ok

/-- A step of what is this contract's own leaves the shared settings alone. -/
theorem only_of_events {c c' : Core X} (hsettings : c'.settings = c.settings)
    (hledger : c'.ledger = c.ledger) (hleaves : c'.leaves = c.leaves)
    (houtside : c'.outside = c.outside) : c.SettingsOnly c' where
  ledger := hledger
  leaves := hleaves
  outside := houtside
  step := hsettings ▸ .refl _

theorem setTokenRoute_only {orderToken adToken : BytesN32} {adChainId : U128}
    (ok : setTokenRoute H env orderToken adChainId adToken s = .ok ((), s')) :
    s.core.SettingsOnly s'.core := by
  refine only_of_gated ok fun {s₁} ok => ?_
  simp only [Tx.bind_require_ok, Tx.bind_read_ok] at ok
  obtain ⟨-, -, ok⟩ := ok
  rw [Tx.bind_ok] at ok
  obtain ⟨⟨⟩, s₂, hset, ok⟩ := ok
  cases Tx.modify_ok.mp ok
  exact (only_of_onCore (fun h => settingsOnly_of_eq rfl rfl rfl rfl rfl h) hset).trans
    (only_of_events rfl rfl rfl rfl)

theorem removeTokenRoute_only {orderToken : BytesN32} {adChainId : U128}
    (ok : removeTokenRoute H env orderToken adChainId s = .ok ((), s')) :
    s.core.SettingsOnly s'.core := by
  refine only_of_gated ok fun {s₁} ok => ?_
  rw [Tx.bind_ok] at ok
  obtain ⟨⟨⟩, s₂, hset, ok⟩ := ok
  cases Tx.modify_ok.mp ok
  exact (only_of_onCore (fun h => settingsOnly_of_eq rfl rfl rfl rfl rfl h) hset).trans
    (only_of_events rfl rfl rfl rfl)

/-- The calls that touch no order. -/
def Call.administrative : Call → Bool
  | .createOrder .. | .unlock .. | .refundByCancel .. | .presentSettled .. | .payMakerByForfeit ..
  | .recordSettled .. | .claim .. => false
  | _ => true

/-- An administrative call moves no order, no leaf and no token. -/
theorem only_of_exec {call : Call} {r : Ret × Chain X} (hcall : call.administrative = true)
    (ok : exec O H env call s = .ok r) : s.core.SettingsOnly r.2.core := by
  cases call <;> simp only [Call.administrative, Bool.false_eq_true] at hcall <;>
    simp only [exec, Tx.answer_ok] at ok <;> obtain ⟨a, ok, -⟩ := ok
  case initializeContract =>
    unfold initializeContract at ok
    simp only [Tx.bind_read_ok, Tx.bind_require_ok, Tx.modify_ok, Prod.mk.injEq] at ok
    obtain ⟨hnew, -, -, hs⟩ := ok
    rw [hs]
    exact settingsOnly_of_first hnew
  case pause => exact only_of_adminCore ok fun h => Escrow.pause_only h
  case unpause => exact only_of_adminCore ok fun h => Escrow.unpause_only h
  case transferAdmin => exact only_of_adminCore ok fun h => Escrow.transferAdmin_only h
  case acceptAdmin =>
    unfold acceptAdmin at ok
    simp only [Tx.bind_view_ok, Tx.bind_demand_ok, getConfig, Check.expect_ok] at ok
    obtain ⟨pending, -, -, config, hconfig, ok⟩ := ok
    exact only_of_onCore (fun h => Escrow.acceptAdmin_only hconfig h) ok
  case activateTimelock => exact only_of_adminCore ok fun h => activate_only h
  case proposeAction => exact only_of_adminCore ok fun h => propose_only h
  case cancelAction => exact only_of_adminCore ok fun h => cancel_only h
  case setChain =>
    refine only_of_gated ok fun {s₁} ok => ?_
    simp only [Tx.bind_require_ok, Tx.bind_modify_ok, Tx.modify_ok, Prod.mk.injEq] at ok
    obtain ⟨-, -, hs⟩ := ok
    rw [hs]
    exact only_of_events rfl rfl rfl rfl
  case removeChain =>
    refine only_of_gated ok fun {s₁} ok => ?_
    simp only [Tx.bind_modify_ok, Tx.modify_ok, Prod.mk.injEq] at ok
    rw [ok.2]
    exact only_of_events rfl rfl rfl rfl
  case setRootVerifier =>
    unfold setRootVerifier at ok
    obtain ⟨config, -, ok⟩ := Tx.bind_view_ok.mp ok
    exact only_of_onCore (fun h => Escrow.setRootVerifierGated_only h) ok
  case unsetRootVerifier =>
    unfold unsetRootVerifier at ok
    obtain ⟨config, -, ok⟩ := Tx.bind_view_ok.mp ok
    exact only_of_onCore (fun h => Escrow.unsetRootVerifier_only h) ok
  case setRouteTiming =>
    refine only_of_gated ok fun {s₁} hcore => ?_
    exact only_of_onCore (fun h => Escrow.setRouteTiming_only h) hcore
  case setRootAnchor =>
    refine only_of_gated ok fun {s₁} hcore => ?_
    exact only_of_onCore (fun h => Escrow.setRootAnchor_only h) hcore
  case setTokenRoute => exact setTokenRoute_only ok
  case removeTokenRoute => exact removeTokenRoute_only ok

end OrderPortal
end ProofBridge
