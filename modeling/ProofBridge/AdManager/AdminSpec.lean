import ProofBridge.AdManager.Model
import ProofBridge.Core.SettingsSpec

/-!
# The admin's calls, and the makers' halts

None of them touches an ad, an order, a leaf or a token. What they change, they change within
bounds: the config keeps all but its admin, a stored timing stays, the fee pool is never unset.
-/

namespace ProofBridge
namespace AdManager

open ContractLib

variable {X : Type} {O : Outside X} {H : Host} {env : Env} {s s' s'' : Chain X}

/-- What every reachable AdManager satisfies of its settings. -/
structure Chain.Sound (s : Chain X) : Prop where
  settings : s.core.settings.Sound
  /-- A protocol fee is only charged where a pool takes it. -/
  fees : feesValid s.fees.lpBps s.fees.protocolBps s.fees.pool.isSome

/-- How the settings may change over a run. -/
structure Chain.Grows (s s' : Chain X) : Prop where
  settings : s.core.settings.Grows s'.core.settings
  pool : s.fees.pool.isSome = true → s'.fees.pool.isSome = true

theorem Chain.sound_fresh (x : X) : (Chain.fresh x).Sound where
  settings := Settings.sound_fresh
  fees := ⟨Nat.zero_le _, Nat.zero_le _, .inl rfl⟩

theorem Chain.Grows.refl (s : Chain X) : s.Grows s := ⟨.refl _, id⟩

theorem Chain.Grows.trans (h : s.Grows s') (h' : s'.Grows s'') : s.Grows s'' :=
  ⟨h.settings.trans h'.settings, fun hp => h'.pool (h.pool hp)⟩

/-- The ledger, the ads, the leaves and everything outside are as they were. -/
structure Frame (s s' : Chain X) : Prop where
  ads : s'.ads = s.ads
  ledger : s'.core.ledger = s.core.ledger
  leaves : s'.core.leaves = s.core.leaves
  outside : s'.core.outside = s.core.outside
  step : s.Sound → s'.Sound ∧ s.Grows s'

namespace Frame

theorem trans (h : Frame s s') (h' : Frame s' s'') : Frame s s'' where
  ads := h'.ads.trans h.ads
  ledger := h'.ledger.trans h.ledger
  leaves := h'.leaves.trans h.leaves
  outside := h'.outside.trans h.outside
  step hs := by
    obtain ⟨hs', hg⟩ := h.step hs
    obtain ⟨hs'', hg'⟩ := h'.step hs'
    exact ⟨hs'', hg.trans hg'⟩

/-- A step of the shared settings. -/
theorem of_core {c : Core X} (h : s.core.SettingsOnly c) : Frame s { s with core := c } where
  ads := rfl
  ledger := h.ledger
  leaves := h.leaves
  outside := h.outside
  step hs := by
    obtain ⟨hs', hg⟩ := h.step hs.settings
    exact ⟨⟨hs', hs.fees⟩, ⟨hg, id⟩⟩

/-- A step of this contract's own settings that leaves the shared ones and the fees alone. -/
theorem of_eq (hads : s'.ads = s.ads) (hledger : s'.core.ledger = s.core.ledger)
    (hleaves : s'.core.leaves = s.core.leaves) (houtside : s'.core.outside = s.core.outside)
    (hsettings : s'.core.settings = s.core.settings) (hfees : s'.fees = s.fees) :
    Frame s s' where
  ads := hads
  ledger := hledger
  leaves := hleaves
  outside := houtside
  step hs := by
    refine ⟨⟨hsettings ▸ hs.settings, hfees ▸ hs.fees⟩, ⟨?_, ?_⟩⟩
    · rw [hsettings]
      exact .refl _
    · rw [hfees]
      exact id

end Frame

/-- A shared step that moved only the settings. -/
theorem frame_of_onCore {α : Type} {x : Tx Fault (Core X) α} {a : α}
    (honly : ∀ {r : α × Core X}, x s.core = .ok r → s.core.SettingsOnly r.2)
    (ok : onCore x s = .ok (a, s')) : Frame s s' := by
  obtain ⟨_, c, hc, heq⟩ := Tx.zoom_ok.mp ok
  cases heq
  exact .of_core (honly hc)

theorem asAdmin_ok {r : ContractConfig × Chain X} (ok : asAdmin env s = .ok r) :
    s.core.settings.config = some r.1 ∧ r.2 = s := by
  unfold asAdmin at ok
  simp only [Tx.bind_view_ok, Tx.bind_demand_ok, Tx.pure_ok, getConfig, Check.expect_ok] at ok
  obtain ⟨config, hconfig, -, rfl⟩ := ok
  exact ⟨hconfig, rfl⟩

theorem gated_frame {fnName : Symbol} {args : List Val} {r : Unit × Chain X}
    (ok : gated H env fnName args s = .ok r) : Frame s r.2 ∧ r.2.fees = s.fees := by
  unfold gated at ok
  rw [Tx.bind_view_ok] at ok
  obtain ⟨config, -, ok⟩ := ok
  refine ⟨frame_of_onCore (fun h => onTimelock_only ripe_of_gateKeyed h) ok, ?_⟩
  obtain ⟨_, _, -, rfl⟩ := Tx.zoom_ok.mp ok
  rfl

/-- What the admin's own step does after the gate let it through. -/
theorem frame_of_gated {fnName : Symbol} {args : List Val}
    {k : Unit → Tx AdManagerError (Chain X) Unit} {a : Unit}
    (ok : (gated H env fnName args >>= k) s = .ok (a, s'))
    (hk : ∀ {s₁}, k () s₁ = .ok (a, s') → Frame s₁ s') : Frame s s' := by
  rw [Tx.bind_ok] at ok
  obtain ⟨⟨⟩, s₁, hgate, ok⟩ := ok
  exact (gated_frame hgate).1.trans (hk ok)

/-- What an admin step does once its admin is known. -/
theorem frame_of_asAdmin {α : Type} {k : ContractConfig → Tx AdManagerError (Chain X) α}
    {a : α} (ok : (asAdmin env >>= k) s = .ok (a, s'))
    (hk : ∀ {config}, k config s = .ok (a, s') → Frame s s') : Frame s s' := by
  rw [Tx.bind_ok] at ok
  obtain ⟨config, s₁, hadmin, ok⟩ := ok
  obtain ⟨-, rfl⟩ := asAdmin_ok hadmin
  exact hk ok

theorem initializeContract_frame {admin verifier merkleManager wNativeToken : Address}
    {chainId : U128}
    (ok : initializeContract env admin verifier merkleManager wNativeToken chainId s
      = .ok ((), s')) : Frame s s' := by
  unfold initializeContract at ok
  simp only [Tx.bind_read_ok, Tx.bind_require_ok, Tx.bind_demand_ok, Tx.bind_modify_ok,
    Tx.modify_ok, Prod.mk.injEq, true_and] at ok
  obtain ⟨hnew, -, rfl⟩ := ok
  exact (Frame.of_core (settingsOnly_of_first hnew)).trans (.of_eq rfl rfl rfl rfl rfl rfl)

/-- An admin step that runs one shared step once its admin is known. -/
theorem frame_of_adminCore {α : Type} {x : ContractConfig → Tx Fault (Core X) α}
    {a : α} (ok : (asAdmin env >>= fun config => onCore (x config)) s = .ok (a, s'))
    (honly : ∀ {config} {r : α × Core X}, x config s.core = .ok r → s.core.SettingsOnly r.2) :
    Frame s s' := by
  refine frame_of_asAdmin ok fun hcore => ?_
  exact frame_of_onCore honly hcore

theorem setProtocolFeePool_frame {pool : BytesN32}
    (ok : setProtocolFeePool H env pool s = .ok ((), s')) : Frame s s' := by
  refine frame_of_gated ok fun {s₁} ok => ?_
  simp only [Tx.bind_require_ok, Tx.bind_modify_ok, Tx.modify_ok, Prod.mk.injEq, true_and] at ok
  obtain ⟨-, rfl⟩ := ok
  refine ⟨rfl, rfl, rfl, rfl, fun hs => ⟨⟨hs.settings, ?_⟩, ⟨.refl _, fun _ => rfl⟩⟩⟩
  obtain ⟨hlp, hprot, -⟩ := hs.fees
  exact ⟨hlp, hprot, .inr rfl⟩

theorem setFeeBps_frame {lpBps protocolBps : U32}
    (ok : setFeeBps H env lpBps protocolBps s = .ok ((), s')) : Frame s s' := by
  refine frame_of_gated ok fun {s₁} ok => ?_
  simp only [Tx.bind_read_ok, Tx.bind_require_ok, Tx.bind_modify_ok, Tx.modify_ok,
    Prod.mk.injEq, true_and] at ok
  obtain ⟨hvalid, rfl⟩ := ok
  exact ⟨rfl, rfl, rfl, rfl, fun hs => ⟨⟨hs.settings, hvalid⟩, ⟨.refl _, id⟩⟩⟩

theorem setKeyRegistry_frame {registry : Address}
    (ok : setKeyRegistry H env registry s = .ok ((), s')) : Frame s s' := by
  refine frame_of_gated ok fun {s₁} ok => ?_
  simp only [Tx.bind_read_ok, Tx.bind_lift_ok, Tx.bind_modify_ok, Tx.modify_ok,
    Prod.mk.injEq, true_and] at ok
  obtain ⟨epoch, -, rfl⟩ := ok
  exact .of_eq rfl rfl rfl rfl rfl rfl

theorem setChain_frame {orderChainId : U128} {orderPortal : BytesN32}
    (ok : setChain H env orderChainId orderPortal s = .ok ((), s')) : Frame s s' := by
  refine frame_of_gated ok fun {s₁} ok => ?_
  simp only [Tx.bind_require_ok, Tx.bind_modify_ok, Tx.modify_ok, Prod.mk.injEq, true_and] at ok
  obtain ⟨-, rfl⟩ := ok
  exact .of_eq rfl rfl rfl rfl rfl rfl

theorem removeChain_frame {orderChainId : U128}
    (ok : removeChain H env orderChainId s = .ok ((), s')) : Frame s s' := by
  refine frame_of_gated ok fun {s₁} ok => ?_
  simp only [Tx.bind_modify_ok, Tx.modify_ok, Prod.mk.injEq, true_and] at ok
  subst ok
  exact .of_eq rfl rfl rfl rfl rfl rfl

theorem setDisputeManager_frame {manager : Address}
    (ok : setDisputeManager H env manager s = .ok ((), s')) : Frame s s' := by
  refine frame_of_gated ok fun {s₁} ok => ?_
  exact frame_of_onCore (fun h => settingsOnly_of_eq rfl rfl rfl rfl rfl h) ok

theorem setTokenRoute_frame {adToken orderToken : BytesN32} {orderChainId : U128}
    (ok : setTokenRoute H env adToken orderToken orderChainId s = .ok ((), s')) :
    Frame s s' := by
  refine frame_of_gated ok fun {s₁} ok => ?_
  simp only [Tx.bind_require_ok, Tx.bind_read_ok] at ok
  obtain ⟨-, -, ok⟩ := ok
  rw [Tx.bind_ok] at ok
  obtain ⟨⟨⟩, s₂, hset, ok⟩ := ok
  cases Tx.modify_ok.mp ok
  exact (frame_of_onCore (fun h => settingsOnly_of_eq rfl rfl rfl rfl rfl h) hset).trans
    (.of_eq rfl rfl rfl rfl rfl rfl)

theorem removeTokenRoute_frame {adToken : BytesN32} {orderChainId : U128}
    (ok : removeTokenRoute H env adToken orderChainId s = .ok ((), s')) : Frame s s' := by
  refine frame_of_gated ok fun {s₁} ok => ?_
  rw [Tx.bind_read_ok, Tx.bind_ok] at ok
  obtain ⟨⟨⟩, s₂, hset, ok⟩ := ok
  cases Tx.modify_ok.mp ok
  exact (frame_of_onCore (fun h => settingsOnly_of_eq rfl rfl rfl rfl rfl h) hset).trans
    (.of_eq rfl rfl rfl rfl rfl rfl)

theorem acceptAdmin_frame (ok : acceptAdmin env s = .ok ((), s')) :
    Frame s s' := by
  unfold acceptAdmin at ok
  simp only [Tx.bind_view_ok, Tx.bind_demand_ok, getConfig, Check.expect_ok] at ok
  obtain ⟨pending, -, -, config, hconfig, ok⟩ := ok
  exact frame_of_onCore (fun h => Escrow.acceptAdmin_only hconfig h) ok

theorem haltSettlement_frame {maker : Address}
    (ok : haltSettlement env maker s = .ok ((), s')) : Frame s s' := by
  unfold haltSettlement at ok
  simp only [Tx.bind_demand_ok, Tx.bind_read_ok, Tx.bind_modify_ok, Tx.modify_ok,
    Prod.mk.injEq, true_and] at ok
  obtain ⟨-, rfl⟩ := ok
  exact .of_eq rfl rfl rfl rfl rfl rfl

theorem resumeSettlement_frame {maker : Address}
    (ok : resumeSettlement env maker s = .ok ((), s')) : Frame s s' := by
  unfold resumeSettlement at ok
  simp only [Tx.bind_demand_ok, Tx.bind_read_ok, Tx.bind_expect_ok, Tx.bind_require_ok,
    Tx.bind_modify_ok, Tx.modify_ok, Prod.mk.injEq, true_and] at ok
  obtain ⟨-, _, -, -, rfl⟩ := ok
  exact .of_eq rfl rfl rfl rfl rfl rfl

/-- The calls that touch neither an ad nor an order. -/
def Call.administrative : Call → Bool
  | .initializeContract .. | .pause | .unpause | .transferAdmin .. | .acceptAdmin
  | .activateTimelock | .proposeAction .. | .cancelAction .. | .setProtocolFeePool ..
  | .setFeeBps .. | .setChain .. | .removeChain .. | .setRootVerifier .. | .unsetRootVerifier ..
  | .setKeyRegistry .. | .setRouteTiming .. | .setDisputeManager .. | .setRootAnchor ..
  | .setTokenRoute .. | .removeTokenRoute .. | .haltSettlement .. | .resumeSettlement .. => true
  | _ => false

/-- An administrative call moves no ad, no order, no leaf and no token. -/
theorem frame_of_exec {call : Call} {r : Ret × Chain X} (hcall : call.administrative = true)
    (ok : exec O H env call s = .ok r) : Frame s r.2 := by
  cases call <;> simp only [Call.administrative, Bool.false_eq_true] at hcall <;>
    simp only [exec, Tx.answer_ok] at ok <;> obtain ⟨a, ok, -⟩ := ok
  case initializeContract => exact initializeContract_frame ok
  case pause => exact frame_of_adminCore ok fun h => Escrow.pause_only h
  case unpause => exact frame_of_adminCore ok fun h => Escrow.unpause_only h
  case transferAdmin => exact frame_of_adminCore ok fun h => Escrow.transferAdmin_only h
  case acceptAdmin => exact acceptAdmin_frame ok
  case activateTimelock => exact frame_of_adminCore ok fun h => activate_only h
  case proposeAction => exact frame_of_adminCore ok fun h => propose_only h
  case cancelAction => exact frame_of_adminCore ok fun h => cancel_only h
  case setProtocolFeePool => exact setProtocolFeePool_frame ok
  case setFeeBps => exact setFeeBps_frame ok
  case setChain => exact setChain_frame ok
  case removeChain => exact removeChain_frame ok
  case setRootVerifier =>
    unfold setRootVerifier at ok
    obtain ⟨config, -, ok⟩ := Tx.bind_view_ok.mp ok
    exact frame_of_onCore (fun h => Escrow.setRootVerifierGated_only h) ok
  case unsetRootVerifier =>
    unfold unsetRootVerifier at ok
    obtain ⟨config, -, ok⟩ := Tx.bind_view_ok.mp ok
    exact frame_of_onCore (fun h => Escrow.unsetRootVerifier_only h) ok
  case setKeyRegistry => exact setKeyRegistry_frame ok
  case setRouteTiming =>
    refine frame_of_gated ok fun {s₁} hcore => ?_
    exact frame_of_onCore (fun h => Escrow.setRouteTiming_only h) hcore
  case setDisputeManager => exact setDisputeManager_frame ok
  case setRootAnchor =>
    refine frame_of_gated ok fun {s₁} hcore => ?_
    exact frame_of_onCore (fun h => Escrow.setRootAnchor_only h) hcore
  case setTokenRoute => exact setTokenRoute_frame ok
  case removeTokenRoute => exact removeTokenRoute_frame ok
  case haltSettlement => exact haltSettlement_frame ok
  case resumeSettlement => exact resumeSettlement_frame ok

end AdManager
end ProofBridge
