import ProofBridge.AdManager.Orders
import ProofBridge.OrderPortal.Orders

/-!
# No two contradictory leaves

A leaf can never be withdrawn, and the other chain acts on it. So each leg appends a kind of leaf at
most once for an order, and of the three leaves that say how an order ended on the ad leg at most one
is ever appended, whatever was locked, cancelled, disputed or settled in between.
-/

namespace ProofBridge
namespace TwoLegs

open ContractLib

/-- The leaves that say how an order ended. -/
def endings : List ℕ := [LEAF_DOMAIN_CANCEL, LEAF_DOMAIN_SETTLED, LEAF_DOMAIN_FORFEIT]

/-- Every kind of leaf at most once, and at most one ending. -/
structure LeavesApart (kinds : List ℕ) : Prop where
  once : ∀ kind, kinds.count kind ≤ 1
  apart : ∀ kind ∈ endings, ∀ kind' ∈ endings, kind ∈ kinds → kind' ∈ kinds → kind = kind'

theorem leavesApart_of_nodup {kinds : List ℕ} (hnodup : kinds.Nodup)
    (hone : (kinds.filter fun kind => kind ∈ endings).length ≤ 1) : LeavesApart kinds where
  once kind := List.nodup_iff_count_le_one.mp hnodup kind
  apart kind hkind kind' hkind' hmem hmem' := by
    have hin : kind ∈ kinds.filter fun kind => kind ∈ endings :=
      List.mem_filter.mpr ⟨hmem, decide_eq_true hkind⟩
    have hin' : kind' ∈ kinds.filter fun kind => kind ∈ endings :=
      List.mem_filter.mpr ⟨hmem', decide_eq_true hkind'⟩
    generalize (kinds.filter fun kind => decide (kind ∈ endings)) = l at hone hin hin'
    match l, hone, hin, hin' with
    | [a], _, hin, hin' => exact (List.mem_singleton.mp hin).trans (List.mem_singleton.mp hin').symm

theorem mayHold_apart {l : AdManager.Leg} {kinds : List ℕ} (h : kinds ∈ l.mayHold) :
    LeavesApart kinds := by
  unfold AdManager.Leg.mayHold at h
  have hcases : kinds = [] ∨ kinds = [LEAF_DOMAIN_ORDER] ∨
      kinds = [LEAF_DOMAIN_SETTLED, LEAF_DOMAIN_ORDER] ∨ kinds = [LEAF_DOMAIN_CANCEL] ∨
      kinds = [LEAF_DOMAIN_CANCEL, LEAF_DOMAIN_ORDER] ∨
      kinds = [LEAF_DOMAIN_FORFEIT, LEAF_DOMAIN_ORDER] := by
    cases hstatus : l.record.status <;> cases hsettled : l.settled <;> rw [hstatus] at h <;>
      simp only [hsettled, if_true, if_false, Bool.false_eq_true, List.mem_cons, List.not_mem_nil,
        or_false] at h <;> grind
  rcases hcases with rfl | rfl | rfl | rfl | rfl | rfl <;>
    exact leavesApart_of_nodup (by decide) (by decide)

/-- Only a filled leg's settlement is recorded. -/
theorem filled_of_settled_appended {now : ℕ} {l l' : AdManager.Leg}
    (hstep : AdManager.LegStep now l l')
    (hmore : l.leaves.count LEAF_DOMAIN_SETTLED < l'.leaves.count LEAF_DOMAIN_SETTLED) :
    l.record.status = .filled := by
  cases hstep with
  | recorded hfilled => exact hfilled
  | resolved hdisputed outcome =>
    have hdomain : AdManager.rulingDomain outcome ≠ LEAF_DOMAIN_SETTLED := by
      unfold AdManager.rulingDomain
      split <;> decide
    rw [List.count_cons_of_ne hdomain] at hmore
    exact absurd hmore (lt_irrefl _)
  | locked hnew =>
    rw [List.count_cons_of_ne (by decide)] at hmore
    exact absurd hmore (lt_irrefl _)
  | cancelled hclaimed =>
    rw [List.count_cons_of_ne (by decide)] at hmore
    exact absurd hmore (lt_irrefl _)
  | neverLocked hnone =>
    rw [List.count_cons_of_ne (by decide)] at hmore
    exact absurd hmore (lt_irrefl _)
  | _ => exact absurd hmore (lt_irrefl _)

/-- Which leaves an AdManager may have written, seen from the state `s` of a run. -/
structure AdLeaves {X : Type} (O : Outside X) (H : Host) (outside : X → X → Prop)
    (s : AdManager.Chain X) : Prop where
  apart : ∀ orderHash, LeavesApart (leavesOf orderHash s.core.leaves)
  /-- A SETTLED leaf is appended for a filled order only. -/
  settled : ∀ env call ret s', AdManager.exec O H env call s = .ok (ret, s') → ∀ orderHash,
    (leavesOf orderHash s.core.leaves).count LEAF_DOMAIN_SETTLED
      < (leavesOf orderHash s'.core.leaves).count LEAF_DOMAIN_SETTLED →
    s.core.ledger.status orderHash = .filled
  /-- However the run goes on, an order that ended stays as it ended. -/
  terminal : ∀ later s', Run (AdManager.system O H outside) s later s' → ∀ orderHash,
    (s.core.ledger.status orderHash).terminal = true →
    s'.core.ledger.status orderHash = s.core.ledger.status orderHash

/-- Which SETTLED leaves a portal may have written, seen from the state `s` of a run. -/
structure PortalLeaves {Y : Type} (H : Host) (chainId : U128) (history : OrderPortal.History)
    (s : OrderPortal.Chain Y) : Prop where
  once : ∀ orderHash, (leavesOf orderHash s.core.leaves).count LEAF_DOMAIN_SETTLED ≤ 1
  /-- The one exit of an order with a SETTLED leaf paid the maker for a settled trade. -/
  settled : ∀ orderHash, LEAF_DOMAIN_SETTLED ∈ leavesOf orderHash s.core.leaves →
    s.core.ledger.status orderHash = .filled ∧
      (OrderPortal.exitsOf H chainId orderHash history = [.cosigned] ∨
        OrderPortal.exitsOf H chainId orderHash history = [.presented])

theorem adLeaves_of_run {X : Type} {O : Outside X} {H : Host} {outside : X → X → Prop} {x : X}
    {history : AdManager.History} {s : AdManager.Chain X}
    (run : Run (AdManager.system O H outside) (AdManager.Chain.fresh x) history s) :
    AdLeaves O H outside s where
  apart orderHash := mayHold_apart (AdManager.legs_of_run run orderHash).leaves
  settled _ _ _ _ ok orderHash hmore :=
    filled_of_settled_appended
      (AdManager.legStep_of_step (AdManager.step_of_exec ok) orderHash) hmore
  terminal _ _ hlater _ hterminal := AdManager.terminal_of_run hlater hterminal

theorem portalLeaves_of_run {Y : Type} {O : Outside Y} {H : Host} {outside : Y → Y → Prop} {y : Y}
    {chainId : U128} {history : OrderPortal.History} {s : OrderPortal.Chain Y}
    (run : Run (OrderPortal.system O H outside) (OrderPortal.Chain.fresh y) history s)
    (hchain : ∀ config, s.core.settings.config = some config → config.chainId = chainId) :
    PortalLeaves H chainId history s := by
  have hsound : ∀ orderHash, (OrderPortal.leg H chainId orderHash history s).Sound := by
    -- the native token of the legs is the one the config names, if there is a config yet
    cases hconfig : s.core.settings.config with
    | none =>
      refine @OrderPortal.legs_of_run _ _ _ _ _ _ _ _ (.contract 0) run ?_
      intro config hc
      rw [hconfig] at hc
      cases hc
    | some config =>
      refine @OrderPortal.legs_of_run _ _ _ _ _ _ _ _ config.wNativeToken run ?_
      intro config' hc
      rw [hconfig] at hc
      cases hc
      exact ⟨hchain config hconfig, rfl⟩
  have hfilled : ∀ l : OrderPortal.Leg, l.Sound →
      l.leaves.count LEAF_DOMAIN_SETTLED ≤ 1 ∧ (LEAF_DOMAIN_SETTLED ∈ l.leaves →
        l.status = .filled ∧ (l.exits = [.cosigned] ∨ l.exits = [.presented])) := by
    intro l h
    unfold OrderPortal.Leg.Sound at h
    cases hstatus : l.status <;> rw [hstatus] at h
    case none | opened | cancelled =>
      obtain ⟨-, hleaves, -⟩ := h
      rw [hleaves]
      exact ⟨by decide, fun hmem => absurd hmem (by decide)⟩
    case filled =>
      rcases h with ⟨-, hleaves, -⟩ | ⟨hexits, hleaves⟩
      · rw [hleaves]
        exact ⟨by decide, fun hmem => absurd hmem (by decide)⟩
      · refine ⟨?_, fun _ => ⟨rfl, hexits⟩⟩
        rw [hleaves]
        cases l.settled <;> decide
    case claimed | disputed | resolved => exact h.elim
  exact ⟨fun orderHash => (hfilled _ (hsound orderHash)).1,
    fun orderHash hmem => (hfilled _ (hsound orderHash)).2 hmem⟩

/-- **Leaf exclusivity.** Over every run of either leg. -/
theorem leaf_exclusivity {X Y : Type} {O : Outside X} {O' : Outside Y} {H H' : Host}
    {outside : X → X → Prop} {outside' : Y → Y → Prop} {x : X} {y : Y} {chainId : U128}
    {history : AdManager.History} {s : AdManager.Chain X}
    {history' : OrderPortal.History} {s' : OrderPortal.Chain Y}
    (run : Run (AdManager.system O H outside) (AdManager.Chain.fresh x) history s)
    (run' : Run (OrderPortal.system O' H' outside') (OrderPortal.Chain.fresh y) history' s')
    (hchain : ∀ config, s'.core.settings.config = some config → config.chainId = chainId) :
    AdLeaves O H outside s ∧ PortalLeaves H' chainId history' s' :=
  ⟨adLeaves_of_run run, portalLeaves_of_run run' hchain⟩

/-! ## A deposit settled by presentation gets its leaf too -/

/-- The sample order's hash. -/
def sampleOrderHash : BytesN32 :=
  0x37fcdb1141fe8260e4abb5066caa8f8da2e70906374e74a739ade58545ba2ba1

/-- The sample deposit, settled on the ad leg's leaf and then recorded. -/
def presentedCalls : List (Env × OrderPortal.Call) :=
  OrderPortal.sampleCalls ++ [.presentSettled OrderPortal.sampleParams 8 [],
    .recordSettled OrderPortal.sampleParams].map fun call => (sampleEnv 2000, call)

def presentedRun : OrderPortal.History × OrderPortal.Chain Bank :=
  (play OrderPortal.sampleSystem presentedCalls []
    (OrderPortal.Chain.fresh OrderPortal.sampleStart)).getD
      ([], OrderPortal.Chain.fresh OrderPortal.sampleStart)

theorem run_presented : Run OrderPortal.sampleSystem
    (OrderPortal.Chain.fresh OrderPortal.sampleStart) presentedRun.1 presentedRun.2 := by
  refine Run.played (by decide +kernel) ?_
  intro t ht s
  rcases List.mem_append.mp ht with ht | ht <;>
    obtain ⟨call, -, rfl⟩ := List.mem_map.mp ht <;> rfl

theorem presented_chainId (config : ContractConfig)
    (h : presentedRun.2.core.settings.config = some config) : config.chainId = 1 := by
  have hconfig : presentedRun.2.core.settings.config
      = some ⟨.account 0x0A, .contract 0x57, .contract 0x58, .contract 0x59, 1⟩ := by
    decide +kernel
  cases Option.some.inj (h.symm.trans hconfig)
  rfl

/-- The sample runs of the two legs. -/
theorem leaf_exclusivity_sample :
    leavesOf sampleOrderHash presentedRun.2.core.leaves
      = [LEAF_DOMAIN_SETTLED, LEAF_DOMAIN_AD] ∧
    AdLeaves Bank.world (sampleHost 0xAD) Bank.gift AdManager.sampleRun.2 ∧
    PortalLeaves (sampleHost 0x50) 1 presentedRun.1 presentedRun.2 :=
  ⟨by decide +kernel, leaf_exclusivity AdManager.run_sample run_presented presented_chainId⟩

/-- A SETTLED leaf does not show that a co-signed unlock filled the deposit. -/
theorem settled_leaf_without_cosign :
    ¬ ∀ (Y : Type) (O : Outside Y) (H : Host) (outside : Y → Y → Prop) (y : Y) (chainId : U128)
      (history : OrderPortal.History) (s : OrderPortal.Chain Y),
      Run (OrderPortal.system O H outside) (OrderPortal.Chain.fresh y) history s →
      (∀ config, s.core.settings.config = some config → config.chainId = chainId) →
      ∀ orderHash, LEAF_DOMAIN_SETTLED ∈ leavesOf orderHash s.core.leaves →
        OrderPortal.exitsOf H chainId orderHash history = [.cosigned] := by
  intro hclaim
  have hcosigned := hclaim Bank Bank.world (sampleHost 0x50) Bank.gift OrderPortal.sampleStart 1
    presentedRun.1 presentedRun.2 run_presented presented_chainId sampleOrderHash (by decide +kernel)
  have hpresented : OrderPortal.exitsOf (sampleHost 0x50) 1 sampleOrderHash presentedRun.1
      = [.presented] := by
    decide +kernel
  rw [hpresented] at hcosigned
  exact absurd hcosigned (by decide)

end TwoLegs
end ProofBridge
