import ProofBridge.AdManager.LedgerRuns
import ProofBridge.KeyRegistry.Model
import ProofBridge.OrderPortal.Safety

/-!
# The key registry's revoke guard

A key may leave only while no escrow holds an open position of its account. The registry asks each
guard contract in turn; the answers are the escrows' counts, so the guard is right exactly because
a count is the number of live orders.
-/

namespace ProofBridge
namespace KeyRegistry

open ContractLib

/-- Guards that all answer report a position exactly when one of them has it. -/
theorem hasOpenPositions_eq {ask : Address → BytesN32 → Option Bool} {account : BytesN32}
    (answer : Address → Bool) {guards : List Address}
    (h : ∀ guard ∈ guards, ask guard account = some (answer guard)) :
    hasOpenPositions ask account guards = .ok (guards.any answer) := by
  induction guards with
  | nil => rfl
  | cons guard guards ih =>
    have hguard := h guard List.mem_cons_self
    have hrest := ih fun g hg => h g (List.mem_cons_of_mem _ hg)
    rw [hasOpenPositions, Check.bind_ok]
    refine ⟨answer guard, by simp [hguard], ?_⟩
    cases hanswer : answer guard
    · simp [hrest, hanswer]
    · simp [hanswer, pure, Except.pure]

/-- The guard lets a key go exactly when there are guards and none of them has a position. -/
theorem requireNoOpenPositions_ok {ask : Address → BytesN32 → Option Bool} {account : BytesN32}
    (answer : Address → Bool) {guards : List Address}
    (h : ∀ guard ∈ guards, ask guard account = some (answer guard)) :
    requireNoOpenPositions ask (some guards) account = .ok () ↔
      guards ≠ [] ∧ ∀ guard ∈ guards, answer guard = false := by
  simp only [requireNoOpenPositions, Option.getD_some, hasOpenPositions_eq answer h,
    Check.bind_ok, Check.require_ok]
  constructor
  · rintro ⟨_, hne, a, ha, hnone⟩
    cases ha
    refine ⟨hne, fun guard hguard => ?_⟩
    have hany := List.any_eq_false.mp hnone guard hguard
    simpa using hany
  · rintro ⟨hne, hnone⟩
    refine ⟨(), hne, _, rfl, ?_⟩
    rw [List.any_eq_false]
    intro guard hguard
    simp [hnone guard hguard]

/-- How the two escrows of one chain answer the registry. -/
def escrowAnswers {X Y : Type} (Ha Hp : Host) (a : AdManager.Chain X) (p : OrderPortal.Chain Y)
    (guard : Address) (account : BytesN32) : Option Bool :=
  if guard = Ha.address then some (AdManager.hasOpenPositions account a)
  else if guard = Hp.address then some (OrderPortal.hasOpenPositions account p)
  else none

section Counts

variable {X Y : Type} {Oa : Outside X} {Op : Outside Y} {Ha Hp : Host}
  {aroundAd : X → X → Prop} {aroundPortal : Y → Y → Prop} {a : AdManager.Chain X}
  {p : OrderPortal.Chain Y} {x : X} {y : Y} {adHistory : AdManager.History}
  {portalHistory : OrderPortal.History}

/-- The AdManager's count of an account is the number of live orders it signs for. -/
theorem adManager_counts {chainId : U128} {known : List AdManager.OrderParams}
    (run : Run (AdManager.system Oa Ha aroundAd) (AdManager.Chain.fresh x) adHistory a)
    (hchain : ∀ config, a.core.settings.config = some config → config.chainId = chainId)
    (hfree : AdManager.CollisionFree Ha chainId known)
    (hknown : AdManager.ordersOf adHistory ⊆ known) (account : BytesN32) :
    a.core.ledger.getInFlight account = (AdManager.book adHistory).countP fun e =>
      a.live e.1 && decide (e.2.adSettlementSigner = account) := by
  have hlocks := AdManager.locks_of_run run hchain hfree hknown
  rw [hlocks.counted account]
  exact liveTotal_eq_countP a.live (fun params => decide (params.adSettlementSigner = account))
    (AdManager.book adHistory)

/-- The portal's count of an account is the number of open orders it bridges. -/
theorem orderPortal_counts {chainId : U128} {wNative : Address}
    {known : List OrderPortal.OrderParams}
    (run : Run (OrderPortal.system Op Hp aroundPortal) (OrderPortal.Chain.fresh y) portalHistory p)
    (hconfig : ∀ config, p.core.settings.config = some config →
      config.chainId = chainId ∧ config.wNativeToken = wNative)
    (hfree : OrderPortal.CollisionFree Hp chainId known)
    (hknown : OrderPortal.ordersOf portalHistory ⊆ known) (account : BytesN32) :
    p.core.ledger.getInFlight account = (OrderPortal.book portalHistory).countP fun e =>
      p.holds e.1 && decide (e.2.bridger = account) := by
  have hdeposits := OrderPortal.deposits_of_run run hconfig hfree hknown
  rw [hdeposits.counted account]
  exact liveTotal_eq_countP p.holds (fun params => decide (params.bridger = account))
    (OrderPortal.book portalHistory)

/-- **In-flight counters.** In every reachable state of either escrow an account's count is the
number of its live orders, no exit underflows it, and the registry's guard lets a key go exactly
when neither escrow holds a live order of its account. -/
theorem in_flight_counts {chainA chainP : U128} {wNative : Address}
    {knownA : List AdManager.OrderParams} {knownP : List OrderPortal.OrderParams}
    (runA : Run (AdManager.system Oa Ha aroundAd) (AdManager.Chain.fresh x) adHistory a)
    (hchain : ∀ config, a.core.settings.config = some config → config.chainId = chainA)
    (hfreeA : AdManager.CollisionFree Ha chainA knownA)
    (hknownA : AdManager.ordersOf adHistory ⊆ knownA)
    (runP : Run (OrderPortal.system Op Hp aroundPortal) (OrderPortal.Chain.fresh y) portalHistory p)
    (hconfig : ∀ config, p.core.settings.config = some config →
      config.chainId = chainP ∧ config.wNativeToken = wNative)
    (hfreeP : OrderPortal.CollisionFree Hp chainP knownP)
    (hknownP : OrderPortal.ordersOf portalHistory ⊆ knownP) :
    (∀ account, a.core.ledger.getInFlight account = (AdManager.book adHistory).countP fun e =>
      a.live e.1 && decide (e.2.adSettlementSigner = account)) ∧
    (∀ account, p.core.ledger.getInFlight account = (OrderPortal.book portalHistory).countP fun e =>
      p.holds e.1 && decide (e.2.bridger = account)) ∧
    (∀ account, AdManager.hasOpenPositions account a = true ↔
      ∃ e ∈ AdManager.book adHistory, a.live e.1 = true ∧ e.2.adSettlementSigner = account) ∧
    (∀ account, OrderPortal.hasOpenPositions account p = true ↔
      ∃ e ∈ OrderPortal.book portalHistory, p.holds e.1 = true ∧ e.2.bridger = account) ∧
    (∀ env call, (∀ params, call.params? = some params → params ∈ knownA) →
      Tx.Safe .underflow (AdManager.exec Oa Ha env call) a) ∧
    (∀ env call, (∀ params, call.params? = some params → params ∈ knownP) →
      Tx.Safe .underflow (OrderPortal.exec Op Hp env call) p) ∧
    ∀ account guards, Ha.address ∈ guards → Hp.address ∈ guards → Ha.address ≠ Hp.address →
      (∀ guard ∈ guards, guard = Ha.address ∨ guard = Hp.address) →
      (requireNoOpenPositions (escrowAnswers Ha Hp a p) (some guards) account = .ok () ↔
        (∀ e ∈ AdManager.book adHistory, e.2.adSettlementSigner = account → a.live e.1 = false) ∧
        ∀ e ∈ OrderPortal.book portalHistory, e.2.bridger = account → p.holds e.1 = false) := by
  have hcountA := adManager_counts runA hchain hfreeA hknownA
  have hcountP := orderPortal_counts runP hconfig hfreeP hknownP
  have hposA : ∀ account, AdManager.hasOpenPositions account a = true ↔
      ∃ e ∈ AdManager.book adHistory, a.live e.1 = true ∧ e.2.adSettlementSigner = account := by
    intro account
    unfold AdManager.hasOpenPositions
    rw [decide_eq_true_iff, hcountA account, List.countP_pos_iff]
    simp
  have hposP : ∀ account, OrderPortal.hasOpenPositions account p = true ↔
      ∃ e ∈ OrderPortal.book portalHistory, p.holds e.1 = true ∧ e.2.bridger = account := by
    intro account
    unfold OrderPortal.hasOpenPositions
    rw [decide_eq_true_iff, hcountP account, List.countP_pos_iff]
    simp
  refine ⟨hcountA, hcountP, hposA, hposP, fun env call hparams => ?_, fun env call hparams => ?_,
    fun account guards hadA hadP hne hwired => ?_⟩
  · have hlocks := AdManager.locks_of_run runA hchain hfreeA hknownA
    exact AdManager.exec_safe hlocks (AdManager.sound_of_run runA) hchain hfreeA
      (fun e he => hknownA (AdManager.mem_ordersOf_of_mem_book he)) hparams
  · have hdeposits := OrderPortal.deposits_of_run runP hconfig hfreeP hknownP
    exact OrderPortal.exec_safe hdeposits (OrderPortal.sound_of_run runP)
      (fun config hc => (hconfig config hc).1) hfreeP
      (fun e he => hknownP (OrderPortal.mem_ordersOf_of_mem_book he)) hparams
  · -- every wired guard answers with its own count
    have hanswers : ∀ guard ∈ guards, escrowAnswers Ha Hp a p guard account = some
        (if guard = Ha.address then AdManager.hasOpenPositions account a
          else OrderPortal.hasOpenPositions account p) := by
      intro guard hguard
      unfold escrowAnswers
      rcases hwired guard hguard with rfl | rfl
      · simp
      · simp [Ne.symm hne]
    rw [requireNoOpenPositions_ok _ hanswers]
    constructor
    · rintro ⟨-, hnone⟩
      refine ⟨fun e he hmine => ?_, fun e he hmine => ?_⟩
      · have hno := hnone _ hadA
        rw [if_pos rfl] at hno
        by_contra hlive
        rw [Bool.not_eq_false] at hlive
        rw [(hposA account).mpr ⟨e, he, hlive, hmine⟩] at hno
        cases hno
      · have hno := hnone _ hadP
        rw [if_neg (Ne.symm hne)] at hno
        by_contra hlive
        rw [Bool.not_eq_false] at hlive
        rw [(hposP account).mpr ⟨e, he, hlive, hmine⟩] at hno
        cases hno
    · rintro ⟨hnoA, hnoP⟩
      refine ⟨List.ne_nil_of_mem hadA, fun guard hguard => ?_⟩
      by_contra hyes
      rw [Bool.not_eq_false] at hyes
      split at hyes
      · obtain ⟨e, he, hlive, hmine⟩ := (hposA account).mp hyes
        rw [hnoA e he hmine] at hlive
        cases hlive
      · obtain ⟨e, he, hlive, hmine⟩ := (hposP account).mp hyes
        rw [hnoP e he hmine] at hlive
        cases hlive

end Counts

/-- The sample order is counted on both legs, so the guard keeps its maker's key. -/
theorem in_flight_counts_sample :
    AdManager.sampleRun.2.core.ledger.getInFlight 0x3A = 1 ∧
    OrderPortal.sampleRun.2.core.ledger.getInFlight 0xB1 = 1 ∧
    (∃ e ∈ AdManager.book AdManager.sampleRun.1, AdManager.sampleRun.2.live e.1 = true ∧
      e.2.adSettlementSigner = 0x3A) ∧
    requireNoOpenPositions
      (escrowAnswers (sampleHost 0xAD) (sampleHost 0x50) AdManager.sampleRun.2
        OrderPortal.sampleRun.2)
      (some [.contract 0x50, .contract 0xAD]) 0x3A ≠ .ok () := by
  have hcounts := in_flight_counts AdManager.run_sample
    (fun config h => (AdManager.sample_config config h).1) AdManager.sample_collisionFree
    AdManager.sample_orders OrderPortal.run_sample OrderPortal.sample_config
    OrderPortal.sample_collisionFree OrderPortal.sample_orders
  have hopen := (hcounts.2.2.1 0x3A).mp (by decide +kernel)
  refine ⟨by decide +kernel, by decide +kernel, hopen, fun hgone => ?_⟩
  obtain ⟨e, he, hlive, hsigner⟩ := hopen
  have hdead := ((hcounts.2.2.2.2.2.2 0x3A [.contract 0x50, .contract 0xAD] (by decide) (by decide)
    (by decide) (by decide)).mp hgone).1 e he hsigner
  rw [hlive] at hdead
  cases hdead

end KeyRegistry
end ProofBridge
