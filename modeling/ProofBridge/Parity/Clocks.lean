import ProofBridge.Disputes.Instants
import ProofBridge.Evm.AdLegClocks
import ProofBridge.Evm.OrderLeg
import ProofBridge.OrderPortal.Cutoffs

/-!
# The clocks of both chains

The same instants are computed with saturating, checked and narrowed arithmetic, in five contracts,
from values bounded in three places. On both chains and both legs they are the exact ones from every
admission on; a ruling past the end of 64-bit time is what the bounds do not exclude.
-/

namespace ProofBridge
namespace Parity

open ContractLib

/-- **The clocks.** From every lock and every create on, in every run whose rulings are made before
`2 ^ 63`, no instant of the order overflows, underflows or is cut; the order leg's co-signed window
is not empty, and the ad leg's lasts half a buffer past the deadline. -/
theorem clocks_exact :
    (∀ hash, Evm.AdLeg.LocksExact hash (2 ^ 63)) ∧
    (∀ {X : Type} (P : Evm.Primitives) (W : Evm.OrderPortal.World X) chainId this,
      Evm.OrderLeg.CreatesExact P W chainId this) ∧
    (∀ {R : Type} (O : Outside R) H outside, Disputes.Capped O →
      Disputes.LocksExact O H outside (2 ^ 63)) ∧
    (∀ {X : Type} (O : Outside X) H outside, OrderPortal.CreatesExact O H outside) := by
  refine ⟨fun hash => Evm.AdLeg.locks_exact (le_refl _), ?_, ?_, ?_⟩
  · intro X P W chainId this
    exact Evm.OrderLeg.creates_exact
  · intro R O H outside hcapped
    exact Disputes.locks_exact hcapped (le_refl _)
  · intro X O H outside
    exact OrderPortal.creates_exact

/-- Where rulings may be made at any time the EVM can count, one of them has no deadline. -/
theorem clocks_overrun : ¬∀ hash, Evm.AdLeg.LocksExact hash (2 ^ 256) :=
  fun h => Evm.AdLeg.rulings_overrun (h _)

/-! ## The samples' orders -/

theorem bank_capped : Disputes.Capped Bank.world := by
  intro w anchor chainId delay h
  rw [← Option.some.inj h]
  exact Nat.zero_le _

/-- The EVM sample's order, disputed, may be unlocked until 94000, where its Soroban twin may too;
the deposit of the order leg until 7600. -/
theorem clocks_exact_sample :
    Evm.AdLeg.sampleDisputed.presentationCutoff 1 Evm.AdLeg.sampleParams = .ok 94000 ∧
    AdManager.presentationCutoff Disputes.sampleOrderHash AdManager.sampleParams
      ⟨3600, 86400, 600, 600⟩ (Disputes.sampleAfter Disputes.sampleLock Disputes.sampleReady.2)
        = 94000 := by
  obtain ⟨hevm, -, hsoroban, -⟩ := clocks_exact
  constructor
  · have hfiled : Run (Evm.AdLeg.system Evm.AdLeg.sampleHash) Evm.AdLeg.sampleLocked
        [((Evm.AdLeg.sampleAt 1001, .dispute Evm.AdLeg.sampleParams), ())]
        Evm.AdLeg.sampleDisputed := Run.accepted .start trivial Evm.AdLeg.sampleDisputed_ok
    have hsame : ∀ e ∈ [((Evm.AdLeg.sampleAt 1001, Evm.AdLeg.Call.dispute Evm.AdLeg.sampleParams),
        ())], ∀ q, e.1.2.params? = some q →
        Evm.AdLeg.sampleHash q = Evm.AdLeg.sampleHash Evm.AdLeg.sampleParams →
        q = Evm.AdLeg.sampleParams := by
      intro e he q hq _
      obtain rfl := List.mem_singleton.mp he
      exact (Option.some.inj hq).symm
    have hquiet : ∀ e ∈ [((Evm.AdLeg.sampleAt 1001, Evm.AdLeg.Call.dispute Evm.AdLeg.sampleParams),
        ())], e.1.2.ruling = true → e.1.1.now < 2 ^ 63 := by
      intro e he hruling
      obtain rfl := List.mem_singleton.mp he
      cases hruling
    obtain ⟨t, ht, -, hclocks, -⟩ := hevm _ Evm.AdLeg.run_sampleReadied (by decide +kernel)
      Evm.AdLeg.sampleLocked_ok hfiled hsame hquiet
    have htiming : t = ⟨3600, 86400, 600, 0⟩ := by
      rw [ht]
      decide +kernel
    subst htiming
    exact hclocks.presentationCutoff
  · have hlocked := @Disputes.sampleAfter_ok Disputes.sampleLock Disputes.sampleReady.2
      (.escrow (.order Disputes.sampleOrderHash)) (by decide +kernel)
    have hconfig : Disputes.sampleReady.2.core.settings.config
        = some ⟨.account 0x0A, .contract 0x77, .contract 0x78, .contract 0x79, 2⟩ := by
      decide +kernel
    have hhash : AdManager.hashOrder (sampleHost 0xAD) AdManager.sampleParams 2
        = .ok Disputes.sampleOrderHash := by
      decide +kernel
    obtain ⟨version, t, delay, hcurrent, -, -, hclocks, -⟩ :=
      hsoroban Bank.world (sampleHost 0xAD) Bank.gift bank_capped Disputes.run_sampleReady rfl
        (by decide +kernel) hconfig hlocked hhash .start AdManager.sample_collisionFree
        (fun e he => by cases he)
    have hcurrent' : Escrow.currentTiming AdManager.sampleParams.orderChainId
        Disputes.sampleReady.2.core = .ok (1, ⟨3600, 86400, 600, 600⟩) := by
      decide +kernel
    rw [hcurrent'] at hcurrent
    cases hcurrent
    exact hclocks.presentationCutoff

end Parity
end ProofBridge
