import ProofBridge.DisputeManager.Solvency
import ProofBridge.Disputes.Touch

/-!
# Escrow and module agree on every dispute

Two contracts keep two halves of one fact and are administered apart: the escrow says an order is
disputed, and the module it was filed with keeps the record and the bond. `Agreement` holds in every
reachable state, so a dispute never outlives its record, and a record never its dispute.
-/

namespace ProofBridge
namespace Disputes

open ContractLib
open AdManager (AdManagerError)
open DisputeManager (DisputeManagerError)

variable {R : Type} {O : Outside R} {H : Host} {env : Env} {s s' : Chain R}
  {outside : R → R → Prop}

/-! ## One call -/

theorem record_of_modules {w w' : World R} {id : BytesN32} {state : DisputeManager.State}
    (h : w'.modules = w.modules.set id state) (id' orderHash : BytesN32) :
    w'.record id' orderHash
      = if id' = id then state.getDispute orderHash else w.record id' orderHash := by
  unfold World.record
  rw [h, Map.get?_set]
  split <;> rfl

theorem record_of_state {w : World R} {id : BytesN32} {state : DisputeManager.State}
    (h : w.modules.get? id = some state) (orderHash : BytesN32) :
    w.record id orderHash = state.getDispute orderHash := by
  unfold World.record
  rw [h]
  rfl

theorem escrow_of_stake {d d' : DisputeRecord}
    (h : DisputeManager.stake d' = DisputeManager.stake d) : d'.escrow = d.escrow := by
  simp only [DisputeManager.stake, Prod.mk.injEq] at h
  exact h.2.2.2.1

/-- Two worlds with the same stakes have this escrow's records for the same orders. -/
theorem own_of_stake {o o' : Option DisputeRecord} {self : Address}
    (h : o'.map DisputeManager.stake = o.map DisputeManager.stake ∨
      (∀ d, o = some d → d.escrow ≠ self) ∧ ∀ d, o' = some d → d.escrow ≠ self) :
    (∃ d, o' = some d ∧ d.escrow = self) ↔ ∃ d, o = some d ∧ d.escrow = self := by
  rcases h with h | ⟨hno, hno'⟩
  · constructor
    · rintro ⟨d, rfl, hd⟩
      obtain ⟨d', ho, hstake⟩ := Option.map_eq_some_iff.mp h.symm
      exact ⟨d', ho, (escrow_of_stake hstake).trans hd⟩
    · rintro ⟨d, rfl, hd⟩
      obtain ⟨d', ho, hstake⟩ := Option.map_eq_some_iff.mp h
      exact ⟨d', ho, (escrow_of_stake hstake).trans hd⟩
  · constructor
    · rintro ⟨d, ho, hd⟩
      exact absurd hd (hno' d ho)
    · rintro ⟨d, ho, hd⟩
      exact absurd hd (hno d ho)

/-- This escrow's record of an order, in the module `id`. -/
def World.Owns (w : World R) (self : Address) (id orderHash : BytesN32) : Prop :=
  ∃ d, w.record id orderHash = some d ∧ d.escrow = self

/-- What the disputes of the escrow are, where they are. -/
theorem Agreement.of_owns (h : Agreement H s)
    (howns : ∀ id orderHash, s'.core.outside.Owns H.address id orderHash ↔
      s.core.outside.Owns H.address id orderHash)
    (hmanagers : s'.core.ledger.disputeManagers = s.core.ledger.disputeManagers)
    (hdisputed : ∀ k, s'.core.ledger.status k = .disputed ↔ s.core.ledger.status k = .disputed)
    (hfree : ∀ k, AdManager.Leg.Free (AdManager.leg k s'))
    (hwired : ∀ id state, s'.core.outside.modules.get? id = some state → state.Wired) :
    Agreement H s' where
  held orderHash hstatus := by
    obtain ⟨id, d, hmanager, hrecord, hescrow⟩ := h.held orderHash ((hdisputed orderHash).mp hstatus)
    obtain ⟨d', hrecord', hescrow'⟩ := (howns id orderHash).mpr ⟨d, hrecord, hescrow⟩
    exact ⟨id, d', by rw [hmanagers]; exact hmanager, hrecord', hescrow'⟩
  only id orderHash d hrecord hescrow := by
    obtain ⟨d', hrecord', hescrow'⟩ := (howns id orderHash).mp ⟨d, hrecord, hescrow⟩
    obtain ⟨hstatus, hmanager⟩ := h.only id orderHash d' hrecord' hescrow'
    exact ⟨(hdisputed orderHash).mpr hstatus, by rw [hmanagers]; exact hmanager⟩
  free := hfree
  wired := hwired

theorem wired_of_modules {w w' : World R} {id : BytesN32} {state : DisputeManager.State}
    (hmodules : w'.modules = w.modules.set id state) (hstate : state.Wired)
    (h : ∀ id state, w.modules.get? id = some state → state.Wired) :
    ∀ id state, w'.modules.get? id = some state → state.Wired := by
  intro id' state' hget
  rw [hmodules, Map.get?_set] at hget
  split at hget
  · cases hget
    exact hstate
  · exact h id' state' hget

/-- A call somebody else makes to a module leaves this escrow's records where they are. -/
theorem owns_of_direct {w w' : World R} {id : BytesN32} {call : DisputeManager.Call}
    {ret : DisputeManager.Ret} {state : DisputeManager.State} {c : DisputeManager.Chain R} {rest : R}
    (hself : env.authorized H.address = false) (hstate : w.modules.get? id = some state)
    (hstep : DisputeManager.Step O.toTokens (hostAt H id) env { state, outside := rest } call ret c)
    (hmodules : w'.modules = w.modules.set id c.state) (id' orderHash : BytesN32) :
    w'.Owns H.address id' orderHash ↔ w.Owns H.address id' orderHash := by
  apply own_of_stake
  rw [record_of_modules hmodules]
  split
  · next heq =>
    rw [heq, record_of_state hstate]
    exact DisputeManager.stake_of_foreign hself hstep orderHash
  · exact .inl rfl

/-- A module's turn for one order leaves the records of every other order where they are. -/
theorem owns_of_moved {id orderHash : BytesN32} {call : DisputeManager.Call}
    (hmoved : Moved O H env id call s s') (hfiles : call.files orderHash = false)
    (hcloses : call.closes orderHash = false) (id' : BytesN32) :
    s'.core.outside.Owns H.address id' orderHash ↔ s.core.outside.Owns H.address id' orderHash := by
  obtain ⟨hstate, hstep, hmodules⟩ := hmoved
  apply own_of_stake
  rw [record_of_modules hmodules]
  split
  · next heq =>
    rw [heq, record_of_state hstate]
    refine .inl ?_
    cases DisputeManager.recordStep_of_step hstep orderHash with
    | filed hcall =>
      rw [hfiles] at hcall
      cases hcall
    | closed hcall =>
      rw [hcloses] at hcall
      cases hcall
    | kept _ _ hstake => exact hstake
  · exact .inl rfl

/-- An escrow call keeps the agreement. -/
theorem Agreement.touched {call : AdManager.Call} (h : Agreement H s)
    (htouch : Touch O H env call s s')
    (hfree : ∀ k, AdManager.Leg.Free (AdManager.leg k s')) : Agreement H s' := by
  cases htouch with
  | apart hcall hmodules hmanagers hdisputed =>
    refine h.of_owns (fun id orderHash => ?_) hmanagers hdisputed hfree ?_
    · unfold World.Owns World.record
      rw [hmodules]
    · rw [hmodules]
      exact h.wired
  | @responded id response params config ad hcall hconfig hhash had hparty hbefore hmanager hescrow
      hmoved hmanagers hdisputed =>
    refine h.of_owns (fun id' orderHash => owns_of_moved hmoved rfl rfl id') hmanagers hdisputed
      hfree ?_
    obtain ⟨hstate, hstep, hmodules⟩ := hmoved
    exact wired_of_modules hmodules ((h.wired _ _ hstate).step hstep) h.wired
  | @filed id filing params config t hcall hparams hconfig hhash htiming hdeadline hbuffer hnew
      hescrow hmoved hmanagers hdisputed =>
    have hothers : ∀ orderHash, orderHash ≠ filing.orderHash → ∀ id',
        s'.core.outside.Owns H.address id' orderHash ↔ s.core.outside.Owns H.address id' orderHash :=
      fun orderHash hne => owns_of_moved hmoved (decide_eq_false (Ne.symm hne)) rfl
    obtain ⟨hstate, hstep, hmodules⟩ := hmoved
    obtain ⟨hnone, p, token, bond, deadline, -, -, hopened⟩ := DisputeManager.filed_of_step hstep
    have hrecord := record_of_modules hmodules
    refine ⟨fun orderHash hstatus => ?_, fun id' orderHash d hd hd' => ?_, hfree,
      wired_of_modules hmodules ((h.wired _ _ hstate).step hstep) h.wired⟩
    · by_cases heq : orderHash = filing.orderHash
      · subst heq
        have hrecord' := hrecord id filing.orderHash
        rw [if_pos rfl, hopened] at hrecord'
        refine ⟨id, _, ?_, hrecord', hescrow⟩
        rw [hmanagers, Map.get?_set_self]
      · obtain ⟨id', d, hmanager, howns⟩ :=
          h.held orderHash (((hdisputed orderHash).mp hstatus).resolve_left heq)
        obtain ⟨d', hd', hescrow'⟩ := (hothers orderHash heq id').mpr ⟨d, howns⟩
        refine ⟨id', d', ?_, hd', hescrow'⟩
        rw [hmanagers, Map.get?_set_ne heq]
        exact hmanager
    · by_cases heq : orderHash = filing.orderHash
      · subst heq
        by_cases hid : id' = id
        · subst hid
          refine ⟨(hdisputed _).mpr (.inl rfl), ?_⟩
          rw [hmanagers, Map.get?_set_self]
        · -- the escrow had no record of an order it does not dispute
          rw [hrecord, if_neg hid] at hd
          have hstatus := (h.only id' _ d hd hd').1
          rcases hnew with hnew | hnew <;> rw [hnew] at hstatus <;> cases hstatus
      · obtain ⟨d₀, hd₀, hescrow₀⟩ := (hothers orderHash heq id').mp ⟨d, hd, hd'⟩
        obtain ⟨hstatus, hmanager⟩ := h.only id' orderHash d₀ hd₀ hescrow₀
        refine ⟨(hdisputed _).mpr (.inr hstatus), ?_⟩
        rw [hmanagers, Map.get?_set_ne heq]
        exact hmanager
  | @closed id settlement hcall hbefore hmanager hescrow hmoved hmanagers hdisputed =>
    have hothers : ∀ orderHash, orderHash ≠ settlement.orderHash → ∀ id',
        s'.core.outside.Owns H.address id' orderHash ↔ s.core.outside.Owns H.address id' orderHash :=
      fun orderHash hne => owns_of_moved hmoved rfl (decide_eq_false (Ne.symm hne))
    obtain ⟨hstate, hstep, hmodules⟩ := hmoved
    obtain ⟨d, payee, hleft⟩ := DisputeManager.bondLeft_of_step hstep
    have hrecord := record_of_modules hmodules
    refine ⟨fun orderHash hstatus => ?_, fun id' orderHash d₁ hd₁ hescrow₁ => ?_, hfree,
      wired_of_modules hmodules ((h.wired _ _ hstate).step hstep) h.wired⟩
    · obtain ⟨hne, hstatus⟩ := (hdisputed orderHash).mp hstatus
      obtain ⟨id', d₁, hmanager₁, howns⟩ := h.held orderHash hstatus
      obtain ⟨d₂, hd₂, hescrow₂⟩ := (hothers orderHash hne id').mpr ⟨d₁, howns⟩
      exact ⟨id', d₂, by rw [hmanagers]; exact hmanager₁, hd₂, hescrow₂⟩
    · by_cases heq : orderHash = settlement.orderHash
      · subst heq
        by_cases hid : id' = id
        · subst hid
          rw [hrecord, if_pos rfl, hleft.gone] at hd₁
          cases hd₁
        · -- the record was in the module the order named, and in no other
          rw [hrecord, if_neg hid] at hd₁
          have hmanager₁ := (h.only id' _ d₁ hd₁ hescrow₁).2
          rw [hmanager] at hmanager₁
          cases hmanager₁
          exact absurd rfl hid
      · obtain ⟨d₀, hd₀, hescrow₀⟩ := (hothers orderHash heq id').mp ⟨d₁, hd₁, hescrow₁⟩
        obtain ⟨hstatus, hmanager₀⟩ := h.only id' orderHash d₀ hd₀ hescrow₀
        exact ⟨(hdisputed _).mpr ⟨heq, hstatus⟩, by rw [hmanagers]; exact hmanager₀⟩

/-! ## Every run -/

theorem agreement_of_start (rest : R) : Agreement H (start rest) where
  held orderHash hstatus := by cases hstatus
  only id orderHash d hrecord := by cases hrecord
  free orderHash hstatus := rfl
  wired id state hget := by cases hget

/-- Deploying a module, or anything else around the two contracts, keeps the agreement. -/
theorem Agreement.around (h : Agreement H s) (hmoved : (system O H outside).outside s s') :
    Agreement H s' := by
  obtain ⟨w, rfl, ⟨rest, -, rfl⟩ | ⟨id, hnew, rfl⟩⟩ := hmoved
  · exact ⟨h.held, h.only, h.free, h.wired⟩
  · refine h.of_owns (fun id' orderHash => ?_) rfl (fun _ => Iff.rfl) h.free
      (wired_of_modules rfl DisputeManager.State.wired_fresh h.wired)
    have hbefore : s.core.outside.record id orderHash = none := by
      unfold World.record
      rw [hnew]
      rfl
    unfold World.Owns
    rw [record_of_modules (w := s.core.outside) rfl]
    split
    · next heq =>
      rw [heq, hbefore]
      exact Iff.rfl
    · exact Iff.rfl

theorem Agreement.step {call : Call} {ret : Ret} (h : Agreement H s)
    (hself : env.authorized H.address = false) (hstep : Step O H env s call ret s') :
    Agreement H s' := by
  cases hstep with
  | escrow hescrow =>
    exact h.touched (touch_of_step h hescrow) fun k =>
      (AdManager.legStep_of_step hescrow k).free (h.free k)
  | @module id call ret state c hstate hmodule =>
    refine h.of_owns (owns_of_direct hself hstate hmodule rfl) rfl (fun _ => Iff.rfl) h.free ?_
    exact wired_of_modules rfl ((h.wired _ _ hstate).step hmodule) h.wired

theorem agreement_of_run {rest : R} {history : History}
    (run : Run (system O H outside) (start rest) history s) : Agreement H s := by
  refine run.invariant (I := fun _ s => Agreement H s) (agreement_of_start rest) ?_ ?_
  · intro history s t ret s' _ h hself ok
    exact h.step hself (step_of_exec ok)
  · intro history s s' _ h hmoved
    exact h.around hmoved

/-- A module is wired, the sample order is locked, and its maker disputes it. -/
def sampleCalls : List (Env × Call) :=
  ([.initializeContract (.account 0x0A) (.contract 0x79), .setEscrow (.contract 0xAD) true,
    .setDisputeParams 1 { challengePeriod := 3600, bondFloor := 1000 },
    .setArbiter (.account 0x0A), .setProtocolFeePool (.account 0xFE)].map fun call =>
      (sampleEnv 1000, .module 0xD1 call)) ++
  (AdManager.sampleCalls.map fun t => (t.1, .escrow t.2)) ++
  ([.setDisputeManager (.contract 0xD1),
    .dispute AdManager.sampleParams (.account 0x3A) 5].map fun call =>
      (sampleEnv 1000, .escrow call))

abbrev sampleSystem :
    System (AdManagerError ⊕ DisputeManagerError) (Chain Bank) (Env × Call) Ret :=
  system Bank.world (sampleHost 0xAD) Bank.gift

/-- The escrow and one module, just deployed. -/
def sampleStart : Chain Bank :=
  AdManager.Chain.fresh
    { modules := (∅ : Map BytesN32 DisputeManager.State).set 0xD1 .fresh
      rest := Bank.endowed 1000000 (.contract 0xAD) }

theorem run_sampleStart :
    Run sampleSystem (start (Bank.endowed 1000000 (.contract 0xAD))) [] sampleStart :=
  .outside .start ⟨_, rfl, .inr ⟨0xD1, rfl, rfl⟩⟩

def sampleRun : History × Chain Bank :=
  (play sampleSystem sampleCalls [] sampleStart).getD ([], sampleStart)

theorem sampleCalls_admitted (t : Env × Call) (ht : t ∈ sampleCalls) (s : Chain Bank) :
    sampleSystem.admits s t := by
  simp only [sampleCalls, AdManager.sampleCalls, List.map_map, List.mem_append,
    List.mem_map] at ht
  rcases ht with (⟨call, -, rfl⟩ | ⟨call, -, rfl⟩) | ⟨call, -, rfl⟩ <;> rfl

theorem run_sample :
    Run sampleSystem (start (Bank.endowed 1000000 (.contract 0xAD))) sampleRun.1 sampleRun.2 := by
  have hplayed : Run sampleSystem sampleStart sampleRun.1 sampleRun.2 :=
    Run.played (by decide +kernel) sampleCalls_admitted
  simpa using run_sampleStart.trans hplayed

/-- The sample order's hash. -/
def sampleOrderHash : BytesN32 :=
  0x37fcdb1141fe8260e4abb5066caa8f8da2e70906374e74a739ade58545ba2ba1

end Disputes
end ProofBridge
