import ProofBridge.Evm.RegistrySlots
import ProofBridge.KeyRegistry.Slots

/-!
# The slots of both registries

One account's slots as either registry tells them: what is live, what is recorded, and what was ever
registered. The same law holds of them on both chains, and pruning drops the same slots.
-/

namespace ProofBridge
namespace Parity

open ContractLib
open KeyRegistry (FarPast)

/-- One account's slots, on either chain. -/
structure SlotView where
  live : List U32
  next : ℕ
  /-- A slot record is stored under the id. -/
  recorded : U32 → Prop
  /-- Every key that ever entered a slot, by either path, and the id it was given. -/
  registered : List (BytesN32 × U32)

namespace SlotView

structure Sound (v : SlotView) : Prop where
  few : v.live.length ≤ 5
  nodup : v.live.Nodup
  below : ∀ id ∈ v.live, id.toNat < v.next
  recorded : ∀ id, v.recorded id ↔ id ∈ v.live
  ids : (v.registered.map Prod.snd).Nodup
  keys : (v.registered.map Prod.fst).Nodup

/-- `kept` is what pruning leaves of the live slots: each one that is not far past its expiry, once,
and a record for no other. -/
structure Pruned (v : SlotView) (now : ℕ) (atOnce : Bool) (expiry : U32 → ℕ) (kept : List U32)
    (recorded : U32 → Prop) : Prop where
  live : kept.Perm (v.live.filter fun id => ¬FarPast now atOnce (expiry id))
  recorded : ∀ id, recorded id ↔ id ∈ kept

end SlotView

section Soroban

variable {Y : Type} {N : KeyRegistry.Neighbors Y} {H : KeyHost} {outside : Y → Y → Prop} {y : Y}
  {history : KeyRegistry.History} {c c' : KeyRegistry.Chain Y} {account : BytesN32} {env : Env}

def viewOfSoroban (H : KeyHost) (account : BytesN32) (history : KeyRegistry.History)
    (c : KeyRegistry.Chain Y) : SlotView where
  live := (c.keys.getEntry account).live
  next := (c.keys.getEntry account).nextSlotId.toNat
  recorded id := (c.keys.getSlot account id).isSome = true
  registered := KeyRegistry.registrations H.toHost account history

theorem sound_soroban
    (run : Run (KeyRegistry.system N H outside) (KeyRegistry.Chain.fresh y) history c) :
    (viewOfSoroban H account history c).Sound := by
  have hsound := KeyRegistry.sound_of_run run account
  have hissued := KeyRegistry.registered_of_run run account
  exact ⟨hsound.few, hsound.nodup, hsound.below, hsound.stored, hissued.ids, hissued.names⟩

theorem pruned_soroban
    (run : Run (KeyRegistry.system N H outside) (KeyRegistry.Chain.fresh y) history c)
    {entry : KeyRegistry.RegistryEntry}
    (ok : KeyRegistry.prune N env account (c.keys.getEntry account) c = .ok (entry, c')) :
    ∃ atOnce, KeyRegistry.pruneAtOnce N account c = .ok atOnce ∧
      (viewOfSoroban H account history c).Pruned env.now atOnce (c.keys.expiredAt account)
        entry.live fun id => (c'.keys.getSlot account id).isSome = true := by
  have hsound := KeyRegistry.sound_of_run run account
  obtain ⟨atOnce, hatOnce, hlive, hslots⟩ := KeyRegistry.prune_exact hsound ok
  refine ⟨atOnce, hatOnce, ⟨List.Perm.of_eq hlive, ?_⟩⟩
  intro id
  rw [hslots, hlive, List.mem_filter]
  split
  · next hpast => simp [hpast]
  · next hpast =>
    rw [hsound.stored]
    simp [hpast]

end Soroban

section Evm

variable {Y : Type} {N : Evm.KeyRegistry.Neighbors Y} {H : Evm.KeyRegistry.Host}
  {outside : Y → Y → Prop} {y : Y} {settings : Evm.KeyRegistry.Settings}
  {history : Evm.KeyRegistry.History} {s s' : Evm.KeyRegistry.Registry Y} {account : BytesN32}
  {timestamp : Evm.Uint256}

/-- On EVM a record is there when its commitment is set. -/
def viewOfEvm (H : Evm.KeyRegistry.Host) (account : BytesN32) (history : Evm.KeyRegistry.History)
    (s : Evm.KeyRegistry.Registry Y) : SlotView where
  live := (s.entry account).liveSlots
  next := (s.entry account).nextSlotId.toNat
  recorded id := ((s.entry account).slot id).commitment ≠ 0
  registered := Evm.KeyRegistry.registrations H account history

theorem sound_evm
    (run : Run (Evm.KeyRegistry.system N H outside) (.deployed settings y) history s)
    (hzero : Evm.KeyRegistry.NoZeroKey H history) : (viewOfEvm H account history s).Sound := by
  have hsound := @Evm.KeyRegistry.sound_of_run _ _ _ _ account _ _ _ _ run hzero
  exact ⟨hsound.slots.few, hsound.slots.nodup, hsound.slots.below, hsound.recorded hzero,
    hsound.issued.ids, hsound.issued.names⟩

/-- Both registries mean the same by a slot that may go. -/
theorem prunable_evm_iff {atOnce : Bool} {e : Evm.KeyRegistry.RegistryEntry}
    {expiries : Map (BytesN32 × U32) ℕ} {id : U32} :
    Evm.KeyRegistry.prunable timestamp account atOnce e expiries id = true
      ↔ FarPast timestamp.toNat atOnce (Evm.KeyRegistry.expiredAt account e expiries id) := by
  unfold Evm.KeyRegistry.prunable FarPast
  simp only [Bool.and_eq_true, decide_eq_true_eq]
  cases atOnce <;> rfl

theorem pruned_evm
    (run : Run (Evm.KeyRegistry.system N H outside) (.deployed settings y) history s)
    (hzero : Evm.KeyRegistry.NoZeroKey H history)
    (ok : Evm.KeyRegistry.prune N timestamp account s = .ok ((), s')) :
    ∃ atOnce, Evm.KeyRegistry.pruneAtOnce N account s = .ok atOnce ∧
      (viewOfEvm H account history s).Pruned timestamp.toNat atOnce
        (Evm.KeyRegistry.expiredAt account (s.entry account) s.expiries)
        (s'.entry account).liveSlots fun id => ((s'.entry account).slot id).commitment ≠ 0 := by
  have hsound := @Evm.KeyRegistry.sound_of_run _ _ _ _ account _ _ _ _ run hzero
  simp only [Evm.KeyRegistry.prune, Tx.bind_view_ok, Tx.modify_ok, Prod.mk.injEq, true_and] at ok
  obtain ⟨atOnce, hatOnce, rfl⟩ := ok
  have hswept := @Evm.KeyRegistry.pruneLoop_exact timestamp account atOnce _ s.expiries hsound.slots
  refine ⟨atOnce, hatOnce, ?_, ?_⟩
  · rw [Evm.KeyRegistry.entry_of_set rfl, if_pos rfl]
    refine hswept.live.trans (List.Perm.of_eq (List.filter_congr fun id _ => ?_))
    rw [Bool.eq_iff_iff, Bool.not_eq_true', decide_eq_true_eq, ← Bool.not_eq_true,
      prunable_evm_iff]
  · intro id
    rw [Evm.KeyRegistry.entry_of_set rfl, if_pos rfl, hswept.mem]
    unfold Evm.KeyRegistry.RegistryEntry.slot
    rw [hswept.slots]
    by_cases hpruned : Evm.KeyRegistry.prunable timestamp account atOnce (s.entry account)
        s.expiries id = true
    · by_cases hlive : id ∈ (s.entry account).liveSlots
      · rw [if_pos ⟨hlive, hpruned⟩]
        simp [hpruned, Evm.KeyRegistry.KeySlot.unset]
      · rw [if_neg fun h => hlive h.1]
        have hrecorded := hsound.recorded hzero id
        unfold Evm.KeyRegistry.RegistryEntry.slot at hrecorded
        rw [hrecorded]
        simp [hlive]
    · rw [if_neg fun h => hpruned h.2]
      have hrecorded := hsound.recorded hzero id
      unfold Evm.KeyRegistry.RegistryEntry.slot at hrecorded
      rw [hrecorded]
      simp [hpruned]

end Evm

/-- In every reachable state of either registry the stores of an account's slots agree, and pruning
there drops exactly the slots that are far past their expiry. -/
theorem registry_slots {Y : Type} {account : BytesN32}
    {N : KeyRegistry.Neighbors Y} {H : KeyHost} {outside : Y → Y → Prop} {y : Y}
    {history : KeyRegistry.History} {c : KeyRegistry.Chain Y}
    (run : Run (KeyRegistry.system N H outside) (KeyRegistry.Chain.fresh y) history c)
    {Y' : Type} {N' : Evm.KeyRegistry.Neighbors Y'} {H' : Evm.KeyRegistry.Host}
    {outside' : Y' → Y' → Prop} {y' : Y'} {settings : Evm.KeyRegistry.Settings}
    {history' : Evm.KeyRegistry.History} {s : Evm.KeyRegistry.Registry Y'}
    (run' : Run (Evm.KeyRegistry.system N' H' outside') (.deployed settings y') history' s)
    (hzero : Evm.KeyRegistry.NoZeroKey H' history') :
    ((viewOfSoroban H account history c).Sound ∧
      ∀ env entry c', KeyRegistry.prune N env account (c.keys.getEntry account) c = .ok (entry, c') →
        ∃ atOnce, KeyRegistry.pruneAtOnce N account c = .ok atOnce ∧
          (viewOfSoroban H account history c).Pruned env.now atOnce (c.keys.expiredAt account)
            entry.live fun id => (c'.keys.getSlot account id).isSome = true) ∧
    ((viewOfEvm H' account history' s).Sound ∧
      ∀ timestamp s', Evm.KeyRegistry.prune N' timestamp account s = .ok ((), s') →
        ∃ atOnce, Evm.KeyRegistry.pruneAtOnce N' account s = .ok atOnce ∧
          (viewOfEvm H' account history' s).Pruned timestamp.toNat atOnce
            (Evm.KeyRegistry.expiredAt account (s.entry account) s.expiries)
            (s'.entry account).liveSlots fun id => ((s'.entry account).slot id).commitment ≠ 0) :=
  ⟨⟨sound_soroban run, fun _ _ _ ok => pruned_soroban run ok⟩,
    sound_evm run' hzero, fun _ _ ok => pruned_evm run' hzero ok⟩

theorem registry_slots_sample :
    (viewOfSoroban KeyRegistry.sampleKeyHost 0x3A KeyRegistry.sampleKeyRun.1
      KeyRegistry.sampleKeyRun.2).Sound ∧
    (viewOfEvm Evm.KeyRegistry.sampleHost 0x3A Evm.KeyRegistry.sampleRun.1
      Evm.KeyRegistry.sampleRun.2).Sound ∧
    (KeyRegistry.sampleKeyRun.2.keys.getEntry 0x3A).live = [0] ∧
    (Evm.KeyRegistry.sampleRun.2.entry 0x3A).liveSlots = [0] := by
  have hslots := @registry_slots _ 0x3A _ _ _ _ _ _ KeyRegistry.run_sampleKey _ _ _ _ _ _ _ _
    Evm.KeyRegistry.run_sample (by decide +kernel)
  exact ⟨hslots.1.1, hslots.2.1, by decide +kernel, by decide +kernel⟩

end Parity
end ProofBridge
