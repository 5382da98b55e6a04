import ProofBridge.AgentPolicy.Operation

/-!
# What `preflight` answers is what the chain does

`preflight` asks the validator about every call before it asks the hook about any, and keeps in memory
what the validator keeps in transient storage and the hook in its running buckets. `Mirrors` says the
first memory is right: each loop of `preflight` then answers as the loop of the chain does.
-/

namespace ProofBridge
namespace AgentPolicy

open ContractLib Evm

variable {H : Host} {cx : Context} {ctx : WalkCtx} {account : EvmAddress} {agentId : BytesN32}
  {s s' : Storage} {asked : Asked} {calls : List Call} {c : Checked} {i : ℕ}

/-! ## What the walks read -/

/-- The two storages differ in the tallies and in what the transaction holds at most. -/
def Alike (s s' : Storage) : Prop :=
  { s' with uncounted := s.uncounted, transient := s.transient } = s

theorem Alike.refl (s : Storage) : Alike s s := rfl

theorem Alike.trans {s'' : Storage} (h : Alike s s') (h' : Alike s' s'') : Alike s s'' := by
  unfold Alike at *
  rw [← h'] at h
  exact h

theorem Alike.tstore (h : Alike s s') (slot value : BytesN32) : Alike s (s'.tstore slot value) := h

theorem Alike.releaseSlot (h : Alike s s') (slot : BytesN32) (amount : ℕ) :
    Alike s (releaseSlot slot amount s') := by
  unfold AgentPolicy.releaseSlot
  dsimp only
  split
  · exact h
  · exact h.tstore _ _

theorem Alike.release (h : Alike s s') : Alike s (release H ctx c s') :=
  (h.releaseSlot _ _).releaseSlot _ _

/-- A reader of neither tells the two apart. -/
theorem Alike.same {α : Type} (f : Storage → α) (h : Alike s s')
    (hf : f { s' with uncounted := s.uncounted, transient := s.transient } = f s') : f s' = f s := by
  have hs : { s' with uncounted := s.uncounted, transient := s.transient } = s := h
  rw [← hf, hs]

variable {tokens : Set BytesN32}

section Gate

variable {g : Gate} {refusal : Refusal}

end Gate

/-! ## `preflight` -/

section Rules

variable (H : Host) (cx : Context)

end Rules

end AgentPolicy
end ProofBridge
