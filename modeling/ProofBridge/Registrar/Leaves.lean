import ProofBridge.Registrar.Model

/-!
# The leaves of a registrar

What a run of the registrar appended: each leaf with its account's authorization, and the epochs of one
account's leaves going up, so that no leaf is appended twice.
-/

namespace ProofBridge
namespace Registrar

open ContractLib

/-- What a leaf names. -/
structure Registration where
  dstChainId : U128
  dstRegistryId : BytesN32
  account : BytesN32
  commitment : BytesN32
  epoch : U64
  deriving DecidableEq, Repr

namespace Registration

/-- The bytes whose hash is the leaf's subject. -/
def preimage (r : Registration) : Bytes :=
  Eip712.concat [REG_LEAF_TAG, Eip712.abiEncodeUint256 r.dstChainId, r.dstRegistryId, r.account,
    r.commitment, Eip712.abiEncodeUint256 r.epoch]

/-- The leaf's subject, under the one hash of every chain. -/
def subject (keccak : Bytes → BytesN32) (r : Registration) : BytesN32 := keccak r.preimage

end Registration

/-- The leaf an event appended. -/
def RegistrarEvent.leaf : RegistrarEvent → Option (Registration × BytesN32)
  | .initialized _ => none
  | .registrationLeaf account commitment epoch dstChainId dstRegistryId subject =>
    some (⟨dstChainId, dstRegistryId, account, commitment, epoch⟩, subject)

/-- Every leaf the registrar appended, the newest first. -/
def State.leaves (s : State) : List (Registration × BytesN32) := s.published.filterMap (·.leaf)

abbrev History := List ((Env × Call) × Ret)

/-- The account authorized the call that appended the leaf. -/
def Approved (e : (Env × Call) × Ret) (r : Registration) : Prop :=
  ∃ env account, e.1 = (env, .registerLeaf account r.commitment r.epoch r.dstChainId r.dstRegistryId)
    ∧ addressToBytes32 account = r.account ∧ env.authorized account = true

variable {Y : Type} {T : Tree Y} {H : Host} {env : Env} {c c' : Chain Y} {outside : Y → Y → Prop}
  {history : History}

/-- What an accepted call does to the leaves: none, or one that its account approved, at an epoch no
lower than its next. -/
inductive Step (H : Host) (env : Env) (c c' : Chain Y) (call : Call) (ret : Ret) : Prop
  | quiet (hleaves : c'.state.leaves = c.state.leaves)
      (hnext : ∀ account, c'.state.nextEpoch account = c.state.nextEpoch account)
  | appended {r : Registration} (happroved : Approved ((env, call), ret) r)
      (hepoch : c.state.nextEpoch r.account ≤ r.epoch.toNat)
      (hleaves : c'.state.leaves = (r, r.subject H.keccak256) :: c.state.leaves)
      (hnext : ∀ account, c'.state.nextEpoch account
        = if account = r.account then r.epoch.toNat + 1 else c.state.nextEpoch account)

theorem step_of_exec {call : Call} {ret : Ret} (ok : exec T H env call c = .ok (ret, c')) :
    Step H env c c' call ret := by
  cases call with
  | initializeContract merkleManager =>
    obtain ⟨⟨⟩, hok, -⟩ := Tx.answer_ok.mp ok
    simp only [initializeContract, Tx.bind_read_ok, Tx.bind_require_ok, Tx.bind_modify_ok,
      Tx.modify_ok, Prod.mk.injEq, true_and] at hok
    obtain ⟨-, rfl⟩ := hok
    exact .quiet rfl fun _ => rfl
  | registerLeaf account commitment epoch dstChainId dstRegistryId =>
    obtain ⟨subject, hok, -⟩ := Tx.answer_ok.mp ok
    simp only [registerLeaf, Tx.bind_read_ok, Tx.bind_expect_ok, Tx.bind_demand_ok,
      Tx.bind_require_ok, Tx.bind_modify_ok, Tx.pure_ok, Prod.mk.injEq] at hok
    obtain ⟨merkleManager, -, hauth, hepoch, -, y, -, rfl, rfl⟩ := hok
    refine .appended (r := ⟨dstChainId, dstRegistryId, addressToBytes32 account, commitment, epoch⟩)
      ⟨env, account, rfl, rfl, hauth⟩ hepoch rfl ?_
    intro account'
    show ((c.state.next.set _ _).get? account').getD 0 = _
    rw [Map.get?_set]
    split
    · rfl
    · rfl

/-- What the leaves of a run are. -/
structure Leaves (H : Host) (history : History) (s : State) : Prop where
  /-- Each is the hash of what its account approved. -/
  approved : ∀ p ∈ s.leaves, p.2 = p.1.subject H.keccak256 ∧ ∃ e ∈ history, Approved e p.1
  below : ∀ p ∈ s.leaves, p.1.epoch.toNat < s.nextEpoch p.1.account
  /-- Of two leaves of one account the newer has the higher epoch. -/
  ordered : s.leaves.Pairwise fun newer older =>
    newer.1.account = older.1.account → older.1.epoch.toNat < newer.1.epoch.toNat

theorem Step.leaves {call : Call} {ret : Ret} (hstep : Step H env c c' call ret)
    (h : Leaves H history c.state) : Leaves H (((env, call), ret) :: history) c'.state := by
  have older : ∀ p ∈ c.state.leaves, p.2 = p.1.subject H.keccak256 ∧
      ∃ e ∈ ((env, call), ret) :: history, Approved e p.1 := by
    intro p hp
    obtain ⟨hsubject, e, he, happroved⟩ := h.approved p hp
    exact ⟨hsubject, e, List.mem_cons_of_mem _ he, happroved⟩
  cases hstep with
  | quiet hleaves hnext =>
    refine ⟨hleaves ▸ older, ?_, hleaves ▸ h.ordered⟩
    intro p hp
    rw [hnext]
    exact h.below p (hleaves ▸ hp)
  | @appended r happroved hepoch hleaves hnext =>
    constructor
    · intro p hp
      rw [hleaves] at hp
      rcases List.mem_cons.mp hp with rfl | hp
      · exact ⟨rfl, _, List.mem_cons_self, happroved⟩
      · exact older p hp
    · intro p hp
      rw [hleaves] at hp
      rw [hnext]
      rcases List.mem_cons.mp hp with rfl | hp
      · rw [if_pos rfl]
        exact Nat.lt_succ_self _
      · have hbelow := h.below p hp
        split
        · next haccount =>
          rw [haccount] at hbelow
          omega
        · exact hbelow
    · rw [hleaves, List.pairwise_cons]
      refine ⟨?_, h.ordered⟩
      intro p hp haccount
      have hbelow := h.below p hp
      rw [← haccount] at hbelow
      exact lt_of_lt_of_le hbelow hepoch

end Registrar
end ProofBridge
