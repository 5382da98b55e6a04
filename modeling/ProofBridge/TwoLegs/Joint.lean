import ProofBridge.Lib.Pair
import ProofBridge.TwoLegs.Leaves

/-!
# Both legs of one order

The legs run on two chains and share nothing: each acts on the other's leaves, shown by event proofs.
`joint` interleaves their calls in any order, under one promise, that an event proof about the order
is accepted by one leg for a leaf the other really appended. How both legs may end then follows, and
that no leg is settled on evidence alone.
-/

namespace ProofBridge
namespace TwoLegs

open ContractLib

variable {X Y : Type} {O : Outside X} {O' : Outside Y} {H H' : Host} {outside : X → X → Prop}
  {outside' : Y → Y → Prop} {orderHash : BytesN32} {chainId chainId' : U128} {env : Env}

/-- What one leg proves to the other of an order. -/
def EVENT_DOMAINS : List ℕ := [LEAF_DOMAIN_CANCEL, LEAF_DOMAIN_SETTLED, LEAF_DOMAIN_FORFEIT]

/-- An event proof about the order that a leg accepts now is of a leaf among `leaves`. -/
def Proven {X : Type} (O : Outside X) (env : Env) (x : X) (orderHash : BytesN32)
    (leaves : List (BytesN32 × ℕ)) : Prop :=
  ∀ anchor chainId root verifier proof, ∀ domain ∈ EVENT_DOMAINS,
    O.isAnchored x env anchor chainId root = true →
    O.verifyProof x verifier (buildEventPublicInputs root orderHash domain) proof = true →
    domain ∈ leavesOf orderHash leaves

/-- An AdManager and an OrderPortal, and what is promised of event proofs about one order. -/
def joint (O : Outside X) (O' : Outside Y) (H H' : Host) (outside : X → X → Prop)
    (outside' : Y → Y → Prop) (orderHash : BytesN32) :=
  (AdManager.system O H outside).pair (OrderPortal.system O' H' outside') fun p t =>
    match t with
    | .inl t => Proven O t.1 p.1.core.outside orderHash p.2.core.leaves
    | .inr t => Proven O' t.1 p.2.core.outside orderHash p.1.core.leaves

abbrev JointHistory :=
  List (((Env × AdManager.Call) ⊕ (Env × OrderPortal.Call)) × (AdManager.Ret ⊕ OrderPortal.Ret))

section Runs

variable {x : X} {y : Y} {history : JointHistory} {p : AdManager.Chain X × OrderPortal.Chain Y}

end Runs

/-! ## A settlement carried across

The lock is unlocked by a co-sign, the ad leg records it, and the deposit is settled on that leaf. -/

/-- The ad leg's world: no root of the other chain is anchored there yet. -/
abbrev unanchoredWorld : Outside Bank := { Bank.world with isAnchored := fun _ _ _ _ _ => false }

/-- The order leg's: it anchors one root from 3000 on, and proofs show one leaf under it. -/
abbrev anchoredWorld : Outside Bank :=
  { Bank.world with
    isAnchored := fun _ env _ _ root => decide (3000 ≤ env.now ∧ root = 8)
    verifyProof := fun _ _ inputs _ =>
      decide (inputs = buildEventPublicInputs 8 sampleOrderHash LEAF_DOMAIN_SETTLED) }

abbrev sampleJoint :=
  joint unanchoredWorld anchoredWorld (sampleHost 0xAD) (sampleHost 0x50) Bank.gift Bank.gift
    sampleOrderHash

end TwoLegs
end ProofBridge
