import ProofBridge.KeyRegistry.Slots
import ProofBridge.Lib.Family
import ProofBridge.Lib.Pair
import ProofBridge.Registrar.Leaves

/-!
# Registration by proof

Any number of chains, each with a registrar and a key registry. An account consents on one chain, with
a leaf, and is registered on another, on a proof of the leaf; no nonce is shared between the two. What
makes the consent good for one registration are three facts apart: the leaf names one registry, a
registry takes a key of an account once, and an account's leaves have distinct epochs.
-/

namespace ProofBridge
namespace Registrar

open ContractLib

/-! ## A registry's name -/

section Registry

open KeyRegistry

variable {Z : Type} {N : Neighbors Z} {H : KeyHost} {env : Env} {c c' : KeyRegistry.Chain Z}

end Registry

/-! ## The chains -/

/-- The deployments: on each chain a registrar and a registry, under one hash. -/
structure World (ι Y Z : Type) where
  chainId : ι → U128
  keccak : Bytes → BytesN32
  registrarHost : ι → Host
  keyHost : ι → KeyHost
  registrar_keccak : ∀ i, (registrarHost i).keccak256 = keccak
  key_keccak : ∀ i, (keyHost i).keccak256 = keccak
  /-- No two registries have one name. -/
  apart : Function.Injective fun i => (chainId i, (keyHost i).contractId)
  tree : ι → Tree Y
  neighbors : ι → KeyRegistry.Neighbors Z
  aroundTree : Y → Y → Prop
  aroundKeys : Z → Z → Prop

abbrev Node (Y Z : Type) : Type := Chain Y × KeyRegistry.Chain Z

abbrev NodeCall : Type := (Env × Call) ⊕ (Env × KeyRegistry.Call)

abbrev NodeRet : Type := Ret ⊕ KeyRegistry.Ret

variable {ι Y Z : Type} [DecidableEq ι] {W : World ι Y Z}

namespace World

/-- A registration proof that chain `i` accepts now is of a leaf a registrar of the named chain has
appended. -/
def Proven (W : World ι Y Z) (w : ι → Node Y Z) (i : ι) (env : Env) : Prop :=
  ∀ anchor sourceChainId root verifier proof (r : Registration),
    (W.neighbors i).isAnchored (w i).2.outside env anchor sourceChainId root = true →
    (W.neighbors i).verifyProof (w i).2.outside verifier
      (buildEventPublicInputs root (r.subject W.keccak) LEAF_DOMAIN_REGISTERED) proof = true →
    ∃ j, W.chainId j = sourceChainId ∧ ∃ p ∈ (w j).1.state.leaves,
      fieldMod p.2 = fieldMod (r.subject W.keccak)

def node (W : World ι Y Z) (i : ι) :
    System (RegistrarError ⊕ KeyRegistry.RegistryError) (Node Y Z) NodeCall NodeRet :=
  (Registrar.system (W.tree i) (W.registrarHost i) W.aroundTree).pair
    (KeyRegistry.system (W.neighbors i) (W.keyHost i) W.aroundKeys) fun _ _ => True

def system (W : World ι Y Z) :
    System (RegistrarError ⊕ KeyRegistry.RegistryError) (ι → Node Y Z) (ι × NodeCall) NodeRet :=
  System.family W.node fun w i t =>
    match t with
    | .inl _ => True
    | .inr t => W.Proven w i t.1

/-- The registration a leaf must name for chain `i`. -/
def named (W : World ι Y Z) (i : ι) (account : BytesN32) (blsPubKey : BytesN 96) (epoch : U64) :
    Registration where
  dstChainId := W.chainId i
  dstRegistryId := (W.keyHost i).contractId
  account
  commitment := keyCommitment (W.keyHost i).toHost blsPubKey
  epoch

end World

/-! ## What a run registered -/

abbrev Events (ι : Type) : Type := List ((ι × NodeCall) × NodeRet)

/-- The calls chain `j`'s registrar accepted. -/
abbrev registrarEvents (j : ι) (h : Events ι) : History := lefts (eventsOf j h)

/-- The slot an event added, by either path: the chain, the account and the key. -/
def addedBy (W : World ι Y Z) : (ι × NodeCall) × NodeRet → Option (ι × BytesN32 × BytesN32)
  | ((i, .inr t), .inr ret) =>
    (KeyRegistry.added? (W.keyHost i).toHost (t, ret)).map fun a => (i, a.1, a.2.1)
  | _ => none

/-- The registration an event made by proof, and the chain its proof named. -/
def provenBy (W : World ι Y Z) : (ι × NodeCall) × NodeRet → Option (U128 × Registration)
  | ((i, .inr (_, .registerByProof account blsPubKey _ epoch sourceChainId _ _)), .inr (.slot _)) =>
    some (sourceChainId, W.named i account blsPubKey epoch)
  | _ => none

variable {w₀ w : ι → Node Y Z} {h : Events ι}

/-- What a run of the chains says of registering by proof. -/
structure Consented (W : World ι Y Z) (h : Events ι) (w : ι → Node Y Z) : Prop where
  /-- A registration by proof was approved before, on the chain its proof names. -/
  approved : ∀ later e earlier sourceChainId r, h = later ++ e :: earlier →
    provenBy W e = some (sourceChainId, r) →
    ∃ j, W.chainId j = sourceChainId ∧ ∃ e' ∈ registrarEvents j earlier, Approved e' r
  /-- A key enters an account's slots once at each registry, by either path. -/
  once : (h.filterMap (addedBy W)).Nodup
  /-- No leaf registers twice, at any registry, on whatever proofs. -/
  single : (h.filterMap fun e => (provenBy W e).map (·.2)).Nodup
  /-- Of two leaves of one account at one registrar the newer has the higher epoch. -/
  ordered : ∀ j, (w j).1.state.leaves.Pairwise fun newer older =>
    newer.1.account = older.1.account → older.1.epoch.toNat < newer.1.epoch.toNat

/-- Keccak-256 on the byte strings the sample hashes: what the registry's samples do, and one leaf. -/
def sampleLeafKeccak (b : Bytes) : BytesN32 :=
  match b.length with
  | 192 => 0xd74935818d51d7e582e66470f4efaa1bf1d917b8ab2c3fd341c7475b89393900
  | _ => KeyRegistry.sampleKeysKeccak b

def sampleDestinationHost : KeyHost :=
  { KeyRegistry.sampleKeyHost with
    toHost := { sampleHost 0x4B with keccak256 := sampleLeafKeccak } }

def sampleCommitment : BytesN32 :=
  keyCommitment sampleDestinationHost.toHost KeyRegistry.sampleKey

def sampleRegistration : Registration where
  dstChainId := 2
  dstRegistryId := 0x4B
  account := 0x3A
  commitment := sampleCommitment
  epoch := 0

/-- One root of chain 1 is anchored from 3000 on, and proofs show one leaf under it. -/
def sampleNeighbors : KeyRegistry.Neighbors Unit where
  hasOpenPositions _ _ _ := none
  isAnchored _ env _ sourceChainId root := decide (3000 ≤ env.now ∧ sourceChainId = 1 ∧ root = 9)
  verifyProof _ _ inputs _ := decide (inputs
    = buildEventPublicInputs 9 (sampleRegistration.subject sampleLeafKeccak) LEAF_DOMAIN_REGISTERED)

def sampleWorld : World Bool Unit Unit where
  chainId i := if i then 2 else 1
  keccak := sampleLeafKeccak
  registrarHost _ := { sampleHost 0x52 with keccak256 := sampleLeafKeccak }
  keyHost _ := sampleDestinationHost
  registrar_keccak _ := rfl
  key_keccak _ := rfl
  apart := by
    intro i j h
    cases i
    · cases j
      · rfl
      · cases congrArg Prod.fst h
    · cases j
      · cases congrArg Prod.fst h
      · rfl
  tree _ := { appendOrderHash := fun _ _ _ _ _ _ => some () }
  neighbors _ := sampleNeighbors
  aroundTree _ _ := False
  aroundKeys _ _ := False

def sampleApproval : List (Bool × NodeCall) :=
  [(false, .inl (sampleEnv 100, .initializeContract (.contract 0x33))),
    (true, .inr (sampleEnv 100, .initializeContract (.account 0x0A) 2 (ascii "testnet"))),
    (true, .inr (sampleEnv 200, .setProofRegistration (.contract 0xA1) (.contract 0x51) [1] true)),
    (false, .inl (sampleEnv 1000, .registerLeaf (.account 0x3A) sampleCommitment 0 2 0x4B))]

end Registrar
end ProofBridge
