import ProofBridge.Evm.RegistryAdmin
import ProofBridge.Parity.RegistryRecords
import ProofBridge.Parity.RootAnchors

/-!
# The two key registries

One script of calls handed to the registry of either chain, with the same arguments: a key and a
proof of possession each in its chain's encoding, a signature whose legs name the same registries.
As long as cryptography, the contracts around and the timelocks give both the same answers, the two
accept the same calls, return the same slots and store the same records. Two differences are by
design: an idle pause is refused on EVM only, and the last 64-bit nonce can be consumed on EVM only.
-/

namespace ProofBridge
namespace Parity

open ContractLib

/-! ## What both are given -/

/-- The registries a signature may name, on both chains; `here` is the pair under comparison. -/
structure Places (ι : Type) (H : Evm.KeyRegistry.Host) (K : KeyHost) (chainId : U128) where
  here : ι
  evm : ι → Evm.Uint256 × BytesN32
  soroban : ι → U128 × BytesN32
  evm_inj : Function.Injective evm
  soroban_inj : Function.Injective soroban
  evm_here : evm here = (H.chainId, Evm.KeyRegistry.registryId H)
  soroban_here : soroban here = (chainId, K.contractId)

/-- An owner's signature with the registries it names and the nonces it has for them. -/
structure Signature (ι : Type) where
  legs : List (ι × U64)
  sig : KeyRegistry.OwnerSig

/-- The G1 identity as the EVM precompiles write it. -/
def evmIdentity : Bytes := List.replicate 128 0

/-- A key as either chain is given it: on EVM each coordinate is padded. The identity has an encoding
of its own on Soroban. -/
structure WrittenKey where
  evm : BytesN 128
  soroban : BytesN 96
  identity : soroban = KeyRegistry.g1Identity → evm.1 = evmIdentity
  point : soroban ≠ KeyRegistry.g1Identity → evm.1 = eip2537 soroban ∧ evm.1 ≠ evmIdentity

/-- A proof of possession as either chain is given it. -/
structure WrittenPop where
  evm : BytesN 256
  soroban : BytesN 192

/-- One hash on both chains: the identity's encoding, and no other, has the commitment the EVM
contract refuses, and no key hashes to zero. -/
structure SameKeccak (H : Evm.KeyRegistry.Host) (K : KeyHost) : Prop where
  same : ∀ b, H.keccak256 b = K.keccak256 b
  identity : ∀ b, H.keccak256 b = Evm.KeyRegistry.IDENTITY_COMMITMENT ↔ b = evmIdentity
  nonzero : ∀ pk, keyCommitment K.toHost pk ≠ 0

/-- What either registry is asked. `between` is whatever happens between the other calls to the
admins and timelocks of the two contracts, and to the contracts around them. -/
inductive RegistryCall (π ι Y Y' : Type)
  | register (account : BytesN32) (owner : Signature ι) (key : WrittenKey) (pop : WrittenPop)
      (nonce deadline : U64)
  | registerByProof (account : BytesN32) (key : WrittenKey) (pop : WrittenPop) (epoch : U64)
      (sourceChainId : U128) (targetRoot : BytesN32) (proof : Bytes)
  | setValidUntil (account : BytesN32) (owner : Signature ι) (commitment : BytesN32)
      (validUntil : U64)
  | revoke (account : BytesN32) (owner : Signature ι) (nonce : U64)
  | cancel (account : BytesN32) (owner : Signature ι) (nonce : U64)
  | approveMaker (account maker : BytesN32) (approved : Bool) (owner : Signature ι)
      (nonce deadline : U64)
  | approveRepin (account orderHash : BytesN32) (fromSlot toSlot : U32) (owner : Signature ι)
      (nonce : U64)
  | setPositionGuards (guards : List π)
  | setProofRegistration (anchor verifier : π) (sources : List U128) (enabled : Bool)
  | pause
  | unpause
  | between (access : Evm.AdminTimelock) (admin : Address) (pendingAdmin : Option Address)
      (timelock : Timelock) (evmOutside : Y) (outside : Y')

namespace RegistryCall

variable {π ι Y Y' : Type}

/-- The nonce a call consumes. -/
def nonce? : RegistryCall π ι Y Y' → Option U64
  | register _ _ _ _ nonce _ | revoke _ _ nonce | cancel _ _ nonce | approveMaker _ _ _ _ nonce _
  | approveRepin _ _ _ _ _ nonce => some nonce
  | _ => none

end RegistryCall

/-- A call with who makes it, when, and the calldata it has on EVM. -/
structure RegistryAsked (π ι Y Y' : Type) where
  caller : π
  time : U64
  data : Bytes
  call : RegistryCall π ι Y Y'

namespace RegistryAsked

variable {π ι Y Y' : Type} (N : Parties π) (c : RegistryAsked π ι Y Y')

def message : Evm.Message where
  timestamp := c.time.setWidth 256
  sender := N.evm c.caller
  data := c.data

def env : Env where
  timestamp := c.time
  authorized who := who = N.soroban c.caller
  authorizedInside _ := false

theorem message_now : (c.message N).timestamp.toNat = (c.env N).now := by
  show (c.time.setWidth 256).toNat = c.time.toNat
  rw [BitVec.toNat_setWidth]
  exact Nat.mod_eq_of_lt (lt_trans c.time.isLt (by norm_num))

end RegistryAsked

/-- What a call asks the owner to have signed, on both chains. -/
structure Signing (ι : Type) where
  account : BytesN32
  owner : Signature ι
  kind : Evm.KeyRegistry.Kind
  subject : BytesN32
  time : U64
  approved : Bool
  message : KeyRegistry.KeyMessage

section Scripts

variable {π ι Y Y' : Type} {chainId : U128} (P : Evm.Primitives) (H : Evm.KeyRegistry.Host)
  (K : KeyHost) (W : Places ι H K chainId) (N : Parties π) (hasCode : Evm.EvmAddress → Bool)
  (M : Evm.KeyRegistry.Neighbors Y) (M' : KeyRegistry.Neighbors Y')

/-- A leg as EVM reads it. -/
def evmLeg (l : ι × U64) : Evm.KeyRegistry.KeyLeg where
  chainId := (W.evm l.1).1
  registry := (W.evm l.1).2
  nonce := l.2.setWidth 256

def sorobanLeg (l : ι × U64) : KeyRegistry.KeyLeg where
  chainId := (W.soroban l.1).1
  registry := (W.soroban l.1).2
  nonce := l.2

def evmOwner (o : Signature ι) : Evm.KeyRegistry.OwnerAuth where
  scheme := match o.sig with
    | .secp256k1 _ => .secp256k1
    | .sep53 _ => .sep53
  legs := o.legs.map (evmLeg H K W)
  sig := match o.sig with
    | .secp256k1 sig => sig.1
    | .sep53 sig => sig.1

def sorobanOwner (o : Signature ι) : KeyRegistry.OwnerAuth :=
  .signed { legs := o.legs.map (sorobanLeg H K W), sig := o.sig }

/-- The commitment both chains know a key by. -/
def WrittenKey.commitment (key : WrittenKey) : BytesN32 := keyCommitment K.toHost key.soroban

/-- The message a call needs signed. -/
def RegistryCall.signing? : RegistryCall π ι Y Y' → Option (Signing ι)
  | .register account owner key _ nonce deadline =>
    some ⟨account, owner, .register, key.commitment K, deadline, false,
      .register (key.commitment K) nonce deadline⟩
  | .setValidUntil account owner commitment validUntil =>
    some ⟨account, owner, .retire, commitment, validUntil, false, .retire commitment validUntil⟩
  | .revoke account owner nonce => some ⟨account, owner, .revoke, 0, 0, false, .revoke nonce⟩
  | .cancel account owner nonce => some ⟨account, owner, .cancel, 0, 0, false, .cancel nonce⟩
  | .approveMaker account maker approved owner nonce deadline =>
    some ⟨account, owner, .approveMaker, maker, deadline, approved,
      .approveMaker maker approved nonce deadline⟩
  | .approveRepin account orderHash fromSlot toSlot owner nonce =>
    some ⟨account, owner, .repin, orderHash, fromSlot ++ toSlot, false,
      .repin orderHash fromSlot toSlot nonce⟩
  | _ => none

/-- The proof of possession a call brings: the account, the key, the proof and the number it is
over. -/
def RegistryCall.possession? :
    RegistryCall π ι Y Y' → Option (BytesN32 × WrittenKey × WrittenPop × U64)
  | .register account _ key pop nonce _ => some (account, key, pop, nonce)
  | .registerByProof account key pop epoch _ _ _ => some (account, key, pop, epoch)
  | _ => none

def evmSigned (q : Signing ι) : Bool :=
  H.ownerSigned q.account (evmOwner H K W q.owner) q.kind q.subject q.time q.approved

/-- What is left of the owner's check on Soroban once the legs are in order. -/
def sorobanSigned (config : KeyRegistry.KeysConfig) (q : Signing ι) :
    Check KeyRegistry.RegistryError Unit :=
  match q.owner.sig with
  | .secp256k1 sig =>
    KeyRegistry.checkSecp256k1 K config q.account (q.owner.legs.map (sorobanLeg H K W)) q.message sig
  | .sep53 sig =>
    KeyRegistry.checkSep53 K config q.account (q.owner.legs.map (sorobanLeg H K W)) q.message sig

open Evm.KeyRegistry.Contract (onRegistry)

def registryOnEvm (c : RegistryAsked π ι Y Y') :
    Tx Evm.KeyRegistry.ContractError (Evm.KeyRegistry.Contract Y) Evm.KeyRegistry.Ret :=
  let exec := Evm.KeyRegistry.exec M H (c.message N).timestamp
  match c.call with
  | .register account owner key pop nonce deadline =>
    onRegistry (exec (.register account (evmOwner H K W owner) key.evm.1 pop.evm.1
      (nonce.setWidth 256) deadline))
  | .registerByProof account key pop epoch sourceChainId targetRoot proof =>
    onRegistry (exec (.registerByProof account key.evm.1 pop.evm.1 epoch (wide sourceChainId)
      targetRoot proof))
  | .setValidUntil account owner commitment validUntil =>
    onRegistry (exec (.setValidUntil account (evmOwner H K W owner) commitment validUntil))
  | .revoke account owner nonce =>
    onRegistry (exec (.revoke account (evmOwner H K W owner) (nonce.setWidth 256)))
  | .cancel account owner nonce =>
    onRegistry (exec (.cancel account (evmOwner H K W owner) (nonce.setWidth 256)))
  | .approveMaker account maker approved owner nonce deadline =>
    onRegistry (exec (.approveMaker account maker approved (evmOwner H K W owner)
      (nonce.setWidth 256) deadline))
  | .approveRepin account orderHash fromSlot toSlot owner nonce =>
    onRegistry (exec (.approveRepin account orderHash fromSlot toSlot (evmOwner H K W owner)
      (nonce.setWidth 256)))
  | .setPositionGuards guards =>
    Tx.answer (fun _ => .unit)
      (Evm.KeyRegistry.Contract.setPositionGuards P (c.message N) (guards.map N.evm))
  | .setProofRegistration anchor verifier sources enabled =>
    Tx.answer (fun _ => .unit)
      (Evm.KeyRegistry.Contract.setProofRegistration P H hasCode (c.message N) (N.evm anchor)
        (N.evm verifier) (sources.map wide) enabled)
  | .pause => Tx.answer (fun _ => .unit) (Evm.KeyRegistry.Contract.pause (c.message N))
  | .unpause => Tx.answer (fun _ => .unit) (Evm.KeyRegistry.Contract.unpause (c.message N))
  | .between access _ _ _ evmOutside _ =>
    Tx.answer (fun _ => .unit) (Tx.modify fun s => { s with
      access
      registry := { s.registry with outside := evmOutside } })

def registryOnSoroban (c : RegistryAsked π ι Y Y') :
    Tx KeyRegistry.RegistryError (KeyRegistry.Chain Y') KeyRegistry.Ret :=
  let exec := KeyRegistry.exec M' K (c.env N)
  match c.call with
  | .register account owner key pop nonce deadline =>
    exec (.register account (sorobanOwner H K W owner) key.soroban pop.soroban nonce deadline)
  | .registerByProof account key pop epoch sourceChainId targetRoot proof =>
    exec (.registerByProof account key.soroban pop.soroban epoch sourceChainId targetRoot proof)
  | .setValidUntil account owner commitment validUntil =>
    exec (.setValidUntil account (sorobanOwner H K W owner) commitment validUntil)
  | .revoke account owner nonce => exec (.revoke account (sorobanOwner H K W owner) nonce)
  | .cancel account owner nonce => exec (.cancelPending account (sorobanOwner H K W owner) nonce)
  | .approveMaker account maker approved owner nonce deadline =>
    exec (.approveMaker account maker approved (sorobanOwner H K W owner) nonce deadline)
  | .approveRepin account orderHash fromSlot toSlot owner nonce =>
    exec (.approveRepin account orderHash fromSlot toSlot (sorobanOwner H K W owner) nonce)
  | .setPositionGuards guards => exec (.setPositionGuards (guards.map N.soroban))
  | .setProofRegistration anchor verifier sources enabled =>
    exec (.setProofRegistration (N.soroban anchor) (N.soroban verifier) sources enabled)
  | .pause => exec .pause
  | .unpause => exec .unpause
  | .between _ admin pendingAdmin timelock _ outside =>
    Tx.answer (fun _ => .unit) (Tx.modify fun t => { t with
      state := { t.state with admin := some admin, pendingAdmin, timelock }
      outside })

/-- The gate of a setter on EVM, as the setter asks it. -/
def evmRegistryGate (c : RegistryAsked π ι Y Y') : Tx Evm.AdminError Evm.AdminTimelock Unit :=
  match c.call with
  | .setPositionGuards _ => Evm.AdminTimelock.timelocked P (c.message N) 0
  | .setProofRegistration _ _ _ enabled =>
    Evm.AdminTimelock.timelockedUnless P (c.message N) (!enabled)
      (Evm.KeyRegistry.Contract.proofRegistrationKey P)
  | _ => pure ()

/-- The gate of a setter on Soroban, as the setter asks it. -/
def sorobanRegistryGate (admin : Address) (c : RegistryAsked π ι Y Y') : Tx Fault Timelock Unit :=
  match c.call with
  | .setPositionGuards guards =>
    Timelock.gate K.toHost (c.env N) admin "set_position_guards" [.addresses (guards.map N.soroban)]
  | .setProofRegistration anchor verifier sources enabled =>
    Timelock.gateUnless K.toHost (c.env N) admin (!enabled) "set_proof_registration"
      [.address (N.soroban anchor), .address (N.soroban verifier), .u128s sources, .bool enabled]
      (K.brakeKey "set_proof_registration" .unit)
  | _ => pure ()

/-- What is promised of a call: everything both contracts ask of others answers both the same. -/
structure SameAnswers (s : Evm.KeyRegistry.Contract Y) (t : KeyRegistry.Chain Y')
    (c : RegistryAsked π ι Y Y') : Prop where
  signed : ∀ config q, t.state.config = some config → c.call.signing? K = some q →
    (evmSigned H K W q = true ↔ sorobanSigned H K W config q = .ok ())
  possessed : ∀ config account key pop number, t.state.config = some config →
    c.call.possession? = some (account, key, pop, number) →
    (H.popValid account key.evm.1 pop.evm.1 (number.setWidth 256) = true
      ↔ KeyRegistry.verifyPop K config account key.soroban pop.soroban number = .ok true)
  guards : ∀ guard account, M.hasOpenPositions s.registry.outside (N.evm guard) account
    = M'.hasOpenPositions t.outside (N.soroban guard) account
  anchored : ∀ w sourceChainId root, t.state.proofRegistration = some w →
    (M.isAnchored s.registry.outside (c.message N).timestamp s.registry.settings.rootAnchor
        (wide sourceChainId) root = some true
      ↔ M'.isAnchored t.outside (c.env N) w.anchor sourceChainId root = true)
  proven : ∀ w config account commitment epoch root proof, t.state.proofRegistration = some w →
    t.state.config = some config →
    (M.verify s.registry.outside s.registry.settings.proofVerifier proof
        (Evm.KeyRegistry.buildEventInputs root
          (Evm.KeyRegistry.registrationSubject H account commitment epoch)
          LEAF_DOMAIN_REGISTERED) = some true
      ↔ M'.verifyProof t.outside w.verifier (buildEventPublicInputs root
          (registrationSubject K.toHost config.chainId K.contractId account commitment epoch)
          LEAF_DOMAIN_REGISTERED) proof = true)
  gate : ∀ admin, t.state.admin = some admin →
    ((evmRegistryGate P N c).Accepts s.access
      ↔ (sorobanRegistryGate K N admin c).Accepts t.state.timelock)
  /-- What registration by proof is wired to exists, and this chain has one id on either side. -/
  wired : ∀ anchor verifier sources,
    c.call = .setProofRegistration anchor verifier sources true →
      hasCode (N.evm anchor) = true ∧ hasCode (N.evm verifier) = true
  sources : ∀ anchor verifier sources enabled,
    c.call = .setProofRegistration anchor verifier sources enabled →
      (H.chainId ∈ sources.map wide ↔ chainId ∈ sources)
  admin : ∀ access admin pendingAdmin timelock y y',
    c.call = .between access admin pendingAdmin timelock y y' →
      ∃ p, access.admin = N.evm p ∧ admin = N.soroban p

/-- A pause of a paused contract, or an unpause of a running one. -/
def IdlePause (s : Evm.KeyRegistry.Contract Y) (c : RegistryAsked π ι Y Y') : Prop :=
  (c.call = .pause ∧ s.registry.settings.paused = true) ∨
    (c.call = .unpause ∧ s.registry.settings.paused = false)

/-- The call consumes the last nonce of 64 bits. -/
def LastNonce (c : RegistryAsked π ι Y Y') : Prop :=
  c.call.nonce? = some (BitVec.allOnes 64)

end Scripts

/-! ## What the two storages share -/

section Alike

variable {π Y Y' : Type} (chainId : U128) (N : Parties π)

/-- The registries hold the same, where `p` is the admin and `k` are the Soroban records by now. -/
structure MidwayRegistry (p : π) (s : Evm.KeyRegistry.Registry Y) (t : KeyRegistry.Chain Y')
    (k : KeyRegistry.Keys) : Prop where
  admin : t.state.admin = some (N.soroban p)
  config : ∃ config, t.state.config = some config ∧ config.chainId = chainId
  paused : s.settings.paused = t.state.paused
  guards : ∃ l : List π, s.settings.positionGuards = l.map N.evm ∧
    t.state.guards.getD [] = l.map N.soroban
  enabled : s.settings.proofRegistrationEnabled
    = t.state.proofRegistration.any KeyRegistry.ProofRegistration.enabled
  sources : ∀ w, t.state.proofRegistration = some w →
    s.settings.proofSources = w.sources.map wide
  records : SameKeys s k

/-- The contracts hold the same. -/
def SameRegistry (s : Evm.KeyRegistry.Contract Y) (t : KeyRegistry.Chain Y') : Prop :=
  ∃ p, s.access.admin = N.evm p ∧ MidwayRegistry chainId N p s.registry t t.keys

end Alike

/-! ## Making room and adding a slot -/

section Slots

variable {π Y Y' : Type} {chainId : U128} {N : Parties π} {p : π} {M : Evm.KeyRegistry.Neighbors Y}
  {M' : KeyRegistry.Neighbors Y'} {s : Evm.KeyRegistry.Registry Y} {t : KeyRegistry.Chain Y'}
  {k : KeyRegistry.Keys} {account : BytesN32} {timestamp : Evm.Uint256} {env : Env}

/-- The guards are asked in the same order, up to the first that says yes. -/
theorem hasOpenPositions_same {y : Y} {y' : Y'}
    (hguards : ∀ guard account, M.hasOpenPositions y (N.evm guard) account
      = M'.hasOpenPositions y' (N.soroban guard) account) (l : List π) (b : Bool) :
    Evm.KeyRegistry.hasOpenPositions M y account (l.map N.evm) = .ok b
      ↔ KeyRegistry.hasOpenPositions (M'.hasOpenPositions y') account (l.map N.soroban)
        = .ok b := by
  induction l with
  | nil =>
    simp only [List.map_nil, Evm.KeyRegistry.hasOpenPositions, KeyRegistry.hasOpenPositions,
      Check.pure_ok]
  | cons guard l ih =>
    simp only [List.map_cons, Evm.KeyRegistry.hasOpenPositions, KeyRegistry.hasOpenPositions,
      Check.bind_ok, Check.expectTrap_ok, hguards]
    apply exists_congr
    rintro (_ | _)
    · exact and_congr_right fun _ => ih
    · exact and_congr_right fun _ => by rw [if_pos rfl, if_pos rfl, Check.pure_ok, Check.pure_ok]

theorem requireNoOpenPositions_same
    (h : MidwayRegistry chainId N p s t k)
    (hguards : ∀ guard account, M.hasOpenPositions s.outside (N.evm guard) account
      = M'.hasOpenPositions t.outside (N.soroban guard) account) :
    Evm.KeyRegistry.requireNoOpenPositions M account s = .ok ()
      ↔ KeyRegistry.requireNoOpenPositions (M'.hasOpenPositions t.outside) t.state.guards account
        = .ok () := by
  obtain ⟨l, hevm, hsoroban⟩ := h.guards
  simp only [Evm.KeyRegistry.requireNoOpenPositions, KeyRegistry.requireNoOpenPositions,
    Check.bind_ok, Check.require_ok, hevm, hsoroban, ne_eq, List.map_eq_nil_iff,
    hasOpenPositions_same hguards]

theorem pruneAtOnce_same (h : MidwayRegistry chainId N p s t k)
    (hguards : ∀ guard account, M.hasOpenPositions s.outside (N.evm guard) account
      = M'.hasOpenPositions t.outside (N.soroban guard) account) (b : Bool) :
    Evm.KeyRegistry.pruneAtOnce M account s = .ok b ↔ KeyRegistry.pruneAtOnce M' account t = .ok b := by
  obtain ⟨l, hevm, hsoroban⟩ := h.guards
  unfold Evm.KeyRegistry.pruneAtOnce KeyRegistry.pruneAtOnce
  rw [hevm, hsoroban]
  cases l with
  | nil => rw [List.map_nil, List.map_nil, if_pos rfl, if_pos rfl, Except.ok.injEq, Except.ok.injEq]
  | cons guard l =>
    rw [if_neg (by simp), if_neg (by simp)]
    simp only [Check.bind_ok, Check.pure_ok, hasOpenPositions_same hguards]

/-- The loop of `prune` on Soroban stops on nothing. -/
theorem pruneEach_runs {atOnce : Bool} (ids : List U32) (t : KeyRegistry.Chain Y') :
    ∃ kept t', KeyRegistry.pruneEach env account atOnce ids t = .ok (kept, t') := by
  induction ids generalizing t with
  | nil => exact ⟨[], t, rfl⟩
  | cons id ids ih =>
    simp only [KeyRegistry.pruneEach, Tx.bind_read_ok, Tx.ite_apply]
    split
    · simp only [Tx.bind_modify_ok]
      exact ih _
    · obtain ⟨kept, t', hruns⟩ := ih t
      exact ⟨id :: kept, t', Tx.bind_ok.mpr ⟨kept, t', hruns, rfl⟩⟩

variable (h : MidwayRegistry chainId N p s t t.keys) (hsound : t.keys.Sound account)
  (hnow : timestamp.toNat = env.now)
  (hguards : ∀ guard account, M.hasOpenPositions s.outside (N.evm guard) account
    = M'.hasOpenPositions t.outside (N.soroban guard) account)

include h hsound hnow hguards

/-- Pruning drops the same slots. On Soroban the entry they leave is not stored yet. -/
theorem prune_agrees : Tx.Agrees
    (fun _ s₁ entry t₁ => MidwayRegistry chainId N p s₁ t₁ (t₁.keys.setEntry account entry))
    (Evm.KeyRegistry.prune M timestamp account)
    (KeyRegistry.prune M' env account (t.keys.getEntry account)) s t := by
  unfold Evm.KeyRegistry.prune KeyRegistry.prune
  apply Tx.Agrees.view_same (pruneAtOnce_same h hguards)
  intro atOnce _
  obtain ⟨kept, t₁, hruns⟩ := @pruneEach_runs Y' account env atOnce (t.keys.getEntry account).live t
  obtain ⟨rfl, published, rfl⟩ := KeyRegistry.pruneEach_ok hsound.nodup hruns
  apply Tx.Agrees.right hruns
  exact Tx.Agrees.of_ok rfl rfl { h with records := h.records.prune hsound hnow }

theorem pruneFull_agrees : Tx.Agrees
    (fun _ s₁ entry t₁ => MidwayRegistry chainId N p s₁ t₁ (t₁.keys.setEntry account entry))
    (Evm.KeyRegistry.pruneFull M timestamp account)
    (KeyRegistry.pruneFull M' env account (t.keys.getEntry account)) s t := by
  unfold Evm.KeyRegistry.pruneFull KeyRegistry.pruneFull
  apply Tx.Agrees.read_left
  apply Tx.Agrees.ite
  · rw [(h.records account).live.length_eq]
    exact Iff.rfl
  · intro _
    apply (prune_agrees h hsound hnow hguards).bind
    rintro ⟨⟩ s₁ entry t₁ - - h₁
    apply Tx.Agrees.read_left
    have hlength : (s₁.entry account).liveSlots.length = entry.live.length := by
      rw [(h₁.records account).live.length_eq, KeyRegistry.Keys.getEntry_setEntry, if_pos rfl]
    apply Tx.Agrees.of_iff (fun r => Tx.require_ok (r := r))
      (fun r => ?_) (Iff.of_eq (congrArg (· < 5) hlength)) (fun _ => h₁)
    rw [Tx.bind_require_ok, Tx.pure_ok]
    exact Iff.rfl
  · intro _
    exact Tx.Agrees.pure { h with records := h.records.setEntry_self }

/-- A slot added on both, under the same id. -/
theorem addSlot_agrees {commitment : BytesN32} (hne : commitment ≠ 0) : Tx.Agrees
    (fun id s₁ id' t₁ => id = id' ∧ MidwayRegistry chainId N p s₁ t₁ t₁.keys)
    (Evm.KeyRegistry.addSlot M timestamp account commitment)
    (KeyRegistry.addSlot M' env account commitment) s t := by
  unfold Evm.KeyRegistry.addSlot KeyRegistry.addSlot
  apply Tx.Agrees.read
  apply Tx.Agrees.require
  · rw [(h.records account).used]
  · intro _
    apply (pruneFull_agrees h hsound hnow hguards).bind
    rintro ⟨⟩ s₁ entry t₁ - - h₁
    apply Tx.Agrees.read_left
    have hnext : (s₁.entry account).nextSlotId = entry.nextSlotId := by
      rw [(h₁.records account).next, KeyRegistry.Keys.getEntry_setEntry, if_pos rfl]
    dsimp only
    rw [hnext]
    apply Tx.Agrees.lift_same fun next => by rw [Check.add_ok, Check.add_ok]
    intro next _
    apply Tx.Agrees.modify_left
    apply Tx.Agrees.modify_right
    apply Tx.Agrees.modify_right
    apply Tx.Agrees.modify_right
    apply Tx.Agrees.modify_right
    refine Tx.Agrees.pure ⟨rfl, ?_⟩
    have hclock : timestamp.toNat % 2 ^ 64 = env.now := by
      rw [hnow]
      exact Nat.mod_eq_of_lt env.now_lt
    rw [hclock]
    exact { h₁ with records := h₁.records.insert hne }

end Slots

/-! ## The owner's calls -/

section Owner

variable {π ι Y Y' : Type} {chainId : U128} {H : Evm.KeyRegistry.Host} {K : KeyHost}
  {W : Places ι H K chainId} {N : Parties π} {p : π} {M : Evm.KeyRegistry.Neighbors Y}
  {M' : KeyRegistry.Neighbors Y'} {s : Evm.KeyRegistry.Registry Y} {t : KeyRegistry.Chain Y'}
  {config : KeyRegistry.KeysConfig} {account : BytesN32} {owner : Signature ι}
  {timestamp : Evm.Uint256} {env : Env}

theorem wideNonce_inj {n n' : U64} (h : n.setWidth 256 = n'.setWidth 256) : n = n' := by
  apply BitVec.eq_of_toNat_eq
  have hnat := congrArg BitVec.toNat h
  simp only [BitVec.toNat_setWidth] at hnat
  have hn := n.isLt
  have hn' := n'.isLt
  omega

/-- Both look for one leg of theirs with the nonce of the call. -/
theorem ownLeg_same {msg : KeyRegistry.KeyMessage} {nonce : U64} (hchain : config.chainId = chainId)
    (hnonce : msg.nonce? = some nonce) :
    Evm.KeyRegistry.requireOwnLeg H (owner.legs.map (evmLeg H K W)) (nonce.setWidth 256) = .ok ()
      ↔ KeyRegistry.checkLegs K config (owner.legs.map (sorobanLeg H K W)) msg = .ok () := by
  have hmine : ∀ l : ι × U64, (decide ((evmLeg H K W l).chainId = H.chainId)
      && decide ((evmLeg H K W l).registry = Evm.KeyRegistry.registryId H))
        = (sorobanLeg H K W l).isMine K config := by
    intro l
    have hevm : ((W.evm l.1).1 = H.chainId ∧ (W.evm l.1).2 = Evm.KeyRegistry.registryId H)
        ↔ l.1 = W.here := by
      rw [← Prod.mk.injEq, ← W.evm_here]
      exact W.evm_inj.eq_iff
    have hsoroban : ((W.soroban l.1).1 = chainId ∧ (W.soroban l.1).2 = K.contractId)
        ↔ l.1 = W.here := by
      rw [← Prod.mk.injEq, ← W.soroban_here]
      exact W.soroban_inj.eq_iff
    rw [Bool.eq_iff_iff]
    simp only [KeyRegistry.KeyLeg.isMine, Bool.and_eq_true, decide_eq_true_eq, hchain]
    exact hevm.trans hsoroban.symm
  have hfilter : (fun l : Evm.KeyRegistry.KeyLeg => decide (l.chainId = H.chainId)
      && decide (l.registry = Evm.KeyRegistry.registryId H)) ∘ evmLeg H K W
        = KeyRegistry.KeyLeg.isMine K config ∘ sorobanLeg H K W := funext hmine
  unfold Evm.KeyRegistry.requireOwnLeg KeyRegistry.checkLegs
  rw [hnonce, List.filter_map, List.filter_map, hfilter]
  rcases owner.legs.filter (KeyRegistry.KeyLeg.isMine K config ∘ sorobanLeg H K W) with _ | ⟨l, _ | _⟩
  · exact iff_of_false (by simp) (by simp)
  · simp only [List.map_cons, List.map_nil, Check.require_ok]
    exact ⟨wideNonce_inj, congrArg (BitVec.setWidth 256)⟩
  · exact iff_of_false (by simp) (by simp)

theorem checkOwner_ok (q : Signing ι) :
    KeyRegistry.checkOwner K config env q.account (sorobanOwner H K W q.owner) q.message = .ok ()
      ↔ KeyRegistry.checkLegs K config (q.owner.legs.map (sorobanLeg H K W)) q.message = .ok () ∧
        sorobanSigned H K W config q = .ok () := by
  unfold KeyRegistry.checkOwner sorobanOwner sorobanSigned
  rw [Check.bind_ok]
  constructor
  · rintro ⟨⟨⟩, hlegs, hsig⟩
    exact ⟨hlegs, hsig⟩
  · rintro ⟨hlegs, hsig⟩
    exact ⟨(), hlegs, hsig⟩

/-- The owner's check: the legs in order, and the signature good. -/
theorem owner_same {q : Signing ι} {nonce : U64} (hchain : config.chainId = chainId)
    (hnonce : q.message.nonce? = some nonce)
    (hsigned : evmSigned H K W q = true ↔ sorobanSigned H K W config q = .ok ()) :
    (Evm.KeyRegistry.requireOwnLeg H (evmOwner H K W q.owner).legs (nonce.setWidth 256) = .ok () ∧
        Evm.KeyRegistry.checkOwner H q.account (evmOwner H K W q.owner) q.kind q.subject q.time
          q.approved = .ok ())
      ↔ KeyRegistry.checkOwner K config env q.account (sorobanOwner H K W q.owner) q.message
        = .ok () := by
  rw [checkOwner_ok, Evm.KeyRegistry.checkOwner, Check.require_ok]
  exact and_congr (ownLeg_same hchain hnonce) hsigned

theorem bind_whenNotPaused_ok {α : Type}
    {f : Unit → Tx Evm.KeyRegistry.RegistryError (Evm.KeyRegistry.Registry Y) α}
    {r : α × Evm.KeyRegistry.Registry Y} :
    (Evm.KeyRegistry.whenNotPaused >>= f) s = .ok r
      ↔ s.settings.paused = false ∧ f () s = .ok r := by
  apply Tx.bind_passing_ok
  intro r
  rw [Evm.KeyRegistry.whenNotPaused, Tx.bind_read_ok, Tx.require_ok]

theorem bind_requireNotPaused_ok {α : Type}
    {f : Unit → Tx KeyRegistry.RegistryError (KeyRegistry.Chain Y') α}
    {r : α × KeyRegistry.Chain Y'} :
    (KeyRegistry.requireNotPaused >>= f) t = .ok r
      ↔ t.state.paused = false ∧ f () t = .ok r := by
  apply Tx.bind_passing_ok
  intro r
  rw [KeyRegistry.requireNotPaused, Tx.bind_read_ok, Tx.require_ok]

theorem requireConfig_runs (hconfig : t.state.config = some config) :
    KeyRegistry.requireConfig t = .ok (config, t) := by
  rw [KeyRegistry.requireConfig, Tx.bind_read_ok, Tx.expect_ok]
  exact ⟨config, hconfig, rfl⟩

theorem bind_requireDeadline_ok {α : Type} {deadline : U64}
    {f : Unit → Tx KeyRegistry.RegistryError (KeyRegistry.Chain Y') α}
    {r : α × KeyRegistry.Chain Y'} :
    (KeyRegistry.requireDeadline env deadline >>= f) t = .ok r
      ↔ (env.now ≤ deadline.toNat ∧ deadline.toNat - env.now ≤ KeyRegistry.MAX_REGISTER_TTL) ∧
        f () t = .ok r := by
  apply Tx.bind_passing_ok
  intro r
  rw [KeyRegistry.requireDeadline, Tx.bind_require_ok, Tx.require_ok, and_assoc]

/-- A retirement names no registry. -/
theorem retire_same {commitment : BytesN32} {validUntil : U64} (hsigned : evmSigned H K W ⟨account, owner, .retire, commitment, validUntil, false,
        .retire commitment validUntil⟩ = true
      ↔ sorobanSigned H K W config ⟨account, owner, .retire, commitment, validUntil, false,
        .retire commitment validUntil⟩ = .ok ()) :
    ((evmOwner H K W owner).legs = [] ∧ Evm.KeyRegistry.checkOwner H account (evmOwner H K W owner)
        .retire commitment validUntil false = .ok ())
      ↔ KeyRegistry.checkOwner K config env account (sorobanOwner H K W owner)
        (.retire commitment validUntil) = .ok () := by
  have howner := @checkOwner_ok ι chainId H K W config env ⟨account, owner, .retire, commitment,
    validUntil, false, .retire commitment validUntil⟩
  rw [howner, Evm.KeyRegistry.checkOwner, Check.require_ok, ← hsigned]
  apply and_congr_left
  intro _
  show owner.legs.map _ = [] ↔ Check.require (owner.legs.map _ = []) _ = .ok ()
  rw [Check.require_ok, List.map_eq_nil_iff, List.map_eq_nil_iff]

/-- Seven days past the clock do not overflow on EVM. -/
theorem deadline_same (hnow : timestamp.toNat = env.now) {deadline : U64} :
    Evm.KeyRegistry.requireDeadline timestamp deadline = .ok ()
      ↔ env.now ≤ deadline.toNat ∧
        deadline.toNat - env.now ≤ KeyRegistry.MAX_REGISTER_TTL := by
  have hclock := env.now_lt
  simp only [Evm.KeyRegistry.requireDeadline, Check.bind_ok, Check.require_ok, Check.add_ok, hnow]
  constructor
  · rintro ⟨⟨⟩, hpassed, _, ⟨-, rfl⟩, hfar⟩
    refine ⟨hpassed, ?_⟩
    unfold Evm.KeyRegistry.MAX_REGISTER_TTL at hfar
    unfold KeyRegistry.MAX_REGISTER_TTL
    omega
  · rintro ⟨hpassed, hfar⟩
    unfold KeyRegistry.MAX_REGISTER_TTL at hfar
    unfold Evm.KeyRegistry.MAX_REGISTER_TTL
    exact ⟨(), hpassed, _, ⟨by omega, rfl⟩, by omega⟩

/-- The identity is refused on both, and any other key has one commitment. -/
theorem identity_same (hhash : SameKeccak H K) (key : WrittenKey) :
    H.keccak256 key.evm.1 ≠ Evm.KeyRegistry.IDENTITY_COMMITMENT
      ↔ key.soroban ≠ KeyRegistry.g1Identity := by
  rw [ne_eq, hhash.identity]
  constructor
  · exact fun hne hidentity => hne (key.identity hidentity)
  · exact fun hne => (key.point hne).2

theorem commitment_same (hhash : SameKeccak H K) {key : WrittenKey}
    (hne : key.soroban ≠ KeyRegistry.g1Identity) :
    H.keccak256 key.evm.1 = key.commitment K := by
  rw [hhash.same, (key.point hne).1]
  rfl

theorem nonce_room {nonce : U64} (hlast : nonce ≠ BitVec.allOnes 64) : nonce.toNat + 1 < 2 ^ 64 := by
  have hlt := nonce.isLt
  have hne : nonce.toNat ≠ 2 ^ 64 - 1 := by
    intro heq
    apply hlast
    apply BitVec.eq_of_toNat_eq
    rw [heq, BitVec.toNat_allOnes]
  omega

theorem toNat_wideNonce (nonce : U64) : (nonce.setWidth 256).toNat = nonce.toNat := by
  rw [BitVec.toNat_setWidth]
  exact Nat.mod_eq_of_lt (lt_trans nonce.isLt (by norm_num))

theorem nonce_same {k : KeyRegistry.Keys} (h : SameAccount s k account) (nonce : U64) :
    nonce.setWidth 256 = s.nonce account ↔ nonce.toNat = k.getNonce account := by
  rw [← h.nonce, ← toNat_wideNonce]
  exact BitVec.toNat_inj.symm

theorem addNonce_runs {ε : Type} {w : ℕ} {nonce : U64} (hlast : nonce ≠ BitVec.allOnes 64)
    (hw : 64 ≤ w) : (Check.add w nonce.toNat 1 : Check ε ℕ) = .ok (nonce.toNat + 1) :=
  Check.add_ok.mpr ⟨lt_of_lt_of_le (nonce_room hlast) (Nat.pow_le_pow_right (by norm_num) hw), rfl⟩

theorem bumpNonce_runs {nonce : U64} (hlast : nonce ≠ BitVec.allOnes 64) :
    Evm.KeyRegistry.bumpNonce account (nonce.setWidth 256) s = .ok ((), { s with
      nonceOf := s.nonceOf.set account (BitVec.ofNat 256 (nonce.toNat + 1)) }) := by
  rw [Evm.KeyRegistry.bumpNonce, toNat_wideNonce, addNonce_runs hlast (by norm_num),
    Tx.bind_lift_ok]
  exact ⟨_, rfl, rfl⟩

/-- Below the last nonce, the nonce of the account goes up on both. -/
theorem bumpNonce_agrees (h : MidwayRegistry chainId N p s t t.keys) {nonce : U64}
    (hlast : nonce ≠ BitVec.allOnes 64) {α β : Type} {Q : α → Evm.KeyRegistry.Registry Y → β →
      KeyRegistry.Chain Y' → Prop}
    {f : Unit → Tx Evm.KeyRegistry.RegistryError (Evm.KeyRegistry.Registry Y) α}
    {g : Unit → Tx KeyRegistry.RegistryError (KeyRegistry.Chain Y') β}
    (hrest : ∀ s' t', MidwayRegistry chainId N p s' t' t'.keys → Tx.Agrees Q (f ()) (g ()) s' t') :
    Tx.Agrees Q (Evm.KeyRegistry.bumpNonce account (nonce.setWidth 256) >>= f)
      (Tx.lift (Check.add 64 nonce.toNat 1) >>= fun next =>
        KeyRegistry.setKeys (fun k => k.setNonce account next) >>= g) s t := by
  apply Tx.Agrees.left (bumpNonce_runs hlast)
  rw [addNonce_runs hlast le_rfl]
  apply Tx.Agrees.right (Tx.lift_ok.mpr ⟨_, rfl, rfl⟩)
  apply Tx.Agrees.modify_right
  exact hrest _ _ { h with records := h.records.setNonce (nonce_room hlast) }

end Owner

section Calls

variable {π ι Y Y' : Type} {chainId : U128} {P : Evm.Primitives} {H : Evm.KeyRegistry.Host}
  {K : KeyHost} {W : Places ι H K chainId} {N : Parties π} {hasCode : Evm.EvmAddress → Bool}
  {p : π} {M : Evm.KeyRegistry.Neighbors Y} {M' : KeyRegistry.Neighbors Y'}
  {S : Evm.KeyRegistry.Contract Y} {t : KeyRegistry.Chain Y'} {c : RegistryAsked π ι Y Y'}
  {account : BytesN32} {owner : Signature ι}

theorem ne_last_of_call {nonce : U64} (hlast : ¬LastNonce c) (hnonce : c.call.nonce? = some nonce) :
    nonce ≠ BitVec.allOnes 64 := fun heq => hlast (hnonce.trans (congrArg some heq))

/-- What both leave: alike, with the answers `Q` relates. -/
abbrev Answering (chainId : U128) (N : Parties π) (p : π) {α β : Type} (Q : α → β → Prop) :
    α → Evm.KeyRegistry.Registry Y → β → KeyRegistry.Chain Y' → Prop :=
  fun a s b t => Q a b ∧ MidwayRegistry chainId N p s t t.keys

variable (hsame : SameAnswers P H K W N hasCode M M' S t c)
  (h : MidwayRegistry chainId N p S.registry t t.keys)

include hsame h

theorem register_agrees (hsound : ∀ account, t.keys.Sound account) (hhash : SameKeccak H K)
    (hlast : ¬LastNonce c) {key : WrittenKey} {pop : WrittenPop} {nonce deadline : U64}
    (hcall : c.call = .register account owner key pop nonce deadline) :
    Tx.Agrees (Answering chainId N p (· = ·))
      (Evm.KeyRegistry.register M H (c.message N).timestamp account (evmOwner H K W owner)
        key.evm.1 pop.evm.1 (nonce.setWidth 256) deadline)
      (KeyRegistry.register M' K (c.env N) account (sorobanOwner H K W owner) key.soroban
        pop.soroban nonce deadline) S.registry t := by
  obtain ⟨config, hconfig, hchain⟩ := h.config
  have hnonce := nonce_same (h.records account) nonce
  have hpossessed := hsame.possessed config account key pop nonce hconfig (by rw [hcall]; rfl)
  have hlengths : ¬(key.evm.1.length ≠ 128 ∨ pop.evm.1.length ≠ 256) := by
    simp [key.evm.2, pop.evm.2]
  unfold Evm.KeyRegistry.register KeyRegistry.register
  apply Tx.Agrees.right (requireConfig_runs hconfig)
  refine Tx.Agrees.of_guarded (fun _ => bind_whenNotPaused_ok) (fun _ => bind_requireNotPaused_ok)
    (by rw [h.paused]) fun _ => ?_
  refine Tx.Agrees.of_guarded (fun _ => Tx.bind_check_ok) (fun _ => bind_requireDeadline_ok)
    (deadline_same (c.message_now N)) fun _ => ?_
  apply Tx.Agrees.left (Tx.require_ok.mpr ⟨hlengths, rfl⟩)
  apply Tx.Agrees.read
  apply Tx.Agrees.require hnonce
  intro _
  apply Tx.Agrees.require (identity_same hhash key)
  intro hne
  have hcommitment := commitment_same hhash ((identity_same hhash key).mp hne)
  have hsigned := hsame.signed config _ hconfig (by rw [hcall]; rfl)
  refine Tx.Agrees.of_guarded (fun _ => Tx.bind_check_ok) (fun _ => Tx.bind_verdict_ok)
    (Check.require_ok.trans hpossessed) fun _ => ?_
  rw [hcommitment]
  refine Tx.Agrees.of_guarded (fun _ => Tx.bind_checks_ok) (fun _ => Tx.bind_check_ok)
    (owner_same hchain rfl hsigned) fun _ => ?_
  refine (addSlot_agrees h (hsound account) (c.message_now N) hsame.guards
    (hhash.nonzero _)).bind ?_
  rintro slotId s₁ _ t₁ - - ⟨rfl, h₁⟩
  apply bumpNonce_agrees h₁ (ne_last_of_call hlast (by rw [hcall]; rfl))
  intro s₂ t₂ h₂
  apply Tx.Agrees.modify_right
  exact Tx.Agrees.pure ⟨rfl, { h₂ with }⟩

theorem registerByProof_agrees (hsound : ∀ account, t.keys.Sound account)
    (hhash : SameKeccak H K) {key : WrittenKey} {pop : WrittenPop} {epoch : U64}
    {sourceChainId : U128} {root : BytesN32} {proof : Bytes}
    (hcall : c.call = .registerByProof account key pop epoch sourceChainId root proof) :
    Tx.Agrees (Answering chainId N p (· = ·))
      (Evm.KeyRegistry.registerByProof M H (c.message N).timestamp account key.evm.1 pop.evm.1
        epoch (wide sourceChainId) root proof)
      (KeyRegistry.registerByProof M' K (c.env N) account key.soroban pop.soroban epoch
        sourceChainId root proof) S.registry t := by
  obtain ⟨config, hconfig, hchain⟩ := h.config
  have hpossessed := hsame.possessed config account key pop epoch hconfig (by rw [hcall]; rfl)
  have hlengths : ¬(key.evm.1.length ≠ 128 ∨ pop.evm.1.length ≠ 256) := by
    simp [key.evm.2, pop.evm.2]
  unfold Evm.KeyRegistry.registerByProof KeyRegistry.registerByProof
  apply Tx.Agrees.right (requireConfig_runs hconfig)
  refine Tx.Agrees.of_guarded (fun _ => bind_whenNotPaused_ok) (fun _ => bind_requireNotPaused_ok)
    (by rw [h.paused]) fun _ => ?_
  apply Tx.Agrees.read
  cases hwiring : t.state.proofRegistration.filter fun w => w.enabled with
  | none =>
    apply Tx.Agrees.of_refused
    · rintro ⟨r, hr⟩
      have henabled := (Tx.bind_require_ok.mp hr).1
      rw [h.enabled, Option.any_eq_true] at henabled
      obtain ⟨w, hw, hon⟩ := henabled
      rw [hw, Option.filter_some, if_pos hon] at hwiring
      cases hwiring
    · rintro ⟨r, hr⟩
      obtain ⟨w, hw, -⟩ := Tx.bind_expect_ok.mp hr
      cases hw
  | some w =>
    obtain ⟨hw, hon⟩ := Option.filter_eq_some_iff.mp hwiring
    have henabled : S.registry.settings.proofRegistrationEnabled = true := by
      rw [h.enabled, hw]
      exact hon
    apply Tx.Agrees.left (Tx.require_ok.mpr ⟨henabled, rfl⟩)
    apply Tx.Agrees.expect_right rfl
    apply Tx.Agrees.left (Tx.require_ok.mpr ⟨hlengths, rfl⟩)
    apply Tx.Agrees.require (identity_same hhash key)
    intro hne
    have hcommitment := commitment_same hhash ((identity_same hhash key).mp hne)
    rw [hcommitment]
    apply Tx.Agrees.require
    · rw [(h.records account).used]
      exact Iff.rfl
    intro _
    apply Tx.Agrees.require
    · rw [h.sources w hw]
      exact ⟨fun hmem => by
        obtain ⟨source, hsource, heq⟩ := List.mem_map.mp hmem
        exact wide_inj heq ▸ hsource, List.mem_map_of_mem⟩
    intro _
    refine Tx.Agrees.of_guarded (fun _ => Tx.bind_answer_ok) (fun _ => Tx.bind_require_ok)
      (hsame.anchored w sourceChainId root hw) fun _ => ?_
    refine Tx.Agrees.of_guarded (fun _ => Tx.bind_check_ok) (fun _ => Tx.bind_verdict_ok)
      (Check.require_ok.trans hpossessed) fun _ => ?_
    refine Tx.Agrees.of_guarded (fun _ => Tx.bind_answer_ok) (fun _ => Tx.bind_require_ok)
      (hsame.proven w config account _ epoch root proof hw hconfig) fun _ => ?_
    apply Tx.Agrees.then_right (addSlot_agrees h (hsound account) (c.message_now N) hsame.guards
      (hhash.nonzero _))
    rintro slotId s₁ _ t₁ ⟨rfl, h₁⟩
    exact ⟨slotId, _, rfl, rfl, { h₁ with }⟩

theorem setValidUntil_agrees (hsound : ∀ account, t.keys.Sound account) {commitment : BytesN32}
    {validUntil : U64} (hcall : c.call = .setValidUntil account owner commitment validUntil) :
    Tx.Agrees (Answering chainId N p (· = ·))
      (Evm.KeyRegistry.setValidUntil H (c.message N).timestamp account (evmOwner H K W owner)
        commitment validUntil)
      (KeyRegistry.setValidUntil K (c.env N) account (sorobanOwner H K W owner) commitment
        validUntil) S.registry t := by
  obtain ⟨config, hconfig, hchain⟩ := h.config
  have hsigned := hsame.signed config _ hconfig (by rw [hcall]; rfl)
  have hslotOfKey := fun id => @SameAccount.slotOfKey Y S.registry t.keys account
    (h.records account) (hsound account) commitment id
  unfold Evm.KeyRegistry.setValidUntil KeyRegistry.setValidUntil
  apply Tx.Agrees.right (requireConfig_runs hconfig)
  cases hkey : t.keys.slotOfKey account commitment with
  | none =>
    apply Tx.Agrees.of_refused
    · rintro ⟨r, hr⟩
      obtain ⟨id, hid, -⟩ := Tx.bind_view_ok.mp hr
      rw [(hslotOfKey id).mp hid] at hkey
      cases hkey
    · rintro ⟨r, hr⟩
      simp only [Tx.bind_read_ok, Tx.bind_expect_ok] at hr
      obtain ⟨id, hid, slot, hslot, -⟩ := hr
      unfold KeyRegistry.Keys.slotOfKey at hkey
      rw [hid, Option.filter_some, hslot] at hkey
      cases hkey
  | some id =>
    have hid := hkey
    unfold KeyRegistry.Keys.slotOfKey at hid
    obtain ⟨hid, hsome⟩ := Option.filter_eq_some_iff.mp hid
    obtain ⟨slot, hslot⟩ := Option.isSome_iff_exists.mp hsome
    apply Tx.Agrees.left (Tx.view_ok.mpr ⟨id, (hslotOfKey id).mpr hkey, rfl⟩)
    apply Tx.Agrees.read
    apply Tx.Agrees.expect_right hid
    apply Tx.Agrees.expect_right hslot
    have hevm : (S.registry.entry account).slot id = evmSlot slot := by
      rw [(h.records account).slot, hslot]
      rfl
    dsimp only
    rw [hevm]
    apply Tx.Agrees.require Iff.rfl
    intro _
    refine Tx.Agrees.of_guarded (fun _ => Tx.bind_require_check_ok) (fun _ => Tx.bind_check_ok)
      (retire_same hsigned) fun _ => ?_
    apply Tx.Agrees.modify_right (x := Tx.modify _)
    apply Tx.Agrees.modify_right (x := Tx.modify _)
    refine Tx.Agrees.modify ⟨rfl, { h with records := ?_ }⟩
    have hclock : (c.message N).timestamp.toNat % 2 ^ 64 = (c.env N).now := by
      rw [c.message_now N]
      exact Nat.mod_eq_of_lt (c.env N).now_lt
    have hstop : (if validUntil.toNat < (c.env N).now then (c.env N).now else validUntil.toNat)
        = max validUntil.toNat (c.env N).now := by
      split <;> omega
    have hexpiry : ∀ prev eff : ℕ, (if prev = 0 ∨ eff < prev then eff else prev)
        = if prev = 0 then eff else min prev eff := by
      intro prev eff
      split_ifs <;> omega
    rw [hclock, hstop, (h.records account).expiries, hexpiry]
    exact h.records.shorten

theorem cancelPending_agrees (hlast : ¬LastNonce c) {nonce : U64}
    (hcall : c.call = .cancel account owner nonce) :
    Tx.Agrees (Answering chainId N p (· = ·))
      (Evm.KeyRegistry.cancel H account (evmOwner H K W owner) (nonce.setWidth 256))
      (KeyRegistry.cancelPending K (c.env N) account (sorobanOwner H K W owner) nonce)
      S.registry t := by
  obtain ⟨config, hconfig, hchain⟩ := h.config
  have hsigned := hsame.signed config _ hconfig (by rw [hcall]; rfl)
  have hne := ne_last_of_call hlast (by rw [hcall]; rfl : c.call.nonce? = some nonce)
  unfold Evm.KeyRegistry.cancel KeyRegistry.cancelPending
  apply Tx.Agrees.right (requireConfig_runs hconfig)
  refine Tx.Agrees.of_guarded (fun _ => bind_whenNotPaused_ok) (fun _ => bind_requireNotPaused_ok)
    (by rw [h.paused]) fun _ => ?_
  apply Tx.Agrees.read
  apply Tx.Agrees.require (nonce_same (h.records account) nonce)
  intro _
  refine Tx.Agrees.of_guarded (fun _ => Tx.bind_checks_ok) (fun _ => Tx.bind_check_ok)
    (owner_same hchain rfl hsigned) fun _ => ?_
  rw [addNonce_runs hne le_rfl]
  apply Tx.Agrees.right (Tx.lift_ok.mpr ⟨_, rfl, rfl⟩)
  refine Tx.Agrees.of_ok (bumpNonce_runs hne) rfl ⟨rfl, ?_⟩
  exact { h with records := h.records.setNonce (nonce_room hne) }

theorem revoke_agrees (hlast : ¬LastNonce c) {nonce : U64}
    (hcall : c.call = .revoke account owner nonce) :
    Tx.Agrees (Answering chainId N p (· = ·))
      (Evm.KeyRegistry.revoke M H account (evmOwner H K W owner) (nonce.setWidth 256))
      (KeyRegistry.revoke M' K (c.env N) account (sorobanOwner H K W owner) nonce)
      S.registry t := by
  obtain ⟨config, hconfig, hchain⟩ := h.config
  have hsigned := hsame.signed config _ hconfig (by rw [hcall]; rfl)
  have hne := ne_last_of_call hlast (by rw [hcall]; rfl : c.call.nonce? = some nonce)
  unfold Evm.KeyRegistry.revoke KeyRegistry.revoke
  apply Tx.Agrees.right (requireConfig_runs hconfig)
  refine Tx.Agrees.of_guarded (fun _ => bind_whenNotPaused_ok) (fun _ => bind_requireNotPaused_ok)
    (by rw [h.paused]) fun _ => ?_
  apply Tx.Agrees.read
  apply Tx.Agrees.require (nonce_same (h.records account) nonce)
  intro _
  have hlive : (S.registry.entry account).liveSlots ≠ [] ↔ (t.keys.getEntry account).live ≠ [] := by
    rw [ne_eq, ne_eq, ← List.length_eq_zero_iff, ← List.length_eq_zero_iff,
      (h.records account).live.length_eq]
  refine Tx.Agrees.of_guarded (fun _ => Tx.bind_check_ok) (fun _ => Tx.bind_check_ok) ?_ fun _ => ?_
  · by_cases hslots : (t.keys.getEntry account).live ≠ []
    · rw [if_pos (hlive.mpr hslots), if_pos hslots]
      exact requireNoOpenPositions_same h hsame.guards
    · rw [if_neg (hlive.not.mpr hslots), if_neg hslots]
      exact iff_of_true rfl rfl
  refine Tx.Agrees.of_guarded (fun _ => Tx.bind_checks_ok) (fun _ => Tx.bind_check_ok)
    (owner_same hchain rfl hsigned) fun _ => ?_
  apply Tx.Agrees.modify_left
  apply Tx.Agrees.modify_right
  apply Tx.Agrees.modify_right
  refine @bumpNonce_agrees π Y Y' chainId N p _ _ account ?_ nonce hne _ _ _ _ _ fun s₁ t₁ h₁ => ?_
  · exact { h with records := h.records.clear }
  · rw [(h.records account).generation]
    apply Tx.Agrees.lift_same fun next => by rw [Check.add_ok, Check.add_ok]
    intro generation _
    apply Tx.Agrees.modify_right (x := Tx.modify _)
    exact Tx.Agrees.modify ⟨rfl, { h₁ with records := h₁.records.setGeneration }⟩

theorem approveMaker_agrees (hlast : ¬LastNonce c) {maker : BytesN32} {approved : Bool}
    {nonce deadline : U64} (hcall : c.call = .approveMaker account maker approved owner nonce deadline) :
    Tx.Agrees (Answering chainId N p (· = ·))
      (Evm.KeyRegistry.approveMaker H (c.message N).timestamp account maker approved
        (evmOwner H K W owner) (nonce.setWidth 256) deadline)
      (KeyRegistry.approveMaker K (c.env N) account maker approved (sorobanOwner H K W owner) nonce
        deadline) S.registry t := by
  obtain ⟨config, hconfig, hchain⟩ := h.config
  have hsigned := hsame.signed config _ hconfig (by rw [hcall]; rfl)
  have hne := ne_last_of_call hlast (by rw [hcall]; rfl : c.call.nonce? = some nonce)
  unfold Evm.KeyRegistry.approveMaker KeyRegistry.approveMaker
  apply Tx.Agrees.right (requireConfig_runs hconfig)
  apply Tx.Agrees.read
  apply Tx.Agrees.require (by rw [h.paused])
  intro _
  refine Tx.Agrees.of_guarded (fun _ => Tx.bind_check_ok) (fun _ => bind_requireDeadline_ok)
    (deadline_same (c.message_now N)) fun _ => ?_
  apply Tx.Agrees.require
  · rw [toNat_wideNonce, (h.records account).approvals]
    exact Iff.rfl
  intro _
  refine Tx.Agrees.of_guarded (fun _ => Tx.bind_checks_ok) (fun _ => Tx.bind_check_ok)
    (owner_same hchain rfl hsigned) fun _ => ?_
  rw [toNat_wideNonce, addNonce_runs hne (by norm_num : 64 ≤ 256), addNonce_runs hne le_rfl]
  apply Tx.Agrees.lift rfl rfl
  apply Tx.Agrees.modify_right (x := Tx.modify _)
  refine Tx.Agrees.modify ⟨rfl, { h with records := ?_ }⟩
  rw [Nat.mod_eq_of_lt (nonce_room hne), (h.records account).generation]
  exact h.records.setApproval { approved, nonce := _, generation := _ }

theorem approveRepin_agrees (hlast : ¬LastNonce c) {orderHash : BytesN32} {fromSlot toSlot : U32}
    {nonce : U64} (hcall : c.call = .approveRepin account orderHash fromSlot toSlot owner nonce) :
    Tx.Agrees (Answering chainId N p (· = ·))
      (Evm.KeyRegistry.approveRepin H account orderHash fromSlot toSlot (evmOwner H K W owner)
        (nonce.setWidth 256))
      (KeyRegistry.approveRepin K (c.env N) account orderHash fromSlot toSlot
        (sorobanOwner H K W owner) nonce) S.registry t := by
  obtain ⟨config, hconfig, hchain⟩ := h.config
  have hsigned := hsame.signed config _ hconfig (by rw [hcall]; rfl)
  have hne := ne_last_of_call hlast (by rw [hcall]; rfl : c.call.nonce? = some nonce)
  unfold Evm.KeyRegistry.approveRepin KeyRegistry.approveRepin
  apply Tx.Agrees.right (requireConfig_runs hconfig)
  apply Tx.Agrees.read
  apply Tx.Agrees.require
  · rw [toNat_wideNonce, (h.records account).repins]
    exact Iff.rfl
  intro _
  refine Tx.Agrees.of_guarded (fun _ => Tx.bind_checks_ok) (fun _ => Tx.bind_check_ok)
    (owner_same hchain rfl hsigned) fun _ => ?_
  rw [toNat_wideNonce, addNonce_runs hne (by norm_num : 64 ≤ 256), addNonce_runs hne le_rfl]
  apply Tx.Agrees.lift rfl rfl
  apply Tx.Agrees.modify_right (x := Tx.modify _)
  refine Tx.Agrees.modify ⟨rfl, { h with records := ?_ }⟩
  rw [Nat.mod_eq_of_lt (nonce_room hne)]
  exact h.records.setRepin { fromSlot, toSlot, nonce := _ }

end Calls

/-! ## The admin's calls -/

section Admin

variable {π ι Y Y' : Type} {chainId : U128} {P : Evm.Primitives} {H : Evm.KeyRegistry.Host}
  {K : KeyHost} {W : Places ι H K chainId} {N : Parties π} {hasCode : Evm.EvmAddress → Bool}
  {M : Evm.KeyRegistry.Neighbors Y} {M' : KeyRegistry.Neighbors Y'}
  {S : Evm.KeyRegistry.Contract Y} {t : KeyRegistry.Chain Y'} {c : RegistryAsked π ι Y Y'}

theorem getAdmin_runs {p : π} (h : MidwayRegistry chainId N p S.registry t t.keys) :
    Tx.view KeyRegistry.getAdmin t = .ok (N.soroban p, t) := by
  rw [Tx.view_ok, KeyRegistry.getAdmin, h.admin]
  exact ⟨_, rfl, rfl⟩

/-- Only the admin passes, on both, and nothing is touched. -/
theorem registryAdmin_agrees (h : SameRegistry chainId N S t) :
    Tx.Agrees (fun _ S' _ t' => S' = S ∧ t' = t)
      (Evm.KeyRegistry.Contract.onAccess (Evm.AdminTimelock.onlyAdmin (c.message N)))
      (KeyRegistry.requireAdmin (c.env N)) S t := by
  obtain ⟨p, hevm, h⟩ := h
  have hleft : ∀ r, Evm.KeyRegistry.Contract.onAccess (Evm.AdminTimelock.onlyAdmin (c.message N)) S
      = .ok r ↔ c.caller = p ∧ r = ((), S) := by
    intro r
    rw [Tx.zoom_ok]
    simp only [Evm.AdminTimelock.onlyAdmin_ok, Prod.mk.injEq]
    have hsender : (c.message N).sender = S.access.admin ↔ c.caller = p := by
      rw [hevm]
      exact N.evm_inj.eq_iff
    rw [hsender]
    constructor
    · rintro ⟨_, _, ⟨hp, -, rfl⟩, rfl⟩
      exact ⟨hp, rfl⟩
    · rintro ⟨hp, rfl⟩
      exact ⟨(), _, ⟨hp, trivial, rfl⟩, rfl⟩
  have hright : ∀ r, KeyRegistry.requireAdmin (c.env N) t = .ok r
      ↔ c.caller = p ∧ r = (N.soroban p, t) := by
    intro r
    have hauth : (c.env N).authorized (N.soroban p) = true ↔ c.caller = p := by
      show decide (N.soroban p = N.soroban c.caller) = true ↔ _
      rw [decide_eq_true_iff, N.soroban_inj.eq_iff, eq_comm]
    simp only [KeyRegistry.requireAdmin, Tx.bind_view_ok, KeyRegistry.getAdmin, h.admin,
      Check.expectTrap_ok, Option.some.injEq, exists_eq_left', requireAuth, Tx.bind_demand_ok,
      Tx.pure_ok, hauth]
  exact Tx.Agrees.of_iff hleft hright Iff.rfl fun _ => ⟨rfl, rfl⟩

/-- A gated setter: one verdict of the two timelocks, and then the same. -/
theorem gatedRegistry_agrees {p : π} (hevm : S.access.admin = N.evm p)
    (h : MidwayRegistry chainId N p S.registry t t.keys)
    {x : Tx Evm.AdminError Evm.AdminTimelock Unit} {y : Tx Fault Timelock Unit}
    (hverdict : x.Accepts S.access ↔ y.Accepts t.state.timelock)
    (hadmin : ∀ access, x S.access = .ok ((), access) → access.admin = S.access.admin)
    {f : Unit → Tx Evm.KeyRegistry.ContractError (Evm.KeyRegistry.Contract Y) Unit}
    {g : Unit → Tx KeyRegistry.RegistryError (KeyRegistry.Chain Y') Unit}
    (hrest : ∀ S' t', S'.access.admin = N.evm p → S'.registry = S.registry →
      MidwayRegistry chainId N p S'.registry t' t'.keys →
      Tx.Agrees (Tx.Leaving (SameRegistry chainId N)) (f ()) (g ()) S' t') :
    Tx.Agrees (Tx.Leaving (SameRegistry chainId N)) (Evm.KeyRegistry.Contract.onAccess x >>= f)
      (KeyRegistry.onTimelock y >>= g) S t := by
  by_cases hx : x.Accepts S.access
  · obtain ⟨⟨⟨⟩, timelock⟩, hy⟩ := hverdict.mp hx
    obtain ⟨⟨⟨⟩, access⟩, hx⟩ := hx
    apply Tx.Agrees.left (Tx.zoom_ok.mpr ⟨(), access, hx, rfl⟩)
    have hgate : KeyRegistry.onTimelock y t
        = .ok ((), { t with state := { t.state with timelock } }) :=
      Tx.zoom_ok.mpr ⟨(), timelock, hy, rfl⟩
    apply Tx.Agrees.right hgate
    apply hrest
    · exact (hadmin access hx).trans hevm
    · rfl
    · exact { h with }
  · apply Tx.Agrees.of_refused
    · rintro ⟨r, hr⟩
      obtain ⟨_, access, hok, -⟩ := Tx.bind_zoom_ok.mp hr
      exact hx ⟨_, hok⟩
    · rintro ⟨r, hr⟩
      obtain ⟨_, timelock, hok, -⟩ := Tx.bind_zoom_ok.mp hr
      exact hx (hverdict.mpr ⟨_, hok⟩)

theorem pauseRegistry_agrees (h : SameRegistry chainId N S t)
    (hpaused : S.registry.settings.paused = false) :
    Tx.Agrees (Tx.Leaving (SameRegistry chainId N))
      (Evm.KeyRegistry.Contract.pause (c.message N)) (KeyRegistry.pause (c.env N)) S t := by
  unfold Evm.KeyRegistry.Contract.pause KeyRegistry.pause
  apply (registryAdmin_agrees h).bind
  rintro ⟨⟩ S' admin t' - - ⟨rfl, rfl⟩
  obtain ⟨p, hevm, h⟩ := h
  apply Tx.Agrees.read_left
  apply Tx.Agrees.left (Tx.require_ok.mpr ⟨hpaused, rfl⟩)
  apply Tx.Agrees.modify_right (x := Tx.modify _)
  exact Tx.Agrees.modify ⟨p, hevm, { h with paused := rfl, records := h.records.rewire }⟩

theorem unpauseRegistry_agrees (h : SameRegistry chainId N S t)
    (hpaused : S.registry.settings.paused = true) :
    Tx.Agrees (Tx.Leaving (SameRegistry chainId N))
      (Evm.KeyRegistry.Contract.unpause (c.message N)) (KeyRegistry.unpause (c.env N)) S t := by
  unfold Evm.KeyRegistry.Contract.unpause KeyRegistry.unpause
  apply (registryAdmin_agrees h).bind
  rintro ⟨⟩ S' admin t' - - ⟨rfl, rfl⟩
  obtain ⟨p, hevm, h⟩ := h
  apply Tx.Agrees.read_left
  apply Tx.Agrees.left (Tx.require_ok.mpr ⟨hpaused, rfl⟩)
  apply Tx.Agrees.modify_right (x := Tx.modify _)
  exact Tx.Agrees.modify ⟨p, hevm, { h with paused := rfl, records := h.records.rewire }⟩

theorem setPositionGuards_agrees (hsame : SameAnswers P H K W N hasCode M M' S t c)
    (h : SameRegistry chainId N S t) {guards : List π} (hcall : c.call = .setPositionGuards guards) :
    Tx.Agrees (Tx.Leaving (SameRegistry chainId N))
      (Evm.KeyRegistry.Contract.setPositionGuards P (c.message N) (guards.map N.evm))
      (KeyRegistry.setPositionGuards K (c.env N) (guards.map N.soroban)) S t := by
  obtain ⟨p, hevm, h⟩ := h
  obtain ⟨config, hconfig, -⟩ := h.config
  have hverdict := hsame.gate _ h.admin
  simp only [evmRegistryGate, sorobanRegistryGate, hcall] at hverdict
  unfold Evm.KeyRegistry.Contract.setPositionGuards KeyRegistry.setPositionGuards
  apply Tx.Agrees.right (requireConfig_runs hconfig)
  apply Tx.Agrees.right (getAdmin_runs h)
  apply gatedRegistry_agrees hevm h hverdict fun _ => Evm.AdminTimelock.timelocked_admin
  intro S' t' hevm _ h
  apply Tx.Agrees.modify_right (x := Tx.modify _)
  exact Tx.Agrees.modify ⟨p, hevm, { h with
    guards := ⟨guards, rfl, rfl⟩
    records := h.records.rewire }⟩

theorem setProofRegistration_agrees (hsame : SameAnswers P H K W N hasCode M M' S t c)
    (h : SameRegistry chainId N S t) {anchor verifier : π} {sources : List U128} {enabled : Bool}
    (hcall : c.call = .setProofRegistration anchor verifier sources enabled) :
    Tx.Agrees (Tx.Leaving (SameRegistry chainId N))
      (Evm.KeyRegistry.Contract.setProofRegistration P H hasCode (c.message N) (N.evm anchor)
        (N.evm verifier) (sources.map wide) enabled)
      (KeyRegistry.setProofRegistration K (c.env N) (N.soroban anchor) (N.soroban verifier) sources
        enabled) S t := by
  obtain ⟨p, hevm, h⟩ := h
  obtain ⟨config, hconfig, hchain⟩ := h.config
  have hverdict := hsame.gate _ h.admin
  simp only [evmRegistryGate, sorobanRegistryGate, hcall] at hverdict
  unfold Evm.KeyRegistry.Contract.setProofRegistration KeyRegistry.setProofRegistration
  apply Tx.Agrees.right (requireConfig_runs hconfig)
  apply Tx.Agrees.right (getAdmin_runs h)
  apply gatedRegistry_agrees hevm h hverdict fun _ => Evm.AdminTimelock.timelockedUnless_admin
  intro S' t' hevm _ h
  apply Tx.Agrees.require
  · cases enabled with
    | false => simp
    | true =>
      obtain ⟨hanchor, hverifier⟩ := hsame.wired _ _ _ hcall
      simp [hanchor, hverifier]
  intro _
  apply Tx.Agrees.require
  · rw [hchain, hsame.sources _ _ _ _ hcall]
  intro _
  apply Tx.Agrees.modify_right (x := Tx.modify _)
  refine Tx.Agrees.modify ⟨p, hevm, { h with
    enabled := rfl
    sources := ?_
    records := h.records.rewire }⟩
  rintro w hw
  cases hw
  rfl

end Admin

/-! ## Whole scripts -/

section Scripts

/-- The same answer: nothing, or the same slot. -/
inductive SameRet : Evm.KeyRegistry.Ret → KeyRegistry.Ret → Prop
  | unit : SameRet .unit .unit
  | slot {id : U32} : SameRet (.slot id) (.slot id)

variable {π ι Y Y' : Type} {chainId : U128} {P : Evm.Primitives} {H : Evm.KeyRegistry.Host}
  {K : KeyHost} {W : Places ι H K chainId} {N : Parties π} {hasCode : Evm.EvmAddress → Bool}
  {M : Evm.KeyRegistry.Neighbors Y} {M' : KeyRegistry.Neighbors Y'}
  {S : Evm.KeyRegistry.Contract Y} {t : KeyRegistry.Chain Y'} {c : RegistryAsked π ι Y Y'}

/-- Alike, with the same answer. -/
abbrev SameOutcome (chainId : U128) (N : Parties π) : Evm.KeyRegistry.Ret →
    Evm.KeyRegistry.Contract Y → KeyRegistry.Ret → KeyRegistry.Chain Y' → Prop :=
  fun a S b t => SameRet a b ∧ SameRegistry chainId N S t

/-- A call of the owner's as the contract makes it: the admin is not touched. -/
theorem onRegistry_agrees {p : π} (hevm : S.access.admin = N.evm p) {α β : Type} {q : α → β → Prop}
    {ret : α → Evm.KeyRegistry.Ret} {ret' : β → KeyRegistry.Ret}
    {x : Tx Evm.KeyRegistry.RegistryError (Evm.KeyRegistry.Registry Y) α}
    {y : Tx KeyRegistry.RegistryError (KeyRegistry.Chain Y') β}
    (hxy : Tx.Agrees (Answering chainId N p q) x y S.registry t)
    (hret : ∀ a b, q a b → SameRet (ret a) (ret' b)) :
    Tx.Agrees (SameOutcome chainId N) (Evm.KeyRegistry.Contract.onRegistry (Tx.answer ret x))
      (Tx.answer ret' y) S t := by
  have hanswered : Tx.Agrees (fun a s b t => SameRet a (ret' b) ∧ MidwayRegistry chainId N p s t t.keys)
      (Tx.answer ret x) y S.registry t := by
    apply Tx.Agrees.answer_left
    apply hxy.mono
    rintro a s b t ⟨hq, h⟩
    exact ⟨hret a b hq, h⟩
  apply Tx.Agrees.answer_right
  apply hanswered.zoom_left
  rintro a s b t ⟨hret, h⟩
  exact ⟨hret, p, hevm, h⟩

/-- A call of the admin's: nothing is answered. -/
theorem adminCall_agrees {x : Tx Evm.KeyRegistry.ContractError (Evm.KeyRegistry.Contract Y) Unit}
    {y : Tx KeyRegistry.RegistryError (KeyRegistry.Chain Y') Unit}
    (hxy : Tx.Agrees (Tx.Leaving (SameRegistry chainId N)) x y S t) :
    Tx.Agrees (SameOutcome chainId N) (Tx.answer (fun _ => .unit) x)
      (Tx.answer (fun _ => .unit) y) S t := by
  apply Tx.Agrees.answer_left
  apply Tx.Agrees.answer_right
  exact hxy.mono fun _ _ _ _ h => ⟨.unit, h⟩

/-- Every call but an idle pause and the last nonce: both accept it, answer the same and hold the
same after, or both refuse it. -/
theorem registryCall_agrees (hhash : SameKeccak H K) (h : SameRegistry chainId N S t)
    (hsound : ∀ account, t.keys.Sound account) (hsame : SameAnswers P H K W N hasCode M M' S t c)
    (hlast : ¬LastNonce c) (hidle : ¬IdlePause S c) :
    Tx.Agrees (SameOutcome chainId N) (registryOnEvm P H K W N hasCode M c)
      (registryOnSoroban H K W N M' c) S t := by
  obtain ⟨p, hevm, hmidway⟩ := h
  have hslot : ∀ a b : U32, a = b → SameRet (.slot a) (.slot b) := by
    rintro a _ rfl
    exact .slot
  have hunit : ∀ a b : Unit, a = b → SameRet .unit .unit := fun _ _ _ => .unit
  unfold registryOnEvm registryOnSoroban
  cases hcall : c.call with
  | register account owner key pop nonce deadline =>
    exact onRegistry_agrees hevm (register_agrees hsame hmidway hsound hhash hlast hcall) hslot
  | registerByProof account key pop epoch sourceChainId root proof =>
    exact onRegistry_agrees hevm (registerByProof_agrees hsame hmidway hsound hhash hcall) hslot
  | setValidUntil account owner commitment validUntil =>
    exact onRegistry_agrees hevm (setValidUntil_agrees hsame hmidway hsound hcall) hunit
  | revoke account owner nonce =>
    exact onRegistry_agrees hevm (revoke_agrees hsame hmidway hlast hcall) hunit
  | cancel account owner nonce =>
    exact onRegistry_agrees hevm (cancelPending_agrees hsame hmidway hlast hcall) hunit
  | approveMaker account maker approved owner nonce deadline =>
    exact onRegistry_agrees hevm (approveMaker_agrees hsame hmidway hlast hcall) hunit
  | approveRepin account orderHash fromSlot toSlot owner nonce =>
    exact onRegistry_agrees hevm (approveRepin_agrees hsame hmidway hlast hcall) hunit
  | setPositionGuards guards =>
    exact adminCall_agrees (setPositionGuards_agrees hsame ⟨p, hevm, hmidway⟩ hcall)
  | setProofRegistration anchor verifier sources enabled =>
    exact adminCall_agrees (setProofRegistration_agrees hsame ⟨p, hevm, hmidway⟩ hcall)
  | pause =>
    apply adminCall_agrees
    apply pauseRegistry_agrees ⟨p, hevm, hmidway⟩
    rw [← Bool.not_eq_true]
    exact fun hpaused => hidle (.inl ⟨hcall, hpaused⟩)
  | unpause =>
    apply adminCall_agrees
    apply unpauseRegistry_agrees ⟨p, hevm, hmidway⟩
    rw [← Bool.not_eq_false]
    exact fun hpaused => hidle (.inr ⟨hcall, hpaused⟩)
  | between access admin pendingAdmin timelock y y' =>
    obtain ⟨p, hevm, hsoroban⟩ := hsame.admin access admin pendingAdmin timelock y y' hcall
    apply adminCall_agrees
    exact Tx.Agrees.modify ⟨p, hevm, { hmidway with
      admin := congrArg some hsoroban
      records := hmidway.records.rewire }⟩

/-- The stores of the Soroban registry stay in agreement. -/
theorem sound_after (hsound : ∀ account, t.keys.Sound account) (account : BytesN32) :
    ((registryOnSoroban H K W N M' c).after t).keys.Sound account := by
  unfold Tx.after
  cases hok : registryOnSoroban H K W N M' c t with
  | error e => exact hsound account
  | ok r =>
    have hexec : ∀ call : KeyRegistry.Call, KeyRegistry.exec M' K (c.env N) call t = .ok r →
        r.2.keys.Sound account := fun call hok =>
      (KeyRegistry.step_of_exec (fun account => (hsound account).nodup) hok).1.sound hsound account
    unfold registryOnSoroban at hok
    cases hcall : c.call with
    | between access admin pendingAdmin timelock y y' =>
      rw [hcall] at hok
      obtain ⟨_, hmodify, -⟩ := Tx.answer_ok.mp hok
      have hleft := (Prod.mk.inj (Tx.modify_ok.mp hmodify)).2
      dsimp only
      rw [hleft]
      exact hsound account
    | _ =>
      rw [hcall] at hok
      exact hexec _ hok

/-- An idle pause is refused on EVM, and changes nothing on Soroban but what is published. -/
theorem idlePause_refused (h : SameRegistry chainId N S t) (hidle : IdlePause S c) :
    ¬(registryOnEvm P H K W N hasCode M c).Accepts S ∧
      SameRegistry chainId N ((registryOnEvm P H K W N hasCode M c).after S)
        ((registryOnSoroban H K W N M' c).after t) := by
  have hrefused : ¬(registryOnEvm P H K W N hasCode M c).Accepts S := by
    rintro ⟨r, hr⟩
    unfold registryOnEvm at hr
    rcases hidle with ⟨hcall, hpaused⟩ | ⟨hcall, hpaused⟩ <;> rw [hcall] at hr
    · obtain ⟨_, hpause, -⟩ := Tx.answer_ok.mp hr
      obtain ⟨_, access, -, hrest⟩ := Tx.bind_zoom_ok.mp hpause
      exact Bool.noConfusion (hpaused.symm.trans (Tx.bind_require_ok.mp hrest).1)
    · obtain ⟨_, hpause, -⟩ := Tx.answer_ok.mp hr
      obtain ⟨_, access, -, hrest⟩ := Tx.bind_zoom_ok.mp hpause
      exact Bool.noConfusion (hpaused.symm.trans (Tx.bind_require_ok.mp hrest).1)
  have hevm : (registryOnEvm P H K W N hasCode M c).after S = S := by
    unfold Tx.after
    cases hx : registryOnEvm P H K W N hasCode M c S with
    | ok r => exact absurd ⟨r, hx⟩ hrefused
    | error e => rfl
  refine ⟨hrefused, ?_⟩
  rw [hevm]
  unfold Tx.after
  cases hy : registryOnSoroban H K W N M' c t with
  | error e => exact h
  | ok r =>
    obtain ⟨p, hadmin, h⟩ := h
    have hrequire : ∀ a t', KeyRegistry.requireAdmin (c.env N) t = .ok (a, t') → t' = t := by
      intro a t' ok
      rw [KeyRegistry.requireAdmin, Tx.bind_ok] at ok
      obtain ⟨_, _, hget, ok⟩ := ok
      rw [getAdmin_runs h] at hget
      cases hget
      rw [requireAuth, Tx.bind_demand_ok, Tx.pure_ok] at ok
      exact (Prod.mk.inj ok.2).2
    unfold registryOnSoroban at hy
    rcases hidle with ⟨hcall, hpaused⟩ | ⟨hcall, hpaused⟩ <;> rw [hcall] at hy <;>
      obtain ⟨_, hpause, -⟩ := Tx.answer_ok.mp hy <;>
      obtain ⟨a, t', hauth, hrest⟩ := Tx.bind_ok.mp hpause <;>
      obtain rfl := hrequire a t' hauth <;>
      rw [Tx.bind_modify_ok, Tx.modify_ok] at hrest <;>
      have hleft := (Prod.mk.inj hrest).2
    · dsimp only
      rw [hleft]
      exact ⟨p, hadmin, { h with paused := hpaused }⟩
    · dsimp only
      rw [hleft]
      exact ⟨p, hadmin, { h with paused := hpaused }⟩

/-- Both start alike: the same admin, nothing wired, nobody registered. -/
theorem registries_started {p : π} {deployEnv : Bytes} {y : Y} {y' : Y'}
    {S₀ : Evm.KeyRegistry.Contract Y} {t₀ : KeyRegistry.Chain Y'}
    (hevm : Evm.KeyRegistry.Contract.construct (N.evm p) deployEnv (.blank y) = .ok ((), S₀))
    (hsoroban : KeyRegistry.initializeContract K (N.soroban p) chainId deployEnv (.fresh y')
      = .ok ((), t₀)) :
    SameRegistry chainId N S₀ t₀ ∧ ∀ account, t₀.keys.Sound account := by
  rw [Evm.KeyRegistry.Contract.construct, Tx.bind_require_ok, Tx.bind_require_ok, Tx.modify_ok]
    at hevm
  obtain ⟨-, -, hS₀⟩ := hevm
  obtain rfl := (Prod.mk.inj hS₀).2
  rw [KeyRegistry.initializeContract, Tx.bind_read_ok, Tx.bind_require_ok, Tx.bind_lift_ok]
    at hsoroban
  obtain ⟨-, domain, -, hrest⟩ := hsoroban
  rw [Tx.bind_modify_ok, Tx.modify_ok] at hrest
  obtain rfl := (Prod.mk.inj hrest).2
  refine ⟨⟨p, rfl, ?_⟩, KeyRegistry.Keys.sound_fresh⟩
  exact {
    admin := rfl
    config := ⟨_, rfl, rfl⟩
    paused := rfl
    guards := ⟨[], rfl, rfl⟩
    enabled := rfl
    sources := fun w hw => by cases hw
    records := fun _ => sameAccount_fresh }

/-- What the two registries tell of an account at any time. -/
structure SameViews (s : Evm.KeyRegistry.Registry Y) (k : KeyRegistry.Keys) (account : BytesN32) :
    Prop where
  slotOfKey : ∀ commitment id, Evm.KeyRegistry.slotOfKey account commitment s = .ok id
    ↔ k.slotOfKey account commitment = some id
  commitmentAt : ∀ (timestamp : Evm.Uint256) (env : Env) id commitment, timestamp.toNat = env.now →
    (Evm.KeyRegistry.commitmentAt timestamp account id s = .ok commitment
      ↔ k.commitmentAt account env id = .ok commitment)
  hasUsableSlot : ∀ (timestamp : Evm.Uint256) (env : Env), timestamp.toNat = env.now →
    Evm.KeyRegistry.hasUsableSlot timestamp account s = k.hasUsableSlot account env
  expiredAt : ∀ id, Evm.KeyRegistry.expiredAt account (s.entry account) s.expiries id
    = k.expiredAt account id
  isApprovedMaker : ∀ maker,
    Evm.KeyRegistry.isApprovedMaker account maker s = k.isApprovedMaker account maker

/-- The two registries agree: started empty and given the same calls and answers, they accept the
same next call and return the same slot, unless it is an idle pause or consumes the last nonce, and
store and tell the same of every account. -/
theorem registries_agree {p : π} {deployEnv : Bytes} {y : Y} {y' : Y'}
    {S₀ : Evm.KeyRegistry.Contract Y} {t₀ : KeyRegistry.Chain Y'}
    {script : List (RegistryAsked π ι Y Y')} (hhash : SameKeccak H K)
    (hevm : Evm.KeyRegistry.Contract.construct (N.evm p) deployEnv (.blank y) = .ok ((), S₀))
    (hsoroban : KeyRegistry.initializeContract K (N.soroban p) chainId deployEnv (.fresh y')
      = .ok ((), t₀))
    (run : Lockstep (registryOnEvm P H K W N hasCode M) (registryOnSoroban H K W N M')
      (fun S t c => SameAnswers P H K W N hasCode M M' S t c ∧ ¬LastNonce c) S₀ t₀ script S t) :
    (∀ c, SameAnswers P H K W N hasCode M M' S t c → ¬LastNonce c → ¬IdlePause S c →
        ((registryOnEvm P H K W N hasCode M c).Accepts S
          ↔ (registryOnSoroban H K W N M' c).Accepts t) ∧
        ∀ a S' b t', registryOnEvm P H K W N hasCode M c S = .ok (a, S') →
          registryOnSoroban H K W N M' c t = .ok (b, t') → SameRet a b) ∧
      (∀ c : RegistryAsked π ι Y Y', IdlePause S c →
        ¬(registryOnEvm P H K W N hasCode M c).Accepts S) ∧
      ∀ account, SameAccount S.registry t.keys account ∧ SameViews S.registry t.keys account := by
  have hstarted := registries_started hevm hsoroban
  obtain ⟨h, hsound⟩ : SameRegistry chainId N S t ∧ ∀ account, t.keys.Sound account := by
    apply Lockstep.invariant
      (R := fun S t => SameRegistry chainId N S t ∧ ∀ account, t.keys.Sound account) hstarted _ run
    rintro S t c ⟨h, hsound⟩ ⟨hsame, hlast⟩
    refine ⟨?_, sound_after hsound⟩
    by_cases hidle : IdlePause S c
    · exact (idlePause_refused h hidle).2
    · have hagrees := registryCall_agrees hhash h hsound hsame hlast hidle
      exact (hagrees.mono fun _ _ _ _ houtcome => houtcome.2).after h
  have hidles : ∀ c, IdlePause S c → ¬(registryOnEvm P H K W N hasCode M c).Accepts S ∧
      SameRegistry chainId N ((registryOnEvm P H K W N hasCode M c).after S)
        ((registryOnSoroban H K W N M' c).after t) := fun c hidle => idlePause_refused h hidle
  refine ⟨?_, fun c hidle => (hidles c hidle).1, ?_⟩
  · intro c hsame hlast hidle
    have hagrees := registryCall_agrees hhash h hsound hsame hlast hidle
    refine ⟨hagrees.accepts_iff, ?_⟩
    intro a S' b t' ha hb
    rw [Tx.Agrees, ha, hb] at hagrees
    exact hagrees.1
  · intro account
    obtain ⟨p, -, hmidway⟩ := h
    have hrecords := hmidway.records account
    exact ⟨hrecords, {
      slotOfKey := fun _ _ => hrecords.slotOfKey (hsound account)
      commitmentAt := fun _ _ _ _ hnow => hrecords.commitmentAt (hsound account) hnow
      hasUsableSlot := fun _ _ hnow => hrecords.hasUsableSlot (hsound account) hnow
      expiredAt := hrecords.toSameSlots.expiredAt
      isApprovedMaker := fun _ => hrecords.isApprovedMaker }⟩

end Scripts

/-! ## One account, one key -/

/-- Keccak-256 on the byte strings the sample hashes. -/
def sampleRegistryKeccak (b : Bytes) : BytesN32 :=
  if b = evmIdentity then Evm.KeyRegistry.IDENTITY_COMMITMENT else KeyRegistry.sampleKeysKeccak b

def sampleEvmHost : Evm.KeyRegistry.Host where
  chainId := 1
  this := 0x4B
  keccak256 := sampleRegistryKeccak
  popValid _ _ _ _ := true
  ownerSigned _ _ _ _ _ _ := true

def sampleSorobanHost : KeyHost where
  toHost := { sampleHost 0x53 with keccak256 := sampleRegistryKeccak }
  sha256 _ := 0
  secp256k1Recover _ _ _ := none
  ed25519Verify _ _ _ := true
  pairing _ _ _ _ := some true

/-- The pair under comparison, on chains 1 and 2. -/
def samplePlaces : Places Unit sampleEvmHost sampleSorobanHost 2 where
  here := ()
  evm _ := (1, 0x4B)
  soroban _ := (2, 0x53)
  evm_inj _ _ _ := rfl
  soroban_inj _ _ _ := rfl
  evm_here := rfl
  soroban_here := rfl

theorem sampleKeysKeccak_ne (b : Bytes) :
    KeyRegistry.sampleKeysKeccak b ≠ Evm.KeyRegistry.IDENTITY_COMMITMENT ∧
      KeyRegistry.sampleKeysKeccak b ≠ 0 := by
  unfold KeyRegistry.sampleKeysKeccak
  split
  · split <;> decide
  all_goals decide

theorem sampleKeccak_same : SameKeccak sampleEvmHost sampleSorobanHost where
  same _ := rfl
  identity b := by
    show sampleRegistryKeccak b = _ ↔ _
    unfold sampleRegistryKeccak
    by_cases hb : b = evmIdentity
    · rw [if_pos hb]
      exact iff_of_true rfl hb
    · rw [if_neg hb]
      exact iff_of_false (sampleKeysKeccak_ne b).1 hb
  nonzero pk := by
    show sampleRegistryKeccak (eip2537 pk) ≠ 0
    unfold sampleRegistryKeccak
    split
    · decide
    · exact (sampleKeysKeccak_ne _).2

/-- An ed25519 account. -/
def sampleAccount : BytesN32 :=
  0xd75a980182b10ab7d54bfed3c964073a0ee172f3daa62325af021a68f707511a

/-- The signature the sample account makes for a nonce here. -/
def sampleSigned (nonce : U64) : Signature Unit where
  legs := [((), nonce)]
  sig := .sep53 ⟨List.replicate 64 0, List.length_replicate⟩

def sampleWrittenKey : WrittenKey where
  evm := ⟨eip2537 KeyRegistry.sampleKey, by decide +kernel⟩
  soroban := KeyRegistry.sampleKey
  identity h := absurd h (by decide +kernel)
  point _ := ⟨rfl, by decide +kernel⟩

def sampleRegistration : RegistryAsked Bool Unit Unit Unit where
  caller := false
  time := 1000
  data := []
  call := .register sampleAccount (sampleSigned 0) sampleWrittenKey
    ⟨⟨List.replicate 256 0, List.length_replicate⟩, ⟨List.replicate 192 0, List.length_replicate⟩⟩
    0 2000

def sampleCancel (nonce : U64) : RegistryAsked Bool Unit Unit Unit where
  caller := false
  time := 1000
  data := []
  call := .cancel sampleAccount (sampleSigned nonce) nonce

def sampleIdle : RegistryAsked Bool Unit Unit Unit where
  caller := true
  time := 1000
  data := []
  call := .unpause

abbrev sampleOnEvm (c : RegistryAsked Bool Unit Unit Unit) :=
  registryOnEvm sampleAnchorPrimitives sampleEvmHost sampleSorobanHost samplePlaces sampleParties
    (fun _ => true) Evm.KeyRegistry.noNeighbors c

abbrev sampleOnSoroban (c : RegistryAsked Bool Unit Unit Unit) :=
  registryOnSoroban sampleEvmHost sampleSorobanHost samplePlaces sampleParties
    KeyRegistry.noNeighbors c

/-- What is promised of the samples. -/
abbrev SampleAnswers (S : Evm.KeyRegistry.Contract Unit) (t : KeyRegistry.Chain Unit)
    (c : RegistryAsked Bool Unit Unit Unit) : Prop :=
  SameAnswers sampleAnchorPrimitives sampleEvmHost sampleSorobanHost samplePlaces sampleParties
    (fun _ => true) Evm.KeyRegistry.noNeighbors KeyRegistry.noNeighbors S t c

theorem sampleSigned_same (config : KeyRegistry.KeysConfig) (q : Signing Unit)
    (hsig : q.owner.sig = (sampleSigned 0).sig) (haccount : q.account = sampleAccount) :
    evmSigned sampleEvmHost sampleSorobanHost samplePlaces q = true
      ↔ sorobanSigned sampleEvmHost sampleSorobanHost samplePlaces config q = .ok () := by
  apply iff_of_true rfl
  unfold sorobanSigned
  rw [hsig, haccount]
  show KeyRegistry.checkSep53 sampleSorobanHost config sampleAccount _ q.message _ = .ok ()
  simp only [KeyRegistry.checkSep53, Check.bind_ok, Check.require_ok, Check.demand_ok]
  exact ⟨(), by decide, rfl⟩

/-- The sample calls bring good signatures and good proofs of possession. -/
theorem sampleAnswers {S : Evm.KeyRegistry.Contract Unit} {t : KeyRegistry.Chain Unit}
    {c : RegistryAsked Bool Unit Unit Unit}
    (hcall : c = sampleRegistration ∨ (∃ nonce, c = sampleCancel nonce) ∨ c = sampleIdle) :
    SampleAnswers S t c where
  signed config q _ hq := by
    rcases hcall with rfl | ⟨nonce, rfl⟩ | rfl
    · obtain rfl := Option.some.inj hq
      exact sampleSigned_same config _ rfl rfl
    · obtain rfl := Option.some.inj hq
      exact sampleSigned_same config _ rfl rfl
    · cases hq
  possessed config account key pop number _ hq := by
    rcases hcall with rfl | ⟨nonce, rfl⟩ | rfl
    · exact iff_of_true rfl rfl
    · cases hq
    · cases hq
  guards _ _ := rfl
  anchored _ _ _ _ := iff_of_false nofun nofun
  proven _ _ _ _ _ _ _ _ _ := iff_of_false nofun nofun
  gate admin _ := by
    rcases hcall with rfl | ⟨nonce, rfl⟩ | rfl <;> exact iff_of_true ⟨_, rfl⟩ ⟨_, rfl⟩
  wired _ _ _ h := by rcases hcall with rfl | ⟨nonce, rfl⟩ | rfl <;> cases h
  sources _ _ _ _ h := by rcases hcall with rfl | ⟨nonce, rfl⟩ | rfl <;> cases h
  admin _ _ _ _ _ _ h := by rcases hcall with rfl | ⟨nonce, rfl⟩ | rfl <;> cases h

def sampleS₀ : Evm.KeyRegistry.Contract Unit :=
  (Evm.KeyRegistry.Contract.construct 0xA1 (ascii "testnet")).after (.blank ())

def sampleT₀ : KeyRegistry.Chain Unit :=
  (KeyRegistry.initializeContract sampleSorobanHost (.account 0xA1) 2 (ascii "testnet")).after
    (.fresh ())

theorem sampleS₀_built : Evm.KeyRegistry.Contract.construct (sampleParties.evm true)
    (ascii "testnet") (.blank ()) = .ok ((), sampleS₀) := by
  show Evm.KeyRegistry.Contract.construct 0xA1 _ _ = _
  rw [Evm.KeyRegistry.Contract.construct, Tx.bind_require_ok, Tx.bind_require_ok, Tx.modify_ok]
  exact ⟨by decide, by decide, rfl⟩

theorem sampleT₀_built : KeyRegistry.initializeContract sampleSorobanHost
    (sampleParties.soroban true) 2 (ascii "testnet") (.fresh ()) = .ok ((), sampleT₀) := by
  rfl

theorem sampleRegistration_evm : ∃ S', sampleOnEvm sampleRegistration sampleS₀ = .ok (.slot 0, S') := by
  have hret : (sampleOnEvm sampleRegistration sampleS₀).map Prod.fst = .ok (.slot 0) := by
    decide +kernel
  cases hx : sampleOnEvm sampleRegistration sampleS₀ with
  | error e =>
    rw [hx] at hret
    cases hret
  | ok r =>
    rw [hx] at hret
    exact ⟨r.2, congrArg Except.ok (Prod.ext (Except.ok.inj hret) rfl)⟩

theorem sampleRegistration_soroban :
    ∃ t', sampleOnSoroban sampleRegistration sampleT₀ = .ok (.slot 0, t') := by
  have hret : (sampleOnSoroban sampleRegistration sampleT₀).map Prod.fst = .ok (.slot 0) := by
    decide +kernel
  cases hx : sampleOnSoroban sampleRegistration sampleT₀ with
  | error e =>
    rw [hx] at hret
    cases hret
  | ok r =>
    rw [hx] at hret
    exact ⟨r.2, congrArg Except.ok (Prod.ext (Except.ok.inj hret) rfl)⟩

/-- Registering the key: accepted on both, with the first slot id. -/
theorem registries_agree_sample :
    ∃ S' t', sampleOnEvm sampleRegistration sampleS₀ = .ok (.slot 0, S') ∧
      sampleOnSoroban sampleRegistration sampleT₀ = .ok (.slot 0, t') ∧
      SameAccount S'.registry t'.keys sampleAccount := by
  have run : Lockstep sampleOnEvm sampleOnSoroban (fun S t c => SampleAnswers S t c ∧ ¬LastNonce c)
      sampleS₀ sampleT₀ [sampleRegistration] ((sampleOnEvm sampleRegistration).after sampleS₀)
      ((sampleOnSoroban sampleRegistration).after sampleT₀) := by
    apply Lockstep.step .start
    refine ⟨sampleAnswers (.inl rfl), ?_⟩
    show ¬some (0 : U64) = some (BitVec.allOnes 64)
    decide
  obtain ⟨-, -, hviews⟩ := registries_agree sampleKeccak_same sampleS₀_built sampleT₀_built run
  obtain ⟨S', hS'⟩ := sampleRegistration_evm
  obtain ⟨t', ht'⟩ := sampleRegistration_soroban
  have hsame := (hviews sampleAccount).1
  rw [Tx.after, hS', Tx.after, ht'] at hsame
  exact ⟨S', t', hS', ht', hsame⟩

/-- With its nonce, the sample account can cancel on EVM whatever the nonce is. -/
theorem sampleCancel_runs {S : Evm.KeyRegistry.Contract Unit} {nonce : U64}
    (hpaused : S.registry.settings.paused = false)
    (hnonce : S.registry.nonce sampleAccount = nonce.setWidth 256) :
    sampleOnEvm (sampleCancel nonce) S = .ok (.unit, { S with registry := { S.registry with
      nonceOf := S.registry.nonceOf.set sampleAccount (BitVec.ofNat 256 (nonce.toNat + 1)) } }) := by
  have hcancel : Evm.KeyRegistry.cancel sampleEvmHost sampleAccount
      (evmOwner sampleEvmHost sampleSorobanHost samplePlaces (sampleSigned nonce))
      (nonce.setWidth 256) S.registry = .ok ((), { S.registry with
        nonceOf := S.registry.nonceOf.set sampleAccount (BitVec.ofNat 256 (nonce.toNat + 1)) }) := by
    unfold Evm.KeyRegistry.cancel
    rw [bind_whenNotPaused_ok, Tx.bind_read_ok, Tx.bind_require_ok, Tx.bind_check_ok,
      Tx.bind_check_ok]
    have hleg : Evm.KeyRegistry.requireOwnLeg sampleEvmHost
        [evmLeg sampleEvmHost sampleSorobanHost samplePlaces ((), nonce)] (nonce.setWidth 256)
          = .ok () := by
      unfold Evm.KeyRegistry.requireOwnLeg
      rw [List.filter_cons_of_pos (by rfl), List.filter_nil, Check.require_ok]
      rfl
    refine ⟨hpaused, hnonce.symm, hleg, rfl, ?_⟩
    have hadd : (Check.add 256 nonce.toNat 1 : Check Evm.KeyRegistry.RegistryError ℕ)
        = .ok (nonce.toNat + 1) := Check.add_ok.mpr ⟨by have := nonce.isLt; omega, rfl⟩
    rw [Evm.KeyRegistry.bumpNonce, toNat_wideNonce, hadd, Tx.bind_lift_ok]
    exact ⟨_, rfl, rfl⟩
  show Evm.KeyRegistry.Contract.onRegistry (Tx.answer (fun _ : Unit => Evm.KeyRegistry.Ret.unit) _) S = _
  rw [Tx.zoom_ok]
  refine ⟨.unit, _, ?_, rfl⟩
  rw [Tx.answer_ok]
  exact ⟨(), hcancel, rfl⟩

/-- The nonce of the sample account goes up to any value below the bound, one cancel at a time. -/
theorem sampleCancels (n : ℕ) (hn : n < 2 ^ 64) : ∃ script S t,
    Lockstep sampleOnEvm sampleOnSoroban SampleAnswers sampleS₀ sampleT₀ script S t ∧
      S.registry.settings.paused = false ∧
      S.registry.nonce sampleAccount = BitVec.ofNat 256 n := by
  induction n with
  | zero => exact ⟨[], _, _, .start, rfl, rfl⟩
  | succ n ih =>
    obtain ⟨script, S, t, run, hpaused, hnonce⟩ := ih (by omega)
    have hwide : BitVec.ofNat 256 n = (BitVec.ofNat 64 n).setWidth 256 := by
      apply BitVec.eq_of_toNat_eq
      rw [toNat_wideNonce, BitVec.toNat_ofNat, BitVec.toNat_ofNat, Nat.mod_eq_of_lt (by omega),
        Nat.mod_eq_of_lt (by omega)]
    have hruns := sampleCancel_runs hpaused (hnonce.trans hwide)
    have hnext := run.step (c := sampleCancel (BitVec.ofNat 64 n))
      (sampleAnswers (.inr (.inl ⟨_, rfl⟩)))
    refine ⟨_, _, _, hnext, ?_⟩
    rw [Tx.after, hruns]
    refine ⟨hpaused, ?_⟩
    show ((S.registry.nonceOf.set _ _).get? sampleAccount).getD 0 = _
    rw [Map.get?_set, if_pos rfl, Option.getD_some, BitVec.toNat_ofNat,
      Nat.mod_eq_of_lt (by omega : n < 2 ^ 64)]

/-- The two cases in which the registries part: an idle unpause, and the last nonce of 64 bits. -/
theorem registries_part :
    (SampleAnswers sampleS₀ sampleT₀ sampleIdle ∧ ¬(sampleOnEvm sampleIdle).Accepts sampleS₀ ∧
      (sampleOnSoroban sampleIdle).Accepts sampleT₀) ∧
    ∃ script S t c, Lockstep sampleOnEvm sampleOnSoroban SampleAnswers sampleS₀ sampleT₀ script S t ∧
      SampleAnswers S t c ∧ (sampleOnEvm c).Accepts S ∧ ¬(sampleOnSoroban c).Accepts t := by
  constructor
  · refine ⟨sampleAnswers (.inr (.inr rfl)), ?_⟩
    constructor <;> decide +kernel
  · obtain ⟨script, S, t, run, hpaused, hnonce⟩ := sampleCancels (2 ^ 64 - 1) (by norm_num)
    refine ⟨script, S, t, sampleCancel (BitVec.allOnes 64), run, sampleAnswers (.inr (.inl ⟨_, rfl⟩)),
      ⟨_, sampleCancel_runs hpaused hnonce⟩, ?_⟩
    rintro ⟨r, hr⟩
    obtain ⟨_, hcancel, -⟩ := Tx.answer_ok.mp hr
    unfold KeyRegistry.cancelPending at hcancel
    rw [Tx.bind_ok] at hcancel
    obtain ⟨config, t', -, hcancel⟩ := hcancel
    rw [bind_requireNotPaused_ok, Tx.bind_read_ok, Tx.bind_require_ok, Tx.bind_check_ok,
      Tx.bind_lift_ok] at hcancel
    obtain ⟨-, -, -, next, hnext, -⟩ := hcancel
    exact absurd (Check.add_ok.mp hnext).1 (by decide)

end Parity
end ProofBridge
