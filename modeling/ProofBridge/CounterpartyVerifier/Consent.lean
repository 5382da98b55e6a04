import ProofBridge.AdManager.LedgerRuns
import ProofBridge.AdManager.Orders
import ProofBridge.CounterpartyVerifier.Envelope
import ProofBridge.KeyRegistry.Slots
import ProofBridge.OrderPortal.Deposits

/-!
# A co-signed unlock is consented to

An escrow, the verifier of its route and the key registry the verifier reads are three contracts; what
an accepted unlock says of the parties' consent takes all three. On the ad leg the order pins one slot
of the maker's, and the pin is a slot id beside a sentinel of the same type: no slot of a registry ever
has the sentinel as its id, so over a run no order is pinned to it and the check is never skipped.
-/

namespace ProofBridge
namespace CounterpartyVerifier

open ContractLib

/-- What a registry answers the verifier of a slot. -/
def commitmentOf (keys : Address → KeyRegistry.Keys) (env : Env) (registry : Address)
    (account : BytesN32) (slotId : U32) : Option BytesN32 :=
  ((keys registry).commitmentAt account env slotId).toOption

/-- A world whose root verifiers and key registries are these contracts. -/
structure Deployed {X : Type} (O : Outside X) (V : VerifierHost) where
  verifiers : X → (module : Address) → State
  keys : X → (registry : Address) → KeyRegistry.Keys
  /-- Every registry stands where a run of it led. -/
  reached : ∀ x registry, ∃ (Y : Type) (N : KeyRegistry.Neighbors Y) (H : KeyHost)
    (outside : Y → Y → Prop) (y : Y) (history : KeyRegistry.History) (c : KeyRegistry.Chain Y),
    Run (KeyRegistry.system N H outside) (KeyRegistry.Chain.fresh y) history c ∧
      c.state.keys = keys x registry
  isRootValid_eq : ∀ x env module sourceChainId root metadata,
    O.isRootValid x env module sourceChainId root metadata
      = isRootValid V (commitmentOf (keys x) env) (verifiers x module) sourceChainId root metadata
  slotUsable_eq : ∀ x env registry account slotId, O.slotUsable x env registry account slotId
    = (commitmentOf (keys x) env registry account slotId).isSome

/-- The parties consented to unlocking the order on the leg of `side`. -/
structure Consented (V : VerifierHost) (s : State)
    (commitmentAt : Address → BytesN32 → U32 → Option BytesN32) (side : UInt8)
    (signer bridger orderHash : BytesN32) (sourceChainId : U128) (root nullifierHash : BytesN32)
    (m : Metadata) : Prop where
  order : m.orderHash = orderHash
  leg : (side = SIDE_AD ∧ (m.orderChainId, m.orderChainRoot, m.adLegNullifier)
      = (sourceChainId, root, nullifierHash)) ∨
    (side = SIDE_ORDER ∧ (m.adChainId, m.adChainRoot, m.orderLegNullifier)
      = (sourceChainId, root, nullifierHash))
  /-- The maker's key is the one the bridger signed for. -/
  named : m.makerKeyCommitment = keyCommitment V.toHost m.pkSigner
  registered : ∃ registry, s.registry = some registry ∧
    commitmentAt registry signer m.signerSlotId = some (keyCommitment V.toHost m.pkSigner) ∧
    commitmentAt registry bridger m.bridgerSlotId = some (keyCommitment V.toHost m.pkBridger)
  signed : verifyAggregate V m = some true
  /-- What they signed is no other auth. -/
  bound : ∀ m' : Metadata, m'.preimage = m.preimage → m'.auth = m.auth

/-- What the verifier says of an envelope an escrow built. -/
theorem consented_of_valid {V : VerifierHost} {s : State}
    {commitmentAt : Address → BytesN32 → U32 → Option BytesN32} {side : UInt8}
    {signer bridger orderHash root nullifierHash : BytesN32} {pinnedSlot : U32}
    {sourceChainId : U128} {cosigData : Bytes}
    (h : isRootValid V commitmentAt s sourceChainId root
      (rootMetadata signer bridger orderHash pinnedSlot nullifierHash side cosigData)
        = some true) :
    ∃ m : Metadata, cosigData = m.moduleData ∧
      Consented V s commitmentAt side signer bridger orderHash sourceChainId root nullifierHash m ∧
      (pinnedSlot ≠ UNPINNED → m.signerSlotId = pinnedSlot) := by
  obtain ⟨m, hb, haccepted⟩ := isRootValid_iff.mp h
  obtain ⟨rfl, rfl, rfl, rfl, rfl, rfl, hcosig⟩ := rootMetadata_inj hb
  refine ⟨m, hcosig, ⟨haccepted.order, ?_, haccepted.named, haccepted.registered,
    haccepted.signed, fun m' h => preimage_inj h⟩, haccepted.pinned⟩
  have hleg := haccepted.leg
  unfold Metadata.leg at hleg
  split at hleg
  · next hside => exact .inl ⟨hside, Option.some.inj hleg⟩
  · split at hleg
    · next hside => exact .inr ⟨hside, Option.some.inj hleg⟩
    · cases hleg

section Pins

variable {X : Type} {O : Outside X} {V : VerifierHost} {H : Host} {env : Env}
  {outside : X → X → Prop}

/-- The sentinel is no slot's id: ids are handed out below a bound of their own type. -/
theorem Deployed.usable_ne (world : Deployed O V) {x : X} {registry : Address}
    {account : BytesN32} {slotId : U32} (h : O.slotUsable x env registry account slotId = true) :
    slotId ≠ UNPINNED := by
  rintro rfl
  rw [world.slotUsable_eq] at h
  obtain ⟨commitment, hok⟩ := Check.ok_of_isSome h
  obtain ⟨Y, N, H, outside, y, history, c, run, hkeys⟩ := world.reached x registry
  have hsound : (world.keys x registry).Sound account := hkeys ▸ KeyRegistry.sound_of_run run account
  obtain ⟨slot, hslot, -⟩ := Check.bind_ok.mp hok
  have hstored : ((world.keys x registry).getSlot account UNPINNED).isSome = true := by
    rw [Check.expect_ok.mp hslot, Option.isSome_some]
  have hbelow := hsound.below _ ((hsound.stored _).mp hstored)
  have hbound := ((world.keys x registry).getEntry account).nextSlotId.isLt
  have hlast : UNPINNED.toNat = 2 ^ 32 - 1 := rfl
  omega

/-- What a lock checked of the slot it pins. -/
theorem usable_of_lockChecks {s : AdManager.Chain X} {config : ContractConfig} {ad : AdManager.Ad}
    {params : AdManager.OrderParams} {signerSlot : U32} {r : ℕ × ℕ}
    (h : AdManager.lockChecks O env config ad params signerSlot s = .ok r) :
    ∃ registry signer, O.slotUsable s.core.outside env registry signer signerSlot = true := by
  unfold AdManager.lockChecks at h
  obtain ⟨-, -, h⟩ := Check.bind_ok.mp h
  obtain ⟨-, -, h⟩ := Check.bind_ok.mp h
  obtain ⟨_, hregistered, h⟩ := Check.bind_ok.mp h
  obtain ⟨_, husable, -⟩ := Check.bind_ok.mp h
  -- an ad manager with no registry locks nothing
  unfold AdManager.requireRegistered at hregistered
  obtain ⟨registry, hregistry, -⟩ := Check.bind_ok.mp hregistered
  rw [Check.expect_ok.mp hregistry] at husable
  exact ⟨registry, ad.settlementSigner, Check.require_ok.mp husable⟩

/-- What a re-pin checked of the slot it moves to. -/
theorem usable_of_repin {s s' : AdManager.Chain X} {params : AdManager.OrderParams}
    (ok : AdManager.repinOrder O H env params s = .ok ((), s')) (k : BytesN32) :
    (s'.core.ledger.getOrder k).pinnedSlot = (s.core.ledger.getOrder k).pinnedSlot ∨
      ∃ registry signer, O.slotUsable s.core.outside env registry signer
        (s'.core.ledger.getOrder k).pinnedSlot = true := by
  unfold AdManager.repinOrder at ok
  simp only [Tx.bind_view_ok, Tx.bind_lift_ok, Tx.bind_read_ok, Tx.bind_require_ok,
    Tx.bind_expect_ok, Tx.bind_expectTrap_ok] at ok
  obtain ⟨config, -, orderHash, -, -, t, -, -, registry, -, consent, -, -, husable, ok⟩ := ok
  simp only [Tx.bind_zoom_ok, Tx.modify_ok] at ok
  obtain ⟨_, c₁, hset, heq⟩ := ok
  cases heq
  cases hset
  by_cases hk : k = orderHash
  · subst hk
    right
    refine ⟨registry, params.adSettlementSigner, ?_⟩
    rw [AdManager.getOrder_of_set (l := s.core.ledger) rfl, if_pos rfl]
    exact husable
  · left
    rw [AdManager.getOrder_of_set (l := s.core.ledger) rfl, if_neg hk]

/-- An order's pin moves to a usable slot, or not at all. -/
theorem pin_of_exec {s s' : AdManager.Chain X} {call : AdManager.Call} {ret : AdManager.Ret}
    (ok : AdManager.exec O H env call s = .ok (ret, s')) (k : BytesN32) :
    (s'.core.ledger.getOrder k).pinnedSlot = (s.core.ledger.getOrder k).pinnedSlot ∨
      ∃ registry signer, O.slotUsable s.core.outside env registry signer
        (s'.core.ledger.getOrder k).pinnedSlot = true := by
  have kept_of_set : ∀ {l' : Ledger} {orderHash : BytesN32} {rec : OrderRecord},
      l'.orders = s.core.ledger.orders.set orderHash rec →
      rec.pinnedSlot = (s.core.ledger.getOrder orderHash).pinnedSlot →
      (l'.getOrder k).pinnedSlot = (s.core.ledger.getOrder k).pinnedSlot := by
    intro l' orderHash rec hset hpin
    rw [AdManager.getOrder_of_set hset]
    split
    · next hk => rw [hk, hpin]
    · rfl
  have kept_of_filled : ∀ {config params orderHash byEvidence} {s₁ s₂ : AdManager.Chain X},
      AdManager.Filled O H env config params orderHash byEvidence s₁ s₂ →
      (s₂.core.ledger.getOrder k).pinnedSlot = (s₁.core.ledger.getOrder k).pinnedSlot := by
    intro config params orderHash byEvidence s₁ s₂ hfilled
    by_cases hk : k = orderHash
    · subst hk
      exact congrArg (fun l => l.record.pinnedSlot) hfilled.legs.1
    · exact congrArg (fun l => l.record.pinnedSlot) (hfilled.legs.2 k hk)
  by_cases hrepin : ∃ params, call = .repinOrder params
  · obtain ⟨params, rfl⟩ := hrepin
    obtain ⟨⟨⟩, s₁, hok, heq⟩ := Tx.bind_ok.mp ok
    cases heq
    exact usable_of_repin hok k
  cases AdManager.step_of_exec ok with
  | admin hcall hframe => exact .inl (by rw [hframe.ledger])
  | lockForOrder hconfig had hchecks =>
    obtain ⟨registry, signer, husable⟩ := usable_of_lockChecks hchecks
    rw [AdManager.getOrder_of_set (l := s.core.ledger) rfl]
    split
    · exact .inr ⟨registry, signer, husable⟩
    · exact .inl rfl
  | unlock hconfig hhash hlive hnullifier htiming hcutoff had hhalt hroot hinputs hproof hspent
      hfilled =>
    subst hspent
    have hkept := kept_of_filled hfilled
    exact .inl hkept
  | presentSettled hconfig hhash hlive hanchored hproof hfilled =>
    exact .inl (kept_of_filled hfilled)
  | claimCancel => exact .inl (kept_of_set rfl rfl)
  | dispute => exact .inl (kept_of_set rfl rfl)
  | finalizeDispute hconfig hhash hdisputed hverdict hamount had hend hreached hlocked hpaid =>
    obtain ⟨c, out, ⟨x, claimable, events, rfl⟩, -, rfl⟩ := AdManager.Locks.ruling_frame hpaid
    exact .inl (kept_of_set rfl rfl)
  | finalizeCancel => exact .inl (kept_of_set rfl rfl)
  | cancelNeverLocked => exact .inl (kept_of_set rfl rfl)
  | repinOrder => exact absurd ⟨_, rfl⟩ hrepin
  | _ => exact .inl rfl

/-- In every reachable state every order is pinned to a slot some registry has had. -/
theorem pinned_of_run (world : Deployed O V) {x : X} {history : AdManager.History}
    {s : AdManager.Chain X}
    (run : Run (AdManager.system O H outside) (AdManager.Chain.fresh x) history s)
    (k : BytesN32) : (s.core.ledger.getOrder k).pinnedSlot ≠ UNPINNED := by
  refine run.preserves
    (R := fun s : AdManager.Chain X => (s.core.ledger.getOrder k).pinnedSlot ≠ UNPINNED)
    ?_ ?_ ?_
  · show (0 : U32) ≠ UNPINNED
    decide
  · rintro s ⟨env, call⟩ ret s' ih ok
    rcases pin_of_exec ok k with hkept | ⟨registry, signer, husable⟩
    · rw [hkept]
      exact ih
    · exact world.usable_ne husable
  · rintro s s' ih ⟨x', -, rfl⟩
    exact ih

end Pins

/-! ## Both legs -/

section Legs

variable {X Y : Type} {O : Outside X} {O' : Outside Y} {V V' : VerifierHost} {H : Host}
  {outside : X → X → Prop} {x : X}

/-- What an accepted unlock of the ad leg says: the consent is to this order and this leg, and the
maker's key is in the slot the order is pinned to. -/
def ConsentedOnAd (world : Deployed O V) (H : Host) (env : Env) (s : AdManager.Chain X)
    (params : AdManager.OrderParams) (nullifierHash targetRoot : BytesN32) (cosigData : Bytes) :
    Prop :=
  ∃ config orderHash module m, s.core.settings.config = some config ∧
    AdManager.hashOrder H params config.chainId = .ok orderHash ∧
    s.core.settings.rootVerifiers.get? params.orderChainId = some module ∧
    cosigData = m.moduleData ∧
    Consented V (world.verifiers s.core.outside module)
      (commitmentOf (world.keys s.core.outside) env) ENVELOPE_SIDE_AD params.adSettlementSigner
      params.bridger orderHash params.orderChainId targetRoot nullifierHash m ∧
    m.signerSlotId = (s.core.ledger.getOrder orderHash).pinnedSlot

def ConsentedOnOrder (world : Deployed O V) (H : Host) (env : Env) (s : OrderPortal.Chain X)
    (params : OrderPortal.OrderParams) (nullifierHash targetRoot : BytesN32) (cosigData : Bytes) :
    Prop :=
  ∃ config orderHash module m, s.core.settings.config = some config ∧
    OrderPortal.hashOrder H params config.chainId = .ok orderHash ∧
    s.core.settings.rootVerifiers.get? params.adChainId = some module ∧
    cosigData = m.moduleData ∧
    Consented V (world.verifiers s.core.outside module)
      (commitmentOf (world.keys s.core.outside) env) ENVELOPE_SIDE_ORDER params.adSettlementSigner
      params.bridger orderHash params.adChainId targetRoot nullifierHash m

/-- **Co-signed unlocks are consented to**, whatever bytes the caller sends. -/
theorem unlocks_consented (world : Deployed O V) (world' : Deployed O' V') (H' : Host)
    {history : AdManager.History} {s : AdManager.Chain X} (s' : OrderPortal.Chain Y)
    (run : Run (AdManager.system O H outside) (AdManager.Chain.fresh x) history s) :
    (∀ env params nullifierHash targetRoot proof cosigData r,
      AdManager.exec O H env (.unlock params nullifierHash targetRoot proof cosigData) s = .ok r →
      ConsentedOnAd world H env s params nullifierHash targetRoot cosigData) ∧
    (∀ env params nullifierHash targetRoot proof cosigData r,
      OrderPortal.exec O' H' env (.unlock params nullifierHash targetRoot proof cosigData) s'
        = .ok r →
      ConsentedOnOrder world' H' env s' params nullifierHash targetRoot cosigData) := by
  constructor
  · rintro env params nullifierHash targetRoot proof cosigData ⟨ret, s₁⟩ ok
    cases AdManager.step_of_exec ok with
    | unlock hconfig hhash hlive hnullifier htiming hcutoff had hhalt hroot =>
      obtain ⟨module, hmodule, hroot⟩ := Check.bind_ok.mp hroot
      obtain ⟨valid, hvalid, hroot⟩ := Check.bind_ok.mp hroot
      obtain rfl := Check.require_ok.mp hroot
      rw [Check.expectTrap_ok, world.isRootValid_eq] at hvalid
      obtain ⟨m, hcosig, hconsented, hslot⟩ := consented_of_valid hvalid
      exact ⟨_, _, module, m, hconfig, hhash, Check.expect_ok.mp hmodule, hcosig, hconsented,
        hslot (pinned_of_run world run _)⟩
    | admin hcall => cases hcall
  · rintro env params nullifierHash targetRoot proof cosigData ⟨ret, s₁⟩ ok
    cases OrderPortal.step_of_exec ok with
    | unlock hconfig hhash hopened hnullifier htiming hcutoff hinputs hroot =>
      obtain ⟨module, hmodule, hroot⟩ := Check.bind_ok.mp hroot
      obtain ⟨valid, hvalid, hroot⟩ := Check.bind_ok.mp hroot
      obtain rfl := Check.require_ok.mp hroot
      rw [Check.expectTrap_ok, world'.isRootValid_eq] at hvalid
      obtain ⟨m, hcosig, hconsented, -⟩ := consented_of_valid hvalid
      exact ⟨_, _, module, m, hconfig, hhash, Check.expect_ok.mp hmodule, hcosig, hconsented⟩
    | admin hcall => cases hcall

end Legs

/-! ## A consent that is accepted -/

theorem sampleSignature_length : (List.replicate 192 (0 : UInt8)).length = 192 :=
  List.length_replicate

def sampleSignature : BytesN 192 := ⟨List.replicate 192 0, sampleSignature_length⟩

/-- Both parties of the sample order register a key. -/
def registeredCalls : List (Env × KeyRegistry.Call) :=
  [(sampleEnv 100, .initializeContract (.account 0x0A) 1 (ascii "testnet")),
    (sampleEnv 900, .register 0x3A (.stellar (.account 0x3A)) KeyRegistry.sampleKey
      sampleSignature 0 2000),
    (sampleEnv 900, .register 0xB1 (.stellar (.account 0xB1)) KeyRegistry.sampleKey
      sampleSignature 0 2000)]

def registeredRun : KeyRegistry.History × KeyRegistry.Chain Unit :=
  (play KeyRegistry.sampleKeySystem registeredCalls [] (KeyRegistry.Chain.fresh ())).getD
    ([], KeyRegistry.Chain.fresh ())

/-- The curve of a signature over one message. -/
def sampleVerifier : VerifierHost where
  toKeyHost := KeyRegistry.sampleKeyHost
  g1Add pk _ := some pk

abbrev registeredKeys (_ : Address) : KeyRegistry.Keys := registeredRun.2.state.keys

def wiredVerifier : State where
  init := true
  registry := some (.contract 0x7A)

abbrev verifiedWorld : Outside Bank :=
  { Bank.world with
    isRootValid := fun _ env _ sourceChainId root metadata =>
      isRootValid sampleVerifier (commitmentOf registeredKeys env) wiredVerifier sourceChainId root
        metadata
    slotUsable := fun _ env registry account slotId =>
      (commitmentOf registeredKeys env registry account slotId).isSome }

def verifiedWorld_deployed : Deployed verifiedWorld sampleVerifier where
  verifiers _ _ := wiredVerifier
  keys _ := registeredKeys
  reached _ _ := ⟨Unit, KeyRegistry.noNeighbors, KeyRegistry.sampleKeyHost, fun _ _ => False, (),
    registeredRun.1, registeredRun.2, Run.played (by decide +kernel) fun _ _ _ => trivial, rfl⟩
  isRootValid_eq _ _ _ _ _ _ := rfl
  slotUsable_eq _ _ _ _ _ := rfl

def sampleConsent : Metadata where
  orderChainId := 1
  adChainId := 2
  orderHash := 0x37fcdb1141fe8260e4abb5066caa8f8da2e70906374e74a739ade58545ba2ba1
  orderChainRoot := 8
  adChainRoot := 18
  makerKeyCommitment := keyCommitment sampleVerifier.toHost KeyRegistry.sampleKey
  adLegNullifier := 9
  orderLegNullifier := 19
  settlementSigner := 0x3A
  bridger := 0xB1
  envelopeOrderHash := 0x37fcdb1141fe8260e4abb5066caa8f8da2e70906374e74a739ade58545ba2ba1
  pinnedSlot := 0
  nullifierHash := 9
  side := SIDE_AD
  signerSlotId := 0
  bridgerSlotId := 0
  pkSigner := KeyRegistry.sampleKey
  pkBridger := KeyRegistry.sampleKey
  aggSig := sampleSignature

abbrev verifiedSystem := AdManager.system verifiedWorld (sampleHost 0xAD) Bank.gift

def verifiedRun : AdManager.History × AdManager.Chain Bank :=
  (play verifiedSystem AdManager.sampleCalls [] (AdManager.Chain.fresh AdManager.sampleStart)).getD
    ([], AdManager.Chain.fresh AdManager.sampleStart)

/-- The sample order unlocked on the ad leg, and on the order leg with the same signature. -/
theorem unlocks_consented_sample :
    ConsentedOnAd verifiedWorld_deployed (sampleHost 0xAD) (sampleEnv 2000) verifiedRun.2
      AdManager.sampleParams 9 8 sampleConsent.moduleData ∧
    ConsentedOnOrder verifiedWorld_deployed (sampleHost 0x50) (sampleEnv 2000)
      OrderPortal.sampleRun.2 OrderPortal.sampleParams 19 18 sampleConsent.moduleData := by
  have run : Run verifiedSystem (AdManager.Chain.fresh AdManager.sampleStart) verifiedRun.1
      verifiedRun.2 := by
    refine Run.played (by decide +kernel) ?_
    intro t ht s
    obtain ⟨call, -, rfl⟩ := List.mem_map.mp ht
    rfl
  obtain ⟨r, hr⟩ : ∃ r, AdManager.exec verifiedWorld (sampleHost 0xAD) (sampleEnv 2000)
      (.unlock AdManager.sampleParams 9 8 [] sampleConsent.moduleData) verifiedRun.2 = .ok r :=
    Check.ok_of_isSome (by decide +kernel)
  obtain ⟨r', hr'⟩ : ∃ r, OrderPortal.exec verifiedWorld (sampleHost 0x50) (sampleEnv 2000)
      (.unlock OrderPortal.sampleParams 19 18 [] sampleConsent.moduleData)
      OrderPortal.sampleRun.2 = .ok r :=
    Check.ok_of_isSome (by decide +kernel)
  have hboth := unlocks_consented verifiedWorld_deployed verifiedWorld_deployed (sampleHost 0x50)
    OrderPortal.sampleRun.2 run
  exact ⟨hboth.1 _ _ _ _ _ _ _ hr, hboth.2 _ _ _ _ _ _ _ hr'⟩

end CounterpartyVerifier
end ProofBridge
