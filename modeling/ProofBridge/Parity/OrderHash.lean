import ProofBridge.AdManager.Types
import ProofBridge.Evm.OrderPortal
import ProofBridge.OrderPortal.Deposits

/-!
# One order hash on both chains

Four pieces of code hash an order: the order leg and the ad leg, in Solidity and in Rust. Each maps
its own params onto the same nineteen fields, so each hash is `Canonical.digest` of what that leg
sees. The one difference is the ad id: Rust hashes at most 1024 bytes of it and traps on more, while
nothing on the EVM bounds its length.
-/

namespace ProofBridge
namespace Parity

open ContractLib

/-- The nineteen fields of an order, as words; the ad id is a string. -/
structure Canonical where
  orderChainToken : BytesN32
  adChainToken : BytesN32
  amount : BytesN32
  bridger : BytesN32
  orderChainId : BytesN32
  orderPortal : BytesN32
  orderRecipient : BytesN32
  adChainId : BytesN32
  adManager : BytesN32
  adId : AdId
  adCreator : BytesN32
  adRecipient : BytesN32
  salt : BytesN32
  orderDecimals : BytesN32
  adDecimals : BytesN32
  deadline : BytesN32
  adSettlementSigner : BytesN32
  lpFeeBps : BytesN32
  protocolFeeBps : BytesN32
  deriving DecidableEq, Repr

namespace Canonical

variable (keccak256 : Bytes → BytesN32) (c c' : Canonical)

/-- The type hash, then the fields in type-string order. -/
def words : List BytesN32 :=
  [Eip712.ORDER_TYPEHASH, c.orderChainToken, c.adChainToken, c.amount, c.bridger, c.orderChainId,
    c.orderPortal, c.orderRecipient, c.adChainId, c.adManager, keccak256 c.adId, c.adCreator,
    c.adRecipient, c.salt, c.orderDecimals, c.adDecimals, c.deadline, c.adSettlementSigner,
    c.lpFeeBps, c.protocolFeeBps]

/-- The domain both chains sign under. -/
def domainSeparator : BytesN32 :=
  keccak256 (Eip712.concat [Eip712.DOMAIN_TYPEHASH_MIN, Eip712.NAME_HASH, Eip712.VERSION_HASH])

def envelope : Bytes :=
  0x19 :: 0x01 :: Eip712.concat
    [domainSeparator keccak256, keccak256 (Eip712.concat (c.words keccak256))]

/-- The order hash. -/
def digest : BytesN32 := keccak256 (c.envelope keccak256)

/-- What keccak reads while hashing `c`. -/
def preimages : Set Bytes :=
  {c.adId, Eip712.concat (c.words keccak256), c.envelope keccak256}

variable {keccak256 c c'}

/-- Equal hashes mean equal fields, wherever keccak does not collide on what it reads. -/
theorem digest_inj (hinj : Set.InjOn keccak256 (c.preimages keccak256 ∪ c'.preimages keccak256))
    (h : c.digest keccak256 = c'.digest keccak256) : c = c' := by
  have henv : c.envelope keccak256 = c'.envelope keccak256 := by
    apply hinj _ _ h
    · simp [preimages]
    · simp [preimages]
  have hstruct : keccak256 (Eip712.concat (c.words keccak256))
      = keccak256 (Eip712.concat (c'.words keccak256)) := by
    simp only [envelope, List.cons.injEq, true_and] at henv
    simpa using Eip712.concat_injective henv
  have hconcat : Eip712.concat (c.words keccak256) = Eip712.concat (c'.words keccak256) := by
    apply hinj _ _ hstruct
    · simp [preimages]
    · simp [preimages]
  have hwords := Eip712.concat_injective hconcat
  simp only [words, List.cons.injEq, and_true, true_and] at hwords
  -- the tenth field is in the words only as its hash
  have hadId : c.adId = c'.adId := by
    apply hinj _ _ hwords.2.2.2.2.2.2.2.2.2.1
    · simp [preimages]
    · simp [preimages]
  cases c
  cases c'
  simp_all

end Canonical

/-! ## What each leg sees -/

/-- The fields a Solidity leg hashes. -/
def ofEvm (o : Evm.OrderHash.Order) : Canonical where
  orderChainToken := o.orderChainToken
  adChainToken := o.adChainToken
  amount := o.amount
  bridger := o.bridger
  orderChainId := o.orderChainId
  orderPortal := o.orderPortal
  orderRecipient := o.orderRecipient
  adChainId := o.adChainId
  adManager := o.adManager
  adId := o.adId
  adCreator := o.adCreator
  adRecipient := o.adRecipient
  salt := o.salt
  orderDecimals := o.orderDecimals.setWidth 256
  adDecimals := o.adDecimals.setWidth 256
  deadline := o.deadline
  adSettlementSigner := o.adSettlementSigner
  lpFeeBps := o.lpFeeBps.setWidth 256
  protocolFeeBps := o.protocolFeeBps.setWidth 256

/-- The fields the Soroban order leg hashes. -/
def ofOrderPortal (H : Host) (p : OrderPortal.OrderParams) (orderChainId : U128) : Canonical where
  orderChainToken := p.orderChainToken
  adChainToken := p.adChainToken
  amount := p.amount.setWidth 256
  bridger := p.bridger
  orderChainId := orderChainId.setWidth 256
  orderPortal := H.contractId
  orderRecipient := p.orderRecipient
  adChainId := p.adChainId.setWidth 256
  adManager := p.adManager
  adId := p.adId
  adCreator := p.adCreator
  adRecipient := p.adRecipient
  salt := p.salt
  orderDecimals := p.orderDecimals.setWidth 256
  adDecimals := p.adDecimals.setWidth 256
  deadline := p.deadline.setWidth 256
  adSettlementSigner := p.adSettlementSigner
  lpFeeBps := p.lpFeeBps.setWidth 256
  protocolFeeBps := p.protocolFeeBps.setWidth 256

/-- The fields the Soroban ad leg hashes. -/
def ofAdManager (H : Host) (p : AdManager.OrderParams) (adChainId : U128) : Canonical where
  orderChainToken := p.orderChainToken
  adChainToken := p.adChainToken
  amount := p.amount.setWidth 256
  bridger := p.bridger
  orderChainId := p.orderChainId.setWidth 256
  orderPortal := p.srcOrderPortal
  orderRecipient := p.orderRecipient
  adChainId := adChainId.setWidth 256
  adManager := H.contractId
  adId := p.adId
  adCreator := p.adCreator
  adRecipient := p.adRecipient
  salt := p.salt
  orderDecimals := p.orderDecimals.setWidth 256
  adDecimals := p.adDecimals.setWidth 256
  deadline := p.deadline.setWidth 256
  adSettlementSigner := p.adSettlementSigner
  lpFeeBps := p.lpFeeBps.setWidth 256
  protocolFeeBps := p.protocolFeeBps.setWidth 256

section Legs

variable {P : Evm.Primitives} {H : Host}

/-- Both Solidity legs hash through `OrderHash.digest`. -/
theorem evm_digest (hP : P.Documented) (o : Evm.OrderHash.Order) :
    Evm.OrderHash.digest P o = (ofEvm o).digest P.keccak256 := by
  have htypehash : Evm.OrderHash.ORDER_TYPEHASH P = Eip712.ORDER_TYPEHASH := hP.typehash
  have hwords : Evm.OrderHash.words P o = (ofEvm o).words P.keccak256 := by
    rw [Evm.OrderHash.words, htypehash]
    rfl
  rw [Evm.OrderHash.digest, hP.toTypedDataHash, Evm.OrderHash.structHash, hP.efficientHash, hwords,
    ← hP.domain]
  rfl

/-- The ad id's word, which a long id does not have. -/
theorem abiEncodeString_eq {ε : Type} (s : Bytes) :
    (Eip712.abiEncodeString H s : Check ε BytesN32)
      = if s.length ≤ 1024 then .ok (H.keccak256 s) else .error (.trap .sliceBounds) := rfl

theorem orderPortal_hashOrder (p : OrderPortal.OrderParams) (orderChainId : U128) :
    OrderPortal.hashOrder H p orderChainId
      = if p.adId.length ≤ 1024 then .ok ((ofOrderPortal H p orderChainId).digest H.keccak256)
        else .error (.trap .sliceBounds) := by
  unfold OrderPortal.hashOrder OrderPortal.orderOf
  rw [abiEncodeString_eq]
  split
  · rfl
  · rfl

theorem adManager_hashOrder (p : AdManager.OrderParams) (adChainId : U128) :
    AdManager.hashOrder H p adChainId
      = if p.adId.length ≤ 1024 then .ok ((ofAdManager H p adChainId).digest H.keccak256)
        else .error (.trap .sliceBounds) := by
  unfold AdManager.hashOrder AdManager.orderOf
  rw [abiEncodeString_eq]
  split
  · rfl
  · rfl

end Legs

/-! ## Moving an order to the other chain -/

/-- Narrowing a number that fits loses nothing of its word. -/
theorem setWidth_setWidth_of_lt {u v w : ℕ} {x : BitVec w} (h : x.toNat < 2 ^ v) :
    (x.setWidth v).setWidth u = x.setWidth u := by
  apply BitVec.eq_of_toNat_eq
  rw [BitVec.toNat_setWidth, BitVec.toNat_setWidth, BitVec.toNat_setWidth, Nat.mod_eq_of_lt h]

theorem setWidth_setWidth_of_le {u v w : ℕ} (x : BitVec w) (h : w ≤ v) :
    (x.setWidth v).setWidth u = x.setWidth u := by
  apply setWidth_setWidth_of_lt
  calc x.toNat < 2 ^ w := x.isLt
    _ ≤ 2 ^ v := Nat.pow_le_pow_right (by decide) h

section ToSoroban

open Evm.OrderPortal (Context Accepted)

variable {P : Evm.Primitives} {H : Host} {ctx : Context} {orderHash : BytesN32}

/-- The params a Soroban AdManager is called with for an order of an EVM portal. -/
def toAdManager (ctx : Context) (p : Evm.OrderPortal.OrderParams) : AdManager.OrderParams where
  orderChainToken := p.orderChainToken
  adChainToken := p.adChainToken
  amount := p.amount.setWidth 128
  bridger := p.bridger
  orderChainId := ctx.chainId.setWidth 128
  srcOrderPortal := Evm.toBytes32 ctx.this
  orderRecipient := p.orderRecipient
  adId := p.adId
  adCreator := p.adCreator
  adRecipient := p.adRecipient
  salt := p.salt
  orderDecimals := p.orderDecimals.setWidth 32
  adDecimals := p.adDecimals.setWidth 32
  deadline := p.deadline.setWidth 64
  adSettlementSigner := p.adSettlementSigner
  lpFeeBps := p.lpFeeBps.setWidth 32
  protocolFeeBps := p.protocolFeeBps.setWidth 32

/-- An accepted order fits the Soroban types. -/
theorem ofAdManager_toAdManager {p : Evm.OrderPortal.OrderParams} (h : Accepted P ctx p orderHash)
    (hpeer : p.adManager = H.contractId) :
    ofAdManager H (toAdManager ctx p) (p.adChainId.setWidth 128)
      = ofEvm (Evm.OrderPortal.order p ctx.chainId ctx.this) := by
  simp only [ofAdManager, toAdManager, ofEvm, Evm.OrderPortal.order, Canonical.mk.injEq, hpeer,
    setWidth_setWidth_of_lt h.amount, setWidth_setWidth_of_lt h.orderChainId,
    setWidth_setWidth_of_lt h.adChainId, setWidth_setWidth_of_lt h.deadline, BitVec.setWidth_eq,
    true_and]
  have hwide {w : ℕ} (x : BitVec w) (hw : w ≤ 32) :
      (x.setWidth 32).setWidth 256 = x.setWidth 256 := setWidth_setWidth_of_le x hw
  exact ⟨hwide _ (by decide), hwide _ (by decide), hwide _ (by decide), hwide _ (by decide)⟩

/-- The Soroban ad leg's hash of an accepted EVM order, whichever params spell it. -/
theorem adManager_hashOrder_of_accepted (hP : P.Documented) (hkeccak : H.keccak256 = P.keccak256)
    {p : Evm.OrderPortal.OrderParams} (h : Accepted P ctx p orderHash) {q : AdManager.OrderParams}
    {adChainId : U128}
    (hq : ofAdManager H q adChainId = ofEvm (Evm.OrderPortal.order p ctx.chainId ctx.this)) :
    AdManager.hashOrder H q adChainId
      = if p.adId.length ≤ 1024 then .ok orderHash else .error (.trap .sliceBounds) := by
  have hadId : q.adId = p.adId := congrArg Canonical.adId hq
  rw [adManager_hashOrder, hadId, hq, hkeccak, h.hash, Evm.OrderPortal.hashOrder, evm_digest hP]

end ToSoroban

section ToEvm

variable {P : Evm.Primitives} {H : Host} {orderHash : BytesN32}

/-- The params an EVM AdManager is called with for an order of a Soroban portal. -/
def toAdOrderParams (H : Host) (orderChainId : U128) (p : OrderPortal.OrderParams) :
    Evm.AdOrderParams where
  orderChainToken := p.orderChainToken
  adChainToken := p.adChainToken
  amount := p.amount.setWidth 256
  bridger := p.bridger
  orderChainId := orderChainId.setWidth 256
  srcOrderPortal := H.contractId
  orderRecipient := p.orderRecipient
  adId := p.adId
  adCreator := p.adCreator
  adRecipient := p.adRecipient
  salt := p.salt
  orderDecimals := p.orderDecimals.setWidth 8
  adDecimals := p.adDecimals.setWidth 8
  deadline := p.deadline.setWidth 256
  adSettlementSigner := p.adSettlementSigner
  lpFeeBps := p.lpFeeBps.setWidth 16
  protocolFeeBps := p.protocolFeeBps.setWidth 16

/-- The numbers of an accepted order fit Solidity's narrow types. -/
theorem ofEvm_toAdOrderParams {X : Type} {s : OrderPortal.Chain X} {p : OrderPortal.OrderParams}
    (hvalid : OrderPortal.validateOrder p s = .ok ()) {adManager : Evm.EvmAddress}
    (hpeer : p.adManager = Evm.toBytes32 adManager) (orderChainId : U128) :
    ofEvm (Evm.adOrder (toAdOrderParams H orderChainId p) (p.adChainId.setWidth 256) adManager)
      = ofOrderPortal H p orderChainId := by
  simp only [OrderPortal.validateOrder, assertInRange, Check.bind_ok, Check.require_ok,
    Check.mapError_ok] at hvalid
  obtain ⟨_, -, _, ⟨hlp, hprotocol⟩, _, -, _, -, _, -, _, -, _, horder, _, had, -⟩ := hvalid
  simp only [MAX_FEE_BPS] at hlp hprotocol
  simp only [MAX_DECIMALS] at horder had
  have hnarrow {w v : ℕ} {x : BitVec w} (hx : x.toNat < 2 ^ v) :
      (x.setWidth v).setWidth 256 = x.setWidth 256 := setWidth_setWidth_of_lt hx
  simp only [ofEvm, Evm.adOrder, toAdOrderParams, ofOrderPortal, Canonical.mk.injEq, hpeer,
    true_and]
  exact ⟨hnarrow (by omega), hnarrow (by omega), hnarrow (by omega), hnarrow (by omega)⟩

/-- The EVM ad leg's hash of an accepted Soroban order, whichever params spell it. -/
theorem adOrderHash_of_hashOrder (hP : P.Documented) (hkeccak : H.keccak256 = P.keccak256)
    {p : OrderPortal.OrderParams} {orderChainId : U128}
    (hhash : OrderPortal.hashOrder H p orderChainId = .ok orderHash) {q : Evm.AdOrderParams}
    {adChainId : Evm.Uint256} {adManager : Evm.EvmAddress}
    (hq : ofEvm (Evm.adOrder q adChainId adManager) = ofOrderPortal H p orderChainId) :
    Evm.adOrderHash P q adChainId adManager = orderHash := by
  rw [orderPortal_hashOrder] at hhash
  split at hhash
  · rw [Evm.adOrderHash, evm_digest hP, hq, ← hkeccak]
    exact Except.ok.inj hhash
  · cases hhash

end ToEvm

/-! ## The hash crosses -/

/-- The Soroban AdManager spells the order, and hashes every spelling of it to `orderHash`. -/
def HashesOnSoroban (H : Host) (c : Canonical) (orderHash : BytesN32) : Prop :=
  (∃ q adChainId, ofAdManager H q adChainId = c) ∧
    ∀ q adChainId, ofAdManager H q adChainId = c → AdManager.hashOrder H q adChainId = .ok orderHash

/-- The EVM AdManager spells the order, and passes and hashes every spelling of it to
`orderHash`. -/
def HashesOnEvm (P : Evm.Primitives) (adManager : Evm.EvmAddress) (c : Canonical)
    (orderHash : BytesN32) : Prop :=
  (∃ q adChainId, ofEvm (Evm.adOrder q adChainId adManager) = c) ∧
    ∀ q adChainId, ofEvm (Evm.adOrder q adChainId adManager) = c →
      Evm.OrderHash.checkWidths q.amount q.orderChainId adChainId q.deadline = .ok () ∧
        Evm.adOrderHash P q adChainId adManager = orderHash

section Cross

variable {P : Evm.Primitives} {H : Host} {orderHash : BytesN32}

/-- An EVM order crosses exactly where the Rust buffer holds its ad id. -/
theorem hashesOnSoroban_iff (hP : P.Documented) (hkeccak : H.keccak256 = P.keccak256)
    {ctx : Evm.OrderPortal.Context} {p : Evm.OrderPortal.OrderParams}
    (h : Evm.OrderPortal.Accepted P ctx p orderHash) (hpeer : p.adManager = H.contractId) :
    HashesOnSoroban H (ofEvm (Evm.OrderPortal.order p ctx.chainId ctx.this)) orderHash
      ↔ p.adId.length ≤ 1024 := by
  have hspelt := ofAdManager_toAdManager h hpeer
  constructor
  · rintro ⟨-, hall⟩
    have hhash := hall _ _ hspelt
    rw [adManager_hashOrder_of_accepted hP hkeccak h hspelt] at hhash
    by_contra hlong
    rw [if_neg hlong] at hhash
    cases hhash
  · intro hshort
    refine ⟨⟨_, _, hspelt⟩, fun q adChainId hq => ?_⟩
    rw [adManager_hashOrder_of_accepted hP hkeccak h hq, if_pos hshort]

/-- A Soroban order always crosses. -/
theorem hashesOnEvm {X : Type} {s : OrderPortal.Chain X} (hP : P.Documented)
    (hkeccak : H.keccak256 = P.keccak256) {p : OrderPortal.OrderParams} {orderChainId : U128}
    (hvalid : OrderPortal.validateOrder p s = .ok ())
    (hhash : OrderPortal.hashOrder H p orderChainId = .ok orderHash) {adManager : Evm.EvmAddress}
    (hpeer : p.adManager = Evm.toBytes32 adManager) :
    HashesOnEvm P adManager (ofOrderPortal H p orderChainId) orderHash := by
  refine ⟨⟨_, _, ofEvm_toAdOrderParams hvalid hpeer orderChainId⟩, fun q adChainId hq => ⟨?_, ?_⟩⟩
  · -- the widths come with the view: Rust typed these four narrow already
    have hfits {w v : ℕ} {x : BitVec 256} {y : BitVec w} (hxy : x = y.setWidth 256) (hw : w ≤ v) :
        x.toNat < 2 ^ v := by
      calc x.toNat ≤ y.toNat := by
            rw [hxy, BitVec.toNat_setWidth]
            exact Nat.mod_le _ _
        _ < 2 ^ w := y.isLt
        _ ≤ 2 ^ v := Nat.pow_le_pow_right (by decide) hw
    have hamount : q.amount = p.amount.setWidth 256 := congrArg Canonical.amount hq
    have horder : q.orderChainId = orderChainId.setWidth 256 := congrArg Canonical.orderChainId hq
    have had : adChainId = p.adChainId.setWidth 256 := congrArg Canonical.adChainId hq
    have hdeadline : q.deadline = p.deadline.setWidth 256 := congrArg Canonical.deadline hq
    simp only [Evm.OrderHash.checkWidths, Check.bind_ok, Check.require_ok]
    exact ⟨(), hfits hamount (by decide), (), ⟨hfits horder (by decide), hfits had (by decide)⟩,
      hfits hdeadline (by decide)⟩
  · exact adOrderHash_of_hashOrder hP hkeccak hhash hq

/-- One hash for one order. An order that an EVM portal accepts is hashed to the same word by the
Soroban ad leg exactly where its ad id has at most 1024 bytes; one that a Soroban portal accepts is
always hashed to the same word by the EVM ad leg. All four legs hash the canonical fields they see,
and the hash determines these wherever keccak does not collide. -/
theorem order_hash_parity (hP : P.Documented) :
    (∀ (X : Type) (W : Evm.OrderPortal.World X) (ctx : Evm.OrderPortal.Context)
        (p : Evm.OrderPortal.OrderParams) (s s' : Evm.OrderPortal.Portal X) (orderHash : BytesN32)
        (H : Host), H.keccak256 = P.keccak256 → p.adManager = H.contractId →
      Evm.OrderPortal.createOrder P W ctx p s = .ok (orderHash, s') →
      (HashesOnSoroban H (ofEvm (Evm.OrderPortal.order p ctx.chainId ctx.this)) orderHash
        ↔ p.adId.length ≤ 1024)) ∧
    (∀ (X : Type) (O : Outside X) (H : Host) (env : Env) (p : OrderPortal.OrderParams)
        (s s' : OrderPortal.Chain X) (orderHash : BytesN32) (config : ContractConfig)
        (adManager : Evm.EvmAddress), H.keccak256 = P.keccak256 →
      p.adManager = Evm.toBytes32 adManager → s.core.settings.config = some config →
      OrderPortal.createOrder O H env p s = .ok (orderHash, s') →
      HashesOnEvm P adManager (ofOrderPortal H p config.chainId) orderHash) ∧
    (∀ (H : Host), H.keccak256 = P.keccak256 →
      (∀ p c a, Evm.OrderPortal.hashOrder P p c a
        = (ofEvm (Evm.OrderPortal.order p c a)).digest P.keccak256) ∧
      (∀ q c a, Evm.adOrderHash P q c a = (ofEvm (Evm.adOrder q c a)).digest P.keccak256) ∧
      (∀ p c h, OrderPortal.hashOrder H p c = .ok h →
        h = (ofOrderPortal H p c).digest P.keccak256) ∧
      ∀ q c h, AdManager.hashOrder H q c = .ok h → h = (ofAdManager H q c).digest P.keccak256) ∧
    ∀ c c' : Canonical,
      Set.InjOn P.keccak256 (c.preimages P.keccak256 ∪ c'.preimages P.keccak256) →
      c.digest P.keccak256 = c'.digest P.keccak256 → c = c' := by
  refine ⟨?_, ?_, ?_, ?_⟩
  · intro X W ctx p s s' orderHash H hkeccak hpeer ok
    exact hashesOnSoroban_iff hP hkeccak (Evm.OrderPortal.createOrder_ok ok) hpeer
  · intro X O H env p s s' orderHash config adManager hkeccak hpeer hconfig ok
    cases OrderPortal.createOrder_step ok with
    | admin hcall => cases hcall
    | createOrder hconfig' hvalid _ _ hhash =>
      obtain rfl := Option.some.inj (hconfig.symm.trans hconfig')
      exact hashesOnEvm hP hkeccak hvalid hhash hpeer
  · intro H hkeccak
    refine ⟨fun p c a => evm_digest hP _, fun q c a => evm_digest hP _, ?_, ?_⟩
    · intro p c h hhash
      rw [orderPortal_hashOrder, hkeccak] at hhash
      exact (Check.ite_ok.mp hhash).2
    · intro q c h hhash
      rw [adManager_hashOrder, hkeccak] at hhash
      exact (Check.ite_ok.mp hhash).2
  · intro c c' hinj h
    exact Canonical.digest_inj hinj h

end Cross

/-! ## Two orders on an EVM portal -/

/-- An ERC20 of seven decimals that takes no fee, seen by its balance at the portal. -/
def sampleWorld : Evm.OrderPortal.World Evm.Uint256 where
  decimals _ _ := some 7
  balanceOf x _ _ := some x
  safeTransferFrom x _ _ _ amount := some (x + amount)
  safeDeposit x amount := some (x + amount)
  appendOrderHash x _ _ := some x

def sampleContext : Evm.OrderPortal.Context where
  timestamp := 1000
  chainId := 1
  sender := 0xB1
  value := 0
  this := 0x50

/-- A portal with one route wired. -/
def samplePortal : Evm.OrderPortal.Portal Evm.Uint256 where
  paused := false
  peerEscrow := Map.set ∅ 2 0xAD
  tokenRoute := Map.set ∅ (0x11, 2) 0x22
  orders := ∅
  inFlightOf := ∅
  timingVersion := Map.set ∅ 2 1
  routeTimingAt := Map.set ∅ (2, 1) ⟨3600, 86400, 600, 600⟩
  outside := 0
  logs := []

/-- The sample order, as the bridger submits it on the EVM. -/
def sampleOrder (adId : AdId) : Evm.OrderPortal.OrderParams where
  orderChainToken := 0x11
  adChainToken := 0x22
  amount := 100000
  bridger := 0xB1
  orderRecipient := 0xB2
  adChainId := 2
  adManager := 0xAD
  adId
  adCreator := 0x3A
  adRecipient := 0x3B
  salt := 7
  orderDecimals := 7
  adDecimals := 7
  deadline := 8200
  adSettlementSigner := 0x3A
  lpFeeBps := 10
  protocolFeeBps := 5

/-- An ad id one byte longer than the Rust buffer. -/
def longAdId : AdId := List.replicate 1025 97

/-- Keccak-256 on what hashing the sample order reads, by length, with the short and the long ad
id; `structHash` and `orderHash` are those of the order at hand. -/
def tableKeccak (structHash orderHash : BytesN32) (b : Bytes) : BytesN32 :=
  if b.length = 640 then structHash
  else if b.length = 96 then Evm.DOMAIN_SEPARATOR
  else if b.length = 66 then orderHash
  else if b.length = 4 then 0xc673068a64ce0a2cf68f65767ff2c087e6b823c7cea3e59cb0776ff3efcc63d3
  else if b.length = 1025 then 0x55b934212fd36bd07796602b6085a4347466680f525d41a57c1ee61abbb0e7f7
  else Eip712.ORDER_TYPEHASH

def samplePrimitives (structHash orderHash : BytesN32) : Evm.Primitives where
  keccak256 := tableKeccak structHash orderHash
  efficientHash words := tableKeccak structHash orderHash (Eip712.concat words)
  toTypedDataHash domainSeparator word := tableKeccak structHash orderHash
    (0x19 :: 0x01 :: Eip712.concat [domainSeparator, word])

theorem samplePrimitives_documented (structHash orderHash : BytesN32) :
    (samplePrimitives structHash orderHash).Documented where
  efficientHash _ := rfl
  toTypedDataHash _ _ := rfl
  typehash := by
    have hlength : (Evm.bytesOf Evm.ORDER_TYPE).length = 364 := by decide +kernel
    simp [samplePrimitives, tableKeccak, hlength]
  domain := by simp [samplePrimitives, tableKeccak]

/-- The struct hash and the order hash with the ad id `ad-1`. -/
def shortStructHash : BytesN32 := 0x23baf241a196dcf4b542a4355c77176e1788f79471eb856d4a374428bcc28e47
def shortHash : BytesN32 := 0x37fcdb1141fe8260e4abb5066caa8f8da2e70906374e74a739ade58545ba2ba1

/-- The same with `longAdId`. -/
def longStructHash : BytesN32 := 0x45d4f47d6b3c5d4f87ab39c9b06db8eeea706e4a53d946bff1964c6719235f80
def longHash : BytesN32 := 0x77be5af020830b0746592361b61f02dfd6132fee2d372a1bcbf2b56539da24dd

abbrev shortPrimitives : Evm.Primitives := samplePrimitives shortStructHash shortHash
abbrev longPrimitives : Evm.Primitives := samplePrimitives longStructHash longHash

/-- The Soroban side, on the same keccak. -/
abbrev sorobanHost (P : Evm.Primitives) (contractId : BytesN32) : Host :=
  { sampleHost contractId with keccak256 := P.keccak256 }

/-- A Soroban portal with the same route wired. -/
def sampleChain : OrderPortal.Chain Bank :=
  ((play (OrderPortal.system Bank.world (sorobanHost shortPrimitives 0x50) Bank.gift)
    OrderPortal.sampleCalls.dropLast [] (.fresh OrderPortal.sampleStart)).getD
      ([], .fresh OrderPortal.sampleStart)).2

/-- The short order crosses both ways. -/
theorem order_hash_parity_sample :
    HashesOnSoroban (sorobanHost shortPrimitives 0xAD)
      (ofEvm (Evm.OrderPortal.order (sampleOrder [97, 100, 45, 49]) 1 0x50)) shortHash ∧
    HashesOnEvm shortPrimitives 0xAD
      (ofOrderPortal (sorobanHost shortPrimitives 0x50) OrderPortal.sampleParams 1) shortHash := by
  obtain ⟨htoSoroban, htoEvm, -, -⟩ :=
    order_hash_parity (samplePrimitives_documented shortStructHash shortHash)
  constructor
  · obtain ⟨s', ok⟩ : ∃ s', Evm.OrderPortal.createOrder shortPrimitives sampleWorld sampleContext
        (sampleOrder [97, 100, 45, 49]) samplePortal = .ok (shortHash, s') :=
      Check.accepted_of_answer (by decide +kernel)
    have hcrosses := htoSoroban _ _ _ _ _ s' _ (sorobanHost shortPrimitives 0xAD) rfl rfl ok
    exact hcrosses.mpr (by decide)
  · have hconfig : sampleChain.core.settings.config
        = some ⟨.account 0x0A, .contract 0x57, .contract 0x58, .contract 0x59, 1⟩ := by
      decide +kernel
    obtain ⟨s', ok⟩ : ∃ s', OrderPortal.createOrder Bank.world (sorobanHost shortPrimitives 0x50)
        (sampleEnv 1000) OrderPortal.sampleParams sampleChain = .ok (shortHash, s') :=
      Check.accepted_of_answer (by decide +kernel)
    exact htoEvm _ _ _ _ _ _ s' _ _ 0xAD rfl rfl hconfig ok

/-- The long one is deposited on the EVM and stops the Soroban leg, however it is spelt there. -/
theorem long_ad_id_strands : ∃ s', Evm.OrderPortal.createOrder longPrimitives sampleWorld
      sampleContext (sampleOrder longAdId) samplePortal = .ok (longHash, s') ∧
    AdManager.hashOrder (sorobanHost longPrimitives 0xAD)
      (toAdManager sampleContext (sampleOrder longAdId)) 2 = .error (.trap .sliceBounds) ∧
    ¬ HashesOnSoroban (sorobanHost longPrimitives 0xAD)
      (ofEvm (Evm.OrderPortal.order (sampleOrder longAdId) 1 0x50)) longHash := by
  obtain ⟨s', ok⟩ : ∃ s', Evm.OrderPortal.createOrder longPrimitives sampleWorld sampleContext
      (sampleOrder longAdId) samplePortal = .ok (longHash, s') :=
    Check.accepted_of_answer (by decide +kernel)
  have hlong : ¬ longAdId.length ≤ 1024 := by
    rw [longAdId, List.length_replicate]
    omega
  refine ⟨s', ok, ?_, ?_⟩
  · rw [adManager_hashOrder]
    exact if_neg hlong
  · intro hhashes
    exact hlong ((hashesOnSoroban_iff (samplePrimitives_documented _ _) rfl
      (Evm.OrderPortal.createOrder_ok ok) rfl).mp hhashes)

end Parity
end ProofBridge
