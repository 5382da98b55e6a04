import ProofBridge.AdManager.Errors
import ProofBridge.Core.Escrow

/-!
# The AdManager's data

Ads, the parameters of an order as the ad chain spells them, the contract's storage, and the
order hash on this leg.
-/

namespace ProofBridge
namespace AdManager

open ContractLib

/-- The bridge fee: `lpBps` stays in the maker's ad, `protocolBps` goes to `pool`. -/
structure FeeConfig where
  pool : Option BytesN32
  lpBps : ℕ
  protocolBps : ℕ
  deriving DecidableEq, Repr

/-- Source chain configuration (present = supported). -/
structure ChainInfo where
  orderPortal : BytesN32
  deriving DecidableEq, Repr

/-- Liquidity advertisement created by a maker. -/
structure Ad where
  /-- Source chain this ad serves. -/
  orderChainId : U128
  /-- Maker's recipient address on the order chain. -/
  adRecipient : BytesN32
  /-- Ad owner on this chain. -/
  maker : Address
  token : BytesN32
  /-- Total token balance deposited. -/
  balance : ℕ
  /-- Portion of the balance reserved for open orders. -/
  locked : ℕ
  /-- Whether the ad is accepting new orders. -/
  isOpen : Bool
  /-- Order-chain token this ad committed to at creation. -/
  orderChainToken : BytesN32
  /-- The account whose settlement key co-signs for the maker. -/
  settlementSigner : BytesN32
  deriving DecidableEq, Repr

/-- Parameters describing a cross-chain order (ad-manager variant). -/
structure OrderParams where
  orderChainToken : BytesN32
  adChainToken : BytesN32
  amount : U128
  bridger : BytesN32
  orderChainId : U128
  srcOrderPortal : BytesN32
  orderRecipient : BytesN32
  adId : AdId
  adCreator : BytesN32
  adRecipient : BytesN32
  salt : BitVec 256
  orderDecimals : U32
  adDecimals : U32
  deadline : U64
  adSettlementSigner : BytesN32
  lpFeeBps : U32
  protocolFeeBps : U32
  deriving DecidableEq, Repr

/-- A maker's settlement halt. -/
structure Halt where
  halted : Bool
  lastResumedAt : ℕ
  deriving DecidableEq, Repr

/-- The AdManager with everything around it. The key-registry and fee settings are the admin's;
ads and halts are the makers'. -/
structure Chain (X : Type) where
  core : Core X
  fees : FeeConfig
  chains : Map U128 ChainInfo
  keyRegistry : Option Address
  registryEpoch : ℕ
  /-- The registry each epoch opened with. -/
  registries : Map ℕ Address
  ads : Map AdId Ad
  halts : Map Address Halt

/-- An AdManager just deployed into the outside world `x`. -/
def Chain.fresh {X : Type} (x : X) : Chain X where
  core := .fresh x
  fees := { pool := none, lpBps := 0, protocolBps := 0 }
  chains := ∅
  keyRegistry := none
  registryEpoch := 0
  registries := ∅
  ads := ∅
  halts := ∅

/-! ## The order hash on this leg -/

/-- `order_of`: `ad_chain_id` and `ad_manager` are this chain and contract. -/
def orderOf (H : Host) (params : OrderParams) (adChainId : U128) :
    Check AdManagerError Eip712.Order := do
  let adIdHash ← Eip712.abiEncodeString H params.adId
  pure {
    orderChainToken := params.orderChainToken
    adChainToken := params.adChainToken
    amount := params.amount
    bridger := params.bridger
    orderChainId := params.orderChainId
    orderPortal := params.srcOrderPortal
    orderRecipient := params.orderRecipient
    adChainId
    adManager := H.contractId
    adIdHash
    adCreator := params.adCreator
    adRecipient := params.adRecipient
    salt := params.salt
    orderDecimals := params.orderDecimals
    adDecimals := params.adDecimals
    deadline := params.deadline
    adSettlementSigner := params.adSettlementSigner
    lpFeeBps := params.lpFeeBps
    protocolFeeBps := params.protocolFeeBps }

/-- `hash_order`. -/
def hashOrder (H : Host) (params : OrderParams) (adChainId : U128) :
    Check AdManagerError BytesN32 := do
  let o ← orderOf H params adChainId
  pure (Eip712.hashTypedDataV4 H (Eip712.structHashOrder H o))

/-- The byte strings keccak reads while hashing these params. -/
def preimages (H : Host) (adChainId : U128) (params : OrderParams) : Set Bytes :=
  {b | ∃ o, orderOf H params adChainId = .ok o ∧ b ∈ Eip712.Preimages H params.adId o}

/-- Keccak does not collide on what hashing these orders feeds it. -/
def CollisionFree (H : Host) (adChainId : U128) (orders : List OrderParams) : Prop :=
  Set.InjOn H.keccak256 {b | ∃ params ∈ orders, b ∈ preimages H adChainId params}

theorem CollisionFree.mono {H : Host} {adChainId : U128} {orders orders' : List OrderParams}
    (h : CollisionFree H adChainId orders') (hsub : orders ⊆ orders') :
    CollisionFree H adChainId orders := by
  intro b hb b' hb' hk
  obtain ⟨p, hp, hpb⟩ := hb
  obtain ⟨p', hp', hpb'⟩ := hb'
  exact h ⟨p, hsub hp, hpb⟩ ⟨p', hsub hp', hpb'⟩ hk

theorem hashOrder_safe {H : Host} {params : OrderParams} {adChainId : U128} :
    (hashOrder H params adChainId).Safe .underflow := by
  unfold hashOrder orderOf Eip712.abiEncodeString
  simp

/-- Orders with one hash are one order. -/
theorem CollisionFree.eq_of_hashOrder {H : Host} {adChainId : U128} {orders : List OrderParams}
    (h : CollisionFree H adChainId orders) {params params' : OrderParams} {orderHash : BytesN32}
    (hmem : params ∈ orders) (hmem' : params' ∈ orders)
    (hhash : hashOrder H params adChainId = .ok orderHash)
    (hhash' : hashOrder H params' adChainId = .ok orderHash) : params = params' := by
  simp only [hashOrder, Check.bind_ok, Check.pure_ok] at hhash hhash'
  obtain ⟨o, ho, rfl⟩ := hhash
  obtain ⟨o', ho', heq⟩ := hhash'
  have hpre : Eip712.Preimages H params.adId o
      ⊆ {b | ∃ params ∈ orders, b ∈ preimages H adChainId params} :=
    fun b hb => ⟨params, hmem, o, ho, hb⟩
  have hpre' : Eip712.Preimages H params'.adId o'
      ⊆ {b | ∃ params ∈ orders, b ∈ preimages H adChainId params} :=
    fun b hb => ⟨params', hmem', o', ho', hb⟩
  have horder : o = o' := Eip712.hashTypedDataV4_inj h hpre hpre' heq
  simp only [orderOf, Check.bind_ok, Check.pure_ok] at ho ho'
  obtain ⟨w, hw, rfl⟩ := ho
  obtain ⟨w', hw', rfl⟩ := ho'
  simp only [Eip712.Order.mk.injEq] at horder
  obtain ⟨h1, h2, h3, h4, h5, h6, h7, -, -, h8, h9, h10, h11, h12, h13, h14, h15, h16, h17⟩ :=
    horder
  subst h8
  have hid : params.adId = params'.adId :=
    Eip712.abiEncodeString_inj h (hpre (by simp [Eip712.Preimages]))
      (hpre' (by simp [Eip712.Preimages])) hw hw'
  cases params
  cases params'
  simp_all

/-! ## Amounts -/

/-- `ad_amount`: the signed amount in ad-chain units. -/
def adAmount (params : OrderParams) : Check AdManagerError ℕ :=
  Check.mapError (fun e => .ofFault e.toFault)
    (scale params.amount.toNat params.orderDecimals.toNat params.adDecimals.toNat)

end AdManager
end ProofBridge
