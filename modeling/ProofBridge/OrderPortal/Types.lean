import ProofBridge.Core.Escrow
import ProofBridge.OrderPortal.Errors

/-!
# The OrderPortal's data

The parameters of an order as the order chain spells them, the contract's storage, and the order
hash on this leg.
-/

namespace ProofBridge
namespace OrderPortal

open ContractLib

/-- Destination chain configuration (present = supported). -/
structure ChainInfo where
  adManager : BytesN32
  deriving DecidableEq, Repr

/-- Parameters for creating or unlocking an order (order-portal variant). -/
structure OrderParams where
  orderChainToken : BytesN32
  adChainToken : BytesN32
  amount : U128
  bridger : BytesN32
  orderRecipient : BytesN32
  adChainId : U128
  adManager : BytesN32
  adId : AdId
  adCreator : BytesN32
  adRecipient : BytesN32
  salt : BitVec 256
  orderDecimals : U32
  adDecimals : U32
  deadline : U64
  adSettlementSigner : BytesN32
  lpFeeBps : U32
  protocolFeeBps : U32
  deriving DecidableEq, Repr

/-- The OrderPortal with everything around it. -/
structure Chain (X : Type) where
  core : Core X
  chains : Map U128 ChainInfo

/-- An OrderPortal just deployed into the outside world `x`. -/
def Chain.fresh {X : Type} (x : X) : Chain X where
  core := .fresh x
  chains := ∅

/-! ## The order hash on this leg -/

/-- `order_of`: `order_chain_id` and `order_portal` are this chain and contract. -/
def orderOf (H : Host) (params : OrderParams) (orderChainId : U128) :
    Check OrderPortalError Eip712.Order := do
  let adIdHash ← Eip712.abiEncodeString H params.adId
  pure {
    orderChainToken := params.orderChainToken
    adChainToken := params.adChainToken
    amount := params.amount
    bridger := params.bridger
    orderChainId
    orderPortal := H.contractId
    orderRecipient := params.orderRecipient
    adChainId := params.adChainId
    adManager := params.adManager
    adIdHash
    adCreator := params.adCreator
    adRecipient := params.adRecipient
    salt := params.salt
    orderDecimals := params.orderDecimals
    adDecimals := params.adDecimals
    deadline := params.deadline
    adSettlementSigner := params.adSettlementSigner
    lpFeeBps := params.lpFeeBps
    protocolFeeBps := params.protocolFeeBps }

/-- `hash_order`. -/
def hashOrder (H : Host) (params : OrderParams) (orderChainId : U128) :
    Check OrderPortalError BytesN32 := do
  let o ← orderOf H params orderChainId
  pure (Eip712.hashTypedDataV4 H (Eip712.structHashOrder H o))

/-- The byte strings keccak reads while hashing these params. -/
def preimages (H : Host) (orderChainId : U128) (params : OrderParams) : Set Bytes :=
  {b | ∃ o, orderOf H params orderChainId = .ok o ∧ b ∈ Eip712.Preimages H params.adId o}

/-- Keccak does not collide on what hashing these orders feeds it. -/
def CollisionFree (H : Host) (orderChainId : U128) (orders : List OrderParams) : Prop :=
  Set.InjOn H.keccak256 {b | ∃ params ∈ orders, b ∈ preimages H orderChainId params}

theorem hashOrder_safe {H : Host} {params : OrderParams} {orderChainId : U128} :
    (hashOrder H params orderChainId).Safe .underflow := by
  unfold hashOrder orderOf Eip712.abiEncodeString
  simp

/-- Orders with one hash are one order. -/
theorem CollisionFree.eq_of_hashOrder {H : Host} {orderChainId : U128} {orders : List OrderParams}
    (h : CollisionFree H orderChainId orders) {params params' : OrderParams} {orderHash : BytesN32}
    (hmem : params ∈ orders) (hmem' : params' ∈ orders)
    (hhash : hashOrder H params orderChainId = .ok orderHash)
    (hhash' : hashOrder H params' orderChainId = .ok orderHash) : params = params' := by
  simp only [hashOrder, Check.bind_ok, Check.pure_ok] at hhash hhash'
  obtain ⟨o, ho, rfl⟩ := hhash
  obtain ⟨o', ho', heq⟩ := hhash'
  have hpre : Eip712.Preimages H params.adId o
      ⊆ {b | ∃ params ∈ orders, b ∈ preimages H orderChainId params} :=
    fun b hb => ⟨params, hmem, o, ho, hb⟩
  have hpre' : Eip712.Preimages H params'.adId o'
      ⊆ {b | ∃ params ∈ orders, b ∈ preimages H orderChainId params} :=
    fun b hb => ⟨params', hmem', o', ho', hb⟩
  have horder : o = o' := Eip712.hashTypedDataV4_inj h hpre hpre' heq
  simp only [orderOf, Check.bind_ok, Check.pure_ok] at ho ho'
  obtain ⟨w, hw, rfl⟩ := ho
  obtain ⟨w', hw', rfl⟩ := ho'
  simp only [Eip712.Order.mk.injEq] at horder
  obtain ⟨h1, h2, h3, h4, -, -, h5, h6, h7, h8, h9, h10, h11, h12, h13, h14, h15, h16, h17⟩ :=
    horder
  subst h8
  have hid : params.adId = params'.adId :=
    Eip712.abiEncodeString_inj h (hpre (by simp [Eip712.Preimages]))
      (hpre' (by simp [Eip712.Preimages])) hw hw'
  cases params
  cases params'
  simp_all

end OrderPortal
end ProofBridge
