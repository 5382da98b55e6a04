import ProofBridge.AgentPolicy.Calldata
import ProofBridge.Evm.AgentPolicyCodec
import ProofBridge.Evm.RateLimit

/-!
# The one action of a policy

A lock's arguments are read back only in the shape the encoder gives them, and its amount is brought
to the ad token's decimals with an answer where the escrow would revert.
-/

namespace ProofBridge
namespace AgentPolicy

open ContractLib Evm

/-! ## `decodeLock` -/

/-- `IAdManager.lockForOrder.selector`. -/
def LOCK_FOR_ORDER_SELECTOR : Bytes := [0xbb, 0x18, 0x67, 0xf1]

/-- The order whose head starts at `base`. -/
def orderParamsAt (data : Bytes) (base : ℕ) : Option AdOrderParams := do
  Abi.hasHead data base 17
  let orderChainToken ← Abi.uint data 256 base
  let adChainToken ← Abi.uint data 256 (base + 32)
  let amount ← Abi.uint data 256 (base + 64)
  let bridger ← Abi.uint data 256 (base + 96)
  let orderChainId ← Abi.uint data 256 (base + 128)
  let srcOrderPortal ← Abi.uint data 256 (base + 160)
  let orderRecipient ← Abi.uint data 256 (base + 192)
  let adIdOffset ← Abi.offset data (base + 224)
  let adId ← Abi.bytesAt data (base + adIdOffset)
  let adCreator ← Abi.uint data 256 (base + 256)
  let adRecipient ← Abi.uint data 256 (base + 288)
  let salt ← Abi.uint data 256 (base + 320)
  let orderDecimals ← Abi.uint data 8 (base + 352)
  let adDecimals ← Abi.uint data 8 (base + 384)
  let deadline ← Abi.uint data 256 (base + 416)
  let adSettlementSigner ← Abi.uint data 256 (base + 448)
  let lpFeeBps ← Abi.uint data 16 (base + 480)
  let protocolFeeBps ← Abi.uint data 16 (base + 512)
  pure {
    orderChainToken, adChainToken, amount, bridger, orderChainId, srcOrderPortal, orderRecipient, adId
    adCreator, adRecipient, salt, orderDecimals, adDecimals, deadline, adSettlementSigner, lpFeeBps
    protocolFeeBps }

/-- `abi.decode(args, (IAdManager.OrderParams, uint32))`. -/
def decodeArgs (args : Bytes) : Option (AdOrderParams × U32) := do
  Abi.hasHead args 0 2
  let base ← Abi.offset args 0
  let params ← orderParamsAt args base
  let slot ← Abi.uint args 32 32
  pure (params, slot)

/-- `abi.encode(params, slot)`. -/
def encodeArgs (p : AdOrderParams) (slot : U32) : Bytes :=
  Eip712.concat [0x40, slot.setWidth 256, p.orderChainToken, p.adChainToken, p.amount, p.bridger,
    p.orderChainId, p.srcOrderPortal, p.orderRecipient, 0x220, p.adCreator, p.adRecipient, p.salt,
    p.orderDecimals.setWidth 256, p.adDecimals.setWidth 256, p.deadline, p.adSettlementSigner,
    p.lpFeeBps.setWidth 256, p.protocolFeeBps.setWidth 256] ++ encodeTail p.adId

/-- The arguments of a `lockForOrder`, exactly as the encoder writes them: nothing where the call
reverts. The slot is the maker's own choice and is not judged. -/
def decodeLock (P : Primitives) (data : Bytes) : Option AdOrderParams := do
  let args := data.drop 4
  let (params, slot) ← decodeArgs args
  if P.keccak256 (encodeArgs params slot) = P.keccak256 args then some params else none

/-- The action of a selector; zero is no action of a policy. -/
def actionIdOf (selector : Bytes) : UInt8 :=
  if selector = LOCK_FOR_ORDER_SELECTOR then AgentPolicyCodec.ACTION_LOCK_FOR_ORDER else 0

/-! ## `_adAmount` -/

/-- The order's size in the ad token's units, or none where it does not scale. -/
def adAmount (p : AdOrderParams) : Option ℕ :=
  let fromDec := p.orderDecimals.toNat
  let toDec := p.adDecimals.toNat
  let amount := p.amount.toNat
  if MAX_DECIMALS < fromDec ∨ MAX_DECIMALS < toDec then none
  else if fromDec = toDec then some amount
  else if fromDec < toDec then
    let factor := 10 ^ (toDec - fromDec)
    -- the product wraps, and the quotient tells
    let out := amount * factor % 2 ^ 256
    if amount ≠ 0 ∧ out / amount ≠ factor then none else some out
  else
    let divisor := 10 ^ (fromDec - toDec)
    if amount % divisor ≠ 0 then none else some (amount / divisor)

end AgentPolicy
end ProofBridge
