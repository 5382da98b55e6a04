import ProofBridge.Core.Eip712
import ProofBridge.Core.Rules

/-!
# The order hash on an EVM chain

Solidity's words are 256 bits wide, its addresses 160. `checkWidths` refuses what the Soroban side
types narrower. Keccak-256 is the chain's; the two hashing helpers are third-party libraries, taken
as parameters with the behaviour they document.
-/

namespace ProofBridge
namespace Evm

open ContractLib

/-- A `uint256`. -/
abbrev Uint256 := BitVec 256

/-- An `address`. -/
abbrev EvmAddress := BitVec 160

/-- What an EVM leg reverts with. -/
inductive EvmError
  | enforcedPause
  | notEvmAddress (value : BytesN32)
  | amountTooWide
  | chainIdTooWide
  | deadlineTooWide
  | decimalsOutOfRange (value : BitVec 8)
  | decimalsMismatch (expected provided : BitVec 8)
  | decimalsUnavailable (token : EvmAddress)
  | routeTimingNotSet (chainId : Uint256)
  | zeroAddress
  | zeroAmount
  | chainNotSupported (chainId : Uint256)
  | missingRoute (peerToken : BytesN32) (peerChainId : Uint256)
  | peerTokenMismatch (expected provided : BytesN32)
  | orderExists (orderHash : BytesN32)
  | deadlineTooSoon (deadline minAllowed : ℕ)
  | deadlineTooFar (deadline maxAllowed : ℕ)
  | insufficientLiquidity
  | nativeAmountMismatch (sent expected : Uint256)
  | transferShort (expected received : ℕ)
  | bridgerMustBeSender
  | recipientZero
  | recipientIsMaker
  | invalidFee
  | adManagerMismatch (expected : BytesN32)
  deriving DecidableEq, Repr

/-! ## `AddressCast` -/

/-- Left-pad an address into a cross-chain 32-byte id. -/
def toBytes32 (value : EvmAddress) : BytesN32 := value.setWidth 256

/-- The top 12 bytes are zero. -/
def assertEvmAddress (value : BytesN32) : Check EvmError Unit :=
  Check.require (value >>> 160 = 0) (.notEvmAddress value)

/-- Extract an address from a 32-byte id. -/
def toAddressChecked (value : BytesN32) : Check EvmError EvmAddress := do
  assertEvmAddress value
  pure (value.setWidth 160)

/-- The native-token sentinel. -/
def NATIVE_TOKEN_ADDRESS : EvmAddress := 0xEeeeeEeeeEeEeeEeEeEeeEEEeeeeEeeeeeeeEEeE

/-! ## `OrderHash` -/

/-- The hash functions an EVM leg uses. -/
structure Primitives where
  keccak256 : Bytes → BytesN32
  /-- `EfficientHashLib.hash` of a buffer of words. -/
  efficientHash : List BytesN32 → BytesN32
  /-- `MessageHashUtils.toTypedDataHash` of a domain separator and a struct hash. -/
  toTypedDataHash : BytesN32 → BytesN32 → BytesN32

/-- The type string of the canonical order. -/
def ORDER_TYPE : String :=
  "Order(bytes32 orderChainToken,bytes32 adChainToken,uint256 amount,bytes32 bridger,"
    ++ "uint256 orderChainId,bytes32 orderPortal,bytes32 orderRecipient,uint256 adChainId,"
    ++ "bytes32 adManager,string adId,bytes32 adCreator,bytes32 adRecipient,uint256 salt,"
    ++ "uint8 orderDecimals,uint8 adDecimals,uint256 deadline,bytes32 adSettlementSigner,"
    ++ "uint16 lpFeeBps,uint16 protocolFeeBps)"

/-- The bytes of a string. -/
def bytesOf (s : String) : Bytes := s.toUTF8.data.toList

/-- The separator the domain's parts hash to, pinned as a literal. -/
def DOMAIN_SEPARATOR : BytesN32 :=
  0x30be5c0eff57121410bcfb088c479028b3b8059112c22dff7e7b55f1b3927d7d

/-- What the two libraries document, and what keccak-256 gives on the constants both chains pin. -/
structure Primitives.Documented (P : Primitives) : Prop where
  /-- The buffer's words, one after the other. -/
  efficientHash : ∀ words, P.efficientHash words = P.keccak256 (Eip712.concat words)
  /-- The `\x19\x01` envelope. -/
  toTypedDataHash : ∀ domainSeparator structHash, P.toTypedDataHash domainSeparator structHash
    = P.keccak256 (0x19 :: 0x01 :: Eip712.concat [domainSeparator, structHash])
  /-- The Soroban side's literal is the hash of the type string. -/
  typehash : P.keccak256 (bytesOf ORDER_TYPE) = Eip712.ORDER_TYPEHASH
  /-- This side's literal is the hash of the domain's parts. -/
  domain : P.keccak256
    (Eip712.concat [Eip712.DOMAIN_TYPEHASH_MIN, Eip712.NAME_HASH, Eip712.VERSION_HASH])
      = DOMAIN_SEPARATOR

namespace OrderHash

/-- The canonical `Order` tuple. -/
structure Order where
  orderChainToken : BytesN32
  adChainToken : BytesN32
  amount : Uint256
  bridger : BytesN32
  orderChainId : Uint256
  orderPortal : BytesN32
  orderRecipient : BytesN32
  adChainId : Uint256
  adManager : BytesN32
  adId : AdId
  adCreator : BytesN32
  adRecipient : BytesN32
  salt : Uint256
  orderDecimals : BitVec 8
  adDecimals : BitVec 8
  deadline : Uint256
  adSettlementSigner : BytesN32
  lpFeeBps : BitVec 16
  protocolFeeBps : BitVec 16
  deriving DecidableEq, Repr

/-- Values the Soroban side types narrower are rejected here, never hashed. -/
def checkWidths (amount orderChainId adChainId deadline : Uint256) : Check EvmError Unit := do
  Check.require (amount.toNat < 2 ^ 128) .amountTooWide
  Check.require (orderChainId.toNat < 2 ^ 128 ∧ adChainId.toNat < 2 ^ 128) .chainIdTooWide
  Check.require (deadline.toNat < 2 ^ 64) .deadlineTooWide

variable (P : Primitives)

def ORDER_TYPEHASH : BytesN32 := P.keccak256 (bytesOf ORDER_TYPE)

/-- The buffer `structHash` fills. -/
def words (o : Order) : List BytesN32 :=
  [ORDER_TYPEHASH P, o.orderChainToken, o.adChainToken, o.amount, o.bridger, o.orderChainId,
    o.orderPortal, o.orderRecipient, o.adChainId, o.adManager, P.keccak256 o.adId, o.adCreator,
    o.adRecipient, o.salt, o.orderDecimals.setWidth 256, o.adDecimals.setWidth 256, o.deadline,
    o.adSettlementSigner, o.lpFeeBps.setWidth 256, o.protocolFeeBps.setWidth 256]

def structHash (o : Order) : BytesN32 := P.efficientHash (words P o)

/-- Final EIP-712 typed-data digest for an `Order`. -/
def digest (o : Order) : BytesN32 := P.toTypedDataHash DOMAIN_SEPARATOR (structHash P o)

end OrderHash

/-! ## The ad leg's hash -/

/-- The order as the ad chain sees it. -/
structure AdOrderParams where
  orderChainToken : BytesN32
  adChainToken : BytesN32
  amount : Uint256
  bridger : BytesN32
  orderChainId : Uint256
  srcOrderPortal : BytesN32
  orderRecipient : BytesN32
  adId : AdId
  adCreator : BytesN32
  adRecipient : BytesN32
  salt : Uint256
  orderDecimals : BitVec 8
  adDecimals : BitVec 8
  deadline : Uint256
  adSettlementSigner : BytesN32
  lpFeeBps : BitVec 16
  protocolFeeBps : BitVec 16
  deriving DecidableEq, Repr

/-- The canonical order from the ad leg's params plus the ad-chain context. -/
def adOrder (p : AdOrderParams) (adChainId : Uint256) (adManager : EvmAddress) :
    OrderHash.Order where
  orderChainToken := p.orderChainToken
  adChainToken := p.adChainToken
  amount := p.amount
  bridger := p.bridger
  orderChainId := p.orderChainId
  orderPortal := p.srcOrderPortal
  orderRecipient := p.orderRecipient
  adChainId := adChainId
  adManager := toBytes32 adManager
  adId := p.adId
  adCreator := p.adCreator
  adRecipient := p.adRecipient
  salt := p.salt
  orderDecimals := p.orderDecimals
  adDecimals := p.adDecimals
  deadline := p.deadline
  adSettlementSigner := p.adSettlementSigner
  lpFeeBps := p.lpFeeBps
  protocolFeeBps := p.protocolFeeBps

/-- `adOrderHash`. -/
def adOrderHash (P : Primitives) (p : AdOrderParams) (adChainId : Uint256)
    (adManager : EvmAddress) : BytesN32 :=
  OrderHash.digest P (adOrder p adChainId adManager)

end Evm
end ProofBridge
