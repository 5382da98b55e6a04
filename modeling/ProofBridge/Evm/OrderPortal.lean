import ProofBridge.Core.Outside
import ProofBridge.Evm.OrderHash

/-!
# Creating an order on the EVM OrderPortal

The bridger's entry: every create-time rule, then the deposit, the leaf and the count. A reverted
call leaves nothing behind. Tokens, the wrapped native token and the Merkle manager are outside.
-/

namespace ProofBridge
namespace Evm
namespace OrderPortal

open ContractLib

/-- The order as the order chain sees it. -/
structure OrderParams where
  orderChainToken : BytesN32
  adChainToken : BytesN32
  amount : Uint256
  bridger : BytesN32
  orderRecipient : BytesN32
  adChainId : Uint256
  adManager : BytesN32
  adId : AdId
  adCreator : BytesN32
  adRecipient : BytesN32
  salt : Uint256
  orderDecimals : BitVec 8
  adDecimals : BitVec 8
  deadline : Uint256
  adSettlementSigner : BytesN32
  lpFeeBps : BitVec 16
  protocolFeeBps : BitVec 16
  deriving DecidableEq, Repr

/-- The block and the message of a call. -/
structure Context where
  timestamp : Uint256
  chainId : Uint256
  sender : EvmAddress
  value : Uint256
  /-- This contract. -/
  this : EvmAddress

/-- What `createOrder` calls outside itself; `none` is a revert. -/
structure World (X : Type) where
  decimals : X → EvmAddress → Option (BitVec 8)
  balanceOf : X → EvmAddress → EvmAddress → Option Uint256
  /-- `safeTransferFrom token sender recipient amount`. -/
  safeTransferFrom : X → EvmAddress → EvmAddress → EvmAddress → Uint256 → Option X
  /-- `safeDeposit` into the wrapped native token. -/
  safeDeposit : X → Uint256 → Option X
  appendOrderHash : X → BytesN32 → ℕ → Option X

/-- The part of an order's slot a create writes. -/
structure Slot where
  status : Status
  lockedAt : ℕ
  timingVersion : ℕ
  deriving DecidableEq, Repr

/-- The portal's storage, as far as creating an order reads or writes it, and the world around it. An
unset entry of a mapping reads as zero. -/
structure Portal (X : Type) where
  paused : Bool
  peerEscrow : Map Uint256 BytesN32
  tokenRoute : Map (EvmAddress × Uint256) BytesN32
  orders : Map BytesN32 Slot
  inFlightOf : Map BytesN32 Uint256
  timingVersion : Map Uint256 ℕ
  routeTimingAt : Map (Uint256 × ℕ) RouteTiming
  outside : X
  /-- The hashes of the `OrderCreated` logs, with the params they carry. -/
  logs : List (BytesN32 × OrderParams)

section Validate

variable (P : Primitives)

/-- The canonical order from this leg's params plus the order-chain context. -/
def order (p : OrderParams) (orderChainId : Uint256) (orderPortal : EvmAddress) :
    OrderHash.Order where
  orderChainToken := p.orderChainToken
  adChainToken := p.adChainToken
  amount := p.amount
  bridger := p.bridger
  orderChainId := orderChainId
  orderPortal := toBytes32 orderPortal
  orderRecipient := p.orderRecipient
  adChainId := p.adChainId
  adManager := p.adManager
  adId := p.adId
  adCreator := p.adCreator
  adRecipient := p.adRecipient
  salt := p.salt
  orderDecimals := p.orderDecimals
  adDecimals := p.adDecimals
  deadline := p.deadline
  adSettlementSigner := p.adSettlementSigner
  lpFeeBps := p.lpFeeBps
  protocolFeeBps := p.protocolFeeBps

/-- `_hashOrder`. -/
def hashOrder (p : OrderParams) (orderChainId : Uint256) (orderPortal : EvmAddress) : BytesN32 :=
  OrderHash.digest P (order p orderChainId orderPortal)

/-- `DecimalScaling.assertInRange`. -/
def assertInRange (decimals : BitVec 8) : Check EvmError Unit :=
  Check.require (decimals.toNat ≤ MAX_DECIMALS) (.decimalsOutOfRange decimals)

variable {X : Type} (W : World X) (ctx : Context)

/-- `DecimalScaling.assertMatchesOnChain`; the native sentinel has 18 decimals. -/
def assertMatchesOnChain (token : EvmAddress) (signed : BitVec 8) (x : X) : Check EvmError Unit :=
  if token = NATIVE_TOKEN_ADDRESS then Check.require (18 = signed) (.decimalsMismatch 18 signed)
  else do
    let actual ← Check.expect (W.decimals x token) (.decimalsUnavailable token)
    Check.require (actual = signed) (.decimalsMismatch actual signed)

/-- Every create-time rule, cheapest first. -/
def validateOrder (params : OrderParams) (s : Portal X) : Check EvmError BytesN32 := do
  Check.require (params.amount ≠ 0) .zeroAmount
  Check.require (params.bridger = toBytes32 ctx.sender) .bridgerMustBeSender
  Check.require (params.adRecipient ≠ 0) .zeroAddress
  assertEvmAddress params.adRecipient
  Check.require (params.orderRecipient ≠ 0) .recipientZero
  Check.require
    (params.orderRecipient ≠ params.adCreator ∧ params.orderRecipient ≠ params.adSettlementSigner)
    .recipientIsMaker
  OrderHash.checkWidths params.amount ctx.chainId params.adChainId params.deadline
  assertInRange params.orderDecimals
  assertInRange params.adDecimals
  Check.require
    (params.lpFeeBps.toNat ≤ MAX_FEE_BPS ∧ params.protocolFeeBps.toNat ≤ MAX_FEE_BPS) .invalidFee
  -- the peer AdManager named in the order must be the one wired for that chain
  let peer := (s.peerEscrow.get? params.adChainId).getD 0
  Check.require (peer ≠ 0) (.chainNotSupported params.adChainId)
  Check.require (peer = params.adManager) (.adManagerMismatch peer)
  let orderTokenAddr ← toAddressChecked params.orderChainToken
  let route := (s.tokenRoute.get? (orderTokenAddr, params.adChainId)).getD 0
  Check.require (route ≠ 0) (.missingRoute params.adChainToken params.adChainId)
  Check.require (route = params.adChainToken) (.peerTokenMismatch route params.adChainToken)
  assertMatchesOnChain W orderTokenAddr params.orderDecimals s.outside
  pure (hashOrder P params ctx.chainId ctx.this)

/-- `now + minWindow ≤ deadline ≤ now + MAX_ORDER_WINDOW`, against the route's current version. -/
def requireMinWindow (chainId deadline : Uint256) (s : Portal X) : Check EvmError ℕ := do
  let v := (s.timingVersion.get? chainId).getD 0
  Check.require (v ≠ 0) (.routeTimingNotSet chainId)
  let minWindow := ((s.routeTimingAt.get? (chainId, v)).map RouteTiming.minWindow).getD 0
  let minAllowed ← Check.add 256 ctx.timestamp.toNat minWindow
  Check.require (minAllowed ≤ deadline.toNat) (.deadlineTooSoon deadline.toNat minAllowed)
  let maxAllowed ← Check.add 256 ctx.timestamp.toNat MAX_ORDER_WINDOW
  Check.require (deadline.toNat ≤ maxAllowed) (.deadlineTooFar deadline.toNat maxAllowed)
  pure v

/-- `None → Open`; a second create of the same hash reverts. -/
def openOrder (orderHash : BytesN32) (version : ℕ) : Tx EvmError (Portal X) Unit := do
  let s ← Tx.read
  Tx.require (((s.orders.get? orderHash).map Slot.status).getD .none = .none)
    (.orderExists orderHash)
  Tx.modify fun s => { s with
    orders := s.orders.set orderHash {
      status := .opened, lockedAt := ctx.timestamp.toNat % 2 ^ 64, timingVersion := version } }

/-- Take `amount` of `token` from the caller: native, wrapped from exactly `msg.value`, or an ERC20
whose pull raises this escrow's balance by exactly `amount`. -/
def pullFunds (token : EvmAddress) (amount : Uint256) : Tx EvmError (Portal X) Unit := do
  let s ← Tx.read
  if token = NATIVE_TOKEN_ADDRESS then
    Tx.require (ctx.value = amount) (.nativeAmountMismatch ctx.value amount)
    let outside ← Tx.expectTrap (W.safeDeposit s.outside amount) .callFailed
    Tx.modify fun s => { s with outside }
  else
    Tx.require (ctx.value = 0) .insufficientLiquidity
    let before ← Tx.expectTrap (W.balanceOf s.outside token ctx.this) .callFailed
    let outside ← Tx.expectTrap (W.safeTransferFrom s.outside token ctx.sender ctx.this amount)
      .callFailed
    let balance ← Tx.expectTrap (W.balanceOf outside token ctx.this) .callFailed
    let received ← Tx.lift (Check.sub balance.toNat before.toNat)
    Tx.require (received = amount.toNat) (.transferShort amount.toNat received)
    Tx.modify fun s => { s with outside }

/-- `createOrder`. -/
def createOrder (params : OrderParams) : Tx EvmError (Portal X) BytesN32 := do
  let s ← Tx.read
  Tx.require (s.paused = false) .enforcedPause
  let orderHash ← Tx.view (validateOrder P W ctx params)
  let version ← Tx.view (requireMinWindow ctx params.adChainId params.deadline)
  openOrder ctx orderHash version
  let token ← Tx.lift (toAddressChecked params.orderChainToken)
  pullFunds W ctx token params.amount
  -- the deposit is consumed on the ad side: its leaf carries the AD domain
  let s ← Tx.read
  let outside ← Tx.expectTrap (W.appendOrderHash s.outside orderHash LEAF_DOMAIN_AD) .callFailed
  Tx.modify fun s => { s with
    outside
    -- unchecked
    inFlightOf := s.inFlightOf.set params.bridger
      ((s.inFlightOf.get? params.bridger).getD 0 + 1)
    logs := (orderHash, params) :: s.logs }
  pure orderHash

/-! ## What an accepted order passed -/

variable {P W ctx} {s s' : Portal X} {params : OrderParams} {orderHash : BytesN32}

/-- Every value Soroban types narrower fits there, and the hash is this leg's. -/
structure Accepted (P : Primitives) (ctx : Context) (params : OrderParams)
    (orderHash : BytesN32) : Prop where
  hash : orderHash = hashOrder P params ctx.chainId ctx.this
  amount : params.amount.toNat < 2 ^ 128
  orderChainId : ctx.chainId.toNat < 2 ^ 128
  adChainId : params.adChainId.toNat < 2 ^ 128
  deadline : params.deadline.toNat < 2 ^ 64

theorem validateOrder_ok (ok : validateOrder P W ctx params s = .ok orderHash) :
    Accepted P ctx params orderHash := by
  unfold validateOrder at ok
  simp only [Check.bind_ok, Check.pure_ok] at ok
  obtain ⟨_, -, _, -, _, -, _, -, _, -, _, -, _, hwidths, ok⟩ := ok
  obtain ⟨_, -, _, -, _, -, _, -, _, -, _, -, _, -, _, -, _, -, rfl⟩ := ok
  simp only [OrderHash.checkWidths, Check.bind_ok, Check.require_ok] at hwidths
  obtain ⟨_, hamount, _, hchains, hdeadline⟩ := hwidths
  exact ⟨rfl, hamount, hchains.1, hchains.2, hdeadline⟩

theorem createOrder_ok (ok : createOrder P W ctx params s = .ok (orderHash, s')) :
    Accepted P ctx params orderHash := by
  unfold createOrder at ok
  simp only [Tx.bind_read_ok, Tx.bind_require_ok, Tx.bind_view_ok] at ok
  obtain ⟨-, orderHash', hvalid, version, -, ok⟩ := ok
  rw [Tx.bind_ok] at ok
  obtain ⟨_, s₁, -, ok⟩ := ok
  rw [Tx.bind_lift_ok] at ok
  obtain ⟨token, -, ok⟩ := ok
  rw [Tx.bind_ok] at ok
  obtain ⟨_, s₂, -, ok⟩ := ok
  simp only [Tx.bind_read_ok, Tx.bind_expectTrap_ok, Tx.bind_modify_ok, Tx.pure_ok,
    Prod.mk.injEq] at ok
  obtain ⟨_, -, rfl, -⟩ := ok
  exact validateOrder_ok hvalid

end Validate

end OrderPortal
end Evm
end ProofBridge
