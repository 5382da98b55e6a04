import ProofBridge.Lib.Map
import ProofBridge.Lib.Tx

/-!
# The data every contract shares

The values that cross a contract's boundary (hashes, chain ids, amounts and times of an order)
keep the width the source gives them, because the order hash is taken over their bytes. What a
contract stores and computes with is a natural number, and every operation on it is checked or
saturates exactly where the source's does: the contracts are built with overflow checks, so an
unsigned operation that leaves its range traps.
-/

namespace ProofBridge

open ContractLib

abbrev U32 := BitVec 32
abbrev U64 := BitVec 64
abbrev U128 := BitVec 128

/-- 32 bytes, as the big-endian number they spell. -/
abbrev BytesN32 := BitVec 256

abbrev Bytes := List UInt8

/-- An ad's id: the bytes of its string. -/
abbrev AdId := Bytes

abbrev Symbol := String

/-! Membership in a list of words or of texts is decided all over the contracts: naming the
instances keeps one proof of each for every module. -/

instance lawfulBEq_bytes : LawfulBEq Bytes := inferInstance
instance lawfulBEq_u32 : LawfulBEq U32 := inferInstance
instance lawfulBEq_u128 : LawfulBEq U128 := inferInstance
instance lawfulBEq_bytesN32 : LawfulBEq BytesN32 := inferInstance

/-- The largest `u64`, where the saturating clocks stop. -/
def maxU64 : ℕ := 2 ^ 64 - 1

/-- `u64::saturating_add`. -/
def saturatingAdd (a b : ℕ) : ℕ := min (a + b) maxU64

theorem le_saturatingAdd {a b : ℕ} (h : a ≤ maxU64) : a ≤ saturatingAdd a b := by
  unfold saturatingAdd
  omega

/-- `amount as i128`: the upper half of `u128` reads as negative. -/
def asI128 (amount : ℕ) : ℤ := if amount < 2 ^ 127 then amount else (amount : ℤ) - 2 ^ 128

/-- An amount whose `i128` is not negative was not changed by the cast. -/
theorem asI128_of_nonneg {amount : ℕ} (hw : amount < 2 ^ 128) (h : 0 ≤ asI128 amount) :
    asI128 amount = amount := by
  unfold asI128 at h ⊢
  split at h <;> simp_all
  omega

/-- A Stellar address: an account key (`G…`) or a contract id (`C…`). -/
inductive Address
  | account (key : BytesN32)
  | contract (id : BytesN32)
  deriving DecidableEq, Repr

/-! ## Order lifecycle -/

/-- `Filled`, `Cancelled` and `Resolved` are terminal; `Claimed` is a presentation window;
`Disputed` and `Resolved` are the dispute's states. -/
inductive Status
  | none
  | opened
  | filled
  | claimed
  | cancelled
  | disputed
  | resolved
  deriving DecidableEq, Repr

namespace Status

/-- The lock still holds liquidity. -/
def live : Status → Bool
  | opened | claimed | disputed => true
  | none | filled | cancelled | resolved => false

/-- The leg has ended. -/
def terminal : Status → Bool
  | filled | cancelled | resolved => true
  | none | opened | claimed | disputed => false

end Status

/-- The per-route clocks, in seconds, versioned. -/
structure RouteTiming where
  /-- Shortest `deadline - now` a lock or create accepts. -/
  minWindow : ℕ
  /-- The primary's presentation window after the deadline. -/
  buffer : ℕ
  /-- How much before the window's end the primary stops accepting the co-signed unlock. -/
  margin : ℕ
  /-- How much before the deadline the follower's co-signed unlock stops (0 = off). -/
  claimStagger : ℕ
  deriving DecidableEq, Repr

/-- How a dispute ended. -/
inductive DisputeOutcome
  | none
  | mutualRefund
  | tradeProceeds
  | bridgerForfeit
  | makerForfeit
  deriving DecidableEq, Repr

structure DisputeParams where
  /-- How long after filing the arbiter may still rule. -/
  challengePeriod : ℕ
  /-- The route's flat bond, in the wrapped native token. -/
  bondFloor : ℕ
  deriving DecidableEq, Repr

/-- A route's bond in the order's own token: `max(minBond, amount × bondBps / 10,000)`. -/
structure BondConfig where
  minBond : ℕ
  bondBps : ℕ
  deriving DecidableEq, Repr

/-- One dispute, keyed by order hash. -/
structure DisputeRecord where
  initiator : Address
  bond : ℕ
  /-- The one deadline: the filing's, then the ruling's. -/
  challengeDeadline : ℕ
  initiatorEvidence : BytesN32
  responderEvidence : BytesN32
  ruling : DisputeOutcome
  /-- The escrow that opened it, the only one allowed to finalize it. -/
  escrow : Address
  orderDeadline : ℕ
  buffer : ℕ
  bondToken : Address
  deriving DecidableEq, Repr

/-- The order's leg on this chain. -/
structure OrderRecord where
  status : Status
  /-- When the leg opened. -/
  lockedAt : ℕ
  /-- The key-registry epoch the order was locked under. -/
  registryEpoch : ℕ
  /-- The route-timing version every window of the leg reads. -/
  timingVersion : ℕ
  /-- The order chain's anchor delay at the lock. -/
  anchorDelay : ℕ
  /-- The settlement signer's co-signing slot the lock pinned. -/
  pinnedSlot : U32
  /-- The pin was moved by a re-pin. -/
  repinned : Bool
  deriving DecidableEq, Repr

/-- What a missing record reads as. -/
def OrderRecord.absent : OrderRecord where
  status := .none
  lockedAt := 0
  registryEpoch := 0
  timingVersion := 0
  anchorDelay := 0
  pinnedSlot := 0
  repinned := false

/-- The open presentation window on an order. -/
structure ClaimRecord where
  openedAt : ℕ
  finalizeAt : ℕ
  deriving DecidableEq, Repr

structure ContractConfig where
  admin : Address
  verifier : Address
  merkleManager : Address
  wNativeToken : Address
  chainId : U128
  deriving DecidableEq, Repr

/-! ## The call's environment -/

/-- What a call reads of the ledger and of the transaction that carries it. -/
structure Env where
  /-- The ledger's close time, in seconds. -/
  timestamp : U64
  /-- Who authorized this call. -/
  authorized : Address → Bool
  /-- Who authorized, beyond the caller, the calls this one makes. -/
  authorizedInside : Address → Bool

namespace Env

/-- The ledger time as a number. -/
def now (env : Env) : ℕ := env.timestamp.toNat

theorem now_lt (env : Env) : env.now < 2 ^ 64 := env.timestamp.isLt

theorem now_le (env : Env) : env.now ≤ maxU64 := by
  have := env.now_lt
  unfold maxU64
  omega

/-- The environment of a call that the contract `caller` makes: the host counts the direct
caller as having authorized it. -/
def inside (env : Env) (caller : Address) : Env where
  timestamp := env.timestamp
  authorized := fun a => a = caller || env.authorizedInside a
  authorizedInside := env.authorizedInside

@[simp] theorem now_inside (env : Env) (caller : Address) : (env.inside caller).now = env.now :=
  rfl

@[simp] theorem authorized_inside (env : Env) (caller : Address) :
    (env.inside caller).authorized caller = true := by
  simp [inside]

end Env

/-- `address.require_auth()`. -/
abbrev requireAuth {ε σ : Type} (env : Env) (address : Address) : Tx ε σ Unit :=
  Tx.demand (env.authorized address = true) .unauthorized

/-- `is_zero_bytes32`. -/
def isZeroBytes32 (bytes : BytesN32) : Bool := bytes = 0

/-! ## Faults -/

/-- Why a shared check refused. Each escrow maps this onto its own error. -/
inductive Fault
  | contractPaused
  | noRouteTiming
  | deadlineTooSoon
  | deadlineTooFar
  | tooEarly
  | notClaimable
  | notClaimed
  | noRootAnchor
  | rootNotAnchored
  | notFilled
  | settledRecorded
  | nothingToClaim
  | invalidTiming
  | notPendingAdmin
  | noDisputeManager
  | notDisputable
  | disputeNotResolved
  | disputeWindowClosed
  | disputeModuleRejected
  | disputeNoParams
  | disputeNotEscrow
  | disputeExists
  | disputeWrongEscrow
  | disputeNotResponder
  | disputeBondTransferFailed
  | disputeResponseWindowClosed
  | disputeAlreadyResponded
  | disputeZeroResponse
  | disputeAlreadyRuled
  | nonCanonicalInput
  | tokenZeroAddress
  | merkleAppendFailed
  | invalidProof
  | decimalsOutOfRange
  | nonExactDownscale
  | decimalOverflow
  | invalidAccountAddress
  | transferShort
  | timelockAlreadyActive
  | timelockAlreadyProposed
  | timelockNotProposed
  | timelockTooEarly
  | timelockBadArgs
  | timelockExpired
  | timelockCancelledByBrake
  deriving DecidableEq, Repr

/-! ## Events -/

/-- What the escrows publish: the shared set, each leg's own, and the timelock's. -/
inductive Event
  | initialized (admin verifier merkleManager : Address) (chainId : U128)
  | paused (admin : Address)
  | unpaused (admin : Address)
  | adminTransferStarted (fromAdmin toAdmin : Address)
  | adminTransferred (fromAdmin toAdmin : Address)
  | timelockActivated (time : ℕ)
  | actionProposed (id : BytesN32) (eta : ℕ) (fnName : Symbol)
  | actionCancelled (id : BytesN32) (time : ℕ)
  | actionExecuted (id : BytesN32) (time : ℕ)
  | chainSet (chainId : U128) (counterpart : BytesN32) (supported : Bool)
  | tokenRouteSet (token peerToken : BytesN32) (peerChainId : U128)
  | tokenRouteRemoved (token peerToken : BytesN32) (peerChainId : U128)
  | orderRouteRemoved (orderToken : BytesN32) (adChainId : U128)
  | rootVerifierSet (chainId : U128) (module : Address)
  | rootVerifierUnset (chainId : U128) (time : ℕ)
  | routeTimingSet (chainId : U128) (version : ℕ) (timing : RouteTiming)
  | rootAnchorSet (anchor : Address)
  | keyRegistrySet (registry : Address)
  | keyRegistryEpoch (epoch : ℕ) (registry : Address)
  | protocolFeePoolSet (pool : BytesN32)
  | feeBpsSet (lpBps protocolBps : ℕ)
  | adCreated (adId : AdId) (maker : Address) (token : BytesN32) (initAmount : ℕ)
      (orderChainId : U128) (settlementSigner : BytesN32)
  | adFunded (adId : AdId) (maker : Address) (amount newBalance : ℕ)
  | adWithdrawn (adId : AdId) (maker : Address) (amount newBalance : ℕ)
  | adClosed (adId : AdId) (maker : Address)
  | settlementSignerSet (adId : AdId) (previous next : BytesN32)
  | settlementHalted (maker : Address)
  | settlementResumed (maker : Address)
  | orderLocked (orderHash : BytesN32) (adId : AdId) (maker : Address) (token : BytesN32)
      (amount : ℕ) (bridger recipient : BytesN32)
  | orderRepinned (orderHash : BytesN32) (fromSlot toSlot : U32)
  | orderCreated (orderHash bridger orderChainToken : BytesN32) (amount : ℕ) (adChainId : U128)
      (adChainToken adManager : BytesN32) (adId : AdId) (adCreator adRecipient : BytesN32)
  | orderUnlocked (orderHash recipient nullifierHash : BytesN32)
  | orderSettled (orderHash : BytesN32) (byEvidence : Bool)
  | orderCancelled (orderHash : BytesN32) (byEvidence : Bool)
  | orderRefunded (orderHash bridger : BytesN32) (amount : ℕ)
  | orderForfeited (orderHash : BytesN32)
  | settledRecorded (orderHash : BytesN32)
  | claimOpened (orderHash : BytesN32) (finalizeAt : ℕ)
  | lockCancelled (orderHash : BytesN32) (adId : AdId) (amount : ℕ)
  | disputeFinalized (orderHash : BytesN32) (outcome : DisputeOutcome)
  | feeCharged (orderHash : BytesN32) (lpFee protocolFee : ℕ)
  | payoutCredited (recipient token : BytesN32) (amount : ℕ)
  | payoutClaimed (recipient token : BytesN32) (amount : ℕ)
  deriving DecidableEq, Repr

/-! ## Arguments of a timelocked call -/

/-- An argument as it is serialized into a proposal. -/
inductive Val
  | unit
  | u32 (n : U32)
  | u64 (n : U64)
  | u128 (n : U128)
  | bool (b : Bool)
  | bytes32 (b : BytesN32)
  | address (a : Address)
  | addresses (l : List Address)
  | u128s (l : List U128)
  | timing (t : RouteTiming)
  | disputeParams (p : DisputeParams)
  | bondConfig (c : BondConfig)
  deriving DecidableEq, Repr

/-- What a contract takes from its host and from cryptography. -/
structure Host where
  /-- This contract's id. -/
  contractId : BytesN32
  /-- Keccak-256. -/
  keccak256 : Bytes → BytesN32
  /-- `sha256(xdr((fn_name, args)))`: the id of a proposed call. -/
  actionId : Symbol → List Val → BytesN32
  /-- `sha256(xdr((fn_name, what)))`: what a brake de-trusts. -/
  brakeKey : Symbol → Val → BytesN32
  /-- The argument list an XDR encoding spells, if it spells one. -/
  argsFromXdr : Bytes → Option (List Val)

/-- `env.current_contract_address()`. -/
def Host.address (H : Host) : Address := .contract H.contractId

end ProofBridge
