import ProofBridge.Core.Types

/-!
# The AdManager's errors

Each escrow's error enum is its own ABI, so the shared code never names one: a shared check
reports a `Fault`, and each contract converts it once.
-/

namespace ProofBridge
namespace AdManager

/-- Everything the contract refuses with. -/
inductive AdManagerError
  | tokenZeroAddress
  | zeroAmount
  | adNotFound
  | notMaker
  | adClosed
  | insufficientLiquidity
  | bridgerZero
  | recipientZero
  | activeLocks
  | chainNotSupported
  | orderPortalMismatch
  | orderChainMismatch
  | missingRoute
  | orderTokenMismatch
  | adTokenMismatch
  | adRecipientMismatch
  | orderExists
  | orderNotOpen
  | nullifierUsed
  | invalidProof
  | zeroAddress
  | merkleAppendFailed
  | usedAdId
  | alreadyInitialized
  | notInitialized
  | decimalsOutOfRange
  | nonExactDownscale
  | decimalOverflow
  | orderDecimalsMismatch
  | adDecimalsMismatch
  | rootNotValid
  | rootVerifierNotSet
  | contractPaused
  | notPendingAdmin
  | nothingToClaim
  | routeMismatch
  | invalidAccountAddress
  | orderExpired
  | noKeyRegistry
  | settlementSignerZero
  | signerNotRegistered
  | settlementSignerMismatch
  | noRouteTiming
  | invalidTiming
  | deadlineTooSoon
  | notClaimable
  | tooEarly
  | notClaimed
  | noRootAnchor
  | rootNotAnchored
  | settledRecorded
  | notFilled
  | noDisputeManager
  | notDisputable
  | disputeNotResolved
  | notAParty
  | nonCanonicalInput
  | halted
  | notHalted
  | anchorDelayUnreadable
  | deadlineTooFar
  | registrySplit
  | disputeWindowClosed
  | disputeModuleRejected
  | disputeNoParams
  | disputeNotEscrow
  | disputeExists
  | disputeWrongEscrow
  | disputeNotResponder
  | disputeBondTransferFailed
  | disputeResponseWindowClosed
  | disputeAlreadyResponded
  | disputeZeroResponse
  | disputeAlreadyRuled
  | signerNotApproved
  | transferShort
  | slotNotUsable
  | noRepin
  | invalidFee
  | timelockAlreadyActive
  | timelockAlreadyProposed
  | timelockNotProposed
  | timelockTooEarly
  | timelockBadArgs
  | feeMismatch
  | timelockExpired
  | timelockCancelledByBrake
  | recipientIsMaker
  deriving DecidableEq, Repr

/-- The shared escrow code reports an opaque reason; here it becomes this contract's own error. -/
def AdManagerError.ofFault : Fault → AdManagerError
  | .contractPaused => .contractPaused
  | .noRouteTiming => .noRouteTiming
  | .deadlineTooSoon => .deadlineTooSoon
  | .deadlineTooFar => .deadlineTooFar
  | .tooEarly => .tooEarly
  | .notClaimable => .notClaimable
  | .notClaimed => .notClaimed
  | .noRootAnchor => .noRootAnchor
  | .rootNotAnchored => .rootNotAnchored
  | .notFilled => .notFilled
  | .settledRecorded => .settledRecorded
  | .nothingToClaim => .nothingToClaim
  | .invalidTiming => .invalidTiming
  | .notPendingAdmin => .notPendingAdmin
  | .noDisputeManager => .noDisputeManager
  | .notDisputable => .notDisputable
  | .nonCanonicalInput => .nonCanonicalInput
  | .disputeNotResolved => .disputeNotResolved
  | .disputeWindowClosed => .disputeWindowClosed
  | .disputeModuleRejected => .disputeModuleRejected
  | .disputeNoParams => .disputeNoParams
  | .disputeNotEscrow => .disputeNotEscrow
  | .disputeExists => .disputeExists
  | .disputeWrongEscrow => .disputeWrongEscrow
  | .disputeNotResponder => .disputeNotResponder
  | .disputeBondTransferFailed => .disputeBondTransferFailed
  | .disputeResponseWindowClosed => .disputeResponseWindowClosed
  | .disputeAlreadyResponded => .disputeAlreadyResponded
  | .disputeZeroResponse => .disputeZeroResponse
  | .disputeAlreadyRuled => .disputeAlreadyRuled
  | .tokenZeroAddress => .tokenZeroAddress
  | .merkleAppendFailed => .merkleAppendFailed
  | .invalidProof => .invalidProof
  | .decimalsOutOfRange => .decimalsOutOfRange
  | .nonExactDownscale => .nonExactDownscale
  | .decimalOverflow => .decimalOverflow
  | .invalidAccountAddress => .invalidAccountAddress
  | .transferShort => .transferShort
  | .timelockAlreadyActive => .timelockAlreadyActive
  | .timelockAlreadyProposed => .timelockAlreadyProposed
  | .timelockNotProposed => .timelockNotProposed
  | .timelockTooEarly => .timelockTooEarly
  | .timelockBadArgs => .timelockBadArgs
  | .timelockExpired => .timelockExpired
  | .timelockCancelledByBrake => .timelockCancelledByBrake

end AdManager
end ProofBridge
