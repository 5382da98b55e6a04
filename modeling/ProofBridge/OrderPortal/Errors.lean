import ProofBridge.Core.Types

/-!
# The OrderPortal's errors

The follower never calls the dispute module, so every module refusal collapses into one error.
-/

namespace ProofBridge
namespace OrderPortal

/-- Everything the contract refuses with. -/
inductive OrderPortalError
  | tokenZeroAddress
  | zeroAmount
  | bridgerMustBeSender
  | invalidAdRecipient
  | routesZeroAddress
  | insufficientLiquidity
  | adChainNotSupported
  | adManagerMismatch
  | missingRoute
  | adTokenMismatch
  | orderExists
  | orderNotOpen
  | nullifierUsed
  | invalidProof
  | zeroAddress
  | merkleAppendFailed
  | verifierCallFailed
  | alreadyInitialized
  | notInitialized
  | decimalsOutOfRange
  | nonExactDownscale
  | decimalOverflow
  | orderDecimalsMismatch
  | adDecimalsMismatch
  | rootNotValid
  | rootVerifierNotSet
  | contractPaused
  | notPendingAdmin
  | nothingToClaim
  | invalidAccountAddress
  | orderExpired
  | noRouteTiming
  | invalidTiming
  | deadlineTooSoon
  | notClaimable
  | tooEarly
  | notClaimed
  | noRootAnchor
  | rootNotAnchored
  | settledRecorded
  | notFilled
  | nonCanonicalInput
  | deadlineTooFar
  | disputeModuleRejected
  | transferShort
  | timelockAlreadyActive
  | timelockAlreadyProposed
  | timelockNotProposed
  | timelockTooEarly
  | timelockBadArgs
  | invalidFee
  | timelockExpired
  | timelockCancelledByBrake
  | recipientZero
  | recipientIsMaker
  deriving DecidableEq, Repr

/-- The shared escrow code reports an opaque reason; here it becomes this contract's own error. -/
def OrderPortalError.ofFault : Fault → OrderPortalError
  | .contractPaused => .contractPaused
  | .noRouteTiming => .noRouteTiming
  | .deadlineTooSoon => .deadlineTooSoon
  | .deadlineTooFar => .deadlineTooFar
  | .tooEarly => .tooEarly
  | .notClaimable => .notClaimable
  | .notClaimed => .notClaimed
  | .noRootAnchor => .noRootAnchor
  | .rootNotAnchored => .rootNotAnchored
  | .notFilled => .notFilled
  | .settledRecorded => .settledRecorded
  | .nothingToClaim => .nothingToClaim
  | .invalidTiming => .invalidTiming
  | .notPendingAdmin => .notPendingAdmin
  | .nonCanonicalInput => .nonCanonicalInput
  | .tokenZeroAddress => .tokenZeroAddress
  | .merkleAppendFailed => .merkleAppendFailed
  | .invalidProof => .invalidProof
  | .decimalsOutOfRange => .decimalsOutOfRange
  | .nonExactDownscale => .nonExactDownscale
  | .decimalOverflow => .decimalOverflow
  | .invalidAccountAddress => .invalidAccountAddress
  | .transferShort => .transferShort
  | .timelockAlreadyActive => .timelockAlreadyActive
  | .timelockAlreadyProposed => .timelockAlreadyProposed
  | .timelockNotProposed => .timelockNotProposed
  | .timelockTooEarly => .timelockTooEarly
  | .timelockBadArgs => .timelockBadArgs
  | .timelockExpired => .timelockExpired
  | .timelockCancelledByBrake => .timelockCancelledByBrake
  | .noDisputeManager | .notDisputable | .disputeNotResolved | .disputeWindowClosed
  | .disputeModuleRejected | .disputeNoParams | .disputeNotEscrow | .disputeExists
  | .disputeWrongEscrow | .disputeNotResponder | .disputeBondTransferFailed
  | .disputeResponseWindowClosed | .disputeAlreadyResponded | .disputeZeroResponse
  | .disputeAlreadyRuled => .disputeModuleRejected

end OrderPortal
end ProofBridge
