import ProofBridge.Lib.Tx
import ProofBridge.Lib.Map
import ProofBridge.Lib.Book
import ProofBridge.Lib.Run
import ProofBridge.Lib.MountainRange
import ProofBridge.Core.Types
import ProofBridge.Core.Eip712
import ProofBridge.Core.Rules
import ProofBridge.Core.Timelock
import ProofBridge.Core.Outside
import ProofBridge.Core.Escrow
import ProofBridge.Core.EscrowSpec
import ProofBridge.Core.SettingsSpec
import ProofBridge.Core.Money
import ProofBridge.Core.Bank
import ProofBridge.AdManager.Errors
import ProofBridge.AdManager.Types
import ProofBridge.AdManager.Model
import ProofBridge.AdManager.AdminSpec
import ProofBridge.AdManager.Step
import ProofBridge.AdManager.Locks
import ProofBridge.AdManager.Safety
import ProofBridge.AdManager.LedgerRuns
import ProofBridge.AdManager.Solvency
import ProofBridge.OrderPortal.Errors
import ProofBridge.OrderPortal.Types
import ProofBridge.OrderPortal.Model
import ProofBridge.OrderPortal.AdminSpec
import ProofBridge.OrderPortal.Step
import ProofBridge.OrderPortal.Deposits
import ProofBridge.OrderPortal.Conservation
import ProofBridge.OrderPortal.Safety
import ProofBridge.KeyRegistry.Guard
import ProofBridge.RootAnchor.Model
import ProofBridge.RootAnchor.Step
import ProofBridge.RootAnchor.History
import ProofBridge.RootAnchor.Quorum
import ProofBridge.RootAnchor.Route
import ProofBridge.MerkleManager.Mmr
import ProofBridge.MerkleManager.Indexes
import ProofBridge.MerkleManager.Append
import ProofBridge.MerkleManager.Model
import ProofBridge.MerkleManager.Binding
import ProofBridge.MerkleManager.Inclusion
import ProofBridge.MerkleManager.Completeness
import ProofBridge.Evm.OrderHash
import ProofBridge.Evm.OrderPortal
import ProofBridge.Parity.OrderHash
import ProofBridge.DisputeManager.Model
import ProofBridge.DisputeManager.Step
import ProofBridge.DisputeManager.Solvency
import ProofBridge.AdManager.Orders
import ProofBridge.OrderPortal.Orders
import ProofBridge.Disputes.World
import ProofBridge.TwoLegs.Leaves
import ProofBridge.Disputes.Touch
import ProofBridge.Disputes.Agreement
import ProofBridge.Disputes.Clock
import ProofBridge.Disputes.Windows
import ProofBridge.Lib.Follow
import ProofBridge.Lib.Issue
import ProofBridge.Lib.Tank
import ProofBridge.Core.Keys
import ProofBridge.Core.RateLimit
import ProofBridge.Delay.Trace
import ProofBridge.Delay.Carrier
import ProofBridge.Delay.Contracts
import ProofBridge.Delay.Delayed
import ProofBridge.Evm.Timelock
import ProofBridge.Evm.EscrowAdmin
import ProofBridge.Evm.Brake
import ProofBridge.Evm.KeyRegistry
import ProofBridge.Evm.RegistrySlots
import ProofBridge.KeyRegistry.Owner
import ProofBridge.KeyRegistry.Model
import ProofBridge.KeyRegistry.Step
import ProofBridge.KeyRegistry.Slots
import ProofBridge.KeyRegistry.Expiry
import ProofBridge.Parity.RegistrySlots
import ProofBridge.AgentAccount.Policy
import ProofBridge.AgentAccount.Model
import ProofBridge.AgentAccount.Volume
import ProofBridge.AgentAccount.VolumeRuns
import ProofBridge.AgentAccount.Announcements
import ProofBridge.AgentAccount.BrakeStep
import ProofBridge.AgentAccount.Timing
import ProofBridge.AgentAccount.Timelock
import ProofBridge.AgentAccount.Flow
import ProofBridge.AgentAccount.Tightening
import ProofBridge.Lib.Abi
import ProofBridge.Evm.RateLimit
import ProofBridge.CustodyAccount.Calls
import ProofBridge.CustodyAccount.Model
import ProofBridge.CustodyAccount.Rows
import ProofBridge.CustodyAccount.Step
import ProofBridge.CustodyAccount.Moves
import ProofBridge.CustodyAccount.Timing
import ProofBridge.CustodyAccount.Announcements
import ProofBridge.CustodyAccount.Gate
import ProofBridge.CustodyAccount.GuardRail
import ProofBridge.Parity.ExpiredRows
import ProofBridge.Lib.Agree
import ProofBridge.Evm.AdminTimelock
import ProofBridge.Parity.Timelocks
import ProofBridge.Evm.RootAnchor
import ProofBridge.Parity.RootAnchors
import ProofBridge.Evm.RegistryAdmin
import ProofBridge.Parity.RegistryRecords
import ProofBridge.Parity.Registries
import ProofBridge.Lib.Text
import ProofBridge.Evm.KeyMessages
import ProofBridge.Parity.KeyMessages
import ProofBridge.Lib.Layout
import ProofBridge.Evm.Calldata
import ProofBridge.Evm.AgentPolicyCodec
import ProofBridge.AgentPolicy.Calldata
import ProofBridge.AgentPolicy.Keys
import ProofBridge.AgentPolicy.Lock
import ProofBridge.AgentPolicy.Model
import ProofBridge.AgentPolicy.Walk
import ProofBridge.Parity.Amounts
import ProofBridge.Evm.Fees
import ProofBridge.Parity.Fees
import ProofBridge.Parity.Allowances
import ProofBridge.Lib.Calendar
import ProofBridge.Parity.Dates
import ProofBridge.MerkleManager.Numbering
import ProofBridge.AgentAccount.OwnerCalls
import ProofBridge.Evm.AdLeg
import ProofBridge.Evm.AdLegRuns
import ProofBridge.Evm.AdLegClocks
import ProofBridge.Evm.OrderLeg
import ProofBridge.Disputes.Instants
import ProofBridge.OrderPortal.Cutoffs
import ProofBridge.Parity.Clocks
import ProofBridge.Lib.Pair
import ProofBridge.TwoLegs.Joint
import ProofBridge.CounterpartyVerifier.Consent
import ProofBridge.Registrar.Destination
import ProofBridge.Grace.Kept
import ProofBridge.AgentPolicy.Authority
