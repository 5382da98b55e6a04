import ProofBridge.Core.Rules
import ProofBridge.Evm.OrderHash

/-!
# Fees and bonds on an EVM chain

The fee split of a payout and the bond of a filing, multiplied before they are divided.
-/

namespace ProofBridge
namespace Evm

open ContractLib

variable {ε : Type}

/-! ## Fees -/

/-- `ProofBridgeUtils.splitFee`: each fee rounded down. -/
def splitFee (amount lpBps protocolBps : ℕ) : Check ε (ℕ × ℕ) := do
  let lp ← Check.mul 256 amount lpBps
  let protocol ← Check.mul 256 amount protocolBps
  pure (lp / 10000, protocol / 10000)

/-- `IAdManager.FeeConfig`. -/
structure FeeConfig where
  pool : EvmAddress
  lpBps : BitVec 16
  protocolBps : BitVec 16
  deriving DecidableEq, Repr

inductive FeeError
  | invalidFee
  deriving DecidableEq, Repr

/-- `ProofBridgeUtils.setFeeBps`. -/
def setFeeBps (f : FeeConfig) (lpBps protocolBps : BitVec 16) : Check FeeError FeeConfig := do
  Check.require (¬(MAX_FEE_BPS < lpBps.toNat ∨ MAX_FEE_BPS < protocolBps.toNat ∨
    protocolBps ≠ 0 ∧ f.pool = 0)) .invalidFee
  pure { f with lpBps, protocolBps }

/-- What `chargeFee` leaves: the ad's balance, the recipient's net and the protocol's fee, and the
`FeeCharged` it emits. -/
structure Charged where
  balance : ℕ
  net : ℕ
  protocolFee : ℕ
  event : BytesN32 × ℕ × ℕ
  deriving DecidableEq, Repr

/-- `ProofBridgeUtils.chargeFee`: the LP fee stays in the ad's balance; on a maker forfeit it goes to
the bridger instead. -/
def chargeFee (balance : ℕ) (p : AdOrderParams) (orderHash : BytesN32) (adAmount : ℕ)
    (forfeit : Bool) : Check ε Charged := do
  let fee ← splitFee adAmount (if forfeit then 0 else p.lpFeeBps.toNat) p.protocolFeeBps.toNat
  let out ← Check.sub adAmount fee.1
  let left ← Check.sub balance out
  let net ← Check.sub out fee.2
  pure {
    balance := left
    net
    protocolFee := fee.2
    event := (orderHash, fee.1, fee.2) }

/-! ## Bonds -/

namespace Dispute

/-- A route's bond in the order's token. -/
structure BondConfig where
  minBond : U128
  bondBps : BitVec 16
  deriving DecidableEq, Repr

inductive BondError
  | invalidBondConfig
  deriving DecidableEq, Repr

/-- `validateBond`: the ratio is capped where there is a floor, and zero where there is none. -/
def validateBond (c : BondConfig) : Check BondError Unit :=
  Check.require (¬(if c.minBond = 0 then c.bondBps ≠ 0 else MAX_BOND_BPS < c.bondBps.toNat))
    .invalidBondConfig

/-- `routeBond`: the ratio rounded down, and never below the floor. -/
def routeBond (c : BondConfig) (amount : ℕ) : Check ε ℕ := do
  let product ← Check.mul 256 amount c.bondBps.toNat
  let bond := product / 10000
  pure (if bond < c.minBond.toNat then c.minBond.toNat else bond)

end Dispute

end Evm
end ProofBridge
