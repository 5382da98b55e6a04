import ProofBridge.Core.RateLimit
import ProofBridge.Evm.OrderHash

/-!
# Amounts and allowances on an EVM chain

The scaling and the token bucket of the Soroban side, written again over 256-bit words. An order both
sides read the same scales to the same amount, and a bucket within 128 bits gives the same allowance.
-/

namespace ProofBridge
namespace Evm

open ContractLib

namespace DecimalScaling

/-- What a scaling reverts with. -/
inductive Error
  | decimalsOutOfRange (value : BitVec 8)
  | nonExactDownscale (amount : Uint256) (fromDec toDec : BitVec 8)
  deriving DecidableEq, Repr

def assertInRange (decimals : BitVec 8) : Check Error Unit :=
  Check.require (decimals.toNat ≤ MAX_DECIMALS) (.decimalsOutOfRange decimals)

/-- Convert `amount` from `fromDec` decimals to `toDec` decimals. -/
def scale (amount : Uint256) (fromDec toDec : BitVec 8) : Check Error ℕ := do
  assertInRange fromDec
  assertInRange toDec
  if fromDec = toDec then
    pure amount.toNat
  else if fromDec.toNat < toDec.toNat then
    Check.mul 256 amount.toNat (10 ^ (toDec.toNat - fromDec.toNat))
  else
    let down := 10 ^ (fromDec.toNat - toDec.toNat)
    Check.require (amount.toNat % down = 0) (.nonExactDownscale amount fromDec toDec)
    pure (amount.toNat / down)

end DecimalScaling

namespace AgentRateLimit

/-- Soroban's limits are `u128`. -/
def U128_MAX : ℕ := 2 ^ 128 - 1

structure Limit where
  capacity : Uint256
  refillPerSecond : Uint256
  deriving DecidableEq, Repr

structure Bucket where
  level : Uint256
  lastTs : U64
  deriving DecidableEq, Repr

variable {ε : Type}

/-- The allowance at `nowTs`, without spending it. -/
def available (limit : Limit) (bucket : Bucket) (nowTs : U64) : Check ε ℕ := do
  let elapsed := if bucket.lastTs.toNat < nowTs.toNat then nowTs.toNat - bucket.lastTs.toNat else 0
  let refill ← Check.mul 256 limit.refillPerSecond.toNat elapsed
  if U128_MAX < refill then
    pure limit.capacity.toNat
  else
    let sum ← Check.add 256 bucket.level.toNat refill
    if limit.capacity.toNat < sum then pure limit.capacity.toNat else pure sum

/-- Refill, then spend; the bucket it leaves, or none when it cannot cover `spend`. -/
def trySpend (limit : Limit) (bucket : Bucket) (spend : ℕ) (nowTs : U64) :
    Check ε (Option Bucket) := do
  let level ← available limit bucket nowTs
  if level < spend then pure none
  else pure (some {
    level := BitVec.ofNat 256 (level - spend)
    lastTs := if bucket.lastTs.toNat < nowTs.toNat then nowTs else bucket.lastTs })

/-- A bucket that has never been spent from. -/
def full (limit : Limit) (nowTs : U64) : Bucket where
  level := limit.capacity
  lastTs := nowTs

variable {limit : Limit} {bucket bucket' : Bucket} {spend level : ℕ} {now : U64}

theorem available_le (ok : available limit bucket now = (.ok level : Check ε ℕ)) :
    level ≤ limit.capacity.toNat := by
  unfold available at ok
  dsimp only at ok
  obtain ⟨refill, -, ok⟩ := Check.bind_ok.mp ok
  split at ok
  · cases ok
    exact le_rfl
  · obtain ⟨sum, -, ok⟩ := Check.bind_ok.mp ok
    split at ok
    · cases ok
      exact le_rfl
    · next hle =>
      cases ok
      exact Nat.le_of_not_lt hle

/-- What was spent came out of the allowance. -/
theorem trySpend_ok (ok : trySpend limit bucket spend now = (.ok (some bucket') : Check ε _)) :
    ∃ level, available limit bucket now = (.ok level : Check ε ℕ) ∧ spend ≤ level ∧
      bucket' = {
        level := BitVec.ofNat 256 (level - spend)
        lastTs := if bucket.lastTs.toNat < now.toNat then now else bucket.lastTs } := by
  unfold trySpend at ok
  obtain ⟨level, havailable, ok⟩ := Check.bind_ok.mp ok
  refine ⟨level, havailable, ?_⟩
  split at ok
  · cases ok
  · next hle =>
    cases ok
    exact ⟨Nat.le_of_not_lt hle, rfl⟩

end AgentRateLimit
end Evm
end ProofBridge
