import ProofBridge.Core.Types
import Mathlib.Tactic.NormNum
import Mathlib.Tactic.Positivity

/-!
# The arithmetic both chains must agree on

Decimal scaling, the fee split, the rules a route's clocks and a dispute's parameters are
validated against, and where a bond goes. None of it touches a contract's state.
-/

namespace ProofBridge

open ContractLib

/-! ## Decimal scaling -/

/-- The largest decimals accepted on either side. -/
def MAX_DECIMALS : ℕ := 30

inductive DecimalScalingError
  | decimalsOutOfRange
  | nonExactDownscale
  | overflow
  deriving DecidableEq, Repr

/-- The shared reason a scaling error becomes. -/
def DecimalScalingError.toFault : DecimalScalingError → Fault
  | decimalsOutOfRange => .decimalsOutOfRange
  | nonExactDownscale => .nonExactDownscale
  | overflow => .decimalOverflow

/-- `assert_in_range`. -/
def assertInRange (decimals : ℕ) : Check DecimalScalingError Unit :=
  Check.require (decimals ≤ MAX_DECIMALS) .decimalsOutOfRange

/-- `10u128.checked_pow(delta)`. -/
def checkedPow10 (delta : ℕ) : Option ℕ := if 10 ^ delta < 2 ^ 128 then some (10 ^ delta) else none

/-- `u128::checked_mul`. -/
def checkedMul (a b : ℕ) : Option ℕ := if a * b < 2 ^ 128 then some (a * b) else none

/-- Rescale `amount` from `fromDec` decimals to `toDec`, exactly or not at all. -/
def scale (amount fromDec toDec : ℕ) : Check DecimalScalingError ℕ := do
  assertInRange fromDec
  assertInRange toDec
  if fromDec = toDec then
    pure amount
  else if fromDec < toDec then
    let factor ← Check.expect (checkedPow10 (toDec - fromDec)) .overflow
    Check.expect (checkedMul amount factor) .overflow
  else
    let factor ← Check.expect (checkedPow10 (fromDec - toDec)) .overflow
    Check.require (amount % factor = 0) .nonExactDownscale
    pure (amount / factor)

/-- Scaling never makes something out of nothing, nor nothing out of something. -/
theorem scale_pos {amount fromDec toDec scaled : ℕ} (hpos : 0 < amount)
    (h : scale amount fromDec toDec = .ok scaled) : 0 < scaled := by
  simp only [scale, Check.bind_ok] at h
  obtain ⟨-, -, -, -, h⟩ := h
  split at h
  · obtain rfl := Check.pure_ok.mp h
    exact hpos
  split at h
  · simp only [Check.bind_ok, Check.expect_ok, checkedPow10, checkedMul,
      Option.ite_none_right_eq_some, Option.some.injEq] at h
    obtain ⟨factor, ⟨-, rfl⟩, -, rfl⟩ := h
    positivity
  · simp only [Check.bind_ok, Check.expect_ok, Check.require_ok, Check.pure_ok, checkedPow10,
      Option.ite_none_right_eq_some, Option.some.injEq] at h
    obtain ⟨factor, ⟨-, rfl⟩, -, hmod, rfl⟩ := h
    exact Nat.div_pos (Nat.le_of_dvd hpos (Nat.dvd_of_mod_eq_zero hmod)) (by positivity)

/-- A scaled amount fits the width amounts are stored in. -/
theorem scale_lt {amount fromDec toDec scaled : ℕ} (hw : amount < 2 ^ 128)
    (h : scale amount fromDec toDec = .ok scaled) : scaled < 2 ^ 128 := by
  simp only [scale, Check.bind_ok] at h
  obtain ⟨-, -, -, -, h⟩ := h
  split at h
  · obtain rfl := Check.pure_ok.mp h
    exact hw
  split at h
  · simp only [Check.bind_ok, Check.expect_ok, checkedMul,
      Option.ite_none_right_eq_some, Option.some.injEq] at h
    obtain ⟨factor, -, hlt, rfl⟩ := h
    exact hlt
  · simp only [Check.bind_ok, Check.expect_ok, Check.require_ok, Check.pure_ok] at h
    obtain ⟨factor, -, -, -, rfl⟩ := h
    exact lt_of_le_of_lt (Nat.div_le_self _ _) hw

/-- Scaling fails with an error or succeeds; it never traps. -/
theorem scale_safe {amount fromDec toDec : ℕ} {t : Trap} :
    (scale amount fromDec toDec).Safe t := by
  unfold scale assertInRange
  simp [Check.safe_bind]

/-! ## Fees -/

/-- The ceiling on each fee, in bps. -/
def MAX_FEE_BPS : ℕ := 100

/-- `floor(amount × bps / 10,000)` without the product. -/
def bpsOf {ε : Type} (amount bps : ℕ) : Check ε ℕ := do
  let whole ← Check.mul 128 (amount / 10000) bps
  let rest ← Check.mul 128 (amount % 10000) bps
  Check.add 128 whole (rest / 10000)

/-- `(lp_fee, protocol_fee)` on `amount`, each rounded down. -/
def splitFee {ε : Type} (amount lpBps protocolBps : ℕ) : Check ε (ℕ × ℕ) := do
  let lpFee ← bpsOf amount lpBps
  let protocolFee ← bpsOf amount protocolBps
  pure (lpFee, protocolFee)

/-- `set_fee_bps`'s rule: each at most `MAX_FEE_BPS`, and a protocol fee only with a pool. -/
def feesValid (lpBps protocolBps : ℕ) (poolSet : Bool) : Prop :=
  lpBps ≤ MAX_FEE_BPS ∧ protocolBps ≤ MAX_FEE_BPS ∧ (protocolBps = 0 ∨ poolSet = true)

instance (lpBps protocolBps : ℕ) (poolSet : Bool) :
    Decidable (feesValid lpBps protocolBps poolSet) :=
  inferInstanceAs (Decidable (_ ∧ _ ∧ _))

/-- Splitting the product at a multiple of the base loses nothing to rounding. -/
theorem bps_split (amount bps : ℕ) :
    amount / 10000 * bps + amount % 10000 * bps / 10000 = amount * bps / 10000 := by
  conv_rhs => rw [← Nat.div_add_mod amount 10000]
  rw [Nat.add_mul, Nat.mul_assoc, Nat.mul_add_div (by decide)]

/-- `bps_of` is the exact floor on every `u128` and any rate up to the whole. -/
theorem bpsOf_eq {ε : Type} {amount bps : ℕ} (hw : amount < 2 ^ 128) (hbps : bps ≤ 10000) :
    (bpsOf amount bps : Check ε ℕ) = .ok (amount * bps / 10000) := by
  have hwhole : amount / 10000 * bps < 2 ^ 128 := by
    calc amount / 10000 * bps ≤ amount / 10000 * 10000 := Nat.mul_le_mul_left _ hbps
      _ ≤ amount := Nat.div_mul_le_self _ _
      _ < 2 ^ 128 := hw
  have hrest : amount % 10000 * bps < 2 ^ 128 := by
    calc amount % 10000 * bps ≤ 10000 * 10000 :=
          Nat.mul_le_mul (Nat.mod_lt _ (by decide)).le hbps
      _ < 2 ^ 128 := by norm_num
  have hsum : amount * bps / 10000 < 2 ^ 128 := by
    calc amount * bps / 10000 ≤ amount * 10000 / 10000 :=
          Nat.div_le_div_right (Nat.mul_le_mul_left _ hbps)
      _ = amount := Nat.mul_div_cancel _ (by decide)
      _ < 2 ^ 128 := hw
  simp only [bpsOf, Check.bind_ok, Check.mul_ok, Check.add_ok]
  exact ⟨_, ⟨hwhole, rfl⟩, _, ⟨hrest, rfl⟩, (bps_split amount bps).symm ▸ hsum,
    (bps_split amount bps).symm⟩

/-- What a rate of at most one percent takes is at most a hundredth. -/
theorem bps_le_hundredth (amount : ℕ) {bps : ℕ} (h : bps ≤ MAX_FEE_BPS) :
    amount * bps / 10000 ≤ amount / 100 := by
  calc amount * bps / 10000 ≤ amount * 100 / 10000 :=
        Nat.div_le_div_right (Nat.mul_le_mul_left _ h)
    _ = amount / 100 := by omega

theorem bpsOf_ok {ε : Type} {amount bps fee : ℕ} (h : (bpsOf amount bps : Check ε ℕ) = .ok fee) :
    fee = amount * bps / 10000 := by
  simp only [bpsOf, Check.bind_ok, Check.mul_ok, Check.add_ok] at h
  obtain ⟨_, ⟨-, rfl⟩, _, ⟨-, rfl⟩, -, rfl⟩ := h
  exact bps_split amount bps

theorem bpsOf_lt {ε : Type} {amount bps fee : ℕ} (h : (bpsOf amount bps : Check ε ℕ) = .ok fee) :
    fee < 2 ^ 128 := by
  simp only [bpsOf, Check.bind_ok, Check.mul_ok, Check.add_ok] at h
  obtain ⟨_, -, _, -, hfit, rfl⟩ := h
  exact hfit

theorem bpsOf_safe {ε : Type} {amount bps : ℕ} :
    (bpsOf amount bps : Check ε ℕ).Safe .underflow := by
  simp [bpsOf, Check.safe_bind]

/-- The two fees of an order within the ceilings, and what is left for the recipient. -/
theorem splitFee_eq {ε : Type} {amount lpBps protocolBps : ℕ} (hw : amount < 2 ^ 128)
    (hlp : lpBps ≤ MAX_FEE_BPS) (hprot : protocolBps ≤ MAX_FEE_BPS) :
    (splitFee amount lpBps protocolBps : Check ε (ℕ × ℕ))
      = .ok (amount * lpBps / 10000, amount * protocolBps / 10000) := by
  unfold splitFee
  have hlp' : lpBps ≤ 10000 := hlp.trans (by decide)
  have hprot' : protocolBps ≤ 10000 := hprot.trans (by decide)
  rw [bpsOf_eq hw hlp', bpsOf_eq hw hprot']
  rfl

/-! ## Route clocks -/

/-- A presentation window can never be shorter than this. -/
def MIN_BUFFER : ℕ := 30 * 60

/-- Nor longer than this. -/
def MAX_BUFFER : ℕ := 24 * 60 * 60

/-- The longest `deadline - now` a lock or create accepts. -/
def MAX_ORDER_WINDOW : ℕ := 7 * 24 * 60 * 60

/-- `timing::validate`: which field failed, if any. -/
def RouteTiming.validate (t : RouteTiming) : Except ℕ Unit :=
  if t.buffer < MIN_BUFFER ∨ MAX_BUFFER < t.buffer then .error 1
  else if t.buffer / 2 < t.margin then .error 2
  else if t.claimStagger ≠ 0 ∧ t.minWindow ≤ t.claimStagger then .error 4
  else if t.minWindow < t.margin ∨ MAX_ORDER_WINDOW / 2 < t.minWindow then .error 5
  else .ok ()

/-- The rules a stored route timing satisfies. -/
structure RouteTiming.Valid (t : RouteTiming) : Prop where
  min_buffer : MIN_BUFFER ≤ t.buffer
  max_buffer : t.buffer ≤ MAX_BUFFER
  margin_le : t.margin ≤ t.buffer / 2
  stagger : t.claimStagger = 0 ∨ t.claimStagger < t.minWindow
  margin_le_window : t.margin ≤ t.minWindow
  window_le : t.minWindow ≤ MAX_ORDER_WINDOW / 2

theorem RouteTiming.valid_of_validate {t : RouteTiming} (h : t.validate = .ok ()) : t.Valid := by
  unfold RouteTiming.validate at h
  split at h
  · cases h
  split at h
  · cases h
  split at h
  · cases h
  split at h
  · cases h
  · constructor <;> omega

/-! ## Disputes -/

def MIN_CHALLENGE_PERIOD : ℕ := 60 * 60

def MAX_CHALLENGE_PERIOD : ℕ := 7 * 24 * 60 * 60

/-- `dispute::validate`: which field failed, if any. -/
def DisputeParams.validate (p : DisputeParams) : Except ℕ Unit :=
  if p.challengePeriod < MIN_CHALLENGE_PERIOD ∨ MAX_CHALLENGE_PERIOD < p.challengePeriod then
    .error 1
  else if p.bondFloor = 0 ∨ 2 ^ 127 ≤ p.bondFloor then .error 2
  else .ok ()

/-- The bond a filer must post on a route without a token bond: the flat floor. -/
def bondFor (p : DisputeParams) : ℕ := p.bondFloor

/-- The ceiling on a route's `bondBps`. -/
def MAX_BOND_BPS : ℕ := 500

/-- `validate_bond`. -/
def BondConfig.validate (c : BondConfig) : Bool :=
  if c.minBond = 0 then c.bondBps = 0 else c.bondBps ≤ MAX_BOND_BPS ∧ c.minBond < 2 ^ 127

/-- The scaled bond in the order's token. -/
def routeBond {ε : Type} (c : BondConfig) (amount : ℕ) : Check ε ℕ := do
  let scaled ← bpsOf amount c.bondBps
  pure (max scaled c.minBond)

/-- Whether the filer's position was vindicated, which is what routes the bond. -/
def bondReturnsToFiler (outcome : DisputeOutcome) (filerIsBridger returnToFiler : Bool) : Bool :=
  if returnToFiler then true
  else
    match outcome with
    | .mutualRefund => true
    -- the filer accused the other side; the ruling agreeing means that side forfeits
    | .makerForfeit => filerIsBridger
    | .bridgerForfeit => !filerIsBridger
    | .none | .tradeProceeds => false

end ProofBridge
