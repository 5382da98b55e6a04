import ProofBridge.Core.Rules

/-!
# Token buckets

An allowance that refills continuously, so no boundary can be straddled. Both overflows of the
refill mean more than the capacity, and a clock that goes backwards is not a refund.
-/

namespace ProofBridge

/-- A configured limit: the most that can be spent in one burst, and how fast it returns. -/
structure Limit where
  capacity : U128
  refillPerSecond : U128
  deriving DecidableEq, Repr

/-- Live state; `level` is what remains. -/
structure Bucket where
  level : U128
  lastTs : U64
  deriving DecidableEq, Repr

/-- `u128::checked_add`. -/
def checkedAdd (a b : ℕ) : Option ℕ := if a + b < 2 ^ 128 then some (a + b) else none

/-- A bucket that has never been spent from. -/
def Bucket.full (limit : Limit) (now : U64) : Bucket where
  level := limit.capacity
  lastTs := now

/-- The allowance at `now`, without spending it. -/
def available (limit : Limit) (bucket : Bucket) (now : ℕ) : ℕ :=
  let elapsed := now - bucket.lastTs.toNat
  let refilled := (checkedMul limit.refillPerSecond.toNat elapsed).bind (checkedAdd bucket.level.toNat)
  match refilled with
  | some r => if r ≤ limit.capacity.toNat then r else limit.capacity.toNat
  | none => limit.capacity.toNat

/-- Refill, then spend; `none` when the bucket cannot cover it. The stamp never moves backwards. -/
def trySpend (limit : Limit) (bucket : Bucket) (spend : ℕ) (now : U64) : Option Bucket :=
  let level := available limit bucket now.toNat
  if level < spend then none
  else some {
    level := BitVec.ofNat 128 (level - spend)
    lastTs := if bucket.lastTs.toNat < now.toNat then now else bucket.lastTs }

variable {limit : Limit} {bucket bucket' : Bucket} {spend : ℕ} {t t' : ℕ} {now : U64}

/-- However the refill overflows, the allowance is what the bucket would hold, up to its capacity. -/
theorem available_eq : available limit bucket t
    = min (bucket.level.toNat + limit.refillPerSecond.toNat * (t - bucket.lastTs.toNat))
      limit.capacity.toNat := by
  have hcapacity := limit.capacity.isLt
  unfold available checkedMul checkedAdd
  dsimp only
  split
  · next r hr =>
    rw [Option.bind_eq_some_iff] at hr
    obtain ⟨a, ha, hr⟩ := hr
    rw [Option.ite_none_right_eq_some, Option.some.injEq] at ha hr
    obtain ⟨-, rfl⟩ := ha
    obtain ⟨-, rfl⟩ := hr
    split <;> omega
  · next hr =>
    rw [Option.bind_eq_none_iff] at hr
    by_cases hmul : limit.refillPerSecond.toNat * (t - bucket.lastTs.toNat) < 2 ^ 128
    · have hadd := hr _ (if_pos hmul)
      rw [ite_eq_right_iff] at hadd
      have hover : ¬bucket.level.toNat
          + limit.refillPerSecond.toNat * (t - bucket.lastTs.toNat) < 2 ^ 128 := by
        intro hlt
        cases hadd hlt
      omega
    · omega

theorem available_le : available limit bucket t ≤ limit.capacity.toNat := by
  rw [available_eq]
  exact min_le_right _ _

theorem available_full : available limit (Bucket.full limit now) t = limit.capacity.toNat := by
  rw [available_eq]
  exact min_eq_right (Nat.le_add_right _ _)

/-- The allowance grows no faster than the refill. -/
theorem available_grows (ht : t ≤ t') :
    available limit bucket t' ≤ available limit bucket t + limit.refillPerSecond.toNat * (t' - t) := by
  have hsplit : t' - bucket.lastTs.toNat ≤ (t - bucket.lastTs.toNat) + (t' - t) := by omega
  have hmul := Nat.mul_le_mul_left limit.refillPerSecond.toNat hsplit
  rw [Nat.mul_add] at hmul
  rw [available_eq, available_eq]
  omega

/-- From a time at or after its stamp, a bucket refills at its rate up to its capacity. -/
theorem available_later (hstamp : bucket.lastTs.toNat ≤ t) (ht : t ≤ t') :
    available limit bucket t'
      = min (available limit bucket t + limit.refillPerSecond.toNat * (t' - t))
        limit.capacity.toNat := by
  have hsplit : t' - bucket.lastTs.toNat = (t - bucket.lastTs.toNat) + (t' - t) := by omega
  rw [available_eq, available_eq, hsplit, Nat.mul_add]
  omega

/-- At its own stamp, and before it, a bucket holds what it was left with. -/
theorem available_of_le (hlevel : bucket.level.toNat ≤ limit.capacity.toNat)
    (ht : t ≤ bucket.lastTs.toNat) : available limit bucket t = bucket.level.toNat := by
  rw [available_eq, Nat.sub_eq_zero_of_le ht, Nat.mul_zero]
  omega

theorem trySpend_eq_some : trySpend limit bucket spend now = some bucket' ↔
    spend ≤ available limit bucket now.toNat ∧ bucket' = {
      level := BitVec.ofNat 128 (available limit bucket now.toNat - spend)
      lastTs := if bucket.lastTs.toNat < now.toNat then now else bucket.lastTs } := by
  unfold trySpend
  dsimp only
  split
  · next hlt => simp [Nat.not_le_of_lt hlt]
  · next hle =>
    rw [Option.some.injEq]
    constructor
    · rintro rfl
      exact ⟨Nat.le_of_not_lt hle, rfl⟩
    · rintro ⟨-, rfl⟩
      rfl

/-- Spending takes exactly what is spent from the allowance of that second. -/
theorem available_trySpend (h : trySpend limit bucket spend now = some bucket') :
    available limit bucket' now.toNat + spend = available limit bucket now.toNat := by
  obtain ⟨hspend, rfl⟩ := trySpend_eq_some.mp h
  have hcapacity := limit.capacity.isLt
  have hle : available limit bucket now.toNat ≤ limit.capacity.toNat := available_le
  have hlevel : (BitVec.ofNat 128 (available limit bucket now.toNat - spend)).toNat
      = available limit bucket now.toNat - spend := by
    rw [BitVec.toNat_ofNat]
    exact Nat.mod_eq_of_lt (by omega)
  rw [available_of_le]
  · dsimp only
    rw [hlevel]
    omega
  · dsimp only
    rw [hlevel]
    omega
  · dsimp only
    split <;> omega

end ProofBridge
