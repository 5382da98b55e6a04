import ProofBridge.Core.RateLimit
import ProofBridge.Evm.RateLimit

/-!
# Token buckets on both chains

One side reads an overflowing refill as full, the other works in 256 bits and tests the refill by
hand. Within 128 bits both give the level a bucket would have, up to its capacity. A sequence of spends
at any times takes at most what was there and what flowed in up to the latest time seen.
-/

namespace ProofBridge
namespace Parity

open ContractLib

/-! ## The same bucket -/

def wideLimit (limit : Limit) : Evm.AgentRateLimit.Limit where
  capacity := limit.capacity.setWidth 256
  refillPerSecond := limit.refillPerSecond.setWidth 256

def wideBucket (bucket : Bucket) : Evm.AgentRateLimit.Bucket where
  level := bucket.level.setWidth 256
  lastTs := bucket.lastTs

section Pointwise

variable {ε : Type} {limit : Limit} {bucket : Bucket} {now : U64} {spend : ℕ}

theorem toNat_wide128 (n : U128) : (n.setWidth 256).toNat = n.toNat := by
  rw [BitVec.toNat_setWidth]
  exact Nat.mod_eq_of_lt (lt_trans n.isLt (by norm_num))

/-- In 256 bits neither the refill nor the sum overflows. -/
theorem evmAvailable_eq :
    (Evm.AgentRateLimit.available (wideLimit limit) (wideBucket bucket) now : Check ε ℕ)
      = .ok (available limit bucket now.toNat) := by
  have hlevel := bucket.level.isLt
  have hcapacity := limit.capacity.isLt
  have helapsed : now.toNat - bucket.lastTs.toNat < 2 ^ 64 :=
    lt_of_le_of_lt (Nat.sub_le _ _) now.isLt
  have hclock : (if bucket.lastTs.toNat < now.toNat then now.toNat - bucket.lastTs.toNat else 0)
      = now.toNat - bucket.lastTs.toNat := by
    split <;> omega
  have hrefill : limit.refillPerSecond.toNat * (now.toNat - bucket.lastTs.toNat) < 2 ^ 192 := by
    calc limit.refillPerSecond.toNat * (now.toNat - bucket.lastTs.toNat)
        ≤ 2 ^ 128 * (now.toNat - bucket.lastTs.toNat) :=
          Nat.mul_le_mul_right _ limit.refillPerSecond.isLt.le
      _ < 2 ^ 128 * 2 ^ 64 := Nat.mul_lt_mul_of_pos_left helapsed (by norm_num)
      _ = 2 ^ 192 := by norm_num
  rw [available_eq]
  generalize hr : limit.refillPerSecond.toNat * (now.toNat - bucket.lastTs.toNat) = refill at hrefill
  unfold Evm.AgentRateLimit.available wideLimit wideBucket
  dsimp only
  rw [hclock, toNat_wide128, toNat_wide128, toNat_wide128, Check.bind_ok]
  refine ⟨refill, Check.mul_ok.mpr ⟨by omega, hr.symm⟩, ?_⟩
  unfold Evm.AgentRateLimit.U128_MAX
  split
  · rw [Check.pure_ok]
    omega
  · rw [Check.bind_ok]
    refine ⟨bucket.level.toNat + refill, Check.add_ok.mpr ⟨by omega, rfl⟩, ?_⟩
    split <;> rw [Check.pure_ok] <;> omega

/-- Both give the same verdict, and leave the same bucket. -/
theorem evmTrySpend_eq :
    (Evm.AgentRateLimit.trySpend (wideLimit limit) (wideBucket bucket) spend now : Check ε _)
      = .ok ((trySpend limit bucket spend now).map wideBucket) := by
  have hcapacity := limit.capacity.isLt
  have hle : available limit bucket now.toNat ≤ limit.capacity.toNat := available_le
  rw [Evm.AgentRateLimit.trySpend, evmAvailable_eq, Check.ok_bind]
  unfold trySpend
  dsimp only
  split
  · rfl
  · rw [Option.map_some, Check.pure_ok, Option.some.injEq, wideBucket,
      Evm.AgentRateLimit.Bucket.mk.injEq]
    refine ⟨?_, rfl⟩
    apply BitVec.eq_of_toNat_eq
    rw [toNat_wide128, BitVec.toNat_ofNat, BitVec.toNat_ofNat, Nat.mod_eq_of_lt (by omega),
      Nat.mod_eq_of_lt (by omega)]

end Pointwise

/-! ## Sequences of spends -/

/-- What a sequence of requests leaves, and the total of those accepted. -/
def spendAll (limit : Limit) : List (U64 × U128) → Bucket → Bucket × ℕ
  | [], bucket => (bucket, 0)
  | (now, spend) :: rest, bucket =>
    match trySpend limit bucket spend.toNat now with
    | none => spendAll limit rest bucket
    | some bucket' =>
      let r := spendAll limit rest bucket'
      (r.1, spend.toNat + r.2)

/-- The largest time seen. -/
def latest (requests : List (U64 × U128)) : ℕ := (requests.map fun r => r.1.toNat).foldr max 0

section Sequences

variable {limit : Limit} {bucket bucket' : Bucket} {spend : ℕ} {now : U64}

theorem spendAll_refused {asked : U128} {rest : List (U64 × U128)}
    (h : trySpend limit bucket asked.toNat now = none) :
    spendAll limit ((now, asked) :: rest) bucket = spendAll limit rest bucket := by
  rw [spendAll, h]

theorem spendAll_accepted {asked : U128} {rest : List (U64 × U128)}
    (h : trySpend limit bucket asked.toNat now = some bucket') :
    spendAll limit ((now, asked) :: rest) bucket
      = ((spendAll limit rest bucket').1, asked.toNat + (spendAll limit rest bucket').2) := by
  rw [spendAll, h]

/-- A last request acts on what the earlier ones left. -/
theorem spendAll_append (asked : U128) (requests : List (U64 × U128)) (bucket : Bucket) :
    (spendAll limit (requests ++ [(now, asked)]) bucket).1
      = (spendAll limit [(now, asked)] (spendAll limit requests bucket).1).1 := by
  induction requests generalizing bucket with
  | nil => rfl
  | cons request rest ih =>
    rw [List.cons_append]
    cases h : trySpend limit bucket request.2.toNat request.1 with
    | none =>
      rw [spendAll_refused h, spendAll_refused h]
      exact ih bucket
    | some bucket' =>
      rw [spendAll_accepted h, spendAll_accepted h]
      exact ih bucket'

theorem spent_level (h : trySpend limit bucket spend now = some bucket') :
    bucket'.level.toNat + spend = available limit bucket now.toNat := by
  obtain ⟨hspend, rfl⟩ := trySpend_eq_some.mp h
  have hcapacity := limit.capacity.isLt
  have hle : available limit bucket now.toNat ≤ limit.capacity.toNat := available_le
  dsimp only
  rw [BitVec.toNat_ofNat, Nat.mod_eq_of_lt (by omega)]
  omega

theorem spent_stamp (h : trySpend limit bucket spend now = some bucket') :
    bucket'.lastTs.toNat = max bucket.lastTs.toNat now.toNat := by
  obtain ⟨-, rfl⟩ := trySpend_eq_some.mp h
  dsimp only
  split <;> omega

/-- A spend leaves at most the capacity. -/
theorem spent_le (h : trySpend limit bucket spend now = some bucket') :
    bucket'.level.toNat ≤ limit.capacity.toNat := by
  have hlevel := spent_level h
  have hle : available limit bucket now.toNat ≤ limit.capacity.toNat := available_le
  omega

/-- What is there at a time came from the level and the rate. -/
theorem available_inflow : available limit bucket now.toNat
    ≤ min bucket.level.toNat limit.capacity.toNat + limit.refillPerSecond.toNat
      * (max bucket.lastTs.toNat now.toNat - bucket.lastTs.toNat) := by
  have helapsed : max bucket.lastTs.toNat now.toNat - bucket.lastTs.toNat
      = now.toNat - bucket.lastTs.toNat := by omega
  rw [available_eq, helapsed]
  omega

/-- What was taken and what is left came from what was there and what flowed in by the last stamp. -/
theorem spendAll_flow (requests : List (U64 × U128)) (bucket : Bucket) :
    let r := spendAll limit requests bucket
    r.2 + min r.1.level.toNat limit.capacity.toNat
        ≤ min bucket.level.toNat limit.capacity.toNat
          + limit.refillPerSecond.toNat * (r.1.lastTs.toNat - bucket.lastTs.toNat) ∧
      bucket.lastTs.toNat ≤ r.1.lastTs.toNat ∧
      r.1.lastTs.toNat ≤ max bucket.lastTs.toNat (latest requests) := by
  induction requests generalizing bucket with
  | nil =>
    refine ⟨?_, le_rfl, le_max_left _ _⟩
    rw [spendAll]
    dsimp only
    omega
  | cons request rest ih =>
    obtain ⟨now, spend⟩ := request
    have hlatest : latest ((now, spend) :: rest) = max now.toNat (latest rest) := rfl
    rw [hlatest]
    cases h : trySpend limit bucket spend.toNat now with
    | none =>
      rw [spendAll_refused h]
      obtain ⟨hflow, hstamp, hseen⟩ := ih bucket
      refine ⟨hflow, hstamp, hseen.trans ?_⟩
      omega
    | some bucket' =>
      rw [spendAll_accepted h]
      obtain ⟨hflow, hstamp, hseen⟩ := ih bucket'
      have hlevel := spent_level h
      have hle := spent_le h
      have hnext := spent_stamp h
      have hinflow := @available_inflow limit bucket now
      rw [← hnext] at hinflow
      dsimp only
      generalize spendAll limit rest bucket' = r at *
      refine ⟨?_, by omega, by omega⟩
      have hsplit : r.1.lastTs.toNat - bucket.lastTs.toNat
          = (r.1.lastTs.toNat - bucket'.lastTs.toNat)
            + (bucket'.lastTs.toNat - bucket.lastTs.toNat) := by omega
      rw [hsplit, Nat.mul_add]
      omega

end Sequences

/-- The buckets agree and bound the flow. -/
theorem buckets_agree {ε : Type} :
    (∀ (limit : Limit) (bucket : Bucket) (now : U64),
      (Evm.AgentRateLimit.available (wideLimit limit) (wideBucket bucket) now : Check ε ℕ)
        = .ok (available limit bucket now.toNat)) ∧
      (∀ (limit : Limit) (bucket : Bucket) (spend : U128) (now : U64),
        (Evm.AgentRateLimit.trySpend (wideLimit limit) (wideBucket bucket) spend.toNat now
          : Check ε _) = .ok ((trySpend limit bucket spend.toNat now).map wideBucket)) ∧
      (∀ (limit : Limit) (now : U64),
        Evm.AgentRateLimit.full (wideLimit limit) now = wideBucket (Bucket.full limit now)) ∧
      (∀ (limit : Limit) (requests : List (U64 × U128)) (bucket : Bucket),
        (spendAll limit requests bucket).2 ≤ min bucket.level.toNat limit.capacity.toNat
          + limit.refillPerSecond.toNat * (latest requests - bucket.lastTs.toNat)) ∧
      ∀ (limit : Limit) (requests : List (U64 × U128)) (bucket : Bucket) (now : U64) (spend : U128),
        let b := (spendAll limit requests bucket).1
        let next := (spendAll limit (requests ++ [(now, spend)]) bucket).1
        (trySpend limit b spend.toNat now = none → next = b) ∧
          ∀ b', trySpend limit b spend.toNat now = some b' → next = b' ∧
            b.lastTs.toNat ≤ b'.lastTs.toNat ∧ b'.level.toNat ≤ limit.capacity.toNat := by
  refine ⟨fun _ _ _ => evmAvailable_eq, fun _ _ _ _ => evmTrySpend_eq, fun _ _ => rfl, ?_, ?_⟩
  · intro limit requests bucket
    obtain ⟨hflow, hstamp, hseen⟩ := @spendAll_flow limit requests bucket
    have hadvance : (spendAll limit requests bucket).1.lastTs.toNat - bucket.lastTs.toNat
        ≤ latest requests - bucket.lastTs.toNat := by omega
    have hrefill := Nat.mul_le_mul_left limit.refillPerSecond.toNat hadvance
    omega
  · intro limit requests bucket now spend
    dsimp only
    rw [spendAll_append]
    refine ⟨fun h => ?_, fun b' h => ⟨?_, ?_, spent_le h⟩⟩
    · rw [spendAll_refused h, spendAll]
    · rw [spendAll_accepted h, spendAll]
    · rw [spent_stamp h]
      exact le_max_left _ _

end Parity
end ProofBridge
