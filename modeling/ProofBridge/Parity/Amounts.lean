import ProofBridge.AgentPolicy.Lock
import ProofBridge.AgentAccount.Model
import ProofBridge.AdManager.Types
import ProofBridge.Core.RateLimit
import Mathlib.Tactic.Ring

/-!
# Amounts on both chains

Scaling, fees and allowances are written once over 128-bit integers with checked operations, and once
or twice over 256-bit words. Each is compared with what it computes over the naturals: the exact ratio
of two powers of ten, the floor of a product, the level of a bucket that refills. Everything said of an
amount then follows from that one specification.
-/

namespace ProofBridge
namespace Parity

open ContractLib

/-! ## Exact scaling -/

/-- `b` is `amount` at `toDec` decimals instead of `fromDec`, exactly, within `w` bits. -/
structure Scaled (w amount fromDec toDec b : ℕ) : Prop where
  fromDec_le : fromDec ≤ MAX_DECIMALS
  toDec_le : toDec ≤ MAX_DECIMALS
  exact : b * 10 ^ fromDec = amount * 10 ^ toDec
  fits : b < 2 ^ w

section Scaled

variable {w amount amount' fromDec toDec b b' : ℕ}

theorem pow_split {m n : ℕ} (h : m ≤ n) : 10 ^ n = 10 ^ (n - m) * 10 ^ m := by
  rw [← pow_add, Nat.sub_add_cancel h]

/-- Upwards, the ratio is a factor. -/
theorem scaled_up (h : fromDec ≤ toDec) :
    b * 10 ^ fromDec = amount * 10 ^ toDec ↔ b = amount * 10 ^ (toDec - fromDec) := by
  rw [pow_split h, ← mul_assoc]
  exact Nat.mul_left_inj (by positivity)

/-- Downwards, it is a divisor. -/
theorem scaled_down (h : toDec ≤ fromDec) : b * 10 ^ fromDec = amount * 10 ^ toDec ↔
    amount % 10 ^ (fromDec - toDec) = 0 ∧ b = amount / 10 ^ (fromDec - toDec) := by
  have hpos : 0 < 10 ^ (fromDec - toDec) := by positivity
  rw [pow_split h, ← mul_assoc, Nat.mul_left_inj (by positivity)]
  constructor
  · rintro rfl
    exact ⟨Nat.mul_mod_left _ _, (Nat.mul_div_cancel _ hpos).symm⟩
  · rintro ⟨hmod, rfl⟩
    exact Nat.div_mul_cancel (Nat.dvd_of_mod_eq_zero hmod)

/-- Scaling back gives the amount again. -/
theorem Scaled.symm (h : Scaled w amount fromDec toDec b) (hamount : amount < 2 ^ w) :
    Scaled w b toDec fromDec amount where
  fromDec_le := h.toDec_le
  toDec_le := h.fromDec_le
  exact := h.exact.symm
  fits := hamount

theorem Scaled.unique (h : Scaled w amount fromDec toDec b) (h' : Scaled w amount fromDec toDec b') :
    b = b' := by
  have heq := h.exact.trans h'.exact.symm
  exact Nat.eq_of_mul_eq_mul_right (by positivity) heq

/-- Nothing is made of something. -/
theorem Scaled.eq_zero (h : Scaled w amount fromDec toDec b) (hb : b = 0) : amount = 0 := by
  have hexact := h.exact
  rw [hb, zero_mul] at hexact
  have hpos : 10 ^ toDec ≠ 0 := by positivity
  exact (Nat.mul_eq_zero.mp hexact.symm).resolve_right hpos

theorem Scaled.lt (h : Scaled w amount fromDec toDec b) (h' : Scaled w amount' fromDec toDec b')
    (hlt : amount < amount') : b < b' := by
  have hscaled : b * 10 ^ fromDec < b' * 10 ^ fromDec := by
    rw [h.exact, h'.exact]
    exact Nat.mul_lt_mul_of_pos_right hlt (by positivity)
  exact Nat.lt_of_mul_lt_mul_right hscaled

end Scaled

/-- The Soroban side scales exactly, within 128 bits. -/
theorem scale_ok {amount fromDec toDec b : ℕ} (hamount : amount < 2 ^ 128) :
    scale amount fromDec toDec = .ok b ↔ Scaled 128 amount fromDec toDec b := by
  have hpow : ∀ delta, delta ≤ MAX_DECIMALS → checkedPow10 delta = some (10 ^ delta) := by
    intro delta hdelta
    refine if_pos ?_
    calc 10 ^ delta ≤ 10 ^ 30 := Nat.pow_le_pow_right (by norm_num) hdelta
      _ < 2 ^ 128 := by norm_num
  by_cases hfrom : fromDec ≤ MAX_DECIMALS
  · by_cases hto : toDec ≤ MAX_DECIMALS
    · have hvalue : scale amount fromDec toDec = .ok b
          ↔ b * 10 ^ fromDec = amount * 10 ^ toDec ∧ b < 2 ^ 128 := by
        rw [scale, assertInRange, assertInRange, Check.bind_ok]
        simp only [Check.require_ok, Check.bind_ok, hfrom, hto, true_and, exists_const]
        rcases lt_trichotomy fromDec toDec with hlt | rfl | hlt
        · rw [if_neg hlt.ne, if_pos hlt, scaled_up hlt.le, Check.bind_ok]
          simp only [Check.expect_ok, hpow _ (le_trans (Nat.sub_le _ _) hto), Option.some.injEq,
            exists_eq_left', checkedMul, Option.ite_none_right_eq_some]
          constructor
          · rintro ⟨hfit, rfl⟩
            exact ⟨rfl, hfit⟩
          · rintro ⟨rfl, hfit⟩
            exact ⟨hfit, rfl⟩
        · rw [if_pos rfl, Check.pure_ok, Nat.mul_left_inj (by positivity)]
          constructor
          · rintro rfl
            exact ⟨rfl, hamount⟩
          · exact And.left
        · rw [if_neg hlt.ne', if_neg hlt.not_gt, scaled_down hlt.le, Check.bind_ok]
          simp only [Check.expect_ok, hpow _ (le_trans (Nat.sub_le _ _) hfrom), Option.some.injEq,
            exists_eq_left', Check.bind_ok, Check.require_ok, Check.pure_ok, exists_const]
          constructor
          · rintro ⟨hmod, rfl⟩
            exact ⟨⟨hmod, rfl⟩, lt_of_le_of_lt (Nat.div_le_self _ _) hamount⟩
          · exact And.left
      rw [hvalue]
      constructor
      · rintro ⟨hexact, hfit⟩
        exact ⟨hfrom, hto, hexact, hfit⟩
      · intro h
        exact ⟨h.exact, h.fits⟩
    · refine iff_of_false ?_ fun h => hto h.toDec_le
      rw [scale, assertInRange, assertInRange, Check.bind_ok]
      simp only [Check.require_ok, Check.bind_ok, hto, false_and, exists_const, and_false,
        not_false_eq_true]
  · refine iff_of_false ?_ fun h => hfrom h.fromDec_le
    rw [scale, assertInRange, Check.bind_ok]
    simp only [Check.require_ok, hfrom, false_and, exists_const, not_false_eq_true]

/-- The EVM library scales exactly, within 256 bits. -/
theorem evmScale_ok {amount : Evm.Uint256} {fromDec toDec : BitVec 8} {b : ℕ} :
    Evm.DecimalScaling.scale amount fromDec toDec = .ok b
      ↔ Scaled 256 amount.toNat fromDec.toNat toDec.toNat b := by
  have hamount := amount.isLt
  by_cases hfrom : fromDec.toNat ≤ MAX_DECIMALS
  · by_cases hto : toDec.toNat ≤ MAX_DECIMALS
    · have hvalue : Evm.DecimalScaling.scale amount fromDec toDec = .ok b
          ↔ b * 10 ^ fromDec.toNat = amount.toNat * 10 ^ toDec.toNat ∧ b < 2 ^ 256 := by
        rw [Evm.DecimalScaling.scale, Evm.DecimalScaling.assertInRange,
          Evm.DecimalScaling.assertInRange, Check.bind_ok]
        simp only [Check.require_ok, Check.bind_ok, hfrom, hto, true_and, exists_const]
        rcases lt_trichotomy fromDec.toNat toDec.toNat with hlt | heq | hlt
        · have hne : fromDec ≠ toDec := fun h => hlt.ne (congrArg BitVec.toNat h)
          rw [if_neg hne, if_pos hlt, scaled_up hlt.le, Check.mul_ok]
          constructor
          · rintro ⟨hfit, rfl⟩
            exact ⟨rfl, hfit⟩
          · rintro ⟨rfl, hfit⟩
            exact ⟨hfit, rfl⟩
        · obtain rfl := BitVec.eq_of_toNat_eq heq
          rw [if_pos rfl, Check.pure_ok, Nat.mul_left_inj (by positivity)]
          constructor
          · rintro rfl
            exact ⟨rfl, hamount⟩
          · exact And.left
        · have hne : fromDec ≠ toDec := fun h => hlt.ne' (congrArg BitVec.toNat h)
          rw [if_neg hne, if_neg hlt.not_gt, scaled_down hlt.le, Check.bind_ok]
          simp only [Check.require_ok, Check.pure_ok, exists_const]
          constructor
          · rintro ⟨hmod, rfl⟩
            exact ⟨⟨hmod, rfl⟩, lt_of_le_of_lt (Nat.div_le_self _ _) hamount⟩
          · exact And.left
      rw [hvalue]
      constructor
      · rintro ⟨hexact, hfit⟩
        exact ⟨hfrom, hto, hexact, hfit⟩
      · intro h
        exact ⟨h.exact, h.fits⟩
    · refine iff_of_false ?_ fun h => hto h.toDec_le
      rw [Evm.DecimalScaling.scale, Evm.DecimalScaling.assertInRange,
        Evm.DecimalScaling.assertInRange, Check.bind_ok]
      simp only [Check.require_ok, Check.bind_ok, hto, false_and, exists_const, and_false,
        not_false_eq_true]
  · refine iff_of_false ?_ fun h => hfrom h.fromDec_le
    rw [Evm.DecimalScaling.scale, Evm.DecimalScaling.assertInRange, Check.bind_ok]
    simp only [Check.require_ok, hfrom, false_and, exists_const, not_false_eq_true]

/-- A product that wraps does not divide back. -/
theorem wrapped_product {amount factor : ℕ} :
    (amount ≠ 0 ∧ amount * factor % 2 ^ 256 / amount ≠ factor) ↔ 2 ^ 256 ≤ amount * factor := by
  constructor
  · rintro ⟨hamount, hne⟩
    by_contra hlt
    apply hne
    rw [Nat.mod_eq_of_lt (Nat.lt_of_not_le hlt)]
    exact Nat.mul_div_cancel_left _ (Nat.pos_of_ne_zero hamount)
  · intro hle
    have hamount : amount ≠ 0 := by
      rintro rfl
      rw [zero_mul] at hle
      exact absurd hle (by norm_num)
    refine ⟨hamount, fun heq => ?_⟩
    have hback : amount * factor ≤ amount * factor % 2 ^ 256 := by
      calc amount * factor = amount * (amount * factor % 2 ^ 256 / amount) := by rw [heq]
        _ ≤ amount * factor % 2 ^ 256 := Nat.mul_div_le _ _
    have hmod := Nat.mod_lt (amount * factor) (by norm_num : 0 < 2 ^ 256)
    omega

/-- The policy module's answer is the library's amount, and none where the library reverts. -/
theorem adAmount_ok {p : Evm.AdOrderParams} {b : ℕ} : AgentPolicy.adAmount p = some b
    ↔ Scaled 256 p.amount.toNat p.orderDecimals.toNat p.adDecimals.toNat b := by
  have hamount := p.amount.isLt
  unfold AgentPolicy.adAmount
  dsimp only
  by_cases hrange : MAX_DECIMALS < p.orderDecimals.toNat ∨ MAX_DECIMALS < p.adDecimals.toNat
  · rw [if_pos hrange]
    refine iff_of_false (by simp) fun h => ?_
    have hfrom := h.fromDec_le
    have hto := h.toDec_le
    omega
  rw [if_neg hrange]
  have hfrom : p.orderDecimals.toNat ≤ MAX_DECIMALS := by omega
  have hto : p.adDecimals.toNat ≤ MAX_DECIMALS := by omega
  have hscaled : Scaled 256 p.amount.toNat p.orderDecimals.toNat p.adDecimals.toNat b
      ↔ b * 10 ^ p.orderDecimals.toNat = p.amount.toNat * 10 ^ p.adDecimals.toNat ∧ b < 2 ^ 256 :=
    ⟨fun h => ⟨h.exact, h.fits⟩, fun h => ⟨hfrom, hto, h.1, h.2⟩⟩
  rw [hscaled]
  rcases lt_trichotomy p.orderDecimals.toNat p.adDecimals.toNat with hlt | heq | hlt
  · rw [if_neg hlt.ne, if_pos hlt, scaled_up hlt.le]
    by_cases hwraps : 2 ^ 256 ≤ p.amount.toNat * 10 ^ (p.adDecimals.toNat - p.orderDecimals.toNat)
    · rw [if_pos (wrapped_product.mpr hwraps)]
      refine iff_of_false (by simp) ?_
      rintro ⟨rfl, hfit⟩
      omega
    · rw [if_neg fun h => hwraps (wrapped_product.mp h),
        Nat.mod_eq_of_lt (Nat.lt_of_not_le hwraps), Option.some.injEq]
      constructor
      · rintro rfl
        exact ⟨rfl, Nat.lt_of_not_le hwraps⟩
      · rintro ⟨rfl, -⟩
        rfl
  · rw [if_pos heq, heq, Nat.mul_left_inj (by positivity), Option.some.injEq]
    constructor
    · rintro rfl
      exact ⟨rfl, hamount⟩
    · rintro ⟨rfl, -⟩
      rfl
  · rw [if_neg hlt.ne', if_neg hlt.not_gt, scaled_down hlt.le]
    by_cases hmod : p.amount.toNat % 10 ^ (p.orderDecimals.toNat - p.adDecimals.toNat) = 0
    · rw [if_neg (not_not.mpr hmod), Option.some.injEq]
      constructor
      · rintro rfl
        exact ⟨⟨hmod, rfl⟩, lt_of_le_of_lt (Nat.div_le_self _ _) hamount⟩
      · rintro ⟨⟨-, rfl⟩, -⟩
        rfl
    · rw [if_pos hmod]
      exact iff_of_false (by simp) fun h => hmod h.1.1

/-- Scaling is exact, reversible and strictly monotone on both chains, and the same in all three
places: what an agent is charged is what is locked and paid. -/
theorem scaling_exact :
    (∀ (amount : U128) (fromDec toDec : U32) (b : ℕ),
      scale amount.toNat fromDec.toNat toDec.toNat = .ok b
        ↔ Scaled 128 amount.toNat fromDec.toNat toDec.toNat b) ∧
      (∀ (amount : Evm.Uint256) (fromDec toDec : BitVec 8) (b : ℕ),
        Evm.DecimalScaling.scale amount fromDec toDec = .ok b
          ↔ Scaled 256 amount.toNat fromDec.toNat toDec.toNat b) ∧
      (∀ (amount : U128) (fromDec toDec : U32) (b : ℕ),
        scale amount.toNat fromDec.toNat toDec.toNat = .ok b →
          scale b toDec.toNat fromDec.toNat = .ok amount.toNat ∧ (b = 0 → amount.toNat = 0) ∧
          ∀ (amount' : U128) (b' : ℕ), scale amount'.toNat fromDec.toNat toDec.toNat = .ok b' →
            amount.toNat < amount'.toNat → b < b') ∧
      (∀ (amount : Evm.Uint256) (fromDec toDec : BitVec 8) (b : ℕ),
        Evm.DecimalScaling.scale amount fromDec toDec = .ok b →
          Evm.DecimalScaling.scale (BitVec.ofNat 256 b) toDec fromDec = .ok amount.toNat ∧
          (b = 0 → amount.toNat = 0) ∧
          ∀ (amount' : Evm.Uint256) (b' : ℕ),
            Evm.DecimalScaling.scale amount' fromDec toDec = .ok b' →
            amount.toNat < amount'.toNat → b < b') ∧
      (∀ (amount : U128) (fromDec toDec : BitVec 8) (b : ℕ), b < 2 ^ 128 →
        (scale amount.toNat fromDec.toNat toDec.toNat = .ok b
          ↔ Evm.DecimalScaling.scale (amount.setWidth 256) fromDec toDec = .ok b)) ∧
      (∀ (p : Evm.AdOrderParams) (b : ℕ), AgentPolicy.adAmount p = some b
        ↔ Evm.DecimalScaling.scale p.amount p.orderDecimals p.adDecimals = .ok b) ∧
      ∀ (p : AdManager.OrderParams) (b : ℕ), AdManager.adAmount p = .ok b
        ↔ AgentAccount.scaleLock p.amount p.orderDecimals p.adDecimals = .ok b := by
  refine ⟨fun amount _ _ _ => scale_ok amount.isLt, fun _ _ _ _ => evmScale_ok, ?_, ?_, ?_, ?_, ?_⟩
  · intro amount fromDec toDec b h
    have hscaled := (scale_ok amount.isLt).mp h
    refine ⟨(scale_ok hscaled.fits).mpr (hscaled.symm amount.isLt), hscaled.eq_zero, ?_⟩
    intro amount' b' h' hlt
    exact hscaled.lt ((scale_ok amount'.isLt).mp h') hlt
  · intro amount fromDec toDec b h
    have hscaled := evmScale_ok.mp h
    refine ⟨evmScale_ok.mpr ?_, hscaled.eq_zero, ?_⟩
    · rw [BitVec.toNat_ofNat, Nat.mod_eq_of_lt hscaled.fits]
      exact hscaled.symm amount.isLt
    · intro amount' b' h' hlt
      exact hscaled.lt (evmScale_ok.mp h') hlt
  · intro amount fromDec toDec b hb
    have hamount := amount.isLt
    have hwide : (amount.setWidth 256).toNat = amount.toNat := by
      rw [BitVec.toNat_setWidth]
      exact Nat.mod_eq_of_lt (lt_trans hamount (by norm_num))
    rw [scale_ok hamount, evmScale_ok, hwide]
    constructor
    · intro h
      exact { h with fits := lt_trans h.fits (by norm_num) }
    · intro h
      exact { h with fits := hb }
  · intro p b
    rw [adAmount_ok, evmScale_ok]
  · intro p b
    rw [AdManager.adAmount, AgentAccount.scaleLock, Check.mapError_ok, Check.mapError_ok]

/-- 15 units at one decimal are 15,000,000 at seven, and back. -/
theorem scaling_exact_sample : scale 15 1 7 = .ok 15000000 ∧ scale 15000000 7 1 = .ok 15 :=
  ⟨by decide, (scaling_exact.2.2.1 15 1 7 15000000 (by decide)).1⟩

end Parity
end ProofBridge
