import ProofBridge.AdManager.Model
import ProofBridge.Evm.Fees
import ProofBridge.Lib.Agree
import ProofBridge.Parity.Amounts

/-!
# Fees and bonds on both chains

One side divides first and the other multiplies first. Both give the floor of the product, for every
amount an order can have, so what is paid and what is kept add up to what was locked.
-/

namespace ProofBridge
namespace Parity

open ContractLib

/-- An ad-chain amount an EVM order can be locked for. -/
def Lockable (p : Evm.AdOrderParams) (adAmount : ℕ) : Prop :=
  (∃ adChainId, Evm.OrderHash.checkWidths p.amount p.orderChainId adChainId p.deadline = .ok ()) ∧
    Evm.DecimalScaling.scale p.amount p.orderDecimals p.adDecimals = .ok adAmount

/-- What a payout is split into: nothing is lost, and at most two percent is kept. -/
structure Shares (amount lpFee protocolFee net : ℕ) : Prop where
  lpFee_le : lpFee ≤ amount
  protocolFee_le : protocolFee ≤ amount - lpFee
  whole : net + lpFee + protocolFee = amount
  most : 98 * amount ≤ 100 * net

section Arithmetic

variable {ε : Type} {amount lp protocol bps : ℕ}

/-- A 128-bit amount scaled up by at most thirty decimals leaves room for a rate. -/
theorem Lockable.lt {p : Evm.AdOrderParams} (h : Lockable p amount) : amount < 2 ^ 128 * 10 ^ 30 := by
  obtain ⟨⟨adChainId, hwidths⟩, hscale⟩ := h
  rw [Evm.OrderHash.checkWidths, Check.bind_ok] at hwidths
  obtain ⟨_, hamount, -⟩ := hwidths
  rw [Check.require_ok] at hamount
  have hscaled := evmScale_ok.mp hscale
  have hpow : 10 ^ p.adDecimals.toNat ≤ 10 ^ 30 :=
    Nat.pow_le_pow_right (by norm_num) hscaled.toDec_le
  calc amount ≤ amount * 10 ^ p.orderDecimals.toNat := Nat.le_mul_of_pos_right _ (by positivity)
    _ = p.amount.toNat * 10 ^ p.adDecimals.toNat := hscaled.exact
    _ ≤ p.amount.toNat * 10 ^ 30 := Nat.mul_le_mul_left _ hpow
    _ < 2 ^ 128 * 10 ^ 30 := Nat.mul_lt_mul_of_pos_right hamount (by norm_num)

theorem product_fits (hamount : amount < 2 ^ 128 * 10 ^ 30) (hbps : bps ≤ 10000) :
    amount * bps < 2 ^ 256 := by
  calc amount * bps ≤ amount * 10000 := Nat.mul_le_mul_left _ hbps
    _ < 2 ^ 128 * 10 ^ 30 * 10000 := Nat.mul_lt_mul_of_pos_right hamount (by norm_num)
    _ < 2 ^ 256 := by norm_num

theorem mul_runs (hamount : amount < 2 ^ 128 * 10 ^ 30) (hbps : bps ≤ 10000) :
    (Check.mul 256 amount bps : Check ε ℕ) = .ok (amount * bps) :=
  Check.mul_ok.mpr ⟨product_fits hamount hbps, rfl⟩

/-- Multiplying first gives the floors too. -/
theorem evmSplitFee_eq (hamount : amount < 2 ^ 128 * 10 ^ 30) (hlp : lp ≤ 10000)
    (hprotocol : protocol ≤ 10000) : (Evm.splitFee amount lp protocol : Check ε (ℕ × ℕ))
      = .ok (amount * lp / 10000, amount * protocol / 10000) := by
  rw [Evm.splitFee, mul_runs hamount hlp, mul_runs hamount hprotocol]
  rfl

theorem splitFee_same (hamount : amount < 2 ^ 128) (hlp : lp ≤ 10000) (hprotocol : protocol ≤ 10000) :
    (splitFee amount lp protocol : Check ε (ℕ × ℕ)) = Evm.splitFee amount lp protocol := by
  rw [evmSplitFee_eq (lt_trans hamount (by norm_num)) hlp hprotocol, splitFee, bpsOf_eq hamount hlp,
    bpsOf_eq hamount hprotocol]
  rfl

theorem shares (hlp : lp ≤ MAX_FEE_BPS) (hprotocol : protocol ≤ MAX_FEE_BPS) :
    Shares amount (amount * lp / 10000) (amount * protocol / 10000)
      (amount - amount * lp / 10000 - amount * protocol / 10000) := by
  have hlpFee := bps_le_hundredth amount hlp
  have hprotocolFee := bps_le_hundredth amount hprotocol
  constructor <;> omega

/-- The lp rate that is charged: none on a forfeit. -/
theorem charged_le {forfeit : Bool} (hlp : lp ≤ MAX_FEE_BPS) :
    (if forfeit then 0 else lp) ≤ MAX_FEE_BPS := by
  split
  · exact Nat.zero_le _
  · exact hlp

theorem rate_le (h : bps ≤ MAX_FEE_BPS) : bps ≤ 10000 := h.trans (by decide)

end Arithmetic

section Charging

variable {X : Type} {ad : AdManager.Ad} {params : AdManager.OrderParams} {p : Evm.AdOrderParams}
  {orderHash : BytesN32} {amount balance : ℕ} {forfeit : Bool}

/-- The fees of a payout within the ceilings. -/
def feesOf (amount lpBps protocolBps : ℕ) (forfeit : Bool) : ℕ × ℕ :=
  (amount * (if forfeit then 0 else lpBps) / 10000, amount * protocolBps / 10000)

/-- On Soroban a charge within the ceilings stops only where the ad holds less than it takes out. -/
theorem adManagerCharge_ok {s : AdManager.Chain X} {r : (AdManager.Ad × ℕ × ℕ) × AdManager.Chain X}
    (hamount : amount < 2 ^ 128) (hlp : params.lpFeeBps.toNat ≤ MAX_FEE_BPS)
    (hprotocol : params.protocolFeeBps.toNat ≤ MAX_FEE_BPS) :
    AdManager.chargeFee ad params orderHash amount forfeit s = .ok r ↔
      let fee := feesOf amount params.lpFeeBps.toNat params.protocolFeeBps.toNat forfeit
      amount - fee.1 ≤ ad.balance ∧ r = (({ ad with balance := ad.balance - (amount - fee.1) },
          amount - fee.1 - fee.2, fee.2),
        { s with core := { s.core with
          events := .feeCharged orderHash fee.1 fee.2 :: s.core.events } }) := by
  have hrate : (if forfeit then 0 else params.lpFeeBps.toNat) ≤ MAX_FEE_BPS := charged_le hlp
  have hsplit := @splitFee_eq AdManager.AdManagerError _ _ _ hamount hrate hprotocol
  have hshares := @shares amount _ _ hrate hprotocol
  unfold AdManager.chargeFee
  dsimp only [feesOf]
  simp only [Tx.bind_lift_ok, Tx.bind_modify_ok, Tx.pure_ok, Check.sub_ok, hsplit, Except.ok.injEq,
    exists_eq_left']
  constructor
  · rintro ⟨_, ⟨-, rfl⟩, _, ⟨hout, rfl⟩, _, ⟨-, rfl⟩, rfl⟩
    exact ⟨hout, rfl⟩
  · rintro ⟨hout, rfl⟩
    exact ⟨_, ⟨hshares.lpFee_le, rfl⟩, _, ⟨hout, rfl⟩, _, ⟨hshares.protocolFee_le, rfl⟩, rfl⟩

/-- And on EVM. -/
theorem evmCharge_ok {ε : Type} {c : Evm.Charged} (hamount : amount < 2 ^ 128 * 10 ^ 30)
    (hlp : p.lpFeeBps.toNat ≤ MAX_FEE_BPS) (hprotocol : p.protocolFeeBps.toNat ≤ MAX_FEE_BPS) :
    (Evm.chargeFee balance p orderHash amount forfeit : Check ε _) = .ok c ↔
      let fee := feesOf amount p.lpFeeBps.toNat p.protocolFeeBps.toNat forfeit
      amount - fee.1 ≤ balance ∧ c = {
        balance := balance - (amount - fee.1)
        net := amount - fee.1 - fee.2
        protocolFee := fee.2
        event := (orderHash, fee.1, fee.2) } := by
  have hrate : (if forfeit then 0 else p.lpFeeBps.toNat) ≤ MAX_FEE_BPS := charged_le hlp
  have hsplit := @evmSplitFee_eq ε _ _ _ hamount (rate_le hrate) (rate_le hprotocol)
  have hshares := @shares amount _ _ hrate hprotocol
  unfold Evm.chargeFee
  dsimp only [feesOf]
  simp only [Check.bind_ok, Check.pure_ok, Check.sub_ok, hsplit, Except.ok.injEq, exists_eq_left']
  constructor
  · rintro ⟨_, ⟨-, rfl⟩, _, ⟨hout, rfl⟩, _, ⟨-, rfl⟩, rfl⟩
    exact ⟨hout, rfl⟩
  · rintro ⟨hout, rfl⟩
    exact ⟨_, ⟨hshares.lpFee_le, rfl⟩, _, ⟨hout, rfl⟩, _, ⟨hshares.protocolFee_le, rfl⟩, rfl⟩

end Charging

section Bonds

variable {ε : Type} {c : BondConfig} {config : Evm.Dispute.BondConfig} {amount : ℕ}

theorem BondConfig.validate_iff : c.validate = true
    ↔ (c.minBond = 0 ∧ c.bondBps = 0) ∨
      (c.minBond ≠ 0 ∧ c.bondBps ≤ MAX_BOND_BPS ∧ c.minBond < 2 ^ 127) := by
  unfold BondConfig.validate
  split
  · next h => simp [h]
  · next h => simp [h]

theorem bondRate_le (h : c.validate = true) : c.bondBps ≤ MAX_BOND_BPS := by
  rcases BondConfig.validate_iff.mp h with ⟨-, hbps⟩ | ⟨-, hbps, -⟩
  · exact le_of_eq_of_le hbps (Nat.zero_le _)
  · exact hbps

theorem routeBond_eq (h : c.validate = true) (hamount : amount < 2 ^ 128) :
    (routeBond c amount : Check ε ℕ) = .ok (max (amount * c.bondBps / 10000) c.minBond) := by
  rw [routeBond, bpsOf_eq hamount ((bondRate_le h).trans (by decide))]
  rfl

/-- A validated bond is moved as a signed number of 128 bits. -/
theorem bond_lt (h : c.validate = true) (hamount : amount < 2 ^ 128) :
    max (amount * c.bondBps / 10000) c.minBond < 2 ^ 127 := by
  apply max_lt
  · calc amount * c.bondBps / 10000 ≤ amount * 500 / 10000 :=
          Nat.div_le_div_right (Nat.mul_le_mul_left _ (bondRate_le h))
      _ < 2 ^ 127 := by omega
  · rcases BondConfig.validate_iff.mp h with ⟨hzero, -⟩ | ⟨-, -, hfloor⟩
    · rw [hzero]
      norm_num
    · exact hfloor

theorem evmBondRate_le (h : Evm.Dispute.validateBond config = .ok ()) :
    config.bondBps.toNat ≤ MAX_BOND_BPS := by
  rw [Evm.Dispute.validateBond, Check.require_ok] at h
  split at h
  · rw [not_not.mp h]
    decide
  · exact Nat.le_of_not_lt h

theorem evmRouteBond_eq (h : Evm.Dispute.validateBond config = .ok ())
    (hamount : amount < 2 ^ 128 * 10 ^ 30) : (Evm.Dispute.routeBond config amount : Check ε ℕ)
      = .ok (max (amount * config.bondBps.toNat / 10000) config.minBond.toNat) := by
  rw [Evm.Dispute.routeBond, mul_runs hamount ((evmBondRate_le h).trans (by decide))]
  show Except.ok _ = Except.ok _
  congr 1
  split <;> omega

theorem bond_mono {amount' bps floor : ℕ} (h : amount ≤ amount') :
    max (amount * bps / 10000) floor ≤ max (amount' * bps / 10000) floor :=
  max_le_max_right _ (Nat.div_le_div_right (Nat.mul_le_mul_right _ h))

end Bonds

/-- A charge on either chain: accepted where the ad holds what leaves it, and the shares are exact. -/
structure ExactCharge (balance amount : ℕ) (fee : ℕ × ℕ) (left net protocolFee : ℕ) : Prop where
  held : amount - fee.1 ≤ balance
  left_eq : left = balance - (amount - fee.1)
  fee_eq : protocolFee = fee.2
  shares : Shares amount fee.1 fee.2 net

/-- Fees and bonds are exact on both chains, never trap on an amount an order can have, and are the
same numbers. -/
theorem fees_exact {X ε : Type} :
    (∀ (amount : U128) (bps : ℕ), bps ≤ 10000 →
      (bpsOf amount.toNat bps : Check ε ℕ)
        = .ok (amount.toNat * bps / 10000)) ∧
      (∀ (ad : AdManager.Ad) (params : AdManager.OrderParams) (orderHash : BytesN32) (amount : U128)
        (forfeit poolSet : Bool) (s : AdManager.Chain X),
        feesValid params.lpFeeBps.toNat params.protocolFeeBps.toNat poolSet →
        let fee := feesOf amount.toNat params.lpFeeBps.toNat params.protocolFeeBps.toNat forfeit
        (Tx.Accepts (AdManager.chargeFee ad params orderHash amount.toNat forfeit) s
          ↔ amount.toNat - fee.1 ≤ ad.balance) ∧
        ∀ r, AdManager.chargeFee ad params orderHash amount.toNat forfeit s = .ok r →
          ExactCharge ad.balance amount.toNat fee r.1.1.balance r.1.2.1 r.1.2.2) ∧
      (∀ (balance adAmount : ℕ) (p : Evm.AdOrderParams) (orderHash : BytesN32)
        (forfeit poolSet : Bool), Lockable p adAmount →
        feesValid p.lpFeeBps.toNat p.protocolFeeBps.toNat poolSet →
        let fee := feesOf adAmount p.lpFeeBps.toNat p.protocolFeeBps.toNat forfeit
        ((∃ c, (Evm.chargeFee balance p orderHash adAmount forfeit : Check ε _) = .ok c)
          ↔ adAmount - fee.1 ≤ balance) ∧
        ∀ c, (Evm.chargeFee balance p orderHash adAmount forfeit : Check ε _) = .ok c →
          ExactCharge balance adAmount fee c.balance c.net c.protocolFee) ∧
      (∀ (amount : U128) (lp protocol : ℕ), lp ≤ 10000 → protocol ≤ 10000 →
        (splitFee amount.toNat lp protocol : Check ε _)
          = Evm.splitFee amount.toNat lp protocol) ∧
      (∀ (c : BondConfig) (amount : U128), c.validate = true → ∃ bond,
        (routeBond c amount.toNat : Check ε ℕ) = .ok bond ∧
        c.minBond ≤ bond ∧ bond < 2 ^ 127 ∧
        ∀ (amount' : U128) bond', amount.toNat ≤ amount'.toNat →
          (routeBond c amount'.toNat : Check ε ℕ) = .ok bond' →
          bond ≤ bond') ∧
      ∀ (c : Evm.Dispute.BondConfig), Evm.Dispute.validateBond c = .ok () →
        (∀ amount < 2 ^ 128 * 10 ^ 30, ∃ bond,
          (Evm.Dispute.routeBond c amount : Check ε ℕ) = .ok bond ∧
          c.minBond.toNat ≤ bond ∧
          ∀ amount' bond', amount ≤ amount' → amount' < 2 ^ 128 * 10 ^ 30 →
            (Evm.Dispute.routeBond c amount' : Check ε ℕ) = .ok bond' →
            bond ≤ bond') ∧
        (∀ p adAmount, Lockable p adAmount → adAmount < 2 ^ 128 * 10 ^ 30) ∧
        ∀ amount : U128,
          (routeBond ⟨c.minBond.toNat, c.bondBps.toNat⟩ amount.toNat : Check ε ℕ)
            = Evm.Dispute.routeBond c amount.toNat := by
  refine ⟨fun amount bps hbps => bpsOf_eq amount.isLt hbps, ?_, ?_, ?_, ?_, ?_⟩
  · intro ad params orderHash amount forfeit poolSet s hfees
    obtain ⟨hlp, hprotocol, -⟩ := hfees
    have hrate : (if forfeit then 0 else params.lpFeeBps.toNat) ≤ MAX_FEE_BPS := charged_le hlp
    have hshares := @shares amount.toNat _ _ hrate hprotocol
    have hcharge := fun r => @adManagerCharge_ok X ad params orderHash amount.toNat forfeit s r
      amount.isLt hlp hprotocol
    constructor
    · constructor
      · rintro ⟨r, hr⟩
        exact ((hcharge r).mp hr).1
      · intro hheld
        exact ⟨_, (hcharge _).mpr ⟨hheld, rfl⟩⟩
    · intro r hr
      obtain ⟨hheld, rfl⟩ := (hcharge r).mp hr
      exact ⟨hheld, rfl, rfl, hshares⟩
  · intro balance adAmount p orderHash forfeit poolSet hlock hfees
    obtain ⟨hlp, hprotocol, -⟩ := hfees
    have hrate : (if forfeit then 0 else p.lpFeeBps.toNat) ≤ MAX_FEE_BPS := charged_le hlp
    have hshares := @shares adAmount _ _ hrate hprotocol
    have hcharge := fun c => @evmCharge_ok p orderHash adAmount balance forfeit ε c hlock.lt hlp hprotocol
    constructor
    · constructor
      · rintro ⟨c, hc⟩
        exact ((hcharge c).mp hc).1
      · intro hheld
        exact ⟨_, (hcharge _).mpr ⟨hheld, rfl⟩⟩
    · intro c hc
      obtain ⟨hheld, rfl⟩ := (hcharge c).mp hc
      exact ⟨hheld, rfl, rfl, hshares⟩
  · intro amount lp protocol hlp hprotocol
    exact splitFee_same amount.isLt hlp hprotocol
  · intro c amount hvalid
    refine ⟨_, routeBond_eq hvalid amount.isLt, le_max_right _ _, bond_lt hvalid amount.isLt, ?_⟩
    intro amount' bond' hle hbond'
    rw [routeBond_eq hvalid amount'.isLt] at hbond'
    cases hbond'
    exact bond_mono hle
  · intro c hvalid
    refine ⟨?_, fun p adAmount hlock => hlock.lt, ?_⟩
    · intro amount hamount
      refine ⟨_, evmRouteBond_eq hvalid hamount, le_max_right _ _, ?_⟩
      intro amount' bond' hle hamount' hbond'
      rw [evmRouteBond_eq hvalid hamount'] at hbond'
      cases hbond'
      exact bond_mono hle
    · intro amount
      rw [evmRouteBond_eq hvalid (lt_trans amount.isLt (by norm_num)), routeBond,
        bpsOf_eq amount.isLt ((evmBondRate_le hvalid).trans (by decide))]
      rfl

/-- Thirty bps of 12,345, rounded down. -/
theorem fees_exact_sample : (bpsOf 12345 30 : Check Unit ℕ) = .ok 37 :=
  (fees_exact (X := Unit) (ε := Unit)).1 12345 30 (by decide)

end Parity
end ProofBridge
