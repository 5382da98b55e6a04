import ProofBridge.MerkleManager.Mmr
import ProofBridge.Lib.MountainRange
import Mathlib.Data.Nat.Bitwise

/-!
# The index arithmetic is that of the reference

Each index function of the contract computes the reference's number, for every range whose indexes
its shifts can express: up to `2^127 - 128` for the height of a node, and below `2^127` leaves for
the sizes and peaks.
-/

namespace ProofBridge
namespace MerkleManager

open ContractLib ContractLib.MountainRange

/-- Nodes up to here have a height the contract can compute; from here on `mountainHeight` traps. -/
def INDEX_LIMIT : ℕ := 2 ^ 127 - 127

/-! ## Shifts -/

theorem shl_one {bits : ℕ} (h : bits < 128) : shl 1 bits = .ok (2 ^ bits) := by
  have hlt : 2 ^ bits < 2 ^ 128 := Nat.pow_lt_pow_right (by decide) h
  rw [shl, if_pos h, Nat.one_mul, Nat.mod_eq_of_lt hlt]

theorem shl_width {value bits : ℕ} (h : ¬bits < 128) : shl value bits = .error (.trap .overflow) :=
  if_neg h

theorem add_of_lt {w a b : ℕ} (h : a + b < 2 ^ w) :
    (Check.add w a b : Check MerkleError ℕ) = .ok (a + b) := if_pos h

theorem sub_of_le {a b : ℕ} (h : b ≤ a) : (Check.sub a b : Check MerkleError ℕ) = .ok (a - b) :=
  if_pos h

theorem demand_of {p : Prop} [Decidable p] {t : Trap} (h : p) :
    (Check.demand p t : Check MerkleError Unit) = .ok () := if_pos h

/-! ## Sizes -/

/-- Clearing the lowest set bit takes one digit away. -/
theorem ones_and_pred {n : ℕ} (h : 0 < n) : ones (n &&& (n - 1)) + 1 = ones n := by
  induction n using Nat.strong_induction_on with
  | _ n ih =>
    rcases Nat.even_or_odd' n with ⟨m, rfl | rfl⟩
    · have hpred : 2 * m - 1 = 2 * (m - 1) + 1 := by omega
      have hand : 2 * m &&& (2 * (m - 1) + 1) = 2 * (m &&& (m - 1)) := by
        have hbits := Nat.land_bit false m true (m - 1)
        rw [Nat.bit_false_apply, Nat.bit_true_apply, Bool.false_and, Nat.bit_false_apply] at hbits
        exact hbits
      rw [hpred, hand, ones_two_mul, ones_two_mul]
      exact ih m (by omega) (by omega)
    · have hand : (2 * m + 1) &&& (2 * m) = 2 * m := by
        have hbits := Nat.land_bit true m false m
        rw [Nat.bit_false_apply, Nat.bit_true_apply, Bool.and_false, Nat.bit_false_apply,
          Nat.and_self] at hbits
        exact hbits
      rw [Nat.add_sub_cancel, hand, ones_two_mul_add_one, ones_two_mul]

theorem numOfPeaksFrom_eq {turns bits : ℕ} (h : ones bits ≤ turns) (count : ℕ) :
    numOfPeaksFrom turns bits count = count + ones bits := by
  induction turns generalizing bits count with
  | zero =>
    have hzero : ones bits = 0 := Nat.le_zero.mp h
    rw [numOfPeaksFrom, hzero, Nat.add_zero]
  | succ turns ih =>
    rw [numOfPeaksFrom]
    split
    · next hpos =>
      have hclear := ones_and_pred hpos
      rw [ih (by omega)]
      omega
    · next hzero =>
      obtain rfl : bits = 0 := by omega
      rw [ones_zero, Nat.add_zero]

theorem numOfPeaks_eq {width : ℕ} (h : width < 2 ^ 128) : numOfPeaks width = ones width := by
  rw [numOfPeaks, numOfPeaksFrom_eq (ones_le_of_lt_two_pow h), Nat.zero_add]

theorem calcSize_eq {width : ℕ} (h : width < 2 ^ 127) : calcSize width = .ok (treeSize width) := by
  have hshift : shl width 1 = .ok (2 * width) := by
    rw [shl, if_pos (by decide), Nat.pow_one, Nat.mul_comm, Nat.mod_eq_of_lt (by omega)]
  have hones := ones_le width
  rw [calcSize, hshift, Check.ok_bind, numOfPeaks_eq (by omega), sub_of_le (by omega), treeSize]

theorem getLeafIndex_eq {width : ℕ} (h : width + 1 < 2 ^ 127) :
    getLeafIndex (width + 1) = .ok (position width 0) := by
  have hposition : position width 0 = treeSize width + 1 := by simp [position]
  rw [getLeafIndex, hposition]
  split
  · next hodd =>
    rw [calcSize_eq h]
    obtain ⟨m, hm⟩ : ∃ m, width = 2 * m := ⟨width / 2, by omega⟩
    have hsize := treeSize_add_ones (width + 1)
    have hsize' := treeSize_add_ones width
    rw [hm, ones_two_mul_add_one] at hsize
    rw [hm, ones_two_mul] at hsize'
    rw [hm]
    congr 1
    omega
  · have hone := treeSize_add_ones width
    rw [sub_of_le (by omega), Check.ok_bind, Nat.add_sub_cancel, calcSize_eq (by omega),
      Check.ok_bind, add_of_lt (by omega)]

/-! ## Peaks -/

theorem maxHeightFrom_eq {width turns maxHeight : ℕ} (hw : width < 2 ^ 127)
    (hlow : maxHeight ≤ width.size) (hturns : width.size < turns + maxHeight) :
    maxHeightFrom width turns maxHeight = .ok width.size := by
  have hsize : width.size ≤ 127 := Nat.size_le.mpr hw
  induction turns generalizing maxHeight with
  | zero => omega
  | succ turns ih =>
    rw [maxHeightFrom, shl_one (by omega), Check.ok_bind]
    split
    · next hle =>
      have hlt := Nat.lt_size.mpr hle
      exact ih (by omega) (by omega)
    · next hgt =>
      have hle : width.size ≤ maxHeight := Nat.size_le.mpr (not_le.mp hgt)
      obtain rfl : maxHeight = width.size := by omega
      rfl

/-- A width from `2^127` on has no `max_height`: the shift by 128 traps. -/
theorem maxHeightFrom_large {width turns maxHeight : ℕ} (hw : 2 ^ 127 ≤ width) :
    maxHeightFrom width turns maxHeight = .error (.trap .overflow) := by
  induction turns generalizing maxHeight with
  | zero => rfl
  | succ turns ih =>
    rw [maxHeightFrom]
    by_cases hlt : maxHeight < 128
    · have hle : 2 ^ maxHeight ≤ width :=
        (Nat.pow_le_pow_right (by decide) (by omega)).trans hw
      rw [shl_one hlt, Check.ok_bind, if_pos hle]
      exact ih
    · rw [shl_width hlt]
      rfl

/-- The digit a turn of the loop tests. -/
theorem and_two_pow_ne_zero {width i : ℕ} : width &&& 2 ^ i ≠ 0 ↔ width / 2 ^ i % 2 = 1 := by
  have hpos := two_pow_pos i
  rw [Nat.and_two_pow, Nat.testBit_eq_decide_div_mod_eq]
  by_cases h : width / 2 ^ i % 2 = 1
  · simp [h]
  · simp [h]

/-- The size of what the digits from `i` on stand for. -/
theorem treeSize_digits (width i : ℕ) : treeSize (width / 2 ^ i * 2 ^ i) =
    if width / 2 ^ i % 2 = 1
    then treeSize (width / 2 ^ (i + 1) * 2 ^ (i + 1)) + (2 ^ (i + 1) - 1)
    else treeSize (width / 2 ^ (i + 1) * 2 ^ (i + 1)) := by
  have hdiv : width / 2 ^ (i + 1) = width / 2 ^ i / 2 := by
    rw [Nat.pow_succ, Nat.div_div_eq_div_mul]
  have hstart : width / 2 ^ (i + 1) * 2 ^ (i + 1) = 2 * (width / 2 ^ i / 2) * 2 ^ i := by
    rw [hdiv]
    ring
  rw [hstart]
  split
  · next hodd =>
    have hq : width / 2 ^ i = 2 * (width / 2 ^ i / 2) + 1 := by omega
    rw [← treeSize_right, ← hq]
  · next heven =>
    have hq : width / 2 ^ i = 2 * (width / 2 ^ i / 2) := by omega
    rw [← hq]

/-- The running size at a peak is the peak's number. -/
theorem position_peak {width i : ℕ} (hodd : width / 2 ^ i % 2 = 1) :
    position (width / 2 ^ i - 1) i
      = treeSize (width / 2 ^ (i + 1) * 2 ^ (i + 1)) + (2 ^ (i + 1) - 1) := by
  have hdiv : width / 2 ^ (i + 1) = width / 2 ^ i / 2 := by
    rw [Nat.pow_succ, Nat.div_div_eq_div_mul]
  have hk : width / 2 ^ i - 1 = 2 * (width / 2 ^ i / 2) := by omega
  have hstart : width / 2 ^ (i + 1) * 2 ^ (i + 1) = 2 * (width / 2 ^ i / 2) * 2 ^ i := by
    rw [hdiv]
    ring
  rw [hk, hstart, position]

theorem peakIndexesFrom_eq {width : ℕ} (hw : width < 2 ^ 127) {H : ℕ} (hH : H ≤ 127) :
    peakIndexesFrom width H (treeSize (width / 2 ^ H * 2 ^ H))
      = .ok ((peaksBelow width H).map fun p => position p.1 p.2) := by
  induction H with
  | zero => rfl
  | succ i ih =>
    rw [peakIndexesFrom, shl_one (by omega), Check.ok_bind, peaksBelow]
    have hdigits := treeSize_digits width i
    by_cases hbit : width / 2 ^ i % 2 = 1
    · have hpos := two_pow_pos (i + 1)
      have hpeak := position_peak hbit
      rw [if_pos hbit] at hdigits
      have hle : treeSize (width / 2 ^ i * 2 ^ i) ≤ 2 * width := by
        have hmono := treeSize_mono (Nat.div_mul_le_self width (2 ^ i))
        have hsize := treeSize_add_ones width
        omega
      have hmountain : shl 1 (i + 1) = .ok (2 ^ (i + 1)) := shl_one (by omega)
      rw [if_pos (and_two_pow_ne_zero.mpr hbit), hmountain, Check.ok_bind,
        add_of_lt (by omega), Check.ok_bind, sub_of_le (by omega), Check.ok_bind,
        Nat.add_sub_assoc hpos, ← hdigits, ih (by omega), Check.ok_bind, if_pos hbit, List.map_cons,
        hpeak, ← hdigits]
      rfl
    · rw [if_neg hbit] at hdigits
      rw [if_neg (not_not.mpr (not_not.mp fun h => hbit (and_two_pow_ne_zero.mp h))), ← hdigits,
        ih (by omega), if_neg hbit]

theorem peaksBelow_length (width H : ℕ) :
    (peaksBelow width H).length = ones (width % 2 ^ H) := by
  induction H with
  | zero => simp [peaksBelow, Nat.mod_one, ones_zero]
  | succ i ih =>
    have hmod : width % 2 ^ (i + 1) = 2 ^ i * (width / 2 ^ i % 2) + width % 2 ^ i := by
      rw [Nat.pow_succ, Nat.mod_mul, Nat.add_comm]
    rw [peaksBelow, hmod]
    split
    · next hbit =>
      rw [hbit, Nat.mul_one, ones_two_pow_add (Nat.mod_lt _ (two_pow_pos i)), List.length_cons, ih]
    · next hbit =>
      have hzero : width / 2 ^ i % 2 = 0 := by omega
      rw [hzero, Nat.mul_zero, Nat.zero_add, ih]

theorem peakNodes_length (width : ℕ) : (peakNodes width).length = ones width := by
  rw [peakNodes, peaksBelow_length, Nat.mod_eq_of_lt (Nat.lt_size_self width)]

/-- The numbers of the peaks, the largest mountain first. -/
def peakPositions (width : ℕ) : List ℕ := (peakNodes width).map fun p => position p.1 p.2

theorem peakPositions_length (width : ℕ) : (peakPositions width).length = ones width := by
  rw [peakPositions, List.length_map, peakNodes_length]

theorem getPeakIndexes_eq {width : ℕ} (hw : width < 2 ^ 127) :
    getPeakIndexes width = .ok (peakPositions width) := by
  unfold getPeakIndexes
  split
  · next hzero =>
    subst hzero
    rfl
  · next hne =>
    have hpos : 1 ≤ width.size := Nat.lt_size.mpr (by simpa using Nat.one_le_iff_ne_zero.mpr hne)
    have hsize : width.size ≤ 127 := Nat.size_le.mpr hw
    have hstart : treeSize (width / 2 ^ width.size * 2 ^ width.size) = 0 := by
      rw [Nat.div_eq_of_lt (Nat.lt_size_self width), Nat.zero_mul, treeSize_zero]
    have hpeaks := peakIndexesFrom_eq hw hsize
    rw [hstart] at hpeaks
    rw [maxHeightFrom_eq hw hpos (by omega), Check.ok_bind, hpeaks, Check.ok_bind, demand_of]
    · rfl
    · show (peakPositions width).length = _
      rw [peakPositions_length, numOfPeaks_eq (by omega)]

theorem lt_of_getPeakIndexes {width : ℕ} {peakIndexes : List ℕ}
    (ok : getPeakIndexes width = .ok peakIndexes) : width < 2 ^ 127 := by
  by_contra hge
  rw [not_lt] at hge
  rw [getPeakIndexes, if_neg (by omega), maxHeightFrom_large hge] at ok
  cases ok

/-! ## Heights -/

/-- Below a height that passes the test of `mountain_height`, every height does. -/
theorem reached_below {size height b : ℕ} (h : 2 ^ height ≤ size + height) (hb : b ≤ height) :
    2 ^ b ≤ size + b := by
  induction height, hb using Nat.le_induction with
  | base => exact h
  | succ height hb ih =>
    have hpow : 2 ^ (height + 1) = 2 * 2 ^ height := Nat.pow_succ'
    have hpos := two_pow_pos height
    exact ih (by omega)

/-- `mountainHeight` of a size: the last height before `1 << height` exceeds `size + height`. -/
structure IsTop (size height : ℕ) : Prop where
  reached : 2 ^ height ≤ size + height
  above : size + (height + 1) < 2 ^ (height + 1)

/-- Below the top every height passes the loop's test. -/
theorem IsTop.below {size height b : ℕ} (h : IsTop size height) (hb : b ≤ height) :
    2 ^ b ≤ size + b :=
  reached_below h.reached hb

theorem mountainHeightFrom_eq {size height turns b : ℕ} (htop : IsTop size height)
    (hheight : height ≤ 126) (hpos : 1 ≤ b) (hb : b ≤ height + 1)
    (hturns : height + 1 < turns + b) : mountainHeightFrom size turns b = .ok height := by
  have habove := htop.above
  have hbound : 2 ^ (height + 1) ≤ 2 ^ 127 := Nat.pow_le_pow_right (by decide) (by omega)
  induction turns generalizing b with
  | zero => omega
  | succ turns ih =>
    rw [mountainHeightFrom, shl_one (by omega), Check.ok_bind, add_of_lt (by omega), Check.ok_bind]
    split
    · next hle =>
      refine ih (by omega) ?_ (by omega)
      by_contra hgt
      obtain rfl : b = height + 1 := by omega
      omega
    · next hgt =>
      obtain rfl : b = height + 1 := by
        by_contra hne
        exact hgt (htop.below (by omega))
      rfl

theorem mountainHeight_eq {size height : ℕ} (htop : IsTop size height) (hheight : height ≤ 126) :
    mountainHeight size = .ok height :=
  mountainHeightFrom_eq htop hheight le_rfl (by omega) (by omega)

/-- From the limit on, the loop runs into the shift by 128. -/
theorem mountainHeightFrom_limit {size turns b : ℕ} (h : INDEX_LIMIT ≤ size) :
    mountainHeightFrom size turns b = .error (.trap .overflow) := by
  induction turns generalizing b with
  | zero => rfl
  | succ turns ih =>
    rw [mountainHeightFrom]
    by_cases hlt : b < 128
    · rw [shl_one hlt, Check.ok_bind]
      by_cases hadd : size + b < 2 ^ 128
      · have hle : 2 ^ b ≤ size + b := by
          have hpow : ∀ b, b ≤ 127 → 2 ^ b ≤ 2 ^ 127 - 127 + b := by decide
          have := hpow b (by omega)
          unfold INDEX_LIMIT at h
          omega
        rw [add_of_lt hadd, Check.ok_bind, if_pos hle]
        exact ih
      · rw [Check.add, if_neg hadd]
        rfl
    · rw [shl_width hlt]
      rfl

/-- The loop of `height_at` computes the level of the index, from the top of its own mountain. -/
theorem heightFrom_eq {H index : ℕ} (hH : H ≤ 127) (hpos : 0 < index) (hlt : index < 2 ^ H)
    (hlimit : index < INDEX_LIMIT) : ∃ top, top ≤ 126 ∧ IsTop index top ∧
      ∀ turns, H ≤ turns →
        heightFrom (turns + 1) index (2 ^ top - 1) top = .ok (heightIn H index) := by
  induction H generalizing index with
  | zero =>
    obtain rfl : index = 0 := by simpa using hlt
    omega
  | succ H ih =>
    have hpow : 2 ^ (H + 1) = 2 * 2 ^ H := Nat.pow_succ'
    have hself : H < 2 ^ H := Nat.lt_two_pow_self
    by_cases hedge : 2 ^ (H + 1) ≤ index + (H + 1)
    · -- the index is on the right edge of this mountain
      have htop : H + 1 ≤ 126 := by
        by_contra hgt
        obtain rfl : H = 126 := by omega
        unfold INDEX_LIMIT at hlimit
        omega
      have hpow' : 2 ^ (H + 1 + 1) = 2 * 2 ^ (H + 1) := Nat.pow_succ'
      refine ⟨H + 1, htop, ⟨hedge, by omega⟩, fun turns _ => ?_⟩
      have hheight := heightIn_edge hlt hedge
      have hmod : (2 ^ (H + 1) - 1 - index) % 2 ^ 8 = 2 ^ (H + 1) - 1 - index :=
        Nat.mod_eq_of_lt (by omega)
      rw [heightFrom, if_neg (by omega), sub_of_le (by omega), Check.ok_bind, hmod,
        sub_of_le (by omega)]
      congr 1
      omega
    · by_cases hleft : index < 2 ^ H
      · -- the next smaller mountain holds it
        obtain ⟨top, htop, hisTop, hloop⟩ := ih (by omega) hpos hleft hlimit
        refine ⟨top, htop, hisTop, fun turns hturns => ?_⟩
        rw [hloop turns (by omega), heightIn_succ hleft hpos]
      · -- the next smaller mountain is taken off
        have hrest : 0 < index + 1 - 2 ^ H ∧ index + 1 - 2 ^ H < 2 ^ H ∧
            index + 1 - 2 ^ H < INDEX_LIMIT := by omega
        obtain ⟨top, htop, hisTop, hloop⟩ := ih (by omega) hrest.1 hrest.2.1 hrest.2.2
        have hbound : 2 ^ H ≤ 2 ^ 126 := Nat.pow_le_pow_right (by decide) (by omega)
        refine ⟨H, by omega, ⟨by omega, by omega⟩, fun turns hturns => ?_⟩
        obtain ⟨turns, rfl⟩ : ∃ turns', turns = turns' + 1 := ⟨turns - 1, by omega⟩
        have hreduced : index - (2 ^ H - 1) = index + 1 - 2 ^ H := by omega
        have hone := two_pow_pos top
        rw [heightFrom, if_pos (by omega), shl_one (by omega), Check.ok_bind, sub_of_le (by omega),
          Check.ok_bind, sub_of_le (by omega), Check.ok_bind, hreduced,
          mountainHeight_eq hisTop htop, Check.ok_bind, shl_one (by omega), Check.ok_bind,
          sub_of_le hone, Check.ok_bind, hloop turns (by omega), heightIn, if_neg (by omega),
          if_neg hleft]

theorem heightAt_zero : heightAt 0 = .ok 0 := rfl

theorem heightAt_eq {index : ℕ} (hpos : 0 < index) (hlimit : index < INDEX_LIMIT) :
    heightAt index = .ok (heightIn 127 index) := by
  have hlt : index < 2 ^ 127 := by
    unfold INDEX_LIMIT at hlimit
    omega
  obtain ⟨top, htop, hisTop, hloop⟩ := heightFrom_eq le_rfl hpos hlt hlimit
  have hone := two_pow_pos top
  have hfirst : shl 1 0 = .ok 1 := rfl
  rw [heightAt, heightFrom, if_pos hpos, hfirst, Check.ok_bind, sub_of_le le_rfl, Check.ok_bind,
    sub_of_le (Nat.zero_le _), Check.ok_bind, Nat.sub_zero,
    mountainHeight_eq hisTop htop, Check.ok_bind, shl_one (by omega), Check.ok_bind,
    sub_of_le hone, Check.ok_bind, hloop 127 le_rfl]

theorem heightAt_position {k h : ℕ} (hlimit : position k h < INDEX_LIMIT) :
    heightAt (position k h) = .ok (h + 1) := by
  have hlt : position k h < 2 ^ 127 := by
    unfold INDEX_LIMIT at hlimit
    omega
  rw [heightAt_eq (position_pos k h) hlimit, heightIn_of_lt hlt]

theorem heightAt_limit {index : ℕ} (h : INDEX_LIMIT ≤ index) :
    heightAt index = .error (.trap .overflow) := by
  have hpos : 0 < index := by
    unfold INDEX_LIMIT at h
    omega
  have hfirst : shl 1 0 = .ok 1 := rfl
  have hheight : mountainHeight index = .error (.trap .overflow) := mountainHeightFrom_limit h
  rw [heightAt, heightFrom, if_pos hpos, hfirst, Check.ok_bind, sub_of_le le_rfl, Check.ok_bind,
    sub_of_le (Nat.zero_le _), Check.ok_bind, Nat.sub_zero, hheight]
  rfl

/-- A node within the limit has a level that the shifts can express. -/
theorem level_lt {k h : ℕ} (hlimit : position k h < INDEX_LIMIT) : h < 126 := by
  by_contra hge
  have hnode := position_add k h
  have hones := ones_le k
  have hbig : 2 ^ 127 ≤ 2 ^ (h + 1) := Nat.pow_le_pow_right (by decide) (by omega)
  have hmul : (k + 1) * 2 ^ (h + 1) = k * 2 ^ (h + 1) + 2 ^ (h + 1) := by ring
  have hk : k ≤ k * 2 ^ (h + 1) := Nat.le_mul_of_pos_right _ (two_pow_pos _)
  unfold INDEX_LIMIT at hlimit
  omega

theorem getChildren_branch {k h : ℕ} (hlimit : position k (h + 1) < INDEX_LIMIT) :
    getChildren (position k (h + 1)) = .ok (position (2 * k) h, position (2 * k + 1) h) := by
  have hlevel := level_lt hlimit
  have hleft := position_left k h
  have hright := position_right k h
  have hpow : 2 ^ 1 ≤ 2 ^ (h + 1) := Nat.pow_le_pow_right (by decide) (by omega)
  have hl : position k (h + 1) - 2 ^ (h + 1) = position (2 * k) h := by omega
  have hr : position k (h + 1) - 1 = position (2 * k + 1) h := by omega
  rw [getChildren, heightAt_position hlimit, Check.ok_bind, sub_of_le (by omega), Check.ok_bind,
    Nat.add_sub_cancel, shl_one (by omega), Check.ok_bind, sub_of_le (by omega), Check.ok_bind,
    sub_of_le (by omega), Check.ok_bind, hl, hr, demand_of (by omega)]
  rfl

theorem getChildren_leaf {k : ℕ} (hlimit : position k 0 < INDEX_LIMIT) :
    getChildren (position k 0) = .error (.trap .panicked) := by
  have hpos := position_pos k 0
  have hone : shl 1 (0 + 1 - 1) = .ok 1 := rfl
  rw [getChildren, heightAt_position hlimit, Check.ok_bind, sub_of_le (by omega), Check.ok_bind,
    hone, Check.ok_bind, sub_of_le hpos, Check.ok_bind, Check.ok_bind, Check.demand,
    if_neg (by simp)]
  rfl

theorem getChildren_limit {index : ℕ} (h : INDEX_LIMIT ≤ index) :
    getChildren index = .error (.trap .overflow) := by
  rw [getChildren, heightAt_limit h]
  rfl

end MerkleManager
end ProofBridge
