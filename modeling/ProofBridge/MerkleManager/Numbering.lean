import ProofBridge.MerkleManager.Indexes
import Mathlib.Data.Nat.BitIndices

/-!
# The numbering the index functions compute

The nodes of ever larger mountains, written out in post-order: each list starts the next, so that a
node keeps its number. The contract's index functions read this numbering off the number alone: the
height of a node, its children, which numbers are leaves. A range of some width is one mountain for
each binary digit, and its size and peaks are those of the list.
-/

namespace ProofBridge
namespace MerkleManager

open ContractLib ContractLib.MountainRange

/-! ## The numbering -/

/-- A node of the numbering: its number, its height (a leaf has height 1) and, of a branch, the
numbers of its left and right child. -/
structure Spot where
  number : ℕ
  height : ℕ
  children : Option (ℕ × ℕ)
  deriving DecidableEq, Repr

def Spot.leaf (number : ℕ) (_ : Unit) : Spot := ⟨number, 1, none⟩

def Spot.branch (number : ℕ) (left right : Spot) : Spot :=
  ⟨number, left.height + 1, some (left.number, right.number)⟩

/-- The nodes of the first mountain of level `h`, in post-order. -/
def numbering (h : ℕ) : List Spot := postorder Spot.leaf Spot.branch (fun _ => ()) h 0 0

/-- The nodes of the range of `width` leaves: a mountain for each binary digit, the largest first. -/
def rangeNodes (width : ℕ) : List Spot := nodes Spot.leaf Spot.branch (fun _ => ()) width

/-- The roots of these mountains. -/
def rangePeaks (width : ℕ) : List Spot := peaks Spot.leaf Spot.branch (fun _ => ()) width

/-- A larger mountain starts with the smaller one. -/
theorem numbering_initial (h : ℕ) : numbering h <+: numbering (h + 1) :=
  ⟨_, (List.append_assoc _ _ _).symm⟩

theorem numbering_length (h : ℕ) : (numbering h).length = 2 ^ (h + 1) - 1 :=
  postorder_length Spot.leaf Spot.branch (fun _ => ()) h 0 0

example : (numbering 2).map Spot.height = [1, 1, 2, 1, 1, 2, 3] := by decide

/-- The node that covers `2^h` leaves from `k * 2^h` on. -/
def spot (k h : ℕ) : Spot := node Spot.leaf Spot.branch (fun _ => ()) k h

theorem spot_zero (k : ℕ) : spot k 0 = ⟨position k 0, 1, none⟩ := node_zero _ _ _ k

theorem spot_succ (k h : ℕ) : spot k (h + 1)
    = Spot.branch (position k (h + 1)) (spot (2 * k) h) (spot (2 * k + 1) h) :=
  node_succ _ _ _ k h

theorem spot_number (k h : ℕ) : (spot k h).number = position k h := by
  cases h with
  | zero => rw [spot_zero]
  | succ h => rw [spot_succ, Spot.branch]

theorem spot_height (k h : ℕ) : (spot k h).height = h + 1 := by
  induction h generalizing k with
  | zero => rw [spot_zero]
  | succ h ih => rw [spot_succ, Spot.branch, ih]

theorem spot_children (k h : ℕ) :
    (spot k (h + 1)).children = some (position (2 * k) h, position (2 * k + 1) h) := by
  rw [spot_succ, Spot.branch, spot_number, spot_number]

/-- What stands in the numbering is a node, at its number. -/
theorem numbering_get {h i : ℕ} {s : Spot} (hs : (numbering h)[i]? = some s) :
    ∃ k' h', s = spot k' h' ∧ position k' h' = i + 1 := by
  have hi : i < 2 ^ (h + 1) - 1 := by
    rw [← numbering_length]
    exact (List.getElem?_eq_some_iff.mp hs).1
  obtain ⟨k', h', -, hposition, hget⟩ :=
    postorder_get Spot.leaf Spot.branch (fun _ => ()) h 0 i hi
  rw [Nat.zero_mul, treeSize_zero, Nat.zero_add] at hposition
  rw [Nat.zero_mul, treeSize_zero] at hget
  have hsame : numbering h = postorder Spot.leaf Spot.branch (fun _ => ()) h 0 0 := rfl
  rw [hsame, hget, Option.some.injEq] at hs
  exact ⟨k', h', hs.symm, hposition⟩

/-! ## Heights and children -/

/-- What the contract computes of a node. -/
structure ReadsSpot (s : Spot) : Prop where
  height : heightAt s.number = .ok s.height
  /-- A leaf has no children, and asking for them is refused. -/
  leaf : s.height = 1 → s.children = none ∧ getChildren s.number = .error (.trap .panicked)
  branch : s.height ≠ 1 → ∃ left right, s.children = some (left, right) ∧
    getChildren s.number = .ok (left, right) ∧ heightAt left = .ok (s.height - 1) ∧
    heightAt right = .ok (s.height - 1)

theorem readsSpot {k h : ℕ} (hlimit : position k h < INDEX_LIMIT) : ReadsSpot (spot k h) := by
  have hnumber := spot_number k h
  have hheight := spot_height k h
  refine ⟨?_, fun hleaf => ?_, fun hbranch => ?_⟩
  · rw [hnumber, hheight, heightAt_position hlimit]
  · obtain rfl : h = 0 := by omega
    rw [hnumber, getChildren_leaf hlimit, spot_zero]
    exact ⟨rfl, rfl⟩
  · cases h with
    | zero => exact absurd hheight hbranch
    | succ h =>
      have hleft := position_left k h
      have hright := position_right k h
      have hpos := two_pow_pos (h + 1)
      refine ⟨_, _, spot_children k h, ?_, ?_, ?_⟩
      · rw [hnumber, getChildren_branch hlimit]
      · rw [heightAt_position (by omega), hheight, Nat.add_sub_cancel]
      · rw [heightAt_position (by omega), hheight, Nat.add_sub_cancel]

/-- `mountain_height` is the largest height that passes the test. -/
theorem mountainHeight_largest {index : ℕ} (hpos : 0 < index) (hlimit : index < INDEX_LIMIT) :
    ∃ height, mountainHeight index = .ok height ∧ 1 ≤ height ∧ 2 ^ height ≤ index + height ∧
      ∀ b, 2 ^ b ≤ index + b → b ≤ height := by
  have hlt : index < 2 ^ 127 := by
    unfold INDEX_LIMIT at hlimit
    omega
  obtain ⟨height, hle, htop, -⟩ := heightFrom_eq le_rfl hpos hlt hlimit
  have habove := htop.above
  refine ⟨height, mountainHeight_eq htop hle, ?_, htop.reached, fun b hb => ?_⟩
  · by_contra hzero
    obtain rfl : height = 0 := by omega
    omega
  · by_contra hgt
    have hnext := reached_below (b := height + 1) hb (by omega)
    omega

/-! ## Sizes and peaks -/

theorem ones_eq_length (n : ℕ) : ones n = n.bitIndices.length := by
  induction n using Nat.strong_induction_on with
  | _ n ih =>
    rcases Nat.even_or_odd' n with ⟨m, rfl | rfl⟩
    · rcases Nat.eq_zero_or_pos m with rfl | hpos
      · rw [Nat.mul_zero, ones_zero, Nat.bitIndices_zero, List.length_nil]
      · rw [ones_two_mul, Nat.bitIndices_two_mul, List.length_map, ih m (by omega)]
    · rw [ones_two_mul_add_one, Nat.bitIndices_two_mul_add_one, List.length_cons, List.length_map,
        ih m (by omega)]

/-- The mountains of a range add up to its size. -/
theorem treeSize_eq_sum (n : ℕ) :
    treeSize n = (n.bitIndices.map fun j => 2 ^ (j + 1) - 1).sum := by
  have hsum : ∀ l : List ℕ, (l.map fun j => 2 ^ (j + 1) - 1).sum + l.length
      = 2 * (l.map fun j => 2 ^ j).sum := by
    intro l
    induction l with
    | nil => rfl
    | cons j l ih =>
      have hpow : 2 ^ (j + 1) = 2 * 2 ^ j := Nat.pow_succ'
      have hpos := two_pow_pos j
      simp only [List.map_cons, List.sum_cons, List.length_cons]
      omega
  have hdigits := hsum n.bitIndices
  have hsize := treeSize_add_ones n
  rw [Nat.sum_map_two_pow_bitIndices] at hdigits
  rw [ones_eq_length] at hsize
  omega

/-- Each peak comes after the mountains of the digits above, and the last one ends the range. -/
theorem peaksBelow_ordered (n H : ℕ) :
    ((treeSize (n / 2 ^ H * 2 ^ H)) :: (peaksBelow n H).map fun p => position p.1 p.2).Pairwise
        (· < ·) ∧
      ((peaksBelow n H).map fun p => position p.1 p.2).getLastD (treeSize (n / 2 ^ H * 2 ^ H))
        = treeSize n := by
  induction H with
  | zero => simp [peaksBelow]
  | succ i ih =>
    obtain ⟨hsorted, hlast⟩ := ih
    have hdigits := treeSize_digits n i
    rw [peaksBelow]
    by_cases hbit : n / 2 ^ i % 2 = 1
    · have hpos : 2 ^ 1 ≤ 2 ^ (i + 1) := Nat.pow_le_pow_right (by decide) (by omega)
      rw [if_pos hbit] at hdigits
      rw [if_pos hbit, List.map_cons, position_peak hbit, ← hdigits, List.getLastD_cons]
      refine ⟨List.pairwise_cons.mpr ⟨fun p hp => ?_, hsorted⟩, hlast⟩
      rcases List.mem_cons.mp hp with rfl | hp
      · omega
      · have hlt := (List.pairwise_cons.mp hsorted).1 p hp
        omega
    · rw [if_neg hbit] at hdigits
      rw [if_neg hbit, ← hdigits]
      exact ⟨hsorted, hlast⟩

theorem peakPositions_ordered (width : ℕ) : (peakPositions width).Pairwise (· < ·) ∧
    (peakPositions width).getLastD 0 = treeSize width := by
  obtain ⟨hsorted, hlast⟩ := peaksBelow_ordered width width.size
  rw [Nat.div_eq_of_lt (Nat.lt_size_self width), Nat.zero_mul, treeSize_zero] at hsorted hlast
  exact ⟨hsorted.of_cons, hlast⟩

theorem rangePeaks_eq (width : ℕ) : rangePeaks width
    = (peakNodes width).map fun p => spot p.1 p.2 :=
  peaks_eq Spot.leaf Spot.branch (fun _ => ()) width

theorem rangePeaks_numbers (width : ℕ) :
    (rangePeaks width).map Spot.number = peakPositions width := by
  rw [rangePeaks_eq, List.map_map, peakPositions]
  exact List.map_congr_left fun p _ => spot_number p.1 p.2

theorem peaksBelow_levels (n H : ℕ) :
    (peaksBelow n H).map Prod.snd = ((List.range H).filter fun j => n.testBit j).reverse := by
  induction H with
  | zero => rfl
  | succ i ih =>
    rw [peaksBelow, List.range_succ, List.filter_append, List.reverse_append, ← ih]
    by_cases hbit : n / 2 ^ i % 2 = 1
    · simp [hbit, Nat.testBit_eq_decide_div_mod_eq]
    · simp [hbit, Nat.testBit_eq_decide_div_mod_eq]

/-- One mountain for each binary digit, the largest first. -/
theorem rangePeaks_heights (width : ℕ) :
    (rangePeaks width).map Spot.height = width.bitIndices.reverse.map (· + 1) := by
  have hlevels : (List.range width.size).filter (fun j => width.testBit j) = width.bitIndices := by
    apply List.Perm.eq_of_pairwise' (r := (· < ·))
    · exact List.pairwise_lt_range.filter _
    · exact Nat.bitIndices_sorted.pairwise
    · rw [List.perm_ext_iff_of_nodup (List.nodup_range.filter _) Nat.bitIndices_nodup]
      intro j
      rw [List.mem_filter, List.mem_range, Nat.mem_bitIndices, and_iff_right_iff_imp]
      intro hbit
      exact Nat.lt_size.mpr (Nat.ge_two_pow_of_testBit hbit)
  rw [rangePeaks_eq, List.map_map, ← hlevels, ← peaksBelow_levels, List.map_map]
  exact List.map_congr_left fun p _ => spot_height p.1 p.2

/-! ## Leaves -/

theorem getLeafIndex_succ {width : ℕ} (hpos : 0 < width) (h : width < 2 ^ 126) :
    getLeafIndex width = .ok (position (width - 1) 0) := by
  obtain ⟨width, rfl⟩ := Nat.exists_eq_succ_of_ne_zero hpos.ne'
  exact getLeafIndex_eq (by omega)

/-- A number below the limit is a node's. -/
theorem exists_position {index : ℕ} (hpos : 0 < index) : ∃ k h, position k h = index := by
  have hlt : index < 2 ^ index := Nat.lt_two_pow_self
  have hpow : 2 ^ (index + 1) = 2 * 2 ^ index := Nat.pow_succ'
  have hin : index - 1 < (numbering index).length := by
    rw [numbering_length]
    omega
  obtain ⟨k, h, -, hposition⟩ := numbering_get (List.getElem?_eq_getElem hin)
  exact ⟨k, h, by omega⟩

/-- The leaves are where the height is one. -/
theorem leaf_iff {index : ℕ} (hpos : 0 < index) (h : index < 2 ^ 126) :
    heightAt index = .ok 1 ↔ ∃ width, 0 < width ∧ width < 2 ^ 126 ∧
      getLeafIndex width = .ok index := by
  have hlimit : index < INDEX_LIMIT := by
    unfold INDEX_LIMIT
    omega
  obtain ⟨k, level, rfl⟩ := exists_position hpos
  rw [heightAt_position hlimit]
  constructor
  · intro hleaf
    obtain rfl : level = 0 := by simpa using hleaf
    have hnode := position_add k 0
    have hones := ones_le k
    refine ⟨k + 1, Nat.succ_pos k, by omega, ?_⟩
    exact getLeafIndex_succ (Nat.succ_pos k) (by omega)
  · rintro ⟨width, hwidth, hbound, hindex⟩
    rw [getLeafIndex_succ hwidth hbound] at hindex
    obtain ⟨-, hlevel⟩ := position_inj (by simpa using hindex)
    rw [← hlevel]

/-- The index arithmetic is that of the numbering. -/
theorem index_arithmetic :
    (∀ width < 2 ^ 126, calcSize width = .ok (rangeNodes width).length ∧
      (rangeNodes width).length = (width.bitIndices.map fun j => 2 ^ (j + 1) - 1).sum) ∧
    (∀ width < 2 ^ 126, ∃ peakIndexes, getPeakIndexes width = .ok peakIndexes ∧
      peakIndexes = (rangePeaks width).map Spot.number ∧
      (rangePeaks width).map Spot.height = width.bitIndices.reverse.map (· + 1) ∧
      peakIndexes.Pairwise (· < ·) ∧
      (0 < width → ∀ size, calcSize width = .ok size → peakIndexes.getLast? = some size)) ∧
    (∀ width width', 0 < width → width < width' → width' < 2 ^ 126 → ∃ index index',
      getLeafIndex width = .ok index ∧ getLeafIndex width' = .ok index' ∧ index < index') ∧
    (∀ index, 0 < index → index < 2 ^ 126 → (heightAt index = .ok 1 ↔
      ∃ width, 0 < width ∧ width < 2 ^ 126 ∧ getLeafIndex width = .ok index)) ∧
    (∀ h, numbering h <+: numbering (h + 1) ∧ (numbering h).length = 2 ^ (h + 1) - 1) ∧
    (∀ h i s, (numbering h)[i]? = some s → i + 1 < 2 ^ 126 → s.number = i + 1 ∧ ReadsSpot s) ∧
    (∀ index, 0 < index → index < 2 ^ 126 → ∃ height, mountainHeight index = .ok height ∧
      1 ≤ height ∧ 2 ^ height ≤ index + height ∧ ∀ b, 2 ^ b ≤ index + b → b ≤ height) := by
  have hlimit : ∀ index < 2 ^ 126, index < INDEX_LIMIT := by
    intro index h
    unfold INDEX_LIMIT
    omega
  refine ⟨fun width h => ?_, fun width h => ?_, fun width width' hpos hlt h => ?_,
    fun index hpos h => leaf_iff hpos h, fun h => ⟨numbering_initial h, numbering_length h⟩,
    fun h i s hs hi => ?_, fun index hpos h => mountainHeight_largest hpos (hlimit index h)⟩
  · have hlength : (rangeNodes width).length = treeSize width := nodes_length _ _ _ width
    rw [hlength, calcSize_eq (by omega), treeSize_eq_sum]
    exact ⟨rfl, rfl⟩
  · obtain ⟨hsorted, hlast⟩ := peakPositions_ordered width
    refine ⟨peakPositions width, getPeakIndexes_eq (by omega), (rangePeaks_numbers width).symm,
      rangePeaks_heights width, hsorted, fun hpos size hsize => ?_⟩
    rw [calcSize_eq (by omega)] at hsize
    have hend : treeSize width = size := by simpa using hsize
    cases hpeaks : peakPositions width with
    | nil =>
      have hones := ones_pos hpos
      rw [← peakPositions_length, hpeaks] at hones
      exact absurd hones (lt_irrefl 0)
    | cons peak rest =>
      rw [hpeaks, List.getLastD_cons] at hlast
      rw [List.getLast?_cons, ← List.getLastD_eq_getLast?, hlast, hend]
  · refine ⟨_, _, getLeafIndex_succ hpos (by omega), getLeafIndex_succ (by omega) h, ?_⟩
    exact strictMono_nat_of_lt_succ (fun k => position_lt_succ k 0) (by omega)
  · obtain ⟨k', h', rfl, hposition⟩ := numbering_get hs
    exact ⟨(spot_number k' h').trans hposition, readsSpot (hlimit _ (by omega))⟩

end MerkleManager
end ProofBridge
