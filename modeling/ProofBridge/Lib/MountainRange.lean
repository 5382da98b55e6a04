import Mathlib.Data.Nat.Size
import Mathlib.Data.List.Basic
import Mathlib.Tactic.Ring
import Mathlib.Tactic.Common

/-!
# Merkle mountain ranges

A mountain is a perfect binary tree over consecutive leaves; a range of `n` leaves is one mountain
for each binary digit of `n`, the largest first. Its nodes are numbered from 1 in post-order: a
node's children come before it, the left one's subtree first.

A node is named by its level `h` (a leaf has level 0) and by `k`: it covers the leaves from `k * 2^h`
on, `2^h` of them. `position` is its number, and everything that walks a range by index arithmetic
follows from `position_left` and `position_right`.
-/

namespace ContractLib
namespace MountainRange

/-! ## Binary digits -/

/-- How many binary digits of `n` are one. -/
def ones (n : ℕ) : ℕ :=
  if n = 0 then 0 else n % 2 + ones (n / 2)
termination_by n

theorem ones_zero : ones 0 = 0 := by
  unfold ones
  rfl

theorem ones_two_mul (n : ℕ) : ones (2 * n) = ones n := by
  rcases Nat.eq_zero_or_pos n with rfl | hpos
  · rfl
  · rw [ones, if_neg (by omega), Nat.mul_mod_right, Nat.mul_div_cancel_left n (by decide),
      Nat.zero_add]

theorem ones_two_mul_add_one (n : ℕ) : ones (2 * n + 1) = ones n + 1 := by
  have hmod : (2 * n + 1) % 2 = 1 := by omega
  have hdiv : (2 * n + 1) / 2 = n := by omega
  rw [ones, if_neg (by omega), hmod, hdiv, Nat.add_comm]

theorem ones_mul_two_pow (n h : ℕ) : ones (n * 2 ^ h) = ones n := by
  induction h with
  | zero => rw [Nat.pow_zero, Nat.mul_one]
  | succ h ih => rw [Nat.pow_succ', Nat.mul_left_comm, ones_two_mul, ih]

/-- A digit above the others counts one. -/
theorem ones_two_pow_add {j k : ℕ} (hk : k < 2 ^ j) : ones (2 ^ j + k) = ones k + 1 := by
  induction j generalizing k with
  | zero =>
    obtain rfl : k = 0 := by simpa using hk
    simp [ones]
  | succ j ih =>
    have hpow : 2 ^ (j + 1) = 2 * 2 ^ j := Nat.pow_succ'
    rcases Nat.even_or_odd' k with ⟨m, rfl | rfl⟩
    · have hsplit : 2 ^ (j + 1) + 2 * m = 2 * (2 ^ j + m) := by omega
      rw [hsplit, ones_two_mul, ones_two_mul, ih (by omega)]
    · have hsplit : 2 ^ (j + 1) + (2 * m + 1) = 2 * (2 ^ j + m) + 1 := by omega
      rw [hsplit, ones_two_mul_add_one, ones_two_mul_add_one, ih (by omega)]

/-- One more clears the trailing ones and sets a digit. -/
theorem ones_succ_le (n : ℕ) : ones (n + 1) ≤ ones n + 1 := by
  induction n using Nat.strong_induction_on with
  | _ n ih =>
    rcases Nat.even_or_odd' n with ⟨m, rfl | rfl⟩
    · rw [ones_two_mul_add_one, ones_two_mul]
    · have hsplit : 2 * m + 1 + 1 = 2 * (m + 1) := by omega
      have := ih m (by omega)
      rw [hsplit, ones_two_mul, ones_two_mul_add_one]
      omega

theorem ones_le (n : ℕ) : ones n ≤ n := by
  induction n with
  | zero => rw [ones_zero]
  | succ n ih =>
    have := ones_succ_le n
    omega

theorem ones_pos {n : ℕ} (h : 0 < n) : 0 < ones n := by
  induction n using Nat.strong_induction_on with
  | _ n ih =>
    rcases Nat.even_or_odd' n with ⟨m, rfl | rfl⟩
    · rw [ones_two_mul]
      exact ih m (by omega) (by omega)
    · rw [ones_two_mul_add_one]
      omega

theorem ones_le_of_lt_two_pow {n j : ℕ} (h : n < 2 ^ j) : ones n ≤ j := by
  induction j generalizing n with
  | zero =>
    obtain rfl : n = 0 := by simpa using h
    rw [ones_zero]
  | succ j ih =>
    have hpow : 2 ^ (j + 1) = 2 * 2 ^ j := Nat.pow_succ'
    rcases Nat.even_or_odd' n with ⟨m, rfl | rfl⟩
    · rw [ones_two_mul]
      exact (ih (by omega)).trans (Nat.le_succ j)
    · rw [ones_two_mul_add_one]
      exact Nat.succ_le_succ (ih (by omega))

/-! ## Sizes and positions -/

/-- How many nodes a range of `n` leaves has. -/
def treeSize (n : ℕ) : ℕ := 2 * n - ones n

/-- The number of the node that covers the `2^h` leaves from `k * 2^h` on: the nodes of the leaves
before it, and then its own subtree, of which it is the last. -/
def position (k h : ℕ) : ℕ := treeSize (k * 2 ^ h) + (2 ^ (h + 1) - 1)

/-- The node's subtree lies within the first `n` leaves. -/
def Complete (n k h : ℕ) : Prop := (k + 1) * 2 ^ h ≤ n

theorem treeSize_add_ones (n : ℕ) : treeSize n + ones n = 2 * n := by
  have := ones_le n
  unfold treeSize
  omega

theorem treeSize_zero : treeSize 0 = 0 := by
  unfold treeSize
  rw [ones_zero]

theorem treeSize_lt_succ (n : ℕ) : treeSize n < treeSize (n + 1) := by
  have := treeSize_add_ones n
  have := treeSize_add_ones (n + 1)
  have := ones_succ_le n
  omega

theorem treeSize_strictMono : StrictMono treeSize := strictMono_nat_of_lt_succ treeSize_lt_succ

theorem treeSize_mono {m n : ℕ} (h : m ≤ n) : treeSize m ≤ treeSize n :=
  treeSize_strictMono.monotone h

theorem two_pow_pos (h : ℕ) : 0 < 2 ^ h := Nat.two_pow_pos h

/-- What `position` is without the subtractions. -/
theorem position_add (k h : ℕ) : position k h + ones k + 1 = (k + 1) * 2 ^ (h + 1) := by
  have hsize := treeSize_add_ones (k * 2 ^ h)
  have hpos := two_pow_pos (h + 1)
  have hpow : 2 * (k * 2 ^ h) = k * 2 ^ (h + 1) := by ring
  rw [ones_mul_two_pow, hpow] at hsize
  have hmul : (k + 1) * 2 ^ (h + 1) = k * 2 ^ (h + 1) + 2 ^ (h + 1) := by ring
  unfold position
  omega

theorem position_pos (k h : ℕ) : 0 < position k h := by
  have hpos : 2 ^ 1 ≤ 2 ^ (h + 1) := Nat.pow_le_pow_right (by decide) (by omega)
  unfold position
  omega

/-- The left child: the node's right subtree and the node itself come after it. -/
theorem position_left (k h : ℕ) : position (2 * k) h + 2 ^ (h + 1) = position k (h + 1) := by
  have hchild := position_add (2 * k) h
  have hnode := position_add k (h + 1)
  rw [ones_two_mul] at hchild
  have hpow : (k + 1) * 2 ^ (h + 1 + 1) = (2 * k + 1) * 2 ^ (h + 1) + 2 ^ (h + 1) := by ring
  omega

/-- The right child comes right before its parent. -/
theorem position_right (k h : ℕ) : position (2 * k + 1) h + 1 = position k (h + 1) := by
  have hchild := position_add (2 * k + 1) h
  have hnode := position_add k (h + 1)
  rw [ones_two_mul_add_one] at hchild
  have hpow : (k + 1) * 2 ^ (h + 1 + 1) = (2 * k + 1 + 1) * 2 ^ (h + 1) := by ring
  omega

/-- A mountain of level `h + j` that starts the range ends its numbering. -/
theorem position_lt_two_pow {k h j : ℕ} (hk : k < 2 ^ j) :
    position k h < 2 ^ (h + 1 + j) := by
  have hnode := position_add k h
  have hle : (k + 1) * 2 ^ (h + 1) ≤ 2 ^ j * 2 ^ (h + 1) := Nat.mul_le_mul_right _ hk
  have hpow : 2 ^ j * 2 ^ (h + 1) = 2 ^ (h + 1 + j) := by ring
  omega

/-- Past a first mountain the numbering starts over. -/
theorem position_two_pow_add {k h j : ℕ} (hk : k < 2 ^ j) :
    position (2 ^ j + k) h + 1 = 2 ^ (h + 1 + j) + position k h := by
  have hnode := position_add (2 ^ j + k) h
  have hrest := position_add k h
  rw [ones_two_pow_add hk] at hnode
  have hpow : (2 ^ j + k + 1) * 2 ^ (h + 1) = 2 ^ (h + 1 + j) + (k + 1) * 2 ^ (h + 1) := by ring
  omega

theorem position_lt_succ (k h : ℕ) : position k h < position (k + 1) h := by
  have hnode := position_add k h
  have hnext := position_add (k + 1) h
  have hones := ones_succ_le k
  have hpow : (k + 1 + 1) * 2 ^ (h + 1) = (k + 1) * 2 ^ (h + 1) + 2 ^ (h + 1) := by ring
  have hpos : 2 ^ 1 ≤ 2 ^ (h + 1) := Nat.pow_le_pow_right (by decide) (by omega)
  omega

theorem position_mono {k k' : ℕ} (h : ℕ) (hk : k ≤ k') : position k h ≤ position k' h :=
  (strictMono_nat_of_lt_succ fun k => position_lt_succ k h).monotone hk

/-- The nodes of a range have the numbers up to its size. -/
theorem Complete.position_le {n k h : ℕ} (hc : Complete n k h) : position k h ≤ treeSize n := by
  have hnode := position_add k h
  have hsize := treeSize_add_ones ((k + 1) * 2 ^ h)
  have hones := ones_succ_le k
  rw [ones_mul_two_pow] at hsize
  have hpow : 2 * ((k + 1) * 2 ^ h) = (k + 1) * 2 ^ (h + 1) := by ring
  have hmono := treeSize_mono hc
  omega

theorem Complete.left {n k h : ℕ} (hc : Complete n k (h + 1)) : Complete n (2 * k) h := by
  unfold Complete at hc ⊢
  have hpow : (k + 1) * 2 ^ (h + 1) = (2 * k + 1) * 2 ^ h + 2 ^ h := by ring
  rw [hpow] at hc
  exact Nat.le_of_add_right_le hc

theorem Complete.right {n k h : ℕ} (hc : Complete n k (h + 1)) : Complete n (2 * k + 1) h := by
  unfold Complete at hc ⊢
  have hpow : (k + 1) * 2 ^ (h + 1) = (2 * k + 1 + 1) * 2 ^ h := by ring
  rw [hpow] at hc
  exact hc

theorem Complete.mono {m n k h : ℕ} (hc : Complete m k h) (hmn : m ≤ n) : Complete n k h :=
  Nat.le_trans hc hmn

/-! ## The level of a position -/

/-- The level of the node numbered `p`, plus one, read off by descending from a mountain of `H`
levels that starts the range. -/
def heightIn : ℕ → ℕ → ℕ
  | 0, _ => 0
  | H + 1, p =>
    if p + 1 = 2 ^ (H + 1) then H + 1
    else if p < 2 ^ H then heightIn H p
    else heightIn H (p + 1 - 2 ^ H)

theorem heightIn_position {k h j : ℕ} (hk : k < 2 ^ j) :
    heightIn (h + 1 + j) (position k h) = h + 1 := by
  induction j generalizing k with
  | zero =>
    obtain rfl : k = 0 := by simpa using hk
    have hnode := position_add 0 h
    rw [ones_zero] at hnode
    rw [Nat.add_zero, heightIn, if_pos (by omega)]
  | succ j ih =>
    have hpow : 2 ^ (j + 1) = 2 * 2 ^ j := Nat.pow_succ'
    have hpow' : 2 ^ (h + 1 + j + 1) = 2 * 2 ^ (h + 1 + j) := Nat.pow_succ'
    show heightIn (h + 1 + j + 1) (position k h) = h + 1
    by_cases hleft : k < 2 ^ j
    · -- the node is in the left half
      have hlt := position_lt_two_pow (h := h) hleft
      rw [heightIn, if_neg (by omega), if_pos hlt, ih hleft]
    · -- the node is in the right half, at the same place
      obtain ⟨k', rfl⟩ := Nat.exists_eq_add_of_le (not_lt.mp hleft)
      have hk' : k' < 2 ^ j := by omega
      have hshift := position_two_pow_add (h := h) hk'
      have hlt := position_lt_two_pow (h := h) hk'
      have hpos := position_pos k' h
      have hsame : position (2 ^ j + k') h + 1 - 2 ^ (h + 1 + j) = position k' h := by omega
      rw [heightIn, if_neg (by omega), if_neg (by omega), hsame, ih hk']

/-- A larger mountain that starts the range gives the same levels. -/
theorem heightIn_succ {H p : ℕ} (hp : p < 2 ^ H) (hpos : 0 < p) :
    heightIn (H + 1) p = heightIn H p := by
  have hpow : 2 ^ (H + 1) = 2 * 2 ^ H := Nat.pow_succ'
  rw [heightIn, if_neg (by omega), if_pos hp]

theorem heightIn_of_le {H H' p : ℕ} (hp : p < 2 ^ H) (hpos : 0 < p) (hle : H ≤ H') :
    heightIn H' p = heightIn H p := by
  induction H', hle using Nat.le_induction with
  | base => rfl
  | succ H' hle ih =>
    have hlt : p < 2 ^ H' := hp.trans_le (Nat.pow_le_pow_right (by decide) hle)
    rw [heightIn_succ hlt hpos, ih]

/-- Every mountain that starts the range and reaches a node gives its level. -/
theorem heightIn_of_lt {k h H : ℕ} (hlt : position k h < 2 ^ H) :
    heightIn H (position k h) = h + 1 := by
  have hk : k < 2 ^ k := Nat.lt_two_pow_self
  have hheight := heightIn_position (h := h) hk
  rcases Nat.le_total H (h + 1 + k) with hle | hle
  · rw [← heightIn_of_le hlt (position_pos k h) hle, hheight]
  · rw [heightIn_of_le (position_lt_two_pow hk) (position_pos k h) hle, hheight]

/-- On the right edge of a mountain, a level is lost at each step to the left. -/
theorem heightIn_edge {H p : ℕ} (hlt : p < 2 ^ H) (hedge : 2 ^ H ≤ p + H) :
    heightIn H p + (2 ^ H - 1 - p) = H := by
  induction H generalizing p with
  | zero =>
    obtain rfl : p = 0 := by simpa using hlt
    rfl
  | succ H ih =>
    have hpow : 2 ^ (H + 1) = 2 * 2 ^ H := Nat.pow_succ'
    have hself : H < 2 ^ H := Nat.lt_two_pow_self
    rw [heightIn]
    split
    · next htop =>
      omega
    · next hbelow =>
      have hrest := ih (p := p + 1 - 2 ^ H) (by omega) (by omega)
      rw [if_neg (by omega)]
      omega

/-- Two nodes with one number are one node. -/
theorem position_inj {k h k' h' : ℕ} (heq : position k h = position k' h') : k = k' ∧ h = h' := by
  have hlt : position k h < 2 ^ position k h := Nat.lt_two_pow_self
  have hheight := heightIn_of_lt hlt
  have hheight' := heightIn_of_lt (heq ▸ hlt)
  rw [heq, hheight'] at hheight
  obtain rfl : h = h' := by omega
  have hmono := strictMono_nat_of_lt_succ fun k => position_lt_succ k h
  exact ⟨hmono.injective heq, rfl⟩

/-! ## The reference range -/

section Reference

variable {A N : Type} (leaf : ℕ → A → N) (branch : ℕ → N → N → N) (data : ℕ → A)

/-- The root of the mountain of level `h` over the leaves from `s` on, whose nodes are numbered
after `o` others. -/
def mountain : ℕ → ℕ → ℕ → N
  | 0, s, o => leaf (o + 1) (data s)
  | h + 1, s, o =>
    branch (o + (2 ^ (h + 2) - 1)) (mountain h s o)
      (mountain h (s + 2 ^ h) (o + (2 ^ (h + 1) - 1)))

/-- All its nodes in post-order. -/
def postorder : ℕ → ℕ → ℕ → List N
  | 0, s, o => [mountain leaf branch data 0 s o]
  | h + 1, s, o =>
    postorder h s o ++ postorder h (s + 2 ^ h) (o + (2 ^ (h + 1) - 1))
      ++ [mountain leaf branch data (h + 1) s o]

/-- The peaks of a range of `n < 2^H` leaves from `s` on, numbered after `o` nodes: one mountain for
each binary digit, the largest first. -/
def peaksFrom : ℕ → ℕ → ℕ → ℕ → List N
  | 0, _, _, _ => []
  | H + 1, n, s, o =>
    if 2 ^ H ≤ n then
      mountain leaf branch data H s o
        :: peaksFrom H (n - 2 ^ H) (s + 2 ^ H) (o + (2 ^ (H + 1) - 1))
    else peaksFrom H n s o

/-- All the nodes of that range, in post-order. -/
def nodesFrom : ℕ → ℕ → ℕ → ℕ → List N
  | 0, _, _, _ => []
  | H + 1, n, s, o =>
    if 2 ^ H ≤ n then
      postorder leaf branch data H s o
        ++ nodesFrom H (n - 2 ^ H) (s + 2 ^ H) (o + (2 ^ (H + 1) - 1))
    else nodesFrom H n s o

/-- The peaks of the range of the first `n` leaves. -/
def peaks (n : ℕ) : List N := peaksFrom leaf branch data n.size n 0 0

/-- The nodes of the range of the first `n` leaves: the node numbered `p` stands at `p - 1`. -/
def nodes (n : ℕ) : List N := nodesFrom leaf branch data n.size n 0 0

/-- The node of level `h` that covers the leaves from `k * 2^h` on. -/
def node (k h : ℕ) : N := mountain leaf branch data h (k * 2 ^ h) (treeSize (k * 2 ^ h))

@[simp] theorem node_zero (k : ℕ) :
    node leaf branch data k 0 = leaf (position k 0) (data k) := by
  simp [node, mountain, position]

theorem treeSize_right (k h : ℕ) :
    treeSize ((2 * k + 1) * 2 ^ h) = treeSize (2 * k * 2 ^ h) + (2 ^ (h + 1) - 1) := by
  have hright := position_right k h
  have hleft := position_left k h
  have hpos := two_pow_pos (h + 1)
  unfold position at hright hleft
  omega

theorem node_succ (k h : ℕ) : node leaf branch data k (h + 1)
    = branch (position k (h + 1)) (node leaf branch data (2 * k) h)
      (node leaf branch data (2 * k + 1) h) := by
  have hstart : k * 2 ^ (h + 1) = 2 * k * 2 ^ h := by ring
  have hnext : 2 * k * 2 ^ h + 2 ^ h = (2 * k + 1) * 2 ^ h := by ring
  have hposition : position k (h + 1) = treeSize (2 * k * 2 ^ h) + (2 ^ (h + 2) - 1) := by
    rw [position, hstart]
  rw [hposition, node, mountain, hstart, hnext, ← treeSize_right k h]
  rfl

/-- A mountain looks only at the leaves it covers. -/
theorem mountain_congr {data data' : ℕ → A} {h s o n : ℕ} (hn : s + 2 ^ h ≤ n)
    (heq : ∀ i < n, data i = data' i) :
    mountain leaf branch data h s o = mountain leaf branch data' h s o := by
  induction h generalizing s o with
  | zero => rw [mountain, mountain, heq s (by omega)]
  | succ h ih =>
    have hpow : 2 ^ (h + 1) = 2 * 2 ^ h := Nat.pow_succ'
    rw [mountain, mountain, ih (by omega), ih (by omega)]

theorem node_congr {data data' : ℕ → A} {n k h : ℕ} (hc : Complete n k h)
    (heq : ∀ i < n, data i = data' i) :
    node leaf branch data k h = node leaf branch data' k h := by
  refine mountain_congr leaf branch ?_ heq
  have hend : (k + 1) * 2 ^ h = k * 2 ^ h + 2 ^ h := by ring
  unfold Complete at hc
  omega

/-! ### Nodes in post-order -/

theorem postorder_length (h s o : ℕ) :
    (postorder leaf branch data h s o).length = 2 ^ (h + 1) - 1 := by
  induction h generalizing s o with
  | zero => rfl
  | succ h ih =>
    have hpow : 2 ^ (h + 1 + 1) = 2 * 2 ^ (h + 1) := Nat.pow_succ'
    have hpos := two_pow_pos (h + 1)
    rw [postorder, List.length_append, List.length_append, ih, ih, List.length_singleton]
    omega

/-- The nodes of a mountain, in the order of their numbers. -/
theorem postorder_get (h k i : ℕ) (hi : i < 2 ^ (h + 1) - 1) :
    ∃ k' h', Complete ((k + 1) * 2 ^ h) k' h' ∧ position k' h' = treeSize (k * 2 ^ h) + i + 1 ∧
      (postorder leaf branch data h (k * 2 ^ h) (treeSize (k * 2 ^ h)))[i]?
        = some (node leaf branch data k' h') := by
  induction h generalizing k i with
  | zero =>
    obtain rfl : i = 0 := by omega
    exact ⟨k, 0, le_rfl, rfl, rfl⟩
  | succ h ih =>
    have hstart : k * 2 ^ (h + 1) = 2 * k * 2 ^ h := by ring
    have hmiddle : 2 * k * 2 ^ h + 2 ^ h = (2 * k + 1) * 2 ^ h := by ring
    have hend : (k + 1) * 2 ^ (h + 1) = (2 * k + 1 + 1) * 2 ^ h := by ring
    have hright := treeSize_right k h
    have hpow : 2 ^ (h + 1 + 1) = 2 * 2 ^ (h + 1) := Nat.pow_succ'
    have hlength := postorder_length leaf branch data h
    rw [postorder, hstart, hmiddle, ← hright, List.append_assoc]
    by_cases hleft : i < 2 ^ (h + 1) - 1
    · obtain ⟨k', h', hcomplete, hposition, hget⟩ := ih (2 * k) i hleft
      refine ⟨k', h', hcomplete.mono ?_, hposition, ?_⟩
      · rw [hend]
        exact Nat.mul_le_mul_right _ (by omega)
      · rw [List.getElem?_append_left (by rw [hlength]; exact hleft)]
        exact hget
    · rw [List.getElem?_append_right (by rw [hlength]; omega), hlength]
      by_cases hmid : i - (2 ^ (h + 1) - 1) < 2 ^ (h + 1) - 1
      · obtain ⟨k', h', hcomplete, hposition, hget⟩ := ih (2 * k + 1) _ hmid
        refine ⟨k', h', hend ▸ hcomplete, ?_, ?_⟩
        · omega
        · rw [List.getElem?_append_left (by rw [hlength]; exact hmid)]
          exact hget
      · -- the last one is the root of the mountain
        have hlast : i - (2 ^ (h + 1) - 1) = 2 ^ (h + 1) - 1 := by omega
        refine ⟨k, h + 1, le_rfl, ?_, ?_⟩
        · rw [position, hstart]
          omega
        · rw [hlast, List.getElem?_append_right (by rw [hlength]), hlength, Nat.sub_self, ← hstart]
          rfl

/-- What the low digits of `s + n` add, when `s` is a multiple of `2^H`. -/
theorem nodesFrom_length (H n q : ℕ) (hn : n < 2 ^ H) (o : ℕ) :
    (nodesFrom leaf branch data H n (q * 2 ^ H) o).length + treeSize (q * 2 ^ H)
      = treeSize (q * 2 ^ H + n) := by
  induction H generalizing n q o with
  | zero =>
    obtain rfl : n = 0 := by simpa using hn
    simp [nodesFrom]
  | succ H ih =>
    have hstart : q * 2 ^ (H + 1) = 2 * q * 2 ^ H := by ring
    have hpow : 2 ^ (H + 1) = 2 * 2 ^ H := Nat.pow_succ'
    rw [nodesFrom, hstart]
    split
    · next hbit =>
      have hmiddle : 2 * q * 2 ^ H + 2 ^ H = (2 * q + 1) * 2 ^ H := by ring
      have hrest := ih (n - 2 ^ H) (2 * q + 1) (by omega) (o + (2 ^ (H + 1) - 1))
      have hsum : (2 * q + 1) * 2 ^ H + (n - 2 ^ H) = 2 * q * 2 ^ H + n := by omega
      have hright := treeSize_right q H
      rw [List.length_append, postorder_length, hmiddle]
      rw [hsum] at hrest
      omega
    · exact ih n (2 * q) (by omega) o

theorem nodesFrom_get (H n q i : ℕ) (hn : n < 2 ^ H)
    (hi : i + treeSize (q * 2 ^ H) < treeSize (q * 2 ^ H + n)) :
    ∃ k h, Complete (q * 2 ^ H + n) k h ∧ position k h = treeSize (q * 2 ^ H) + i + 1 ∧
      (nodesFrom leaf branch data H n (q * 2 ^ H) (treeSize (q * 2 ^ H)))[i]?
        = some (node leaf branch data k h) := by
  induction H generalizing n q i with
  | zero =>
    obtain rfl : n = 0 := by simpa using hn
    rw [Nat.add_zero] at hi
    omega
  | succ H ih =>
    have hstart : q * 2 ^ (H + 1) = 2 * q * 2 ^ H := by ring
    have hpow : 2 ^ (H + 1) = 2 * 2 ^ H := Nat.pow_succ'
    rw [hstart] at hi ⊢
    rw [nodesFrom]
    split
    · next hbit =>
      have hmiddle : 2 * q * 2 ^ H + 2 ^ H = (2 * q + 1) * 2 ^ H := by ring
      have hsum : (2 * q + 1) * 2 ^ H + (n - 2 ^ H) = 2 * q * 2 ^ H + n := by omega
      have hright := treeSize_right q H
      have hlength := postorder_length leaf branch data H
      rw [hmiddle, ← hright]
      by_cases hleft : i < 2 ^ (H + 1) - 1
      · obtain ⟨k, h, hcomplete, hposition, hget⟩ :=
          postorder_get leaf branch data H (2 * q) i hleft
        refine ⟨k, h, hcomplete.mono (by omega), hposition, ?_⟩
        rw [List.getElem?_append_left (by rw [hlength]; exact hleft)]
        exact hget
      · obtain ⟨k, h, hcomplete, hposition, hget⟩ :=
          ih (n - 2 ^ H) (2 * q + 1) (i - (2 ^ (H + 1) - 1)) (by omega) (by rw [hsum]; omega)
        refine ⟨k, h, hsum ▸ hcomplete, by omega, ?_⟩
        rw [List.getElem?_append_right (by rw [hlength]; omega), hlength]
        exact hget
    · exact ih n (2 * q) i (by omega) hi

theorem nodes_length (n : ℕ) : (nodes leaf branch data n).length = treeSize n := by
  have hlength := nodesFrom_length leaf branch data n.size n 0 (Nat.lt_size_self n) 0
  rw [Nat.zero_mul, treeSize_zero, Nat.zero_add] at hlength
  exact hlength

/-- Every number up to the size is that of a node within the range, and the node stands there. -/
theorem nodes_get {n i : ℕ} (hi : i < treeSize n) :
    ∃ k h, Complete n k h ∧ position k h = i + 1 ∧
      (nodes leaf branch data n)[i]? = some (node leaf branch data k h) := by
  have hget := nodesFrom_get leaf branch data n.size n 0 i (Nat.lt_size_self n)
  simp only [Nat.zero_mul, treeSize_zero, Nat.zero_add, Nat.add_zero] at hget
  exact hget hi

theorem nodes_position {n k h : ℕ} (hc : Complete n k h) :
    (nodes leaf branch data n)[position k h - 1]? = some (node leaf branch data k h) := by
  have hle := hc.position_le
  have hpos := position_pos k h
  obtain ⟨k', h', -, hposition, hget⟩ :=
    nodes_get leaf branch data (n := n) (i := position k h - 1) (by omega)
  have heq : position k' h' = position k h := by omega
  obtain ⟨rfl, rfl⟩ := position_inj heq
  exact hget

end Reference

/-! ## Peaks -/

/-- The peaks of a range of `n` leaves below the digit `H`, as nodes. -/
def peaksBelow (n : ℕ) : ℕ → List (ℕ × ℕ)
  | 0 => []
  | i + 1 => if n / 2 ^ i % 2 = 1 then (n / 2 ^ i - 1, i) :: peaksBelow n i else peaksBelow n i

/-- The peaks of a range of `n` leaves, as nodes. -/
def peakNodes (n : ℕ) : List (ℕ × ℕ) := peaksBelow n n.size

theorem peaksFrom_eq {A N : Type} (leaf : ℕ → A → N) (branch : ℕ → N → N → N) (data : ℕ → A)
    (H n q : ℕ) (hn : n < 2 ^ H) :
    peaksFrom leaf branch data H n (q * 2 ^ H) (treeSize (q * 2 ^ H))
      = (peaksBelow (q * 2 ^ H + n) H).map fun p => node leaf branch data p.1 p.2 := by
  induction H generalizing n q with
  | zero => rfl
  | succ H ih =>
    have hstart : q * 2 ^ (H + 1) = 2 * q * 2 ^ H := by ring
    have hpow : 2 ^ (H + 1) = 2 * 2 ^ H := Nat.pow_succ'
    have hdiv : (2 * q * 2 ^ H + n) / 2 ^ H = 2 * q + n / 2 ^ H := by
      rw [Nat.add_comm, Nat.add_mul_div_right _ _ (two_pow_pos H), Nat.add_comm]
    rw [peaksFrom, peaksBelow, hstart, hdiv]
    by_cases hbit : 2 ^ H ≤ n
    · have hone : n / 2 ^ H = 1 := by
        rw [Nat.div_eq_iff (two_pow_pos H)]
        omega
      have hmiddle : 2 * q * 2 ^ H + 2 ^ H = (2 * q + 1) * 2 ^ H := by ring
      have hsum : (2 * q + 1) * 2 ^ H + (n - 2 ^ H) = 2 * q * 2 ^ H + n := by omega
      rw [if_pos hbit, hone, if_pos (by omega), List.map_cons, Nat.add_sub_cancel, hmiddle,
        ← treeSize_right q H, ih _ _ (by omega), hsum]
      rfl
    · have hzero : n / 2 ^ H = 0 := Nat.div_eq_of_lt (not_le.mp hbit)
      rw [if_neg hbit, hzero, if_neg (by omega), ih _ _ (not_le.mp hbit)]

theorem peaks_eq {A N : Type} (leaf : ℕ → A → N) (branch : ℕ → N → N → N) (data : ℕ → A)
    (n : ℕ) : peaks leaf branch data n
      = (peakNodes n).map fun p => node leaf branch data p.1 p.2 := by
  have heq := peaksFrom_eq leaf branch data n.size n 0 (Nat.lt_size_self n)
  rw [Nat.zero_mul, treeSize_zero, Nat.zero_add] at heq
  exact heq

/-- A peak is a node whose sibling's subtree the range does not reach. -/
theorem mem_peaksBelow {n H k h : ℕ} :
    (k, h) ∈ peaksBelow n H ↔ h < H ∧ n / 2 ^ h % 2 = 1 ∧ k = n / 2 ^ h - 1 := by
  induction H with
  | zero => simp [peaksBelow]
  | succ H ih =>
    rw [peaksBelow]
    split
    · next hbit =>
      rw [List.mem_cons, ih, Prod.mk.injEq]
      constructor
      · rintro (⟨rfl, rfl⟩ | ⟨hlt, hrest⟩)
        · exact ⟨by omega, hbit, rfl⟩
        · exact ⟨by omega, hrest⟩
      · rintro ⟨hlt, hodd, hk⟩
        by_cases heq : h = H
        · subst heq
          exact .inl ⟨hk, rfl⟩
        · exact .inr ⟨by omega, hodd, hk⟩
    · next hbit =>
      rw [ih]
      constructor
      · rintro ⟨hlt, hrest⟩
        exact ⟨by omega, hrest⟩
      · rintro ⟨hlt, hodd, hk⟩
        refine ⟨?_, hodd, hk⟩
        by_contra hge
        obtain rfl : h = H := by omega
        exact hbit hodd

theorem complete_of_mem_peakNodes {n k h : ℕ} (hmem : (k, h) ∈ peakNodes n) : Complete n k h := by
  obtain ⟨-, hodd, rfl⟩ := mem_peaksBelow.mp hmem
  have hodd_pos : ∀ m : ℕ, m % 2 = 1 → m - 1 + 1 = m := by
    intro m hm
    omega
  rw [Complete, hodd_pos _ hodd]
  exact Nat.div_mul_le_self n (2 ^ h)

/-- A node of the range is a peak, or its parent is a node of the range. -/
theorem Complete.peak_or_parent {n k h : ℕ} (hc : Complete n k h) :
    (k, h) ∈ peakNodes n ∨ Complete n (k / 2) (h + 1) := by
  by_cases hparent : Complete n (k / 2) (h + 1)
  · exact .inr hparent
  · refine .inl (mem_peaksBelow.mpr ?_)
    have hpow : (k / 2 + 1) * 2 ^ (h + 1) = (2 * (k / 2) + 2) * 2 ^ h := by ring
    unfold Complete at hc hparent
    rw [hpow, not_le] at hparent
    have hdiv : n / 2 ^ h = k + 1 := by
      have hlow : k + 1 ≤ n / 2 ^ h := (Nat.le_div_iff_mul_le (two_pow_pos h)).mpr hc
      have hhigh : n / 2 ^ h < 2 * (k / 2) + 2 := (Nat.div_lt_iff_lt_mul (two_pow_pos h)).mpr hparent
      omega
    have hodd : n / 2 ^ h % 2 = 1 := by
      have hhigh : n / 2 ^ h < 2 * (k / 2) + 2 := (Nat.div_lt_iff_lt_mul (two_pow_pos h)).mpr hparent
      omega
    refine ⟨Nat.lt_size.mpr ?_, hodd, by omega⟩
    calc 2 ^ h ≤ (k + 1) * 2 ^ h := Nat.le_mul_of_pos_left _ (Nat.succ_pos k)
      _ ≤ n := hc

/-- What the peaks have and parents hand to their children, every node of the range has. -/
theorem Complete.induction {n : ℕ} {P : ℕ → ℕ → Prop}
    (peak : ∀ k h, (k, h) ∈ peakNodes n → P k h)
    (children : ∀ k h, Complete n k (h + 1) → P k (h + 1) → P (2 * k) h ∧ P (2 * k + 1) h)
    {k h : ℕ} (hc : Complete n k h) : P k h := by
  have hlevel : h ≤ n := by
    have hlt : h < 2 ^ h := Nat.lt_two_pow_self
    have hle : 2 ^ h ≤ (k + 1) * 2 ^ h := Nat.le_mul_of_pos_left _ (Nat.succ_pos k)
    have hn : (k + 1) * 2 ^ h ≤ n := hc
    omega
  induction hd : n - h generalizing k h with
  | zero =>
    rcases hc.peak_or_parent with hmem | hparent
    · exact peak k h hmem
    · -- the parent would be above every level of the range
      have hlt : h + 1 < 2 ^ (h + 1) := Nat.lt_two_pow_self
      have hle : 2 ^ (h + 1) ≤ (k / 2 + 1) * 2 ^ (h + 1) :=
        Nat.le_mul_of_pos_left _ (Nat.succ_pos _)
      have hn : (k / 2 + 1) * 2 ^ (h + 1) ≤ n := hparent
      omega
  | succ d ih =>
    rcases hc.peak_or_parent with hmem | hparent
    · exact peak k h hmem
    · have hboth := children _ _ hparent (ih hparent (by omega) (by omega))
      rcases Nat.even_or_odd' k with ⟨m, rfl | rfl⟩
      · rw [Nat.mul_div_cancel_left m (by decide)] at hboth
        exact hboth.1
      · have hhalf : (2 * m + 1) / 2 = m := by omega
        rw [hhalf] at hboth
        exact hboth.2

/-! ## The mountain over a leaf -/

/-- One level up from the node over a leaf. -/
theorem div_two_pow_succ (i h : ℕ) : i / 2 ^ (h + 1) = i / 2 ^ h / 2 := by
  rw [Nat.pow_succ, Nat.div_div_eq_div_mul]

/-- A node comes before its parent. -/
theorem position_lt_parent (k h : ℕ) : position k h < position (k / 2) (h + 1) := by
  have hleft := position_left (k / 2) h
  have hright := position_right (k / 2) h
  have hpos := two_pow_pos (h + 1)
  obtain heven | hodd := Nat.mod_two_eq_zero_or_one k
  · have hchild : 2 * (k / 2) = k := by omega
    rw [hchild] at hleft
    omega
  · have hchild : 2 * (k / 2) + 1 = k := by omega
    rw [hchild] at hright
    omega

/-- The nodes over a leaf come after it. -/
theorem position_le_ancestor (i h : ℕ) : position i 0 ≤ position (i / 2 ^ h) h := by
  induction h with
  | zero => rw [Nat.pow_zero, Nat.div_one]
  | succ h ih =>
    have hparent := position_lt_parent (i / 2 ^ h) h
    rw [div_two_pow_succ]
    omega

/-- A leaf comes before a node exactly if it lies before the end of the node's subtree. -/
theorem position_le_iff {i k h : ℕ} : position i 0 ≤ position k h ↔ i < (k + 1) * 2 ^ h := by
  constructor
  · intro hle
    by_contra hge
    have hc : Complete i k h := not_lt.mp hge
    have hbefore := hc.position_le
    have hleaf : position i 0 = treeSize i + 1 := by simp [position]
    omega
  · intro hlt
    have hdiv : i / 2 ^ h < k + 1 := (Nat.div_lt_iff_lt_mul (two_pow_pos h)).mpr hlt
    exact (position_le_ancestor i h).trans (position_mono h (by omega))

theorem peaksBelow_split {n i : ℕ} (hi : i < n) {H : ℕ} (hbelow : n / 2 ^ H * 2 ^ H ≤ i) :
    ∃ before after h, peaksBelow n H = before ++ (i / 2 ^ h, h) :: after ∧
      ∀ p ∈ before, position p.1 p.2 < position i 0 := by
  induction H with
  | zero =>
    rw [Nat.pow_zero, Nat.div_one, Nat.mul_one] at hbelow
    omega
  | succ H ih =>
    rw [peaksBelow]
    have hdiv := div_two_pow_succ n H
    have hpow : 2 ^ (H + 1) = 2 * 2 ^ H := Nat.pow_succ'
    rw [hdiv, hpow, ← Nat.mul_assoc, Nat.mul_comm _ 2] at hbelow
    split
    · next hbit =>
      have hq : 2 * (n / 2 ^ H / 2) = n / 2 ^ H - 1 := by omega
      rw [hq] at hbelow
      by_cases hcovered : i < n / 2 ^ H * 2 ^ H
      · -- this peak is over the leaf
        have hk : i / 2 ^ H = n / 2 ^ H - 1 := by
          have hlow : n / 2 ^ H - 1 ≤ i / 2 ^ H := (Nat.le_div_iff_mul_le (two_pow_pos H)).mpr hbelow
          have hhigh : i / 2 ^ H < n / 2 ^ H := (Nat.div_lt_iff_lt_mul (two_pow_pos H)).mpr hcovered
          omega
        refine ⟨[], peaksBelow n H, H, ?_, ?_⟩
        · rw [hk, List.nil_append]
        · intro p hmem
          cases hmem
      · obtain ⟨before, after, h, heq, hbefore⟩ := ih (not_lt.mp hcovered)
        refine ⟨(n / 2 ^ H - 1, H) :: before, after, h, by rw [heq]; rfl, fun p hmem => ?_⟩
        rcases List.mem_cons.mp hmem with rfl | hmem
        · have hnext : n / 2 ^ H - 1 + 1 = n / 2 ^ H := by omega
          rw [← not_le, position_le_iff, hnext]
          exact hcovered
        · exact hbefore p hmem
    · next hbit =>
      have hq : 2 * (n / 2 ^ H / 2) = n / 2 ^ H := by omega
      rw [hq] at hbelow
      exact ih hbelow

/-- The first peak from a leaf on is the one over it. -/
theorem peakNodes_split {n i : ℕ} (hi : i < n) :
    ∃ before after h, peakNodes n = before ++ (i / 2 ^ h, h) :: after ∧
      ∀ p ∈ before, position p.1 p.2 < position i 0 := by
  refine peaksBelow_split hi ?_
  rw [Nat.div_eq_of_lt (Nat.lt_size_self n), Nat.zero_mul]
  exact Nat.zero_le i

/-- The other child of a node's parent. -/
def sibling (k : ℕ) : ℕ := if k % 2 = 0 then k + 1 else k - 1

@[simp] theorem sibling_two_mul (k : ℕ) : sibling (2 * k) = 2 * k + 1 := by
  rw [sibling, if_pos (Nat.mul_mod_right 2 k)]

@[simp] theorem sibling_two_mul_add_one (k : ℕ) : sibling (2 * k + 1) = 2 * k := by
  rw [sibling, if_neg (by omega), Nat.add_sub_cancel]

/-- The siblings on the way up from a leaf to a node of the range are nodes of the range. -/
theorem Complete.sibling {n i h j : ℕ} (hc : Complete n (i / 2 ^ h) h) (hj : j < h) :
    Complete n (sibling (i / 2 ^ j)) j := by
  induction h with
  | zero => omega
  | succ h ih =>
    rw [div_two_pow_succ] at hc
    obtain heven | hodd := Nat.mod_two_eq_zero_or_one (i / 2 ^ h)
    · have hchild : 2 * (i / 2 ^ h / 2) = i / 2 ^ h := by omega
      by_cases hlast : j = h
      · have hright := hc.right
        rw [← sibling_two_mul, hchild] at hright
        exact hlast ▸ hright
      · exact ih (hchild ▸ hc.left) (by omega)
    · have hchild : 2 * (i / 2 ^ h / 2) + 1 = i / 2 ^ h := by omega
      by_cases hlast : j = h
      · have hleft := hc.left
        rw [← sibling_two_mul_add_one, hchild] at hleft
        exact hlast ▸ hleft
      · exact ih (hchild ▸ hc.right) (by omega)

end MountainRange
end ContractLib
