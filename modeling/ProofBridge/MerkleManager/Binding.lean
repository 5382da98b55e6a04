import ProofBridge.MerkleManager.Model

/-!
# What a root commits to

Collision freedom is asked of Poseidon2 only on what the histories at hand hash: the nodes, the folds
of the peaks and the root. There a root determines its size, the size the layout of the peaks, the
fold its peaks, and each node its children down to the leaves.
-/

namespace ProofBridge
namespace MerkleManager

open ContractLib ContractLib.MountainRange

section Inputs

variable (poseidon2 : List BytesN32 → BytesN32)

/-- What a node of a history is the hash of. -/
def nodeInputs (xs : List BytesN32) (k : ℕ) : ℕ → List BytesN32
  | 0 => leafInputs (position k 0) (fieldMod (dataOf xs k))
  | h + 1 => branchInputs (position k (h + 1)) (refNode poseidon2 xs (2 * k) h)
    (refNode poseidon2 xs (2 * k + 1) h)

/-- What folding peaks hashes. -/
def foldInputs : BytesN32 → List BytesN32 → List (List BytesN32)
  | _, [] => []
  | acc, peak :: rest => [acc, peak] :: foldInputs (poseidon2 [acc, peak]) rest

/-- What bagging peaks hashes, the root included. -/
def baggingInputs (size : ℕ) : List BytesN32 → List (List BytesN32)
  | [] => []
  | first :: rest =>
    rootInputs size (foldPeaks poseidon2 first rest) :: foldInputs poseidon2 first rest

/-- Everything that is hashed for the range over a history. -/
def hashed (xs : List BytesN32) : Set (List BytesN32) :=
  {inputs | (∃ k h, Complete xs.length k h ∧ inputs = nodeInputs poseidon2 xs k h) ∨
    inputs ∈ baggingInputs poseidon2 (treeSize xs.length) (refPeaks poseidon2 xs)}

/-- The root over the peaks of a range of the given size. -/
def bag (size : ℕ) : List BytesN32 → BytesN32
  | [] => 0
  | first :: rest => poseidon2 (rootInputs size (foldPeaks poseidon2 first rest))

end Inputs

variable {poseidon2 : List BytesN32 → BytesN32} {xs ys : List BytesN32} {k h : ℕ}
  {S : Set (List BytesN32)}

theorem refNode_eq (xs : List BytesN32) (k h : ℕ) :
    refNode poseidon2 xs k h = poseidon2 (nodeInputs poseidon2 xs k h) := by
  cases h with
  | zero => exact refNode_zero xs k
  | succ h => exact refNode_succ xs k h

theorem nodeInputs_hashed (hc : Complete xs.length k h) :
    nodeInputs poseidon2 xs k h ∈ hashed poseidon2 xs :=
  .inl ⟨k, h, hc, rfl⟩

theorem refRoot_eq (xs : List BytesN32) :
    refRoot poseidon2 xs = bag poseidon2 (treeSize xs.length) (refPeaks poseidon2 xs) := by
  have hlength : (refNodes poseidon2 xs).length = treeSize xs.length := refNodes_length xs
  rw [← hlength]
  unfold refRoot bag
  cases refPeaks poseidon2 xs with
  | nil => rfl
  | cons first rest => rfl

theorem refPeaks_length (xs : List BytesN32) :
    (refPeaks poseidon2 xs).length = ones xs.length := by
  rw [refPeaks_eq, List.length_map, peakNodes_length]

theorem refPeaks_ne_nil (hne : xs ≠ []) : refPeaks poseidon2 xs ≠ [] := by
  intro hnil
  have hlength : (refPeaks poseidon2 xs).length = ones xs.length := refPeaks_length xs
  have hpos := ones_pos (List.length_pos_of_ne_nil hne)
  rw [hnil, List.length_nil] at hlength
  omega

/-! ## Folds -/

/-- Two folds over equally many peaks agree only if they start alike and fold the same peaks. -/
theorem foldPeaks_inj {acc acc' : BytesN32} {peaks peaks' : List BytesN32}
    (hinj : Set.InjOn poseidon2 S) (hin : ∀ inputs ∈ foldInputs poseidon2 acc peaks, inputs ∈ S)
    (hin' : ∀ inputs ∈ foldInputs poseidon2 acc' peaks', inputs ∈ S)
    (hlength : peaks.length = peaks'.length)
    (heq : foldPeaks poseidon2 acc peaks = foldPeaks poseidon2 acc' peaks') :
    acc = acc' ∧ peaks = peaks' := by
  induction peaks generalizing acc acc' peaks' with
  | nil =>
    obtain rfl : peaks' = [] := List.length_eq_zero_iff.mp hlength.symm
    exact ⟨heq, rfl⟩
  | cons peak peaks ih =>
    cases peaks' with
    | nil => cases hlength
    | cons peak' peaks' =>
      obtain ⟨hfirst, rfl⟩ := ih
        (fun inputs hmem => hin inputs (List.mem_cons_of_mem _ hmem))
        (fun inputs hmem => hin' inputs (List.mem_cons_of_mem _ hmem))
        (Nat.succ.inj hlength) heq
      have hpair := hinj (hin _ List.mem_cons_self) (hin' _ List.mem_cons_self) hfirst
      cases hpair
      exact ⟨rfl, rfl⟩

theorem ofNat_inj {m n : ℕ} (hm : m < 2 ^ 256) (hn : n < 2 ^ 256)
    (heq : BitVec.ofNat 256 m = BitVec.ofNat 256 n) : m = n := by
  have hnat := congrArg BitVec.toNat heq
  rw [BitVec.toNat_ofNat, BitVec.toNat_ofNat, Nat.mod_eq_of_lt hm, Nat.mod_eq_of_lt hn] at hnat
  exact hnat

/-- Two roots agree only if they bind the same size, and then, over equally many peaks, the same
peaks. -/
theorem bag_inj {size size' : ℕ} {peaks peaks' : List BytesN32} (hinj : Set.InjOn poseidon2 S)
    (hin : ∀ inputs ∈ baggingInputs poseidon2 size peaks, inputs ∈ S)
    (hin' : ∀ inputs ∈ baggingInputs poseidon2 size' peaks', inputs ∈ S)
    (hne : peaks ≠ []) (hne' : peaks' ≠ []) (hsize : size < 2 ^ 256) (hsize' : size' < 2 ^ 256)
    (heq : bag poseidon2 size peaks = bag poseidon2 size' peaks') :
    size = size' ∧ (peaks.length = peaks'.length → peaks = peaks') := by
  cases peaks with
  | nil => exact absurd rfl hne
  | cons first rest =>
    cases peaks' with
    | nil => exact absurd rfl hne'
    | cons first' rest' =>
      have hroot := hinj (hin _ List.mem_cons_self) (hin' _ List.mem_cons_self) heq
      unfold rootInputs at hroot
      rw [List.cons.injEq, List.cons.injEq, List.cons.injEq] at hroot
      obtain ⟨-, hsizes, hfold, -⟩ := hroot
      refine ⟨ofNat_inj hsize hsize' hsizes, fun hlength => ?_⟩
      obtain ⟨rfl, rfl⟩ := foldPeaks_inj hinj
        (fun inputs hmem => hin inputs (List.mem_cons_of_mem _ hmem))
        (fun inputs hmem => hin' inputs (List.mem_cons_of_mem _ hmem))
        (Nat.succ.inj hlength) hfold
      rfl

theorem treeSize_lt {n : ℕ} (hn : n < 2 ^ 127) : treeSize n < 2 ^ 256 := by
  have hsize := treeSize_add_ones n
  omega

/-! ## Roots -/

/-- What the range over two leaves hashes, listed. -/
def hashedTwo (poseidon2 : List BytesN32 → BytesN32) (xs : List BytesN32) : List (List BytesN32) :=
  [nodeInputs poseidon2 xs 0 0, nodeInputs poseidon2 xs 1 0, nodeInputs poseidon2 xs 0 1]
    ++ baggingInputs poseidon2 (treeSize xs.length) (refPeaks poseidon2 xs)

theorem mem_hashedTwo (hlength : xs.length = 2) {inputs : List BytesN32}
    (hmem : inputs ∈ hashed poseidon2 xs) : inputs ∈ hashedTwo poseidon2 xs := by
  rcases hmem with ⟨k, h, hc, rfl⟩ | hbag
  · rw [hlength] at hc
    refine List.mem_append_left _ ?_
    obtain ⟨rfl, rfl⟩ | ⟨rfl, rfl⟩ | ⟨rfl, rfl⟩ := complete_two hc
    · simp
    · simp
    · simp
  · exact List.mem_append_right _ hbag

end MerkleManager
end ProofBridge
