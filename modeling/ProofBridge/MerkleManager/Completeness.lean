import ProofBridge.MerkleManager.Inclusion

/-!
# Every leaf has a proof

The prover descends from the peak over a leaf by comparing indexes, and the verifier walks the same
way: both pass, at level `j`, the node over the leaf and read its sibling. Every node of the range is
stored, so what the prover reads is the reference's, and hashing back up gives the peak.
-/

namespace ProofBridge
namespace MerkleManager

open ContractLib ContractLib.MountainRange

variable {poseidon2 : List BytesN32 → BytesN32} {xs : List BytesN32} {t : Tree} {k m : ℕ}
  {siblings : List BytesN32} {path : List ℕ}

/-! ## The way from a peak to a leaf -/

/-- A leaf is under the left child exactly if its ancestor there is even. -/
theorem under_left (k m : ℕ) :
    position k 0 ≤ position (2 * (k / 2 ^ (m + 1))) m ↔ k / 2 ^ m % 2 = 0 := by
  rw [position_le_iff, ← Nat.div_lt_iff_lt_mul (two_pow_pos m), div_two_pow_succ]
  omega

/-- The child both walks go to is the node over the leaf. -/
theorem next_eq (k m : ℕ) :
    (if position k 0 ≤ position (2 * (k / 2 ^ (m + 1))) m
      then position (2 * (k / 2 ^ (m + 1))) m else position (2 * (k / 2 ^ (m + 1)) + 1) m)
    = position (k / 2 ^ m) m := by
  have hdiv := div_two_pow_succ k m
  split
  · next hle =>
    have heven := (under_left k m).mp hle
    congr 1
    omega
  · next hgt =>
    have hodd := mt (under_left k m).mpr hgt
    congr 1
    omega

/-- The child they leave aside is its sibling. -/
theorem sibling_eq (k m : ℕ) :
    (if position k 0 ≤ position (2 * (k / 2 ^ (m + 1))) m
      then position (2 * (k / 2 ^ (m + 1)) + 1) m else position (2 * (k / 2 ^ (m + 1))) m)
    = position (sibling (k / 2 ^ m)) m := by
  have hdiv := div_two_pow_succ k m
  unfold sibling
  split
  · next hle =>
    have heven := (under_left k m).mp hle
    rw [if_pos heven]
    congr 1
    omega
  · next hgt =>
    have hodd := mt (under_left k m).mpr hgt
    rw [if_neg hodd]
    congr 1
    omega

/-- Above the leaves the walks have not arrived. -/
theorem above_leaf (k m : ℕ) : position (k / 2 ^ (m + 1)) (m + 1) ≠ position k 0 := by
  intro heq
  have hlevel := (position_inj heq).2
  omega

theorem limit_below (hlimit : position (k / 2 ^ (m + 1)) (m + 1) < INDEX_LIMIT) :
    position (k / 2 ^ m) m < INDEX_LIMIT := by
  have hparent := position_lt_parent (k / 2 ^ m) m
  rw [← div_two_pow_succ] at hparent
  omega

/-- The prover's descent records the sibling of each level. -/
theorem descend_eq (hlimit : position (k / 2 ^ m) m < INDEX_LIMIT) (hlength : m ≤ siblings.length) :
    ∃ s, descend t (position k 0) (m + 1) (position (k / 2 ^ m) m) siblings = .ok s ∧
      ∀ j, s[j]? = if j < m then some (t.nodeHash (position (sibling (k / 2 ^ j)) j))
        else siblings[j]? := by
  induction m generalizing siblings with
  | zero =>
    refine ⟨siblings, ?_, fun j => by rw [if_neg (Nat.not_lt_zero j)]⟩
    rw [descend, if_pos (by rw [Nat.pow_zero, Nat.div_one])]
  | succ m ih =>
    have hwritten : m ≤
        (siblings.set m (t.nodeHash (position (sibling (k / 2 ^ m)) m))).length := by
      rw [List.length_set]
      omega
    obtain ⟨s, hs, hget⟩ := ih (limit_below hlimit) hwritten
    refine ⟨s, ?_, fun j => ?_⟩
    · rw [descend, if_neg (above_leaf k m), getChildren_branch hlimit, Check.ok_bind,
        sub_of_le (by omega), Check.ok_bind, Nat.add_sub_cancel, demand_of (by omega),
        Check.ok_bind]
      simp only [next_eq, sibling_eq]
      exact hs
    · rw [hget j]
      by_cases hlast : j = m
      · rw [if_neg (by omega), if_pos (by omega), hlast, List.getElem?_set_self (by omega)]
      · rw [List.getElem?_set_ne (by omega)]
        by_cases hbelow : j < m
        · rw [if_pos hbelow, if_pos (by omega)]
        · rw [if_neg hbelow, if_neg (by omega)]

/-- The verifier's walk down passes the node over the leaf at each level. -/
theorem walkDown_eq (hlimit : position (k / 2 ^ m) m < INDEX_LIMIT) (hlength : m < path.length) :
    ∃ p, walkDown (position k 0) (m + 1) (position (k / 2 ^ m) m) path = .ok (0, p) ∧
      ∀ j, p[j]? = if j ≤ m then some (position (k / 2 ^ j) j) else path[j]? := by
  induction m generalizing path with
  | zero =>
    rw [walkDown, if_pos (by rw [Nat.pow_zero, Nat.div_one])]
    refine ⟨_, rfl, fun j => ?_⟩
    by_cases hbottom : j = 0
    · rw [hbottom, if_pos le_rfl, List.getElem?_set_self hlength]
    · rw [if_neg (by omega), List.getElem?_set_ne (by omega)]
  | succ m ih =>
    have hlength' : m < (path.set (m + 1) (position (k / 2 ^ (m + 1)) (m + 1))).length := by
      rw [List.length_set]
      omega
    obtain ⟨p, hp, hget⟩ := ih (limit_below hlimit) hlength'
    refine ⟨p, ?_, fun j => ?_⟩
    · rw [walkDown, if_neg (above_leaf k m), getChildren_branch hlimit, Check.ok_bind]
      simp only [← not_le, ite_not, next_eq]
      exact hp
    · rw [hget j]
      by_cases htop : j = m + 1
      · rw [if_neg (by omega), if_pos (by omega), htop, List.getElem?_set_self hlength]
      · rw [List.getElem?_set_ne (by omega)]
        by_cases hbelow : j ≤ m
        · rw [if_pos hbelow, if_pos (by omega)]
        · rw [if_neg hbelow, if_neg (by omega)]

/-- Hashing back up from the leaf over the reference's siblings gives the node over the leaf at each
level. -/
theorem walkUp_eq (hpath : ∀ j ≤ m, path[j]? = some (position (k / 2 ^ j) j))
    (hsiblings : ∀ j < m,
      siblings[j]? = some (refNode poseidon2 xs (sibling (k / 2 ^ j)) j)) :
    walkUp poseidon2 (fieldMod (dataOf xs k)) path siblings (m + 1) 0 0
      = .ok (refNode poseidon2 xs (k / 2 ^ m) m) := by
  induction m with
  | zero =>
    rw [walkUp_succ]
    refine ⟨0, nodeInputs poseidon2 xs (k / 2 ^ 0) 0, rfl, ?_, refNode_eq _ _ _⟩
    have hbottom := hpath 0 le_rfl
    rw [Nat.pow_zero, Nat.div_one] at hbottom ⊢
    exact climbInputs_zero.mpr ⟨_, hbottom, rfl⟩
  | succ m ih =>
    have hbelow := ih (fun j hj => hpath j (by omega)) (fun j hj => hsiblings j (by omega))
    rw [walkUp_succ]
    refine ⟨_, nodeInputs poseidon2 xs (k / 2 ^ (m + 1)) (m + 1), hbelow, ?_, refNode_eq _ _ _⟩
    rw [Nat.zero_add, climbInputs_succ]
    refine ⟨_, _, _, hpath (m + 1) le_rfl, hpath m (by omega), hsiblings m (by omega),
      position_pos _ _, ?_⟩
    have hleft := position_left (k / 2 ^ (m + 1)) m
    have hright := position_right (k / 2 ^ (m + 1)) m
    have hpow : 2 ^ 1 ≤ 2 ^ (m + 1) := Nat.pow_le_pow_right (by decide) (by omega)
    have hdiv := div_two_pow_succ k m
    obtain heven | hodd := Nat.mod_two_eq_zero_or_one (k / 2 ^ m)
    · have hchild : k / 2 ^ m = 2 * (k / 2 ^ (m + 1)) := by omega
      rw [hchild, if_neg (by omega), sibling_two_mul]
      rfl
    · have hchild : k / 2 ^ m = 2 * (k / 2 ^ (m + 1)) + 1 := by omega
      rw [hchild, if_pos (by omega), sibling_two_mul_add_one]
      rfl

/-! ## The peak over a leaf -/

variable {index : ℕ} {before after : List (ℕ × ℕ)} {p : ℕ × ℕ}

/-- The verifier finds the first peak from the index on. -/
theorem findPeak_eq (hbefore : ∀ q ∈ before, position q.1 q.2 < index)
    (hp : index ≤ position p.1 p.2) :
    findPeak index ((before ++ p :: after).map fun q => position q.1 q.2)
      ((before ++ p :: after).map fun q => refNode poseidon2 xs q.1 q.2)
      = .ok (refNode poseidon2 xs p.1 p.2, position p.1 p.2) := by
  induction before with
  | nil =>
    rw [List.nil_append, List.map_cons, List.map_cons, findPeak, if_pos hp]
    rfl
  | cons q before ih =>
    have hq := hbefore q List.mem_cons_self
    rw [List.cons_append, List.map_cons, List.map_cons, findPeak, if_neg (by omega),
      List.tail_cons]
    exact ih fun r hmem => hbefore r (List.mem_cons_of_mem _ hmem)

/-- So does the prover. -/
theorem cursor_eq (hbefore : ∀ q ∈ before, position q.1 q.2 < index)
    (hp : index ≤ position p.1 p.2) :
    ((before ++ p :: after).map fun q => position q.1 q.2).foldl
      (fun cursor peak => if index ≤ peak ∧ cursor = 0 then peak else cursor) 0
      = position p.1 p.2 := by
  induction before with
  | nil =>
    have hpos := position_pos p.1 p.2
    have hkeep : ∀ l : List ℕ, l.foldl
        (fun cursor peak => if index ≤ peak ∧ cursor = 0 then peak else cursor)
        (position p.1 p.2) = position p.1 p.2 := by
      intro l
      induction l with
      | nil => rfl
      | cons peak l ih => rw [List.foldl_cons, if_neg (by omega), ih]
    rw [List.nil_append, List.map_cons, List.foldl_cons, if_pos ⟨hp, rfl⟩]
    exact hkeep _
  | cons q before ih =>
    have hq := hbefore q List.mem_cons_self
    rw [List.cons_append, List.map_cons, List.foldl_cons, if_neg (by omega)]
    exact ih fun r hmem => hbefore r (List.mem_cons_of_mem _ hmem)

/-! ## Completeness -/

/-- What the prover answers for a leaf: the root and width, the peaks, and the siblings up to the peak
over the leaf, each of them stored. -/
theorem getMerkleProof_eq (href : Refines poseidon2 xs t) (hlen : xs.length < 2 ^ 126)
    (hk : k < xs.length) (hpeak : peakNodes xs.length = before ++ (k / 2 ^ m, m) :: after)
    (hbefore : ∀ q ∈ before, position q.1 q.2 < position k 0) :
    getMerkleProof t (position k 0)
      = .ok (t.root, t.width, refPeaks poseidon2 xs, refSiblings poseidon2 xs k m) := by
  have hleaf : Complete xs.length k 0 := by
    show (k + 1) * 2 ^ 0 ≤ xs.length
    omega
  have hlimit : ∀ {k h}, Complete xs.length k h → position k h < INDEX_LIMIT := fun hc =>
    hc.position_le.trans_lt (treeSize_lt_limit hlen)
  have htop : Complete xs.length (k / 2 ^ m) m := by
    refine complete_of_mem_peakNodes ?_
    rw [hpeak]
    exact List.mem_append_right _ List.mem_cons_self
  have hsize : position k 0 ≤ t.size := by
    rw [href.size, refNodes_length]
    exact hleaf.position_le
  have hisLeaf : isLeaf (position k 0) = .ok true := by
    rw [isLeaf, heightAt_position (hlimit hleaf)]
    rfl
  have hindexes : getPeakIndexes t.width = .ok (peakPositions xs.length) := by
    rw [href.width, getPeakIndexes_eq (by omega)]
  have hpeaks : (peakPositions xs.length).map t.nodeHash = refPeaks poseidon2 xs := by
    have hok := href.peaks
    rw [getPeaks, hindexes] at hok
    exact Except.ok.inj hok
  have hcursor : (peakPositions xs.length).foldl
      (fun cursor peak => if position k 0 ≤ peak ∧ cursor = 0 then peak else cursor) 0
      = position (k / 2 ^ m) m := by
    rw [peakPositions, hpeak]
    exact cursor_eq hbefore (position_le_ancestor k m)
  have hslots : m ≤ (List.replicate m (0 : BytesN32)).length := by rw [List.length_replicate]
  obtain ⟨s, hs, hget⟩ := descend_eq (t := t) (hlimit htop) hslots
  have hsiblings : s = refSiblings poseidon2 xs k m := by
    refine List.ext_getElem? fun j => ?_
    rw [hget j, getElem?_refSiblings]
    by_cases hj : j < m
    · rw [if_pos hj, if_pos hj, Tree.nodeHash, href.getNodeHash (htop.sibling hj)]
      rfl
    · rw [if_neg hj, if_neg hj, List.getElem?_eq_none (by rw [List.length_replicate]; omega)]
  have hcursorPos := position_pos (k / 2 ^ m) m
  rw [getMerkleProof, demand_of hsize, Check.ok_bind, hisLeaf, Check.ok_bind, demand_of rfl,
    Check.ok_bind, hindexes, Check.ok_bind, hcursor]
  dsimp only
  rw [demand_of (by omega), Check.ok_bind, heightAt_position (hlimit htop), Check.ok_bind,
    sub_of_le (by omega), Check.ok_bind, Nat.add_sub_cancel, hs, Check.ok_bind, hpeaks, hsiblings]
  rfl

/-- The verifier accepts it. -/
theorem verifyInclusion_eq (hlen : xs.length < 2 ^ 126) (hk : k < xs.length)
    (hpeak : peakNodes xs.length = before ++ (k / 2 ^ m, m) :: after)
    (hbefore : ∀ q ∈ before, position q.1 q.2 < position k 0)
    (hnonzero : refNode poseidon2 xs (k / 2 ^ m) m ≠ 0) :
    verifyInclusion poseidon2 (refRoot poseidon2 xs) xs.length (position k 0)
      (fieldMod (dataOf xs k)) (refPeaks poseidon2 xs) (refSiblings poseidon2 xs k m)
      = .ok true := by
  have hleaf : Complete xs.length k 0 := by
    show (k + 1) * 2 ^ 0 ≤ xs.length
    omega
  have htop : Complete xs.length (k / 2 ^ m) m := by
    refine complete_of_mem_peakNodes ?_
    rw [hpeak]
    exact List.mem_append_right _ List.mem_cons_self
  have hlimit : position (k / 2 ^ m) m < INDEX_LIMIT :=
    htop.position_le.trans_lt (treeSize_lt_limit hlen)
  have hlevel := level_lt hlimit
  have hwidth : xs.length < 2 ^ 127 := by omega
  have hlength : (refSiblings poseidon2 xs k m).length = m := by
    rw [refSiblings, List.length_map, List.length_range]
  have htarget : findPeak (position k 0) (peakPositions xs.length) (refPeaks poseidon2 xs)
      = .ok (refNode poseidon2 xs (k / 2 ^ m) m, position (k / 2 ^ m) m) := by
    rw [refPeaks_eq, peakPositions, hpeak]
    exact findPeak_eq hbefore (position_le_ancestor k m)
  have hslots : m < (List.replicate (m + 1) 0).length := by
    rw [List.length_replicate]
    omega
  obtain ⟨path, hdown, hpath⟩ := walkDown_eq hlimit hslots
  have hup : walkUp poseidon2 (fieldMod (dataOf xs k)) path (refSiblings poseidon2 xs k m) (m + 1) 0 0
      = .ok (refNode poseidon2 xs (k / 2 ^ m) m) :=
    walkUp_eq (fun j hj => by rw [hpath j, if_pos hj])
      fun j hj => by rw [getElem?_refSiblings, if_pos hj]
  rw [verifyInclusion, calcSize_eq hwidth, Check.ok_bind, demand_of hleaf.position_le,
    Check.ok_bind, peakBagging_eq hwidth, Check.ok_bind, demand_of rfl, Check.ok_bind,
    getPeakIndexes_eq hwidth, Check.ok_bind, htarget, Check.ok_bind, demand_of hnonzero,
    Check.ok_bind, hlength, add_of_lt (by omega), Check.ok_bind, hdown, Check.ok_bind,
    Nat.sub_zero, hup, Check.ok_bind, demand_of rfl]
  rfl

/-- For every leaf of an accepted history the prover answers, having read only nodes that are stored,
and the verifier accepts its answer with the leaf's data against the current root and width. -/
theorem inclusion_complete (poseidon2 : List BytesN32 → BytesN32) (xs : List BytesN32) (t : Tree)
    (ok : appendAll poseidon2 xs Tree.empty = .ok ((), t))
    (hnonzero : ∀ peak ∈ refPeaks poseidon2 xs, peak ≠ 0) (k : ℕ) (x : BytesN32)
    (hx : xs[k]? = some x) :
    ∃ peakBag siblings, getMerkleProof t (position k 0) = .ok (t.root, t.width, peakBag, siblings) ∧
      verifyInclusion poseidon2 t.root t.width (position k 0) (fieldMod x) peakBag siblings
        = .ok true ∧
      (peakPositions t.width).map t.getNodeHash = peakBag.map some ∧
      ∃ h, (List.range h).map (fun j => t.getNodeHash (position (sibling (k / 2 ^ j)) j))
        = siblings.map some := by
  obtain ⟨href, hlen⟩ := accepted_refines ok
  obtain ⟨hk, hget⟩ := List.getElem?_eq_some_iff.mp hx
  obtain ⟨before, after, m, hpeak, hbefore⟩ := peakNodes_split hk
  have hmem : (k / 2 ^ m, m) ∈ peakNodes xs.length := by
    rw [hpeak]
    exact List.mem_append_right _ List.mem_cons_self
  have hpeakNode : refNode poseidon2 xs (k / 2 ^ m) m ∈ refPeaks poseidon2 xs := by
    rw [refPeaks_eq]
    exact List.mem_map.mpr ⟨_, hmem, rfl⟩
  have hdata : dataOf xs k = x := by
    rw [dataOf, List.getD_eq_getElem?_getD, hx]
    rfl
  have hverify := verifyInclusion_eq hlen hk hpeak hbefore (hnonzero _ hpeakNode)
  rw [hdata, ← href.root, ← href.width] at hverify
  refine ⟨_, _, getMerkleProof_eq href hlen hk hpeak hbefore, hverify, ?_, m, ?_⟩
  · rw [href.width, refPeaks_eq, peakPositions, List.map_map, List.map_map]
    refine List.map_congr_left fun p hp => ?_
    exact href.getNodeHash (complete_of_mem_peakNodes hp)
  · rw [refSiblings, List.map_map]
    refine List.map_congr_left fun j hj => ?_
    exact href.getNodeHash ((complete_of_mem_peakNodes hmem).sibling (List.mem_range.mp hj))

theorem inclusion_complete_sample : ∃ t peakBag siblings,
    getMerkleProof t (position 0 0) = .ok (t.root, t.width, peakBag, siblings) ∧
    verifyInclusion samplePoseidon2 t.root t.width (position 0 0)
      (fieldMod 0x24e52cd6d3e40806474f1e5778a3efa5fe3f49b50a58dbe81cd2f79443bdc1c2) peakBag siblings
      = .ok true := by
  obtain ⟨t, ok⟩ := sample_accepted
  have hpeaks : refPeaks samplePoseidon2 sampleLeaves
      = [0x00ccd9f124c88ed3d945af2283b8729f01e1469ef22ad6549fa1a281c2110486] := by
    decide +kernel
  have hnonzero : ∀ peak ∈ refPeaks samplePoseidon2 sampleLeaves, peak ≠ 0 := by
    intro peak hmem
    rw [hpeaks, List.mem_singleton] at hmem
    rw [hmem]
    decide
  have hx : sampleLeaves[0]?
      = some 0x24e52cd6d3e40806474f1e5778a3efa5fe3f49b50a58dbe81cd2f79443bdc1c2 := by
    decide
  obtain ⟨peakBag, siblings, hproof, hverify, -⟩ :=
    inclusion_complete samplePoseidon2 sampleLeaves t ok hnonzero 0 _ hx
  exact ⟨t, peakBag, siblings, hproof, hverify⟩

end MerkleManager
end ProofBridge
