import ProofBridge.MerkleManager.Indexes

/-!
# Appending refines the reference range

The reference over a list of data hashes is a `MountainRange`: a leaf hashes its position with the
reduced data, a branch its position with its two children, the root the domain tag, the size and the
left fold of the peaks. `Refines` says that the contract stores exactly that.

Nodes are created lazily, so between two appends `Partial` is the invariant: whatever is stored is the
reference's node, the children of a stored branch are stored, and every leaf is. An append asks for
the peaks, and with a peak its whole mountain is there.
-/

namespace ProofBridge
namespace MerkleManager

open ContractLib ContractLib.MountainRange

variable (poseidon2 : List BytesN32 → BytesN32)

/-! ## The reference -/

/-- A leaf hashes its position with the data, reduced to the field. -/
def refLeaf (index : ℕ) (dataHash : BytesN32) : BytesN32 :=
  poseidon2 [BitVec.ofNat 256 index, BitVec.ofNat 256 (dataHash.toNat % BN254_R)]

/-- A branch hashes its position with its two children. -/
def refBranch (index : ℕ) (left right : BytesN32) : BytesN32 :=
  poseidon2 [BitVec.ofNat 256 index, left, right]

/-- The leaves of a history. -/
def dataOf (xs : List BytesN32) (i : ℕ) : BytesN32 := xs.getD i 0

/-- The node of level `h` over the leaves from `k * 2^h` on. -/
def refNode (xs : List BytesN32) (k h : ℕ) : BytesN32 :=
  node (refLeaf poseidon2) (refBranch poseidon2) (dataOf xs) k h

/-- All the nodes, in post-order. -/
def refNodes (xs : List BytesN32) : List BytesN32 :=
  nodes (refLeaf poseidon2) (refBranch poseidon2) (dataOf xs) xs.length

/-- The peaks, the largest mountain first. -/
def refPeaks (xs : List BytesN32) : List BytesN32 :=
  peaks (refLeaf poseidon2) (refBranch poseidon2) (dataOf xs) xs.length

/-- The root hashes the domain tag, the size and the left fold of the peaks. -/
def refRoot (xs : List BytesN32) : BytesN32 :=
  match refPeaks poseidon2 xs with
  | [] => 0
  | first :: rest =>
    poseidon2 [DOMAIN_TAG, BitVec.ofNat 256 (refNodes poseidon2 xs).length,
      rest.foldl (fun acc peak => poseidon2 [acc, peak]) first]

/-- The contract stores the reference over `xs`. -/
structure Refines (xs : List BytesN32) (t : Tree) : Prop where
  width : t.width = xs.length
  size : t.size = (refNodes poseidon2 xs).length
  root : t.root = refRoot poseidon2 xs
  peaks : getPeaks t = .ok (refPeaks poseidon2 xs)
  /-- The node numbered `index` is stored under `index`, and nothing else is stored. -/
  stored : ∀ index, t.getNodeHash index
    = if index = 0 then none else (refNodes poseidon2 xs)[index - 1]?
  /-- The root recorded at each width is the one of that many leaves. -/
  roots : ∀ width, t.getRootAtWidth width
    = if 0 < width ∧ width ≤ xs.length then some (refRoot poseidon2 (xs.take width)) else none

variable {poseidon2} {xs : List BytesN32} {t t' : Tree} {k h : ℕ}

theorem refNode_zero (xs : List BytesN32) (k : ℕ) : refNode poseidon2 xs k 0
    = hashLeaf poseidon2 (position k 0) (fieldMod (dataOf xs k)) :=
  node_zero _ _ _ k

theorem refNode_succ (xs : List BytesN32) (k h : ℕ) : refNode poseidon2 xs k (h + 1)
    = hashBranch poseidon2 (position k (h + 1)) (refNode poseidon2 xs (2 * k) h)
      (refNode poseidon2 xs (2 * k + 1) h) :=
  node_succ _ _ _ k h

theorem refNodes_length (xs : List BytesN32) :
    (refNodes poseidon2 xs).length = treeSize xs.length :=
  nodes_length _ _ _ _

theorem refPeaks_eq (xs : List BytesN32) : refPeaks poseidon2 xs
    = (peakNodes xs.length).map fun p => refNode poseidon2 xs p.1 p.2 :=
  peaks_eq _ _ _ _

/-- A node over the first leaves does not depend on those after them. -/
theorem refNode_append {ys : List BytesN32} (hc : Complete xs.length k h) :
    refNode poseidon2 (xs ++ ys) k h = refNode poseidon2 xs k h := by
  refine node_congr _ _ hc fun i hi => ?_
  simp only [dataOf, List.getD_eq_getElem?_getD]
  rw [List.getElem?_append_left hi]

/-! ## Lazily created nodes -/

/-- Everything stored is kept, and nothing but nodes is written. -/
structure Tree.Extends (t t' : Tree) : Prop where
  width : t'.width = t.width
  size : t'.size = t.size
  root : t'.root = t.root
  history : t'.history = t.history
  stored : ∀ index hash, t.getNodeHash index = some hash → t'.getNodeHash index = some hash

theorem Tree.Extends.refl (t : Tree) : t.Extends t := ⟨rfl, rfl, rfl, rfl, fun _ _ h => h⟩

theorem Tree.Extends.trans {t'' : Tree} (h : t.Extends t') (h' : t'.Extends t'') :
    t.Extends t'' where
  width := h'.width.trans h.width
  size := h'.size.trans h.size
  root := h'.root.trans h.root
  history := h'.history.trans h.history
  stored index hash hs := h'.stored index hash (h.stored index hash hs)

/-- A node is stored. -/
abbrev Tree.Has (t : Tree) (k h : ℕ) : Prop := (t.getNodeHash (position k h)).isSome = true

theorem Tree.Extends.has (hext : t.Extends t') (h' : t.Has k h) : t'.Has k h := by
  obtain ⟨hash, hs⟩ := Option.isSome_iff_exists.mp h'
  exact Option.isSome_iff_exists.mpr ⟨hash, hext.stored _ _ hs⟩

variable (poseidon2 xs) in
/-- What holds while nodes are being created. -/
structure Partial (t : Tree) : Prop where
  correct : ∀ index hash, t.getNodeHash index = some hash →
    ∃ k h, Complete xs.length k h ∧ index = position k h ∧ hash = refNode poseidon2 xs k h
  children : ∀ k h, t.Has k (h + 1) → t.Has (2 * k) h ∧ t.Has (2 * k + 1) h
  leaves : ∀ k < xs.length, t.Has k 0

/-- What is stored under a node's number is the node. -/
theorem Partial.eq (hp : Partial poseidon2 xs t) {hash : BytesN32}
    (hs : t.getNodeHash (position k h) = some hash) : hash = refNode poseidon2 xs k h := by
  obtain ⟨k', h', -, hposition, rfl⟩ := hp.correct _ _ hs
  obtain ⟨rfl, rfl⟩ := position_inj hposition
  rfl

theorem nodeHash_ne_zero (hne : t.nodeHash (position k h) ≠ 0) :
    t.getNodeHash (position k h) = some (t.nodeHash (position k h)) := by
  unfold Tree.nodeHash at hne ⊢
  cases hs : t.getNodeHash (position k h) with
  | none =>
    rw [hs] at hne
    exact absurd rfl hne
  | some hash => rfl

/-- Storing a node under its number keeps what is stored, whether it was there or not. -/
theorem Partial.set (hp : Partial poseidon2 xs t) (hc : Complete xs.length k (h + 1))
    (hleft : t.Has (2 * k) h) (hright : t.Has (2 * k + 1) h) :
    Partial poseidon2 xs { t with
      hashes := t.hashes.set (position k (h + 1)) (refNode poseidon2 xs k (h + 1)) } ∧
    t.Extends { t with
      hashes := t.hashes.set (position k (h + 1)) (refNode poseidon2 xs k (h + 1)) } := by
  have hextends : t.Extends { t with
      hashes := t.hashes.set (position k (h + 1)) (refNode poseidon2 xs k (h + 1)) } := by
    refine ⟨rfl, rfl, rfl, rfl, fun index hash hs => ?_⟩
    simp only [Tree.getNodeHash, Map.get?_set]
    split
    · next heq =>
      rw [heq] at hs
      rw [hp.eq hs]
    · exact hs
  refine ⟨⟨?_, ?_, ?_⟩, hextends⟩
  · intro index hash hs
    simp only [Tree.getNodeHash, Map.get?_set] at hs
    split at hs
    · next heq =>
      cases hs
      exact ⟨k, h + 1, hc, heq, rfl⟩
    · exact hp.correct index hash hs
  · intro k' h' hhas
    simp only [Tree.Has, Tree.getNodeHash, Map.get?_set] at hhas
    split at hhas
    · next heq =>
      obtain ⟨rfl, hlevel⟩ := position_inj heq
      obtain rfl : h' = h := by omega
      exact ⟨hextends.has hleft, hextends.has hright⟩
    · obtain ⟨hl, hr⟩ := hp.children k' h' hhas
      exact ⟨hextends.has hl, hextends.has hr⟩
  · intro k' hk'
    exact hextends.has (hp.leaves k' hk')

/-- The index of a node that is not cached is within the limit. -/
theorem lt_limit_of_getChildren {index : ℕ} {children : ℕ × ℕ}
    (ok : getChildren index = .ok children) : index < INDEX_LIMIT := by
  by_contra hge
  rw [getChildren_limit (not_lt.mp hge)] at ok
  cases ok

/-- A node that is not cached is a branch. -/
theorem branch_of_getChildren {children : ℕ × ℕ}
    (ok : getChildren (position k h) = .ok children) :
    ∃ h', h = h' + 1 ∧ children = (position (2 * k) h', position (2 * k + 1) h') := by
  have hlimit := lt_limit_of_getChildren ok
  cases h with
  | zero =>
    rw [getChildren_leaf hlimit] at ok
    cases ok
  | succ h' =>
    rw [getChildren_branch hlimit] at ok
    cases ok
    exact ⟨h', rfl, rfl⟩

/-- Whatever `getOrCreateNode` answers is the reference's node, which is stored then. -/
theorem getOrCreateNode_ok {levels size : ℕ} {hash : BytesN32} (hp : Partial poseidon2 xs t)
    (hc : Complete xs.length k h)
    (ok : getOrCreateNode poseidon2 levels (position k h) size t = .ok (hash, t')) :
    hash = refNode poseidon2 xs k h ∧ Partial poseidon2 xs t' ∧ t.Extends t' ∧ t'.Has k h := by
  induction levels generalizing t t' k h hash with
  | zero =>
    unfold getOrCreateNode at ok
    rw [Tx.bind_demand_ok] at ok
    exact ok.1.elim
  | succ levels ih =>
    unfold getOrCreateNode at ok
    simp only [Tx.bind_demand_ok, Tx.bind_read_ok, Tx.ite_apply] at ok
    obtain ⟨-, ok⟩ := ok
    split at ok
    · next hcached =>
      cases Tx.pure_ok.mp ok
      have hs := nodeHash_ne_zero hcached
      exact ⟨hp.eq hs, hp, .refl t, Option.isSome_iff_exists.mpr ⟨_, hs⟩⟩
    · rw [Tx.bind_lift_ok] at ok
      obtain ⟨children, hchildren, ok⟩ := ok
      obtain ⟨h', rfl, rfl⟩ := branch_of_getChildren hchildren
      rw [Tx.bind_ok] at ok
      obtain ⟨left, t₁, hleft, ok⟩ := ok
      rw [Tx.bind_ok] at ok
      obtain ⟨right, t₂, hright, ok⟩ := ok
      obtain ⟨rfl, hp₁, hext₁, hhas₁⟩ := ih hp hc.left hleft
      obtain ⟨rfl, hp₂, hext₂, hhas₂⟩ := ih hp₁ hc.right hright
      unfold setNodeHash at ok
      rw [← refNode_succ, Tx.bind_modify_ok] at ok
      cases Tx.pure_ok.mp ok
      obtain ⟨hp₃, hext₃⟩ := hp₂.set hc (hext₂.has hhas₁) hhas₂
      refine ⟨rfl, hp₃, (hext₁.trans hext₂).trans hext₃, ?_⟩
      simp [Tree.Has, Tree.getNodeHash]

/-- Asking for a leaf that is not stored fails. -/
theorem getOrCreateNode_unset {levels size : ℕ} {r : BytesN32 × Tree}
    (hunset : t.getNodeHash (position k 0) = none) :
    getOrCreateNode poseidon2 levels (position k 0) size t ≠ .ok r := by
  intro ok
  cases levels with
  | zero =>
    unfold getOrCreateNode at ok
    rw [Tx.bind_demand_ok] at ok
    exact ok.1
  | succ levels =>
    have hzero : t.nodeHash (position k 0) = 0 := by
      rw [Tree.nodeHash, hunset]
      rfl
    unfold getOrCreateNode at ok
    simp only [Tx.bind_demand_ok, Tx.bind_read_ok, Tx.ite_apply] at ok
    rw [if_neg (not_not.mpr hzero), Tx.bind_lift_ok] at ok
    obtain ⟨-, children, hchildren, -⟩ := ok
    obtain ⟨h', hlevel, -⟩ := branch_of_getChildren hchildren
    omega

/-- Asking for a node ends, and never asks for a leaf that is not stored. -/
theorem getOrCreateNode_total {levels size : ℕ} (hp : Partial poseidon2 xs t)
    (hnonzero : ∀ k h, Complete xs.length k h → refNode poseidon2 xs k h ≠ 0)
    (hc : Complete xs.length k h) (hlimit : position k h < INDEX_LIMIT)
    (hsize : position k h ≤ size) (hlevels : h < levels) :
    ∃ t', getOrCreateNode poseidon2 levels (position k h) size t
      = .ok (refNode poseidon2 xs k h, t') := by
  induction levels generalizing t k h with
  | zero => omega
  | succ levels ih =>
    suffices ∃ r, getOrCreateNode poseidon2 (levels + 1) (position k h) size t = .ok r by
      obtain ⟨⟨hash, t'⟩, ok⟩ := this
      rw [(getOrCreateNode_ok hp hc ok).1] at ok
      exact ⟨t', ok⟩
    unfold getOrCreateNode
    simp only [Tx.bind_demand_ok, Tx.bind_read_ok, Tx.ite_apply]
    by_cases hcached : t.nodeHash (position k h) ≠ 0
    · exact ⟨_, hsize, by rw [if_pos hcached, Tx.pure_ok]⟩
    · cases h with
      | zero =>
        -- every leaf is stored, and no node is zero
        have hlt : k < xs.length := by
          have hle : (k + 1) * 2 ^ 0 ≤ xs.length := hc
          omega
        obtain ⟨hash, hs⟩ := Option.isSome_iff_exists.mp (hp.leaves k hlt)
        refine absurd ?_ hcached
        rw [Tree.nodeHash, hs, hp.eq hs]
        exact hnonzero k 0 hc
      | succ h =>
        have hleft := position_left k h
        have hright := position_right k h
        have hpos := two_pow_pos (h + 1)
        obtain ⟨t₁, ok₁⟩ := ih hp hc.left (by omega) (by omega) (by omega)
        obtain ⟨-, hp₁, -, -⟩ := getOrCreateNode_ok hp hc.left ok₁
        obtain ⟨t₂, ok₂⟩ := ih hp₁ hc.right (by omega) (by omega) (by omega)
        let hash := hashBranch poseidon2 (position k (h + 1)) (refNode poseidon2 xs (2 * k) h)
          (refNode poseidon2 xs (2 * k + 1) h)
        refine ⟨(hash, { t₂ with hashes := t₂.hashes.set (position k (h + 1)) hash }), hsize, ?_⟩
        rw [if_neg hcached, Tx.bind_lift_ok]
        refine ⟨_, getChildren_branch hlimit, ?_⟩
        rw [Tx.bind_ok]
        refine ⟨_, t₁, ok₁, ?_⟩
        rw [Tx.bind_ok]
        refine ⟨_, t₂, ok₂, ?_⟩
        unfold setNodeHash
        rw [Tx.bind_modify_ok, Tx.pure_ok]

/-- The same for a list of nodes. -/
theorem getOrCreateNodes_ok {size : ℕ} {l : List (ℕ × ℕ)} {hashes : List BytesN32}
    (hp : Partial poseidon2 xs t) (hc : ∀ p ∈ l, Complete xs.length p.1 p.2)
    (ok : getOrCreateNodes poseidon2 size (l.map fun p => position p.1 p.2) t
      = .ok (hashes, t')) :
    hashes = l.map (fun p => refNode poseidon2 xs p.1 p.2) ∧ Partial poseidon2 xs t' ∧
      t.Extends t' ∧ ∀ p ∈ l, t'.Has p.1 p.2 := by
  induction l generalizing t hashes with
  | nil =>
    cases Tx.pure_ok.mp ok
    exact ⟨rfl, hp, .refl _, fun p hmem => by cases hmem⟩
  | cons p l ih =>
    rw [List.map_cons, getOrCreateNodes, Tx.bind_ok] at ok
    obtain ⟨hash, t₁, hfirst, ok⟩ := ok
    rw [Tx.bind_ok] at ok
    obtain ⟨rest, t₂, hrest, ok⟩ := ok
    cases Tx.pure_ok.mp ok
    obtain ⟨rfl, hp₁, hext₁, hhas₁⟩ := getOrCreateNode_ok hp (hc p List.mem_cons_self) hfirst
    obtain ⟨rfl, hp₂, hext₂, hhas₂⟩ :=
      ih hp₁ (fun q hq => hc q (List.mem_cons_of_mem _ hq)) hrest
    refine ⟨rfl, hp₂, hext₁.trans hext₂, fun q hq => ?_⟩
    rcases List.mem_cons.mp hq with rfl | hq
    · exact hext₂.has hhas₁
    · exact hhas₂ q hq

theorem getOrCreateNodes_total {size : ℕ} {l : List (ℕ × ℕ)} (hp : Partial poseidon2 xs t)
    (hnonzero : ∀ k h, Complete xs.length k h → refNode poseidon2 xs k h ≠ 0)
    (hc : ∀ p ∈ l, Complete xs.length p.1 p.2)
    (hlimit : ∀ p ∈ l, position p.1 p.2 < INDEX_LIMIT)
    (hsize : ∀ p ∈ l, position p.1 p.2 ≤ size) :
    ∃ r, getOrCreateNodes poseidon2 size (l.map fun p => position p.1 p.2) t = .ok r := by
  induction l generalizing t with
  | nil => exact ⟨_, Tx.pure_ok.mpr rfl⟩
  | cons p l ih =>
    have hmem : p ∈ p :: l := List.mem_cons_self
    have hlevel := level_lt (hlimit p hmem)
    have hlevels : p.2 < 128 := by omega
    obtain ⟨t₁, hfirst⟩ :=
      getOrCreateNode_total hp hnonzero (hc p hmem) (hlimit p hmem) (hsize p hmem) hlevels
    obtain ⟨-, hp₁, -, -⟩ := getOrCreateNode_ok hp (hc p hmem) hfirst
    obtain ⟨r, hrest⟩ := ih hp₁ (fun q hq => hc q (List.mem_cons_of_mem _ hq))
      (fun q hq => hlimit q (List.mem_cons_of_mem _ hq))
      (fun q hq => hsize q (List.mem_cons_of_mem _ hq))
    refine ⟨(refNode poseidon2 xs p.1 p.2 :: r.1, r.2), ?_⟩
    rw [List.map_cons, getOrCreateNodes, Tx.bind_ok]
    refine ⟨_, t₁, hfirst, ?_⟩
    rw [Tx.bind_ok]
    exact ⟨r.1, r.2, hrest, Tx.pure_ok.mpr rfl⟩

/-! ## What the reference says of a stored range -/

theorem Refines.getNodeHash (href : Refines poseidon2 xs t) (hc : Complete xs.length k h) :
    t.getNodeHash (position k h) = some (refNode poseidon2 xs k h) := by
  have hpos := position_pos k h
  rw [href.stored, if_neg (by omega)]
  exact nodes_position _ _ _ hc

/-- Whatever is stored is a node of the reference. -/
theorem Refines.correct (href : Refines poseidon2 xs t) {index : ℕ} {hash : BytesN32}
    (hs : t.getNodeHash index = some hash) :
    ∃ k h, Complete xs.length k h ∧ index = position k h ∧ hash = refNode poseidon2 xs k h := by
  rw [href.stored] at hs
  split at hs
  · cases hs
  · next hne =>
    obtain ⟨hlt, -⟩ := List.getElem?_eq_some_iff.mp hs
    rw [refNodes_length] at hlt
    obtain ⟨k, h, hc, hposition, hget⟩ :=
      nodes_get (refLeaf poseidon2) (refBranch poseidon2) (dataOf xs) hlt
    refine ⟨k, h, hc, by omega, ?_⟩
    have hsome : some hash = some (refNode poseidon2 xs k h) := hs.symm.trans hget
    exact Option.some.inj hsome

theorem Refines.complete (href : Refines poseidon2 xs t) (hhas : t.Has k h) :
    Complete xs.length k h := by
  obtain ⟨hash, hs⟩ := Option.isSome_iff_exists.mp hhas
  obtain ⟨k', h', hc, hposition, -⟩ := href.correct hs
  obtain ⟨rfl, rfl⟩ := position_inj hposition
  exact hc

theorem Refines.has (href : Refines poseidon2 xs t) (hc : Complete xs.length k h) : t.Has k h :=
  Option.isSome_iff_exists.mpr ⟨_, href.getNodeHash hc⟩

/-- Once every node is there, exactly the reference is stored. -/
theorem Partial.stored (hp : Partial poseidon2 xs t)
    (hall : ∀ k h, Complete xs.length k h → t.Has k h) (index : ℕ) :
    t.getNodeHash index = if index = 0 then none else (refNodes poseidon2 xs)[index - 1]? := by
  cases hs : t.getNodeHash index with
  | some hash =>
    obtain ⟨k, h, hc, rfl, rfl⟩ := hp.correct index hash hs
    have hpos := position_pos k h
    rw [if_neg (by omega)]
    exact (nodes_position _ _ _ hc).symm
  | none =>
    split
    · rfl
    · next hne =>
      cases hget : (refNodes poseidon2 xs)[index - 1]? with
      | none => rfl
      | some hash =>
        obtain ⟨hlt, -⟩ := List.getElem?_eq_some_iff.mp hget
        rw [refNodes_length] at hlt
        obtain ⟨k, h, hc, hposition, -⟩ :=
          nodes_get (refLeaf poseidon2) (refBranch poseidon2) (dataOf xs) hlt
        obtain rfl : index = position k h := by omega
        have hhas : t.Has k h := hall k h hc
        rw [Tree.Has, hs] at hhas
        cases hhas

/-- Bagging the reference's peaks gives the reference's root. -/
theorem peakBagging_eq (hlen : xs.length < 2 ^ 127) :
    peakBagging poseidon2 xs.length (refPeaks poseidon2 xs) = .ok (refRoot poseidon2 xs) := by
  have hlength : (refPeaks poseidon2 xs).length = ones xs.length := by
    rw [refPeaks_eq, List.length_map, peakNodes_length]
  have hones : numOfPeaks xs.length = ones xs.length := numOfPeaks_eq (by omega)
  unfold peakBagging refRoot
  cases hpeaks : refPeaks poseidon2 xs with
  | nil =>
    have hzero : xs.length = 0 := by
      by_contra hne
      have hpos := ones_pos (Nat.pos_of_ne_zero hne)
      rw [hpeaks, List.length_nil] at hlength
      omega
    rw [if_pos hzero]
  | cons first rest =>
    have hne : xs.length ≠ 0 := by
      intro hzero
      rw [hpeaks, hzero, ones_zero, List.length_cons] at hlength
      omega
    rw [hpeaks] at hlength
    rw [if_neg hne, calcSize_eq hlen, Check.ok_bind, demand_of (hones.trans hlength.symm),
      Check.ok_bind, refNodes_length]
    rfl

/-- A range that stores the peaks answers them. -/
theorem getPeaks_eq (hwidth : t.width = xs.length) (hlen : xs.length < 2 ^ 127)
    (hstored : ∀ k h, Complete xs.length k h →
      t.getNodeHash (position k h) = some (refNode poseidon2 xs k h)) :
    getPeaks t = .ok (refPeaks poseidon2 xs) := by
  have hpeaks : (peakPositions xs.length).map t.nodeHash = refPeaks poseidon2 xs := by
    rw [refPeaks_eq, peakPositions, List.map_map]
    refine List.map_congr_left fun p hmem => ?_
    rw [Function.comp_apply, Tree.nodeHash, hstored p.1 p.2 (complete_of_mem_peakNodes hmem)]
    rfl
  rw [getPeaks, hwidth, getPeakIndexes_eq hlen, Check.ok_bind, hpeaks]
  rfl

/-! ## One append -/

variable {x : BytesN32} {i : ℕ}

variable (poseidon2) in
/-- The range when an append asks for its peaks: the leaf is stored, the sizes are the new ones. -/
def Tree.withLeaf (t : Tree) (dataHash : BytesN32) : Tree :=
  { t with
    width := t.width + 1
    size := treeSize (t.width + 1)
    hashes := t.hashes.set (position t.width 0)
      (hashLeaf poseidon2 (position t.width 0) (fieldMod dataHash)) }

/-- An append stores its leaf, asks for the peaks and bags them. -/
theorem append_iff : append poseidon2 x t = .ok (i, t') ↔
    t.width + 1 < 2 ^ 127 ∧ i = position t.width 0 ∧ ∃ peaks t₂ newRoot,
      getOrCreateNodes poseidon2 (treeSize (t.width + 1)) (peakPositions (t.width + 1))
        (t.withLeaf poseidon2 x) = .ok (peaks, t₂) ∧
      peakBagging poseidon2 (t.width + 1) peaks = .ok newRoot ∧
      t' = { t₂ with root := newRoot, history := t₂.history.set (t.width + 1) newRoot } := by
  unfold append
  simp only [setNodeHash, Tx.bind_read_ok, Tx.bind_lift_ok, Tx.bind_modify_ok, Check.add_ok]
  constructor
  · rintro ⟨width, ⟨-, rfl⟩, leafIndex, hleaf, peakIndexes, hpeaks, size, hsize, ok⟩
    have hwidth := lt_of_getPeakIndexes hpeaks
    rw [getLeafIndex_eq hwidth] at hleaf
    cases hleaf
    rw [getPeakIndexes_eq hwidth] at hpeaks
    cases hpeaks
    rw [calcSize_eq hwidth] at hsize
    cases hsize
    rw [Tx.bind_ok] at ok
    obtain ⟨peaks, t₂, hnodes, ok⟩ := ok
    rw [Tx.bind_lift_ok] at ok
    obtain ⟨newRoot, hbag, ok⟩ := ok
    rw [Tx.bind_modify_ok] at ok
    cases Tx.pure_ok.mp ok
    exact ⟨hwidth, rfl, peaks, t₂, newRoot, hnodes, hbag, rfl⟩
  · rintro ⟨hwidth, rfl, peaks, t₂, newRoot, hnodes, hbag, rfl⟩
    refine ⟨_, ⟨by omega, rfl⟩, _, getLeafIndex_eq hwidth, _, getPeakIndexes_eq hwidth, _,
      calcSize_eq hwidth, ?_⟩
    rw [Tx.bind_ok]
    refine ⟨peaks, t₂, hnodes, ?_⟩
    rw [Tx.bind_lift_ok]
    refine ⟨newRoot, hbag, ?_⟩
    rw [Tx.bind_modify_ok, Tx.pure_ok]

theorem getNodeHash_withLeaf (index : ℕ) : (t.withLeaf poseidon2 x).getNodeHash index
    = if index = position t.width 0
      then some (hashLeaf poseidon2 (position t.width 0) (fieldMod x)) else t.getNodeHash index :=
  Map.get?_set ..

/-- The new leaf is the reference's. -/
theorem refNode_last : refNode poseidon2 (xs ++ [x]) xs.length 0
    = hashLeaf poseidon2 (position xs.length 0) (fieldMod x) := by
  rw [refNode_zero]
  simp [dataOf]

/-- Nothing was stored where the new leaf goes. -/
theorem Refines.leaf_unset (href : Refines poseidon2 xs t) :
    t.getNodeHash (position xs.length 0) = none := by
  cases hs : t.getNodeHash (position xs.length 0) with
  | none => rfl
  | some hash =>
    have hc := href.complete (Option.isSome_iff_exists.mpr ⟨hash, hs⟩)
    have hle : (xs.length + 1) * 2 ^ 0 ≤ xs.length := hc
    omega

/-- With the leaf stored, the invariant of the creation holds over the longer history. -/
theorem Refines.withLeaf (href : Refines poseidon2 xs t) (x : BytesN32) :
    Partial poseidon2 (xs ++ [x]) (t.withLeaf poseidon2 x) := by
  have hlonger : xs.length ≤ (xs ++ [x]).length := by simp
  have hkeep : ∀ k h, t.Has k h → (t.withLeaf poseidon2 x).Has k h := by
    intro k h hhas
    rw [Tree.Has, getNodeHash_withLeaf]
    split
    · rfl
    · exact hhas
  have hold : ∀ k h, (t.withLeaf poseidon2 x).Has k (h + 1) → t.Has k (h + 1) := by
    intro k h hhas
    rw [Tree.Has, getNodeHash_withLeaf, if_neg] at hhas
    · exact hhas
    · intro heq
      have hlevel := (position_inj heq).2
      omega
  refine ⟨?_, ?_, ?_⟩
  · intro index hash hs
    rw [getNodeHash_withLeaf] at hs
    split at hs
    · next heq =>
      cases hs
      refine ⟨xs.length, 0, ?_, by rw [heq, href.width], by rw [refNode_last, href.width]⟩
      show (xs.length + 1) * 2 ^ 0 ≤ _
      simp
    · obtain ⟨k, h, hc, hposition, rfl⟩ := href.correct hs
      exact ⟨k, h, hc.mono hlonger, hposition, (refNode_append hc).symm⟩
  · intro k h hhas
    have hc := href.complete (hold k h hhas)
    exact ⟨hkeep _ _ (href.has hc.left), hkeep _ _ (href.has hc.right)⟩
  · intro k hk
    by_cases hlast : k = xs.length
    · rw [Tree.Has, getNodeHash_withLeaf, if_pos (by rw [hlast, href.width])]
      rfl
    · have hlt : k < xs.length := by
        rw [List.length_append, List.length_singleton] at hk
        omega
      refine hkeep k 0 (href.has ?_)
      show (k + 1) * 2 ^ 0 ≤ xs.length
      omega

/-- What an append does, whenever it is accepted. -/
theorem append_ok (href : Refines poseidon2 xs t) (ok : append poseidon2 x t = .ok (i, t')) :
    i = position xs.length 0 ∧ Refines poseidon2 (xs ++ [x]) t' ∧
      ∀ index hash, t.getNodeHash index = some hash → t'.getNodeHash index = some hash := by
  have hlength : (xs ++ [x]).length = xs.length + 1 := by simp
  obtain ⟨hwidth, rfl, peaks, t₂, newRoot, hnodes, hbag, rfl⟩ := append_iff.mp ok
  rw [href.width, ← hlength] at hwidth hnodes hbag
  have hcomplete : ∀ p ∈ peakNodes (xs ++ [x]).length, Complete (xs ++ [x]).length p.1 p.2 :=
    fun p hmem => complete_of_mem_peakNodes hmem
  obtain ⟨rfl, hp, hext, hhas⟩ := getOrCreateNodes_ok (href.withLeaf x) hcomplete hnodes
  rw [← refPeaks_eq, peakBagging_eq hwidth] at hbag
  cases hbag
  -- a peak's mountain is there with it
  have hall : ∀ k h, Complete (xs ++ [x]).length k h → t₂.Has k h := fun k h hc =>
    Complete.induction (fun k h hmem => hhas (k, h) hmem) (fun k h _ => hp.children k h) hc
  have hstored := hp.stored hall
  have hnode : ∀ k h, Complete (xs ++ [x]).length k h →
      t₂.getNodeHash (position k h) = some (refNode poseidon2 (xs ++ [x]) k h) := by
    intro k h hc
    obtain ⟨hash, hs⟩ := Option.isSome_iff_exists.mp (hall k h hc)
    rw [hs, hp.eq hs]
  have hnewWidth : t₂.width = (xs ++ [x]).length := by
    rw [hext.width, hlength]
    exact congrArg (· + 1) href.width
  refine ⟨by rw [href.width], ⟨hnewWidth, ?_, rfl, ?_, hstored, ?_⟩, ?_⟩
  · rw [hext.size, refNodes_length, hlength]
    exact congrArg (fun n => treeSize (n + 1)) href.width
  · exact getPeaks_eq hnewWidth hwidth hnode
  · intro width
    have hhistory : t₂.history = t.history := hext.history
    rw [Tree.getRootAtWidth, Map.get?_set, hhistory, href.width]
    by_cases hnew : width = xs.length + 1
    · rw [if_pos hnew, if_pos (by omega), hnew, ← hlength, List.take_length]
    · rw [if_neg hnew, ← Tree.getRootAtWidth, href.roots]
      by_cases hold : 0 < width ∧ width ≤ xs.length
      · rw [if_pos hold, if_pos (by omega), List.take_append_of_le_length hold.2]
      · rw [if_neg hold, if_neg (by omega)]
  · intro index hash hs
    refine hext.stored index hash ?_
    rw [getNodeHash_withLeaf, if_neg]
    · exact hs
    · intro heq
      rw [heq, href.width, href.leaf_unset] at hs
      cases hs

/-- Below `2^126` leaves every node is within the limit of the index arithmetic. -/
theorem treeSize_lt_limit {n : ℕ} (hn : n < 2 ^ 126) : treeSize n < INDEX_LIMIT := by
  have hlargest : treeSize (2 ^ 126 - 1) < INDEX_LIMIT := by decide +kernel
  have hmono : treeSize n ≤ treeSize (2 ^ 126 - 1) := treeSize_mono (by omega)
  omega

/-- An append below `2^126` leaves is accepted. -/
theorem append_total (href : Refines poseidon2 xs t) (hlen : xs.length + 1 < 2 ^ 126)
    (hnonzero : ∀ k h, Complete (xs ++ [x]).length k h → refNode poseidon2 (xs ++ [x]) k h ≠ 0) :
    ∃ t', append poseidon2 x t = .ok (position xs.length 0, t') := by
  have hlength : (xs ++ [x]).length = xs.length + 1 := by simp
  have hlimit := treeSize_lt_limit hlen
  have hcomplete : ∀ p ∈ peakNodes (xs ++ [x]).length, Complete (xs ++ [x]).length p.1 p.2 :=
    fun p hmem => complete_of_mem_peakNodes hmem
  have hsize : ∀ p ∈ peakNodes (xs ++ [x]).length, position p.1 p.2 ≤ treeSize (xs.length + 1) := by
    intro p hmem
    rw [← hlength]
    exact (hcomplete p hmem).position_le
  obtain ⟨⟨peaks, t₂⟩, hnodes⟩ := getOrCreateNodes_total (href.withLeaf x) hnonzero hcomplete
    (fun p hmem => (hsize p hmem).trans_lt hlimit) hsize
  have hpeaks := (getOrCreateNodes_ok (href.withLeaf x) hcomplete hnodes).1
  have hwidth : (xs ++ [x]).length < 2 ^ 127 := by omega
  have hbag : peakBagging poseidon2 (xs ++ [x]).length (refPeaks poseidon2 (xs ++ [x]))
      = .ok (refRoot poseidon2 (xs ++ [x])) := peakBagging_eq hwidth
  rw [refPeaks_eq, ← hpeaks] at hbag
  rw [hlength] at hnodes hbag hwidth
  rw [← href.width] at hnodes hbag hwidth ⊢
  exact ⟨_, append_iff.mpr ⟨hwidth, rfl, peaks, t₂, _, hnodes, hbag, rfl⟩⟩

/-- The append that would make `2^126` leaves is refused: the one peak's index is past the limit. -/
theorem append_limit (href : Refines poseidon2 xs t) (hlen : xs.length + 1 = 2 ^ 126)
    (ok : append poseidon2 x t = .ok (i, t')) : False := by
  obtain ⟨-, -, peaks, t₂, -, hnodes, -⟩ := append_iff.mp ok
  have hpeaks : peakPositions (t.width + 1) = [position 0 126] := by
    rw [href.width, hlen]
    decide +kernel
  rw [hpeaks, getOrCreateNodes, Tx.bind_ok] at hnodes
  obtain ⟨peak, t₁, hnode, -⟩ := hnodes
  have hunset : (t.withLeaf poseidon2 x).nodeHash (position 0 126) = 0 := by
    have hnone : (t.withLeaf poseidon2 x).getNodeHash (position 0 126) = none := by
      rw [getNodeHash_withLeaf, if_neg]
      · cases hs : t.getNodeHash (position 0 126) with
        | none => rfl
        | some hash =>
          have hc := href.complete (Option.isSome_iff_exists.mpr ⟨hash, hs⟩)
          have hle : (0 + 1) * 2 ^ 126 ≤ xs.length := hc
          omega
      · intro heq
        have hlevel := (position_inj heq).2
        omega
    rw [Tree.nodeHash, hnone]
    rfl
  have hlimit : INDEX_LIMIT ≤ position 0 126 := by decide +kernel
  unfold getOrCreateNode at hnode
  simp only [Tx.bind_demand_ok, Tx.bind_read_ok, Tx.ite_apply] at hnode
  rw [if_neg (not_not.mpr hunset), Tx.bind_lift_ok] at hnode
  obtain ⟨-, children, hchildren, -⟩ := hnode
  rw [getChildren_limit hlimit] at hchildren
  cases hchildren

/-! ## Any number of appends -/

variable {ys : List BytesN32}

theorem refines_empty : Refines poseidon2 [] Tree.empty where
  width := rfl
  size := by
    rw [refNodes_length, List.length_nil, treeSize_zero]
    rfl
  root := rfl
  peaks := rfl
  stored index := by
    have hnone : Tree.empty.getNodeHash index = none := rfl
    rw [hnone]
    split
    · rfl
    · symm
      rw [List.getElem?_eq_none_iff, refNodes_length, List.length_nil, treeSize_zero]
      exact Nat.zero_le _
  roots width := by
    have hnone : Tree.empty.getRootAtWidth width = none := rfl
    rw [hnone, if_neg]
    rw [List.length_nil]
    omega

/-- Accepted appends lead from the reference over a history to the one over the longer history, keep
what is stored, and stay below `2^126` leaves. -/
theorem appendAll_ok {r : Unit} (href : Refines poseidon2 xs t)
    (ok : appendAll poseidon2 ys t = .ok (r, t')) :
    Refines poseidon2 (xs ++ ys) t' ∧ (xs.length < 2 ^ 126 → (xs ++ ys).length < 2 ^ 126) ∧
      ∀ index hash, t.getNodeHash index = some hash → t'.getNodeHash index = some hash := by
  induction ys generalizing xs t with
  | nil =>
    cases Tx.pure_ok.mp ok
    rw [List.append_nil]
    exact ⟨href, id, fun _ _ hs => hs⟩
  | cons y ys ih =>
    rw [appendAll, Tx.bind_ok] at ok
    obtain ⟨i, t₁, hfirst, hrest⟩ := ok
    obtain ⟨-, href₁, hkeep₁⟩ := append_ok href hfirst
    obtain ⟨href₂, hlen, hkeep₂⟩ := ih href₁ hrest
    have hassoc : xs ++ [y] ++ ys = xs ++ y :: ys := by simp
    rw [hassoc] at href₂ hlen
    refine ⟨href₂, fun hlt => hlen ?_, fun index hash hs => hkeep₂ _ _ (hkeep₁ _ _ hs)⟩
    have hne : xs.length + 1 ≠ 2 ^ 126 := fun heq => append_limit href heq hfirst
    rw [List.length_append, List.length_singleton]
    omega

theorem appendAll_append {u : Unit} : appendAll poseidon2 (xs ++ ys) t = .ok (u, t') ↔
    ∃ t₁, appendAll poseidon2 xs t = .ok ((), t₁) ∧ appendAll poseidon2 ys t₁ = .ok (u, t') := by
  induction xs generalizing t with
  | nil => simp [appendAll]
  | cons x xs ih =>
    rw [List.cons_append, appendAll, Tx.bind_ok]
    constructor
    · rintro ⟨i, t₀, hfirst, hrest⟩
      obtain ⟨t₁, hmiddle, hlast⟩ := ih.mp hrest
      exact ⟨t₁, Tx.bind_ok.mpr ⟨i, t₀, hfirst, hmiddle⟩, hlast⟩
    · rintro ⟨t₁, hstart, hlast⟩
      rw [appendAll, Tx.bind_ok] at hstart
      obtain ⟨i, t₀, hfirst, hmiddle⟩ := hstart
      exact ⟨i, t₀, hfirst, ih.mpr ⟨t₁, hmiddle, hlast⟩⟩

/-- Appends below `2^126` leaves are accepted. -/
theorem appendAll_total (href : Refines poseidon2 xs t) (hlen : (xs ++ ys).length < 2 ^ 126)
    (hnonzero : ∀ k h, Complete (xs ++ ys).length k h → refNode poseidon2 (xs ++ ys) k h ≠ 0) :
    ∃ t', appendAll poseidon2 ys t = .ok ((), t') := by
  induction ys generalizing xs t with
  | nil => exact ⟨t, Tx.pure_ok.mpr rfl⟩
  | cons y ys ih =>
    have hassoc : xs ++ y :: ys = xs ++ [y] ++ ys := by simp
    have hle : (xs ++ [y]).length ≤ (xs ++ y :: ys).length := by simp
    have hlength : (xs ++ [y]).length = xs.length + 1 := by simp
    obtain ⟨t₁, hfirst⟩ := append_total href (x := y) (by omega) fun k h hc => by
      have hlonger := hnonzero k h (hc.mono hle)
      rw [hassoc, refNode_append hc] at hlonger
      exact hlonger
    obtain ⟨-, href₁, -⟩ := append_ok href hfirst
    rw [hassoc] at hlen hnonzero
    obtain ⟨t', hrest⟩ := ih href₁ hlen hnonzero
    exact ⟨t', Tx.bind_ok.mpr ⟨_, t₁, hfirst, hrest⟩⟩

/-- The history of an accepted sequence of appends has fewer than `2^126` leaves, and the contract
stores the reference over it. -/
theorem accepted_refines {u : Unit} (ok : appendAll poseidon2 xs Tree.empty = .ok (u, t)) :
    Refines poseidon2 xs t ∧ xs.length < 2 ^ 126 := by
  obtain ⟨href, hlen, -⟩ := appendAll_ok refines_empty ok
  exact ⟨href, hlen (by decide)⟩

end MerkleManager
end ProofBridge
