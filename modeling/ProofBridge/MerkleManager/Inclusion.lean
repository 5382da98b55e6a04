import ProofBridge.MerkleManager.Binding

/-!
# Inclusion proofs

The verifier walks down from the peak over the index it is given, as many levels as there are
siblings, and hashes back up. Compared with a peak of the reference, hashing back up can be undone
from the top: at each level collision freedom makes the value from below and the sibling the two
children the reference has there, so the walk ends at a leaf, on its data, with every sibling used.
-/

namespace ProofBridge
namespace MerkleManager

open ContractLib ContractLib.MountainRange

section Inputs

variable (poseidon2 : List BytesN32 → BytesN32) (valueHash : BytesN32) (path : List ℕ)
  (siblings : List BytesN32)

/-- What the walk up hashes. -/
def walkUpInputs : ℕ → ℕ → BytesN32 → List (List BytesN32)
  | 0, _, _ => []
  | turns + 1, h, node =>
    match climbInputs valueHash path siblings h node with
    | .ok inputs => inputs :: walkUpInputs turns (h + 1) (poseidon2 inputs)
    | .error _ => []

end Inputs

/-- The walk down of `verifyInclusion`, and from which height it comes back. -/
def walkOf (width index : ℕ) (peakBag siblings : List BytesN32) :
    Check MerkleError (ℕ × List ℕ) := do
  let peakIndexes ← getPeakIndexes width
  let target ← findPeak index peakIndexes peakBag
  walkDown index (siblings.length + 1) target.2 (List.replicate (siblings.length + 1) 0)

/-- Everything `verifyInclusion` hashes. -/
def verified (poseidon2 : List BytesN32 → BytesN32) (width index : ℕ) (valueHash : BytesN32)
    (peakBag siblings : List BytesN32) : Set (List BytesN32) :=
  {inputs | (width ≠ 0 ∧ inputs ∈ baggingInputs poseidon2 (treeSize width) peakBag) ∨
    ∃ walk, walkOf width index peakBag siblings = .ok walk ∧ inputs ∈ walkUpInputs poseidon2
      valueHash walk.2 siblings (siblings.length + 1 - walk.1) walk.1 0}

variable {poseidon2 : List BytesN32 → BytesN32} {xs : List BytesN32} {t : Tree} {k h : ℕ}
  {valueHash : BytesN32} {path : List ℕ} {siblings : List BytesN32}

/-! ## The walks -/

/-- The walk down writes one entry for each level it passes. -/
theorem walkDown_ok {index n cursor : ℕ} {r : ℕ × List ℕ}
    (ok : walkDown index n cursor path = .ok r) (hn : n ≤ path.length) :
    r.1 < n ∧ (∀ j, n ≤ j ∨ j < r.1 → r.2[j]? = path[j]?) ∧ r.2[n - 1]? = some cursor := by
  induction n generalizing cursor path with
  | zero => cases ok
  | succ h ih =>
    unfold walkDown at ok
    split at ok
    · cases ok
      refine ⟨Nat.lt_succ_self h, fun j hj => ?_, ?_⟩
      · exact List.getElem?_set_ne (by omega)
      · exact List.getElem?_set_self (by omega)
    · rw [Check.bind_ok] at ok
      obtain ⟨children, -, ok⟩ := ok
      obtain ⟨hlow, hkeep, -⟩ := ih ok (by rw [List.length_set]; omega)
      refine ⟨by omega, fun j hj => ?_, ?_⟩
      · rw [hkeep j (by omega)]
        exact List.getElem?_set_ne (by omega)
      · rw [Nat.add_sub_cancel, hkeep h (by omega)]
        exact List.getElem?_set_self (by omega)

/-- The walk up, its last level first. -/
theorem walkUp_succ {turns : ℕ} {node r : BytesN32} :
    walkUp poseidon2 valueHash path siblings (turns + 1) h node = .ok r ↔
      ∃ below inputs, walkUp poseidon2 valueHash path siblings turns h node = .ok below ∧
        climbInputs valueHash path siblings (h + turns) below = .ok inputs ∧
        r = poseidon2 inputs := by
  induction turns generalizing h node with
  | zero =>
    unfold walkUp
    rw [Check.bind_ok]
    constructor
    · rintro ⟨inputs, hinputs, hr⟩
      exact ⟨node, inputs, rfl, hinputs, (Except.ok.inj hr).symm⟩
    · rintro ⟨below, inputs, hbelow, hinputs, rfl⟩
      cases hbelow
      exact ⟨inputs, hinputs, rfl⟩
  | succ turns ih =>
    have hshift : h + 1 + turns = h + (turns + 1) := by omega
    rw [walkUp, Check.bind_ok]
    constructor
    · rintro ⟨first, hfirst, hrest⟩
      obtain ⟨below, inputs, hbelow, hinputs, hr⟩ := ih.mp hrest
      rw [hshift] at hinputs
      exact ⟨below, inputs, Check.bind_ok.mpr ⟨first, hfirst, hbelow⟩, hinputs, hr⟩
    · rintro ⟨below, inputs, hbelow, hinputs, hr⟩
      rw [walkUp, Check.bind_ok] at hbelow
      obtain ⟨first, hfirst, hbelow⟩ := hbelow
      rw [← hshift] at hinputs
      exact ⟨first, hfirst, ih.mpr ⟨below, inputs, hbelow, hinputs, hr⟩⟩

/-- Everything hashed on the way is among the inputs of the walk. -/
theorem mem_walkUpInputs {turns : ℕ} {node below : BytesN32} {inputs : List BytesN32}
    (hbelow : walkUp poseidon2 valueHash path siblings turns h node = .ok below)
    (hinputs : climbInputs valueHash path siblings (h + turns) below = .ok inputs) :
    inputs ∈ walkUpInputs poseidon2 valueHash path siblings (turns + 1) h node ∧
      ∀ inputs' ∈ walkUpInputs poseidon2 valueHash path siblings turns h node,
        inputs' ∈ walkUpInputs poseidon2 valueHash path siblings (turns + 1) h node := by
  induction turns generalizing h node with
  | zero =>
    cases hbelow
    rw [Nat.add_zero] at hinputs
    unfold walkUpInputs
    rw [hinputs]
    exact ⟨List.mem_cons_self, fun _ hmem => by cases hmem⟩
  | succ turns ih =>
    have hshift : h + 1 + turns = h + (turns + 1) := by omega
    rw [walkUp, Check.bind_ok] at hbelow
    obtain ⟨first, hfirst, hbelow⟩ := hbelow
    rw [← hshift] at hinputs
    obtain ⟨hlast, hrest⟩ := ih hbelow hinputs
    have hhead : ∀ n, walkUpInputs poseidon2 valueHash path siblings (n + 1) h node
        = first :: walkUpInputs poseidon2 valueHash path siblings n (h + 1) (poseidon2 first) := by
      intro n
      rw [walkUpInputs, hfirst]
    rw [hhead, hhead]
    refine ⟨List.mem_cons_of_mem _ hlast, fun inputs' hmem => ?_⟩
    rcases List.mem_cons.mp hmem with rfl | hmem
    · exact List.mem_cons_self
    · exact List.mem_cons_of_mem _ (hrest _ hmem)

/-- What the walk up hashes at a level above the leaves. -/
theorem climbInputs_succ {node : BytesN32} {inputs : List BytesN32} :
    climbInputs valueHash path siblings (h + 1) node = .ok inputs ↔
      ∃ cursor prev side, path[h + 1]? = some cursor ∧ path[h]? = some prev ∧
        siblings[h]? = some side ∧ 1 ≤ cursor ∧
        inputs = if cursor - 1 = prev then branchInputs cursor side node
          else branchInputs cursor node side := by
  simp only [climbInputs, Check.bind_ok, Check.expectTrap_ok, Check.sub_ok, Check.pure_ok,
    Nat.add_sub_cancel, Nat.succ_ne_zero, if_false]
  constructor
  · rintro ⟨cursor, hcursor, prev, hprev, side, hside, right, ⟨hpos, rfl⟩, rfl⟩
    exact ⟨cursor, prev, side, hcursor, hprev, hside, hpos, rfl⟩
  · rintro ⟨cursor, prev, side, hcursor, hprev, hside, hpos, rfl⟩
    exact ⟨cursor, hcursor, prev, hprev, side, hside, cursor - 1, ⟨hpos, rfl⟩, rfl⟩

theorem climbInputs_zero {node : BytesN32} {inputs : List BytesN32} :
    climbInputs valueHash path siblings 0 node = .ok inputs ↔
      ∃ cursor, path[0]? = some cursor ∧ inputs = leafInputs cursor valueHash := by
  simp only [climbInputs, Check.bind_ok, Check.expectTrap_ok, if_true, Check.pure_ok]

/-! ## Soundness -/

variable {S : Set (List BytesN32)} {K m index : ℕ}

variable (poseidon2 xs) in
/-- The siblings of a leaf, from the bottom up to a peak of level `h`. -/
def refSiblings (k h : ℕ) : List BytesN32 :=
  (List.range h).map fun j => refNode poseidon2 xs (sibling (k / 2 ^ j)) j

/-- A leaf and a branch hash lists of different lengths. -/
theorem nodeInputs_leaf {index : ℕ} {hash : BytesN32}
    (heq : leafInputs index hash = nodeInputs poseidon2 xs k h) :
    h = 0 ∧ hash = fieldMod (dataOf xs k) := by
  cases h with
  | zero =>
    simp only [nodeInputs, leafInputs, List.cons.injEq] at heq
    exact ⟨rfl, heq.2.1⟩
  | succ h =>
    have hlengths := congrArg List.length heq
    cases hlengths

theorem nodeInputs_branch {index : ℕ} {left right : BytesN32}
    (heq : branchInputs index left right = nodeInputs poseidon2 xs k h) :
    ∃ h', h = h' + 1 ∧ left = refNode poseidon2 xs (2 * k) h' ∧
      right = refNode poseidon2 xs (2 * k + 1) h' := by
  cases h with
  | zero =>
    have hlengths := congrArg List.length heq
    cases hlengths
  | succ h =>
    simp only [nodeInputs, branchInputs, List.cons.injEq] at heq
    exact ⟨h, rfl, heq.2.1, heq.2.2.1⟩

/-- A walk up to a node of the reference hashes last what that node is the hash of. -/
theorem walk_top {r : ℕ × List ℕ} (hinj : Set.InjOn poseidon2 S)
    (hhashed : hashed poseidon2 xs ⊆ S) (hc : Complete xs.length K m) (hlow : r.1 < h + 1)
    (hup : walkUp poseidon2 valueHash r.2 siblings (h + 1 - r.1) r.1 0
      = .ok (refNode poseidon2 xs K m))
    (hin : ∀ inputs ∈ walkUpInputs poseidon2 valueHash r.2 siblings (h + 1 - r.1) r.1 0,
      inputs ∈ S) :
    ∃ below, walkUp poseidon2 valueHash r.2 siblings (h - r.1) r.1 0 = .ok below ∧
      (∀ inputs ∈ walkUpInputs poseidon2 valueHash r.2 siblings (h - r.1) r.1 0, inputs ∈ S) ∧
      climbInputs valueHash r.2 siblings h below = .ok (nodeInputs poseidon2 xs K m) := by
  have hturns : h + 1 - r.1 = h - r.1 + 1 := by omega
  have hlevel : r.1 + (h - r.1) = h := by omega
  rw [hturns] at hup hin
  obtain ⟨below, inputs, hbelow, hinputs, hhash⟩ := walkUp_succ.mp hup
  obtain ⟨hlast, hothers⟩ := mem_walkUpInputs hbelow hinputs
  rw [refNode_eq] at hhash
  have hnode : nodeInputs poseidon2 xs K m = inputs :=
    hinj (hhashed (nodeInputs_hashed hc)) (hin _ hlast) hhash
  rw [hlevel, ← hnode] at hinputs
  exact ⟨below, hbelow, fun inputs' hmem => hin _ (hothers _ hmem), hinputs⟩

/-- Undoing the walk up from a node of the reference, by induction on the walk down to the index. -/
theorem walk_sound {r : ℕ × List ℕ} (hinj : Set.InjOn poseidon2 S)
    (hhashed : hashed poseidon2 xs ⊆ S)
    (hnonzero : ∀ k h, Complete xs.length k h → refNode poseidon2 xs k h ≠ 0)
    (hc : Complete xs.length K m) (hlength : h < path.length)
    (hdown : walkDown index (h + 1) (position K m) path = .ok r)
    (hup : walkUp poseidon2 valueHash r.2 siblings (h + 1 - r.1) r.1 0
      = .ok (refNode poseidon2 xs K m))
    (hin : ∀ inputs ∈ walkUpInputs poseidon2 valueHash r.2 siblings (h + 1 - r.1) r.1 0,
      inputs ∈ S) :
    h = m ∧ ∃ k, k / 2 ^ m = K ∧ index = position k 0 ∧ valueHash = fieldMod (dataOf xs k) ∧
      ∀ j < m, siblings[j]? = some (refNode poseidon2 xs (sibling (k / 2 ^ j)) j) := by
  induction h generalizing path K m with
  | zero =>
    obtain ⟨hlow, -, htop⟩ := walkDown_ok hdown hlength
    obtain ⟨below, -, -, hinputs⟩ := walk_top hinj hhashed hc hlow hup hin
    obtain ⟨cursor, hcursor, hinputs⟩ := climbInputs_zero.mp hinputs
    obtain ⟨rfl, hvalue⟩ := nodeInputs_leaf hinputs.symm
    unfold walkDown at hdown
    split at hdown
    · next heq =>
      refine ⟨rfl, K, ?_, heq.symm, hvalue, fun j hj => ?_⟩
      · rw [Nat.pow_zero, Nat.div_one]
      · omega
    · -- no level is left to walk down
      rw [Check.bind_ok] at hdown
      obtain ⟨children, -, hdown⟩ := hdown
      cases hdown
  | succ h ih =>
    obtain ⟨hlow, -, htop⟩ := walkDown_ok hdown hlength
    obtain ⟨below, hbelow, hothers, hinputs⟩ := walk_top hinj hhashed hc hlow hup hin
    obtain ⟨cursor, prev, side, hcursor, hprev, hside, hpos, hnode⟩ := climbInputs_succ.mp hinputs
    rw [Nat.add_sub_cancel, hcursor, Option.some.injEq] at htop
    subst htop
    unfold walkDown at hdown
    split at hdown
    · -- the walk stops above the leaves: the value from below is zero, which no child is
      cases hdown
      rw [Nat.sub_self] at hbelow
      cases hbelow
      split at hnode
      · obtain ⟨m', rfl, -, hzero⟩ := nodeInputs_branch hnode.symm
        exact absurd hzero.symm (hnonzero _ _ hc.right)
      · obtain ⟨m', rfl, hzero, -⟩ := nodeInputs_branch hnode.symm
        exact absurd hzero.symm (hnonzero _ _ hc.left)
    · rw [Check.bind_ok] at hdown
      obtain ⟨children, hchildren, hdown⟩ := hdown
      obtain ⟨m', rfl, rfl⟩ := branch_of_getChildren hchildren
      have hlength' : h < (path.set (h + 1) (position K (m' + 1))).length := by
        rw [List.length_set]
        omega
      obtain ⟨-, -, hprev'⟩ := walkDown_ok hdown hlength'
      rw [Nat.add_sub_cancel, hprev, Option.some.injEq] at hprev'
      have hright := position_right K m'
      have hleft := position_left K m'
      have hpow : 2 ^ 1 ≤ 2 ^ (m' + 1) := Nat.pow_le_pow_right (by decide) (by omega)
      simp only at hdown hprev'
      split at hdown
      · -- to the right child: the sibling is the left one
        next hlt =>
        rw [if_pos hlt] at hprev'
        rw [if_pos (by omega)] at hnode
        obtain ⟨m₁, hm, rfl, rfl⟩ := nodeInputs_branch hnode.symm
        cases hm
        obtain ⟨rfl, k, hk, hindex, hvalue, hsiblings⟩ :=
          ih hc.right hlength' hdown hbelow hothers
        refine ⟨rfl, k, ?_, hindex, hvalue, fun j hj => ?_⟩
        · rw [div_two_pow_succ, hk]
          omega
        · by_cases hlast : j = h
          · rw [hlast, hside, hk, sibling_two_mul_add_one]
          · exact hsiblings j (by omega)
      · -- to the left child: the sibling is the right one
        next hge =>
        rw [if_neg hge] at hprev'
        rw [if_neg (by omega)] at hnode
        obtain ⟨m₁, hm, rfl, rfl⟩ := nodeInputs_branch hnode.symm
        cases hm
        obtain ⟨rfl, k, hk, hindex, hvalue, hsiblings⟩ :=
          ih hc.left hlength' hdown hbelow hothers
        refine ⟨rfl, k, ?_, hindex, hvalue, fun j hj => ?_⟩
        · rw [div_two_pow_succ, hk]
          omega
        · by_cases hlast : j = h
          · rw [hlast, hside, hk, sibling_two_mul]
          · exact hsiblings j (by omega)

/-- The peak found for an index is one of the peaks, with its hash. -/
theorem findPeak_ok {l : List (ℕ × ℕ)} {target : BytesN32 × ℕ}
    (ok : findPeak index (l.map fun p => position p.1 p.2)
      (l.map fun p => refNode poseidon2 xs p.1 p.2) = .ok target) :
    target = (0, 0) ∨ ∃ p ∈ l, target = (refNode poseidon2 xs p.1 p.2, position p.1 p.2) := by
  induction l with
  | nil =>
    cases ok
    exact .inl rfl
  | cons p l ih =>
    simp only [List.map_cons, findPeak, List.head?_cons, List.tail_cons] at ok
    split at ok
    · cases ok
      exact .inr ⟨p, List.mem_cons_self, rfl⟩
    · rcases ih ok with hnone | ⟨q, hmem, htarget⟩
      · exact .inl hnone
      · exact .inr ⟨q, List.mem_cons_of_mem _ hmem, htarget⟩

/-- Bagging asks for as many peaks as the width has. -/
theorem peakBagging_ok {width : ℕ} {peaks : List BytesN32} {root : BytesN32}
    (hwidth : width < 2 ^ 127) (hne : width ≠ 0)
    (ok : peakBagging poseidon2 width peaks = .ok root) :
    peaks.length = ones width ∧ peaks ≠ [] ∧ root = bag poseidon2 (treeSize width) peaks := by
  rw [peakBagging, if_neg hne, calcSize_eq hwidth, Check.ok_bind, Check.bind_ok] at ok
  obtain ⟨⟨⟩, hcount, ok⟩ := ok
  rw [Check.demand_ok, numOfPeaks_eq (by omega)] at hcount
  rw [Check.bind_ok] at ok
  obtain ⟨first, hfirst, ok⟩ := ok
  rw [Check.expectTrap_ok] at hfirst
  cases peaks with
  | nil => cases hfirst
  | cons peak rest =>
    cases hfirst
    cases ok
    exact ⟨hcount.symm, List.cons_ne_nil _ _, rfl⟩

theorem bag_ne_zero {size : ℕ} {peaks : List BytesN32} (hne : peaks ≠ [])
    (hnonzero : ∀ inputs ∈ baggingInputs poseidon2 size peaks, poseidon2 inputs ≠ 0) :
    bag poseidon2 size peaks ≠ 0 := by
  cases peaks with
  | nil => exact absurd rfl hne
  | cons first rest => exact hnonzero _ List.mem_cons_self

theorem getElem?_refSiblings (j : ℕ) : (refSiblings poseidon2 xs k h)[j]?
    = if j < h then some (refNode poseidon2 xs (sibling (k / 2 ^ j)) j) else none := by
  rw [refSiblings, List.getElem?_map]
  by_cases hj : j < h
  · rw [List.getElem?_range hj, if_pos hj]
    rfl
  · rw [if_neg hj, List.getElem?_eq_none (by rw [List.length_range]; omega)]
    rfl

theorem refSiblings_eq (hlength : siblings.length = h)
    (hget : ∀ j < h, siblings[j]? = some (refNode poseidon2 xs (sibling (k / 2 ^ j)) j)) :
    siblings = refSiblings poseidon2 xs k h := by
  refine List.ext_getElem? fun j => ?_
  rw [getElem?_refSiblings]
  by_cases hj : j < h
  · rw [hget j hj, if_pos hj]
  · rw [if_neg hj, List.getElem?_eq_none (by omega)]

/-- Against the root of a history the verifier accepts only the history's own proofs: the width, a
leaf's position with its data, the peaks, and the siblings from the leaf up to its peak. -/
theorem inclusion_sound (poseidon2 : List BytesN32 → BytesN32) (xs : List BytesN32) (t : Tree)
    (ok : appendAll poseidon2 xs Tree.empty = .ok ((), t)) (width index : ℕ)
    (valueHash : BytesN32) (peakBag siblings : List BytesN32)
    (hinj : Set.InjOn poseidon2
      (hashed poseidon2 xs ∪ verified poseidon2 width index valueHash peakBag siblings))
    (hnonzero : ∀ inputs ∈ hashed poseidon2 xs ∪
      verified poseidon2 width index valueHash peakBag siblings, poseidon2 inputs ≠ 0)
    (accepted : verifyInclusion poseidon2 t.root width index valueHash peakBag siblings
      = .ok true) :
    width = xs.length ∧ peakBag = refPeaks poseidon2 xs ∧ ∃ k x h, xs[k]? = some x ∧
      index = position k 0 ∧ valueHash = fieldMod x ∧ (k / 2 ^ h, h) ∈ peakNodes xs.length ∧
      siblings = refSiblings poseidon2 xs k h := by
  obtain ⟨href, hlen⟩ := accepted_refines ok
  have hnodes : ∀ k h, Complete xs.length k h → refNode poseidon2 xs k h ≠ 0 := by
    intro k h hc
    rw [refNode_eq]
    exact hnonzero _ (.inl (nodeInputs_hashed hc))
  simp only [verifyInclusion, Check.bind_ok, Check.demand_ok, Check.add_ok, Check.pure_ok]
    at accepted
  obtain ⟨size, hsize, -, -, root, hbag, -, hroot, peakIndexes, hpeaks, target, htarget, -, hfound,
    pathLen, ⟨-, rfl⟩, walk, hwalk, node, hup, -, rfl, -⟩ := accepted
  have hwidth := lt_of_getPeakIndexes hpeaks
  have hne : width ≠ 0 := by
    rintro rfl
    cases hpeaks
    cases htarget
    exact hfound rfl
  obtain ⟨hcount, hbagged, rfl⟩ := peakBagging_ok hwidth hne hbag
  rw [href.root] at hroot
  -- the root binds the width and the peaks
  have hverified : ∀ inputs ∈ baggingInputs poseidon2 (treeSize width) peakBag,
      inputs ∈ hashed poseidon2 xs ∪
        verified poseidon2 width index valueHash peakBag siblings :=
    fun _ hmem => .inr (.inl ⟨hne, hmem⟩)
  have hnil : xs ≠ [] := by
    rintro rfl
    exact bag_ne_zero hbagged (fun _ hmem => hnonzero _ (hverified _ hmem)) hroot.symm
  have hsize' : treeSize xs.length < 2 ^ 256 := treeSize_lt (by omega)
  rw [refRoot_eq] at hroot
  obtain ⟨hsizes, hbags⟩ := bag_inj hinj (fun _ hmem => .inl (.inr hmem)) hverified
    (refPeaks_ne_nil hnil) hbagged hsize' (treeSize_lt hwidth) hroot
  obtain rfl : xs.length = width := treeSize_strictMono.injective hsizes
  obtain rfl : refPeaks poseidon2 xs = peakBag := hbags (by rw [refPeaks_length, hcount])
  refine ⟨rfl, rfl, ?_⟩
  -- the walk starts at a peak of the reference
  have hwalkOf : walkOf xs.length index (refPeaks poseidon2 xs) siblings = .ok walk :=
    Check.bind_ok.mpr ⟨_, hpeaks, Check.bind_ok.mpr ⟨_, htarget, hwalk⟩⟩
  have hwalked : ∀ inputs ∈ walkUpInputs poseidon2 valueHash walk.2 siblings
      (siblings.length + 1 - walk.1) walk.1 0, inputs ∈ hashed poseidon2 xs ∪
        verified poseidon2 xs.length index valueHash (refPeaks poseidon2 xs) siblings :=
    fun _ hmem => .inr (.inr ⟨walk, hwalkOf, hmem⟩)
  rw [getPeakIndexes_eq hwidth] at hpeaks
  cases hpeaks
  rw [refPeaks_eq, peakPositions] at htarget
  rcases findPeak_ok htarget with rfl | ⟨⟨K, m⟩, hmem, rfl⟩
  · exact absurd rfl hfound
  · have hstart : siblings.length < (List.replicate (siblings.length + 1) 0).length := by
      rw [List.length_replicate]
      omega
    obtain ⟨hlength, k, rfl, hindex, hvalue, hsiblings⟩ := walk_sound hinj
      (fun _ hmem => .inl hmem) hnodes (complete_of_mem_peakNodes hmem) hstart hwalk hup hwalked
    have hk : k < xs.length := by
      have hc := complete_of_mem_peakNodes hmem
      have hle : (k / 2 ^ m + 1) * 2 ^ m ≤ xs.length := hc
      have hlt : k < (k / 2 ^ m + 1) * 2 ^ m :=
        (Nat.div_lt_iff_lt_mul (two_pow_pos m)).mp (Nat.lt_succ_self _)
      omega
    refine ⟨k, xs[k], m, List.getElem?_eq_getElem hk, hindex, ?_, hmem,
      refSiblings_eq hlength hsiblings⟩
    rw [hvalue, dataOf, List.getD_eq_getElem?_getD, List.getElem?_eq_getElem hk]
    rfl

/-- The second leaf's hash: the sibling of the first leaf. -/
def sampleSibling : BytesN32 := 0x2cb3060fce2993703ae1ebfdb4aca2c07876db7151d098a6dfdf52772e383194

theorem inclusion_sound_sample : ∃ k x h, sampleLeaves[k]? = some x ∧ 1 = position k 0 ∧
    0x24e52cd6d3e40806474f1e5778a3efa5fe3f49b50a58dbe81cd2f79443bdc1c2 = fieldMod x ∧
    (k / 2 ^ h, h) ∈ peakNodes sampleLeaves.length ∧
    [sampleSibling] = refSiblings samplePoseidon2 sampleLeaves k h := by
  obtain ⟨t, ok⟩ := sample_accepted
  have hwalk : walkOf 2 1 (refPeaks samplePoseidon2 sampleLeaves) [sampleSibling]
      = .ok (0, [1, 3]) := by
    decide +kernel
  have hbagging : ∀ inputs ∈ baggingInputs samplePoseidon2 (treeSize 2)
      (refPeaks samplePoseidon2 sampleLeaves),
      inputs ∈ hashedTwo samplePoseidon2 sampleLeaves := by
    decide +kernel
  have hclimb : ∀ inputs ∈ walkUpInputs samplePoseidon2
      0x24e52cd6d3e40806474f1e5778a3efa5fe3f49b50a58dbe81cd2f79443bdc1c2 [1, 3] [sampleSibling]
      2 0 0, inputs ∈ hashedTwo samplePoseidon2 sampleLeaves := by
    decide +kernel
  have hinputs : ∀ inputs ∈ hashed samplePoseidon2 sampleLeaves ∪ verified samplePoseidon2 2 1
      0x24e52cd6d3e40806474f1e5778a3efa5fe3f49b50a58dbe81cd2f79443bdc1c2
      (refPeaks samplePoseidon2 sampleLeaves) [sampleSibling],
      inputs ∈ hashedTwo samplePoseidon2 sampleLeaves := by
    rintro inputs (hmem | ⟨-, hmem⟩ | ⟨walk, hwalk', hmem⟩)
    · exact mem_hashedTwo rfl hmem
    · exact hbagging inputs hmem
    · rw [hwalk] at hwalk'
      cases hwalk'
      exact hclimb inputs hmem
  have hinj : ∀ a ∈ hashedTwo samplePoseidon2 sampleLeaves,
      ∀ b ∈ hashedTwo samplePoseidon2 sampleLeaves,
      samplePoseidon2 a = samplePoseidon2 b → a = b := by
    decide +kernel
  have hnonzero : ∀ a ∈ hashedTwo samplePoseidon2 sampleLeaves, samplePoseidon2 a ≠ 0 := by
    decide +kernel
  have hverify : verifyInclusion samplePoseidon2 (refRoot samplePoseidon2 sampleLeaves) 2 1
      0x24e52cd6d3e40806474f1e5778a3efa5fe3f49b50a58dbe81cd2f79443bdc1c2
      (refPeaks samplePoseidon2 sampleLeaves) [sampleSibling] = .ok true := by
    decide +kernel
  rw [← (accepted_refines ok).1.root] at hverify
  exact (inclusion_sound samplePoseidon2 sampleLeaves t ok 2 1 _ _ _
    (fun a ha b hb heq => hinj a (hinputs a ha) b (hinputs b hb) heq)
    (fun a ha => hnonzero a (hinputs a ha)) hverify).2.2

end MerkleManager
end ProofBridge
