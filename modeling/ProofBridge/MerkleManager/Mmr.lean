import ProofBridge.Core.Outside

/-!
# The Merkle mountain range of the MerkleManager

Indexing is 1-based. The functions below are the contract's own, on `u128` indexes: an addition,
subtraction or shift that leaves its width traps, and so does a failed assertion. Poseidon2 over
BN254 is outside the repository; it is the parameter `poseidon2`, from the list of its inputs.

A loop of the source is a recursion over the turns it can take at most. Where the recursion would
end first, the source's own shift has trapped before.
-/

namespace ProofBridge
namespace MerkleManager

open ContractLib

/-- Everything the contract refuses with. -/
inductive MerkleError
  | alreadyInitialized
  | notInitialized
  | notManager
  | zeroAddress
  | notPendingAdmin
  | timelockAlreadyActive
  | timelockAlreadyProposed
  | timelockNotProposed
  | timelockTooEarly
  | timelockBadArgs
  | timelockExpired
  | timelockCancelledByBrake
  | escrowAppender
  deriving DecidableEq, Repr

/-- `value << bits` on `u128`: what leaves the width is lost, and a shift by the width traps. -/
def shl (value bits : ℕ) : Check MerkleError ℕ :=
  if bits < 128 then .ok (value * 2 ^ bits % 2 ^ 128) else .error (.trap .overflow)

/-- `keccak256("ProofBridge.MMR.v1") mod p`: the domain tag bound into the root. -/
def DOMAIN_TAG : BytesN32 := 0x1007fd40caf0e39d3ffbecd91e2d9469b3f2294a6794c372eb5406a496b6e4ec

/-- `u128_to_u256`. -/
def u128ToU256 (value : ℕ) : BytesN32 := BitVec.ofNat 256 value

/-! ## Pure functions -/

/-- The loop of `num_of_peaks`: clear the lowest set bit. A `u128` has 128 bits to clear. -/
def numOfPeaksFrom : ℕ → ℕ → ℕ → ℕ
  | 0, _, count => count
  | turns + 1, bits, count =>
    if 0 < bits then numOfPeaksFrom turns (bits &&& (bits - 1)) (count + 1) else count

/-- Count the number of peaks (popcount of width). -/
def numOfPeaks (width : ℕ) : ℕ := numOfPeaksFrom 128 width 0

/-- `(width << 1) - popcount(width)`. -/
def calcSize (width : ℕ) : Check MerkleError ℕ := do
  let doubled ← shl width 1
  Check.sub doubled (numOfPeaks width)

/-- The smallest `max_height` with `width < 1 << max_height`. -/
def maxHeightFrom (width : ℕ) : ℕ → ℕ → Check MerkleError ℕ
  | 0, _ => .error (.trap .overflow)
  | turns + 1, maxHeight => do
    let bit ← shl 1 maxHeight
    if bit ≤ width then maxHeightFrom width turns (maxHeight + 1) else pure maxHeight

/-- The loop of `get_peak_indexes`, from the highest digit down. -/
def peakIndexesFrom (width : ℕ) : ℕ → ℕ → Check MerkleError (List ℕ)
  | 0, _ => .ok []
  | i + 1, runningSize => do
    let bit ← shl 1 i
    if width &&& bit ≠ 0 then
      let mountain ← shl 1 (i + 1)
      let sum ← Check.add 128 runningSize mountain
      let next ← Check.sub sum 1
      let rest ← peakIndexesFrom width i next
      pure (next :: rest)
    else peakIndexesFrom width i runningSize

/-- Get peak indexes for a given width. -/
def getPeakIndexes (width : ℕ) : Check MerkleError (List ℕ) :=
  if width = 0 then .ok []
  else do
    let maxHeight ← maxHeightFrom width 128 1
    let peakIndexes ← peakIndexesFrom width maxHeight 0
    Check.demand (peakIndexes.length = numOfPeaks width) .panicked
    pure peakIndexes

/-- Get the leaf index for a given width, a 1-indexed count of leaves. -/
def getLeafIndex (width : ℕ) : Check MerkleError ℕ :=
  if width % 2 = 1 then calcSize width
  else do
    let before ← Check.sub width 1
    let size ← calcSize before
    Check.add 128 size 1

/-- The loop of `mountain_height`. -/
def mountainHeightFrom (size : ℕ) : ℕ → ℕ → Check MerkleError ℕ
  | 0, _ => .error (.trap .overflow)
  | turns + 1, height => do
    let bit ← shl 1 height
    let limit ← Check.add 128 size height
    if bit ≤ limit then mountainHeightFrom size turns (height + 1) else pure (height - 1)

/-- Calculate the mountain height for a given size. -/
def mountainHeight (size : ℕ) : Check MerkleError ℕ := mountainHeightFrom size 128 1

/-- The loop of `height_at`: take off the largest mountain until the index is on its right edge. The
mountains get lower, so it ends within 128 turns. -/
def heightFrom : ℕ → ℕ → ℕ → ℕ → Check MerkleError ℕ
  | 0, _, _, _ => .error (.trap .overflow)
  | turns + 1, reducedIndex, peakIndex, height =>
    if peakIndex < reducedIndex then do
      let bit ← shl 1 height
      let mountain ← Check.sub bit 1
      let reduced ← Check.sub reducedIndex mountain
      let next ← mountainHeight reduced
      let nextBit ← shl 1 next
      let nextPeak ← Check.sub nextBit 1
      heightFrom turns reduced nextPeak next
    else do
      let below ← Check.sub peakIndex reducedIndex
      Check.sub height (below % 2 ^ 8)

/-- Get the height of a node at a given index. -/
def heightAt (index : ℕ) : Check MerkleError ℕ := heightFrom 129 index 0 0

/-- Check if an index is a leaf node. -/
def isLeaf (index : ℕ) : Check MerkleError Bool := do
  let h ← heightAt index
  pure (h = 1)

/-- Get the children of a node at a given index: the left one and the right one. -/
def getChildren (index : ℕ) : Check MerkleError (ℕ × ℕ) := do
  let h ← heightAt index
  let below ← Check.sub h 1
  let half ← shl 1 below
  let left ← Check.sub index half
  let right ← Check.sub index 1
  Check.demand (left ≠ right) .panicked
  pure (left, right)

section Hashing

variable (poseidon2 : List BytesN32 → BytesN32)

/-- What a leaf's hash is taken of. -/
def leafInputs (index : ℕ) (dataHash : BytesN32) : List BytesN32 := [u128ToU256 index, dataHash]

/-- What a branch's hash is taken of. -/
def branchInputs (index : ℕ) (left right : BytesN32) : List BytesN32 :=
  [u128ToU256 index, left, right]

/-- What the root is the hash of. -/
def rootInputs (size : ℕ) (acc : BytesN32) : List BytesN32 := [DOMAIN_TAG, u128ToU256 size, acc]

def hashLeaf (index : ℕ) (dataHash : BytesN32) : BytesN32 := poseidon2 (leafInputs index dataHash)

def hashBranch (index : ℕ) (left right : BytesN32) : BytesN32 :=
  poseidon2 (branchInputs index left right)

/-- Leaf-side binding: `poseidon2(field_mod(orderHash), side)`. -/
def encodeLeaf (orderHash : BytesN32) (side : U32) : BytesN32 :=
  poseidon2 [fieldMod orderHash, u128ToU256 side.toNat]

/-- Fold the peaks, seeded by the first one. -/
def foldPeaks (first : BytesN32) (rest : List BytesN32) : BytesN32 :=
  rest.foldl (fun acc peak => poseidon2 [acc, peak]) first

/-- Compute peak bagging: fold peaks into a single root, and bind size and domain once. -/
def peakBagging (width : ℕ) (peaks : List BytesN32) : Check MerkleError BytesN32 :=
  if width = 0 then .ok 0
  else do
    let size ← calcSize width
    Check.demand (numOfPeaks width = peaks.length) .panicked
    let first ← Check.expectTrap peaks.head? .panicked
    pure (poseidon2 (rootInputs size (foldPeaks poseidon2 first peaks.tail)))

end Hashing

/-! ## Storage -/

/-- The range as the contract stores it. -/
structure Tree where
  root : BytesN32
  /-- The total node count. -/
  size : ℕ
  /-- The leaf count. -/
  width : ℕ
  /-- Node hashes by index. -/
  hashes : Map ℕ BytesN32
  /-- Roots by width. -/
  history : Map ℕ BytesN32

namespace Tree

/-- What an unset range reads as. -/
def empty : Tree where
  root := 0
  size := 0
  width := 0
  hashes := ∅
  history := ∅

def getNodeHash (t : Tree) (index : ℕ) : Option BytesN32 := t.hashes.get? index

/-- A node's hash; an unset one reads as zero. -/
def nodeHash (t : Tree) (index : ℕ) : BytesN32 := (t.getNodeHash index).getD 0

def getRootAtWidth (t : Tree) (width : ℕ) : Option BytesN32 := t.history.get? width

end Tree

def setNodeHash (index : ℕ) (hash : BytesN32) : Tx MerkleError Tree Unit :=
  Tx.modify fun t => { t with hashes := t.hashes.set index hash }

/-! ## Append -/

section Append

variable (poseidon2 : List BytesN32 → BytesN32)

/-- Get or create a node hash at the given index. Recursively computes branch hashes if not cached.
A node is at most 128 levels above the leaves. -/
def getOrCreateNode : ℕ → ℕ → ℕ → Tx MerkleError Tree BytesN32
  | 0, _, _ => Tx.demand False .panicked >>= fun _ => pure 0
  | levels + 1, index, size => do
    Tx.demand (index ≤ size) .panicked
    let t ← Tx.read
    if t.nodeHash index ≠ 0 then pure (t.nodeHash index)
    else
      -- not cached: must be a branch node, compute from children
      let children ← Tx.lift (getChildren index)
      let left ← getOrCreateNode levels children.1 size
      let right ← getOrCreateNode levels children.2 size
      setNodeHash index (hashBranch poseidon2 index left right)
      pure (hashBranch poseidon2 index left right)

/-- The node hashes of all the peaks. -/
def getOrCreateNodes (size : ℕ) : List ℕ → Tx MerkleError Tree (List BytesN32)
  | [] => pure []
  | index :: rest => do
    let peak ← getOrCreateNode poseidon2 128 index size
    let peaks ← getOrCreateNodes size rest
    pure (peak :: peaks)

/-- Append a new leaf to the range. Answers the new leaf's index. -/
def append (dataHash : BytesN32) : Tx MerkleError Tree ℕ := do
  let t ← Tx.read
  let width ← Tx.lift (Check.add 128 t.width 1)
  Tx.modify fun t => { t with width }
  let leafIndex ← Tx.lift (getLeafIndex width)
  setNodeHash leafIndex (hashLeaf poseidon2 leafIndex (fieldMod dataHash))
  let peakIndexes ← Tx.lift (getPeakIndexes width)
  let size ← Tx.lift (calcSize width)
  Tx.modify fun t => { t with size }
  let peaks ← getOrCreateNodes poseidon2 size peakIndexes
  let newRoot ← Tx.lift (peakBagging poseidon2 width peaks)
  Tx.modify fun t => { t with root := newRoot, history := t.history.set width newRoot }
  pure leafIndex

/-- Append data hashes one after the other, the first one first. -/
def appendAll : List BytesN32 → Tx MerkleError Tree Unit
  | [] => pure ()
  | dataHash :: rest => do
    let _ ← append poseidon2 dataHash
    appendAll rest

end Append

/-- All current peak hashes (same order as in peak bagging). -/
def getPeaks (t : Tree) : Check MerkleError (List BytesN32) := do
  let peakIndexes ← getPeakIndexes t.width
  pure (peakIndexes.map t.nodeHash)

/-! ## Proof generation and verification -/

/-- The descent of `get_merkle_proof`: from `cur` down to `index`, recording siblings. -/
def descend (t : Tree) (index : ℕ) : ℕ → ℕ → List BytesN32 → Check MerkleError (List BytesN32)
  | 0, cur, siblings => if cur = index then .ok siblings else .error (.trap .underflow)
  | level + 1, cur, siblings =>
    if cur = index then .ok siblings
    else do
      let children ← getChildren cur
      let next := if index ≤ children.1 then children.1 else children.2
      let sibling := if index ≤ children.1 then children.2 else children.1
      let slot ← Check.sub level 1
      Check.demand (slot < siblings.length) .panicked
      descend t index level next (siblings.set slot (t.nodeHash sibling))

/-- Build a Merkle inclusion proof for a leaf at `index`: the root, the width, the peaks and the
siblings. -/
def getMerkleProof (t : Tree) (index : ℕ) :
    Check MerkleError (BytesN32 × ℕ × List BytesN32 × List BytesN32) := do
  Check.demand (index ≤ t.size) .panicked
  let leaf ← isLeaf index
  Check.demand (leaf = true) .panicked
  let peakIndexes ← getPeakIndexes t.width
  let cursor := peakIndexes.foldl
    (fun cursor peak => if index ≤ peak ∧ cursor = 0 then peak else cursor) 0
  Check.demand (cursor ≠ 0) .panicked
  let h ← heightAt cursor
  let slots ← Check.sub h 1
  let siblings ← descend t index h cursor (List.replicate slots 0)
  pure (t.root, t.width, peakIndexes.map t.nodeHash, siblings)

/-- The first peak at or after the index, with its hash from the bag. -/
def findPeak (index : ℕ) : List ℕ → List BytesN32 → Check MerkleError (BytesN32 × ℕ)
  | [], _ => .ok (0, 0)
  | peak :: rest, bag =>
    if index ≤ peak then do
      let target ← Check.expectTrap bag.head? .panicked
      pure (target, peak)
    else findPeak index rest bag.tail

/-- Walk down from the peak to `index`, recording the path. -/
def walkDown (index : ℕ) : ℕ → ℕ → List ℕ → Check MerkleError (ℕ × List ℕ)
  | 0, _, _ => .error (.trap .underflow)
  | h + 1, cursor, path =>
    if cursor = index then .ok (h, path.set h cursor)
    else do
      let children ← getChildren cursor
      walkDown index h (if children.1 < index then children.2 else children.1)
        (path.set h cursor)

/-- What the walk up hashes at height `h`, over `node` from below. -/
def climbInputs (valueHash : BytesN32) (path : List ℕ) (siblings : List BytesN32) (h : ℕ)
    (node : BytesN32) : Check MerkleError (List BytesN32) := do
  let cursor ← Check.expectTrap path[h]? .panicked
  if h = 0 then pure (leafInputs cursor valueHash)
  else
    let prev ← Check.expectTrap path[h - 1]? .panicked
    let sibling ← Check.expectTrap siblings[h - 1]? .panicked
    let right ← Check.sub cursor 1
    pure (if right = prev then branchInputs cursor sibling node
      else branchInputs cursor node sibling)

/-- Walk up recomputing hashes. -/
def walkUp (poseidon2 : List BytesN32 → BytesN32) (valueHash : BytesN32) (path : List ℕ)
    (siblings : List BytesN32) : ℕ → ℕ → BytesN32 → Check MerkleError BytesN32
  | 0, _, node => .ok node
  | turns + 1, h, node => do
    let inputs ← climbInputs valueHash path siblings h node
    walkUp poseidon2 valueHash path siblings turns (h + 1) (poseidon2 inputs)

/-- Stateless inclusion proof verification. -/
def verifyInclusion (poseidon2 : List BytesN32 → BytesN32) (root : BytesN32) (width index : ℕ)
    (valueHash : BytesN32) (peakBag siblings : List BytesN32) : Check MerkleError Bool := do
  let size ← calcSize width
  Check.demand (index ≤ size) .panicked
  let bagged ← peakBagging poseidon2 width peakBag
  Check.demand (root = bagged) .panicked
  let peakIndexes ← getPeakIndexes width
  let target ← findPeak index peakIndexes peakBag
  Check.demand (target.1 ≠ 0) .panicked
  let pathLen ← Check.add 32 siblings.length 1
  let walk ← walkDown index pathLen target.2 (List.replicate pathLen 0)
  let node ← walkUp poseidon2 valueHash walk.2 siblings (pathLen - walk.1) walk.1 0
  Check.demand (node = target.1) .panicked
  pure true

end MerkleManager
end ProofBridge
