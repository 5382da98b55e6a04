import ProofBridge.MerkleManager.Append
import ProofBridge.Core.Timelock
import ProofBridge.Lib.Run

/-!
# The MerkleManager contract

Who may append is the admin's to say: a plain manager is added under the delay and removed at once,
an escrow is added and removed under the delay. Every accepted `append_order_hash` appends one leaf,
bound to its side, and nothing else writes the range.
-/

namespace ProofBridge
namespace MerkleManager

open ContractLib ContractLib.MountainRange

/-- `timelock_error`: the shared timelock's refusals as this contract's errors. -/
def timelockError : Fault → MerkleError
  | .timelockAlreadyActive => .timelockAlreadyActive
  | .timelockAlreadyProposed => .timelockAlreadyProposed
  | .timelockTooEarly => .timelockTooEarly
  | .timelockBadArgs => .timelockBadArgs
  | .timelockExpired => .timelockExpired
  | .timelockCancelledByBrake => .timelockCancelledByBrake
  | _ => .timelockNotProposed

/-- What the contract publishes. -/
inductive MerkleEvent
  | adminTransferStarted (fromAdmin toAdmin : Address)
  | adminTransferred (fromAdmin toAdmin : Address)
  | managerUpdated (manager : Address) (status : Bool)
  | mmrAppend (leafIndex : ℕ) (orderHash : BytesN32) (side : U32) (root : BytesN32)
  deriving DecidableEq, Repr

/-- The contract's storage, and what it has published. -/
structure State where
  initialized : Bool
  admin : Option Address
  pendingAdmin : Option Address
  timelock : Timelock
  managers : Map Address Bool
  /-- The appenders that are escrows. -/
  escrowAppenders : Map Address Bool
  tree : Tree
  published : List MerkleEvent

namespace State

/-- A contract just deployed. -/
def fresh : State where
  initialized := false
  admin := none
  pendingAdmin := none
  timelock := .fresh
  managers := ∅
  escrowAppenders := ∅
  tree := .empty
  published := []

def isManager (s : State) (addr : Address) : Bool := (s.managers.get? addr).getD false

def isEscrowAppender (s : State) (addr : Address) : Bool :=
  (s.escrowAppenders.get? addr).getD false

end State

abbrev publish (e : MerkleEvent) : Tx MerkleError State Unit :=
  Tx.modify fun s => { s with published := e :: s.published }

/-- A step of the shared timelock, its fault renamed. -/
abbrev onTimelock {α : Type} (x : Tx Fault Timelock α) : Tx MerkleError State α :=
  Tx.zoom State.timelock (fun s t => { s with timelock := t }) timelockError x

/-- A step of the range. -/
abbrev onTree {α : Type} (x : Tx MerkleError Tree α) : Tx MerkleError State α :=
  Tx.zoom State.tree (fun s t => { s with tree := t }) id x

/-- `get_admin`, or `NotInitialized`. -/
def adminOf : Tx MerkleError State Address := do
  let s ← Tx.read
  Tx.expect s.admin .notInitialized

section Entry

variable (H : Host) (poseidon2 : List BytesN32 → BytesN32) (env : Env)

/-- Can only be called once; nobody's authorization is asked for. -/
def initializeContract (admin : Address) : Tx MerkleError State Unit := do
  let s ← Tx.read
  Tx.require (s.initialized = false) .alreadyInitialized
  Tx.require (admin ≠ H.address) .zeroAddress
  Tx.modify fun s => { s with admin := some admin, initialized := true }

def transferAdmin (successor : Address) : Tx MerkleError State Unit := do
  let admin ← adminOf
  requireAuth env admin
  Tx.modify fun s => { s with pendingAdmin := some successor }
  publish (.adminTransferStarted admin successor)

/-- The pending admin takes over; the handover voids the old admin's pending proposals. -/
def acceptAdmin : Tx MerkleError State Unit := do
  let s ← Tx.read
  let pending ← Tx.expect s.pendingAdmin .notPendingAdmin
  requireAuth env pending
  let old ← adminOf
  Tx.modify fun s => { s with admin := some pending, pendingAdmin := none }
  onTimelock Timelock.bumpEpoch
  publish (.adminTransferred old pending)

def activateTimelock : Tx MerkleError State Unit := do
  let admin ← adminOf
  requireAuth env admin
  onTimelock (Timelock.activate env)

def proposeAction (fnName : Symbol) (args : Bytes) : Tx MerkleError State BytesN32 := do
  let admin ← adminOf
  requireAuth env admin
  onTimelock (Timelock.propose H env fnName args)

def cancelAction (id : BytesN32) : Tx MerkleError State Unit := do
  let admin ← adminOf
  requireAuth env admin
  onTimelock (Timelock.cancel env id)

/-- Set or unset a manager that is not an escrow. Removing one is its brake. -/
def setManager (manager : Address) (status : Bool) : Tx MerkleError State Unit := do
  let s ← Tx.read
  Tx.require (s.initialized = true) .notInitialized
  Tx.require (s.isEscrowAppender manager = false) .escrowAppender
  let admin ← adminOf
  onTimelock (Timelock.gateUnless H env admin (!status) "set_manager"
    [.address manager, .bool status] (H.brakeKey "set_manager" (.address manager)))
  Tx.modify fun s => { s with managers := s.managers.set manager status }
  publish (.managerUpdated manager status)

/-- Add or remove an escrow as an appender, both ways under the delay. -/
def setEscrowAppender (escrow : Address) (enabled : Bool) : Tx MerkleError State Unit := do
  let admin ← adminOf
  onTimelock (Timelock.gate H env admin "set_escrow_appender" [.address escrow, .bool enabled])
  Tx.modify fun s => { s with
    escrowAppenders := s.escrowAppenders.set escrow enabled
    managers := s.managers.set escrow enabled }
  publish (.managerUpdated escrow enabled)

/-- Append an order hash, bound to the side its leaf is unlocked on. -/
def appendOrderHash (manager : Address) (orderHash : BytesN32) (side : U32) :
    Tx MerkleError State Bool := do
  let s ← Tx.read
  Tx.require (s.initialized = true) .notInitialized
  requireAuth env manager
  Tx.require (s.isManager manager = true) .notManager
  let leafIndex ← onTree (append poseidon2 (encodeLeaf poseidon2 orderHash side))
  let s ← Tx.read
  publish (.mmrAppend leafIndex orderHash side s.tree.root)
  pure true

end Entry

/-- The entry points that change state, with their arguments. -/
inductive Call
  | initializeContract (admin : Address)
  | transferAdmin (successor : Address)
  | acceptAdmin
  | activateTimelock
  | proposeAction (fnName : Symbol) (args : Bytes)
  | cancelAction (id : BytesN32)
  | setManager (manager : Address) (status : Bool)
  | setEscrowAppender (escrow : Address) (enabled : Bool)
  | appendOrderHash (manager : Address) (orderHash : BytesN32) (side : U32)
  deriving DecidableEq

/-- What a call answers. -/
inductive Ret
  | unit
  | bool (b : Bool)
  /-- The id of a proposed action. -/
  | action (id : BytesN32)
  deriving DecidableEq

/-- A call of an entry point that answers nothing. -/
abbrev done (x : Tx MerkleError State Unit) : Tx MerkleError State Ret :=
  Tx.answer (fun _ => .unit) x

/-- Run a call. -/
def exec (H : Host) (poseidon2 : List BytesN32 → BytesN32) (env : Env) :
    Call → Tx MerkleError State Ret
  | .initializeContract admin => done (initializeContract H admin)
  | .transferAdmin successor => done (transferAdmin env successor)
  | .acceptAdmin => done (acceptAdmin env)
  | .activateTimelock => done (activateTimelock env)
  | .proposeAction fnName args => Tx.answer .action (proposeAction H env fnName args)
  | .cancelAction id => done (cancelAction env id)
  | .setManager manager status => done (setManager H env manager status)
  | .setEscrowAppender escrow enabled => done (setEscrowAppender H env escrow enabled)
  | .appendOrderHash manager orderHash side =>
    Tx.answer .bool (appendOrderHash poseidon2 env manager orderHash side)

/-- The MerkleManager with its host. Nothing around it touches its storage. -/
def system (H : Host) (poseidon2 : List BytesN32 → BytesN32) :
    System MerkleError State (Env × Call) Ret where
  call t := exec H poseidon2 t.1 t.2
  admits _ _ := True
  outside _ _ := False

/-- The leaf a call appends. -/
def Call.leaf? (poseidon2 : List BytesN32 → BytesN32) : Call → Option BytesN32
  | .appendOrderHash _ orderHash side => some (encodeLeaf poseidon2 orderHash side)
  | _ => none

/-- The leaves of a history, the oldest first. -/
def leaves (poseidon2 : List BytesN32 → BytesN32) : List ((Env × Call) × Ret) → List BytesN32
  | [] => []
  | (t, _) :: h => leaves poseidon2 h ++ (t.2.leaf? poseidon2).toList

/-! ## What a call does to the range -/

section Step

variable {H : Host} {poseidon2 : List BytesN32 → BytesN32} {env : Env} {s : State}

/-- `appendOrderHash` appends the encoded leaf. -/
theorem appendOrderHash_ok {manager : Address} {orderHash : BytesN32} {side : U32}
    {r : Bool × State} (ok : appendOrderHash poseidon2 env manager orderHash side s = .ok r) :
    ∃ i, append poseidon2 (encodeLeaf poseidon2 orderHash side) s.tree = .ok (i, r.2.tree) := by
  unfold appendOrderHash at ok
  rw [Tx.bind_read_ok, Tx.bind_require_ok] at ok
  obtain ⟨-, ok⟩ := ok
  rw [Tx.bind_demand_ok, Tx.bind_require_ok, Tx.bind_zoom_ok] at ok
  obtain ⟨-, -, i, t, happend, ok⟩ := ok
  rw [Tx.bind_read_ok, Tx.bind_modify_ok, Tx.pure_ok] at ok
  subst ok
  exact ⟨i, happend⟩

theorem adminOf_frames : Tx.Frames State.tree adminOf :=
  .bind .read fun _ => .expect

theorem requireAuth_frames {addr : Address} :
    Tx.Frames State.tree (requireAuth env addr : Tx MerkleError State Unit) := .demand

theorem onTimelock_frames {α : Type} {x : Tx Fault Timelock α} :
    Tx.Frames State.tree (onTimelock x) := .zoom fun _ _ => rfl

/-- Every other entry point leaves the range alone. -/
theorem exec_frames {call : Call} (hcall : call.leaf? poseidon2 = none) :
    Tx.Frames State.tree (exec H poseidon2 env call) := by
  cases call with
  | initializeContract admin =>
    exact .answer (.bind .read fun _ => .bind .require fun _ => .bind .require fun _ =>
      .modify fun _ => rfl)
  | transferAdmin successor =>
    exact .answer (.bind adminOf_frames fun _ => .bind requireAuth_frames fun _ =>
      .bind (.modify fun _ => rfl) fun _ => .modify fun _ => rfl)
  | acceptAdmin =>
    exact .answer (.bind .read fun _ => .bind .expect fun _ => .bind requireAuth_frames fun _ =>
      .bind adminOf_frames fun _ => .bind (.modify fun _ => rfl) fun _ =>
      .bind onTimelock_frames fun _ => .modify fun _ => rfl)
  | activateTimelock =>
    exact .answer (.bind adminOf_frames fun _ => .bind requireAuth_frames fun _ =>
      onTimelock_frames)
  | proposeAction fnName args =>
    exact .answer (.bind adminOf_frames fun _ => .bind requireAuth_frames fun _ =>
      onTimelock_frames)
  | cancelAction id =>
    exact .answer (.bind adminOf_frames fun _ => .bind requireAuth_frames fun _ =>
      onTimelock_frames)
  | setManager manager status =>
    exact .answer (.bind .read fun _ => .bind .require fun _ => .bind .require fun _ =>
      .bind adminOf_frames fun _ => .bind onTimelock_frames fun _ =>
      .bind (.modify fun _ => rfl) fun _ => .modify fun _ => rfl)
  | setEscrowAppender escrow enabled =>
    exact .answer (.bind adminOf_frames fun _ => .bind onTimelock_frames fun _ =>
      .bind (.modify fun _ => rfl) fun _ => .modify fun _ => rfl)
  | appendOrderHash manager orderHash side => cases hcall

/-- A call appends its leaf, if it has one. -/
theorem exec_tree {call : Call} {r : Ret} {s' : State}
    (ok : exec H poseidon2 env call s = .ok (r, s')) :
    appendAll poseidon2 (call.leaf? poseidon2).toList s.tree = .ok ((), s'.tree) := by
  cases hleaf : call.leaf? poseidon2 with
  | none =>
    have htree : s'.tree = s.tree := exec_frames hleaf s (r, s') ok
    rw [htree]
    exact Tx.pure_ok.mpr rfl
  | some leaf =>
    cases call with
    | appendOrderHash manager orderHash side =>
      cases hleaf
      obtain ⟨b, hcall, -⟩ := Tx.answer_ok.mp ok
      obtain ⟨i, happend⟩ := appendOrderHash_ok hcall
      exact Tx.bind_ok.mpr ⟨i, _, happend, Tx.pure_ok.mpr rfl⟩
    | _ => cases hleaf

/-- In every reachable state the range is what appending the history's leaves gives. -/
theorem run_leaves {h : List ((Env × Call) × Ret)}
    (run : Run (system H poseidon2) State.fresh h s) :
    appendAll poseidon2 (leaves poseidon2 h) Tree.empty = .ok ((), s.tree) := by
  refine Run.invariant (I := fun h s =>
    appendAll poseidon2 (leaves poseidon2 h) Tree.empty = .ok ((), s.tree)) ?_ ?_ ?_ run
  · exact Tx.pure_ok.mpr rfl
  · intro h s t r s' _ ih _ ok
    exact appendAll_append.mpr ⟨s.tree, ih, exec_tree ok⟩
  · intro h s s' _ _ moved
    exact moved.elim

end Step

/-! ## The contract refines the reference -/

/-- The contract stores the reference range over the leaves appended so far: sizes, root, peaks and
every node; the root of every earlier width; and nothing it stored is ever stored differently. Below
`2^126` leaves every append is accepted, so the lazy creation ends, and it meets no leaf that is not
stored: asking for one fails. -/
theorem mmr_refines (poseidon2 : List BytesN32 → BytesN32) (xs : List BytesN32)
    (hlen : xs.length < 2 ^ 126)
    (hnonzero : ∀ k h, Complete xs.length k h → refNode poseidon2 xs k h ≠ 0) :
    ∃ t, appendAll poseidon2 xs Tree.empty = .ok ((), t) ∧
      Refines poseidon2 xs t ∧
      (∀ k h, Complete xs.length k h →
        t.getNodeHash (position k h) = some (refNode poseidon2 xs k h)) ∧
      (∀ ys zs, xs = ys ++ zs → ∃ t', appendAll poseidon2 ys Tree.empty = .ok ((), t') ∧
        appendAll poseidon2 zs t' = .ok ((), t) ∧ Refines poseidon2 ys t' ∧
        ∀ index hash, t'.getNodeHash index = some hash → t.getNodeHash index = some hash) ∧
      (∀ levels k size t' r, t'.getNodeHash (position k 0) = none →
        getOrCreateNode poseidon2 levels (position k 0) size t' ≠ .ok r) ∧
      (∀ H h s, Run (system H poseidon2) State.fresh h s → leaves poseidon2 h = xs →
        s.tree = t) := by
  have htotal : ∃ t, appendAll poseidon2 xs Tree.empty = .ok ((), t) :=
    appendAll_total refines_empty hlen hnonzero
  obtain ⟨t, ok⟩ := htotal
  have href := (accepted_refines ok).1
  refine ⟨t, ok, href, fun k h hc => href.getNodeHash hc, ?_, ?_, ?_⟩
  · intro ys zs hsplit
    rw [hsplit] at ok
    obtain ⟨t', hfirst, hrest⟩ := appendAll_append.mp ok
    have href' := (accepted_refines hfirst).1
    exact ⟨t', hfirst, hrest, href', (appendAll_ok href' hrest).2.2⟩
  · intro levels k size t' r hunset
    exact getOrCreateNode_unset hunset
  · intro H h s run hleaves
    have hrun := run_leaves run
    rw [hleaves, ok] at hrun
    cases hrun
    rfl

/-- Poseidon2 on what a history of the two leaves `sampleLeaves` hashes. -/
def samplePoseidon2 (inputs : List BytesN32) : BytesN32 :=
  let l₁ := 0x24e52cd6d3e40806474f1e5778a3efa5fe3f49b50a58dbe81cd2f79443bdc1c2
  let l₂ := 0x022af19f0f1a3173a56886adf3a5835e391f2b6ed87bf76932b8664209658013
  let n₁ := 0x2d32f2ce46a972acbe00e19807855b9b80d379324253db2a0cf122cd6b373e9a
  let n₂ := 0x2cb3060fce2993703ae1ebfdb4aca2c07876db7151d098a6dfdf52772e383194
  let n₃ := 0x00ccd9f124c88ed3d945af2283b8729f01e1469ef22ad6549fa1a281c2110486
  if inputs = [1, l₁] then n₁
  else if inputs = [2, l₂] then n₂
  else if inputs = [3, n₁, n₂] then n₃
  else if inputs = [DOMAIN_TAG, 1, n₁] then
    0x1a3bc9b5b26b6309cf407a39f721c98e40a9aca2b3accb99cab8c46937736e7a
  else if inputs = [DOMAIN_TAG, 3, n₃] then
    0x140e5407d40442701736793ec182a2aef756f5af5a89727afe1887e2368b63bd
  else 0

def sampleLeaves : List BytesN32 :=
  [0x24e52cd6d3e40806474f1e5778a3efa5fe3f49b50a58dbe81cd2f79443bdc1c2,
    0x022af19f0f1a3173a56886adf3a5835e391f2b6ed87bf76932b8664209658013]

/-- The nodes of two leaves. -/
theorem complete_two {k h : ℕ} (hc : Complete 2 k h) :
    (k = 0 ∧ h = 0) ∨ (k = 1 ∧ h = 0) ∨ (k = 0 ∧ h = 1) := by
  have hle : (k + 1) * 2 ^ h ≤ 2 := hc
  have hself : h < 2 ^ h := Nat.lt_two_pow_self
  have hpow : 2 ^ h ≤ (k + 1) * 2 ^ h := Nat.le_mul_of_pos_left _ (Nat.succ_pos k)
  obtain rfl | rfl : h = 0 ∨ h = 1 := by omega
  · omega
  · omega

theorem sample_nonzero {k h : ℕ} (hc : Complete sampleLeaves.length k h) :
    refNode samplePoseidon2 sampleLeaves k h ≠ 0 := by
  obtain ⟨rfl, rfl⟩ | ⟨rfl, rfl⟩ | ⟨rfl, rfl⟩ := complete_two hc
  · decide +kernel
  · decide +kernel
  · decide +kernel

theorem sample_accepted : ∃ t, appendAll samplePoseidon2 sampleLeaves Tree.empty = .ok ((), t) :=
  appendAll_total refines_empty (by decide) fun _ _ hc => sample_nonzero hc

theorem mmr_refines_sample : ∃ t, appendAll samplePoseidon2 sampleLeaves Tree.empty = .ok ((), t) ∧
    Refines samplePoseidon2 sampleLeaves t := by
  obtain ⟨t, ok, href, -⟩ :=
    mmr_refines samplePoseidon2 sampleLeaves (by decide) fun _ _ hc => sample_nonzero hc
  exact ⟨t, ok, href⟩

end MerkleManager
end ProofBridge
