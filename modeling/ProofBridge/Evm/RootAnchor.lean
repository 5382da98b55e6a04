import ProofBridge.Evm.AdminTimelock

/-!
# The EVM RootAnchor

The notary of roots no counterparty co-signed, as the EVM contract stores it: a root counts as
anchored when its `anchoredAt` is not zero, signers are a mapping beside a list, and `anchor` edits
the record in place, so that a refusal rolls the edits back. A `uint64` or `uint32` of the storage
is a number below its bound: it is only ever written from an argument of its width, a checked sum or
the truncated clock.
-/

namespace ProofBridge
namespace Evm

open ContractLib

/-- What the RootAnchor reverts with. -/
inductive RootAnchorError
  /-- A refusal of `TwoStepAdmin`, `AdminTimelock` or `Pausable`. -/
  | admin (e : AdminError)
  | zeroAddress
  | notSigner
  | badThreshold
  | duplicateSigner (signer : EvmAddress)
  | seqNotMonotonic (latest given : ℕ)
  | delayTooLong (max given : ℕ)
  | noSuchAnchor
  | seqMismatch (recorded given : ℕ)
  deriving DecidableEq, Repr

/-- A root of a source chain. -/
abbrev AnchorKey := Uint256 × BytesN32

/-- `IRootAnchor.Anchor`. -/
structure Anchor where
  /-- Set by the first approval under (`setEpoch`, `gen`); every later approval must match it. -/
  ledgerSeq : ℕ
  anchoredAt : ℕ
  approvals : ℕ
  setEpoch : ℕ
  gen : ℕ
  deriving DecidableEq, Repr

/-- An unset record reads as zeros. -/
def Anchor.unset : Anchor where
  ledgerSeq := 0
  anchoredAt := 0
  approvals := 0
  setEpoch := 0
  gen := 0

/-- The contract's storage. An unset entry of a mapping reads as zero. -/
structure RootAnchor where
  access : AdminTimelock
  paused : Bool
  anchors : Map AnchorKey Anchor
  /-- `setEpoch << 32 | gen` at the time a signer approved; it counts iff it matches now. -/
  approvalStamps : Map (AnchorKey × EvmAddress) ℕ
  isSigner : Map EvmAddress Bool
  signers : List EvmAddress
  threshold : ℕ
  /-- Bumped on every `setSigners`. -/
  signerSetEpoch : ℕ
  anchorDelay : Map Uint256 ℕ
  monotonic : Bool
  latestSeq : Map Uint256 ℕ

namespace RootAnchor

/-- Upper bound on a route's delay: 7 days. -/
def MAX_ANCHOR_DELAY : ℕ := 7 * 24 * 60 * 60

/-- Before the constructor has run. -/
def blank : RootAnchor where
  access := .deployed 0
  paused := false
  anchors := ∅
  approvalStamps := ∅
  isSigner := ∅
  signers := []
  threshold := 0
  signerSetEpoch := 0
  anchorDelay := ∅
  monotonic := true
  latestSeq := ∅

section Reads

variable (s : RootAnchor)

def anchorOf (key : AnchorKey) : Anchor := (s.anchors.get? key).getD .unset

def stamp (key : AnchorKey) (signer : EvmAddress) : ℕ :=
  (s.approvalStamps.get? (key, signer)).getD 0

def signs (who : EvmAddress) : Bool := (s.isSigner.get? who).getD false

def delayOf (sourceChainId : Uint256) : ℕ := (s.anchorDelay.get? sourceChainId).getD 0

def latestOf (sourceChainId : Uint256) : ℕ := (s.latestSeq.get? sourceChainId).getD 0

end Reads

abbrev onAccess {α : Type} (x : Tx AdminError AdminTimelock α) : Tx RootAnchorError RootAnchor α :=
  Tx.zoom RootAnchor.access (fun s access => { s with access }) .admin x

/-! ## Signer sets -/

/-- The loop that adds the signers one by one. -/
def pushSigners : List EvmAddress → Tx RootAnchorError RootAnchor Unit
  | [] => pure ()
  | signer :: rest => do
    Tx.require (signer ≠ 0) .zeroAddress
    let s ← Tx.read
    Tx.require (s.signs signer = false) (.duplicateSigner signer)
    Tx.modify fun s => { s with
      isSigner := s.isSigner.set signer true
      signers := s.signers ++ [signer] }
    pushSigners rest

/-- The old signers, cleared one by one. -/
def clearSigners (s : RootAnchor) : RootAnchor := { s with
  isSigner := s.signers.foldl (fun m signer => m.set signer false) s.isSigner
  signers := [] }

/-- `_setSigners`: the old signers leave before the new ones enter. -/
def setSignerSet (signers : List EvmAddress) (threshold : U32) :
    Tx RootAnchorError RootAnchor Unit := do
  Tx.require (threshold.toNat ≠ 0 ∧ threshold.toNat ≤ signers.length) .badThreshold
  Tx.modify clearSigners
  pushSigners signers
  Tx.modify fun s => { s with threshold := threshold.toNat }
  let s ← Tx.read
  let epoch ← Tx.lift (Check.add 32 s.signerSetEpoch 1)
  Tx.modify fun s => { s with signerSetEpoch := epoch }

/-- `constructor`. -/
def construct (admin : EvmAddress) (signers : List EvmAddress) (threshold : U32) :
    Tx RootAnchorError RootAnchor Unit := do
  Tx.require (admin ≠ 0) .zeroAddress
  Tx.modify fun s => { s with access := .deployed admin }
  setSignerSet signers threshold

section Entries

variable (P : Primitives) (msg : Message)

/-! ## Notary -/

/-- The stamp `(setEpoch << 32) | gen` of an approval. -/
def stampOf (setEpoch gen : ℕ) : ℕ := setEpoch <<< 32 ||| gen

abbrev editAnchor (key : AnchorKey) (f : Anchor → Anchor) : Tx RootAnchorError RootAnchor Unit :=
  Tx.modify fun s => { s with anchors := s.anchors.set key (f (s.anchorOf key)) }

/-- Approvals from an earlier signer set do not carry over. -/
def startEpoch (key : AnchorKey) : Tx RootAnchorError RootAnchor Unit := do
  let s ← Tx.read
  if (s.anchorOf key).setEpoch ≠ s.signerSetEpoch then
    editAnchor key fun a => { a with setEpoch := s.signerSetEpoch, approvals := 0 }
  else pure ()

/-- The first approval sets the ledger sequence; no later signer, repeat or not, can move it. -/
def nameSeq (key : AnchorKey) (latest ledgerSeq : ℕ) : Tx RootAnchorError RootAnchor Unit := do
  let s ← Tx.read
  if (s.anchorOf key).approvals = 0 then
    Tx.require (¬(s.monotonic = true ∧ ledgerSeq ≤ latest)) (.seqNotMonotonic latest ledgerSeq)
    editAnchor key fun a => { a with ledgerSeq }
  else
    Tx.require (ledgerSeq = (s.anchorOf key).ledgerSeq)
      (.seqMismatch (s.anchorOf key).ledgerSeq ledgerSeq)

/-- Count the sender's approval, unless its stamp says it already was. -/
def countApproval (key : AnchorKey) : Tx RootAnchorError RootAnchor Unit := do
  let s ← Tx.read
  let a := s.anchorOf key
  if s.stamp key msg.sender ≠ stampOf a.setEpoch a.gen then
    Tx.modify fun s => { s with
      approvalStamps := s.approvalStamps.set (key, msg.sender) (stampOf a.setEpoch a.gen) }
    let approvals ← Tx.lift (Check.add 32 a.approvals 1)
    editAnchor key fun a => { a with approvals }
  else pure ()

/-- Anchor the root once the threshold is reached; a newer root may have anchored meanwhile. -/
def reachThreshold (key : AnchorKey) (latest : ℕ) : Tx RootAnchorError RootAnchor Unit := do
  let s ← Tx.read
  let a := s.anchorOf key
  if s.threshold ≤ a.approvals then
    Tx.require (¬(s.monotonic = true ∧ a.ledgerSeq ≤ latest)) (.seqNotMonotonic latest a.ledgerSeq)
    editAnchor key fun a => { a with anchoredAt := msg.timestamp.toNat % 2 ^ 64 }
    Tx.modify fun s => { s with
      latestSeq := if latest < a.ledgerSeq then s.latestSeq.set key.1 a.ledgerSeq else s.latestSeq }
  else pure ()

/-- Approve `root` as the source chain's root at `ledgerSeq`. Re-anchoring an anchored root is a
no-op, so that a retrying publisher never reverts. -/
def anchor (sourceChainId : Uint256) (root : BytesN32) (ledgerSeq : U64) :
    Tx RootAnchorError RootAnchor Unit := do
  let s ← Tx.read
  Tx.require (s.paused = false) (.admin .enforcedPause)
  Tx.require (s.signs msg.sender = true) .notSigner
  if (s.anchorOf (sourceChainId, root)).anchoredAt ≠ 0 then pure ()
  else
    startEpoch (sourceChainId, root)
    let latest := s.latestOf sourceChainId
    nameSeq (sourceChainId, root) latest ledgerSeq.toNat
    countApproval msg (sourceChainId, root)
    reachThreshold msg (sourceChainId, root) latest

/-! ## Admin -/

def setSigners (signers : List EvmAddress) (threshold : U32) :
    Tx RootAnchorError RootAnchor Unit := do
  onAccess (AdminTimelock.timelocked P msg 0)
  setSignerSet signers threshold

/-- Discard a root's record: its approvals never count again. `latestSeq` is left alone. -/
def revokeAnchor (sourceChainId : Uint256) (root : BytesN32) :
    Tx RootAnchorError RootAnchor Unit := do
  onAccess (AdminTimelock.onlyAdmin msg)
  let s ← Tx.read
  let a := s.anchorOf (sourceChainId, root)
  Tx.require (¬(a.approvals = 0 ∧ a.anchoredAt = 0)) .noSuchAnchor
  let gen ← Tx.lift (Check.add 32 a.gen 1)
  editAnchor (sourceChainId, root) fun a => { a with
    gen, approvals := 0, anchoredAt := 0, ledgerSeq := 0 }

/-- A `bytes4` as `abi.encode` pads it: on the right. -/
def selectorWord (selector : BitVec 32) : BytesN32 := selector.setWidth 256 <<< 224

/-- `keccak256(abi.encode(selector, …))` of a brake. -/
def brakeKey (selector : BitVec 32) (what : List BytesN32) : BytesN32 :=
  P.keccak256 (Eip712.concat (selectorWord selector :: what))

/-- Recover a route whose sequence was pinned wrongly. Raising the pin is a brake. -/
def resetLatestSeq (sourceChainId : Uint256) (seq : U64) : Tx RootAnchorError RootAnchor Unit := do
  let s ← Tx.read
  onAccess (AdminTimelock.timelockedUnless P msg (s.latestOf sourceChainId ≤ seq.toNat)
    (brakeKey P 0x61354cdc [sourceChainId]))
  Tx.modify fun s => { s with latestSeq := s.latestSeq.set sourceChainId seq.toNat }

/-- Seconds an anchor of the chain must age before it is usable. A raise is a brake. -/
def setAnchorDelay (sourceChainId : Uint256) (delay : U64) :
    Tx RootAnchorError RootAnchor Unit := do
  let s ← Tx.read
  onAccess (AdminTimelock.timelockedUnless P msg (s.delayOf sourceChainId ≤ delay.toNat)
    (brakeKey P 0x5e0694d0 [sourceChainId]))
  Tx.require (delay.toNat ≤ MAX_ANCHOR_DELAY) (.delayTooLong MAX_ANCHOR_DELAY delay.toNat)
  Tx.modify fun s => { s with anchorDelay := s.anchorDelay.set sourceChainId delay.toNat }

/-- Switching the sequence check off waits the delay; switching it on is a brake. -/
def setMonotonic (monotonic : Bool) : Tx RootAnchorError RootAnchor Unit := do
  onAccess (AdminTimelock.timelockedUnless P msg monotonic (brakeKey P 0x9a2a2cad []))
  Tx.modify fun s => { s with monotonic }

/-- Gates `anchor` only; `isAnchored` keeps answering. -/
def pause : Tx RootAnchorError RootAnchor Unit := do
  onAccess (AdminTimelock.onlyAdmin msg)
  let s ← Tx.read
  Tx.require (s.paused = false) (.admin .enforcedPause)
  Tx.modify fun s => { s with paused := true }

def unpause : Tx RootAnchorError RootAnchor Unit := do
  onAccess (AdminTimelock.onlyAdmin msg)
  let s ← Tx.read
  Tx.require (s.paused = true) (.admin .expectedPause)
  Tx.modify fun s => { s with paused := false }

end Entries

/-! ## Views -/

/-- The whole consumer surface. Not gated by pause, and never reverts. -/
def isAnchored (msg : Message) (sourceChainId : Uint256) (root : BytesN32) (s : RootAnchor) :
    Bool :=
  let a := s.anchorOf (sourceChainId, root)
  if a.anchoredAt = 0 ∨ msg.timestamp.toNat < a.anchoredAt then false
  else decide (s.delayOf sourceChainId ≤ msg.timestamp.toNat - a.anchoredAt)

/-! ## The signer loop -/

section Signers

variable {s : RootAnchor} {r : Unit × RootAnchor}

theorem signs_set {who signer : EvmAddress} {b : Bool} :
    ({ s with isSigner := s.isSigner.set signer b } : RootAnchor).signs who
      = if who = signer then b else s.signs who := by
  unfold signs
  rw [Map.get?_set]
  split <;> rfl

/-- Clearing the list clears the mapping on it, and nowhere else. -/
theorem cleared {l : List EvmAddress} {m : Map EvmAddress Bool} {who : EvmAddress} :
    ((l.foldl (fun m signer => m.set signer false) m).get? who).getD false
      = if who ∈ l then false else (m.get? who).getD false := by
  induction l generalizing m with
  | nil => simp
  | cons signer l ih =>
    rw [List.foldl_cons, ih, Map.get?_set]
    by_cases hl : who ∈ l
    · rw [if_pos hl, if_pos (List.mem_cons_of_mem _ hl)]
    · rw [if_neg hl]
      by_cases heq : who = signer
      · rw [if_pos heq, if_pos (heq ▸ List.mem_cons_self)]
        rfl
      · rw [if_neg heq, if_neg (by simp [heq, hl])]

/-- The mapping after the loop. -/
def enrolled (l : List EvmAddress) (m : Map EvmAddress Bool) : Map EvmAddress Bool :=
  l.foldl (fun m signer => m.set signer true) m

theorem enrolled_get {l : List EvmAddress} {m : Map EvmAddress Bool} {who : EvmAddress} :
    ((enrolled l m).get? who).getD false
      = if who ∈ l then true else (m.get? who).getD false := by
  unfold enrolled
  induction l generalizing m with
  | nil => simp
  | cons signer l ih =>
    rw [List.foldl_cons, ih, Map.get?_set]
    by_cases hl : who ∈ l
    · rw [if_pos hl, if_pos (List.mem_cons_of_mem _ hl)]
    · rw [if_neg hl]
      by_cases heq : who = signer
      · rw [if_pos heq, if_pos (heq ▸ List.mem_cons_self)]
        rfl
      · rw [if_neg heq, if_neg (by simp [heq, hl])]

/-- The loop accepts a list without zeros, repeats and standing signers, and enrols it. -/
theorem pushSigners_ok {l : List EvmAddress} :
    pushSigners l s = .ok r ↔ (0 ∉ l ∧ l.Nodup ∧ ∀ who ∈ l, s.signs who = false) ∧
      r = ((), { s with isSigner := enrolled l s.isSigner, signers := s.signers ++ l }) := by
  induction l generalizing s with
  | nil => simp [pushSigners, enrolled]
  | cons signer l ih =>
    simp only [pushSigners, Tx.bind_require_ok, Tx.bind_read_ok, Tx.bind_modify_ok, ih,
      List.append_assoc, List.singleton_append, enrolled, List.foldl_cons, List.mem_cons, not_or,
      List.nodup_cons, forall_eq_or_imp]
    have hsigns : ∀ who, ({ s with
        isSigner := s.isSigner.set signer true
        signers := s.signers ++ [signer] } : RootAnchor).signs who
          = if who = signer then true else s.signs who := fun who => signs_set
    simp only [hsigns]
    constructor
    · rintro ⟨hzero, hnew, ⟨hzeros, hnodup, hnone⟩, rfl⟩
      refine ⟨⟨⟨Ne.symm hzero, hzeros⟩, ⟨?_, hnodup⟩, hnew, ?_⟩, rfl⟩
      · intro hmem
        have hrepeat := hnone signer hmem
        rw [if_pos rfl] at hrepeat
        cases hrepeat
      · intro who hwho
        have hfree := hnone who hwho
        split at hfree
        · cases hfree
        · exact hfree
    · rintro ⟨⟨⟨hzero, hzeros⟩, ⟨hfresh, hnodup⟩, hnew, hnone⟩, rfl⟩
      refine ⟨Ne.symm hzero, hnew, ⟨hzeros, hnodup, ?_⟩, rfl⟩
      intro who hwho
      rw [if_neg fun heq : who = signer => hfresh (heq ▸ hwho)]
      exact hnone who hwho

/-- The list is exactly whom the mapping names. -/
def Enrolled (s : RootAnchor) : Prop := ∀ who, s.signs who = true ↔ who ∈ s.signers

theorem clearSigners_signs (h : s.Enrolled) {who : EvmAddress} :
    s.clearSigners.signs who = false := by
  show ((s.signers.foldl (fun m signer => m.set signer false) s.isSigner).get? who).getD false
    = false
  rw [cleared]
  split
  · rfl
  · next hout => exact Bool.eq_false_iff.mpr fun hsigns => hout ((h who).mp hsigns)

/-- The signer set a rotation leaves. -/
def rotated (s : RootAnchor) (signers : List EvmAddress) (threshold : U32) : RootAnchor := { s with
  isSigner := enrolled signers s.clearSigners.isSigner
  signers
  threshold := threshold.toNat
  signerSetEpoch := s.signerSetEpoch + 1 }

/-- A new signer set is accepted on its own merits, whoever signed before. -/
theorem setSignerSet_ok {signers : List EvmAddress} {threshold : U32} (h : s.Enrolled) :
    setSignerSet signers threshold s = .ok r ↔
      ((threshold.toNat ≠ 0 ∧ threshold.toNat ≤ signers.length) ∧ (0 ∉ signers ∧ signers.Nodup) ∧
          s.signerSetEpoch + 1 < 2 ^ 32) ∧ r = ((), s.rotated signers threshold) := by
  rw [setSignerSet, Tx.bind_require_ok, Tx.bind_modify_ok, Tx.bind_ok]
  constructor
  · rintro ⟨hthreshold, ⟨⟩, s', hpush, hrest⟩
    obtain ⟨⟨hzero, hnodup, -⟩, hs'⟩ := pushSigners_ok.mp hpush
    obtain rfl := (Prod.mk.inj hs').2
    rw [Tx.bind_modify_ok, Tx.bind_read_ok, Tx.bind_lift_ok] at hrest
    obtain ⟨epoch, hadd, hr⟩ := hrest
    obtain ⟨hfits, hepoch⟩ := Check.add_ok.mp hadd
    refine ⟨⟨hthreshold, ⟨hzero, hnodup⟩, hfits⟩, ?_⟩
    rw [Tx.modify_ok.mp hr, hepoch]
    rfl
  · rintro ⟨⟨hthreshold, ⟨hzero, hnodup⟩, hfits⟩, rfl⟩
    refine ⟨hthreshold, (), _, pushSigners_ok.mpr ⟨⟨hzero, hnodup, ?_⟩, rfl⟩, ?_⟩
    · intro who _
      exact clearSigners_signs h
    · rw [Tx.bind_modify_ok, Tx.bind_read_ok, Tx.bind_lift_ok]
      exact ⟨_, Check.add_ok.mpr ⟨hfits, rfl⟩, Tx.modify_ok.mpr rfl⟩

/-- A rotation leaves the mapping naming exactly the list. -/
theorem rotated_enrolled {signers : List EvmAddress} {threshold : U32} (h : s.Enrolled) :
    (s.rotated signers threshold).Enrolled := by
  intro who
  show ((enrolled signers s.clearSigners.isSigner).get? who).getD false = true ↔ who ∈ signers
  rw [enrolled_get]
  have hcleared : s.clearSigners.signs who = false := clearSigners_signs h
  unfold signs at hcleared
  rw [hcleared]
  by_cases hmem : who ∈ signers <;> simp [hmem]

end Signers

end RootAnchor
end Evm
end ProofBridge
