import ProofBridge.RootAnchor.Step

/-!
# The calls of a run

What the history of a run says about signer sets, revocations and approvals, counted from the calls
alone: the epoch is the number of sets installed, a root's generation the number of its revocations,
and `callers` are the signers whose `anchor` call was accepted for a root, with one ledger sequence,
in one epoch and in one generation.
-/

namespace ProofBridge
namespace RootAnchor

open ContractLib

/-- The accepted calls of a run, the newest first. -/
abbrev History := List ((Env × Call) × Ret)

/-- What an `anchor` call approves: the signer, the root and the ledger sequence. -/
def Call.approval? : Call → Option (Address × RootKey × ℕ)
  | .anchor signer sourceChainId root ledgerSeq =>
    some (signer, (sourceChainId, root), ledgerSeq.toNat)
  | _ => none

/-- The signer epoch: how many signer sets were installed. -/
def epochOf : History → ℕ
  | [] => 0
  | ((_, call), _) :: history =>
    if call.newSet?.isSome = true then epochOf history + 1 else epochOf history

/-- The signers and the threshold installed in an epoch. -/
def setAt (epoch : ℕ) : History → List Address × ℕ
  | [] => ([], 0)
  | ((_, call), _) :: history =>
    match call.newSet? with
    | some set =>
      if epochOf history + 1 = epoch then (set.1, set.2.toNat) else setAt epoch history
    | none => setAt epoch history

/-- The generation of a root: how often it was revoked. -/
def genOf (key : RootKey) : History → ℕ
  | [] => 0
  | ((_, call), _) :: history =>
    if call = .revokeAnchor key.1 key.2 then genOf key history + 1 else genOf key history

/-- The distinct signers who called `anchor` for the root with this sequence, in this epoch and in
this generation. -/
def callers (key : RootKey) (seq epoch gen : ℕ) : History → List Address
  | [] => []
  | ((_, call), _) :: history =>
    match call.approval? with
    | some approval =>
      if approval.2 = (key, seq) ∧ epochOf history = epoch ∧ genOf key history = gen
      then (callers key seq epoch gen history).insert approval.1
      else callers key seq epoch gen history
    | none => callers key seq epoch gen history

section Histories

variable {key : RootKey} {seq epoch gen : ℕ} {history : History} {signer : Address}
variable {env : Env} {call : Call} {ret : Ret}

theorem callers_nodup : (callers key seq epoch gen history).Nodup := by
  induction history with
  | nil => exact List.nodup_nil
  | cons t history ih =>
    obtain ⟨⟨env, call⟩, ret⟩ := t
    unfold callers
    split
    · split
      · exact ih.insert
      · exact ih
    · exact ih

/-- A caller is somebody whose call stands in the history, at that epoch and generation. -/
theorem mem_callers : signer ∈ callers key seq epoch gen history ↔
    ∃ later env ledgerSeq ret earlier,
      history = later ++ ((env, .anchor signer key.1 key.2 ledgerSeq), ret) :: earlier ∧
        ledgerSeq.toNat = seq ∧ epochOf earlier = epoch ∧ genOf key earlier = gen := by
  induction history with
  | nil => simp [callers]
  | cons t history ih =>
    obtain ⟨⟨env, call⟩, ret⟩ := t
    have hbehind : signer ∈ callers key seq epoch gen history →
        ∃ later env' ledgerSeq ret' earlier, ((env, call), ret) :: history
          = later ++ ((env', .anchor signer key.1 key.2 ledgerSeq), ret') :: earlier ∧
          ledgerSeq.toNat = seq ∧ epochOf earlier = epoch ∧ genOf key earlier = gen := by
      intro hmem
      obtain ⟨later, env', ledgerSeq, ret', earlier, rfl, hrest⟩ := ih.mp hmem
      exact ⟨((env, call), ret) :: later, env', ledgerSeq, ret', earlier, rfl, hrest⟩
    constructor
    · intro hmem
      unfold callers at hmem
      split at hmem
      · next approval happroval =>
        split at hmem
        · next hmatch =>
          rcases List.mem_insert_iff.mp hmem with rfl | hmem
          · cases call <;> cases happroval
            obtain ⟨hkey, hepoch, hgen⟩ := hmatch
            obtain ⟨rfl, hseq⟩ := Prod.mk.inj hkey
            exact ⟨[], _, _, _, _, rfl, hseq, hepoch, hgen⟩
          · exact hbehind hmem
        · exact hbehind hmem
      · exact hbehind hmem
    · rintro ⟨later, env', ledgerSeq, ret', earlier, heq, hseq, hepoch, hgen⟩
      cases later with
      | nil =>
        cases heq
        simp [callers, Call.approval?, hseq, hepoch, hgen]
      | cons t' later =>
        obtain ⟨rfl, rfl⟩ := List.cons.inj heq
        have hmem := ih.mpr ⟨later, env', ledgerSeq, ret', earlier, rfl, hseq, hepoch, hgen⟩
        unfold callers
        split
        · split
          · exact List.mem_insert_of_mem hmem
          · exact hmem
        · exact hmem

theorem epochOf_suffix {earlier : History} (h : earlier <:+ history) :
    epochOf earlier ≤ epochOf history := by
  obtain ⟨later, rfl⟩ := h
  induction later with
  | nil => exact le_rfl
  | cons t later ih =>
    refine ih.trans ?_
    simp only [List.cons_append, epochOf]
    split <;> omega

theorem genOf_suffix {earlier : History} (h : earlier <:+ history) :
    genOf key earlier ≤ genOf key history := by
  obtain ⟨later, rfl⟩ := h
  induction later with
  | nil => exact le_rfl
  | cons t later ih =>
    refine ih.trans ?_
    simp only [List.cons_append, genOf]
    split <;> omega

/-- A caller called in an epoch and a generation that had begun. -/
theorem callers_bounds (h : signer ∈ callers key seq epoch gen history) :
    epoch ≤ epochOf history ∧ gen ≤ genOf key history := by
  obtain ⟨later, env, ledgerSeq, ret, earlier, rfl, -, rfl, rfl⟩ := mem_callers.mp h
  have hsuffix : earlier <:+ later ++ ((env, .anchor signer key.1 key.2 ledgerSeq), ret) :: earlier :=
    (List.suffix_cons _ _).trans (List.suffix_append _ _)
  exact ⟨epochOf_suffix hsuffix, genOf_suffix hsuffix⟩

theorem callers_suffix {earlier : History} (h : earlier <:+ history) :
    callers key seq epoch gen earlier ⊆ callers key seq epoch gen history := by
  obtain ⟨later, rfl⟩ := h
  intro signer hmem
  obtain ⟨later', env, ledgerSeq, ret, earlier', rfl, hrest⟩ := mem_callers.mp hmem
  refine mem_callers.mpr ⟨later ++ later', env, ledgerSeq, ret, earlier', ?_, hrest⟩
  exact (List.append_assoc _ _ _).symm

/-! What a call that is none of these adds to them: nothing. -/

theorem epochOf_cons (h : call.newSet? = none) :
    epochOf (((env, call), ret) :: history) = epochOf history := by
  simp [epochOf, h]

theorem setAt_cons (h : call.newSet? = none) :
    setAt epoch (((env, call), ret) :: history) = setAt epoch history := by
  simp [setAt, h]

/-- A new set is not the set of an epoch that had begun. -/
theorem setAt_cons_of_le (h : epoch ≤ epochOf history) :
    setAt epoch (((env, call), ret) :: history) = setAt epoch history := by
  simp only [setAt]
  split
  · rw [if_neg (by omega)]
  · rfl

theorem genOf_cons (h : call ≠ .revokeAnchor key.1 key.2) :
    genOf key (((env, call), ret) :: history) = genOf key history := by
  simp [genOf, h]

theorem callers_cons (h : call.approval? = none) :
    callers key seq epoch gen (((env, call), ret) :: history)
      = callers key seq epoch gen history := by
  simp [callers, h]

theorem callers_cons_ne {approval : Address × RootKey × ℕ} (h : call.approval? = some approval)
    (hkey : key ≠ approval.2.1) :
    callers key seq epoch gen (((env, call), ret) :: history)
      = callers key seq epoch gen history := by
  simp only [callers, h]
  rw [if_neg]
  rintro ⟨heq, -⟩
  rw [heq] at hkey
  exact hkey rfl

end Histories

end RootAnchor
end ProofBridge
