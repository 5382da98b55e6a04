import Mathlib.Data.List.Basic
import Mathlib.Data.List.Nodup
import Mathlib.Tactic.Common

/-!
# Ids handed out in turn, names used once

A registry hands out ids in increasing order and remembers every name it ever gave one to. `Issued`
says what its counter and its memory know of the list of everything issued, the newest first.
-/

namespace ContractLib

variable {ν ι : Type} [DecidableEq ν]

/-- `next` is above every id issued, ids only went up, and exactly the names issued are used. -/
structure Issued (rank : ι → ℕ) (used : ν → Bool) (next : ℕ) (issued : List (ν × ι)) : Prop where
  used_iff : ∀ name, used name = true ↔ name ∈ issued.map Prod.fst
  names : (issued.map Prod.fst).Nodup
  below : ∀ p ∈ issued, rank p.2 < next
  ordered : issued.Pairwise fun later earlier => rank earlier.2 < rank later.2

namespace Issued

variable {rank : ι → ℕ} {used used' : ν → Bool} {next next' : ℕ} {issued : List (ν × ι)}

omit [DecidableEq ν] in
theorem nil (h : ∀ name, used name = false) : Issued rank used next [] where
  used_iff name := by simp [h name]
  names := List.nodup_nil
  below p hp := by cases hp
  ordered := List.Pairwise.nil

omit [DecidableEq ν] in
theorem congr (h : Issued rank used next issued) (hused : ∀ name, used' name = used name)
    (hnext : next' = next) : Issued rank used' next' issued where
  used_iff name := by rw [hused]; exact h.used_iff name
  names := h.names
  below := by rw [hnext]; exact h.below
  ordered := h.ordered

/-- A name never used before is given the next id. -/
theorem cons (h : Issued rank used next issued) {name : ν} {id : ι} (hunused : used name = false)
    (hid : rank id = next) (hnext : next' = next + 1)
    (hused : ∀ name', used' name' = (decide (name' = name) || used name')) :
    Issued rank used' next' ((name, id) :: issued) := by
  have hnew : name ∉ issued.map Prod.fst := by
    intro hmem
    rw [(h.used_iff name).mpr hmem] at hunused
    cases hunused
  constructor
  · intro name'
    rw [hused, Bool.or_eq_true, decide_eq_true_eq, h.used_iff, List.map_cons, List.mem_cons]
  · exact List.nodup_cons.mpr ⟨hnew, h.names⟩
  · intro p hp
    rw [hnext]
    rcases List.mem_cons.mp hp with rfl | hp
    · exact hid ▸ Nat.lt_succ_self _
    · exact Nat.lt_succ_of_lt (h.below p hp)
  · refine List.pairwise_cons.mpr ⟨?_, h.ordered⟩
    intro p hp
    rw [hid]
    exact h.below p hp

omit [DecidableEq ν] in
/-- No id was issued twice. -/
theorem ids (h : Issued rank used next issued) : (issued.map Prod.snd).Nodup := by
  unfold List.Nodup
  rw [List.pairwise_map]
  refine h.ordered.imp ?_
  intro later earlier hlt heq
  rw [heq] at hlt
  exact Nat.lt_irrefl _ hlt

end Issued

end ContractLib
