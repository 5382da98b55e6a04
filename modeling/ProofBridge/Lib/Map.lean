import Mathlib.Data.List.AList
import Mathlib.Algebra.BigOperators.Group.List.Basic
import Mathlib.Tactic.Common

/-!
# Finite maps and their totals

A contract's storage maps a key to a value and holds finitely many keys. `Map K V` is
Mathlib's association list without repeated keys, under the names a storage is read and
written with, together with `total`: the sum of a weight over every entry.

`total_set` and `total_remove` say what one write does to a total. They are what turns a
conservation law over an unbounded map into arithmetic on the one entry a call touches.
-/

namespace ContractLib

/-- A finite map from `K` to `V`. -/
abbrev Map (K V : Type) := AList (fun _ : K => V)

namespace Map

variable {K V M : Type} [DecidableEq K]

/-- The value stored under `k`, if any. -/
def get? (m : Map K V) (k : K) : Option V := m.lookup k

/-- Store `v` under `k`. -/
def set (m : Map K V) (k : K) (v : V) : Map K V := m.insert k v

/-- Forget the value under `k`. -/
def remove (m : Map K V) (k : K) : Map K V := m.erase k

/-- The sum of the weights `f key value` over the entries. -/
def total [AddCommMonoid M] (f : K → V → M) (m : Map K V) : M :=
  (m.entries.map fun e => f e.1 e.2).sum

@[simp] theorem get?_empty (k : K) : (∅ : Map K V).get? k = none := AList.lookup_empty k

theorem get?_set (m : Map K V) (k k' : K) (v : V) :
    (m.set k v).get? k' = if k' = k then some v else m.get? k' := by
  unfold get? set
  split
  · next h => subst h; exact AList.lookup_insert m
  · next h => exact AList.lookup_insert_ne h

theorem get?_remove (m : Map K V) (k k' : K) :
    (m.remove k).get? k' = if k' = k then none else m.get? k' := by
  unfold get? remove
  split
  · next h => subst h; exact AList.lookup_erase k' m
  · next h => exact AList.lookup_erase_ne h

@[simp] theorem get?_set_self (m : Map K V) (k : K) (v : V) : (m.set k v).get? k = some v := by
  simp [get?_set]

@[simp] theorem get?_remove_self (m : Map K V) (k : K) : (m.remove k).get? k = none := by
  simp [get?_remove]

theorem get?_set_ne {m : Map K V} {k k' : K} {v : V} (h : k' ≠ k) :
    (m.set k v).get? k' = m.get? k' := by
  simp [get?_set, h]

theorem get?_remove_ne {m : Map K V} {k k' : K} (h : k' ≠ k) :
    (m.remove k).get? k' = m.get? k' := by
  simp [get?_remove, h]

/-! ## Totals -/

section Total

variable [AddCommMonoid M]

omit [DecidableEq K] in
@[simp] theorem total_empty (f : K → V → M) : total f (∅ : Map K V) = 0 := rfl

/-- The weight of what `m` stores under `k`; nothing stored weighs nothing. -/
def weightAt (f : K → V → M) (m : Map K V) (k : K) : M := ((m.get? k).map (f k)).getD 0

theorem weightAt_of_get? {f : K → V → M} {m : Map K V} {k : K} {v : V}
    (h : m.get? k = some v) : weightAt f m k = f k v := by
  simp [weightAt, h]

theorem weightAt_of_none {f : K → V → M} {m : Map K V} {k : K} (h : m.get? k = none) :
    weightAt f m k = 0 := by
  simp [weightAt, h]

private theorem sum_kerase (f : K → V → M) (k : K) (l : List (Sigma fun _ : K => V)) :
    (l.map fun e => f e.1 e.2).sum
      = (((l.dlookup k).map (f k)).getD 0) + ((l.kerase k).map fun e => f e.1 e.2).sum := by
  induction l with
  | nil => simp
  | cons e l ih =>
    obtain ⟨k', v⟩ := e
    by_cases h : k = k'
    · subst h
      have hl : List.kerase k (⟨k, v⟩ :: l) = l := List.kerase_cons_eq rfl
      simp [hl]
    · have hl : List.kerase k (⟨k', v⟩ :: l) = ⟨k', v⟩ :: List.kerase k l :=
        List.kerase_cons_ne h
      have hd : List.dlookup k (⟨k', v⟩ :: l) = List.dlookup k l :=
        List.dlookup_cons_ne l ⟨k', v⟩ h
      rw [hd, hl, List.map_cons, List.sum_cons, ih, List.map_cons, List.sum_cons,
        add_left_comm]

/-- Removing a key takes its weight out of the total. -/
theorem total_remove (f : K → V → M) (m : Map K V) (k : K) :
    total f m = weightAt f m k + total f (m.remove k) :=
  sum_kerase f k m.entries

/-- Writing a key puts the new weight in place of the old one. -/
theorem total_set (f : K → V → M) (m : Map K V) (k : K) (v : V) :
    total f (m.set k v) + weightAt f m k = total f m + f k v := by
  have h : total f (m.set k v) = f k v + total f (m.remove k) := by
    have hentries : (m.remove k).entries = List.kerase k m.entries := rfl
    simp [total, set, AList.entries_insert, hentries]
  rw [h, total_remove f m k, add_comm (f k v), add_right_comm, add_comm (weightAt f m k)]

/-- Writing a key that holds nothing adds its weight. -/
theorem total_set_of_none {f : K → V → M} {m : Map K V} {k : K} {v : V}
    (h : m.get? k = none) : total f (m.set k v) = total f m + f k v := by
  rw [← total_set, weightAt_of_none h, add_zero]

end Total

/-- No entry weighs more than all of them. -/
theorem weightAt_le_total (f : K → V → ℕ) (m : Map K V) (k : K) :
    weightAt f m k ≤ total f m := by
  rw [total_remove f m k]
  exact Nat.le_add_right _ _

end Map

end ContractLib
