import Mathlib.Algebra.Order.BigOperators.Group.List
import Mathlib.Algebra.Order.Ring.Nat
import Mathlib.Algebra.Order.Group.Nat
import Mathlib.Data.List.Nodup
import Mathlib.Tactic.Common

/-!
# Totals over the live entries of a book

A *book* lists what was ever opened, each entry under its own key, and never forgets an
entry. Whether an entry is still open is told by its key alone. `liveTotal live w book`
sums the weights `w` of the entries whose key is live; a counter that is meant to track a
set of open things is a counter equal to such a sum.

Three facts carry every such counter: opening a fresh key adds its weight, closing a live
key takes it out, and nothing else moves the sum.
-/

namespace ContractLib

variable {K V : Type}

/-- The sum of the weights of the entries of `book` whose key is live. -/
def liveTotal (live : K → Bool) (w : V → ℕ) (book : List (K × V)) : ℕ :=
  ((book.filter fun e => live e.1).map fun e => w e.2).sum

@[simp] theorem liveTotal_nil (live : K → Bool) (w : V → ℕ) : liveTotal live w [] = 0 := rfl

theorem liveTotal_cons (live : K → Bool) (w : V → ℕ) (e : K × V) (book : List (K × V)) :
    liveTotal live w (e :: book) = (if live e.1 then w e.2 else 0) + liveTotal live w book := by
  unfold liveTotal
  rw [List.filter_cons]
  split <;> simp

/-- The sum reads liveness only at the keys of the book. -/
theorem liveTotal_congr {live live' : K → Bool} {w : V → ℕ} {book : List (K × V)}
    (h : ∀ e ∈ book, live' e.1 = live e.1) :
    liveTotal live' w book = liveTotal live w book := by
  unfold liveTotal
  rw [List.filter_congr h]

/-- Closing a live key that the book holds once takes exactly its weight out. -/
theorem liveTotal_close {live live' : K → Bool} {w : V → ℕ} {k : K} {v : V}
    {book : List (K × V)} (hnodup : (book.map Prod.fst).Nodup) (hmem : (k, v) ∈ book)
    (hlive : live k = true) (hdead : live' k = false)
    (hother : ∀ k', k' ≠ k → live' k' = live k') :
    liveTotal live' w book + w v = liveTotal live w book := by
  induction book with
  | nil => simp at hmem
  | cons e book ih =>
    rw [List.map_cons, List.nodup_cons] at hnodup
    rw [liveTotal_cons, liveTotal_cons]
    rcases List.mem_cons.mp hmem with rfl | hmem
    · have hrest : liveTotal live' w book = liveTotal live w book := by
        refine liveTotal_congr fun e he => hother _ fun hk => hnodup.1 ?_
        exact List.mem_map.mpr ⟨e, he, hk⟩
      simp only [hlive, hdead, hrest]
      simp [Nat.add_comm]
    · have hk : e.1 ≠ k := by
        rintro rfl
        exact hnodup.1 (by simpa using ⟨_, hmem⟩)
      rw [hother _ hk, Nat.add_assoc, ih hnodup.2 hmem]

/-- A live entry weighs no more than all of them. -/
theorem le_liveTotal {live : K → Bool} {w : V → ℕ} {k : K} {v : V} {book : List (K × V)}
    (hmem : (k, v) ∈ book) (hlive : live k = true) : w v ≤ liveTotal live w book := by
  refine List.le_sum_of_mem (List.mem_map.mpr ⟨(k, v), ?_, rfl⟩)
  simp [hmem, hlive]

/-- With unit weights on the entries `p` picks, the sum counts them. -/
theorem liveTotal_eq_countP (live : K → Bool) (p : V → Bool) (book : List (K × V)) :
    liveTotal live (fun v => if p v then 1 else 0) book
      = book.countP fun e => live e.1 && p e.2 := by
  induction book with
  | nil => rfl
  | cons e book ih =>
    rw [liveTotal_cons, ih, List.countP_cons]
    cases live e.1 <;> cases p e.2 <;> simp [Nat.add_comm]

/-- In a book without repeated keys, a key names one entry. -/
theorem book_entry_unique {book : List (K × V)} (hnodup : (book.map Prod.fst).Nodup)
    {k : K} {v v' : V} (h : (k, v) ∈ book) (h' : (k, v') ∈ book) : v = v' :=
  congrArg Prod.snd (List.inj_on_of_nodup_map hnodup h h' rfl)

end ContractLib
