import Mathlib.Data.Nat.Digits.Lemmas
import Mathlib.Tactic.Common

/-!
# Text built by concatenation

A text put together from parts says what the parts say only where each part shows its own end: it
has a fixed length, or a byte that follows it cannot belong to it. `append_inj_of_ends` is the second
way. `decimal` is the decimal spelling of a number: its bytes are digits, so that any other byte ends
it, and two numbers of one spelling are equal.
-/

namespace ContractLib
namespace Text

/-! ## Where a part ends -/

section Ends

variable {α : Type} {p : α → Prop} {d d' rest rest' : List α}

/-- Whatever follows does not go on with a `p`. -/
def Ends (p : α → Prop) (rest : List α) : Prop := ∀ a ∈ rest.head?, ¬p a

theorem ends_nil : Ends p [] := by
  intro a ha
  cases ha

theorem ends_cons {a : α} {l : List α} (h : ¬p a) : Ends p (a :: l) := by
  intro b hb
  obtain rfl := Option.mem_some.mp hb
  exact h

/-- Two parts of `p`s that end where they end are the same part. -/
theorem append_inj_of_ends (hd : ∀ a ∈ d, p a) (hd' : ∀ a ∈ d', p a) (hrest : Ends p rest)
    (hrest' : Ends p rest') (h : d ++ rest = d' ++ rest') : d = d' ∧ rest = rest' := by
  induction d generalizing d' with
  | nil =>
    cases d' with
    | nil => exact ⟨rfl, h⟩
    | cons a d' =>
      rw [List.nil_append] at h
      exact absurd (hd' a List.mem_cons_self) (hrest a (by rw [h]; rfl))
  | cons a d ih =>
    cases d' with
    | nil =>
      rw [List.nil_append] at h
      exact absurd (hd a List.mem_cons_self) (hrest' a (by rw [← h]; rfl))
    | cons b d' =>
      obtain ⟨rfl, htail⟩ := List.cons.inj h
      obtain ⟨rfl, hrest⟩ := ih (fun a ha => hd a (List.mem_cons_of_mem _ ha))
        (fun a ha => hd' a (List.mem_cons_of_mem _ ha)) htail
      exact ⟨rfl, hrest⟩

end Ends

/-! ## Decimal numbers -/

/-- A byte that spells a decimal digit. -/
def IsDigit (b : UInt8) : Prop := 48 ≤ b.toNat ∧ b.toNat ≤ 57

instance : DecidablePred IsDigit := fun _ => inferInstanceAs (Decidable (_ ∧ _))

def digit (d : ℕ) : UInt8 := UInt8.ofNat (48 + d)

/-- The decimal spelling of a number, without leading zeros. -/
def decimal (n : ℕ) : List UInt8 :=
  if n = 0 then [digit 0] else ((Nat.digits 10 n).map digit).reverse

theorem toNat_digit {d : ℕ} (h : d < 10) : (digit d).toNat = 48 + d := by
  rw [digit, UInt8.toNat_ofNat']
  exact Nat.mod_eq_of_lt (by omega)

theorem digit_inj {d d' : ℕ} (h : d < 10) (h' : d' < 10) (heq : digit d = digit d') : d = d' := by
  have hnat := congrArg UInt8.toNat heq
  rw [toNat_digit h, toNat_digit h'] at hnat
  omega

theorem isDigit_of_mem_decimal {n : ℕ} {b : UInt8} (h : b ∈ decimal n) : IsDigit b := by
  unfold decimal at h
  split at h
  · rw [List.mem_singleton.mp h]
    decide
  · obtain ⟨d, hd, rfl⟩ := List.mem_map.mp (List.mem_reverse.mp h)
    have hlt := Nat.digits_lt_base (by norm_num) hd
    rw [IsDigit, toNat_digit hlt]
    omega

/-- Reading a spelling back. -/
theorem map_digit_inj {l l' : List ℕ} (hl : ∀ d ∈ l, d < 10) (hl' : ∀ d ∈ l', d < 10)
    (h : l.map digit = l'.map digit) : l = l' := by
  induction l generalizing l' with
  | nil => exact (List.map_eq_nil_iff.mp h.symm).symm
  | cons d l ih =>
    cases l' with
    | nil => cases h
    | cons d' l' =>
      obtain ⟨hhead, htail⟩ := List.cons.inj h
      rw [digit_inj (hl d List.mem_cons_self) (hl' d' List.mem_cons_self) hhead,
        ih (fun e he => hl e (List.mem_cons_of_mem _ he))
          (fun e he => hl' e (List.mem_cons_of_mem _ he)) htail]

theorem decimal_injective : Function.Injective decimal := by
  intro m n h
  have hdigits : ∀ {k d : ℕ}, d ∈ Nat.digits 10 k → d < 10 :=
    fun hd => Nat.digits_lt_base (by norm_num) hd
  -- a spelling that is one zero is the spelling of zero: no other number starts with one
  have hzero : ∀ {k : ℕ}, k ≠ 0 → ((Nat.digits 10 k).map digit).reverse ≠ [digit 0] := by
    intro k hk hspelt
    have hmap : (Nat.digits 10 k).map digit = [0].map digit := by
      rw [← List.reverse_inj, hspelt]
      rfl
    have hlist := map_digit_inj (fun _ => hdigits) (by simp) hmap
    have hvalue := congrArg (Nat.ofDigits 10) hlist
    rw [Nat.ofDigits_digits] at hvalue
    exact hk hvalue
  unfold decimal at h
  split at h <;> split at h
  · next hm hn => rw [hm, hn]
  · next hm hn => exact absurd h.symm (hzero hn)
  · next hm hn => exact absurd h (hzero hm)
  · exact Nat.digits_inj_iff.mp
      (map_digit_inj (fun _ => hdigits) (fun _ => hdigits) (List.reverse_inj.mp h))

/-- A number of more than one digit ends with its last. -/
theorem decimal_step {n : ℕ} (h : n / 10 ≠ 0) : decimal n = decimal (n / 10) ++ [digit (n % 10)] := by
  have hn : n ≠ 0 := by omega
  rw [decimal, if_neg hn, decimal, if_neg h, Nat.digits_def' (by norm_num) (by omega),
    List.map_cons, List.reverse_cons]

theorem decimal_of_lt {n : ℕ} (h : n < 10) : decimal n = [digit n] := by
  unfold decimal
  split
  · next hn => rw [hn]
  · next hn =>
    rw [Nat.digits_of_lt 10 n hn h]
    rfl

theorem length_decimal_le {n k : ℕ} (hk : 0 < k) : (decimal n).length ≤ k ↔ n < 10 ^ k := by
  unfold decimal
  split
  · next hn =>
    rw [hn]
    exact ⟨fun _ => Nat.pow_pos (by norm_num), fun _ => hk⟩
  · rw [List.length_reverse, List.length_map, Nat.digits_length_le_iff (by norm_num)]

/-- Where a number ends with a byte that is no digit, its spelling shows it. -/
theorem decimal_append_inj {m n : ℕ} {rest rest' : List UInt8} (hrest : Ends IsDigit rest)
    (hrest' : Ends IsDigit rest') (h : decimal m ++ rest = decimal n ++ rest') :
    m = n ∧ rest = rest' := by
  obtain ⟨hspelt, hrest⟩ := append_inj_of_ends (fun _ => isDigit_of_mem_decimal)
    (fun _ => isDigit_of_mem_decimal) hrest hrest' h
  exact ⟨decimal_injective hspelt, hrest⟩

/-! ## Padded numbers, read back -/

/-- A number's spelling after as many zeros as fill the width. -/
def padded (width n : ℕ) : List UInt8 :=
  List.replicate (width - (decimal n).length) (digit 0) ++ decimal n

/-- The number a digit string spells. -/
def value (l : List UInt8) : ℕ := l.foldl (fun n b => 10 * n + (b.toNat - 48)) 0

/-- The number a text starts with, and what follows it. -/
def readNumber (l : List UInt8) : ℕ × List UInt8 :=
  (value (l.takeWhile (IsDigit ·)), l.dropWhile (IsDigit ·))

theorem isDigit_of_mem_padded {width n : ℕ} {b : UInt8} (h : b ∈ padded width n) : IsDigit b := by
  rcases List.mem_append.mp h with hzero | hdigit
  · rw [List.eq_of_mem_replicate hzero]
    decide
  · exact isDigit_of_mem_decimal hdigit

theorem value_append (l : List UInt8) (b : UInt8) :
    value (l ++ [b]) = 10 * value l + (b.toNat - 48) := by
  rw [value, List.foldl_append]
  rfl

theorem value_decimal (n : ℕ) : value (decimal n) = n := by
  induction n using Nat.strong_induction_on with
  | _ n ih =>
    by_cases hone : n / 10 = 0
    · rw [decimal_of_lt (by omega), ← List.nil_append [digit n], value_append,
        toNat_digit (by omega)]
      show 10 * 0 + (48 + n - 48) = n
      omega
    · rw [decimal_step hone, value_append, ih (n / 10) (by omega), toNat_digit (by omega)]
      omega

/-- Leading zeros spell nothing. -/
theorem value_padded (width n : ℕ) : value (padded width n) = n := by
  have hzeros : ∀ k l, value (List.replicate k (digit 0) ++ l) = value l := by
    intro k l
    induction k with
    | zero => rfl
    | succ k ih => exact ih
  rw [padded, hzeros, value_decimal]

/-- A padded number is read back where the text goes on with another byte. -/
theorem readNumber_padded {width n : ℕ} {b : UInt8} {rest : List UInt8} (hb : ¬IsDigit b) :
    readNumber (padded width n ++ b :: rest) = (n, b :: rest) := by
  have hdigits : ∀ a ∈ padded width n, decide (IsDigit a) = true :=
    fun a ha => decide_eq_true (isDigit_of_mem_padded ha)
  unfold readNumber
  rw [List.takeWhile_append_of_pos hdigits, List.dropWhile_append_of_pos hdigits]
  simp [value_padded, hb]

theorem length_padded {width n : ℕ} (hwidth : 0 < width) (h : n < 10 ^ width) :
    (padded width n).length = width := by
  have hle := (length_decimal_le hwidth).mpr h
  rw [padded, List.length_append, List.length_replicate]
  omega

/-- A number that fills the width is spelt in full. -/
theorem padded_of_le {width n : ℕ} (h : 10 ^ width ≤ n) (hwidth : 0 < width) :
    padded width n = decimal n := by
  have hlong : ¬(decimal n).length ≤ width := fun hle =>
    absurd ((length_decimal_le hwidth).mp hle) (not_lt.mpr h)
  have hnone : width - (decimal n).length = 0 := by omega
  rw [padded, hnone]
  rfl

end Text
end ContractLib
