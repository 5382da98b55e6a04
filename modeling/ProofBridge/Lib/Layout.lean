import Mathlib.Data.List.Basic
import Mathlib.Data.List.GetD
import Mathlib.Data.List.Induction
import Mathlib.Tactic.Common
import Mathlib.Tactic.Ring

/-!
# Byte layouts

A reader that walks a byte string by positions, and the layout it reads. `At data pos chunk` says that
`chunk` stands in `data` at `pos`; the chunks of a layout stand one behind the other (`at_append`), so
what a reader found at each position is the whole string once the last one ends where the string does
(`at_zero`). `bigEndian` and `ofBytes` are the numbers of a layout. The last section orders byte
strings by words: `Before` compares two as if zeros followed without end, which is the order of the
numbers their words spell, and leaves out only what the lengths then tell (`lt_iff_before`).
-/

namespace ContractLib
namespace Layout

/-! ## What stands where -/

section At

variable {data x y : List UInt8} {pos n : ℕ}

/-- The bytes from `start` up to `stop`, where both are in range. -/
def slice (data : List UInt8) (start stop : ℕ) : Option (List UInt8) :=
  if start ≤ stop ∧ stop ≤ data.length then some ((data.drop start).take (stop - start)) else none

/-- `chunk` stands in `data` at `pos`. -/
def At (data : List UInt8) (pos : ℕ) (chunk : List UInt8) : Prop :=
  ∃ rest, data.drop pos = chunk ++ rest

theorem at_nil : At data pos [] := ⟨data.drop pos, rfl⟩

theorem at_append : At data pos (x ++ y) ↔ At data pos x ∧ At data (pos + x.length) y := by
  constructor
  · rintro ⟨rest, h⟩
    refine ⟨⟨y ++ rest, by rw [h, List.append_assoc]⟩, rest, ?_⟩
    rw [← List.drop_drop, h, List.append_assoc, List.drop_left]
  · rintro ⟨⟨rest, hx⟩, rest', hy⟩
    rw [← List.drop_drop, hx, List.drop_left] at hy
    exact ⟨rest', by rw [hx, hy, List.append_assoc]⟩

theorem At.le_length (h : At data pos x) (hx : x ≠ []) : pos + x.length ≤ data.length := by
  obtain ⟨rest, h⟩ := h
  have hlen := congrArg List.length h
  have hpos := List.length_pos_of_ne_nil hx
  rw [List.length_drop, List.length_append] at hlen
  omega

/-- A chunk that starts where the string does and is as long is the string. -/
theorem at_zero : At data 0 x ∧ x.length = data.length ↔ data = x := by
  constructor
  · rintro ⟨⟨rest, h⟩, hlen⟩
    rw [List.drop_zero] at h
    have hrest : rest = [] := by
      apply List.eq_nil_of_length_eq_zero
      have htotal := congrArg List.length h
      rw [List.length_append] at htotal
      omega
    rw [h, hrest, List.append_nil]
  · rintro rfl
    exact ⟨⟨[], by rw [List.drop_zero, List.append_nil]⟩, rfl⟩

/-- One place holds one chunk of a length. -/
theorem At.unique (hx : At data pos x) (hy : At data pos y) (hlen : x.length = y.length) :
    x = y := by
  obtain ⟨rest, hx⟩ := hx
  obtain ⟨rest', hy⟩ := hy
  exact (List.append_inj (hx.symm.trans hy) hlen).1

/-- What stands at a place still stands there when the string goes on. -/
theorem At.append_right (h : At data pos x) : At (data ++ y) pos x := by
  obtain ⟨rest, h⟩ := h
  exact ⟨rest ++ y.drop (pos - data.length), by rw [List.drop_append, h, List.append_assoc]⟩

theorem slice_iff : slice data pos (pos + n) = some x ↔
    x.length = n ∧ At data pos x ∧ pos + n ≤ data.length := by
  unfold slice
  rw [Nat.add_sub_cancel_left]
  constructor
  · intro h
    split at h
    · next hrange =>
      obtain rfl := Option.some.inj h
      refine ⟨?_, ⟨(data.drop pos).drop n, (List.take_append_drop n _).symm⟩, hrange.2⟩
      rw [List.length_take, List.length_drop]
      omega
    · cases h
  · rintro ⟨hlen, ⟨rest, h⟩, hrange⟩
    rw [if_pos ⟨by omega, by omega⟩, h, ← hlen, List.take_left]

theorem slice_eq_some (hn : 0 < n) :
    slice data pos (pos + n) = some x ↔ x.length = n ∧ At data pos x := by
  rw [slice_iff]
  constructor
  · rintro ⟨hlen, hat, -⟩
    exact ⟨hlen, hat⟩
  · rintro ⟨hlen, hat⟩
    have hrange := hat.le_length (List.ne_nil_of_length_pos (by omega))
    exact ⟨hlen, hat, by omega⟩

/-- A byte of the string. -/
theorem getElem?_eq_some {b : UInt8} : data[pos]? = some b ↔ At data pos [b] := by
  unfold At
  rw [← List.head?_drop]
  cases h : data.drop pos with
  | nil => simp
  | cons a rest => simp

/-- The element of a list of equally long chunks. -/
theorem At.flatMap {α : Type} {enc : α → List UInt8} {width : ℕ} {l : List α} {i : ℕ} {a : α}
    (hwidth : ∀ a, (enc a).length = width) (h : At data pos (l.flatMap enc)) (hi : l[i]? = some a) :
    At data (pos + i * width) (enc a) := by
  induction l generalizing pos i with
  | nil => cases hi
  | cons b l ih =>
    rw [List.flatMap_cons, at_append, hwidth] at h
    cases i with
    | zero =>
      obtain rfl := Option.some.inj hi
      rw [Nat.zero_mul, Nat.add_zero]
      exact h.1
    | succ i =>
      have hnext : pos + (i + 1) * width = pos + width + i * width := by ring
      rw [hnext]
      exact ih h.2 hi

theorem length_flatMap {α : Type} {enc : α → List UInt8} {width : ℕ} {l : List α}
    (hwidth : ∀ a, (enc a).length = width) : (l.flatMap enc).length = l.length * width := by
  induction l with
  | nil => rw [List.flatMap_nil, List.length_nil, List.length_nil, Nat.zero_mul]
  | cons a l ih =>
    rw [List.flatMap_cons, List.length_append, hwidth, ih, List.length_cons]
    ring

end At

/-! ## Numbers -/

section Numbers

variable {n v : ℕ} {x : List UInt8}

/-- The `n` last bytes of a number, the most significant first. -/
def bigEndian : ℕ → ℕ → List UInt8
  | 0, _ => []
  | n + 1, v => bigEndian n (v / 256) ++ [UInt8.ofNat v]

/-- The number some bytes spell. -/
def ofBytes (x : List UInt8) : ℕ := x.foldl (fun acc b => acc * 256 + b.toNat) 0

@[simp] theorem length_bigEndian : (bigEndian n v).length = n := by
  induction n generalizing v with
  | zero => rfl
  | succ n ih => rw [bigEndian, List.length_append, ih, List.length_singleton]

@[simp] theorem ofBytes_append_singleton {b : UInt8} :
    ofBytes (x ++ [b]) = ofBytes x * 256 + b.toNat := by
  rw [ofBytes, List.foldl_append]
  rfl

theorem ofBytes_lt : ofBytes x < 256 ^ x.length := by
  induction x using List.reverseRecOn with
  | nil => exact Nat.one_pos
  | append_singleton x b ih =>
    have hb := b.toNat_lt
    rw [ofBytes_append_singleton, List.length_append, List.length_singleton, pow_succ]
    omega

theorem ofBytes_bigEndian (h : v < 256 ^ n) : ofBytes (bigEndian n v) = v := by
  induction n generalizing v with
  | zero =>
    rw [pow_zero] at h
    obtain rfl : v = 0 := by omega
    rfl
  | succ n ih =>
    rw [pow_succ] at h
    rw [bigEndian, ofBytes_append_singleton, ih (Nat.div_lt_of_lt_mul (by omega)),
      UInt8.toNat_ofNat']
    omega

theorem bigEndian_ofBytes (h : x.length = n) : bigEndian n (ofBytes x) = x := by
  induction n generalizing x with
  | zero => rw [List.eq_nil_of_length_eq_zero h, bigEndian]
  | succ n ih =>
    obtain ⟨y, b, rfl⟩ : ∃ y b, x = y ++ [b] := by
      have hx : x ≠ [] := List.ne_nil_of_length_pos (by omega)
      exact ⟨x.dropLast, x.getLast hx, (List.dropLast_append_getLast hx).symm⟩
    rw [List.length_append, List.length_singleton] at h
    have hb := b.toNat_lt
    have hhead : (ofBytes y * 256 + b.toNat) / 256 = ofBytes y := by omega
    have hlast : UInt8.ofNat (ofBytes y * 256 + b.toNat) = b := by
      apply UInt8.toNat_inj.mp
      rw [UInt8.toNat_ofNat']
      omega
    rw [ofBytes_append_singleton, bigEndian, hhead, hlast, ih (by omega)]

/-- The bytes of a number, one by one. -/
theorem bigEndian_eq_map :
    bigEndian n v = (List.range n).map fun i => UInt8.ofNat (v / 256 ^ (n - 1 - i)) := by
  induction n generalizing v with
  | zero => rfl
  | succ n ih =>
    rw [bigEndian, ih, List.range_succ, List.map_append, List.map_singleton]
    have hlast : v / 256 ^ (n + 1 - 1 - n) = v := by
      rw [Nat.add_sub_cancel, Nat.sub_self, pow_zero, Nat.div_one]
    rw [hlast]
    congr 1
    apply List.map_congr_left
    intro i hi
    have hlt := List.mem_range.mp hi
    have hpow : 256 * 256 ^ (n - 1 - i) = 256 ^ (n + 1 - 1 - i) := by
      rw [← pow_succ']
      congr 1
      omega
    rw [Nat.div_div_eq_div_mul, hpow]

theorem bigEndian_inj {w : ℕ} (hv : v < 256 ^ n) (hw : w < 256 ^ n)
    (h : bigEndian n v = bigEndian n w) : v = w := by
  rw [← ofBytes_bigEndian hv, h, ofBytes_bigEndian hw]

/-- A number read at a place is the one spelt there. -/
theorem slice_ofBytes {data : List UInt8} {pos : ℕ} (hn : 0 < n) :
    (slice data pos (pos + n)).map ofBytes = some v ↔ v < 256 ^ n ∧ At data pos (bigEndian n v) := by
  constructor
  · intro h
    obtain ⟨y, hy, rfl⟩ := Option.map_eq_some_iff.mp h
    obtain ⟨rfl, hat⟩ := (slice_eq_some hn).mp hy
    rw [bigEndian_ofBytes rfl]
    exact ⟨ofBytes_lt, hat⟩
  · rintro ⟨hv, hat⟩
    rw [(slice_eq_some hn).mpr ⟨length_bigEndian, hat⟩, Option.map_some, ofBytes_bigEndian hv]

end Numbers

/-! ## The order of byte strings, by words -/

section Order

variable {a b : List UInt8} {i m : ℕ}

/-- From `i` on, the strings differ first where `a` has the smaller byte; zeros follow a string's
end. -/
def Before (i : ℕ) (a b : List UInt8) : Prop :=
  ∃ j ≥ i, (∀ k, i ≤ k → k < j → a.getD k 0 = b.getD k 0) ∧ a.getD j 0 < b.getD j 0

/-- From `i` on, the strings do not differ but for zeros at the end. -/
def Same (i : ℕ) (a b : List UInt8) : Prop := ∀ k ≥ i, a.getD k 0 = b.getD k 0

/-- `m` bytes from `i` on, as a number; zeros follow the string's end. -/
def wordFrom (a : List UInt8) (i m : ℕ) : ℕ := ofBytes ((List.range m).map fun k => a.getD (i + k) 0)

theorem wordFrom_succ : wordFrom a i (m + 1) = wordFrom a i m * 256 + (a.getD (i + m) 0).toNat := by
  rw [wordFrom, List.range_succ, List.map_append, List.map_singleton, ofBytes_append_singleton]
  rfl

theorem wordFrom_eq : wordFrom a i m = wordFrom b i m ↔
    ∀ k, i ≤ k → k < i + m → a.getD k 0 = b.getD k 0 := by
  induction m with
  | zero =>
    refine ⟨fun _ k hik hk => ?_, fun _ => rfl⟩
    omega
  | succ m ih =>
    have ha := (a.getD (i + m) 0).toNat_lt
    have hb := (b.getD (i + m) 0).toNat_lt
    rw [wordFrom_succ, wordFrom_succ]
    constructor
    · intro h k hik hk
      rcases Nat.lt_or_ge k (i + m) with hlt | hge
      · exact ih.mp (by omega) k hik hlt
      · obtain rfl : k = i + m := by omega
        exact UInt8.toNat_inj.mp (by omega)
    · intro h
      rw [ih.mpr fun k hik hk => h k hik (by omega), h (i + m) (by omega) (by omega)]

theorem wordFrom_lt : wordFrom a i m < wordFrom b i m ↔ ∃ j, i ≤ j ∧ j < i + m ∧
    (∀ k, i ≤ k → k < j → a.getD k 0 = b.getD k 0) ∧ a.getD j 0 < b.getD j 0 := by
  induction m with
  | zero =>
    refine ⟨fun h => absurd h (lt_irrefl _), fun ⟨j, hij, hj, _⟩ => ?_⟩
    omega
  | succ m ih =>
    have ha := (a.getD (i + m) 0).toNat_lt
    have hb := (b.getD (i + m) 0).toNat_lt
    rw [wordFrom_succ, wordFrom_succ]
    constructor
    · intro h
      rcases Nat.lt_trichotomy (wordFrom a i m) (wordFrom b i m) with hlt | heq | hgt
      · obtain ⟨j, hij, hj, hbefore⟩ := ih.mp hlt
        exact ⟨j, hij, by omega, hbefore⟩
      · have hbyte : (a.getD (i + m) 0).toNat < (b.getD (i + m) 0).toNat := by omega
        exact ⟨i + m, by omega, by omega, wordFrom_eq.mp heq, hbyte⟩
      · omega
    · rintro ⟨j, hij, hj, hsame, hless⟩
      rcases Nat.lt_or_ge j (i + m) with hlt | hge
      · have hword := ih.mpr ⟨j, hij, hlt, hsame, hless⟩
        omega
      · obtain rfl : j = i + m := by omega
        have hword := wordFrom_eq.mpr hsame
        have hbyte : (a.getD (i + m) 0).toNat < (b.getD (i + m) 0).toNat := hless
        omega

/-- One word decides the order unless it is the same on both sides. -/
theorem before_iff : Before i a b ↔ wordFrom a i m < wordFrom b i m ∨
    wordFrom a i m = wordFrom b i m ∧ Before (i + m) a b := by
  rw [wordFrom_lt, wordFrom_eq]
  constructor
  · rintro ⟨j, hij, hsame, hless⟩
    rcases Nat.lt_or_ge j (i + m) with hlt | hge
    · exact .inl ⟨j, hij, hlt, hsame, hless⟩
    · exact .inr ⟨fun k hik hk => hsame k hik (by omega), j, hge,
        fun k hik hk => hsame k (by omega) hk, hless⟩
  · rintro (⟨j, hij, hj, hsame, hless⟩ | ⟨heq, j, hij, hsame, hless⟩)
    · exact ⟨j, hij, hsame, hless⟩
    · refine ⟨j, by omega, fun k hik hk => ?_, hless⟩
      rcases Nat.lt_or_ge k (i + m) with hlt | hge
      · exact heq k hik hlt
      · exact hsame k hge hk

theorem same_iff : Same i a b ↔ wordFrom a i m = wordFrom b i m ∧ Same (i + m) a b := by
  rw [wordFrom_eq]
  constructor
  · intro h
    exact ⟨fun k hik _ => h k hik, fun k hk => h k (by omega)⟩
  · rintro ⟨heq, hsame⟩ k hik
    rcases Nat.lt_or_ge k (i + m) with hlt | hge
    · exact heq k hik hlt
    · exact hsame k hge

/-- Past the end of the shorter string the lengths decide. -/
theorem before_or_same_iff (h : min a.length b.length ≤ i) :
    Before i a b ∨ Same i a b ∧ a.length < b.length ↔ a.length < b.length := by
  have hend : ∀ {l : List UInt8} {k : ℕ}, l.length ≤ k → l.getD k 0 = 0 := fun hk =>
    List.getD_eq_default _ _ hk
  rcases Nat.lt_or_ge a.length b.length with hlt | hge
  · refine ⟨fun _ => hlt, fun _ => ?_⟩
    by_cases hsame : Same i a b
    · exact .inr ⟨hsame, hlt⟩
    · -- the first byte of `b` that is no zero
      have hex : ∃ k, i ≤ k ∧ a.getD k 0 ≠ b.getD k 0 := by
        simpa only [Same, not_forall, exists_prop] using hsame
      classical
      refine .inl ⟨Nat.find hex, (Nat.find_spec hex).1, fun k hik hk => ?_, ?_⟩
      · by_contra hne
        exact Nat.find_min hex hk ⟨hik, hne⟩
      · obtain ⟨hi, hne⟩ := Nat.find_spec hex
        rw [hend (by omega : a.length ≤ Nat.find hex)] at hne ⊢
        exact UInt8.pos_iff_ne_zero.mpr hne.symm
  · constructor
    · rintro (⟨j, hij, -, hless⟩ | ⟨-, hlt⟩)
      · rw [hend (by omega : b.length ≤ j)] at hless
        exact absurd hless UInt8.not_lt_zero
      · exact hlt
    · intro hlt
      omega

theorem before_cons {x y : UInt8} : Before 0 (x :: a) (y :: b) ↔ x < y ∨ x = y ∧ Before 0 a b := by
  constructor
  · rintro ⟨j, -, hsame, hless⟩
    cases j with
    | zero => exact .inl hless
    | succ j =>
      exact .inr ⟨hsame 0 le_rfl j.succ_pos, j, Nat.zero_le j,
        fun k _ hk => hsame (k + 1) (Nat.zero_le _) (by omega), hless⟩
  · rintro (hless | ⟨rfl, j, -, hsame, hless⟩)
    · exact ⟨0, le_rfl, fun k _ hk => absurd hk (Nat.not_lt_zero k), hless⟩
    · refine ⟨j + 1, Nat.zero_le _, fun k _ hk => ?_, hless⟩
      cases k with
      | zero => rfl
      | succ k => exact hsame k (Nat.zero_le k) (by omega)

theorem same_cons {x y : UInt8} : Same 0 (x :: a) (y :: b) ↔ x = y ∧ Same 0 a b := by
  constructor
  · intro h
    exact ⟨h 0 le_rfl, fun k _ => h (k + 1) (Nat.zero_le _)⟩
  · rintro ⟨rfl, h⟩ k -
    cases k with
    | zero => rfl
    | succ k => exact h k (Nat.zero_le k)

/-- The lexicographic order is the order with zeros at the end, a tie going to the shorter. -/
theorem lt_iff_before : a < b ↔ Before 0 a b ∨ Same 0 a b ∧ a.length < b.length := by
  induction a generalizing b with
  | nil =>
    rw [before_or_same_iff (by simp)]
    cases b <;> simp
  | cons x a ih =>
    cases b with
    | nil =>
      rw [before_or_same_iff (by simp)]
      simp
    | cons y b =>
      rw [List.cons_lt_cons_iff, ih, before_cons, same_cons, List.length_cons, List.length_cons,
        Nat.add_lt_add_iff_right]
      tauto

end Order

end Layout
end ContractLib
