import ProofBridge.Lib.Calendar
import ProofBridge.Parity.KeyMessages

/-!
# The date a signer reads

Both registries print a deadline as a date and a time of day. What they print is the calendar's own
name of that second: read back and counted by the calendar, it gives the seconds the registry
compares with.
-/

namespace ProofBridge
namespace Parity

open ContractLib
open Calendar (Date civil)
open Text (padded readNumber)
open KeyRegistry (pushUtc)
open Evm.KeyMessages (utc pad)

/-! ## A second and its name -/

/-- A date and a time of day. -/
structure Moment where
  date : Date
  hour : ℕ
  minute : ℕ
  second : ℕ
  deriving DecidableEq, Repr

namespace Moment

structure Valid (m : Moment) : Prop where
  date : m.date.Valid
  hour : m.hour < 24
  minute : m.minute < 60
  second : m.second < 60

/-- 1970-01-01. -/
def epoch : Date := ⟨1970, 1, 1⟩

/-- The seconds since the epoch, days counted by the calendar. -/
def unix (m : Moment) : ℤ :=
  ((m.date.dayNumber : ℤ) - epoch.dayNumber) * 86400 + m.hour * 3600 + m.minute * 60 + m.second

/-- "YYYY-MM-DD HH:MM:SS UTC" -/
def printed (m : Moment) : Bytes :=
  padded 4 m.date.year ++ ascii "-" ++ padded 2 m.date.month ++ ascii "-" ++ padded 2 m.date.day
    ++ ascii " " ++ padded 2 m.hour ++ ascii ":" ++ padded 2 m.minute ++ ascii ":"
    ++ padded 2 m.second ++ ascii " UTC"

/-- Every field but the year takes two bytes; the year takes four, or as many as it has. -/
structure Widths (m : Moment) : Prop where
  fields : ∀ v ∈ [m.date.month, m.date.day, m.hour, m.minute, m.second],
    (padded 2 v).length = 2
  year : m.date.year ≤ 9999 → (padded 4 m.date.year).length = 4
  longYear : 9999 < m.date.year → padded 4 m.date.year = Text.decimal m.date.year

/-- The moment of a second. -/
def ofUnix (t : ℕ) : Moment where
  date := civil (t / 86400 + 719468)
  hour := t % 86400 / 3600
  minute := t % 86400 % 3600 / 60
  second := t % 86400 % 60

end Moment

/-! ## Reading a text -/

/-- What follows one given byte. -/
def skip (b : UInt8) : Bytes → Option Bytes
  | [] => none
  | a :: rest => if a = b then some rest else none

/-- A field and the byte after it. -/
def readField (b : UInt8) (text : Bytes) : Option (ℕ × Bytes) :=
  let r := readNumber text
  (skip b r.2).map fun rest => (r.1, rest)

def readUtc (text : Bytes) : Option Moment := do
  let (year, text) ← readField 45 text
  let (month, text) ← readField 45 text
  let (day, text) ← readField 32 text
  let (hour, text) ← readField 58 text
  let (minute, text) ← readField 58 text
  let (second, text) ← readField 32 text
  if text = ascii "UTC" then some ⟨⟨year, month, day⟩, hour, minute, second⟩ else none

theorem readField_padded {width n : ℕ} {b : UInt8} {rest : Bytes} (hb : ¬Text.IsDigit b) :
    readField b (padded width n ++ b :: rest) = some (n, rest) := by
  unfold readField
  rw [Text.readNumber_padded hb]
  simp [skip]

/-- A printed moment reads back as itself. -/
theorem readUtc_printed (m : Moment) : readUtc m.printed = some m := by
  have hdash : ascii "-" = [45] := rfl
  have hblank : ascii " " = [32] := rfl
  have hcolon : ascii ":" = [58] := rfl
  have hutc : ascii " UTC" = 32 :: ascii "UTC" := by decide +kernel
  unfold Moment.printed readUtc
  rw [hdash, hblank, hcolon, hutc]
  simp only [List.append_assoc, List.cons_append, List.nil_append]
  simp only [Option.bind_eq_bind]
  rw [readField_padded (by decide), Option.bind_some, readField_padded (by decide),
    Option.bind_some, readField_padded (by decide), Option.bind_some, readField_padded (by decide),
    Option.bind_some, readField_padded (by decide), Option.bind_some, readField_padded (by decide),
    Option.bind_some, if_pos rfl]

/-! ## What the registries print -/

theorem pad_eq (v width : ℕ) : pad v width = padded width v := by
  rw [pad, padLoop_eq (by omega), padded]
  rfl

theorem utc_eq (t : ℕ) : utc t = (Moment.ofUnix t).printed := by
  unfold utc Evm.KeyMessages.date Moment.printed Moment.ofUnix
  simp only [pad_eq, List.append_assoc]
  rfl

theorem ofUnix_valid (t : ℕ) : (Moment.ofUnix t).Valid where
  date := Calendar.civil_valid _
  hour := by
    show t % 86400 / 3600 < 24
    omega
  minute := by
    show t % 86400 % 3600 / 60 < 60
    omega
  second := Nat.mod_lt _ (by norm_num)

/-- The day count and the time of day give the second back. -/
theorem ofUnix_unix (t : ℕ) : (Moment.ofUnix t).unix = t := by
  have hepoch : Moment.epoch.dayNumber = 719528 := by
    have hyears := Calendar.daysBeforeYear_eq 1970
    simp only [Moment.epoch, Date.dayNumber, Calendar.daysBeforeMonth]
    omega
  rw [Moment.unix, hepoch]
  simp only [Moment.ofUnix, Calendar.civil_dayNumber]
  omega

theorem widths_of_valid {m : Moment} (h : m.Valid) : m.Widths where
  fields := by
    obtain ⟨⟨hmonth, hday⟩, hhour, hminute, hsecond⟩ := h
    have hlength : Calendar.monthLength m.date.year m.date.month ≤ 31 := by
      unfold Calendar.monthLength
      split
      · split <;> omega
      · split <;> omega
    intro v hv
    apply Text.length_padded (by norm_num)
    simp only [List.mem_cons, List.not_mem_nil, or_false] at hv
    omega
  year := fun h => Text.length_padded (by norm_num) (by omega)
  longYear := fun h => Text.padded_of_le (by omega) (by norm_num)

/-- The date printed is the date enforced. -/
theorem dates_printed :
    (∀ t : U64, ∃ m : Moment, pushUtc t.toNat = m.printed ∧ utc t.toNat = m.printed ∧
        readUtc m.printed = some m ∧ m.unix = t.toNat ∧ m.Valid ∧ m.Widths) ∧
      (∀ t : U64, Calendar.CivilSafe (t.toNat / 86400 + 719468)) ∧
      ∀ (t t' : U64) (m m' : Moment), t ≤ t' → readUtc (pushUtc t.toNat) = some m →
        readUtc (pushUtc t'.toNat) = some m' → ¬m'.date.Before m.date := by
  refine ⟨fun t => ?_, fun t => Calendar.civil_safe _, fun t t' m m' hle hm hm' hbefore => ?_⟩
  · have hvalid := ofUnix_valid t.toNat
    refine ⟨Moment.ofUnix t.toNat, ?_, utc_eq _, readUtc_printed _, ofUnix_unix _, hvalid,
      widths_of_valid hvalid⟩
    rw [pushUtc_eq t.isLt, utc_eq]
  · rw [pushUtc_eq t.isLt, utc_eq, readUtc_printed, Option.some.injEq] at hm
    rw [pushUtc_eq t'.isLt, utc_eq, readUtc_printed, Option.some.injEq] at hm'
    rw [← hm, ← hm'] at hbefore
    have hlt := Calendar.civil_before.mp hbefore
    have hdays : t.toNat / 86400 ≤ t'.toNat / 86400 := Nat.div_le_div_right hle
    omega

end Parity
end ProofBridge
