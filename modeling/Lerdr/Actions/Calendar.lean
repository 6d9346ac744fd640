/-
# Lerdr.Actions.Calendar — dates and day numbers.

`push.rs`, `uploads.rs`, `activity.rs` and `audit.rs` carry the same closed forms. Two take the era
by truncated division, after moving negative numbers down, and two by Euclidean division; the month
of a year that begins in March is a remainder in one and a case in the other. All are the calendar's
(`Lib.Gregorian`), as long as the shift of the epoch does not overflow.
-/
import Lerdr.Lib.Gregorian
import Lerdr.Rust.Text

namespace Lerdr.Actions

open Lib.Gregorian Lerdr.Rust

/-! ## §1 — the functions -/

/-- The steps that all four share, once the era is known. The divided numbers are not negative. -/
def civilOfEra (z era : Int) : Civil :=
  let doe := z - era * 146097
  let yoe := (doe - doe / 1460 + doe / 36524 - doe / 146096) / 365
  let y := yoe + era * 400
  let doy := doe - (365 * yoe + yoe / 4 - yoe / 100)
  let mp := (5 * doy + 2) / 153
  let d := doy - (153 * mp + 2) / 5 + 1
  let m := if mp < 10 then mp + 3 else mp - 9
  ⟨if m ≤ 2 then y + 1 else y, m, d⟩

/-- `i64` arithmetic that ends in one number: sums and products wrap once. -/
def wrapI64 (a : Int) : Int := a.bmod (2 ^ 64)

/-- The steps back, from the year that begins in March and its month. -/
def daysOfEra (y era mp day : Int) : Int :=
  let yoe := y - era * 400
  let doy := (153 * mp + 2) / 5 + day - 1
  let doe := yoe * 365 + yoe / 4 - yoe / 100 + doy
  wrapI64 (era * 146097 + doe - 719468)

namespace Push

def civilFromDays (days : Int) : Civil :=
  let z := addI64 days 719468
  civilOfEra z ((if 0 ≤ z then z else addI64 z (-146096)).tdiv 146097)

def daysFromCivil (year month day : Int) : Int :=
  let y := if month ≤ 2 then addI64 year (-1) else year
  daysOfEra y ((if 0 ≤ y then y else addI64 y (-399)).tdiv 400) ((month + 9) % 12) day

end Push

namespace Uploads

def civilFromDays (days : Int) : Civil :=
  let z := addI64 days 719468
  civilOfEra z (z / 146097)

def daysFromCivil (year month day : Int) : Int :=
  let y := if month ≤ 2 then addI64 year (-1) else year
  daysOfEra y (y / 400) (if 2 < month then month - 3 else month + 9) day

end Uploads

/-- `activity.rs` has the functions of `uploads.rs`. -/
def Activity.daysFromCivil (year month day : Int) : Int := Uploads.daysFromCivil year month day

/-- `audit.rs` has the function of `push.rs`. -/
def Audit.civilFromDays (days : Int) : Civil := Push.civilFromDays days

/-! ## §2 — what they are -/

/-- The day numbers whose shift fits. -/
def InRange (days : Int) : Prop := -2 ^ 63 ≤ days ∧ days + 719468 < 2 ^ 63

theorem wrapI64_eq {a : Int} (hlo : -2 ^ 63 ≤ a) (hhi : a < 2 ^ 63) : wrapI64 a = a :=
  Int.bmod_eq_of_le (by omega) (by omega)

theorem civilOfEra_eq (days : Int) :
    civilOfEra (days + 719468) ((days + 719468) / 146097) = ofDays days := rfl

/-- Truncated division after the shift rounds down. -/
theorem tdiv_shift {a : Int} {n : Nat} (hn : 0 < n) :
    (if 0 ≤ a then a else a + -((n : Int) - 1)).tdiv n = a / n := by
  split
  · next ha => exact Int.tdiv_eq_ediv_of_nonneg ha
  · next ha =>
    obtain ⟨m, hm, rfl⟩ : ∃ m : Int, 0 ≤ m ∧ a = -m + (n - 1) := ⟨-a + (n - 1), by omega, by ring⟩
    have hdivides := Int.emod_add_mul_ediv m n
    have hlt := Int.emod_lt_of_pos m (show 0 < (n : Int) by omega)
    have hnonneg := Int.emod_nonneg m (show (n : Int) ≠ 0 by omega)
    have hsplit : -m + ((n : Int) - 1) = (n - 1 - m % n) + n * -(m / n) := by
      rw [mul_neg]
      omega
    have hzero : ((n : Int) - 1 - m % n) / n = 0 := Int.ediv_eq_zero_of_lt (by omega) (by omega)
    rw [Int.add_neg_cancel_right, Int.neg_tdiv, Int.tdiv_eq_ediv_of_nonneg hm, hsplit,
      Int.add_mul_ediv_left _ _ (by omega), hzero, zero_add]

theorem push_civilFromDays {days : Int} (h : InRange days) :
    Push.civilFromDays days = ofDays days := by
  have hz : addI64 days 719468 = days + 719468 := addI64_eq (by have := h.1; omega) h.2
  rw [← civilOfEra_eq, Push.civilFromDays, hz]
  congr 1
  rw [addI64_eq (by have := h.1; omega) (by have := h.2; omega)]
  exact tdiv_shift (n := 146097) (by decide)

theorem uploads_civilFromDays {days : Int} (h : InRange days) :
    Uploads.civilFromDays days = ofDays days := by
  rw [← civilOfEra_eq, Uploads.civilFromDays, addI64_eq (by have := h.1; omega) h.2]

/-- The years of the day numbers in range. -/
theorem year_bound {c : Civil} (h : c.Valid) (hrange : InRange (toDays c)) :
    -2 ^ 56 ≤ c.year ∧ c.year ≤ 2 ^ 56 := by
  have hdays := toDays_bounds h
  obtain ⟨hlo, hhi⟩ := hrange
  omega

theorem daysOfEra_eq {c : Civil} (hrange : InRange (toDays c)) :
    daysOfEra c.marchYear (c.marchYear / 400) c.marchMonth c.day = toDays c := by
  have hsum : c.marchYear / 400 * 146097 + ((c.marchYear - c.marchYear / 400 * 400) * 365 +
      (c.marchYear - c.marchYear / 400 * 400) / 4 -
      (c.marchYear - c.marchYear / 400 * 400) / 100 +
      ((153 * c.marchMonth + 2) / 5 + c.day - 1)) - 719468 = toDays c := by
    rw [toDays, march, Civil.marchDay, monthStart]
    omega
  rw [daysOfEra, hsum, wrapI64_eq hrange.1 (by have := hrange.2; omega)]

theorem uploads_daysFromCivil {c : Civil} (h : c.Valid) (hrange : InRange (toDays c)) :
    Uploads.daysFromCivil c.year c.month c.day = toDays c := by
  obtain ⟨hlo, hhi⟩ := year_bound h hrange
  rw [Uploads.daysFromCivil, addI64_eq (by omega) (by omega)]
  exact daysOfEra_eq hrange

theorem push_daysFromCivil {c : Civil} (h : c.Valid) (hrange : InRange (toDays c)) :
    Push.daysFromCivil c.year c.month c.day = toDays c := by
  obtain ⟨hlo, hhi⟩ := year_bound h hrange
  have hy : (if c.month ≤ 2 then addI64 c.year (-1) else c.year) = c.marchYear := by
    rw [addI64_eq (by omega) (by omega)]
    rfl
  have hmonth : (c.month + 9) % 12 = c.marchMonth := by
    have := h.month_pos
    have := h.month_le
    rw [Civil.marchMonth]
    split_ifs <;> omega
  have hyear : -2 ^ 57 ≤ c.marchYear ∧ c.marchYear ≤ 2 ^ 57 := by
    rw [Civil.marchYear]
    split_ifs <;> omega
  rw [Push.daysFromCivil, hy, hmonth, addI64_eq (by omega) (by omega)]
  rw [show (if 0 ≤ c.marchYear then c.marchYear else c.marchYear + -399).tdiv 400 =
    c.marchYear / 400 from tdiv_shift (n := 400) (by decide)]
  exact daysOfEra_eq hrange

end Lerdr.Actions
