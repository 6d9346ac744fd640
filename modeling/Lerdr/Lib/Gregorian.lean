/-
# Lib.Gregorian — the proleptic Gregorian calendar over all integers.

A date is a year, a month and a day; `Civil.next` is the day after, as the calendar has it, with the
leap rule. The closed forms between dates and day numbers begin their years in March, so that the
leap day is the last of its year and the lengths of months follow `153 * m / 5`: `march y` is the
number of days before March of year `y`. They are inverse to each other on the valid dates
(`toDays_ofDays`, `ofDays_toDays`), and they count what `next` counts (`ofDays_eq_after`).
-/
import Mathlib.Tactic

namespace Lib.Gregorian

/-! ## §1 — dates and their numbers -/

/-- A date. -/
structure Civil where
  year : Int
  month : Int
  day : Int
  deriving DecidableEq, Repr

def leap (year : Int) : Prop := year % 4 = 0 ∧ (year % 100 ≠ 0 ∨ year % 400 = 0)

instance (year : Int) : Decidable (leap year) := inferInstanceAs (Decidable (_ ∧ _))

def monthLength (year month : Int) : Int :=
  if month = 2 then if leap year then 29 else 28
  else if month = 4 ∨ month = 6 ∨ month = 9 ∨ month = 11 then 30 else 31

namespace Civil

/-- The dates there are. -/
structure Valid (c : Civil) : Prop where
  month_pos : 1 ≤ c.month
  month_le : c.month ≤ 12
  day_pos : 1 ≤ c.day
  day_le : c.day ≤ monthLength c.year c.month

def next (c : Civil) : Civil :=
  if c.day < monthLength c.year c.month then { c with day := c.day + 1 }
  else if c.month < 12 then ⟨c.year, c.month + 1, 1⟩ else ⟨c.year + 1, 1, 1⟩

def previous (c : Civil) : Civil :=
  if 1 < c.day then { c with day := c.day - 1 }
  else if 1 < c.month then ⟨c.year, c.month - 1, monthLength c.year (c.month - 1)⟩
  else ⟨c.year - 1, 12, 31⟩

end Civil

/-- **The date so many days from another**, counted day by day. -/
def after (c : Civil) : Int → Civil
  | .ofNat n => Civil.next^[n] c
  | .negSucc n => Civil.previous^[n + 1] c

/-- The days before March of a year, from March of year 0. -/
def march (year : Int) : Int := 365 * year + year / 4 - year / 100 + year / 400

/-- The days before a month of the year that begins in March. -/
def monthStart (mp : Int) : Int := (153 * mp + 2) / 5

/-- The year, the month and the day of the year that begins in March. -/
def Civil.marchYear (c : Civil) : Int := if c.month ≤ 2 then c.year - 1 else c.year

def Civil.marchMonth (c : Civil) : Int := if 2 < c.month then c.month - 3 else c.month + 9

def Civil.marchDay (c : Civil) : Int := monthStart c.marchMonth + c.day - 1

/-- The number of a date, from 1970-01-01. -/
def toDays (c : Civil) : Int := march c.marchYear + c.marchDay - 719468

/-- The date of a day of such a year. -/
def ofMarch (year doy : Int) : Civil :=
  let mp := (5 * doy + 2) / 153
  let month := if mp < 10 then mp + 3 else mp - 9
  ⟨if month ≤ 2 then year + 1 else year, month, doy - monthStart mp + 1⟩

def ofDays (days : Int) : Civil :=
  let era := (days + 719468) / 146097
  let doe := days + 719468 - era * 146097
  let yoe := (doe - doe / 1460 + doe / 36524 - doe / 146096) / 365
  ofMarch (yoe + era * 400) (doe - (365 * yoe + yoe / 4 - yoe / 100))

/-! ## §2 — years and months -/

/-- Inside a century the quotient skips the leap days. -/
theorem year_of_century {doe yoe c : Int} (hc : c = 0 ∨ c = 1 ∨ c = 2 ∨ c = 3)
    (hlo : 36524 * c ≤ doe) (hhi : doe < 36524 * (c + 1))
    (hyoe : yoe = (doe - doe / 1460 + c) / 365) :
    0 ≤ yoe ∧ yoe < 400 ∧ march yoe ≤ doe ∧ doe < march (yoe + 1) := by
  have hcentury : yoe / 100 = c := by
    rcases hc with rfl | rfl | rfl | rfl <;> omega
  have hfour : yoe / 4 ≤ doe / 1460 := by
    rcases hc with rfl | rfl | rfl | rfl <;> omega
  have hfour' : doe / 1460 ≤ (yoe + 1) / 4 := by
    rcases hc with rfl | rfl | rfl | rfl <;> omega
  -- the last year of a century begins with its last full leap cycle behind it
  have hnext : (yoe + 1) / 100 = c ∨ yoe = 100 * c + 99 := by omega
  unfold march
  rcases hnext with hnext | rfl
  · rcases hc with rfl | rfl | rfl | rfl <;> refine ⟨by omega, by omega, by omega, by omega⟩
  · rcases hc with rfl | rfl | rfl | rfl <;> refine ⟨by omega, by omega, by omega, by omega⟩

/-- **The year of a day of the era.** -/
theorem year_of_era {doe yoe : Int} (hlo : 0 ≤ doe) (hhi : doe < 146097)
    (hyoe : yoe = (doe - doe / 1460 + doe / 36524 - doe / 146096) / 365) :
    0 ≤ yoe ∧ yoe < 400 ∧ march yoe ≤ doe ∧ doe < march (yoe + 1) := by
  by_cases hlast : doe = 146096
  · subst hlast
    rw [hyoe]
    decide
  · have hera : doe / 146096 = 0 := by omega
    refine year_of_century (c := doe / 36524) (by omega) (by omega) (by omega) ?_
    rw [hyoe, hera, Int.sub_zero]

theorem march_mono : Monotone march := by
  apply monotone_int_of_le_succ
  intro y
  unfold march
  omega

/-- Years that contain one day are one year. -/
theorem year_unique {y y' z : Int} (hlo : march y ≤ z) (hhi : z < march (y + 1))
    (hlo' : march y' ≤ z) (hhi' : z < march (y' + 1)) : y = y' := by
  rcases lt_trichotomy y y' with hlt | heq | hgt
  · exact absurd (march_mono (show y + 1 ≤ y' from hlt)) (by omega)
  · exact heq
  · exact absurd (march_mono (show y' + 1 ≤ y from hgt)) (by omega)

/-- **The month of a day of the year.** -/
theorem month_of_year {doy : Int} (hlo : 0 ≤ doy) (hhi : doy ≤ 365) :
    0 ≤ (5 * doy + 2) / 153 ∧ (5 * doy + 2) / 153 ≤ 11 ∧ monthStart ((5 * doy + 2) / 153) ≤ doy ∧
      ((5 * doy + 2) / 153 ≤ 10 → doy < monthStart ((5 * doy + 2) / 153 + 1)) := by
  unfold monthStart
  omega

theorem month_unique {mp doy : Int} (hstart : monthStart mp ≤ doy)
    (hend : doy < monthStart (mp + 1)) : (5 * doy + 2) / 153 = mp := by
  unfold monthStart at hstart hend
  omega

/-- A month ends where the next begins, and February with the year. -/
theorem length_month (year : Int) {month : Int} (hlo : 1 ≤ month) (hhi : month ≤ 12)
    (hmonth : month ≠ 2) : monthLength year month =
      monthStart ((if 2 < month then month - 3 else month + 9) + 1) -
        monthStart (if 2 < month then month - 3 else month + 9) := by
  rw [monthLength, if_neg hmonth]
  obtain rfl | rfl | rfl | rfl | rfl | rfl | rfl | rfl | rfl | rfl | rfl :
      month = 1 ∨ month = 3 ∨ month = 4 ∨ month = 5 ∨ month = 6 ∨ month = 7 ∨ month = 8 ∨
        month = 9 ∨ month = 10 ∨ month = 11 ∨ month = 12 := by omega
  all_goals decide

theorem length_february (year : Int) :
    monthLength year 2 = march year - march (year - 1) - monthStart 11 := by
  have hfour : year / 4 - (year - 1) / 4 = if year % 4 = 0 then 1 else 0 := by omega
  have hhundred : year / 100 - (year - 1) / 100 = if year % 100 = 0 then 1 else 0 := by omega
  have hera : year / 400 - (year - 1) / 400 = if year % 400 = 0 then 1 else 0 := by omega
  rw [monthLength, if_pos rfl]
  simp only [leap, march, monthStart]
  split_ifs at * <;> omega

theorem march_succ (year : Int) : march year + 365 ≤ march (year + 1) ∧
    march (year + 1) ≤ march year + 366 := by
  unfold march
  omega

/-- **A valid date's place in its year.** -/
theorem Civil.Valid.place {c : Civil} (h : c.Valid) :
    monthStart c.marchMonth ≤ c.marchDay ∧ c.marchDay < monthStart (c.marchMonth + 1) ∧
      march c.marchYear + c.marchDay < march (c.marchYear + 1) := by
  obtain ⟨hm, hm', hd, hd'⟩ := h
  have hsucc := march_succ c.marchYear
  unfold Civil.marchDay
  by_cases hfebruary : c.month = 2
  · have hmonth : c.marchMonth = 11 := by rw [Civil.marchMonth, hfebruary]; decide
    have hyear : c.marchYear = c.year - 1 := by rw [Civil.marchYear, hfebruary]; rfl
    rw [hfebruary, length_february] at hd'
    rw [hyear, Int.sub_add_cancel] at hsucc
    rw [hmonth, hyear, Int.sub_add_cancel]
    refine ⟨by omega, ?_, by omega⟩
    unfold monthStart at *
    omega
  · rw [length_month c.year hm hm' hfebruary] at hd'
    have hlast : c.marchMonth ≤ 10 := by
      rw [Civil.marchMonth]
      omega
    rw [← Civil.marchMonth] at hd'
    refine ⟨by omega, by omega, ?_⟩
    unfold monthStart at *
    omega

/-! ## §3 — the closed forms are inverse to each other -/

theorem march_era (year era : Int) : march (year + era * 400) = march year + era * 146097 := by
  unfold march
  omega

theorem ofDays_spec (days : Int) : ∃ year doy, 0 ≤ doy ∧ march year + doy < march (year + 1) ∧
    days + 719468 = march year + doy ∧ ofDays days = ofMarch year doy := by
  rw [ofDays]
  generalize hera : (days + 719468) / 146097 = era
  generalize hdoe : days + 719468 - era * 146097 = doe
  obtain ⟨hlo, hhi, hstart, hend⟩ := year_of_era (show 0 ≤ doe by omega) (by omega) rfl
  generalize (doe - doe / 1460 + doe / 36524 - doe / 146096) / 365 = yoe at *
  have hmarch : march yoe = 365 * yoe + yoe / 4 - yoe / 100 := by
    unfold march
    omega
  refine ⟨yoe + era * 400, _, ?_, ?_, ?_, rfl⟩
  · omega
  · rw [show yoe + era * 400 + 1 = yoe + 1 + era * 400 by ring, march_era, march_era]
    omega
  · rw [march_era]
    omega

theorem ofDays_eq {days year doy : Int} (hdoy : 0 ≤ doy)
    (hend : march year + doy < march (year + 1))
    (h : days + 719468 = march year + doy) : ofDays days = ofMarch year doy := by
  obtain ⟨year', doy', hdoy', hend', h', heq⟩ := ofDays_spec days
  obtain rfl : year = year' := year_unique (z := days + 719468) (by omega) (by omega) (by omega)
    (by omega)
  rw [heq, show doy = doy' by omega]

/-- **The date of a day is valid**, and has that place in its year. -/
theorem ofMarch_spec {year doy : Int} (hdoy : 0 ≤ doy)
    (hend : march year + doy < march (year + 1)) :
    (ofMarch year doy).Valid ∧ (ofMarch year doy).marchYear = year ∧
      (ofMarch year doy).marchDay = doy := by
  have hsucc := march_succ year
  obtain ⟨hmp, hmp', hstart, hnext⟩ := month_of_year hdoy (show doy ≤ 365 by omega)
  generalize hm : (5 * doy + 2) / 153 = mp at hmp hmp' hstart hnext
  have hmonth : (ofMarch year doy).month = if mp < 10 then mp + 3 else mp - 9 := by
    rw [ofMarch, hm]
  have hyear : (ofMarch year doy).year = if mp < 10 then year else year + 1 := by
    rw [ofMarch, hm]
    simp only
    split_ifs <;> omega
  have hday : (ofMarch year doy).day = doy - monthStart mp + 1 := by rw [ofMarch, hm]
  have hmarch : (ofMarch year doy).marchMonth = mp := by
    rw [Civil.marchMonth, hmonth]
    split_ifs <;> omega
  refine ⟨⟨by rw [hmonth]; split_ifs <;> omega, by rw [hmonth]; split_ifs <;> omega, by omega, ?_⟩,
    ?_, ?_⟩
  · by_cases hlast : mp = 11
    · subst hlast
      rw [hmonth, hyear, hday]
      show _ ≤ monthLength (year + 1) 2
      rw [length_february, Int.add_sub_cancel]
      omega
    · rw [length_month _ (by rw [hmonth]; split_ifs <;> omega)
        (by rw [hmonth]; split_ifs <;> omega) (by rw [hmonth]; split_ifs <;> omega),
        ← Civil.marchMonth, hmarch, hday]
      have := hnext (by omega)
      omega
  · rw [Civil.marchYear, hmonth, hyear]
    split_ifs <;> omega
  · rw [Civil.marchDay, hmarch, hday]
    omega

theorem ofDays_valid (days : Int) : (ofDays days).Valid := by
  obtain ⟨year, doy, hdoy, hend, -, h⟩ := ofDays_spec days
  rw [h]
  exact (ofMarch_spec hdoy hend).1

theorem toDays_ofDays (days : Int) : toDays (ofDays days) = days := by
  obtain ⟨year, doy, hdoy, hend, hdays, h⟩ := ofDays_spec days
  obtain ⟨-, hyear, hday⟩ := ofMarch_spec hdoy hend
  rw [h, toDays, hyear, hday]
  omega

theorem ofDays_toDays {c : Civil} (h : c.Valid) : ofDays (toDays c) = c := by
  obtain ⟨hstart, hend, hyear⟩ := h.place
  have hdoy : 0 ≤ c.marchDay := by
    have := h.month_pos
    have := h.day_pos
    rw [Civil.marchDay, Civil.marchMonth, monthStart]
    split_ifs <;> omega
  rw [ofDays_eq hdoy hyear (by rw [toDays]; omega)]
  have hmonth := month_unique hstart hend
  obtain ⟨hm, hm', -, -⟩ := h
  obtain ⟨year, month, day⟩ := c
  simp only [ofMarch, hmonth]
  simp only [Civil.marchDay, Civil.marchMonth, Civil.marchYear, Civil.mk.injEq] at hm hm' ⊢
  refine ⟨?_, ?_, ?_⟩
  · split_ifs <;> omega
  · split_ifs <;> omega
  · omega

/-! ## §4 — and count the days -/

theorem monthLength_bounds (year month : Int) :
    28 ≤ monthLength year month ∧ monthLength year month ≤ 31 := by
  unfold monthLength
  split_ifs <;> omega

/-- The years have 365.2425 days, give or take. -/
theorem toDays_bounds {c : Civil} (h : c.Valid) :
    146097 * (c.year - 1970) - 2 ^ 19 ≤ 400 * toDays c ∧
      400 * toDays c ≤ 146097 * (c.year - 1970) + 2 ^ 19 := by
  obtain ⟨hm, hm', hd, hd'⟩ := h
  have hlength := monthLength_bounds c.year c.month
  rw [toDays, Civil.marchDay, Civil.marchMonth, Civil.marchYear, march, monthStart]
  constructor <;> split_ifs <;> omega

theorem Civil.Valid.next {c : Civil} (h : c.Valid) : c.next.Valid := by
  obtain ⟨hm, hm', hd, hd'⟩ := h
  have hlength := fun year month => (monthLength_bounds year month).1
  unfold Civil.next
  split
  · exact ⟨hm, hm', by simp only; omega, by simp only; omega⟩
  · split
    · have := hlength c.year (c.month + 1)
      exact ⟨by simp only; omega, by simp only; omega, by simp only; omega, by simp only; omega⟩
    · have := hlength (c.year + 1) 1
      exact ⟨by simp only; omega, by simp only; omega, by simp only; omega, by simp only; omega⟩

theorem previous_next {c : Civil} (h : c.Valid) : c.next.previous = c := by
  obtain ⟨hm, hm', hd, hd'⟩ := h
  obtain ⟨year, month, day⟩ := c
  simp only at hm hm' hd hd'
  unfold Civil.next
  simp only
  split
  · rw [Civil.previous, if_pos (by simp only; omega)]
    simp
  · split
    · rw [Civil.previous, if_neg (by simp), if_pos (by simp only; omega)]
      simp only [Int.add_sub_cancel, Civil.mk.injEq, true_and]
      omega
    · obtain rfl : month = 12 := by omega
      rw [Civil.previous, if_neg (by simp), if_neg (by simp)]
      obtain rfl : day = 31 := by
        simp only [monthLength] at *
        omega
      simp

/-- **The day after has the next number.** -/
theorem toDays_next {c : Civil} (h : c.Valid) : toDays c.next = toDays c + 1 := by
  obtain ⟨hm, hm', hd, hd'⟩ := h
  unfold Civil.next
  split
  · simp only [toDays, Civil.marchYear, Civil.marchDay, Civil.marchMonth]
    omega
  · next hlast =>
    have hday : c.day = monthLength c.year c.month := by omega
    by_cases hfebruary : c.month = 2
    · rw [hfebruary, length_february] at hday
      simp only [toDays, Civil.marchYear, Civil.marchDay, Civil.marchMonth, hfebruary, hday,
        monthStart]
      norm_num
      ring
    · -- the first of the next month of the same year
      rw [length_month c.year hm hm' hfebruary, ← Civil.marchMonth] at hday
      have hmonth : ∀ n : Civil, n.day = 1 → n.marchMonth = c.marchMonth + 1 →
          n.marchYear = c.marchYear → toDays n = toDays c + 1 := by
        intro n hone hmonth hyear
        rw [toDays, toDays, Civil.marchDay, Civil.marchDay, hmonth, hyear, hone]
        omega
      split
      · refine hmonth _ rfl ?_ ?_ <;> simp only [Civil.marchMonth, Civil.marchYear] <;>
          split_ifs <;> omega
      · refine hmonth _ rfl ?_ ?_ <;> simp only [Civil.marchMonth, Civil.marchYear] <;>
          split_ifs <;> omega

theorem ofDays_succ (days : Int) : ofDays (days + 1) = (ofDays days).next := by
  have hvalid := ofDays_valid days
  rw [← ofDays_toDays hvalid.next, toDays_next hvalid, toDays_ofDays]

/-- **The closed form is the date that many days from 1970-01-01.** -/
theorem ofDays_eq_after (days : Int) : ofDays days = after ⟨1970, 1, 1⟩ days := by
  have hprevious : ∀ d, ofDays (d - 1) = (ofDays d).previous := by
    intro d
    have hsucc := ofDays_succ (d - 1)
    rw [Int.sub_add_cancel] at hsucc
    rw [hsucc, previous_next (ofDays_valid _)]
  cases days with
  | ofNat n =>
    rw [after]
    induction n with
    | zero => rfl
    | succ n ih =>
      rw [Function.iterate_succ_apply', ← ih, ← ofDays_succ]
      rfl
  | negSucc n =>
    rw [after]
    induction n with
    | zero => rfl
    | succ n ih =>
      rw [Function.iterate_succ_apply', ← ih, ← hprevious]
      rfl

end Lib.Gregorian
