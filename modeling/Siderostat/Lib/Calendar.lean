import Mathlib.Order.Monotone.Basic

/-!
# The Gregorian calendar

Dates are counted from 1970-01-01, one day after the other.  A year that begins in March has its
leap day at the end, so the date of a day is found from eras of 400 years, such years and days.
-/

namespace Calendar

/-- Year, month and day. -/
abbrev Date := Int × Int × Int

def isLeap (year : Int) : Bool := year % 4 = 0 ∧ (year % 100 ≠ 0 ∨ year % 400 = 0)

def leapDay (year : Int) : Int := if isLeap year then 1 else 0

def monthLength (year month : Int) : Int :=
  if month = 2 then 28 + leapDay year
  else if month = 4 ∨ month = 6 ∨ month = 9 ∨ month = 11 then 30 else 31

def nextDay (date : Date) : Date :=
  if date.2.2 < monthLength date.1 date.2.1 then (date.1, date.2.1, date.2.2 + 1)
  else if date.2.1 < 12 then (date.1, date.2.1 + 1, 1)
  else (date.1 + 1, 1, 1)

def gregorian : Nat → Date
  | 0 => (1970, 1, 1)
  | n + 1 => nextDay (gregorian n)

structure Valid (date : Date) : Prop where
  month : 1 ≤ date.2.1 ∧ date.2.1 ≤ 12
  day : 1 ≤ date.2.2 ∧ date.2.2 ≤ monthLength date.1 date.2.1

theorem leapDay_cases (year : Int) :
    (leapDay year = 1 ∧ year % 4 = 0 ∧ (year % 100 ≠ 0 ∨ year % 400 = 0)) ∨
      (leapDay year = 0 ∧ (year % 4 ≠ 0 ∨ (year % 100 = 0 ∧ year % 400 ≠ 0))) := by
  unfold leapDay
  by_cases h : isLeap year = true
  · have hleap := of_decide_eq_true h
    rw [if_pos h]
    omega
  · have hleap := of_decide_eq_false (Bool.eq_false_iff.mpr h)
    rw [if_neg h]
    omega

theorem monthLength_bounds (year month : Int) :
    28 ≤ monthLength year month ∧ monthLength year month ≤ 31 := by
  have hleap := leapDay_cases year
  unfold monthLength
  by_cases htwo : month = 2
  · rw [if_pos htwo]
    omega
  · rw [if_neg htwo]
    split <;> omega

/-- A number that orders the dates. -/
def ordinal (date : Date) : Int := 10000 * date.1 + 100 * date.2.1 + date.2.2

theorem nextDay_spec {date : Date} (h : Valid date) :
    Valid (nextDay date) ∧ ordinal date < ordinal (nextDay date) := by
  obtain ⟨hmonth, hday⟩ := h
  have hlength := monthLength_bounds date.1 date.2.1
  unfold nextDay ordinal
  by_cases hlast : date.2.2 < monthLength date.1 date.2.1
  · rw [if_pos hlast]
    exact ⟨⟨hmonth, by dsimp only; omega⟩, by dsimp only; omega⟩
  · rw [if_neg hlast]
    by_cases hdecember : date.2.1 < 12
    · have hnext := monthLength_bounds date.1 (date.2.1 + 1)
      rw [if_pos hdecember]
      exact ⟨⟨by dsimp only; omega, by dsimp only; omega⟩, by dsimp only; omega⟩
    · have hnext := monthLength_bounds (date.1 + 1) 1
      rw [if_neg hdecember]
      exact ⟨⟨by dsimp only; omega, by dsimp only; omega⟩, by dsimp only; omega⟩

theorem gregorian_valid (n : Nat) : Valid (gregorian n) := by
  induction n with
  | zero => exact ⟨by decide, by decide⟩
  | succ n ih => exact (nextDay_spec ih).1

theorem ordinal_lt_iff {m n : Nat} : ordinal (gregorian m) < ordinal (gregorian n) ↔ m < n :=
  (strictMono_nat_of_lt_succ fun n => (nextDay_spec (gregorian_valid n)).2).lt_iff_lt

/-! ## Years that begin in March -/

/-- The date of a day, counted from the first of March of a year. -/
def ofMarch (year day : Int) : Date :=
  let part := (5 * day + 2) / 153
  let month := part + if part < 10 then 3 else -9
  (year + if month ≤ 2 then 1 else 0, month, day - (153 * part + 2) / 5 + 1)

theorem ofMarch_eq {day part : Int} (h : (5 * day + 2) / 153 = part) (year : Int) :
    ofMarch year day = (year + if part + (if part < 10 then 3 else -9) ≤ 2 then 1 else 0,
      part + (if part < 10 then 3 else -9), day - (153 * part + 2) / 5 + 1) := by
  subst h
  rfl

theorem monthLength_of_part {part : Int} (h : 0 ≤ part) (h' : part ≤ 10) (year : Int) :
    monthLength year (part + if part < 10 then 3 else -9) =
      (153 * (part + 1) + 2) / 5 - (153 * part + 2) / 5 := by
  obtain rfl | rfl | rfl | rfl | rfl | rfl | rfl | rfl | rfl | rfl | rfl :
    part = 0 ∨ part = 1 ∨ part = 2 ∨ part = 3 ∨ part = 4 ∨ part = 5 ∨ part = 6 ∨ part = 7 ∨
      part = 8 ∨ part = 9 ∨ part = 10 := by omega
  all_goals rfl

theorem nextDay_ofMarch {year day : Int} (hday : 0 ≤ day)
    (hday' : day ≤ 364 + leapDay (year + 1)) :
    nextDay (ofMarch year day) =
      if day < 364 + leapDay (year + 1) then ofMarch year (day + 1) else ofMarch (year + 1) 0 := by
  have hleap := leapDay_cases (year + 1)
  obtain ⟨part, hpart⟩ : ∃ part, (5 * day + 2) / 153 = part := ⟨_, rfl⟩
  by_cases hfebruary : part = 11
  · subst hfebruary
    have hdate : ofMarch year day = (year + 1, 2, day - 336) := by
      rw [ofMarch_eq hpart]
      simp
      omega
    have hlength : monthLength (year + 1) 2 = 28 + leapDay (year + 1) := rfl
    rw [hdate, nextDay]
    dsimp only
    rw [hlength]
    by_cases hlast : day < 364 + leapDay (year + 1)
    · have hsame : (5 * (day + 1) + 2) / 153 = 11 := by omega
      rw [if_pos (by omega), if_pos hlast, ofMarch_eq hsame]
      simp
      omega
    · rw [if_neg (by omega), if_neg hlast]
      simp [ofMarch]
  · rw [ofMarch_eq hpart, nextDay, if_pos (show day < 364 + leapDay (year + 1) by omega)]
    dsimp only
    rw [monthLength_of_part (by omega) (by omega)]
    by_cases hsame : (5 * (day + 1) + 2) / 153 = part
    · rw [ofMarch_eq hsame, if_pos (by omega)]
      simp
      omega
    · have hnext : (5 * (day + 1) + 2) / 153 = part + 1 := by omega
      rw [ofMarch_eq hnext, if_neg (by omega)]
      obtain hnovember | rfl | rfl : part < 9 ∨ part = 9 ∨ part = 10 := by omega
      · have hpart10 : part < 10 := by omega
        have hnext10 : part + 1 < 10 := by omega
        simp only [hpart10, hnext10, if_true]
        rw [if_pos (show part + 3 < 12 by omega)]
        simp
        omega
      · simp
        omega
      · simp
        omega

def daysBefore (year : Int) : Int := 365 * year + year / 4 - year / 100

/-- Era, year of the era and day of the year of the `n`-th day. -/
structure Parts (n : Nat) (era year day : Int) : Prop where
  era_nonneg : 0 ≤ era
  year_bounds : 0 ≤ year ∧ year ≤ 399
  day_bounds : 0 ≤ day ∧ day ≤ 364 + leapDay (year + 1)
  count : n + 719468 = 146097 * era + (daysBefore year + day)
  date : gregorian n = ofMarch (year + 400 * era) day

theorem leapDay_add (year era : Int) : leapDay (year + 400 * era + 1) = leapDay (year + 1) := by
  have hsum := leapDay_cases (year + 400 * era + 1)
  have hyear := leapDay_cases (year + 1)
  omega

theorem exists_parts (n : Nat) : ∃ era year day, Parts n era year day := by
  induction n with
  | zero => exact ⟨4, 369, 306, by decide, by decide, by decide, by decide, rfl⟩
  | succ n ih =>
    obtain ⟨era, year, day, hera, hyear, hday, hcount, hdate⟩ := ih
    have hleap := leapDay_cases (year + 1)
    have hnext := nextDay_ofMarch hday.1 ((leapDay_add year era).symm ▸ hday.2)
    rw [leapDay_add, ← hdate] at hnext
    unfold daysBefore at hcount
    by_cases hlast : day < 364 + leapDay (year + 1)
    · rw [if_pos hlast] at hnext
      exact ⟨era, year, day + 1, hera, hyear, by omega, by unfold daysBefore; omega, hnext⟩
    · rw [if_neg hlast] at hnext
      have hfirst := leapDay_cases (year + 1 + 1)
      by_cases hend : year = 399
      · subst hend
        refine ⟨era + 1, 0, 0, by omega, by omega, by decide, by unfold daysBefore; omega, ?_⟩
        exact hnext.trans (congrArg (ofMarch · 0) (by omega))
      · refine ⟨era, year + 1, 0, hera, by omega, by omega, by unfold daysBefore; omega, ?_⟩
        exact hnext.trans (congrArg (ofMarch · 0) (by omega))

theorem year_of_era {year day : Int} (hyear : 0 ≤ year ∧ year ≤ 399)
    (hday : 0 ≤ day ∧ day ≤ 364 + leapDay (year + 1)) {n : Int} (hn : n = daysBefore year + day) :
    (n - n / 1460 + n / 36524 - n / 146096) / 365 = year := by
  obtain ⟨c, q, p, rfl, hc, hq, hp⟩ : ∃ c q p : Int, year = 100 * c + 4 * q + p ∧
      (0 ≤ c ∧ c ≤ 3) ∧ (0 ≤ q ∧ q ≤ 24) ∧ 0 ≤ p ∧ p ≤ 3 :=
    ⟨year / 100, year % 100 / 4, year % 4, by omega, by omega, by omega, by omega⟩
  have hdays : n = 36524 * c + 1461 * q + 365 * p + day := by
    rw [hn, daysBefore]
    omega
  have hlong : day ≤ 364 ∨ (day = 365 ∧ p = 3 ∧ (q ≠ 24 ∨ c = 3)) := by
    have hleap := leapDay_cases (100 * c + 4 * q + p + 1)
    omega
  have hnonneg := hday.1
  clear hn hday
  have hfours : (n / 1460 = 25 * c + q ∧ 24 * c + q + 365 * p + day < 1460) ∨
      (n / 1460 = 25 * c + q + 1 ∧ 1460 ≤ 24 * c + q + 365 * p + day) := by omega
  have hcenturies : n / 36524 - n / 146096 = c := by
    have hrest : 1461 * q + 365 * p + day ≤ 36523 ∨
        (1461 * q + 365 * p + day = 36524 ∧ c = 3) := by omega
    rcases hrest with hrest | ⟨hrest, rfl⟩
    · have hcentury : n / 36524 = c := by omega
      have hera : n / 146096 = 0 := by omega
      omega
    · omega
  omega

end Calendar
