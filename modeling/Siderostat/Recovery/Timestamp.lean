import Siderostat.Lib.Calendar
import Siderostat.Lib.Text
import Siderostat.Lib.Word

/-!
# Timestamps of recoveries

An instant in milliseconds is written as a date and a time.  The year of an era and the month are
found by divisions only.
-/

namespace Siderostat

open Word Calendar

def civilDateFromDays (daysSinceUnixEpoch : Int) : Option (Int × Int × Int) := do
  let shiftedDays ← i64 (daysSinceUnixEpoch + 719468)
  let era ←
    if 0 ≤ shiftedDays then pure (shiftedDays.tdiv 146097)
    else do
      let below ← i64 (shiftedDays - 146096)
      pure (below.tdiv 146097)
  let dayOfEra ← i64 (shiftedDays - (← i64 (era * 146097)))
  let days ← i64 (dayOfEra - dayOfEra.tdiv 1460)
  let days ← i64 (days + dayOfEra.tdiv 36524)
  let days ← i64 (days - dayOfEra.tdiv 146096)
  let yearOfEra := days.tdiv 365
  let year ← i64 (yearOfEra + (← i64 (era * 400)))
  let before ← i64 ((← i64 (365 * yearOfEra)) + yearOfEra.tdiv 4)
  let before ← i64 (before - yearOfEra.tdiv 100)
  let dayOfYear ← i64 (dayOfEra - before)
  let monthPart := (← i64 ((← i64 (5 * dayOfYear)) + 2)).tdiv 153
  let day ← i64 (dayOfYear - (← i64 ((← i64 (153 * monthPart)) + 2)).tdiv 5)
  let day ← i64 (day + 1)
  let month ← i64 (monthPart + if monthPart < 10 then 3 else -9)
  let year ← i64 (year + if month ≤ 2 then 1 else 0)
  return (year, month, day)

/-- A sign takes one place of the width. -/
def paddedInt (width : Nat) (x : Int) : Text :=
  if x < 0 then '-' :: Text.padded (width - 1) x.natAbs else Text.padded width x.toNat

/-- Fields with a separator behind each of them. -/
def written : List (Nat × Char) → List Int → Text
  | field :: fields, value :: values =>
    paddedInt field.1 value ++ field.2 :: written fields values
  | _, _ => []

def timestampFields : List (Nat × Char) :=
  [(4, '-'), (2, '-'), (2, 'T'), (2, ':'), (2, ':'), (2, '.'), (3, 'Z')]

def formatTimestampMillis (millis : Nat) : Option Text := do
  let seconds := millis / 1000
  let milliseconds := millis % 1000
  let days := seconds / 86400
  let secondsInDay := seconds % 86400
  let date ← civilDateFromDays days
  let hour := secondsInDay / 3600
  let minute := secondsInDay % 3600 / 60
  let second := secondsInDay % 60
  return written timestampFields
    [date.1, date.2.1, date.2.2, hour, minute, second, milliseconds]

/-! ## The date -/

def lastDay : Nat := u64Max / 86400000

theorem lastDay_eq : lastDay = 213503982334 := rfl

theorem civilDateFromDays_of_parts {n : Nat} (hn : n ≤ lastDay) {era year day : Int}
    (h : Parts n era year day) : civilDateFromDays n = some (ofMarch (year + 400 * era) day) := by
  obtain ⟨hera, hyear, hday, hcount, -⟩ := h
  have hleap := leapDay_cases (year + 1)
  obtain ⟨doe, hdoe⟩ : ∃ doe, daysBefore year + day = doe := ⟨_, rfl⟩
  have hyoe := year_of_era hyear hday hdoe.symm
  rw [lastDay_eq] at hn
  rw [hdoe] at hcount
  unfold daysBefore at hdoe
  have hdoe' : 0 ≤ doe ∧ doe ≤ 146096 := by omega
  have hdiv {a : Int} (ha : 0 ≤ a) (b : Int) : a.tdiv b = a / b := Int.tdiv_eq_ediv_of_nonneg ha
  have hshifted : (146097 * era + doe).tdiv 146097 = era := by
    rw [hdiv (by omega)]
    omega
  obtain ⟨part, hpart⟩ : ∃ part, (5 * day + 2) / 153 = part := ⟨_, rfl⟩
  have hdays : 146097 * era + doe - era * 146097 = doe := by omega
  have hbefore : doe - (365 * year + year / 4 - year / 100) = day := by omega
  unfold civilDateFromDays
  rw [hcount, i64_bind, if_pos, hshifted, pure_bind]
  dsimp only
  rw [i64_bind, i64_bind, hdays, hdiv hdoe'.1, hdiv hdoe'.1, hdiv hdoe'.1, i64_bind, i64_bind,
    i64_bind, hdiv, hyoe, hdiv hyear.1, hdiv hyear.1, i64_bind, i64_bind, i64_bind, i64_bind,
    i64_bind, i64_bind, hbefore, i64_bind, i64_bind, hdiv, hpart, i64_bind, i64_bind, hdiv,
    i64_bind, i64_bind, i64_bind, i64_bind, ofMarch_eq hpart, Int.mul_comm era 400]
  · rfl
  all_goals omega

theorem civilDateFromDays_eq {n : Nat} (hn : n ≤ lastDay) :
    civilDateFromDays n = some (gregorian n) := by
  obtain ⟨era, year, day, hparts⟩ := exists_parts n
  rw [civilDateFromDays_of_parts hn hparts, hparts.date]

/-! ## The order of the texts -/

def Fits : List (Nat × Char) → List Int → Prop
  | [], [] => True
  | field :: fields, value :: values =>
    0 < field.1 ∧ 0 ≤ value ∧ value.toNat < 10 ^ field.1 ∧ Fits fields values
  | _, _ => False

theorem written_lt {fields : List (Nat × Char)} {values values' : List Int}
    (hfits : Fits fields values) (hfits' : Fits fields values') (h : values < values') :
    written fields values < written fields values' := by
  induction fields generalizing values values' with
  | nil =>
    cases values' with
    | nil => exact absurd h (List.not_lt_nil _)
    | cons value values => exact hfits'.elim
  | cons field fields ih =>
    cases values with
    | nil => exact hfits.elim
    | cons value values =>
      cases values' with
      | nil => exact absurd h (List.not_lt_nil _)
      | cons value' values' =>
        obtain ⟨hwidth, hnonneg, hvalue, hrest⟩ := hfits
        obtain ⟨-, hnonneg', hvalue', hrest'⟩ := hfits'
        rw [written, written, paddedInt, paddedInt, if_neg (by omega), if_neg (by omega)]
        rcases List.cons_lt_cons_iff.mp h with hlt | ⟨rfl, hlt⟩
        · refine Text.append_lt_append (Text.padded_lt hwidth (by omega) hvalue') ?_ _ _
          rw [Text.length_padded hwidth hvalue, Text.length_padded hwidth hvalue']
        · exact List.append_left_lt (List.cons_lt_cons_iff.mpr (.inr ⟨rfl, ih hrest hrest' hlt⟩))

def timestampValues (millis : Nat) : List Int :=
  let date := gregorian (millis / 1000 / 86400)
  [date.1, date.2.1, date.2.2, (millis / 1000 % 86400 / 3600 : Nat),
    (millis / 1000 % 86400 % 3600 / 60 : Nat), (millis / 1000 % 86400 % 60 : Nat),
    (millis % 1000 : Nat)]

theorem formatTimestampMillis_eq {millis : Nat} (h : millis ≤ u64Max) :
    formatTimestampMillis millis = some (written timestampFields (timestampValues millis)) := by
  have hday : millis / 1000 / 86400 ≤ lastDay := by
    rw [lastDay_eq]
    unfold u64Max at h
    omega
  rw [formatTimestampMillis, civilDateFromDays_eq hday]
  rfl

/-- The last millisecond of the year 9999. -/
def endOf9999 : Nat := 253402300799999

theorem year_bounds {n : Nat} (h : n ≤ 2932896) :
    1970 ≤ (gregorian n).1 ∧ (gregorian n).1 ≤ 9999 := by
  have hlast : gregorian 2932896 = (9999, 12, 31) := by
    have hcivil := civilDateFromDays_eq (show 2932896 ≤ lastDay by rw [lastDay_eq]; omega)
    exact Option.some.inj (hcivil.symm.trans (by decide))
  have hlow := mt (@ordinal_lt_iff n 0).mp (Nat.not_lt_zero n)
  have hhigh := mt ordinal_lt_iff.mp (Nat.not_lt.mpr h)
  have hmonth := (gregorian_valid n).month
  have hday := (gregorian_valid n).day
  have hlength := monthLength_bounds (gregorian n).1 (gregorian n).2.1
  have hfirst : gregorian 0 = (1970, 1, 1) := rfl
  simp only [hfirst, hlast, ordinal] at hlow hhigh
  omega

theorem fits_timestampValues {millis : Nat} (h : millis ≤ endOf9999) :
    Fits timestampFields (timestampValues millis) := by
  unfold endOf9999 at h
  have hyear := year_bounds (show millis / 1000 / 86400 ≤ 2932896 by omega)
  have hmonth := (gregorian_valid (millis / 1000 / 86400)).month
  have hday := (gregorian_valid (millis / 1000 / 86400)).day
  have hlength := monthLength_bounds (gregorian (millis / 1000 / 86400)).1
    (gregorian (millis / 1000 / 86400)).2.1
  simp only [Fits, timestampFields, timestampValues, and_true]
  omega

theorem timestampValues_lt {m n : Nat} (h : m < n) : timestampValues m < timestampValues n := by
  simp only [timestampValues, List.cons_lt_cons_iff]
  by_cases hdays : m / 1000 / 86400 < n / 1000 / 86400
  · have hordinal := ordinal_lt_iff.mpr hdays
    have hmonth := (gregorian_valid (n / 1000 / 86400)).month
    have hday := (gregorian_valid (n / 1000 / 86400)).day
    have hlength := monthLength_bounds (gregorian (n / 1000 / 86400)).1
      (gregorian (n / 1000 / 86400)).2.1
    have hmonth' := (gregorian_valid (m / 1000 / 86400)).month
    have hday' := (gregorian_valid (m / 1000 / 86400)).day
    simp only [ordinal] at hordinal
    omega
  · have hsame : m / 1000 / 86400 = n / 1000 / 86400 := by omega
    rw [hsame]
    omega

/-- The text of every instant is that of its Gregorian date and its time of day, the next day has
the next date, and up to the year 9999 the texts are ordered as the instants. -/
theorem formatTimestampMillis_spec :
    (∀ millis ≤ u64Max,
      formatTimestampMillis millis = some (written timestampFields (timestampValues millis)) ∧
        civilDateFromDays (millis / 86400000 : Nat) = some (gregorian (millis / 86400000)) ∧
        Valid (gregorian (millis / 86400000))) ∧
    (∀ days < lastDay, civilDateFromDays (days + 1 : Nat) = (civilDateFromDays days).map nextDay) ∧
    ∀ m ≤ endOf9999, ∀ n ≤ endOf9999, ∃ text text', formatTimestampMillis m = some text ∧
      formatTimestampMillis n = some text' ∧ (m < n ↔ text < text') := by
  have hmax : endOf9999 ≤ u64Max := by decide
  refine ⟨fun millis h => ⟨formatTimestampMillis_eq h, civilDateFromDays_eq ?_,
    gregorian_valid _⟩, fun days h => ?_, fun m hm n hn => ?_⟩
  · exact Nat.div_le_div_right h
  · rw [civilDateFromDays_eq h, civilDateFromDays_eq (Nat.le_of_lt h)]
    rfl
  · have hlt {m n : Nat} (hm : m ≤ endOf9999) (hn : n ≤ endOf9999) (h : m < n) :=
      written_lt (fits_timestampValues hm) (fits_timestampValues hn) (timestampValues_lt h)
    refine ⟨_, _, formatTimestampMillis_eq (Nat.le_trans hm hmax),
      formatTimestampMillis_eq (Nat.le_trans hn hmax), hlt hm hn, fun htext => ?_⟩
    rcases Nat.lt_trichotomy m n with h | rfl | h
    · exact h
    · exact absurd htext (List.lt_irrefl _)
    · exact absurd htext (List.lt_asymm (hlt hn hm h))

theorem formatTimestampMillis_spec_leap : gregorian 11016 = (2000, 2, 29) := by
  have hdate := (formatTimestampMillis_spec.1 951782400000 (by decide)).2.1
  exact Option.some.inj (hdate.symm.trans (show civilDateFromDays 11016 = _ by decide))

end Siderostat
