import Mathlib.Data.Int.Notation
import Mathlib.Data.Nat.Notation
import Syslog.Calendar.DayNumber

/-!
# Valid dates and times

The bounds of a valid date, the day after it, and the times that stay in the calendar whatever
their offset from UTC.
-/
namespace Syslog

namespace Date

lemma le_of_mem_monthLengths {year : ℤ} {length : ℕ} (h : length ∈ monthLengths year) :
    length ≤ 31 := by
  simp only [monthLengths, List.mem_cons, List.not_mem_nil, or_false] at h
  have hfebruary : (if isLeap year = true then 29 else 28) ≤ 31 := by split <;> decide
  omega

lemma exists_length_of_isValid {date : Date} (h : date.isValid = true) :
    ∃ length, (monthLengths date.year)[date.month - 1]? = some length ∧ date.day ≤ length ∧
      1 ≤ date.month ∧ 1 ≤ date.day := by
  simp only [isValid, Bool.and_eq_true, decide_eq_true_eq] at h
  obtain ⟨⟨⟨-, hmonth⟩, hday⟩, hlength⟩ := h
  obtain ⟨length, hlength, hle⟩ := (Option.any_eq_true _ _).1 hlength
  exact ⟨length, hlength, of_decide_eq_true hle, hmonth, hday⟩

theorem bounds_of_isValid {date : Date} (h : date.isValid = true) :
    (1 ≤ date.month ∧ date.month ≤ 12) ∧ 1 ≤ date.day ∧ date.day ≤ 31 := by
  obtain ⟨length, hlength, hle, hmonth, hday⟩ := exists_length_of_isValid h
  have hmem := le_of_mem_monthLengths (List.mem_of_getElem? hlength)
  have hindex := (List.getElem?_eq_some_iff.1 hlength).1
  have hmonths : (monthLengths date.year).length = 12 := rfl
  omega

lemma dayNumber_bounds {date : Date} (h : date.isValid = true) :
    yearStart date.year ≤ date.dayNumber ∧ date.dayNumber < yearStart (date.year + 1) := by
  have hyear : yearOfDay date.dayNumber = date.year :=
    congrArg Date.year (ofDayNumber_dayNumber h)
  exact yearOfDay_eq_iff.1 hyear

theorem isValid_of_year {number : ℤ} (hlow : firstYear ≤ (ofDayNumber number).year)
    (hhigh : (ofDayNumber number).year ≤ lastYear) : (ofDayNumber number).isValid = true := by
  obtain ⟨hfirst, hlast⟩ := yearStart_yearOfDay number
  have hbefore := yearStart_mono hlow
  have hafter := yearStart_mono (Int.add_le_add_right hhigh 1)
  exact isValid_ofDayNumber (Int.le_trans hbefore hfirst) (Int.lt_of_lt_of_le hlast hafter)

lemma bounds_ofDayNumber (number : ℤ) :
    (ofDayNumber number).month ≤ 12 ∧ (ofDayNumber number).day ≤ 31 := by
  obtain ⟨month, rest, hrest, heq⟩ := exists_month_of_lt (dayOfYear_lt number)
  obtain ⟨length, hlength, hlt⟩ := (Option.any_eq_true _ _).1 hrest
  have hindex : month < 12 := (List.getElem?_eq_some_iff.1 hlength).1
  have hmem := le_of_mem_monthLengths (List.mem_of_getElem? hlength)
  have hlt := of_decide_eq_true hlt
  simp only [ofDayNumber, heq, monthAndDay_take hrest]
  omega

/-- The next day of the month if there is one, else the first of the next month or year. -/
def next (date : Date) : Date :=
  if (monthLengths date.year)[date.month - 1]?.any (date.day < ·) then
    ⟨date.year, date.month, date.day + 1⟩
  else if date.month < 12 then ⟨date.year, date.month + 1, 1⟩
  else ⟨date.year + 1, 1, 1⟩

lemma daysBefore_succ {year : ℤ} {month length : ℕ} (hmonth : 1 ≤ month)
    (hlength : (monthLengths year)[month - 1]? = some length) :
    daysBefore year (month + 1) = daysBefore year month + length := by
  have htake :
      (monthLengths year).take month = (monthLengths year).take (month - 1) ++ [length] := by
    rw [← Nat.sub_add_cancel hmonth, List.take_add_one, Nat.add_sub_cancel, hlength]
    rfl
  rw [daysBefore, Nat.add_sub_cancel, htake, List.foldl_append]
  rfl

lemma dayNumber_newYear (year : ℤ) :
    dayNumber ⟨year + 1, 1, 1⟩ = yearStart year + daysBefore year 13 := by
  have hlength : daysBefore year 13 = yearLength year := foldl_monthLengths year
  have hnone : daysBefore (year + 1) 1 = 0 := rfl
  simp only [dayNumber, hnone, hlength, yearStart_succ]
  omega

theorem dayNumber_next {date : Date} (h : date.isValid = true) :
    date.next.dayNumber = date.dayNumber + 1 := by
  obtain ⟨⟨hfirst, hlast⟩, -⟩ := bounds_of_isValid h
  obtain ⟨length, hlength, hday, -⟩ := exists_length_of_isValid h
  have hmonth := daysBefore_succ hfirst hlength
  rw [next, hlength, Option.any_some]
  split
  · simp only [dayNumber]
    omega
  · next hend =>
    have hend : length ≤ date.day := Nat.not_lt.1 fun hlt => hend (decide_eq_true hlt)
    split
    · simp only [dayNumber, hmonth]
      omega
    · have hdecember : date.month = 12 := by omega
      rw [hdecember] at hmonth
      rw [dayNumber_newYear, hmonth]
      simp only [dayNumber, hdecember]
      omega

end Date

namespace LocalTime

lemma isValid_iff {t : LocalTime} :
    t.isValid = true ↔ t.date.isValid = true ∧ t.hour < 24 ∧ t.minute < 60 ∧ t.second < 60 := by
  simp [isValid, and_assoc]

lemma isValid_of_year {seconds : ℤ} (hlow : Date.firstYear ≤ (ofSeconds seconds).date.year)
    (hhigh : (ofSeconds seconds).date.year ≤ Date.lastYear) :
    (ofSeconds seconds).isValid = true := by
  have hdate : (ofSeconds seconds).date.isValid = true := Date.isValid_of_year hlow hhigh
  refine isValid_iff.2 ⟨hdate, ?_⟩
  simp only [ofSeconds]
  omega

lemma inCalendar_of_year {t : LocalTime} (h : t.isValid = true) (hlow : -200000 ≤ t.date.year)
    (hhigh : t.date.year ≤ 200000) {offset : ℤ} (hoffset : offset.natAbs < 86400) :
    inCalendar (t.toSeconds - offset) = true := by
  obtain ⟨hdate, hhour, hminute, hsecond⟩ := isValid_iff.1 h
  obtain ⟨hfirst, hlast⟩ := Date.dayNumber_bounds hdate
  have hbefore := Date.yearStart_mono hlow
  have hafter := Date.yearStart_mono (show t.date.year + 1 ≤ 200001 by omega)
  have hstart : Date.yearStart (-200000) = -73768028 := by decide
  have hend : Date.yearStart 200001 = 72329338 := by decide
  have hopen : Date.yearStart Date.firstYear * 86400 ≤ -6373557705600 := by decide
  have hclose : 6249254889600 ≤ Date.yearStart (Date.lastYear + 1) * 86400 := by decide
  rw [inCalendar, Bool.and_eq_true, decide_eq_true_eq, decide_eq_true_eq, toSeconds]
  omega

lemma inCalendar_of_isValid {t : LocalTime} (h : t.isValid = true) (hlow : 0 ≤ t.date.year)
    (hhigh : t.date.year ≤ 9999) {offset : ℤ} (hoffset : offset.natAbs < 86400) :
    inCalendar (t.toSeconds - offset) = true :=
  inCalendar_of_year h (Int.le_trans (by decide) hlow) (Int.le_trans hhigh (by decide)) hoffset

end LocalTime

end Syslog
