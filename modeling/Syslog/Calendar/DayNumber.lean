import Syslog.Calendar

/-!
# Day numbers

Dates and day numbers determine each other, and the local time of a number of seconds tells that
number. Years follow each other without a gap, each as long as its months together.
-/
namespace Syslog.Date

theorem isLeap_iff (year : Int) :
    isLeap year = true ↔ year % 4 = 0 ∧ (year % 100 ≠ 0 ∨ year % 400 = 0) := by
  simp [isLeap]

/-- The days of a year. -/
def yearLength (year : Int) : Nat := if isLeap year then 366 else 365

theorem yearStart_succ (year : Int) : yearStart (year + 1) = yearStart year + yearLength year := by
  have h := isLeap_iff year
  simp only [yearStart, yearLength]
  split <;> simp_all <;> omega

theorem foldl_monthLengths (year : Int) :
    (monthLengths year).foldl (· + ·) 0 = yearLength year := by
  simp only [monthLengths, yearLength]
  cases isLeap year <;> rfl

/-- The year guessed by the mean length of a year is at most one off. -/
theorem yearStart_guess (number : Int) :
    yearStart (1970 + 400 * number / 146097 - 1) ≤ number ∧
      number < yearStart (1970 + 400 * number / 146097 + 1 + 1) := by
  simp only [yearStart]
  omega

theorem yearStart_yearOfDay (number : Int) :
    yearStart (yearOfDay number) ≤ number ∧ number < yearStart (yearOfDay number + 1) := by
  have h := yearStart_guess number
  simp only [yearOfDay]
  split
  · next hlt => exact ⟨h.1, by simpa using hlt⟩
  · split
    · next hle => exact ⟨hle, h.2⟩
    · omega

theorem yearStart_mono {first second : Int} (h : first ≤ second) :
    yearStart first ≤ yearStart second := by
  simp only [yearStart]
  omega

theorem yearOfDay_eq_iff {number year : Int} :
    yearOfDay number = year ↔ yearStart year ≤ number ∧ number < yearStart (year + 1) := by
  have h := yearStart_yearOfDay number
  refine ⟨fun heq => heq ▸ h, fun h' => ?_⟩
  rcases Int.lt_trichotomy (yearOfDay number) year with hlt | heq | hlt
  · have := yearStart_mono (show yearOfDay number + 1 ≤ year by omega)
    omega
  · exact heq
  · have := yearStart_mono (show year + 1 ≤ yearOfDay number by omega)
    omega

theorem foldl_add (lengths : List Nat) (n : Nat) :
    lengths.foldl (· + ·) n = n + lengths.foldl (· + ·) 0 := by
  induction lengths generalizing n with
  | nil => simp
  | cons length lengths ih => rw [List.foldl_cons, List.foldl_cons, ih, ih (0 + _)]; omega

/-- Counting from the first day of a month, within its length, stays in the month. -/
theorem monthAndDay_take {lengths : List Nat} {month day : Nat}
    (hday : lengths[month]?.any (day < ·) = true) :
    monthAndDay lengths ((lengths.take month).foldl (· + ·) 0 + day) = (month + 1, day + 1) := by
  induction lengths generalizing month with
  | nil => simp at hday
  | cons length lengths ih =>
    cases month with
    | zero =>
      have h : day < length := by simpa using hday
      simp [monthAndDay, h]
    | succ month =>
      have hsum : ((length :: lengths).take (month + 1)).foldl (· + ·) 0 + day =
          length + ((lengths.take month).foldl (· + ·) 0 + day) := by
        rw [List.take_succ_cons, List.foldl_cons, foldl_add]
        omega
      rw [hsum, monthAndDay, if_neg (by omega), Nat.add_sub_cancel_left, ih (by simpa using hday)]

theorem exists_month_of_lt {lengths : List Nat} {day : Nat} (h : day < lengths.foldl (· + ·) 0) :
    ∃ month rest, lengths[month]?.any (rest < ·) = true ∧
      day = (lengths.take month).foldl (· + ·) 0 + rest := by
  induction lengths generalizing day with
  | nil => simp at h
  | cons length lengths ih =>
    by_cases hfirst : day < length
    · exact ⟨0, day, by simpa using hfirst, by simp⟩
    · rw [List.foldl_cons, foldl_add] at h
      obtain ⟨month, rest, hrest, heq⟩ := ih (show day - length < _ by omega)
      refine ⟨month + 1, rest, by simpa using hrest, ?_⟩
      rw [List.take_succ_cons, List.foldl_cons, foldl_add]
      omega

theorem foldl_take_add_lt {lengths : List Nat} {month day : Nat}
    (hday : lengths[month]?.any (day < ·) = true) :
    (lengths.take month).foldl (· + ·) 0 + day < lengths.foldl (· + ·) 0 := by
  induction lengths generalizing month with
  | nil => simp at hday
  | cons length lengths ih =>
    cases month with
    | zero =>
      have h : day < length := by simpa using hday
      rw [List.take_zero, List.foldl_nil, List.foldl_cons, foldl_add]
      omega
    | succ month =>
      rw [List.take_succ_cons, List.foldl_cons, List.foldl_cons, foldl_add,
        foldl_add lengths]
      have := ih (by simpa using hday)
      omega

theorem ofDayNumber_dayNumber {date : Date} (h : date.isValid = true) :
    ofDayNumber date.dayNumber = date := by
  obtain ⟨year, month, day⟩ := date
  simp only [isValid, Bool.and_eq_true, decide_eq_true_eq] at h
  obtain ⟨⟨⟨_, hmonth⟩, hday⟩, hlength⟩ := h
  obtain ⟨month, rfl⟩ : ∃ before, month = before + 1 := ⟨month - 1, by omega⟩
  obtain ⟨day, rfl⟩ : ∃ before, day = before + 1 := ⟨day - 1, by omega⟩
  have hday : (monthLengths year)[month]?.any (day < ·) = true := hlength
  have hlt := foldl_take_add_lt hday
  have hnumber : dayNumber ⟨year, month + 1, day + 1⟩ =
      yearStart year + (daysBefore year (month + 1) + day : Nat) := by
    simp only [dayNumber]
    omega
  have hyear : yearOfDay (dayNumber ⟨year, month + 1, day + 1⟩) = year := by
    rw [yearOfDay_eq_iff, yearStart_succ, ← foldl_monthLengths, hnumber]
    simp only [daysBefore, Nat.add_sub_cancel]
    omega
  have hrest : (dayNumber ⟨year, month + 1, day + 1⟩ - yearStart year).toNat =
      ((monthLengths year).take month).foldl (· + ·) 0 + day := by
    rw [hnumber]
    simp only [daysBefore, Nat.add_sub_cancel]
    omega
  simp only [ofDayNumber, hyear, hrest, monthAndDay_take hday]

theorem dayOfYear_lt (number : Int) :
    (number - yearStart (yearOfDay number)).toNat <
      (monthLengths (yearOfDay number)).foldl (· + ·) 0 := by
  rw [foldl_monthLengths]
  have h := yearStart_yearOfDay number
  have hsucc := yearStart_succ (yearOfDay number)
  omega

theorem dayNumber_ofDayNumber (number : Int) : (ofDayNumber number).dayNumber = number := by
  have h := yearStart_yearOfDay number
  obtain ⟨month, rest, hrest, heq⟩ := exists_month_of_lt (dayOfYear_lt number)
  simp only [ofDayNumber, heq, monthAndDay_take hrest, dayNumber, daysBefore, Nat.add_sub_cancel]
  omega

theorem isValid_ofDayNumber {number : Int} (hfirst : yearStart firstYear ≤ number)
    (hlast : number < yearStart (lastYear + 1)) : (ofDayNumber number).isValid = true := by
  have h := yearStart_yearOfDay number
  obtain ⟨month, rest, hrest, heq⟩ := exists_month_of_lt (dayOfYear_lt number)
  have hlow : firstYear ≤ yearOfDay number := by
    refine Int.not_lt.1 fun hlt => ?_
    have := yearStart_mono (show yearOfDay number + 1 ≤ firstYear by omega)
    omega
  have hhigh : yearOfDay number ≤ lastYear := by
    refine Int.not_lt.1 fun hlt => ?_
    have := yearStart_mono (show lastYear + 1 ≤ yearOfDay number by omega)
    omega
  simp only [ofDayNumber, heq, monthAndDay_take hrest, isValid, Bool.and_eq_true,
    decide_eq_true_eq]
  exact ⟨⟨⟨⟨hlow, hhigh⟩, by omega⟩, by omega⟩, hrest⟩

end Syslog.Date

namespace Syslog.LocalTime

theorem toSeconds_ofSeconds (seconds : Int) : (ofSeconds seconds).toSeconds = seconds := by
  simp only [ofSeconds, toSeconds, Date.dayNumber_ofDayNumber]
  omega

end Syslog.LocalTime
