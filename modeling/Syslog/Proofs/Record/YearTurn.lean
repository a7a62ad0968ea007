import Syslog.Proofs.DateText.ClockParts
import Syslog.Proofs.Record.Edges

/-!
# The turn of the year

A date that tells no year is one of the year that the clock shows. For a message of the last thirty
days this is right as long as it was sent in that year. Otherwise it was sent in December and the
clock shows January: the date is read as one of the December to come, which is too far ahead, so the
record gets the time of the clock.
-/
namespace Syslog
open Text

namespace Date

lemma le_yearLength (year : ℤ) : 365 ≤ yearLength year := by
  rw [yearLength]
  split <;> decide

lemma dayNumber_december (year : ℤ) (day : ℕ) :
    dayNumber ⟨year, 12, day⟩ = yearStart (year + 1) - 32 + day := by
  have hdays : daysBefore year 12 + 31 = yearLength year := by
    simp only [daysBefore, monthLengths, yearLength]
    cases isLeap year <;> rfl
  have hsucc := yearStart_succ year
  simp only [dayNumber]
  omega

theorem ofDayNumber_december {year number : ℤ} (hfirst : firstYear ≤ year) (hlast : year ≤ lastYear)
    (hlow : yearStart (year + 1) - 31 ≤ number) (hhigh : number < yearStart (year + 1)) :
    ofDayNumber number = ⟨year, 12, (number - yearStart (year + 1) + 32).toNat⟩ := by
  obtain ⟨day, hday⟩ : ∃ day, (number - yearStart (year + 1) + 32).toNat = day := ⟨_, rfl⟩
  have hvalid : isValid ⟨year, 12, day⟩ = true := by
    have hlength : (monthLengths year)[11]? = some 31 := rfl
    simp only [isValid, hlength, Option.any_some, Bool.and_eq_true, decide_eq_true_eq]
    omega
  have hnumber : number = dayNumber ⟨year, 12, day⟩ := by
    rw [dayNumber_december]
    omega
  rw [hday, hnumber, ofDayNumber_dayNumber hvalid]

/-- All the days of a year after a day of the December before it, it is the same day of that year's
December. -/
theorem ofDayNumber_add_yearLength {year number : ℤ} (hfirst : firstYear < year)
    (hlast : year ≤ lastYear) (hlow : yearStart year - 31 ≤ number)
    (hhigh : number < yearStart year) :
    ofDayNumber (number + yearLength year) =
      ⟨year, (ofDayNumber number).month, (ofDayNumber number).day⟩ := by
  have hsucc := yearStart_succ year
  have hstart := congrArg yearStart (Int.sub_add_cancel year 1)
  have hbefore : ofDayNumber number =
      ⟨year - 1, 12, (number - yearStart (year - 1 + 1) + 32).toNat⟩ :=
    ofDayNumber_december (by omega) (by omega) (by omega) (by omega)
  have hafter : ofDayNumber (number + yearLength year) = _ :=
    ofDayNumber_december (Int.le_of_lt hfirst) hlast (by omega) (by omega)
  have hday : number + yearLength year - yearStart (year + 1) + 32 =
      number - yearStart (year - 1 + 1) + 32 := by
    omega
  rw [hbefore, hafter, hday]

/-- The thirty days before a day reach into the year before as far as December. -/
lemma bounds_of_recent {first second : ℤ} (hle : first ≤ second) (hrecent : second ≤ first + 30)
    (hyear : yearOfDay first ≠ yearOfDay second) :
    yearStart (yearOfDay second) - 31 ≤ first ∧ first < yearStart (yearOfDay second) := by
  obtain ⟨hstart, hend⟩ := yearStart_yearOfDay second
  refine ⟨by omega, Int.not_le.1 fun hin => hyear (yearOfDay_eq_iff.2 ⟨hin, ?_⟩)⟩
  omega

end Date

namespace LocalTime

/-- The same day and time of day in another year. -/
def inYear (time : LocalTime) (year : ℤ) : LocalTime :=
  ⟨⟨year, time.date.month, time.date.day⟩, time.hour, time.minute, time.second⟩

lemma ofSeconds_add_days (seconds days : ℤ) :
    ofSeconds (seconds + 86400 * days) =
      { ofSeconds seconds with date := .ofDayNumber (seconds / 86400 + days) } := by
  rw [ofSeconds, Int.add_mul_ediv_left _ _ (by decide), Int.add_mul_emod_self_left]
  rfl

/-- A local time within thirty days before one of a later year is in December. In the later year
it lies ahead by all the days of that year. -/
theorem inYear_of_recent {first second : ℤ} (hlow : 0 ≤ (ofSeconds second).date.year)
    (hhigh : (ofSeconds second).date.year ≤ 9999) (hle : first ≤ second)
    (hrecent : second ≤ first + 30 * 86400)
    (hyear : (ofSeconds first).date.year ≠ (ofSeconds second).date.year) :
    (ofSeconds first).inYear (ofSeconds second).date.year =
      ofSeconds (first + 86400 * Date.yearLength (ofSeconds second).date.year) := by
  obtain ⟨hstart, hend⟩ := Date.bounds_of_recent (show first / 86400 ≤ second / 86400 by omega)
    (by omega) hyear
  have hdate := Date.ofDayNumber_add_yearLength (Int.lt_of_lt_of_le (by decide) hlow)
    (Int.le_trans hhigh (by decide)) hstart hend
  rw [ofSeconds_add_days]
  exact (congrArg (fun date => (⟨date, _, _, _⟩ : LocalTime)) hdate).symm

end LocalTime

/-- The field holds a number in one digit or two. -/
def Fields.HoldsNumber (fields : Fields) (name : String) (n : ℕ) : Prop :=
  ∃ digits, fields.get? name = some digits ∧ (Spells 1 digits n ∨ Spells 2 digits n)

/-- The fields tell a local time by the name of its month and by numbers, and neither its year nor
an offset from UTC. -/
structure Fields.TellsYearless (fields : Fields) (time : LocalTime) : Prop where
  month : ∃ name, fields.get? "month" = some name ∧ NamesMonth name time.date.month
  day : fields.HoldsNumber "day" time.date.day
  hour : fields.HoldsNumber "hours" time.hour
  minute : fields.HoldsNumber "minutes" time.minute
  second : fields.HoldsNumber "seconds" time.second
  absent : ∀ name ∈ ["date", "year", "timeOffset", "timeZone"], fields.get? name = none
  fraction : ∀ digits ∈ fields.get? "milliseconds", digits.getLast? ≠ some 'Z'

namespace DateText

variable {fields : Fields} {now : Moment} {time : LocalTime}

lemma spells_partText {name : String} {n : ℕ} (h : fields.HoldsNumber name n) (current : ℕ) :
    Spells 2 (partText fields name current) n := by
  obtain ⟨digits, hdigits, hspells⟩ := h
  rw [partText, hdigits, Option.map_some, Option.getD_some]
  exact spells_twoPlaces hspells

lemma offsetText_append_zoneText (h : fields.TellsYearless time) :
    offsetText fields ++ zoneText fields = [] := by
  have hfraction : (fields.get? "milliseconds").any (fun digits => digits.getLast? == some 'Z') =
      false := by
    rw [Option.any_eq_false]
    exact fun digits hdigits => beq_false_of_ne (h.fraction digits hdigits)
  simp [offsetText, zoneText, isZulu, h.absent "timeOffset" (by simp),
    h.absent "timeZone" (by simp), hfraction]

theorem exists_ofFields_of_yearless (h : fields.TellsYearless time)
    (hlow : 1000 ≤ now.localTime.date.year) (hhigh : now.localTime.date.year ≤ 9999)
    (hoffset : now.offset.natAbs < 86400)
    (hvalid : (time.inYear now.localTime.date.year).isValid = true) :
    ∃ t, ofFields fields now = .ok ⟨t, .message⟩ ∧
      DateLayout.seconds? now t =
        some ((time.inYear now.localTime.date.year).toSeconds - now.offset) := by
  obtain ⟨name, hname, hmonth⟩ := h.month
  obtain ⟨hours, hhours, -⟩ := h.hour
  have hyear : (partsOf now.localTime fields).year = ofInt now.localTime.date.year := by
    rw [partsOf, h.absent "year" (by simp), Option.getD_none]
  have hreads : Reads (partsOf now.localTime fields) (time.inYear now.localTime.date.year) :=
    ⟨reads_monthText_of_name hmonth hname now.localTime,
      ⟨_, hyear ▸ spells_ofInt hlow hhigh, by simp only [LocalTime.inYear]; omega⟩,
      spells_partText h.day _, spells_partText h.hour _, spells_partText h.minute _,
      spells_partText h.second _⟩
  have hpart : ∃ name ∈ partNames, fields.contains name = true :=
    ⟨"hours", by decide, Option.isSome_of_eq_some hhours⟩
  have hcalendar := LocalTime.inCalendar_of_isValid hvalid (Int.le_trans (by decide) hlow) hhigh
    hoffset
  exact exists_ofFields_of_reads (h.absent "date" (by simp)) hpart (offsetText_append_zoneText h)
    hreads hvalid hcalendar

end DateText

/-- The instant of a message that tells no year, whose local time is moved into the year of the
clock. -/
lemma Reading.exists_instant_of_yearless {fields : Fields} {now : Moment} {time : LocalTime}
    {seconds : ℤ} (h : fields.TellsYearless time) (hlow : 1000 ≤ now.localTime.date.year)
    (hhigh : now.localTime.date.year ≤ 9999) (hoffset : now.offset.natAbs < 86400)
    (hmoved : time.inYear now.localTime.date.year = LocalTime.ofSeconds (seconds + now.offset)) :
    ∃ date, DateText.ofFields fields now = .ok date ∧
      ∀ index, Reading.instant ⟨index, fields, date⟩ now = .ok (seconds * 1000) := by
  have hyear : (LocalTime.ofSeconds (seconds + now.offset)).date.year =
      now.localTime.date.year := by rw [← hmoved, LocalTime.inYear]
  have hvalid : (time.inYear now.localTime.date.year).isValid = true := by
    rw [hmoved]
    refine LocalTime.isValid_of_year ?_ ?_ <;> rw [hyear]
    · exact Int.le_trans (by decide) hlow
    · exact Int.le_trans hhigh (by decide)
  obtain ⟨t, hdate, hseconds⟩ := DateText.exists_ofFields_of_yearless h hlow hhigh hoffset hvalid
  rw [hmoved, LocalTime.toSeconds_ofSeconds, Int.add_sub_cancel] at hseconds
  exact ⟨_, hdate, fun index => by simp only [Reading.instant, hseconds]⟩

namespace Record

lemma judge_standard (instant now : Instant) :
    Window.standard.judge (minutesBetween instant now) =
      if (60000 * 43201 : ℤ) ≤ now - instant then .stale
      else if (300000 : ℤ) ≤ instant - now then .ahead else .timely := by
  have hclamps : Window.standard.Clamps (now - instant) ↔ (300000 : ℤ) ≤ instant - now := by
    rw [Window.Clamps, if_neg (by decide)]
    simp only [Window.standard]
    omega
  rw [minutesBetween, Window.judge_tdiv_minute]
  simp only [hclamps]
  rfl

/-- A message of the last thirty days that tells no year gives a record of its own time if it was
sent in the year that the clock shows, and otherwise one that is clamped to the clock. -/
theorem ofReading_yearless {fields : Fields} {now : Moment} {seconds : ℤ}
    (hlow : 1000 ≤ now.localTime.date.year) (hhigh : now.localTime.date.year ≤ 9999)
    (hoffset : now.offset.natAbs < 86400) (hpast : seconds * 1000 ≤ now.instant)
    (hrecent : seconds * 1000 + 43200 * 60000 ≥ now.instant)
    (hfields : fields.TellsYearless (LocalTime.ofSeconds (seconds + now.offset))) :
    ∃ date, DateText.ofFields fields now = .ok date ∧ ∀ index address,
      ofReading ⟨index, fields, date⟩ now .standard address =
        .ok (if (LocalTime.ofSeconds (seconds + now.offset)).date.year = now.localTime.date.year
          then withTime ⟨index, fields, date⟩ address (seconds * 1000) false
          else withTime ⟨index, fields, date⟩ address now.instant true) := by
  by_cases hyear : (LocalTime.ofSeconds (seconds + now.offset)).date.year = now.localTime.date.year
  · obtain ⟨date, hdate, hinstant⟩ := Reading.exists_instant_of_yearless hfields hlow hhigh hoffset
      (congrArg (LocalTime.inYear _) hyear.symm)
    have haccepts : Window.standard.Accepts (seconds * 1000) now.instant := by
      rw [Window.Accepts, judge_standard, if_neg (by omega), if_neg (by omega)]
    refine ⟨date, hdate, fun index address => ?_⟩
    rw [if_pos hyear]
    exact ofReading_of_accepts (hinstant index) haccepts address
  · have hle : seconds + now.offset ≤ now.instant.seconds + now.offset := by
      simp only [Instant.seconds]
      omega
    have hdays : now.instant.seconds + now.offset ≤ seconds + now.offset + 30 * 86400 := by
      simp only [Instant.seconds]
      omega
    have hmoved := LocalTime.inYear_of_recent (Int.le_trans (by decide) hlow) hhigh hle hdays hyear
    rw [Int.add_right_comm] at hmoved
    have hlength := Date.le_yearLength
      (LocalTime.ofSeconds (now.instant.seconds + now.offset)).date.year
    obtain ⟨date, hdate, hinstant⟩ :=
      Reading.exists_instant_of_yearless hfields hlow hhigh hoffset hmoved
    refine ⟨date, hdate, fun index address => ?_⟩
    rw [if_neg hyear, ofReading_of_instant (hinstant index), judge_standard, if_neg (by omega),
      if_pos (by omega)]

/-- The fields of a message from the last ten seconds of a day. -/
def endOfDay (month day : Text) : Fields :=
  ⟨[("month", month), ("day", day), ("hours", ofString "23"), ("minutes", ofString "59"),
    ("seconds", ofString "50"), ("message", ['x'])]⟩

lemma tellsYearless_endOfDay {monthName dayDigits : Text} {month day : ℕ}
    (hmonth : NamesMonth monthName month) (hday : Spells 2 dayDigits day) (year : ℤ) :
    (endOfDay monthName dayDigits).TellsYearless ⟨⟨year, month, day⟩, 23, 59, 50⟩ where
  month := ⟨monthName, rfl, hmonth⟩
  day := ⟨dayDigits, rfl, .inr hday⟩
  hour := ⟨ofString "23", rfl, .inr (by decide : Spells 2 (ofString "23") 23)⟩
  minute := ⟨ofString "59", rfl, .inr (by decide : Spells 2 (ofString "59") 59)⟩
  second := ⟨ofString "50", rfl, .inr (by decide : Spells 2 (ofString "50") 50)⟩
  absent := by simp [endOfDay, Fields.get?]
  fraction := by
    have hnone : (endOfDay monthName dayDigits).get? "milliseconds" = none := rfl
    simp [hnone]

/-- Ten seconds after a leap day, five and a half hours east of UTC. -/
theorem ofReading_leapDay :
    ∃ date, DateText.ofFields (endOfDay (ofString "february") (ofString "29"))
        ⟨1709231410000, 19800⟩ = .ok date ∧
      ∃ record, ofReading ⟨16, endOfDay (ofString "february") (ofString "29"), date⟩
          ⟨1709231410000, 19800⟩ .standard none = .ok record ∧
        record.timestamp = 1709231390000 ∧ record.clamped = false := by
  have htime : LocalTime.ofSeconds (1709231390 + 19800) = ⟨⟨2024, 2, 29⟩, 23, 59, 50⟩ := by
    decide +kernel
  have htells : (endOfDay (ofString "february") (ofString "29")).TellsYearless
      (LocalTime.ofSeconds (1709231390 + 19800)) :=
    htime ▸ tellsYearless_endOfDay (by decide) (by decide) 2024
  obtain ⟨date, hdate, hrecord⟩ := @ofReading_yearless _ ⟨1709231410000, 19800⟩ 1709231390
    (by decide +kernel) (by decide +kernel) (by decide) (by decide) (by decide) htells
  have hyear : (LocalTime.ofSeconds (1709231390 + 19800)).date.year =
      (Moment.localTime ⟨1709231410000, 19800⟩).date.year := by decide +kernel
  have hresult := hrecord 16 none
  rw [if_pos hyear] at hresult
  exact ⟨date, hdate, _, hresult, rfl, rfl⟩

/-- Ten seconds into the year 2025, a message from the last ten seconds of 2024 does not keep its
time. -/
theorem ofReading_lastDay :
    (endOfDay (ofString "Dec") (ofString "31")).TellsYearless (LocalTime.ofSeconds 1735689590) ∧
      (Moment.localTime ⟨1735689610000, 0⟩).date.year = 2025 ∧
      ∃ date, DateText.ofFields (endOfDay (ofString "Dec") (ofString "31"))
          ⟨1735689610000, 0⟩ = .ok date ∧
        ∃ record, ofReading ⟨16, endOfDay (ofString "Dec") (ofString "31"), date⟩
            ⟨1735689610000, 0⟩ .standard none = .ok record ∧
          record.timestamp = 1735689610000 ∧ record.clamped = true := by
  have htime : LocalTime.ofSeconds 1735689590 = ⟨⟨2024, 12, 31⟩, 23, 59, 50⟩ := by decide +kernel
  have hresult : ofReading ⟨16, endOfDay (ofString "Dec") (ofString "31"),
      ⟨ofString "Dec 31 2025 23:59:50", .message⟩⟩ ⟨1735689610000, 0⟩ .standard none =
        .ok (withTime ⟨16, endOfDay (ofString "Dec") (ofString "31"),
          ⟨ofString "Dec 31 2025 23:59:50", .message⟩⟩ none 1735689610000 true) := by
    decide +kernel
  exact ⟨htime ▸ tellsYearless_endOfDay (by decide) (by decide) 2024, by decide +kernel, _,
    by decide +kernel, _, hresult, rfl, rfl⟩

end Record
end Syslog
