import Syslog.Proofs.DateText.Layouts
import Syslog.Proofs.Record.Timely

/-!
# Edges of a window

What comes of a reading by the milliseconds that its date lies behind the reference time. Nothing
but the date decides whether there is a record, and all numbers on the way are numbers of 64 bits.
-/
namespace Syslog
open Text

/-- A number of 64 bits, one of which is the sign. -/
def Text.IsWord64 (n : ℤ) : Prop := -(half64 : ℤ) ≤ n ∧ n < half64

namespace LocalTime

theorem natAbs_lt_of_inCalendar {seconds : ℤ} (h : inCalendar seconds = true) :
    seconds.natAbs < 10000000000000 := by
  have hopen : Date.yearStart Date.firstYear * 86400 = -8334601228800 := by decide
  have hclose : Date.yearStart (Date.lastYear + 1) * 86400 = 8210266876800 := by decide
  rw [inCalendar, hopen, hclose, Bool.and_eq_true, decide_eq_true_eq, decide_eq_true_eq] at h
  omega

end LocalTime

namespace DateLayout

lemma inCalendar_of_seconds? {now : Moment} {t : Text} {seconds : ℤ}
    (h : seconds? now t = some seconds) : LocalTime.inCalendar seconds = true := by
  simp only [seconds?, Option.bind_eq_bind, Option.bind_eq_some_iff, Option.ite_none_right_eq_some,
    Option.some.injEq] at h
  obtain ⟨layout, -, time, -, offset, -, hcalendar, rfl⟩ := h
  exact hcalendar

end DateLayout

lemma Text.isWord64_of_integer? {t : Text} {n : ℤ} (h : integer? half64 t = some n) :
    IsWord64 n := by
  unfold integer? at h
  simpa [IsWord64] using (Option.filter_eq_some_iff.1 h).2

lemma Fields.isWord64_number (fields : Fields) (name : String) : IsWord64 (fields.number name) := by
  rw [number]
  cases hvalue : (fields.value? name).bind (integer? half64) with
  | none => exact ⟨by decide, by decide⟩
  | some n =>
    obtain ⟨t, -, hinteger⟩ := Option.bind_eq_some_iff.1 hvalue
    exact isWord64_of_integer? hinteger

namespace Record

/-- The difference of two times of the calendar, its minutes and the limits of a window. -/
def passed (instant now : Instant) (window : Window) : List ℤ :=
  [now - instant, minutesBetween instant now, window.behind, window.ahead, -window.ahead]

lemma isWord64_of_mem_passed {instant now : Instant} {window : Window}
    (hinstant : LocalTime.inCalendar instant.seconds = true)
    (hnow : LocalTime.inCalendar now.seconds = true) (hahead : window.ahead < values32)
    (hbehind : window.behind < values32) : ∀ n ∈ passed instant now window, IsWord64 n := by
  have hfirst := LocalTime.natAbs_lt_of_inCalendar hinstant
  have hsecond := LocalTime.natAbs_lt_of_inCalendar hnow
  have hdifference : (now - instant).natAbs < 20000000000000000 := by
    rw [Instant.seconds] at hfirst hsecond
    omega
  have hminutes : (minutesBetween instant now).natAbs ≤ (now - instant).natAbs :=
    Int.natAbs_tdiv_le_natAbs _ _
  intro n hn
  simp only [passed, List.mem_cons, List.not_mem_nil, or_false] at hn
  rw [IsWord64, half64]
  rw [values32] at hahead hbehind
  rcases hn with rfl | rfl | rfl | rfl | rfl <;> omega

lemma ofReading_of_instant {reading : Reading} {now : Moment} {instant : Instant}
    (h : reading.instant now = .ok instant) (window : Window) (address : Option Text) :
    ofReading reading now window address =
      match window.judge (minutesBetween instant now.instant) with
      | .timely => .ok (withTime reading address instant false)
      | .ahead => .ok (withTime reading address now.instant true)
      | .stale => .error (.tooOld (minutesBetween instant now.instant)) := by
  rw [ofReading, h]
  rfl

/-- What comes of a date in a message, to the millisecond. A message that is too late is discarded
with its whole minutes; any other gives the record of its fields, whatever these are, at the time of
the clock or at its own. -/
theorem ofReading_of_seconds {reading : Reading} {now : Moment} {seconds : ℤ}
    (horigin : reading.date.origin = .message)
    (hseconds : DateLayout.seconds? now reading.date.text = some seconds) (window : Window)
    (address : Option Text) :
    let instant : Instant := seconds * 1000
    let late : ℤ := now.instant - instant
    (60000 * ((window.behind : ℤ) + 1) ≤ late →
      ofReading reading now window address = .error (.tooOld (late / 60000)) ∧
        (window.behind : ℤ) < late / 60000) ∧
    (late < 60000 * ((window.behind : ℤ) + 1) → ∃ clamped : Bool,
      (clamped = true ↔
        if window.ahead = 0 then late < 60000 else late ≤ -(60000 * (window.ahead : ℤ))) ∧
      ofReading reading now window address =
        .ok (withTime reading address (if clamped then now.instant else instant) clamped)) ∧
    (LocalTime.inCalendar now.instant.seconds = true → window.ahead < values32 →
      window.behind < values32 → (∀ n ∈ passed instant now.instant window, IsWord64 n) ∧
        ∀ name, IsWord64 (reading.fields.number name)) := by
  intro instant late
  have hinstant : reading.instant now = .ok instant := by
    rw [Reading.instant, horigin]
    simp only [hseconds]
    rfl
  have hresult := ofReading_of_instant hinstant window address
  rw [show minutesBetween instant now.instant = late.tdiv 60000 from rfl,
    window.judge_tdiv_minute] at hresult
  refine ⟨fun hstale => ?_, fun hfresh => ?_, fun hnow hahead hbehind => ⟨?_, ?_⟩⟩
  · have hminutes : late.tdiv 60000 = late / 60000 := Int.tdiv_eq_ediv_of_nonneg (by omega)
    rw [if_pos hstale, hminutes] at hresult
    exact ⟨hresult, by omega⟩
  · rw [if_neg (Int.not_le.2 hfresh)] at hresult
    refine ⟨decide (window.Clamps late), decide_eq_true_iff, ?_⟩
    by_cases hclamps : window.Clamps late
    · rw [if_pos hclamps] at hresult
      simpa [hclamps] using hresult
    · rw [if_neg hclamps] at hresult
      simpa [hclamps] using hresult
  · refine isWord64_of_mem_passed ?_ hnow hahead hbehind
    have hseconds : instant.seconds = seconds := Int.mul_ediv_cancel _ (by decide)
    rw [hseconds]
    exact DateLayout.inCalendar_of_seconds? ‹_›
  · exact reading.fields.isWord64_number

/-- A reading whose priority is none and whose number of a process no 64 bits hold. -/
def overfull : Reading where
  grammarIndex := 7
  fields := ⟨[("facilityCode", ofString "999"), ("processId", ofString "99999999999999999999"),
    ("message", ['x'])]⟩
  date := ⟨ofString "Jun 02 2024 01:59:06", .message⟩

/-- Without a minute to spare on either side, the last millisecond of a minute still gives a record,
and at the time of the clock; the next one gives none. -/
theorem ofReading_overfull :
    DateLayout.seconds? ⟨1717293605999, 0⟩ overfull.date.text = some 1717293546 ∧
      ofReading overfull ⟨1717293605999, 0⟩ ⟨0, 0⟩ none = .ok {
        facility := none
        severity := none
        version := 0
        hostname := none
        processName := none
        processId := 0
        messageId := none
        structuredData := none
        message := ['x']
        timestamp := 1717293605999
        sourceAddress := none
        grammarIndex := 7
        clamped := true } ∧
      ofReading overfull ⟨1717293606000, 0⟩ ⟨0, 0⟩ none = .error (.tooOld 1) := by
  have hbefore : DateLayout.seconds? ⟨1717293605999, 0⟩ overfull.date.text = some 1717293546 := by
    decide +kernel
  have hafter : DateLayout.seconds? ⟨1717293606000, 0⟩ overfull.date.text = some 1717293546 := by
    decide +kernel
  refine ⟨hbefore, ?_, ?_⟩
  · obtain ⟨clamped, hclamped, hresult⟩ :=
      (ofReading_of_seconds rfl hbefore ⟨0, 0⟩ none).2.1 (by decide)
    obtain rfl : clamped = true := hclamped.2 (by decide)
    exact hresult.trans (congrArg Except.ok (by decide +kernel))
  · exact ((ofReading_of_seconds rfl hafter ⟨0, 0⟩ none).1 (by decide)).1

end Record
end Syslog
