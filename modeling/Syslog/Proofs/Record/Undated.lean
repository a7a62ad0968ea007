import Syslog.Matching
import Syslog.Proofs.DateText.MomentText
import Syslog.Proofs.Record.Edges

/-!
# Messages without a date

A message that tells no date gets the very instant of the clock, whatever the window. Its date has a
text all the same, and a message is discarded if that text has no layout, as in years that are not
written in four digits.
-/
namespace Syslog
open Text

namespace Record

variable {reading : Reading} {now : Moment}

lemma ofReading_of_clock (h : reading.date.origin = .clock) (window : Window)
    (address : Option Text) :
    ofReading reading now window address =
      .ok (withTime reading address now.instant (decide (window.ahead = 0))) := by
  have hinstant : reading.instant now = .ok now.instant := by rw [Reading.instant, h]
  have hminutes : minutesBetween now.instant now.instant = 0 := by
    rw [minutesBetween, Int.sub_self, Int.zero_tdiv]
  have hjudge : window.judge 0 = if window.ahead = 0 then .ahead else .timely := by
    have hbehind : ¬ (window.behind : ℤ) < 0 := by omega
    have hahead : -(window.ahead : ℤ) < 0 ↔ ¬ window.ahead = 0 := by omega
    simp only [Window.judge, if_neg hbehind, hahead, ite_not]
  rw [ofReading_of_instant hinstant, hminutes, hjudge]
  by_cases hahead : window.ahead = 0
  · simp only [hahead, ↓reduceIte, decide_true]
  · simp only [hahead, ↓reduceIte, decide_false]

/-- A message that tells no date is dated by the clock as long as this shows a year of four digits,
and then gives a record of its very instant under every window. The text of that date tells the
second to all moments if the clock is whole minutes from UTC. In any other year the message is
discarded with the text of the clock. -/
theorem ofReading_of_tellsNoDate {fields : Fields} (hfields : fields.TellsNoDate) (now : Moment)
    (hoffset : now.offset.natAbs < 86400) :
    (0 ≤ now.localTime.date.year ∧ now.localTime.date.year ≤ 9999 →
      ∃ date, DateText.ofFields fields now = .ok date ∧ date.origin = .clock ∧
        (∀ index window address, ∃ record,
          ofReading ⟨index, fields, date⟩ now window address = .ok record ∧
            record.timestamp = now.instant ∧ (record.clamped = true ↔ window.ahead = 0)) ∧
        (now.offset % 60 = 0 → ∀ reader : Moment,
          DateLayout.seconds? reader date.text = some now.instant.seconds)) ∧
    (¬ (0 ≤ now.localTime.date.year ∧ now.localTime.date.year ≤ 9999) →
      DateText.ofFields fields now = .error now.text ∧
        ∀ grammar : Grammar, grammar.reading now fields = .error (.unparsableDate now.text)) := by
  refine ⟨fun ⟨hlow, hhigh⟩ => ?_, fun hyear => ?_⟩
  · refine ⟨_, DateText.ofFields_eq_clock hfields hlow hhigh hoffset, rfl, ?_, ?_⟩
    · intro index window address
      exact ⟨_, ofReading_of_clock rfl window address, rfl, decide_eq_true_iff⟩
    · intro hminutes reader
      exact DateLayout.seconds?_momentText hlow hhigh hoffset hminutes reader
  · have herror := DateText.ofFields_eq_error hfields hyear
    exact ⟨herror, fun grammar => by rw [Grammar.reading, herror]⟩

/-- A millisecond before 1970, three and a half hours west of UTC, and at the start of the
year 10000. -/
theorem ofReading_undated :
    (∃ date, DateText.ofFields ⟨[("message", ['x'])]⟩ ⟨-1, -12600⟩ = .ok date ∧
      (∃ record,
        ofReading ⟨22, ⟨[("message", ['x'])]⟩, date⟩ ⟨-1, -12600⟩ ⟨0, 0⟩ none = .ok record ∧
          record.timestamp = -1 ∧ record.clamped = true) ∧
      DateLayout.seconds? ⟨1717293546000, 7200⟩ date.text = some (-1)) ∧
    DateText.ofFields ⟨[("message", ['x'])]⟩ ⟨253402300800000, 0⟩ =
      .error (ofString "+10000-01-01T00:00:00+00:00") := by
  have htells : Fields.TellsNoDate ⟨[("message", ['x'])]⟩ := by decide
  constructor
  · obtain ⟨date, hdate, -, hrecord, hseconds⟩ :=
      (ofReading_of_tellsNoDate htells ⟨-1, -12600⟩ (by decide)).1 (by decide +kernel)
    obtain ⟨record, hrecord, htimestamp, hclamped⟩ := hrecord 22 ⟨0, 0⟩ none
    exact ⟨date, hdate, ⟨record, hrecord, htimestamp, hclamped.2 rfl⟩, hseconds (by decide) _⟩
  · have herror := (ofReading_of_tellsNoDate htells ⟨253402300800000, 0⟩ (by decide)).2
      (by decide +kernel)
    exact herror.1.trans (congrArg Except.error (by decide +kernel))

end Record
end Syslog
