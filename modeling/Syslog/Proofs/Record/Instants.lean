import Syslog.Proofs.DateText.Accepted
import Syslog.Record

/-!
# Instants of dates

The dates that a message may tell, and the instants that they stand for. Every other text is
discarded as it stands.
-/
namespace Syslog
open Text

namespace Reading

variable {reading : Reading} {now : Moment}

lemma instant_eq_ok_iff (h : reading.date.origin = .message) {instant : Instant} :
    reading.instant now = .ok instant ↔
      ∃ seconds, DateLayout.seconds? now reading.date.text = some seconds ∧
        seconds * 1000 = instant := by
  rw [Reading.instant, h]
  cases DateLayout.seconds? now reading.date.text <;> simp

lemma instant_of_seconds?_eq_none (h : reading.date.origin = .message)
    (hseconds : DateLayout.seconds? now reading.date.text = none) :
    reading.instant now = .error (.unparsableDate reading.date.text) := by
  rw [Reading.instant, h]
  simp only [hseconds]

/-- A text is read as an instant exactly if it is that of a well-formed date: then the instant is
the local time of the date without its offset, to the second, in days that are numbered one after
the other from the start of 1970. Every other text is discarded as it stands. -/
theorem instant_of_text (index : ℕ) (fields : Fields) (t : Text) (now : Moment)
    (hlow : -200000 ≤ now.localTime.date.year) (hhigh : now.localTime.date.year ≤ 200000)
    (hoffset : now.offset.natAbs < 86400) :
    let reading : Reading := ⟨index, fields, t, .message⟩
    (∀ instant, reading.instant now = .ok instant ↔
      ∃ date : WrittenDate, date.WellFormed now ∧ date.text = t ∧
        date.seconds now * 1000 = instant) ∧
    ((∀ date : WrittenDate, date.WellFormed now → date.text ≠ t) →
      reading.instant now = .error (.unparsableDate t)) ∧
    Date.dayNumber ⟨1970, 1, 1⟩ = 0 ∧
    ∀ date : Date, date.isValid = true → date.next.dayNumber = date.dayNumber + 1 := by
  intro reading
  refine ⟨fun instant => ?_, fun hnone => ?_, by decide, fun _ => Date.dayNumber_next⟩
  · rw [instant_eq_ok_iff rfl]
    constructor
    · rintro ⟨seconds, hseconds, rfl⟩
      obtain ⟨date, hdate, rfl, rfl⟩ := WrittenDate.exists_of_seconds? hseconds
      exact ⟨date, hdate, rfl, rfl⟩
    · rintro ⟨date, hdate, rfl, rfl⟩
      exact ⟨_, WrittenDate.seconds?_text hdate hlow hhigh hoffset, rfl⟩
  · refine instant_of_seconds?_eq_none rfl (Option.eq_none_iff_forall_ne_some.2 ?_)
    intro seconds hseconds
    obtain ⟨date, hdate, htext, -⟩ := WrittenDate.exists_of_seconds? hseconds
    exact hnone date hdate htext

/-- In a leap year the last day of February is read, in the zone that the date tells. -/
theorem instant_of_text_leapDay :
    (⟨0, ⟨[]⟩, ⟨ofString "Feb 29 01:59:06 CET", .message⟩⟩ : Reading).instant
        ⟨1717293546000, -12600⟩ = .ok 1709168346000 ∧
      (⟨0, ⟨[]⟩, ⟨[], .message⟩⟩ : Reading).instant ⟨1717293546000, -12600⟩ =
        .error (.unparsableDate []) := by
  have hlow : -200000 ≤ (Moment.localTime ⟨1717293546000, -12600⟩).date.year := by decide +kernel
  have hhigh : (Moment.localTime ⟨1717293546000, -12600⟩).date.year ≤ 200000 := by decide +kernel
  constructor
  · refine ((instant_of_text 0 ⟨[]⟩ _ ⟨1717293546000, -12600⟩ hlow hhigh (by decide)).1 _).2
      ⟨⟨.named, ⟨⟨2024, 2, 29⟩, 1, 59, 6⟩, .zone (ofString "CET")⟩, ?_, by decide, by decide⟩
    exact ⟨rfl, by decide, show _ = _ by decide +kernel, by decide⟩
  · refine (instant_of_text 0 ⟨[]⟩ [] ⟨1717293546000, -12600⟩ hlow hhigh (by decide)).2.1 ?_
    intro date _ htext
    simp [WrittenDate.text, LocalTime.timeText] at htext

end Reading
end Syslog
