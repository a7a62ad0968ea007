import Syslog.DateText.Basic
import Syslog.Proofs.DateText.Spelled

/-!
# Texts of moments

The text of a moment has the layout of a date in the years of four digits and in no others. It tells
the offset to the minute, so that every other moment reads it as the second it was written in if the
offset has no seconds of its own. A message that tells no date has the text of the clock.
-/
namespace Syslog
open Text

namespace DateLayout

variable {moment : Moment} {offset : ℤ}

lemma exists_offsetText (offset : ℤ) :
    ∃ sign : Char, (sign = '+' ∨ sign = '-') ∧ (sign = '-' ↔ offset < 0) ∧
      Moment.offsetText offset = sign :: (padded 2 ((offset.natAbs + 30) / 60 / 60) ++
        ':' :: padded 2 ((offset.natAbs + 30) / 60 % 60)) := by
  refine ⟨if offset < 0 then '-' else '+', ?_, ?_, by simp [Moment.offsetText]⟩
  · split
    · exact .inr rfl
    · exact .inl rfl
  · split
    · next hnegative => exact iff_of_true rfl hnegative
    · next hpositive => exact iff_of_false (by decide) hpositive

lemma carries_momentOffset (h : offset.natAbs < 86400) :
    Carries DateLayout.offset (Moment.offsetText offset)
      (only .offset (Moment.offsetText offset)) := by
  obtain ⟨sign, hsign, -, htext⟩ := exists_offsetText offset
  have hhours : Spells 2 (padded 2 ((offset.natAbs + 30) / 60 / 60)) _ :=
    spells_padded (by decide) (by omega)
  have hminutes : Spells 2 (padded 2 ((offset.natAbs + 30) / 60 % 60)) _ :=
    spells_padded (by decide) (by omega)
  rw [htext]
  exact carries_offset hsign hhours.hasDigits hminutes.hasDigits

lemma offset?_momentOffset (h : offset.natAbs < 86400) (hminutes : offset % 60 = 0) :
    offset? (Moment.offsetText offset) = some offset := by
  obtain ⟨sign, -, hnegative, htext⟩ := exists_offsetText offset
  have hhours : (padded 2 ((offset.natAbs + 30) / 60 / 60)).length = 2 :=
    length_padded (by decide) (by omega)
  rw [htext]
  refine (offset?_eq_some_iff hhours).2
    ⟨_, _, digits?_padded 2 _, digits?_padded 2 _, by omega, ?_⟩
  by_cases hsign : sign = '-'
  · rw [if_pos hsign]
    have hlt := hnegative.1 hsign
    omega
  · rw [if_neg hsign]
    have hle := Int.not_lt.1 (mt hnegative.2 hsign)
    omega

lemma isValid_localTime (hlow : 0 ≤ moment.localTime.date.year)
    (hhigh : moment.localTime.date.year ≤ 9999) : moment.localTime.isValid = true :=
  LocalTime.isValid_of_year (Int.le_trans (by decide) hlow) (Int.le_trans hhigh (by decide))

theorem carries_momentText (hlow : 0 ≤ moment.localTime.date.year)
    (hhigh : moment.localTime.date.year ≤ 9999) (hoffset : moment.offset.natAbs < 86400) :
    Carries isoOffset.places moment.text fun part =>
      localParts (padded 4 moment.localTime.date.year.toNat)
        (padded 2 moment.localTime.date.month) (padded 2 moment.localTime.date.day)
        (padded 2 moment.localTime.hour) (padded 2 moment.localTime.minute)
        (padded 2 moment.localTime.second) part ++
      only .offset (Moment.offsetText moment.offset) part := by
  have hvalid := isValid_localTime hlow hhigh
  have hcarries : Carries isoOffset.places _ _ :=
    (carries_iso (spelledTime_padded hvalid hlow hhigh) (spells_padded_month hvalid)).append
      (carries_momentOffset hoffset)
  rw [Moment.text, LocalTime.text, LocalTime.timeText, Date.text, Date.yearText,
    if_pos ⟨hlow, hhigh⟩]
  exact hcarries

theorem ofText?_momentText (hlow : 0 ≤ moment.localTime.date.year)
    (hhigh : moment.localTime.date.year ≤ 9999) (hoffset : moment.offset.natAbs < 86400) :
    ofText? moment.text = some isoOffset :=
  (carries_momentText hlow hhigh hoffset).ofText?

/-- The text of a moment is read by every other moment as the second in which it was written. -/
theorem seconds?_momentText (hlow : 0 ≤ moment.localTime.date.year)
    (hhigh : moment.localTime.date.year ≤ 9999) (hoffset : moment.offset.natAbs < 86400)
    (hminutes : moment.offset % 60 = 0) (reader : Moment) :
    seconds? reader moment.text = some moment.instant.seconds := by
  have hvalid := isValid_localTime hlow hhigh
  have hcalendar := LocalTime.inCalendar_of_isValid hvalid hlow hhigh hoffset
  have hseconds : seconds? reader moment.text =
      some (moment.localTime.toSeconds - moment.offset) :=
    seconds?_of_carries (carries_momentText hlow hhigh hoffset)
      ((spelledTime_padded hvalid hlow hhigh).append fun _ hne _ => only_of_ne hne)
      (offset?_momentOffset hoffset hminutes) hvalid hcalendar
  rw [hseconds, Moment.localTime, LocalTime.toSeconds_ofSeconds, Int.add_sub_cancel]

theorem ofText?_sign {sign : Char} (h : sign = '+' ∨ sign = '-') (t : Text) :
    ofText? (sign :: t) = none := by
  rw [ofText?, List.find?_eq_none]
  intro layout _ hfits
  obtain ⟨place, hplace, hkind⟩ : ∃ place, layout.places[0]? = some place ∧
      (place.kind = .capital ∨ place.kind = .digit) := by
    cases layout <;> exact ⟨_, rfl, by decide⟩
  have hadmits := admits_of_fits hfits hplace (c := sign) rfl
  rcases hkind with hkind | hkind <;> rcases h with rfl | rfl <;> rw [hkind] at hadmits <;>
    revert hadmits <;> decide

/-- The text of a moment has a layout in four-digit years only. -/
theorem ofText?_momentText_eq_none
    (h : ¬ (0 ≤ moment.localTime.date.year ∧ moment.localTime.date.year ≤ 9999)) :
    ofText? moment.text = none := by
  rw [Moment.text, LocalTime.text, Date.text, Date.yearText, if_neg h]
  refine ofText?_sign ?_ _
  split
  · exact .inr rfl
  · exact .inl rfl

end DateLayout

/-- The fields hold no date, neither in one text nor in parts. -/
def Fields.TellsNoDate (fields : Fields) : Prop :=
  ∀ name ∈ "date" :: DateText.partNames, fields.get? name = none

instance : DecidablePred Fields.TellsNoDate := fun fields =>
  inferInstanceAs (Decidable (∀ name ∈ "date" :: DateText.partNames, fields.get? name = none))

namespace DateText

variable {fields : Fields} {now : Moment}

lemma ofFields_of_tellsNoDate (h : fields.TellsNoDate) (now : Moment) :
    ofFields fields now = accept .clock now.text := by
  have hparts : partNames.any fields.contains = false := by
    rw [List.any_eq_false]
    intro name hname
    rw [Fields.contains, h name (List.mem_cons_of_mem _ hname)]
    exact Bool.false_ne_true
  rw [ofFields, h "date" List.mem_cons_self]
  simp only [hparts, Bool.false_eq_true, ↓reduceIte]

lemma ofFields_eq_clock (h : fields.TellsNoDate) (hlow : 0 ≤ now.localTime.date.year)
    (hhigh : now.localTime.date.year ≤ 9999) (hoffset : now.offset.natAbs < 86400) :
    ofFields fields now = .ok ⟨now.text, .clock⟩ := by
  rw [ofFields_of_tellsNoDate h, accept, DateLayout.ofText?_momentText hlow hhigh hoffset]
  rfl

lemma ofFields_eq_error (h : fields.TellsNoDate)
    (hyear : ¬ (0 ≤ now.localTime.date.year ∧ now.localTime.date.year ≤ 9999)) :
    ofFields fields now = .error now.text := by
  rw [ofFields_of_tellsNoDate h, accept, DateLayout.ofText?_momentText_eq_none hyear]
  rfl

end DateText
end Syslog
