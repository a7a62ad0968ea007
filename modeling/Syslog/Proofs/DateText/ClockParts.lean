import Syslog.Proofs.DateText.Assembled
import Syslog.Proofs.DateText.MomentText

/-!
# Dates filled in from the clock

What a message leaves out of its date is taken from the local time of the clock. The parts that it
tells and those that are filled in make one time together, and the date is read as this time in the
offset of the clock. A message that tells some parts of the clock's own time gets that time back.
-/
namespace Syslog
open Text DateLayout

/-- The fields tell parts of a local time, and no more of a date: the year in four digits, the month
by a word for it or by its number, and the others by their numbers. -/
structure Fields.TellsSome (fields : Fields) (time : LocalTime) : Prop where
  part : ∃ name ∈ ["year", "month", "day", "hours", "minutes", "seconds"],
    fields.contains name = true
  year : ∀ t ∈ fields.get? "year", ∃ n : ℕ, Spells 4 t n ∧ time.date.year = n
  month : ∀ t ∈ fields.get? "month",
    NamesMonth t time.date.month ∨ Spells 1 t time.date.month ∨ Spells 2 t time.date.month
  day : ∀ t ∈ fields.get? "day", Spells 1 t time.date.day ∨ Spells 2 t time.date.day
  hour : ∀ t ∈ fields.get? "hours", Spells 1 t time.hour ∨ Spells 2 t time.hour
  minute : ∀ t ∈ fields.get? "minutes", Spells 1 t time.minute ∨ Spells 2 t time.minute
  second : ∀ t ∈ fields.get? "seconds", Spells 1 t time.second ∨ Spells 2 t time.second
  absent : ∀ name ∈ ["date", "milliseconds", "timeOffset", "timeZone"], fields.get? name = none

namespace DateText

variable {fields : Fields} {now : Moment} {time : LocalTime}

structure Reads (parts : JoinedDate) (time : LocalTime) : Prop where
  month : month? parts.month = some time.date.month ∧ (styleOf parts.month).HasMonth parts.month
  year : ∃ n : ℕ, Spells 4 parts.year n ∧ time.date.year = n
  day : Spells 2 parts.day time.date.day
  hour : Spells 2 parts.hour time.hour
  minute : Spells 2 parts.minute time.minute
  second : Spells 2 parts.second time.second

/-- A date whose parts are read as those of a time, without an offset or a zone, is read as this
time in the offset of the clock. -/
theorem exists_ofFields_of_reads (hdate : fields.get? "date" = none)
    (hpart : ∃ name ∈ partNames, fields.contains name = true)
    (hmark : offsetText fields ++ zoneText fields = [])
    (h : Reads (partsOf now.localTime fields) time) (hvalid : time.isValid = true)
    (hcalendar : LocalTime.inCalendar (time.toSeconds - now.offset) = true) :
    ∃ t, ofFields fields now = .ok ⟨t, .message⟩ ∧
      DateLayout.seconds? now t = some (time.toSeconds - now.offset) := by
  obtain ⟨n, hyear, hvalue⟩ := h.year
  obtain ⟨layout, hlayout⟩ : ∃ layout,
      (styleOf (partsOf now.localTime fields).month).layout? .none = some layout := by
    obtain hstyle | hstyle := styleOf_eq (partsOf now.localTime fields).month <;> rw [hstyle]
    · exact ⟨.numeric, rfl⟩
    · exact ⟨.monthDayYearTime, rfl⟩
  have hnone : Carries OffsetMark.none.places (partsOf now.localTime fields).mark fun _ => [] := by
    rw [show (partsOf now.localTime fields).mark = [] from hmark]
    exact ⟨.nil, fun _ => rfl⟩
  have hfits : (partsOf now.localTime fields).Fits
      (styleOf (partsOf now.localTime fields).month) :=
    ⟨h.month.2, hyear.hasDigits,
      ⟨h.day.hasDigits, h.hour.hasDigits, h.minute.hasDigits, h.second.hasDigits⟩,
      ⟨.none, Option.isSome_of_eq_some hlayout, hnone.admits⟩⟩
  have hcarries := hfits.carries (styleOf_eq _) hlayout hnone
  have hspelled : SpelledTime time (localParts (partsOf now.localTime fields).year
      (partsOf now.localTime fields).month (partsOf now.localTime fields).day
      (partsOf now.localTime fields).hour (partsOf now.localTime fields).minute
      (partsOf now.localTime fields).second) :=
    ⟨⟨n, hyear, hvalue⟩, h.month.1, h.day, h.hour, h.minute, h.second⟩
  refine ⟨_, ?_, seconds?_of_carries hcarries (hspelled.append fun _ _ _ => rfl) rfl hvalid
    hcalendar⟩
  rw [ofFields_eq_accept hdate hpart, ofParts_eq_text, accept, hcarries.ofText?]
  rfl

lemma spells_partText_of_current {name : String} {n : ℕ} (hn : n < 100)
    (h : ∀ t ∈ fields.get? name, Spells 1 t n ∨ Spells 2 t n) :
    Spells 2 (partText fields name n) n := by
  rw [partText]
  cases hcase : fields.get? name with
  | none => exact spells_padded (by decide) hn
  | some t => exact spells_twoPlaces (h t hcase)

lemma reads_monthText_of_name {month : Text} {n : ℕ} (h : NamesMonth month n)
    (hmonth : fields.get? "month" = some month) (clock : LocalTime) :
    month? (monthText clock fields) = some n ∧
      (styleOf (monthText clock fields)).HasMonth (monthText clock fields) := by
  rw [h.monthText hmonth, styleOf_eq_namedYear h.admits_abbreviate]
  exact ⟨h.month?_abbreviate, h.admits_abbreviate⟩

lemma reads_monthText {clock : LocalTime} (hmonth : clock.date.month < 100)
    (h : ∀ t ∈ fields.get? "month", NamesMonth t clock.date.month ∨
      Spells 1 t clock.date.month ∨ Spells 2 t clock.date.month) :
    month? (monthText clock fields) = some clock.date.month ∧
      (styleOf (monthText clock fields)).HasMonth (monthText clock fields) := by
  have hnumber : ∀ {t}, Spells 2 t clock.date.month →
      month? t = some clock.date.month ∧ (styleOf t).HasMonth t := by
    intro t ht
    rw [styleOf_eq_numeric (List.all_eq_true.1 ht.all_isDigit)]
    exact ⟨month?_of_spells ht, ht.hasDigits⟩
  cases hcase : fields.get? "month" with
  | none =>
    rw [monthText_eq, hcase]
    exact hnumber (spells_padded (by decide) hmonth)
  | some t =>
    obtain hname | hspells := h t hcase
    · exact reads_monthText_of_name hname hcase clock
    · have hdigits : t.all Char.isDigit = true := hspells.elim Spells.all_isDigit Spells.all_isDigit
      rw [monthText_eq, hcase, Option.map_some, Option.getD_some, wordOf, if_pos hdigits]
      exact hnumber (spells_twoPlaces hspells)

lemma reads_partsOf (h : fields.TellsSome now.localTime)
    (hlow : 1000 ≤ now.localTime.date.year) (hhigh : now.localTime.date.year ≤ 9999) :
    Reads (partsOf now.localTime fields) now.localTime := by
  obtain ⟨hmonth, hday, hhour, hminute, hsecond⟩ := hasTwoPlaces_localTime now
  refine ⟨reads_monthText hmonth h.month, ?_, spells_partText_of_current hday h.day,
    spells_partText_of_current hhour h.hour, spells_partText_of_current hminute h.minute,
    spells_partText_of_current hsecond h.second⟩
  change ∃ n : ℕ, Spells 4 ((fields.get? "year").getD (ofInt now.localTime.date.year)) n ∧ _
  cases hcase : fields.get? "year" with
  | none =>
    refine ⟨_, spells_ofInt hlow hhigh, ?_⟩
    omega
  | some t => exact h.year t hcase

/-- A message that tells some parts of the clock's local time and no offset has a date, and this is
read as the second that the clock shows. -/
theorem exists_ofFields_of_tellsSome (h : fields.TellsSome now.localTime)
    (hlow : 1000 ≤ now.localTime.date.year) (hhigh : now.localTime.date.year ≤ 9999)
    (hoffset : now.offset.natAbs < 86400) :
    ∃ t, ofFields fields now = .ok ⟨t, .message⟩ ∧
      DateLayout.seconds? now t = some now.instant.seconds := by
  have hpart : ∃ name ∈ partNames, fields.contains name = true := by
    obtain ⟨name, hname, hcontains⟩ := h.part
    have hsubset : ["year", "month", "day", "hours", "minutes", "seconds"] ⊆ partNames := by decide
    exact ⟨name, hsubset hname, hcontains⟩
  have hmark : offsetText fields ++ zoneText fields = [] := by
    simp [offsetText, zoneText, isZulu, h.absent "timeOffset" (by simp),
      h.absent "timeZone" (by simp), h.absent "milliseconds" (by simp)]
  have hlow' : 0 ≤ now.localTime.date.year := Int.le_trans (by decide) hlow
  have hvalid := isValid_localTime hlow' hhigh
  have hcalendar := LocalTime.inCalendar_of_isValid hvalid hlow' hhigh hoffset
  obtain ⟨t, ht, hseconds⟩ := exists_ofFields_of_reads (h.absent "date" (by simp)) hpart hmark
    (reads_partsOf h hlow hhigh) hvalid hcalendar
  rw [Moment.localTime, LocalTime.toSeconds_ofSeconds, Int.add_sub_cancel] at hseconds
  exact ⟨t, ht, hseconds⟩

/-- The month and the second of a clock that is three hours, thirty minutes and one second west of
UTC. -/
theorem exists_ofFields_june :
    ∃ t, ofFields ⟨[("month", ofString "jUNE"), ("seconds", ['5'])]⟩ ⟨1717293546789, -12601⟩ =
        .ok ⟨t, .message⟩ ∧
      DateLayout.seconds? ⟨1717293546789, -12601⟩ t = some 1717293546 := by
  have hnow : (⟨1717293546789, -12601⟩ : Moment).localTime = ⟨⟨2024, 6, 1⟩, 22, 29, 5⟩ := by
    decide +kernel
  have htells : Fields.TellsSome ⟨[("month", ofString "jUNE"), ("seconds", ['5'])]⟩
      (⟨1717293546789, -12601⟩ : Moment).localTime := by
    rw [hnow]
    exact ⟨⟨"month", by decide, rfl⟩, nofun, by decide +kernel, nofun, nofun, nofun,
      by decide +kernel, by decide⟩
  exact exists_ofFields_of_tellsSome htells (by rw [hnow]; decide) (by rw [hnow]; decide)
    (by decide)

end DateText
end Syslog
