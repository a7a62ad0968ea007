import Syslog.DateText.Basic
import Syslog.Proofs.DateText.Layouts

/-!
# Layouts in any order

What comes of dates when the layouts are tried in another order. At most one layout fits a text, so
every order finds the same one, and no date or instant depends on the order.
-/
namespace Syslog
open Text

namespace DateLayout

/-- The seconds of the time that a text stands for when it is read by the layout. -/
def secondsBy? (layout : DateLayout) (now : Moment) (t : Text) : Option ℤ := do
  let time ← layout.localTime? now.localTime.date.year t
  let offset ← layout.offsetOf? now.offset t
  let seconds := time.toSeconds - offset
  if LocalTime.inCalendar seconds then some seconds else none

/-- The seconds of the time that a text stands for, by the first layout of a list that it has. -/
def secondsAmong? (layouts : List DateLayout) (now : Moment) (t : Text) : Option ℤ :=
  (firstOf? layouts t).bind fun layout => layout.secondsBy? now t

variable {layouts : List DateLayout} {layout : DateLayout} {t : Text}

theorem firstOf?_of_perm (h : layouts.Perm all) (t : Text) : firstOf? layouts t = ofText? t := by
  apply Option.ext
  intro layout
  rw [firstOf?_eq_some_iff h]
  exact ⟨ofText?_of_fits, fits_of_ofText?⟩

lemma seconds?_eq_bind (now : Moment) (t : Text) :
    seconds? now t = (ofText? t).bind fun layout => layout.secondsBy? now t := rfl

theorem secondsAmong?_of_perm (h : layouts.Perm all) (now : Moment) (t : Text) :
    secondsAmong? layouts now t = seconds? now t := by
  unfold secondsAmong?
  rw [firstOf?_of_perm h, seconds?_eq_bind]

theorem seconds?_of_fits (h : layout.fits t = true) (now : Moment) :
    seconds? now t = layout.secondsBy? now t := by
  rw [seconds?_eq_bind, ofText?_of_fits h, Option.bind_some]

end DateLayout

namespace DateText
open DateLayout

def acceptAmong (layouts : List DateLayout) (origin : DateOrigin) (t : Text) :
    Except Text DateText :=
  if (firstOf? layouts t).isSome then .ok ⟨t, origin⟩ else .error t

/-- The date of a message, or the text that has no layout of a list. -/
def ofFieldsAmong (layouts : List DateLayout) (fields : Fields) (now : Moment) :
    Except Text DateText :=
  match fields.get? "date" with
  | some date =>
    if date.contains 'Z' then .error date
    else acceptAmong layouts .message (expandOffset (trim (dropFraction date)))
  | none =>
    if partNames.any fields.contains then
      acceptAmong layouts .message (ofParts now.localTime fields)
    else acceptAmong layouts .clock now.text

theorem acceptAmong_of_perm {layouts : List DateLayout} (h : layouts.Perm all)
    (origin : DateOrigin) (t : Text) : acceptAmong layouts origin t = accept origin t := by
  rw [acceptAmong, firstOf?_of_perm h, accept]

theorem ofFieldsAmong_of_perm {layouts : List DateLayout} (h : layouts.Perm all) (fields : Fields)
    (now : Moment) : ofFieldsAmong layouts fields now = ofFields fields now := by
  rw [ofFieldsAmong, ofFields]
  cases fields.get? "date" with
  | some date => simp only [ofWhole, acceptAmong_of_perm h]
  | none => simp only [acceptAmong_of_perm h]

/-- No text has two layouts. So the one that a date is accepted for is the one that its instant is
read by, and whatever the order in which the layouts are tried, be it for both alike or not, every
date and every instant stay as they are. -/
theorem layouts_inAnyOrder {layouts others : List DateLayout} (h : layouts.Perm all)
    (hothers : others.Perm all) (t : Text) (now : Moment) :
    (∀ layout other : DateLayout, layout.fits t = true → other.fits t = true → layout = other) ∧
      (∀ layout : DateLayout, layout.fits t = true →
        ofText? t = some layout ∧ seconds? now t = layout.secondsBy? now t) ∧
      firstOf? layouts t = firstOf? others t ∧
      secondsAmong? others now t = seconds? now t ∧
      ∀ fields, ofFieldsAmong layouts fields now = ofFields fields now := by
  refine ⟨?_, ?_, ?_, ?_, ?_⟩
  · intro layout other hlayout hother
    exact fits_unique hlayout hother
  · intro layout hlayout
    exact ⟨ofText?_of_fits hlayout, seconds?_of_fits hlayout now⟩
  · rw [firstOf?_of_perm h, firstOf?_of_perm hothers]
  · exact secondsAmong?_of_perm hothers now t
  · intro fields
    exact ofFieldsAmong_of_perm h fields now

/-- A date in parts and its text, with the layouts in two orders. Its text is as long as those of
timestamps with an offset. -/
theorem layouts_inAnyOrder_offset :
    all.reverse.Perm all ∧ (all.rotate 3).Perm all ∧
      secondsAmong? (all.rotate 3) ⟨0, 0⟩ (ofString "06-02-2024 03:59:06+02:00") =
        some 1717293546 ∧
      ofFieldsAmong all.reverse ⟨[("year", ofString "2024"), ("month", ['6']), ("day", ['2']),
          ("hours", ['3']), ("minutes", ofString "59"), ("seconds", ['6']),
          ("timeOffset", ofString "+0200")]⟩ ⟨0, 0⟩ =
        .ok ⟨ofString "06-02-2024 03:59:06+02:00", .message⟩ := by
  have hreverse : all.reverse.Perm all := List.reverse_perm all
  have hrotate : (all.rotate 3).Perm all := by decide
  obtain ⟨-, -, -, hseconds, hfields⟩ := layouts_inAnyOrder hreverse hrotate
    (ofString "06-02-2024 03:59:06+02:00") ⟨0, 0⟩
  refine ⟨hreverse, hrotate, ?_, ?_⟩
  · rw [hseconds]
    decide +kernel
  · rw [hfields]
    decide +kernel

/-- Digits of another script make a layout as well, and only one. -/
example : all.filter (·.fits (ofString "२०२४-०६-०२T०३:५९:०६+०२:००")) = [isoOffset] := by
  decide +kernel

end DateText
end Syslog
