import Syslog.Proofs.DateText.Spelled
import Syslog.Proofs.Grammar.TokenLanguage

/-!
# Tokens of dates

The values of the tokens that tell offsets and whole timestamps, as runs of digits between their
marks. The digits may be those of any script.
-/
namespace Syslog
open Text

inductive OffsetForm where
  | zulu
  /-- Hours and minutes after a sign, with or without a colon between them. -/
  | signed (sign : Char) (hours minutes : Text) (colon : Bool)
  deriving DecidableEq, Repr

namespace OffsetForm

def text : OffsetForm → Text
  | zulu => ['Z']
  | signed sign hours minutes colon =>
    sign :: (hours ++ ((if colon then [':'] else []) ++ minutes))

/-- A plus or a minus, and two digits each for the hours and the minutes. -/
def WellFormed : OffsetForm → Prop
  | zulu => True
  | signed sign hours minutes _ =>
    (sign = '+' ∨ sign = '-') ∧ HasDigits 2 hours ∧ HasDigits 2 minutes

end OffsetForm

/-- A timestamp of the international format, cut into its parts. -/
structure Timestamp where
  year : Text
  month : Text
  day : Text
  hour : Text
  minute : Text
  second : Text
  /-- The digits after the point, if there is one. -/
  fraction : Option Text
  offset : Option OffsetForm
  deriving DecidableEq, Repr

namespace Timestamp

def localText (stamp : Timestamp) : Text :=
  DateStyle.iso.join stamp.year stamp.month stamp.day ++
    (stamp.hour ++ [':'] ++ stamp.minute ++ [':'] ++ stamp.second)

def fractionText (stamp : Timestamp) : Text := (stamp.fraction.map ('.' :: ·)).getD []

def offsetText (stamp : Timestamp) : Text := (stamp.offset.map OffsetForm.text).getD []

def text (stamp : Timestamp) : Text := stamp.localText ++ stamp.fractionText ++ stamp.offsetText

structure WellFormed (stamp : Timestamp) : Prop where
  year : HasDigits 4 stamp.year
  month : HasDigits 2 stamp.month
  time : DateLayout.HasTime stamp.day stamp.hour stamp.minute stamp.second
  fraction : ∀ digits ∈ stamp.fraction, digits ≠ [] ∧ ∀ c ∈ digits, isDecimalDigit c = true
  offset : ∀ form ∈ stamp.offset, form.WellFormed

end Timestamp

namespace Token
open Reader
open scoped Computability

lemma mem_digits_iff {n : ℕ} {t : Text} : t ∈ oneOf isDecimalDigit ^ n ↔ HasDigits n t :=
  mem_pow_oneOf

lemma mem_signs_iff {t : Text} : t ∈ signs ↔ ∃ sign, (sign = '+' ∨ sign = '-') ∧ t = [sign] := by
  rw [signs, mem_oneOf]
  simp only [Bool.or_eq_true, beq_iff_eq]

theorem mem_offset_iff {t : Text} :
    t ∈ Token.offset.language ↔ ∃ form : OffsetForm, form.WellFormed ∧ form.text = t := by
  constructor
  · intro h
    obtain hzulu | hsigned := (Language.mem_add _ _ _).1 h
    · exact ⟨.zulu, trivial, (mem_singleton.1 hzulu).symm⟩
    · obtain ⟨_, ⟨_, ⟨s, hs, hours, hhours, rfl⟩, colon, hcolon, rfl⟩, minutes, hminutes, rfl⟩ :=
        hsigned
      obtain ⟨sign, hsign, rfl⟩ := mem_signs_iff.1 hs
      have hdigits := mem_digits_iff.1 hhours
      have hdigits' := mem_digits_iff.1 hminutes
      obtain rfl | rfl := hcolon
      · exact ⟨.signed sign hours minutes true, ⟨hsign, hdigits, hdigits'⟩, by
          simp [OffsetForm.text]⟩
      · exact ⟨.signed sign hours minutes false, ⟨hsign, hdigits, hdigits'⟩, by
          simp [OffsetForm.text]⟩
  · rintro ⟨form, hform, rfl⟩
    cases form with
    | zulu => exact (Language.mem_add _ _ _).2 (.inl rfl)
    | signed sign hours minutes colon =>
      obtain ⟨hsign, hhours, hminutes⟩ := hform
      have hcolon : (if colon then [':'] else [] : Text) ∈ ({[':']} + 1 : Language Char) := by
        cases colon
        · exact .inr rfl
        · exact .inl rfl
      refine (Language.mem_add _ _ _).2 (.inr ⟨_, ⟨_, ⟨[sign], mem_signs_iff.2 ⟨sign, hsign, rfl⟩,
        hours, mem_digits_iff.2 hhours, rfl⟩, _, hcolon, rfl⟩, minutes,
        mem_digits_iff.2 hminutes, ?_⟩)
      simp [OffsetForm.text]

lemma mem_timesOfDay_iff {t : Text} :
    t ∈ timesOfDay ↔ ∃ hour minute second, HasDigits 2 hour ∧ HasDigits 2 minute ∧
      HasDigits 2 second ∧ hour ++ [':'] ++ minute ++ [':'] ++ second = t := by
  constructor
  · rintro ⟨_, ⟨_, ⟨_, ⟨hour, hhour, _, rfl, rfl⟩, minute, hminute, rfl⟩, _, rfl, rfl⟩, second,
      hsecond, rfl⟩
    exact ⟨hour, minute, second, mem_digits_iff.1 hhour, mem_digits_iff.1 hminute,
      mem_digits_iff.1 hsecond, rfl⟩
  · rintro ⟨hour, minute, second, hhour, hminute, hsecond, rfl⟩
    exact ⟨_, ⟨_, ⟨_, ⟨hour, mem_digits_iff.2 hhour, _, rfl, rfl⟩, minute,
      mem_digits_iff.2 hminute, rfl⟩, _, rfl, rfl⟩, second, mem_digits_iff.2 hsecond, rfl⟩

theorem mem_timestamp_iff {t : Text} :
    t ∈ Token.timestamp.language ↔ ∃ stamp : Timestamp, stamp.WellFormed ∧ stamp.text = t := by
  constructor
  · rintro ⟨_, ⟨_, ⟨_, ⟨_, ⟨_, ⟨_, ⟨_, ⟨year, hyear, _, rfl, rfl⟩, month, hmonth, rfl⟩, _, rfl,
      rfl⟩, day, hday, rfl⟩, _, rfl, rfl⟩, time, htime, rfl⟩, fraction, hfraction, rfl⟩, offset,
      hoffset, rfl⟩
    obtain ⟨hour, minute, second, hhour, hminute, hsecond, rfl⟩ := mem_timesOfDay_iff.1 htime
    obtain ⟨digits, hdigits, rfl⟩ : ∃ digits : Option Text,
        (∀ t ∈ digits, t ≠ [] ∧ ∀ c ∈ t, isDecimalDigit c = true) ∧
          (digits.map ('.' :: ·)).getD [] = fraction := by
      obtain ⟨_, rfl, digits, hdigits, rfl⟩ | rfl := hfraction
      · exact ⟨some digits, by simpa using mem_runOf.1 hdigits, rfl⟩
      · exact ⟨none, nofun, rfl⟩
    obtain ⟨form, hform, rfl⟩ : ∃ form : Option OffsetForm, (∀ f ∈ form, f.WellFormed) ∧
        (form.map OffsetForm.text).getD [] = offset := by
      obtain hoffset | rfl := hoffset
      · obtain ⟨form, hform, rfl⟩ := mem_offset_iff.1 hoffset
        exact ⟨some form, by simpa using hform, rfl⟩
      · exact ⟨none, nofun, rfl⟩
    exact ⟨⟨year, month, day, hour, minute, second, digits, form⟩,
      ⟨mem_digits_iff.1 hyear, mem_digits_iff.1 hmonth,
        ⟨mem_digits_iff.1 hday, hhour, hminute, hsecond⟩, hdigits, hform⟩, rfl⟩
  · rintro ⟨stamp, h, rfl⟩
    have htime := mem_timesOfDay_iff.2
      ⟨_, _, _, h.time.hour, h.time.minute, h.time.second, rfl⟩
    have hfraction : stamp.fractionText ∈
        ({['.']} * runOf isDecimalDigit + 1 : Language Char) := by
      rw [Timestamp.fractionText]
      cases hcase : stamp.fraction with
      | none => exact .inr rfl
      | some digits => exact .inl ⟨_, rfl, digits, mem_runOf.2 (h.fraction digits hcase), rfl⟩
    have hoffset : stamp.offsetText ∈ (offsets + 1 : Language Char) := by
      rw [Timestamp.offsetText]
      cases hcase : stamp.offset with
      | none => exact .inr rfl
      | some form => exact .inl (mem_offset_iff.2 ⟨form, h.offset form hcase, rfl⟩)
    exact ⟨_, ⟨_, ⟨_, ⟨_, ⟨_, ⟨_, ⟨_, ⟨stamp.year, mem_digits_iff.2 h.year, _, rfl, rfl⟩,
      stamp.month, mem_digits_iff.2 h.month, rfl⟩, _, rfl, rfl⟩, stamp.day,
      mem_digits_iff.2 h.time.day, rfl⟩, _, rfl, rfl⟩, _, htime, rfl⟩, _, hfraction, rfl⟩, _,
      hoffset, rfl⟩

end Token
end Syslog
