import Syslog.DateText.Basic
import Syslog.Proofs.DateText.Spelled
import Syslog.Proofs.Grammar.Words

/-!
# Dates told in parts

The text that is made of the parts of a date: numbers of two digits stay as they are, a month in
digits is joined by hyphens and one in letters by spaces, and offsets get their colon.
-/
namespace Syslog
open Text

lemma DateText.twoPlaces_of_hasDigits {t : Text} (h : HasDigits 2 t) : twoPlaces t = t := by
  have hbytes := length_le_byteLength t
  rw [twoPlaces, if_neg]
  rw [h.1] at hbytes
  omega

lemma DateText.twoPlaces_digit {c : Char} (h : c.isDigit = true) : twoPlaces [c] = ['0', c] := by
  rw [twoPlaces, byteLength_cons, byteLength_nil, utf8Size_of_isDigit h, if_pos rfl]

theorem spells_twoPlaces {t : Text} {n : ℕ} (h : Spells 1 t n ∨ Spells 2 t n) :
    Spells 2 (DateText.twoPlaces t) n := by
  rcases h with h | h
  · obtain ⟨c, rfl⟩ := List.length_eq_one_iff.1 h.1
    have hdigit : c.isDigit = true := List.all_eq_true.1 h.all_isDigit c (by simp)
    rw [DateText.twoPlaces_digit hdigit]
    refine ⟨rfl, ?_⟩
    rw [← h.2, digits?, digits?]
    simp [hdigit, Nat.ofDigitChars]
  · rwa [DateText.twoPlaces_of_hasDigits h.hasDigits]

/-- A time in numbers, the month and the day before the year. -/
def LocalTime.numericText (time : LocalTime) : Text :=
  padded 2 time.date.month ++ ['-'] ++ padded 2 time.date.day ++ ['-'] ++
    padded 4 time.date.year.toNat ++ [' '] ++
    (padded 2 time.hour ++ [':'] ++ padded 2 time.minute ++ [':'] ++ padded 2 time.second)

namespace DateText

variable {fields : Fields} {now : LocalTime} {year month day hour minute second : Text}
  {time : LocalTime}

/-- The fields hold the day and the time of day in two digits each. -/
structure HoldsTime (fields : Fields) (time : LocalTime) (day hour minute second : Text) :
    Prop where
  day : (fields.get? "day").map twoPlaces = some day ∧ Spells 2 day time.date.day
  hour : fields.get? "hours" = some hour ∧ Spells 2 hour time.hour
  minute : fields.get? "minutes" = some minute ∧ Spells 2 minute time.minute
  second : fields.get? "seconds" = some second ∧ Spells 2 second time.second

lemma ofParts_eq (h : HoldsTime fields time day hour minute second)
    (hyear : (fields.get? "year").getD (ofInt now.date.year) = year)
    (hmonth : monthText now fields = month) :
    ofParts now fields =
      month ++ (if month.all Char.isDigit then ['-'] else [' ']) ++ day ++
        (if month.all Char.isDigit then ['-'] else [' ']) ++ year ++ [' '] ++
        (hour ++ [':'] ++ minute ++ [':'] ++ second) ++ (offsetText fields ++ zoneText fields) := by
  simp only [ofParts, partText, hyear, hmonth, h.day.1, h.hour.1, h.minute.1, h.second.1,
    Option.map_some, Option.getD_some, twoPlaces_of_hasDigits h.hour.2.hasDigits,
    twoPlaces_of_hasDigits h.minute.2.hasDigits, twoPlaces_of_hasDigits h.second.2.hasDigits,
    List.append_assoc]

lemma monthText_of_spells {n : ℕ} (hmonth : fields.get? "month" = some month)
    (h : Spells 2 month n) (now : LocalTime) : monthText now fields = month := by
  rw [monthText, hmonth]
  simp only [h.all_isDigit, ↓reduceIte, twoPlaces_of_hasDigits h.hasDigits]

lemma ofFields_eq_accept (hdate : fields.get? "date" = none)
    (hpart : ∃ name ∈ partNames, fields.contains name = true) (now : Moment) :
    ofFields fields now = accept .message (ofParts now.localTime fields) := by
  rw [ofFields, hdate]
  exact if_pos (List.any_eq_true.2 hpart)

lemma ofFields_of_parts {now : Moment} {layout : DateLayout}
    (hdate : fields.get? "date" = none) (hhours : fields.get? "hours" = some hour)
    (hlayout : DateLayout.ofText? (ofParts now.localTime fields) = some layout) :
    ofFields fields now = .ok ⟨ofParts now.localTime fields, .message⟩ := by
  have hparts : ∃ name ∈ partNames, fields.contains name = true :=
    ⟨"hours", by decide, Option.isSome_of_eq_some hhours⟩
  rw [ofFields_eq_accept hdate hparts, accept, hlayout]
  rfl

/-- The fields hold a time from the year to the second, in numbers with zeros on the left. -/
structure HoldsPadded (fields : Fields) (time : LocalTime) : Prop where
  year : fields.get? "year" = some (padded 4 time.date.year.toNat)
  month : fields.get? "month" = some (padded 2 time.date.month)
  day : fields.get? "day" = some (padded 2 time.date.day)
  hour : fields.get? "hours" = some (padded 2 time.hour)
  minute : fields.get? "minutes" = some (padded 2 time.minute)
  second : fields.get? "seconds" = some (padded 2 time.second)

lemma HoldsPadded.ofParts_eq (h : HoldsPadded fields time) (hvalid : time.isValid = true)
    (hlow : 0 ≤ time.date.year) (hhigh : time.date.year ≤ 9999) (now : LocalTime) :
    ofParts now fields = time.numericText ++ (offsetText fields ++ zoneText fields) := by
  have hspelled := DateLayout.spelledTime_padded hvalid hlow hhigh
  have hmonth := DateLayout.spells_padded_month hvalid
  have hday : Spells 2 (padded 2 time.date.day) time.date.day := hspelled.day
  have hholds : HoldsTime fields time (padded 2 time.date.day) (padded 2 time.hour)
      (padded 2 time.minute) (padded 2 time.second) :=
    ⟨⟨by rw [h.day, Option.map_some, twoPlaces_of_hasDigits hday.hasDigits], hday⟩,
      ⟨h.hour, hspelled.hour⟩, ⟨h.minute, hspelled.minute⟩, ⟨h.second, hspelled.second⟩⟩
  rw [DateText.ofParts_eq hholds (by rw [h.year, Option.getD_some])
    (monthText_of_spells h.month hmonth now), if_pos hmonth.all_isDigit]
  rfl

lemma expandOffset_colon {sign : Char} {hours minutes : Text} (hhours : HasDigits 2 hours)
    (hminutes : HasDigits 2 minutes) :
    expandOffset (sign :: (hours ++ ':' :: minutes)) = sign :: (hours ++ ':' :: minutes) := by
  obtain ⟨a, b, rfl, ha, -⟩ := hhours.exists_two
  obtain ⟨c, d, rfl, -, -⟩ := hminutes.exists_two
  have hplus : a ≠ '+' := by rintro rfl; revert ha; decide
  have hminus : a ≠ '-' := by rintro rfl; revert ha; decide
  simp [expandOffset, hplus, hminus]

lemma expandOffset_compact {sign : Char} {hours minutes : Text} (hsign : sign = '+' ∨ sign = '-')
    (hhours : HasDigits 2 hours) (hminutes : HasDigits 2 minutes) :
    expandOffset (sign :: (hours ++ minutes)) = sign :: (hours ++ ':' :: minutes) := by
  obtain ⟨a, b, rfl, ha, hb⟩ := hhours.exists_two
  obtain ⟨c, d, rfl, hc, hd⟩ := hminutes.exists_two
  simp [expandOffset, hsign, ha, hb, hc, hd]

lemma dropFractionFrom_append {s : Text} (hs : '.' ∉ s) (seen t : Text) :
    dropFractionFrom seen (s ++ t) = dropFractionFrom (s.reverse ++ seen) t := by
  induction s generalizing seen with
  | nil => rfl
  | cons c s ih =>
    have hc : c ≠ '.' := fun heq => hs (by simp [heq])
    rw [List.cons_append, dropFractionFrom, if_neg fun h => hc h.1,
      ih fun hmem => hs (List.mem_cons_of_mem c hmem)]
    simp

lemma dropFraction_of_notMem {t : Text} (h : '.' ∉ t) : dropFraction t = t := by
  have hread := dropFractionFrom_append h [] []
  rw [List.append_nil, dropFractionFrom, List.append_nil, List.reverse_reverse] at hread
  exact hread

lemma dropFraction_append {s digits rest : Text} (hs : '.' ∉ s) (hne : digits ≠ [])
    (hdigits : ∀ c ∈ digits, isDecimalDigit c = true) (hrest : Stops isDecimalDigit rest) :
    dropFraction (s ++ '.' :: (digits ++ rest)) = s ++ rest := by
  obtain ⟨c, later, rfl⟩ := List.exists_cons_of_ne_nil hne
  have hc : isDecimalDigit c = true := hdigits c (by simp)
  rw [dropFraction, dropFractionFrom_append hs, dropFractionFrom, if_pos ⟨rfl, by simp [hc]⟩,
    dropWhile_append hdigits hrest]
  simp

lemma expandOffset_append {t : Text} (h : 5 ≤ t.length) (s : Text) :
    expandOffset (s ++ t) = s ++ expandOffset t := by
  have hstart : (s ++ t).length - 5 = s.length + (t.length - 5) := by
    rw [List.length_append]
    omega
  simp only [expandOffset, hstart, List.drop_length_add_append, List.take_length_add_append]
  split
  · split
    · rw [List.append_assoc]
    · rfl
  · rfl

end DateText
end Syslog
