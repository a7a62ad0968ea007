import Syslog.Proofs.DateText.Written

/-!
# Accepted dates

A text that is read as a date is one that could have been written for it: its layout cuts it into
parts, and a part that is read as a number is the only spelling of it in so many places.
-/
namespace Syslog
open Text

namespace DateLayout

section

variable {places later : List Place} {place : Place} {n : ℕ} {part : DatePart}
  {belongs : Option DatePart} {c : Char} {t : Text}

lemma exists_of_append (h : Admits (places ++ later) t) :
    ∃ s u, t = s ++ u ∧ Admits places s ∧ Admits later u := by
  have hfirst := List.forall₂_take places.length h
  have hsecond := List.forall₂_drop places.length h
  rw [List.take_left] at hfirst
  rw [List.drop_left] at hsecond
  exact ⟨_, _, (List.take_append_drop places.length t).symm, hfirst, hsecond⟩

lemma of_admits_replicate (h : Admits (List.replicate n place) t) :
    t.length = n ∧ ∀ c ∈ t, place.kind.admits c = true := by
  induction n generalizing t with
  | zero =>
    obtain rfl := List.forall₂_nil_left_iff.1 h
    exact ⟨rfl, nofun⟩
  | succ n ih =>
    obtain ⟨c, u, hc, hu, rfl⟩ := List.forall₂_cons_left_iff.1 h
    obtain ⟨hlength, hall⟩ := ih hu
    exact ⟨congrArg (· + 1) hlength, List.forall_mem_cons.2 ⟨hc, hall⟩⟩

lemma eq_of_admits_mark (h : Admits [⟨.mark c, belongs⟩] t) : t = [c] := by
  obtain ⟨d, u, hd, hu, rfl⟩ := List.forall₂_cons_left_iff.1 h
  obtain rfl := List.forall₂_nil_left_iff.1 hu
  rw [beq_iff_eq.1 hd]

lemma exists_of_mark (h : Admits (places ++ [⟨.mark c, belongs⟩]) t) :
    ∃ s, t = s ++ [c] ∧ Admits places s := by
  obtain ⟨s, u, rfl, hs, hu⟩ := exists_of_append h
  exact ⟨s, by rw [eq_of_admits_mark hu], hs⟩

lemma exists_of_digits (h : Admits (places ++ digits n part) t) :
    ∃ s u, t = s ++ u ∧ Admits places s ∧ HasDigits n u := by
  obtain ⟨s, u, ht, hs, hu⟩ := exists_of_append h
  exact ⟨s, u, ht, hs, of_admits_replicate hu⟩

lemma exists_of_number (h : Admits (places ++ digits n part ++ [⟨.mark c, belongs⟩]) t) :
    ∃ s u, t = s ++ u ++ [c] ∧ Admits places s ∧ HasDigits n u := by
  obtain ⟨s, rfl, hs⟩ := exists_of_mark h
  obtain ⟨s, u, rfl, hs, hu⟩ := exists_of_digits hs
  exact ⟨s, u, rfl, hs, hu⟩

lemma exists_of_time (h : Admits (places ++ time) t) :
    ∃ s hour minute second, t = s ++ (hour ++ [':'] ++ minute ++ [':'] ++ second) ∧
      Admits places s ∧ HasDigits 2 hour ∧ HasDigits 2 minute ∧ HasDigits 2 second := by
  obtain ⟨s, u, rfl, hs, hu⟩ := exists_of_append h
  obtain ⟨u, second, rfl, hu, hsecond⟩ := exists_of_digits hu
  obtain ⟨u, minute, rfl, hu, hminute⟩ := exists_of_number hu
  obtain ⟨hour, rfl, hhour⟩ := exists_of_mark hu
  exact ⟨s, hour, minute, second, rfl, hs, of_admits_replicate hhour, hminute, hsecond⟩

lemma exists_of_monthDay (h : Admits monthDay t) :
    ∃ month day, t = month ++ [' '] ++ day ++ [' '] ∧ Admits monthName month ∧
      HasDigits 2 day := by
  obtain ⟨u, day, rfl, hu, hday⟩ := exists_of_number h
  obtain ⟨month, rfl, hmonth⟩ := exists_of_mark hu
  exact ⟨month, day, rfl, hmonth, hday⟩

end

end DateLayout

namespace DateStyle
open DateLayout

variable {style : DateStyle} {month year t : Text} {n : ℕ}

/-- A text at the places of a style is a date in that style with a time of day. -/
theorem exists_of_places (h : Admits style.places t) :
    ∃ year month day hour minute second,
      t = style.join year month day ++ (hour ++ [':'] ++ minute ++ [':'] ++ second) ∧
      (style ≠ .named → HasDigits 4 year) ∧ style.HasMonth month ∧
      HasTime day hour minute second := by
  cases style with
  | named =>
    obtain ⟨u, hour, minute, second, rfl, hu, hhour, hminute, hsecond⟩ := exists_of_time h
    obtain ⟨month, day, rfl, hmonth, hday⟩ := exists_of_monthDay hu
    exact ⟨[], month, day, hour, minute, second, rfl, fun hne => absurd rfl hne, hmonth,
      ⟨hday, hhour, hminute, hsecond⟩⟩
  | namedYear =>
    obtain ⟨u, hour, minute, second, rfl, hu, hhour, hminute, hsecond⟩ := exists_of_time h
    obtain ⟨u, year, rfl, hu, hyear⟩ := exists_of_number hu
    obtain ⟨month, day, rfl, hmonth, hday⟩ := exists_of_monthDay hu
    exact ⟨year, month, day, hour, minute, second, rfl, fun _ => hyear, hmonth,
      ⟨hday, hhour, hminute, hsecond⟩⟩
  | numeric =>
    obtain ⟨u, hour, minute, second, rfl, hu, hhour, hminute, hsecond⟩ := exists_of_time h
    obtain ⟨u, year, rfl, hu, hyear⟩ := exists_of_number hu
    obtain ⟨u, day, rfl, hu, hday⟩ := exists_of_number hu
    obtain ⟨month, rfl, hmonth⟩ := exists_of_mark hu
    exact ⟨year, month, day, hour, minute, second, rfl, fun _ => hyear, of_admits_replicate hmonth,
      ⟨hday, hhour, hminute, hsecond⟩⟩
  | iso =>
    obtain ⟨u, hour, minute, second, rfl, hu, hhour, hminute, hsecond⟩ := exists_of_time h
    obtain ⟨u, day, rfl, hu, hday⟩ := exists_of_number hu
    obtain ⟨u, month, rfl, hu, hmonth⟩ := exists_of_number hu
    obtain ⟨year, rfl, hyear⟩ := exists_of_mark hu
    exact ⟨year, month, day, hour, minute, second, rfl, fun _ => of_admits_replicate hyear, hmonth,
      ⟨hday, hhour, hminute, hsecond⟩⟩

lemma not_isDigit_of_monthName (h : Admits monthName month) : ¬ month.all Char.isDigit = true := by
  obtain ⟨c, rest, hc, -, rfl⟩ := List.forall₂_cons_left_iff.1 h
  intro hall
  have hdigit : c.isDigit = true := List.all_eq_true.1 hall c (by simp)
  have hletter := isDecimalDigit_of_isAlpha (isAlpha_of_isUpper hc)
  rw [isDecimalDigit_of_isDigit hdigit] at hletter
  cases hletter

lemma getElem?_of_idxOf? {i : ℕ} (h : monthNames.idxOf? month = some i) :
    monthNames[i]? = some month := by
  obtain ⟨hi, heq, -⟩ := List.findIdx?_eq_some_iff_getElem.1 h
  rw [List.getElem?_eq_getElem hi, eq_of_beq heq]

lemma eq_monthText (hmonth : style.HasMonth month) (h : month? month = some n) :
    month = style.monthText n := by
  rw [month?] at h
  cases style with
  | named | namedYear =>
    rw [if_neg (not_isDigit_of_monthName hmonth)] at h
    obtain ⟨i, hi, rfl⟩ := Option.map_eq_some_iff.1 h
    rw [monthText, Nat.add_sub_cancel, getElem?_of_idxOf? hi, Option.getD_some]
  | numeric | iso =>
    split at h
    · exact (Spells.eq_padded (by decide) ⟨hmonth.1, h⟩).2
    · -- a name has three letters
      obtain ⟨i, hi, rfl⟩ := Option.map_eq_some_iff.1 h
      have hlengths : ∀ name ∈ monthNames, name.length = 3 := by decide
      have hlength := hlengths month (List.mem_of_getElem? (getElem?_of_idxOf? hi))
      rw [hmonth.1] at hlength
      cases hlength

lemma tells_of_reads {now : Moment} {read : ℤ} (hyear : style ≠ .named → HasDigits 4 year)
    (h : style.yearPart year = [] ∧ read = now.localTime.date.year ∨
      ∃ n : ℕ, digits? (style.yearPart year) = some n ∧ read = n) :
    style.Tells now read ∧
      ∀ month day, style.join year month day = style.join (padded 4 read.toNat) month day := by
  cases style with
  | named =>
    obtain ⟨-, hread⟩ | ⟨n, hn, -⟩ := h
    · exact ⟨hread, fun _ _ => rfl⟩
    · cases hn
  | namedYear | numeric | iso =>
    have hdigits := hyear nofun
    obtain ⟨hnil, -⟩ | ⟨n, hn, rfl⟩ := h
    · have hlength := hdigits.1
      rw [show year = [] from hnil] at hlength
      cases hlength
    · obtain ⟨hlt, heq⟩ := Spells.eq_padded (by decide) ⟨hdigits.1, hn⟩
      refine ⟨⟨Int.natCast_nonneg n, by omega⟩, fun month day => ?_⟩
      rw [Int.toNat_natCast, ← heq]

lemma layout?_congr {mark other : OffsetMark} (h : mark.places = other.places) :
    style.layout? mark = style.layout? other := by
  cases style <;> cases mark <;> cases other <;> first | rfl | cases h

lemma exists_of_layout (layout : DateLayout) :
    ∃ style mark, DateStyle.layout? style mark = some layout := by
  cases layout with
  | monthDayTime => exact ⟨.named, .none, rfl⟩
  | monthDayTimeZone => exact ⟨.named, .zone [], rfl⟩
  | monthDayYearTime => exact ⟨.namedYear, .none, rfl⟩
  | monthDayYearTimeZone => exact ⟨.namedYear, .zone [], rfl⟩
  | numeric => exact ⟨.numeric, .none, rfl⟩
  | numericOffset => exact ⟨.numeric, .offset ⟨false, 0, 0⟩, rfl⟩
  | numericZone => exact ⟨.numeric, .zone [], rfl⟩
  | isoOffset => exact ⟨.iso, .offset ⟨false, 0, 0⟩, rfl⟩

end DateStyle

namespace OffsetMark
open DateLayout

variable {t : Text}

lemma exists_of_admits_offset (h : Admits DateLayout.offset t) :
    ∃ c hours minutes, t = c :: (hours ++ ':' :: minutes) ∧ (c = '+' ∨ c = '-') ∧
      HasDigits 2 hours ∧ HasDigits 2 minutes := by
  obtain ⟨u, minutes, rfl, hu, hminutes⟩ := exists_of_digits h
  obtain ⟨u, hours, rfl, hu, hhours⟩ := exists_of_number hu
  obtain ⟨c, rest, hc, hrest, rfl⟩ := List.forall₂_cons_left_iff.1 hu
  obtain rfl := List.forall₂_nil_left_iff.1 hrest
  have hsign : c = '+' ∨ c = '-' := by simpa [PlaceKind.admits] using hc
  exact ⟨c, hours, minutes, by simp, hsign, hhours, hminutes⟩

/-- A text at the places of a mark is a part of its own, and if an offset is read from it, then it
is a mark of that offset. -/
theorem exists_of_places (kind : OffsetMark) (h : Admits kind.places t) :
    ∃ parts, Carries kind.places t parts ∧
      (∀ part, part ≠ .offset → part ≠ .zone → parts part = []) ∧
      ∀ current seconds, DateLayout.spelledOffset? current parts = some seconds →
        ∃ mark : OffsetMark, mark.WellFormed ∧ mark.places = kind.places ∧ mark.text = t ∧
          mark.seconds current = seconds := by
  cases kind with
  | none =>
    obtain rfl := List.forall₂_nil_left_iff.1 h
    refine ⟨fun _ => [], ⟨.nil, fun _ => rfl⟩, fun _ _ _ => rfl, fun current seconds hread => ?_⟩
    exact ⟨none, trivial, rfl, rfl, Option.some.inj hread⟩
  | offset =>
    obtain ⟨c, hours, minutes, rfl, hsign, hhours, hminutes⟩ := exists_of_admits_offset h
    refine ⟨_, carries_offset hsign hhours hminutes, fun _ hoffset _ => only_of_ne hoffset,
      fun current seconds hread => ?_⟩
    obtain ⟨n, m, hn, hm, hday, rfl⟩ := (offset?_eq_some_iff hhours.1).1 hread
    obtain ⟨hnlt, rfl⟩ := Spells.eq_padded (by decide) ⟨hhours.1, hn⟩
    obtain ⟨hmlt, rfl⟩ := Spells.eq_padded (by decide) ⟨hminutes.1, hm⟩
    rcases hsign with rfl | rfl
    · exact ⟨offset ⟨false, n, m⟩, ⟨hnlt, hmlt, hday⟩, rfl, rfl, rfl⟩
    · exact ⟨offset ⟨true, n, m⟩, ⟨hnlt, hmlt, hday⟩, rfl, rfl, rfl⟩
  | zone =>
    obtain ⟨u, abbreviation, rfl, hu, habbreviation⟩ := exists_of_append h
    obtain rfl := eq_of_admits_mark hu
    obtain ⟨hlength, hcapitals⟩ := of_admits_replicate habbreviation
    refine ⟨_, carries_zone hlength hcapitals, fun _ _ hzone => only_of_ne hzone,
      fun current seconds hread => ?_⟩
    obtain ⟨a, b, c, rfl⟩ := List.length_eq_three.1 hlength
    have hoffset : Zone.offset? [a, b, c] = some seconds := hread
    refine ⟨zone [a, b, c], ⟨rfl, Option.isSome_of_eq_some hoffset⟩, rfl, rfl, ?_⟩
    rw [OffsetMark.seconds, hoffset, Option.getD_some]

end OffsetMark

namespace WrittenDate
open DateLayout

variable {now : Moment} {t : Text} {seconds : ℤ}

/-- A text that is read as an instant is that of a well-formed date of the instant. -/
theorem exists_of_seconds? (h : seconds? now t = some seconds) :
    ∃ date : WrittenDate, date.WellFormed now ∧ date.text = t ∧ date.seconds now = seconds := by
  obtain ⟨layout, hlayout, -⟩ := Option.bind_eq_some_iff.1 h
  obtain ⟨style, kind, hstyle⟩ := DateStyle.exists_of_layout layout
  have hadmits : Admits layout.places t := fits_iff_admits.1 (fits_of_ofText? hlayout)
  rw [DateStyle.places_of_layout? hstyle] at hadmits
  obtain ⟨u, v, rfl, hu, hv⟩ := exists_of_append hadmits
  obtain ⟨year, month, day, hour, minute, second, rfl, hyear, hmonth, htime⟩ :=
    DateStyle.exists_of_places hu
  obtain ⟨others, hothers, hnil, hmark⟩ := OffsetMark.exists_of_places kind hv
  have hcarries := (carries_join style hyear hmonth htime).append hothers
  rw [← DateStyle.places_of_layout? hstyle] at hcarries
  obtain ⟨time, offset, hreads, hoffset, -, rfl⟩ := (seconds?_eq_some_iff hcarries).1 h
  obtain ⟨hreadsYear, hreadsMonth, hreadsDay, hreadsHour, hreadsMinute, hreadsSecond, hvalid⟩ :=
    hreads.congr fun part hoffset hzone =>
      (congrArg (_ ++ ·) (hnil part hoffset hzone)).trans (List.append_nil _)
  obtain ⟨mark, hwellFormed, hplaces, rfl, rfl⟩ := hmark now.offset offset hoffset
  obtain ⟨htells, hjoin⟩ := DateStyle.tells_of_reads hyear hreadsYear
  refine ⟨⟨style, time, mark⟩, ⟨?_, hvalid, htells, hwellFormed⟩, ?_, rfl⟩
  · rw [DateStyle.layout?_congr hplaces, hstyle, Option.isSome_some]
  · have htwo : ∀ {s n}, HasDigits 2 s → digits? s = some n → s = padded 2 n := fun hs hn =>
      (Spells.eq_padded (by decide) ⟨hs.1, hn⟩).2
    obtain rfl := DateStyle.eq_monthText hmonth hreadsMonth
    obtain rfl := htwo htime.day hreadsDay
    obtain rfl := htwo htime.hour hreadsHour
    obtain rfl := htwo htime.minute hreadsMinute
    obtain rfl := htwo htime.second hreadsSecond
    rw [hjoin]
    rfl

end WrittenDate
end Syslog
