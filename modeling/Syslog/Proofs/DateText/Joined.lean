import Syslog.Proofs.DateText.Accepted
import Syslog.Proofs.Grammar.Words

/-!
# Dates joined from parts

A date that is told in parts is joined by hyphens or by blanks, and what it tells of its offset is
put after the time of day. The marks between the parts stand in none of them, so the text can be cut
in one way only, and it has a layout exactly if each part has the form that the layout asks for.
-/
namespace Syslog
open Text DateLayout

lemma Text.cut_unique {p : Char → Bool} {s s' rest rest' : Text} {c c' : Char}
    (hs : ∀ d ∈ s, p d = true) (hs' : ∀ d ∈ s', p d = true) (hc : p c = false) (hc' : p c' = false)
    (h : s ++ c :: rest = s' ++ c' :: rest') : s = s' ∧ c = c' ∧ rest = rest' := by
  obtain ⟨hsame, hrest⟩ := run_unique hs (stops_cons.2 hc) hs' (stops_cons.2 hc') h
  exact ⟨hsame, List.cons.inj hrest⟩

lemma DateLayout.admits_monthName_iff {t : Text} : Admits monthName t ↔
    ∃ a b c : Char, t = [a, b, c] ∧ a.isUpper = true ∧ b.isLower = true ∧ c.isLower = true := by
  constructor
  · intro h
    obtain ⟨a, u, ha, hu, rfl⟩ := List.forall₂_cons_left_iff.1 h
    obtain ⟨b, v, hb, hv, rfl⟩ := List.forall₂_cons_left_iff.1 hu
    obtain ⟨c, w, hc, hw, rfl⟩ := List.forall₂_cons_left_iff.1 hv
    obtain rfl := List.forall₂_nil_left_iff.1 hw
    exact ⟨a, b, c, rfl, ha, hb, hc⟩
  · rintro ⟨a, b, c, rfl, ha, hb, hc⟩
    exact .cons ha (.cons hb (.cons hc .nil))

namespace OffsetMark

variable {kind : OffsetMark} {t : Text}

lemma admits_places_iff : Admits kind.places t ↔
    match kind with
    | none => t = []
    | offset .. => ∃ sign hours minutes, t = sign :: (hours ++ ':' :: minutes) ∧
        (sign = '+' ∨ sign = '-') ∧ HasDigits 2 hours ∧ HasDigits 2 minutes
    | zone _ => ∃ abbreviation, t = ' ' :: abbreviation ∧ abbreviation.length = 3 ∧
        ∀ c ∈ abbreviation, c.isUpper = true := by
  cases kind with
  | none => exact List.forall₂_nil_left_iff
  | offset =>
    constructor
    · exact exists_of_admits_offset
    · rintro ⟨sign, hours, minutes, rfl, hsign, hhours, hminutes⟩
      exact (carries_offset hsign hhours hminutes).admits
  | zone =>
    constructor
    · intro h
      obtain ⟨u, abbreviation, rfl, hu, habbreviation⟩ := exists_of_append h
      obtain rfl := eq_of_admits_mark hu
      exact ⟨abbreviation, rfl, of_admits_replicate habbreviation⟩
    · rintro ⟨abbreviation, rfl, hlength, hcapitals⟩
      exact (carries_zone hlength hcapitals).admits

lemma stops_of_admits (h : Admits kind.places t) : Stops isDecimalDigit t := by
  rw [admits_places_iff] at h
  cases kind with
  | none => exact h ▸ stops_nil
  | offset =>
    obtain ⟨sign, hours, minutes, rfl, rfl | rfl, -⟩ := h
    · exact stops_cons.2 (by decide)
    · exact stops_cons.2 (by decide)
  | zone =>
    obtain ⟨abbreviation, rfl, -⟩ := h
    exact stops_cons.2 (by decide)

end OffsetMark

/-- The texts that are joined to a date. None of them holds a mark that may follow it. -/
@[ext]
structure JoinedDate where
  year : Text
  month : Text
  day : Text
  hour : Text
  minute : Text
  second : Text
  mark : Text

namespace JoinedDate

def text (style : DateStyle) (parts : JoinedDate) : Text :=
  style.join parts.year parts.month parts.day ++
    (parts.hour ++ [':'] ++ parts.minute ++ [':'] ++ parts.second) ++ parts.mark

/-- The month has neither a blank nor a hyphen, the other parts are digits, a year possibly with a
sign, and no digit follows them. -/
structure Separable (parts : JoinedDate) : Prop where
  month : ∀ c ∈ parts.month, c ≠ ' ' ∧ c ≠ '-'
  year : ∀ c ∈ parts.year, isDecimalDigit c = true ∨ c = '-'
  day : ∀ c ∈ parts.day, isDecimalDigit c = true
  hour : ∀ c ∈ parts.hour, isDecimalDigit c = true
  minute : ∀ c ∈ parts.minute, isDecimalDigit c = true
  second : ∀ c ∈ parts.second, isDecimalDigit c = true
  mark : Stops isDecimalDigit parts.mark

/-- Each part has the form that a layout of the style asks for. -/
structure Fits (style : DateStyle) (parts : JoinedDate) : Prop where
  month : style.HasMonth parts.month
  year : HasDigits 4 parts.year
  time : HasTime parts.day parts.hour parts.minute parts.second
  mark : ∃ kind : OffsetMark, (style.layout? kind).isSome = true ∧ Admits kind.places parts.mark

variable {style : DateStyle} {parts : JoinedDate}

theorem Fits.carries (h : parts.Fits style) (hstyle : style = .numeric ∨ style = .namedYear)
    {kind : OffsetMark} {layout : DateLayout} (hlayout : style.layout? kind = some layout)
    {others : DatePart → Text} (hmark : Carries kind.places parts.mark others) :
    Carries layout.places (parts.text style) fun part =>
      localParts parts.year parts.month parts.day parts.hour parts.minute parts.second part ++
        others part := by
  have hyear : style.yearPart parts.year = parts.year := by
    obtain rfl | rfl := hstyle
    · rfl
    · rfl
  have hdate := carries_join style (fun _ => h.year) h.month h.time
  rw [hyear] at hdate
  rw [DateStyle.places_of_layout? hlayout]
  exact hdate.append hmark

lemma Fits.exists_ofText? (h : parts.Fits style) (hstyle : style = .numeric ∨ style = .namedYear) :
    ∃ layout, DateLayout.ofText? (parts.text style) = some layout := by
  obtain ⟨kind, hkind, hmark⟩ := h.mark
  obtain ⟨layout, hlayout⟩ := Option.isSome_iff_exists.1 hkind
  obtain ⟨others, hothers, -⟩ := OffsetMark.exists_of_places kind hmark
  exact ⟨layout, (h.carries hstyle hlayout hothers).ofText?⟩

lemma not_gap_of_isAlpha {c : Char} (h : c.isAlpha = true) : c ≠ ' ' ∧ c ≠ '-' := by
  constructor
  · rintro rfl
    revert h
    decide
  · rintro rfl
    revert h
    decide

lemma not_gap_of_isDecimalDigit {c : Char} (h : isDecimalDigit c = true) : c ≠ ' ' ∧ c ≠ '-' := by
  constructor
  · rintro rfl
    revert h
    decide
  · rintro rfl
    revert h
    decide

lemma Separable.cut_date (h : parts.Separable) {sep sep' sep'' c : Char}
    {first second third rest rest' : Text} (hsep : sep = '-' ∨ sep = ' ')
    (hfirst : ∀ d ∈ first, d ≠ ' ' ∧ d ≠ '-') (hsep' : sep' = '-' ∨ sep' = ' ')
    (hsecond : ∀ d ∈ second, isDecimalDigit d = true) (hsep'' : isDecimalDigit sep'' = false)
    (hthird : ∀ d ∈ third, isDecimalDigit d = true) (hc : isDecimalDigit c = false ∧ c ≠ '-')
    (heq : parts.month ++ sep :: (parts.day ++ sep :: (parts.year ++ ' ' :: rest)) =
      first ++ sep' :: (second ++ sep'' :: (third ++ c :: rest'))) :
    (parts.month = first ∧ parts.day = second ∧ parts.year = third) ∧
      sep = sep' ∧ ' ' = c ∧ rest = rest' := by
  have hgap : ∀ {d : Char}, d = '-' ∨ d = ' ' → (d != ' ' && d != '-') = false := by
    rintro d (rfl | rfl) <;> rfl
  have hdigit : ∀ {d : Char}, d = '-' ∨ d = ' ' → isDecimalDigit d = false := by
    rintro d (rfl | rfl) <;> decide
  obtain ⟨hmonth, hsame, heq⟩ := cut_unique (p := fun d => d != ' ' && d != '-')
    (by simpa using h.month) (by simpa using hfirst) (hgap hsep) (hgap hsep') heq
  obtain ⟨hday, -, heq⟩ := cut_unique h.day hsecond (hdigit hsep) hsep'' heq
  obtain ⟨hyear, hblank, hrest⟩ := cut_unique (p := fun d => isDecimalDigit d || d == '-')
    (by simpa using h.year) (fun d hd => by simp [hthird d hd]) (by decide)
    (by simpa using hc) heq
  exact ⟨⟨hmonth, hday, hyear⟩, hsame, hblank, hrest⟩

lemma Separable.cut_time (h : parts.Separable) {day hour minute second mark : Text}
    (htime : HasTime day hour minute second) (hmark : Stops isDecimalDigit mark)
    (heq : parts.hour ++ ':' :: (parts.minute ++ ':' :: (parts.second ++ parts.mark)) =
      hour ++ ':' :: (minute ++ ':' :: (second ++ mark))) :
    parts.hour = hour ∧ parts.minute = minute ∧ parts.second = second ∧ parts.mark = mark := by
  have hcolon : isDecimalDigit ':' = false := by decide
  obtain ⟨hhour, -, heq⟩ := cut_unique h.hour htime.hour.2 hcolon hcolon heq
  obtain ⟨hminute, -, heq⟩ := cut_unique h.minute htime.minute.2 hcolon hcolon heq
  obtain ⟨hsecond, heq⟩ := run_unique h.second h.mark htime.second.2 hmark heq
  exact ⟨hhour, hminute, hsecond, heq⟩

lemma not_gap_of_hasMonth {month : Text} (h : style.HasMonth month) :
    ∀ c ∈ month, c ≠ ' ' ∧ c ≠ '-' := by
  have hname : Admits monthName month → ∀ c ∈ month, c ≠ ' ' ∧ c ≠ '-' := by
    intro h
    obtain ⟨a, b, c, rfl, ha, hb, hc⟩ := admits_monthName_iff.1 h
    exact List.forall_mem_cons.2 ⟨not_gap_of_isAlpha (isAlpha_of_isUpper ha),
      List.forall_mem_cons.2 ⟨not_gap_of_isAlpha (isAlpha_of_isLower hb),
        List.forall_mem_singleton.2 (not_gap_of_isAlpha (isAlpha_of_isLower hc))⟩⟩
  cases style with
  | named | namedYear => exact hname h
  | numeric | iso => exact fun c hc => not_gap_of_isDecimalDigit (h.2 c hc)

/-- Parts whose text has a layout fit the style that they are joined in. -/
theorem Separable.fits (h : parts.Separable) (hstyle : style = .numeric ∨ style = .namedYear)
    {layout : DateLayout} (hlayout : DateLayout.ofText? (parts.text style) = some layout) :
    parts.Fits style := by
  have hadmits : Admits layout.places (parts.text style) :=
    fits_iff_admits.1 (fits_of_ofText? hlayout)
  obtain ⟨other, kind, hkind⟩ := DateStyle.exists_of_layout layout
  rw [DateStyle.places_of_layout? hkind] at hadmits
  obtain ⟨u, mark, htext, hu, hmark⟩ := exists_of_append hadmits
  obtain ⟨year, month, day, hour, minute, second, rfl, hyear, hmonth, htime⟩ :=
    DateStyle.exists_of_places hu
  obtain ⟨sep, hsep, hjoin⟩ : ∃ sep,
      (style = .numeric ∧ sep = '-' ∨ style = .namedYear ∧ sep = ' ') ∧
      parts.text style = parts.month ++ sep :: (parts.day ++ sep :: (parts.year ++ ' ' ::
        (parts.hour ++ ':' :: (parts.minute ++ ':' :: (parts.second ++ parts.mark))))) := by
    obtain rfl | rfl := hstyle
    · exact ⟨'-', .inl ⟨rfl, rfl⟩, by simp [text, DateStyle.join]⟩
    · exact ⟨' ', .inr ⟨rfl, rfl⟩, by simp [text, DateStyle.join]⟩
  have hgap : sep = '-' ∨ sep = ' ' := hsep.imp And.right And.right
  have hfirst := not_gap_of_hasMonth hmonth
  have hfits : style.HasMonth month → HasDigits 4 year →
      (parts.month = month ∧ parts.day = day ∧ parts.year = year) →
      parts.hour ++ ':' :: (parts.minute ++ ':' :: (parts.second ++ parts.mark)) =
        hour ++ ':' :: (minute ++ ':' :: (second ++ mark)) →
      (style.layout? kind).isSome = true → parts.Fits style := by
    rintro hmonth hyear ⟨hsameMonth, hsameDay, hsameYear⟩ hrest hkind
    obtain ⟨hsameHour, hsameMinute, hsameSecond, hsameMark⟩ :=
      h.cut_time htime (OffsetMark.stops_of_admits hmark) hrest
    exact ⟨hsameMonth ▸ hmonth, hsameYear ▸ hyear,
      ⟨hsameDay ▸ htime.day, hsameHour ▸ htime.hour, hsameMinute ▸ htime.minute,
        hsameSecond ▸ htime.second⟩, ⟨kind, hkind, hsameMark ▸ hmark⟩⟩
  rw [hjoin] at htext
  cases other with
  | named =>
    -- after the day comes the time already
    simp only [DateStyle.join, List.append_assoc, List.cons_append, List.nil_append] at htext
    obtain ⟨-, -, hcolon, -⟩ := h.cut_date hgap hfirst (.inr rfl) htime.day.2 (by decide)
      htime.hour.2 (by decide) htext
    cases hcolon
  | iso =>
    simp only [DateStyle.join, List.append_assoc, List.cons_append, List.nil_append] at htext
    obtain ⟨-, -, hletter, -⟩ := h.cut_date hgap
      (fun c hc => not_gap_of_isDecimalDigit ((hyear nofun).2 c hc)) (.inl rfl) hmonth.2 (by decide)
      htime.day.2 (by decide) htext
    cases hletter
  | namedYear =>
    simp only [DateStyle.join, List.append_assoc, List.cons_append, List.nil_append] at htext
    obtain ⟨hdate, rfl, -, htext⟩ := h.cut_date hgap hfirst (.inr rfl) htime.day.2 (by decide)
      (hyear nofun).2 (by decide) htext
    obtain rfl : style = .namedYear := by simpa using hsep
    exact hfits hmonth (hyear nofun) hdate htext (Option.isSome_of_eq_some hkind)
  | numeric =>
    simp only [DateStyle.join, List.append_assoc, List.cons_append, List.nil_append] at htext
    obtain ⟨hdate, rfl, -, htext⟩ := h.cut_date hgap hfirst (.inl rfl) htime.day.2 (by decide)
      (hyear nofun).2 (by decide) htext
    obtain rfl : style = .numeric := by simpa using hsep
    exact hfits hmonth (hyear nofun) hdate htext (Option.isSome_of_eq_some hkind)

end JoinedDate
end Syslog
