import Syslog.Proofs.DateText.Spelled

/-!
# Written dates

A date as a sender ought to write it: in one of four styles, with an offset from UTC, a zone or
neither. Eight of the ways to put these together are layouts. The text of a date in a layout is read
as the instant that it was written for. The zones are those of the table, which consist of capitals
and are less than a day from UTC.
-/
namespace Syslog
open Text DateLayout

namespace Zone

lemma exists_mem_table {t : Text} {seconds : ℤ} (h : offset? t = some seconds) :
    ∃ entry ∈ table, entry.1.toList = t ∧ seconds = entry.2 * 60 := by
  obtain ⟨minutes, hlookup, rfl⟩ := Option.map_eq_some_iff.1 h
  obtain ⟨before, after, htable, -⟩ := List.lookup_eq_some_iff.1 hlookup
  exact ⟨_, htable ▸ List.mem_append_right _ List.mem_cons_self, String.toList_ofList, rfl⟩

lemma isUpper_of_mem {t : Text} (h : isAbbreviation t = true) {c : Char} (hc : c ∈ t) :
    c.isUpper = true := by
  have hall : ∀ entry ∈ table, entry.1.toList.all Char.isUpper = true := by decide
  obtain ⟨seconds, hseconds⟩ := Option.isSome_iff_exists.1 h
  obtain ⟨entry, hentry, rfl, -⟩ := exists_mem_table hseconds
  exact List.all_eq_true.1 (hall entry hentry) c hc

lemma natAbs_lt {t : Text} {seconds : ℤ} (h : offset? t = some seconds) :
    seconds.natAbs < 86400 := by
  have hall : ∀ entry ∈ table, (entry.2 * 60).natAbs < 86400 := by decide
  obtain ⟨entry, hentry, -, rfl⟩ := exists_mem_table h
  exact hall entry hentry

end Zone

/-- An offset from UTC in hours and minutes, as it is written after a sign. -/
structure WrittenOffset where
  west : Bool
  hours : ℕ
  minutes : ℕ
  deriving DecidableEq, Repr

namespace WrittenOffset

def sign (offset : WrittenOffset) : Char := if offset.west then '-' else '+'

/-- The text, with a colon between the hours and the minutes or without. -/
def text (offset : WrittenOffset) (colon : Bool) : Text :=
  offset.sign :: (padded 2 offset.hours ++
    ((if colon then [':'] else []) ++ padded 2 offset.minutes))

/-- Seconds east of UTC. -/
def seconds (offset : WrittenOffset) : ℤ :=
  if offset.west then -((offset.hours * 3600 + offset.minutes * 60 : ℕ) : ℤ)
  else (offset.hours * 3600 + offset.minutes * 60 : ℕ)

/-- Two digits each, and less than a day together. -/
def WellFormed (offset : WrittenOffset) : Prop :=
  offset.hours < 100 ∧ offset.minutes < 100 ∧ offset.hours * 3600 + offset.minutes * 60 < 86400

instance (offset : WrittenOffset) : Decidable offset.WellFormed :=
  inferInstanceAs (Decidable (_ ∧ _ ∧ _))

variable {offset : WrittenOffset}

lemma sign_eq (offset : WrittenOffset) : offset.sign = '+' ∨ offset.sign = '-' := by
  rw [sign]
  split
  · exact .inr rfl
  · exact .inl rfl

lemma hasDigits (h : offset.WellFormed) :
    HasDigits 2 (padded 2 offset.hours) ∧ HasDigits 2 (padded 2 offset.minutes) := by
  obtain ⟨hhours, hminutes, -⟩ := h
  exact ⟨(spells_padded (by decide) hhours).hasDigits,
    (spells_padded (by decide) hminutes).hasDigits⟩

lemma carries (h : offset.WellFormed) :
    Carries DateLayout.offset (offset.text true) (only .offset (offset.text true)) :=
  carries_offset offset.sign_eq (hasDigits h).1 (hasDigits h).2

lemma natAbs_seconds_lt (h : offset.WellFormed) : offset.seconds.natAbs < 86400 := by
  have hday := h.2.2
  rw [seconds]
  split <;> omega

lemma offset?_text (h : offset.WellFormed) :
    DateLayout.offset? (offset.text true) = some offset.seconds := by
  obtain ⟨hhours, hminutes, hday⟩ := h
  refine (offset?_eq_some_iff (length_padded (by decide) hhours)).2
    ⟨offset.hours, offset.minutes, digits?_padded .., digits?_padded .., hday, ?_⟩
  rw [seconds, sign]
  cases offset.west <;> rfl

end WrittenOffset

/-- What a date tells of its offset from UTC, after the time of day. -/
inductive OffsetMark where
  | none
  | offset (offset : WrittenOffset)
  | zone (abbreviation : Text)
  deriving DecidableEq, Repr

namespace OffsetMark

def text : OffsetMark → Text
  | none => []
  | offset written => written.text true
  | zone abbreviation => ' ' :: abbreviation

/-- A zone has three letters and is known. -/
def WellFormed : OffsetMark → Prop
  | none => True
  | offset written => written.WellFormed
  | zone abbreviation => abbreviation.length = 3 ∧ Zone.isAbbreviation abbreviation = true

instance : (mark : OffsetMark) → Decidable mark.WellFormed
  | none => inferInstanceAs (Decidable True)
  | offset written => inferInstanceAs (Decidable written.WellFormed)
  | zone abbreviation => inferInstanceAs (Decidable
    (abbreviation.length = 3 ∧ Zone.isAbbreviation abbreviation = true))

/-- Seconds east of UTC, with those of a date that tells no offset. -/
def seconds (current : ℤ) : OffsetMark → ℤ
  | none => current
  | offset written => written.seconds
  | zone abbreviation => (Zone.offset? abbreviation).getD 0

def places : OffsetMark → List Place
  | none => []
  | offset _ => DateLayout.offset
  | zone _ => DateLayout.zone

def part : OffsetMark → DatePart → Text
  | none => fun _ => []
  | offset written => only .offset (written.text true)
  | zone abbreviation => only .zone abbreviation

variable {mark : OffsetMark} {current : ℤ}

lemma carries (h : mark.WellFormed) : Carries mark.places mark.text mark.part := by
  cases mark with
  | none => exact ⟨.nil, fun _ => rfl⟩
  | offset written => exact WrittenOffset.carries h
  | zone abbreviation => exact carries_zone h.1 fun c => Zone.isUpper_of_mem h.2

lemma natAbs_seconds_lt (h : mark.WellFormed) (hcurrent : current.natAbs < 86400) :
    (mark.seconds current).natAbs < 86400 := by
  cases mark with
  | none => exact hcurrent
  | offset written => exact WrittenOffset.natAbs_seconds_lt h
  | zone abbreviation =>
    obtain ⟨seconds, hseconds⟩ := Option.isSome_iff_exists.1 h.2
    rw [OffsetMark.seconds, hseconds]
    exact Zone.natAbs_lt hseconds

lemma part_of_ne {part : DatePart} (hoffset : part ≠ .offset) (hzone : part ≠ .zone) :
    mark.part part = [] := by
  cases mark with
  | none => rfl
  | offset => exact only_of_ne hoffset
  | zone => exact only_of_ne hzone

lemma spelledOffset? (h : mark.WellFormed) :
    DateLayout.spelledOffset? current mark.part = some (mark.seconds current) := by
  cases mark with
  | none => rfl
  | offset written => exact WrittenOffset.offset?_text h
  | zone abbreviation =>
    obtain ⟨c, rest, rfl⟩ := List.exists_cons_of_length_eq_add_one h.1
    obtain ⟨seconds, hseconds⟩ := Option.isSome_iff_exists.1 h.2
    rw [OffsetMark.seconds, hseconds]
    exact hseconds

end OffsetMark

namespace DateStyle

def layout? : DateStyle → OffsetMark → Option DateLayout
  | named, .none => some .monthDayTime
  | named, .zone _ => some .monthDayTimeZone
  | namedYear, .none => some .monthDayYearTime
  | namedYear, .zone _ => some .monthDayYearTimeZone
  | numeric, .none => some .numeric
  | numeric, .offset _ => some .numericOffset
  | numeric, .zone _ => some .numericZone
  | iso, .offset _ => some .isoOffset
  | _, _ => none

lemma places_of_layout? {style : DateStyle} {mark : OffsetMark} {layout : DateLayout}
    (h : style.layout? mark = some layout) : layout.places = style.places ++ mark.places := by
  cases style <;> cases mark <;> cases h <;> rfl

def monthText (month : ℕ) : DateStyle → Text
  | named | namedYear => (monthNames[month - 1]?).getD []
  | numeric | iso => padded 2 month

lemma monthNames_spec : ∀ i < 12, month? ((monthNames[i]?).getD []) = some (i + 1) ∧
    Admits monthName ((monthNames[i]?).getD []) := by
  decide

lemma monthText_spec {month : ℕ} (hlow : 1 ≤ month) (hhigh : month ≤ 12) (style : DateStyle) :
    month? (style.monthText month) = some month ∧ style.HasMonth (style.monthText month) := by
  have hspells : Spells 2 (padded 2 month) month := spells_padded (by decide) (by omega)
  obtain ⟨hnumber, hadmits⟩ := monthNames_spec (month - 1) (by omega)
  rw [Nat.sub_add_cancel hlow] at hnumber
  cases style with
  | named | namedYear => exact ⟨hnumber, hadmits⟩
  | numeric | iso => exact ⟨month?_of_spells hspells, hspells.hasDigits⟩

/-- The year is one that the style can tell, or that of the reference moment. -/
def Tells (now : Moment) (year : ℤ) : DateStyle → Prop
  | named => year = now.localTime.date.year
  | _ => 0 ≤ year ∧ year ≤ 9999

end DateStyle

structure WrittenDate where
  style : DateStyle
  time : LocalTime
  mark : OffsetMark
  deriving DecidableEq, Repr

namespace WrittenDate

def text (date : WrittenDate) : Text :=
  date.style.join (padded 4 date.time.date.year.toNat) (date.style.monthText date.time.date.month)
    (padded 2 date.time.date.day) ++ date.time.timeText ++ date.mark.text

structure WellFormed (now : Moment) (date : WrittenDate) : Prop where
  layout : (date.style.layout? date.mark).isSome = true
  /-- The day exists in the month of the year, and the time in the day. -/
  valid : date.time.isValid = true
  year : date.style.Tells now date.time.date.year
  mark : date.mark.WellFormed

/-- The seconds since the start of 1970 in UTC: the local time without the offset. -/
def seconds (date : WrittenDate) (now : Moment) : ℤ :=
  date.time.toSeconds - date.mark.seconds now.offset

variable {date : WrittenDate} {now : Moment}

lemma hasTime (h : date.time.isValid = true) :
    HasTime (padded 2 date.time.date.day) (padded 2 date.time.hour) (padded 2 date.time.minute)
      (padded 2 date.time.second) := by
  obtain ⟨hdate, hhour, hminute, hsecond⟩ := LocalTime.isValid_iff.1 h
  obtain ⟨-, -, hday⟩ := Date.bounds_of_isValid hdate
  have htwo : ∀ {n}, n < 100 → HasDigits 2 (padded 2 n) := fun hn =>
    (spells_padded (by decide) hn).hasDigits
  exact ⟨htwo (by omega), htwo (by omega), htwo (by omega), htwo (by omega)⟩

lemma readsYear (h : date.style.Tells now date.time.date.year) :
    (date.style.yearPart (padded 4 date.time.date.year.toNat) = [] ∧
      date.time.date.year = now.localTime.date.year) ∨
    ∃ n : ℕ, digits? (date.style.yearPart (padded 4 date.time.date.year.toNat)) = some n ∧
      date.time.date.year = n := by
  cases hstyle : date.style with
  | named =>
    rw [hstyle] at h
    exact .inl ⟨rfl, h⟩
  | namedYear | numeric | iso =>
    rw [hstyle] at h
    exact .inr ⟨_, digits?_padded 4 _, (Int.toNat_of_nonneg h.1).symm⟩

lemma hasYear (h : date.style.Tells now date.time.date.year) (hstyle : date.style ≠ .named) :
    HasDigits 4 (padded 4 date.time.date.year.toNat) := by
  have hhigh : date.time.date.year ≤ 9999 := by
    cases hcase : date.style <;> rw [hcase] at h hstyle
    · contradiction
    all_goals exact h.2
  exact (spells_padded (n := date.time.date.year.toNat) (by decide) (by omega)).hasDigits

/-- The text of a well-formed date is read as its instant. -/
theorem seconds?_text (h : date.WellFormed now) (hlow : -200000 ≤ now.localTime.date.year)
    (hhigh : now.localTime.date.year ≤ 200000) (hoffset : now.offset.natAbs < 86400) :
    seconds? now date.text = some (date.seconds now) := by
  obtain ⟨layout, hlayout⟩ := Option.isSome_iff_exists.1 h.layout
  obtain ⟨⟨hfirst, hlast⟩, -⟩ := Date.bounds_of_isValid (LocalTime.isValid_iff.1 h.valid).1
  obtain ⟨hmonth, hhasMonth⟩ := DateStyle.monthText_spec hfirst hlast date.style
  have hcarries := (carries_join date.style (hasYear h.year) hhasMonth (hasTime h.valid)).append
    (OffsetMark.carries h.mark)
  rw [← DateStyle.places_of_layout? hlayout] at hcarries
  refine (seconds?_eq_some_iff hcarries).2
    ⟨date.time, _, ?_, OffsetMark.spelledOffset? h.mark, ?_, rfl⟩
  · have hreads : ReadsTime now.localTime.date.year date.time (localParts
        (date.style.yearPart (padded 4 date.time.date.year.toNat))
        (date.style.monthText date.time.date.month) (padded 2 date.time.date.day)
        (padded 2 date.time.hour) (padded 2 date.time.minute) (padded 2 date.time.second)) :=
      ⟨readsYear h.year, hmonth, digits?_padded .., digits?_padded .., digits?_padded ..,
        digits?_padded .., h.valid⟩
    refine hreads.congr fun part hoffset hzone => ?_
    rw [OffsetMark.part_of_ne hoffset hzone, List.append_nil]
  · have hyear : -200000 ≤ date.time.date.year ∧ date.time.date.year ≤ 200000 := by
      have hyear := h.year
      cases hstyle : date.style <;> rw [hstyle] at hyear
      · exact hyear ▸ ⟨hlow, hhigh⟩
      all_goals exact ⟨Int.le_trans (by decide) hyear.1, Int.le_trans hyear.2 (by decide)⟩
    exact LocalTime.inCalendar_of_year h.valid hyear.1 hyear.2
      (OffsetMark.natAbs_seconds_lt h.mark hoffset)

end WrittenDate
end Syslog
