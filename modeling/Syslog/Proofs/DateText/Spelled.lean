import Mathlib.Data.List.Forall2
import Syslog.Proofs.DateText.Layouts

/-!
# Spelled dates

A text carries parts of a date at places of a layout if each place admits its character and the
characters of each part are those given for it. What texts carry adds up when they are put together,
so a date that is put together from the parts of a time reads as that time.
-/
namespace Syslog
open Text

/-- The text consists of so many digits, of any script. -/
def Text.HasDigits (n : ℕ) (t : Text) : Prop := t.length = n ∧ ∀ c ∈ t, isDecimalDigit c = true

instance (n : ℕ) (t : Text) : Decidable (HasDigits n t) :=
  inferInstanceAs (Decidable (t.length = n ∧ ∀ c ∈ t, isDecimalDigit c = true))

lemma Text.Spells.hasDigits {n value : ℕ} {t : Text} (h : Spells n t value) : HasDigits n t :=
  ⟨h.1, fun _ => h.isDecimalDigit_of_mem⟩

lemma Text.HasDigits.notMem {n : ℕ} {t : Text} (h : HasDigits n t) {c : Char}
    (hc : isDecimalDigit c = false) : c ∉ t := fun hmem =>
  Bool.false_ne_true (hc.symm.trans (h.2 c hmem))

lemma Text.HasDigits.exists_two {t : Text} (h : HasDigits 2 t) :
    ∃ a b, t = [a, b] ∧ isDecimalDigit a = true ∧ isDecimalDigit b = true := by
  obtain ⟨a, b, rfl⟩ := List.length_eq_two.1 h.1
  exact ⟨a, b, rfl, h.2 a (by simp), h.2 b (by simp)⟩

namespace DateLayout

abbrev Admits (places : List Place) (t : Text) : Prop :=
  List.Forall₂ (fun place c => place.kind.admits c = true) places t

lemma fits_iff_admits {layout : DateLayout} {t : Text} :
    layout.fits t = true ↔ Admits layout.places t := by
  rw [fits, Bool.and_eq_true, beq_iff_eq, List.all_eq_true, Admits, List.forall₂_iff_zip]
  exact and_congr_right fun _ => ⟨fun h _ _ hmem => h _ hmem, fun h _ hmem => h hmem⟩

/-- A text as one part of a date and nothing as the others. -/
def only (part : DatePart) (t : Text) : DatePart → Text :=
  fun other => if other = part then t else []

structure Carries (places : List Place) (t : Text) (parts : DatePart → Text) : Prop where
  admits : Admits places t
  parts : ∀ part, ((places.zip t).filter fun (place, _) => place.part == some part).map Prod.snd =
    parts part

namespace Carries

lemma append {places later : List Place} {s t : Text} {parts others : DatePart → Text}
    (h : Carries places s parts) (h' : Carries later t others) :
    Carries (places ++ later) (s ++ t) (fun part => parts part ++ others part) := by
  refine ⟨List.rel_append h.admits h'.admits, fun part => ?_⟩
  rw [List.zip_append h.admits.length_eq, List.filter_append, List.map_append, h.parts, h'.parts]

lemma mark (c : Char) : Carries (DateLayout.mark c) [c] (fun _ => []) :=
  ⟨.cons (beq_self_eq_true c) .nil, fun _ => rfl⟩

lemma of_part {places : List Place} {t : Text} (part : DatePart)
    (h : Admits places t) (hpart : ∀ place ∈ places, place.part = some part) :
    Carries places t (only part t) := by
  refine ⟨h, fun other => ?_⟩
  induction h with
  | nil => simp [only]
  | @cons place c places t _ _ ih =>
    have hplace : place.part = some part := hpart place (by simp)
    have hrest := ih fun later hlater => hpart later (by simp [hlater])
    rw [only] at hrest ⊢
    by_cases heq : other = part
    · rw [if_pos heq] at hrest ⊢
      rw [List.zip_cons_cons, List.filter_cons_of_pos (by simp [hplace, heq]), List.map_cons, hrest]
    · rw [if_neg heq] at hrest ⊢
      rw [List.zip_cons_cons, List.filter_cons_of_neg (by simp [hplace, Ne.symm heq]), hrest]

lemma digits {n : ℕ} {t : Text} (part : DatePart) (h : HasDigits n t) :
    Carries (DateLayout.digits n part) t (only part t) := by
  obtain ⟨rfl, hdigits⟩ := h
  refine of_part part ?_ fun place hplace => by rw [List.eq_of_mem_replicate hplace]
  induction t with
  | nil => exact .nil
  | cons c t ih => exact .cons (hdigits c (by simp)) (ih fun d hd => hdigits d (by simp [hd]))

lemma fits {layout : DateLayout} {t : Text} {parts : DatePart → Text}
    (h : Carries layout.places t parts) : layout.fits t = true :=
  fits_iff_admits.2 h.admits

lemma congr {places : List Place} {t : Text} {parts others : DatePart → Text}
    (h : Carries places t parts) (heq : ∀ part, parts part = others part) :
    Carries places t others := funext heq ▸ h

lemma partOf {layout : DateLayout} {t : Text} {parts : DatePart → Text}
    (h : Carries layout.places t parts) (part : DatePart) : layout.partOf part t = parts part :=
  h.parts part

lemma ofText? {layout : DateLayout} {t : Text} {parts : DatePart → Text}
    (h : Carries layout.places t parts) : DateLayout.ofText? t = some layout :=
  ofText?_of_fits h.fits

end Carries

/-- The parts of a text read as those of a time. -/
structure SpelledTime (time : LocalTime) (parts : DatePart → Text) : Prop where
  year : ∃ n : ℕ, Spells 4 (parts .year) n ∧ time.date.year = n
  month : month? (parts .month) = some time.date.month
  day : Spells 2 (parts .day) time.date.day
  hour : Spells 2 (parts .hour) time.hour
  minute : Spells 2 (parts .minute) time.minute
  second : Spells 2 (parts .second) time.second

lemma month?_of_spells {t : Text} {n : ℕ} (h : Spells 2 t n) : month? t = some n := by
  rw [month?, if_pos h.all_isDigit, h.2]

theorem SpelledTime.append {time : LocalTime} {parts others : DatePart → Text}
    (h : SpelledTime time parts)
    (hothers : ∀ part, part ≠ .offset → part ≠ .zone → others part = []) :
    SpelledTime time fun part => parts part ++ others part := by
  have hnil : ∀ part, part ≠ .offset → part ≠ .zone → parts part ++ others part = parts part :=
    fun part hoffset hzone => by rw [hothers part hoffset hzone, List.append_nil]
  constructor
  · simpa only [hnil .year (by decide) (by decide)] using h.year
  · simpa only [hnil .month (by decide) (by decide)] using h.month
  · simpa only [hnil .day (by decide) (by decide)] using h.day
  · simpa only [hnil .hour (by decide) (by decide)] using h.hour
  · simpa only [hnil .minute (by decide) (by decide)] using h.minute
  · simpa only [hnil .second (by decide) (by decide)] using h.second

lemma only_of_ne {part other : DatePart} {t : Text} (h : other ≠ part) : only part t other = [] :=
  if_neg h

/-- The offset that a text tells in a part of its own or by a zone, if it tells any. -/
def spelledOffset? (current : ℤ) (parts : DatePart → Text) : Option ℤ :=
  match parts .offset, parts .zone with
  | [], [] => some current
  | [], zone => Zone.offset? zone
  | offset, _ => offset? offset

/-- The parts of a text are read as those of a valid time, which is one of the current year if they
tell no year. -/
structure ReadsTime (current : ℤ) (time : LocalTime) (parts : DatePart → Text) : Prop where
  year : parts .year = [] ∧ time.date.year = current ∨
    ∃ n : ℕ, digits? (parts .year) = some n ∧ time.date.year = n
  month : month? (parts .month) = some time.date.month
  day : digits? (parts .day) = some time.date.day
  hour : digits? (parts .hour) = some time.hour
  minute : digits? (parts .minute) = some time.minute
  second : digits? (parts .second) = some time.second
  valid : time.isValid = true

lemma SpelledTime.readsTime {time : LocalTime} {parts : DatePart → Text}
    (h : SpelledTime time parts) (hvalid : time.isValid = true) (current : ℤ) :
    ReadsTime current time parts where
  year := by
    obtain ⟨n, hspells, hyear⟩ := h.year
    exact .inr ⟨n, hspells.2, hyear⟩
  month := h.month
  day := h.day.2
  hour := h.hour.2
  minute := h.minute.2
  second := h.second.2
  valid := hvalid

lemma ReadsTime.congr {current : ℤ} {time : LocalTime} {parts others : DatePart → Text}
    (h : ReadsTime current time parts)
    (hsame : ∀ part, part ≠ .offset → part ≠ .zone → parts part = others part) :
    ReadsTime current time others := by
  exact ⟨hsame .year nofun nofun ▸ h.year, hsame .month nofun nofun ▸ h.month,
    hsame .day nofun nofun ▸ h.day, hsame .hour nofun nofun ▸ h.hour,
    hsame .minute nofun nofun ▸ h.minute, hsame .second nofun nofun ▸ h.second, h.valid⟩

variable {layout : DateLayout} {t : Text} {parts : DatePart → Text} {now : Moment}

lemma read_eq_some_iff {year? : Option ℤ} {month? day? hour? minute? second? : Option ℕ}
    {time : LocalTime} :
    (do
      let year ← year?
      let month ← month?
      let day ← day?
      let hour ← hour?
      let minute ← minute?
      let second ← second?
      let read : LocalTime := ⟨⟨year, month, day⟩, hour, minute, second⟩
      if read.isValid then some read else none) = some time ↔
      year? = some time.date.year ∧ month? = some time.date.month ∧ day? = some time.date.day ∧
        hour? = some time.hour ∧ minute? = some time.minute ∧ second? = some time.second ∧
        time.isValid = true := by
  simp only [Option.bind_eq_bind, Option.bind_eq_some_iff, Option.ite_none_right_eq_some,
    Option.some.injEq]
  constructor
  · rintro ⟨year, hyear, month, hmonth, day, hday, hour, hhour, minute, hminute, second, hsecond,
      hvalid, rfl⟩
    exact ⟨hyear, hmonth, hday, hhour, hminute, hsecond, hvalid⟩
  · rintro ⟨hyear, hmonth, hday, hhour, hminute, hsecond, hvalid⟩
    exact ⟨_, hyear, _, hmonth, _, hday, _, hhour, _, hminute, _, hsecond, hvalid, rfl⟩

lemma localTime?_eq_some_iff (h : Carries layout.places t parts) {current : ℤ} {time : LocalTime} :
    layout.localTime? current t = some time ↔ ReadsTime current time parts := by
  simp only [localTime?, h.partOf]
  constructor
  · intro hread
    split at hread
    · next hnil =>
      obtain ⟨hyear, hrest⟩ := read_eq_some_iff.1 hread
      obtain ⟨hmonth, hday, hhour, hminute, hsecond, hvalid⟩ := hrest
      exact ⟨.inl ⟨hnil, (Option.some.inj hyear).symm⟩, hmonth, hday, hhour, hminute, hsecond,
        hvalid⟩
    · obtain ⟨hyear, hrest⟩ := read_eq_some_iff.1 hread
      obtain ⟨hmonth, hday, hhour, hminute, hsecond, hvalid⟩ := hrest
      obtain ⟨n, hn, hyear⟩ := Option.map_eq_some_iff.1 hyear
      exact ⟨.inr ⟨n, hn, hyear.symm⟩, hmonth, hday, hhour, hminute, hsecond, hvalid⟩
  · rintro ⟨hyear, hmonth, hday, hhour, hminute, hsecond, hvalid⟩
    split
    · next hnil =>
      rcases hyear with ⟨-, hyear⟩ | ⟨n, hn, -⟩
      · exact read_eq_some_iff.2
          ⟨congrArg some hyear.symm, hmonth, hday, hhour, hminute, hsecond, hvalid⟩
      · rw [hnil] at hn
        cases hn
    · next hne =>
      rcases hyear with ⟨hnil, -⟩ | ⟨n, hn, hyear⟩
      · exact absurd hnil hne
      · refine read_eq_some_iff.2 ⟨?_, hmonth, hday, hhour, hminute, hsecond, hvalid⟩
        rw [hn, hyear]
        rfl

/-- The instants of a text that fits a layout are those of the times and offsets that its parts read
as. -/
theorem seconds?_eq_some_iff (h : Carries layout.places t parts) {seconds : ℤ} :
    seconds? now t = some seconds ↔ ∃ time offset,
      ReadsTime now.localTime.date.year time parts ∧
      spelledOffset? now.offset parts = some offset ∧
      LocalTime.inCalendar (time.toSeconds - offset) = true ∧
      seconds = time.toSeconds - offset := by
  have hoffsetOf : layout.offsetOf? now.offset t = spelledOffset? now.offset parts := by
    rw [offsetOf?, h.partOf, h.partOf]
    rfl
  rw [seconds?, h.ofText?]
  simp only [Option.bind_eq_bind, Option.bind_some, hoffsetOf, Option.bind_eq_some_iff,
    localTime?_eq_some_iff h, Option.ite_none_right_eq_some, Option.some.injEq]
  constructor
  · rintro ⟨time, htime, offset, hoffset, hcalendar, rfl⟩
    exact ⟨time, offset, htime, hoffset, hcalendar, rfl⟩
  · rintro ⟨time, offset, htime, hoffset, hcalendar, rfl⟩
    exact ⟨time, htime, offset, hoffset, hcalendar, rfl⟩

/-- Texts that carry the same parts are read as the same instant, whatever their layouts. -/
theorem seconds?_congr {other : DateLayout} {u : Text} (h : Carries layout.places t parts)
    (h' : Carries other.places u parts) : seconds? now t = seconds? now u :=
  Option.ext fun _ => (seconds?_eq_some_iff h).trans (seconds?_eq_some_iff h').symm

theorem seconds?_of_carries {time : LocalTime} {offset : ℤ} (h : Carries layout.places t parts)
    (hspelled : SpelledTime time parts) (hoffset : spelledOffset? now.offset parts = some offset)
    (hvalid : time.isValid = true)
    (hcalendar : LocalTime.inCalendar (time.toSeconds - offset) = true) :
    seconds? now t = some (time.toSeconds - offset) :=
  (seconds?_eq_some_iff h).2
    ⟨time, offset, hspelled.readsTime hvalid _, hoffset, hcalendar, rfl⟩

def localParts (year month day hour minute second : Text) : DatePart → Text
  | .year => year
  | .month => month
  | .day => day
  | .hour => hour
  | .minute => minute
  | .second => second
  | .offset | .zone => []

structure HasTime (day hour minute second : Text) : Prop where
  day : HasDigits 2 day
  hour : HasDigits 2 hour
  minute : HasDigits 2 minute
  second : HasDigits 2 second

end DateLayout

/-- How a date stands before the time of day. -/
inductive DateStyle where
  /-- The name of the month and the day. -/
  | named
  | namedYear
  | numeric
  | iso
  deriving DecidableEq, Repr

namespace DateStyle
open DateLayout

def places : DateStyle → List Place
  | named => monthDay ++ time
  | namedYear => monthDay ++ digits 4 .year ++ mark ' ' ++ time
  | numeric => numericDate ++ time
  | iso =>
    digits 4 .year ++ mark '-' ++ digits 2 .month ++ mark '-' ++ digits 2 .day ++ mark 'T' ++ time

/-- A date in the style, up to the time of day. -/
def join (year month day : Text) : DateStyle → Text
  | named => month ++ [' '] ++ day ++ [' ']
  | namedYear => month ++ [' '] ++ day ++ [' '] ++ year ++ [' ']
  | numeric => month ++ ['-'] ++ day ++ ['-'] ++ year ++ [' ']
  | iso => year ++ ['-'] ++ month ++ ['-'] ++ day ++ ['T']

def yearPart (year : Text) : DateStyle → Text
  | named => []
  | _ => year

/-- The text stands for a month at the places of the style, whatever month it is. -/
def HasMonth (month : Text) : DateStyle → Prop
  | named | namedYear => Admits monthName month
  | numeric | iso => HasDigits 2 month

end DateStyle

namespace DateLayout

variable {time : LocalTime} {year month day hour minute second : Text}

lemma carries_time (h : HasTime day hour minute second) :
    Carries DateLayout.time (hour ++ [':'] ++ minute ++ [':'] ++ second)
      (localParts [] [] [] hour minute second) := by
  have hcarries := (((Carries.digits .hour h.hour).append (.mark ':')).append
    (Carries.digits .minute h.minute)).append (.mark ':') |>.append
    (Carries.digits .second h.second)
  exact hcarries.congr fun part => by cases part <;> simp [only, localParts]

lemma carries_monthDay (hmonth : DateStyle.named.HasMonth month)
    (h : HasTime day hour minute second) :
    Carries monthDay (month ++ [' '] ++ day ++ [' ']) (localParts [] month day [] [] []) := by
  have hname : Carries monthName month (only .month month) := .of_part _ hmonth (by decide)
  have hcarries :=
    ((hname.append (.mark ' ')).append (Carries.digits .day h.day)).append (.mark ' ')
  exact hcarries.congr fun part => by cases part <;> simp [only, localParts]

theorem carries_join (style : DateStyle) (hyear : style ≠ .named → HasDigits 4 year)
    (hmonth : style.HasMonth month) (h : HasTime day hour minute second) :
    Carries style.places
      (style.join year month day ++ (hour ++ [':'] ++ minute ++ [':'] ++ second))
      (localParts (style.yearPart year) month day hour minute second) := by
  have htime := carries_time h
  cases style with
  | named =>
    exact ((carries_monthDay hmonth h).append htime).congr fun part => by
      cases part <;> simp [localParts, DateStyle.yearPart]
  | namedYear =>
    have hcarries := ((carries_monthDay hmonth h).append
      (Carries.digits .year (hyear nofun))).append (.mark ' ') |>.append htime
    exact hcarries.congr fun part => by cases part <;> simp [only, localParts, DateStyle.yearPart]
  | numeric =>
    have hcarries := (((Carries.digits .month hmonth).append (.mark '-')).append
      (Carries.digits .day h.day)).append (.mark '-') |>.append
      (Carries.digits .year (hyear nofun)) |>.append (.mark ' ') |>.append htime
    exact hcarries.congr fun part => by cases part <;> simp [only, localParts, DateStyle.yearPart]
  | iso =>
    have hcarries := (((Carries.digits .year (hyear nofun)).append (.mark '-')).append
      (Carries.digits .month hmonth)).append (.mark '-') |>.append
      (Carries.digits .day h.day) |>.append (.mark 'T') |>.append htime
    exact hcarries.congr fun part => by cases part <;> simp [only, localParts, DateStyle.yearPart]

lemma SpelledTime.hasTime (h : SpelledTime time (localParts year month day hour minute second)) :
    HasTime day hour minute second :=
  ⟨h.day.hasDigits, h.hour.hasDigits, h.minute.hasDigits, h.second.hasDigits⟩

lemma SpelledTime.hasYear (h : SpelledTime time (localParts year month day hour minute second)) :
    HasDigits 4 year := by
  obtain ⟨n, hyear, -⟩ := h.year
  exact hyear.hasDigits

lemma carries_numeric (h : SpelledTime time (localParts year month day hour minute second))
    (hmonth : Spells 2 month time.date.month) :
    Carries (numericDate ++ DateLayout.time) (month ++ ['-'] ++ day ++ ['-'] ++ year ++ [' '] ++
      (hour ++ [':'] ++ minute ++ [':'] ++ second))
      (localParts year month day hour minute second) :=
  carries_join .numeric (fun _ => h.hasYear) hmonth.hasDigits h.hasTime

lemma carries_named (h : SpelledTime time (localParts year month day hour minute second))
    (hmonth : Admits monthName month) :
    Carries (monthDay ++ digits 4 .year ++ mark ' ' ++ DateLayout.time)
      (month ++ [' '] ++ day ++ [' '] ++ year ++ [' '] ++
        (hour ++ [':'] ++ minute ++ [':'] ++ second))
      (localParts year month day hour minute second) :=
  carries_join .namedYear (fun _ => h.hasYear) hmonth h.hasTime

lemma carries_iso (h : SpelledTime time (localParts year month day hour minute second))
    (hmonth : Spells 2 month time.date.month) :
    Carries (digits 4 .year ++ mark '-' ++ digits 2 .month ++ mark '-' ++ digits 2 .day ++
      mark 'T' ++ DateLayout.time) (year ++ ['-'] ++ month ++ ['-'] ++ day ++ ['T'] ++
      (hour ++ [':'] ++ minute ++ [':'] ++ second))
      (localParts year month day hour minute second) :=
  carries_join .iso (fun _ => h.hasYear) hmonth.hasDigits h.hasTime

lemma carries_zone {abbreviation : Text} (hlength : abbreviation.length = 3)
    (hcapitals : ∀ c ∈ abbreviation, c.isUpper = true) :
    Carries zone (' ' :: abbreviation) (only .zone abbreviation) := by
  obtain ⟨a, b, c, rfl⟩ := List.length_eq_three.1 hlength
  refine ((Carries.mark ' ').append (.of_part .zone ?_ ?_)).congr fun _ => List.nil_append _
  · exact .cons (hcapitals a (by simp)) (.cons (hcapitals b (by simp))
      (.cons (hcapitals c (by simp)) .nil))
  · exact fun place hplace => by rw [List.eq_of_mem_replicate hplace]

lemma carries_offset {sign : Char} {hours minutes : Text} (hsign : sign = '+' ∨ sign = '-')
    (hhours : HasDigits 2 hours) (hminutes : HasDigits 2 minutes) :
    Carries offset (sign :: (hours ++ ':' :: minutes))
      (only .offset (sign :: (hours ++ ':' :: minutes))) := by
  have hfirst : Carries [⟨.sign, some .offset⟩] [sign] (only .offset [sign]) :=
    .of_part _ (.cons (by rcases hsign with rfl | rfl <;> rfl) .nil) (by simp)
  have hcolon : Carries [⟨.mark ':', some .offset⟩] [':'] (only .offset [':']) :=
    .of_part _ (.cons rfl .nil) (by simp)
  have hcarries := ((hfirst.append (Carries.digits .offset hhours)).append
    hcolon).append (Carries.digits .offset hminutes)
  have htext : [sign] ++ hours ++ [':'] ++ minutes = sign :: (hours ++ ':' :: minutes) := by simp
  rw [htext] at hcarries
  exact hcarries.congr fun part => by cases part <;> simp [only]

lemma offset?_eq_some_iff {sign : Char} {hours minutes : Text} {seconds : ℤ}
    (hhours : hours.length = 2) :
    offset? (sign :: (hours ++ ':' :: minutes)) = some seconds ↔
      ∃ h m : ℕ, digits? hours = some h ∧ digits? minutes = some m ∧
        h * 3600 + m * 60 < 86400 ∧
        seconds =
          if sign = '-' then -((h * 3600 + m * 60 : ℕ) : ℤ) else (h * 3600 + m * 60 : ℕ) := by
  have htake : ((sign :: (hours ++ ':' :: minutes)).drop 1).take 2 = hours := by
    rw [List.drop_one, List.tail_cons, ← hhours, List.take_left]
  have hdrop : (sign :: (hours ++ ':' :: minutes)).drop 4 = minutes := by
    rw [List.drop_succ_cons, show 3 = hours.length + 1 by rw [hhours], List.drop_append]
    simp
  simp only [offset?, htake, hdrop, Option.bind_eq_bind, Option.bind_eq_some_iff,
    Option.ite_none_left_eq_some, Nat.not_le, List.head?_cons, Option.some.injEq]
  constructor
  · rintro ⟨h, hh, m, hm, hday, rfl⟩
    exact ⟨h, m, hh, hm, hday, rfl⟩
  · rintro ⟨h, m, hh, hm, hday, rfl⟩
    exact ⟨h, hh, m, hm, hday, rfl⟩

theorem spells_padded_month {time : LocalTime} (h : time.isValid = true) :
    Spells 2 (padded 2 time.date.month) time.date.month := by
  obtain ⟨⟨-, hmonth⟩, -⟩ := Date.bounds_of_isValid (LocalTime.isValid_iff.1 h).1
  exact spells_padded (by decide) (by omega)

lemma spelledTime_padded {time : LocalTime} (h : time.isValid = true)
    (hlow : 0 ≤ time.date.year) (hhigh : time.date.year ≤ 9999) :
    SpelledTime time (localParts (padded 4 time.date.year.toNat) (padded 2 time.date.month)
      (padded 2 time.date.day) (padded 2 time.hour) (padded 2 time.minute)
      (padded 2 time.second)) := by
  obtain ⟨hdate, hhour, hminute, hsecond⟩ := LocalTime.isValid_iff.1 h
  obtain ⟨-, -, hday⟩ := Date.bounds_of_isValid hdate
  have htwo : ∀ {n}, n < 100 → Spells 2 (padded 2 n) n := fun hn => spells_padded (by decide) hn
  exact ⟨⟨time.date.year.toNat, spells_padded (by decide) (by omega), by omega⟩,
    month?_of_spells (spells_padded_month h), htwo (by omega), htwo (by omega), htwo (by omega),
    htwo (by omega)⟩

end DateLayout
end Syslog
