import Syslog.Proofs.Message.StructuredReading
import Syslog.Proofs.Message.TaggedDelivery

/-!
# Tagged lines

A line with a priority, a time, a host, the tag of a program and a body may have the number of a
process after the tag. The time has the name of a month or is in numbers. A line whose time has the
name of a month is a tagged message; what ends the line does not count.
-/
namespace Syslog
open Text

structure NamedTime where
  month : ℕ
  /-- The month as it is written. -/
  monthName : Text
  day : ℕ
  /-- The day as it is written. -/
  dayDigits : Text
  hour : ℕ
  minute : ℕ
  second : ℕ
  addition : DateAddition
  deriving DecidableEq, Repr

namespace NamedTime

def yearText (time : NamedTime) : Text :=
  match time.addition with
  | .year number => ' ' :: padded 4 number
  | _ => []

def zoneText (time : NamedTime) : Text :=
  match time.addition with
  | .zone abbreviation => ' ' :: abbreviation
  | _ => []

def text (time : NamedTime) : Text :=
  time.monthName ++ ' ' :: (time.dayDigits ++ (time.yearText ++ ' ' ::
    (padded 2 time.hour ++ ':' :: (padded 2 time.minute ++ ':' :: (padded 2 time.second ++
      time.zoneText)))))

@[mk_iff]
structure WellFormed (time : NamedTime) : Prop where
  month : NamesMonth time.monthName time.month
  day : Spells 1 time.dayDigits time.day ∨ Spells 2 time.dayDigits time.day
  addition : time.addition.WellFormed

instance (time : NamedTime) : Decidable time.WellFormed := decidable_of_iff' _ (wellFormed_iff time)

end NamedTime

structure IsoTime where
  time : LocalTime
  /-- The digits after the point, if there is one. -/
  fraction : Option Text
  zone : Option ZoneMark
  deriving DecidableEq, Repr

namespace IsoTime

def fractionText (time : IsoTime) : Text :=
  match time.fraction with
  | none => []
  | some digits => '.' :: digits

def zoneText (time : IsoTime) : Text :=
  match time.zone with
  | none => []
  | some zone => zone.text

def text (time : IsoTime) : Text := time.time.text ++ (time.fractionText ++ time.zoneText)

@[mk_iff]
structure WellFormed (time : IsoTime) : Prop where
  year : 0 ≤ time.time.date.year ∧ time.time.date.year ≤ 9999
  fraction : ∀ digits ∈ time.fraction, digits ≠ [] ∧ ∀ c ∈ digits, isDecimalDigit c = true
  zone : ∀ zone ∈ time.zone, zone.WellFormed

instance (time : IsoTime) : Decidable time.WellFormed := decidable_of_iff' _ (wellFormed_iff time)

/-- The instant in whole seconds, by the zone of the time or else by the clock. -/
def instant (time : IsoTime) (now : Moment) : Instant :=
  (time.time.toSeconds - (time.zone.map ZoneMark.seconds).getD now.offset) * 1000

end IsoTime

def IsTimeCharacter (c : Char) : Prop :=
  c.isAlpha = true ∨ isDecimalDigit c = true ∨ c ∈ [':', '-', '.', '+']

lemma isTimeCharacter_padded {width n : ℕ} : ∀ c ∈ padded width n, IsTimeCharacter c :=
  fun _ hc => .inr (.inl (isDecimalDigit_of_isDigit (isDigit_of_mem_padded hc)))

lemma isBlank_of_isTimeCharacter {c : Char} (h : IsTimeCharacter c) : isBlank c = false := by
  rcases h with hletter | hdigit | hmark
  · exact isBlank_of_isAlphanum (isAlphanum_of_isAlpha hletter)
  · exact isBlank_of_isDecimalDigit hdigit
  · have hmarks : ∀ c ∈ [':', '-', '.', '+'], isBlank c = false := by decide
    exact hmarks c hmark

lemma NamedTime.isTimeCharacter {time : NamedTime} (h : time.WellFormed) :
    ∀ c ∈ time.text, c = ' ' ∨ IsTimeCharacter c := by
  have hnumber : ∀ {width n}, ∀ c ∈ padded width n, c = ' ' ∨ IsTimeCharacter c :=
    fun c hc => .inr (isTimeCharacter_padded c hc)
  have hmonth : ∀ c ∈ time.monthName, c = ' ' ∨ IsTimeCharacter c := fun c hc =>
    .inr (.inl (h.month.isAlpha hc))
  have hday : ∀ c ∈ time.dayDigits, c = ' ' ∨ IsTimeCharacter c := by
    rcases h.day with hday | hday
    all_goals exact fun c hc => .inr (.inr (.inl (hday.isDecimalDigit_of_mem hc)))
  have hcolon : ':' = ' ' ∨ IsTimeCharacter ':' := .inr (.inr (.inr (by simp)))
  have hyear : ∀ c ∈ time.yearText, c = ' ' ∨ IsTimeCharacter c := by
    rw [yearText]
    split
    · exact List.forall_mem_cons.2 ⟨.inl rfl, hnumber⟩
    · simp
  have hzone : ∀ c ∈ time.zoneText, c = ' ' ∨ IsTimeCharacter c := by
    have haddition := h.addition
    rw [zoneText]
    split
    · next hcase =>
      rw [hcase] at haddition
      exact List.forall_mem_cons.2 ⟨.inl rfl, fun c hc =>
        .inr (.inl (isAlpha_of_isUpper (Zone.isUpper_of_mem haddition.2 hc)))⟩
    · simp
  simp only [text, List.forall_mem_append, List.forall_mem_cons]
  exact ⟨hmonth, .inl trivial, hday, hyear, .inl trivial, hnumber, hcolon, hnumber, hcolon, hnumber,
    hzone⟩

lemma ZoneMark.isTimeCharacter (zone : ZoneMark) : ∀ c ∈ zone.text, IsTimeCharacter c := by
  have hcolon : IsTimeCharacter ':' := .inr (.inr (by simp))
  cases zone with
  | zulu =>
    rw [text]
    exact List.forall_mem_singleton.2 (.inl (by decide))
  | offset written colon =>
    have hsign : IsTimeCharacter written.sign := by
      rcases written.sign_eq with hsign | hsign <;> rw [hsign]
      all_goals exact .inr (.inr (by decide))
    simp only [text, WrittenOffset.text, List.forall_mem_append, List.forall_mem_cons]
    refine ⟨hsign, isTimeCharacter_padded, ?_, isTimeCharacter_padded⟩
    cases colon <;> simp [hcolon]

lemma IsoTime.isTimeCharacter {time : IsoTime} (h : time.WellFormed) :
    ∀ c ∈ time.text, IsTimeCharacter c := by
  have hmark : ∀ c ∈ [':', '-', '.', '+'], IsTimeCharacter c := fun c hc => .inr (.inr hc)
  have hfraction : ∀ c ∈ time.fractionText, IsTimeCharacter c := by
    rw [fractionText]
    split
    · simp
    · next digits hdigits =>
      exact List.forall_mem_cons.2 ⟨hmark '.' (by simp), fun c hc =>
        .inr (.inl ((h.fraction digits hdigits).2 c hc))⟩
  have hzone : ∀ c ∈ time.zoneText, IsTimeCharacter c := by
    rw [zoneText]
    split
    · simp
    · next zone _ => exact zone.isTimeCharacter
  rw [text, LocalTime.text_append h.year.1 h.year.2]
  simp only [List.forall_mem_append, List.forall_mem_cons]
  exact ⟨isTimeCharacter_padded, hmark '-' (by simp), isTimeCharacter_padded, hmark '-' (by simp),
    isTimeCharacter_padded, .inl (by decide), isTimeCharacter_padded, hmark ':' (by simp),
    isTimeCharacter_padded, hmark ':' (by simp), isTimeCharacter_padded, hfraction, hzone⟩

inductive Header where
  | named (time : NamedTime)
  | iso (time : IsoTime)
  deriving DecidableEq, Repr

namespace Header

def text : Header → Text
  | named time => time.text
  | iso time => time.text

def WellFormed : Header → Prop
  | named time => time.WellFormed
  | iso time => time.WellFormed

instance : (header : Header) → Decidable header.WellFormed
  | named time => inferInstanceAs (Decidable time.WellFormed)
  | iso time => inferInstanceAs (Decidable time.WellFormed)

lemma isTimeCharacter {header : Header} (h : header.WellFormed) :
    ∀ c ∈ header.text, c = ' ' ∨ IsTimeCharacter c := by
  cases header with
  | named time => exact NamedTime.isTimeCharacter h
  | iso time => exact fun c hc => .inr (IsoTime.isTimeCharacter h c hc)

/-- The headers for which there is a form with the number of a process: a month and no zone. -/
def takesNumber : Header → Bool
  | named time => !time.addition.isZone
  | iso _ => false

end Header

structure TaggedLine where
  priority : Priority
  header : Header
  hostname : Text
  tag : Text
  body : Text
  deriving DecidableEq, Repr

def tagWord (tag : Text) : Option Text → Text
  | none => tag ++ [':']
  | some digits => tag ++ '[' :: (digits ++ [']', ':'])

namespace TaggedLine

def rest (line : TaggedLine) (number : Option Text) : Text :=
  line.header.text ++ ' ' :: (line.hostname ++ ' ' :: (tagWord line.tag number ++ ' ' :: line.body))

def text (line : TaggedLine) (number : Option Text) : Text :=
  '<' :: (ofNat line.priority.encode ++ '>' :: line.rest number)

def trimmed (line : TaggedLine) : TaggedLine :=
  { line with body := trimEnd Collector.isLineEnd line.body }

def message (line : TaggedLine) (time : NamedTime) (number : Option Text) : TaggedMessage where
  priority := line.priority
  month := time.month
  monthName := time.monthName
  day := time.day
  dayDigits := time.dayDigits
  hour := time.hour
  minute := time.minute
  second := time.second
  addition := time.addition
  hostname := line.hostname
  tag := line.tag
  processId := number
  body := line.body

def IsDated (line : TaggedLine) (now : Moment) : Prop :=
  match line.header with
  | .named time => ((line.message time none).time now).isValid = true
  | .iso time => time.time.isValid = true

def instant (line : TaggedLine) (now : Moment) : Instant :=
  match line.header with
  | .named time => (line.message time none).instant now
  | .iso time => time.instant now

/-- A line that may be sent with and without the number of a process. -/
@[mk_iff]
structure WellFormed (line : TaggedLine) (digits : Text) : Prop where
  header : line.header.WellFormed
  hostname : HostName.isValid line.hostname = true
  tag : (∀ c ∈ line.tag, TaggedMessage.isTagCharacter c = true) ∧
    processNameFault? line.tag = none
  unmarked : Fields.Unmarked line.hostname ∧ Fields.Unmarked line.tag
  number : digits ≠ [] ∧ (∀ c ∈ digits, c.isDigit = true) ∧
    Nat.ofDigitChars 10 digits 0 < half64
  body : line.body ≠ [] ∧ Stops isBlank line.body
  free : ¬ SourceMarker.marker <:+: line.body
  fits : ∀ number ∈ [none, some digits], byteLength (line.text number) ≤ maxDatagram

instance (line : TaggedLine) (digits : Text) : Decidable (line.WellFormed digits) :=
  decidable_of_iff' _ (wellFormed_iff line digits)

variable {line : TaggedLine} {digits : Text} {number : Option Text}

lemma WellFormed.named (h : line.WellFormed digits) {time : NamedTime}
    (hheader : line.header = .named time) : time.WellFormed := by
  have htime := h.header
  rw [hheader] at htime
  exact htime

lemma WellFormed.iso (h : line.WellFormed digits) {time : IsoTime}
    (hheader : line.header = .iso time) : time.WellFormed := by
  have htime := h.header
  rw [hheader] at htime
  exact htime

def head (line : TaggedLine) (number : Option Text) : Text :=
  '<' :: (ofNat line.priority.encode ++ '>' :: (line.header.text ++ ' ' ::
    (line.hostname ++ ' ' :: tagWord line.tag number)))

lemma text_eq (line : TaggedLine) (number : Option Text) :
    line.text number = line.head number ++ ' ' :: line.body := by
  simp [text, head, rest]

lemma equals_notMem_tagWord (h : line.WellFormed digits) (hnumber : number ∈ [none, some digits]) :
    '=' ∉ tagWord line.tag number := by
  have htag : '=' ∉ line.tag := fun hmem => absurd (h.tag.1 _ hmem) (by decide)
  have hdigits : '=' ∉ digits := fun hmem => absurd (h.number.2.1 _ hmem) (by decide)
  rcases List.mem_pair.1 hnumber with rfl | rfl <;> simp [tagWord, htag, hdigits]

theorem free_text (h : line.WellFormed digits) (hnumber : number ∈ [none, some digits]) :
    ¬ SourceMarker.marker <:+: line.text number := by
  rw [text_eq]
  refine SourceMarker.free_append ?_ h.free
  have hcode : '=' ∉ ofNat line.priority.encode := fun hmem =>
    absurd (isDigit_of_mem_ofNat hmem) (by decide)
  have hheader : '=' ∉ line.header.text := fun hmem =>
    absurd (Header.isTimeCharacter h.header _ hmem)
      (by simp [IsTimeCharacter, show isDecimalDigit '=' = false by decide])
  have hhost : '=' ∉ line.hostname := fun hmem =>
    absurd (HostName.isCharacter_of_isValid h.hostname hmem) (by simp [HostName.IsCharacter])
  simp [head, hcode, hheader, hhost, equals_notMem_tagWord h hnumber]

lemma trimmed_body_ne_nil (h : line.WellFormed digits) : line.trimmed.body ≠ [] := by
  obtain ⟨c, body, hbody⟩ := List.exists_cons_of_ne_nil h.body.1
  have hblank : isBlank c = false := stops_cons.1 (hbody ▸ h.body.2)
  have hend : Collector.isLineEnd c = false := by
    cases hc : Collector.isLineEnd c with
    | false => rfl
    | true =>
      simp only [Collector.isLineEnd, Bool.or_eq_true, beq_iff_eq] at hc
      rcases hc with rfl | rfl <;> cases hblank
  rw [trimmed, hbody]
  exact trimEnd_ne_nil hend

lemma text_trimmed (h : line.WellFormed digits) (number : Option Text) :
    line.trimmed.text number = trimEnd Collector.isLineEnd (line.text number) := by
  have hbody : trimEnd Collector.isLineEnd line.body ≠ [] := trimmed_body_ne_nil h
  rw [text_eq line, show line.head number ++ ' ' :: line.body =
    (line.head number ++ [' ']) ++ line.body by simp, trimEnd_append hbody, text_eq]
  simp [trimmed, head]

lemma WellFormed.trimmed (h : line.WellFormed digits) : line.trimmed.WellFormed digits := by
  have hne : trimEnd Collector.isLineEnd line.body ≠ [] := trimmed_body_ne_nil h
  have hstart := trimEnd_isPrefix Collector.isLineEnd line.body
  have hfits : ∀ number ∈ [none, some digits],
      byteLength (line.trimmed.text number) ≤ maxDatagram := fun number hnumber => by
    rw [text_trimmed h]
    exact (deliverable_trimEnd (free_text h hnumber) (h.fits number hnumber)).fits
  have hbody : Stops isBlank (trimEnd Collector.isLineEnd line.body) := by
    obtain ⟨c, later, hlater⟩ := List.exists_cons_of_ne_nil hne
    obtain ⟨rest, hrest⟩ := hstart
    rw [hlater] at hrest ⊢
    exact stops_cons.2 (h.body.2 c (by simp [← hrest]))
  exact ⟨h.header, h.hostname, h.tag, h.unmarked, h.number, ⟨hne, hbody⟩,
    fun hmarker => h.free (hmarker.trans hstart.isInfix), hfits⟩

lemma deliverable_trimmed (h : line.WellFormed digits) (hnumber : number ∈ [none, some digits]) :
    Deliverable (line.trimmed.text number) := by
  rw [text_trimmed h]
  exact deliverable_trimEnd (free_text h hnumber) (h.fits number hnumber)

theorem collect_trimmed (h : line.WellFormed digits) (hnumber : number ∈ [none, some digits])
    (collector : Collector) (system : Instant) :
    (collector.collect system (Utf8.encode (line.text number))).1 =
      (collector.collect system (Utf8.encode (line.trimmed.text number))).1 := by
  rw [text_trimmed h]
  exact collector.collect_encode_trimEnd system (free_text h hnumber) (h.fits number hnumber)

lemma text_message {time : NamedTime} (hheader : line.header = .named time) :
    (line.message time number).text = line.text number := by
  rw [text, rest, hheader, Header.text, NamedTime.text, NamedTime.yearText, NamedTime.zoneText,
    TaggedMessage.text_eq, TaggedMessage.head]
  cases haddition : time.addition <;> cases number <;>
    simp [message, haddition, TaggedMessage.tagText, tagWord]

lemma readable_message (h : line.WellFormed digits) (hnumber : number ∈ [none, some digits])
    {time : NamedTime} (hheader : line.header = .named time) :
    (line.message time number).Readable := by
  have htime := h.named hheader
  refine ⟨htime.month, htime.day, htime.addition, h.hostname, h.tag, ?_, h.body⟩
  rcases List.mem_pair.1 hnumber with rfl | rfl
  · simp [message]
  · rintro _ ⟨⟩
    exact h.number

theorem collect_message (h : line.WellFormed digits) (hnumber : number ∈ [none, some digits])
    {time : NamedTime} (hheader : line.header = .named time)
    (hunnumbered : time.addition.isZone = true → number = none)
    (hdeliverable : Deliverable (line.text number)) (clock : Clock) (tally : Tally)
    (system : Instant) (hdate : (line.message time number).Datable (clock.read system))
    (haccepts : Window.standard.Accepts ((line.message time number).instant (clock.read system))
      (clock.read system).instant) :
    (Collector.collect ⟨.bundled, .standard, clock, tally⟩ system
      (Utf8.encode (line.text number))).1 =
        .ok ((line.message time number).meantRecord (clock.read system)) := by
  rw [← text_message hheader] at hdeliverable ⊢
  exact TaggedMessage.collect_readable (readable_message h hnumber hheader) hunnumbered hdeliverable
    h.unmarked.1 h.unmarked.2 clock tally system hdate haccepts

end TaggedLine
end Syslog
