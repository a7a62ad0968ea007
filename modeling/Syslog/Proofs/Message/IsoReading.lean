import Syslog.Proofs.Message.Iso

/-!
# Reading messages with a time in numbers

Of the forms with a time in numbers only the one of the time reads it: after the seconds the others
ask for a point or a zone where there is none, or leave a character of the word over. The last of
them would read all times, but it comes last.
-/
namespace Syslog
open Text Catalog.Bundled
open scoped Computability

def IsoForm.segments : IsoForm → List Segment
  | zoned => isoTime ++ [zoneOffset]
  | fractional => isoTime ++ fraction
  | plain => isoTime ++ []
  | joined => [field .timestamp "date"]

lemma IsoForm.solid_segments (form : IsoForm) :
    ∀ segment ∈ form.segments, segment.isSolid = true := by
  cases form <;> decide

namespace Catalog.Bundled

def isoForm (form : IsoForm) : List Segment :=
  priority ++ (form.segments ++ .blanks :: (hostname :: .blanks :: plainTag))

lemma getElem?_isoForm (form : IsoForm) : forms[form.index]? = some (isoForm form) := by
  cases form <;> rfl

lemma cases_of_mem_take_isoForm {form : IsoForm} {earlier : List Segment}
    (h : earlier ∈ forms.take form.index) :
    (∃ segments ∈ structuredForms, earlier = priority ++ segments) ∨
      ∃ other, other ≠ .joined ∧ other ≠ form ∧ earlier = isoForm other := by
  have htake : ∃ others : List IsoForm, forms.take form.index =
      structuredForms.map (priority ++ ·) ++ others.map isoForm ∧
        ∀ other ∈ others, other ≠ .joined ∧ other ≠ form := by
    cases form with
    | zoned => exact ⟨[], rfl, by simp⟩
    | fractional => exact ⟨[.zoned], rfl, by decide⟩
    | plain => exact ⟨[.zoned, .fractional], rfl, by decide⟩
    | joined => exact ⟨[.zoned, .fractional, .plain], rfl, by decide⟩
  obtain ⟨others, htake, hothers⟩ := htake
  rw [htake, List.mem_append] at h
  rcases h with h | h
  · obtain ⟨segments, hsegments, rfl⟩ := List.mem_map.1 h
    exact .inl ⟨segments, hsegments, rfl⟩
  · obtain ⟨other, hother, rfl⟩ := List.mem_map.1 h
    exact .inr ⟨other, (hothers other hother).1, (hothers other hother).2, rfl⟩

end Catalog.Bundled

namespace IsoTime

variable {time : IsoTime} {found : List (String × Text)}

def tail (time : IsoTime) : Text := time.fractionText ++ time.zoneText

def partEntries (time : IsoTime) : List (String × Text) :=
  [("year", padded 4 time.time.date.year.toNat), ("month", padded 2 time.time.date.month),
    ("day", padded 2 time.time.date.day), ("hours", padded 2 time.time.hour),
    ("minutes", padded 2 time.time.minute), ("seconds", padded 2 time.time.second)]

def entries (time : IsoTime) : List (String × Text) :=
  match time.fraction, time.zone with
  | none, none => time.partEntries
  | none, some zone => time.partEntries ++ [("timeOffset", zone.text)]
  | some digits, none => time.partEntries ++ [("milliseconds", digits)]
  | some digits, some .zulu => time.partEntries ++ [("milliseconds", digits ++ ['Z'])]
  | some _, some (.offset ..) => [("date", time.text)]

lemma stops_zoneText {p : Char → Bool} (hp : p 'Z' = false ∧ p '+' = false ∧ p '-' = false)
    (h : time.WellFormed) : Stops p time.zoneText := by
  rw [zoneText]
  split
  · exact stops_nil
  · next zone hzone => exact (stops_of_mem_offset hp (ZoneMark.text_mem (h.zone zone hzone))).2

lemma stops_tail (h : time.WellFormed) : Stops isDecimalDigit time.tail := by
  rw [tail, fractionText]
  split
  · exact stops_zoneText (by decide) h
  · exact stops_cons.2 (by decide)

lemma reads_isoTime (h : time.WellFormed) {segments : List Segment}
    (hsegments : Refuses isDecimalDigit segments) :
    Reads (isoTime ++ segments) time.text found ↔
      ∃ later, Reads segments time.tail later ∧ found = time.partEntries ++ later := by
  rw [text, LocalTime.text_append h.year.1 h.year.2]
  exact Catalog.Bundled.reads_isoTime (padded_mem_posint _ _) (padded_mem_posint _ _)
    (padded_mem_posint _ _) (padded_mem_posint _ _) (padded_mem_posint _ _) (padded_mem_posint _ _)
    hsegments (stops_tail h)

lemma reads_zoneOffset (h : time.WellFormed) :
    Reads [zoneOffset] time.tail found ↔
      ∃ zone, time.fraction = none ∧ time.zone = some zone ∧
        found = [("timeOffset", zone.text)] := by
  rw [tail, fractionText, zoneText]
  cases hfraction : time.fraction with
  | some digits =>
    constructor
    · intro hreads
      have hstop := refuses_offset (p := (· == '.')) (by decide) _ _ hreads
      simp at hstop
    · rintro ⟨_, hnone, -⟩
      cases hnone
  | none =>
    rw [List.nil_append, zoneOffset, reads_token]
    cases hzone : time.zone with
    | none =>
      have hempty : [] ∉ Token.offset.language := fun hmem =>
        (stops_of_mem_offset (p := fun _ => false) (by decide) hmem).1 rfl
      simp [hempty]
    | some zone => simp [ZoneMark.text_mem (h.zone zone hzone)]

lemma mem_fraction_iff (h : time.WellFormed) {digits : Text}
    (hdigits : time.fraction = some digits) :
    digits ++ time.zoneText ∈ Token.fraction.language ↔
      time.zone = none ∨ time.zone = some .zulu := by
  have hrun := h.fraction digits hdigits
  constructor
  · rintro ⟨run, hmem, mark, hmark, heq⟩
    have hstops : Stops isDecimalDigit mark := by
      rcases hmark with rfl | rfl
      · exact stops_cons.2 (by decide)
      · exact stops_nil
    obtain ⟨-, hzone⟩ := run_unique (Reader.mem_runOf.1 hmem).2 hstops hrun.2
      (stops_zoneText (by decide) h) heq
    rw [zoneText] at hzone
    cases hcase : time.zone with
    | none => exact .inl rfl
    | some zone =>
      cases zone with
      | zulu => exact .inr rfl
      | offset written colon =>
        have hsign : written.sign ≠ 'Z' := by
          rcases written.sign_eq with hsign | hsign <;> simp [hsign]
        rw [hcase] at hzone
        rcases hmark with rfl | rfl
        · exact absurd (List.cons.inj hzone).1.symm hsign
        · cases hzone
  · intro hzone
    have hdigitsMem : digits ∈ Reader.runOf isDecimalDigit := Reader.mem_runOf.2 hrun
    rw [zoneText]
    rcases hzone with hzone | hzone
    · rw [hzone]
      exact Language.append_mem_mul hdigitsMem (.inr rfl)
    · rw [hzone]
      exact Language.append_mem_mul hdigitsMem (.inl rfl)

lemma reads_fraction (h : time.WellFormed) :
    Reads Catalog.Bundled.fraction time.tail found ↔
      ∃ digits, time.fraction = some digits ∧ (time.zone = none ∨ time.zone = some .zulu) ∧
        found = [("milliseconds", digits ++ time.zoneText)] := by
  change Reads [word ".", field .fraction "milliseconds"] _ _ ↔ _
  rw [tail, fractionText]
  cases hfraction : time.fraction with
  | none =>
    constructor
    · intro hreads
      obtain ⟨_, rfl, rest, _, -, htext, -⟩ := reads_cons.1 hreads
      have hzone := stops_zoneText (p := (· == '.')) (by decide) h
      rw [List.nil_append] at htext
      rw [← htext] at hzone
      exact absurd (stops_cons.1 hzone) (by decide)
    · rintro ⟨_, hnone, -⟩
      cases hnone
  | some digits =>
    rw [List.cons_append, reads_mark rfl, reads_token, mem_fraction_iff h hfraction]
    simp

lemma tail_eq_nil_iff (h : time.WellFormed) :
    time.tail = [] ↔ time.fraction = none ∧ time.zone = none := by
  rw [tail, fractionText, zoneText]
  cases hfraction : time.fraction with
  | some digits => simp
  | none =>
    cases hzone : time.zone with
    | none => simp
    | some zone =>
      have hne := (stops_of_mem_offset (p := fun _ => false) (by decide)
        (ZoneMark.text_mem (h.zone zone hzone))).1
      simp [hne]

theorem reads_form (h : time.WellFormed) {form : IsoForm} (hform : form ≠ .joined) :
    Reads form.segments time.text found ↔ form = time.form ∧ found = time.entries := by
  have hmark : Refuses isDecimalDigit Catalog.Bundled.fraction :=
    refuses_mark (s := ".") (c := '.') rfl (by decide)
  have hnil : Refuses isDecimalDigit [] := fun t entries hreads => by
    rw [(reads_nil.1 hreads).1]
    exact stops_nil
  rw [IsoTime.form, entries]
  cases form with
  | zoned =>
    rw [IsoForm.segments, reads_isoTime h (refuses_offset (by decide))]
    simp only [reads_zoneOffset h]
    cases time.fraction with
    | none => cases time.zone <;> simp
    | some digits =>
      cases time.zone with
      | none => simp
      | some zone => cases zone <;> simp
  | fractional =>
    rw [IsoForm.segments, reads_isoTime h hmark]
    simp only [reads_fraction h, zoneText]
    cases time.fraction with
    | none => cases time.zone <;> simp
    | some digits =>
      cases time.zone with
      | none => simp
      | some zone => cases zone <;> simp [ZoneMark.text, WrittenOffset.text]
  | plain =>
    rw [IsoForm.segments, reads_isoTime h hnil]
    simp only [reads_nil, tail_eq_nil_iff h]
    cases time.fraction with
    | none => cases time.zone <;> simp
    | some digits =>
      cases time.zone with
      | none => simp
      | some zone => cases zone <;> simp
  | joined => exact absurd rfl hform

def timestamp (time : IsoTime) : Timestamp where
  year := padded 4 time.time.date.year.toNat
  month := padded 2 time.time.date.month
  day := padded 2 time.time.date.day
  hour := padded 2 time.time.hour
  minute := padded 2 time.time.minute
  second := padded 2 time.time.second
  fraction := time.fraction
  offset := time.zone.map ZoneMark.form

lemma localText_timestamp (h : time.WellFormed) : time.timestamp.localText = time.time.text := by
  rw [LocalTime.text, LocalTime.timeText, Date.text, Date.yearText, if_pos h.year]
  rfl

lemma text_timestamp (h : time.WellFormed) : time.timestamp.text = time.text := by
  have hfraction : time.timestamp.fractionText = time.fractionText := by
    rw [Timestamp.fractionText, fractionText, timestamp]
    cases time.fraction <;> rfl
  have hzone : time.timestamp.offsetText = time.zoneText := by
    rw [Timestamp.offsetText, zoneText, timestamp]
    cases time.zone with
    | none => rfl
    | some zone => exact zone.text_form
  rw [Timestamp.text, localText_timestamp h, hfraction, hzone, text, List.append_assoc]

lemma wellFormed_timestamp (h : time.WellFormed) (hvalid : time.time.isValid = true) :
    time.timestamp.WellFormed := by
  have hspelled := DateLayout.spelledTime_padded hvalid h.year.1 h.year.2
  refine ⟨hspelled.hasYear, (DateLayout.spells_padded_month hvalid).hasDigits, hspelled.hasTime,
    h.fraction, fun form hform => ?_⟩
  obtain ⟨zone, hzone, rfl⟩ := Option.map_eq_some_iff.1 hform
  exact ZoneMark.wellFormed_form (h.zone zone hzone)

theorem text_mem_timestamp (h : time.WellFormed) (hvalid : time.time.isValid = true) :
    time.text ∈ Token.timestamp.language :=
  Token.mem_timestamp_iff.2 ⟨time.timestamp, wellFormed_timestamp h hvalid, text_timestamp h⟩

theorem reads_own (h : time.WellFormed) (hvalid : time.time.isValid = true) :
    Reads time.form.segments time.text found ↔ found = time.entries := by
  cases hform : time.form with
  | zoned | fractional | plain =>
    rw [reads_form h (by decide), hform]
    exact and_iff_right rfl
  | joined =>
    rw [IsoForm.segments, reads_token]
    obtain ⟨digits, written, colon, hfraction, hzone⟩ := exists_of_form hform
    rw [entries, hfraction, hzone]
    exact and_iff_right (text_mem_timestamp h hvalid)

end IsoTime

namespace IsoMessage

variable {m : IsoMessage} {found : List (String × Text)}

def laterEntries (m : IsoMessage) : List (String × Text) :=
  [("hostname", m.hostname), ("processName", m.tag), ("message", m.body)]

def entries (m : IsoMessage) : List (String × Text) :=
  ("facilityCode", ofNat m.priority.encode) :: (m.time.entries ++ m.laterEntries)

lemma hostname_mem (h : m.WellFormed) : m.hostname ∈ Token.nospace.language :=
  hostName_mem_nospace h.hostname

lemma tag_mem (h : m.WellFormed) : m.tag ∈ Token.nospace.language := by
  refine mem_nospace.2 ⟨?_, TaggedMessage.isSolid_of_isTagCharacter h.tag.1⟩
  intro hnil
  have htag := h.tag.2
  rw [hnil] at htag
  cases htag

lemma stops_tag (h : m.WellFormed) : Stops isBlank (m.tag ++ [':'] ++ ' ' :: m.body) :=
  List.append_assoc .. ▸ stops_of_mem_nospace (tag_mem h)

lemma reads_later (h : m.WellFormed) :
    Reads (Catalog.Bundled.hostname :: .blanks :: plainTag) m.later found ↔
      found = m.laterEntries := by
  rw [later, Catalog.Bundled.hostname, reads_nospace (hostname_mem h) (stops_tag h)]
  simp only [reads_plainTag (tag_mem h) h.body.2.1, exists_eq_left, laterEntries]

lemma reads_text {segments : List Segment} :
    Reads (Catalog.Bundled.priority ++ segments) m.text found ↔
      ∃ later, Reads segments (m.time.text ++ ' ' :: m.later) later ∧
        found = ("facilityCode", ofNat m.priority.encode) :: later :=
  reads_priority (posint_of_isDigit (ofNat_ne_nil _) fun _ => isDigit_of_mem_ofNat)

lemma reads_isoForm (h : m.WellFormed) {form : IsoForm} :
    Reads (isoForm form) m.text found ↔
      ∃ before, Reads form.segments m.time.text before ∧
        found = ("facilityCode", ofNat m.priority.encode) :: (before ++ m.laterEntries) := by
  have hlater : Stops isBlank m.later := stops_of_mem_nospace (hostname_mem h)
  rw [isoForm, reads_text]
  simp only [reads_word form.segments form.solid_segments (IsoTime.isSolid_text h.time.1) hlater,
    reads_later h]
  constructor
  · rintro ⟨_, ⟨before, _, hbefore, rfl, rfl⟩, rfl⟩
    exact ⟨before, hbefore, rfl⟩
  · rintro ⟨before, hbefore, rfl⟩
    exact ⟨_, ⟨before, _, hbefore, rfl, rfl⟩, rfl⟩

theorem reads_form (h : m.WellFormed) :
    Reads (isoForm m.time.form) m.text found ↔ found = m.entries := by
  rw [reads_isoForm h]
  simp only [IsoTime.reads_own h.time.1 h.time.2, exists_eq_left, entries]

/-- No form before its own reads a message: a structured form asks for a version. -/
theorem not_reads_earlier (h : m.WellFormed) {earlier : List Segment}
    (hearlier : earlier ∈ forms.take m.time.form.index) : ¬ Reads earlier m.text found := by
  have hlater : Stops isBlank m.later := stops_of_mem_nospace (hostname_mem h)
  rcases cases_of_mem_take_isoForm hearlier with
    ⟨segments, hsegments, rfl⟩ | ⟨other, hother, hne, rfl⟩
  · obtain ⟨_, rfl⟩ := exists_of_mem_structuredForms hsegments
    rw [reads_text]
    rintro ⟨_, hreads, -⟩
    obtain ⟨_, _, hversion, -, -⟩ :=
      (reads_word _ (by decide) (IsoTime.isSolid_text h.time.1) hlater).1 hreads
    have hdigit := (mem_posint.1 (reads_token.1 hversion).1).2 '-'
      (IsoTime.hyphen_mem_text h.time.1)
    exact absurd hdigit (by decide)
  · rw [reads_isoForm h]
    rintro ⟨before, hbefore, -⟩
    exact hne ((IsoTime.reads_form h.time.1 hother).1 hbefore).1

end IsoMessage
end Syslog
