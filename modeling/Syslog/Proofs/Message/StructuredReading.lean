import Syslog.Proofs.DateText.Tokens
import Syslog.Proofs.HostName
import Syslog.Proofs.Message.Structured

/-!
# Reading structured messages

Every bundled form before that of a structured message misses it: the time has a point or none or is
a hyphen, or no blanks follow the structured data. The form of the message reads it in one way.
-/
namespace Syslog
open Text Catalog.Bundled
open scoped Computability

namespace Catalog.Bundled

/-- How the time stands in a structured form. -/
inductive StampForm where
  | fractional
  | whole
  | absent
  deriving DecidableEq, Repr

def StampForm.segments : StampForm → List Segment
  | fractional => isoTime ++ (fraction ++ [zoneOffset])
  | whole => isoTime ++ [zoneOffset]
  | absent => [word "-"]

def StampForm.index : StampForm → ℕ
  | fractional => 0
  | whole => 1
  | absent => 2

def bodySegments : List Segment := [.blanks, message]

def structuredForm (stamp : StampForm) (tail : List Segment) : List Segment :=
  priority ++ ([version] ++ .blanks :: (stamp.segments ++ .blanks :: hostname :: .blanks ::
    process :: .blanks :: field .nospace "processId" :: .blanks :: field .nospace "messageId" ::
    .blanks :: field .structuredData "structuredData" :: tail))

lemma take_forms_structured : forms.take 6 =
    [structuredForm .fractional bodySegments, structuredForm .whole bodySegments,
      structuredForm .absent bodySegments, structuredForm .fractional [],
      structuredForm .whole [], structuredForm .absent []] := rfl

lemma solid_stampForm (form : StampForm) :
    ∀ segment ∈ form.segments, segment.isSolid = true := by
  cases form <;> decide

end Catalog.Bundled

namespace ZoneMark

/-- A mark in the digits in which it is written. -/
def form : ZoneMark → OffsetForm
  | zulu => .zulu
  | offset written colon =>
    .signed written.sign (padded 2 written.hours) (padded 2 written.minutes) colon

lemma text_form (zone : ZoneMark) : zone.form.text = zone.text := by
  cases zone <;> rfl

lemma wellFormed_form {zone : ZoneMark} (h : zone.WellFormed) : zone.form.WellFormed := by
  cases zone with
  | zulu => trivial
  | offset written colon => exact ⟨written.sign_eq, WrittenOffset.hasDigits h⟩

lemma text_mem {zone : ZoneMark} (h : zone.WellFormed) : zone.text ∈ Token.offset.language :=
  Token.mem_offset_iff.2 ⟨zone.form, wellFormed_form h, text_form zone⟩

end ZoneMark

theorem LocalTime.text_append {t : LocalTime} (hlow : 0 ≤ t.date.year) (hhigh : t.date.year ≤ 9999)
    (rest : Text) : t.text ++ rest =
      padded 4 t.date.year.toNat ++ '-' :: (padded 2 t.date.month ++ '-' ::
        (padded 2 t.date.day ++ 'T' :: (padded 2 t.hour ++ ':' :: (padded 2 t.minute ++ ':' ::
          (padded 2 t.second ++ rest))))) := by
  simp [text, timeText, Date.text, Date.yearText, hlow, hhigh]

namespace Stamp

def form (stamp : Stamp) : StampForm := if stamp.fraction.isSome then .fractional else .whole

def entries (stamp : Stamp) : List (String × Text) :=
  [("year", padded 4 stamp.time.date.year.toNat), ("month", padded 2 stamp.time.date.month),
    ("day", padded 2 stamp.time.date.day), ("hours", padded 2 stamp.time.hour),
    ("minutes", padded 2 stamp.time.minute), ("seconds", padded 2 stamp.time.second)] ++
  ((stamp.fraction.map fun digits => ("milliseconds", digits)).toList ++
    [("timeOffset", stamp.zone.text)])

lemma stops_fractionText {stamp : Stamp} (h : stamp.WellFormed) :
    Stops isDecimalDigit (stamp.fractionText ++ stamp.zone.text) := by
  rw [fractionText]
  split
  · exact (stops_of_mem_offset (by decide) (ZoneMark.text_mem h.zone)).2
  · exact stops_cons.2 (by decide)

lemma reads_isoTime {stamp : Stamp} (h : stamp.WellFormed) {segments : List Segment}
    (hsegments : Refuses isDecimalDigit segments) {entries : List (String × Text)} :
    Reads (isoTime ++ segments) stamp.text entries ↔
      ∃ later, Reads segments (stamp.fractionText ++ stamp.zone.text) later ∧
        entries = [("year", padded 4 stamp.time.date.year.toNat),
          ("month", padded 2 stamp.time.date.month), ("day", padded 2 stamp.time.date.day),
          ("hours", padded 2 stamp.time.hour), ("minutes", padded 2 stamp.time.minute),
          ("seconds", padded 2 stamp.time.second)] ++ later := by
  rw [text, LocalTime.text_append h.year.1 h.year.2]
  exact Catalog.Bundled.reads_isoTime (padded_mem_posint _ _) (padded_mem_posint _ _)
    (padded_mem_posint _ _) (padded_mem_posint _ _) (padded_mem_posint _ _) (padded_mem_posint _ _)
    hsegments (stops_fractionText h)

lemma reads_whole {stamp : Stamp} (h : stamp.WellFormed) {entries : List (String × Text)} :
    Reads [zoneOffset] (stamp.fractionText ++ stamp.zone.text) entries ↔
      stamp.fraction = none ∧ entries = [("timeOffset", stamp.zone.text)] := by
  rw [fractionText]
  cases hfraction : stamp.fraction with
  | none =>
    rw [List.nil_append, zoneOffset, reads_token]
    simp [ZoneMark.text_mem h.zone]
  | some digits =>
    constructor
    · intro hreads
      have hstop := refuses_offset (p := (· == '.')) (by decide) _ _ hreads
      simp at hstop
    · rintro ⟨hnone, -⟩
      cases hnone

lemma reads_fractional {stamp : Stamp} (h : stamp.WellFormed) {entries : List (String × Text)} :
    Reads (Catalog.Bundled.fraction ++ [zoneOffset]) (stamp.fractionText ++ stamp.zone.text)
      entries ↔
      ∃ digits, stamp.fraction = some digits ∧
        entries = [("milliseconds", digits), ("timeOffset", stamp.zone.text)] := by
  have hzone := ZoneMark.text_mem h.zone
  rw [fractionText]
  cases hfraction : stamp.fraction with
  | none =>
    constructor
    · intro hreads
      have hpoint := refuses_mark (s := ".") (c := '.') (p := (· != '.')) rfl rfl _ _ hreads
      rcases eq_or_exists_of_mem_offset hzone with hzulu | ⟨sign, u, rfl | rfl, hsign⟩
      · simp [hzulu] at hpoint
      · simp [hsign] at hpoint
      · simp [hsign] at hpoint
    · rintro ⟨digits, hsome, -⟩
      cases hsome
  | some digits =>
    rw [List.cons_append, reads_fraction (mem_posint.2 (h.fraction digits hfraction)) hzone]
    simp

lemma not_reads_absent {stamp : Stamp} (h : stamp.WellFormed)
    {entries : List (String × Text)} : ¬ Reads [word "-"] stamp.text entries := by
  intro hreads
  have hhyphen : stamp.text = ['-'] := (reads_single.1 hreads).1
  rw [text, LocalTime.text_append h.year.1 h.year.2] at hhyphen
  have hlength := congrArg List.length hhyphen
  have hpos := List.length_pos_iff.2 (padded_ne_nil 4 stamp.time.date.year.toNat)
  simp only [List.length_append, List.length_cons, List.length_nil] at hlength
  omega

theorem reads_form {stamp : Stamp} (h : stamp.WellFormed) {form : StampForm}
    {entries : List (String × Text)} :
    Reads form.segments stamp.text entries ↔ form = stamp.form ∧ entries = stamp.entries := by
  cases form with
  | absent =>
    constructor
    · intro hreads
      exact absurd hreads (not_reads_absent h)
    · rintro ⟨hform, -⟩
      rw [Stamp.form] at hform
      split at hform <;> cases hform
  | whole =>
    rw [StampForm.segments, reads_isoTime h (refuses_offset (by decide))]
    simp only [reads_whole h, Stamp.form, Stamp.entries]
    cases stamp.fraction <;> simp
  | fractional =>
    have hrefuses : Refuses isDecimalDigit (Catalog.Bundled.fraction ++ [zoneOffset]) :=
      refuses_mark (s := ".") (c := '.') rfl (by decide)
    rw [StampForm.segments, reads_isoTime h hrefuses]
    simp only [reads_fractional h, Stamp.form, Stamp.entries]
    cases stamp.fraction <;> simp

end Stamp
namespace StructuredMessage

variable {m : StructuredMessage}

def form (m : StructuredMessage) : StampForm :=
  match m.stamp with
  | none => .absent
  | some stamp => stamp.form

def stampEntries (m : StructuredMessage) : List (String × Text) :=
  match m.stamp with
  | none => []
  | some stamp => stamp.entries

def dataEntries (m : StructuredMessage) : List (String × Text) :=
  ("structuredData", m.structuredData) :: (m.body.map fun body => ("message", body)).toList

def wordEntries (m : StructuredMessage) : List (String × Text) :=
  [("hostname", m.hostname), ("processName", m.processName), ("processId", m.processId),
    ("messageId", m.messageId)]

def entries (m : StructuredMessage) : List (String × Text) :=
  ("facilityCode", ofNat m.priority.encode) :: ("version", m.version) ::
    (m.stampEntries ++ (m.wordEntries ++ m.dataEntries))

lemma reads_stamp (h : m.WellFormed) {form : StampForm} {entries : List (String × Text)} :
    Reads form.segments m.stampText entries ↔ form = m.form ∧ entries = m.stampEntries := by
  rw [stampText, StructuredMessage.form, stampEntries]
  cases hstamp : m.stamp with
  | some stamp => exact Stamp.reads_form (h.stamp stamp hstamp)
  | none =>
    have hnumber : ∀ {segments}, ¬ Reads (field .posint "year" :: segments) nilValue entries := by
      intro segments hreads
      have hdigit := refuses_run rfl _ _ hreads
      simp [nilValue, show isDecimalDigit '-' = false by decide] at hdigit
    cases form with
    | absent =>
      simp only [true_and]
      exact reads_single.trans (by simp [nilValue, Segment.language, word, ofString,
        Segment.capture, Segment.field?])
    | whole => exact iff_of_false hnumber (by simp)
    | fractional => exact iff_of_false hnumber (by simp)

lemma stops_structuredData {t rest : Text} (h : t ∈ Token.structuredData.language) :
    Stops isBlank (t ++ rest) := by
  rcases h with rfl | h
  · exact stops_cons.2 (by decide)
  · cases t with
    | nil => exact absurd h (Token.ElementState.nil_notMem .between)
    | cons c t =>
      rw [(Token.cons_mem_between.1 h).1]
      exact stops_cons.2 (by decide)

lemma nilValue_mem_nospace : nilValue ∈ Token.nospace.language :=
  mem_nospace.2 ⟨by decide, by decide⟩

lemma hostname_mem (h : m.WellFormed) : m.hostname ∈ Token.nospace.language := by
  rcases h.hostname with hnil | hvalid
  · rw [hnil]
    exact nilValue_mem_nospace
  · exact hostName_mem_nospace hvalid

lemma processName_mem (h : m.WellFormed) : m.processName ∈ Token.nospace.language := by
  rcases h.processName with hnil | ⟨hsolid, hname⟩
  · rw [hnil]
    exact nilValue_mem_nospace
  · refine mem_nospace.2 ⟨?_, hsolid⟩
    rintro hempty
    rw [hempty] at hname
    cases hname

lemma reads_later (h : m.WellFormed) {tail : List Segment} {entries : List (String × Text)} :
    Reads (Catalog.Bundled.hostname :: .blanks :: process :: .blanks ::
      field .nospace "processId" :: .blanks :: field .nospace "messageId" :: .blanks ::
      field .structuredData "structuredData" :: tail) m.later entries ↔
      ∃ later, Reads (field .structuredData "structuredData" :: tail)
        (m.structuredData ++ m.bodyText) later ∧ entries = m.wordEntries ++ later := by
  have hprocessId := mem_nospace.2 h.processId
  have hmessageId := mem_nospace.2 h.messageId
  rw [later, Catalog.Bundled.hostname,
    reads_nospace (hostname_mem h) (stops_of_mem_nospace (processName_mem h))]
  simp only [process, reads_nospace (processName_mem h) (stops_of_mem_nospace hprocessId),
    reads_nospace hprocessId (stops_of_mem_nospace hmessageId),
    reads_nospace hmessageId (stops_structuredData h.structuredData)]
  constructor
  · rintro ⟨_, ⟨_, ⟨_, ⟨later, h, rfl⟩, rfl⟩, rfl⟩, rfl⟩
    exact ⟨later, h, rfl⟩
  · rintro ⟨later, h, rfl⟩
    exact ⟨_, ⟨_, ⟨_, ⟨later, h, rfl⟩, rfl⟩, rfl⟩, rfl⟩

lemma stampText_ne_nil (h : m.WellFormed) : m.stampText ≠ [] := by
  rw [stampText]
  cases hstamp : m.stamp with
  | none => simp [nilValue]
  | some stamp =>
    obtain ⟨hlow, hhigh⟩ := (h.stamp stamp hstamp).year
    simp [Stamp.text, LocalTime.text_append hlow hhigh]

lemma isSolid_stampText (h : m.WellFormed) : IsSolid m.stampText := by
  have hreads : Reads m.form.segments m.stampText m.stampEntries := (reads_stamp h).2 ⟨rfl, rfl⟩
  exact hreads.isSolid (solid_stampForm _)

lemma version_mem (h : m.WellFormed) : m.version ∈ Token.posint.language :=
  posint_of_isDigit h.version.1 h.version.2

theorem reads_structuredForm (h : m.WellFormed) {form : StampForm} {tail : List Segment}
    {entries : List (String × Text)} :
    Reads (structuredForm form tail) m.text entries ↔
      form = m.form ∧ ∃ later, Reads (field .structuredData "structuredData" :: tail)
        (m.structuredData ++ m.bodyText) later ∧
        entries = ("facilityCode", ofNat m.priority.encode) :: ("version", m.version) ::
          (m.stampEntries ++ (m.wordEntries ++ later)) := by
  have hcode : ofNat m.priority.encode ∈ Token.posint.language :=
    posint_of_isDigit (ofNat_ne_nil _) fun _ => isDigit_of_mem_ofNat
  have hlater : Stops isBlank m.later := stops_of_mem_nospace (hostname_mem h)
  have hstamp : Stops isBlank (m.stampText ++ ' ' :: m.later) :=
    stops_isBlank (stampText_ne_nil h) (isSolid_stampText h)
  have hversion : ∀ {found}, Reads [Catalog.Bundled.version] m.version found ↔
      found = [("version", m.version)] := reads_token.trans (and_iff_right (version_mem h))
  rw [structuredForm, text, reads_priority hcode]
  simp only [reads_word [Catalog.Bundled.version] (by decide)
    (isSolid_of_mem_posint (version_mem h)) hstamp, reads_word form.segments (solid_stampForm form)
    (isSolid_stampText h) hlater, reads_stamp h, reads_later h, hversion]
  constructor
  · rintro ⟨_, ⟨_, _, rfl, ⟨_, _, ⟨hform, rfl⟩, ⟨later, hreads, rfl⟩, rfl⟩, rfl⟩, rfl⟩
    exact ⟨hform, later, hreads, rfl⟩
  · rintro ⟨hform, later, hreads, rfl⟩
    exact ⟨_, ⟨_, _, rfl, ⟨_, _, ⟨hform, rfl⟩, ⟨later, hreads, rfl⟩, rfl⟩, rfl⟩, rfl⟩

def tail (m : StructuredMessage) : List Segment :=
  if m.body.isSome then bodySegments else []

lemma reads_tail (h : m.WellFormed) {entries : List (String × Text)} :
    Reads (field .structuredData "structuredData" :: m.tail) (m.structuredData ++ m.bodyText)
      entries ↔ entries = m.dataEntries := by
  rw [tail, bodyText, dataEntries]
  cases hbody : m.body with
  | none =>
    rw [List.append_nil]
    exact reads_token.trans (and_iff_right h.structuredData)
  | some body =>
    refine (reads_structuredData h.structuredData (h.body body hbody).2.1).trans ?_
    simp only [reads_body]
    constructor
    · rintro ⟨_, rfl, rfl⟩
      rfl
    · rintro rfl
      exact ⟨_, rfl, rfl⟩

lemma not_reads_bodySegments (h : m.WellFormed) (hbody : m.body = none)
    {entries : List (String × Text)} :
    ¬ Reads (field .structuredData "structuredData" :: bodySegments)
      (m.structuredData ++ m.bodyText) entries := by
  rw [bodyText, hbody, List.append_nil]
  exact not_reads_structuredData h.structuredData

lemma getElem?_forms (m : StructuredMessage) :
    forms[m.grammarIndex]? = some (structuredForm m.form m.tail) := by
  rw [grammarIndex, StructuredMessage.form, tail]
  cases m.stamp with
  | none => cases m.body <;> rfl
  | some stamp =>
    simp only [Stamp.form]
    cases stamp.fraction <;> cases m.body <;> rfl

theorem reads_form (h : m.WellFormed) {entries : List (String × Text)} :
    Reads (structuredForm m.form m.tail) m.text entries ↔ entries = m.entries := by
  rw [reads_structuredForm h]
  simp only [reads_tail h, true_and, StructuredMessage.entries, exists_eq_left]

lemma grammarIndex_eq (m : StructuredMessage) :
    m.grammarIndex = m.form.index + if m.body.isSome then 0 else 3 := by
  rw [grammarIndex, StructuredMessage.form]
  cases m.stamp with
  | none => rfl
  | some stamp =>
    simp only [Stamp.form]
    cases stamp.fraction <;> rfl

lemma mem_take_structured {earlier : List Segment} {n : ℕ} (hn : n ≤ 6)
    (h : earlier ∈ forms.take n) :
    earlier ∈ ([structuredForm .fractional bodySegments, structuredForm .whole bodySegments,
      structuredForm .absent bodySegments, structuredForm .fractional [],
      structuredForm .whole [], structuredForm .absent []] : List (List Segment)).take n := by
  rwa [← take_forms_structured, List.take_take, Nat.min_eq_left hn]

theorem exists_of_mem_take {earlier : List Segment} {form : StampForm} {hasBody : Bool}
    (h : earlier ∈ forms.take (form.index + if hasBody then 0 else 3)) :
    ∃ other tail, earlier = structuredForm other tail ∧
      (other ≠ form ∨ tail = bodySegments ∧ hasBody = false) := by
  cases hasBody with
  | true =>
    cases form with
    | fractional => cases h
    | whole =>
      obtain rfl := List.mem_singleton.1 (mem_take_structured (by decide) h)
      exact ⟨_, _, rfl, .inl (by decide)⟩
    | absent =>
      rcases List.mem_pair.1 (mem_take_structured (by decide) h) with rfl | rfl
      · exact ⟨_, _, rfl, .inl (by decide)⟩
      · exact ⟨_, _, rfl, .inl (by decide)⟩
  | false =>
    have hfirst : ∀ {other}, ∃ kind tail, structuredForm other bodySegments =
        structuredForm kind tail ∧ (kind ≠ form ∨ tail = bodySegments ∧ false = false) :=
      fun {other} => ⟨other, bodySegments, rfl, .inr ⟨rfl, rfl⟩⟩
    have hlast : ∀ {other}, other ≠ form → ∃ kind tail, structuredForm other [] =
        structuredForm kind tail ∧ (kind ≠ form ∨ tail = bodySegments ∧ false = false) :=
      fun {other} hne => ⟨other, [], rfl, .inl hne⟩
    cases form with
    | fractional =>
      have hmem := mem_take_structured (n := 3) (by decide) h
      simp only [List.take_succ_cons, List.take_zero, List.mem_cons, List.not_mem_nil, or_false]
        at hmem
      rcases hmem with rfl | rfl | rfl <;> exact hfirst
    | whole =>
      have hmem := mem_take_structured (n := 4) (by decide) h
      simp only [List.take_succ_cons, List.take_zero, List.mem_cons, List.not_mem_nil, or_false]
        at hmem
      rcases hmem with rfl | rfl | rfl | rfl <;> first | exact hfirst | exact hlast (by decide)
    | absent =>
      have hmem := mem_take_structured (n := 5) (by decide) h
      simp only [List.take_succ_cons, List.take_zero, List.mem_cons, List.not_mem_nil, or_false]
        at hmem
      rcases hmem with rfl | rfl | rfl | rfl | rfl <;>
        first | exact hfirst | exact hlast (by decide)

/-- No form before that of a message reads it. -/
theorem not_reads_earlier (h : m.WellFormed) {earlier : List Segment}
    (hearlier : earlier ∈ forms.take m.grammarIndex) (entries : List (String × Text)) :
    ¬ Reads earlier m.text entries := by
  rw [grammarIndex_eq] at hearlier
  obtain ⟨other, tail, rfl, hother | ⟨rfl, hbody⟩⟩ := exists_of_mem_take hearlier
  · exact fun hreads => hother ((reads_structuredForm h).1 hreads).1
  · intro hreads
    obtain ⟨-, later, hlater, -⟩ := (reads_structuredForm h).1 hreads
    exact not_reads_bodySegments h (by simpa using hbody) hlater

end StructuredMessage
end Syslog
