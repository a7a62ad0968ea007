import Syslog.Proofs.HostName
import Syslog.Proofs.Message.Tagged
import Syslog.Proofs.DateText.Written

/-!
# Reading tagged messages

The forms before that of a tagged message miss it, up to one: a form with a zone may take the host
for a zone, but then it takes the tag for a host and is vetoed. The form of the message reads it in
one way.
-/
namespace Syslog
open Text Catalog.Bundled
open scoped Computability

namespace Catalog.Bundled

/-- What a form asks for in the date besides month, day and time of day. -/
inductive DateForm where
  | nothing
  | year
  | zone
  deriving DecidableEq, Repr

def DateForm.segments : DateForm → List Segment
  | nothing => monthDayTime
  | year => monthDayYearTime
  | zone => monthDayTime ++ [field .timeZone "timeZone", .blanks]

def tagSegments (numbered : Bool) : List Segment := if numbered then numberedTag else plainTag

def taggedForm (date : DateForm) (numbered : Bool) : List Segment :=
  priority ++ (date.segments ++ (hostname :: .blanks :: tagSegments numbered))

def untaggedForms : List (List Segment) :=
  forms.take 10 ++ [priority ++ firewallForm, priority ++ identifiedForm]

lemma stops_of_mem_timestamp {t : Text} (h : t ∈ Token.timestamp.language) :
    t ≠ [] ∧ Stops (fun c => !isDecimalDigit c) t := by
  simp only [Token.language, Token.timestamps, mul_assoc] at h
  obtain ⟨digits, hdigits, rest, -, rfl⟩ := h
  obtain ⟨hlength, hdigit⟩ := Reader.mem_pow_oneOf.1 hdigits
  cases digits with
  | nil => cases hlength
  | cons c digits => exact ⟨by simp, by simp [hdigit c (by simp)]⟩

theorem refuses_of_mem_take {form : List Segment} (h : form ∈ forms.take 10) :
    ∃ segments, form = priority ++ segments ∧ Refuses (fun c => !isDecimalDigit c) segments := by
  have hnumber : ∀ {name segments}, Refuses (fun c => !isDecimalDigit c)
      (field .posint name :: segments) := refuses_run rfl
  have hdate : ∀ {name segments}, Refuses (fun c => !isDecimalDigit c)
      (field .timestamp name :: segments) := refuses_cons fun _ => stops_of_mem_timestamp
  have hforms : forms.take 10 = (structuredForms ++ isoForms).map (priority ++ ·) := rfl
  rw [hforms] at h
  obtain ⟨segments, hsegments, rfl⟩ := List.mem_map.1 h
  refine ⟨segments, rfl, ?_⟩
  simp only [structuredForms, isoForms, isoTime, isoDate, List.map_cons, List.map_nil,
    List.cons_append, List.nil_append, List.mem_cons, List.not_mem_nil, or_false] at hsegments
  rcases hsegments with rfl | rfl | rfl | rfl | rfl | rfl | rfl | rfl | rfl | rfl
  all_goals first | exact hnumber | exact hdate

theorem reads_zoneWord {segments : List Segment} {word rest : Text}
    {entries : List (String × Text)} (hword : IsSolid word) (hrest : Stops isBlank rest) :
    Reads (field .timeZone "timeZone" :: .blanks :: segments) (word ++ ' ' :: rest) entries ↔
      word ∈ Token.timeZone.language ∧
        ∃ later, Reads segments rest later ∧ entries = ("timeZone", word) :: later := by
  change Reads ([field .timeZone "timeZone"] ++ .blanks :: segments) _ _ ↔ _
  rw [reads_word _ (by decide) hword hrest]
  simp only [reads_token]
  constructor
  · rintro ⟨_, later, ⟨hmem, rfl⟩, h, rfl⟩
    exact ⟨hmem, later, h, rfl⟩
  · rintro ⟨hmem, later, h, rfl⟩
    exact ⟨_, later, ⟨hmem, rfl⟩, h, rfl⟩

end Catalog.Bundled

namespace TaggedMessage

variable {m : TaggedMessage} {segments : List Segment} {found : List (String × Text)}

lemma isSolid_of_isTagCharacter {t : Text} (h : ∀ c ∈ t, isTagCharacter c = true) :
    IsSolid t := by
  intro c hc
  have hcharacter := h c hc
  simp only [isTagCharacter, Bool.or_eq_true, beq_iff_eq] at hcharacter
  rcases hcharacter with ((h | rfl) | rfl) | rfl
  · exact isBlank_of_isAlphanum h
  all_goals decide

lemma hostname_mem (h : m.Readable) : m.hostname ∈ Token.nospace.language :=
  hostName_mem_nospace h.hostname

lemma tag_mem (h : m.Readable) : m.tag ∈ Token.nospace.language := by
  refine mem_nospace.2 ⟨?_, isSolid_of_isTagCharacter h.tag.1⟩
  intro hnil
  have hfault := h.tag.2
  rw [hnil] at hfault
  cases hfault

lemma processId_mem (h : m.Readable) {digits : Text} (hdigits : m.processId = some digits) :
    digits ∈ Token.posint.language :=
  posint_of_isDigit (h.processId digits hdigits).1 (h.processId digits hdigits).2.1

lemma dayDigits_mem (h : m.Readable) : m.dayDigits ∈ Token.posint.language := by
  rcases h.day with hday | hday
  · exact posint_of_spells (by decide) hday
  · exact posint_of_spells (by decide) hday

lemma zone_mem {abbreviation : Text} (h : m.Readable)
    (hzone : m.addition = .zone abbreviation) : abbreviation ∈ Token.timeZone.language := by
  have haddition := h.addition
  rw [hzone] at haddition
  exact Reader.mem_pow_oneOf.2 ⟨haddition.1, fun _ => Zone.isUpper_of_mem haddition.2⟩

lemma isSolid_zone {abbreviation : Text} (h : m.Readable)
    (hzone : m.addition = .zone abbreviation) : abbreviation ≠ [] ∧ IsSolid abbreviation := by
  have hmem := zone_mem h hzone
  refine ⟨?_, Token.timeZone.solid_language rfl _ hmem⟩
  rintro rfl
  exact absurd (Reader.mem_pow_oneOf.1 hmem).1 (by decide)

theorem mem_tagText (h : m.Readable) {c : Char} (hc : c ∈ m.tagText) :
    isTagCharacter c = true ∨ c = '[' ∧ m.processId ≠ none ∨ c = ']' ∨ c = ':' := by
  rw [tagText] at hc
  split at hc
  · rcases List.mem_append.1 hc with hc | hc
    · exact .inl (h.tag.1 c hc)
    · exact .inr (.inr (.inr (List.mem_singleton.1 hc)))
  · next digits hdigits =>
    rcases List.mem_append.1 hc with hc | hc
    · exact .inl (h.tag.1 c hc)
    · simp only [List.mem_cons, List.mem_append, List.not_mem_nil, or_false] at hc
      rcases hc with rfl | hc | hmark
      · exact .inr (.inl ⟨rfl, by simp [hdigits]⟩)
      · have hdigit := (h.processId digits hdigits).2.1 c hc
        exact .inl (by simp [isTagCharacter, Char.isAlphanum, hdigit])
      · exact .inr (.inr hmark)

lemma isSolid_tagText (h : m.Readable) : IsSolid m.tagText := by
  intro c hc
  rcases mem_tagText h hc with hcharacter | ⟨rfl, -⟩ | rfl | rfl
  · exact isSolid_of_isTagCharacter (t := [c]) (by simpa using hcharacter) c (by simp)
  all_goals decide

lemma colon_mem_tagText (m : TaggedMessage) : ':' ∈ m.tagText := by
  rw [tagText]
  split <;> simp

lemma stops_tagText (h : m.Readable) (rest : Text) : Stops isBlank (m.tagText ++ rest) :=
  stops_isBlank (List.ne_nil_of_mem m.colon_mem_tagText) (isSolid_tagText h)

lemma stops_later (h : m.Readable) : Stops isBlank m.later :=
  stops_of_mem_nospace (hostname_mem h)

lemma stops_afterTime (h : m.Readable) : Stops isBlank m.afterTime := by
  rw [afterTime]
  split
  · next hzone =>
    obtain ⟨hne, hsolid⟩ := isSolid_zone h hzone
    exact stops_isBlank hne hsolid
  · exact stops_later h

def form (m : TaggedMessage) : DateForm :=
  match m.addition with
  | .nothing => .nothing
  | .year _ => .year
  | .zone _ => .zone

def dayEntries (m : TaggedMessage) : List (String × Text) :=
  [("month", m.monthName), ("day", m.dayDigits)]

def timeEntries (m : TaggedMessage) : List (String × Text) :=
  [("hours", padded 2 m.hour), ("minutes", padded 2 m.minute), ("seconds", padded 2 m.second)]

def dateEntries (m : TaggedMessage) : List (String × Text) :=
  match m.addition with
  | .nothing => m.dayEntries ++ m.timeEntries
  | .year number => m.dayEntries ++ ("year", padded 4 number) :: m.timeEntries
  | .zone abbreviation => m.dayEntries ++ (m.timeEntries ++ [("timeZone", abbreviation)])

def tagEntries (m : TaggedMessage) : List (String × Text) :=
  ("processName", m.tag) :: ((m.processId.map fun digits => ("processId", digits)).toList ++
    [("message", m.body)])

def entries (m : TaggedMessage) : List (String × Text) :=
  ("facilityCode", ofNat m.priority.encode) ::
    (m.dateEntries ++ ("hostname", m.hostname) :: m.tagEntries)

lemma reads_timed (h : m.Readable) :
    Reads (timeOfDay ++ .blanks :: segments) m.timed found ↔
      ∃ later, Reads segments m.afterTime later ∧ found = m.timeEntries ++ later :=
  reads_timeWord (padded_mem_posint _ _) (padded_mem_posint _ _) (padded_mem_posint _ _)
    (stops_afterTime h)

lemma stops_timed (m : TaggedMessage) : Stops isBlank m.timed :=
  stops_isBlank (padded_ne_nil _ _) (isSolid_of_mem_posint (padded_mem_posint _ _))

lemma stops_afterDay (m : TaggedMessage) : Stops isBlank m.afterDay := by
  rw [afterDay]
  split
  · exact stops_isBlank (padded_ne_nil _ _) (isSolid_of_mem_posint (padded_mem_posint _ _))
  · exact m.stops_timed

lemma reads_dated (h : m.Readable) :
    Reads (monthAndDay ++ segments) m.dated found ↔
      ∃ later, Reads segments m.afterDay later ∧ found = m.dayEntries ++ later :=
  reads_monthAndDay h.month.mem_language (dayDigits_mem h) m.stops_afterDay

lemma not_reads_number (m : TaggedMessage) {name : String} :
    ¬ Reads (field .posint name :: .blanks :: segments) m.timed found := by
  rw [timed,
    reads_number (padded_mem_posint _ _) (refuses_digit_blanks _) (stops_cons.2 (by decide))]
  -- a colon follows the hours, where the segments ask for blanks
  rintro ⟨later, hlater, -⟩
  exact absurd (stops_cons.1 (refuses_blanks _ _ _ hlater)) (by decide)

theorem not_reads_timeOfDay {digits rest : Text} (hdigits : digits ∈ Token.posint.language)
    (hrest : Stops isBlank rest) :
    ¬ Reads (timeOfDay ++ .blanks :: segments) (digits ++ ' ' :: rest) found := by
  rw [reads_word _ (by decide) (isSolid_of_mem_posint hdigits) hrest]
  rintro ⟨before, _, hbefore, -⟩
  have hcolon : ':' ∈ digits := hbefore.mem_of_literal (l := [':']) (by decide) (by decide)
  exact absurd ((mem_posint.1 hdigits).2 _ hcolon) (by decide)

lemma reads_monthDayTime (h : m.Readable) :
    Reads (monthDayTime ++ segments) m.dated found ↔
      m.form ≠ .year ∧ ∃ later, Reads segments m.afterTime later ∧
        found = m.dayEntries ++ (m.timeEntries ++ later) := by
  change Reads (monthAndDay ++ (timeOfDay ++ .blanks :: segments)) _ _ ↔ _
  rw [reads_dated h, form, afterDay]
  cases m.addition with
  | year number => simp [not_reads_timeOfDay (padded_mem_posint 4 number) m.stops_timed]
  | nothing | zone abbreviation =>
    simp only [reads_timed h]
    constructor
    · rintro ⟨_, ⟨later, hlater, rfl⟩, rfl⟩
      exact ⟨by simp, later, hlater, rfl⟩
    · rintro ⟨-, later, hlater, rfl⟩
      exact ⟨_, ⟨later, hlater, rfl⟩, rfl⟩

lemma reads_monthDayYearTime (h : m.Readable) :
    Reads (monthDayYearTime ++ segments) m.dated found ↔
      ∃ number, m.addition = .year number ∧ ∃ later, Reads segments m.later later ∧
        found = m.dayEntries ++ ("year", padded 4 number) :: (m.timeEntries ++ later) := by
  change Reads (monthAndDay ++ (field .posint "year" :: .blanks :: (timeOfDay ++ .blanks ::
    segments))) _ _ ↔ _
  rw [reads_dated h, afterDay]
  cases haddition : m.addition with
  | nothing | zone abbreviation => simp [m.not_reads_number]
  | year number =>
    have hnumber := padded_mem_posint 4 number
    have hword : ∀ {later}, Reads (field .posint "year" :: .blanks :: (timeOfDay ++ .blanks ::
        segments)) (padded 4 number ++ ' ' :: m.timed) later ↔ ∃ rest,
          Reads (timeOfDay ++ .blanks :: segments) m.timed rest ∧
            later = ("year", padded 4 number) :: rest := by
      intro later
      rw [reads_number hnumber (refuses_digit_blanks _) (stops_cons.2 (by decide))]
      simp only [reads_blanks m.stops_timed]
    have hafter : m.afterTime = m.later := by rw [afterTime, haddition]
    simp only [hword, reads_timed h, hafter]
    constructor
    · rintro ⟨_, ⟨_, ⟨later, hlater, rfl⟩, rfl⟩, rfl⟩
      exact ⟨number, rfl, later, hlater, rfl⟩
    · rintro ⟨_, hsame, later, hlater, rfl⟩
      obtain rfl := DateAddition.year.inj hsame
      exact ⟨_, ⟨_, ⟨later, hlater, rfl⟩, rfl⟩, rfl⟩

lemma reads_hostname (h : m.Readable) :
    Reads (Catalog.Bundled.hostname :: .blanks :: segments) m.later found ↔
      ∃ later, Reads segments (m.tagText ++ ' ' :: m.body) later ∧
        found = ("hostname", m.hostname) :: later :=
  reads_nospace (hostname_mem h) (stops_tagText h _)

theorem reads_date (h : m.Readable) :
    Reads (m.form.segments ++ segments) m.dated found ↔
      ∃ later, Reads segments m.later later ∧ found = m.dateEntries ++ later := by
  rw [form, dateEntries]
  cases haddition : m.addition with
  | nothing =>
    have hafter : m.afterTime = m.later := by rw [afterTime, haddition]
    simp [DateForm.segments, reads_monthDayTime h, form, haddition, hafter]
  | year number =>
    simp [DateForm.segments, reads_monthDayYearTime h, haddition]
  | zone abbreviation =>
    have hafter : m.afterTime = abbreviation ++ ' ' :: m.later := by rw [afterTime, haddition]
    rw [DateForm.segments, List.append_assoc, reads_monthDayTime h, hafter]
    simp only [List.cons_append, List.nil_append,
      reads_zoneWord (isSolid_zone h haddition).2 (stops_later h), zone_mem h haddition, true_and]
    constructor
    · rintro ⟨-, _, ⟨later, hlater, rfl⟩, rfl⟩
      exact ⟨later, hlater, by simp⟩
    · rintro ⟨later, hlater, rfl⟩
      exact ⟨by simp [form, haddition], _, ⟨later, hlater, rfl⟩, by simp⟩

lemma bracket_notMem_tag (h : m.Readable) : '[' ∉ m.tag := fun hmem =>
  absurd (h.tag.1 _ hmem) (by decide)

lemma reads_tag (h : m.Readable) :
    Reads (tagSegments m.processId.isSome) (m.tagText ++ ' ' :: m.body) found ↔
      found = m.tagEntries := by
  rw [tagText, tagEntries]
  cases hprocess : m.processId with
  | none => exact reads_plainTag (tag_mem h) h.body.2
  | some digits =>
    exact reads_numberedTag (tag_mem h) (bracket_notMem_tag h) (processId_mem h hprocess) h.body.2

lemma not_reads_numberedTag (h : m.Readable) (hprocess : m.processId = none) :
    ¬ Reads numberedTag (m.tagText ++ ' ' :: m.body) found := by
  refine Catalog.Bundled.not_reads_numberedTag (isSolid_tagText h) (fun hbracket => ?_) h.body.2
  rcases mem_tagText h hbracket with hcharacter | ⟨-, hne⟩ | hmark | hmark
  · exact absurd hcharacter (by decide)
  · exact hne hprocess
  · exact absurd hmark (by decide)
  · exact absurd hmark (by decide)

lemma reads_text {segments : List Segment} :
    Reads (Catalog.Bundled.priority ++ segments) m.text found ↔
      ∃ later, Reads segments m.dated later ∧
        found = ("facilityCode", ofNat m.priority.encode) :: later :=
  reads_priority (posint_of_isDigit (ofNat_ne_nil _) fun _ => isDigit_of_mem_ofNat)

theorem reads_form (h : m.Readable) :
    Reads (taggedForm m.form m.processId.isSome) m.text found ↔ found = m.entries := by
  rw [taggedForm, reads_text]
  simp only [reads_date h, reads_hostname h, reads_tag h, entries]
  constructor
  · rintro ⟨_, ⟨_, ⟨_, rfl, rfl⟩, rfl⟩, rfl⟩
    rfl
  · rintro rfl
    exact ⟨_, ⟨_, ⟨_, rfl, rfl⟩, rfl⟩, rfl⟩

lemma getElem?_forms (hunnumbered : m.addition.isZone = true → m.processId = none) :
    forms[m.grammarIndex]? = some (taggedForm m.form m.processId.isSome) := by
  rw [grammarIndex, form]
  cases haddition : m.addition with
  | nothing | year number => cases m.processId <;> rfl
  | zone abbreviation =>
    rw [haddition] at hunnumbered
    rw [hunnumbered rfl]
    rfl

lemma not_reads_first (h : m.Readable) {earlier : List Segment}
    (hearlier : earlier ∈ forms.take 10) : ¬ Reads earlier m.text found := by
  obtain ⟨segments, rfl, hrefuses⟩ := refuses_of_mem_take hearlier
  rw [reads_text]
  rintro ⟨later, hlater, -⟩
  obtain ⟨c, rest, hname⟩ := List.exists_cons_of_ne_nil h.month.ne_nil
  have hstops := hrefuses _ _ hlater
  have hletter := isDecimalDigit_of_isAlpha (h.month.isAlpha (c := c) (by simp [hname]))
  simp [dated, hname, hletter] at hstops

lemma comma_notMem_hostname (h : m.Readable) : ',' ∉ m.hostname := by
  intro hmem
  rcases HostName.isCharacter_of_isValid h.hostname hmem with hcomma | hcomma | hcomma
  all_goals exact absurd hcomma (by decide)

lemma comma_notMem_tagText (h : m.Readable) : ',' ∉ m.tagText := by
  intro hmem
  rcases mem_tagText h hmem with hcomma | ⟨hcomma, -⟩ | hcomma | hcomma
  all_goals exact absurd hcomma (by decide)

theorem exists_words (h : m.Readable) :
    ∃ first second rest, m.afterTime = first ++ ' ' :: (second ++ ' ' :: rest) ∧
      first ∈ Token.nospace.language ∧ second ∈ Token.nospace.language ∧ ',' ∉ second ∧
        Stops isBlank rest := by
  have htag : m.tagText ∈ Token.nospace.language :=
    mem_nospace.2 ⟨List.ne_nil_of_mem m.colon_mem_tagText, isSolid_tagText h⟩
  rw [afterTime]
  split
  · next hzone =>
    exact ⟨_, m.hostname, _, rfl, mem_nospace.2 (isSolid_zone h hzone), hostname_mem h,
      comma_notMem_hostname h, stops_tagText h _⟩
  · exact ⟨m.hostname, m.tagText, _, rfl, hostname_mem h, htag, comma_notMem_tagText h, h.body.2⟩

lemma not_reads_firewall (h : m.Readable) :
    ¬ Reads (Catalog.Bundled.priority ++ firewallForm) m.text found := by
  rw [reads_text]
  rintro ⟨_, hlater, -⟩
  obtain ⟨-, rest, hrest, -⟩ := (reads_monthDayTime h).1 (show Reads (monthDayTime ++
    (Catalog.Bundled.hostname :: .blanks :: ([field .posint "firewallVersion", word ",",
      field .nospace "recievedate"] ++ .blanks :: _))) _ _ from hlater)
  obtain ⟨first, second, last, hwords, hfirst, hsecond, hcomma, hlast⟩ := exists_words h
  rw [hwords, Catalog.Bundled.hostname,
    reads_nospace hfirst (stops_of_mem_nospace hsecond)] at hrest
  obtain ⟨_, hsecondReads, -⟩ := hrest
  obtain ⟨before, _, hbefore, -⟩ :=
    (reads_word _ (by decide) (mem_nospace.1 hsecond).2 hlast).1 hsecondReads
  exact hcomma (hbefore.mem_of_literal (l := [',']) (by decide) (by decide))

lemma not_reads_identified (h : m.Readable) :
    ¬ Reads (Catalog.Bundled.priority ++ identifiedForm) m.text found := by
  rw [reads_text]
  rintro ⟨_, hlater, -⟩
  have hsolid := Token.month.solid_language rfl _ h.month.mem_language
  have hday : Stops isBlank (m.dayDigits ++ ' ' :: m.afterDay) :=
    stops_isBlank (mem_posint.1 (dayDigits_mem h)).1 (isSolid_of_mem_posint (dayDigits_mem h))
  obtain ⟨before, _, hbefore, -⟩ := (reads_word [field .nospace "messageId", word ":"] (by decide)
    hsolid hday).1 hlater
  have hcolon : ':' ∈ m.monthName := hbefore.mem_of_literal (l := [':']) (by decide) (by decide)
  exact absurd (h.month.isAlpha hcolon) (by decide)

lemma not_reads_year (h : m.Readable) (hform : m.form ≠ .year) {numbered : Bool} :
    ¬ Reads (taggedForm .year numbered) m.text found := by
  rw [taggedForm, reads_text]
  rintro ⟨_, hlater, -⟩
  obtain ⟨number, hyear, -⟩ := (reads_monthDayYearTime h).1 hlater
  exact hform (by rw [form, hyear])

lemma not_reads_numbered (h : m.Readable) (hprocess : m.processId = none) :
    ¬ Reads (taggedForm m.form true) m.text found := by
  rw [taggedForm, reads_text]
  simp only [reads_date h, reads_hostname h]
  rintro ⟨_, ⟨_, ⟨_, htag, -⟩, -⟩, -⟩
  exact not_reads_numberedTag h hprocess htag

/-- A form with a zone that takes the host for a zone takes the tag for a host. -/
theorem veto_of_reads_zone (h : m.Readable) (haddition : m.addition = .nothing)
    (hreads : Reads (taggedForm .zone false) m.text found) :
    (Fields.ofList found).veto? ≠ none := by
  rw [taggedForm, reads_text] at hreads
  obtain ⟨_, hdated, rfl⟩ := hreads
  have hafter : m.afterTime = m.hostname ++ ' ' :: (m.tagText ++ ' ' :: m.body) := by
    rw [afterTime, haddition, later]
  rw [DateForm.segments, List.append_assoc, reads_monthDayTime h, hafter] at hdated
  obtain ⟨-, _, hzone, rfl⟩ := hdated
  obtain ⟨-, _, hhost, rfl⟩ := (reads_zoneWord (HostName.isSolid_of_isValid h.hostname)
    (stops_tagText h _)).1 hzone
  have htag : m.tagText ∈ Token.nospace.language :=
    mem_nospace.2 ⟨List.ne_nil_of_mem m.colon_mem_tagText, isSolid_tagText h⟩
  obtain ⟨later, hlater, rfl⟩ := (reads_nospace htag h.body.2).1 hhost
  have hentries : ("facilityCode", ofNat m.priority.encode) :: (m.dayEntries ++ (m.timeEntries ++
      ("timeZone", m.hostname) :: ("hostname", m.tagText) :: later)) =
      (("facilityCode", ofNat m.priority.encode) :: (m.dayEntries ++ (m.timeEntries ++
        [("timeZone", m.hostname)]))) ++ ("hostname", m.tagText) :: later := by simp
  have hlast : "hostname" ∉ later.map Prod.fst := by
    rw [hlater.names]
    decide
  have hget := Fields.get?_ofList_of_last hentries (mem_nospace.1 htag).1 hlast
  intro hveto
  -- the word with the tag has a colon, so it is no host
  rcases (Fields.veto?_eq_none_iff.1 hveto).1 _ hget with hnil | hvalid
  · exact absurd (hnil ▸ m.colon_mem_tagText) (by decide)
  · rcases HostName.isCharacter_of_isValid hvalid m.colon_mem_tagText with hcolon | hcolon | hcolon
    all_goals exact absurd hcolon (by decide)

lemma not_reads_untagged (h : m.Readable) {earlier : List Segment}
    (hearlier : earlier ∈ untaggedForms) : ¬ Reads earlier m.text found := by
  simp only [untaggedForms, List.mem_append, List.mem_cons, List.not_mem_nil, or_false] at hearlier
  rcases hearlier with hfirst | rfl | rfl
  · exact not_reads_first h hfirst
  · exact not_reads_firewall h
  · exact not_reads_identified h

theorem cases_of_mem_take (m : TaggedMessage) {earlier : List Segment}
    (hearlier : earlier ∈ forms.take m.grammarIndex) :
    earlier ∈ untaggedForms ∨ (m.form ≠ .year ∧ ∃ numbered, earlier = taggedForm .year numbered) ∨
      (m.addition = .nothing ∧ earlier = taggedForm .zone false) ∨
      (m.processId = none ∧ earlier = taggedForm m.form true) := by
  rw [grammarIndex] at hearlier
  cases haddition : m.addition with
  | year number =>
    rw [haddition] at hearlier
    cases hprocess : m.processId with
    | some digits =>
      rw [hprocess] at hearlier
      exact .inl hearlier
    | none =>
      rw [hprocess] at hearlier
      change earlier ∈ untaggedForms ++ [taggedForm .year true] at hearlier
      rw [List.mem_append, List.mem_singleton] at hearlier
      exact hearlier.imp_right fun heq => .inr (.inr ⟨rfl, by rw [heq, form, haddition]⟩)
  | zone abbreviation =>
    have hyear : m.form ≠ .year := by simp [form, haddition]
    rw [haddition] at hearlier
    change earlier ∈ untaggedForms ++ [taggedForm .year true, taggedForm .year false] at hearlier
    rw [List.mem_append, List.mem_pair] at hearlier
    rcases hearlier with hfirst | heq | heq
    · exact .inl hfirst
    · exact .inr (.inl ⟨hyear, true, heq⟩)
    · exact .inr (.inl ⟨hyear, false, heq⟩)
  | nothing =>
    have hyear : m.form ≠ .year := by simp [form, haddition]
    have hform : m.form = .nothing := by rw [form, haddition]
    rw [haddition] at hearlier
    have hlater : earlier ∈ untaggedForms ++ [taggedForm .year true, taggedForm .year false,
        taggedForm .zone false] ∨ m.processId = none ∧ earlier = taggedForm .nothing true := by
      cases hprocess : m.processId with
      | some digits =>
        rw [hprocess] at hearlier
        exact .inl hearlier
      | none =>
        rw [hprocess] at hearlier
        change earlier ∈ (untaggedForms ++ [taggedForm .year true, taggedForm .year false,
          taggedForm .zone false]) ++ [taggedForm .nothing true] at hearlier
        rw [List.mem_append, List.mem_singleton] at hearlier
        exact hearlier.imp_right fun heq => ⟨rfl, heq⟩
    simp only [List.mem_append, List.mem_cons, List.not_mem_nil, or_false] at hlater
    rcases hlater with (hfirst | heq | heq | heq) | ⟨hprocess, heq⟩
    · exact .inl hfirst
    · exact .inr (.inl ⟨hyear, true, heq⟩)
    · exact .inr (.inl ⟨hyear, false, heq⟩)
    · exact .inr (.inr (.inl ⟨rfl, heq⟩))
    · exact .inr (.inr (.inr ⟨hprocess, hform ▸ heq⟩))

/-- Every reading of a message by a form before its own is vetoed. -/
theorem veto_of_reads_earlier (h : m.Readable) {earlier : List Segment}
    (hearlier : earlier ∈ forms.take m.grammarIndex) (hreads : Reads earlier m.text found) :
    (Fields.ofList found).veto? ≠ none := by
  rcases m.cases_of_mem_take hearlier with
    hfirst | ⟨hform, numbered, rfl⟩ | ⟨haddition, rfl⟩ | ⟨hprocess, rfl⟩
  · exact absurd hreads (not_reads_untagged h hfirst)
  · exact absurd hreads (not_reads_year h hform)
  · exact veto_of_reads_zone h haddition hreads
  · exact absurd hreads (not_reads_numbered h hprocess)

end TaggedMessage
end Syslog
