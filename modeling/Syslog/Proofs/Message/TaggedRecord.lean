import Syslog.Proofs.Message.TaggedReading

/-!
# Records of tagged messages

The record of a tagged message tells its parts again. Its time is the date of the message, with the
year and the offset of the clock where the message tells none.
-/
namespace Syslog
open Text

namespace TaggedMessage

variable {m : TaggedMessage} {now : Moment}

/-- The clock shows a year of four digits in which the date of the message is one. -/
structure Datable (m : TaggedMessage) (now : Moment) : Prop where
  year : 1000 ≤ now.localTime.date.year ∧ now.localTime.date.year ≤ 9999
  offset : now.offset.natAbs < 86400
  time : (m.time now).isValid = true

def yearText (m : TaggedMessage) (now : Moment) : Text :=
  match m.addition with
  | .year number => padded 4 number
  | _ => ofInt now.localTime.date.year

def zoneText (m : TaggedMessage) : Text :=
  match m.addition with
  | .zone abbreviation => ' ' :: abbreviation
  | _ => []

def dateText (m : TaggedMessage) (now : Moment) : Text :=
  DateText.abbreviate m.monthName ++ [' '] ++ DateText.twoPlaces m.dayDigits ++ [' '] ++
    m.yearText now ++ [' '] ++ (padded 2 m.hour ++ [':'] ++ padded 2 m.minute ++ [':'] ++
      padded 2 m.second) ++ m.zoneText

lemma year_bounds (h : m.Readable) (hdate : m.Datable now) :
    0 ≤ m.year now ∧ m.year now ≤ 9999 := by
  have hclock := hdate.year
  have haddition := h.addition
  rw [year]
  cases hcase : m.addition with
  | year number =>
    rw [hcase] at haddition
    have hnumber : number ≤ 9999 := haddition
    simp only
    omega
  | nothing | zone abbreviation =>
    simp only
    omega

lemma spells_yearText (h : m.Readable) (hdate : m.Datable now) :
    ∃ n : ℕ, Spells 4 (m.yearText now) n ∧ m.year now = n := by
  obtain ⟨hlow, hhigh⟩ := hdate.year
  have haddition := h.addition
  have hclock := spells_ofInt hlow hhigh
  rw [yearText, year]
  cases hcase : m.addition with
  | year number =>
    rw [hcase] at haddition
    exact ⟨number, spells_padded (by decide) (Nat.lt_succ_of_le haddition), rfl⟩
  | nothing | zone abbreviation => exact ⟨_, hclock, by simp only; omega⟩

lemma spelledTime (h : m.Readable) (hdate : m.Datable now) :
    DateLayout.SpelledTime (m.time now) (DateLayout.localParts (m.yearText now)
      (DateText.abbreviate m.monthName) (DateText.twoPlaces m.dayDigits) (padded 2 m.hour)
      (padded 2 m.minute) (padded 2 m.second)) := by
  obtain ⟨-, hhour, hminute, hsecond⟩ := LocalTime.isValid_iff.1 hdate.time
  have hhour : m.hour < 24 := hhour
  have hminute : m.minute < 60 := hminute
  have hsecond : m.second < 60 := hsecond
  have htwo : ∀ {n}, n < 100 → Spells 2 (padded 2 n) n := fun hn => spells_padded (by decide) hn
  exact ⟨spells_yearText h hdate, h.month.month?_abbreviate, spells_twoPlaces h.day,
    htwo (by omega), htwo (by omega), htwo (by omega)⟩

lemma offset_bound (m : TaggedMessage) (hoffset : now.offset.natAbs < 86400) :
    (m.offset now).natAbs < 86400 := by
  rw [offset]
  cases m.addition with
  | nothing | year number => exact hoffset
  | zone abbreviation =>
    simp only
    cases hzone : Zone.offset? abbreviation with
    | none => exact hoffset
    | some seconds => exact Zone.natAbs_lt hzone

lemma seconds?_dateText (h : m.Readable) (hdate : m.Datable now) :
    (∃ layout, DateLayout.ofText? (m.dateText now) = some layout) ∧
      DateLayout.seconds? now (m.dateText now) =
        some ((m.time now).toSeconds - m.offset now) := by
  have hspelled := spelledTime h hdate
  have hhead := DateLayout.carries_named hspelled h.month.admits_abbreviate
  obtain ⟨hlow, hhigh⟩ := year_bounds h hdate
  have hcalendar := LocalTime.inCalendar_of_isValid hdate.time hlow hhigh
    (m.offset_bound hdate.offset)
  have haddition := h.addition
  rw [dateText, zoneText]
  rw [offset] at hcalendar ⊢
  cases hcase : m.addition with
  | nothing | year number =>
    rw [hcase] at hcalendar
    have hcarries : DateLayout.Carries DateLayout.monthDayYearTime.places _ _ := hhead
    rw [List.append_nil]
    exact ⟨⟨_, hcarries.ofText?⟩,
      DateLayout.seconds?_of_carries hcarries hspelled rfl hdate.time hcalendar⟩
  | zone abbreviation =>
    rw [hcase] at hcalendar haddition
    obtain ⟨hlength, habbreviation⟩ := haddition
    obtain ⟨seconds, hseconds⟩ := Option.isSome_iff_exists.1 habbreviation
    have htail := DateLayout.carries_zone hlength fun c => Zone.isUpper_of_mem habbreviation
    have hcarries : DateLayout.Carries DateLayout.monthDayYearTimeZone.places _ _ :=
      hhead.append htail
    refine ⟨⟨_, hcarries.ofText?⟩, DateLayout.seconds?_of_carries hcarries
      (hspelled.append fun _ _ hne => DateLayout.only_of_ne hne) ?_ hdate.time hcalendar⟩
    obtain ⟨a, b, c, rfl⟩ := List.length_eq_three.1 hlength
    simp [DateLayout.spelledOffset?, DateLayout.localParts, DateLayout.only, hseconds]

def names : List String :=
  ["facilityCode", "month", "day", "year", "hours", "minutes", "seconds", "timeZone", "hostname",
    "processName", "processId", "message"]

lemma names_subset (m : TaggedMessage) : m.entries.map Prod.fst ⊆ names := by
  simp only [names, entries, dateEntries, tagEntries, dayEntries, timeEntries]
  cases m.addition <;> cases m.processId <;> simp

lemma nodup_names (m : TaggedMessage) : (m.entries.map Prod.fst).Nodup := by
  simp only [entries, dateEntries, tagEntries, dayEntries, timeEntries]
  cases m.addition <;> cases m.processId <;> simp

lemma values_ne_nil (h : m.Readable) : ∀ entry ∈ m.entries, entry.2 ≠ [] := by
  have hday := (Catalog.Bundled.mem_posint.1 (dayDigits_mem h)).1
  have hhost := HostName.ne_nil_of_isValid h.hostname
  have htag := (Catalog.Bundled.mem_nospace.1 (tag_mem h)).1
  have hprocess : ∀ digits, m.processId = some digits → digits ≠ [] := fun digits hdigits =>
    (h.processId digits hdigits).1
  have hdate : ∀ entry ∈ m.dateEntries, entry.2 ≠ [] := by
    rw [dateEntries]
    cases haddition : m.addition with
    | nothing | year number =>
      simp [dayEntries, timeEntries, h.month.ne_nil, hday, padded_ne_nil]
    | zone abbreviation =>
      simp [dayEntries, timeEntries, h.month.ne_nil, hday, padded_ne_nil,
        (isSolid_zone h haddition).1]
  have htags : ∀ entry ∈ m.tagEntries, entry.2 ≠ [] := by
    rw [tagEntries]
    cases hcase : m.processId with
    | none => simp [htag, h.body.1]
    | some digits => simp [htag, h.body.1, hprocess digits hcase]
  intro entry hentry
  simp only [entries, List.mem_cons, List.mem_append] at hentry
  rcases hentry with rfl | hentry | rfl | hentry
  · exact ofNat_ne_nil _
  · exact hdate entry hentry
  · exact hhost
  · exact htags entry hentry

def fields (m : TaggedMessage) : Fields := .ofList m.entries

lemma get?_fields (h : m.Readable) {name : String} {value : Text}
    (hmem : (name, value) ∈ m.entries) : m.fields.get? name = some value :=
  Fields.get?_of_mem (nodup_names m) (values_ne_nil h) hmem

lemma get?_fields_eq_none (h : m.Readable) {name : String}
    (hname : name ∉ m.entries.map Prod.fst) : m.fields.get? name = none :=
  Fields.get?_of_notMem (nodup_names m) (values_ne_nil h) hname

lemma get?_fields_of_notMem (h : m.Readable) {name : String} (hname : name ∉ names) :
    m.fields.get? name = none :=
  get?_fields_eq_none h fun hmem => hname (names_subset m hmem)

lemma get?_date (h : m.Readable) {name : String} {value : Text}
    (hmem : (name, value) ∈ m.dateEntries) : m.fields.get? name = some value :=
  get?_fields h (by simp [entries, hmem])

lemma get?_day (h : m.Readable) {name : String} {value : Text}
    (hmem : (name, value) ∈ m.dayEntries ++ m.timeEntries) : m.fields.get? name = some value := by
  refine get?_date h ?_
  rw [List.mem_append] at hmem
  rw [dateEntries]
  rcases hmem with hmem | hmem <;> cases m.addition <;> simp [hmem]

lemma get?_year (h : m.Readable) :
    (m.fields.get? "year").getD (ofInt now.localTime.date.year) = m.yearText now := by
  rw [yearText]
  cases haddition : m.addition with
  | year number =>
    have hget : m.fields.get? "year" = some (padded 4 number) :=
      get?_date h (by simp [dateEntries, haddition])
    rw [hget, Option.getD_some]
  | nothing | zone abbreviation =>
    rw [get?_fields_eq_none h]
    · rfl
    · simp only [entries, dateEntries, haddition, dayEntries, timeEntries, tagEntries]
      cases m.processId <;> simp

lemma get?_zone (h : m.Readable) :
    ((m.fields.get? "timeZone").map (' ' :: ·)).getD [] = m.zoneText := by
  rw [zoneText]
  cases haddition : m.addition with
  | zone abbreviation =>
    have hget : m.fields.get? "timeZone" = some abbreviation :=
      get?_date h (by simp [dateEntries, haddition])
    rw [hget, Option.map_some, Option.getD_some]
  | nothing | year number =>
    rw [get?_fields_eq_none h]
    · rfl
    · simp only [entries, dateEntries, haddition, dayEntries, timeEntries, tagEntries]
      cases m.processId <;> simp

lemma ofFields_eq (h : m.Readable) (hdate : m.Datable now) :
    DateText.ofFields m.fields now = .ok ⟨m.dateText now, .message⟩ := by
  have hspelled := spelledTime h hdate
  have hday : m.fields.get? "day" = some m.dayDigits := get?_day h (by simp [dayEntries])
  have hholds : DateText.HoldsTime m.fields (m.time now) (DateText.twoPlaces m.dayDigits)
      (padded 2 m.hour) (padded 2 m.minute) (padded 2 m.second) :=
    ⟨⟨by rw [hday]; rfl, hspelled.day⟩,
      ⟨get?_day h (by simp [timeEntries]), hspelled.hour⟩,
      ⟨get?_day h (by simp [timeEntries]), hspelled.minute⟩,
      ⟨get?_day h (by simp [timeEntries]), hspelled.second⟩⟩
  have hoffset : m.fields.get? "timeOffset" = none := get?_fields_of_notMem h (by simp [names])
  have hmillis : m.fields.get? "milliseconds" = none := get?_fields_of_notMem h (by simp [names])
  have hzone : DateText.offsetText m.fields ++ DateText.zoneText m.fields = m.zoneText := by
    simp [DateText.offsetText, DateText.zoneText, DateText.isZulu, hoffset, hmillis, get?_zone h]
  have hmonth := h.month.monthText (get?_day h (by simp [dayEntries])) now.localTime
  have hparts : DateText.ofParts now.localTime m.fields = m.dateText now := by
    rw [DateText.ofParts_eq hholds (get?_year h) hmonth, hzone, h.month.all_isDigit_abbreviate]
    rfl
  obtain ⟨layout, hlayout⟩ := (seconds?_dateText h hdate).1
  rw [← hparts] at hlayout ⊢
  exact DateText.ofFields_of_parts (get?_fields_of_notMem h (by simp [names])) hholds.hour.1 hlayout

lemma instant_eq (h : m.Readable) (hdate : m.Datable now) (index : ℕ) :
    Reading.instant ⟨index, m.fields, ⟨m.dateText now, .message⟩⟩ now = .ok (m.instant now) := by
  simp only [Reading.instant, (seconds?_dateText h hdate).2, instant]

lemma hostname_ne_nilValue (h : m.Readable) : m.hostname ≠ nilValue := by
  intro hnil
  exact absurd (hnil ▸ h.hostname) (by decide)

lemma number_processId (h : m.Readable) : m.fields.number "processId" =
    ((m.processId.map fun digits => Nat.ofDigitChars 10 digits 0).getD 0 : ℕ) := by
  cases hprocess : m.processId with
  | none =>
    refine Fields.number_of_get?_eq_none (get?_fields_eq_none h ?_)
    simp only [entries, dateEntries, dayEntries, timeEntries, tagEntries, hprocess]
    cases m.addition <;> simp
  | some digits =>
    obtain ⟨hne, hdigits, hhalf⟩ := h.processId digits hprocess
    exact Fields.number_of_digits (get?_fields h (by simp [entries, tagEntries, hprocess])) hne
      hdigits hhalf

lemma body_fields (h : m.Readable) : m.fields.body = (Fields.meaning? m.body).getD [] := by
  have hversion : m.fields.get? "firewallVersion" = none :=
    get?_fields_of_notMem h (by simp [names])
  have hmessage : m.fields.get? "message" = some m.body :=
    get?_fields h (by simp [entries, tagEntries])
  rw [Fields.body_of_get? hversion, Fields.value?, hmessage, Option.bind_some]

/-- The record of a message, with what its body means. -/
def meantRecord (m : TaggedMessage) (now : Moment) : Record :=
  { m.record now with message := (Fields.meaning? m.body).getD [] }

lemma withTime_fields (h : m.Readable) (hhost : Fields.Unmarked m.hostname)
    (htag : Fields.Unmarked m.tag) (now : Moment) (date : DateText) :
    Record.withTime ⟨m.grammarIndex, m.fields, date⟩ none (m.instant now) false =
      m.meantRecord now := by
  have hpriority : m.fields.priority? = some m.priority :=
    Fields.priority?_of_get? (get?_fields h (by simp [entries]))
  have hhostname : m.fields.value? "hostname" = some m.hostname := by
    have hget : m.fields.get? "hostname" = some m.hostname := get?_fields h (by simp [entries])
    rw [Fields.value?_of_get? hget (HostName.ne_nil_of_isValid h.hostname) hhost, Fields.told,
      if_neg (hostname_ne_nilValue h)]
  have hprocessName : m.fields.value? "processName" = Fields.told m.tag :=
    Fields.value?_of_get? (get?_fields h (by simp [entries, tagEntries]))
      (Catalog.Bundled.mem_nospace.1 (tag_mem h)).1 htag
  have hversion : m.fields.number "version" = 0 :=
    Fields.number_of_get?_eq_none (get?_fields_of_notMem h (by simp [names]))
  have hmessageId : m.fields.value? "messageId" = none :=
    Fields.value?_of_get?_eq_none (get?_fields_of_notMem h (by simp [names]))
  have hdata : m.fields.value? "structuredData" = none :=
    Fields.value?_of_get?_eq_none (get?_fields_of_notMem h (by simp [names]))
  simp only [Record.withTime, meantRecord, record, hpriority, hhostname, hprocessName, hversion,
    hmessageId, hdata, number_processId h, body_fields h, Option.map_some]

lemma veto?_fields (h : m.Readable) : m.fields.veto? = none :=
  Fields.veto?_eq_none (get?_fields h (by simp [entries]))
    (get?_fields h (by simp [entries, tagEntries])) (.inr h.hostname) (.inr h.tag.2)

lemma getLast?_text (hbody : m.body ≠ []) : m.text.getLast? = m.body.getLast? := by
  rw [text_eq, List.getLast?_append, List.getLast?_cons_of_ne_nil hbody]
  obtain ⟨last, hlast⟩ := Option.ne_none_iff_exists'.1 (mt List.getLast?_eq_none_iff.1 hbody)
  rw [hlast, Option.some_or]

lemma deliverable (h : m.WellFormed) : Deliverable m.text :=
  ⟨h.free, fun c hc => h.ending.2 c (getLast?_text h.body.1 ▸ hc), h.fits⟩

lemma meantRecord_eq (h : m.WellFormed) (now : Moment) : m.meantRecord now = m.record now := by
  have hmeaning : Fields.meaning? m.body = some m.body := by
    rw [Fields.meaning?_eq_told h.body.1 (h.unmarked m.body (by simp)), Fields.told,
      if_neg h.ending.1]
  simp only [meantRecord, hmeaning, Option.getD_some, record]

end TaggedMessage
end Syslog
