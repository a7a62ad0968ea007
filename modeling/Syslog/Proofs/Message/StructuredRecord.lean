import Syslog.Proofs.DateText.Forms
import Syslog.Proofs.DateText.MomentText
import Syslog.Proofs.Message.StructuredReading

/-!
# Records of structured messages

The record of a structured message tells its parts again, and its time is that of the message.
-/
namespace Syslog
open Text Catalog.Bundled

namespace ZoneMark

lemma natAbs_seconds_lt {zone : ZoneMark} (h : zone.WellFormed) : zone.seconds.natAbs < 86400 := by
  cases zone with
  | zulu => decide
  | offset written colon => exact WrittenOffset.natAbs_seconds_lt h

lemma expandOffset_text {written : WrittenOffset} (h : written.WellFormed) (colon : Bool) :
    DateText.expandOffset (written.text colon) = written.text true := by
  have hform : (offset written colon).form.WellFormed := wellFormed_form h
  exact DateText.expandOffset_text hform

end ZoneMark

namespace Stamp

lemma spelledTime {stamp : Stamp} (h : stamp.WellFormed) :
    DateLayout.SpelledTime stamp.time (DateLayout.localParts
      (padded 4 stamp.time.date.year.toNat) (padded 2 stamp.time.date.month)
      (padded 2 stamp.time.date.day) (padded 2 stamp.time.hour) (padded 2 stamp.time.minute)
      (padded 2 stamp.time.second)) :=
  DateLayout.spelledTime_padded h.time h.year.1 h.year.2

/-- What the mark of a zone adds to the text of a date. -/
def zoneText (stamp : Stamp) : Text :=
  match stamp.zone with
  | .zulu => ofString " UTC"
  | .offset written _ => written.text true

def dateText (stamp : Stamp) : Text :=
  padded 2 stamp.time.date.month ++ ['-'] ++ padded 2 stamp.time.date.day ++ ['-'] ++
    padded 4 stamp.time.date.year.toNat ++ [' '] ++
    (padded 2 stamp.time.hour ++ [':'] ++ padded 2 stamp.time.minute ++ [':'] ++
      padded 2 stamp.time.second) ++ stamp.zoneText

lemma seconds?_dateText {stamp : Stamp} (h : stamp.WellFormed) (now : Moment) :
    (∃ layout, DateLayout.ofText? stamp.dateText = some layout) ∧
      DateLayout.seconds? now stamp.dateText =
        some (stamp.time.toSeconds - stamp.zone.seconds) := by
  have hspelled := spelledTime h
  obtain ⟨hlow, hhigh⟩ := h.year
  have hhead := DateLayout.carries_numeric hspelled (DateLayout.spells_padded_month h.time)
  have hzone := h.zone
  rw [dateText, zoneText]
  cases hmark : stamp.zone with
  | zulu =>
    have htail : DateLayout.Carries DateLayout.zone (' ' :: ofString "UTC") _ :=
      DateLayout.carries_zone rfl (by decide)
    have hcarries : DateLayout.Carries DateLayout.numericZone.places _ _ := hhead.append htail
    have hcalendar : LocalTime.inCalendar (stamp.time.toSeconds - 0) = true :=
      LocalTime.inCalendar_of_isValid h.time hlow hhigh (by decide)
    exact ⟨⟨_, hcarries.ofText?⟩, DateLayout.seconds?_of_carries hcarries
      (hspelled.append fun _ _ hne => DateLayout.only_of_ne hne) rfl h.time hcalendar⟩
  | offset written colon =>
    rw [hmark] at hzone
    have hcarries : DateLayout.Carries DateLayout.numericOffset.places _ _ :=
      hhead.append (WrittenOffset.carries hzone)
    have hcalendar := LocalTime.inCalendar_of_isValid h.time hlow hhigh
      (ZoneMark.natAbs_seconds_lt hzone)
    exact ⟨⟨_, hcarries.ofText?⟩, DateLayout.seconds?_of_carries hcarries
      (hspelled.append fun _ hne _ => DateLayout.only_of_ne hne)
      (WrittenOffset.offset?_text hzone) h.time hcalendar⟩

end Stamp

lemma any_fraction_eq_false {fraction : Option Text}
    (h : ∀ digits ∈ fraction, digits ≠ [] ∧ ∀ c ∈ digits, isDecimalDigit c = true) :
    fraction.any (fun digits => digits.getLast? == some 'Z') = false := by
  rw [Option.any_eq_false]
  intro digits hdigits
  refine beq_false_of_ne fun hlast => ?_
  have hdigit := (h digits hdigits).2 'Z' (List.mem_of_getLast? hlast)
  exact absurd hdigit (by decide)

lemma Stamp.zoneText_of_fields {stamp : Stamp} (h : stamp.WellFormed) {fields : Fields}
    (hoffset : fields.get? "timeOffset" = some stamp.zone.text)
    (hfraction : fields.get? "milliseconds" = stamp.fraction)
    (hzone : fields.get? "timeZone" = none) :
    DateText.offsetText fields ++ DateText.zoneText fields = stamp.zoneText := by
  have hmillis : (fields.get? "milliseconds").any (fun digits => digits.getLast? == some 'Z') =
      false := by
    rw [hfraction]
    exact any_fraction_eq_false h.fraction
  have hmark := h.zone
  rw [zoneText]
  cases hcase : stamp.zone with
  | zulu =>
    rw [hcase] at hoffset
    simp [DateText.offsetText, DateText.zoneText, DateText.isZulu, hoffset, ZoneMark.text]
  | offset written colon =>
    rw [hcase] at hoffset hmark
    have hne : written.text colon ≠ ['Z'] := by
      rcases written.sign_eq with hsign | hsign <;> simp [WrittenOffset.text, hsign]
    have hzulu : DateText.isZulu fields = false := by
      rw [DateText.isZulu, hoffset, hmillis, Bool.or_false]
      exact beq_false_of_ne fun heq => hne (Option.some.inj heq)
    have hexpand := ZoneMark.expandOffset_text hmark colon
    simp [DateText.offsetText, DateText.zoneText, ZoneMark.text, hoffset, hne, hexpand, hzulu,
      hzone]

lemma Stamp.values_ne_nil {stamp : Stamp} (h : stamp.WellFormed) :
    ∀ entry ∈ stamp.entries, entry.2 ≠ [] := by
  have hfraction : ∀ digits ∈ stamp.fraction, digits ≠ [] := fun digits hdigits =>
    (h.fraction digits hdigits).1
  have hzone : stamp.zone.text ≠ [] :=
    (stops_of_mem_offset (p := fun _ => false) (by decide) (ZoneMark.text_mem h.zone)).1
  simp only [Stamp.entries]
  cases hcase : stamp.fraction with
  | none => simp [padded_ne_nil, hzone]
  | some digits => simp [padded_ne_nil, hzone, hfraction digits hcase]

namespace StructuredMessage

variable {m : StructuredMessage}

lemma nodup_names (m : StructuredMessage) : (m.entries.map Prod.fst).Nodup := by
  simp only [entries, stampEntries, wordEntries, dataEntries]
  cases m.stamp with
  | none => cases m.body <;> simp
  | some stamp =>
    simp only [Stamp.entries]
    cases stamp.fraction <;> cases m.body <;> simp

lemma values_ne_nil (h : m.WellFormed) : ∀ entry ∈ m.entries, entry.2 ≠ [] := by
  have hstamp : ∀ entry ∈ m.stampEntries, entry.2 ≠ [] := by
    rw [stampEntries]
    split
    · simp
    · next stamp heq => exact Stamp.values_ne_nil (h.stamp stamp heq)
  have hdata : ∀ entry ∈ m.dataEntries, entry.2 ≠ [] := by
    have hsome : m.structuredData ≠ [] := Token.ne_nil_of_structuredData h.structuredData
    rw [dataEntries]
    cases hbody : m.body with
    | none => simpa using hsome
    | some body => simpa using ⟨hsome, (h.body body hbody).1⟩
  have hwords : ∀ entry ∈ m.wordEntries, entry.2 ≠ [] := by
    have hhost := (mem_nospace.1 (hostname_mem h)).1
    have hprocess := (mem_nospace.1 (processName_mem h)).1
    simp [wordEntries, hhost, hprocess, h.processId.1, h.messageId.1]
  intro entry hentry
  simp only [entries, List.mem_cons, List.mem_append] at hentry
  rcases hentry with rfl | rfl | hentry | hentry | hentry
  · exact ofNat_ne_nil _
  · exact h.version.1
  · exact hstamp entry hentry
  · exact hwords entry hentry
  · exact hdata entry hentry

def fields (m : StructuredMessage) : Fields := .ofList m.entries

lemma get?_fields (h : m.WellFormed) {name : String} {value : Text}
    (hmem : (name, value) ∈ m.entries) : m.fields.get? name = some value :=
  Fields.get?_of_mem (nodup_names m) (values_ne_nil h) hmem

lemma get?_fields_eq_none (h : m.WellFormed) {name : String}
    (hname : name ∉ m.entries.map Prod.fst) : m.fields.get? name = none :=
  Fields.get?_of_notMem (nodup_names m) (values_ne_nil h) hname

def names : List String :=
  ["facilityCode", "version", "year", "month", "day", "hours", "minutes", "seconds",
    "milliseconds", "timeOffset", "hostname", "processName", "processId", "messageId",
    "structuredData", "message"]

lemma names_subset (m : StructuredMessage) : m.entries.map Prod.fst ⊆ names := by
  simp only [names, entries, stampEntries, wordEntries, dataEntries]
  cases m.stamp with
  | none => cases m.body <;> simp
  | some stamp =>
    simp only [Stamp.entries]
    cases stamp.fraction <;> cases m.body <;> simp

lemma get?_fields_of_notMem (h : m.WellFormed) {name : String} (hname : name ∉ names) :
    m.fields.get? name = none :=
  get?_fields_eq_none h fun hmem => hname (names_subset m hmem)

lemma get?_milliseconds (h : m.WellFormed) {stamp : Stamp} (hstamp : m.stamp = some stamp) :
    m.fields.get? "milliseconds" = stamp.fraction := by
  cases hfraction : stamp.fraction with
  | none =>
    refine get?_fields_eq_none h ?_
    simp only [entries, stampEntries, hstamp, Stamp.entries, hfraction, wordEntries, dataEntries]
    cases m.body <;> simp
  | some digits =>
    refine get?_fields h ?_
    simp [entries, stampEntries, hstamp, Stamp.entries, hfraction]

lemma ofFields_stamp (h : m.WellFormed) {stamp : Stamp} (hstamp : m.stamp = some stamp)
    (now : Moment) : DateText.ofFields m.fields now = .ok ⟨stamp.dateText, .message⟩ := by
  have hwell := h.stamp stamp hstamp
  have hget : ∀ {name value}, (name, value) ∈ stamp.entries → m.fields.get? name = some value :=
    fun hmem => get?_fields h (by simp [entries, stampEntries, hstamp, hmem])
  have hholds : DateText.HoldsPadded m.fields stamp.time := by
    constructor <;> exact hget (by simp [Stamp.entries])
  have hzoneText := stamp.zoneText_of_fields hwell (hget (by simp [Stamp.entries]))
    (get?_milliseconds h hstamp)
    (get?_fields_of_notMem h (by simp [names]))
  have hparts : DateText.ofParts now.localTime m.fields = stamp.dateText := by
    rw [hholds.ofParts_eq hwell.time hwell.year.1 hwell.year.2, hzoneText]
    rfl
  obtain ⟨layout, hlayout⟩ := (stamp.seconds?_dateText hwell now).1
  rw [← hparts] at hlayout ⊢
  exact DateText.ofFields_of_parts
    (get?_fields_of_notMem h (by simp [names])) hholds.hour hlayout

lemma names_subset_of_nil (hstamp : m.stamp = none) :
    m.entries.map Prod.fst ⊆ ["facilityCode", "version", "hostname", "processName", "processId",
      "messageId", "structuredData", "message"] := by
  simp only [entries, stampEntries, hstamp, wordEntries, dataEntries]
  cases m.body <;> simp

lemma tellsNoDate_of_nil (h : m.WellFormed) (hstamp : m.stamp = none) : m.fields.TellsNoDate := by
  have hdisjoint : ∀ name ∈ "date" :: DateText.partNames, name ∉ ["facilityCode", "version",
      "hostname", "processName", "processId", "messageId", "structuredData", "message"] := by decide
  intro name hname
  exact get?_fields_eq_none h fun hmem => hdisjoint name hname (names_subset_of_nil hstamp hmem)

theorem exists_instant (h : m.WellFormed) {now : Moment} (hoffset : now.offset.natAbs < 86400)
    (hyear : m.stamp = none →
      0 ≤ now.localTime.date.year ∧ now.localTime.date.year ≤ 9999) :
    ∃ date, DateText.ofFields m.fields now = .ok date ∧
      ∀ index, Reading.instant ⟨index, m.fields, date⟩ now = .ok (m.instant now) := by
  cases hstamp : m.stamp with
  | none =>
    obtain ⟨hlow, hhigh⟩ := hyear hstamp
    refine ⟨_, DateText.ofFields_eq_clock (tellsNoDate_of_nil h hstamp) hlow hhigh hoffset,
      fun index => ?_⟩
    rw [instant, hstamp]
    rfl
  | some stamp =>
    refine ⟨_, ofFields_stamp h hstamp now, fun index => ?_⟩
    have hseconds := (stamp.seconds?_dateText (h.stamp stamp hstamp) now).2
    simp only [Reading.instant, hseconds, instant, hstamp, Stamp.instant]

lemma get?_message (h : m.WellFormed) : m.fields.get? "message" = m.body := by
  cases hbody : m.body with
  | none =>
    refine get?_fields_eq_none h ?_
    simp only [entries, stampEntries, wordEntries, dataEntries, hbody]
    cases m.stamp with
    | none => simp
    | some stamp =>
      simp only [Stamp.entries]
      cases stamp.fraction <;> simp
  | some body =>
    refine get?_fields h ?_
    simp [entries, dataEntries, hbody]

lemma value?_word (h : m.WellFormed) (name : String) (value : Text)
    (hmem : (name, value) ∈ m.wordEntries)
    (hvalue : value ∈ [m.hostname, m.processName, m.processId, m.messageId]) :
    m.fields.value? name = Fields.told value := by
  have hentry : (name, value) ∈ m.entries := by simp [entries, hmem]
  exact Fields.value?_of_get? (get?_fields h hentry) (values_ne_nil h _ hentry)
    (h.unmarked value (List.mem_append_left _ hvalue))

lemma unmarked_structuredData (h : m.WellFormed) : Fields.Unmarked m.structuredData := by
  rcases h.structuredData with hnil | hdata
  · rw [hnil]
    exact Fields.unmarked_of_head (by decide) (by decide)
  · cases hcase : m.structuredData with
    | nil => exact absurd (hcase ▸ hdata) (Token.ElementState.nil_notMem .between)
    | cons c t =>
      rw [hcase] at hdata
      rw [(Token.cons_mem_between.1 hdata).1]
      exact Fields.unmarked_of_head (by decide) (by decide)

lemma value?_structuredData (h : m.WellFormed) :
    m.fields.value? "structuredData" = Fields.told m.structuredData := by
  have hentry : ("structuredData", m.structuredData) ∈ m.entries := by
    simp [entries, dataEntries]
  exact Fields.value?_of_get? (get?_fields h hentry) (values_ne_nil h _ hentry)
    (unmarked_structuredData h)

lemma body_fields (h : m.WellFormed) : m.fields.body = m.body.getD [] := by
  have hversion : m.fields.get? "firewallVersion" = none :=
    get?_fields_of_notMem h (by simp [names])
  rw [Fields.body_of_get? hversion]
  cases hbody : m.body with
  | none =>
    rw [Fields.value?_of_get?_eq_none ((get?_message h).trans hbody)]
  | some body =>
    obtain ⟨hne, -, hnil, -⟩ := h.body body hbody
    have hunmarked := h.unmarked body (by simp [hbody])
    rw [Fields.value?_of_get? ((get?_message h).trans hbody) hne hunmarked, Fields.told,
      if_neg hnil]

lemma number_processId (h : m.WellFormed) :
    m.fields.number "processId" = (integer? half64 m.processId).getD 0 := by
  rw [Fields.number, value?_word h "processId" m.processId (by simp [wordEntries]) (by simp),
    Fields.told]
  split
  · next hnil =>
    rw [hnil]
    rfl
  · rfl

lemma withTime_fields (h : m.WellFormed) (now : Moment) (date : DateText) :
    Record.withTime ⟨m.grammarIndex, m.fields, date⟩ none (m.instant now) false =
      m.record now := by
  have hpriority : m.fields.priority? = some m.priority :=
    Fields.priority?_of_get? (get?_fields h (by simp [entries]))
  have hversion : m.fields.number "version" = m.versionNumber :=
    Fields.number_of_digits (get?_fields h (by simp [entries])) h.version.1 h.version.2
      h.versionNumber.2
  simp only [Record.withTime, record, hpriority, hversion, number_processId h,
    value?_structuredData h, body_fields h, Option.map_some,
    value?_word h "hostname" m.hostname (by simp [wordEntries]) (by simp),
    value?_word h "processName" m.processName (by simp [wordEntries])
      (by simp),
    value?_word h "messageId" m.messageId (by simp [wordEntries]) (by simp)]

lemma veto?_fields (h : m.WellFormed) : m.fields.veto? = none :=
  Fields.veto?_eq_none (get?_fields h (by simp [entries, wordEntries]))
    (get?_fields h (by simp [entries, wordEntries])) h.hostname
    (h.processName.imp_right And.right)

lemma deliverable (h : m.WellFormed) : Deliverable m.text := by
  refine ⟨h.free, fun c hc => ?_, h.fits⟩
  obtain ⟨before, htext⟩ : ∃ before, m.text = before ++ (m.structuredData ++ m.bodyText) :=
    ⟨'<' :: (ofNat m.priority.encode ++ '>' :: (m.version ++ ' ' :: (m.stampText ++ ' ' ::
      (m.hostname ++ ' ' :: (m.processName ++ ' ' :: (m.processId ++ ' ' ::
        (m.messageId ++ [' ']))))))), by simp [text, later]⟩
  have hdata : m.structuredData.getLast? = some '-' ∨ m.structuredData.getLast? = some ']' :=
    Token.getLast?_structuredData h.structuredData
  rw [htext, List.getLast?_append, List.getLast?_append, bodyText] at hc
  cases hbody : m.body with
  | none =>
    rcases hdata with hlast | hlast <;> simp [hbody, hlast] at hc <;> rw [← hc] <;> rfl
  | some body =>
    obtain ⟨hne, -, -, hends⟩ := h.body body hbody
    obtain ⟨last, hlast⟩ := Option.ne_none_iff_exists'.1 (mt List.getLast?_eq_none_iff.1 hne)
    have htail : (' ' :: body).getLast? = some last := by
      rw [List.getLast?_cons, hlast]
      rfl
    simp only [hbody, htail, Option.some_or, Option.mem_some_iff] at hc
    exact hends c (hc ▸ hlast)

end StructuredMessage

end Syslog
