import Syslog.Proofs.DateText.Timestamps
import Syslog.Proofs.Message.IsoReading
import Syslog.Proofs.Message.StructuredRecord
import Syslog.Proofs.Record.Names

/-!
# Records of messages with a time in numbers

The record of a message tells its parts again. Its time is that of the message without the fraction,
by the zone of the message or else by the clock, however the time is spread over the fields.
-/
namespace Syslog
open Text Catalog.Bundled

lemma DateLayout.exists_of_seconds? {now : Moment} {t : Text} {seconds : ℤ}
    (h : seconds? now t = some seconds) : ∃ layout, ofText? t = some layout := by
  rw [seconds?] at h
  obtain ⟨layout, hlayout, -⟩ := Option.bind_eq_some_iff.1 h
  exact ⟨layout, hlayout⟩

lemma LocalTime.notMem_text {t : LocalTime} (hlow : 0 ≤ t.date.year) (hhigh : t.date.year ≤ 9999)
    {c : Char} (hdigit : c.isDigit = false) (hmarks : c ∉ ['-', 'T', ':']) : c ∉ t.text := by
  rw [← List.append_nil t.text, text_append hlow hhigh]
  simpa [notMem_padded hdigit] using hmarks

namespace IsoTime

variable {time : IsoTime} {now : Moment} {digits : Text} {written : WrittenOffset}
  {colon : Bool}

/-- The seconds since the start of 1970 in UTC, by the zone of the time or else by the clock. -/
def seconds (time : IsoTime) (now : Moment) : ℤ :=
  time.time.toSeconds - (time.zone.map ZoneMark.seconds).getD now.offset

def stamp (time : IsoTime) (zone : ZoneMark) : Stamp := ⟨time.time, time.fraction, zone⟩

lemma wellFormed_stamp (h : time.WellFormed) (hvalid : time.time.isValid = true) {zone : ZoneMark}
    (hzone : time.zone = some zone) : (time.stamp zone).WellFormed :=
  ⟨hvalid, h.year, h.fraction, h.zone zone hzone⟩

/-- What the zone adds to the text of a time that is told in parts. -/
def partsZone (time : IsoTime) : Text :=
  match time.zone with
  | none => []
  | some zone => (time.stamp zone).zoneText

lemma seconds?_parts (h : time.WellFormed) (hvalid : time.time.isValid = true)
    (hoffset : now.offset.natAbs < 86400) :
    DateLayout.seconds? now (time.time.numericText ++ time.partsZone) =
      some (time.seconds now) := by
  rw [partsZone, seconds]
  cases hzone : time.zone with
  | none =>
    have hspelled := DateLayout.spelledTime_padded hvalid h.year.1 h.year.2
    have hcarries : DateLayout.Carries DateLayout.numeric.places _ _ :=
      DateLayout.carries_numeric hspelled (DateLayout.spells_padded_month hvalid)
    have hcalendar := LocalTime.inCalendar_of_isValid hvalid h.year.1 h.year.2 hoffset
    rw [List.append_nil]
    exact DateLayout.seconds?_of_carries hcarries hspelled rfl hvalid hcalendar
  | some zone => exact ((time.stamp zone).seconds?_dateText (wellFormed_stamp h hvalid hzone) now).2

lemma seconds?_whole (h : time.WellFormed) (hvalid : time.time.isValid = true)
    (hzone : time.zone = some (.offset written colon)) (now : Moment) :
    DateLayout.seconds? now (time.time.text ++ written.text true) =
      some (time.seconds now) := by
  have hspelled := DateLayout.spelledTime_padded hvalid h.year.1 h.year.2
  have hmark := h.zone _ hzone
  have hcarries : DateLayout.Carries DateLayout.isoOffset.places _ _ :=
    (DateLayout.carries_iso hspelled (DateLayout.spells_padded_month hvalid)).append
      (WrittenOffset.carries hmark)
  have hcalendar := LocalTime.inCalendar_of_isValid hvalid h.year.1 h.year.2
    (WrittenOffset.natAbs_seconds_lt hmark)
  have hseconds : DateLayout.seconds? now _ = _ := DateLayout.seconds?_of_carries hcarries
    (hspelled.append fun _ hne _ => DateLayout.only_of_ne hne)
    (WrittenOffset.offset?_text hmark) hvalid hcalendar
  rw [seconds, hzone, LocalTime.text_append h.year.1 h.year.2]
  simpa [ZoneMark.seconds] using hseconds

lemma partEntries_subset (hparts : time.form ≠ .joined) : time.partEntries ⊆ time.entries := by
  obtain ⟨_, fraction, zone⟩ := time
  rcases fraction with _ | digits <;> rcases zone with _ | (_ | _)
  case some.some.offset => exact absurd rfl hparts
  all_goals simp [entries]

lemma date_notMem (hparts : time.form ≠ .joined) : "date" ∉ time.entries.map Prod.fst := by
  obtain ⟨_, fraction, zone⟩ := time
  rcases fraction with _ | digits <;> rcases zone with _ | (_ | _)
  case some.some.offset => exact absurd rfl hparts
  all_goals simp [entries, partEntries]

lemma values_ne_nil (h : time.WellFormed) : ∀ entry ∈ time.entries, entry.2 ≠ [] := by
  have hparts : ∀ entry ∈ time.partEntries, entry.2 ≠ [] := by simp [partEntries, padded_ne_nil]
  rw [entries]
  cases hfraction : time.fraction with
  | none =>
    cases hzone : time.zone with
    | none => exact hparts
    | some zone =>
      have hne := (stops_of_mem_offset (p := fun _ => false) (by decide)
        (ZoneMark.text_mem (h.zone zone hzone))).1
      simpa [or_imp, forall_and, hne] using hparts
  | some digits =>
    have hne := (h.fraction digits hfraction).1
    cases time.zone with
    | none => simpa [or_imp, forall_and, hne] using hparts
    | some zone =>
      cases zone with
      | zulu => simpa [or_imp, forall_and] using hparts
      | offset written colon => simp [text, fractionText, hfraction]

end IsoTime

namespace IsoMessage

variable {m : IsoMessage} {now : Moment}

def names : List String :=
  ["facilityCode", "year", "month", "day", "hours", "minutes", "seconds", "milliseconds",
    "timeOffset", "date", "hostname", "processName", "message"]

lemma names_subset (m : IsoMessage) : m.entries.map Prod.fst ⊆ names := by
  rw [entries, IsoTime.entries]
  split <;> simp [IsoTime.partEntries, laterEntries, names]

lemma nodup_names (m : IsoMessage) : (m.entries.map Prod.fst).Nodup := by
  rw [entries, IsoTime.entries]
  split <;> simp [IsoTime.partEntries, laterEntries]

lemma values_ne_nil (h : m.WellFormed) : ∀ entry ∈ m.entries, entry.2 ≠ [] := by
  have hhost := HostName.ne_nil_of_isValid h.hostname
  have htag := (mem_nospace.1 (tag_mem h)).1
  have htime := IsoTime.values_ne_nil h.time.1
  intro entry hentry
  simp only [entries, List.mem_cons, List.mem_append] at hentry
  rcases hentry with rfl | hentry | hentry
  · exact ofNat_ne_nil _
  · exact htime entry hentry
  · revert entry
    simp [laterEntries, hhost, htag, h.body.1]

def fields (m : IsoMessage) : Fields := .ofList m.entries

lemma get?_fields (h : m.WellFormed) {name : String} {value : Text}
    (hmem : (name, value) ∈ m.entries) : m.fields.get? name = some value :=
  Fields.get?_of_mem (nodup_names m) (values_ne_nil h) hmem

lemma get?_fields_eq_none (h : m.WellFormed) {name : String}
    (hname : name ∉ m.entries.map Prod.fst) : m.fields.get? name = none :=
  Fields.get?_of_notMem (nodup_names m) (values_ne_nil h) hname

lemma get?_fields_of_notMem (h : m.WellFormed) {name : String} (hname : name ∉ names) :
    m.fields.get? name = none :=
  get?_fields_eq_none h fun hmem => hname (names_subset m hmem)

lemma get?_time (h : m.WellFormed) {name : String} {value : Text}
    (hmem : (name, value) ∈ m.time.entries) : m.fields.get? name = some value :=
  get?_fields h (by simp [entries, hmem])

lemma get?_time_eq_none (h : m.WellFormed) {name : String}
    (hname : name ∉ m.time.entries.map Prod.fst)
    (hother : name ∉ ["facilityCode", "hostname", "processName", "message"]) :
    m.fields.get? name = none := by
  refine get?_fields_eq_none h ?_
  simp only [entries, laterEntries, List.map_cons, List.map_append, List.map_nil, List.mem_cons,
    List.mem_append, List.not_mem_nil, or_false] at hother ⊢
  tauto

lemma zoneText_fields (h : m.WellFormed) (hparts : m.time.form ≠ .joined) :
    DateText.offsetText m.fields ++ DateText.zoneText m.fields = m.time.partsZone := by
  have hzoneField : m.fields.get? "timeZone" = none := get?_fields_of_notMem h (by decide)
  rw [IsoTime.partsZone]
  cases hzone : m.time.zone with
  | none =>
    have hoffset : m.fields.get? "timeOffset" = none := by
      refine get?_time_eq_none h ?_ (by decide)
      rw [IsoTime.entries, hzone]
      cases m.time.fraction <;> simp [IsoTime.partEntries]
    have hmillis : m.fields.get? "milliseconds" = m.time.fraction := by
      cases hfraction : m.time.fraction with
      | none =>
        refine get?_time_eq_none h ?_ (by decide)
        simp [IsoTime.entries, IsoTime.partEntries, hfraction, hzone]
      | some digits => exact get?_time h (by simp [IsoTime.entries, hfraction, hzone])
    have hzulu : DateText.isZulu m.fields = false := by
      rw [DateText.isZulu, hoffset, hmillis, any_fraction_eq_false h.time.1.fraction]
      rfl
    simp [DateText.offsetText, DateText.zoneText, hoffset, hzulu, hzoneField]
  | some zone =>
    cases hfraction : m.time.fraction with
    | none =>
      have hoffset : m.fields.get? "timeOffset" = some zone.text :=
        get?_time h (by simp [IsoTime.entries, hfraction, hzone])
      have hmillis : m.fields.get? "milliseconds" = none := by
        refine get?_time_eq_none h ?_ (by decide)
        simp [IsoTime.entries, IsoTime.partEntries, hfraction, hzone]
      exact Stamp.zoneText_of_fields (IsoTime.wellFormed_stamp h.time.1 h.time.2 hzone) hoffset
        (hmillis.trans hfraction.symm) hzoneField
    | some digits =>
      -- a Z after a fraction is part of its field
      cases zone with
      | zulu =>
        have hoffset : m.fields.get? "timeOffset" = none := by
          refine get?_time_eq_none h ?_ (by decide)
          simp [IsoTime.entries, IsoTime.partEntries, hfraction, hzone]
        have hmillis : m.fields.get? "milliseconds" = some (digits ++ ['Z']) :=
          get?_time h (by simp [IsoTime.entries, hfraction, hzone])
        simp [DateText.offsetText, DateText.zoneText, DateText.isZulu, hoffset, hmillis,
          Stamp.zoneText, IsoTime.stamp]
      | offset written colon =>
        exact absurd (by rw [IsoTime.form, hfraction, hzone]) hparts

lemma ofFields_parts (h : m.WellFormed) (hparts : m.time.form ≠ .joined)
    (hoffset : now.offset.natAbs < 86400) :
    DateText.ofFields m.fields now =
      .ok ⟨m.time.time.numericText ++ m.time.partsZone, .message⟩ := by
  have hget : ∀ {name value}, (name, value) ∈ m.time.partEntries →
      m.fields.get? name = some value := fun hmem =>
    get?_time h (IsoTime.partEntries_subset hparts hmem)
  have hholds : DateText.HoldsPadded m.fields m.time.time := by
    constructor <;> exact hget (by simp [IsoTime.partEntries])
  have htext := hholds.ofParts_eq h.time.2 h.time.1.year.1 h.time.1.year.2 now.localTime
  rw [zoneText_fields h hparts] at htext
  have hseconds := IsoTime.seconds?_parts h.time.1 h.time.2 hoffset
  obtain ⟨layout, hlayout⟩ := DateLayout.exists_of_seconds? hseconds
  rw [← htext] at hlayout ⊢
  have hdate : m.fields.get? "date" = none :=
    get?_time_eq_none h (IsoTime.date_notMem hparts) (by decide)
  exact DateText.ofFields_of_parts hdate hholds.hour hlayout

lemma ofFields_whole (h : m.WellFormed) {digits : Text} {written : WrittenOffset} {colon : Bool}
    (hfraction : m.time.fraction = some digits)
    (hzone : m.time.zone = some (.offset written colon)) (now : Moment) :
    DateText.ofFields m.fields now =
      .ok ⟨m.time.time.text ++ written.text true, .message⟩ := by
  have hdate : m.fields.get? "date" = some m.time.timestamp.text := by
    rw [IsoTime.text_timestamp h.time.1]
    exact get?_time h (by simp [IsoTime.entries, hfraction, hzone])
  have hoffset : m.time.timestamp.offset = some (ZoneMark.offset written colon).form := by
    rw [IsoTime.timestamp, hzone, Option.map_some]
  have hwhole := Timestamp.ofFields_whole (IsoTime.wellFormed_timestamp h.time.1 h.time.2) hoffset
    hdate now
  rwa [IsoTime.localText_timestamp h.time.1] at hwhole

theorem exists_instant (h : m.WellFormed) (now : Moment) (hoffset : now.offset.natAbs < 86400) :
    ∃ date, DateText.ofFields m.fields now = .ok date ∧
      ∀ index, Reading.instant ⟨index, m.fields, date⟩ now = .ok (m.time.instant now) := by
  by_cases hform : m.time.form = .joined
  · obtain ⟨digits, written, colon, hfraction, hzone⟩ := IsoTime.exists_of_form hform
    refine ⟨_, ofFields_whole h hfraction hzone now, fun index => ?_⟩
    simp only [Reading.instant, IsoTime.seconds?_whole h.time.1 h.time.2 hzone now]
    rfl
  · refine ⟨_, ofFields_parts h hform hoffset, fun index => ?_⟩
    simp only [Reading.instant, IsoTime.seconds?_parts h.time.1 h.time.2 hoffset]
    rfl

lemma value?_unmarked (h : m.WellFormed) {name : String} {value : Text}
    (hmem : (name, value) ∈ m.laterEntries) : m.fields.value? name = Fields.told value := by
  have hentry : (name, value) ∈ m.entries := by simp [entries, hmem]
  have hvalue : value ∈ m.laterEntries.map Prod.snd := List.mem_map.2 ⟨_, hmem, rfl⟩
  exact Fields.value?_of_get? (get?_fields h hentry) (values_ne_nil h _ hentry)
    (h.unmarked value hvalue)

lemma body_fields (h : m.WellFormed) : m.fields.body = m.body := by
  have hversion : m.fields.get? "firewallVersion" = none :=
    get?_fields_of_notMem h (by decide)
  have hmessage : m.fields.value? "message" = Fields.told m.body :=
    value?_unmarked h (by simp [laterEntries])
  rw [Fields.body_of_get? hversion, hmessage, Fields.told, if_neg h.body.2.2.1, Option.getD_some]

lemma withTime_fields (h : m.WellFormed) (now : Moment) (date : DateText) :
    Record.withTime ⟨m.time.form.index, m.fields, date⟩ none (m.time.instant now) false =
      m.record now := by
  have hpriority : m.fields.priority? = some m.priority :=
    Fields.priority?_of_get? (get?_fields h (by simp [entries]))
  have hhostname : m.fields.value? "hostname" = some m.hostname := by
    have htold : m.fields.value? "hostname" = Fields.told m.hostname :=
      value?_unmarked h (by simp [laterEntries])
    rw [htold, Fields.told, if_neg fun hnil => absurd (hnil ▸ h.hostname) (by decide)]
  have hprocessName : m.fields.value? "processName" = Fields.told m.tag :=
    value?_unmarked h (by simp [laterEntries])
  have hversion : m.fields.number "version" = 0 :=
    Fields.number_of_get?_eq_none (get?_fields_of_notMem h (by decide))
  have hprocessId : m.fields.number "processId" = 0 :=
    Fields.number_of_get?_eq_none (get?_fields_of_notMem h (by decide))
  have hmessageId : m.fields.value? "messageId" = none :=
    Fields.value?_of_get?_eq_none (get?_fields_of_notMem h (by decide))
  have hdata : m.fields.value? "structuredData" = none :=
    Fields.value?_of_get?_eq_none (get?_fields_of_notMem h (by decide))
  simp only [Record.withTime, record, hpriority, hhostname, hprocessName, hversion, hprocessId,
    hmessageId, hdata, body_fields h, Option.map_some]

lemma veto?_fields (h : m.WellFormed) : m.fields.veto? = none :=
  Fields.veto?_eq_none (get?_fields h (by simp [entries, laterEntries]))
    (get?_fields h (by simp [entries, laterEntries])) (.inr h.hostname) (.inr h.tag.2)

lemma deliverable (h : m.WellFormed) : Deliverable m.text := by
  refine ⟨h.free, fun c hc => h.body.2.2.2 c ?_, h.fits⟩
  have htext : m.text = ('<' :: (ofNat m.priority.encode ++ '>' :: (m.time.text ++ ' ' ::
      (m.hostname ++ ' ' :: (m.tag ++ [':', ' ']))))) ++ m.body := by
    simp [text, later]
  rwa [htext, List.getLast?_append_of_ne_nil _ h.body.1] at hc

end IsoMessage
end Syslog
