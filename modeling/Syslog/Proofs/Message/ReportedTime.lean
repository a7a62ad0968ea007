import Syslog.Proofs.Message.IsoRecord
import Syslog.Proofs.Message.StructuredDelivery

/-!
# Reported times

A record reports its time in UTC, rounded down to a whole second. A structured message with the
reported time is read as that second again, so that nothing but the fraction is ever lost.
-/
namespace Syslog
open Text

/-- The text tells the last whole second of UTC that an instant of the years 0 to 9999 reached. -/
def Instant.ToldBy (instant : Instant) (t : Text) : Prop :=
  ∃ time : LocalTime, time.isValid = true ∧ 0 ≤ time.date.year ∧ time.date.year ≤ 9999 ∧
    time.toSeconds * 1000 ≤ instant ∧ instant < (time.toSeconds + 1) * 1000 ∧
    t = padded 4 time.date.year.toNat ++ ['-'] ++ padded 2 time.date.month ++ ['-'] ++
      padded 2 time.date.day ++ ['T'] ++ padded 2 time.hour ++ [':'] ++ padded 2 time.minute ++
      [':'] ++ padded 2 time.second ++ ['Z']

def Record.Reports (record : Record) (t : Text) : Prop :=
  ∃ members, record.toJson = .object members ∧
    members.lookup "timestampText" = some (.string t)

def Instant.year (instant : Instant) : ℤ := (LocalTime.ofSeconds instant.seconds).date.year

lemma Record.reports_iff {record : Record} {t : Text} :
    record.Reports t ↔ t = record.timestamp.wholeText := by
  constructor
  · rintro ⟨members, hmembers, hlookup⟩
    obtain rfl := Json.object.inj hmembers
    exact (Json.string.inj (Option.some.inj hlookup)).symm
  · rintro rfl
    exact ⟨_, rfl, rfl⟩

namespace Instant

lemma isValid_ofSeconds {instant : Instant} (hlow : 0 ≤ instant.year)
    (hhigh : instant.year ≤ 9999) : (LocalTime.ofSeconds instant.seconds).isValid = true :=
  LocalTime.isValid_of_year (Int.le_trans (by decide) hlow) (Int.le_trans hhigh (by decide))

theorem toldBy_wholeText {instant : Instant} (hlow : 0 ≤ instant.year)
    (hhigh : instant.year ≤ 9999) : instant.ToldBy instant.wholeText := by
  refine ⟨LocalTime.ofSeconds instant.seconds, isValid_ofSeconds hlow hhigh, hlow, hhigh, ?_⟩
  rw [LocalTime.toSeconds_ofSeconds]
  refine ⟨Int.ediv_mul_le instant (by decide), Int.lt_ediv_add_one_mul_self instant (by decide), ?_⟩
  rw [wholeText, LocalTime.text_append hlow hhigh]
  simp

lemma wholeText_seconds (instant : Instant) :
    wholeText (instant.seconds * 1000) = instant.wholeText := by
  rw [wholeText, wholeText, seconds, Int.mul_ediv_cancel _ (by decide)]

end Instant

namespace StructuredMessage

/-- A message of nothing but a time in UTC and a letter. -/
def bare (time : LocalTime) : StructuredMessage where
  priority := ⟨.user, .notice⟩
  version := ['1']
  stamp := some ⟨time, none, .zulu⟩
  hostname := nilValue
  processName := nilValue
  processId := nilValue
  messageId := nilValue
  structuredData := nilValue
  body := some ['x']

variable {time : LocalTime}

lemma text_bare (time : LocalTime) :
    (bare time).text = ofString "<13>1 " ++ (time.text ++ ['Z']) ++ ofString " - - - - - x" := by
  have hpriority : ofNat (Priority.encode ⟨.user, .notice⟩) = ofString "13" := by decide
  simp [text, bare, hpriority, ofString, stampText, Stamp.text, Stamp.fractionText, ZoneMark.text,
    later, nilValue, bodyText]

lemma byteLength_text_bare (hvalid : time.isValid = true) (hlow : 0 ≤ time.date.year)
    (hhigh : time.date.year ≤ 9999) : byteLength (bare time).text ≤ maxDatagram := by
  obtain ⟨hdate, hhour, hminute, hsecond⟩ := LocalTime.isValid_iff.1 hvalid
  obtain ⟨hmonth, hday⟩ := Date.bounds_of_isValid hdate
  have htwo : ∀ {n}, n < 100 → byteLength (padded 2 n) = 2 := fun hn =>
    byteLength_padded (by decide) hn
  have hfour : byteLength (padded 4 time.date.year.toNat) = 4 :=
    byteLength_padded (by decide) (by omega)
  have hbytes : byteLength (time.text ++ ['Z']) = 20 := by
    rw [LocalTime.text_append hlow hhigh]
    simp only [byteLength_append, byteLength_cons, hfour,
      htwo (show time.date.month < 100 by omega), htwo (show time.date.day < 100 by omega),
      htwo (show time.hour < 100 by omega), htwo (show time.minute < 100 by omega),
      htwo (show time.second < 100 by omega)]
    rfl
  rw [text_bare, byteLength_append, byteLength_append, hbytes]
  decide

lemma wellFormed_bare (hvalid : time.isValid = true) (hlow : 0 ≤ time.date.year)
    (hhigh : time.date.year ≤ 9999) : (bare time).WellFormed where
  version := (by decide : (['1'] : Text) ≠ [] ∧ ∀ c ∈ ['1'], c.isDigit = true)
  versionNumber :=
    (by decide : 1 ≤ Nat.ofDigitChars 10 ['1'] 0 ∧ Nat.ofDigitChars 10 ['1'] 0 < half64)
  stamp := by
    rintro _ ⟨⟩
    exact ⟨hvalid, ⟨hlow, hhigh⟩, by simp, trivial⟩
  hostname := .inl rfl
  processName := .inl rfl
  processId := (by decide : nilValue ≠ [] ∧ IsSolid nilValue)
  messageId := (by decide : nilValue ≠ [] ∧ IsSolid nilValue)
  structuredData := .inl rfl
  body := by
    rintro _ ⟨⟩
    decide
  unmarked := (by decide : ∀ value ∈ [nilValue, nilValue, nilValue, nilValue, ['x']],
    Fields.Unmarked value)
  free := fun hmarker => by
    have hequals : '=' ∉ time.text := LocalTime.notMem_text hlow hhigh (by decide) (by decide)
    have hmem : '=' ∈ (bare time).text := hmarker.subset (by decide)
    rw [text_bare] at hmem
    simp [hequals, ofString] at hmem
  fits := byteLength_text_bare hvalid hlow hhigh

theorem collect_stamped {m : StructuredMessage} (h : m.WellFormed) {stamp : Stamp}
    (hstamp : m.stamp = some stamp) (clock : Clock) {window : Window} (tally : Tally)
    (system : Instant) (haccepts : window.Accepts stamp.instant (clock.read system).instant) :
    (Collector.collect ⟨.bundled, window, clock, tally⟩ system (Utf8.encode m.text)).1 =
      .ok (m.record (clock.read system)) := by
  have hinstant : m.instant (clock.read system) = stamp.instant := by rw [instant, hstamp]
  have hseconds := (stamp.seconds?_dateText (h.stamp stamp hstamp) (clock.read system)).2
  rw [← m.withTime_fields h (clock.read system) ⟨stamp.dateText, .message⟩, hinstant]
  refine Collector.collect_bundled (m.deliverable h) m.getElem?_forms
    (fun _ hearlier entries hreads => absurd hreads (m.not_reads_earlier h hearlier entries))
    (fun _ => m.reads_form h) (m.veto?_fields h) (m.ofFields_stamp h hstamp _) ?_ haccepts tally
  simp only [Reading.instant, hseconds, Stamp.instant]

end StructuredMessage

/-- The time that a record reports is its own in UTC, rounded down to a whole second, and a message
with that time gives a record of that very second, which reports it in the same text. -/
theorem Record.reported_readsBack (record : Record) (hlow : 0 ≤ record.timestamp.year)
    (hhigh : record.timestamp.year ≤ 9999) :
    ∃ t, record.Reports t ∧ record.timestamp.ToldBy t ∧
      ∀ (window : Window) (clock : Clock) (tally : Tally) (system : Instant),
        window.Accepts (record.timestamp.seconds * 1000) (clock.read system).instant →
          ∃ later, (Collector.collect ⟨.bundled, window, clock, tally⟩ system
              (Utf8.encode (ofString "<13>1 " ++ t ++ ofString " - - - - - x"))).1 = .ok later ∧
            later.timestamp = record.timestamp.seconds * 1000 ∧ later.clamped = false ∧
            later.Reports t := by
  have hwell := StructuredMessage.wellFormed_bare (Instant.isValid_ofSeconds hlow hhigh) hlow hhigh
  refine ⟨record.timestamp.wholeText, reports_iff.2 rfl, Instant.toldBy_wholeText hlow hhigh,
    fun window clock tally system haccepts => ?_⟩
  have hinstant : Stamp.instant ⟨LocalTime.ofSeconds record.timestamp.seconds, none, .zulu⟩ =
      record.timestamp.seconds * 1000 := by
    rw [Stamp.instant, LocalTime.toSeconds_ofSeconds, ZoneMark.seconds, Int.sub_zero]
  rw [← hinstant] at haccepts
  refine ⟨_, StructuredMessage.text_bare _ ▸
    StructuredMessage.collect_stamped hwell rfl clock tally system haccepts, hinstant, rfl, ?_⟩
  rw [reports_iff]
  exact ((congrArg Instant.wholeText hinstant).trans (Instant.wholeText_seconds _)).symm

/-- A record clamped to a clock that stood a millisecond before the start of 1970. -/
def Record.lastOfYear : Record where
  facility := none
  severity := none
  version := 0
  hostname := none
  processName := none
  processId := 0
  messageId := none
  structuredData := none
  message := []
  timestamp := -1
  sourceAddress := none
  grammarIndex := 0
  clamped := true

theorem Record.readsBack_lastOfYear :
    lastOfYear.Reports (ofString "1969-12-31T23:59:59Z") ∧
      ∃ later, (Collector.collect
          ⟨.bundled, ⟨1, 0⟩, .fixed ⟨58999, 3600⟩, .empty Catalog.bundled.size⟩ 0
          (Utf8.encode (ofString "<13>1 1969-12-31T23:59:59Z - - - - - x"))).1 = .ok later ∧
        later.timestamp = -1000 ∧ later.clamped = false ∧
        later.Reports (ofString "1969-12-31T23:59:59Z") := by
  obtain ⟨t, hreports, -, hback⟩ := reported_readsBack lastOfYear (by decide) (by decide)
  obtain rfl : t = ofString "1969-12-31T23:59:59Z" :=
    (reports_iff.1 hreports).trans (by decide +kernel)
  exact ⟨hreports, hback ⟨1, 0⟩ (.fixed ⟨58999, 3600⟩) _ 0 (by decide)⟩

end Syslog
