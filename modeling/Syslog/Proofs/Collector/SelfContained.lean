import Syslog.Proofs.Catalog.FirstAccepted
import Syslog.Proofs.Collector.Delivery
import Syslog.Proofs.DateText.SelfContained
import Syslog.Proofs.Record.Edges

/-!
# Messages that tell their time

What a message tells of its time in full is read alike by all clocks: they agree on the reading, and
a record that no clock has clamped has the same time for each of them.
-/
namespace Syslog

lemma Grammar.wellFormed_of_accepted {grammar : Grammar} {t : Text} {fields : Fields}
    (h : grammar.verdict t = .accepted fields) : fields.WellFormed := by
  obtain ⟨entries, -, rfl⟩ := reads_of_fieldsOf?_eq_some (of_verdict_eq_accepted h).1
  exact Fields.wellFormed_ofList entries

lemma Grammar.reading_cases {fields : Fields} (h : fields.IsSelfContained)
    (hfields : fields.WellFormed) (grammar : Grammar) :
    (∃ discard, ∀ now, grammar.reading now fields = .error discard) ∨
      ∃ reading, (∀ now, grammar.reading now fields = .ok reading) ∧
        ∀ now now', reading.instant now = reading.instant now' := by
  rcases h.ofFields_cases hfields with ⟨t, herror⟩ | ⟨date, hdate, horigin, hseconds⟩
  · refine .inl ⟨.unparsableDate t, fun now => ?_⟩
    rw [reading, herror]
  · refine .inr ⟨⟨grammar.index, fields, date⟩, fun now => ?_, fun now now' => ?_⟩
    · rw [reading, hdate]
    · rw [Reading.instant, Reading.instant, horigin]
      simp only [hseconds now now']

lemma Record.of_ofReading {reading : Reading} {now : Moment} {window : Window}
    {address : Option Text} {record : Record}
    (h : ofReading reading now window address = .ok record) (hclamped : record.clamped = false) :
    ∃ instant, reading.instant now = .ok instant ∧
      record = withTime reading address instant false := by
  cases hinstant : reading.instant now with
  | error discard =>
    rw [ofReading, hinstant] at h
    cases h
  | ok instant =>
    rw [ofReading_of_instant hinstant] at h
    split at h
    · exact ⟨instant, rfl, (Except.ok.inj h).symm⟩
    · obtain rfl := Except.ok.inj h
      cases hclamped
    · cases h

namespace Collector
open Text

lemma exists_ofReading {collector : Collector} {system : Instant} {raw : List UInt8}
    {record : Record} (h : (collector.collect system raw).1 = .ok record) :
    ∃ reading, (collector.catalog.read (collector.clock.read system) (message raw).1
        collector.tally).1 = .ok reading ∧
      Record.ofReading reading (collector.clock.read system) collector.window (message raw).2 =
        .ok record := by
  have hread : (collector.readAt (collector.clock.read system) raw).1 = .ok record := h
  rw [readAt] at hread
  split at hread
  · cases hread
  · cases hreading : (collector.catalog.read (collector.clock.read system) (message raw).1
        collector.tally).1 with
    | error discard =>
      simp only [hreading, Except.bind] at hread
      cases hread
    | ok reading =>
      simp only [hreading, Except.bind] at hread
      exact ⟨reading, rfl, hread⟩

/-- Two collectors that differ in their clocks agree on the reading of a message that tells its time
in full, and on its record unless one of them clamps it. -/
theorem collect_eq_of_isSelfContained {catalog : Catalog} {raw : List UInt8} {i : ℕ}
    {fields : Fields} (haccepts : catalog.Accepts (message raw).1 i fields)
    (hfields : fields.IsSelfContained) (window : Window) (clock clock' : Clock)
    (system system' : Instant) (tally tally' : Tally) :
    (catalog.read (clock.read system) (message raw).1 tally).1 =
        (catalog.read (clock'.read system') (message raw).1 tally').1 ∧
      ∀ record record',
        (collect ⟨catalog, window, clock, tally⟩ system raw).1 = .ok record →
        (collect ⟨catalog, window, clock', tally'⟩ system' raw).1 = .ok record' →
        record.clamped = false → record'.clamped = false → record = record' := by
  obtain ⟨accepting, haccepting, hverdict⟩ := haccepts.accepted
  obtain ⟨grammar, hgrammar, hread⟩ := haccepts.exists_read_eq
  have hwell : fields.WellFormed := Grammar.wellFormed_of_accepted hverdict
  rcases grammar.reading_cases hfields hwell with ⟨discard, herror⟩ | ⟨reading, hreading, hinstant⟩
  · constructor
    · rw [hread, hread, herror, herror]
    · intro record record' hrecord
      obtain ⟨found, hfound, -⟩ := exists_ofReading hrecord
      rw [hread, herror] at hfound
      cases hfound
  · constructor
    · rw [hread, hread, hreading, hreading]
    · intro record record' hrecord hrecord' hclamped hclamped'
      obtain ⟨found, hfound, hofReading⟩ := exists_ofReading hrecord
      obtain ⟨found', hfound', hofReading'⟩ := exists_ofReading hrecord'
      rw [hread, hreading] at hfound hfound'
      obtain rfl : reading = found := Except.ok.inj hfound
      obtain rfl : reading = found' := Except.ok.inj hfound'
      obtain ⟨instant, htime, rfl⟩ := Record.of_ofReading hofReading hclamped
      obtain ⟨instant', htime', rfl⟩ := Record.of_ofReading hofReading' hclamped'
      have hsame : instant = instant' :=
        Except.ok.inj (htime.symm.trans ((hinstant _ _).trans htime'))
      rw [hsame]

def zuluFields : Fields := ⟨[("facilityCode", ofString "13"), ("year", ofString "2024"),
  ("month", ofString "06"), ("day", ofString "02"), ("hours", ofString "01"),
  ("minutes", ofString "59"), ("seconds", ofString "06"), ("milliseconds", ofString "5Z"),
  ("hostname", ofString "web01"), ("processName", ofString "cron"), ("message", ofString "x")]⟩

theorem collect_zulu :
    let raw := Utf8.encode (ofString "<13>2024-06-02T01:59:06.5Z web01 cron: x")
    ∃ record,
      (collect ⟨.bundled, .standard, ⟨some 1717293600000, 0⟩, .empty 23⟩ 0 raw).1 = .ok record ∧
      (collect ⟨.bundled, .standard, ⟨some 1717300000000, 19800⟩, .empty 23⟩ 0 raw).1 =
        .ok record := by
  intro raw
  have haccepts : Catalog.bundled.Accepts (message raw).1 7 zuluFields :=
    ⟨⟨_, rfl, by decide +kernel⟩, by decide +kernel⟩
  have hfields : zuluFields.IsSelfContained :=
    .parts rfl (by decide) (.inr (.inr ⟨ofString "5Z", rfl, rfl⟩))
  have hsame := (collect_eq_of_isSelfContained haccepts hfields .standard ⟨some 1717293600000, 0⟩
    ⟨some 1717300000000, 19800⟩ 0 0 (.empty 23) (.empty 23)).2
  have hfirst : (collect ⟨.bundled, .standard, ⟨some 1717293600000, 0⟩, .empty 23⟩ 0
      raw).1.toOption.map Record.clamped = some false := by decide +kernel
  have hsecond : (collect ⟨.bundled, .standard, ⟨some 1717300000000, 19800⟩, .empty 23⟩ 0
      raw).1.toOption.map Record.clamped = some false := by decide +kernel
  cases hrecord : (collect ⟨.bundled, .standard, ⟨some 1717293600000, 0⟩, .empty 23⟩ 0 raw).1 with
  | error discard =>
    rw [hrecord] at hfirst
    cases hfirst
  | ok record =>
    cases hrecord' : (collect ⟨.bundled, .standard, ⟨some 1717300000000, 19800⟩, .empty 23⟩ 0
        raw).1 with
    | error discard =>
      rw [hrecord'] at hsecond
      cases hsecond
    | ok record' =>
      rw [hrecord] at hfirst
      rw [hrecord'] at hsecond
      obtain rfl := hsame record record' hrecord hrecord' (Option.some.inj hfirst)
        (Option.some.inj hsecond)
      exact ⟨record, rfl, rfl⟩

end Collector
end Syslog
