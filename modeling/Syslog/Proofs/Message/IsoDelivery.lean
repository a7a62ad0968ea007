import Syslog.Proofs.Message.IsoRecord

/-!
# Delivery of messages with a time in numbers

What a collector makes of a message with a time in numbers: its record, however the time is written,
whenever the window takes the time.
-/
namespace Syslog
open Text Catalog.Bundled

/-- A collector of bundled grammars with the standard window makes of a message with a time in
numbers the record that the message tells, with or without a fraction, an offset or a Z. The nil
value as a tag names no program. -/
theorem collect_isoMessage {m : IsoMessage} (h : m.WellFormed) (clock : Clock) (tally : Tally)
    (system : Instant) (hoffset : clock.offset.natAbs < 86400)
    (haccepts : Window.standard.Accepts (m.time.instant (clock.read system))
      (clock.read system).instant) :
    (Collector.collect ⟨.bundled, .standard, clock, tally⟩ system (Utf8.encode m.text)).1 =
      .ok (m.record (clock.read system)) := by
  obtain ⟨date, hdate, hinstant⟩ := m.exists_instant h (clock.read system) hoffset
  rw [← m.withTime_fields h (clock.read system) date]
  exact Collector.collect_bundled (m.deliverable h) (getElem?_isoForm m.time.form)
    (fun _ hearlier _ hreads => absurd hreads (m.not_reads_earlier h hearlier))
    (fun _ => m.reads_form h) (m.veto?_fields h) hdate (hinstant _) haccepts tally

namespace IsoMessage

/-- A time with a fraction and an offset without a colon, two hours east of UTC. -/
def greeting : IsoMessage where
  priority := ⟨.user, .notice⟩
  time := ⟨⟨⟨2024, 6, 2⟩, 3, 59, 6⟩, some (ofString "123"), some (.offset ⟨false, 2, 0⟩ false)⟩
  hostname := ofString "web01"
  tag := ofString "app"
  body := ofString "hello: world"

def hyphened : IsoMessage where
  priority := ⟨.user, .notice⟩
  time := ⟨⟨⟨2024, 6, 2⟩, 1, 59, 6⟩, none, some .zulu⟩
  hostname := ['h']
  tag := nilValue
  body := ['x']

end IsoMessage

theorem collect_greeting :
    (Collector.collect ⟨.bundled, .standard, .fixed ⟨1717293600000, 7200⟩,
      .empty Catalog.bundled.size⟩ 0 (Utf8.encode IsoMessage.greeting.text)).1 = .ok {
        facility := some .user
        severity := some .notice
        version := 0
        hostname := some (ofString "web01")
        processName := some (ofString "app")
        processId := 0
        messageId := none
        structuredData := none
        message := ofString "hello: world"
        timestamp := 1717293546000
        sourceAddress := none
        grammarIndex := 9
        clamped := false } :=
  (collect_isoMessage (m := IsoMessage.greeting) (by decide +kernel)
    (.fixed ⟨1717293600000, 7200⟩) (.empty Catalog.bundled.size) 0 (by decide)
    (by decide +kernel)).trans (congrArg Except.ok (by decide +kernel))

/-- The nil value passes as a tag, and the record names no program. -/
theorem collect_hyphened :
    IsoMessage.hyphened.WellFormed ∧
      Window.standard.Accepts (IsoMessage.hyphened.time.instant ⟨1717293600000, 7200⟩)
        1717293600000 ∧
      ∃ record, (Collector.collect ⟨.bundled, .standard, .fixed ⟨1717293600000, 7200⟩,
        .empty Catalog.bundled.size⟩ 0 (Utf8.encode IsoMessage.hyphened.text)).1 = .ok record ∧
          record.processName ≠ some IsoMessage.hyphened.tag := by
  refine ⟨by decide +kernel, by decide +kernel,
    IsoMessage.hyphened.record ⟨1717293600000, 7200⟩, by decide +kernel, by decide +kernel⟩

end Syslog
