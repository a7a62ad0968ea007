import Syslog.Proofs.Message.TaggedRecord

/-!
# Delivery of tagged messages

What a collector makes of a tagged message: its record, whenever the window takes the date of the
message in the year that the message or the clock tells.
-/
namespace Syslog
open Text Catalog.Bundled

/-- The record of a message that can be read and is delivered unchanged. -/
theorem TaggedMessage.collect_readable {m : TaggedMessage} (h : m.Readable)
    (hunnumbered : m.addition.isZone = true → m.processId = none)
    (hdeliverable : Deliverable m.text) (hhost : Fields.Unmarked m.hostname)
    (htag : Fields.Unmarked m.tag) (clock : Clock) (tally : Tally) (system : Instant)
    (hdate : m.Datable (clock.read system))
    (haccepts : Window.standard.Accepts (m.instant (clock.read system))
      (clock.read system).instant) :
    (Collector.collect ⟨.bundled, .standard, clock, tally⟩ system (Utf8.encode m.text)).1 =
      .ok (m.meantRecord (clock.read system)) := by
  rw [← m.withTime_fields h hhost htag (clock.read system)
    ⟨m.dateText (clock.read system), .message⟩]
  exact Collector.collect_bundled hdeliverable (m.getElem?_forms hunnumbered)
    (fun _ hearlier _ hreads => m.veto_of_reads_earlier h hearlier hreads)
    (fun _ => m.reads_form h) (m.veto?_fields h) (m.ofFields_eq h hdate) (m.instant_eq h hdate _)
    haccepts tally

/-- A collector of bundled grammars with the standard window makes of a tagged message the record
that the message tells, whatever its body. The nil value as a tag names no program. -/
theorem collect_taggedMessage {m : TaggedMessage} (h : m.WellFormed) (clock : Clock)
    (tally : Tally) (system : Instant) (hdate : m.Datable (clock.read system))
    (haccepts : Window.standard.Accepts (m.instant (clock.read system))
      (clock.read system).instant) :
    (Collector.collect ⟨.bundled, .standard, clock, tally⟩ system (Utf8.encode m.text)).1 =
      .ok (m.record (clock.read system)) := by
  rw [← m.meantRecord_eq h (clock.read system)]
  exact m.collect_readable h.toReadable h.unnumbered (m.deliverable h)
    (h.unmarked m.hostname (by simp)) (h.unmarked m.tag (by simp)) clock tally system hdate haccepts

/-- A message from a host with a name like a zone, about an error that looks like a tag. -/
def TaggedMessage.connectionReset : TaggedMessage where
  priority := ⟨.auth, .informational⟩
  month := 6
  monthName := ofString "JUNE"
  day := 2
  dayDigits := ['2']
  hour := 1
  minute := 59
  second := 6
  addition := .nothing
  hostname := ofString "WEB"
  tag := ofString "sshd"
  processId := some (ofString "4242")
  body := ofString "error: connection reset"

theorem collect_connectionReset :
    (Collector.collect ⟨.bundled, .standard, .fixed ⟨1717293600000, 0⟩, .empty Catalog.bundled.size⟩
      0 (Utf8.encode TaggedMessage.connectionReset.text)).1 = .ok {
        facility := some .auth
        severity := some .informational
        version := 0
        hostname := some (ofString "WEB")
        processName := some (ofString "sshd")
        processId := 4242
        messageId := none
        structuredData := none
        message := ofString "error: connection reset"
        timestamp := 1717293546000
        sourceAddress := none
        grammarIndex := 15
        clamped := false } :=
  (collect_taggedMessage (m := TaggedMessage.connectionReset) (by decide +kernel)
    (.fixed ⟨1717293600000, 0⟩) (.empty Catalog.bundled.size) 0
    ⟨by decide, by decide, by decide⟩ (by decide +kernel)).trans
      (congrArg Except.ok (by decide +kernel))

end Syslog
