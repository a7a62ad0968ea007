import Syslog.Proofs.Message.StructuredRecord

/-!
# Delivery of structured messages

What a collector makes of a structured message. A message with a time gives its record whenever the
window takes that time. One without a time has that of the clock, which must fit the layout of a
date: the years 0 to 9999 do, and no other year does.
-/
namespace Syslog
open Text Catalog.Bundled

namespace StructuredMessage

variable {m : StructuredMessage}

theorem read_text (h : m.WellFormed) (now : Moment) (tally : Tally) :
    (Catalog.bundled.read now m.text tally).1 =
      (grammar m.grammarIndex (structuredForm m.form m.tail)).reading now m.fields :=
  Catalog.read_bundled m.getElem?_forms
    (fun _ hearlier entries hreads => absurd hreads (m.not_reads_earlier h hearlier entries))
    (fun _ => m.reads_form h) (m.veto?_fields h) tally

end StructuredMessage

/-- A message without a time is discarded as long as the clock shows no year of four digits. -/
theorem collect_structuredMessage_eq_error {m : StructuredMessage} (h : m.WellFormed)
    (hstamp : m.stamp = none) (clock : Clock) (window : Window) (tally : Tally) (system : Instant)
    (hyear : ¬ (0 ≤ (clock.read system).localTime.date.year ∧
      (clock.read system).localTime.date.year ≤ 9999)) :
    (Collector.collect ⟨.bundled, window, clock, tally⟩ system (Utf8.encode m.text)).1 =
      .error (.unparsableDate (clock.read system).text) := by
  rw [Collector.collect_encode _ _ (m.deliverable h), m.read_text h, Grammar.reading,
    DateText.ofFields_eq_error (m.tellsNoDate_of_nil h hstamp) hyear]
  rfl

/-- A collector of bundled grammars with the standard window makes of a structured message the
record that the message tells, under every clock whose window the time of the message lies in. For
a message without a time the clock has to show a year that fits the layout of a date. -/
theorem collect_structuredMessage {m : StructuredMessage} (h : m.WellFormed) (clock : Clock)
    (tally : Tally) (system : Instant) (hoffset : clock.offset.natAbs < 86400)
    (hyear : m.stamp = none → 0 ≤ (clock.read system).localTime.date.year ∧
      (clock.read system).localTime.date.year ≤ 9999)
    (haccepts : Window.standard.Accepts (m.instant (clock.read system))
      (clock.read system).instant) :
    (Collector.collect ⟨.bundled, .standard, clock, tally⟩ system (Utf8.encode m.text)).1 =
      .ok (m.record (clock.read system)) := by
  obtain ⟨date, hdate, hinstant⟩ := m.exists_instant h hoffset hyear
  rw [← m.withTime_fields h (clock.read system) date]
  exact Collector.collect_bundled (m.deliverable h) m.getElem?_forms
    (fun _ hearlier entries hreads => absurd hreads (m.not_reads_earlier h hearlier entries))
    (fun _ => m.reads_form h) (m.veto?_fields h) hdate (hinstant _) haccepts tally

namespace StructuredMessage

/-- A failed command, seven hours west of UTC, with a fraction and two elements of data. -/
def failedCommand : StructuredMessage where
  priority := ⟨.auth, .critical⟩
  version := ['1']
  stamp := some ⟨⟨⟨2003, 10, 11⟩, 22, 14, 15⟩, some ['0', '0', '3'], .offset ⟨true, 7, 0⟩ true⟩
  hostname := ofString "mymachine.example.com"
  processName := ofString "su"
  processId := ofString "207"
  messageId := ofString "ID47"
  structuredData := ofString "[origin ip=\"192.0.2.1\"][note text=\"a \\\" b ] c\"]"
  body := some (ofString "'su root' failed on /dev/pts/8")

def untimed : StructuredMessage where
  priority := ⟨.user, .notice⟩
  version := ['1']
  stamp := none
  hostname := ['h']
  processName := ['a']
  processId := nilValue
  messageId := nilValue
  structuredData := nilValue
  body := some ['x']

end StructuredMessage

open StructuredMessage

theorem collect_failedCommand :
    (Collector.collect ⟨.bundled, .standard, .standard, .empty Catalog.bundled.size⟩ 1065935655000
      (Utf8.encode failedCommand.text)).1 = .ok {
        facility := some .auth
        severity := some .critical
        version := 1
        hostname := some (ofString "mymachine.example.com")
        processName := some (ofString "su")
        processId := 207
        messageId := some (ofString "ID47")
        structuredData := some (ofString "[origin ip=\"192.0.2.1\"][note text=\"a \\\" b ] c\"]")
        message := ofString "'su root' failed on /dev/pts/8"
        timestamp := 1065935655000
        sourceAddress := none
        grammarIndex := 0
        clamped := false } :=
  (collect_structuredMessage (m := failedCommand) (by decide +kernel) .standard
    (.empty Catalog.bundled.size) 1065935655000 (by decide) (fun hstamp => nomatch hstamp)
    (by decide +kernel)).trans (congrArg Except.ok (by decide +kernel))

/-- On the first day of the year 10000 a message without a time gives no record, although the window
takes the time of the clock. -/
theorem collect_untimed_in_year_10000 :
    untimed.WellFormed ∧
      Window.standard.Accepts (untimed.instant ⟨253402300800000, 0⟩) 253402300800000 ∧
      (Collector.collect ⟨.bundled, .standard, .fixed ⟨253402300800000, 0⟩,
        .empty Catalog.bundled.size⟩ 0 (Utf8.encode untimed.text)).1 =
          .error (.unparsableDate (ofString "+10000-01-01T00:00:00+00:00")) := by
  have hwell : untimed.WellFormed := by decide +kernel
  refine ⟨hwell, by decide, ?_⟩
  have herror := collect_structuredMessage_eq_error hwell rfl (.fixed ⟨253402300800000, 0⟩)
    .standard (.empty Catalog.bundled.size) 0 (by decide)
  exact herror.trans (congrArg (fun t => Except.error (Discard.unparsableDate t))
    (by decide +kernel))

end Syslog
