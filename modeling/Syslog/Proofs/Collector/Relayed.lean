import Syslog.Proofs.Collector.Delivery
import Syslog.Proofs.SourceMarker

/-!
# Relayed datagrams

A listener puts a marker with the address of the sender in front of a datagram and passes it on.
Whatever bytes follow, invalid ones and markers of the sender among them, the text of the message is
the same, so the collector counts the same and its record differs in the address alone, which is the
one that the listener wrote.
-/
namespace Syslog
open Text

/-- A datagram as a listener passes it on. -/
def SourceMarker.relayed (address : Text) (raw : List UInt8) : List UInt8 :=
  Utf8.encode (heading address) ++ raw

lemma Record.ofReading_address (reading : Reading) (now : Moment) (window : Window)
    (address other : Option Text) :
    ofReading reading now window other =
      (ofReading reading now window address).map ({ · with sourceAddress := other }) := by
  simp only [ofReading, bind, Except.bind]
  cases reading.instant now with
  | error discard => rfl
  | ok instant =>
    simp only
    cases window.judge (minutesBetween instant now.instant) <;> rfl

namespace Collector

variable {address : Text} {raw : List UInt8}

lemma message_relayed (hne : address ≠ []) (hsolid : IsSolid address)
    (hstart : Stops isBlank (Utf8.decodeLossy raw)) :
    message (SourceMarker.relayed address raw) = ((message raw).1, some address) := by
  simp only [message, SourceMarker.relayed, Utf8.decodeLossy_encode_append,
    SourceMarker.remove_heading_append hne hsolid hstart]

lemma readAt_relayed (hne : address ≠ []) (hsolid : IsSolid address)
    (hstart : Stops isBlank (Utf8.decodeLossy raw))
    (hfits : (SourceMarker.relayed address raw).length ≤ maxDatagram) (collector : Collector)
    (now : Moment) :
    collector.readAt now (SourceMarker.relayed address raw) =
      ((collector.readAt now raw).1.map ({ · with sourceAddress := some address }),
        (collector.readAt now raw).2) := by
  have hshorter : raw.length ≤ maxDatagram := by
    rw [SourceMarker.relayed, List.length_append] at hfits
    omega
  rw [readAt, readAt, if_neg (Nat.not_lt.2 hfits), if_neg (Nat.not_lt.2 hshorter),
    message_relayed hne hsolid hstart]
  cases hread : collector.catalog.read now (message raw).1 collector.tally with
  | mk reading tally =>
    simp only [hread]
    cases reading with
    | error discard => rfl
    | ok reading =>
      exact congrArg (·, tally) (Record.ofReading_address reading now collector.window _ _)

/-- The heading of a listener is transparent: the collector makes of a relayed datagram what it
makes of the datagram, with the address of the listener, and stands the same afterwards. -/
theorem collect_relayed (hne : address ≠ []) (hsolid : IsSolid address)
    (hstart : Stops isBlank (Utf8.decodeLossy raw))
    (hfits : (SourceMarker.relayed address raw).length ≤ maxDatagram) (collector : Collector)
    (system : Instant) :
    collector.collect system (SourceMarker.relayed address raw) =
      ((collector.collect system raw).1.map ({ · with sourceAddress := some address }),
        (collector.collect system raw).2) := by
  rw [collect, examine, readAt_relayed hne hsolid hstart hfits, collect, examine]
  obtain ⟨result, tally⟩ := collector.readAt (collector.clock.read system) raw
  cases result <;> rfl

/-- A datagram with a broken character and two markers of its own. -/
def forged : List UInt8 :=
  Utf8.encode (ofString "<13>app: caf") ++ 0xE9 ::
    Utf8.encode (ofString " source_address=192.0.2.1 source_address= !\n")

theorem collect_relayed_forged :
    (collect ⟨.bundled, .standard, .fixed ⟨1717293546000, 0⟩, .empty Catalog.bundled.size⟩ 0
      (SourceMarker.relayed (ofString "10.0.0.7") forged)).1 = .ok {
        facility := some .user
        severity := some .notice
        version := 0
        hostname := none
        processName := some (ofString "app")
        processId := 0
        messageId := none
        structuredData := none
        message := ofString "caf\uFFFD !"
        timestamp := 1717293546000
        sourceAddress := some (ofString "10.0.0.7")
        grammarIndex := 21
        clamped := false } :=
  (congrArg Prod.fst (collect_relayed (by decide) (by decide) (by decide +kernel)
    (by decide +kernel) _ 0)).trans (by decide +kernel)

end Collector
end Syslog
