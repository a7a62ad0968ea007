import Syslog.Proofs.Message.LineReading

/-!
# Messages with a time in numbers

A priority, a time in numbers, a host, the tag of a program and a body. The time may have a fraction
and may have a zone, so it is written in one of eight ways, which four bundled forms share. A tag
that is a hyphen is the nil value and names no program.
-/
namespace Syslog
open Text

/-- How a form with a time in numbers asks for the time. -/
inductive IsoForm where
  | zoned
  | fractional
  | plain
  /-- The whole time in one field. -/
  | joined
  deriving DecidableEq, Repr

namespace IsoTime

/-- The form of a time: a fraction may have a Z, and with an offset it is left to one field. -/
def form (time : IsoTime) : IsoForm :=
  match time.fraction, time.zone with
  | none, some _ => .zoned
  | none, none => .plain
  | some _, some (.offset ..) => .joined
  | some _, some .zulu | some _, none => .fractional

lemma exists_of_form {time : IsoTime} (h : time.form = .joined) :
    ∃ digits written colon, time.fraction = some digits ∧
      time.zone = some (.offset written colon) := by
  obtain ⟨_, fraction, zone⟩ := time
  rcases fraction with _ | digits
  · cases zone <;> cases h
  · rcases zone with _ | (_ | ⟨written, colon⟩)
    · cases h
    · cases h
    · exact ⟨digits, written, colon, rfl, rfl⟩

end IsoTime

def IsoForm.index : IsoForm → ℕ
  | zoned => 6
  | fractional => 7
  | plain => 8
  | joined => 9

structure IsoMessage where
  priority : Priority
  time : IsoTime
  hostname : Text
  tag : Text
  body : Text
  deriving DecidableEq, Repr

namespace IsoMessage

def later (message : IsoMessage) : Text :=
  message.hostname ++ ' ' :: (message.tag ++ [':'] ++ ' ' :: message.body)

def text (message : IsoMessage) : Text :=
  '<' :: (ofNat message.priority.encode ++ '>' :: (message.time.text ++ ' ' :: message.later))

@[mk_iff]
structure WellFormed (message : IsoMessage) : Prop where
  time : message.time.WellFormed ∧ message.time.time.isValid = true
  hostname : HostName.isValid message.hostname = true
  tag : (∀ c ∈ message.tag, TaggedMessage.isTagCharacter c = true) ∧
    processNameFault? message.tag = none
  body : message.body ≠ [] ∧ Stops isBlank message.body ∧ message.body ≠ nilValue ∧
    ∀ c ∈ message.body.getLast?, Collector.isLineEnd c = false
  unmarked : ∀ value ∈ [message.hostname, message.tag, message.body], Fields.Unmarked value
  free : ¬ SourceMarker.marker <:+: message.text
  fits : byteLength message.text ≤ maxDatagram

instance (message : IsoMessage) : Decidable message.WellFormed :=
  decidable_of_iff' _ (wellFormed_iff message)

/-- The record that a message ought to give. The nil value as a tag names no program. -/
def record (message : IsoMessage) (now : Moment) : Record where
  facility := some message.priority.facility
  severity := some message.priority.severity
  version := 0
  hostname := some message.hostname
  processName := Fields.told message.tag
  processId := 0
  messageId := none
  structuredData := none
  message := message.body
  timestamp := message.time.instant now
  sourceAddress := none
  grammarIndex := message.time.form.index
  clamped := false

end IsoMessage
end Syslog
