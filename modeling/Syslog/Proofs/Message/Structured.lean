import Mathlib.Data.List.Infix
import Mathlib.Tactic.MkIffOfInductiveProp
import Syslog.Proofs.Catalog.Parts
import Syslog.Proofs.DateText.Written
import Syslog.Proofs.Record.Values

/-!
# Structured messages

The messages that a sender of the structured format may write: a priority, a version, a time or a
hyphen, five words of which the last is structured data, and a body or none. Each has one text, and
the record that it ought to give is told by its parts alone.
-/
namespace Syslog
open Text

/-- How a time is written relative to UTC. -/
inductive ZoneMark where
  | zulu
  | offset (offset : WrittenOffset) (colon : Bool)
  deriving DecidableEq, Repr

namespace ZoneMark

def text : ZoneMark → Text
  | zulu => ['Z']
  | offset written colon => written.text colon

/-- Seconds east of UTC. -/
def seconds : ZoneMark → ℤ
  | zulu => 0
  | offset written _ => written.seconds

def WellFormed : ZoneMark → Prop
  | zulu => True
  | offset written _ => written.WellFormed

instance : (zone : ZoneMark) → Decidable zone.WellFormed
  | zulu => inferInstanceAs (Decidable True)
  | offset written _ => inferInstanceAs (Decidable written.WellFormed)

end ZoneMark

structure Stamp where
  time : LocalTime
  /-- The digits after the point, if there is one. -/
  fraction : Option Text
  zone : ZoneMark
  deriving DecidableEq, Repr

namespace Stamp

def fractionText (stamp : Stamp) : Text :=
  match stamp.fraction with
  | none => []
  | some digits => '.' :: digits

def text (stamp : Stamp) : Text := stamp.time.text ++ (stamp.fractionText ++ stamp.zone.text)

/-- The instant in whole seconds; the fraction does not count. -/
def instant (stamp : Stamp) : Instant := (stamp.time.toSeconds - stamp.zone.seconds) * 1000

@[mk_iff]
structure WellFormed (stamp : Stamp) : Prop where
  time : stamp.time.isValid = true
  year : 0 ≤ stamp.time.date.year ∧ stamp.time.date.year ≤ 9999
  fraction : ∀ digits ∈ stamp.fraction, digits ≠ [] ∧ ∀ c ∈ digits, isDecimalDigit c = true
  zone : stamp.zone.WellFormed

instance (stamp : Stamp) : Decidable stamp.WellFormed := decidable_of_iff' _ (wellFormed_iff stamp)

end Stamp

structure StructuredMessage where
  priority : Priority
  version : Text
  stamp : Option Stamp
  hostname : Text
  processName : Text
  processId : Text
  messageId : Text
  structuredData : Text
  body : Option Text
  deriving DecidableEq, Repr

namespace StructuredMessage

def stampText (message : StructuredMessage) : Text :=
  match message.stamp with
  | none => nilValue
  | some stamp => stamp.text

def bodyText (message : StructuredMessage) : Text :=
  match message.body with
  | none => []
  | some body => ' ' :: body

def later (message : StructuredMessage) : Text :=
  message.hostname ++ ' ' :: (message.processName ++ ' ' :: (message.processId ++ ' ' ::
    (message.messageId ++ ' ' :: (message.structuredData ++ message.bodyText))))

def text (message : StructuredMessage) : Text :=
  '<' :: (ofNat message.priority.encode ++ '>' :: (message.version ++ ' ' ::
    (message.stampText ++ ' ' :: message.later)))

def versionNumber (message : StructuredMessage) : ℕ := Nat.ofDigitChars 10 message.version 0

@[mk_iff]
structure WellFormed (message : StructuredMessage) : Prop where
  version : message.version ≠ [] ∧ ∀ c ∈ message.version, c.isDigit = true
  versionNumber : 1 ≤ message.versionNumber ∧ message.versionNumber < half64
  stamp : ∀ stamp ∈ message.stamp, stamp.WellFormed
  hostname : message.hostname = nilValue ∨ HostName.isValid message.hostname = true
  processName : message.processName = nilValue ∨
    IsSolid message.processName ∧ processNameFault? message.processName = none
  processId : message.processId ≠ [] ∧ IsSolid message.processId
  messageId : message.messageId ≠ [] ∧ IsSolid message.messageId
  structuredData : message.structuredData ∈ Token.structuredData.language
  body : ∀ body ∈ message.body, body ≠ [] ∧ Stops isBlank body ∧ body ≠ nilValue ∧
    ∀ c ∈ body.getLast?, Collector.isLineEnd c = false
  unmarked : ∀ value ∈ [message.hostname, message.processName, message.processId,
    message.messageId] ++ message.body.toList, Fields.Unmarked value
  free : ¬ SourceMarker.marker <:+: message.text
  fits : byteLength message.text ≤ maxDatagram

instance (message : StructuredMessage) : Decidable message.WellFormed :=
  decidable_of_iff' _ (wellFormed_iff message)

/-- The instant of the message, or that of the clock for a message without a time. -/
def instant (message : StructuredMessage) (now : Moment) : Instant :=
  match message.stamp with
  | none => now.instant
  | some stamp => stamp.instant

/-- The bundled forms of structured messages come with a fraction, without one and without a time,
first those with a body. -/
def grammarIndex (message : StructuredMessage) : ℕ :=
  (match message.stamp with
    | none => 2
    | some stamp => if stamp.fraction.isSome then 0 else 1) +
  if message.body.isSome then 0 else 3

/-- The record that a message ought to give. -/
def record (message : StructuredMessage) (now : Moment) : Record where
  facility := some message.priority.facility
  severity := some message.priority.severity
  version := message.versionNumber
  hostname := Fields.told message.hostname
  processName := Fields.told message.processName
  processId := (integer? half64 message.processId).getD 0
  messageId := Fields.told message.messageId
  structuredData := Fields.told message.structuredData
  message := message.body.getD []
  timestamp := message.instant now
  sourceAddress := none
  grammarIndex := message.grammarIndex
  clamped := false

end StructuredMessage
end Syslog
