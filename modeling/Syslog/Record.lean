import Syslog.Clock
import Syslog.DateText.Instant
import Syslog.Json
import Syslog.Matching
import Syslog.Priority

/-!
# Records

A record is the normal form of a message. It is made from the reading of a grammar at a reference
moment. A message too old for the window gives no record; one too far ahead gets the time of the
reference moment and is marked as clamped.
-/
namespace Syslog

structure Record where
  facility : Option Facility
  severity : Option Severity
  /-- Zero for a message without a version. -/
  version : Int
  hostname : Option Text
  processName : Option Text
  processId : Int
  messageId : Option Text
  /-- The structured data as it stands in the message. -/
  structuredData : Option Text
  message : Text
  timestamp : Instant
  /-- The address that a source marker gave. -/
  sourceAddress : Option Text
  /-- The position of the grammar that read the message. -/
  grammarIndex : Nat
  /-- The message claimed a time too far ahead. -/
  clamped : Bool
  deriving DecidableEq, Repr

namespace Fields
open Text

/-- What some senders write in the place of a byte order mark. -/
def markWord : Text := ofString "BOM"

def byteOrderMark : Text := ['\uFEFF']

/-- The value without a byte order mark and the blanks around the rest; none if nothing is left or a
hyphen stands for it. -/
def meaning? (value : Text) : Option Text :=
  if value = nilValue then none
  else
    let value :=
      match after? markWord value <|> after? byteOrderMark value with
      | some rest => trim rest
      | none => value
    if value.isEmpty then none else some value

def value? (fields : Fields) (name : String) : Option Text := (fields.get? name).bind meaning?

/-- A number of 64 bits; whatever is none counts as zero. -/
def number (fields : Fields) (name : String) : Int :=
  ((fields.value? name).bind (integer? half64)).getD 0

def priority? (fields : Fields) : Option Priority :=
  ((fields.get? "facilityCode").bind (natural? 256)).bind Priority.decode?

/-- The body of a firewall message, put together again from its comma-separated values. -/
def csvBody? (fields : Fields) : Option Text := do
  let message ← fields.get? "message"
  let version ← fields.get? "firewallVersion"
  let date ← fields.get? "recievedate"
  let time ← fields.get? "recievetime"
  let serial ← fields.get? "serialnumber"
  let type ← fields.get? "type"
  let subtype ← fields.get? "subtype"
  return version ++ [','] ++ date ++ [' '] ++ time ++ [','] ++ serial ++ [','] ++ type ++ [','] ++
    subtype ++ [','] ++ message

def body (fields : Fields) : Text := (fields.csvBody? <|> fields.value? "message").getD []

end Fields

namespace Reading

/-- The instant of a reading; that of the clock is exact. -/
def instant (reading : Reading) (now : Moment) : Except Discard Instant :=
  match reading.date.origin with
  | .clock => .ok now.instant
  | .message =>
    match DateLayout.seconds? now reading.date.text with
    | some seconds => .ok (seconds * 1000)
    | none => .error (.unparsableDate reading.date.text)

end Reading

namespace Record
open Text

/-- The record of a reading with a given time. -/
def withTime (reading : Reading) (address : Option Text) (timestamp : Instant) (clamped : Bool) :
    Record :=
  let fields := reading.fields
  { facility := fields.priority?.map Priority.facility
    severity := fields.priority?.map Priority.severity
    version := fields.number "version"
    hostname := fields.value? "hostname"
    processName := fields.value? "processName"
    processId := fields.number "processId"
    messageId := fields.value? "messageId"
    structuredData := fields.value? "structuredData"
    message := fields.body
    timestamp := timestamp
    sourceAddress := address
    grammarIndex := reading.grammarIndex
    clamped := clamped }

/-- The minutes from an instant to a later one, toward zero. -/
def minutesBetween (first second : Instant) : Int := (second - first).tdiv 60000

def ofReading (reading : Reading) (now : Moment) (window : Window) (address : Option Text) :
    Except Discard Record := do
  let instant ← reading.instant now
  let minutes := minutesBetween instant now.instant
  match window.judge minutes with
  | .timely => return withTime reading address instant false
  | .ahead => return withTime reading address now.instant true
  | .stale => throw (.tooOld minutes)

def toJson (record : Record) : Json :=
  .object [
    ("facility", .ofOption (fun facility => .string (ofString facility.name)) record.facility),
    ("severity", .ofOption (fun severity => .string (ofString severity.name)) record.severity),
    ("version", .int record.version),
    ("hostname", .ofOption .string record.hostname),
    ("processName", .ofOption .string record.processName),
    ("processId", .int record.processId),
    ("messageId", .ofOption .string record.messageId),
    ("structuredData", .ofOption .string record.structuredData),
    ("message", .string record.message),
    ("timestamp", .string record.timestamp.text),
    ("timestampText", .string record.timestamp.wholeText),
    ("sourceAddress", .ofOption .string record.sourceAddress),
    ("grammarIndex", .int record.grammarIndex),
    ("clamped", .bool record.clamped)]

end Record
end Syslog
