import Syslog.Json.Reader
import Syslog.Report
import Syslog.Text.Utf8

/-!
# Reading reports

Whoever gets the lines of reports reads each of them as JSON and finds by their names what a record
or a discard holds. Times are read in UTC.
-/
namespace Syslog
open Text

def Facility.ofJson? (json : Json) : Option Facility := do
  let name ← json.asText?
  all.find? fun facility => ofString facility.name = name

def Severity.ofJson? (json : Json) : Option Severity := do
  let name ← json.asText?
  all.find? fun severity => ofString severity.name = name

/-- The instant of a time in UTC with three places or none. -/
def Instant.ofText? (t : Text) : Option Instant := do
  let isWhole (c : Char) : Bool := c != '.' && c != 'Z'
  let seconds ← DateLayout.seconds? ⟨0, 0⟩ (t.takeWhile isWhole ++ ofString "+00:00")
  let millis ←
    match t.dropWhile isWhole with
    | ['Z'] => some 0
    | ['.', a, b, c, 'Z'] => digits? [a, b, c]
    | _ => none
  return seconds * 1000 + millis

namespace Record

def ofJson? (json : Json) : Option Record := do
  return {
    facility := ← (← json.member? "facility").option? Facility.ofJson?
    severity := ← (← json.member? "severity").option? Severity.ofJson?
    version := ← (← json.member? "version").asInt?
    hostname := ← (← json.member? "hostname").option? Json.asText?
    processName := ← (← json.member? "processName").option? Json.asText?
    processId := ← (← json.member? "processId").asInt?
    messageId := ← (← json.member? "messageId").option? Json.asText?
    structuredData := ← (← json.member? "structuredData").option? Json.asText?
    message := ← (← json.member? "message").asText?
    timestamp := ← Instant.ofText? (← (← json.member? "timestamp").asText?)
    sourceAddress := ← (← json.member? "sourceAddress").option? Json.asText?
    grammarIndex := (← (← json.member? "grammarIndex").asInt?).toNat
    clamped := ← (← json.member? "clamped").asBool? }

end Record

namespace Report

def ofJson? : Json → Option Report
  | .object [("record", json)] => (Record.ofJson? json).map record
  | .object [("discard", json)] => do
    let reason ← DiscardReason.ofCode? (String.ofList (← (← json.member? "reason").asText?))
    let detail ← (← json.member? "detail").asText?
    return discard reason detail
  | _ => none

end Report
end Syslog
