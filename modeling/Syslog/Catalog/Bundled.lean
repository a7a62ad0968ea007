import Syslog.Catalog.Basic

/-!
# Bundled grammars

The grammars used when none are given, the specific formats before the general ones: structured
messages with a version, messages with an ISO timestamp, firewall bodies in comma-separated values,
and messages with the name of a month in front, with or without a year, a zone, a host and the
number of a process. The last one takes every message that has a priority.
-/
namespace Syslog.Catalog.Bundled
open Text

def word (s : String) : Segment := .literal (ofString s)

def field (type : Token) (name : String) : Segment := .token type (some name)

def priority : List Segment := [word "<", field .posint "facilityCode", word ">"]

def version : Segment := field .posint "version"

def message : Segment := field .string "message"

def hostname : Segment := field .nospace "hostname"

def process : Segment := field .nospace "processName"

def isoDate : List Segment := [
  field .posint "year", word "-", field .posint "month", word "-", field .posint "day"]

def timeOfDay : List Segment := [
  field .posint "hours", word ":", field .posint "minutes", word ":", field .posint "seconds"]

def isoTime : List Segment := isoDate ++ [word "T"] ++ timeOfDay

def fraction : List Segment := [word ".", field .fraction "milliseconds"]

def zoneOffset : Segment := field .offset "timeOffset"

/-- The host, the process with its number, the type of the message and the structured data. -/
def structuredHeader : List Segment := [
  .blanks, hostname, .blanks, process, .blanks, field .nospace "processId", .blanks,
  field .nospace "messageId", .blanks, field .structuredData "structuredData"]

/-- The process and its number in brackets. -/
def numberedTag : List Segment := [
  process, word "[", field .posint "processId", word "]:", .blanks, message]

def plainTag : List Segment := [process, word ":", .blanks, message]

def monthAndDay : List Segment := [field .month "month", .blanks, field .posint "day", .blanks]

def monthDayTime : List Segment := monthAndDay ++ timeOfDay ++ [.blanks]

def monthDayYearTime : List Segment :=
  monthAndDay ++ [field .posint "year", .blanks] ++ timeOfDay ++ [.blanks]

def fromHost : List Segment := [hostname, .blanks]

def structuredForms : List (List Segment) :=
  let forms := [
    [.blanks] ++ isoTime ++ fraction ++ [zoneOffset] ++ structuredHeader,
    [.blanks] ++ isoTime ++ [zoneOffset] ++ structuredHeader,
    [.blanks, word "-"] ++ structuredHeader]
  (forms.map fun form => [version] ++ form ++ [.blanks, message]) ++
    forms.map fun form => [version] ++ form

def isoForms : List (List Segment) := [
  isoTime ++ [zoneOffset, .blanks] ++ fromHost ++ plainTag,
  isoTime ++ fraction ++ [.blanks] ++ fromHost ++ plainTag,
  isoTime ++ [.blanks] ++ fromHost ++ plainTag,
  [field .timestamp "date", .blanks] ++ fromHost ++ plainTag]

def firewallForm : List Segment :=
  monthDayTime ++ fromHost ++ [
    field .posint "firewallVersion", word ",", field .nospace "recievedate", .blanks,
    field .time "recievetime", word ",", field .word "serialnumber", word ",", field .word "type",
    word ",", field .word "subtype", word ",", message]

def identifiedForm : List Segment :=
  [field .nospace "messageId", word ":", .blanks] ++ isoDate ++
    [.blanks, field .ipOrHost "hostname", .blanks, message]

def monthForms : List (List Segment) := [
  monthDayYearTime ++ fromHost ++ numberedTag,
  monthDayYearTime ++ fromHost ++ plainTag,
  monthDayTime ++ [field .timeZone "timeZone", .blanks] ++ fromHost ++ plainTag,
  monthDayTime ++ fromHost ++ numberedTag,
  monthDayTime ++ fromHost ++ plainTag,
  monthDayTime ++ numberedTag,
  monthDayTime ++ plainTag,
  monthDayTime ++ fromHost ++ [message]]

def undatedForms : List (List Segment) := [numberedTag, plainTag, [message]]

def forms : List (List Segment) :=
  (structuredForms ++ isoForms ++ [firewallForm, identifiedForm] ++ monthForms ++ undatedForms).map
    (priority ++ ·)

def grammar (index : Nat) (segments : List Segment) : Grammar :=
  ⟨index, segments.flatMap Segment.text, segments⟩

end Bundled

def bundled : Catalog :=
  ⟨Bundled.forms.zipIdx.map fun (segments, index) => Bundled.grammar index segments⟩

end Syslog.Catalog
