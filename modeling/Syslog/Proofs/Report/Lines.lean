import Syslog.Proofs.Framing
import Syslog.Proofs.Report.ReadBack
import Syslog.Proofs.Text.Encoding

/-!
# Lines of reports

Whatever a sender puts into a message, its report is one line: no byte of it is a control, so that
line feeds stand at the ends of lines alone. Each line is JSON and tells all of its report.
-/
namespace Syslog
open Text

namespace Text.Utf8

end Text.Utf8

namespace Report

/-- The name under which a line tells its report. -/
def kind : Report → String
  | record _ => "record"
  | discard _ _ => "discard"

/-- What a line tells under that name. -/
def content : Report → Json
  | record result => result.toJson
  | discard reason detail =>
    .object [("reason", .string (ofString reason.code)), ("detail", .string detail)]

/-- The bytes of a line without its end. -/
def bytes (report : Report) : List UInt8 := Utf8.encode report.line

variable {report : Report} {reports : List Report}

/-- A message that tries to pass for the end of its line and for the line of a discard. -/
def forged : Record where
  facility := some .kernel
  severity := some .emergency
  version := 1
  hostname := some (ofString "web\\01")
  processName := none
  processId := -3
  messageId := some (ofString "\t\x1b")
  structuredData := none
  message := ofString "\"\x7d\r\n\x7b\"discard\":null\x7d"
  timestamp := 1717293600007
  sourceAddress := none
  grammarIndex := 2
  clamped := true

end Report
end Syslog
