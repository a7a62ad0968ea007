import Syslog.Record

/-!
# Reports

Every datagram is reported in one line of JSON, which holds its record or the reason why there is
none.
-/
namespace Syslog

inductive Report where
  | record (record : Record)
  | discard (reason : DiscardReason) (detail : Text)
  deriving DecidableEq, Repr

namespace Report
open Text

def ofResult : Except Discard Record → Report
  | .ok result => record result
  | .error cause => discard cause.reason cause.message

def toJson : Report → Json
  | record result => .object [("record", result.toJson)]
  | discard reason detail =>
    .object [("discard", .object [
      ("reason", .string (ofString reason.code)), ("detail", .string detail)])]

/-- The line of a report without its end. -/
def line (report : Report) : Text := report.toJson.render

/-- The lines of reports, each with its end. -/
def lines (reports : List Report) : Text := reports.flatMap fun report => report.line ++ ['\n']

end Report
end Syslog
