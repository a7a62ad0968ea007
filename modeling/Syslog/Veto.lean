import Syslog.Fields
import Syslog.HostName
import Syslog.Moment

/-!
# Vetoes

A grammar may fit a message and still read it wrongly: a zone or a host where the name of a program
should be, or a host that is none. Such a reading is vetoed, and the next grammar gets its turn.
A hyphen stands for a missing value and is never vetoed.
-/
namespace Syslog

/-- Why a text is no name of a program. -/
inductive ProcessNameFault where
  | empty
  | host
  | bracketedNumber
  | zone
  | colon
  | cutOffZone
  deriving DecidableEq, Repr

def ProcessNameFault.name : ProcessNameFault → String
  | empty => "Empty"
  | host => "LooksLikeHost"
  | bracketedNumber => "BracketedPid"
  | zone => "TimeZone"
  | colon => "ContainsColon"
  | cutOffZone => "TruncatedZone"

/-- The first fault of a name. Three characters that begin with T are taken for a cut-off zone. -/
def processNameFault? (t : Text) : Option ProcessNameFault :=
  if t.isEmpty then some .empty
  else if HostName.namesHost t then some .host
  else if t.contains '[' && t.contains ']' then some .bracketedNumber
  else if Zone.isAbbreviation t then some .zone
  else if t.contains ':' then some .colon
  else if t.length = 3 ∧ t.head? = some 'T' then some .cutOffZone
  else none

inductive Veto where
  | hostName (value : Text)
  | processName (value : Text) (fault : ProcessNameFault)
  deriving DecidableEq, Repr

/-- The mark of a missing value. -/
def nilValue : Text := ['-']

namespace Fields

def hostNameVeto? (fields : Fields) : Option Veto := do
  let value ← fields.get? "hostname"
  if value = nilValue ∨ HostName.isValid value then none else some (.hostName value)

def processNameVeto? (fields : Fields) : Option Veto := do
  let value ← fields.get? "processName"
  if value = nilValue then none else (processNameFault? value).map (Veto.processName value)

/-- The veto against a reading; that of the host goes before that of the program. -/
def veto? (fields : Fields) : Option Veto := fields.hostNameVeto? <|> fields.processNameVeto?

end Fields
end Syslog
