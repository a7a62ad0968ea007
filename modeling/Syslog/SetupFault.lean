import Syslog.Grammar.Written

/-!
# Faults of the setup

What keeps a collector from starting. A fault of one message is no fault of the setup.
-/
namespace Syslog

inductive SetupFault where
  /-- The file of grammars is missing or no UTF-8. -/
  | patternsUnavailable
  | invalidGrammar (line : Nat) (fault : Grammar.Fault)
  /-- A setting has a value that it must not have. -/
  | invalid (reason : Text)
  /-- The file of settings is no document of the expected form. -/
  | malformed
  /-- A source could not be read as text. -/
  | unreadable
  /-- A number does not fit its bits. The program breaks off where this happens. -/
  | overflow
  deriving DecidableEq, Repr

namespace SetupFault
open Text

def kind : SetupFault → String
  | patternsUnavailable => "PatternsUnavailable"
  | invalidGrammar _ _ => "InvalidGrammar"
  | invalid _ => "Invalid"
  | malformed => "Toml"
  | unreadable => "Io"
  | overflow => "panic"

/-- The text of a fault whose cause lies in the setup alone. -/
def message? : SetupFault → Option Text
  | invalidGrammar line fault =>
    some (ofString "Invalid grammar on line " ++ ofNat line ++ ofString ": " ++ fault.message)
  | invalid reason => some (ofString "Invalid configuration: " ++ reason)
  | _ => none

end SetupFault
end Syslog
