import Syslog.Catalog.Basic
import Syslog.DateText.Basic
import Syslog.Discard
import Syslog.Tally
import Syslog.Veto

/-!
# Matching

A grammar does not fit a message, or it fits and its reading is vetoed or accepted. The grammars of
a catalog are tried on a message in their order. The first one that fits and is not vetoed reads the
message; if its date is not accepted, the message is discarded, and no later grammar is tried. Every
try is counted.
-/
namespace Syslog

/-- What comes of trying one grammar on a message. -/
inductive Verdict where
  | accepted (fields : Fields)
  | vetoed (veto : Veto)
  | mismatch
  deriving DecidableEq, Repr

/-- The reading of a message by the grammar at a position of its catalog. -/
structure Reading where
  grammarIndex : Nat
  fields : Fields
  date : DateText
  deriving DecidableEq, Repr

def Grammar.verdict (grammar : Grammar) (t : Text) : Verdict :=
  match grammar.fieldsOf? t with
  | none => .mismatch
  | some fields =>
    match fields.veto? with
    | some veto => .vetoed veto
    | none => .accepted fields

/-- The reading by a grammar whose fields are accepted. -/
def Grammar.reading (grammar : Grammar) (now : Moment) (fields : Fields) : Except Discard Reading :=
  match DateText.ofFields fields now with
  | .ok date => .ok ⟨grammar.index, fields, date⟩
  | .error t => .error (.unparsableDate t)

namespace Catalog

/-- The reading of the first grammar in a list that accepts the message. -/
def readWith (now : Moment) (t : Text) (tally : Tally) :
    List Grammar → Except Discard Reading × Tally
  | [] => (.error .noMatch, tally)
  | grammar :: later =>
    let tally := tally.countAttempt
    match grammar.verdict t with
    | .accepted fields => (grammar.reading now fields, tally)
    | .vetoed _ => readWith now t tally.countVeto later
    | .mismatch => readWith now t tally.countMismatch later

/-- The reading of a message by a catalog, with what was counted on the way. -/
def read (catalog : Catalog) (now : Moment) (t : Text) (tally : Tally) :
    Except Discard Reading × Tally :=
  if catalog.isEmpty then (.error .noGrammarConfigured, tally)
  else readWith now t tally catalog.grammars

end Catalog
end Syslog
