import Syslog.Decimal
import Syslog.Discard

/-!
# Tallies

What a collector counts: grammars tried, vetoed and not fitting, records with the grammars that gave
them, and discards by their reason. Counters have 64 bits and wrap.
-/
namespace Syslog

structure Tally where
  attempts : UInt64
  vetoes : UInt64
  mismatches : UInt64
  parsed : UInt64
  clamped : UInt64
  /-- The nanoseconds spent on records. -/
  nanos : UInt64
  noGrammarConfigured : UInt64
  noMatch : UInt64
  tooOld : UInt64
  unparsableDate : UInt64
  tooLarge : UInt64
  brokenOff : UInt64
  /-- The records of each grammar, by its position. -/
  hits : List UInt64
  deriving DecidableEq, Repr

namespace Tally

/-- Nothing counted yet, for a number of grammars. -/
def empty (grammars : Nat) : Tally :=
  ⟨0, 0, 0, 0, 0, 0, 0, 0, 0, 0, 0, 0, List.replicate grammars 0⟩

def countAttempt (tally : Tally) : Tally := { tally with attempts := tally.attempts + 1 }

def countVeto (tally : Tally) : Tally := { tally with vetoes := tally.vetoes + 1 }

def countMismatch (tally : Tally) : Tally := { tally with mismatches := tally.mismatches + 1 }

/-- Counts a record; a position outside the catalog has no counter of its own. -/
def countRecord (tally : Tally) (grammar : Nat) (clamped : Bool) (nanos : UInt64) : Tally :=
  { tally with
    parsed := tally.parsed + 1
    clamped := if clamped then tally.clamped + 1 else tally.clamped
    nanos := tally.nanos + nanos
    hits := tally.hits.modify grammar (· + 1) }

def countDiscard (tally : Tally) : DiscardReason → Tally
  | .noGrammarConfigured => { tally with noGrammarConfigured := tally.noGrammarConfigured + 1 }
  | .noMatch => { tally with noMatch := tally.noMatch + 1 }
  | .tooOld => { tally with tooOld := tally.tooOld + 1 }
  | .unparsableDate => { tally with unparsableDate := tally.unparsableDate + 1 }
  | .tooLarge => { tally with tooLarge := tally.tooLarge + 1 }
  | .brokenOff => { tally with brokenOff := tally.brokenOff + 1 }

def discarded (tally : Tally) : UInt64 :=
  tally.noGrammarConfigured + tally.noMatch + tally.tooOld + tally.unparsableDate +
    tally.tooLarge + tally.brokenOff

/-- The share of records in all messages; one as long as there is no message. -/
def successRate (tally : Tally) : Float :=
  let messages := tally.parsed + tally.discarded
  if messages = 0 then 1 else tally.parsed.toFloat / messages.toFloat

/-- The mean time of a record in microseconds. -/
def meanMicros (tally : Tally) : Float :=
  if tally.parsed = 0 then 0 else tally.nanos.toFloat / tally.parsed.toFloat / 1000

/-- Rates and times are reported with six places. -/
def places : Nat := 6

def successRateText (tally : Tally) : Text := Decimal.fixed places tally.successRate

def meanMicrosText (tally : Tally) : Text := Decimal.fixed places tally.meanMicros

end Tally
end Syslog
