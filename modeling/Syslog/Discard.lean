import Syslog.Text.Numeral

/-!
# Discards

Why a datagram gives no record. Each cause has a code, under which it is counted and reported, and a
text for the reader.
-/
namespace Syslog

inductive Discard where
  | noGrammarConfigured
  | noMatch
  /-- The minutes count how far the message lies behind the reference time. -/
  | tooOld (minutes : Int)
  | unparsableDate (text : Text)
  | tooLarge (bytes : Nat)
  deriving DecidableEq, Repr

/-- The greatest number of bytes in a datagram. -/
def maxDatagram : Nat := 65536

/-- The causes under which discards are counted. A pipeline that breaks off has one too. -/
inductive DiscardReason where
  | noGrammarConfigured
  | noMatch
  | tooOld
  | unparsableDate
  | tooLarge
  | brokenOff
  deriving DecidableEq, Repr

namespace DiscardReason

def all : List DiscardReason :=
  [noGrammarConfigured, noMatch, tooOld, unparsableDate, tooLarge, brokenOff]

def code : DiscardReason → String
  | noGrammarConfigured => "no_grammar_configured"
  | noMatch => "no_match"
  | tooOld => "message_too_old"
  | unparsableDate => "unparsable_date"
  | tooLarge => "datagram_too_large"
  | brokenOff => "parser_panic"

def ofCode? (code : String) : Option DiscardReason := all.find? (·.code == code)

end DiscardReason

namespace Discard
open Text

def reason : Discard → DiscardReason
  | noGrammarConfigured => .noGrammarConfigured
  | noMatch => .noMatch
  | tooOld _ => .tooOld
  | unparsableDate _ => .unparsableDate
  | tooLarge _ => .tooLarge

def message : Discard → Text
  | noGrammarConfigured => ofString "No grammar configured"
  | noMatch => ofString "No grammar matched the message"
  | tooOld minutes =>
    ofString "Message too old: " ++ ofInt minutes ++
      ofString " minutes behind the reference clock"
  | unparsableDate text => ofString "Unparsable date: " ++ text
  | tooLarge bytes =>
    ofString "Datagram too large: " ++ ofNat bytes ++ ofString " bytes (max: " ++
      ofNat maxDatagram ++ ofString " bytes)"

end Discard
end Syslog
