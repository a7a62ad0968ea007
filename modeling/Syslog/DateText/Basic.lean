import Syslog.DateText.Layout
import Syslog.Fields
import Syslog.Moment

/-!
# Texts of dates

A message tells its date in one field, in several, or not at all. All three come down to one text of
an accepted layout: what the message leaves out is taken from the reference moment, fractions of a
second are dropped, and a Z in the fraction or in the offset stands for the zone UTC.
-/
namespace Syslog

inductive DateOrigin where
  | message
  | clock
  deriving DecidableEq, Repr

/-- The text of a date, and whether the message or the clock gave it. -/
structure DateText where
  text : Text
  origin : DateOrigin
  deriving DecidableEq, Repr

namespace DateText
open Text

/-- The fields that hold parts of a date. -/
def partNames : List String := [
  "year", "day", "month", "hours", "minutes", "seconds", "milliseconds", "timeOffset", "timeZone"]

/-- Takes out the first point that digits follow, together with the digits, of a text of which
`seen` has been read, the latest character first. -/
def dropFractionFrom (seen : Text) : Text → Text
  | [] => seen.reverse
  | c :: t =>
    if c = '.' ∧ t.head?.any isDecimalDigit then seen.reverse ++ t.dropWhile isDecimalDigit
    else dropFractionFrom (c :: seen) t

def dropFraction (t : Text) : Text := dropFractionFrom [] t

/-- Puts a colon into an offset of a sign and four digits at the end of a text. -/
def expandOffset (t : Text) : Text :=
  let start := t.length - 5
  match t.drop start with
  | [sign, a, b, c, d] =>
    if (sign = '+' ∨ sign = '-') ∧ [a, b, c, d].all isDecimalDigit then
      t.take start ++ [sign, a, b, ':', c, d]
    else t
  | _ => t

/-- A text of one byte gets a zero in front. -/
def twoPlaces (t : Text) : Text := if byteLength t = 1 then '0' :: t else t

/-- The first three characters of a name, the first a capital. -/
def abbreviate (name : Text) : Text :=
  match name.take 3 with
  | [] => []
  | c :: t => c.toUpper :: toAsciiLower t

/-- A date with an accepted layout; otherwise the text that has none. -/
def accept (origin : DateOrigin) (t : Text) : Except Text DateText :=
  if (DateLayout.ofText? t).isSome then .ok ⟨t, origin⟩ else .error t

/-- The date of a message that tells it in one field. Dates in Zulu time are expected in parts. -/
def ofWhole (date : Text) : Except Text DateText :=
  if date.contains 'Z' then .error date
  else accept .message (expandOffset (trim (dropFraction date)))

/-- The month as two digits, or else as the first three letters of its name. -/
def monthText (now : LocalTime) (fields : Fields) : Text :=
  match fields.get? "month" with
  | some month => if month.all Char.isDigit then twoPlaces month else abbreviate month
  | none => padded 2 now.date.month

/-- A part of the date that is a number of two digits. -/
def partText (fields : Fields) (name : String) (current : Nat) : Text :=
  ((fields.get? name).map twoPlaces).getD (padded 2 current)

/-- The message tells its date in Zulu time. -/
def isZulu (fields : Fields) : Bool :=
  fields.get? "timeOffset" == some ['Z'] ||
    (fields.get? "milliseconds").any fun fraction => fraction.getLast? == some 'Z'

/-- The offset written after the time, if any. -/
def offsetText (fields : Fields) : Text :=
  match fields.get? "timeOffset" with
  | some offset => if offset = ['Z'] then [] else expandOffset offset
  | none => []

/-- The zone written at the end, if any. -/
def zoneText (fields : Fields) : Text :=
  if isZulu fields then ofString " UTC"
  else ((fields.get? "timeZone").map (' ' :: ·)).getD []

/-- The text of a date that is told in parts. -/
def ofParts (now : LocalTime) (fields : Fields) : Text :=
  let year := (fields.get? "year").getD (ofInt now.date.year)
  let month := monthText now fields
  let separator := if month.all Char.isDigit then ['-'] else [' ']
  month ++ separator ++ partText fields "day" now.date.day ++ separator ++ year ++ [' '] ++
    partText fields "hours" now.hour ++ [':'] ++ partText fields "minutes" now.minute ++ [':'] ++
    partText fields "seconds" now.second ++ offsetText fields ++ zoneText fields

/-- The date of a message, or the text that has no accepted layout. -/
def ofFields (fields : Fields) (now : Moment) : Except Text DateText :=
  match fields.get? "date" with
  | some date => ofWhole date
  | none =>
    if partNames.any fields.contains then accept .message (ofParts now.localTime fields)
    else accept .clock now.text

end DateText
end Syslog
