import Syslog.Proofs.DateText.MonthNames
import Syslog.Proofs.Catalog.Parts
import Syslog.Proofs.Record.Values

/-!
# Tagged messages

The messages that start with the name of a month: a priority, a date, which may have a year or else
a zone, a host, the tag of a program, which may have a number, and a body. The year and the zone
that such a message leaves out are those of the clock. A tag that is a hyphen is the nil value and
names no program.
-/
namespace Syslog
open Text

/-- What the date of a message has besides month, day and time of day. -/
inductive DateAddition where
  | nothing
  | year (number : ℕ)
  | zone (abbreviation : Text)
  deriving DecidableEq, Repr

namespace DateAddition

def WellFormed : DateAddition → Prop
  | nothing => True
  | year number => number ≤ 9999
  | zone abbreviation => abbreviation.length = 3 ∧ Zone.isAbbreviation abbreviation = true

instance : (addition : DateAddition) → Decidable addition.WellFormed
  | nothing => inferInstanceAs (Decidable True)
  | year number => inferInstanceAs (Decidable (number ≤ 9999))
  | zone abbreviation => inferInstanceAs
    (Decidable (abbreviation.length = 3 ∧ Zone.isAbbreviation abbreviation = true))

def isZone : DateAddition → Bool
  | zone _ => true
  | _ => false

end DateAddition

structure TaggedMessage where
  priority : Priority
  month : ℕ
  /-- The month as it is written. -/
  monthName : Text
  day : ℕ
  /-- The day as it is written. -/
  dayDigits : Text
  hour : ℕ
  minute : ℕ
  second : ℕ
  addition : DateAddition
  hostname : Text
  tag : Text
  processId : Option Text
  body : Text
  deriving DecidableEq, Repr

namespace TaggedMessage

/-- The tag up to the blank before the body. -/
def tagText (message : TaggedMessage) : Text :=
  match message.processId with
  | none => message.tag ++ [':']
  | some digits => message.tag ++ '[' :: (digits ++ [']', ':'])

def later (message : TaggedMessage) : Text :=
  message.hostname ++ ' ' :: (message.tagText ++ ' ' :: message.body)

def afterTime (message : TaggedMessage) : Text :=
  match message.addition with
  | .zone abbreviation => abbreviation ++ ' ' :: message.later
  | _ => message.later

def timed (message : TaggedMessage) : Text :=
  padded 2 message.hour ++ ':' :: (padded 2 message.minute ++ ':' ::
    (padded 2 message.second ++ ' ' :: message.afterTime))

def afterDay (message : TaggedMessage) : Text :=
  match message.addition with
  | .year number => padded 4 number ++ ' ' :: message.timed
  | _ => message.timed

def dated (message : TaggedMessage) : Text :=
  message.monthName ++ ' ' :: (message.dayDigits ++ ' ' :: message.afterDay)

def text (message : TaggedMessage) : Text :=
  '<' :: (ofNat message.priority.encode ++ '>' :: message.dated)

def head (message : TaggedMessage) : Text :=
  let year := match message.addition with
    | .year number => padded 4 number ++ [' ']
    | _ => []
  let zone := match message.addition with
    | .zone abbreviation => abbreviation ++ [' ']
    | _ => []
  '<' :: (ofNat message.priority.encode ++ '>' :: (message.monthName ++ ' ' ::
    (message.dayDigits ++ ' ' :: (year ++ (padded 2 message.hour ++ ':' ::
      (padded 2 message.minute ++ ':' :: (padded 2 message.second ++ ' ' ::
        (zone ++ (message.hostname ++ ' ' :: message.tagText)))))))))

lemma text_eq (message : TaggedMessage) : message.text = message.head ++ ' ' :: message.body := by
  cases haddition : message.addition <;>
    simp [text, head, dated, afterDay, timed, afterTime, later, haddition]

def isTagCharacter (c : Char) : Bool := c.isAlphanum || c == '_' || c == '-' || c == '/'

/-- What of a message decides how the forms read it. -/
@[mk_iff]
structure Readable (message : TaggedMessage) : Prop where
  month : NamesMonth message.monthName message.month
  day : Spells 1 message.dayDigits message.day ∨ Spells 2 message.dayDigits message.day
  addition : message.addition.WellFormed
  hostname : HostName.isValid message.hostname = true
  tag : (∀ c ∈ message.tag, isTagCharacter c = true) ∧ processNameFault? message.tag = none
  processId : ∀ digits ∈ message.processId, digits ≠ [] ∧ (∀ c ∈ digits, c.isDigit = true) ∧
    Nat.ofDigitChars 10 digits 0 < half64
  body : message.body ≠ [] ∧ Stops isBlank message.body

instance (message : TaggedMessage) : Decidable message.Readable :=
  decidable_of_iff' _ (readable_iff message)

@[mk_iff]
structure WellFormed (message : TaggedMessage) : Prop extends Readable message where
  /-- After a date with a zone no number of a process is told. -/
  unnumbered : message.addition.isZone = true → message.processId = none
  ending : message.body ≠ nilValue ∧ ∀ c ∈ message.body.getLast?, Collector.isLineEnd c = false
  unmarked : ∀ value ∈ [message.hostname, message.tag, message.body], Fields.Unmarked value
  free : ¬ SourceMarker.marker <:+: message.text
  fits : byteLength message.text ≤ maxDatagram

instance (message : TaggedMessage) : Decidable message.WellFormed :=
  decidable_of_iff' _ (wellFormed_iff message)

def year (message : TaggedMessage) (now : Moment) : ℤ :=
  match message.addition with
  | .year number => number
  | _ => now.localTime.date.year

def time (message : TaggedMessage) (now : Moment) : LocalTime :=
  ⟨⟨message.year now, message.month, message.day⟩, message.hour, message.minute, message.second⟩

/-- Seconds east of UTC, by the zone of the message or else by the clock. -/
def offset (message : TaggedMessage) (now : Moment) : ℤ :=
  match message.addition with
  | .zone abbreviation => (Zone.offset? abbreviation).getD now.offset
  | _ => now.offset

def instant (message : TaggedMessage) (now : Moment) : Instant :=
  ((message.time now).toSeconds - message.offset now) * 1000

/-- The bundled forms with the name of a month are those with a year, those with a zone and those
with neither, first those with the number of a process. -/
def grammarIndex (message : TaggedMessage) : ℕ :=
  match message.addition, message.processId with
  | .year _, some _ => 12
  | .year _, none => 13
  | .zone _, _ => 14
  | .nothing, some _ => 15
  | .nothing, none => 16

/-- The record that a message ought to give. The nil value as a tag names no program. -/
def record (message : TaggedMessage) (now : Moment) : Record where
  facility := some message.priority.facility
  severity := some message.priority.severity
  version := 0
  hostname := some message.hostname
  processName := Fields.told message.tag
  processId := (message.processId.map fun digits => Nat.ofDigitChars 10 digits 0).getD 0
  messageId := none
  structuredData := none
  message := message.body
  timestamp := message.instant now
  sourceAddress := none
  grammarIndex := message.grammarIndex
  clamped := false

end TaggedMessage
end Syslog
