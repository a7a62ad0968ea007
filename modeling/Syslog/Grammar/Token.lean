import Syslog.Grammar.Reader
import Syslog.Text.WordCharacter

/-!
# Tokens

The types of value that a grammar can ask for, each with the reader that finds its pieces. Digits
are those of every script; names of hosts and zones are ASCII.
-/
namespace Syslog

inductive Token where
  | int | posint | word | nospace | data | string | greedyData | month | hostName | ipv4 | ipOrHost
  | time | timeZone | offset | fraction | timestamp | structuredData
  deriving DecidableEq, Repr

namespace Token
open Text Reader

def all : List Token := [
  int, posint, word, nospace, data, string, greedyData, month, hostName, ipv4, ipOrHost, time,
  timeZone, offset, fraction, timestamp, structuredData]

/-- The name of a type in the text of a grammar. -/
def name : Token → String
  | int => "INT"
  | posint => "POSINT"
  | word => "WORD"
  | nospace => "NOSPACE"
  | data => "DATA"
  | string => "STRING"
  | greedyData => "GREEDYDATA"
  | month => "MONTH"
  | hostName => "HOSTNAME"
  | ipv4 => "IPV4"
  | ipOrHost => "IPORHOST"
  | time => "TIME"
  | timeZone => "TIMEZONE"
  | offset => "OFFSET"
  | fraction => "FRACTION"
  | timestamp => "TIMESTAMP_ISO8601"
  | structuredData => "SDATA"

def ofName? (name : Text) : Option Token := all.find? fun token => token.name == String.ofList name

/-- The spellings of the months in small letters, in the order in which they are tried. -/
def monthSpellings : List Text := [
  "january", "jan", "february", "feb", "march", "mar", "april", "apr", "may", "june", "jun", "july",
  "jul", "august", "aug", "sept", "september", "sep", "october", "oct", "november", "nov",
  "december", "dec"].map ofString

/-- The small letter of a character that may stand in the name of a month. The long s counts as an
s. -/
def foldCase (c : Char) : Char := if c = 'ſ' then 's' else c.toLower

/-- A word in any case. -/
def anyCase (spelling : Text) : Reader := fun t =>
  if (t.take spelling.length).map foldCase = spelling then [t.drop spelling.length] else []

/-- Where a reader of labels stands: a label has to begin, or the last character was a letter or
digit, or a hyphen. -/
inductive LabelState where
  | start
  | letter
  | hyphen
  deriving DecidableEq, Repr

/-- Collects what follows every sequence of labels at the start of a text, the longest first. -/
def labelsFrom (found : List Text) : LabelState → Reader
  | _, [] => found
  | state, c :: t =>
    if c.isAlphanum then labelsFrom (t :: found) .letter t
    else if c = '-' ∧ state ≠ .start then labelsFrom found .hyphen t
    else if c = '.' ∧ state = .letter then labelsFrom found .start t
    else found

def labels : Reader := labelsFrom [] .start

/-- Where a reader of structured data stands: between two elements, in an element, or in a quoted
value in an element. -/
inductive ElementState where
  | between
  | element
  | quoted
  deriving DecidableEq, Repr

/-- Collects what follows every sequence of elements at the start of a text, the longest first. An
element ends at the first closing bracket that is neither escaped nor in a quoted value. -/
def elementsFrom (found : List Text) : ElementState → Reader
  | .between, '[' :: t => elementsFrom found .element t
  | .between, _ => found
  | _, [] => found
  | _, ['\\'] => found
  | state, '\\' :: _ :: t => elementsFrom found state t
  | .element, '"' :: t => elementsFrom found .quoted t
  | .quoted, '"' :: t => elementsFrom found .element t
  | .element, ']' :: t => elementsFrom (t :: found) .between t
  | state, _ :: t => elementsFrom found state t

def elements : Reader := elementsFrom [] .between

def digit : Reader := one isDecimalDigit

def twoDigits : Reader := andThen digit digit

/-- A plus or a minus. -/
def sign : Reader := one fun c => c == '+' || c == '-'

def char (c : Char) : Reader := literal [c]

/-- One to three digits. -/
def octet : Reader := andThen digit (upTo isDecimalDigit 2)

def address : Reader :=
  sequence [octet, char '.', octet, char '.', octet, char '.', octet]

def timeOfDay : Reader := sequence [twoDigits, char ':', twoDigits, char ':', twoDigits]

def zoneOffset : Reader :=
  orElse (char 'Z') (sequence [sign, twoDigits, optional (char ':'), twoDigits])

def dateAndTime : Reader := sequence [
  twoDigits, twoDigits, char '-', twoDigits, char '-', twoDigits, char 'T', timeOfDay,
  optional (andThen (char '.') (Reader.some isDecimalDigit)), optional zoneOffset]

def reader : Token → Reader
  | int => andThen (optional sign) (Reader.some isDecimalDigit)
  | posint => Reader.some isDecimalDigit
  | word => Reader.some isWordCharacter
  | nospace => Reader.some fun c => !isBlank c
  | data => fewest
  | string => many fun _ => true
  | greedyData => many fun _ => true
  | month => fun t => monthSpellings.flatMap fun spelling => anyCase spelling t
  | hostName => labels
  | ipv4 => address
  | ipOrHost => orElse address labels
  | time => timeOfDay
  | timeZone => exactly 3 Char.isUpper
  | offset => zoneOffset
  | fraction => andThen (Reader.some isDecimalDigit) (optional (char 'Z'))
  | timestamp => dateAndTime
  | structuredData => orElse (char '-') elements

theorem leavesEnds_anyCase (spelling : Text) : LeavesEnds (anyCase spelling) := by
  intro t rest h
  simp only [anyCase] at h
  split at h
  · rw [List.mem_singleton.1 h]
    exact List.drop_suffix _ t
  · simp at h

theorem mem_labelsFrom {found : List Text} {state : LabelState} {t rest : Text}
    (h : rest ∈ labelsFrom found state t) : rest <:+ t ∨ rest ∈ found := by
  induction t generalizing found state with
  | nil => exact .inr h
  | cons c t ih =>
    have hend : ∀ {s : Text}, s <:+ t → s <:+ c :: t := fun hs => hs.trans (List.suffix_cons c t)
    simp only [labelsFrom] at h
    split at h
    · rcases ih h with hrest | hrest
      · exact .inl (hend hrest)
      · rcases List.mem_cons.1 hrest with rfl | hrest
        · exact .inl (List.suffix_cons c _)
        · exact .inr hrest
    · split at h
      · exact (ih h).imp_left hend
      · split at h
        · exact (ih h).imp_left hend
        · exact .inr h

theorem leavesEnds_labels : LeavesEnds labels :=
  fun _ _ h => (mem_labelsFrom h).resolve_right (by simp)

theorem mem_elementsFrom {found : List Text} {state : ElementState} {t rest : Text}
    (h : rest ∈ elementsFrom found state t) : rest <:+ t ∨ rest ∈ found := by
  have hend : ∀ {c : Char} {s t : Text}, s <:+ t → s <:+ c :: t :=
    fun {c _ t} hs => hs.trans (List.suffix_cons c t)
  fun_induction elementsFrom found state t with
  | case1 found t ih => exact (ih h).imp_left hend
  | case2 | case3 | case4 => exact .inr h
  | case5 found state c t _ ih => exact (ih h).imp_left fun hs => hend (hend hs)
  | case6 found t ih => exact (ih h).imp_left hend
  | case7 found t ih => exact (ih h).imp_left hend
  | case8 found t ih =>
    rcases ih h with hrest | hrest
    · exact .inl (hend hrest)
    · rcases List.mem_cons.1 hrest with rfl | hrest
      · exact .inl (List.suffix_cons _ _)
      · exact .inr hrest
  | case9 =>
    rename_i ih
    exact (ih h).imp_left hend

theorem leavesEnds_elements : LeavesEnds elements :=
  fun _ _ h => (mem_elementsFrom h).resolve_right (by simp)

theorem leavesEnds_reader (token : Token) : LeavesEnds token.reader := by
  have hdigit : LeavesEnds digit := leavesEnds_one _
  have htwo : LeavesEnds twoDigits := hdigit.andThen hdigit
  have hchar : ∀ c, LeavesEnds (char c) := fun c => leavesEnds_literal [c]
  have hsign : LeavesEnds Token.sign := leavesEnds_one _
  have hoctet : LeavesEnds octet := hdigit.andThen (leavesEnds_upTo _ 2)
  have haddress : LeavesEnds address := leavesEnds_sequence (by simp [hoctet, hchar])
  have htime : LeavesEnds timeOfDay := leavesEnds_sequence (by simp [htwo, hchar])
  have hoffset : LeavesEnds zoneOffset :=
    (hchar 'Z').orElse (leavesEnds_sequence (by simp [hsign, htwo, (hchar ':').optional]))
  cases token with
  | int => exact hsign.optional.andThen (leavesEnds_some _)
  | posint | word | nospace => exact leavesEnds_some _
  | data => exact leavesEnds_fewest
  | string | greedyData => exact leavesEnds_many _
  | month =>
    intro t rest h
    obtain ⟨spelling, _, h⟩ := List.mem_flatMap.1 h
    exact leavesEnds_anyCase spelling t rest h
  | hostName => exact leavesEnds_labels
  | ipv4 => exact haddress
  | ipOrHost => exact haddress.orElse leavesEnds_labels
  | time => exact htime
  | timeZone => exact leavesEnds_exactly 3 _
  | offset => exact hoffset
  | fraction => exact (leavesEnds_some _).andThen (hchar 'Z').optional
  | timestamp =>
    exact leavesEnds_sequence (by
      simp [htwo, hchar, htime, ((hchar '.').andThen (leavesEnds_some _)).optional,
        hoffset.optional])
  | structuredData => exact (hchar '-').orElse leavesEnds_elements

end Token
end Syslog
