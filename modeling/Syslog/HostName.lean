import Syslog.Text.Basic

/-!
# Host names

A host name is a sequence of labels joined by points. A label consists of ASCII letters, digits and
hyphens, and neither starts nor ends with a hyphen.
-/
namespace Syslog.HostName
open Text

def isLabelCharacter (c : Char) : Bool := c.isAlphanum || c == '-'

def isLabel (t : Text) : Bool :=
  t.all isLabelCharacter && (t.head?.any Char.isAlphanum) && (t.getLast?.any Char.isAlphanum)

/-- Labels joined by points, of any length. -/
def isLabels (t : Text) : Bool := (t.splitOn '.').all isLabel

/-- A number from 0 to 255 without leading zeros. -/
def isOctet (t : Text) : Bool :=
  t.all Char.isDigit && 0 < t.length && t.length ≤ 3 && Nat.ofDigitChars 10 t 0 ≤ 255 &&
    (t.length == 1 || t.head? != some '0')

/-- Four octets joined by points. -/
def isAddress (t : Text) : Bool :=
  let octets := t.splitOn '.'
  octets.length == 4 && octets.all isOctet

def isLocal (t : Text) : Bool := toAsciiLower t == ofString "localhost"

def maxLength : Nat := 253

def isValid (t : Text) : Bool :=
  !t.isEmpty && byteLength t ≤ maxLength && (isLocal t || isAddress t || isLabels t)

/-- A text that names a host rather than a program: a local or numeric one, or one of several
labels. -/
def namesHost (t : Text) : Bool :=
  isLocal t || isAddress t || (t.contains '.' && isValid t)

end Syslog.HostName
