import Syslog.Calendar
import Syslog.Toml.Value

/-!
# TOML atoms

The values that stand without quotes: truth values, integers in four bases, floats, dates and times.
Between two digits one underscore may stand. Integers are those of 128 bits.
-/
namespace Syslog.Toml
open Text

def isAtomCharacter (c : Char) : Bool := c.isAlphanum || "_+-.:".contains c

/-- The digits of a number of a class without the underscores, each of which stands between two. -/
def digitGroups? (p : Char → Bool) (t : Text) : Option Text :=
  let groups := t.splitOn '_'
  if groups.all fun group => !group.isEmpty && group.all p then some groups.flatten else none

def valueOf (base : Nat) (digits : Text) : Nat :=
  digits.foldl (fun n c =>
    base * n + if c.isDigit then c.toNat - 48 else c.toLower.toNat - 87) 0

def isHexDigit (c : Char) : Bool := c.isDigit || ('a' ≤ c.toLower && c.toLower ≤ 'f')

/-- Digits of which the first of several is no zero. -/
def unpadded? (t : Text) : Option Text := do
  let digits ← digitGroups? Char.isDigit t
  if digits.head? = some '0' ∧ digits.length ≠ 1 then none else some digits

/-- The sign and the rest of a number. -/
def signed : Text → Bool × Text
  | '-' :: t => (true, t)
  | '+' :: t => (false, t)
  | t => (false, t)

def integerValue? (t : Text) : Option Int :=
  match t with
  | '0' :: 'x' :: t => (digitGroups? isHexDigit t).map fun digits => (valueOf 16 digits : Int)
  | '0' :: 'o' :: t =>
    (digitGroups? (fun c => '0' ≤ c && c ≤ '7') t).map fun digits => (valueOf 8 digits : Int)
  | '0' :: 'b' :: t =>
    (digitGroups? (fun c => c == '0' || c == '1') t).map fun digits => (valueOf 2 digits : Int)
  | _ =>
    let (negative, t) := signed t
    (unpadded? t).map fun digits =>
      if negative then -(valueOf 10 digits : Int) else valueOf 10 digits

def integer? (t : Text) : Option Value :=
  ((integerValue? t).filter fun n => -(Nat.pow 2 127 : Int) ≤ n ∧ n < Nat.pow 2 128).map .integer

/-- A decimal with the given digits and exponent is so large that no double comes near it. -/
def overflows (digits : Text) (exponent : Int) : Bool :=
  let digits := digits.dropWhile (· == '0')
  let magnitude := digits.length + exponent
  if digits.isEmpty ∨ magnitude ≤ 308 then false
  else if 310 ≤ magnitude then true
  else
    let bound := Nat.pow 2 1024 - Nat.pow 2 970
    let value := valueOf 10 digits
    if 0 ≤ exponent then bound ≤ value * Nat.pow 10 exponent.toNat
    else bound * Nat.pow 10 exponent.natAbs ≤ value

/-- The exponent after the letter e, of which the digits may start with zeros. -/
def exponent? (t : Text) : Option Int := do
  let (negative, t) := signed t
  let digits ← digitGroups? Char.isDigit t
  return if negative then -(valueOf 10 digits : Int) else valueOf 10 digits

def isFloat (t : Text) : Bool :=
  let (_, unsigned) := signed t
  if unsigned = ofString "inf" ∨ unsigned = ofString "nan" then true
  else
    let (mantissa, power) := unsigned.span fun c => c.toLower != 'e'
    let (whole, decimals) := mantissa.span (· != '.')
    let exponent : Option Int :=
      match power with
      | [] => some 0
      | _ :: t => exponent? t
    let places : Option Text :=
      match decimals with
      | [] => some []
      | _ :: t => digitGroups? Char.isDigit t
    match unpadded? whole, places, exponent with
    | some whole, some places, some exponent =>
      !(power.isEmpty && decimals.isEmpty) &&
        !overflows (whole ++ places) (exponent - places.length)
    | _, _, _ => false

/-- The number that two digits give, if it is not above a bound. -/
def twoDigits? (bound : Nat) (t : Text) : Option Nat :=
  if t.length = 2 then (digits? t).filter (· ≤ bound) else none

def isDate (t : Text) : Bool :=
  match t.splitOn '-' with
  | [year, month, day] =>
    match digits? year, twoDigits? 12 month, twoDigits? 31 day with
    | some number, some month, some day => year.length == 4 && Date.isValid ⟨number, month, day⟩
    | _, _, _ => false
  | _ => false

/-- Hours, minutes and seconds with or without a fraction; a minute may have a leap second. -/
def isTime (t : Text) : Bool :=
  match t.splitOn ':' with
  | [hour, minute, second] =>
    let (second, fraction) := second.span (· != '.')
    (twoDigits? 23 hour).isSome && (twoDigits? 59 minute).isSome && (twoDigits? 60 second).isSome &&
      (fraction.isEmpty || (digits? (fraction.drop 1)).isSome)
  | _ => false

def isOffset (t : Text) : Bool :=
  match (t.drop 1).splitOn ':' with
  | [hour, minute] => (twoDigits? 23 hour).isSome && (twoDigits? 59 minute).isSome
  | _ => false

/-- A time of day with or without an offset. -/
def isTimeWithOffset (t : Text) : Bool :=
  match t.getLast? with
  | some 'Z' | some 'z' => isTime t.dropLast
  | _ =>
    let (time, offset) := t.span fun c => c != '+' && c != '-'
    isTime time && (offset.isEmpty || isOffset offset)

def isDateTime (t : Text) : Bool :=
  let date := t.take 10
  match t.drop 10 with
  | [] => isDate t || isTime t
  | separator :: time =>
    (isDate date && (separator == 'T' || separator == 't' || separator == ' ') &&
      isTimeWithOffset time) || isTime t

def atom? (t : Text) : Option Value :=
  if t = ofString "true" then some (.boolean true)
  else if t = ofString "false" then some (.boolean false)
  else if isDateTime t then some (.dateTime t)
  else if isFloat t then some (.float t)
  else integer? t

/-- The characters of an atom at the start of a text, and what follows. A space between a date and a
time belongs to the atom. -/
def spanAtom (t : Text) : Text × Text :=
  let (first, rest) := t.span isAtomCharacter
  match rest with
  | ' ' :: c :: rest' =>
    if isDate first ∧ c.isDigit then
      let (second, rest'') := (c :: rest').span isAtomCharacter
      (first ++ ' ' :: second, rest'')
    else (first, rest)
  | _ => (first, rest)

end Syslog.Toml
