import Syslog.Json
import Syslog.Toml.Quotation

/-!
# Reading JSON

The reader takes every JSON text of a value of ours, with spaces between its parts and characters
escaped in any way. Lists and numbers with a fraction or an exponent are no such values and are
refused, as is whatever is no JSON. Each reader gives what it has read and what follows.
-/
namespace Syslog.Json
open Text

def isSpace (c : Char) : Bool := c == ' ' || c == '\t' || c == '\n' || c == '\r'

def skipSpaces (t : Text) : Text := t.dropWhile isSpace

/-- The number of four hexadecimal digits. -/
def codeUnit? : Text → Option (Nat × Text)
  | a :: b :: c :: d :: t =>
    ([a, b, c, d].mapM Toml.hexDigit?).map fun digits =>
      (digits.foldl (fun n digit => 16 * n + digit) 0, t)
  | _ => none

/-- The character that two code units of UTF-16 stand for together. -/
def paired? (high low : Nat) : Option Char :=
  if 0xD800 ≤ high ∧ high < 0xDC00 ∧ 0xDC00 ≤ low ∧ low < 0xE000 then
    some (Char.ofNat (0x10000 + (high - 0xD800) * 0x400 + (low - 0xDC00)))
  else none

/-- The character that a code unit, and if need be the one after it, stands for. -/
def escapedUnit? (t : Text) : Option (Char × Text) := do
  let (unit, t) ← codeUnit? t
  if unit.isValidChar then return (Char.ofNat unit, t)
  let t ← after? ['\\', 'u'] t
  let (low, t) ← codeUnit? t
  let c ← paired? unit low
  return (c, t)

/-- The character of an escape whose backslash has been read. -/
def escaped? : Text → Option (Char × Text)
  | 'u' :: t => escapedUnit? t
  | '/' :: t => some ('/', t)
  | c :: t => (Toml.escape? c).map (·, t)
  | [] => none

/-- The rest of a string up to its closing quotes. The fuel bounds the number of characters. -/
def characters? : Nat → Text → Option (Text × Text)
  | _, '"' :: t => some ([], t)
  | fuel + 1, '\\' :: t => do
    let (c, t) ← escaped? t
    (characters? fuel t).map fun (s, t) => (c :: s, t)
  | fuel + 1, c :: t =>
    if c.toNat < 0x20 then none else (characters? fuel t).map fun (s, t) => (c :: s, t)
  | _, _ => none

def string? : Text → Option (Text × Text)
  | '"' :: t => characters? t.length t
  | _ => none

/-- The character continues a number. -/
def isNumberPart (c : Char) : Bool := c.isDigit || (ofString "eE.").contains c

/-- The digits of an integer, of which the first of several is no zero. -/
def magnitude? (t : Text) : Option (Nat × Text) :=
  let digits := t.takeWhile Char.isDigit
  let rest := t.dropWhile Char.isDigit
  if 1 < digits.length ∧ digits.head? = some '0' then none
  else if rest.head?.any isNumberPart then none
  else (digits? digits).map (·, rest)

def number? : Text → Option (Int × Text)
  | '-' :: t => (magnitude? t).map fun (n, t) => (-(n : Int), t)
  | t => (magnitude? t).map fun (n, t) => ((n : Int), t)

/-- A value that is no object. -/
def scalar? : Text → Option (Json × Text)
  | 'n' :: t => (after? (ofString "ull") t).map (null, ·)
  | 't' :: t => (after? (ofString "rue") t).map (bool true, ·)
  | 'f' :: t => (after? (ofString "alse") t).map (bool false, ·)
  | '"' :: t => (string? ('"' :: t)).map fun (s, t) => (string s, t)
  | t => (number? t).map fun (n, t) => (int n, t)

mutual

/-- A value. The fuel bounds the depth of objects together with the number of their members. -/
def value? : Nat → Text → Option (Json × Text)
  | 0, _ => none
  | fuel + 1, '\x7b' :: t =>
    match skipSpaces t with
    | '\x7d' :: t => some (object [], t)
    | t => (members? fuel t).map fun (members, t) => (object members, t)
  | _ + 1, t => scalar? t

/-- The members of an object up to its closing brace. -/
def members? : Nat → Text → Option (List (String × Json) × Text)
  | 0, _ => none
  | fuel + 1, t => do
    let (name, t) ← string? t
    let t ← after? [':'] (skipSpaces t)
    let (value, t) ← value? fuel (skipSpaces t)
    match skipSpaces t with
    | ',' :: t =>
      let (members, t) ← members? fuel (skipSpaces t)
      return ((String.ofList name, value) :: members, t)
    | '\x7d' :: t => return ([(String.ofList name, value)], t)
    | _ => none

end

/-- The value of a JSON text. -/
def ofText? (t : Text) : Option Json := do
  let (value, rest) ← value? t.length (skipSpaces t)
  if (skipSpaces rest).isEmpty then some value else none

/-- Reads a value that may be null. -/
def option? {α : Type} (read : Json → Option α) : Json → Option (Option α)
  | null => some none
  | value => (read value).map some

def asText? : Json → Option Text
  | string s => some s
  | _ => none

def asInt? : Json → Option Int
  | int n => some n
  | _ => none

def asBool? : Json → Option Bool
  | bool value => some value
  | _ => none

def member? (name : String) : Json → Option Json
  | object members => members.lookup name
  | _ => none

@[simp] theorem asInt?_int (n : Int) : asInt? (int n) = some n := rfl

@[simp] theorem asBool?_bool (value : Bool) : asBool? (bool value) = some value := rfl

end Syslog.Json
