import Syslog.Text.Numeral

/-!
# JSON lines

The values that are written as JSON, and their text on one line. Members keep their order. In a
string, quotes, backslashes and controls are escaped, and every other character stands for itself,
so no text of a value has a line break.
-/
namespace Syslog

inductive Json where
  | null
  | bool (value : Bool)
  | int (value : Int)
  | string (value : Text)
  | object (members : List (String × Json))

namespace Json
open Text

def ofOption {α : Type} (write : α → Json) : Option α → Json
  | none => null
  | some value => write value

def escape (c : Char) : Text :=
  match c with
  | '"' => ['\\', '"']
  | '\\' => ['\\', '\\']
  | '\x08' => ['\\', 'b']
  | '\x0c' => ['\\', 'f']
  | '\n' => ['\\', 'n']
  | '\r' => ['\\', 'r']
  | '\t' => ['\\', 't']
  | c =>
    if c.toNat < 0x20 then ['\\', 'u'] ++ (Nat.toDigits 16 c.toNat).leftpad 4 '0' else [c]

def quote (t : Text) : Text := '"' :: t.flatMap escape ++ ['"']

mutual

def render : Json → Text
  | null => ofString "null"
  | bool true => ofString "true"
  | bool false => ofString "false"
  | int value => ofInt value
  | string value => quote value
  | object members => '\x7b' :: renderMembers members ++ ['\x7d']

def renderMembers : List (String × Json) → Text
  | [] => []
  | [(name, value)] => quote (ofString name) ++ ':' :: render value
  | (name, value) :: members =>
    quote (ofString name) ++ ':' :: render value ++ ',' :: renderMembers members

end

end Json
end Syslog
