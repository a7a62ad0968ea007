import Syslog.Text.Basic

/-!
# TOML strings

A string stands in double quotes, where a backslash escapes, or in single quotes, where nothing
does; three quotes at each end allow line breaks. Each reader takes the text after the opening
quotes and gives the string and what follows its closing quotes.
-/
namespace Syslog.Toml

/-- A control character that no comment or string may hold; the tab is none of them. -/
def isControl (c : Char) : Bool := (c.toNat < 0x20 && c != '\t') || c == '\x7f'

def hexDigit? (c : Char) : Option Nat :=
  if c.isDigit then some (c.toNat - 48)
  else if 'a' ≤ c ∧ c ≤ 'f' then some (c.toNat - 87)
  else if 'A' ≤ c ∧ c ≤ 'F' then some (c.toNat - 55)
  else none

/-- The character with a code point in hexadecimal digits. -/
def scalar? (digits : Text) : Option Char := do
  let digits ← digits.mapM hexDigit?
  let code := digits.foldl (fun n d => 16 * n + d) 0
  if h : code.isValidChar then some (Char.ofNatAux code h) else none

/-- The character for the letter after a backslash. -/
def escape? : Char → Option Char
  | 'b' => some '\x08'
  | 't' => some '\t'
  | 'n' => some '\n'
  | 'f' => some '\x0c'
  | 'r' => some '\r'
  | '"' => some '"'
  | '\\' => some '\\'
  | _ => none

def isSpace (c : Char) : Bool := c == ' ' || c == '\t'

/-- What follows a line break, if the text starts with one. -/
def lineBreak? : Text → Option Text
  | '\n' :: t => some t
  | '\r' :: '\n' :: t => some t
  | _ => none

/-- Skips spaces and line breaks. -/
def skipLines : Text → Text
  | '\r' :: '\n' :: t => skipLines t
  | c :: t => if isSpace c || c == '\n' then skipLines t else c :: t
  | [] => []

/-- What follows a backslash that ends a line: the spaces and line breaks after it are left out. -/
def continuation? (t : Text) : Option Text :=
  (lineBreak? (t.dropWhile isSpace)).map skipLines

/-- One character of a string that a backslash introduces, and what follows it. -/
def escaped? : Text → Option (Char × Text)
  | 'u' :: a :: b :: c :: d :: t => (scalar? [a, b, c, d]).map (·, t)
  | 'U' :: a :: b :: c :: d :: e :: f :: g :: h :: t =>
    (scalar? [a, b, c, d, e, f, g, h]).map (·, t)
  | c :: t => (escape? c).map (·, t)
  | [] => none

/-- A string on one line with escapes. The fuel bounds the number of characters. -/
def basic? (read : Text) : Nat → Text → Option (Text × Text)
  | _, '"' :: t => some (read.reverse, t)
  | fuel + 1, '\\' :: t => do
    let (c, t) ← escaped? t
    basic? (c :: read) fuel t
  | fuel + 1, c :: t => if isControl c then none else basic? (c :: read) fuel t
  | _, _ => none

/-- A string on one line without escapes. -/
def verbatim? (read : Text) : Text → Option (Text × Text)
  | '\x27' :: t => some (read.reverse, t)
  | c :: t => if isControl c then none else verbatim? (c :: read) t
  | [] => none

/-- The end of a string of several lines at three quotes; two more may belong to the string. -/
def closing? (quote : Char) (t : Text) : Option (Text × Text) :=
  let quotes := (t.takeWhile (· == quote)).length
  if 3 ≤ quotes then
    let inside := min (quotes - 3) 2
    some (List.replicate inside quote, t.drop (inside + 3))
  else none

/-- A string of several lines with escapes. It keeps its line breaks as they are written. -/
def multilineBasic? (read : Text) : Nat → Text → Option (Text × Text)
  | 0, _ => none
  | _, [] => none
  | fuel + 1, '"' :: t =>
    match closing? '"' ('"' :: t) with
    | some (quotes, rest) => some (read.reverse ++ quotes, rest)
    | none => multilineBasic? ('"' :: read) fuel t
  | fuel + 1, '\\' :: t =>
    match continuation? t with
    | some rest => multilineBasic? read fuel rest
    | none => do
      let (c, t) ← escaped? t
      multilineBasic? (c :: read) fuel t
  | fuel + 1, '\r' :: '\n' :: t => multilineBasic? ('\n' :: '\r' :: read) fuel t
  | fuel + 1, '\n' :: t => multilineBasic? ('\n' :: read) fuel t
  | fuel + 1, c :: t => if isControl c then none else multilineBasic? (c :: read) fuel t

/-- A string of several lines without escapes. It keeps its line breaks as they are written. -/
def multilineVerbatim? (read : Text) : Nat → Text → Option (Text × Text)
  | 0, _ => none
  | _, [] => none
  | fuel + 1, '\x27' :: t =>
    match closing? '\x27' ('\x27' :: t) with
    | some (quotes, rest) => some (read.reverse ++ quotes, rest)
    | none => multilineVerbatim? ('\x27' :: read) fuel t
  | fuel + 1, '\r' :: '\n' :: t => multilineVerbatim? ('\n' :: '\r' :: read) fuel t
  | fuel + 1, '\n' :: t => multilineVerbatim? ('\n' :: read) fuel t
  | fuel + 1, c :: t => if isControl c then none else multilineVerbatim? (c :: read) fuel t

/-- A line break directly after the opening quotes is left out. -/
def dropLineBreak (t : Text) : Text := (lineBreak? t).getD t

/-- A string of one line at the start of a text, such as a key may be. -/
def line? : Text → Option (Text × Text)
  | '"' :: t => basic? [] t.length t
  | '\x27' :: t => verbatim? [] t
  | _ => none

/-- A string at the start of a text. -/
def string? : Text → Option (Text × Text)
  | '"' :: '"' :: '"' :: t => multilineBasic? [] t.length (dropLineBreak t)
  | '\x27' :: '\x27' :: '\x27' :: t => multilineVerbatim? [] t.length (dropLineBreak t)
  | t => line? t

end Syslog.Toml
