import Syslog.Toml.Atom
import Syslog.Toml.Quotation

/-!
# TOML documents

A document is read line by line: keys with values, headers that say to which table the lines after
them belong, and comments. Whatever breaks a rule makes the whole document unreadable.
-/
namespace Syslog.Toml
open Text

def skipSpaces (t : Text) : Text := t.dropWhile isSpace

/-- What follows the comment at the start of a text, up to the end of the line. -/
def skipComment? : Text → Option Text
  | [] => some []
  | '\r' :: '\n' :: t => some ('\r' :: '\n' :: t)
  | c :: t => if c = '\n' then some (c :: t) else if isControl c then none else skipComment? t

/-- What follows spaces and a comment. -/
def skipRemark? (t : Text) : Option Text :=
  match skipSpaces t with
  | '#' :: t => skipComment? t
  | t => some t

/-- What follows the rest of a line that holds nothing more. -/
def lineEnd? (t : Text) : Option Text := do
  match ← skipRemark? t with
  | [] => some []
  | t => lineBreak? t

/-- Skips spaces, line breaks and comments, as they may stand between the items of an array. -/
def skipBlankLines? : Nat → Text → Option Text
  | 0, t => some t
  | fuel + 1, t => do
    let t ← skipRemark? t
    match lineBreak? t with
    | some t => skipBlankLines? fuel t
    | none => some t

def isBareKeyCharacter (c : Char) : Bool := c.isAlphanum || c == '_' || c == '-'

/-- A key without points, bare or as a string on one line. -/
def simpleKey? (t : Text) : Option (Text × Text) :=
  match t.span isBareKeyCharacter with
  | ([], _) => line? t
  | (key, rest) => some (key, rest)

/-- No key has more parts than this, and no more brackets and braces stand inside one another in a
value. -/
def maxDepth : Nat := 80

/-- The parts of a key joined by points, each with spaces around it, of which there may be as many
as the room. -/
def key? : Nat → Text → Option (List Text × Text)
  | 0, _ => none
  | room + 1, t => do
    let (key, t) ← simpleKey? (skipSpaces t)
    match skipSpaces t with
    | '.' :: t =>
      let (path, t) ← key? room t
      return (key :: path, t)
    | t => return ([key], t)

mutual

/-- A value at the start of a text. The room bounds the brackets and braces inside one another, the
fuel the characters left. -/
def value? (room : Nat) : Nat → Text → Option (Value × Text)
  | 0, _ => none
  | _, [] => none
  | fuel + 1, '[' :: t => do
    guard (0 < room)
    let (items, t) ← items? (room - 1) fuel t
    return (.array items, t)
  | fuel + 1, '\x7b' :: t => do
    guard (0 < room)
    let (members, t) ←
      match skipSpaces t with
      | '\x7d' :: t => some ([], t)
      | t => members? (room - 1) [] fuel t
    return (.table .inline members, t)
  | _, c :: t =>
    if c = '"' ∨ c = '\x27' then do
      let (text, t) ← string? (c :: t)
      return (.string text, t)
    else do
      let (atom, t) := spanAtom (c :: t)
      return (← atom? atom, t)

/-- The items of an array up to its closing bracket. The last one may have a comma after it. -/
def items? (room : Nat) : Nat → Text → Option (List Value × Text)
  | 0, _ => none
  | fuel + 1, t => do
    match ← skipBlankLines? t.length t with
    | ']' :: t => return ([], t)
    | t =>
      let (item, t) ← value? room fuel t
      match ← skipBlankLines? t.length t with
      | ']' :: t => return ([item], t)
      | ',' :: t =>
        let (items, t) ← items? room fuel t
        return (item :: items, t)
      | _ => none

/-- The members of a table up to its closing brace. -/
def members? (room : Nat) (table : Table) : Nat → Text → Option (Table × Text)
  | 0, _ => none
  | fuel + 1, t => do
    let (path, t) ← key? maxDepth t
    match t with
    | '=' :: t =>
      let (value, t) ← value? room fuel (skipSpaces t)
      let table ← table.define? true path value
      match skipSpaces t with
      | '\x7d' :: t => return (table, t)
      | ',' :: t => members? room table fuel t
      | _ => none
    | _ => none

end

/-- A document read so far, with the path of the table to which its lines belong. -/
structure Section where
  root : Table
  path : List Text

/-- The section that a header opens. -/
def Section.open? (opened : Section) (path : List Text)
    (change : Text → Table → Option Table) : Option Section := do
  let key ← path.getLast?
  let root ← opened.root.changeAt? (change key) path.dropLast
  return ⟨root, path⟩

/-- One line that is not empty, and what follows it. -/
def Section.line? (opened : Section) (t : Text) : Option (Section × Text) :=
  match t with
  | '[' :: '[' :: t => do
    let (path, t) ← key? maxDepth t
    match t with
    | ']' :: ']' :: t => return (← opened.open? path Table.addTable?, ← lineEnd? t)
    | _ => none
  | '[' :: t => do
    let (path, t) ← key? maxDepth t
    match t with
    | ']' :: t => return (← opened.open? path Table.openTable?, ← lineEnd? t)
    | _ => none
  | t => do
    let (path, t) ← key? maxDepth t
    match t with
    | '=' :: t =>
      let (value, t) ← value? maxDepth (t.length + 1) (skipSpaces t)
      let root ← opened.root.changeAt? (·.define? true path value) opened.path
      return (⟨root, opened.path⟩, ← lineEnd? t)
    | _ => none

/-- The lines of a document. The fuel bounds their number. -/
def Section.lines? (opened : Section) : Nat → Text → Option Table
  | 0, t => if t.isEmpty then some opened.root else none
  | fuel + 1, t => do
    match ← skipBlankLines? t.length t with
    | [] => return opened.root
    | t =>
      let (opened, t) ← opened.line? t
      opened.lines? fuel t

/-- The table of a whole document, which may start with a byte order mark. -/
def document? (t : Text) : Option Table :=
  let t := match t with
    | '\uFEFF' :: t => t
    | t => t
  Section.lines? ⟨[], []⟩ (t.length + 1) t

end Syslog.Toml
