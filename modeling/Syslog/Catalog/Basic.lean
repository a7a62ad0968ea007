import Syslog.SetupFault
import Syslog.Text.Utf8

/-!
# Catalogs of grammars

A catalog is a list of grammars, tried in order. It is read from lines, one grammar each; blanks
around a line do not count, and empty lines, lines that start with a number sign and repetitions of
an earlier line hold no grammar.
-/
namespace Syslog

structure Catalog where
  grammars : List Grammar
  deriving DecidableEq, Repr

namespace Catalog
open Text

def empty : Catalog := ⟨[]⟩

def size (catalog : Catalog) : Nat := catalog.grammars.length

def isEmpty (catalog : Catalog) : Bool := catalog.grammars.isEmpty

def texts (catalog : Catalog) : List Text := catalog.grammars.map Grammar.text

/-- A line of a source with its number, counted from one. -/
structure Line where
  number : Nat
  text : Text
  deriving DecidableEq, Repr

/-- The trimmed lines of a source. -/
def lines (t : Text) : List Line :=
  ((t.splitOn '\n').map trim).zipIdx.map fun (text, index) => ⟨index + 1, text⟩

def Line.holdsGrammar (line : Line) : Bool :=
  !line.text.isEmpty && line.text.head? != some '#'

/-- Adds a line unless its text has been seen. -/
def keepNew (kept : List Line) (line : Line) : List Line :=
  if kept.any (·.text == line.text) then kept else kept ++ [line]

/-- The lines that hold a grammar, each text once. -/
def grammarLines (t : Text) : List Line :=
  ((lines t).filter Line.holdsGrammar).foldl keepNew []

def grammarOfLine (index : Nat) (line : Line) : Except SetupFault Grammar :=
  (Grammar.ofText index line.text).mapError (.invalidGrammar line.number)

/-- The catalog of the grammars in a text, or the fault of the first line that has one. -/
def ofText (t : Text) : Except SetupFault Catalog := do
  return ⟨← (grammarLines t).zipIdx.mapM fun (line, index) => grammarOfLine index line⟩

/-- The catalog in a stream of bytes. -/
def ofBytes (bytes : List UInt8) : Except SetupFault Catalog :=
  match Utf8.decode? bytes with
  | some t => ofText t
  | none => .error .unreadable

/-- The catalog in a file, of which the content is given if there is one. -/
def ofFile (content : Option (List UInt8)) : Except SetupFault Catalog :=
  match content.bind Utf8.decode? with
  | some t => ofText t
  | none => .error .patternsUnavailable

end Catalog
end Syslog
