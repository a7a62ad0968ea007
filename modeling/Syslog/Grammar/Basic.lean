import Syslog.Fields
import Syslog.Grammar.Token

/-!
# Grammars

A grammar is a sequence of segments: literals, runs of blanks, and tokens, some of them with the
name of a field. It fits a text that can be cut into one piece for each segment. Of several cuttings
the one counts that the segments prefer, the first segment before the second and so on.
-/
namespace Syslog

inductive Segment where
  | literal (text : Text)
  | blanks
  | token (type : Token) (field : Option String)
  deriving DecidableEq, Repr

namespace Segment
open Text

def reader : Segment → Reader
  | literal text => Reader.literal text
  | blanks => Reader.some isBlank
  | token type _ => type.reader

def field? : Segment → Option String
  | token _ field => field
  | _ => none

/-- The segments of a text between two tokens: its blank runs and the literals between them. -/
def ofLiteral (t : Text) : List Segment :=
  (t.splitBy fun a b => isBlank a == isBlank b).map fun run =>
    if run.all isBlank then blanks else literal run

/-- The text of a segment in a grammar; a run of blanks is written as one space. -/
def text : Segment → Text
  | literal text => text
  | blanks => [' ']
  | token type none => ['%', '\x7b'] ++ ofString type.name ++ ['\x7d']
  | token type (some field) =>
    ['%', '\x7b'] ++ ofString type.name ++ [':'] ++ ofString field ++ ['\x7d']

end Segment

/-- The part of `t` before its end `rest`. -/
def Text.pieceBefore (t rest : Text) : Text := t.take (t.length - rest.length)

/-- The preferred cutting of a text into one piece for each segment. -/
def cut? : List Segment → Text → Option (List Text)
  | [], t => if t.isEmpty then some [] else none
  | segment :: segments, t =>
    (segment.reader t).findSome? fun rest => (cut? segments rest).map (t.pieceBefore rest :: ·)

theorem Segment.leavesEnds_reader (segment : Segment) : segment.reader.LeavesEnds := by
  cases segment with
  | literal l => exact Reader.leavesEnds_literal l
  | blanks => exact Reader.leavesEnds_some _
  | token type field => exact type.leavesEnds_reader

theorem Text.pieceBefore_append {t rest : Text} (h : rest <:+ t) :
    t.pieceBefore rest ++ rest = t := by
  obtain ⟨piece, rfl⟩ := h
  simp [pieceBefore]

theorem cut?_cons_eq_some {segment : Segment} {segments : List Segment} {t : Text}
    {pieces : List Text} (h : cut? (segment :: segments) t = some pieces) :
    ∃ piece rest later, t = piece ++ rest ∧ rest ∈ segment.reader t ∧
      cut? segments rest = some later ∧ pieces = piece :: later := by
  obtain ⟨rest, hrest, h⟩ := List.exists_of_findSome?_eq_some h
  obtain ⟨later, hlater, rfl⟩ := Option.map_eq_some_iff.1 h
  exact ⟨t.pieceBefore rest, rest, later,
    (Text.pieceBefore_append (segment.leavesEnds_reader t rest hrest)).symm, hrest, hlater, rfl⟩

structure Grammar where
  /-- The position in the catalog. -/
  index : Nat
  text : Text
  segments : List Segment
  deriving DecidableEq, Repr

namespace Grammar

/-- The names of the fields in the order of their tokens. -/
def fields (grammar : Grammar) : List String := grammar.segments.filterMap Segment.field?

/-- The fields of a text that the grammar fits. -/
def fieldsOf? (grammar : Grammar) (t : Text) : Option Fields := do
  let pieces ← cut? grammar.segments t
  return Fields.ofList <| (grammar.segments.zip pieces).filterMap fun (segment, piece) =>
    segment.field?.map fun name => (name, piece)

end Grammar
end Syslog
