import Syslog.Grammar.Basic
import Syslog.Text.Numeral
import Syslog.Text.Quoted

/-!
# Written grammars

The text of a grammar is literal but for its tokens. A token starts with a percent sign and an
opening brace and ends at the next closing brace; it holds the name of a type and, after a colon,
the name of a field. The first token at fault makes the whole text a faulty one.
-/
namespace Syslog.Grammar
open Text

inductive Fault where
  /-- The offset counts bytes of the whole text. -/
  | unterminatedToken (offset : Nat)
  | unknownType (name : Text)
  | invalidFieldName (name : Text)
  | duplicateField (name : Text)
  deriving DecidableEq, Repr

namespace Fault

def kind : Fault → String
  | unterminatedToken _ => "UnterminatedToken"
  | unknownType _ => "UnknownType"
  | invalidFieldName _ => "InvalidFieldName"
  | duplicateField _ => "DuplicateField"

def message : Fault → Text
  | unterminatedToken offset => ofString "Unterminated token starting at byte " ++ ofNat offset
  | unknownType name => ofString "Unknown pattern type: " ++ name
  | invalidFieldName name => ofString "Invalid field name: " ++ quoted name
  | duplicateField name => ofString "Duplicate field name: " ++ name

end Fault

/-- An ASCII identifier. -/
def isIdentifier (t : Text) : Bool :=
  t.head?.any (fun c => c.isAlpha || c == '_') && t.all fun c => c.isAlphanum || c == '_'

/-- The token between two braces, given the names that are taken. -/
def readToken (taken : List String) (body : Text) : Except Fault Segment :=
  let (typeName, colonAndField) := body.span (· != ':')
  match Token.ofName? typeName with
  | none => .error (.unknownType typeName)
  | some type =>
    match colonAndField with
    | [] => .ok (.token type none)
    | _ :: field =>
      if !isIdentifier field then .error (.invalidFieldName field)
      else if taken.contains (String.ofList field) then .error (.duplicateField field)
      else .ok (.token type (some (String.ofList field)))

def tokenStart : Text := ['%', '\x7b']

def tokenEnd : Text := ['\x7d']

/-- The segments of a text that begins at a byte offset of a grammar. -/
def readSegments (offset : Nat) (taken : List String) (t : Text) : Except Fault (List Segment) :=
  match _h : breakAt? tokenStart t with
  | none => .ok (Segment.ofLiteral t)
  | some (before, after) =>
    let start := offset + byteLength before
    match _h' : breakAt? tokenEnd after with
    | none => .error (.unterminatedToken start)
    | some (body, rest) => do
      let token ← readToken taken body
      let later ← readSegments (start + 3 + byteLength body) (taken ++ token.field?.toList) rest
      return Segment.ofLiteral before ++ token :: later
termination_by t.length
decreasing_by
  have hstart := congrArg List.length (breakAt?_eq_some _h)
  have hend := congrArg List.length (breakAt?_eq_some _h')
  simp only [tokenStart, tokenEnd, List.length_append, List.length_cons, List.length_nil] at *
  omega

def ofText (index : Nat) (text : Text) : Except Fault Grammar := do
  return ⟨index, text, ← readSegments 0 [] text⟩

theorem ofText_eq_map (index : Nat) (t : Text) :
    ofText index t = (readSegments 0 [] t).map fun segments => ⟨index, t, segments⟩ := by
  rw [ofText]
  cases readSegments 0 [] t <;> rfl

theorem ofText_of_readSegments {t : Text} {segments : List Segment}
    (h : readSegments 0 [] t = .ok segments) (index : Nat) :
    ofText index t = .ok ⟨index, t, segments⟩ := by
  rw [ofText_eq_map, h]
  rfl

theorem ofText_eq_ok_iff {index : Nat} {t : Text} {grammar : Grammar} :
    ofText index t = .ok grammar ↔
      ∃ segments, readSegments 0 [] t = .ok segments ∧ grammar = ⟨index, t, segments⟩ := by
  rw [ofText_eq_map]
  cases readSegments 0 [] t <;> simp [Except.map, eq_comm]

theorem ofText_eq_error_iff {index : Nat} {t : Text} {fault : Fault} :
    ofText index t = .error fault ↔ readSegments 0 [] t = .error fault := by
  rw [ofText_eq_map]
  cases readSegments 0 [] t <;> simp [Except.map]

end Syslog.Grammar
