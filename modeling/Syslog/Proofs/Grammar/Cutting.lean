import Syslog.Grammar.Basic
import Syslog.Proofs.Grammar.TokenLanguage

/-!
# Cuttings

Segments read a text if it is cut into one piece for each segment, each of the segment's language.
A grammar gives fields exactly to the texts that its segments read, and the fields are those of one
such reading.
-/
namespace Syslog
open Text Reader

namespace Segment

def language : Segment → Language Char
  | literal text => {text}
  | blanks => runOf isBlank
  | token type _ => type.language

def capture (segment : Segment) (piece : Text) : List (String × Text) :=
  (segment.field?.map fun name => (name, piece)).toList

lemma takes_reader (segment : Segment) : segment.reader.Takes segment.language := by
  cases segment with
  | literal text => exact takes_literal text
  | blanks => exact takes_some isBlank
  | token type field => exact type.takes_reader

end Segment

/-- The segments read a text and give some entries. -/
inductive Reads : List Segment → Text → List (String × Text) → Prop
  | nil : Reads [] [] []
  | cons {segment : Segment} {segments : List Segment} {piece rest : Text}
      {entries : List (String × Text)} (member : piece ∈ segment.language)
      (later : Reads segments rest entries) :
      Reads (segment :: segments) (piece ++ rest) (segment.capture piece ++ entries)

lemma Reads.token {type : Token} {field : Option String} {segments : List Segment}
    {piece rest : Text} {entries : List (String × Text)} (member : piece ∈ type.language)
    (later : Reads segments rest entries) :
    Reads (.token type field :: segments) (piece ++ rest)
      ((Segment.token type field).capture piece ++ entries) :=
  .cons (show piece ∈ (Segment.token type field).language from member) later

lemma reads_nil {t : Text} {entries : List (String × Text)} :
    Reads [] t entries ↔ t = [] ∧ entries = [] := by
  constructor
  · rintro ⟨⟩
    exact ⟨rfl, rfl⟩
  · rintro ⟨rfl, rfl⟩
    exact .nil

lemma reads_cons {segment : Segment} {segments : List Segment} {t : Text}
    {entries : List (String × Text)} :
    Reads (segment :: segments) t entries ↔
      ∃ piece ∈ segment.language, ∃ rest later, Reads segments rest later ∧
        piece ++ rest = t ∧ segment.capture piece ++ later = entries := by
  constructor
  · rintro ⟨⟩
    exact ⟨_, ‹_›, _, _, ‹_›, rfl, rfl⟩
  · rintro ⟨piece, hpiece, rest, later, hlater, rfl, rfl⟩
    exact .cons hpiece hlater

lemma reads_append {first second : List Segment} {t : Text} {entries : List (String × Text)} :
    Reads (first ++ second) t entries ↔
      ∃ s u before after, Reads first s before ∧ Reads second u after ∧
        s ++ u = t ∧ before ++ after = entries := by
  induction first generalizing t entries with
  | nil =>
    simp only [List.nil_append, reads_nil]
    constructor
    · intro h
      exact ⟨[], t, [], entries, ⟨rfl, rfl⟩, h, rfl, rfl⟩
    · rintro ⟨_, _, _, _, ⟨rfl, rfl⟩, h, rfl, rfl⟩
      exact h
  | cons segment first ih =>
    simp only [List.cons_append, reads_cons, ih]
    constructor
    · rintro ⟨piece, hpiece, _, _, ⟨s, u, before, after, hs, hu, rfl, rfl⟩, rfl, rfl⟩
      exact ⟨piece ++ s, u, _, after, ⟨piece, hpiece, s, before, hs, rfl, rfl⟩, hu,
        List.append_assoc .., List.append_assoc ..⟩
    · rintro ⟨_, u, _, after, ⟨piece, hpiece, s, before, hs, rfl, rfl⟩, hu, rfl, rfl⟩
      exact ⟨piece, hpiece, s ++ u, before ++ after, ⟨s, u, before, after, hs, hu, rfl, rfl⟩,
        (List.append_assoc ..).symm, (List.append_assoc ..).symm⟩

def captures (segments : List Segment) (pieces : List Text) : List (String × Text) :=
  (segments.zip pieces).filterMap fun (segment, piece) =>
    segment.field?.map fun name => (name, piece)

lemma captures_cons (segment : Segment) (segments : List Segment) (piece : Text)
    (pieces : List Text) :
    captures (segment :: segments) (piece :: pieces) =
      segment.capture piece ++ captures segments pieces := by
  rw [captures, List.zip_cons_cons, List.filterMap_cons]
  cases h : segment.field? <;> simp [Segment.capture, h, captures]

lemma reads_of_cut?_eq_some {segments : List Segment} {t : Text} {pieces : List Text}
    (h : cut? segments t = some pieces) : Reads segments t (captures segments pieces) := by
  induction segments generalizing t pieces with
  | nil =>
    rw [cut?] at h
    split at h
    · next ht =>
      obtain rfl := List.isEmpty_iff.1 ht
      exact .nil
    · cases h
  | cons segment segments ih =>
    obtain ⟨piece, rest, later, rfl, hrest, hlater, rfl⟩ := cut?_cons_eq_some h
    obtain ⟨other, hother, heq⟩ := (segment.takes_reader _ _).1 hrest
    obtain rfl := List.append_cancel_right heq
    rw [captures_cons]
    exact .cons hother (ih hlater)

theorem Reads.isSome_cut? {segments : List Segment} {t : Text} {entries : List (String × Text)}
    (h : Reads segments t entries) : (cut? segments t).isSome = true := by
  induction h with
  | nil => rfl
  | @cons segment segments piece rest entries hpiece _ ih =>
    rw [cut?, List.findSome?_isSome_iff]
    refine ⟨rest, (segment.takes_reader _ _).2 ⟨piece, hpiece, rfl⟩, ?_⟩
    rwa [Option.isSome_map]

namespace Grammar

lemma fieldsOf?_eq_map (grammar : Grammar) (t : Text) :
    grammar.fieldsOf? t =
      (cut? grammar.segments t).map fun pieces => .ofList (captures grammar.segments pieces) := by
  rw [fieldsOf?]
  cases cut? grammar.segments t <;> rfl

lemma reads_of_fieldsOf?_eq_some {grammar : Grammar} {t : Text} {fields : Fields}
    (h : grammar.fieldsOf? t = some fields) :
    ∃ entries, Reads grammar.segments t entries ∧ fields = .ofList entries := by
  rw [fieldsOf?_eq_map, Option.map_eq_some_iff] at h
  obtain ⟨pieces, hpieces, rfl⟩ := h
  exact ⟨_, reads_of_cut?_eq_some hpieces, rfl⟩

theorem isSome_fieldsOf?_iff {grammar : Grammar} {t : Text} :
    (grammar.fieldsOf? t).isSome = true ↔ ∃ entries, Reads grammar.segments t entries := by
  rw [fieldsOf?_eq_map, Option.isSome_map]
  constructor
  · intro h
    obtain ⟨pieces, hpieces⟩ := Option.isSome_iff_exists.1 h
    exact ⟨_, reads_of_cut?_eq_some hpieces⟩
  · rintro ⟨entries, h⟩
    exact h.isSome_cut?

theorem fieldsOf?_of_reads {grammar : Grammar} {t : Text} {entries : List (String × Text)}
    (h : ∀ other, Reads grammar.segments t other ↔ other = entries) :
    grammar.fieldsOf? t = some (.ofList entries) := by
  obtain ⟨fields, hfields⟩ :=
    Option.isSome_iff_exists.1 (isSome_fieldsOf?_iff.2 ⟨entries, (h entries).2 rfl⟩)
  obtain ⟨other, hother, rfl⟩ := reads_of_fieldsOf?_eq_some hfields
  rw [hfields, (h other).1 hother]

end Grammar
end Syslog
