import Syslog.Proofs.Grammar.ReadBack
import Syslog.Proofs.Grammar.Words
import Syslog.Proofs.Record.Values

/-!
# Texts that a grammar fits

A grammar fits the texts that can be cut into one piece for each segment that its own text spells.
Its fields are then the pieces of the named tokens, in the order of the tokens, and the empty ones
are left out.
-/
namespace Syslog
open Text

/-- Consecutive pieces of a text, one for each segment and in the language of the segment. -/
structure Cuts (segments : List Segment) (t : Text) (pieces : List Text) : Prop where
  flatten : pieces.flatten = t
  members : List.Forall₂ (fun segment piece => piece ∈ segment.language) segments pieces

lemma Cuts.cons {segment : Segment} {segments : List Segment} {piece rest : Text}
    {pieces : List Text} (member : piece ∈ segment.language) (h : Cuts segments rest pieces) :
    Cuts (segment :: segments) (piece ++ rest) (piece :: pieces) :=
  ⟨by rw [List.flatten_cons, h.flatten], .cons member h.members⟩

lemma cuts_nil {t : Text} {pieces : List Text} : Cuts [] t pieces ↔ t = [] ∧ pieces = [] := by
  constructor
  · rintro ⟨rfl, ⟨⟩⟩
    exact ⟨rfl, rfl⟩
  · rintro ⟨rfl, rfl⟩
    exact ⟨rfl, .nil⟩

lemma cuts_cons {segment : Segment} {segments : List Segment} {t : Text} {pieces : List Text} :
    Cuts (segment :: segments) t pieces ↔
      ∃ piece ∈ segment.language, ∃ rest later, Cuts segments rest later ∧
        piece ++ rest = t ∧ piece :: later = pieces := by
  constructor
  · rintro ⟨rfl, ⟨⟩⟩
    exact ⟨_, ‹_›, _, _, ⟨rfl, ‹_›⟩, rfl, rfl⟩
  · rintro ⟨piece, hpiece, rest, later, hlater, rfl, rfl⟩
    exact hlater.cons hpiece

theorem reads_iff_cuts {segments : List Segment} {t : Text} {entries : List (String × Text)} :
    Reads segments t entries ↔
      ∃ pieces, Cuts segments t pieces ∧ captures segments pieces = entries := by
  constructor
  · intro h
    induction h with
    | nil => exact ⟨[], ⟨rfl, .nil⟩, rfl⟩
    | cons member _ ih =>
      obtain ⟨pieces, hcuts, rfl⟩ := ih
      exact ⟨_, hcuts.cons member, captures_cons ..⟩
  · rintro ⟨pieces, ⟨rfl, hmembers⟩, rfl⟩
    induction hmembers with
    | nil => exact .nil
    | cons member _ ih =>
      rw [captures_cons]
      exact .cons member ih

namespace Grammar

variable {index : ℕ} {text : Text} {grammar : Grammar}

/-- A grammar that is read has the only segments that spell its text. -/
theorem spelledBy_iff_of_ofText (h : ofText index text = .ok grammar) {segments : List Segment} :
    SpelledBy text segments ↔ segments = grammar.segments := by
  obtain ⟨found, hfound, h⟩ := exists_ok_of_bind h
  obtain rfl := Except.ok.inj h
  rw [spelledBy_iff, hfound, Except.ok.injEq, eq_comm]

theorem exists_cuts_of_fieldsOf? (hdistinct : (grammar.segments.filterMap Segment.field?).Nodup)
    {t : Text} {fields : Fields} (h : grammar.fieldsOf? t = some fields) :
    ∃ pieces, Cuts grammar.segments t pieces ∧
      fields.entries = (captures grammar.segments pieces).filter fun entry => entry.2 ≠ [] := by
  obtain ⟨entries, hreads, rfl⟩ := reads_of_fieldsOf?_eq_some h
  have hnames : (entries.map Prod.fst).Nodup := hreads.names ▸ hdistinct
  obtain ⟨pieces, hcuts, rfl⟩ := reads_iff_cuts.1 hreads
  exact ⟨pieces, hcuts, by rw [Fields.ofList_eq_filter hnames]⟩

theorem exists_get?_of_token (h : ofText index text = .ok grammar) {type : Token} {name : String}
    (hmem : .token type (some name) ∈ grammar.segments) (htype : [] ∉ type.language)
    {t : Text} {fields : Fields} (hfields : grammar.fieldsOf? t = some fields) :
    ∃ value ∈ type.language, fields.get? name = some value := by
  obtain ⟨entries, hreads, rfl⟩ := reads_of_fieldsOf?_eq_some hfields
  obtain ⟨value, hvalue, hentry⟩ := hreads.exists_mem_of_token hmem
  have hdistinct := ((spelledBy_iff_of_ofText h).2 rfl).distinct
  refine ⟨value, hvalue, Fields.get?_of_mem_of_ne_nil (hreads.names ▸ hdistinct) hentry ?_⟩
  rintro rfl
  exact htype hvalue

/-- A grammar that is read fits exactly what the segments of its text can be cut to, and it takes
the named pieces of one such cutting. -/
theorem fits_iff_cuts (h : ofText index text = .ok grammar) (t : Text) :
    (∀ segments, SpelledBy text segments ↔ segments = grammar.segments) ∧
      ((grammar.fieldsOf? t).isSome = true ↔ ∃ pieces, Cuts grammar.segments t pieces) ∧
      ∀ fields, grammar.fieldsOf? t = some fields →
        ∃ pieces, Cuts grammar.segments t pieces ∧
          fields.entries = (captures grammar.segments pieces).filter fun entry => entry.2 ≠ [] := by
  have hspelled := (spelledBy_iff_of_ofText h).2 rfl
  refine ⟨fun _ => spelledBy_iff_of_ofText h, ?_,
    fun _ => exists_cuts_of_fieldsOf? hspelled.distinct⟩
  rw [isSome_fieldsOf?_iff]
  simp only [reads_iff_cuts]
  constructor
  · rintro ⟨_, pieces, hcuts, _⟩
    exact ⟨pieces, hcuts⟩
  · rintro ⟨pieces, hcuts⟩
    exact ⟨_, pieces, hcuts, rfl⟩

/-- A grammar of characters that are operators elsewhere, with tokens that touch. -/
def bracketed : Grammar where
  index := 0
  text := ofString
    "^[%\x7bWORD:name\x7d%\x7bINT:count\x7d]\t %\x7bNOSPACE\x7d.* %\x7bDATA:rest\x7d$"
  segments := [
    .literal ['^', '['], .token .word (some "name"), .token .int (some "count"), .literal [']'],
    .blanks, .token .nospace none, .literal ['.', '*'], .blanks, .token .data (some "rest"),
    .literal ['$']]

theorem fits_bracketed :
    ofText 0 bracketed.text = .ok bracketed ∧
      (∃ pieces, Cuts bracketed.segments (ofString "^[ab12]\n  x.* $") pieces ∧
        (captures bracketed.segments pieces).filter (fun entry => entry.2 ≠ []) =
          [("name", ofString "ab1"), ("count", ofString "2")]) ∧
      ¬ ∃ pieces, Cuts bracketed.segments (ofString "^[ab12]\n  x.. $") pieces := by
  have hread : ofText 0 bracketed.text = .ok bracketed := by decide +kernel
  have htaken : bracketed.fieldsOf? (ofString "^[ab12]\n  x.* $") =
      some ⟨[("name", ofString "ab1"), ("count", ofString "2")]⟩ := by decide +kernel
  have hmissed : bracketed.fieldsOf? (ofString "^[ab12]\n  x.. $") = none := by decide +kernel
  refine ⟨hread, ?_, ?_⟩
  · obtain ⟨pieces, hcuts, hentries⟩ := (fits_iff_cuts hread _).2.2 _ htaken
    exact ⟨pieces, hcuts, hentries.symm⟩
  · rw [← (fits_iff_cuts hread _).2.1, hmissed]
    simp

end Grammar
end Syslog
