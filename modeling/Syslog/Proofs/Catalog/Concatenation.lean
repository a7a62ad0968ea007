import Mathlib.Data.List.Basic
import Syslog.Catalog.Bundled
import Syslog.Proofs.Catalog.FirstAccepted

/-!
# Catalogs one after the other

Two texts of grammars, one below the other, give the grammars of the first and then those of the
second, which move up by the size of the first, unless a grammar stands in both. The second catalog
only sees what the first rejects.
-/
namespace Syslog

/-- The grammar at a later position. -/
def Grammar.shift (n : ℕ) (grammar : Grammar) : Grammar :=
  { grammar with index := grammar.index + n }

def Reading.shift (n : ℕ) (reading : Reading) : Reading :=
  { reading with grammarIndex := reading.grammarIndex + n }

namespace Catalog
open Text

def append (first second : Catalog) : Catalog :=
  ⟨first.grammars ++ second.grammars.map (Grammar.shift first.size)⟩

/-! ## Lines -/

def Line.shift (n : ℕ) (line : Line) : Line := { line with number := line.number + n }

lemma lines_append (r s : Text) :
    lines (r ++ '\n' :: s) = lines r ++ (lines s).map (Line.shift (lines r).length) := by
  have hlength : (lines r).length = ((r.splitOn '\n').map trim).length := by
    rw [lines, List.length_map, List.length_zipIdx]
  rw [hlength, lines, List.splitOn_append_cons_self, List.map_append, List.zipIdx_append,
    List.map_append, ← lines, List.zipIdx_eq_map_add, List.map_map, lines, lines, List.map_map]
  refine congrArg _ (List.map_congr_left fun entry _ => ?_)
  simp only [Function.comp_apply, Line.shift, Line.mk.injEq, and_true]
  omega

lemma filter_holdsGrammar_shift (n : ℕ) (lines : List Line) :
    (lines.map (Line.shift n)).filter Line.holdsGrammar =
      (lines.filter Line.holdsGrammar).map (Line.shift n) := by
  rw [List.filter_map]
  rfl

lemma keepNew_eq (kept : List Line) (line : Line) :
    keepNew kept line = if line.text ∈ kept.map Line.text then kept else kept ++ [line] := by
  have hseen : (kept.any fun other => other.text == line.text) = true ↔
      line.text ∈ kept.map Line.text := by
    simp only [List.any_eq_true, beq_iff_eq, List.mem_map]
  rw [keepNew]
  simp only [hseen]

lemma map_text_shift (n : ℕ) (lines : List Line) :
    (lines.map (Line.shift n)).map Line.text = lines.map Line.text := List.map_map

lemma keepNew_shift (n : ℕ) (kept : List Line) (line : Line) :
    keepNew (kept.map (Line.shift n)) (line.shift n) = (keepNew kept line).map (Line.shift n) := by
  have htext : (line.shift n).text = line.text := rfl
  rw [keepNew_eq, keepNew_eq, map_text_shift, htext]
  split
  · rfl
  · rw [List.map_append, List.map_singleton]

lemma foldl_keepNew_shift (n : ℕ) (kept lines : List Line) :
    (lines.map (Line.shift n)).foldl keepNew (kept.map (Line.shift n)) =
      (lines.foldl keepNew kept).map (Line.shift n) := by
  induction lines generalizing kept with
  | nil => rfl
  | cons line lines ih => rw [List.map_cons, List.foldl_cons, keepNew_shift, ih, List.foldl_cons]

lemma text_mem_foldl_keepNew {kept lines : List Line} {line : Line}
    (h : line ∈ kept ∨ line ∈ lines) :
    line.text ∈ (lines.foldl keepNew kept).map Line.text := by
  induction lines generalizing kept line with
  | nil =>
    rcases h with h | h
    · exact List.mem_map_of_mem h
    · exact absurd h List.not_mem_nil
  | cons first lines ih =>
    rw [List.foldl_cons]
    have hkept : ∀ {other : Line}, other ∈ kept → other ∈ keepNew kept first := by
      intro other hother
      rw [keepNew_eq]
      split
      · exact hother
      · exact List.mem_append_left _ hother
    have hfirst : ∃ other ∈ keepNew kept first, other.text = first.text := by
      rw [keepNew_eq]
      split
      · next hseen => exact List.mem_map.1 hseen
      · exact ⟨first, by simp, rfl⟩
    rcases h with h | h
    · exact ih (.inl (hkept h))
    · rcases List.mem_cons.1 h with rfl | h
      · obtain ⟨other, hother, htext⟩ := hfirst
        exact htext ▸ ih (.inl hother)
      · exact ih (.inr h)

lemma foldl_keepNew_append {above lines : List Line}
    (h : ∀ line ∈ lines, line.text ∉ above.map Line.text) (kept : List Line) :
    lines.foldl keepNew (above ++ kept) = above ++ lines.foldl keepNew kept := by
  induction lines generalizing kept with
  | nil => rfl
  | cons line lines ih =>
    obtain ⟨hline, hlines⟩ := List.forall_mem_cons.1 h
    have hseen : line.text ∈ (above ++ kept).map Line.text ↔ line.text ∈ kept.map Line.text := by
      rw [List.map_append, List.mem_append, or_iff_right hline]
    have hkeep : keepNew (above ++ kept) line = above ++ keepNew kept line := by
      simp only [keepNew_eq, hseen]
      split
      · rfl
      · rw [List.append_assoc]
    rw [List.foldl_cons, hkeep, ih hlines, List.foldl_cons]

lemma grammarLines_append {r s : Text}
    (h : ((grammarLines r).map Line.text).Disjoint ((grammarLines s).map Line.text)) :
    grammarLines (r ++ '\n' :: s) =
      grammarLines r ++ (grammarLines s).map (Line.shift (lines r).length) := by
  have hnew : ∀ line ∈ ((lines s).filter Line.holdsGrammar).map (Line.shift (lines r).length),
      line.text ∉ (grammarLines r).map Line.text := by
    intro line hline hseen
    obtain ⟨other, hother, rfl⟩ := List.mem_map.1 hline
    have hkept : other.text ∈ (grammarLines s).map Line.text :=
      text_mem_foldl_keepNew (.inr hother)
    exact h hseen hkept
  have hfold := foldl_keepNew_append hnew []
  rw [List.append_nil] at hfold
  rw [grammarLines, lines_append, List.filter_append, filter_holdsGrammar_shift, List.foldl_append,
    ← grammarLines, hfold]
  exact congrArg _ (foldl_keepNew_shift _ [] _)

/-! ## Grammars -/

lemma ofText_shift {index : ℕ} {text : Text} {grammar : Grammar}
    (h : Grammar.ofText index text = .ok grammar) (n : ℕ) :
    Grammar.ofText (index + n) text = .ok (grammar.shift n) := by
  obtain ⟨segments, hsegments, rfl⟩ := Grammar.ofText_eq_ok_iff.1 h
  exact Grammar.ofText_of_readSegments hsegments _

lemma texts_of_ofText {t : Text} {catalog : Catalog} (h : ofText t = .ok catalog) :
    catalog.texts = (grammarLines t).map Line.text := by
  have htexts : List.Forall₂ Eq (((grammarLines t).map Line.text).zipIdx.map Prod.fst)
      (catalog.grammars.map Grammar.text) := by
    rw [List.forall₂_map_left_iff, List.forall₂_map_right_iff]
    refine (ofText_eq_ok_iff.1 h).imp fun entry grammar hgrammar => ?_
    obtain ⟨segments, -, rfl⟩ := Grammar.ofText_eq_ok_iff.1 hgrammar
    rfl
  rw [List.forall₂_eq_eq_eq, List.zipIdx_map_fst] at htexts
  exact htexts.symm

lemma size_of_ofText {t : Text} {catalog : Catalog} (h : ofText t = .ok catalog) :
    catalog.size = (grammarLines t).length := by
  have htexts := congrArg List.length (texts_of_ofText h)
  rwa [texts, List.length_map, List.length_map] at htexts

lemma ofText_append {r s : Text} {first second : Catalog} (hfirst : ofText r = .ok first)
    (hsecond : ofText s = .ok second) (h : first.texts.Disjoint second.texts) :
    ofText (r ++ '\n' :: s) = .ok (first.append second) := by
  rw [texts_of_ofText hfirst, texts_of_ofText hsecond] at h
  rw [ofText_eq_ok_iff, grammarLines_append h, List.map_append, map_text_shift, List.zipIdx_append,
    append]
  refine List.rel_append (ofText_eq_ok_iff.1 hfirst) ?_
  rw [List.zipIdx_eq_map_add, List.forall₂_map_left_iff, List.forall₂_map_right_iff]
  refine (ofText_eq_ok_iff.1 hsecond).imp fun entry grammar hgrammar => ?_
  have hindex : 0 + ((grammarLines r).map Line.text).length + entry.2 = entry.2 + first.size := by
    rw [List.length_map, size_of_ofText hfirst, Nat.zero_add, Nat.add_comm]
  have hshift := ofText_shift hgrammar first.size
  rwa [← hindex] at hshift

/-! ## Readings -/

variable {now : Moment} {t : Text} {tally : Tally}

lemma reading_shift (grammar : Grammar) (n : ℕ) (fields : Fields) :
    (grammar.shift n).reading now fields = (grammar.reading now fields).map (Reading.shift n) := by
  rw [Grammar.reading, Grammar.reading]
  cases DateText.ofFields fields now <;> rfl

lemma readWith_map_shift (grammars : List Grammar) (n : ℕ) :
    readWith now t tally (grammars.map (Grammar.shift n)) =
      ((readWith now t tally grammars).1.map (Reading.shift n),
        (readWith now t tally grammars).2) := by
  induction grammars generalizing tally with
  | nil => rfl
  | cons grammar grammars ih =>
    have hverdict : (grammar.shift n).verdict t = grammar.verdict t := rfl
    rw [List.map_cons, readWith, readWith, hverdict]
    cases grammar.verdict t with
    | accepted fields => simp only [reading_shift]
    | vetoed veto => exact ih
    | mismatch => exact ih

lemma isEmpty_append (first second : Catalog) :
    (first.append second).isEmpty = (first.isEmpty && second.isEmpty) := by
  cases hfirst : first.grammars with
  | nil => simp [isEmpty, append, hfirst]
  | cons grammar later => simp [isEmpty, append, hfirst]

lemma Accepts.read_append {first second : Catalog} {i : ℕ} {fields : Fields}
    (h : first.Accepts t i fields) :
    (first.append second).read now t tally = first.read now t tally := by
  obtain ⟨grammar, hgrammar, hverdict⟩ := h.accepted
  have hempty : (first.append second).isEmpty = false := by
    rw [isEmpty_append, h.isEmpty_eq, Bool.false_and]
  rw [read_of_not_isEmpty hempty, read_of_not_isEmpty h.isEmpty_eq, append,
    eq_of_getElem? hgrammar, List.append_assoc, List.cons_append,
    readWith_append_of_rejects h.first, readWith_append_of_rejects h.first,
    readWith_cons_of_accepted hverdict, readWith_cons_of_accepted hverdict]

/-- What the first catalog rejects is read by the second, after the tries of the first. -/
lemma Rejects.read_append {first second : Catalog} (h : first.Rejects t)
    (hsecond : second.isEmpty = false) :
    (first.append second).read now t tally =
      ((second.read now t (first.read now t tally).2).1.map (Reading.shift first.size),
        (second.read now t (first.read now t tally).2).2) := by
  have htally : (first.read now t tally).2 = tally.afterRejections t first.grammars := by
    cases hfirst : first.isEmpty with
    | true =>
      rw [isEmpty, List.isEmpty_iff] at hfirst
      rw [read, isEmpty, hfirst, List.isEmpty_nil, if_pos rfl, Tally.afterRejections_nil]
    | false => rw [h.read_eq hfirst]
  have hempty : (first.append second).isEmpty = false := by
    rw [isEmpty_append, hsecond, Bool.and_false]
  rw [htally, read_of_not_isEmpty hempty, read_of_not_isEmpty hsecond, append,
    readWith_append_of_rejects h, readWith_map_shift]

/-- A catalog reads a text by the first of its grammars that accepts it, and counts the tries up to
there. A second catalog below it, with no text in common, is read as one with it, and gets what the
first rejects, with the positions after those of the first. -/
theorem first_accepted_wins {first : Catalog} (hfirst : first.Numbered) (now : Moment) (t : Text)
    (tally : Tally) :
    first.ReadsFirst now t tally ∧
      ∀ second : Catalog, second.isEmpty = false →
        (∀ r s : Text, ofText r = .ok first → ofText s = .ok second →
          first.texts.Disjoint second.texts →
          ofText (r ++ '\n' :: s) = .ok (first.append second)) ∧
        (∀ i fields, first.Accepts t i fields →
          (first.append second).read now t tally = first.read now t tally) ∧
        (first.Rejects t →
          (first.append second).read now t tally =
            ((second.read now t (first.read now t tally).2).1.map (Reading.shift first.size),
              (second.read now t (first.read now t tally).2).2)) := by
  refine ⟨hfirst.readsFirst now t tally, fun second hsecond => ⟨?_, ?_, ?_⟩⟩
  · intro r s hr hs hdisjoint
    exact ofText_append hr hs hdisjoint
  · intro i fields haccepts
    exact haccepts.read_append
  · intro hrejects
    exact hrejects.read_append hsecond

open Bundled

def taggingText : Text :=
  ofString "<%\x7bPOSINT:facilityCode\x7d>%\x7bPOSINT:version\x7d" ++ '\n' ::
    ofString "<%\x7bPOSINT:facilityCode\x7d>%\x7bNOSPACE:processName\x7d: %\x7bSTRING:message\x7d"

def tagging : Catalog := ⟨[grammar 0 (priority ++ [version]), grammar 1 (priority ++ plainTag)]⟩

def generalText : Text := ofString
  "# the rest\n\n <%\x7bPOSINT:facilityCode\x7d>%\x7bSTRING:message\x7d\n"

def general : Catalog := ⟨[grammar 0 (priority ++ [message])]⟩

theorem first_accepted_wins_zone :
    ofText (taggingText ++ '\n' :: generalText) = .ok (tagging.append general) ∧
      (tagging.append general).read ⟨0, 0⟩ (ofString "<13>UTC: x") (.empty 3) =
        (.ok ⟨2, ⟨[("facilityCode", ofString "13"), ("message", ofString "UTC: x")]⟩,
          ⟨ofString "1970-01-01T00:00:00+00:00", .clock⟩⟩, (Tally.empty 3).plus 3 1 1) := by
  have htagging : ofText taggingText = .ok tagging := by decide +kernel
  have hgeneral : ofText generalText = .ok general := by decide +kernel
  have hrejects : tagging.Rejects (ofString "<13>UTC: x") := by decide +kernel
  have hdisjoint : ∀ text ∈ tagging.texts, text ∉ general.texts := by decide
  obtain ⟨-, hsecond⟩ := first_accepted_wins (numbered_ofText htagging) ⟨0, 0⟩
    (ofString "<13>UTC: x") (.empty 3)
  obtain ⟨happend, -, hread⟩ := hsecond general rfl
  refine ⟨happend taggingText generalText htagging hgeneral hdisjoint, ?_⟩
  rw [hread hrejects]
  decide +kernel

end Catalog
end Syslog
