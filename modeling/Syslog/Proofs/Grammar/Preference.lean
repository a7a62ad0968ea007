import Syslog.Proofs.Grammar.Fitting

/-!
# Preferred cuttings

A text may be cut in many ways. Blanks, and tokens that take runs of characters, try the longest
piece first; data tries the shortest first. The cutting that counts is the one that has the
preferred piece at the first segment where it differs from another.
-/
namespace Syslog
open Text

namespace Text

lemma pieceBefore_of_append {t piece rest : Text} (h : piece ++ rest = t) :
    t.pieceBefore rest = piece := by
  subst h
  simp [pieceBefore]

lemma length_pieceBefore {t rest : Text} (h : rest <:+ t) :
    (t.pieceBefore rest).length + rest.length = t.length := by
  rw [← List.length_append, pieceBefore_append h]

end Text

namespace Reader

/-- The longest piece comes first: what is left grows from one piece to the next. -/
def LongestFirst (reader : Reader) : Prop :=
  ∀ t, (reader t).Pairwise fun rest other => rest.length < other.length

lemma longestFirst_literal (l : Text) : LongestFirst (literal l) := by
  intro t
  rw [literal]
  cases after? l t <;> simp

lemma pairwise_one (p : Char → Bool) (r : Text → Text → Prop) (t : Text) :
    (one p t).Pairwise r := by
  cases t with
  | nil => exact .nil
  | cons c t =>
    rw [one]
    split <;> simp

/-- What is found later leaves less, so it is put in front of what was found before. -/
theorem pairwise_runsFrom {p : Char → Bool} {found : List Text} {t : Text}
    (hfound : found.Pairwise fun rest other => rest.length < other.length)
    (hlonger : ∀ rest ∈ found, t.length < rest.length) :
    (runsFrom p found t).Pairwise fun rest other => rest.length < other.length := by
  induction t generalizing found with
  | nil => exact List.pairwise_cons.2 ⟨hlonger, hfound⟩
  | cons c t ih =>
    have hcons := List.pairwise_cons.2 ⟨hlonger, hfound⟩
    rw [runsFrom]
    split
    · apply ih hcons
      intro rest hrest
      have hshort : t.length < (c :: t).length := Nat.lt_succ_self _
      rcases List.mem_cons.1 hrest with rfl | hrest
      · exact hshort
      · exact hshort.trans (hlonger rest hrest)
    · exact hcons

lemma longestFirst_many (p : Char → Bool) : LongestFirst (many p) :=
  fun _ => pairwise_runsFrom .nil (by simp)

lemma longestFirst_some (p : Char → Bool) : LongestFirst (Reader.some p) := fun t =>
  List.pairwise_flatMap.2 ⟨fun rest _ => longestFirst_many p rest, pairwise_one p _ t⟩

lemma pairwise_fewest (t : Text) :
    (fewest t).Pairwise fun rest other => other.length < rest.length :=
  List.pairwise_reverse.2 (longestFirst_many _ t)

end Reader

namespace Token
open Reader

/-- The types of token whose pieces are runs of characters, up to a sign. -/
def runTypes : List Token := [int, posint, word, nospace, data, string, greedyData]

/-- A number with a sign cannot be read without it. -/
lemma longestFirst_int : LongestFirst int.reader := by
  intro t
  refine List.pairwise_flatMap.2 ⟨fun rest _ => longestFirst_some _ rest, ?_⟩
  refine List.pairwise_append.2 ⟨pairwise_one _ _ t, List.pairwise_singleton _ _, ?_⟩
  intro rest hrest other hother x hx y hy
  obtain ⟨c, hc, rfl⟩ := mem_one.1 hrest
  obtain rfl := List.mem_singleton.1 hother
  obtain ⟨_ | ⟨d, run⟩, hne, heq, hrun⟩ := mem_some.1 hy
  · contradiction
  · obtain ⟨rfl, -⟩ := List.cons.inj heq
    have hdigit := hrun c (by simp)
    rcases Bool.or_eq_true_iff.1 hc with h | h <;> rw [beq_iff_eq.1 h] at hdigit <;> cases hdigit

end Token

namespace Segment

def type? : Segment → Option Token
  | token type _ => some type
  | _ => none

/-- Of two pieces at one place the segment prefers the first: data the shorter piece, any other
segment the longer one. -/
def Prefers : Segment → Text → Text → Prop
  | token .data _, piece, other => piece.length < other.length
  | _, piece, other => other.length < piece.length

/-- The segment tries its pieces in the order of its preference. -/
def IsOrdered (segment : Segment) : Prop :=
  ∀ t, (segment.reader t).Pairwise fun rest other =>
    segment.Prefers (t.pieceBefore rest) (t.pieceBefore other)

lemma Prefers.asymm {segment : Segment} {piece other : Text} (h : segment.Prefers piece other) :
    ¬ segment.Prefers other piece := by
  unfold Prefers at *
  split at h <;> exact Nat.lt_asymm h

lemma isOrdered_of_longestFirst {segment : Segment} (hdata : ∀ field, segment ≠ token .data field)
    (h : segment.reader.LongestFirst) : segment.IsOrdered := by
  intro t
  refine (h t).imp_of_mem fun {rest other} hrest hother hlength => ?_
  have hpiece := length_pieceBefore (segment.leavesEnds_reader t rest hrest)
  have hpiece' := length_pieceBefore (segment.leavesEnds_reader t other hother)
  unfold Prefers
  split
  · exact absurd rfl (hdata _)
  · omega

lemma isOrdered_data (field : Option String) : (token .data field).IsOrdered := by
  intro t
  refine (Reader.pairwise_fewest t).imp_of_mem fun {rest other} hrest hother hlength => ?_
  have hpiece := length_pieceBefore (Reader.mem_fewest.1 hrest)
  have hpiece' := length_pieceBefore (Reader.mem_fewest.1 hother)
  change (t.pieceBefore rest).length < (t.pieceBefore other).length
  omega

theorem isOrdered {segment : Segment} (h : ∀ type ∈ segment.type?, type ∈ Token.runTypes) :
    segment.IsOrdered := by
  cases segment with
  | literal l => exact isOrdered_of_longestFirst (by simp) (Reader.longestFirst_literal l)
  | blanks => exact isOrdered_of_longestFirst (by simp) (Reader.longestFirst_some isBlank)
  | token type field =>
    have htype := h type rfl
    by_cases hdata : type = .data
    · rw [hdata]
      exact isOrdered_data field
    · refine isOrdered_of_longestFirst (by simp [hdata]) ?_
      change type.reader.LongestFirst
      cases type with
      | int => exact Token.longestFirst_int
      | posint | word | nospace => exact Reader.longestFirst_some _
      | string | greedyData => exact Reader.longestFirst_many _
      | data => contradiction
      | _ => simp [Token.runTypes] at htype

end Segment

/-- Where two cuttings first differ, the first one has the preferred piece. -/
inductive Precedes : List Segment → List Text → List Text → Prop
  | here {segment : Segment} {piece other : Text} (prefers : segment.Prefers piece other)
      (segments : List Segment) (pieces others : List Text) :
      Precedes (segment :: segments) (piece :: pieces) (other :: others)
  | later {segments : List Segment} {pieces others : List Text} (segment : Segment) (piece : Text)
      (h : Precedes segments pieces others) :
      Precedes (segment :: segments) (piece :: pieces) (piece :: others)

lemma precedes_cons_iff {segment : Segment} {segments : List Segment} {piece other : Text}
    {pieces others : List Text} :
    Precedes (segment :: segments) (piece :: pieces) (other :: others) ↔
      segment.Prefers piece other ∨ piece = other ∧ Precedes segments pieces others := by
  constructor
  · rintro (⟨prefers⟩ | ⟨_, _, h⟩)
    · exact .inl prefers
    · exact .inr ⟨rfl, h⟩
  · rintro (prefers | ⟨rfl, h⟩)
    · exact .here prefers segments pieces others
    · exact .later segment piece h

lemma Precedes.asymm {segments : List Segment} {pieces others : List Text}
    (h : Precedes segments pieces others) : ¬ Precedes segments others pieces := by
  induction h with
  | here prefers =>
    intro h
    rcases precedes_cons_iff.1 h with prefers' | ⟨rfl, -⟩
    · exact prefers.asymm prefers'
    · exact prefers.asymm prefers
  | later segment piece h ih =>
    intro h'
    rcases precedes_cons_iff.1 h' with prefers | ⟨-, h'⟩
    · exact prefers.asymm prefers
    · exact ih h'

/-- The cutting that precedes all others of the text. -/
structure Preferred (segments : List Segment) (t : Text) (pieces : List Text) : Prop where
  cuts : Cuts segments t pieces
  precedes : ∀ others, Cuts segments t others → others ≠ pieces → Precedes segments pieces others

lemma Preferred.unique {segments : List Segment} {t : Text} {pieces others : List Text}
    (h : Preferred segments t pieces) (hothers : Preferred segments t others) :
    others = pieces := by
  by_contra hne
  exact (h.precedes others hothers.cuts hne).asymm (hothers.precedes pieces h.cuts (Ne.symm hne))

theorem isSome_cut?_iff {segments : List Segment} {t : Text} :
    (cut? segments t).isSome = true ↔ ∃ pieces, Cuts segments t pieces := by
  constructor
  · intro h
    obtain ⟨pieces, hpieces⟩ := Option.isSome_iff_exists.1 h
    obtain ⟨others, hothers, -⟩ := reads_iff_cuts.1 (reads_of_cut?_eq_some hpieces)
    exact ⟨others, hothers⟩
  · rintro ⟨pieces, hpieces⟩
    exact (reads_iff_cuts.2 ⟨pieces, hpieces, rfl⟩).isSome_cut?

/-- What the first segment tried before its piece leads to no cutting, and what it would have tried
after it is not preferred. -/
theorem Preferred.cons {segment : Segment} {segments : List Segment} {t rest : Text}
    {tried untried later : List Text} (hordered : segment.IsOrdered)
    (hreader : segment.reader t = tried ++ rest :: untried)
    (htried : ∀ other ∈ tried, ¬ ∃ pieces, Cuts segments other pieces)
    (hlater : Preferred segments rest later) :
    Preferred (segment :: segments) t (t.pieceBefore rest :: later) := by
  have hpairwise := hordered t
  rw [hreader, List.pairwise_append, List.pairwise_cons] at hpairwise
  have hafter := hpairwise.2.1.1
  obtain ⟨piece, hpiece, htext⟩ := (segment.takes_reader t rest).1 (by simp [hreader])
  rw [pieceBefore_of_append htext] at hafter ⊢
  refine ⟨cuts_cons.2 ⟨piece, hpiece, rest, later, hlater.cuts, htext, rfl⟩, ?_⟩
  intro others hothers hne
  obtain ⟨other, hother, rest', later', hlater', htext', rfl⟩ := cuts_cons.1 hothers
  have hmem : rest' ∈ segment.reader t := (segment.takes_reader t rest').2 ⟨other, hother, htext'⟩
  rw [hreader, List.mem_append, List.mem_cons] at hmem
  rcases hmem with hbefore | rfl | huntried
  · exact absurd ⟨later', hlater'⟩ (htried rest' hbefore)
  · obtain rfl := List.append_cancel_right (htext'.trans htext.symm)
    refine .later segment other (hlater.precedes later' hlater' fun hsame => hne ?_)
    rw [hsame]
  · have hprefers := hafter rest' huntried
    rw [pieceBefore_of_append htext'] at hprefers
    exact .here hprefers segments later later'

/-- If every segment tries its pieces in order, the cutting that is found precedes all others. -/
theorem preferred_of_cut? {segments : List Segment}
    (hordered : ∀ segment ∈ segments, segment.IsOrdered) {t : Text} {pieces : List Text}
    (h : cut? segments t = some pieces) : Preferred segments t pieces := by
  induction segments generalizing t pieces with
  | nil =>
    rw [cut?] at h
    split at h
    · next ht =>
      obtain rfl := List.isEmpty_iff.1 ht
      obtain rfl := Option.some.inj h
      exact ⟨cuts_nil.2 ⟨rfl, rfl⟩, fun others hothers hne => absurd (cuts_nil.1 hothers).2 hne⟩
    · cases h
  | cons segment segments ih =>
    obtain ⟨tried, rest, untried, hreader, hrest, hnone⟩ := List.findSome?_eq_some_iff.1 h
    obtain ⟨later, hlater, rfl⟩ := Option.map_eq_some_iff.1 hrest
    refine .cons (hordered segment (by simp)) hreader (fun other htried => ?_)
      (ih (fun other hother => hordered other (by simp [hother])) hlater)
    rw [← isSome_cut?_iff, Option.map_eq_none_iff.1 (hnone other htried)]
    simp

theorem cut?_eq_some_iff {segments : List Segment}
    (hordered : ∀ segment ∈ segments, segment.IsOrdered) {t : Text} {pieces : List Text} :
    cut? segments t = some pieces ↔ Preferred segments t pieces := by
  refine ⟨preferred_of_cut? hordered, fun h => ?_⟩
  obtain ⟨others, hothers⟩ := Option.isSome_iff_exists.1 (isSome_cut?_iff.2 ⟨pieces, h.cuts⟩)
  rw [hothers, h.unique (preferred_of_cut? hordered hothers)]

namespace Grammar

variable {index : ℕ} {text : Text} {grammar : Grammar} {segments : List Segment}

/-- A grammar of literals, blanks and tokens that take runs has one preferred cutting of a text that
it fits, and takes the fields from it. -/
theorem takes_preferred (h : ofText index text = .ok grammar) (hspelled : SpelledBy text segments)
    (hruns : segments.filterMap Segment.type? ⊆ Token.runTypes) {t : Text}
    (hcuts : ∃ pieces, Cuts segments t pieces) :
    ∃ pieces fields, (∀ others, Preferred segments t others ↔ others = pieces) ∧
      cut? grammar.segments t = some pieces ∧ grammar.fieldsOf? t = some fields ∧
      fields.entries = (captures segments pieces).filter fun entry => entry.2 ≠ [] := by
  obtain rfl := (spelledBy_iff_of_ofText h).1 hspelled
  have hordered : ∀ segment ∈ grammar.segments, segment.IsOrdered := by
    intro segment hsegment
    refine Segment.isOrdered fun type htype => hruns ?_
    exact List.mem_filterMap.2 ⟨segment, hsegment, htype⟩
  obtain ⟨pieces, hpieces⟩ := Option.isSome_iff_exists.1 (isSome_cut?_iff.2 hcuts)
  have hfields : grammar.fieldsOf? t = some (.ofList (captures grammar.segments pieces)) := by
    rw [fieldsOf?_eq_map, hpieces, Option.map_some]
  refine ⟨pieces, _, fun others => ?_, hpieces, hfields, ?_⟩
  · rw [← cut?_eq_some_iff hordered, hpieces, Option.some.injEq, eq_comm]
  · have hnames := (reads_of_cut?_eq_some hpieces).names
    rw [Fields.ofList_eq_filter (hnames ▸ hspelled.distinct)]

/-- Tokens that touch, and more blanks than one run needs. -/
def measured : Grammar where
  index := 0
  text := ofString
    "%\x7bDATA:name\x7d%\x7bINT:count\x7d%\x7bWORD:unit\x7d %\x7bDATA\x7d %\x7bSTRING:rest\x7d"
  segments := [
    .token .data (some "name"), .token .int (some "count"), .token .word (some "unit"), .blanks,
    .token .data none, .blanks, .token .string (some "rest")]

/-- The first blanks take both spaces, so the data after them cannot be empty. -/
theorem takes_preferred_measured :
    ofText 0 measured.text = .ok measured ∧
      Preferred measured.segments (ofString "a-12b  c d e")
        (["a", "-12", "b", "  ", "c", " ", "d e"].map ofString) ∧
      measured.fieldsOf? (ofString "a-12b  c d e") = some ⟨[("name", ofString "a"),
        ("count", ofString "-12"), ("unit", ofString "b"), ("rest", ofString "d e")]⟩ := by
  have hread : ofText 0 measured.text = .ok measured := by decide +kernel
  have hspelled := (spelledBy_iff_of_ofText hread).2 rfl
  have hcut : cut? measured.segments (ofString "a-12b  c d e") =
      some (["a", "-12", "b", "  ", "c", " ", "d e"].map ofString) := by decide +kernel
  have hcuts := isSome_cut?_iff.1 (Option.isSome_of_eq_some hcut)
  obtain ⟨pieces, ⟨entries⟩, hpreferred, hpieces, hfields, hentries⟩ :=
    takes_preferred hread hspelled (by decide) hcuts
  obtain rfl := Option.some.inj (hcut.symm.trans hpieces)
  refine ⟨hread, (hpreferred _).2 rfl, ?_⟩
  rw [hfields, show entries = _ from hentries]
  decide +kernel

end Grammar
end Syslog
