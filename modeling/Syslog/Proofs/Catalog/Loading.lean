import Mathlib.Data.List.Sort
import Syslog.Proofs.Catalog.Concatenation
import Syslog.Proofs.Text.Decoding

/-!
# Loading a catalog

What comes of the bytes of a source of grammars. A line is kept if it holds a grammar and no line
above it reads alike. The first kept line that is no grammar is the fault; without one, the kept
lines are the grammars of the catalog in their order. So the numbers of lines, which count all of
them, and the positions of grammars, which count those kept, never mix.
-/
namespace Syslog

namespace Grammar

lemma ofText_cases (text : Text) :
    (∃ fault, ∀ index, ofText index text = .error fault) ∨
      ∀ index, ∃ grammar, ofText index text = .ok grammar := by
  cases hsegments : readSegments 0 [] text with
  | error fault => exact .inl ⟨fault, fun index => ofText_eq_error_iff.2 hsegments⟩
  | ok segments => exact .inr fun index => ⟨_, ofText_of_readSegments hsegments index⟩

lemma ofText_eq_error {index : ℕ} {text : Text} {fault : Fault}
    (h : ofText index text = .error fault) (other : ℕ) : ofText other text = .error fault :=
  ofText_eq_error_iff.2 (ofText_eq_error_iff.1 h)

lemma exists_ofText_eq_ok {index : ℕ} {text : Text} {grammar : Grammar}
    (h : ofText index text = .ok grammar) (other : ℕ) :
    ∃ grammar, ofText other text = .ok grammar := by
  rcases ofText_cases text with ⟨fault, hfault⟩ | hgrammar
  · rw [hfault] at h
    cases h
  · exact hgrammar other

end Grammar

namespace Catalog
open Text

/-! ## Lines that are kept -/

/-- The trimmed text of a line of a source; lines are counted from one. -/
def StandsOn (t : Text) (number : ℕ) (text : Text) : Prop :=
  ∃ index line, number = index + 1 ∧ (t.splitOn '\n')[index]? = some line ∧ text = trim line

/-- The source has a grammar on the line, and not on a line above. -/
structure Keeps (t : Text) (line : Line) : Prop where
  stands : StandsOn t line.number line.text
  filled : line.text ≠ []
  uncommented : line.text.head? ≠ some '#'
  new : ∀ number < line.number, ¬ StandsOn t number line.text

lemma mem_lines_iff {t : Text} {line : Line} :
    line ∈ lines t ↔ StandsOn t line.number line.text := by
  obtain ⟨number, text⟩ := line
  simp only [lines, StandsOn, List.mem_map, Prod.exists, Line.mk.injEq,
    List.mem_zipIdx_iff_getElem?, List.getElem?_map, Option.map_eq_some_iff]
  constructor
  · rintro ⟨_, index, ⟨line, hline, rfl⟩, rfl, rfl⟩
    exact ⟨index, line, rfl, hline, rfl⟩
  · rintro ⟨index, line, rfl, hline, rfl⟩
    exact ⟨_, index, ⟨line, hline, rfl⟩, rfl, rfl⟩

lemma pairwise_lines (t : Text) :
    (lines t).Pairwise fun above line => above.number < line.number := by
  rw [lines, List.pairwise_map]
  have hindices := List.pairwise_lt_range' (s := 0) (n := ((t.splitOn '\n').map trim).length)
  rw [← List.zipIdx_map_snd, List.pairwise_map] at hindices
  exact hindices.imp fun h => Nat.succ_lt_succ h

lemma mem_keepNew_iff {kept : List Line} {line other : Line} :
    other ∈ keepNew kept line ↔
      other ∈ kept ∨ other = line ∧ line.text ∉ kept.map Line.text := by
  rw [keepNew_eq]
  split
  · next hseen => simp [hseen]
  · next hnew => simp [hnew]

/-- Of numbered lines those are kept that have a text which no line above has. -/
theorem mem_foldl_keepNew_iff {lines : List Line}
    (h : lines.Pairwise fun above line => above.number < line.number) {line : Line} :
    line ∈ lines.foldl keepNew [] ↔
      line ∈ lines ∧ ∀ above ∈ lines, above.number < line.number → above.text ≠ line.text := by
  induction lines using List.reverseRecOn generalizing line with
  | nil => simp
  | append_singleton lines last ih =>
    obtain ⟨hlines, -, hlast⟩ := List.pairwise_append.1 h
    have hbelow : ∀ other ∈ lines, other.number < last.number := fun other hother =>
      hlast other hother last List.mem_cons_self
    have hkept : ∀ text, text ∈ (lines.foldl keepNew []).map Line.text ↔
        text ∈ lines.map Line.text := by
      intro text
      constructor
      · intro hmem
        obtain ⟨other, hother, rfl⟩ := List.mem_map.1 hmem
        exact List.mem_map_of_mem ((ih hlines).1 hother).1
      · intro hmem
        obtain ⟨other, hother, rfl⟩ := List.mem_map.1 hmem
        exact text_mem_foldl_keepNew (.inr hother)
    rw [List.foldl_append, List.foldl_cons, List.foldl_nil, mem_keepNew_iff, ih hlines, hkept]
    constructor
    · rintro (⟨hline, hnew⟩ | ⟨rfl, hnew⟩)
      · refine ⟨List.mem_append_left _ hline, fun above habove hlt => ?_⟩
        rcases List.mem_append.1 habove with habove | habove
        · exact hnew above habove hlt
        · obtain rfl := List.mem_singleton.1 habove
          exact absurd hlt (Nat.lt_asymm (hbelow line hline))
      · refine ⟨List.mem_append_right _ List.mem_cons_self, fun above habove hlt htext => ?_⟩
        rcases List.mem_append.1 habove with habove | habove
        · exact hnew (htext ▸ List.mem_map_of_mem habove)
        · obtain rfl := List.mem_singleton.1 habove
          exact absurd hlt (Nat.lt_irrefl _)
    · rintro ⟨hline, hnew⟩
      rcases List.mem_append.1 hline with hline | hline
      · exact .inl ⟨hline, fun above habove => hnew above (List.mem_append_left _ habove)⟩
      · obtain rfl := List.mem_singleton.1 hline
        refine .inr ⟨rfl, fun hmem => ?_⟩
        obtain ⟨above, habove, htext⟩ := List.mem_map.1 hmem
        exact hnew above (List.mem_append_left _ habove) (hbelow above habove) htext

lemma foldl_keepNew_sublist (lines : List Line) : (lines.foldl keepNew []).Sublist lines := by
  induction lines using List.reverseRecOn with
  | nil => exact List.Sublist.refl []
  | append_singleton lines last ih =>
    rw [List.foldl_append, List.foldl_cons, List.foldl_nil, keepNew]
    split
    · exact ih.trans (List.sublist_append_left lines [last])
    · exact ih.append_right [last]

lemma holdsGrammar_iff {line : Line} :
    line.holdsGrammar = true ↔ line.text ≠ [] ∧ line.text.head? ≠ some '#' := by
  simp [Line.holdsGrammar]

theorem mem_grammarLines_iff {t : Text} {line : Line} :
    line ∈ grammarLines t ↔ Keeps t line := by
  have hlines := (pairwise_lines t).filter Line.holdsGrammar
  rw [grammarLines, mem_foldl_keepNew_iff hlines]
  simp only [List.mem_filter, mem_lines_iff, holdsGrammar_iff]
  constructor
  · rintro ⟨⟨hstands, hfilled, huncommented⟩, hnew⟩
    refine ⟨hstands, hfilled, huncommented, fun number hlt habove => ?_⟩
    exact hnew ⟨number, line.text⟩ ⟨habove, hfilled, huncommented⟩ hlt rfl
  · rintro ⟨hstands, hfilled, huncommented, hnew⟩
    refine ⟨⟨hstands, hfilled, huncommented⟩, fun above habove hlt htext => ?_⟩
    exact hnew above.number hlt (htext ▸ habove.1)

lemma pairwise_grammarLines (t : Text) :
    (grammarLines t).Pairwise fun above line => above.number < line.number :=
  ((pairwise_lines t).filter Line.holdsGrammar).sublist (foldl_keepNew_sublist _)

lemma eq_grammarLines {t : Text} {kept : List Line} (hmem : ∀ line, line ∈ kept ↔ Keeps t line)
    (horder : kept.Pairwise fun above line => above.number < line.number) :
    kept = grammarLines t := by
  have : Std.Antisymm fun above line : Line => above.number < line.number :=
    ⟨fun _ _ h h' => absurd h (Nat.lt_asymm h')⟩
  have : Std.Irrefl fun above line : Line => above.number < line.number :=
    ⟨fun _ => Nat.lt_irrefl _⟩
  exact horder.eq_of_mem_iff (pairwise_grammarLines t) fun line => by
    rw [hmem, mem_grammarLines_iff]

/-! ## Faults -/

lemma mapM_eq_error {α β ε : Type} {f : α → Except ε β} {above below : List α} {x : α} {fault : ε}
    (habove : ∀ y ∈ above, ∃ z, f y = .ok z) (hx : f x = .error fault) :
    (above ++ x :: below).mapM f = .error fault := by
  induction above with
  | nil =>
    rw [List.nil_append, List.mapM_cons, hx]
    rfl
  | cons y above ih =>
    obtain ⟨⟨z, hz⟩, habove⟩ := List.forall_mem_cons.1 habove
    rw [List.cons_append, List.mapM_cons, hz, ih habove]
    rfl

lemma exists_of_mapM_eq_error {α β ε : Type} {f : α → Except ε β} {xs : List α} {fault : ε}
    (h : xs.mapM f = .error fault) :
    ∃ above x below, xs = above ++ x :: below ∧ (∀ y ∈ above, ∃ z, f y = .ok z) ∧
      f x = .error fault := by
  induction xs with
  | nil => cases h
  | cons x xs ih =>
    rw [List.mapM_cons] at h
    cases hx : f x with
    | error found =>
      rw [hx] at h
      obtain rfl : found = fault := Except.error.inj h
      exact ⟨[], x, xs, rfl, by simp, hx⟩
    | ok z =>
      cases hxs : xs.mapM f with
      | error found =>
        rw [hx, hxs] at h
        obtain rfl : found = fault := Except.error.inj h
        obtain ⟨above, y, below, rfl, habove, hy⟩ := ih hxs
        exact ⟨x :: above, y, below, rfl, List.forall_mem_cons.2 ⟨⟨z, hx⟩, habove⟩, hy⟩
      | ok zs =>
        rw [hx, hxs] at h
        cases h

lemma grammarOfLine_eq_error_iff {index : ℕ} {line : Line} {fault : SetupFault} :
    grammarOfLine index line = .error fault ↔
      ∃ found, Grammar.ofText index line.text = .error found ∧
        fault = .invalidGrammar line.number found := by
  rw [grammarOfLine]
  cases Grammar.ofText index line.text with
  | error found =>
    constructor
    · intro h
      exact ⟨found, rfl, (Except.error.inj h).symm⟩
    · rintro ⟨other, hother, rfl⟩
      obtain rfl := Except.error.inj hother
      rfl
  | ok grammar =>
    constructor
    · intro h
      cases h
    · rintro ⟨other, hother, -⟩
      cases hother

lemma ofText_eq_error_iff {t : Text} {fault : SetupFault} :
    ofText t = .error fault ↔
      (grammarLines t).zipIdx.mapM (fun entry => grammarOfLine entry.2 entry.1) = .error fault := by
  have hbind : ofText t =
      (((grammarLines t).zipIdx.mapM fun entry => grammarOfLine entry.2 entry.1).bind
        fun grammars => .ok ⟨grammars⟩) := rfl
  rw [hbind]
  cases (grammarLines t).zipIdx.mapM fun entry => grammarOfLine entry.2 entry.1 with
  | error found => exact ⟨fun h => Except.error.inj h ▸ rfl, fun h => Except.error.inj h ▸ rfl⟩
  | ok grammars => constructor <;> intro h <;> cases h

inductive Loads (t : Text) : Except SetupFault Catalog → Prop where
  | faulty {line : Line} {fault : Grammar.Fault} (kept : Keeps t line)
      (fault_eq : ∀ index, Grammar.ofText index line.text = .error fault)
      (first : ∀ above, Keeps t above → above.number < line.number →
        ∀ index, ∃ grammar, Grammar.ofText index above.text = .ok grammar) :
      Loads t (.error (.invalidGrammar line.number fault))
  | loaded {kept : List Line} {catalog : Catalog} (kept_iff : ∀ line, line ∈ kept ↔ Keeps t line)
      (order : kept.Pairwise fun above line => above.number < line.number)
      (texts : catalog.texts = kept.map Line.text) (numbered : catalog.Numbered)
      (grammars : ∀ grammar ∈ catalog.grammars,
        Grammar.ofText grammar.index grammar.text = .ok grammar) :
      Loads t (.ok catalog)

lemma loads_of_eq_error {t : Text} {fault : SetupFault} (h : ofText t = .error fault) :
    Loads t (.error fault) := by
  obtain ⟨above, ⟨line, index⟩, below, hsplit, habove, hfault⟩ :=
    exists_of_mapM_eq_error (ofText_eq_error_iff.1 h)
  obtain ⟨found, hfound, rfl⟩ := grammarOfLine_eq_error_iff.1 hfault
  have hlines : grammarLines t = above.map Prod.fst ++ line :: below.map Prod.fst := by
    have hfirst := congrArg (List.map Prod.fst) hsplit
    rwa [List.zipIdx_map_fst, List.map_append, List.map_cons] at hfirst
  have horder := pairwise_grammarLines t
  rw [hlines, List.pairwise_append, List.pairwise_cons] at horder
  obtain ⟨-, ⟨hbelow, -⟩, -⟩ := horder
  have hkept : Keeps t line := by simp [← mem_grammarLines_iff, hlines]
  refine .faulty hkept ?_ fun other hother hlt => ?_
  · exact Grammar.ofText_eq_error hfound
  · rw [← mem_grammarLines_iff, hlines, List.mem_append, List.mem_cons] at hother
    rcases hother with hother | rfl | hother
    · obtain ⟨⟨other, position⟩, hmem, rfl⟩ := List.mem_map.1 hother
      obtain ⟨grammar, hgrammar⟩ := habove _ hmem
      exact Grammar.exists_ofText_eq_ok (grammarOfLine_eq_ok_iff.1 hgrammar)
    · exact absurd hlt (Nat.lt_irrefl _)
    · exact absurd hlt (Nat.lt_asymm (hbelow other hother))

lemma loads_of_eq_ok {t : Text} {catalog : Catalog} (h : ofText t = .ok catalog) :
    Loads t (.ok catalog) := by
  refine .loaded (fun _ => mem_grammarLines_iff) (pairwise_grammarLines t) (texts_of_ofText h)
    (numbered_ofText h) fun grammar hgrammar => ?_
  obtain ⟨i, hi⟩ := List.mem_iff_getElem?.1 hgrammar
  obtain ⟨text, hread⟩ := exists_text_of_ofText h hi
  obtain ⟨segments, hsegments, rfl⟩ := Grammar.ofText_eq_ok_iff.1 hread
  exact hread

lemma Loads.ofText_eq {t : Text} {result : Except SetupFault Catalog} (h : Loads t result) :
    ofText t = result := by
  cases h with
  | @faulty line fault hkept hfault hfirst =>
    obtain ⟨above, below, hsplit⟩ := List.append_of_mem (mem_grammarLines_iff.2 hkept)
    have horder := pairwise_grammarLines t
    rw [hsplit, List.pairwise_append] at horder
    obtain ⟨-, -, habove⟩ := horder
    rw [ofText_eq_error_iff, hsplit, List.zipIdx_append, List.zipIdx_cons]
    refine mapM_eq_error (fun entry hentry => ?_) ?_
    · have hmem : entry.1 ∈ above := List.fst_mem_of_mem_zipIdx hentry
      have hother : Keeps t entry.1 := mem_grammarLines_iff.1 (hsplit ▸ List.mem_append_left _ hmem)
      obtain ⟨grammar, hgrammar⟩ := hfirst entry.1 hother
        (habove entry.1 hmem line List.mem_cons_self) entry.2
      exact ⟨grammar, grammarOfLine_eq_ok_iff.2 hgrammar⟩
    · exact grammarOfLine_eq_error_iff.2 ⟨fault, hfault _, rfl⟩
  | @loaded kept catalog hkept horder htexts hnumbered hgrammars =>
    obtain rfl := eq_grammarLines hkept horder
    rw [ofText_eq_ok_iff, ← htexts, List.forall₂_iff_get]
    refine ⟨by rw [List.length_zipIdx, texts, List.length_map], fun i _ hgrammar => ?_⟩
    have hread := hgrammars _ (List.getElem_mem hgrammar)
    have hindex : catalog.grammars[i].index = i := hnumbered i _ (List.getElem?_eq_getElem hgrammar)
    rw [hindex] at hread
    simpa only [List.get_eq_getElem, List.getElem_zipIdx, Nat.zero_add, texts, List.getElem_map]
      using hread

theorem ofText_eq_iff {t : Text} {result : Except SetupFault Catalog} :
    ofText t = result ↔ Loads t result := by
  refine ⟨?_, Loads.ofText_eq⟩
  rintro rfl
  cases h : ofText t with
  | error fault => exact loads_of_eq_error h
  | ok catalog => exact loads_of_eq_ok h

/-- What comes of the bytes of a source, with the fault for bytes that are no UTF-8. -/
inductive LoadsFrom (undecodable : SetupFault) (bytes : List UInt8) :
    Except SetupFault Catalog → Prop where
  | undecodable (h : ∀ t, bytes ≠ Utf8.encode t) : LoadsFrom undecodable bytes (.error undecodable)
  | text {t : Text} {result : Except SetupFault Catalog} (h : bytes = Utf8.encode t)
      (loads : Loads t result) : LoadsFrom undecodable bytes result

lemma loadsFrom_iff {undecodable : SetupFault} {bytes : List UInt8}
    {result : Except SetupFault Catalog} :
    (match Utf8.decode? bytes with
      | some t => ofText t
      | none => .error undecodable) = result ↔ LoadsFrom undecodable bytes result := by
  constructor
  · rintro rfl
    cases hdecode : Utf8.decode? bytes with
    | some t => exact .text (Utf8.decode?_eq_some_iff.1 hdecode) (ofText_eq_iff.1 rfl)
    | none =>
      refine .undecodable fun t ht => ?_
      rw [Utf8.decode?_eq_some_iff.2 ht] at hdecode
      cases hdecode
  · intro h
    cases h with
    | undecodable hnone =>
      cases hdecode : Utf8.decode? bytes with
      | some t => exact absurd (Utf8.decode?_eq_some_iff.1 hdecode) (hnone t)
      | none => rfl
    | text ht hloads =>
      rw [Utf8.decode?_eq_some_iff.2 ht]
      exact hloads.ofText_eq

/-- A stream and a file with the same bytes give one result, except for bytes that are no UTF-8.
This is the fault of the first line kept that holds no grammar, with the number of the line, or else
the catalog of all lines kept, numbered in their order. -/
theorem loads_bytes_iff (bytes : List UInt8) (result : Except SetupFault Catalog) :
    (ofBytes bytes = result ↔ LoadsFrom .unreadable bytes result) ∧
      (ofFile (some bytes) = result ↔ LoadsFrom .patternsUnavailable bytes result) :=
  ⟨loadsFrom_iff, loadsFrom_iff⟩

/-- The second grammar is the first again, and the fifth line is the first one at fault. -/
example : ofBytes (Utf8.encode (ofString
    "# two words\r\n%\x7bWORD:a\x7d\r\n\r\n %\x7bWORD:a\x7d\n%\x7bNOPE:b\x7d\n%\x7bWORD")) =
      .error (.invalidGrammar 5 (.unknownType (ofString "NOPE"))) := by
  decide +kernel

end Catalog
end Syslog
