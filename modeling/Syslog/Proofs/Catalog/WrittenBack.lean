import Syslog.Proofs.Catalog.Loading
import Syslog.Proofs.Text.Trimming

/-!
# Catalogs written back

The texts of a catalog make a source again, one text a line. Blanks around them do not matter, nor
do lines in between that are blank, hold a comment, or repeat a text from above. A source loads to
the catalog exactly if its lines are such lines.
-/
namespace Syslog

namespace Text

lemma notMem_of_mem_splitOn {separator : Char} {t piece : Text}
    (h : piece ∈ t.splitOn separator) : separator ∉ piece := by
  induction t generalizing piece with
  | nil =>
    rw [List.splitOn_nil, List.mem_singleton] at h
    rw [h]
    exact List.not_mem_nil
  | cons c t ih =>
    rw [List.splitOn_cons_eq_if_modifyHead] at h
    split at h
    · rcases List.mem_cons.1 h with rfl | hlater
      · exact List.not_mem_nil
      · exact ih hlater
    · next hc =>
      cases hpieces : t.splitOn separator with
      | nil => exact absurd hpieces (List.splitOn_ne_nil separator t)
      | cons first later =>
        rw [hpieces, List.modifyHead_cons] at h
        rw [hpieces] at ih
        rcases List.mem_cons.1 h with rfl | hlater
        · have hne : c ≠ separator := by simpa using hc
          exact List.not_mem_cons_of_ne_of_not_mem hne.symm (ih List.mem_cons_self)
        · exact ih (List.mem_cons_of_mem _ hlater)

end Text

namespace Catalog
open Text

/-! ## Lines that bring texts -/

/-- Blanks that do not end a line. -/
def IsMargin (t : Text) : Prop := ∀ c ∈ t, isBlank c = true ∧ c ≠ '\n'

/-- The line holds the text between margins. -/
def Bears (line text : Text) : Prop :=
  ∃ before after, IsMargin before ∧ IsMargin after ∧ line = before ++ text ++ after

/-- Below lines with the texts of the first list, the lines bring the texts of the second in their
order. A line in between is blank, holds a comment, or repeats a text from above. -/
inductive Brings : List Text → List Text → List Text → Prop where
  | nil {above : List Text} : Brings above [] []
  | text {above texts lines : List Text} {text line : Text} (bears : Bears line text)
      (later : Brings (above ++ [text]) texts lines) :
      Brings above (text :: texts) (line :: lines)
  | repeated {above texts lines : List Text} {text line : Text} (seen : text ∈ above)
      (bears : Bears line text) (later : Brings above texts lines) :
      Brings above texts (line :: lines)
  | blank {above texts lines : List Text} {line : Text} (margin : IsMargin line)
      (later : Brings above texts lines) : Brings above texts (line :: lines)
  | comment {above texts lines : List Text} {before rest : Text} (margin : IsMargin before)
      (one_line : '\n' ∉ rest) (later : Brings above texts lines) :
      Brings above texts ((before ++ '#' :: rest) :: lines)

variable {above texts lines : List Text} {text line t : Text}

lemma IsMargin.isBlank (h : IsMargin t) : ∀ c ∈ t, isBlank c = true := fun c hc => (h c hc).1

lemma IsMargin.lineFeed_notMem (h : IsMargin t) : '\n' ∉ t := fun hmem => (h _ hmem).2 rfl

lemma isMargin_of_lineFeed_notMem (hblank : ∀ c ∈ t, isBlank c = true) (h : '\n' ∉ t) :
    IsMargin t := fun c hc => ⟨hblank c hc, fun heq => h (heq ▸ hc)⟩

lemma trim_of_isMargin (h : IsMargin line) : trim line = [] := by
  rw [← List.append_nil line, trim_append_of_forall h.isBlank]
  rfl

structure IsEntry (text : Text) : Prop where
  trimmed : IsTrimmed text
  filled : text ≠ []
  uncommented : text.head? ≠ some '#'
  one_line : '\n' ∉ text

lemma Bears.trim_eq (h : Bears line text) (htext : IsEntry text) : trim line = text := by
  obtain ⟨before, after, hbefore, hafter, rfl⟩ := h
  rw [trim_between hbefore.isBlank hafter.isBlank, trim_eq_self htext.trimmed]

lemma Bears.lineFeed_notMem (h : Bears line text) (htext : IsEntry text) : '\n' ∉ line := by
  obtain ⟨before, after, hbefore, hafter, rfl⟩ := h
  simp [hbefore.lineFeed_notMem, hafter.lineFeed_notMem, htext.one_line]

lemma bears_trim (h : '\n' ∉ line) : Bears line (trim line) := by
  obtain ⟨before, after, hline, hbefore, hafter⟩ := exists_trim_between line
  rw [hline, List.mem_append, List.mem_append, not_or, not_or] at h
  exact ⟨before, after, isMargin_of_lineFeed_notMem hbefore h.1.1,
    isMargin_of_lineFeed_notMem hafter h.2, hline⟩

lemma brings_self (above texts : List Text) : Brings above texts texts := by
  induction texts generalizing above with
  | nil => exact .nil
  | cons text texts ih =>
    have hbears : Bears text text := ⟨[], [], nofun, nofun, (List.append_nil text).symm⟩
    exact .text hbears (ih (above ++ [text]))

/-! ## Texts that are kept -/

def addText (above : List Text) (text : Text) : List Text :=
  if text.isEmpty || text.head? == some '#' || above.contains text then above else above ++ [text]

lemma addText_eq (above : List Text) (text : Text) :
    addText above text =
      if text = [] ∨ text.head? = some '#' ∨ text ∈ above then above else above ++ [text] := by
  simp only [addText, Bool.or_eq_true, List.isEmpty_iff, beq_iff_eq, List.contains_iff_mem,
    or_assoc]

lemma addText_of_isEntry (htext : IsEntry text) (hnew : text ∉ above) :
    addText above text = above ++ [text] := by
  simp [addText_eq, htext.filled, htext.uncommented, hnew]

lemma addText_eq_self (h : text = [] ∨ text.head? = some '#' ∨ text ∈ above) :
    addText above text = above := by
  rw [addText_eq, if_pos h]

lemma map_text_keepNew (kept : List Line) {line : Line} (h : line.holdsGrammar = true) :
    (keepNew kept line).map Line.text = addText (kept.map Line.text) line.text := by
  obtain ⟨hfilled, huncommented⟩ := holdsGrammar_iff.1 h
  rw [keepNew_eq]
  split
  · next hseen => rw [addText_eq_self (.inr (.inr hseen))]
  · next hnew => simp [addText_eq, hfilled, huncommented, hnew]

lemma map_text_foldl (kept lines : List Line) :
    ((lines.filter Line.holdsGrammar).foldl keepNew kept).map Line.text =
      (lines.map Line.text).foldl addText (kept.map Line.text) := by
  induction lines generalizing kept with
  | nil => rfl
  | cons line lines ih =>
    rw [List.map_cons, List.foldl_cons]
    cases h : line.holdsGrammar with
    | true => rw [List.filter_cons_of_pos h, List.foldl_cons, ih, map_text_keepNew kept h]
    | false =>
      have hskip : addText (kept.map Line.text) line.text = kept.map Line.text := by
        have hnot := mt holdsGrammar_iff.2 (by simp [h] : ¬ line.holdsGrammar = true)
        rw [not_and_or, not_not, not_not] at hnot
        exact addText_eq_self (hnot.imp_right .inl)
      rw [List.filter_cons_of_neg (by simp [h]), ih, hskip]

lemma texts_grammarLines (t : Text) :
    (grammarLines t).map Line.text = ((t.splitOn '\n').map trim).foldl addText [] := by
  have hlines : (Catalog.lines t).map Line.text = (t.splitOn '\n').map trim := by
    rw [Catalog.lines, List.map_map]
    exact List.zipIdx_map_fst 0 _
  rw [grammarLines, map_text_foldl, hlines]
  rfl

theorem Brings.foldl_addText (h : Brings above texts lines)
    (hentry : ∀ text ∈ above ++ texts, IsEntry text) (hnodup : (above ++ texts).Nodup) :
    (lines.map trim).foldl addText above = above ++ texts := by
  induction h with
  | nil => exact (List.append_nil _).symm
  | @text above texts lines text line hbears _ ih =>
    have htext : IsEntry text := hentry text (by simp)
    have hnew : text ∉ above := by
      intro hmem
      exact (List.nodup_append.1 hnodup).2.2 text hmem text List.mem_cons_self rfl
    rw [List.append_cons] at hentry hnodup ⊢
    rw [List.map_cons, List.foldl_cons, hbears.trim_eq htext, addText_of_isEntry htext hnew,
      ih hentry hnodup]
  | @repeated above texts lines text line hseen hbears _ ih =>
    have htext : IsEntry text := hentry text (List.mem_append_left _ hseen)
    rw [List.map_cons, List.foldl_cons, hbears.trim_eq htext, addText_eq_self (.inr (.inr hseen)),
      ih hentry hnodup]
  | blank hmargin _ ih =>
    rw [List.map_cons, List.foldl_cons, trim_of_isMargin hmargin, addText_eq_self (.inl rfl),
      ih hentry hnodup]
  | @comment above texts lines before rest hmargin _ _ ih =>
    have hcomment : (trim (before ++ '#' :: rest)).head? = some '#' := by
      rw [trim_append_of_forall hmargin.isBlank, head?_trim_cons (by decide)]
    rw [List.map_cons, List.foldl_cons, addText_eq_self (.inr (.inl hcomment)), ih hentry hnodup]

lemma Brings.lineFeed_notMem (h : Brings above texts lines)
    (hentry : ∀ text ∈ above ++ texts, IsEntry text) : ∀ line ∈ lines, '\n' ∉ line := by
  induction h with
  | nil => exact fun _ hline => absurd hline List.not_mem_nil
  | @text above texts lines text line hbears _ ih =>
    have htext : IsEntry text := hentry text (by simp)
    rw [List.append_cons] at hentry
    exact List.forall_mem_cons.2 ⟨hbears.lineFeed_notMem htext, ih hentry⟩
  | @repeated above texts lines text line hseen hbears _ ih =>
    have htext : IsEntry text := hentry text (List.mem_append_left _ hseen)
    exact List.forall_mem_cons.2 ⟨hbears.lineFeed_notMem htext, ih hentry⟩
  | blank hmargin _ ih => exact List.forall_mem_cons.2 ⟨hmargin.lineFeed_notMem, ih hentry⟩
  | comment hmargin hrest _ ih =>
    refine List.forall_mem_cons.2 ⟨?_, ih hentry⟩
    simp [hmargin.lineFeed_notMem, hrest]

lemma Brings.skip (hline : '\n' ∉ line)
    (hskip : trim line = [] ∨ (trim line).head? = some '#' ∨ trim line ∈ above)
    (later : Brings above texts lines) : Brings above texts (line :: lines) := by
  obtain ⟨before, after, hbefore, hafter, heq⟩ := bears_trim hline
  rcases hskip with hnil | hcomment | hseen
  · refine .blank (fun c hc => ?_) later
    rw [heq, hnil, List.append_nil, List.mem_append] at hc
    exact hc.elim (hbefore c) (hafter c)
  · obtain ⟨rest, hrest⟩ := List.head?_eq_some_iff.1 hcomment
    have hcommentLine : line = before ++ '#' :: (rest ++ after) := by rw [heq, hrest]; simp
    rw [hcommentLine] at hline ⊢
    exact .comment hbefore (fun hmem => hline (by simp [hmem])) later
  · exact .repeated hseen ⟨before, after, hbefore, hafter, heq⟩ later

/-- Any lines bring the texts that are kept of them. -/
theorem exists_brings (above : List Text) (h : ∀ line ∈ lines, '\n' ∉ line) :
    ∃ texts, Brings above texts lines ∧ (lines.map trim).foldl addText above = above ++ texts := by
  induction lines generalizing above with
  | nil => exact ⟨[], .nil, (List.append_nil above).symm⟩
  | cons line lines ih =>
    obtain ⟨hline, hlines⟩ := List.forall_mem_cons.1 h
    rw [List.map_cons, List.foldl_cons, addText_eq]
    split
    · next hskip =>
      obtain ⟨texts, hbrings, hfold⟩ := ih above hlines
      exact ⟨texts, hbrings.skip hline hskip, hfold⟩
    · obtain ⟨texts, hbrings, hfold⟩ := ih (above ++ [trim line]) hlines
      refine ⟨trim line :: texts, .text (bears_trim hline) hbrings, ?_⟩
      rw [hfold, ← List.append_cons]

/-! ## Sources -/

lemma texts_joined (h : ∀ line ∈ lines, '\n' ∉ line) {ending : Text}
    (hending : ending = [] ∨ ending = ['\n']) :
    (grammarLines (['\n'].intercalate lines ++ ending)).map Line.text =
      (lines.map trim).foldl addText [] := by
  have hjoined : (((['\n'].intercalate lines).splitOn '\n').map trim).foldl addText [] =
      (lines.map trim).foldl addText [] := by
    cases lines with
    | nil => rfl
    | cons line lines => rw [List.splitOn_intercalate '\n' h (List.cons_ne_nil _ _)]
  rw [texts_grammarLines]
  rcases hending with rfl | rfl
  · rw [List.append_nil, hjoined]
  · have hlast : trim [] = [] := rfl
    rw [List.splitOn_append_cons_self, List.map_append, List.foldl_append, hjoined,
      List.splitOn_nil, List.map_singleton, List.foldl_cons, hlast, addText_eq_self (.inl rfl),
      List.foldl_nil]

lemma isEntry_of_keeps {kept : Line} (h : Keeps t kept) : IsEntry kept.text := by
  obtain ⟨index, line, -, hline, htext⟩ := h.stands
  have hfree : '\n' ∉ line := notMem_of_mem_splitOn (List.mem_of_getElem? hline)
  refine ⟨htext ▸ isTrimmed_trim line, h.filled, h.uncommented, fun hmem => hfree ?_⟩
  rw [htext] at hmem
  exact (trim_sublist line).subset hmem

lemma nodup_texts_grammarLines (t : Text) : ((grammarLines t).map Line.text).Nodup := by
  rw [List.Nodup, List.pairwise_map]
  refine (pairwise_grammarLines t).imp_of_mem fun {first second} hfirst hsecond hlt heq => ?_
  have habove := (mem_grammarLines_iff.1 hfirst).stands
  rw [heq] at habove
  exact (mem_grammarLines_iff.1 hsecond).new _ hlt habove

/-- A catalog comes of the texts that a source keeps, wherever they stand. -/
lemma ofText_eq_ok_iff_texts {s : Text} {catalog : Catalog} (h : ofText t = .ok catalog) :
    ofText s = .ok catalog ↔ (grammarLines s).map Line.text = catalog.texts := by
  constructor
  · intro hs
    exact (texts_of_ofText hs).symm
  · intro htexts
    rw [ofText_eq_ok_iff] at h ⊢
    rwa [htexts, texts_of_ofText (ofText_eq_ok_iff.2 h)]

lemma ofBytes_eq_ok_iff {bytes : List UInt8} {catalog : Catalog} :
    ofBytes bytes = .ok catalog ↔ ∃ t, bytes = Utf8.encode t ∧ ofText t = .ok catalog := by
  simp only [← Utf8.decode?_eq_some_iff]
  rw [ofBytes]
  cases Utf8.decode? bytes with
  | none => simp
  | some t => simp

/-- A catalog that was loaded is loaded again from its texts, written one a line: the same texts
with the same fields at the same positions. It is also loaded from any source with these texts in
their order, be there blanks around them, blank lines, comments and repetitions of texts above in
between, and a line feed at the end or none; and from no other source. -/
theorem writtenBack_iff {bytes : List UInt8} {catalog : Catalog}
    (h : ofBytes bytes = .ok catalog) :
    ofBytes (Utf8.encode (['\n'].intercalate catalog.texts)) = .ok catalog ∧
      ∀ source, ofBytes source = .ok catalog ↔
        ∃ lines ending, Brings [] catalog.texts lines ∧ (ending = [] ∨ ending = ['\n']) ∧
          source = Utf8.encode (['\n'].intercalate lines ++ ending) := by
  obtain ⟨t, -, hload⟩ := ofBytes_eq_ok_iff.1 h
  have htexts : catalog.texts = (grammarLines t).map Line.text := texts_of_ofText hload
  have hnodup : catalog.texts.Nodup := htexts ▸ nodup_texts_grammarLines t
  have hentry : ∀ text ∈ catalog.texts, IsEntry text := by
    intro text htext
    rw [htexts] at htext
    obtain ⟨line, hline, rfl⟩ := List.mem_map.1 htext
    exact isEntry_of_keeps (mem_grammarLines_iff.1 hline)
  have hloads : ∀ lines ending, Brings [] catalog.texts lines → (ending = [] ∨ ending = ['\n']) →
      ofBytes (Utf8.encode (['\n'].intercalate lines ++ ending)) = .ok catalog := by
    intro lines ending hbrings hending
    refine ofBytes_eq_ok_iff.2 ⟨_, rfl, (ofText_eq_ok_iff_texts hload).2 ?_⟩
    rw [texts_joined (hbrings.lineFeed_notMem hentry) hending, hbrings.foldl_addText hentry hnodup,
      List.nil_append]
  refine ⟨?_, fun source => ⟨fun hsource => ?_, ?_⟩⟩
  · have hplain := hloads catalog.texts [] (brings_self [] catalog.texts) (.inl rfl)
    rwa [List.append_nil] at hplain
  · obtain ⟨s, rfl, hs⟩ := ofBytes_eq_ok_iff.1 hsource
    rw [ofText_eq_ok_iff_texts hload, texts_grammarLines] at hs
    obtain ⟨texts, hbrings, hfold⟩ := exists_brings [] fun line hline => notMem_of_mem_splitOn hline
    rw [hs, List.nil_append] at hfold
    refine ⟨s.splitOn '\n', [], hfold ▸ hbrings, .inl rfl, ?_⟩
    rw [List.append_nil, List.intercalate_splitOn]
  · rintro ⟨lines, ending, hbrings, hending, rfl⟩
    exact hloads lines ending hbrings hending

def remarkedLines : List Text := [
  ofString "# versions before tags",
  ofString "\t<%\x7bPOSINT:facilityCode\x7d>%\x7bPOSINT:version\x7d\u0085",
  [],
  ofString "<%\x7bPOSINT:facilityCode\x7d>%\x7bPOSINT:version\x7d\r",
  ofString "\u00A0 # any tag",
  ofString " <%\x7bPOSINT:facilityCode\x7d>%\x7bNOSPACE:processName\x7d: %\x7bSTRING:message\x7d"]

theorem writtenBack_remarked :
    ofBytes (Utf8.encode taggingText) = .ok tagging ∧ Brings [] tagging.texts remarkedLines ∧
      ofBytes (Utf8.encode (['\n'].intercalate remarkedLines ++ ['\n'])) = .ok tagging := by
  have htagging : ofBytes (Utf8.encode taggingText) = .ok tagging := by decide +kernel
  have hlines : ∀ line ∈ remarkedLines, '\n' ∉ line := by decide
  have hkept : (remarkedLines.map trim).foldl addText [] = tagging.texts := by decide +kernel
  obtain ⟨texts, hbrings, hfold⟩ := exists_brings [] hlines
  obtain rfl : tagging.texts = texts := hkept.symm.trans hfold
  obtain ⟨-, hsource⟩ := writtenBack_iff htagging
  exact ⟨htagging, hbrings, (hsource _).2 ⟨_, _, hbrings, .inr rfl, rfl⟩⟩

end Catalog
end Syslog
