import Syslog.Proofs.Grammar.Preference
import Syslog.Proofs.Grammar.StructuredData

/-!
# Scanning structured data

A scanner finds structured data in one pass from left to right. It needs no second try: where blanks
follow, or nothing, there is no other way to cut the text.
-/
namespace Syslog
open Text
open scoped Computability

namespace Token

/-- Where a scanner of elements stands: between two of them, in one, or in double quotes in one. In
an element and in quotes it may stand right after a backslash. -/
inductive ScanState where
  | between
  | element
  | escaped
  | quoted
  | quotedEscape
  deriving DecidableEq, Repr

/-- Reads one character. An element begins with an opening bracket and ends with a closing one,
unless this comes after a backslash or in quotes. -/
def ScanState.next? : ScanState → Char → Option ScanState
  | between, c => if c = '[' then some element else none
  | element, c => some <|
    if c = ']' then between else if c = '\\' then escaped else if c = '"' then quoted else element
  | escaped, _ => some element
  | quoted, c => some <| if c = '"' then element else if c = '\\' then quotedEscape else quoted
  | quotedEscape, _ => some quoted

/-- The elements at the start of a text and what follows them. The scan goes on as long as another
element begins; it fails in an element that does not end. -/
def scanElements? : ScanState → Text → Option (Text × Text)
  | state, [] => if state = .between then some ([], []) else none
  | state, c :: t =>
    match state.next? c with
    | none => some ([], c :: t)
    | some next => (scanElements? next t).map fun (s, rest) => (c :: s, rest)

def scanStructuredData? : Text → Option (Text × Text)
  | '-' :: t => some (['-'], t)
  | '[' :: t => scanElements? .between ('[' :: t)
  | _ => none

def ScanState.language : ScanState → Language Char
  | between => dataElement∗
  | element => ElementState.element.language
  | escaped => Reader.oneOf (fun _ => true) * ElementState.element.language
  | quoted => ElementState.quoted.language
  | quotedEscape => Reader.oneOf (fun _ => true) * ElementState.quoted.language

namespace ScanState

lemma nil_mem_language_iff {state : ScanState} : [] ∈ state.language ↔ state = between := by
  cases state with
  | between => simp [language, Language.nil_mem_kstar]
  | element => simp [language, ElementState.nil_notMem]
  | escaped => simp [language, Reader.nil_notMem_oneOf_mul]
  | quoted => simp [language, ElementState.nil_notMem]
  | quotedEscape => simp [language, Reader.nil_notMem_oneOf_mul]

lemma mem_any_mul {l : Language Char} {t : Text} :
    t ∈ Reader.oneOf (fun _ => true) * l ↔ ∃ d s, t = d :: s ∧ s ∈ l := by
  cases t with
  | nil => simp [Reader.nil_notMem_oneOf_mul]
  | cons d t => simp [Reader.cons_mem_oneOf_mul]

/-- What may be scanned after a character is what may follow it in the state before. -/
theorem cons_mem_language_iff {state : ScanState} {c : Char} {t : Text} :
    c :: t ∈ state.language ↔ ∃ next ∈ state.next? c, t ∈ next.language := by
  cases state with
  | between => simp [language, next?, mem_dataElements, cons_mem_between]
  | element =>
    by_cases hbracket : c = ']'
    · simp [language, next?, cons_mem_element, hbracket]
    · by_cases hescape : c = '\\'
      · simp [language, next?, cons_mem_element, hescape, mem_any_mul]
      · by_cases hquote : c = '"' <;>
          simp [language, next?, cons_mem_element, hbracket, hescape, hquote]
  | escaped => simp [language, next?, Reader.cons_mem_oneOf_mul]
  | quoted =>
    by_cases hquote : c = '"'
    · simp [language, next?, cons_mem_quoted, hquote]
    · by_cases hescape : c = '\\' <;>
        simp [language, next?, cons_mem_quoted, hquote, hescape, mem_any_mul]
  | quotedEscape => simp [language, next?, Reader.cons_mem_oneOf_mul]

lemma next?_eq_none_iff {state : ScanState} {c : Char} :
    state.next? c = none ↔ state = between ∧ c ≠ '[' := by
  cases state <;> simp [next?]

end ScanState

/-- The scanner finds the words of its state after which no other element begins. -/
theorem scanElements?_eq_some_iff {state : ScanState} {t s rest : Text} :
    scanElements? state t = some (s, rest) ↔
      s ∈ state.language ∧ s ++ rest = t ∧ Stops isOpening rest := by
  induction t generalizing state s with
  | nil =>
    rw [List.append_eq_nil_iff, scanElements?]
    constructor
    · intro h
      split at h
      · next hstate =>
        obtain ⟨rfl, rfl⟩ := Prod.mk.inj (Option.some.inj h)
        exact ⟨ScanState.nil_mem_language_iff.2 hstate, ⟨rfl, rfl⟩, stops_nil⟩
      · cases h
    · rintro ⟨hs, ⟨rfl, rfl⟩, -⟩
      rw [if_pos (ScanState.nil_mem_language_iff.1 hs)]
  | cons c t ih =>
    rw [scanElements?]
    cases hnext : state.next? c with
    | none =>
      obtain ⟨hstate, hc⟩ := ScanState.next?_eq_none_iff.1 hnext
      constructor
      · intro h
        obtain ⟨rfl, rfl⟩ := Prod.mk.inj (Option.some.inj h)
        exact ⟨ScanState.nil_mem_language_iff.2 hstate, rfl, stops_cons.2 (by simpa [isOpening])⟩
      · rintro ⟨hs, htext, -⟩
        cases s with
        | nil => rw [← htext]; rfl
        | cons d s =>
          obtain ⟨rfl, -⟩ := List.cons.inj htext
          obtain ⟨next, hmem, -⟩ := ScanState.cons_mem_language_iff.1 hs
          rw [hnext] at hmem
          cases hmem
    | some next =>
      simp only [Option.map_eq_some_iff, Prod.mk.injEq, Prod.exists]
      constructor
      · rintro ⟨later, _, hscan, rfl, rfl⟩
        obtain ⟨hlater, rfl, hrest⟩ := ih.1 hscan
        exact ⟨ScanState.cons_mem_language_iff.2 ⟨next, hnext, hlater⟩, rfl, hrest⟩
      · rintro ⟨hs, htext, hrest⟩
        cases s with
        | nil =>
          have hstate := ScanState.nil_mem_language_iff.1 hs
          have hc : c ≠ '[' := by
            rintro rfl
            rw [show rest = '[' :: t from htext] at hrest
            simp [isOpening] at hrest
          rw [ScanState.next?_eq_none_iff.2 ⟨hstate, hc⟩] at hnext
          cases hnext
        | cons d s =>
          obtain ⟨rfl, rfl⟩ := List.cons.inj htext
          obtain ⟨other, hmem, hlater⟩ := ScanState.cons_mem_language_iff.1 hs
          obtain rfl := Option.some.inj (hnext.symm.trans hmem)
          exact ⟨s, rest, ih.2 ⟨hlater, rfl, hrest⟩, rfl, rfl⟩

lemma exists_of_between {s : Text} (h : s ∈ ElementState.between.language) : ∃ t, s = '[' :: t := by
  cases s with
  | nil => exact absurd h (ElementState.nil_notMem _)
  | cons c s => exact ⟨s, by rw [(cons_mem_between.1 h).1]⟩

theorem scanStructuredData?_eq_some_iff {t s rest : Text} (hrest : Stops isOpening rest) :
    scanStructuredData? t = some (s, rest) ↔ s ∈ structuredData.language ∧ s ++ rest = t := by
  have hlanguage : s ∈ structuredData.language ↔ s = ['-'] ∨ s ∈ ElementState.between.language :=
    Iff.rfl
  rw [hlanguage, scanStructuredData?.eq_def]
  split
  · next t =>
    rw [Option.some.injEq, Prod.mk.injEq]
    constructor
    · rintro ⟨rfl, rfl⟩
      exact ⟨.inl rfl, rfl⟩
    · rintro ⟨rfl | hs, htext⟩
      · exact ⟨rfl, (List.cons.inj htext).2.symm⟩
      · obtain ⟨u, rfl⟩ := exists_of_between hs
        cases (List.cons.inj htext).1
  · next t =>
    rw [scanElements?_eq_some_iff, ScanState.language, mem_dataElements]
    constructor
    · rintro ⟨rfl | hs, htext, -⟩
      · rw [show rest = '[' :: t from htext] at hrest
        simp [isOpening] at hrest
      · exact ⟨.inr hs, htext⟩
    · rintro ⟨rfl | hs, htext⟩
      · cases (List.cons.inj htext).1
      · exact ⟨.inr hs, htext, hrest⟩
  · next hhyphen hopening =>
    constructor
    · intro h
      cases h
    · rintro ⟨rfl | hs, htext⟩
      · exact absurd htext.symm (hhyphen rest)
      · obtain ⟨u, rfl⟩ := exists_of_between hs
        exact absurd htext.symm (hopening (u ++ rest))

end Token

structure StartsWithData (t s rest : Text) : Prop where
  member : s ∈ Token.structuredData.language
  text : s ++ rest = t
  ends : ∀ c ∈ rest.head?, isBlank c = true

lemma stops_isOpening {rest : Text} (h : ∀ c ∈ rest.head?, isBlank c = true) :
    Stops Token.isOpening rest := by
  intro c hc
  have hblank := h c hc
  rw [Token.isOpening, beq_eq_false_iff_ne]
  rintro rfl
  cases hblank

theorem startsWithData_iff {t s rest : Text} :
    StartsWithData t s rest ↔
      Token.scanStructuredData? t = some (s, rest) ∧ ∀ c ∈ rest.head?, isBlank c = true := by
  constructor
  · intro h
    have hstops := stops_isOpening h.ends
    exact ⟨(Token.scanStructuredData?_eq_some_iff hstops).2 ⟨h.member, h.text⟩, h.ends⟩
  · rintro ⟨hscan, hends⟩
    obtain ⟨hs, htext⟩ := (Token.scanStructuredData?_eq_some_iff (stops_isOpening hends)).1 hscan
    exact ⟨hs, htext, hends⟩

lemma StartsWithData.unique {t s s' rest rest' : Text} (h : StartsWithData t s rest)
    (h' : StartsWithData t s' rest') : s = s' ∧ rest = rest' := by
  have hscan := (startsWithData_iff.1 h).1
  rw [(startsWithData_iff.1 h').1, Option.some.injEq, Prod.mk.injEq] at hscan
  exact ⟨hscan.1.symm, hscan.2.symm⟩

/-- A run of blanks with something else after it. -/
structure IsGap (run message : Text) : Prop where
  ne_nil : run ≠ []
  blank : ∀ c ∈ run, isBlank c = true
  stops : Stops isBlank message

lemma IsGap.isBlank_of_mem_head? {run message : Text} (h : IsGap run message) :
    ∀ c ∈ (run ++ message).head?, isBlank c = true := by
  intro c hc
  rw [List.head?_append_of_ne_nil run h.ne_nil] at hc
  exact h.blank c (List.mem_of_mem_head? hc)

section Message

variable {field data : Option String} {t : Text} {pieces : List Text}

lemma cuts_gap_iff :
    Cuts [.blanks, .token .string field] t pieces ↔
      ∃ run message, run ≠ [] ∧ (∀ c ∈ run, isBlank c = true) ∧ run ++ message = t ∧
        pieces = [run, message] := by
  have hany : ∀ message : Text, message ∈ (Segment.token .string field).language := fun message =>
    Reader.mem_kstar_oneOf.2 fun _ _ => rfl
  simp only [cuts_cons, cuts_nil]
  constructor
  · rintro ⟨run, hrun, _, _, ⟨message, -, _, _, ⟨rfl, rfl⟩, rfl, rfl⟩, rfl, rfl⟩
    obtain ⟨hne, hblank⟩ := Reader.mem_runOf.1 hrun
    exact ⟨run, message, hne, hblank, by rw [List.append_nil], rfl⟩
  · rintro ⟨run, message, hne, hblank, rfl, rfl⟩
    exact ⟨run, Reader.mem_runOf.2 ⟨hne, hblank⟩, message, [message],
      ⟨message, hany message, [], [], ⟨rfl, rfl⟩, List.append_nil message, rfl⟩, rfl, rfl⟩

lemma isOrdered_gap : ∀ segment ∈ [Segment.blanks, .token .string field], segment.IsOrdered := by
  intro segment hsegment
  apply Segment.isOrdered
  rcases List.mem_cons.1 hsegment with rfl | hsegment
  · simp [Segment.type?]
  · rw [List.mem_singleton.1 hsegment]
    simp [Segment.type?, Token.runTypes]

theorem exists_gap_of_cut? (h : cut? [.blanks, .token .string field] t = some pieces) :
    ∃ run message, IsGap run message ∧ run ++ message = t ∧ pieces = [run, message] := by
  have hpreferred := preferred_of_cut? isOrdered_gap h
  obtain ⟨run, message, hne, hblank, rfl, rfl⟩ := cuts_gap_iff.1 hpreferred.cuts
  refine ⟨run, message, ⟨hne, hblank, fun c hc => ?_⟩, rfl, rfl⟩
  obtain ⟨later, rfl⟩ := List.head?_eq_some_iff.1 (Option.mem_def.1 hc)
  by_contra hlater
  rw [Bool.not_eq_false] at hlater
  have hother : Cuts [.blanks, .token .string field] (run ++ c :: later) [run ++ [c], later] := by
    refine cuts_gap_iff.2 ⟨run ++ [c], later, by simp, fun d hd => ?_, by simp, rfl⟩
    rcases List.mem_append.1 hd with hd | hd
    · exact hblank d hd
    · rwa [List.mem_singleton.1 hd]
  rcases precedes_cons_iff.1 (hpreferred.precedes _ hother (by simp)) with hprefers | ⟨hsame, -⟩
  · have hlength : (run ++ [c]).length < run.length := hprefers
    rw [List.length_append] at hlength
    omega
  · simp at hsame

theorem cut?_message_iff :
    cut? [.token .structuredData data, .blanks, .token .string field] t = some pieces ↔
      ∃ s run message, Token.scanStructuredData? t = some (s, run ++ message) ∧ IsGap run message ∧
        pieces = [s, run, message] := by
  have hforward : ∀ {pieces},
      cut? [.token .structuredData data, .blanks, .token .string field] t = some pieces →
      ∃ s run message, Token.scanStructuredData? t = some (s, run ++ message) ∧ IsGap run message ∧
        pieces = [s, run, message] := by
    intro pieces h
    obtain ⟨piece, rest, later, rfl, hrest, hlater, rfl⟩ := cut?_cons_eq_some h
    obtain ⟨s, hs, htext⟩ := (Segment.takes_reader _ _ _).1 hrest
    obtain rfl := List.append_cancel_right htext
    obtain ⟨run, message, hgap, rfl, rfl⟩ := exists_gap_of_cut? hlater
    refine ⟨s, run, message, ?_, hgap, rfl⟩
    exact (startsWithData_iff.1 ⟨hs, rfl, hgap.isBlank_of_mem_head?⟩).1
  refine ⟨hforward, ?_⟩
  rintro ⟨s, run, message, hscan, hgap, rfl⟩
  have hdata := startsWithData_iff.2 ⟨hscan, hgap.isBlank_of_mem_head?⟩
  have hcuts : Cuts [.blanks, .token .string field] (run ++ message) [run, message] :=
    cuts_gap_iff.2 ⟨run, message, hgap.ne_nil, hgap.blank, rfl, rfl⟩
  have hmember : s ∈ (Segment.token .structuredData data).language := hdata.member
  obtain ⟨pieces, hpieces⟩ := Option.isSome_iff_exists.1 (isSome_cut?_iff.2 ⟨_, hcuts.cons hmember⟩)
  rw [hdata.text] at hpieces
  obtain ⟨s', run', message', hscan', hgap', rfl⟩ := hforward hpieces
  obtain ⟨rfl, hrest⟩ := Prod.mk.inj (Option.some.inj (hscan.symm.trans hscan'))
  obtain ⟨rfl, rfl⟩ := run_unique hgap.blank hgap.stops hgap'.blank hgap'.stops hrest
  exact hpieces

end Message

namespace Grammar

def dataGrammar (index : ℕ) : Grammar where
  index := index
  text := ofString "%\x7bSDATA:structuredData\x7d"
  segments := [.token .structuredData (some "structuredData")]

def dataMessageGrammar (index : ℕ) : Grammar where
  index := index
  text := ofString "%\x7bSDATA:structuredData\x7d %\x7bSTRING:message\x7d"
  segments := [
    .token .structuredData (some "structuredData"), .blanks, .token .string (some "message")]

lemma ofText_dataGrammar (index : ℕ) :
    ofText index (ofString "%\x7bSDATA:structuredData\x7d") = .ok (dataGrammar index) :=
  ofText_of_readSegments (by decide +kernel) index

lemma ofText_dataMessageGrammar (index : ℕ) :
    ofText index (ofString "%\x7bSDATA:structuredData\x7d %\x7bSTRING:message\x7d") =
      .ok (dataMessageGrammar index) :=
  ofText_of_readSegments (by decide +kernel) index

lemma fieldsOf?_dataMessageGrammar {index : ℕ} {t : Text} {fields : Fields} :
    (dataMessageGrammar index).fieldsOf? t = some fields ↔
      ∃ s run message, Token.scanStructuredData? t = some (s, run ++ message) ∧ IsGap run message ∧
        fields = .ofList [("structuredData", s), ("message", message)] := by
  rw [fieldsOf?_eq_map, Option.map_eq_some_iff]
  constructor
  · rintro ⟨pieces, hpieces, rfl⟩
    obtain ⟨s, run, message, hscan, hgap, rfl⟩ := cut?_message_iff.1 hpieces
    exact ⟨s, run, message, hscan, hgap, rfl⟩
  · rintro ⟨s, run, message, hscan, hgap, rfl⟩
    exact ⟨[s, run, message], cut?_message_iff.2 ⟨s, run, message, hscan, hgap, rfl⟩, rfl⟩

lemma startsWithData_of_dataGrammar {index : ℕ} {t : Text}
    (h : ((dataGrammar index).fieldsOf? t).isSome = true) : StartsWithData t t [] := by
  obtain ⟨entries, hreads⟩ := isSome_fieldsOf?_iff.1 h
  exact ⟨(reads_single.1 hreads).1, List.append_nil t, by simp⟩

/-- In every text the scanner finds the only structured data that ends with blanks or the text. So a
grammar of structured data and a message takes what the scanner finds and what follows the blanks
after it, and structured data alone does not make up such a text. -/
theorem structuredData_scanned (index : ℕ) :
    ofText index (ofString "%\x7bSDATA:structuredData\x7d %\x7bSTRING:message\x7d") =
        .ok (dataMessageGrammar index) ∧
      ofText index (ofString "%\x7bSDATA:structuredData\x7d") = .ok (dataGrammar index) ∧
      ∀ t : Text,
        {s | ∃ rest, StartsWithData t s rest}.Subsingleton ∧
        (∀ s rest, StartsWithData t s rest ↔
          Token.scanStructuredData? t = some (s, rest) ∧ ∀ c ∈ rest.head?, isBlank c = true) ∧
        (∀ fields, (dataMessageGrammar index).fieldsOf? t = some fields ↔
          ∃ s run message, Token.scanStructuredData? t = some (s, run ++ message) ∧
            IsGap run message ∧
            fields = .ofList [("structuredData", s), ("message", message)]) ∧
        ¬ (((dataMessageGrammar index).fieldsOf? t).isSome = true ∧
          ((dataGrammar index).fieldsOf? t).isSome = true) := by
  refine ⟨ofText_dataMessageGrammar index, ofText_dataGrammar index, fun t => ?_⟩
  refine ⟨?_, fun s rest => startsWithData_iff, fun fields => fieldsOf?_dataMessageGrammar, ?_⟩
  · rintro s ⟨rest, hs⟩ s' ⟨rest', hs'⟩
    exact (hs.unique hs').1
  · rintro ⟨hwhole, halone⟩
    obtain ⟨fields, hfields⟩ := Option.isSome_iff_exists.1 hwhole
    obtain ⟨s, run, message, hscan, hgap, -⟩ := fieldsOf?_dataMessageGrammar.1 hfields
    have hdata := startsWithData_iff.2 ⟨hscan, hgap.isBlank_of_mem_head?⟩
    have hrest := (hdata.unique (startsWithData_of_dataGrammar halone)).2
    exact hgap.ne_nil (List.append_eq_nil_iff.1 hrest).1

/-- A bracket in quotes and an escaped one do not end the element. -/
example : (dataMessageGrammar 0).fieldsOf? (ofString "[a x=\"]\" \\] ][b]  c [d]") =
    some ⟨[("structuredData", ofString "[a x=\"]\" \\] ][b]"), ("message", ofString "c [d]")]⟩ := by
  decide +kernel

end Grammar
end Syslog
