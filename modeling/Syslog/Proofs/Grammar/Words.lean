import Syslog.Proofs.Grammar.Solid

/-!
# Words of a text

Solid segments before a run of blanks read the first word of a text and nothing else. In a word a
token that takes a run of a class ends where the class ends if no later segment starts in the class,
so most groups of segments read a word in one way or not at all.
-/
namespace Syslog
open Text Reader
open scoped Computability

namespace Text

/-- The text does not start with a character of the class. -/
def Stops (p : Char → Bool) (t : Text) : Prop := ∀ c ∈ t.head?, p c = false

instance (p : Char → Bool) (t : Text) : Decidable (Stops p t) :=
  inferInstanceAs (Decidable (∀ c ∈ t.head?, p c = false))

@[simp] lemma stops_nil {p : Char → Bool} : Stops p [] := by simp [Stops]

@[simp] lemma stops_cons {p : Char → Bool} {c : Char} {t : Text} :
    Stops p (c :: t) ↔ p c = false := by simp [Stops]

lemma stops_isBlank {t rest : Text} (hne : t ≠ []) (h : IsSolid t) :
    Stops isBlank (t ++ rest) := by
  cases t with
  | nil => contradiction
  | cons c t => exact stops_cons.2 (h c (by simp))

lemma Stops.of_imp {p q : Char → Bool} {t : Text} (h : Stops p t)
    (himp : ∀ c, q c = true → p c = true) : Stops q t := by
  intro c hc
  have hp := h c hc
  cases hq : q c with
  | false => rfl
  | true => rw [himp c hq] at hp; cases hp

lemma stops_dropWhile (p : Char → Bool) (t : Text) : Stops p (t.dropWhile p) := by
  intro c hc
  have hhead := List.head?_dropWhile_not p t
  rw [Option.mem_def.1 hc] at hhead
  simpa using hhead

lemma takeWhile_append {p : Char → Bool} {run rest : Text} (hrun : ∀ c ∈ run, p c = true)
    (hrest : Stops p rest) : (run ++ rest).takeWhile p = run := by
  rw [List.takeWhile_append_of_pos hrun]
  cases rest with
  | nil => simp
  | cons c rest => simp [stops_cons.1 hrest]

lemma dropWhile_append {p : Char → Bool} {run rest : Text} (hrun : ∀ c ∈ run, p c = true)
    (hrest : Stops p rest) : (run ++ rest).dropWhile p = rest := by
  rw [List.dropWhile_append_of_pos hrun]
  cases rest with
  | nil => rfl
  | cons c rest => exact List.dropWhile_cons_of_neg (by simp [stops_cons.1 hrest])

theorem run_unique {p : Char → Bool} {run rest run' rest' : Text} (hrun : ∀ c ∈ run, p c = true)
    (hrest : Stops p rest) (hrun' : ∀ c ∈ run', p c = true) (hrest' : Stops p rest')
    (h : run ++ rest = run' ++ rest') : run = run' ∧ rest = rest' := by
  have hruns : run = run' := by
    rw [← takeWhile_append hrun hrest, h, takeWhile_append hrun' hrest']
  subst hruns
  exact ⟨rfl, List.append_cancel_left h⟩

end Text

namespace Segment

def isSolid : Segment → Bool
  | literal text => decide (IsSolid text)
  | blanks => false
  | token type _ => type.isSolid

lemma solid_language {segment : Segment} (h : segment.isSolid = true) :
    SolidLanguage segment.language := by
  cases segment with
  | literal text => exact .singleton (of_decide_eq_true h)
  | blanks => cases h
  | token type field => exact type.solid_language h

end Segment

lemma Reads.isSolid {segments : List Segment} {t : Text} {entries : List (String × Text)}
    (h : Reads segments t entries) (hsolid : ∀ segment ∈ segments, segment.isSolid = true) :
    IsSolid t := by
  induction h with
  | nil => exact isSolid_nil
  | cons hpiece _ ih =>
    have hhead := Segment.solid_language (hsolid _ (by simp)) _ hpiece
    exact isSolid_append.2 ⟨hhead, ih fun segment hsegment => hsolid segment (by simp [hsegment])⟩

lemma reads_single {segment : Segment} {t : Text} {entries : List (String × Text)} :
    Reads [segment] t entries ↔ t ∈ segment.language ∧ entries = segment.capture t := by
  simp only [reads_cons, reads_nil]
  constructor
  · rintro ⟨piece, hpiece, _, _, ⟨rfl, rfl⟩, rfl, rfl⟩
    simpa using hpiece
  · rintro ⟨h, rfl⟩
    exact ⟨t, h, [], [], ⟨rfl, rfl⟩, List.append_nil t, List.append_nil _⟩

/-- The segments read no text that starts with a character of the class. -/
def Refuses (p : Char → Bool) (segments : List Segment) : Prop :=
  ∀ t entries, Reads segments t entries → Stops p t

lemma refuses_cons {p : Char → Bool} {segment : Segment} {segments : List Segment}
    (h : ∀ piece ∈ segment.language, piece ≠ [] ∧ Stops p piece) :
    Refuses p (segment :: segments) := by
  intro t entries ht
  obtain ⟨piece, hpiece, rest, later, -, rfl, -⟩ := reads_cons.1 ht
  obtain ⟨hne, hstop⟩ := h piece hpiece
  cases piece with
  | nil => contradiction
  | cons c piece => exact stops_cons.2 (stops_cons.1 hstop)

lemma refuses_blanks (segments : List Segment) :
    Refuses (fun c => !isBlank c) (.blanks :: segments) := by
  apply refuses_cons
  intro piece hpiece
  obtain ⟨hne, hblank⟩ := mem_runOf.1 hpiece
  cases piece with
  | nil => contradiction
  | cons c piece => exact ⟨hne, by simp [hblank c (by simp)]⟩

theorem reads_blanks {segments : List Segment} {rest : Text} (hrest : Stops isBlank rest)
    {entries : List (String × Text)} :
    Reads (.blanks :: segments) (' ' :: rest) entries ↔ Reads segments rest entries := by
  constructor
  · intro h
    obtain ⟨run, hrun, u, later, hu, htext, rfl⟩ := reads_cons.1 h
    obtain ⟨hne, hblank⟩ := mem_runOf.1 hrun
    cases run with
    | nil => contradiction
    | cons c run =>
      obtain ⟨rfl, hends⟩ := List.cons.inj htext
      cases run with
      | nil =>
        obtain rfl : u = rest := hends
        exact hu
      | cons d run =>
        have hstop : isBlank d = false := stops_cons.1 (hends ▸ hrest)
        rw [hblank d (by simp)] at hstop
        cases hstop
  · intro h
    have hspace : [' '] ∈ Segment.blanks.language := mem_runOf.2 ⟨by simp, by decide⟩
    exact .cons hspace h

/-- Solid segments before blanks read the first word of a text. -/
theorem reads_word (first : List Segment) {second : List Segment} {word rest : Text}
    {entries : List (String × Text)} (hfirst : ∀ segment ∈ first, segment.isSolid = true)
    (hword : IsSolid word) (hrest : Stops isBlank rest) :
    Reads (first ++ .blanks :: second) (word ++ ' ' :: rest) entries ↔
      ∃ before after, Reads first word before ∧ Reads second rest after ∧
        entries = before ++ after := by
  rw [reads_append]
  constructor
  · rintro ⟨s, u, before, after, hs, hu, htext, rfl⟩
    obtain ⟨rfl, rfl⟩ := run_unique (isSolid_iff.1 (hs.isSolid hfirst))
      (refuses_blanks second u after hu) (isSolid_iff.1 hword) (stops_cons.2 (by decide)) htext
    exact ⟨before, after, hs, (reads_blanks hrest).1 hu, rfl⟩
  · rintro ⟨before, after, hbefore, hafter, rfl⟩
    exact ⟨word, ' ' :: rest, before, after, hbefore, (reads_blanks hrest).2 hafter, rfl, rfl⟩

lemma refuses_literal {p : Char → Bool} {c : Char} {l : Text} {segments : List Segment}
    (h : p c = false) : Refuses p (.literal (c :: l) :: segments) := by
  apply refuses_cons
  rintro _ rfl
  exact ⟨by simp, stops_cons.2 h⟩

lemma reads_literal {l t : Text} {segments : List Segment} {entries : List (String × Text)} :
    Reads (.literal l :: segments) (l ++ t) entries ↔ Reads segments t entries := by
  rw [reads_cons]
  constructor
  · rintro ⟨_, rfl, rest, later, h, heq, rfl⟩
    rwa [← List.append_cancel_left heq]
  · intro h
    exact ⟨l, rfl, t, entries, h, rfl, rfl⟩

/-- A token that takes a run of a class takes all of it if nothing later starts in the class. -/
theorem reads_run {p : Char → Bool} {type : Token} (htype : type.language = runOf p)
    {field : Option String} {segments : List Segment} (hsegments : Refuses p segments)
    {run rest : Text} (hne : run ≠ []) (hrun : ∀ c ∈ run, p c = true) (hrest : Stops p rest)
    {entries : List (String × Text)} :
    Reads (.token type field :: segments) (run ++ rest) entries ↔
      ∃ later, Reads segments rest later ∧
        entries = (Segment.token type field).capture run ++ later := by
  rw [reads_cons]
  constructor
  · rintro ⟨piece, hpiece, u, later, hu, heq, rfl⟩
    rw [Segment.language, htype, mem_runOf] at hpiece
    obtain ⟨rfl, rfl⟩ := run_unique hpiece.2 (hsegments u later hu) hrun hrest heq
    exact ⟨later, hu, rfl⟩
  · rintro ⟨later, hlater, rfl⟩
    refine ⟨run, ?_, rest, later, hlater, rfl, rfl⟩
    rw [Segment.language, htype, mem_runOf]
    exact ⟨hne, hrun⟩

theorem refuses_run {p : Char → Bool} {type : Token} (htype : type.language = runOf p)
    {field : Option String} {segments : List Segment} :
    Refuses (fun c => !p c) (.token type field :: segments) := by
  apply refuses_cons
  intro piece hpiece
  rw [Segment.language, htype, mem_runOf] at hpiece
  obtain ⟨hne, hpiece⟩ := hpiece
  cases piece with
  | nil => contradiction
  | cons c piece => exact ⟨hne, by simp [hpiece c (by simp)]⟩

theorem Reads.names {segments : List Segment} {t : Text} {entries : List (String × Text)}
    (h : Reads segments t entries) : entries.map Prod.fst = segments.filterMap Segment.field? := by
  induction h with
  | nil => rfl
  | @cons segment segments piece rest entries _ _ ih =>
    rw [List.map_append, ih, Segment.capture, List.filterMap_cons]
    cases segment.field? <;> rfl

theorem Reads.mem_of_literal {segments : List Segment} {t : Text} {entries : List (String × Text)}
    (h : Reads segments t entries) {l : Text} (hl : .literal l ∈ segments) {c : Char}
    (hc : c ∈ l) : c ∈ t := by
  induction h with
  | nil => cases hl
  | cons hpiece _ ih =>
    rcases List.mem_cons.1 hl with rfl | hl
    · rw [Segment.language, mem_singleton] at hpiece
      rw [hpiece]
      exact List.mem_append_left _ hc
    · exact List.mem_append_right _ (ih hl)

lemma Reads.exists_mem_of_token {segments : List Segment} {t : Text}
    {entries : List (String × Text)} (h : Reads segments t entries) {type : Token} {name : String}
    (hmem : .token type (some name) ∈ segments) :
    ∃ value ∈ type.language, (name, value) ∈ entries := by
  induction h with
  | nil => cases hmem
  | @cons segment segments piece rest entries member _ ih =>
    rcases List.mem_cons.1 hmem with rfl | hmem
    · exact ⟨piece, member, List.mem_append_left _ (by simp [Segment.capture, Segment.field?])⟩
    · obtain ⟨value, hvalue, hentry⟩ := ih hmem
      exact ⟨value, hvalue, List.mem_append_right _ hentry⟩

end Syslog
