import Syslog.Proofs.SourceMarker.Rejoining

/-!
# Decomposition at the markers

Read from left to right, a text comes apart at its markers in one way only: each marker is the first
one of what is left, its value goes on to the next blank, and the blanks after the value go with it.
What is removed, and what a sweep that takes out one marker after another ends with, is read off the
parts.
-/
namespace Syslog.SourceMarker
open Text

/-- The piece stands before the first marker of the text. -/
structure IsBeforeFirst (piece t : Text) : Prop where
  marked : piece ++ marker <+: t
  first : ∀ other, other ++ marker <+: t → piece.length ≤ other.length

/-- The text starts with the run, and with no longer one of characters of the class. -/
structure IsLongestRun (p : Char → Bool) (run t : Text) : Prop where
  starts : run <+: t
  within : ∀ c ∈ run, p c = true
  longest : ∀ other, other <+: t → (∀ c ∈ other, p c = true) → other.length ≤ run.length

/-- The parts of a text: a piece, a marker, its value and blanks, and so on to the last piece. -/
inductive Decomposition where
  | last (piece : Text)
  | mark (piece value blanks : Text) (rest : Decomposition)
  deriving DecidableEq, Repr

namespace Decomposition

def text : Decomposition → Text
  | last piece => piece
  | mark piece value blanks rest => piece ++ marker ++ (value ++ (blanks ++ rest.text))

def pieces : Decomposition → List Text
  | last piece => [piece]
  | mark piece _ _ rest => piece :: rest.pieces

def values : Decomposition → List Text
  | last _ => []
  | mark _ value _ rest => value :: rest.values

/-- Each marker is the first of what is left, and value and blanks go as far as they can. -/
def IsLeftmost : Decomposition → Prop
  | last piece => ¬ marker <:+: piece
  | mark piece value blanks rest =>
    IsBeforeFirst piece (mark piece value blanks rest).text ∧
      IsLongestRun (fun c => !isBlank c) value (value ++ (blanks ++ rest.text)) ∧
      IsLongestRun isBlank blanks (blanks ++ rest.text) ∧ rest.IsLeftmost

end Decomposition

/-- What a pass over the text has kept and found so far, and what is left of the text. -/
structure Sweep where
  kept : Text
  address : Option Text
  rest : Text
  deriving DecidableEq, Repr

namespace Sweep

def start (t : Text) : Sweep := ⟨[], none, t⟩

/-- One pass takes out the first marker of what is left, and there is none if nothing is marked. -/
def next? (sweep : Sweep) : Option Sweep :=
  match breakAt? marker sweep.rest with
  | none => none
  | some (before, after) =>
    let value := after.takeWhile fun c => !isBlank c
    some {
      kept := sweep.kept ++ before
      address := if sweep.address = none ∧ value ≠ [] then some value else sweep.address
      rest := trimStart isBlank (after.dropWhile fun c => !isBlank c) }

/-- After so many passes there is none left to make. -/
inductive Ends : ℕ → Sweep → Sweep → Prop where
  | done {sweep : Sweep} (hnext : sweep.next? = none) : Ends 0 sweep sweep
  | pass {n : ℕ} {sweep later last : Sweep} (hnext : sweep.next? = some later)
      (hends : Ends n later last) : Ends (n + 1) sweep last

end Sweep

variable {p : Char → Bool} {t piece value blanks run rest : Text} {d other : Decomposition}

/-! ## Single markers -/

lemma isLongestRun_append_iff :
    IsLongestRun p run (run ++ rest) ↔ (∀ c ∈ run, p c = true) ∧ Stops p rest := by
  constructor
  · intro h
    refine ⟨h.within, ?_⟩
    cases rest with
    | nil => exact stops_nil
    | cons c rest =>
      rw [stops_cons, ← Bool.not_eq_true]
      intro hc
      -- the run and one character more would be longer
      have hlonger := h.longest (run ++ [c]) ⟨rest, by simp⟩ fun c' hc' => by
        rcases List.mem_append.1 hc' with hrun | hlast
        · exact h.within c' hrun
        · rwa [List.mem_singleton.1 hlast]
      rw [List.length_append, List.length_singleton] at hlonger
      omega
  · rintro ⟨hwithin, hstops⟩
    refine ⟨List.prefix_append .., hwithin, fun other hother hall => ?_⟩
    by_contra! hlt
    -- the longer run would have the character where the rest starts
    obtain ⟨more, rfl⟩ := List.prefix_of_prefix_length_le (List.prefix_append ..) hother hlt.le
    cases more with
    | nil => simp at hlt
    | cons c more =>
      obtain ⟨later, rfl⟩ := (List.prefix_append_right_inj run).1 hother
      have hc : p c = true := hall c (by simp)
      rw [List.cons_append, stops_cons, hc] at hstops
      cases hstops

lemma eq_of_prefix {s s' : Text} (h : s <+: t) (h' : s' <+: t) (hle : s.length ≤ s'.length)
    (hge : s'.length ≤ s.length) : s = s' :=
  (List.prefix_of_prefix_length_le h h' hle).eq_of_length (Nat.le_antisymm hle hge)

lemma IsBeforeFirst.unique {piece' : Text} (h : IsBeforeFirst piece t)
    (h' : IsBeforeFirst piece' t) : piece = piece' := by
  apply eq_of_prefix ((List.prefix_append ..).trans h.marked)
    ((List.prefix_append ..).trans h'.marked)
  · exact h.first piece' h'.marked
  · exact h'.first piece h.marked

lemma IsLongestRun.unique {run' : Text} (h : IsLongestRun p run t) (h' : IsLongestRun p run' t) :
    run = run' := by
  apply eq_of_prefix h.starts h'.starts
  · exact h'.longest run h.starts h.within
  · exact h.longest run' h'.starts h'.within

lemma isBeforeFirst_append_iff :
    IsBeforeFirst piece (piece ++ marker ++ rest) ↔ ¬ marker <:+: piece ++ marker.dropLast := by
  have hmarker : marker.length = 15 := by decide
  have hlast : marker.dropLast.length = 14 := by decide
  have hsplit : marker.dropLast ++ ['='] = marker := by decide
  constructor
  · rintro ⟨-, hfirst⟩ ⟨before, after, hwithin⟩
    have hle : piece.length ≤ before.length := by
      apply hfirst
      refine ⟨after ++ '=' :: rest, ?_⟩
      rw [← List.append_assoc, hwithin, ← hsplit]
      simp
    have hlength := congrArg List.length hwithin
    simp only [List.length_append] at hlength
    omega
  · intro hfree
    refine ⟨List.prefix_append .., fun other hother => ?_⟩
    by_contra! hlt
    apply hfree
    -- an earlier marker ends before the last character of this one
    have hstart : piece ++ marker.dropLast <+: piece ++ marker ++ rest :=
      ⟨'=' :: rest, by nth_rewrite 2 [← hsplit]; simp⟩
    have hprefix : other ++ marker <+: piece ++ marker.dropLast := by
      apply List.prefix_of_prefix_length_le hother hstart
      simp only [List.length_append]
      omega
    exact (List.infix_append' other marker []).trans (by simpa using hprefix.isInfix)

/-! ## Whole texts -/

namespace Decomposition

lemma IsLeftmost.cut (h : d.IsLeftmost) : Cut d.text d.pieces d.values := by
  induction d with
  | last piece => exact .free h
  | mark piece value blanks rest ih =>
    obtain ⟨hfirst, hvalue, hblanks, hrest⟩ := h
    obtain ⟨hsolid, hstart⟩ := isLongestRun_append_iff.1 hvalue
    obtain ⟨hblank, hstop⟩ := isLongestRun_append_iff.1 hblanks
    exact .cons (isBeforeFirst_append_iff.1 hfirst) (isSolid_iff.2 hsolid) hblank hstart hstop
      (ih hrest)

lemma exists_of_cut {pieces values : List Text} (h : Cut t pieces values) :
    ∃ d : Decomposition, d.text = t ∧ d.IsLeftmost := by
  induction h with
  | @free t hfree => exact ⟨last t, rfl, hfree⟩
  | @cons before value blanks rest pieces values hfirst hvalue hblanks hstart hrest _ ih =>
    obtain ⟨d, rfl, hleftmost⟩ := ih
    exact ⟨mark before value blanks d, rfl, isBeforeFirst_append_iff.2 hfirst,
      isLongestRun_append_iff.2 ⟨isSolid_iff.1 hvalue, hstart⟩,
      isLongestRun_append_iff.2 ⟨hblanks, hrest⟩, hleftmost⟩

/-- There is one way only to take a text apart from left to right. -/
theorem IsLeftmost.unique (h : d.IsLeftmost) (hother : other.IsLeftmost)
    (htext : d.text = other.text) : d = other := by
  induction d generalizing other with
  | last piece =>
    cases other with
    | last piece' => exact congrArg last htext
    | mark piece' value' blanks' rest' =>
      exact absurd ⟨piece', value' ++ (blanks' ++ rest'.text), htext.symm⟩ h
  | mark piece value blanks rest ih =>
    cases other with
    | last piece' => exact absurd ⟨piece, value ++ (blanks ++ rest.text), htext⟩ hother
    | mark piece' value' blanks' rest' =>
      obtain ⟨hfirst, hvalue, hblanks, hrest⟩ := h
      obtain ⟨hfirst', hvalue', hblanks', hrest'⟩ := hother
      obtain rfl : piece = piece' := hfirst.unique (htext ▸ hfirst')
      have hafter : value ++ (blanks ++ rest.text) = value' ++ (blanks' ++ rest'.text) :=
        List.append_cancel_left htext
      obtain rfl : value = value' := hvalue.unique (hafter ▸ hvalue')
      have hlater : blanks ++ rest.text = blanks' ++ rest'.text := List.append_cancel_left hafter
      obtain rfl : blanks = blanks' := hblanks.unique (hlater ▸ hblanks')
      rw [ih hrest hrest' (List.append_cancel_left hlater)]

end Decomposition

/-! ## The sweep -/

namespace Sweep

lemma next?_of_free {sweep : Sweep} (h : ¬ marker <:+: sweep.rest) : sweep.next? = none := by
  have hnone : breakAt? marker sweep.rest = none := breakFrom?_eq_none_iff.2 h
  rw [next?, hnone]

lemma next?_mark {kept : Text} {address : Option Text}
    (hfirst : IsBeforeFirst piece (piece ++ marker ++ (value ++ (blanks ++ rest))))
    (hvalue : IsLongestRun (fun c => !isBlank c) value (value ++ (blanks ++ rest)))
    (hblanks : IsLongestRun isBlank blanks (blanks ++ rest)) :
    next? ⟨kept, address, piece ++ marker ++ (value ++ (blanks ++ rest))⟩ =
      some ⟨kept ++ piece, address.or ([value].find? (· ≠ [])), rest⟩ := by
  obtain ⟨hsolid, hstart⟩ := isLongestRun_append_iff.1 hvalue
  obtain ⟨hblank, hstop⟩ := isLongestRun_append_iff.1 hblanks
  have hbreak : breakAt? marker (piece ++ marker ++ (value ++ (blanks ++ rest))) =
      some (piece, value ++ (blanks ++ rest)) :=
    (breakAt?_eq_some_iff marker_ne_nil).2 ⟨rfl, isBeforeFirst_append_iff.1 hfirst⟩
  have htrim : trimStart isBlank (blanks ++ rest) = rest := dropWhile_append hblank hstop
  rw [next?, hbreak]
  simp only [takeWhile_append hsolid hstart, dropWhile_append hsolid hstart, htrim]
  cases address with
  | none => by_cases hempty : value = [] <;> simp [hempty]
  | some address => simp

/-- There is one pass for each marker, and the sweep ends with the parts of the text. -/
theorem ends_of_isLeftmost (h : d.IsLeftmost) (kept : Text) (address : Option Text) :
    ∃ last, Ends d.values.length ⟨kept, address, d.text⟩ last ∧
      last.kept ++ last.rest = kept ++ d.pieces.flatten ∧
      last.address = address.or (d.values.find? (· ≠ [])) := by
  induction d generalizing kept address with
  | last piece =>
    refine ⟨⟨kept, address, piece⟩, .done (next?_of_free h), ?_, ?_⟩
    · simp [Decomposition.pieces]
    · simp [Decomposition.values]
  | mark piece value blanks rest ih =>
    obtain ⟨hfirst, hvalue, hblanks, hrest⟩ := h
    obtain ⟨last, hends, hkept, haddress⟩ :=
      ih hrest (kept ++ piece) (address.or ([value].find? (· ≠ [])))
    refine ⟨last, .pass (next?_mark hfirst hvalue hblanks) hends, ?_, ?_⟩
    · rw [hkept, Decomposition.pieces, List.flatten_cons, List.append_assoc]
    · rw [haddress, Option.or_assoc, ← List.find?_append]
      rfl

end Sweep

/-- A text is taken apart in one way, and what is removed and kept follows from its parts: a sweep
ends after one pass for each marker with the pieces and the first value that is not empty, and only
a text without a marker stays as it is. -/
theorem remove_decomposition (t : Text) :
    ∃ d : Decomposition,
      (∀ other : Decomposition, (other.text = t ∧ other.IsLeftmost) ↔ other = d) ∧
      remove t = (d.pieces.flatten, d.values.find? (· ≠ [])) ∧
      (∃ last, Sweep.Ends d.values.length (Sweep.start t) last ∧
        remove t = (last.kept ++ last.rest, last.address)) ∧
      (remove t = (t, none) ↔ ¬ marker <:+: t) := by
  obtain ⟨pieces, values, hcut⟩ := exists_cut t
  obtain ⟨d, rfl, hleftmost⟩ := Decomposition.exists_of_cut hcut
  have hremove : remove d.text = (d.pieces.flatten, d.values.find? (· ≠ [])) :=
    hleftmost.cut.remove_eq
  refine ⟨d, fun other => ⟨?_, ?_⟩, hremove, ?_, remove_eq_self_iff⟩
  · rintro ⟨htext, hother⟩
    exact hother.unique hleftmost htext
  · rintro rfl
    exact ⟨rfl, hleftmost⟩
  · obtain ⟨last, hends, hkept, haddress⟩ := Sweep.ends_of_isLeftmost hleftmost [] none
    refine ⟨last, hends, ?_⟩
    rw [hremove, hkept, haddress, List.nil_append, Option.none_or]

end Syslog.SourceMarker
