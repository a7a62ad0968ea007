import Mathlib.Data.List.TakeWhile
import Syslog.Proofs.SourceMarker

/-!
# Markers that come together

Markers are taken out from left to right, and what is kept of the text is put together. No kept
piece has a marker in it, but the end of one and what is kept after it may make up another, which
stays.
-/
namespace Syslog.SourceMarker
open Text

/-- The text is cut at its markers into pieces, which are kept, and the values of the markers. Each
piece ends at the first marker after it starts, and each value at a blank or at the end. -/
inductive Cut : Text → List Text → List Text → Prop where
  | free {t : Text} (hfree : ¬ marker <:+: t) : Cut t [t] []
  | cons {before value blanks rest : Text} {pieces values : List Text}
      (hfirst : ¬ marker <:+: before ++ marker.dropLast) (hvalue : IsSolid value)
      (hblanks : ∀ c ∈ blanks, isBlank c = true)
      (hstart : Stops (fun c => !isBlank c) (blanks ++ rest)) (hrest : Stops isBlank rest)
      (hcut : Cut rest pieces values) :
      Cut (before ++ marker ++ (value ++ (blanks ++ rest))) (before :: pieces) (value :: values)

/-- A piece ends with the start of a marker, and the later pieces go on with the rest of it. -/
def Rejoins (pieces : List Text) : Prop :=
  ∃ earlier piece later first second, pieces = earlier ++ piece :: later ∧
    marker = first ++ second ∧ first ≠ [] ∧ second ≠ [] ∧
    first <:+ piece ∧ second <+: later.flatten

variable {t : Text} {pieces values : List Text}

lemma marker_ne_nil : marker ≠ [] := by decide

theorem exists_cut (t : Text) : ∃ pieces values, Cut t pieces values := by
  induction t using remove.induct with
  | case1 t hnone => exact ⟨[t], [], .free (breakFrom?_eq_none_iff.1 hnone)⟩
  | case2 t before after hfound ih =>
    obtain ⟨pieces, values, hcut⟩ := ih
    obtain ⟨rfl, hfirst⟩ := (breakAt?_eq_some_iff marker_ne_nil).1 hfound
    obtain ⟨value, hvalue⟩ : ∃ value, value = after.takeWhile fun c => !isBlank c := ⟨_, rfl⟩
    obtain ⟨space, hspace⟩ : ∃ space, space = after.dropWhile fun c => !isBlank c := ⟨_, rfl⟩
    have hspaces : space.takeWhile isBlank ++ trimStart isBlank space = space :=
      List.takeWhile_append_dropWhile
    have hafter : after = value ++ (space.takeWhile isBlank ++ trimStart isBlank space) := by
      rw [hspaces, hvalue, hspace, List.takeWhile_append_dropWhile]
    rw [← hspace] at hcut
    refine ⟨before :: pieces, value :: values, ?_⟩
    rw [hafter]
    refine .cons hfirst ?_ (fun c => List.mem_takeWhile_imp) ?_ (stops_dropWhile isBlank space) hcut
    · intro c hc
      rw [hvalue] at hc
      simpa using List.mem_takeWhile_imp hc
    · rw [hspaces, hspace]
      exact stops_dropWhile _ after

lemma Cut.remove_eq (h : Cut t pieces values) :
    remove t = (pieces.flatten, values.find? (· ≠ [])) := by
  induction h with
  | free hfree =>
    rw [remove_of_free hfree]
    simp
  | @cons before value blanks rest pieces values hfirst hvalue hblanks hstart hrest _ ih =>
    have hbreak : breakAt? marker (before ++ marker ++ (value ++ (blanks ++ rest))) =
        some (before, value ++ (blanks ++ rest)) :=
      (breakAt?_eq_some_iff marker_ne_nil).2 ⟨rfl, hfirst⟩
    rw [remove_of_breakAt? hbreak hvalue hblanks hstart hrest, ih]
    by_cases hempty : value = [] <;> simp [hempty]

lemma Cut.free_of_mem (h : Cut t pieces values) {piece : Text} (hpiece : piece ∈ pieces) :
    ¬ marker <:+: piece := by
  induction h with
  | free hfree => rwa [List.mem_singleton.1 hpiece]
  | cons hfirst _ _ _ _ _ ih =>
    rcases List.mem_cons.1 hpiece with rfl | hpiece
    · exact fun hwithin => hfirst (hwithin.trans (List.prefix_append ..).isInfix)
    · exact ih hpiece

/-- Pieces without a marker have one together only where it goes on from one piece to later ones. -/
theorem infix_flatten_iff (hfree : ∀ piece ∈ pieces, ¬ marker <:+: piece) :
    marker <:+: pieces.flatten ↔ Rejoins pieces := by
  constructor
  · intro h
    induction pieces with
    | nil => exact absurd (List.infix_nil.1 h) marker_ne_nil
    | cons piece pieces ih =>
      rcases infix_append h with
        hpiece | hlater | ⟨first, second, hmarker, hfirst, hsecond, hend, hstart⟩
      · exact absurd hpiece (hfree piece (by simp))
      · obtain ⟨earlier, piece', later, first, second, rfl, hrejoins⟩ :=
          ih (fun piece hpiece => hfree piece (List.mem_cons_of_mem _ hpiece)) hlater
        exact ⟨piece :: earlier, piece', later, first, second, rfl, hrejoins⟩
      · exact ⟨[], piece, pieces, first, second, rfl, hmarker, hfirst, hsecond, hend, hstart⟩
  · rintro ⟨earlier, piece, later, first, second, rfl, hmarker, -, -, ⟨before, rfl⟩,
      ⟨after, hlater⟩⟩
    refine ⟨earlier.flatten ++ before, after, ?_⟩
    simp [hmarker, ← hlater]

lemma Cut.length_le (h : Cut t pieces values) :
    pieces.flatten.length + marker.length * values.length ≤ t.length := by
  induction h with
  | free => simp
  | cons _ _ _ _ _ _ ih =>
    simp only [List.flatten_cons, List.length_append, List.length_cons] at ih ⊢
    rw [Nat.mul_succ]
    omega

theorem remove_eq_self_iff : remove t = (t, none) ↔ ¬ marker <:+: t := by
  refine ⟨fun h hwithin => ?_, remove_of_free⟩
  obtain ⟨pieces, values, hcut⟩ := exists_cut t
  have hlength := hcut.length_le
  rw [hcut.remove_eq] at h
  rw [(Prod.mk.inj h).1] at hlength
  cases hcut with
  | free hfree => exact hfree hwithin
  | cons =>
    have hmarker : marker.length = 15 := by decide
    rw [List.length_cons, hmarker] at hlength
    omega

/-- What removal keeps and tells is what the text holds between its markers and the first value of
one that is not empty. A marker is left exactly where one comes together from a kept piece and those
after it, and only then does another removal change anything. -/
theorem remove_cut (t : Text) :
    (∃ pieces values, Cut t pieces values) ∧
    ∀ pieces values, Cut t pieces values →
      remove t = (pieces.flatten, values.find? (· ≠ [])) ∧
      (∀ piece ∈ pieces, ¬ marker <:+: piece) ∧
      (marker <:+: (remove t).1 ↔ Rejoins pieces) ∧
      (remove (remove t).1 = ((remove t).1, none) ↔ ¬ Rejoins pieces) := by
  refine ⟨exists_cut t, fun pieces values hcut => ?_⟩
  have hfree : ∀ piece ∈ pieces, ¬ marker <:+: piece := fun piece => hcut.free_of_mem
  have hkept : marker <:+: (remove t).1 ↔ Rejoins pieces := by
    rw [hcut.remove_eq]
    exact infix_flatten_iff hfree
  exact ⟨hcut.remove_eq, hfree, hkept, remove_eq_self_iff.trans (not_congr hkept)⟩

section

def split : Text := ofString "source_source_address=x address=y"

lemma cut_split : Cut split [ofString "source_", ofString "address=y"] [ofString "x"] :=
  @Cut.cons (ofString "source_") (ofString "x") (ofString " ") (ofString "address=y") _ _
    (by decide) (by decide) (by decide) (by decide) (by decide) (.free (by decide))

theorem remove_cut_split :
    Cut split [ofString "source_", ofString "address=y"] [ofString "x"] ∧
      Rejoins [ofString "source_", ofString "address=y"] ∧
      remove split = (ofString "source_address=y", some (ofString "x")) ∧
      remove (remove split).1 ≠ ((remove split).1, none) := by
  have hrejoins : Rejoins [ofString "source_", ofString "address=y"] :=
    ⟨[], ofString "source_", [ofString "address=y"], ofString "source_", ofString "address=",
      by decide⟩
  obtain ⟨-, hcuts⟩ := remove_cut split
  obtain ⟨hremove, -, -, hagain⟩ := hcuts _ _ cut_split
  exact ⟨cut_split, hrejoins, hremove, fun heq => hagain.1 heq hrejoins⟩

/-- What is kept of this text is a marker, and the address in it is told by another removal. -/
theorem remove_split :
    marker <:+: (remove split).1 ∧ remove (remove split).1 = ([], some (ofString "y")) := by
  have hcut : Cut (ofString "source_address=y") [[], []] [ofString "y"] :=
    @Cut.cons [] (ofString "y") [] [] _ _ (by decide) (by decide) (by decide) (by decide)
      (by decide) (.free (by decide))
  rw [cut_split.remove_eq]
  exact ⟨by decide, hcut.remove_eq⟩

end

end Syslog.SourceMarker
