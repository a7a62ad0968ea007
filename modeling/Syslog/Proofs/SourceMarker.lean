import Syslog.Proofs.Grammar.Words
import Syslog.SourceMarker

/-!
# Source markers

The first marker of a text goes with its value and the blanks after it, and what comes before it
stays. A marker at the very start therefore goes without a trace.
-/
namespace Syslog.SourceMarker
open Text

lemma breakAt?_marker_append (t : Text) : breakAt? marker (marker ++ t) = some ([], t) := by
  have hfound : after? marker (marker ++ t) = some t := after?_eq_some_iff.2 rfl
  obtain ⟨c, rest, hcons⟩ : ∃ c rest, marker ++ t = c :: rest := ⟨_, _, rfl⟩
  rw [hcons] at hfound ⊢
  rw [breakAt?, breakFrom?, hfound]
  rfl

lemma remove_of_free {t : Text} (h : ¬ marker <:+: t) : remove t = (t, none) := by
  rw [remove]
  have hnone : breakFrom? marker [] t = none := breakFrom?_eq_none_iff.2 h
  split
  · rfl
  · next hsome =>
    rw [breakAt?, hnone] at hsome
    cases hsome

theorem remove_of_breakAt? {t before value blanks rest : Text}
    (h : breakAt? marker t = some (before, value ++ (blanks ++ rest))) (hvalue : IsSolid value)
    (hblanks : ∀ c ∈ blanks, isBlank c = true)
    (hstart : Stops (fun c => !isBlank c) (blanks ++ rest)) (hrest : Stops isBlank rest) :
    remove t = (before ++ (remove rest).1, if value = [] then (remove rest).2 else some value) := by
  have hsolid := isSolid_iff.1 hvalue
  have htake : (value ++ (blanks ++ rest)).takeWhile (fun c => !isBlank c) = value :=
    takeWhile_append hsolid hstart
  have hdrop : (value ++ (blanks ++ rest)).dropWhile (fun c => !isBlank c) = blanks ++ rest :=
    dropWhile_append hsolid hstart
  have htrim : trimStart isBlank (blanks ++ rest) = rest := dropWhile_append hblanks hrest
  rw [remove]
  split
  · next hnone =>
    rw [h] at hnone
    cases hnone
  · next hsome =>
    rw [h] at hsome
    obtain ⟨rfl, rfl⟩ := Prod.mk.inj (Option.some.inj hsome)
    simp only [htake, hdrop, htrim]

/-- What a listener puts in front of a datagram. -/
def heading (address : Text) : Text := marker ++ address ++ [' ']

/-- The heading of a listener leaves no trace in the text, and its address comes before any that the
text tells. -/
theorem remove_heading_append {address t : Text} (hne : address ≠ []) (hsolid : IsSolid address)
    (hstart : Stops isBlank t) : remove (heading address ++ t) = ((remove t).1, some address) := by
  have hbreak : breakAt? marker (heading address ++ t) = some ([], address ++ ([' '] ++ t)) := by
    rw [heading, List.append_assoc, List.append_assoc]
    exact breakAt?_marker_append _
  have hblank : ∀ c ∈ [' '], isBlank c = true := by decide
  rw [remove_of_breakAt? hbreak hsolid hblank (by simp [hblank]) hstart, if_neg hne,
    List.nil_append]

end Syslog.SourceMarker
