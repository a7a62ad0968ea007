import Syslog.DateText.Instant
import Syslog.Proofs.Calendar
import Syslog.Proofs.Text.Numerals

/-!
# Dates in a layout

No text has two layouts, so a text that fits one is read by it, in whatever order they are tried.
-/
namespace Syslog
open Text

namespace DateLayout

lemma length_of_fits {layout : DateLayout} {t : Text} (h : layout.fits t = true) :
    t.length = layout.places.length := by
  rw [fits, Bool.and_eq_true, beq_iff_eq] at h
  exact h.1.symm

lemma admits_of_fits {layout : DateLayout} {t : Text} (h : layout.fits t = true) {i : ℕ}
    {place : Place} {c : Char} (hplace : layout.places[i]? = some place) (hc : t[i]? = some c) :
    place.kind.admits c = true := by
  rw [fits, Bool.and_eq_true, List.all_eq_true] at h
  refine h.2 (place, c) (List.mem_iff_getElem?.2 ⟨i, ?_⟩)
  rw [List.getElem?_zip_eq_some]
  exact ⟨hplace, hc⟩

theorem exists_admitted {layout other : DateLayout} {t : Text} (h : layout.fits t = true)
    (h' : other.fits t = true) {i : ℕ} {place place' : Place}
    (hplace : layout.places[i]? = some place) (hplace' : other.places[i]? = some place') :
    ∃ c, place.kind.admits c = true ∧ place'.kind.admits c = true := by
  have hlt : i < t.length := by
    rw [length_of_fits h]
    exact (List.getElem?_eq_some_iff.1 hplace).1
  have hc : t[i]? = some t[i] := List.getElem?_eq_getElem hlt
  exact ⟨t[i], admits_of_fits h hplace hc, admits_of_fits h' hplace' hc⟩

lemma not_fits_numeric {t : Text} (h : monthDayTimeZone.fits t = true) :
    ¬ numeric.fits t = true := by
  intro h'
  obtain ⟨c, hcapital, hdigit⟩ := exists_admitted h h' (i := 0) rfl rfl
  rw [PlaceKind.admits, isDecimalDigit_of_isAlpha (isAlpha_of_isUpper hcapital)] at hdigit
  cases hdigit

lemma not_fits_isoOffset {t : Text} (h : numericOffset.fits t = true) :
    ¬ isoOffset.fits t = true := by
  intro h'
  obtain ⟨c, hmark, hdigit⟩ := exists_admitted h h' (i := 2) rfl rfl
  obtain rfl : '-' = c := by simpa [PlaceKind.admits] using hmark
  revert hdigit
  decide

lemma eq_of_length_eq {layout other : DateLayout}
    (h : layout.places.length = other.places.length) :
    layout = other ∨ (layout = monthDayTimeZone ∧ other = numeric) ∨
      (layout = numeric ∧ other = monthDayTimeZone) ∨
      (layout = numericOffset ∧ other = isoOffset) ∨
      (layout = isoOffset ∧ other = numericOffset) := by
  revert h
  cases layout <;> cases other <;> decide

/-- No text has two layouts. -/
theorem fits_unique {layout other : DateLayout} {t : Text} (h : layout.fits t = true)
    (h' : other.fits t = true) : layout = other := by
  have hlength : layout.places.length = other.places.length := by
    rw [← length_of_fits h, length_of_fits h']
  -- layouts of one length differ in the first place or in the third
  rcases eq_of_length_eq hlength with rfl | ⟨rfl, rfl⟩ | ⟨rfl, rfl⟩ | ⟨rfl, rfl⟩ | ⟨rfl, rfl⟩
  · rfl
  · exact absurd h' (not_fits_numeric h)
  · exact absurd h (not_fits_numeric h')
  · exact absurd h' (not_fits_isoOffset h)
  · exact absurd h (not_fits_isoOffset h')

lemma mem_all (layout : DateLayout) : layout ∈ all := by
  cases layout <;> decide

def firstOf? (layouts : List DateLayout) (t : Text) : Option DateLayout := layouts.find? (·.fits t)

lemma fits_of_firstOf? {layouts : List DateLayout} {layout : DateLayout} {t : Text}
    (h : firstOf? layouts t = some layout) : layout.fits t = true := by
  unfold firstOf? at h
  have hfits := List.find?_some h
  exact hfits

theorem firstOf?_eq_some_iff {layouts : List DateLayout} (h : layouts.Perm all)
    {layout : DateLayout} {t : Text} :
    firstOf? layouts t = some layout ↔ layout.fits t = true := by
  constructor
  · intro hfirst
    exact fits_of_firstOf? hfirst
  · intro hfits
    have hsome : (firstOf? layouts t).isSome = true := by
      unfold firstOf?
      rw [List.find?_isSome]
      exact ⟨layout, h.mem_iff.2 (mem_all layout), hfits⟩
    obtain ⟨found, hfound⟩ := Option.isSome_iff_exists.1 hsome
    rw [hfound, fits_unique (fits_of_firstOf? hfound) hfits]

lemma fits_of_ofText? {layout : DateLayout} {t : Text} (h : ofText? t = some layout) :
    layout.fits t = true :=
  (firstOf?_eq_some_iff (List.Perm.refl all)).1 h

lemma ofText?_of_fits {layout : DateLayout} {t : Text} (h : layout.fits t = true) :
    ofText? t = some layout :=
  (firstOf?_eq_some_iff (List.Perm.refl all)).2 h

end DateLayout
end Syslog
