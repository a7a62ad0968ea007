import Syslog.Proofs.DateText.Accepted
import Syslog.Proofs.DateText.Parts

/-!
# Canonical dates

The text of a date that is accepted and can be read is canonical: told again as the date of a
message, it comes out as it is at any moment. A text that has a layout is left alone by each step
that a date in one field goes through, and a Z is in none that can be read.
-/
namespace Syslog
open Text

namespace DateLayout

variable {layout : DateLayout} {t : Text} {c : Char}

lemma exists_place_of_mem (h : layout.fits t = true) (hc : c ∈ t) :
    ∃ place ∈ layout.places, place.kind.admits c = true := by
  obtain ⟨i, hi⟩ := List.mem_iff_getElem?.1 hc
  have hlt : i < layout.places.length := by
    rw [← length_of_fits h]
    exact (List.getElem?_eq_some_iff.1 hi).1
  have hplace : layout.places[i]? = some layout.places[i] := List.getElem?_eq_getElem hlt
  exact ⟨layout.places[i], List.getElem_mem hlt, admits_of_fits h hplace hi⟩

lemma point_notMem (h : layout.fits t = true) : '.' ∉ t := by
  intro hpoint
  obtain ⟨place, hplace, hadmits⟩ := exists_place_of_mem h hpoint
  have hall : ∀ place ∈ layout.places, place.kind.admits '.' = false := by
    cases layout <;> decide
  rw [hall place hplace] at hadmits
  cases hadmits

lemma isBlank_of_admits {kind : PlaceKind} (hkind : kind = .digit ∨ kind = .capital)
    (h : kind.admits c = true) : isBlank c = false := by
  rcases hkind with rfl | rfl
  · exact isBlank_of_isDecimalDigit h
  · exact isBlank_of_isAlphanum (isAlphanum_of_isAlpha (isAlpha_of_isUpper h))

lemma isBlank_of_head? (h : layout.fits t = true) (hc : t.head? = some c) : isBlank c = false := by
  obtain ⟨place, hplace, hkind⟩ : ∃ place, layout.places[0]? = some place ∧
      (place.kind = .digit ∨ place.kind = .capital) := by
    cases layout <;> exact ⟨_, rfl, by decide⟩
  rw [List.head?_eq_getElem?] at hc
  exact isBlank_of_admits hkind (admits_of_fits h hplace hc)

lemma isBlank_of_getLast? (h : layout.fits t = true) (hc : t.getLast? = some c) :
    isBlank c = false := by
  obtain ⟨place, hplace, hkind⟩ : ∃ place, layout.places[layout.places.length - 1]? = some place ∧
      (place.kind = .digit ∨ place.kind = .capital) := by
    cases layout <;> exact ⟨_, rfl, by decide⟩
  rw [List.getLast?_eq_getElem?, length_of_fits h] at hc
  exact isBlank_of_admits hkind (admits_of_fits h hplace hc)

lemma isDecimalDigit_of_getElem? (h : layout.fits t = true) (hc : t[t.length - 3]? = some c) :
    isDecimalDigit c = false := by
  obtain ⟨place, hplace, hkind⟩ : ∃ place, layout.places[layout.places.length - 3]? = some place ∧
      (place.kind = .mark ':' ∨ place.kind = .capital) := by
    cases layout <;> exact ⟨_, rfl, by decide⟩
  rw [length_of_fits h] at hc
  have hadmits := admits_of_fits h hplace hc
  rcases hkind with hmark | hcapital
  · rw [hmark] at hadmits
    rw [← beq_iff_eq.1 hadmits]
    decide
  · rw [hcapital] at hadmits
    exact isDecimalDigit_of_isAlpha (isAlpha_of_isUpper hadmits)

end DateLayout

namespace DateText
open DateLayout

variable {layout : DateLayout} {t : Text} {fields : Fields} {now : Moment} {date : DateText}
  {seconds : ℤ}

/-! ## The steps for a date in one field -/

lemma trim_of_fits (h : layout.fits t = true) : trim t = t :=
  trim_eq_self ⟨fun _ hc => isBlank_of_head? h hc, fun _ hc => isBlank_of_getLast? h hc⟩

lemma expandOffset_of_fits (h : layout.fits t = true) : expandOffset t = t := by
  simp only [expandOffset]
  split
  · next sign a b c d hlast =>
    have hb : t[t.length - 3]? = some b := by
      have hlength := congrArg List.length hlast
      rw [List.length_drop, List.length_cons, List.length_cons, List.length_cons, List.length_cons,
        List.length_cons, List.length_nil] at hlength
      have hthird : (t.drop (t.length - 5))[2]? = some b := by rw [hlast]; rfl
      rwa [List.getElem?_drop, show t.length - 5 + 2 = t.length - 3 by omega] at hthird
    rw [if_neg]
    rintro ⟨-, hdigits⟩
    have hdigit : isDecimalDigit b = true := List.all_eq_true.1 hdigits b (by simp)
    rw [isDecimalDigit_of_getElem? h hb] at hdigit
    cases hdigit
  · rfl

theorem ofWhole_of_fits (h : layout.fits t = true) :
    ofWhole t = if 'Z' ∈ t then .error t else .ok ⟨t, .message⟩ := by
  have hsome : (ofText? t).isSome = true := Option.isSome_of_eq_some (ofText?_of_fits h)
  rw [ofWhole, dropFraction_of_notMem (point_notMem h), trim_of_fits h, expandOffset_of_fits h,
    accept, if_pos hsome]
  simp only [List.contains_iff_mem]

lemma ofFields_single (h : t ≠ []) (now : Moment) :
    ofFields (Fields.ofList [("date", t)]) now = ofWhole t := by
  simp [ofFields, Fields.ofList, Fields.insert, h, Fields.contains, Fields.get?, Fields.empty]

lemma exists_fits_of_ofFields (h : ofFields fields now = .ok date) :
    ∃ layout : DateLayout, layout.fits date.text = true := by
  have haccept : ∀ origin t, accept origin t = .ok date → (ofText? date.text).isSome = true := by
    intro origin t haccepted
    rw [accept] at haccepted
    split at haccepted
    · next hsome =>
      cases haccepted
      exact hsome
    · cases haccepted
  have hsome : (ofText? date.text).isSome = true := by
    rw [ofFields] at h
    split at h
    · rw [ofWhole] at h
      split at h
      · cases h
      · exact haccept _ _ h
    · split at h
      · exact haccept _ _ h
      · exact haccept _ _ h
  obtain ⟨layout, hlayout⟩ := Option.isSome_iff_exists.1 hsome
  exact ⟨layout, fits_of_ofText? hlayout⟩

/-! ## Dates that can be read -/

lemma zulu_notMem_monthText (style : DateStyle) {month : ℕ} (hlow : 1 ≤ month)
    (hhigh : month ≤ 12) : 'Z' ∉ style.monthText month := by
  have hnames : ∀ i < 12, 'Z' ∉ (monthNames[i]?).getD [] := by decide
  cases style with
  | named | namedYear => exact hnames (month - 1) (by omega)
  | numeric | iso => exact notMem_padded (by decide)

lemma zulu_notMem_mark {mark : OffsetMark} (h : mark.WellFormed) : 'Z' ∉ mark.text := by
  have hpadded : ∀ {width n}, 'Z' ∉ padded width n := notMem_padded (by decide)
  cases mark with
  | none => simp [OffsetMark.text]
  | offset written =>
    rcases written.sign_eq with hsign | hsign <;>
      simp [OffsetMark.text, WrittenOffset.text, hsign, hpadded]
  | zone abbreviation =>
    have hall : ∀ entry ∈ Zone.table, entry.1.toList.length = 3 → 'Z' ∉ entry.1.toList := by decide
    obtain ⟨hlength, hknown⟩ := h
    obtain ⟨seconds, hseconds⟩ := Option.isSome_iff_exists.1 hknown
    obtain ⟨entry, hentry, rfl, -⟩ := Zone.exists_mem_table hseconds
    simp [OffsetMark.text, hall entry hentry hlength]

theorem zulu_notMem_of_seconds? (h : seconds? now t = some seconds) : 'Z' ∉ t := by
  obtain ⟨written, hwritten, rfl, -⟩ := WrittenDate.exists_of_seconds? h
  obtain ⟨⟨hlow, hhigh⟩, -⟩ :=
    Date.bounds_of_isValid (LocalTime.isValid_iff.1 hwritten.valid).1
  have hmonth := zulu_notMem_monthText written.style hlow hhigh
  have hmark := zulu_notMem_mark hwritten.mark
  have hpadded : ∀ {width n}, 'Z' ∉ padded width n := notMem_padded (by decide)
  rw [WrittenDate.text, List.mem_append, List.mem_append, not_or, not_or]
  refine ⟨⟨?_, ?_⟩, hmark⟩
  · cases hstyle : written.style <;> rw [hstyle] at hmonth <;>
      simp [DateStyle.join, hpadded, hmonth]
  · simp [LocalTime.timeText, hpadded]

/-- A date that is accepted and can be read is canonical: it has no Z in it, and told as the date of
a message it is accepted as it is, with the layout it has, whatever the moment. -/
theorem ofFields_canonical (hdate : ofFields fields now = .ok date)
    (hseconds : seconds? now date.text = some seconds) :
    'Z' ∉ date.text ∧ ∃ layout, ofText? date.text = some layout ∧ ∀ later,
      ofFields (Fields.ofList [("date", date.text)]) later = .ok ⟨date.text, .message⟩ := by
  obtain ⟨layout, hfits⟩ := exists_fits_of_ofFields hdate
  have hzulu : 'Z' ∉ date.text := zulu_notMem_of_seconds? hseconds
  have hne : date.text ≠ [] := by
    intro hnil
    rw [hnil] at hfits
    cases layout <;> cases hfits
  refine ⟨hzulu, layout, ofText?_of_fits hfits, fun later => ?_⟩
  rw [ofFields_single hne, ofWhole_of_fits hfits, if_neg hzulu]

/-- A date in Zulu time that is told in parts, and then in one field at another moment. -/
theorem ofFields_canonical_june :
    ofFields ⟨[("month", ofString "JUNE"), ("day", ['2']), ("year", ofString "2024"),
        ("hours", ofString "01"), ("minutes", ofString "59"), ("seconds", ofString "06"),
        ("milliseconds", ofString "125Z")]⟩ ⟨0, 0⟩ =
      .ok ⟨ofString "Jun 02 2024 01:59:06 UTC", .message⟩ ∧
    seconds? ⟨0, 0⟩ (ofString "Jun 02 2024 01:59:06 UTC") = some 1717293546 ∧
    ofFields (Fields.ofList [("date", ofString "Jun 02 2024 01:59:06 UTC")])
        ⟨1717293546000, 7200⟩ =
      .ok ⟨ofString "Jun 02 2024 01:59:06 UTC", .message⟩ := by
  have hdate : ofFields ⟨[("month", ofString "JUNE"), ("day", ['2']), ("year", ofString "2024"),
        ("hours", ofString "01"), ("minutes", ofString "59"), ("seconds", ofString "06"),
        ("milliseconds", ofString "125Z")]⟩ ⟨0, 0⟩ =
      .ok ⟨ofString "Jun 02 2024 01:59:06 UTC", .message⟩ := by decide +kernel
  have hseconds : seconds? ⟨0, 0⟩ (ofString "Jun 02 2024 01:59:06 UTC") = some 1717293546 := by
    decide +kernel
  obtain ⟨-, layout, -, hagain⟩ := ofFields_canonical hdate hseconds
  exact ⟨hdate, hseconds, hagain ⟨1717293546000, 7200⟩⟩

/-- A date that has a layout but no month that exists may be refused the second time. -/
example : ofFields ⟨[("month", ofString "zan"), ("day", ['2']), ("year", ofString "2024"),
      ("hours", ofString "01"), ("minutes", ofString "59"), ("seconds", ofString "06")]⟩ ⟨0, 0⟩ =
      .ok ⟨ofString "Zan 02 2024 01:59:06", .message⟩ ∧
    ofFields ⟨[("date", ofString "Zan 02 2024 01:59:06")]⟩ ⟨0, 0⟩ =
      .error (ofString "Zan 02 2024 01:59:06") := by decide +kernel

end DateText
end Syslog
