import Mathlib.Data.List.Forall2
import Syslog.Proofs.DateText.Parts

/-!
# Dates that tell all

A layout with a year and an offset or zone needs nothing of the reference moment. A date that is put
together from parts which tell these has such a layout or is no date at all: in the other layouts
there is no room for them. The only way to fit one of those is to have a single digit of the seconds
that takes more than one byte, and such a digit is read as no number.
-/
namespace Syslog
open Text

namespace DateLayout

def tells (layout : DateLayout) (part : DatePart) : Bool :=
  layout.places.any fun place => place.part == some part

/-- A date of the layout does not depend on the reference moment. -/
def isSelfContained (layout : DateLayout) : Bool :=
  layout.tells .year && (layout.tells .offset || layout.tells .zone)

lemma mem_partOf {layout : DateLayout} {t : Text} {i : ℕ} {place : Place} {part : DatePart}
    {c : Char} (hplace : layout.places[i]? = some place) (hpart : place.part = some part)
    (hc : t[i]? = some c) : c ∈ layout.partOf part t := by
  have hzip : (place, c) ∈ layout.places.zip t :=
    List.mem_iff_getElem?.2 ⟨i, List.getElem?_zip_eq_some.2 ⟨hplace, hc⟩⟩
  exact List.mem_map.2 ⟨(place, c), List.mem_filter.2 ⟨hzip, by simp [hpart]⟩, rfl⟩

lemma partOf_ne_nil {layout : DateLayout} {t : Text} {part : DatePart}
    (h : layout.fits t = true) (hpart : layout.tells part = true) : layout.partOf part t ≠ [] := by
  obtain ⟨place, hmem, hplace⟩ := List.any_eq_true.1 hpart
  obtain ⟨i, hi⟩ := List.mem_iff_getElem?.1 hmem
  have hlt : i < t.length := by
    rw [length_of_fits h]
    exact (List.getElem?_eq_some_iff.1 hi).1
  exact List.ne_nil_of_mem
    (mem_partOf hi (beq_iff_eq.1 hplace) (List.getElem?_eq_getElem hlt))

lemma localTime?_eq {layout : DateLayout} {t : Text} (h : layout.partOf .year t ≠ [])
    (year year' : ℤ) : layout.localTime? year t = layout.localTime? year' t := by
  rw [localTime?, localTime?]
  cases hyear : layout.partOf .year t with
  | nil => contradiction
  | cons c digits => rfl

lemma offsetOf?_eq {layout : DateLayout} {t : Text}
    (h : layout.partOf .offset t ≠ [] ∨ layout.partOf .zone t ≠ []) (offset offset' : ℤ) :
    layout.offsetOf? offset t = layout.offsetOf? offset' t := by
  rw [offsetOf?, offsetOf?]
  cases hoffset : layout.partOf .offset t with
  | cons c digits => rfl
  | nil =>
    cases hzone : layout.partOf .zone t with
    | cons c letters => rfl
    | nil => exact absurd h (by simp [hoffset, hzone])

/-- The time of a date that tells all is the same at every moment. -/
theorem seconds?_eq_of_isSelfContained {layout : DateLayout} {t : Text}
    (h : ofText? t = some layout) (hself : layout.isSelfContained = true) (now now' : Moment) :
    seconds? now t = seconds? now' t := by
  have hfits := fits_of_ofText? h
  rw [isSelfContained, Bool.and_eq_true, Bool.or_eq_true] at hself
  have hoffset : layout.partOf .offset t ≠ [] ∨ layout.partOf .zone t ≠ [] :=
    hself.2.imp (partOf_ne_nil hfits) (partOf_ne_nil hfits)
  rw [seconds?, seconds?, h]
  simp only [Option.bind_eq_bind, Option.bind_some,
    localTime?_eq (partOf_ne_nil hfits hself.1) now.localTime.date.year now'.localTime.date.year,
    offsetOf?_eq hoffset now.offset now'.offset]

lemma seconds?_eq_none {layout : DateLayout} {t : Text} (h : ofText? t = some layout) {c : Char}
    (hc : c ∈ layout.partOf .second t) (hdigit : c.isDigit = false) (now : Moment) :
    seconds? now t = none := by
  have hsecond : digits? (layout.partOf .second t) = none := by
    refine if_neg fun hdigits => ?_
    rw [List.all_eq_true.1 hdigits.2 c hc] at hdigit
    cases hdigit
  have hlocal : layout.localTime? now.localTime.date.year t = none := by
    rw [localTime?, hsecond]
    simp only [Option.bind_eq_bind, Option.bind_none, Option.bind_fun_none]
    split <;> rfl
  rw [seconds?, h]
  simp only [Option.bind_eq_bind, Option.bind_some, hlocal, Option.bind_none]

/-! ## Separators -/

/-- The place only admits a character of the list. -/
def marks (chars : List Char) (place : Place) : Bool := chars.any fun c => place.kind == .mark c

/-- Of the places of a layout only marks admit a character of the list. -/
def Separates (layout : DateLayout) (chars : List Char) : Prop :=
  ∀ place ∈ layout.places, ∀ c ∈ chars, place.kind.admits c = (place.kind == .mark c)

instance (layout : DateLayout) (chars : List Char) : Decidable (layout.Separates chars) :=
  inferInstanceAs (Decidable (∀ place ∈ layout.places, ∀ c ∈ chars, _))

lemma Separates.contains_eq {layout : DateLayout} {chars : List Char}
    (h : layout.Separates chars) {place : Place} (hplace : place ∈ layout.places) {c : Char}
    (hc : place.kind.admits c = true) : chars.contains c = marks chars place := by
  rw [Bool.eq_iff_iff, List.contains_iff_mem, marks, List.any_eq_true]
  constructor
  · intro hmem
    exact ⟨c, hmem, (h place hplace c hmem).symm.trans hc⟩
  · rintro ⟨d, hmem, hmark⟩
    rw [beq_iff_eq.1 hmark, PlaceKind.admits, beq_iff_eq] at hc
    exact hc ▸ hmem

theorem Separates.countP_take {layout : DateLayout} {chars : List Char}
    (h : layout.Separates chars) {t : Text} (hfits : layout.fits t = true) (n : ℕ) :
    (t.take n).countP chars.contains = (layout.places.take n).countP (marks chars) := by
  have hmap : t.map chars.contains = layout.places.map (marks chars) := by
    refine List.ext_getElem? fun i => ?_
    rw [List.getElem?_map, List.getElem?_map]
    cases hplace : layout.places[i]? with
    | none =>
      rw [List.getElem?_eq_none_iff, ← length_of_fits hfits, ← List.getElem?_eq_none_iff] at hplace
      rw [hplace]
      rfl
    | some place =>
      have hlt : i < t.length := by
        rw [length_of_fits hfits]
        exact (List.getElem?_eq_some_iff.1 hplace).1
      have hc := List.getElem?_eq_getElem hlt
      rw [hc, Option.map_some, Option.map_some,
        h.contains_eq (List.mem_of_getElem? hplace) (admits_of_fits hfits hplace hc)]
  have hcount := congrArg (fun flags => (flags.take n).countP id) hmap
  simpa only [← List.map_take, List.countP_map, Function.id_comp] using hcount

lemma Separates.of_subset {layout : DateLayout} {chars others : List Char}
    (h : layout.Separates chars) (hothers : others ⊆ chars) : layout.Separates others :=
  fun place hplace c hc => h place hplace c (hothers hc)

/-- In a layout that leaves out the year or the offset at most two gaps stand before a colon that is
not the first, or two places of the seconds are all that follows it. -/
lemma places_of_not_isSelfContained : ∀ layout ∈ all, layout.isSelfContained = false →
    layout.Separates [' ', '-', ':'] ∧ ∀ n < layout.places.length,
      layout.places[n]?.any (marks [':']) = true →
      1 ≤ (layout.places.take n).countP (marks [':']) →
        (layout.places.take n).countP (marks [' ', '-']) ≤ 2 ∨
          layout.places.drop (n + 1) = digits 2 .second := by
  decide +kernel

end DateLayout

lemma isDigit_of_twoPlaces {t : Text} {c : Char} (h : DateText.twoPlaces t = [c]) (hne : t ≠ []) :
    c.isDigit = false := by
  rw [DateText.twoPlaces] at h
  split at h
  · exact absurd (List.cons.inj h).2 hne
  · next hbytes =>
    subst h
    rw [byteLength_cons, byteLength_nil] at hbytes
    cases hdigit : c.isDigit with
    | false => rfl
    | true => exact absurd (utf8Size_of_isDigit hdigit) hbytes

lemma twoPlaces_ne_nil {t : Text} (h : t ≠ []) : DateText.twoPlaces t ≠ [] := by
  rw [DateText.twoPlaces]
  split
  · exact List.cons_ne_nil _ _
  · exact h

namespace DateLayout

/-- A text with three gaps before a colon that is not the first, and with more than the seconds
behind it, has a layout that tells all, or seconds that are read as no number. -/
theorem isSelfContained_or_seconds?_eq_none {layout : DateLayout} {head second later : Text}
    (h : ofText? (head ++ ':' :: (DateText.twoPlaces second ++ later)) = some layout)
    (hcolon : ':' ∈ head) (hgaps : 3 ≤ head.countP [' ', '-'].contains) (hsecond : second ≠ [])
    (hlater : later ≠ []) :
    layout.isSelfContained = true ∨
      ∀ now, seconds? now (head ++ ':' :: (DateText.twoPlaces second ++ later)) = none := by
  cases hself : layout.isSelfContained with
  | true => exact .inl rfl
  | false =>
    refine .inr fun now => ?_
    have hfits := fits_of_ofText? h
    obtain ⟨hseparates, hroom⟩ := places_of_not_isSelfContained layout
      (by cases layout <;> decide) hself
    have hcolons : layout.Separates [':'] := hseparates.of_subset (by simp)
    have hgap : layout.Separates [' ', '-'] := hseparates.of_subset (by simp)
    have hlength := length_of_fits hfits
    rw [List.length_append, List.length_cons, List.length_append] at hlength
    have hlt : head.length < layout.places.length := by omega
    have hplace := List.getElem?_eq_getElem hlt
    have hmark : layout.places[head.length]?.any (marks [':']) = true := by
      have hadmits := admits_of_fits hfits hplace (c := ':') (by simp)
      rw [hplace, Option.any_some, ← hcolons.contains_eq (List.getElem_mem hlt) hadmits]
      rfl
    have hcount : 1 ≤ (layout.places.take head.length).countP (marks [':']) := by
      rw [← hcolons.countP_take hfits, List.take_left]
      exact List.countP_pos_iff.2 ⟨':', hcolon, rfl⟩
    rcases hroom head.length hlt hmark hcount with hfew | hseconds
    · rw [← hgap.countP_take hfits, List.take_left] at hfew
      omega
    · have htwo := congrArg List.length hseconds
      rw [List.length_drop, digits, List.length_replicate] at htwo
      have hne := List.length_pos_iff.2 (twoPlaces_ne_nil hsecond)
      have hmore := List.length_pos_iff.2 hlater
      have hone : (DateText.twoPlaces second).length = 1 := by omega
      obtain ⟨c, hc⟩ := List.length_eq_one_iff.1 hone
      have hlast : layout.places[head.length + 1]? = some ⟨.digit, some .second⟩ := by
        rw [← Nat.add_zero (head.length + 1), ← List.getElem?_drop, hseconds]
        rfl
      have hwritten : (head ++ ':' :: (DateText.twoPlaces second ++ later))[head.length + 1]? =
          some c := by
        rw [hc]
        simp
      exact seconds?_eq_none h (mem_partOf hlast rfl hwritten) (isDigit_of_twoPlaces hc hsecond) now

end DateLayout

/-! ## Fields -/

lemma Fields.ne_nil_of_get? {fields : Fields} (h : fields.WellFormed) {name : String}
    {value : Text} (hvalue : fields.get? name = some value) : value ≠ [] := by
  obtain ⟨before, later, hentries, -⟩ := List.lookup_eq_some_iff.1 hvalue
  exact h.2 (name, value) (by rw [hentries]; simp)

/-- The fields tell a date in parts, from the year to the second, with an offset, a zone or a Z in
the fraction, or in one text with a year and an offset or zone. -/
inductive Fields.IsSelfContained (fields : Fields) : Prop
  | parts (hdate : fields.get? "date" = none)
      (hparts : ∀ name ∈ ["year", "month", "day", "hours", "minutes", "seconds"],
        fields.contains name = true)
      (hzone : fields.contains "timeOffset" = true ∨ fields.contains "timeZone" = true ∨
        ∃ fraction, fields.get? "milliseconds" = some fraction ∧ fraction.getLast? = some 'Z')
  | whole {date : Text} {text : DateText} {layout : DateLayout}
      (hdate : fields.get? "date" = some date) (htext : DateText.ofWhole date = .ok text)
      (hlayout : DateLayout.ofText? text.text = some layout)
      (hself : layout.isSelfContained = true)

namespace DateText

variable {fields : Fields}

lemma expandOffset_ne_nil {t : Text} (h : t ≠ []) : expandOffset t ≠ [] := by
  simp only [expandOffset]
  split
  · split
    · simp
    · exact h
  · exact h

lemma offset_or_zone_ne_nil (hfields : fields.WellFormed)
    (h : fields.contains "timeOffset" = true ∨ fields.contains "timeZone" = true ∨
      ∃ fraction, fields.get? "milliseconds" = some fraction ∧ fraction.getLast? = some 'Z') :
    offsetText fields ++ zoneText fields ≠ [] := by
  have hzulu : isZulu fields = true → offsetText fields ++ zoneText fields ≠ [] := by
    intro hzulu
    rw [zoneText, if_pos hzulu]
    simp [ofString]
  rcases h with hoffset | hzone | ⟨fraction, hfraction, hlast⟩
  · obtain ⟨offset, hoffset⟩ := Option.isSome_iff_exists.1 hoffset
    by_cases hZ : offset = ['Z']
    · refine hzulu ?_
      rw [isZulu, hoffset, hZ]
      rfl
    · rw [offsetText, hoffset]
      simp only [if_neg hZ]
      exact List.append_ne_nil_of_left_ne_nil
        (expandOffset_ne_nil (Fields.ne_nil_of_get? hfields hoffset)) _
  · obtain ⟨zone, hzone⟩ := Option.isSome_iff_exists.1 hzone
    cases hisZulu : isZulu fields with
    | true => exact hzulu hisZulu
    | false =>
      rw [zoneText, hisZulu, hzone]
      simp
  · refine hzulu ?_
    rw [isZulu, hfraction, Option.any_some, hlast]
    simp

/-- A date in parts, from the year to the second, is put together alike at all moments, with three
gaps before the second colon. -/
lemma exists_ofParts (hfields : fields.WellFormed)
    (hparts : ∀ name ∈ ["year", "month", "day", "hours", "minutes", "seconds"],
      fields.contains name = true) :
    ∃ head second, (∀ now, ofParts now fields =
        head ++ ':' :: (twoPlaces second ++ (offsetText fields ++ zoneText fields))) ∧
      ':' ∈ head ∧ 3 ≤ head.countP [' ', '-'].contains ∧ second ≠ [] := by
  obtain ⟨year, hyear⟩ := Option.isSome_iff_exists.1 (hparts "year" (by decide))
  obtain ⟨month, hmonth⟩ := Option.isSome_iff_exists.1 (hparts "month" (by decide))
  obtain ⟨day, hday⟩ := Option.isSome_iff_exists.1 (hparts "day" (by decide))
  obtain ⟨hour, hhour⟩ := Option.isSome_iff_exists.1 (hparts "hours" (by decide))
  obtain ⟨minute, hminute⟩ := Option.isSome_iff_exists.1 (hparts "minutes" (by decide))
  obtain ⟨second, hsecond⟩ := Option.isSome_iff_exists.1 (hparts "seconds" (by decide))
  obtain ⟨name, hname⟩ : ∃ name, ∀ now, monthText now fields = name :=
    ⟨if month.all Char.isDigit then twoPlaces month else abbreviate month, fun now => by
      rw [monthText, hmonth]⟩
  obtain ⟨gap, hgap, hcount⟩ : ∃ gap, (if name.all Char.isDigit then ['-'] else [' ']) = gap ∧
      gap.countP [' ', '-'].contains = 1 := ⟨_, rfl, by split <;> rfl⟩
  refine ⟨name ++ gap ++ twoPlaces day ++ gap ++ year ++ [' '] ++ twoPlaces hour ++ [':'] ++
    twoPlaces minute, second, fun now => ?_, by simp, ?_, Fields.ne_nil_of_get? hfields hsecond⟩
  · simp only [ofParts, partText, hname, hgap, hyear, hday, hhour, hminute, hsecond,
      Option.map_some, Option.getD_some, List.append_assoc, List.cons_append, List.nil_append]
  · have hspace : [' '].countP [' ', '-'].contains = 1 := rfl
    simp only [List.countP_append, hcount, hspace]
    omega

lemma origin_of_accept {origin : DateOrigin} {t : Text} {date : DateText}
    (h : accept origin t = .ok date) :
    date = ⟨t, origin⟩ ∧ ∃ layout, DateLayout.ofText? t = some layout := by
  rw [accept] at h
  split at h
  · next hsome => exact ⟨(Except.ok.inj h).symm, Option.isSome_iff_exists.1 hsome⟩
  · cases h

lemma origin_of_ofWhole {t : Text} {date : DateText} (h : ofWhole t = .ok date) :
    date.origin = .message := by
  rw [ofWhole] at h
  split at h
  · cases h
  · rw [(origin_of_accept h).1]

end DateText

/-- A date that tells all is none at any moment, or one and the same, told by the message and read
alike. -/
theorem Fields.IsSelfContained.ofFields_cases {fields : Fields} (h : fields.IsSelfContained)
    (hfields : fields.WellFormed) :
    (∃ t, ∀ now, DateText.ofFields fields now = .error t) ∨
      ∃ date, (∀ now, DateText.ofFields fields now = .ok date) ∧ date.origin = .message ∧
        ∀ now now', DateLayout.seconds? now date.text = DateLayout.seconds? now' date.text := by
  cases h with
  | @whole date text layout hdate htext hlayout hself =>
    refine .inr ⟨text, fun now => ?_, DateText.origin_of_ofWhole htext, fun now now' => ?_⟩
    · rw [DateText.ofFields, hdate]
      exact htext
    · exact DateLayout.seconds?_eq_of_isSelfContained hlayout hself now now'
  | parts hdate hparts hzone =>
    obtain ⟨head, second, htext, hcolon, hgaps, hsecond⟩ :=
      DateText.exists_ofParts hfields hparts
    have hlater := DateText.offset_or_zone_ne_nil hfields hzone
    have hany : DateText.partNames.any fields.contains = true :=
      List.any_eq_true.2 ⟨"year", by decide, hparts "year" (by decide)⟩
    have hofFields : ∀ now : Moment, DateText.ofFields fields now =
        DateText.accept .message (head ++ ':' :: (DateText.twoPlaces second ++
          (DateText.offsetText fields ++ DateText.zoneText fields))) := by
      intro now
      rw [DateText.ofFields, hdate]
      simp only [hany, ↓reduceIte, htext]
    cases haccept : DateText.accept .message (head ++ ':' :: (DateText.twoPlaces second ++
        (DateText.offsetText fields ++ DateText.zoneText fields))) with
    | error t => exact .inl ⟨t, fun now => (hofFields now).trans haccept⟩
    | ok date =>
      obtain ⟨rfl, layout, hlayout⟩ := DateText.origin_of_accept haccept
      refine .inr ⟨_, fun now => (hofFields now).trans haccept, rfl, fun now now' => ?_⟩
      rcases DateLayout.isSelfContained_or_seconds?_eq_none hlayout hcolon hgaps hsecond hlater with
        hself | hnone
      · exact DateLayout.seconds?_eq_of_isSelfContained hlayout hself now now'
      · exact (hnone now).trans (hnone now').symm

end Syslog
