import Syslog.Proofs.DateText.Joined
import Syslog.Proofs.DateText.MonthNames
import Syslog.Proofs.DateText.Tokens

/-!
# Forms of the parts of a date

The texts that the parts of a date may have, part by part. What the message leaves out is taken
from the clock; a number may lack its first digit; a month in letters is abbreviated; and what the
message tells of its offset has to go with the way in which the month is told. The rules for a part
give a text of such a form whenever a layout has room for it.
-/
namespace Syslog
open Text DateLayout

/-- The fields hold no date in one text but some part of one. Numbers are digits, and the month and
the offset are values of tokens that a grammar would ask for; a zone and a fraction may be any. -/
structure Fields.TellsParts (fields : Fields) : Prop where
  date : fields.get? "date" = none
  part : ∃ name ∈ DateText.partNames, fields.contains name = true
  number : ∀ name ∈ ["year", "day", "hours", "minutes", "seconds"], ∀ t ∈ fields.get? name,
    t ≠ [] ∧ ∀ c ∈ t, isDecimalDigit c = true
  month : ∀ t ∈ fields.get? "month", ∃ token ∈ [Token.month, .posint, .word], t ∈ token.language
  offset : ∀ t ∈ fields.get? "timeOffset", t ∈ Token.offset.language

/-- The parts tell that the time is that of UTC. -/
def Fields.TellsZulu (fields : Fields) : Prop :=
  fields.get? "timeOffset" = some ['Z'] ∨
    ∃ digits, fields.get? "milliseconds" = some (digits ++ ['Z'])

namespace DateText

/-- The text of a number of two digits. Only an ASCII digit may stand alone. -/
inductive PairForm (current : ℕ) : Option Text → Text → Prop
  | clock : PairForm current none (padded 2 current)
  | digit {c : Char} (hdigit : c.isDigit = true) : PairForm current (some [c]) ['0', c]
  | pair {t : Text} (hdigits : HasDigits 2 t) : PairForm current (some t) t

/-- The text of a year. That of the clock is written without zeros on the left. -/
inductive YearForm (current : ℤ) : Option Text → Text → Prop
  | clock (hlow : 1000 ≤ current) (hhigh : current ≤ 9999) : YearForm current none (ofInt current)
  | told {t : Text} (hdigits : HasDigits 4 t) : YearForm current (some t) t

/-- The text of a month, and the style of a date with this month. -/
inductive MonthForm (current : ℕ) : Option Text → DateStyle → Text → Prop
  | number {told : Option Text} {t : Text} (hpair : PairForm current told t)
      (hdigits : ∀ c ∈ t, c.isDigit = true) : MonthForm current told .numeric t
  | name {a b c : Char} {rest : Text} (ha : a.toUpper.isUpper = true)
      (hb : b.toLower.isLower = true) (hc : c.toLower.isLower = true) :
      MonthForm current (some (a :: b :: c :: rest)) .namedYear [a.toUpper, b.toLower, c.toLower]

/-- What stands after the time of day. -/
inductive MarkForm (fields : Fields) : DateStyle → Text → Prop
  | none {style : DateStyle} (hzulu : ¬ fields.TellsZulu)
      (hoffset : fields.get? "timeOffset" = none) (hzone : fields.get? "timeZone" = none) :
      MarkForm fields style []
  | zulu {style : DateStyle} (hzulu : fields.TellsZulu)
      (hoffset : ∀ t ∈ fields.get? "timeOffset", t = ['Z']) :
      MarkForm fields style (ofString " UTC")
  | zone {style : DateStyle} {abbreviation : Text} (hzulu : ¬ fields.TellsZulu)
      (hoffset : fields.get? "timeOffset" = none)
      (hzone : fields.get? "timeZone" = some abbreviation) (hlength : abbreviation.length = 3)
      (hcapitals : ∀ c ∈ abbreviation, c.isUpper = true) :
      MarkForm fields style (' ' :: abbreviation)
  | offset {sign : Char} {hours minutes : Text} {colon : Bool} (hzulu : ¬ fields.TellsZulu)
      (hform : (OffsetForm.signed sign hours minutes colon).WellFormed)
      (hoffset : fields.get? "timeOffset" = some (OffsetForm.signed sign hours minutes colon).text)
      (hzone : fields.get? "timeZone" = none) :
      MarkForm fields .numeric (sign :: (hours ++ ':' :: minutes))

/-! ## Numbers -/

section

variable {t : Text} {current : ℕ} {told : Option Text}

lemma isDigit_of_utf8Size {c : Char} (h : isDecimalDigit c = true) (hsize : c.utf8Size = 1) :
    c.isDigit = true := by
  have hcode : c.toNat ≤ 127 := Char.utf8Size_eq_one_iff.1 hsize
  have hzeros : ∀ start ∈ decimalZeros, start = 48 ∨ 127 < start := by decide
  rw [isDecimalDigit, Bool.or_eq_true] at h
  obtain h | h := h
  · exact h
  · obtain ⟨start, hstart, hrange⟩ := List.any_eq_true.1 h
    rw [Bool.and_eq_true, decide_eq_true_eq, decide_eq_true_eq] at hrange
    have hfirst := hzeros start hstart
    have hcodes : 48 ≤ c.toNat ∧ c.toNat ≤ 57 := by omega
    exact Char.isDigit_iff_toNat.2 hcodes

lemma hasDigits_twoPlaces_iff (h : ∀ c ∈ t, isDecimalDigit c = true) :
    HasDigits 2 (twoPlaces t) ↔ (∃ c : Char, c.isDigit = true ∧ t = [c]) ∨ HasDigits 2 t := by
  constructor
  · intro htwo
    by_cases hbytes : byteLength t = 1
    · have hlength := length_le_byteLength t
      rw [twoPlaces, if_pos hbytes] at htwo
      obtain ⟨c, rfl⟩ := List.length_eq_one_iff.1 (Nat.succ.inj htwo.1)
      have hsize : c.utf8Size = 1 := by rwa [byteLength_cons, byteLength_nil] at hbytes
      exact .inl ⟨c, isDigit_of_utf8Size (h c (by simp)) hsize, rfl⟩
    · rw [twoPlaces, if_neg hbytes] at htwo
      exact .inr htwo
  · rintro (⟨c, hc, rfl⟩ | htwo)
    · rw [twoPlaces_digit hc]
      exact ⟨rfl, by simp [h c, show isDecimalDigit '0' = true by decide]⟩
    · rwa [twoPlaces_of_hasDigits htwo]

lemma pairForm_iff (h : ∀ u ∈ told, ∀ c ∈ u, isDecimalDigit c = true) (hcurrent : current < 100) :
    PairForm current told t ↔
      t = (told.map twoPlaces).getD (padded 2 current) ∧ HasDigits 2 t := by
  constructor
  · intro hform
    cases hform with
    | clock => exact ⟨rfl, (spells_padded (by decide) hcurrent).hasDigits⟩
    | digit hdigit =>
      rw [Option.map_some, Option.getD_some, twoPlaces_digit hdigit]
      exact ⟨rfl, rfl, by simp [isDecimalDigit_of_isDigit hdigit,
        show isDecimalDigit '0' = true by decide]⟩
    | pair hdigits =>
      rw [Option.map_some, Option.getD_some, twoPlaces_of_hasDigits hdigits]
      exact ⟨rfl, hdigits⟩
  · rintro ⟨rfl, htwo⟩
    cases told with
    | none => exact .clock
    | some u =>
      rw [Option.map_some, Option.getD_some] at htwo ⊢
      obtain ⟨c, hc, rfl⟩ | hdigits := (hasDigits_twoPlaces_iff (h u rfl)).1 htwo
      · rw [twoPlaces_digit hc]
        exact .digit hc
      · rw [twoPlaces_of_hasDigits hdigits]
        exact .pair hdigits

lemma bounds_of_hasDigits {year : ℤ} (h : HasDigits 4 (ofInt year)) :
    1000 ≤ year ∧ year ≤ 9999 := by
  obtain ⟨hlength, hdigits⟩ := h
  rw [ofInt] at hlength hdigits
  split at hlength
  · next hnegative =>
    rw [if_pos hnegative] at hdigits
    exact absurd (hdigits '-' List.mem_cons_self) (by decide)
  · have hhigh := (Nat.length_toDigits_le_iff (b := 10) (by decide) (by decide)).1 hlength.le
    have hlow : ¬ year.natAbs < 10 ^ 3 := fun hlt => by
      have hshort := (Nat.length_toDigits_le_iff (b := 10) (by decide) (by decide)).2 hlt
      rw [Text.ofNat] at hlength
      omega
    omega

lemma yearForm_iff {year : ℤ} :
    YearForm year told t ↔ t = told.getD (ofInt year) ∧ HasDigits 4 t := by
  constructor
  · intro hform
    cases hform with
    | clock hlow hhigh => exact ⟨rfl, (spells_ofInt hlow hhigh).hasDigits⟩
    | told hdigits => exact ⟨rfl, hdigits⟩
  · rintro ⟨rfl, hdigits⟩
    cases told with
    | none =>
      obtain ⟨hlow, hhigh⟩ := bounds_of_hasDigits hdigits
      exact .clock hlow hhigh
    | some u => exact .told hdigits

/-! ## Months -/

def styleOf (month : Text) : DateStyle := if month.all Char.isDigit then .numeric else .namedYear

lemma abbreviate_cons (a b c : Char) (rest : Text) :
    abbreviate (a :: b :: c :: rest) = [a.toUpper, b.toLower, c.toLower] := rfl

lemma isDigit_of_toUpper {c : Char} (h : c.toUpper.isDigit = true) : c.isDigit = true := by
  have hcode := toNat_of_isDigit h
  have hsame : c = c.toUpper := eq_of_toUpper_eq (by omega) rfl
  rwa [← hsame] at h

lemma isDigit_of_toLower {c : Char} (h : c.toLower.isDigit = true) : c.isDigit = true := by
  have hcode := toNat_of_isDigit h
  have hsame : c = c.toLower := eq_of_toLower_eq (by omega) rfl
  rwa [← hsame] at h

lemma not_isDigit_of_toUpper {c : Char} (h : c.toUpper.isUpper = true) : ¬ c.isDigit = true := by
  intro hdigit
  have hcode := toNat_of_isDigit hdigit
  have hupper := toNat_of_isAlpha (isAlpha_of_isUpper h)
  rw [toNat_toUpper, if_neg (by omega)] at hupper
  omega

lemma all_isDigit_of_abbreviate (hlength : (abbreviate t).length = 2)
    (h : (abbreviate t).all Char.isDigit = true) : t.all Char.isDigit = true := by
  match t with
  | [] => rfl
  | [a] => cases hlength
  | [a, b] =>
    have hall : a.toUpper.isDigit = true ∧ b.toLower.isDigit = true := by
      simpa [abbreviate, toAsciiLower] using h
    simp [isDigit_of_toUpper hall.1, isDigit_of_toLower hall.2]
  | a :: b :: c :: rest => cases hlength

lemma styleOf_eq_namedYear (h : Admits monthName t) : styleOf t = .namedYear :=
  if_neg (DateStyle.not_isDigit_of_monthName h)

lemma styleOf_eq_numeric (h : ∀ c ∈ t, c.isDigit = true) : styleOf t = .numeric :=
  if_pos (List.all_eq_true.2 h)

def wordOf (month : Text) : Text :=
  if month.all Char.isDigit then twoPlaces month else abbreviate month

lemma isDigit_of_mem_twoPlaces (h : ∀ c ∈ t, c.isDigit = true) :
    ∀ c ∈ twoPlaces t, c.isDigit = true := by
  rw [twoPlaces]
  split
  · exact List.forall_mem_cons.2 ⟨rfl, h⟩
  · exact h

lemma monthForm_wordOf {u : Text} (h : (styleOf (wordOf u)).HasMonth (wordOf u)) :
    MonthForm current (some u) (styleOf (wordOf u)) (wordOf u) := by
  by_cases hu : u.all Char.isDigit = true
  · have hdigits := List.all_eq_true.1 hu
    have htwo := isDigit_of_mem_twoPlaces hdigits
    rw [wordOf, if_pos hu, styleOf_eq_numeric htwo] at h ⊢
    refine .number ?_ htwo
    have hdecimal : ∀ c ∈ u, isDecimalDigit c = true := fun c hc =>
      isDecimalDigit_of_isDigit (hdigits c hc)
    obtain ⟨c, hc, rfl⟩ | hpair := (hasDigits_twoPlaces_iff hdecimal).1 h
    · rw [twoPlaces_digit hc]
      exact .digit hc
    · rw [twoPlaces_of_hasDigits hpair]
      exact .pair hpair
  · rw [wordOf, if_neg hu] at h ⊢
    have hname : ¬ (abbreviate u).all Char.isDigit = true := by
      intro hdigits
      rw [styleOf_eq_numeric (List.all_eq_true.1 hdigits)] at h
      exact hu (all_isDigit_of_abbreviate h.1 hdigits)
    rw [styleOf, if_neg hname] at h ⊢
    match u with
    | [] | [a] | [a, b] => cases h.length_eq
    | a :: b :: c :: rest =>
      obtain ⟨first, second, third, heq, ha, hb, hc⟩ := admits_monthName_iff.1 h
      obtain ⟨rfl, rfl, rfl⟩ : a.toUpper = first ∧ b.toLower = second ∧ c.toLower = third := by
        simpa [abbreviate_cons] using heq
      exact .name ha hb hc

lemma monthForm_iff {style : DateStyle} (hcurrent : current < 100) :
    MonthForm current told style t ↔
      t = (told.map wordOf).getD (padded 2 current) ∧ style = styleOf t ∧ style.HasMonth t := by
  constructor
  · intro hform
    cases hform with
    | number hpair hdigits =>
      refine ⟨?_, (styleOf_eq_numeric hdigits).symm, ?_⟩
      · cases hpair with
        | clock => rfl
        | digit hdigit => simp [wordOf, hdigit, twoPlaces_digit hdigit]
        | pair htwo =>
          rw [Option.map_some, Option.getD_some, wordOf, if_pos (List.all_eq_true.2 hdigits),
            twoPlaces_of_hasDigits htwo]
      · cases hpair with
        | clock => exact (spells_padded (by decide) hcurrent).hasDigits
        | digit => exact ⟨rfl, fun c hc => isDecimalDigit_of_isDigit (hdigits c hc)⟩
        | pair htwo => exact htwo
    | @name a b c rest ha hb hc =>
      have hmonth : Admits monthName _ := admits_monthName_iff.2 ⟨_, _, _, rfl, ha, hb, hc⟩
      refine ⟨?_, (styleOf_eq_namedYear hmonth).symm, hmonth⟩
      have hletter := not_isDigit_of_toUpper ha
      simp [wordOf, hletter, abbreviate_cons]
  · rintro ⟨rfl, rfl, hmonth⟩
    cases told with
    | none =>
      have hdigits : ∀ c ∈ padded 2 current, c.isDigit = true := fun _ => isDigit_of_mem_padded
      rw [Option.map_none, Option.getD_none, styleOf_eq_numeric hdigits]
      exact .number .clock hdigits
    | some u => exact monthForm_wordOf hmonth

end

/-! ## Marks -/

variable {fields : Fields} {now : LocalTime} {style : DateStyle} {t : Text}

lemma isZulu_iff : isZulu fields = true ↔ fields.TellsZulu := by
  rw [isZulu, Bool.or_eq_true, beq_iff_eq, Option.any_eq_true, Fields.TellsZulu]
  refine or_congr_right ⟨?_, ?_⟩
  · rintro ⟨fraction, hfraction, hlast⟩
    obtain ⟨digits, rfl⟩ := List.getLast?_eq_some_iff.1 (beq_iff_eq.1 hlast)
    exact ⟨digits, hfraction⟩
  · rintro ⟨digits, hfraction⟩
    exact ⟨_, hfraction, by simp⟩

lemma exists_mark_iff (hstyle : style = .numeric ∨ style = .namedYear) :
    (∃ kind : OffsetMark, (style.layout? kind).isSome = true ∧ Admits kind.places t) ↔
      t = [] ∨
      (style = .numeric ∧ ∃ sign hours minutes, t = sign :: (hours ++ ':' :: minutes) ∧
        (sign = '+' ∨ sign = '-') ∧ HasDigits 2 hours ∧ HasDigits 2 minutes) ∨
      ∃ abbreviation, t = ' ' :: abbreviation ∧ abbreviation.length = 3 ∧
        ∀ c ∈ abbreviation, c.isUpper = true := by
  constructor
  · rintro ⟨kind, hkind, hadmits⟩
    rw [OffsetMark.admits_places_iff] at hadmits
    cases kind with
    | none => exact .inl hadmits
    | offset =>
      obtain rfl | rfl := hstyle
      · exact .inr (.inl ⟨rfl, hadmits⟩)
      · cases hkind
    | zone => exact .inr (.inr hadmits)
  · rintro (hnone | ⟨rfl, hoffset⟩ | hzone)
    · exact ⟨.none, by obtain rfl | rfl := hstyle <;> rfl, OffsetMark.admits_places_iff.2 hnone⟩
    · exact ⟨.offset ⟨false, 0, 0⟩, rfl, OffsetMark.admits_places_iff.2 hoffset⟩
    · exact ⟨.zone [], by obtain rfl | rfl := hstyle <;> rfl, OffsetMark.admits_places_iff.2 hzone⟩

lemma zoneText_of_tellsZulu (h : fields.TellsZulu) : zoneText fields = ofString " UTC" :=
  if_pos (isZulu_iff.2 h)

lemma zoneText_of_not_tellsZulu (h : ¬ fields.TellsZulu) :
    zoneText fields = ((fields.get? "timeZone").map (' ' :: ·)).getD [] :=
  if_neg (mt isZulu_iff.1 h)

section

variable {sign : Char} {hours minutes : Text} {colon : Bool}

lemma expandOffset_text (h : (OffsetForm.signed sign hours minutes colon).WellFormed) :
    expandOffset (OffsetForm.signed sign hours minutes colon).text =
      sign :: (hours ++ ':' :: minutes) := by
  obtain ⟨hsign, hhours, hminutes⟩ := h
  cases colon with
  | false => exact expandOffset_compact hsign hhours hminutes
  | true => exact expandOffset_colon hhours hminutes

lemma offsetText_of_signed (h : (OffsetForm.signed sign hours minutes colon).WellFormed)
    (hoffset : fields.get? "timeOffset" = some (OffsetForm.signed sign hours minutes colon).text) :
    offsetText fields = sign :: (hours ++ ':' :: minutes) := by
  have hne : (OffsetForm.signed sign hours minutes colon).text ≠ ['Z'] := by
    obtain ⟨rfl | rfl, -⟩ := h
    · simp [OffsetForm.text]
    · simp [OffsetForm.text]
  rw [offsetText, hoffset]
  dsimp only
  rw [if_neg hne, expandOffset_text h]

lemma eq_nil_of_exists_mark (h : (OffsetForm.signed sign hours minutes colon).WellFormed)
    (hstyle : style = .numeric ∨ style = .namedYear)
    (hmark : ∃ kind : OffsetMark, (style.layout? kind).isSome = true ∧
      Admits kind.places (sign :: (hours ++ ':' :: minutes) ++ t)) :
    style = .numeric ∧ t = [] := by
  obtain ⟨hsign, hhours, hminutes⟩ := h
  obtain hnone | ⟨hnumeric, sign', hours', minutes', heq, -, hhours', hminutes'⟩ | hzone :=
    (exists_mark_iff hstyle).1 hmark
  · cases hnone
  · refine ⟨hnumeric, List.length_eq_zero_iff.1 ?_⟩
    have hlength := congrArg List.length heq
    simp only [List.length_cons, List.length_append, hhours.1, hminutes.1, hhours'.1,
      hminutes'.1] at hlength
    omega
  · obtain ⟨abbreviation, heq, -⟩ := hzone
    obtain ⟨rfl, -⟩ := List.cons.inj heq
    exact absurd hsign (by decide)

end

lemma MarkForm.exists_mark (h : MarkForm fields style t)
    (hstyle : style = .numeric ∨ style = .namedYear) :
    t = offsetText fields ++ zoneText fields ∧
      ∃ kind : OffsetMark, (style.layout? kind).isSome = true ∧ Admits kind.places t := by
  rw [exists_mark_iff hstyle]
  cases h with
  | none hzulu hoffset hzone =>
    rw [offsetText, hoffset, zoneText_of_not_tellsZulu hzulu, hzone]
    exact ⟨rfl, .inl rfl⟩
  | zulu hzulu hoffset =>
    have hnil : offsetText fields = [] := by
      rw [offsetText]
      cases hcase : fields.get? "timeOffset" with
      | none => rfl
      | some offset => exact if_pos (hoffset offset hcase)
    rw [hnil, zoneText_of_tellsZulu hzulu]
    exact ⟨rfl, .inr (.inr ⟨ofString "UTC", rfl, rfl, by decide⟩)⟩
  | zone hzulu hoffset hzone hlength hcapitals =>
    rw [offsetText, hoffset, zoneText_of_not_tellsZulu hzulu, hzone]
    exact ⟨rfl, .inr (.inr ⟨_, rfl, hlength, hcapitals⟩)⟩
  | offset hzulu hform hoffset hzone =>
    rw [offsetText_of_signed hform hoffset, zoneText_of_not_tellsZulu hzulu, hzone]
    exact ⟨by simp, .inr (.inl ⟨rfl, _, _, _, rfl, hform⟩)⟩

lemma markForm_of_tellsZulu (h : fields.TellsParts)
    (hstyle : style = .numeric ∨ style = .namedYear) (hzulu : fields.TellsZulu)
    (hmark : ∃ kind : OffsetMark, (style.layout? kind).isSome = true ∧
      Admits kind.places (offsetText fields ++ zoneText fields)) :
    MarkForm fields style (offsetText fields ++ zoneText fields) := by
  rw [zoneText_of_tellsZulu hzulu] at hmark ⊢
  cases hoffset : fields.get? "timeOffset" with
  | none =>
    rw [offsetText, hoffset]
    exact .zulu hzulu (by simp [hoffset])
  | some offset =>
    obtain ⟨form, hform, rfl⟩ := Token.mem_offset_iff.1 (h.offset offset hoffset)
    cases form with
    | zulu =>
      rw [offsetText, hoffset]
      exact .zulu hzulu (by simp [hoffset, OffsetForm.text])
    | signed sign hours minutes colon =>
      rw [offsetText_of_signed hform hoffset] at hmark
      cases (eq_nil_of_exists_mark hform hstyle hmark).2

lemma markForm_of_not_tellsZulu (h : fields.TellsParts)
    (hstyle : style = .numeric ∨ style = .namedYear) (hzulu : ¬ fields.TellsZulu)
    (hmark : ∃ kind : OffsetMark, (style.layout? kind).isSome = true ∧
      Admits kind.places (offsetText fields ++ zoneText fields)) :
    MarkForm fields style (offsetText fields ++ zoneText fields) := by
  rw [zoneText_of_not_tellsZulu hzulu] at hmark ⊢
  cases hoffset : fields.get? "timeOffset" with
  | none =>
    rw [offsetText, hoffset] at hmark ⊢
    cases hzone : fields.get? "timeZone" with
    | none => exact .none hzulu hoffset hzone
    | some abbreviation =>
      rw [hzone, exists_mark_iff hstyle] at hmark
      obtain hnone | ⟨-, sign, _, _, heq, hsign, -⟩ | ⟨capitals, heq, hcapitals⟩ := hmark
      · cases hnone
      · obtain ⟨rfl, -⟩ := List.cons.inj heq
        exact absurd hsign (by decide)
      · obtain ⟨-, rfl⟩ := List.cons.inj heq
        exact .zone hzulu hoffset hzone hcapitals.1 hcapitals.2
  | some offset =>
    obtain ⟨form, hform, rfl⟩ := Token.mem_offset_iff.1 (h.offset offset hoffset)
    cases form with
    | zulu => exact absurd (.inl hoffset) hzulu
    | signed sign hours minutes colon =>
      rw [offsetText_of_signed hform hoffset] at hmark ⊢
      obtain ⟨rfl, hnil⟩ := eq_nil_of_exists_mark hform hstyle hmark
      cases hzone : fields.get? "timeZone" with
      | none =>
        rw [Option.map_none, Option.getD_none, List.append_nil]
        exact .offset hzulu hform hoffset hzone
      | some abbreviation =>
        rw [hzone] at hnil
        cases hnil

/-- What follows the time of day has a layout exactly if it is one of the marks that may. -/
theorem markForm_iff (h : fields.TellsParts) (hstyle : style = .numeric ∨ style = .namedYear) :
    MarkForm fields style t ↔ t = offsetText fields ++ zoneText fields ∧
      ∃ kind : OffsetMark, (style.layout? kind).isSome = true ∧ Admits kind.places t := by
  constructor
  · exact fun hform => hform.exists_mark hstyle
  · rintro ⟨rfl, hmark⟩
    by_cases hzulu : fields.TellsZulu
    · exact markForm_of_tellsZulu h hstyle hzulu hmark
    · exact markForm_of_not_tellsZulu h hstyle hzulu hmark

end DateText
end Syslog
