import Syslog.Proofs.DateText.Forms

/-!
# Dates told in parts

The parts of a date, each from the fields or else from the clock, are put together to one text. It
is a date exactly if every part has one of the forms that it may have.
-/
namespace Syslog
open Text DateLayout

namespace DateText

variable {fields : Fields} {now : LocalTime} {style : DateStyle}

/-- The parts that are put together, and the style of the date. -/
structure Forms (now : LocalTime) (fields : Fields) (style : DateStyle) (parts : JoinedDate) :
    Prop where
  month : MonthForm now.date.month (fields.get? "month") style parts.month
  day : PairForm now.date.day (fields.get? "day") parts.day
  year : YearForm now.date.year (fields.get? "year") parts.year
  hour : PairForm now.hour (fields.get? "hours") parts.hour
  minute : PairForm now.minute (fields.get? "minutes") parts.minute
  second : PairForm now.second (fields.get? "seconds") parts.second
  mark : MarkForm fields style parts.mark

/-- The texts that the fields and the clock give for the parts of a date. -/
def partsOf (now : LocalTime) (fields : Fields) : JoinedDate where
  year := (fields.get? "year").getD (ofInt now.date.year)
  month := monthText now fields
  day := partText fields "day" now.date.day
  hour := partText fields "hours" now.hour
  minute := partText fields "minutes" now.minute
  second := partText fields "seconds" now.second
  mark := offsetText fields ++ zoneText fields

lemma ofParts_eq_text (now : LocalTime) (fields : Fields) :
    ofParts now fields = (partsOf now fields).text (styleOf (partsOf now fields).month) := by
  have hstyle : styleOf (partsOf now fields).month =
      if (monthText now fields).all Char.isDigit then .numeric else .namedYear := rfl
  rw [hstyle, ofParts]
  split <;> simp [JoinedDate.text, DateStyle.join, partsOf]

lemma styleOf_eq (month : Text) : styleOf month = .numeric ∨ styleOf month = .namedYear := by
  rw [styleOf]
  split
  · exact .inl rfl
  · exact .inr rfl

lemma monthText_eq (now : LocalTime) (fields : Fields) :
    monthText now fields = ((fields.get? "month").map wordOf).getD (padded 2 now.date.month) := by
  rw [monthText]
  cases fields.get? "month" with
  | none => rfl
  | some month => rfl

structure HasTwoPlaces (time : LocalTime) : Prop where
  month : time.date.month < 100
  day : time.date.day < 100
  hour : time.hour < 100
  minute : time.minute < 100
  second : time.second < 100

lemma hasTwoPlaces_localTime (now : Moment) : HasTwoPlaces now.localTime := by
  obtain ⟨hmonth, hday⟩ := Date.bounds_ofDayNumber ((now.instant.seconds + now.offset) / 86400)
  constructor
  · exact Nat.lt_of_le_of_lt hmonth (by decide)
  · exact Nat.lt_of_le_of_lt hday (by decide)
  all_goals
    simp only [Moment.localTime, LocalTime.ofSeconds]
    omega

/-- The parts have the forms that they may have exactly if they are those that the fields and the
clock give and fit a layout. -/
theorem forms_iff {parts : JoinedDate} (h : fields.TellsParts) (hnow : HasTwoPlaces now) :
    Forms now fields style parts ↔
      parts = partsOf now fields ∧ style = styleOf parts.month ∧ parts.Fits style := by
  have hnumber : ∀ name ∈ ["year", "day", "hours", "minutes", "seconds"],
      ∀ t ∈ fields.get? name, ∀ c ∈ t, isDecimalDigit c = true :=
    fun name hname t ht => (h.number name hname t ht).2
  have hday := hnumber "day" (by simp)
  have hhour := hnumber "hours" (by simp)
  have hminute := hnumber "minutes" (by simp)
  have hsecond := hnumber "seconds" (by simp)
  constructor
  · intro hforms
    obtain ⟨hmonth, hstyle, hfits⟩ := (monthForm_iff hnow.month).1 hforms.month
    have hmark := (markForm_iff h (hstyle ▸ styleOf_eq _)).1 hforms.mark
    have hyear := yearForm_iff.1 hforms.year
    have hday := (pairForm_iff hday hnow.day).1 hforms.day
    have hhour := (pairForm_iff hhour hnow.hour).1 hforms.hour
    have hminute := (pairForm_iff hminute hnow.minute).1 hforms.minute
    have hsecond := (pairForm_iff hsecond hnow.second).1 hforms.second
    have hparts : parts = partsOf now fields :=
      JoinedDate.ext hyear.1 (hmonth.trans (monthText_eq now fields).symm) hday.1 hhour.1 hminute.1
        hsecond.1 hmark.1
    exact ⟨hparts, hstyle,
      ⟨hfits, hyear.2, ⟨hday.2, hhour.2, hminute.2, hsecond.2⟩, hmark.2⟩⟩
  · rintro ⟨rfl, rfl, hfits⟩
    obtain ⟨hmonth, hyear, htime, hmark⟩ := hfits
    exact ⟨(monthForm_iff hnow.month).2 ⟨monthText_eq now fields, rfl, hmonth⟩,
      (pairForm_iff hday hnow.day).2 ⟨rfl, htime.day⟩, yearForm_iff.2 ⟨rfl, hyear⟩,
      (pairForm_iff hhour hnow.hour).2 ⟨rfl, htime.hour⟩,
      (pairForm_iff hminute hnow.minute).2 ⟨rfl, htime.minute⟩,
      (pairForm_iff hsecond hnow.second).2 ⟨rfl, htime.second⟩,
      (markForm_iff h (styleOf_eq _)).2 ⟨rfl, hmark⟩⟩

/-! ## Separation -/

lemma not_gap_of_mem_language {month : Text} {token : Token}
    (htoken : token ∈ [Token.month, .posint, .word]) (h : month ∈ token.language) :
    ∀ c ∈ month, c ≠ ' ' ∧ c ≠ '-' := by
  simp only [List.mem_cons, List.not_mem_nil, or_false] at htoken
  obtain rfl | rfl | rfl := htoken
  · have hspelling : month.map Token.foldCase ∈ Token.monthSpellings := h
    have hletters : ∀ spelling ∈ Token.monthSpellings, ∀ c ∈ spelling, c.isAlpha = true := by decide
    intro c hc
    have hfold := JoinedDate.not_gap_of_isAlpha (hletters _ hspelling _ (List.mem_map_of_mem hc))
    constructor
    · rintro rfl
      exact hfold.1 rfl
    · rintro rfl
      exact hfold.2 rfl
  · exact fun c hc => JoinedDate.not_gap_of_isDecimalDigit ((Reader.mem_runOf.1 h).2 c hc)
  · intro c hc
    have hword : isWordCharacter c = true := (Reader.mem_runOf.1 h).2 c hc
    constructor
    · rintro rfl
      revert hword
      decide +kernel
    · rintro rfl
      revert hword
      decide +kernel

lemma not_gap_toUpper {c : Char} (h : c ≠ ' ' ∧ c ≠ '-') : c.toUpper ≠ ' ' ∧ c.toUpper ≠ '-' :=
  ⟨mt (eq_of_toUpper_eq (by decide)) h.1, mt (eq_of_toUpper_eq (by decide)) h.2⟩

lemma not_gap_toLower {c : Char} (h : c ≠ ' ' ∧ c ≠ '-') : c.toLower ≠ ' ' ∧ c.toLower ≠ '-' :=
  ⟨mt (eq_of_toLower_eq (by decide)) h.1, mt (eq_of_toLower_eq (by decide)) h.2⟩

lemma not_gap_wordOf {month : Text} (h : ∀ c ∈ month, c ≠ ' ' ∧ c ≠ '-') :
    ∀ c ∈ wordOf month, c ≠ ' ' ∧ c ≠ '-' := by
  rw [wordOf]
  split
  · rw [twoPlaces]
    split
    · exact List.forall_mem_cons.2 ⟨by decide, h⟩
    · exact h
  · have htake : ∀ c ∈ month.take 3, c ≠ ' ' ∧ c ≠ '-' := fun c hc => h c (List.mem_of_mem_take hc)
    rw [abbreviate]
    cases hcase : month.take 3 with
    | nil => exact List.forall_mem_nil _
    | cons c rest =>
      rw [hcase] at htake
      obtain ⟨hc, hrest⟩ := List.forall_mem_cons.1 htake
      have hlower : ∀ d ∈ toAsciiLower rest, d ≠ ' ' ∧ d ≠ '-' :=
        List.forall_mem_map.2 fun d hd => not_gap_toLower (hrest d hd)
      exact List.forall_mem_cons.2 ⟨not_gap_toUpper hc, hlower⟩

lemma stops_mark (h : fields.TellsParts) :
    Stops isDecimalDigit (offsetText fields ++ zoneText fields) := by
  have hzone : Stops isDecimalDigit (zoneText fields) := by
    rw [zoneText]
    split
    · exact stops_cons.2 (by decide)
    · cases fields.get? "timeZone" with
      | none => exact stops_nil
      | some zone => exact stops_cons.2 (by decide)
  cases hoffset : fields.get? "timeOffset" with
  | none => rwa [offsetText, hoffset]
  | some offset =>
    obtain ⟨form, hform, rfl⟩ := Token.mem_offset_iff.1 (h.offset offset hoffset)
    cases form with
    | zulu => rwa [offsetText, hoffset]
    | signed sign hours minutes colon =>
      rw [offsetText_of_signed hform hoffset, List.cons_append]
      obtain ⟨rfl | rfl, -⟩ := hform
      · exact stops_cons.2 (by decide)
      · exact stops_cons.2 (by decide)

theorem separable_partsOf (h : fields.TellsParts) (now : LocalTime) :
    (partsOf now fields).Separable := by
  have hpart : ∀ name ∈ ["day", "hours", "minutes", "seconds"], ∀ current,
      ∀ c ∈ partText fields name current, isDecimalDigit c = true := by
    intro name hname current
    rw [partText]
    cases hcase : fields.get? name with
    | none => exact fun c hc => isDecimalDigit_of_isDigit (isDigit_of_mem_padded hc)
    | some t =>
      have ht := (h.number name (by simp_all) t hcase).2
      rw [Option.map_some, Option.getD_some, twoPlaces]
      split
      · exact List.forall_mem_cons.2 ⟨by decide, ht⟩
      · exact ht
  refine ⟨?_, ?_, hpart "day" (by simp) _, hpart "hours" (by simp) _, hpart "minutes" (by simp) _,
    hpart "seconds" (by simp) _, stops_mark h⟩
  · change ∀ c ∈ monthText now fields, c ≠ ' ' ∧ c ≠ '-'
    rw [monthText_eq]
    cases hcase : fields.get? "month" with
    | none =>
      exact fun c hc => JoinedDate.not_gap_of_isDecimalDigit
        (isDecimalDigit_of_isDigit (isDigit_of_mem_padded hc))
    | some month =>
      obtain ⟨token, htoken, hmonth⟩ := h.month month hcase
      exact not_gap_wordOf (not_gap_of_mem_language htoken hmonth)
  · change ∀ c ∈ (fields.get? "year").getD (ofInt now.date.year), isDecimalDigit c = true ∨ c = '-'
    cases hcase : fields.get? "year" with
    | none =>
      have hnat : ∀ c ∈ Text.ofNat now.date.year.natAbs, isDecimalDigit c = true ∨ c = '-' :=
        fun c hc => .inl (isDecimalDigit_of_isDigit (isDigit_of_mem_ofNat hc))
      rw [Option.getD_none, ofInt]
      split
      · exact List.forall_mem_cons.2 ⟨.inr rfl, hnat⟩
      · exact hnat
    | some year => exact fun c hc => .inl ((h.number "year" (by simp) year hcase).2 c hc)

theorem exists_forms_iff (h : fields.TellsParts) (hnow : HasTwoPlaces now) :
    (DateLayout.ofText? (ofParts now fields)).isSome = true ↔
      Forms now fields (styleOf (partsOf now fields).month) (partsOf now fields) := by
  rw [forms_iff h hnow, ofParts_eq_text]
  constructor
  · intro hsome
    obtain ⟨layout, hlayout⟩ := Option.isSome_iff_exists.1 hsome
    exact ⟨rfl, rfl, (separable_partsOf h now).fits (styleOf_eq _) hlayout⟩
  · rintro ⟨-, -, hfits⟩
    obtain ⟨layout, hlayout⟩ := hfits.exists_ofText? (styleOf_eq _)
    exact Option.isSome_of_eq_some hlayout

/-- A date that is told in parts has a text exactly if each part has one of its forms, and this puts
the parts together. -/
theorem ofFields_of_tellsParts (h : fields.TellsParts) (now : Moment) :
    (∀ date, ofFields fields now = .ok date ↔ ∃ style parts,
      Forms now.localTime fields style parts ∧ date = ⟨parts.text style, .message⟩) ∧
    ((¬ ∃ style parts, Forms now.localTime fields style parts) →
      ofFields fields now = .error (ofParts now.localTime fields)) := by
  have hnow := hasTwoPlaces_localTime now
  rw [ofFields_eq_accept h.date h.part, accept]
  constructor
  · intro date
    constructor
    · intro hdate
      split at hdate
      · next hsome =>
        refine ⟨_, _, (exists_forms_iff h hnow).1 hsome, ?_⟩
        rw [← ofParts_eq_text]
        exact (Except.ok.inj hdate).symm
      · cases hdate
    · rintro ⟨style, parts, hforms, rfl⟩
      obtain ⟨rfl, rfl, -⟩ := (forms_iff h hnow).1 hforms
      rw [if_pos ((exists_forms_iff h hnow).2 hforms), ofParts_eq_text]
  · intro hnone
    exact if_neg fun hsome => hnone ⟨_, _, (exists_forms_iff h hnow).1 hsome⟩

/-- A name in mixed case, a day of one digit and hours in Arabic digits, in Zulu time by the
fraction; and a name with an offset, which no layout has. -/
theorem ofFields_september :
    ofFields ⟨[("month", ofString "sEPTember"), ("day", ['7']), ("hours", ['٠', '٩']),
        ("milliseconds", ofString "125Z"), ("timeZone", ofString "CEST")]⟩ ⟨1717293546000, 7200⟩ =
      .ok ⟨ofString "Sep 07 2024 ٠٩:59:06 UTC", .message⟩ ∧
    ofFields ⟨[("month", ofString "Sep"), ("timeOffset", ofString "+0200")]⟩ ⟨1717293546000, 7200⟩ =
      .error (ofString "Sep 02 2024 03:59:06+02:00") := by
  have hnow : (⟨1717293546000, 7200⟩ : Moment).localTime = ⟨⟨2024, 6, 2⟩, 3, 59, 6⟩ := by
    decide +kernel
  constructor
  · have htells : Fields.TellsParts ⟨[("month", ofString "sEPTember"), ("day", ['7']),
        ("hours", ['٠', '٩']), ("milliseconds", ofString "125Z"), ("timeZone", ofString "CEST")]⟩ :=
      ⟨rfl, ⟨"day", by decide, rfl⟩, by decide +kernel, by decide +kernel, by decide +kernel⟩
    refine ((ofFields_of_tellsParts htells ⟨1717293546000, 7200⟩).1 _).2 ⟨.namedYear,
      ⟨ofString "2024", ofString "Sep", ofString "07", ['٠', '٩'], ofString "59", ofString "06",
        ofString " UTC"⟩, ?_, by decide⟩
    rw [hnow]
    exact ⟨.name (by decide) (by decide) (by decide), .digit (by decide),
      .clock (by decide) (by decide), .pair ⟨rfl, by decide⟩, .clock, .clock,
      .zulu (.inr ⟨ofString "125", rfl⟩) nofun⟩
  · have htells : Fields.TellsParts
        ⟨[("month", ofString "Sep"), ("timeOffset", ofString "+0200")]⟩ :=
      ⟨rfl, ⟨"month", by decide, rfl⟩, by decide +kernel, by decide +kernel, by decide +kernel⟩
    refine ((ofFields_of_tellsParts htells ⟨1717293546000, 7200⟩).2 ?_).trans
      (congrArg Except.error ?_)
    · rintro ⟨style, ⟨year, month, day, hour, minute, second, mark⟩, hforms⟩
      have hmark : MarkForm _ style mark := hforms.mark
      have hname : MonthForm _ (some (ofString "Sep")) style month := hforms.month
      cases hmark with
      | none _ hoffset => cases hoffset
      | zulu _ hoffset => exact absurd (hoffset _ rfl) (by decide)
      | zone _ hoffset => cases hoffset
      | offset =>
        -- an offset asks for a month in digits
        cases hname with
        | number hpair =>
          cases hpair with
          | pair htwo => exact absurd htwo.1 (by decide)
    · rw [hnow]
      decide

end DateText
end Syslog
