import Syslog.Matching
import Syslog.Proofs.DateText.Assembled
import Syslog.Proofs.Record.Instants

/-!
# Timestamps as a whole and in parts

A grammar may take a timestamp out of a message in one field or cut it into the fields of its parts.
If it has a numeric offset, both give the same instant, though the texts of their dates have
different layouts, or neither gives any. In one field it may have no Z and has to have an offset.
-/
namespace Syslog
open Text DateLayout

/-- The fields hold the parts of a timestamp, each under its own name, and no more of a date. -/
structure Fields.HoldsStamp (fields : Fields) (stamp : Timestamp) : Prop where
  year : fields.get? "year" = some stamp.year
  month : fields.get? "month" = some stamp.month
  day : fields.get? "day" = some stamp.day
  hour : fields.get? "hours" = some stamp.hour
  minute : fields.get? "minutes" = some stamp.minute
  second : fields.get? "seconds" = some stamp.second
  fraction : fields.get? "milliseconds" = stamp.fraction
  offset : fields.get? "timeOffset" = stamp.offset.map OffsetForm.text
  absent : ∀ name ∈ ["date", "timeZone"], fields.get? name = none

def Grammar.instant (grammar : Grammar) (now : Moment) (fields : Fields) :
    Except Discard Instant := do
  let reading ← grammar.reading now fields
  reading.instant now

namespace Timestamp

variable {stamp : Timestamp} {sign : Char} {hours minutes : Text} {colon : Bool} {now : Moment}

/-! ## In one field -/

lemma notMem_localText (h : stamp.WellFormed) {c : Char} (hc : isDecimalDigit c = false)
    (hmark : c ∉ ['-', 'T', ':']) : c ∉ stamp.localText := by
  simp only [List.mem_cons, List.not_mem_nil, or_false, not_or] at hmark
  simp [localText, DateStyle.join, h.year.notMem hc, h.month.notMem hc, h.time.day.notMem hc,
    h.time.hour.notMem hc, h.time.minute.notMem hc, h.time.second.notMem hc, hmark]

lemma notMem_signed (h : (OffsetForm.signed sign hours minutes colon).WellFormed) {c : Char}
    (hc : isDecimalDigit c = false) (hmark : c ∉ ['+', '-', ':']) :
    c ∉ (OffsetForm.signed sign hours minutes colon).text := by
  obtain ⟨hsign, hhours, hminutes⟩ := h
  simp only [List.mem_cons, List.not_mem_nil, or_false, not_or] at hmark
  have hne : c ≠ sign := by
    obtain rfl | rfl := hsign
    · exact hmark.1
    · exact hmark.2.1
  cases colon <;> simp [OffsetForm.text, hne, hhours.notMem hc, hminutes.notMem hc, hmark]

lemma notMem_fractionText (h : stamp.WellFormed) {c : Char} (hc : isDecimalDigit c = false)
    (hpoint : c ≠ '.') : c ∉ stamp.fractionText := by
  rw [fractionText]
  cases hcase : stamp.fraction with
  | none => exact List.not_mem_nil
  | some digits =>
    refine List.not_mem_cons_of_ne_of_not_mem hpoint fun hmem => ?_
    exact Bool.false_ne_true (hc.symm.trans ((h.fraction digits hcase).2 c hmem))

lemma point_notMem_offsetText (h : stamp.WellFormed) : '.' ∉ stamp.offsetText := by
  rw [offsetText]
  cases hcase : stamp.offset with
  | none => exact List.not_mem_nil
  | some form =>
    cases form with
    | zulu => decide
    | signed => exact notMem_signed (h.offset _ hcase) (by decide) (by decide)

lemma stops_offsetText (h : stamp.WellFormed) : Stops isDecimalDigit stamp.offsetText := by
  rw [offsetText]
  cases hcase : stamp.offset with
  | none => exact stops_nil
  | some form =>
    have hform := h.offset form hcase
    cases form with
    | zulu => exact stops_cons.2 (by decide)
    | signed =>
      obtain ⟨rfl | rfl, -⟩ := hform
      · exact stops_cons.2 (by decide)
      · exact stops_cons.2 (by decide)

lemma dropFraction_text (h : stamp.WellFormed) :
    DateText.dropFraction stamp.text = stamp.localText ++ stamp.offsetText := by
  have hlocal : '.' ∉ stamp.localText := notMem_localText h (by decide) (by decide)
  rw [text, fractionText]
  cases hcase : stamp.fraction with
  | none =>
    have hpoint : '.' ∉ stamp.localText ++ stamp.offsetText := by
      rw [List.mem_append, not_or]
      exact ⟨hlocal, point_notMem_offsetText h⟩
    rw [Option.map_none, Option.getD_none, List.append_nil, DateText.dropFraction_of_notMem hpoint]
  | some digits =>
    obtain ⟨hne, hdigits⟩ := h.fraction digits hcase
    rw [Option.map_some, Option.getD_some, List.append_assoc, List.cons_append,
      DateText.dropFraction_append hlocal hne hdigits (stops_offsetText h)]

lemma five_le_length_signed (h : (OffsetForm.signed sign hours minutes colon).WellFormed) :
    5 ≤ (OffsetForm.signed sign hours minutes colon).text.length := by
  simp only [OffsetForm.text, List.length_cons, List.length_append, h.2.1.1, h.2.2.1]
  omega

lemma expandOffset_localText (h : stamp.WellFormed) :
    DateText.expandOffset stamp.localText = stamp.localText := by
  obtain ⟨a, b, hminute, ha, -⟩ := h.time.minute.exists_two
  obtain ⟨c, d, hsecond, -, -⟩ := h.time.second.exists_two
  have hsign : ¬ ((a = '+' ∨ a = '-') ∧ [b, ':', c, d].all isDecimalDigit = true) := by
    rintro ⟨rfl | rfl, -⟩
    · revert ha
      decide
    · revert ha
      decide
  have hlast : stamp.localText = (DateStyle.iso.join stamp.year stamp.month stamp.day ++
      (stamp.hour ++ [':'])) ++ [a, b, ':', c, d] := by
    rw [localText, hminute, hsecond]
    simp
  have htime : DateText.expandOffset [a, b, ':', c, d] = [a, b, ':', c, d] := if_neg hsign
  rw [hlast, DateText.expandOffset_append (by simp), htime]

lemma ofWhole_text (h : stamp.WellFormed) (hzulu : stamp.offset ≠ some .zulu) :
    DateText.ofWhole stamp.text =
      DateText.accept .message (stamp.localText ++ DateText.expandOffset stamp.offsetText) := by
  have hlanguage : SolidLanguage Token.timestamp.language := Token.solid_language rfl
  have hsolid : IsSolid stamp.text := hlanguage _ (Token.mem_timestamp_iff.2 ⟨stamp, h, rfl⟩)
  rw [text, isSolid_append, isSolid_append] at hsolid
  have hdropped : IsSolid (stamp.localText ++ stamp.offsetText) :=
    isSolid_append.2 ⟨hsolid.1.1, hsolid.2⟩
  have hlocal : 'Z' ∉ stamp.localText := notMem_localText h (by decide) (by decide)
  have hfraction : 'Z' ∉ stamp.fractionText := notMem_fractionText h (by decide) (by decide)
  obtain ⟨hoffset, hexpand⟩ : 'Z' ∉ stamp.offsetText ∧
      DateText.expandOffset (stamp.localText ++ stamp.offsetText) =
        stamp.localText ++ DateText.expandOffset stamp.offsetText := by
    rw [offsetText]
    cases hcase : stamp.offset with
    | none =>
      rw [Option.map_none, Option.getD_none, List.append_nil, expandOffset_localText h]
      exact ⟨List.not_mem_nil, (List.append_nil _).symm⟩
    | some form =>
      cases form with
      | zulu => exact absurd hcase hzulu
      | signed =>
        have hform := h.offset _ hcase
        exact ⟨notMem_signed hform (by decide) (by decide),
          DateText.expandOffset_append (five_le_length_signed hform) _⟩
  have hcontains : stamp.text.contains 'Z' = false := by
    simp [text, hlocal, hfraction, hoffset]
  rw [DateText.ofWhole, hcontains, dropFraction_text h, trim_of_isSolid hdropped, hexpand]
  rfl

lemma carries_whole (h : stamp.WellFormed)
    (hoffset : stamp.offset = some (.signed sign hours minutes colon)) :
    Carries isoOffset.places (stamp.localText ++ (sign :: (hours ++ ':' :: minutes))) fun part =>
      localParts stamp.year stamp.month stamp.day stamp.hour stamp.minute stamp.second part ++
        only .offset (sign :: (hours ++ ':' :: minutes)) part := by
  obtain ⟨hsign, hhours, hminutes⟩ := h.offset _ hoffset
  have hcarries : Carries isoOffset.places _ _ :=
    (carries_join .iso (fun _ => h.year) h.month h.time).append
      (carries_offset hsign hhours hminutes)
  exact hcarries

lemma ofFields_whole (h : stamp.WellFormed)
    (hoffset : stamp.offset = some (.signed sign hours minutes colon)) {whole : Fields}
    (hwhole : whole.get? "date" = some stamp.text) (now : Moment) :
    DateText.ofFields whole now =
      .ok ⟨stamp.localText ++ (sign :: (hours ++ ':' :: minutes)), .message⟩ := by
  have hexpand := DateText.expandOffset_text (h.offset _ hoffset)
  rw [DateText.ofFields, hwhole]
  dsimp only
  rw [ofWhole_text h (by simp [hoffset]), offsetText, hoffset, Option.map_some, Option.getD_some,
    hexpand, DateText.accept, (carries_whole h hoffset).ofText?]
  rfl

lemma length_localText (h : stamp.WellFormed) : stamp.localText.length = 19 := by
  simp [localText, DateStyle.join, h.year.1, h.month.1, h.time.day.1, h.time.hour.1,
    h.time.minute.1, h.time.second.1]

/-- Of the layouts of this length, one has a letter in the first place and the other a hyphen in the
third. -/
lemma ofText?_localText (h : stamp.WellFormed) : ofText? stamp.localText = none := by
  have hdigit : ∀ i < 4, ∃ c, stamp.localText[i]? = some c ∧ isDecimalDigit c = true := by
    intro i hi
    have hlt : i < stamp.year.length := h.year.1.symm ▸ hi
    have hsome : stamp.localText[i]? = some stamp.year[i] := by
      simp [localText, DateStyle.join, List.getElem?_append_left hlt]
    exact ⟨_, hsome, h.year.2 _ (List.getElem_mem hlt)⟩
  rw [ofText?, List.find?_eq_none]
  intro layout _ hfits
  have hlength := length_of_fits hfits
  rw [length_localText h] at hlength
  obtain rfl | rfl : layout = .monthDayTimeZone ∨ layout = .numeric := by
    revert hlength
    cases layout <;> decide
  · obtain ⟨c, hc, hdigit⟩ := hdigit 0 (by decide)
    have hcapital : c.isUpper = true := admits_of_fits hfits (i := 0) rfl hc
    rw [isDecimalDigit_of_isAlpha (isAlpha_of_isUpper hcapital)] at hdigit
    cases hdigit
  · obtain ⟨c, hc, hdigit⟩ := hdigit 2 (by decide)
    obtain rfl : '-' = c := beq_iff_eq.1 (admits_of_fits hfits (i := 2) rfl hc)
    revert hdigit
    decide

lemma exists_ofFields_eq_error (h : stamp.WellFormed)
    (hoffset : stamp.offset = none ∨ stamp.offset = some .zulu) {whole : Fields}
    (hwhole : whole.get? "date" = some stamp.text) (now : Moment) :
    ∃ t, DateText.ofFields whole now = .error t := by
  rw [DateText.ofFields, hwhole]
  dsimp only
  obtain hnone | hzulu := hoffset
  · refine ⟨stamp.localText, ?_⟩
    have hexpand : DateText.expandOffset stamp.offsetText = [] := by
      rw [offsetText, hnone]
      rfl
    rw [ofWhole_text h (by simp [hnone]), hexpand, List.append_nil, DateText.accept,
      ofText?_localText h]
    rfl
  · refine ⟨stamp.text, if_pos ?_⟩
    simp [text, offsetText, hzulu, OffsetForm.text]

/-! ## In parts -/

variable {parts : Fields}

lemma tellsParts (h : stamp.WellFormed) (hparts : parts.HoldsStamp stamp) : parts.TellsParts := by
  have hrun : ∀ {n t}, n ≠ 0 → HasDigits n t → t ≠ [] ∧ ∀ c ∈ t, isDecimalDigit c = true := by
    rintro n t hn ht
    refine ⟨?_, ht.2⟩
    rintro rfl
    exact hn ht.1.symm
  constructor
  · exact hparts.absent "date" (by simp)
  · exact ⟨"year", by decide, Option.isSome_of_eq_some hparts.year⟩
  · simp only [List.forall_mem_cons, List.not_mem_nil, IsEmpty.forall_iff, implies_true, and_true,
      hparts.year, hparts.day, hparts.hour, hparts.minute, hparts.second, Option.mem_def,
      Option.some.injEq, forall_eq']
    exact ⟨hrun (by decide) h.year, hrun (by decide) h.time.day, hrun (by decide) h.time.hour,
      hrun (by decide) h.time.minute, hrun (by decide) h.time.second⟩
  · intro t ht
    rw [hparts.month] at ht
    obtain rfl := Option.some.inj ht
    exact ⟨.posint, by simp, Reader.mem_runOf.2 (hrun (by decide) h.month)⟩
  · intro t ht
    rw [hparts.offset] at ht
    obtain ⟨form, hform, rfl⟩ := Option.map_eq_some_iff.1 ht
    exact Token.mem_offset_iff.2 ⟨form, h.offset form hform, rfl⟩

lemma partsOf_eq (h : stamp.WellFormed)
    (hoffset : stamp.offset = some (.signed sign hours minutes colon))
    (hparts : parts.HoldsStamp stamp) (clock : LocalTime) :
    DateText.partsOf clock parts = ⟨stamp.year, DateText.wordOf stamp.month, stamp.day, stamp.hour,
      stamp.minute, stamp.second, sign :: (hours ++ ':' :: minutes)⟩ := by
  have hform := h.offset _ hoffset
  have htold : parts.get? "timeOffset" =
      some (OffsetForm.signed sign hours minutes colon).text := by
    rw [hparts.offset, hoffset, Option.map_some]
  have hzulu : ¬ parts.TellsZulu := by
    rintro (hmark | ⟨digits, hdigits⟩)
    · rw [htold] at hmark
      have hmem : 'Z' ∈ (OffsetForm.signed sign hours minutes colon).text := by
        rw [Option.some.inj hmark]
        exact List.mem_singleton_self _
      exact notMem_signed hform (by decide) (by decide) hmem
    · rw [hparts.fraction] at hdigits
      have hdigit := (h.fraction _ hdigits).2 'Z' (by simp)
      revert hdigit
      decide
  have hpart : ∀ {name t}, parts.get? name = some t → HasDigits 2 t →
      ∀ current, DateText.partText parts name current = t := by
    intro name t hname ht current
    rw [DateText.partText, hname, Option.map_some, Option.getD_some,
      DateText.twoPlaces_of_hasDigits ht]
  rw [DateText.partsOf, DateText.monthText_eq, hparts.year, hparts.month,
    hpart hparts.day h.time.day, hpart hparts.hour h.time.hour, hpart hparts.minute h.time.minute,
    hpart hparts.second h.time.second, DateText.offsetText_of_signed hform htold,
    DateText.zoneText_of_not_tellsZulu hzulu, hparts.absent "timeZone" (by simp)]
  simp

lemma exists_ofFields_parts (h : stamp.WellFormed)
    (hoffset : stamp.offset = some (.signed sign hours minutes colon))
    (hparts : parts.HoldsStamp stamp) (hmonth : stamp.month.all Char.isDigit = true)
    (now : Moment) :
    ∃ t, DateText.ofFields parts now = .ok ⟨t, .message⟩ ∧
      Carries numericOffset.places t fun part =>
        localParts stamp.year stamp.month stamp.day stamp.hour stamp.minute stamp.second part ++
          only .offset (sign :: (hours ++ ':' :: minutes)) part := by
  have htells := tellsParts h hparts
  obtain ⟨hsign, hhours, hminutes⟩ := h.offset _ hoffset
  have hmark := carries_offset hsign hhours hminutes
  have hword : DateText.wordOf stamp.month = stamp.month := by
    rw [DateText.wordOf, if_pos hmonth, DateText.twoPlaces_of_hasDigits h.month]
  have hjoined := partsOf_eq h hoffset hparts now.localTime
  rw [hword] at hjoined
  have hstyle : DateText.styleOf stamp.month = .numeric := if_pos hmonth
  have hfits : JoinedDate.Fits .numeric ⟨stamp.year, stamp.month, stamp.day, stamp.hour,
      stamp.minute, stamp.second, sign :: (hours ++ ':' :: minutes)⟩ :=
    ⟨h.month, h.year, h.time, ⟨.offset ⟨false, 0, 0⟩, rfl, hmark.admits⟩⟩
  have hlayout : DateStyle.layout? .numeric (.offset ⟨false, 0, 0⟩) = some .numericOffset := rfl
  have hcarries := hfits.carries (.inl rfl) hlayout hmark
  refine ⟨_, ?_, hcarries⟩
  rw [DateText.ofFields_eq_accept htells.date htells.part, DateText.ofParts_eq_text, hjoined,
    hstyle, DateText.accept, hcarries.ofText?]
  rfl

lemma exists_ofFields_parts_eq_error (h : stamp.WellFormed) (hparts : parts.HoldsStamp stamp)
    (hmonth : ¬ stamp.month.all Char.isDigit = true) (now : Moment) :
    ∃ t, DateText.ofFields parts now = .error t := by
  have htells := tellsParts h hparts
  rw [DateText.ofFields_eq_accept htells.date htells.part, DateText.accept]
  refine ⟨_, if_neg fun hsome => ?_⟩
  have hforms := (DateText.exists_forms_iff htells (DateText.hasTwoPlaces_localTime now)).1 hsome
  have hform := hforms.month
  obtain ⟨a, b, hdigits, -⟩ := h.month.exists_two
  rw [hparts.month, hdigits] at hform
  rw [hdigits] at hmonth
  generalize (DateText.partsOf now.localTime parts).month = t at hform
  generalize DateText.styleOf t = style at hform
  cases hform with
  | number hpair hall =>
    cases hpair with
    | pair => exact hmonth (List.all_eq_true.2 hall)

lemma month?_eq_none (h : stamp.WellFormed) (hmonth : ¬ stamp.month.all Char.isDigit = true) :
    month? stamp.month = none := by
  rw [month?, if_neg hmonth, Option.map_eq_none_iff, List.idxOf?_eq_none_iff]
  intro hname
  have hlengths : ∀ name ∈ monthNames, name.length = 3 := by decide
  have hlength := hlengths stamp.month hname
  rw [h.month.1] at hlength
  cases hlength

lemma seconds?_whole_eq_none (h : stamp.WellFormed)
    (hoffset : stamp.offset = some (.signed sign hours minutes colon))
    (hmonth : ¬ stamp.month.all Char.isDigit = true) (now : Moment) :
    DateLayout.seconds? now (stamp.localText ++ (sign :: (hours ++ ':' :: minutes))) = none := by
  rw [Option.eq_none_iff_forall_ne_some]
  intro seconds hseconds
  obtain ⟨time, -, hreads, -⟩ := (seconds?_eq_some_iff (carries_whole h hoffset)).1 hseconds
  have hread : month? (stamp.month ++ []) = some time.date.month := hreads.month
  rw [List.append_nil, month?_eq_none h hmonth] at hread
  cases hread

end Timestamp

/-! ## Instants -/

variable {fields : Fields} {now : Moment}

lemma Grammar.instant_of_ofFields (grammar : Grammar) {t : Text}
    (h : DateText.ofFields fields now = .ok ⟨t, .message⟩) :
    grammar.instant now fields =
      match DateLayout.seconds? now t with
      | some seconds => .ok (seconds * 1000)
      | none => .error (.unparsableDate t) := by
  rw [Grammar.instant, Grammar.reading, h]
  rfl

lemma Grammar.reading_of_ofFields (grammar : Grammar) {t : Text}
    (h : DateText.ofFields fields now = .error t) :
    grammar.reading now fields = .error (.unparsableDate t) := by
  rw [Grammar.reading, h]

/-- Every value of the token is a timestamp. If it has a numeric offset, it has a date in one field,
and the instants that come of this field and of the fields of its parts are the same, or none comes
of either. If it has a Z or no offset, it has no date in one field. -/
theorem Timestamp.instants_agree {s : Text} (hs : s ∈ Token.timestamp.language) :
    (∃ stamp : Timestamp, stamp.WellFormed ∧ stamp.text = s) ∧
    ∀ stamp : Timestamp, stamp.WellFormed → stamp.text = s →
      ∀ whole : Fields, whole.get? "date" = some s → ∀ (now : Moment) (grammar : Grammar),
        (∀ sign hours minutes colon, stamp.offset = some (.signed sign hours minutes colon) →
          (∃ t, DateText.ofFields whole now = .ok ⟨t, .message⟩ ∧ ofText? t = some isoOffset) ∧
          ∀ parts : Fields, parts.HoldsStamp stamp →
            (∃ instant, grammar.instant now whole = .ok instant ∧
              grammar.instant now parts = .ok instant) ∨
            ∃ t t', grammar.instant now whole = .error (.unparsableDate t) ∧
              grammar.instant now parts = .error (.unparsableDate t')) ∧
        (stamp.offset = none ∨ stamp.offset = some .zulu →
          ∃ t, grammar.reading now whole = .error (.unparsableDate t)) := by
  refine ⟨Token.mem_timestamp_iff.1 hs, ?_⟩
  rintro stamp h rfl whole hwhole now grammar
  refine ⟨fun sign hours minutes colon hoffset => ?_, fun hoffset => ?_⟩
  · have hdate := Timestamp.ofFields_whole h hoffset hwhole now
    have hcarries := Timestamp.carries_whole h hoffset
    refine ⟨⟨_, hdate, hcarries.ofText?⟩, fun parts hparts => ?_⟩
    by_cases hmonth : stamp.month.all Char.isDigit = true
    · obtain ⟨t, hdate', hcarries'⟩ := Timestamp.exists_ofFields_parts h hoffset hparts hmonth now
      rw [grammar.instant_of_ofFields hdate, grammar.instant_of_ofFields hdate',
        seconds?_congr hcarries' hcarries]
      cases DateLayout.seconds? now _ with
      | none => exact .inr ⟨_, _, rfl, rfl⟩
      | some seconds => exact .inl ⟨_, rfl, rfl⟩
    · obtain ⟨t, hdate'⟩ := Timestamp.exists_ofFields_parts_eq_error h hparts hmonth now
      have hnone := Timestamp.seconds?_whole_eq_none h hoffset hmonth now
      have hwholeError := grammar.instant_of_ofFields hdate
      have hpartsError : grammar.instant now parts = .error (.unparsableDate t) := by
        rw [Grammar.instant, grammar.reading_of_ofFields hdate']
        rfl
      rw [hnone] at hwholeError
      exact .inr ⟨_, t, hwholeError, hpartsError⟩
  · obtain ⟨t, ht⟩ := Timestamp.exists_ofFields_eq_error h hoffset hwhole now
    exact ⟨t, grammar.reading_of_ofFields ht⟩

/-- The start of the day after a leap day, with a fraction and an offset without a colon, in one
field and in parts; and in Zulu time. -/
theorem Timestamp.instants_agree_leapDay :
    Grammar.instant ⟨0, [], []⟩ ⟨0, 0⟩
        ⟨[("date", ofString "2024-03-01T00:00:00.125+0200")]⟩ = .ok 1709244000000 ∧
    Grammar.instant ⟨0, [], []⟩ ⟨0, 0⟩ ⟨[("year", ofString "2024"), ("month", ofString "03"),
        ("day", ofString "01"), ("hours", ofString "00"), ("minutes", ofString "00"),
        ("seconds", ofString "00"), ("milliseconds", ofString "125"),
        ("timeOffset", ofString "+0200")]⟩ = .ok 1709244000000 ∧
    ∃ t, Grammar.reading ⟨0, [], []⟩ ⟨0, 0⟩ ⟨[("date", ofString "2024-03-01T00:00:00Z")]⟩ =
      .error (.unparsableDate t) := by
  have hyear : HasDigits 4 (ofString "2024") := by decide
  have hmonth : HasDigits 2 (ofString "03") := by decide
  have hzero : HasDigits 2 (ofString "00") := by decide
  have htime : HasTime (ofString "01") (ofString "00") (ofString "00") (ofString "00") :=
    ⟨by decide, hzero, hzero, hzero⟩
  have hoffset : (OffsetForm.signed '+' (ofString "02") (ofString "00") false).WellFormed :=
    ⟨.inl rfl, by decide, hzero⟩
  have hwhole : Grammar.instant ⟨0, [], []⟩ ⟨0, 0⟩
      ⟨[("date", ofString "2024-03-01T00:00:00.125+0200")]⟩ = .ok 1709244000000 := by
    decide +kernel
  refine ⟨hwhole, ?_, ?_⟩
  · obtain ⟨-, hagree⟩ := Timestamp.instants_agree
      (s := ofString "2024-03-01T00:00:00.125+0200") (by decide +kernel)
    have hstamp : Timestamp.WellFormed ⟨ofString "2024", ofString "03", ofString "01",
        ofString "00", ofString "00", ofString "00", some (ofString "125"),
        some (.signed '+' (ofString "02") (ofString "00") false)⟩ :=
      ⟨hyear, hmonth, htime, by decide, by simpa using hoffset⟩
    obtain ⟨-, hparts⟩ := (hagree _ hstamp (by decide)
      ⟨[("date", ofString "2024-03-01T00:00:00.125+0200")]⟩ rfl ⟨0, 0⟩ ⟨0, [], []⟩).1 _ _ _ _ rfl
    obtain ⟨instant, hsame, hinstant⟩ | ⟨t, -, herror, -⟩ := hparts
      ⟨[("year", ofString "2024"), ("month", ofString "03"), ("day", ofString "01"),
        ("hours", ofString "00"), ("minutes", ofString "00"), ("seconds", ofString "00"),
        ("milliseconds", ofString "125"), ("timeOffset", ofString "+0200")]⟩
      ⟨rfl, rfl, rfl, rfl, rfl, rfl, rfl, rfl, by decide⟩
    · rw [hinstant, ← hsame, hwhole]
    · rw [hwhole] at herror
      cases herror
  · obtain ⟨-, hagree⟩ := Timestamp.instants_agree (s := ofString "2024-03-01T00:00:00Z")
      (by decide +kernel)
    have hstamp : Timestamp.WellFormed ⟨ofString "2024", ofString "03", ofString "01",
        ofString "00", ofString "00", ofString "00", none, some .zulu⟩ :=
      ⟨hyear, hmonth, htime, nofun, by simp [OffsetForm.WellFormed]⟩
    exact (hagree _ hstamp (by decide) _ rfl ⟨0, 0⟩ ⟨0, [], []⟩).2 (.inr rfl)

end Syslog
