import Syslog.Proofs.Message.TaggedLine
import Syslog.Proofs.Record.Names

/-!
# Reading tagged lines with a number

After a time in numbers or with a zone no form asks for the number of a process. A form for the line
without the number takes the brackets for a part of the tag and is vetoed. What is left are the
forms that ask for no tag: they take for the message what follows the time or the priority.
-/
namespace Syslog
open Text Catalog.Bundled
open scoped Computability

namespace Catalog.Bundled

lemma exists_of_mem_structuredForms {segments : List Segment} (h : segments ∈ structuredForms) :
    ∃ later, segments = [version] ++ .blanks :: later := by
  simp only [structuredForms, List.map_cons, List.map_nil, List.cons_append, List.nil_append,
    List.mem_cons, List.not_mem_nil, or_false] at h
  rcases h with rfl | rfl | rfl | rfl | rfl | rfl
  all_goals exact ⟨_, rfl⟩

lemma exists_of_mem_isoForms {segments : List Segment} (h : segments ∈ isoForms) :
    ∃ time : List Segment, (∀ segment ∈ time, segment.isSolid = true) ∧
      segments = time ++ .blanks :: (hostname :: .blanks :: plainTag) := by
  simp only [isoForms, List.mem_cons, List.not_mem_nil, or_false] at h
  rcases h with rfl | rfl | rfl | rfl
  · exact ⟨isoTime ++ [zoneOffset], by decide, rfl⟩
  · exact ⟨isoTime ++ fraction, by decide, rfl⟩
  · exact ⟨isoTime, by decide, rfl⟩
  · exact ⟨[field .timestamp "date"], by decide, rfl⟩

lemma exists_of_mem_monthForms {segments : List Segment}
    (h : segments ∈ firewallForm :: monthForms) :
    ∃ later, segments = [field .month "month"] ++ .blanks :: later := by
  simp only [monthForms, List.mem_cons, List.not_mem_nil, or_false] at h
  rcases h with rfl | rfl | rfl | rfl | rfl | rfl | rfl | rfl | rfl
  all_goals exact ⟨_, rfl⟩

lemma cases_of_mem_forms {form : List Segment} (h : form ∈ forms) :
    form ∈ untaggedForms ∨ (∃ numbered, form = taggedForm .year numbered) ∨
      form = taggedForm .zone false ∨
      (∃ segments ∈ undatedForms,
        form = priority ++ (monthDayTime ++ (hostname :: .blanks :: segments))) ∨
      "hostname" ∉ form.filterMap Segment.field? := by
  have hforms : forms = untaggedForms ++ [taggedForm .year true, taggedForm .year false,
      taggedForm .zone false, taggedForm .nothing true, taggedForm .nothing false,
      priority ++ (monthDayTime ++ numberedTag), priority ++ (monthDayTime ++ plainTag),
      priority ++ (monthDayTime ++ (hostname :: .blanks :: [message]))] ++
        undatedForms.map (priority ++ ·) := rfl
  rw [hforms] at h
  simp only [List.mem_append, List.mem_cons, List.not_mem_nil, or_false] at h
  rcases h with (h | rfl | rfl | rfl | rfl | rfl | rfl | rfl | rfl) | h
  · exact .inl h
  · exact .inr (.inl ⟨true, rfl⟩)
  · exact .inr (.inl ⟨false, rfl⟩)
  · exact .inr (.inr (.inl rfl))
  · exact .inr (.inr (.inr (.inl ⟨numberedTag, by simp [undatedForms], rfl⟩)))
  · exact .inr (.inr (.inr (.inl ⟨plainTag, by simp [undatedForms], rfl⟩)))
  · exact .inr (.inr (.inr (.inr (by decide))))
  · exact .inr (.inr (.inr (.inr (by decide))))
  · exact .inr (.inr (.inr (.inl ⟨[message], by simp [undatedForms], rfl⟩)))
  · have hall : ∀ form ∈ undatedForms.map (priority ++ ·),
        "hostname" ∉ form.filterMap Segment.field? := by decide
    exact .inr (.inr (.inr (.inr (hall form h))))

end Catalog.Bundled

lemma getLast?_append_ne {s t : Text} {c : Char} (hne : t ≠ []) (hc : c ∉ t) :
    (s ++ t).getLast? ≠ some c := by
  rw [List.getLast?_append_of_ne_nil s hne]
  exact fun h => hc (List.mem_of_getLast? h)

lemma hyphen_notMem_month {t : Text} (h : t ∈ Token.month.language) : '-' ∉ t := by
  intro hmem
  have hspelling : t.map Token.foldCase ∈ Token.monthSpellings := h
  have hfold : Token.foldCase '-' ∈ t.map Token.foldCase := List.mem_map_of_mem hmem
  have hall : ∀ spelling ∈ Token.monthSpellings, Token.foldCase '-' ∉ spelling := by decide
  exact hall _ hspelling hfold

namespace IsoTime

variable {time : IsoTime}

lemma isSolid_text (h : time.WellFormed) : IsSolid time.text := fun c hc =>
  isBlank_of_isTimeCharacter (isTimeCharacter h c hc)

lemma hyphen_mem_text (h : time.WellFormed) : '-' ∈ time.text := by
  rw [text, LocalTime.text_append h.year.1 h.year.2]
  simp

lemma bracket_notMem_text (h : time.WellFormed) : '[' ∉ time.text := fun hmem =>
  absurd (isTimeCharacter h _ hmem)
    (by simp [IsTimeCharacter, show isDecimalDigit '[' = false by decide])

theorem getLast?_text (h : time.WellFormed) : time.text.getLast? ≠ some ':' := by
  have hdigits : ∀ {width n}, ':' ∉ padded width n := fun hmem =>
    absurd (isDigit_of_mem_padded hmem) (by decide)
  rw [text, fractionText, zoneText]
  cases time.zone with
  | some zone =>
    rw [← List.append_assoc]
    cases zone with
    | zulu => exact getLast?_append_ne (by decide) (by decide)
    | offset written colon =>
      dsimp only
      rw [ZoneMark.text, WrittenOffset.text, ← List.append_assoc, ← List.cons_append,
        ← List.append_assoc]
      exact getLast?_append_ne (padded_ne_nil 2 written.minutes) hdigits
  | none =>
    rw [List.append_nil]
    cases hfraction : time.fraction with
    | some digits =>
      refine getLast?_append_ne (by simp) fun hmem => ?_
      have hcolon := (h.fraction digits hfraction).2 ':' (by simpa using hmem)
      exact absurd hcolon (by decide)
    | none =>
      rw [List.append_nil, LocalTime.text, LocalTime.timeText, ← List.append_assoc]
      exact getLast?_append_ne (padded_ne_nil 2 time.time.second) hdigits

theorem not_reads_month (h : time.WellFormed) {segments : List Segment}
    (hsegments : segments ∈ firewallForm :: monthForms) {rest : Text} (hrest : Stops isBlank rest)
    {found : List (String × Text)} : ¬ Reads segments (time.text ++ ' ' :: rest) found := by
  obtain ⟨later, rfl⟩ := exists_of_mem_monthForms hsegments
  rw [reads_word _ (by decide) (isSolid_text h) hrest]
  rintro ⟨_, _, hmonth, -, -⟩
  exact hyphen_notMem_month (reads_token.1 hmonth).1 (hyphen_mem_text h)

end IsoTime

namespace TaggedLine

variable {line : TaggedLine} {digits : Text} {found : List (String × Text)}

/-- The tag with its number as a form without numbers takes it. -/
def numberedTag (line : TaggedLine) (digits : Text) : Text := line.tag ++ '[' :: (digits ++ [']'])

lemma tagWord_some (line : TaggedLine) (digits : Text) :
    tagWord line.tag (some digits) = line.numberedTag digits ++ [':'] := by
  simp [tagWord, numberedTag]

lemma numberedTag_mem (h : line.WellFormed digits) :
    line.numberedTag digits ∈ Token.nospace.language := by
  have hdigits := isSolid_of_mem_posint (posint_of_isDigit h.number.1 h.number.2.1)
  refine mem_nospace.2 ⟨by simp [numberedTag], ?_⟩
  exact isSolid_append.2 ⟨TaggedMessage.isSolid_of_isTagCharacter h.tag.1,
    isSolid_cons.2 ⟨by decide, isSolid_append.2 ⟨hdigits, by decide⟩⟩⟩

lemma hostname_mem (h : line.WellFormed digits) : line.hostname ∈ Token.nospace.language :=
  hostName_mem_nospace h.hostname

/-- The words after the time of a line with a number. -/
def numberedWords (line : TaggedLine) (digits : Text) : Text :=
  line.hostname ++ ' ' :: (line.numberedTag digits ++ [':'] ++ ' ' :: line.body)

lemma rest_some (line : TaggedLine) (digits : Text) :
    line.rest (some digits) = line.header.text ++ ' ' :: line.numberedWords digits := by
  rw [rest, tagWord_some, numberedWords]

theorem veto_of_reads_plainTag (h : line.WellFormed digits) (before : List (String × Text))
    (hreads : Reads (Catalog.Bundled.hostname :: .blanks :: plainTag) (line.numberedWords digits)
      found) :
    (Fields.ofList (before ++ found)).veto? ≠ none := by
  obtain ⟨later, hlater, rfl⟩ := (reads_nospace (hostname_mem h)
    (List.append_assoc .. ▸ stops_of_mem_nospace (numberedTag_mem h))).1 hreads
  obtain rfl := (reads_plainTag (numberedTag_mem h) h.body.2).1 hlater
  have hentries : before ++ [("hostname", line.hostname), ("processName", line.numberedTag digits),
      ("message", line.body)] = (before ++ [("hostname", line.hostname)]) ++
        ("processName", line.numberedTag digits) :: [("message", line.body)] := by simp
  have hget := Fields.get?_ofList_of_last hentries (mem_nospace.1 (numberedTag_mem h)).1 (by simp)
  intro hveto
  rcases (Fields.veto?_eq_none_iff.1 hveto).2 _ hget with hnil | hname
  · have hbracket : '[' ∈ line.numberedTag digits := by simp [numberedTag]
    exact absurd (hnil ▸ hbracket) (by decide)
  · exact (processNameFault?_eq_none_iff.1 hname).2.2.1 (by simp [numberedTag])

/-- A line with a time in numbers and the number of a process is read by the last form alone. -/
theorem entries_of_reads_iso (h : line.WellFormed digits) {time : IsoTime}
    (hheader : line.header = .iso time) {form : List Segment} (hform : form ∈ forms)
    (hreads : Reads form (line.text (some digits)) found)
    (hveto : (Fields.ofList found).veto? = none) :
    found = [("facilityCode", ofNat line.priority.encode),
      ("message", line.rest (some digits))] := by
  have htime := h.iso hheader
  have hsolid := IsoTime.isSolid_text htime
  have hhyphen := IsoTime.hyphen_mem_text htime
  have hwords : Stops isBlank (line.numberedWords digits) := stops_of_mem_nospace (hostname_mem h)
  have hrest : line.rest (some digits) = time.text ++ ' ' :: line.numberedWords digits := by
    rw [rest_some, hheader, Header.text]
  obtain ⟨segments, hsegments, rfl⟩ := List.mem_map.1 hform
  obtain ⟨later, hlater, rfl⟩ := (reads_priority
    (posint_of_isDigit (ofNat_ne_nil _) fun _ => isDigit_of_mem_ofNat)).1 hreads
  rw [hrest] at hlater
  simp only [List.mem_append, List.mem_cons, List.not_mem_nil, or_false, undatedForms] at hsegments
  rcases hsegments with (((hstructured | hiso) | rfl | rfl) | hmonth) | rfl | rfl | rfl
  · obtain ⟨_, rfl⟩ := exists_of_mem_structuredForms hstructured
    obtain ⟨_, _, hversion, -, -⟩ := (reads_word _ (by decide) hsolid hwords).1 hlater
    have hdigit := (mem_posint.1 (reads_token.1 hversion).1).2 '-' hhyphen
    exact absurd hdigit (by decide)
  · obtain ⟨date, hdate, rfl⟩ := exists_of_mem_isoForms hiso
    obtain ⟨before, after, -, hafter, rfl⟩ := (reads_word _ hdate hsolid hwords).1 hlater
    exact absurd hveto (veto_of_reads_plainTag h (_ :: before) hafter)
  · exact absurd hlater (IsoTime.not_reads_month htime (List.mem_cons_self ..) hwords)
  · obtain ⟨_, _, hidentified, -, -⟩ := (reads_word [field .nospace "messageId", word ":"]
      (by decide) hsolid hwords).1 hlater
    exact absurd (getLast?_of_reads [field .nospace "messageId"] hidentified)
      (IsoTime.getLast?_text htime)
  · exact absurd hlater (IsoTime.not_reads_month htime (List.mem_cons_of_mem _ hmonth) hwords)
  · exact absurd hlater
      (not_reads_numberedTag hsolid (IsoTime.bracket_notMem_text htime) hwords)
  · exact absurd hlater (not_reads_plainTag hsolid (IsoTime.getLast?_text htime) hwords)
  · rw [hrest, ← reads_body.1 hlater]

lemma afterTime_message {time : NamedTime} {abbreviation : Text}
    (haddition : time.addition = .zone abbreviation) :
    (line.message time (some digits)).afterTime =
      abbreviation ++ ' ' :: line.numberedWords digits := by
  simp [TaggedMessage.afterTime, TaggedMessage.later, TaggedMessage.tagText, message, haddition,
    numberedWords, numberedTag]

lemma eq_message_of_reads_words (h : line.WellFormed digits) {segments : List Segment}
    (hsegments : segments ∈ undatedForms)
    (hreads : Reads segments (line.numberedWords digits) found) :
    found = [("message", line.numberedWords digits)] := by
  have hsolid := HostName.isSolid_of_isValid h.hostname
  have hcharacter : ∀ c ∈ line.hostname, HostName.IsCharacter c := fun _ =>
    HostName.isCharacter_of_isValid h.hostname
  have htag : Stops isBlank (line.numberedTag digits ++ [':'] ++ ' ' :: line.body) :=
    List.append_assoc .. ▸ stops_of_mem_nospace (numberedTag_mem h)
  simp only [undatedForms, List.mem_cons, List.not_mem_nil, or_false] at hsegments
  rcases hsegments with rfl | rfl | rfl
  · have hbracket : '[' ∉ line.hostname := fun hmem =>
      absurd (hcharacter _ hmem) (by simp [HostName.IsCharacter])
    exact absurd hreads (not_reads_numberedTag hsolid hbracket htag)
  · have hcolon : ':' ∉ line.hostname := fun hmem =>
      absurd (hcharacter _ hmem) (by simp [HostName.IsCharacter])
    exact absurd hreads
      (not_reads_plainTag hsolid (fun hlast => hcolon (List.mem_of_getLast? hlast)) htag)
  · exact reads_body.1 hreads

/-- A line with a zone and the number of a process is read without a host, or the words after the
zone are taken for the message. -/
theorem values_of_reads_zone (h : line.WellFormed digits) {time : NamedTime}
    (hheader : line.header = .named time) {abbreviation : Text}
    (haddition : time.addition = .zone abbreviation) {form : List Segment} (hform : form ∈ forms)
    (hreads : Reads form (line.text (some digits)) found)
    (hveto : (Fields.ofList found).veto? = none) :
    (Fields.ofList found).get? "hostname" = none ∨
      (Fields.ofList found).get? "firewallVersion" = none ∧
        (Fields.ofList found).get? "message" = some (line.numberedWords digits) := by
  have hnumber : some digits ∈ [none, some digits] := by simp
  have hreadable := readable_message h hnumber hheader
  have hwords : Stops isBlank (line.numberedWords digits) := stops_of_mem_nospace (hostname_mem h)
  obtain ⟨hzoneNe, hzoneSolid⟩ := TaggedMessage.isSolid_zone hreadable haddition
  have hzoneMem := mem_nospace.2 ⟨hzoneNe, hzoneSolid⟩
  rw [← text_message hheader] at hreads
  rcases cases_of_mem_forms hform with
    huntagged | ⟨numbered, rfl⟩ | rfl | ⟨segments, hsegments, rfl⟩ | hnone
  · exact absurd hreads (TaggedMessage.not_reads_untagged hreadable huntagged)
  · refine absurd hreads (TaggedMessage.not_reads_year hreadable ?_)
    simp [TaggedMessage.form, message, haddition]
  · rw [taggedForm, TaggedMessage.reads_text, DateForm.segments] at hreads
    obtain ⟨_, hdated, rfl⟩ := hreads
    rw [List.append_assoc, TaggedMessage.reads_monthDayTime hreadable,
      afterTime_message haddition] at hdated
    obtain ⟨-, _, hzone, rfl⟩ := hdated
    obtain ⟨-, after, hafter, rfl⟩ := (reads_zoneWord hzoneSolid hwords).1 hzone
    refine absurd hveto ?_
    simpa using veto_of_reads_plainTag h (_ :: ((line.message time (some digits)).dayEntries ++
      ((line.message time (some digits)).timeEntries ++ [("timeZone", abbreviation)]))) hafter
  · have hunversioned : ∀ segments ∈ undatedForms, "firewallVersion" ∉ (Catalog.Bundled.priority ++
        (monthDayTime ++ (Catalog.Bundled.hostname :: .blanks :: segments))).filterMap
          Segment.field? := by decide
    refine .inr ⟨hreads.get?_eq_none (hunversioned segments hsegments), ?_⟩
    rw [TaggedMessage.reads_text] at hreads
    obtain ⟨_, hdated, rfl⟩ := hreads
    rw [TaggedMessage.reads_monthDayTime hreadable, afterTime_message haddition] at hdated
    obtain ⟨-, _, hhosted, rfl⟩ := hdated
    obtain ⟨_, hlater, rfl⟩ := (reads_nospace hzoneMem hwords).1 hhosted
    obtain rfl := eq_message_of_reads_words h hsegments hlater
    have hentries : (("facilityCode", ofNat line.priority.encode) ::
        ((line.message time (some digits)).dayEntries ++
          ((line.message time (some digits)).timeEntries ++
            [("hostname", abbreviation), ("message", line.numberedWords digits)]))) =
        (("facilityCode", ofNat line.priority.encode) ::
          ((line.message time (some digits)).dayEntries ++
            ((line.message time (some digits)).timeEntries ++ [("hostname", abbreviation)]))) ++
          ("message", line.numberedWords digits) :: [] := by simp
    exact Fields.get?_ofList_of_last hentries (by simp [numberedWords]) (by simp)
  · exact .inl (hreads.get?_eq_none hnone)

end TaggedLine
end Syslog
