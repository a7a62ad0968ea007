import Syslog.Proofs.Collector.Counting
import Syslog.Proofs.Message.LineReading

/-!
# Numbers of processes

The number of a process after a tag changes nothing in a record but that number and the grammar, if
the time of the line has the name of a month and no zone. For the other times the bundled grammars
lack the form with a number, and the line is read for another one.
-/
namespace Syslog
open Text Catalog.Bundled

/-- Two results are one record, but for the grammar and for the number of the process, which is only
told in the second. -/
def SameButNumber (n : ℕ) (plain numbered : Except Discard Record) : Prop :=
  ∃ record index, plain = .ok record ∧ record.processId = 0 ∧
    numbered = .ok { record with processId := n, grammarIndex := index }

theorem Collector.exists_form_of_collect {clock : Clock} {window : Window} {tally : Tally}
    {system : Instant} {t : Text} {record : Record} (hdeliverable : Deliverable t)
    (h : (collect ⟨.bundled, window, clock, tally⟩ system (Utf8.encode t)).1 = .ok record) :
    ∃ form ∈ forms, ∃ entries, Reads form t entries ∧ (Fields.ofList entries).veto? = none ∧
      ∃ index date timestamp clamped,
        record = Record.withTime ⟨index, .ofList entries, date⟩ none timestamp clamped := by
  obtain ⟨grammar, hgrammar, ⟨index, fields, date⟩, timestamp, clamped, hverdict, -, rfl⟩ :=
    exists_of_readAt (show (readAt ⟨.bundled, window, clock, tally⟩ (clock.read system)
      (Utf8.encode t)).1 = .ok record from h)
  rw [message_encode hdeliverable] at hverdict ⊢
  obtain ⟨hfields, hveto⟩ := Grammar.of_verdict_eq_accepted hverdict
  obtain ⟨entries, hreads, rfl⟩ := Grammar.reads_of_fieldsOf?_eq_some hfields
  obtain ⟨⟨form, i⟩, hform, rfl⟩ := List.mem_map.1 hgrammar
  exact ⟨form, List.fst_mem_of_mem_zipIdx hform, entries, hreads, hveto, index, date, timestamp,
    clamped, rfl⟩

namespace TaggedLine

/-- What a collector of bundled grammars with the standard window makes of a line. -/
def outcome (line : TaggedLine) (clock : Clock) (tally : Tally) (system : Instant)
    (number : Option Text) : Except Discard Record :=
  (Collector.collect ⟨.bundled, .standard, clock, tally⟩ system
    (Utf8.encode (line.text number))).1

variable {line : TaggedLine} {digits : Text} {clock : Clock} {tally tally' : Tally}
  {system : Instant} {record : Record}

section Iso

variable {time : IsoTime} (h : line.WellFormed digits) (hheader : line.header = .iso time)
include h hheader

lemma exists_cons_rest (number : Option Text) :
    ∃ c t, line.rest number = c :: t ∧ c.isDigit = true := by
  obtain ⟨hlow, hhigh⟩ := (h.iso hheader).year
  obtain ⟨c, year, hyear⟩ := List.exists_cons_of_ne_nil (padded_ne_nil 4 time.time.date.year.toNat)
  have hdigit : c.isDigit = true := isDigit_of_mem_padded (hyear ▸ List.mem_cons_self ..)
  rw [rest, hheader, Header.text, IsoTime.text, LocalTime.text_append hlow hhigh, hyear]
  exact ⟨c, _, rfl, hdigit⟩

theorem message_of_outcome_iso (hdeliverable : Deliverable (line.text (some digits)))
    (houtcome : line.outcome clock tally system (some digits) = .ok record) :
    record.message = line.rest (some digits) := by
  obtain ⟨form, hform, entries, hreads, hveto, index, date, timestamp, clamped, rfl⟩ :=
    Collector.exists_form_of_collect hdeliverable houtcome
  obtain rfl := entries_of_reads_iso h hheader hform hreads hveto
  obtain ⟨c, t, hrest, hdigit⟩ := exists_cons_rest h hheader (some digits)
  have hhyphen : c ≠ '-' := ne_of_isDigit hdigit (by decide)
  have hunmarked : Fields.Unmarked (line.rest (some digits)) := by
    rw [hrest]
    exact Fields.unmarked_of_head (ne_of_isDigit hdigit (by decide))
      (ne_of_isDigit hdigit (by decide))
  have hvalues : ∀ entry ∈ [("facilityCode", ofNat line.priority.encode),
      ("message", line.rest (some digits))], entry.2 ≠ [] := by
    simp [ofNat_ne_nil, hrest]
  have hversion := Fields.get?_of_notMem (by simp) hvalues (show "firewallVersion" ∉ _ by simp)
  have hmessage := Fields.get?_of_mem (by simp) hvalues
    (List.mem_cons_of_mem _ (List.mem_singleton_self _))
  rw [Record.withTime, Fields.body_of_get? hversion,
    Fields.value?_of_get? hmessage (by simp [hrest]) hunmarked, hrest, Fields.told_of_head hhyphen,
    Option.getD_some]

theorem length_message_le {number : Option Text} (hdeliverable : Deliverable (line.text number))
    (houtcome : line.outcome clock tally system number = .ok record) :
    record.message.length ≤ (line.rest number).length := by
  obtain ⟨form, hform, entries, hreads, hveto, index, date, timestamp, clamped, rfl⟩ :=
    Collector.exists_form_of_collect hdeliverable houtcome
  have hcode : ofNat line.priority.encode ∈ Token.posint.language :=
    posint_of_isDigit (ofNat_ne_nil _) fun _ => isDigit_of_mem_ofNat
  have hforms : ∀ form ∈ forms, form = Catalog.Bundled.priority ++ firewallForm ∨
      "firewallVersion" ∉ form.filterMap Segment.field? := by decide
  have hversion : (Fields.ofList entries).get? "firewallVersion" = none := by
    refine hreads.get?_eq_none ((hforms form hform).resolve_left ?_)
    rintro rfl
    obtain ⟨later, hlater, -⟩ := (reads_priority hcode).1 hreads
    rw [rest, hheader] at hlater
    exact IsoTime.not_reads_month (h.iso hheader) (List.mem_cons_self ..)
      (stops_of_mem_nospace (hostname_mem h)) hlater
  obtain ⟨segments, -, rfl⟩ := List.mem_map.1 hform
  obtain ⟨later, hlater, rfl⟩ := (reads_priority hcode).1 hreads
  rw [Record.withTime, Fields.body_of_get? hversion]
  cases hvalue : (Fields.ofList (("facilityCode", ofNat line.priority.encode) :: later)).value?
      "message" with
  | none => exact Nat.zero_le _
  | some value =>
    obtain ⟨captured, hget, hmeaning⟩ := Option.bind_eq_some_iff.1 hvalue
    have hmem := List.mem_of_ne_of_mem (by simp) (Fields.mem_of_get?_ofList hget)
    exact (Fields.length_le_of_meaning? hmeaning).trans (hlater.infix_of_mem hmem).length_le

/-- No form with a number takes a time in numbers: the tag with its brackets ends up in the
message. -/
theorem not_sameButNumber_iso {n : ℕ}
    (hdeliverable : ∀ number ∈ [none, some digits], Deliverable (line.text number)) :
    ¬ SameButNumber n (line.outcome clock tally system none)
      (line.outcome clock tally' system (some digits)) := by
  rintro ⟨record, index, hplain, -, hnumbered⟩
  have hlength := length_message_le h hheader (hdeliverable none (by simp)) hplain
  have hmessage := message_of_outcome_iso h hheader (hdeliverable (some digits) (by simp)) hnumbered
  rw [show record.message = line.rest (some digits) from hmessage] at hlength
  simp only [rest, tagWord, List.length_append, List.length_cons, List.length_nil] at hlength
  omega

end Iso

section Named

variable {time : NamedTime} (h : line.WellFormed digits) (hheader : line.header = .named time)
  (hdeliverable : ∀ number ∈ [none, some digits], Deliverable (line.text number))
  (hdate : (line.message time none).Datable (clock.read system))
  (haccepts : Window.standard.Accepts ((line.message time none).instant (clock.read system))
    (clock.read system).instant)
include h hheader hdeliverable hdate haccepts

theorem sameButNumber_named (hzone : time.addition.isZone = false) :
    SameButNumber (Nat.ofDigitChars 10 digits 0) (line.outcome clock tally system none)
      (line.outcome clock tally' system (some digits)) := by
  have hunzoned : ∀ number : Option Text, time.addition.isZone = true → number = none := by
    simp [hzone]
  have hdate' : (line.message time (some digits)).Datable (clock.read system) :=
    ⟨hdate.year, hdate.offset, hdate.time⟩
  refine ⟨(line.message time none).meantRecord (clock.read system),
    (line.message time (some digits)).grammarIndex, ?_, rfl, ?_⟩
  · exact collect_message h (by simp) hheader (hunzoned none) (hdeliverable none (by simp)) clock
      tally system hdate haccepts
  · exact collect_message h (by simp) hheader (hunzoned (some digits))
      (hdeliverable (some digits) (by simp)) clock tally' system hdate' haccepts

/-- No form with a number takes a zone: the words after the zone end up in the message, or the host
is lost. -/
theorem not_sameButNumber_zone {n : ℕ} {abbreviation : Text}
    (haddition : time.addition = .zone abbreviation) :
    ¬ SameButNumber n (line.outcome clock tally system none)
      (line.outcome clock tally' system (some digits)) := by
  rintro ⟨record, index, hplain, -, hnumbered⟩
  rw [outcome, collect_message h (by simp) hheader (fun _ => rfl) (hdeliverable none (by simp))
    clock tally system hdate haccepts] at hplain
  obtain rfl := Except.ok.inj hplain
  obtain ⟨form, hform, entries, hreads, hveto, _, date, timestamp, clamped, hrecord⟩ :=
    Collector.exists_form_of_collect (hdeliverable (some digits) (by simp)) hnumbered
  rcases values_of_reads_zone h hheader haddition hform hreads hveto with
    hhost | ⟨hversion, hmessage⟩
  · have hhosts := congrArg Record.hostname hrecord
    simp only [TaggedMessage.meantRecord, TaggedMessage.record, Record.withTime,
      Fields.value?_of_get?_eq_none hhost] at hhosts
    cases hhosts
  · have hunmarked : Fields.Unmarked (line.numberedWords digits) := h.unmarked.1.append_cons
    have htold : Fields.told (line.numberedWords digits) = some (line.numberedWords digits) := by
      rw [Fields.told, if_neg]
      intro hnil
      have hblank : ' ' ∈ line.numberedWords digits := by simp [numberedWords]
      exact absurd (hnil ▸ hblank) (by decide)
    have hmessages := congrArg Record.message hrecord
    simp only [TaggedMessage.meantRecord, TaggedMessage.record, Record.withTime,
      Fields.body_of_get? hversion,
      Fields.value?_of_get? hmessage (by simp [numberedWords]) hunmarked, htold,
      Option.getD_some] at hmessages
    have hlength := Fields.length_getD_meaning?_le line.body
    rw [show (line.message time none).body = line.body from rfl] at hmessages
    rw [hmessages, numberedWords] at hlength
    simp only [List.length_append, List.length_cons, List.length_nil] at hlength
    omega

end Named

/-- Adding the number of a process changes nothing but that number exactly for the times with the
name of a month and no zone. -/
theorem sameButNumber_iff (h : line.WellFormed digits) (clock : Clock) (tally tally' : Tally)
    (system : Instant)
    (hyear : 1000 ≤ (clock.read system).localTime.date.year ∧
      (clock.read system).localTime.date.year ≤ 9999)
    (hoffset : (clock.read system).offset.natAbs < 86400)
    (hdated : line.IsDated (clock.read system))
    (haccepts : Window.standard.Accepts (line.instant (clock.read system))
      (clock.read system).instant) :
    SameButNumber (Nat.ofDigitChars 10 digits 0) (line.outcome clock tally system none)
      (line.outcome clock tally' system (some digits)) ↔ line.header.takesNumber = true := by
  have htrimmed := h.trimmed
  have hdeliverable : ∀ number ∈ [none, some digits], Deliverable (line.trimmed.text number) :=
    fun _ => deliverable_trimmed h
  have houtcome : ∀ number ∈ [none, some digits], ∀ tally,
      line.outcome clock tally system number = line.trimmed.outcome clock tally system number :=
    fun _ hnumber _ => collect_trimmed h hnumber _ _
  rw [houtcome none (by simp), houtcome (some digits) (by simp)]
  cases hheader : line.header with
  | iso time =>
    exact iff_of_false (not_sameButNumber_iso htrimmed hheader hdeliverable)
      (by simp [Header.takesNumber])
  | named time =>
    rw [IsDated, hheader] at hdated
    rw [instant, hheader] at haccepts
    have hdate : (line.trimmed.message time none).Datable (clock.read system) :=
      ⟨hyear, hoffset, hdated⟩
    cases hzone : time.addition.isZone with
    | false =>
      exact iff_of_true (sameButNumber_named htrimmed hheader hdeliverable hdate haccepts hzone)
        (by simp [Header.takesNumber, hzone])
    | true =>
      obtain ⟨abbreviation, haddition⟩ : ∃ abbreviation, time.addition = .zone abbreviation := by
        cases hcase : time.addition with
        | zone abbreviation => exact ⟨abbreviation, rfl⟩
        | nothing | year number => rw [hcase] at hzone; cases hzone
      exact iff_of_false
        (not_sameButNumber_zone htrimmed hheader hdeliverable hdate haccepts haddition)
        (by simp [Header.takesNumber, hzone])

def juneClock : Clock := .fixed ⟨1717293600000, 7200⟩

/-- A line from a host with a name like a zone, with a mark in its body and a line end after it. -/
def rotated : TaggedLine where
  priority := ⟨.cron, .warning⟩
  header := .named {
    month := 6
    monthName := ofString "june"
    day := 2
    dayDigits := ofString "02"
    hour := 4
    minute := 0
    second := 0
    addition := .nothing }
  hostname := ofString "UTC"
  tag := ofString "log-rotate"
  body := ofString "BOM [1]: - \r\n"

theorem sameButNumber_rotated :
    SameButNumber 7 (rotated.outcome juneClock (.empty 23) 0 none)
      (rotated.outcome juneClock (.empty 23) 0 (some (ofString "007"))) := by
  have h : rotated.WellFormed (ofString "007") := by decide +kernel
  exact (sameButNumber_iff h juneClock (.empty 23) (.empty 23) 0 (by decide) (by decide) rfl
    (by decide +kernel)).2 rfl

def opened : TaggedLine where
  priority := ⟨.auth, .informational⟩
  header := .named {
    month := 6
    monthName := ofString "Jun"
    day := 2
    dayDigits := ofString "2"
    hour := 1
    minute := 59
    second := 6
    addition := .zone (ofString "UTC") }
  hostname := ofString "web01"
  tag := ofString "sshd"
  body := ofString "session opened"

/-- With the number of a process the zone is taken for the host, and the time for one of the clock's
zone. -/
theorem outcome_opened :
    opened.outcome juneClock (.empty 23) 0 none = .ok {
      facility := some .auth
      severity := some .informational
      version := 0
      hostname := some (ofString "web01")
      processName := some (ofString "sshd")
      processId := 0
      messageId := none
      structuredData := none
      message := ofString "session opened"
      timestamp := 1717293546000
      sourceAddress := none
      grammarIndex := 14
      clamped := false } ∧
    opened.outcome juneClock (.empty 23) 0 (some (ofString "42")) = .ok {
      facility := some .auth
      severity := some .informational
      version := 0
      hostname := some (ofString "UTC")
      processName := none
      processId := 0
      messageId := none
      structuredData := none
      message := ofString "web01 sshd[42]: session opened"
      timestamp := 1717286346000
      sourceAddress := none
      grammarIndex := 19
      clamped := false } := by
  decide +kernel

end TaggedLine
end Syslog
