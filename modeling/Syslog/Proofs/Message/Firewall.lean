import Syslog.Proofs.Catalog.Parts
import Syslog.Proofs.Collector.Counting
import Syslog.Proofs.Collector.SelfContained
import Syslog.Proofs.DateText.Tokens
import Syslog.Proofs.Grammar.ElementScan
import Syslog.Proofs.Record.Names

/-!
# Firewall messages

A firewall tells its message in values between commas, after the time and the host. Its body is put
together again from these values, and that is the text after the first four words with the blanks
between the date and the time of receipt made one space, whatever stands in the values.
-/
namespace Syslog
open Text Catalog.Bundled

namespace Text

/-- What follows the first word of a text and the blanks behind the word. -/
def afterWord (t : Text) : Text := trimStart isBlank (t.dropWhile fun c => !isBlank c)

/-- The text with the blanks behind its first word made one space. -/
def closeGap (t : Text) : Text := t.takeWhile (fun c => !isBlank c) ++ ' ' :: afterWord t

variable {word gap rest : Text}

lemma stops_gap (h : IsGap gap rest) : Stops (fun c => !isBlank c) (gap ++ rest) := by
  intro c hc
  simp [h.isBlank_of_mem_head? c hc]

lemma afterWord_append (hword : IsSolid word) (hgap : IsGap gap rest) :
    afterWord (word ++ (gap ++ rest)) = rest := by
  have hdrop : (word ++ (gap ++ rest)).dropWhile (fun c => !isBlank c) = gap ++ rest :=
    dropWhile_append (isSolid_iff.1 hword) (stops_gap hgap)
  rw [afterWord, hdrop, trimStart]
  exact dropWhile_append hgap.blank hgap.stops

lemma closeGap_append (hword : IsSolid word) (hgap : IsGap gap rest) :
    closeGap (word ++ (gap ++ rest)) = word ++ ' ' :: rest := by
  have htake : (word ++ (gap ++ rest)).takeWhile (fun c => !isBlank c) = word :=
    takeWhile_append (isSolid_iff.1 hword) (stops_gap hgap)
  rw [closeGap, htake, afterWord_append hword hgap]

end Text

/-! ## Words -/

/-- Whatever the segments read starts with a word. -/
def OpensWord (segments : List Segment) : Prop := ∀ later, Refuses isBlank (segments ++ later)

/-- Groups of segments with blanks between them and other segments in the end. -/
def spaced : List (List Segment) → List Segment → List Segment
  | [], last => last
  | first :: groups, last => first ++ .blanks :: spaced groups last

section

variable {segments first second last : List Segment} {t : Text} {entries : List (String × Text)}

lemma opensWord_cons {segment : Segment}
    (h : ∀ piece ∈ segment.language, piece ≠ [] ∧ IsSolid piece) :
    OpensWord (segment :: segments) := by
  intro later
  apply refuses_cons
  intro piece hpiece
  obtain ⟨hne, hsolid⟩ := h piece hpiece
  have hstops : Stops isBlank (piece ++ []) := stops_isBlank hne hsolid
  rw [List.append_nil] at hstops
  exact ⟨hne, hstops⟩

lemma OpensWord.append (h : OpensWord segments) (later : List Segment) :
    OpensWord (segments ++ later) := by
  intro last
  rw [List.append_assoc]
  exact h _

lemma OpensWord.refuses (h : OpensWord segments) : Refuses isBlank segments := by
  have hrefuses := h []
  rwa [List.append_nil] at hrefuses

lemma Reads.exists_word (h : Reads (first ++ .blanks :: second) t entries)
    (hfirst : ∀ segment ∈ first, segment.isSolid = true) (hsecond : OpensWord second) :
    ∃ word gap rest before after, t = word ++ (gap ++ rest) ∧ IsSolid word ∧ IsGap gap rest ∧
      Reads first word before ∧ Reads second rest after ∧ entries = before ++ after := by
  obtain ⟨word, u, before, later, hword, hu, rfl, rfl⟩ := reads_append.1 h
  obtain ⟨gap, hgap, rest, after, hrest, rfl, rfl⟩ := reads_cons.1 hu
  obtain ⟨hne, hblank⟩ := Reader.mem_runOf.1 hgap
  exact ⟨word, gap, rest, before, after, rfl, hword.isSolid hfirst,
    ⟨hne, hblank, hsecond.refuses rest after hrest⟩, hword, hrest, rfl⟩

/-- Each group reads a word, and the other segments read what follows these words. -/
theorem Reads.exists_afterWords {groups : List (List Segment)}
    (h : Reads (spaced groups last) t entries)
    (hsolid : ∀ group ∈ groups, ∀ segment ∈ group, segment.isSolid = true)
    (hopens : ∀ group ∈ groups, OpensWord group) (hlast : OpensWord last) :
    ∃ header before after, t = header ++ afterWord^[groups.length] t ∧
      Reads last (afterWord^[groups.length] t) after ∧ entries = before ++ after := by
  induction groups generalizing t entries with
  | nil => exact ⟨[], [], entries, rfl, h, rfl⟩
  | cons first groups ih =>
    rw [List.forall_mem_cons] at hsolid hopens
    have hnext : OpensWord (spaced groups last) := by
      cases groups with
      | nil => exact hlast
      | cons second groups => exact (List.forall_mem_cons.1 hopens.2).1.append _
    obtain ⟨word, gap, rest, found, later, rfl, hword, hgap, -, hrest, rfl⟩ :=
      h.exists_word hsolid.1 hnext
    obtain ⟨header, before, after, hheader, hreads, rfl⟩ := ih hrest hsolid.2 hopens.2
    rw [List.length_cons, Function.iterate_succ_apply, afterWord_append hword hgap]
    refine ⟨word ++ (gap ++ header), found ++ before, after, ?_, hreads, ?_⟩
    · rw [List.append_assoc, List.append_assoc, ← hheader]
    · rw [List.append_assoc]

end

/-! ## Bodies -/

/-- The parts of the body of a firewall message. -/
structure FirewallBody where
  version : Text
  date : Text
  /-- The blanks between the date and the time of receipt. -/
  gap : Text
  time : Text
  serial : Text
  type : Text
  subtype : Text
  message : Text
  deriving DecidableEq, Repr

namespace FirewallBody

def later (body : FirewallBody) : Text :=
  body.time ++ [','] ++ body.serial ++ [','] ++ body.type ++ [','] ++ body.subtype ++ [','] ++
    body.message

def text (body : FirewallBody) : Text :=
  body.version ++ [','] ++ body.date ++ (body.gap ++ body.later)

def entries (body : FirewallBody) : List (String × Text) := [
  ("firewallVersion", body.version), ("recievedate", body.date), ("recievetime", body.time),
  ("serialnumber", body.serial), ("type", body.type), ("subtype", body.subtype),
  ("message", body.message)]

structure WellFormed (body : FirewallBody) : Prop where
  version : body.version ∈ Token.posint.language
  date : body.date ∈ Token.nospace.language
  gap : IsGap body.gap body.later
  time : body.time ∈ Token.time.language
  serial : body.serial ∈ Token.word.language
  type : body.type ∈ Token.word.language
  subtype : body.subtype ∈ Token.word.language

def IsHeldBy (body : FirewallBody) (fields : Fields) : Prop :=
  ∀ entry ∈ body.entries, fields.get? entry.1 = some entry.2

variable {body : FirewallBody} {fields : Fields}

lemma isSolid_firstWord (h : body.WellFormed) : IsSolid (body.version ++ [','] ++ body.date) :=
  isSolid_append.2 ⟨isSolid_append.2 ⟨isSolid_of_mem_posint h.version, by decide⟩,
    (mem_nospace.1 h.date).2⟩

lemma time_ne_nil (h : body.WellFormed) : body.time ≠ [] := by
  obtain ⟨hour, minute, second, -, -, -, hparts⟩ := Token.mem_timesOfDay_iff.1 h.time
  simp [← hparts]

lemma isHeldBy_ofList {before : List (String × Text)} (h : body.WellFormed)
    (hnames : ((before ++ body.entries).map Prod.fst).Nodup)
    (hlast : (Fields.ofList (before ++ body.entries)).contains "message" = true) :
    body.IsHeldBy (.ofList (before ++ body.entries)) := by
  have hheld : ∀ {name value}, (name, value) ∈ body.entries → value ≠ [] →
      (Fields.ofList (before ++ body.entries)).get? name = some value := fun hentry hne =>
    Fields.get?_of_mem_of_ne_nil hnames (List.mem_append_right _ hentry) hne
  have hmessage :
      (Fields.ofList (before ++ body.entries)).get? "message" = some body.message := by
    -- no name is read twice, so what is found under this one is the message of the body
    obtain ⟨value, hvalue⟩ := Option.isSome_iff_exists.1 hlast
    have heq := List.inj_on_of_nodup_map hnames (Fields.mem_of_get?_ofList hvalue)
      (show ("message", body.message) ∈ before ++ body.entries by simp [entries]) rfl
    rw [hvalue, (Prod.mk.inj heq).2]
  have hword : ∀ {value}, value ∈ Token.word.language → value ≠ [] := fun hvalue =>
    (Reader.mem_runOf.1 hvalue).1
  simp only [IsHeldBy, List.forall_mem_cons, entries, List.not_mem_nil, false_implies, implies_true,
    and_true] at hheld hmessage ⊢
  refine ⟨hheld ?_ (mem_posint.1 h.version).1, hheld ?_ (mem_nospace.1 h.date).1,
    hheld ?_ (time_ne_nil h), hheld ?_ (hword h.serial), hheld ?_ (hword h.type),
    hheld ?_ (hword h.subtype), hmessage⟩ <;> simp

lemma csvBody?_eq (h : body.IsHeldBy fields) :
    fields.csvBody? = some { body with gap := [' '] }.text := by
  simp only [IsHeldBy, entries, List.forall_mem_cons, List.not_mem_nil, false_implies,
    implies_true, and_true] at h
  obtain ⟨hversion, hdate, htime, hserial, htype, hsubtype, hmessage⟩ := h
  simp [Fields.csvBody?, hversion, hdate, htime, hserial, htype, hsubtype, hmessage, text, later]

lemma text_eq_closeGap (h : body.WellFormed) :
    { body with gap := [' '] }.text = closeGap body.text := by
  rw [text, text, closeGap_append (isSolid_firstWord h) h.gap]
  rfl

end FirewallBody

namespace Catalog.Bundled

def firewallHeader : List (List Segment) := [
  priority ++ [field .month "month"], [field .posint "day"], timeOfDay, [hostname]]

def firewallLater : List Segment := [
  field .time "recievetime", word ",", field .word "serialnumber", word ",", field .word "type",
  word ",", field .word "subtype", word ",", message]

def firewallBody : List Segment :=
  field .posint "firewallVersion" :: word "," :: ([field .nospace "recievedate"] ++
    .blanks :: firewallLater)

lemma firewallForm_eq : priority ++ firewallForm = spaced firewallHeader firewallBody := rfl

variable {segments : List Segment} {t : Text} {entries : List (String × Text)}

lemma opensWord_posint {name : String} : OpensWord (field .posint name :: segments) :=
  opensWord_cons fun _ hpiece => ⟨(mem_posint.1 hpiece).1, isSolid_of_mem_posint hpiece⟩

lemma opensWord_nospace {name : String} : OpensWord (field .nospace name :: segments) :=
  opensWord_cons fun _ => mem_nospace.1

lemma opensWord_time {name : String} : OpensWord (field .time name :: segments) := by
  apply opensWord_cons
  intro piece hpiece
  obtain ⟨hour, minute, second, -, -, -, hparts⟩ := Token.mem_timesOfDay_iff.1 hpiece
  exact ⟨by simp [← hparts], Token.solid_timesOfDay piece hpiece⟩

lemma opensWord_priority : OpensWord (priority ++ segments) :=
  opensWord_cons fun piece hpiece => by
    rw [Reader.mem_singleton.1 hpiece]
    decide

lemma exists_value_of_reads {type : Token} {name : String}
    (h : Reads (field type name :: word "," :: segments) t entries) :
    ∃ value ∈ type.language, ∃ rest later, Reads segments rest later ∧
      t = value ++ [','] ++ rest ∧ entries = (name, value) :: later := by
  obtain ⟨value, hvalue, u, later, hu, rfl, rfl⟩ := reads_cons.1 h
  obtain ⟨comma, hcomma, rest, found, hrest, rfl, rfl⟩ := reads_cons.1 hu
  obtain rfl := Reader.mem_singleton.1 hcomma
  exact ⟨value, hvalue, rest, found, hrest, (List.append_assoc ..).symm, rfl⟩

lemma exists_body_of_reads (h : Reads firewallBody t entries) :
    ∃ body : FirewallBody, body.WellFormed ∧ body.text = t ∧ entries = body.entries := by
  have hopens : OpensWord firewallLater := opensWord_time
  obtain ⟨version, hversion, _, _, hfromDate, rfl, rfl⟩ := exists_value_of_reads h
  obtain ⟨date, gap, _, _, _, rfl, -, hgap, hreads, hfromTime, rfl⟩ :=
    hfromDate.exists_word (by decide) hopens
  obtain ⟨hdate, rfl⟩ := reads_token.1 hreads
  obtain ⟨time, htime, _, _, hfromSerial, rfl, rfl⟩ := exists_value_of_reads hfromTime
  obtain ⟨serial, hserial, _, _, hfromType, rfl, rfl⟩ := exists_value_of_reads hfromSerial
  obtain ⟨type, htype, _, _, hfromSubtype, rfl, rfl⟩ := exists_value_of_reads hfromType
  obtain ⟨subtype, hsubtype, message, _, hmessage, rfl, rfl⟩ := exists_value_of_reads hfromSubtype
  obtain ⟨-, rfl⟩ := reads_token.1 hmessage
  have hlater : FirewallBody.later ⟨version, date, gap, time, serial, type, subtype, message⟩ =
      time ++ [','] ++ (serial ++ [','] ++ (type ++ [','] ++ (subtype ++ [','] ++ message))) := by
    simp [FirewallBody.later]
  refine ⟨⟨version, date, gap, time, serial, type, subtype, message⟩,
    ⟨hversion, hdate, hlater ▸ hgap, htime, hserial, htype, hsubtype⟩, ?_, rfl⟩
  rw [FirewallBody.text, hlater, List.append_assoc]

theorem exists_body_of_reads_firewallForm (h : Reads (priority ++ firewallForm) t entries) :
    ∃ (header : Text) (body : FirewallBody) (before : List (String × Text)), body.WellFormed ∧
      body.text = afterWord^[4] t ∧ t = header ++ body.text ∧ entries = before ++ body.entries := by
  have hsolid : ∀ group ∈ firewallHeader, ∀ segment ∈ group, segment.isSolid = true := by decide
  have hopens : ∀ group ∈ firewallHeader, OpensWord group := by
    simp only [firewallHeader, List.forall_mem_cons, List.not_mem_nil, false_implies, implies_true,
      and_true]
    exact ⟨opensWord_priority, opensWord_posint, opensWord_posint, opensWord_nospace⟩
  rw [firewallForm_eq] at h
  obtain ⟨header, before, after, hheader, hafter, rfl⟩ :=
    h.exists_afterWords hsolid hopens opensWord_posint
  obtain ⟨body, hbody, htext, rfl⟩ := exists_body_of_reads hafter
  exact ⟨header, body, before, hbody, htext, htext ▸ hheader, rfl⟩

end Catalog.Bundled

namespace Collector

variable {collector : Collector} {system : Instant} {raw : List UInt8} {fields : Fields}
  {record : Record} {i : ℕ}

lemma exists_withTime_of_accepts (haccepts : collector.catalog.Accepts (message raw).1 i fields)
    (hrecord : (collector.collect system raw).1 = .ok record) :
    ∃ index date timestamp clamped,
      record = Record.withTime ⟨index, fields, date⟩ (message raw).2 timestamp clamped := by
  obtain ⟨grammar, -, hread⟩ := haccepts.exists_read_eq
  obtain ⟨reading, hreading, hofReading⟩ := exists_ofReading hrecord
  rw [hread, Grammar.reading] at hreading
  split at hreading
  · next date _ =>
    obtain rfl := Except.ok.inj hreading
    rcases Record.ofReading_cases ⟨grammar.index, fields, date⟩ with
      ⟨timestamp, clamped, hfound⟩ | ⟨_, hfound⟩ | ⟨_, hfound⟩
    · obtain rfl := Except.ok.inj (hfound.symm.trans hofReading)
      exact ⟨grammar.index, date, timestamp, clamped, rfl⟩
    · cases hfound.symm.trans hofReading
    · cases hfound.symm.trans hofReading
  · cases hreading

/-- The record of a firewall message has the text after its first four words for a message, and only
the blanks behind the date of receipt are made one space. -/
theorem message_of_firewall {window : Window} {clock : Clock} {tally : Tally}
    (haccepts : Catalog.bundled.Accepts (message raw).1 10 fields)
    (hlast : fields.contains "message" = true)
    (hrecord : (collect ⟨.bundled, window, clock, tally⟩ system raw).1 = .ok record) :
    ∃ (header : Text) (body : FirewallBody), body.WellFormed ∧ body.IsHeldBy fields ∧
      (message raw).1 = header ++ body.text ∧
      record.message = { body with gap := [' '] }.text ∧
      body.text = afterWord^[4] (message raw).1 ∧
      record.message = closeGap (afterWord^[4] (message raw).1) := by
  obtain ⟨found, hgrammar, hverdict⟩ := haccepts.accepted
  obtain rfl : grammar 10 (Catalog.Bundled.priority ++ firewallForm) = found :=
    Option.some.inj hgrammar
  obtain ⟨hfields, -⟩ := Grammar.of_verdict_eq_accepted hverdict
  obtain ⟨entries, hreads, rfl⟩ := Grammar.reads_of_fieldsOf?_eq_some hfields
  obtain ⟨index, date, timestamp, clamped, rfl⟩ := exists_withTime_of_accepts haccepts hrecord
  have hnames : (entries.map Prod.fst).Nodup := by
    rw [hreads.names]
    decide
  obtain ⟨header, body, before, hbody, htext, hheader, rfl⟩ :=
    exists_body_of_reads_firewallForm hreads
  have hheld := FirewallBody.isHeldBy_ofList hbody hnames hlast
  have hmessage : (Fields.ofList (before ++ body.entries)).body =
      { body with gap := [' '] }.text := by
    rw [Fields.body, FirewallBody.csvBody?_eq hheld]
    rfl
  refine ⟨header, body, hbody, hheld, hheader, hmessage, htext, ?_⟩
  rw [← htext, ← FirewallBody.text_eq_closeGap hbody]
  exact hmessage

/-- A firewall message with a comma in the date of receipt and two blanks behind it. -/
def traffic : List UInt8 := Utf8.encode (ofString
  "<14>Jun 2  01:59:06 PA-VM 1,2024/06/02,x \t01:59:06,0128,TRAFFIC,end,2049, ,10.0.0.1\n")

def trafficFields : Fields := ⟨[("facilityCode", ofString "14"), ("month", ofString "Jun"),
  ("day", ['2']), ("hours", ofString "01"), ("minutes", ofString "59"), ("seconds", ofString "06"),
  ("hostname", ofString "PA-VM"), ("firewallVersion", ['1']),
  ("recievedate", ofString "2024/06/02,x"), ("recievetime", ofString "01:59:06"),
  ("serialnumber", ofString "0128"), ("type", ofString "TRAFFIC"), ("subtype", ofString "end"),
  ("message", ofString "2049, ,10.0.0.1")]⟩

def trafficRecord : Record where
  facility := some .user
  severity := some .informational
  version := 0
  hostname := some (ofString "PA-VM")
  processName := none
  processId := 0
  messageId := none
  structuredData := none
  message := ofString "1,2024/06/02,x 01:59:06,0128,TRAFFIC,end,2049, ,10.0.0.1"
  timestamp := 1717293546000
  sourceAddress := none
  grammarIndex := 10
  clamped := false

theorem message_of_traffic :
    Catalog.bundled.Accepts (message traffic).1 10 trafficFields ∧
    (collect ⟨.bundled, .standard, .fixed ⟨1717293546000, 0⟩, .empty 23⟩ 0 traffic).1 =
      .ok trafficRecord ∧
    trafficRecord.message = closeGap (afterWord^[4] (message traffic).1) := by
  have haccepts : Catalog.bundled.Accepts (message traffic).1 10 trafficFields :=
    ⟨⟨_, rfl, by decide +kernel⟩, by decide +kernel⟩
  have hrecord : (collect ⟨.bundled, .standard, .fixed ⟨1717293546000, 0⟩, .empty 23⟩ 0 traffic).1 =
      .ok trafficRecord := by decide +kernel
  obtain ⟨_, _, _, _, _, _, _, hmessage⟩ := message_of_firewall haccepts (by decide) hrecord
  exact ⟨haccepts, hrecord, hmessage⟩

end Collector
end Syslog
