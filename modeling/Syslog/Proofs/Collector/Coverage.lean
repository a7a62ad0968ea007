import Syslog.Proofs.Catalog.FirstAccepted
import Syslog.Proofs.Catalog.Parts
import Syslog.Proofs.Collector.Counting
import Syslog.Proofs.Record.Values

/-!
# What the bundled grammars cover

Every bundled grammar starts with a priority: digits of any script between angle brackets. A text
that has none is taken by no grammar, and a text that has one by the last grammar at the latest,
which asks for nothing else and names no host and no program that could be vetoed. All grammars take
the same digits for the priority.
-/
namespace Syslog
open Text

/-- The text starts with a run of digits between angle brackets. -/
def Text.OpensWith (digits t : Text) : Prop :=
  digits ≠ [] ∧ (∀ c ∈ digits, isDecimalDigit c = true) ∧ ∃ rest, t = '<' :: (digits ++ '>' :: rest)

lemma Text.OpensWith.unique {digits others t : Text} (h : OpensWith digits t)
    (hothers : OpensWith others t) : digits = others := by
  obtain ⟨-, hdigits, rest, rfl⟩ := h
  obtain ⟨-, hrun, later, htext⟩ := hothers
  exact (run_unique hdigits (stops_cons.2 (by decide)) hrun (stops_cons.2 (by decide))
    (List.cons.inj htext).2).1

namespace Catalog

namespace Bundled

def bodies : List (List Segment) :=
  structuredForms ++ isoForms ++ [firewallForm, identifiedForm] ++ monthForms ++ undatedForms

lemma facilityCode_notMem_bodies : ∀ body ∈ bodies,
    "facilityCode" ∉ body.filterMap Segment.field? := by decide +kernel

lemma segments_of_mem_bundled {grammar : Grammar} (h : grammar ∈ bundled.grammars) :
    ∃ body ∈ bodies, grammar.segments = priority ++ body := by
  obtain ⟨⟨form, index⟩, hform, rfl⟩ := List.mem_map.1 h
  obtain ⟨body, hbody, rfl⟩ := List.mem_map.1 (List.fst_mem_of_mem_zipIdx hform)
  exact ⟨body, hbody, rfl⟩

lemma opensWith_of_reads {body : List Segment} {t : Text} {entries : List (String × Text)}
    (h : Reads (priority ++ body) t entries) :
    ∃ digits rest later, OpensWith digits t ∧ Reads body rest later ∧
      entries = ("facilityCode", digits) :: later := by
  obtain ⟨_, rfl, _, _, hdigits, rfl, rfl⟩ := reads_cons.1 h
  obtain ⟨digits, hmem, _, _, hclose, rfl, rfl⟩ := reads_cons.1 hdigits
  obtain ⟨_, rfl, rest, later, hbody, rfl, rfl⟩ := reads_cons.1 hclose
  obtain ⟨hne, hrun⟩ := mem_posint.1 hmem
  exact ⟨digits, rest, later, ⟨hne, hrun, rest, rfl⟩, hbody, rfl⟩

end Bundled

open Bundled

lemma facilityCode_of_accepted {grammar : Grammar} (hgrammar : grammar ∈ bundled.grammars)
    {t : Text} {fields : Fields} (h : grammar.verdict t = .accepted fields) :
    ∃ digits, OpensWith digits t ∧ fields.get? "facilityCode" = some digits := by
  obtain ⟨body, hbody, hsegments⟩ := segments_of_mem_bundled hgrammar
  obtain ⟨entries, hreads, rfl⟩ :=
    Grammar.reads_of_fieldsOf?_eq_some (Grammar.of_verdict_eq_accepted h).1
  rw [hsegments] at hreads
  obtain ⟨digits, rest, later, hopens, hlater, rfl⟩ := opensWith_of_reads hreads
  refine ⟨digits, hopens, Fields.get?_ofList_of_last (List.nil_append _).symm hopens.1 ?_⟩
  rw [hlater.names]
  exact facilityCode_notMem_bodies body hbody

lemma accepted_of_opensWith {digits t : Text} (h : OpensWith digits t) :
    ∃ grammar ∈ bundled.grammars, ∃ fields, grammar.verdict t = .accepted fields := by
  obtain ⟨hne, hrun, rest, rfl⟩ := h
  have hlast : grammar 22 (priority ++ [message]) ∈ bundled.grammars := by decide +kernel
  have hreads : ∀ other, Reads (priority ++ [message]) ('<' :: (digits ++ '>' :: rest)) other ↔
      other = [("facilityCode", digits), ("message", rest)] := by
    intro other
    rw [reads_priority (mem_posint.2 ⟨hne, hrun⟩)]
    simp [reads_body]
  have hveto : (Fields.ofList [("facilityCode", digits), ("message", rest)]).veto? = none := by
    rw [Fields.veto?_eq_none_iff]
    simp [Fields.ofList]
  exact ⟨_, hlast, _, Grammar.verdict_of_reads hreads hveto⟩

lemma rejects_bundled_iff {t : Text} : bundled.Rejects t ↔ ¬ ∃ digits, OpensWith digits t := by
  constructor
  · rintro hrejects ⟨digits, hopens⟩
    obtain ⟨grammar, hgrammar, fields, haccepted⟩ := accepted_of_opensWith hopens
    exact hrejects grammar hgrammar fields haccepted
  · intro hnone grammar hgrammar fields haccepted
    obtain ⟨digits, hopens, -⟩ := facilityCode_of_accepted hgrammar haccepted
    exact hnone ⟨digits, hopens⟩

lemma read_eq_noMatch_iff {catalog : Catalog} (hempty : catalog.isEmpty = false) (now : Moment)
    (t : Text) (tally : Tally) :
    (catalog.read now t tally).1 = .error .noMatch ↔ catalog.Rejects t := by
  constructor
  · intro h
    rcases catalog.rejects_or_exists_accepts t with hrejects | ⟨i, fields, haccepts⟩
    · exact hrejects
    · obtain ⟨grammar, -, hread⟩ := haccepts.exists_read_eq
      rw [hread, Grammar.reading] at h
      split at h <;> cases h
  · intro h
    rw [h.read_eq hempty]

end Catalog

lemma Record.bind_eq_noMatch_iff {now : Moment} {window : Window} {address : Option Text}
    {result : Except Discard Reading} :
    (result.bind fun reading => ofReading reading now window address) = .error .noMatch ↔
      result = .error .noMatch := by
  cases result with
  | error discard => exact ⟨fun h => congrArg _ (Except.error.inj h), fun h => by rw [h]; rfl⟩
  | ok reading =>
    constructor
    · intro h
      rcases ofReading_cases reading with ⟨_, _, hfound⟩ | ⟨_, hfound⟩ | ⟨_, hfound⟩ <;>
        cases hfound.symm.trans h
    · intro h
      cases h

namespace Collector

/-- A collector of bundled grammars finds no grammar exactly for the messages that do not start with
a priority, and every record has the facility and the severity of that priority, if its number has
eight bits and stands for one. -/
theorem bundled_covers {raw : List UInt8} (h : raw.length ≤ maxDatagram) (clock : Clock)
    (window : Window) (tally : Tally) (system : Instant) :
    ((collect ⟨.bundled, window, clock, tally⟩ system raw).1 = .error .noMatch ↔
        ¬ ∃ digits, OpensWith digits (message raw).1) ∧
      ∀ record, (collect ⟨.bundled, window, clock, tally⟩ system raw).1 = .ok record →
        ∀ digits, OpensWith digits (message raw).1 →
          record.facility =
            ((natural? 256 digits).bind Priority.decode?).map Priority.facility ∧
          record.severity =
            ((natural? 256 digits).bind Priority.decode?).map Priority.severity := by
  constructor
  · have hresult : (collect ⟨.bundled, window, clock, tally⟩ system raw).1 =
        (Catalog.bundled.read (clock.read system) (message raw).1 tally).1.bind fun reading =>
          Record.ofReading reading (clock.read system) window (message raw).2 := by
      rw [collect, examine, readAt, if_neg (Nat.not_lt.2 h)]
    rw [hresult, Record.bind_eq_noMatch_iff, Catalog.read_eq_noMatch_iff rfl,
      Catalog.rejects_bundled_iff]
  · intro record hrecord digits hopens
    have hread : (readAt ⟨.bundled, window, clock, tally⟩ (clock.read system) raw).1 =
      .ok record := hrecord
    obtain ⟨grammar, hgrammar, reading, timestamp, clamped, hverdict, -, rfl⟩ :=
      exists_of_readAt hread
    obtain ⟨found, hfound, hcode⟩ := Catalog.facilityCode_of_accepted hgrammar hverdict
    obtain rfl := hfound.unique hopens
    have hpriority : reading.fields.priority? = (natural? 256 found).bind Priority.decode? := by
      rw [Fields.priority?, hcode, Option.bind_some]
    exact ⟨congrArg (Option.map Priority.facility) hpriority,
      congrArg (Option.map Priority.severity) hpriority⟩

/-- A priority in the digits of another script, which are read as no number. -/
theorem bundled_covers_arabic :
    let raw := Utf8.encode (ofString "<\u0661\u0663>Jun 2 01:59:06 web01 UTC: x")
    ∃ record, (collect ⟨.bundled, .standard, .standard, .empty 23⟩ 1717293600000 raw).1 =
        .ok record ∧ record.facility = none ∧ record.severity = none := by
  intro raw
  have hopens : OpensWith (ofString "\u0661\u0663") (message raw).1 := by
    have hmessage : (message raw).1 = ofString "<\u0661\u0663>Jun 2 01:59:06 web01 UTC: x" := by
      decide +kernel
    rw [hmessage]
    exact ⟨by decide, by decide, ofString "Jun 2 01:59:06 web01 UTC: x", by decide +kernel⟩
  have hisOk : (collect ⟨.bundled, .standard, .standard, .empty 23⟩ 1717293600000 raw).1.isOk =
      true := by decide +kernel
  cases hrecord : (collect ⟨.bundled, .standard, .standard, .empty 23⟩ 1717293600000 raw).1 with
  | error discard =>
    rw [hrecord] at hisOk
    cases hisOk
  | ok record =>
    have hlength : raw.length ≤ maxDatagram := by decide
    exact ⟨record, rfl, (bundled_covers hlength .standard .standard (.empty 23)
      1717293600000).2 record hrecord _ hopens⟩

end Collector
end Syslog
