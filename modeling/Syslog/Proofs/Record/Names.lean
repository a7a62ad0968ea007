import Syslog.Proofs.Collector.Counting
import Syslog.Proofs.Grammar.Words
import Syslog.Proofs.HostName
import Syslog.Proofs.Record.Values

/-!
# Names in records

The vetoes look at the values that a grammar takes from a message; a record holds what these values
mean. The two differ for a value that begins with a byte order mark or the word for one: the rest is
recorded without another look. Every other host in a record is a host name, and every other process
name is one.
-/
namespace Syslog
open Text

lemma processNameFault?_eq_none_iff {t : Text} :
    processNameFault? t = none ↔
      t ≠ [] ∧ HostName.namesHost t = false ∧ ¬ ('[' ∈ t ∧ ']' ∈ t) ∧
        Zone.isAbbreviation t = false ∧ ':' ∉ t ∧ ¬ (t.length = 3 ∧ t.head? = some 'T') := by
  rw [processNameFault?]
  grind

theorem processNameFault?_of_subset {t s : Text} (h : processNameFault? t = none) (hne : s ≠ [])
    (hsubset : s ⊆ t) :
    processNameFault? s ∈ [none, some .host, some .zone, some .cutOffZone] := by
  obtain ⟨-, -, hbrackets, -, hcolon, -⟩ := processNameFault?_eq_none_iff.1 h
  have hbrackets' : ¬ ('[' ∈ s ∧ ']' ∈ s) := fun hs => hbrackets ⟨hsubset hs.1, hsubset hs.2⟩
  have hcolon' : ':' ∉ s := fun hs => hcolon (hsubset hs)
  rw [processNameFault?]
  grind

namespace Fields

/-- The marks that a recorded value has lost. -/
def marks : List Text := [markWord, byteOrderMark]

/-- A value is recorded as it stands, or it is what is left after a mark. -/
theorem cases_of_meaning? {captured value : Text} (h : meaning? captured = some value) :
    captured ≠ nilValue ∧ value ≠ [] ∧
      (captured = value ∨ ∃ mark ∈ marks, ∃ rest, captured = mark ++ rest ∧ value = trim rest) := by
  have hnil : captured ≠ nilValue := by
    rintro rfl
    cases h
  rw [meaning?, if_neg hnil] at h
  simp only [Option.ite_none_left_eq_some, Option.some.injEq, List.isEmpty_iff] at h
  obtain ⟨hne, rfl⟩ := h
  refine ⟨hnil, hne, ?_⟩
  cases hafter : after? markWord captured <|> after? byteOrderMark captured with
  | none => exact .inl rfl
  | some rest =>
    right
    rw [Option.orElse_eq_orElse, Option.orElse_eq_or] at hafter
    rcases Option.or_eq_some_iff.1 hafter with hword | ⟨-, hmark⟩
    · exact ⟨markWord, by simp [marks], rest, after?_eq_some_iff.1 hword, rfl⟩
    · exact ⟨byteOrderMark, by simp [marks], rest, after?_eq_some_iff.1 hmark, rfl⟩

lemma length_le_of_meaning? {captured value : Text} (h : meaning? captured = some value) :
    value.length ≤ captured.length := by
  obtain ⟨-, -, rfl | ⟨mark, -, rest, rfl, rfl⟩⟩ := cases_of_meaning? h
  · exact Nat.le_refl _
  · exact ((trim_sublist rest).trans (List.sublist_append_right mark rest)).length_le

lemma length_getD_meaning?_le (captured : Text) :
    ((meaning? captured).getD []).length ≤ captured.length := by
  cases h : meaning? captured with
  | none => exact Nat.zero_le _
  | some value => exact length_le_of_meaning? h

lemma Unmarked.append_cons {s t : Text} (h : Unmarked s) : Unmarked (s ++ ' ' :: t) :=
  ⟨fun hword => h.1 (prefix_append_cons (by decide) hword),
    fun hmark => h.2 (prefix_append_cons (by decide) hmark)⟩

lemma mem_of_get?_ofList {entries : List (String × Text)} {name : String} {value : Text}
    (h : (ofList entries).get? name = some value) : (name, value) ∈ entries := by
  induction entries using List.reverseRecOn with
  | nil => cases h
  | append_singleton entries entry ih =>
    rw [ofList_append, List.foldl_cons, List.foldl_nil, get?_insert] at h
    split at h
    · next hname =>
      split at h
      · cases h
      · obtain rfl := Option.some.inj h
        simp [hname]
    · exact List.mem_append_left _ (ih h)

end Fields

lemma Reads.get?_eq_none {segments : List Segment} {t : Text} {entries : List (String × Text)}
    (h : Reads segments t entries) {name : String}
    (hname : name ∉ segments.filterMap Segment.field?) :
    (Fields.ofList entries).get? name = none := by
  rw [← h.names] at hname
  exact Option.eq_none_iff_forall_ne_some.2 fun value hvalue =>
    hname (List.mem_map.2 ⟨_, Fields.mem_of_get?_ofList hvalue, rfl⟩)

theorem Reads.infix_of_mem {segments : List Segment} {t : Text} {entries : List (String × Text)}
    (h : Reads segments t entries) {name : String} {value : Text} (hmem : (name, value) ∈ entries) :
    value <:+: t := by
  induction h with
  | nil => cases hmem
  | @cons segment segments piece rest entries _ _ ih =>
    rcases List.mem_append.1 hmem with hmem | hmem
    · obtain ⟨field, -, hentry⟩ := Option.map_eq_some_iff.1 (Option.mem_toList.1 hmem)
      obtain ⟨-, rfl⟩ := Prod.mk.inj hentry
      exact (List.prefix_append _ rest).isInfix
    · exact (ih hmem).trans (List.suffix_append _ rest).isInfix

lemma Grammar.infix_of_get? {grammar : Grammar} {t : Text} {fields : Fields}
    (h : grammar.fieldsOf? t = some fields) {name : String} {value : Text}
    (hget : fields.get? name = some value) : value <:+: t := by
  obtain ⟨entries, hreads, rfl⟩ := reads_of_fieldsOf?_eq_some h
  exact hreads.infix_of_mem (Fields.mem_of_get?_ofList hget)

theorem hostName_of_meaning? {captured host : Text} (h : Fields.meaning? captured = some host)
    (hvalid : captured = nilValue ∨ HostName.isValid captured = true) :
    HostName.isValid host = true ∨
      captured = Fields.markWord ++ host ∧ (host.head? = some '-' ∨ host.head? = some '.') := by
  obtain ⟨hnil, hne, rfl | ⟨mark, hmark, rest, rfl, rfl⟩⟩ := Fields.cases_of_meaning? h
  · exact .inl (hvalid.resolve_left hnil)
  · have hcaptured := hvalid.resolve_left hnil
    have hsolid : IsSolid rest := (isSolid_append.1 (HostName.isSolid_of_isValid hcaptured)).2
    rw [trim_of_isSolid hsolid] at hne ⊢
    obtain ⟨c, later, rfl⟩ := List.exists_cons_of_ne_nil hne
    rcases List.mem_pair.1 hmark with rfl | rfl
    · rcases HostName.isValid_of_append (by decide) hcaptured with hvalid | hc | hc
      · exact .inl hvalid
      · exact .inr ⟨rfl, .inl (congrArg some hc)⟩
      · exact .inr ⟨rfl, .inr (congrArg some hc)⟩
    -- no host name holds a byte order mark
    · have hmark : HostName.IsCharacter '\uFEFF' :=
        HostName.isCharacter_of_isValid hcaptured (by simp [Fields.byteOrderMark])
      simp [HostName.IsCharacter] at hmark

theorem processName_of_meaning? {captured name : Text} (h : Fields.meaning? captured = some name)
    (hvalid : captured = nilValue ∨ processNameFault? captured = none) :
    processNameFault? name = none ∨
      (∃ mark ∈ Fields.marks, ∃ rest, captured = mark ++ rest ∧ name = trim rest) ∧
        processNameFault? name ∈ [some .host, some .zone, some .cutOffZone] := by
  obtain ⟨hnil, hne, rfl | ⟨mark, hmark, rest, rfl, rfl⟩⟩ := Fields.cases_of_meaning? h
  · exact .inl (hvalid.resolve_left hnil)
  · have hfault := processNameFault?_of_subset (hvalid.resolve_left hnil) hne
      ((trim_sublist rest).trans (List.sublist_append_right mark rest)).subset
    rcases List.mem_cons.1 hfault with hfault | hfault
    · exact .inl hfault
    · exact .inr ⟨⟨mark, hmark, rest, rfl, rfl⟩, hfault⟩

/-- What the names in the record of a text are. What a mark stood before was not looked at again:
such a host may begin with a hyphen or a point, and such a name may be that of a host, a zone or a
cut-off zone. -/
structure Record.Named (record : Record) (t : Text) : Prop where
  hostname : ∀ host ∈ record.hostname, HostName.isValid host = true ∨
    Fields.markWord ++ host <:+: t ∧ (host.head? = some '-' ∨ host.head? = some '.')
  processName : ∀ name ∈ record.processName, processNameFault? name = none ∨
    (∃ mark ∈ Fields.marks, ∃ rest, mark ++ rest <:+: t ∧ name = trim rest) ∧
      processNameFault? name ∈ [some .host, some .zone, some .cutOffZone]

namespace Collector

/-- Every record names a host and a program that would not be vetoed, but for what it has of values
with a mark. -/
theorem named_of_collect {collector : Collector} {system : Instant} {raw : List UInt8}
    {record : Record} (h : (collector.collect system raw).1 = .ok record) :
    record.Named (message raw).1 := by
  obtain ⟨grammar, -, reading, timestamp, clamped, hverdict, -, rfl⟩ := exists_of_readAt h
  obtain ⟨hfields, hveto⟩ := Grammar.of_verdict_eq_accepted hverdict
  obtain ⟨hhosts, hnames⟩ := Fields.veto?_eq_none_iff.1 hveto
  constructor
  · intro host hhost
    obtain ⟨captured, hget, hmeaning⟩ := Option.bind_eq_some_iff.1 hhost
    have hwithin := Grammar.infix_of_get? hfields hget
    refine (hostName_of_meaning? hmeaning (hhosts captured hget)).imp_right ?_
    rintro ⟨rfl, hhead⟩
    exact ⟨hwithin, hhead⟩
  · intro name hname
    obtain ⟨captured, hget, hmeaning⟩ := Option.bind_eq_some_iff.1 hname
    have hwithin := Grammar.infix_of_get? hfields hget
    refine (processName_of_meaning? hmeaning (hnames captured hget)).imp_right ?_
    rintro ⟨⟨mark, hmark, rest, rfl, hrest⟩, hfault⟩
    exact ⟨⟨mark, hmark, rest, hwithin, hrest⟩, hfault⟩

def inOctober : Collector :=
  ⟨.bundled, .standard, .fixed ⟨1728684855000, 0⟩, .empty Catalog.bundled.size⟩

def hyphened : List UInt8 := Utf8.encode (ofString "<13>Oct 11 22:14:15 BOM-x app: hi")

def hyphenedRecord : Record where
  facility := some .user
  severity := some .notice
  version := 0
  hostname := some (ofString "-x")
  processName := some (ofString "app")
  processId := 0
  messageId := none
  structuredData := none
  message := ofString "hi"
  timestamp := 1728684855000
  sourceAddress := none
  grammarIndex := 16
  clamped := false

theorem named_hyphened :
    (inOctober.collect 0 hyphened).1 = .ok hyphenedRecord ∧
      hyphenedRecord.Named (message hyphened).1 := by
  have h : (inOctober.collect 0 hyphened).1 = .ok hyphenedRecord := by decide +kernel
  exact ⟨h, named_of_collect h⟩

/-- A zone after a mark is recorded as the name of a program, although it is vetoed as one. -/
theorem collect_marked_zone :
    (inOctober.collect 0
      (Utf8.encode (ofString "<13>Oct 11 22:14:15 BOMUTC: something happened"))).1 = .ok {
        facility := some .user
        severity := some .notice
        version := 0
        hostname := none
        processName := some (ofString "UTC")
        processId := 0
        messageId := none
        structuredData := none
        message := ofString "something happened"
        timestamp := 1728684855000
        sourceAddress := none
        grammarIndex := 18
        clamped := false } ∧
    processNameFault? (ofString "UTC") = some .zone := by
  decide +kernel

end Collector
end Syslog
