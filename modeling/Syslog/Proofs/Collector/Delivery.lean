import Syslog.Catalog.Bundled
import Syslog.Collector
import Syslog.Proofs.Grammar.Cutting
import Syslog.Proofs.Record.Timely
import Syslog.Proofs.SourceMarker
import Syslog.Proofs.Text.Encoding

/-!
# Delivery of texts

A text without source markers and line end arrives as it is. The grammar that reads it is the first
of its catalog whose verdict accepts it, and what is counted on the way does not change the result.
-/
namespace Syslog
open Text

lemma SourceMarker.free_append {head body : Text} (hhead : '=' ∉ head)
    (hbody : ¬ marker <:+: body) : ¬ marker <:+: head ++ ' ' :: body := by
  intro h
  rcases infix_append_cons (by decide) h with h | h
  · exact hhead (h.subset (by decide))
  · exact hbody h

/-- What a sender may put into a datagram so that it arrives unchanged. -/
structure Deliverable (t : Text) : Prop where
  unmarked : ¬ SourceMarker.marker <:+: t
  ends : ∀ c ∈ t.getLast?, Collector.isLineEnd c = false
  fits : byteLength t ≤ maxDatagram

lemma Collector.message_encode {t : Text} (h : Deliverable t) :
    message (Utf8.encode t) = (t, none) := by
  rw [message, Utf8.decodeLossy_encode, SourceMarker.remove_of_free h.unmarked]
  simp only [trimEnd_eq_self h.ends]

theorem Collector.collect_encode (collector : Collector) (system : Instant) {t : Text}
    (h : Deliverable t) :
    (collector.collect system (Utf8.encode t)).1 =
      (collector.catalog.read (collector.clock.read system) t collector.tally).1.bind
        fun reading =>
          Record.ofReading reading (collector.clock.read system) collector.window none := by
  have hfits : ¬ maxDatagram < (Utf8.encode t).length := by
    rw [Utf8.length_encode]
    exact Nat.not_lt.2 h.fits
  rw [collect, examine, readAt, if_neg hfits, message_encode h]

lemma deliverable_trimEnd {t : Text} (hfree : ¬ SourceMarker.marker <:+: t)
    (hfits : byteLength t ≤ maxDatagram) : Deliverable (trimEnd Collector.isLineEnd t) := by
  have hstart := trimEnd_isPrefix Collector.isLineEnd t
  refine ⟨fun h => hfree (h.trans hstart.isInfix), getLast?_trimEnd, ?_⟩
  obtain ⟨rest, hrest⟩ := hstart
  have hlength := congrArg byteLength hrest
  rw [byteLength_append] at hlength
  omega

theorem Collector.collect_encode_trimEnd (collector : Collector) (system : Instant) {t : Text}
    (hfree : ¬ SourceMarker.marker <:+: t) (hfits : byteLength t ≤ maxDatagram) :
    (collector.collect system (Utf8.encode t)).1 =
      (collector.collect system (Utf8.encode (trimEnd isLineEnd t))).1 := by
  have hmessage : message (Utf8.encode t) = (trimEnd isLineEnd t, none) := by
    rw [message, Utf8.decodeLossy_encode, SourceMarker.remove_of_free hfree]
  have hlarge : ¬ maxDatagram < (Utf8.encode t).length := by
    rw [Utf8.length_encode]
    exact Nat.not_lt.2 hfits
  rw [collect_encode _ _ (deliverable_trimEnd hfree hfits), collect, examine, readAt, if_neg hlarge,
    hmessage]

namespace Catalog

theorem readWith_of_first {now : Moment} {t : Text} {grammars : List Grammar} {i : ℕ}
    {grammar : Grammar} {fields : Fields} (hi : grammars[i]? = some grammar)
    (hbefore : ∀ earlier ∈ grammars.take i, ∀ fields, earlier.verdict t ≠ .accepted fields)
    (haccepted : grammar.verdict t = .accepted fields) (tally : Tally) :
    (readWith now t tally grammars).1 = grammar.reading now fields := by
  induction grammars generalizing i tally with
  | nil => simp at hi
  | cons first grammars ih =>
    cases i with
    | zero =>
      obtain rfl : first = grammar := by simpa using hi
      rw [readWith, haccepted]
    | succ i =>
      have hlater : ∀ tally, (readWith now t tally grammars).1 = grammar.reading now fields :=
        ih (by simpa using hi) fun earlier h => hbefore earlier (by simp [h])
      rw [readWith]
      cases hverdict : first.verdict t with
      | accepted fields => exact absurd hverdict (hbefore first (by simp) fields)
      | vetoed veto => exact hlater _
      | mismatch => exact hlater _

end Catalog

lemma Grammar.verdict_of_reads {grammar : Grammar} {t : Text} {entries : List (String × Text)}
    (h : ∀ other, Reads grammar.segments t other ↔ other = entries)
    (hveto : (Fields.ofList entries).veto? = none) :
    grammar.verdict t = .accepted (.ofList entries) := by
  rw [verdict, fieldsOf?_of_reads h]
  simp only [hveto]

lemma Grammar.verdict_ne_accepted {grammar : Grammar} {t : Text}
    (h : ∀ entries, Reads grammar.segments t entries → (Fields.ofList entries).veto? ≠ none)
    (fields : Fields) : grammar.verdict t ≠ .accepted fields := by
  rw [verdict]
  cases hfields : grammar.fieldsOf? t with
  | none => simp
  | some found =>
    obtain ⟨entries, hreads, rfl⟩ := reads_of_fieldsOf?_eq_some hfields
    cases hveto : (Fields.ofList entries).veto? with
    | none => exact absurd hveto (h entries hreads)
    | some veto => simp [hveto]

lemma Grammar.of_verdict_eq_accepted {grammar : Grammar} {t : Text} {fields : Fields}
    (h : grammar.verdict t = .accepted fields) :
    grammar.fieldsOf? t = some fields ∧ fields.veto? = none := by
  rw [verdict] at h
  split at h
  · cases h
  · next found hfound =>
    split at h
    · cases h
    · next hveto =>
      obtain rfl := Verdict.accepted.inj h
      exact ⟨hfound, hveto⟩

/-- A bundled grammar reads a text that its segments can read in one way, if this is not vetoed and
every reading by an earlier form is. -/
theorem Catalog.read_bundled {now : Moment} {t : Text} {i : ℕ} {form : List Segment}
    {entries : List (String × Text)} (hi : Bundled.forms[i]? = some form)
    (hbefore : ∀ earlier ∈ Bundled.forms.take i, ∀ entries, Reads earlier t entries →
      (Fields.ofList entries).veto? ≠ none)
    (hreads : ∀ other, Reads form t other ↔ other = entries)
    (hveto : (Fields.ofList entries).veto? = none) (tally : Tally) :
    (bundled.read now t tally).1 = (Bundled.grammar i form).reading now (.ofList entries) := by
  have hgrammar : bundled.grammars[i]? = some (Bundled.grammar i form) := by
    simp [bundled, hi]
  have hverdict : (Bundled.grammar i form).verdict t = .accepted (.ofList entries) :=
    Grammar.verdict_of_reads hreads hveto
  refine readWith_of_first hgrammar (fun earlier hearlier => ?_) hverdict tally
  obtain ⟨j, hj⟩ := List.mem_iff_getElem?.1 hearlier
  rw [List.getElem?_take] at hj
  split at hj
  · next hlt =>
    simp only [bundled, List.getElem?_map, List.getElem?_zipIdx, Option.map_map,
      Option.map_eq_some_iff] at hj
    obtain ⟨segments, hsegments, rfl⟩ := hj
    refine Grammar.verdict_ne_accepted (hbefore segments (List.mem_iff_getElem?.2 ⟨j, ?_⟩))
    rw [List.getElem?_take, if_pos hlt, hsegments]
  · cases hj

/-- What a collector of bundled grammars makes of a text that one form reads in one way: a record of
that reading, if the form is the first not to be vetoed and the window takes the instant. -/
theorem Collector.collect_bundled {clock : Clock} {system : Instant} {window : Window} {t : Text}
    {i : ℕ} {form : List Segment} {entries : List (String × Text)} {date : DateText}
    {instant : Instant} (hdeliverable : Deliverable t) (hi : Catalog.Bundled.forms[i]? = some form)
    (hbefore : ∀ earlier ∈ Catalog.Bundled.forms.take i, ∀ entries, Reads earlier t entries →
      (Fields.ofList entries).veto? ≠ none)
    (hreads : ∀ other, Reads form t other ↔ other = entries)
    (hveto : (Fields.ofList entries).veto? = none)
    (hdate : DateText.ofFields (.ofList entries) (clock.read system) = .ok date)
    (hinstant : Reading.instant ⟨i, .ofList entries, date⟩ (clock.read system) = .ok instant)
    (haccepts : window.Accepts instant (clock.read system).instant) (tally : Tally) :
    (collect ⟨.bundled, window, clock, tally⟩ system (Utf8.encode t)).1 =
      .ok (Record.withTime ⟨i, .ofList entries, date⟩ none instant false) := by
  rw [collect_encode _ _ hdeliverable, Catalog.read_bundled hi hbefore hreads hveto,
    Grammar.reading, hdate]
  exact Record.ofReading_of_accepts hinstant haccepts none

end Syslog
