import Syslog.Feeder
import Syslog.Proofs.Collector.Delivery
import Syslog.Proofs.SourceMarker.Rejoining

/-!
# Line ends

The line end of a datagram changes nothing, whatever bytes come before it. It breaks off a character
that is not complete, as the end of the datagram does; it goes with the blanks after the value of a
marker, and what is left of it is cut off from the end of the text.
-/
namespace Syslog
open Text

namespace SourceMarker

variable {t blanks : Text} {pieces values : List Text}

lemma isSolid_marker : IsSolid marker := by decide

lemma not_infix_append_blanks (hblanks : ∀ c ∈ blanks, isBlank c = true)
    (h : ¬ marker <:+: t) : ¬ marker <:+: t ++ blanks := by
  cases blanks with
  | nil => simpa using h
  | cons c blanks =>
    have hblank : isBlank c = true := hblanks c (by simp)
    intro hwithin
    have hc : c ∉ marker := fun hmem => by
      rw [isSolid_marker c hmem] at hblank
      cases hblank
    rcases infix_append_cons hc hwithin with hbefore | hafter
    · exact h hbefore
    · obtain ⟨d, hd⟩ := List.exists_mem_of_ne_nil marker marker_ne_nil
      have hsolid := isSolid_marker d hd
      rw [hblanks d (List.mem_cons_of_mem _ (hafter.subset hd))] at hsolid
      cases hsolid

/-- Blanks behind a text are dropped after the value of its last marker, or kept at its end. -/
theorem Cut.append_blanks (h : Cut t pieces values) (hblanks : ∀ c ∈ blanks, isBlank c = true) :
    ∃ pieces' kept, Cut (t ++ blanks) pieces' values ∧
      pieces'.flatten = pieces.flatten ++ kept ∧ kept ⊆ blanks := by
  induction h with
  | @free t hfree =>
    refine ⟨[t ++ blanks], blanks, .free (not_infix_append_blanks hblanks hfree), ?_, fun _ => id⟩
    simp
  | @cons before value dropped rest pieces values hfirst hvalue hdropped hstart hrest hcut ih =>
    cases rest with
    | nil =>
      -- the text ends in the blanks after the last value
      have hall : ∀ c ∈ dropped ++ blanks, isBlank c = true := by
        intro c hc
        rcases List.mem_append.1 hc with hc | hc
        · exact hdropped c hc
        · exact hblanks c hc
      have hstops : Stops (fun c => !isBlank c) (dropped ++ blanks ++ []) := by
        intro c hc
        rw [List.append_nil] at hc
        simp [hall c (List.mem_of_mem_head? hc)]
      refine ⟨before :: pieces, [], ?_, by simp, by simp⟩
      have htext : before ++ marker ++ (value ++ (dropped ++ [])) ++ blanks =
          before ++ marker ++ (value ++ (dropped ++ blanks ++ [])) := by simp
      rw [htext]
      exact .cons hfirst hvalue hall hstops stops_nil hcut
    | cons c rest =>
      obtain ⟨pieces', kept, hcut', hflatten, hkept⟩ := ih
      refine ⟨before :: pieces', kept, ?_, by simp [hflatten], hkept⟩
      have htext : before ++ marker ++ (value ++ (dropped ++ c :: rest)) ++ blanks =
          before ++ marker ++ (value ++ (dropped ++ (c :: rest ++ blanks))) := by simp
      have hstops : Stops (fun c => !isBlank c) (dropped ++ (c :: rest ++ blanks)) := by
        cases dropped <;> simpa using hstart
      rw [htext]
      exact .cons hfirst hvalue hdropped hstops (by simpa using hrest) hcut'

theorem remove_append_blanks (t : Text) (hblanks : ∀ c ∈ blanks, isBlank c = true) :
    ∃ kept, kept ⊆ blanks ∧ remove (t ++ blanks) = ((remove t).1 ++ kept, (remove t).2) := by
  obtain ⟨pieces, values, hcut⟩ := exists_cut t
  obtain ⟨pieces', kept, hcut', hflatten, hkept⟩ := hcut.append_blanks hblanks
  refine ⟨kept, hkept, ?_⟩
  rw [hcut'.remove_eq, hcut.remove_eq, hflatten]

end SourceMarker

namespace Collector

lemma isBlank_of_isLineEnd {c : Char} (h : isLineEnd c = true) : isBlank c = true := by
  simp only [isLineEnd, Bool.or_eq_true, beq_iff_eq] at h
  rcases h with rfl | rfl <;> decide

lemma message_append_lineEnds (raw : List UInt8) {ends : Text}
    (hends : ∀ c ∈ ends, isLineEnd c = true) :
    message (raw ++ Utf8.encode ends) = message raw := by
  obtain ⟨kept, hkept, hremove⟩ := SourceMarker.remove_append_blanks (Utf8.decodeLossy raw)
    fun c hc => isBlank_of_isLineEnd (hends c hc)
  simp only [message, Utf8.decodeLossy_append_encode, hremove]
  rw [trimEnd_append_of_forall fun c hc => hends c (hkept hc)]

lemma exists_eq_encode_lineEnds {ends : List UInt8}
    (hends : ∀ byte ∈ ends, byte = Framing.carriageReturn ∨ byte = Framing.lineFeed) :
    ∃ t, ends = Utf8.encode t ∧ ∀ c ∈ t, isLineEnd c = true := by
  induction ends with
  | nil => exact ⟨[], rfl, by simp⟩
  | cons byte ends ih =>
    obtain ⟨t, rfl, ht⟩ := ih fun other hother => hends other (List.mem_cons_of_mem _ hother)
    rcases hends byte List.mem_cons_self with rfl | rfl
    · exact ⟨'\r' :: t, rfl, List.forall_mem_cons.2 ⟨rfl, ht⟩⟩
    · exact ⟨'\n' :: t, rfl, List.forall_mem_cons.2 ⟨rfl, ht⟩⟩

lemma readAt_eq_of_message {raw raw' : List UInt8} (hfits : raw.length ≤ maxDatagram)
    (hfits' : raw'.length ≤ maxDatagram) (h : message raw = message raw') (collector : Collector)
    (now : Moment) : collector.readAt now raw = collector.readAt now raw' := by
  rw [readAt, readAt, if_neg (Nat.not_lt.2 hfits), if_neg (Nat.not_lt.2 hfits'), h]

/-- A collector makes the same of a datagram with any run of line ends behind it, be it a record or
a discard, and counts the same, as long as the run fits into the datagram. -/
theorem collect_append_lineEnds {raw ends : List UInt8}
    (hends : ∀ byte ∈ ends, byte = Framing.carriageReturn ∨ byte = Framing.lineFeed)
    (hfits : (raw ++ ends).length ≤ maxDatagram) (collector : Collector) (system : Instant) :
    collector.collect system (raw ++ ends) = collector.collect system raw := by
  obtain ⟨t, rfl, ht⟩ := exists_eq_encode_lineEnds hends
  have hshorter : raw.length ≤ maxDatagram := by
    rw [List.length_append] at hfits
    omega
  rw [collect, collect, examine, examine,
    readAt_eq_of_message hfits hshorter (message_append_lineEnds raw ht)]

/-- A datagram that breaks off in the middle of a character, in the value of a second marker. -/
def brokenOff : List UInt8 :=
  Utf8.encode (ofString "<13>app: hi \n source_address= source_address=10.0.0.") ++ [0xE2, 0x82]

theorem collect_brokenOff :
    (∀ byte ∈ ([0x0D, 0x0A, 0x0A] : List UInt8),
      byte = Framing.carriageReturn ∨ byte = Framing.lineFeed) ∧
    (brokenOff ++ [0x0D, 0x0A, 0x0A]).length ≤ maxDatagram ∧
    (collect ⟨.bundled, .standard, .fixed ⟨1717293546000, 0⟩, .empty Catalog.bundled.size⟩ 0
      (brokenOff ++ [0x0D, 0x0A, 0x0A])).1 = .ok {
        facility := some .user
        severity := some .notice
        version := 0
        hostname := none
        processName := some (ofString "app")
        processId := 0
        messageId := none
        structuredData := none
        message := ofString "hi \n "
        timestamp := 1717293546000
        sourceAddress := some (ofString "10.0.0.\uFFFD")
        grammarIndex := 21
        clamped := false } := by
  have hends : ∀ byte ∈ ([0x0D, 0x0A, 0x0A] : List UInt8),
      byte = Framing.carriageReturn ∨ byte = Framing.lineFeed := by
    simp [Framing.carriageReturn, Framing.lineFeed]
  have hfits : (brokenOff ++ [0x0D, 0x0A, 0x0A]).length ≤ maxDatagram := by decide +kernel
  exact ⟨hends, hfits, (congrArg Prod.fst (collect_append_lineEnds hends hfits _ 0)).trans
    (by decide +kernel)⟩

end Collector
end Syslog
