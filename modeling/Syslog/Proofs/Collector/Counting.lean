import Mathlib.Data.Nat.Notation
import Syslog.Collector

/-!
# Counting tries

Every grammar that is tried counts as an attempt, and as a veto or a mismatch unless it is accepted.
A message that no grammar sees moves no counter, and an outcome moves only the counters of outcomes.
-/
namespace Syslog

/-- Some grammar accepted the message of a result, whatever became of it afterwards. -/
def wasAccepted {α : Type} : Except Discard α → Bool
  | .ok _ => true
  | .error (.tooOld _) => true
  | .error (.unparsableDate _) => true
  | .error _ => false

namespace Tally

/-- The tally after grammars were tried, the last of which was accepted or none was. -/
def addTries (tally : Tally) (vetoes mismatches : UInt64) (accepted : Bool) : Tally :=
  { tally with
    attempts := tally.attempts + vetoes + mismatches + if accepted then 1 else 0
    vetoes := tally.vetoes + vetoes
    mismatches := tally.mismatches + mismatches }

lemma addTries_none (tally : Tally) : tally.addTries 0 0 false = tally := by
  simp [addTries]

lemma addTries_accept (tally : Tally) : tally.addTries 0 0 true = tally.countAttempt := by
  simp [addTries, countAttempt]

lemma addTries_veto (tally : Tally) (vetoes mismatches : UInt64) (accepted : Bool) :
    tally.countAttempt.countVeto.addTries vetoes mismatches accepted =
      tally.addTries (vetoes + 1) mismatches accepted := by
  simp only [addTries, countAttempt, countVeto]
  grind

lemma addTries_mismatch (tally : Tally) (vetoes mismatches : UInt64) (accepted : Bool) :
    tally.countAttempt.countMismatch.addTries vetoes mismatches accepted =
      tally.addTries vetoes (mismatches + 1) accepted := by
  simp only [addTries, countAttempt, countMismatch]
  grind

/-- A reader gives one result whatever was counted before; of the counters it moves those of tries,
and accounts for its result. -/
def CountsTries {α : Type} (reader : Tally → Except Discard α × Tally) : Prop :=
  ∃ result vetoes mismatches, ∀ tally,
    reader tally = (result, tally.addTries vetoes mismatches (wasAccepted result))

end Tally

lemma wasAccepted_reading (grammar : Grammar) (now : Moment) (fields : Fields) :
    wasAccepted (grammar.reading now fields) = true := by
  rw [Grammar.reading]
  split <;> rfl

namespace Catalog

variable {now : Moment} {t : Text}

lemma countsTries_readWith (grammars : List Grammar) :
    Tally.CountsTries fun tally => readWith now t tally grammars := by
  induction grammars with
  | nil => exact ⟨.error .noMatch, 0, 0, fun tally => congrArg _ tally.addTries_none.symm⟩
  | cons grammar grammars ih =>
    obtain ⟨result, vetoes, mismatches, hlater⟩ := ih
    simp only [Tally.CountsTries, readWith]
    cases grammar.verdict t with
    | accepted fields =>
      refine ⟨grammar.reading now fields, 0, 0, fun tally => ?_⟩
      rw [wasAccepted_reading, Tally.addTries_accept]
    -- a grammar that does not accept adds its try to those of the later ones
    | vetoed veto =>
      refine ⟨result, vetoes + 1, mismatches, fun tally => ?_⟩
      rw [← Tally.addTries_veto]
      exact hlater tally.countAttempt.countVeto
    | mismatch =>
      refine ⟨result, vetoes, mismatches + 1, fun tally => ?_⟩
      rw [← Tally.addTries_mismatch]
      exact hlater tally.countAttempt.countMismatch

lemma exists_of_readWith {tally : Tally} {grammars : List Grammar} {reading : Reading}
    (h : (readWith now t tally grammars).1 = .ok reading) :
    ∃ grammar ∈ grammars, grammar.verdict t = .accepted reading.fields ∧
      reading.grammarIndex = grammar.index := by
  induction grammars generalizing tally with
  | nil => cases h
  | cons grammar grammars ih =>
    rw [readWith] at h
    cases hverdict : grammar.verdict t with
    | accepted fields =>
      simp only [hverdict, Grammar.reading] at h
      split at h
      · obtain rfl := Except.ok.inj h
        exact ⟨grammar, by simp, hverdict, rfl⟩
      · cases h
    | vetoed veto =>
      simp only [hverdict] at h
      obtain ⟨other, hother, hreading⟩ := ih h
      exact ⟨other, by simp [hother], hreading⟩
    | mismatch =>
      simp only [hverdict] at h
      obtain ⟨other, hother, hreading⟩ := ih h
      exact ⟨other, by simp [hother], hreading⟩

lemma countsTries_read (catalog : Catalog) (now : Moment) (t : Text) :
    Tally.CountsTries fun tally => catalog.read now t tally := by
  simp only [read]
  split
  · exact ⟨.error .noGrammarConfigured, 0, 0, fun tally => congrArg _ tally.addTries_none.symm⟩
  · exact countsTries_readWith catalog.grammars

end Catalog

namespace Record

variable {now : Moment} {window : Window} {address : Option Text}

lemma ofReading_cases (reading : Reading) :
    (∃ timestamp clamped, ofReading reading now window address =
      .ok (withTime reading address timestamp clamped)) ∨
    (∃ minutes, ofReading reading now window address = .error (.tooOld minutes)) ∨
    ∃ t, ofReading reading now window address = .error (.unparsableDate t) := by
  have hinstant : (∃ instant, reading.instant now = .ok instant) ∨
      ∃ t, reading.instant now = .error (.unparsableDate t) := by
    rw [Reading.instant]
    split
    · exact .inl ⟨_, rfl⟩
    · split
      · exact .inl ⟨_, rfl⟩
      · exact .inr ⟨_, rfl⟩
  rcases hinstant with ⟨instant, hinstant⟩ | ⟨t, hinstant⟩
  · simp only [ofReading, hinstant, bind, Except.bind]
    split
    · exact .inl ⟨_, _, rfl⟩
    · exact .inl ⟨_, _, rfl⟩
    · exact .inr (.inl ⟨_, rfl⟩)
  · simp only [ofReading, hinstant, bind, Except.bind]
    exact .inr (.inr ⟨t, rfl⟩)

lemma wasAccepted_bind (result : Except Discard Reading) :
    wasAccepted (result.bind fun reading => ofReading reading now window address) =
      wasAccepted result := by
  cases result with
  | error discard => cases discard <;> rfl
  | ok reading =>
    simp only [Except.bind]
    rcases ofReading_cases reading with ⟨_, _, h⟩ | ⟨minutes, h⟩ | ⟨t, h⟩ <;> rw [h] <;> rfl

end Record

namespace Collector

variable {collector : Collector} {now : Moment} {raw : List UInt8}

lemma countsTries_readAt (collector : Collector) (now : Moment) (raw : List UInt8) :
    Tally.CountsTries fun tally => readAt { collector with tally := tally } now raw := by
  simp only [readAt]
  split
  · exact ⟨.error (.tooLarge raw.length), 0, 0, fun tally => congrArg _ tally.addTries_none.symm⟩
  · obtain ⟨reading, vetoes, mismatches, hread⟩ :=
      collector.catalog.countsTries_read now (message raw).1
    refine ⟨reading.bind fun reading =>
      Record.ofReading reading now collector.window (message raw).2, vetoes, mismatches,
      fun tally => ?_⟩
    rw [Record.wasAccepted_bind]
    exact congrArg (fun read : Except Discard Reading × Tally => (read.1.bind _, read.2))
      (hread tally)

lemma exists_addTries (collector : Collector) (now : Moment) (raw : List UInt8) :
    ∃ vetoes mismatches, (collector.readAt now raw).2 =
      collector.tally.addTries vetoes mismatches (wasAccepted (collector.readAt now raw).1) := by
  obtain ⟨result, vetoes, mismatches, hread⟩ := collector.countsTries_readAt now raw
  refine ⟨vetoes, mismatches, ?_⟩
  rw [show collector.readAt now raw = _ from hread collector.tally]

lemma exists_of_readAt {record : Record} (h : (collector.readAt now raw).1 = .ok record) :
    ∃ grammar ∈ collector.catalog.grammars, ∃ reading timestamp clamped,
      grammar.verdict (message raw).1 = .accepted reading.fields ∧
      reading.grammarIndex = grammar.index ∧
      record = Record.withTime reading (message raw).2 timestamp clamped := by
  rw [readAt] at h
  split at h
  · cases h
  · cases hreading : (collector.catalog.read now (message raw).1 collector.tally).1 with
    | error discard =>
      simp only [hreading, Except.bind] at h
      cases h
    | ok reading =>
      simp only [hreading, Except.bind] at h
      rw [Catalog.read] at hreading
      split at hreading
      · cases hreading
      · obtain ⟨grammar, hgrammar, hverdict, hindex⟩ := Catalog.exists_of_readWith hreading
        refine ⟨grammar, hgrammar, reading, ?_⟩
        rcases Record.ofReading_cases reading with ⟨timestamp, clamped, hfound⟩ | ⟨_, hfound⟩ |
          ⟨_, hfound⟩
        · obtain rfl := Except.ok.inj (hfound.symm.trans h)
          exact ⟨timestamp, clamped, hverdict, hindex, rfl⟩
        · cases hfound.symm.trans h
        · cases hfound.symm.trans h

end Collector
end Syslog
