import Mathlib.Data.List.Basic
import Mathlib.Data.UInt
import Syslog.Catalog.Bundled
import Syslog.Proofs.Catalog.Positions
import Syslog.Proofs.Collector.Counting

/-!
# Balance of the counters

After every sequence of calls the counters of a collector agree with the answers that it gave: those
of tries with the messages that a grammar accepted, those of outcomes with the outcomes.
-/
namespace Syslog

/-- What a caller may ask of a collector. -/
inductive Call where
  | collect (system : Instant) (raw : List UInt8)
  | examine (system : Instant) (raw : List UInt8)
  | setClock (instant : Instant)
  deriving DecidableEq, Repr

inductive Answer where
  | collected (result : Except Discard Record)
  | examined (result : Except Discard Record)
  | clockSet

namespace Answer

/-- What became of the message of a call. -/
def result? : Answer → Option (Except Discard Record)
  | collected result => some result
  | examined result => some result
  | clockSet => none

/-- The result of a call that counts it. -/
def outcome? : Answer → Option (Except Discard Record)
  | collected result => some result
  | _ => none

def isRecord : Except Discard Record → Bool
  | .ok _ => true
  | .error _ => false

def isRecordOf (grammar : ℕ) : Except Discard Record → Bool
  | .ok record => record.grammarIndex == grammar
  | .error _ => false

def isClamped : Except Discard Record → Bool
  | .ok record => record.clamped
  | .error _ => false

def isDiscard (reason : DiscardReason) : Except Discard Record → Bool
  | .ok _ => false
  | .error discard => discard.reason == reason

def results (answers : List Answer) (kind : Except Discard Record → Bool) : UInt64 :=
  UInt64.ofNat (answers.countP fun answer => answer.result?.any kind)

def outcomes (answers : List Answer) (kind : Except Discard Record → Bool) : UInt64 :=
  UInt64.ofNat (answers.countP fun answer => answer.outcome?.any kind)

end Answer

namespace Collector

def answer (collector : Collector) : Call → Answer × Collector
  | .collect system raw =>
    let (result, collector) := collector.collect system raw
    (.collected result, collector)
  | .examine system raw =>
    let (result, collector) := collector.examine system raw
    (.examined result, collector)
  | .setClock instant => (.clockSet, collector.setClock instant)

/-- The answers to a sequence of calls, and the collector after them. -/
def run (collector : Collector) : List Call → List Answer × Collector
  | [] => ([], collector)
  | call :: calls =>
    let (answer, collector) := collector.answer call
    let (answers, collector) := collector.run calls
    (answer :: answers, collector)

end Collector

namespace Tally

def discards (tally : Tally) : DiscardReason → UInt64
  | .noGrammarConfigured => tally.noGrammarConfigured
  | .noMatch => tally.noMatch
  | .tooOld => tally.tooOld
  | .unparsableDate => tally.unparsableDate
  | .tooLarge => tally.tooLarge
  | .brokenOff => tally.brokenOff

/-- The counters of tries account for the answers. -/
def TriesBalance (tally : Tally) (answers : List Answer) : Prop :=
  tally.attempts = tally.vetoes + tally.mismatches + Answer.results answers wasAccepted

/-- The counters of outcomes agree with the answers. -/
structure OutcomesBalance (tally : Tally) (grammars : ℕ) (answers : List Answer) : Prop where
  messages : tally.parsed + tally.discarded = Answer.outcomes answers fun _ => true
  parsed : tally.parsed = Answer.outcomes answers Answer.isRecord
  size : tally.hits.length = grammars
  hits : ∀ i < grammars, tally.hits[i]? = some (Answer.outcomes answers (Answer.isRecordOf i))
  sum_hits : tally.hits.sum = tally.parsed
  clamped : tally.clamped = Answer.outcomes answers Answer.isClamped
  discards : ∀ reason, tally.discards reason = Answer.outcomes answers (Answer.isDiscard reason)

end Tally

namespace Answer

variable {answers : List Answer} {kind : Except Discard Record → Bool}

lemma results_append (answer : Answer) : results (answers ++ [answer]) kind =
    results answers kind + if answer.result?.any kind then 1 else 0 := by
  rw [results, results, List.countP_append, UInt64.ofNat_add, List.countP_singleton]
  split <;> rfl

lemma outcomes_append (answer : Answer) : outcomes (answers ++ [answer]) kind =
    outcomes answers kind + if answer.outcome?.any kind then 1 else 0 := by
  rw [outcomes, outcomes, List.countP_append, UInt64.ofNat_add, List.countP_singleton]
  split <;> rfl

end Answer

namespace Tally

variable {tally : Tally} {answers : List Answer} {grammars : ℕ}

lemma TriesBalance.append {result : Except Discard Record} {answer : Answer}
    (h : tally.TriesBalance answers) (hresult : answer.result? = some result)
    (vetoes mismatches : UInt64) :
    (tally.addTries vetoes mismatches (wasAccepted result)).TriesBalance (answers ++ [answer]) := by
  rw [TriesBalance] at h
  rw [TriesBalance, Answer.results_append, hresult, Option.any_some, addTries]
  grind

lemma OutcomesBalance.addTries (h : tally.OutcomesBalance grammars answers)
    (vetoes mismatches : UInt64) (accepted : Bool) :
    (tally.addTries vetoes mismatches accepted).OutcomesBalance grammars answers :=
  ⟨h.messages, h.parsed, h.size, h.hits, h.sum_hits, h.clamped, h.discards⟩

lemma OutcomesBalance.append_silent {answer : Answer} (h : tally.OutcomesBalance grammars answers)
    (hsilent : answer.outcome? = none) : tally.OutcomesBalance grammars (answers ++ [answer]) := by
  have hsame : ∀ kind, Answer.outcomes (answers ++ [answer]) kind = Answer.outcomes answers kind :=
    fun kind => by rw [Answer.outcomes_append, hsilent]; exact UInt64.add_zero _
  constructor
  · rw [hsame, h.messages]
  · rw [hsame, h.parsed]
  · exact h.size
  · intro i hi
    rw [hsame, h.hits i hi]
  · exact h.sum_hits
  · rw [hsame, h.clamped]
  · intro reason
    rw [hsame, h.discards]

lemma sum_modify {hits : List UInt64} {i : ℕ} (h : i < hits.length) :
    (hits.modify i (· + 1)).sum = hits.sum + 1 := by
  induction hits generalizing i with
  | nil => cases h
  | cons first hits ih =>
    cases i with
    | zero =>
      simp only [List.modify_zero_cons, List.sum_cons]
      grind
    | succ i =>
      simp only [List.modify_succ_cons, List.sum_cons, ih (Nat.lt_of_succ_lt_succ h)]
      grind

lemma OutcomesBalance.append_record {record : Record} (h : tally.OutcomesBalance grammars answers)
    (hindex : record.grammarIndex < grammars) :
    (tally.countResult (.ok record)).OutcomesBalance grammars
      (answers ++ [.collected (.ok record)]) := by
  constructor
  · rw [Answer.outcomes_append, ← h.messages]
    change tally.parsed + 1 + tally.discarded = tally.parsed + tally.discarded + 1
    grind
  · rw [Answer.outcomes_append, ← h.parsed]
    rfl
  · exact (List.length_modify ..).trans h.size
  · intro i hi
    change (tally.hits.modify record.grammarIndex (· + 1))[i]? = _
    rw [Answer.outcomes_append, List.getElem?_modify, h.hits i hi]
    by_cases heq : record.grammarIndex = i
    · simp [Answer.outcome?, Answer.isRecordOf, heq]
    · simp [Answer.outcome?, Answer.isRecordOf, heq]
  · exact (sum_modify (h.size.symm ▸ hindex)).trans (by rw [h.sum_hits]; rfl)
  · rw [Answer.outcomes_append, ← h.clamped]
    change (if record.clamped then tally.clamped + 1 else tally.clamped) = _
    cases hclamped : record.clamped <;> simp [Answer.outcome?, Answer.isClamped, hclamped]
  · intro reason
    rw [Answer.outcomes_append, ← h.discards]
    cases reason <;> exact (UInt64.add_zero _).symm

lemma discards_countDiscard (tally : Tally) (cause reason : DiscardReason) :
    (tally.countDiscard cause).discards reason =
      tally.discards reason + if cause == reason then 1 else 0 := by
  cases cause <;> cases reason <;> first | rfl | exact (UInt64.add_zero _).symm

lemma discarded_countDiscard (tally : Tally) (cause : DiscardReason) :
    (tally.countDiscard cause).discarded = tally.discarded + 1 := by
  cases cause <;> simp only [countDiscard, discarded] <;> grind

lemma OutcomesBalance.append_discard {discard : Discard}
    (h : tally.OutcomesBalance grammars answers) :
    (tally.countResult (.error discard)).OutcomesBalance grammars
      (answers ++ [.collected (.error discard)]) := by
  have hothers : (tally.countDiscard discard.reason).parsed = tally.parsed ∧
      (tally.countDiscard discard.reason).hits = tally.hits ∧
      (tally.countDiscard discard.reason).clamped = tally.clamped := by
    cases discard <;> exact ⟨rfl, rfl, rfl⟩
  obtain ⟨hparsed, hhits, hclamped⟩ := hothers
  rw [countResult]
  constructor
  · rw [Answer.outcomes_append, ← h.messages, hparsed, discarded_countDiscard]
    change tally.parsed + (tally.discarded + 1) = tally.parsed + tally.discarded + 1
    grind
  · rw [Answer.outcomes_append, ← h.parsed, hparsed]
    exact (UInt64.add_zero _).symm
  · rw [hhits, h.size]
  · intro i hi
    rw [Answer.outcomes_append, hhits, h.hits i hi]
    exact congrArg some (UInt64.add_zero _).symm
  · rw [hhits, hparsed, h.sum_hits]
  · rw [Answer.outcomes_append, ← h.clamped, hclamped]
    exact (UInt64.add_zero _).symm
  · intro reason
    rw [Answer.outcomes_append, ← h.discards, discards_countDiscard]
    rfl

lemma triesBalance_countResult {result : Except Discard Record} :
    (tally.countResult result).TriesBalance answers ↔ tally.TriesBalance answers := by
  cases result with
  | ok record => exact Iff.rfl
  | error discard => cases discard <;> exact Iff.rfl

end Tally

namespace Collector

/-- The counters of a collector agree with the answers that it gave. -/
structure Balanced (collector : Collector) (answers : List Answer) : Prop where
  tries : collector.tally.TriesBalance answers
  outcomes : collector.tally.OutcomesBalance collector.catalog.size answers

@[simp] lemma catalog_answer (collector : Collector) (call : Call) :
    (collector.answer call).2.catalog = collector.catalog := by
  cases call <;> rfl

section
variable {collector : Collector} {answers : List Answer} {now : Moment} {raw : List UInt8}

lemma Balanced.tries_readAt {answer : Answer} (h : collector.Balanced answers)
    (hanswer : answer.result? = some (collector.readAt now raw).1) :
    (collector.readAt now raw).2.TriesBalance (answers ++ [answer]) := by
  obtain ⟨vetoes, mismatches, htally⟩ := collector.exists_addTries now raw
  rw [htally]
  exact h.tries.append hanswer vetoes mismatches

lemma Balanced.outcomes_readAt (h : collector.Balanced answers) (now : Moment) (raw : List UInt8) :
    (collector.readAt now raw).2.OutcomesBalance collector.catalog.size answers := by
  obtain ⟨vetoes, mismatches, htally⟩ := collector.exists_addTries now raw
  rw [htally]
  exact h.outcomes.addTries vetoes mismatches _

lemma Balanced.outcomes_countResult (h : collector.Balanced answers)
    (hcatalog : collector.catalog.Numbered) :
    ((collector.readAt now raw).2.countResult (collector.readAt now raw).1).OutcomesBalance
      collector.catalog.size (answers ++ [.collected (collector.readAt now raw).1]) := by
  have hread := h.outcomes_readAt now raw
  cases hresult : (collector.readAt now raw).1 with
  | error discard => exact hread.append_discard
  | ok record =>
    obtain ⟨grammar, hgrammar, reading, _, _, -, hindex, rfl⟩ := exists_of_readAt hresult
    have hlt : reading.grammarIndex < collector.catalog.size := hindex ▸ hcatalog.index_lt hgrammar
    exact hread.append_record hlt

end

lemma Balanced.answer {collector : Collector} {answers : List Answer}
    (h : collector.Balanced answers) (hcatalog : collector.catalog.Numbered) (call : Call) :
    (collector.answer call).2.Balanced (answers ++ [(collector.answer call).1]) := by
  cases call with
  | collect system raw =>
    exact ⟨Tally.triesBalance_countResult.2 (h.tries_readAt rfl), h.outcomes_countResult hcatalog⟩
  | examine system raw => exact ⟨h.tries_readAt rfl, (h.outcomes_readAt _ raw).append_silent rfl⟩
  | setClock instant =>
    refine ⟨?_, h.outcomes.append_silent rfl⟩
    have htries : collector.tally.TriesBalance answers := h.tries
    rw [Tally.TriesBalance] at htries
    change collector.tally.attempts = _
    rw [htries, Answer.results_append]
    exact congrArg _ (UInt64.add_zero _).symm

lemma Balanced.run {collector : Collector} {answers : List Answer}
    (h : collector.Balanced answers) (hcatalog : collector.catalog.Numbered) (calls : List Call) :
    (collector.run calls).2.Balanced (answers ++ (collector.run calls).1) := by
  induction calls generalizing collector answers with
  | nil => rwa [Collector.run, List.append_nil]
  | cons call calls ih =>
    have hnext := ih (h.answer hcatalog call) (by rwa [catalog_answer])
    rwa [List.append_assoc] at hnext

end Collector

namespace Catalog
open Text Bundled

end Catalog
end Syslog
