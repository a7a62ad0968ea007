import Mathlib.Data.List.TakeDrop
import Syslog.Matching
import Syslog.Proofs.Catalog.Positions

/-!
# The first grammar that accepts

The grammars of a catalog are tried one after the other until one accepts the message. Every try
before it counts as a veto or a mismatch. What that grammar makes of the date is the outcome: no
later grammar is tried, even if the date cannot be read.
-/
namespace Syslog

namespace Verdict

def isVetoed : Verdict → Bool
  | vetoed _ => true
  | _ => false

def isMismatch : Verdict → Bool
  | mismatch => true
  | _ => false

end Verdict

namespace Tally

/-- The tally with numbers of attempts, vetoes and mismatches added. -/
def plus (tally : Tally) (attempts vetoes mismatches : ℕ) : Tally :=
  { tally with
    attempts := tally.attempts + .ofNat attempts
    vetoes := tally.vetoes + .ofNat vetoes
    mismatches := tally.mismatches + .ofNat mismatches }

lemma plus_zero (tally : Tally) : tally.plus 0 0 0 = tally := by
  simp [plus]

lemma plus_plus (tally : Tally) (a v m a' v' m' : ℕ) :
    (tally.plus a v m).plus a' v' m' = tally.plus (a + a') (v + v') (m + m') := by
  simp [plus, UInt64.ofNat_add, UInt64.add_assoc]

lemma countAttempt_eq_plus (tally : Tally) : tally.countAttempt = tally.plus 1 0 0 := by
  simp [plus, countAttempt]

lemma countVeto_eq_plus (tally : Tally) : tally.countVeto = tally.plus 0 1 0 := by
  simp [plus, countVeto]

lemma countMismatch_eq_plus (tally : Tally) : tally.countMismatch = tally.plus 0 0 1 := by
  simp [plus, countMismatch]

/-- The tally after grammars were tried in vain on a text. -/
def afterRejections (tally : Tally) (t : Text) (grammars : List Grammar) : Tally :=
  tally.plus grammars.length (grammars.countP fun grammar => (grammar.verdict t).isVetoed)
    (grammars.countP fun grammar => (grammar.verdict t).isMismatch)

lemma afterRejections_nil (tally : Tally) (t : Text) : tally.afterRejections t [] = tally :=
  tally.plus_zero

lemma afterRejections_cons (tally : Tally) (t : Text) (grammar : Grammar)
    (grammars : List Grammar) :
    (tally.afterRejections t [grammar]).afterRejections t grammars =
      tally.afterRejections t (grammar :: grammars) := by
  simp only [afterRejections, plus_plus, ← List.countP_append, ← List.length_append,
    List.singleton_append]

end Tally

/-- The grammar does not fit the text, or its reading is vetoed. -/
def Grammar.Rejects (grammar : Grammar) (t : Text) : Prop :=
  ∀ fields, grammar.verdict t ≠ .accepted fields

lemma Grammar.rejects_iff {grammar : Grammar} {t : Text} :
    grammar.Rejects t ↔
      ((grammar.verdict t).isVetoed || (grammar.verdict t).isMismatch) = true := by
  rw [Rejects]
  cases grammar.verdict t with
  | accepted fields => simp [Verdict.isVetoed, Verdict.isMismatch]
  | vetoed veto => simp [Verdict.isVetoed]
  | mismatch => simp [Verdict.isMismatch]

instance (grammar : Grammar) (t : Text) : Decidable (grammar.Rejects t) :=
  decidable_of_iff _ Grammar.rejects_iff.symm

namespace Catalog

def Rejects (catalog : Catalog) (t : Text) : Prop :=
  ∀ grammar ∈ catalog.grammars, grammar.Rejects t

instance (catalog : Catalog) (t : Text) : Decidable (catalog.Rejects t) :=
  inferInstanceAs (Decidable (∀ grammar ∈ catalog.grammars, grammar.Rejects t))

/-- The grammar at a position accepts the text with its fields, and none before it does. -/
structure Accepts (catalog : Catalog) (t : Text) (i : ℕ) (fields : Fields) : Prop where
  accepted : ∃ grammar, catalog.grammars[i]? = some grammar ∧
    grammar.verdict t = .accepted fields
  first : ∀ grammar ∈ catalog.grammars.take i, grammar.Rejects t

/-- What reading a text by a catalog comes to, with all that is counted. -/
structure ReadsFirst (catalog : Catalog) (now : Moment) (t : Text) (tally : Tally) : Prop where
  unconfigured : catalog.isEmpty = true →
    catalog.read now t tally = (.error .noGrammarConfigured, tally)
  rejected : catalog.isEmpty = false → catalog.Rejects t →
    catalog.read now t tally = (.error .noMatch, tally.plus catalog.size
      (catalog.grammars.countP fun grammar => (grammar.verdict t).isVetoed)
      (catalog.grammars.countP fun grammar => (grammar.verdict t).isMismatch))
  /-- The date decides between a reading and a discard. -/
  accepted : ∀ i fields, catalog.Accepts t i fields →
    catalog.read now t tally =
      (((DateText.ofFields fields now).mapError .unparsableDate).map (Reading.mk i fields),
        tally.plus (i + 1)
          ((catalog.grammars.take i).countP fun grammar => (grammar.verdict t).isVetoed)
          ((catalog.grammars.take i).countP fun grammar => (grammar.verdict t).isMismatch))
  decided : catalog.Rejects t ∨ ∃ i fields, catalog.Accepts t i fields

variable {catalog : Catalog} {now : Moment} {t : Text} {tally : Tally}

lemma readWith_cons_of_rejects {grammar : Grammar} (h : grammar.Rejects t)
    (later : List Grammar) :
    readWith now t tally (grammar :: later) =
      readWith now t (tally.afterRejections t [grammar]) later := by
  rw [readWith]
  cases hverdict : grammar.verdict t with
  | accepted fields => exact absurd hverdict (h fields)
  | vetoed veto =>
    simp [Tally.afterRejections, hverdict, Verdict.isVetoed, Verdict.isMismatch,
      Tally.countVeto_eq_plus, Tally.countAttempt_eq_plus, Tally.plus_plus]
  | mismatch =>
    simp [Tally.afterRejections, hverdict, Verdict.isVetoed, Verdict.isMismatch,
      Tally.countMismatch_eq_plus, Tally.countAttempt_eq_plus, Tally.plus_plus]

lemma readWith_append_of_rejects {before : List Grammar}
    (h : ∀ grammar ∈ before, grammar.Rejects t) (later : List Grammar) :
    readWith now t tally (before ++ later) =
      readWith now t (tally.afterRejections t before) later := by
  induction before generalizing tally with
  | nil => rw [Tally.afterRejections_nil, List.nil_append]
  | cons grammar before ih =>
    have hrejects := List.forall_mem_cons.1 h
    rw [List.cons_append, readWith_cons_of_rejects hrejects.1, ih hrejects.2,
      Tally.afterRejections_cons]

lemma readWith_cons_of_accepted {grammar : Grammar} {fields : Fields}
    (h : grammar.verdict t = .accepted fields) (later : List Grammar) :
    readWith now t tally (grammar :: later) = (grammar.reading now fields, tally.countAttempt) := by
  rw [readWith, h]

lemma reading_eq (grammar : Grammar) (now : Moment) (fields : Fields) :
    grammar.reading now fields =
      ((DateText.ofFields fields now).mapError .unparsableDate).map
        (Reading.mk grammar.index fields) := by
  rw [Grammar.reading]
  cases DateText.ofFields fields now <;> rfl

lemma eq_of_getElem? {grammars : List Grammar} {i : ℕ} {grammar : Grammar}
    (h : grammars[i]? = some grammar) :
    grammars = grammars.take i ++ grammar :: grammars.drop (i + 1) := by
  obtain ⟨hi, rfl⟩ := List.getElem?_eq_some_iff.1 h
  rw [← List.drop_eq_getElem_cons hi, List.take_append_drop]

lemma Accepts.isEmpty_eq {i : ℕ} {fields : Fields} (h : catalog.Accepts t i fields) :
    catalog.isEmpty = false := by
  obtain ⟨grammar, hgrammar, -⟩ := h.accepted
  have hmem := List.mem_of_getElem? hgrammar
  cases hgrammars : catalog.grammars with
  | nil => exact absurd hmem (hgrammars ▸ List.not_mem_nil)
  | cons first later => rw [isEmpty, hgrammars, List.isEmpty_cons]

lemma read_of_not_isEmpty (h : catalog.isEmpty = false) :
    catalog.read now t tally = readWith now t tally catalog.grammars := by
  rw [read, h, if_neg Bool.false_ne_true]

lemma rejects_or_exists_first (grammars : List Grammar) (t : Text) :
    (∀ grammar ∈ grammars, grammar.Rejects t) ∨
      ∃ i fields grammar, grammars[i]? = some grammar ∧ grammar.verdict t = .accepted fields ∧
        ∀ other ∈ grammars.take i, other.Rejects t := by
  induction grammars with
  | nil => exact .inl fun grammar h => absurd h List.not_mem_nil
  | cons grammar grammars ih =>
    by_cases hrejects : grammar.Rejects t
    · rcases ih with hall | ⟨i, fields, other, hother, hverdict, hfirst⟩
      · exact .inl (List.forall_mem_cons.2 ⟨hrejects, hall⟩)
      · exact .inr ⟨i + 1, fields, other, hother, hverdict,
          List.forall_mem_cons.2 ⟨hrejects, hfirst⟩⟩
    · obtain ⟨fields, hverdict⟩ := not_forall_not.1 hrejects
      exact .inr ⟨0, fields, grammar, rfl, hverdict, fun other h => absurd h List.not_mem_nil⟩

lemma rejects_or_exists_accepts (catalog : Catalog) (t : Text) :
    catalog.Rejects t ∨ ∃ i fields, catalog.Accepts t i fields := by
  rcases rejects_or_exists_first catalog.grammars t with
    hall | ⟨i, fields, grammar, hgrammar, hverdict, hfirst⟩
  · exact .inl hall
  · exact .inr ⟨i, fields, ⟨grammar, hgrammar, hverdict⟩, hfirst⟩

lemma Accepts.exists_read_eq {i : ℕ} {fields : Fields} (h : catalog.Accepts t i fields) :
    ∃ grammar, catalog.grammars[i]? = some grammar ∧ ∀ now tally,
      catalog.read now t tally = (grammar.reading now fields,
        (tally.afterRejections t (catalog.grammars.take i)).countAttempt) := by
  obtain ⟨grammar, hgrammar, hverdict⟩ := h.accepted
  refine ⟨grammar, hgrammar, fun now tally => ?_⟩
  rw [read_of_not_isEmpty h.isEmpty_eq, eq_of_getElem? hgrammar,
    readWith_append_of_rejects h.first, readWith_cons_of_accepted hverdict,
    ← eq_of_getElem? hgrammar]

lemma Rejects.read_eq (h : catalog.Rejects t) (hempty : catalog.isEmpty = false) :
    catalog.read now t tally = (.error .noMatch, tally.afterRejections t catalog.grammars) := by
  have hread : readWith now t tally (catalog.grammars ++ []) = _ :=
    readWith_append_of_rejects h []
  rw [List.append_nil] at hread
  rw [read_of_not_isEmpty hempty, hread, readWith]

lemma Numbered.readsFirst (hcatalog : catalog.Numbered) (now : Moment) (t : Text)
    (tally : Tally) : catalog.ReadsFirst now t tally where
  unconfigured hempty := if_pos hempty
  rejected hempty hrejects := hrejects.read_eq hempty
  accepted i fields haccepts := by
    obtain ⟨grammar, hgrammar, hread⟩ := haccepts.exists_read_eq
    have hlength : (catalog.grammars.take i).length = i :=
      List.length_take_of_le (Nat.le_of_lt (List.getElem?_eq_some_iff.1 hgrammar).1)
    rw [hread, reading_eq, hcatalog i grammar hgrammar, Tally.countAttempt_eq_plus,
      Tally.afterRejections, Tally.plus_plus, hlength]
    rfl
  decided := catalog.rejects_or_exists_accepts t

end Catalog
end Syslog
