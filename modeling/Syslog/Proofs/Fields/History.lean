import Mathlib.Data.Finset.Card
import Syslog.Fields

/-!
# Histories of fields

Fields that are used by one operation after another record what was inserted and removed: a name has
the value of its last insertion, unless this was empty or a removal came after it, and the names
stand in the order in which they came to have a value.
-/
namespace Syslog.Fields

inductive Operation where
  | insert (name : String) (value : Text)
  | remove (name : String)
  | get (name : String)
  | contains (name : String)
  deriving DecidableEq, Repr

inductive Answer where
  | nothing
  | value (found : Option Text)
  | presence (found : Bool)
  deriving DecidableEq, Repr

def perform (fields : Fields) : Operation → Answer × Fields
  | .insert name value => (.nothing, fields.insert name value)
  | .remove name => (.value (fields.remove name).1, (fields.remove name).2)
  | .get name => (.value (fields.get? name), fields)
  | .contains name => (.presence (fields.contains name), fields)

/-- The fields after a history of operations, the earliest first. -/
def after (history : List Operation) : Fields :=
  history.foldl (fun fields operation => (fields.perform operation).2) empty

namespace Operation

def name : Operation → String
  | insert name _ | remove name | get name | contains name => name

/-- The operation decides on the value of the name. -/
def Decides (name : String) (operation : Operation) : Prop :=
  operation = remove name ∨ ∃ value, operation = insert name value

/-- The operation leaves the name without a value. -/
def Clears (name : String) (operation : Operation) : Prop :=
  operation = remove name ∨ operation = insert name []

/-- What the operation is to answer if its name has a value, or none. -/
def answer (found : Option Text) : Operation → Answer
  | insert .. => .nothing
  | remove _ | get _ => .value found
  | contains _ => .presence found.isSome

end Operation

/-- The last insertion of the name gave it the value, and no removal came after. -/
def Holds (history : List Operation) (name : String) (value : Text) : Prop :=
  ∃ before later, history = before ++ .insert name value :: later ∧ value ≠ [] ∧
    ∀ operation ∈ later, ¬ operation.Decides name

/-- The name has had a value since the operation with the number, and had none before it. -/
def Enters (history : List Operation) (name : String) (n : ℕ) : Prop :=
  ∃ before value later, history = before ++ .insert name value :: later ∧ before.length = n ∧
    value ≠ [] ∧ (∀ other, ¬ Holds before name other) ∧
    ∀ operation ∈ later, ¬ operation.Clears name

/-- The first name came to have its value before the second did. -/
def Precedes (history : List Operation) (first second : String) : Prop :=
  ∀ i j, Enters history first i → Enters history second j → i < j

/-- The fields are what the history says: each name that has a value once, with that value, in the
order in which they came to have one. -/
structure Records (history : List Operation) (fields : Fields) : Prop where
  distinct : fields.names.Nodup
  valued : ∀ entry ∈ fields.entries, entry.2 ≠ []
  get?_iff : ∀ name value, fields.get? name = some value ↔ Holds history name value
  contains_iff : ∀ name, fields.contains name = true ↔ ∃ value, Holds history name value
  size_eq : ∃ found : Finset String,
    (∀ name, name ∈ found ↔ ∃ value, fields.get? name = some value) ∧ fields.size = found.card
  entered : ∀ name ∈ fields.names, ∃ n, Enters history name n
  ordered : fields.names.Pairwise (Precedes history)

/-- Each operation does its part to the entries of its own name, and to no others. -/
structure Lawful (fields : Fields) : Prop where
  answer : ∀ operation, (fields.perform operation).1 = operation.answer (fields.get? operation.name)
  others : ∀ operation,
    (fields.perform operation).2.entries.filter (fun entry => entry.1 != operation.name) =
      fields.entries.filter fun entry => entry.1 != operation.name
  unchanged : ∀ operation, ¬ operation.Decides operation.name →
    (fields.perform operation).2 = fields
  /-- A new value stands where the old one stood. -/
  replaced : ∀ name value, value ≠ [] → fields.contains name = true →
    (fields.perform (.insert name value)).2.names = fields.names
  appended : ∀ name value, value ≠ [] → fields.contains name = false →
    (fields.perform (.insert name value)).2.entries = fields.entries ++ [(name, value)]
  cleared : ∀ operation, operation.Clears operation.name →
    (fields.perform operation).2.contains operation.name = false

variable {fields : Fields} {history : List Operation} {operation : Operation}
  {name other : String} {value : Text} {n : ℕ}

/-! ## Single operations -/

lemma perform_remove (h : fields.names.Nodup) (name : String) :
    fields.perform (.remove name) = (.value (fields.get? name), fields.erase name) := by
  rw [perform, remove_eq h]

lemma insert_of_contains (hvalue : value ≠ []) (h : fields.contains name = true) :
    fields.insert name value =
      ⟨fields.entries.map fun entry => if entry.1 == name then (name, value) else entry⟩ := by
  rw [insert, if_neg hvalue, if_pos h]

lemma insert_of_not_contains (hvalue : value ≠ []) (h : fields.contains name = false) :
    fields.insert name value = ⟨fields.entries ++ [(name, value)]⟩ := by
  rw [insert, if_neg hvalue, if_neg (Bool.eq_false_iff.1 h)]

lemma filter_erase (fields : Fields) (name : String) :
    (fields.erase name).entries.filter (fun entry => entry.1 != name) =
      fields.entries.filter fun entry => entry.1 != name := by
  simp [erase, List.filter_filter]

lemma filter_insert (fields : Fields) (name : String) (value : Text) :
    (fields.insert name value).entries.filter (fun entry => entry.1 != name) =
      fields.entries.filter fun entry => entry.1 != name := by
  by_cases hvalue : value = []
  · rw [insert, if_pos hvalue, filter_erase]
  · cases h : fields.contains name with
    | false => simp [insert_of_not_contains hvalue h]
    | true =>
      rw [insert_of_contains hvalue h]
      induction fields.entries with
      | nil => rfl
      | cons entry entries ih =>
        by_cases hname : entry.1 = name <;> simp_all

lemma lawful_of_nodup (h : fields.names.Nodup) : fields.Lawful where
  answer operation := by
    cases operation with
    | remove name => exact congrArg Prod.fst (perform_remove h name)
    | insert | get | contains => rfl
  others operation := by
    cases operation with
    | insert name value => exact fields.filter_insert name value
    | remove name =>
      rw [perform_remove h]
      exact fields.filter_erase name
    | get | contains => rfl
  unchanged operation hdecides := by
    cases operation with
    | insert name value => exact absurd (.inr ⟨value, rfl⟩) hdecides
    | remove name => exact absurd (.inl rfl) hdecides
    | get | contains => rfl
  replaced name value hvalue hname := by
    rw [perform, insert_of_contains hvalue hname]
    exact map_fst_replace fields.entries name value
  appended name value hvalue hname := by
    rw [perform, insert_of_not_contains hvalue hname]
  cleared operation hclears := by
    rcases hclears with hremove | hinsert
    · rw [hremove, perform_remove h]
      simp [contains, Operation.name]
    · rw [hinsert, perform]
      simp [contains, Operation.name]

/-! ## Histories -/

lemma after_concat (history : List Operation) (operation : Operation) :
    after (history ++ [operation]) = ((after history).perform operation).2 := by
  rw [after, List.foldl_append, List.foldl_cons, List.foldl_nil, after]

lemma concat_eq_append_cons {before later : List Operation} {earlier : Operation} :
    history ++ [operation] = before ++ earlier :: later ↔
      (history = before ∧ operation = earlier ∧ later = []) ∨
        ∃ rest, history = before ++ earlier :: rest ∧ later = rest ++ [operation] := by
  constructor
  · intro h
    rcases List.eq_nil_or_concat' later with rfl | ⟨rest, last, rfl⟩
    · obtain ⟨hbefore, hlast⟩ := List.append_inj' h rfl
      exact .inl ⟨hbefore, (List.cons.inj hlast).1, rfl⟩
    · rw [← List.cons_append, ← List.append_assoc] at h
      obtain ⟨hbefore, hlast⟩ := List.append_inj' h rfl
      obtain rfl := (List.cons.inj hlast).1
      exact .inr ⟨rest, hbefore, rfl⟩
  · rintro (⟨rfl, rfl, rfl⟩ | ⟨rest, rfl, rfl⟩)
    · rfl
    · rw [List.append_assoc, List.cons_append]

lemma holds_concat :
    Holds (history ++ [operation]) name value ↔
      (operation = .insert name value ∧ value ≠ []) ∨
        (Holds history name value ∧ ¬ operation.Decides name) := by
  constructor
  · rintro ⟨before, later, hhistory, hvalue, hlater⟩
    rcases concat_eq_append_cons.1 hhistory with ⟨-, hinsert, -⟩ | ⟨rest, hbefore, rfl⟩
    · exact .inl ⟨hinsert, hvalue⟩
    · rw [List.forall_mem_append, List.forall_mem_singleton] at hlater
      exact .inr ⟨⟨before, rest, hbefore, hvalue, hlater.1⟩, hlater.2⟩
  · rintro (⟨rfl, hvalue⟩ | ⟨⟨before, later, rfl, hvalue, hlater⟩, hdecides⟩)
    · exact ⟨history, [], rfl, hvalue, by simp⟩
    · refine ⟨before, later ++ [operation], by simp, hvalue, ?_⟩
      rw [List.forall_mem_append, List.forall_mem_singleton]
      exact ⟨hlater, hdecides⟩

lemma enters_concat :
    Enters (history ++ [operation]) name n ↔
      (n = history.length ∧ (∃ value, operation = .insert name value ∧ value ≠ []) ∧
        ∀ value, ¬ Holds history name value) ∨
        (Enters history name n ∧ ¬ operation.Clears name) := by
  constructor
  · rintro ⟨before, value, later, hhistory, rfl, hvalue, hnone, hlater⟩
    rcases concat_eq_append_cons.1 hhistory with ⟨rfl, hinsert, -⟩ | ⟨rest, hbefore, rfl⟩
    · exact .inl ⟨rfl, ⟨value, hinsert, hvalue⟩, hnone⟩
    · rw [List.forall_mem_append, List.forall_mem_singleton] at hlater
      exact .inr ⟨⟨before, value, rest, hbefore, rfl, hvalue, hnone, hlater.1⟩, hlater.2⟩
  · rintro (⟨rfl, ⟨value, rfl, hvalue⟩, hnone⟩ |
      ⟨⟨before, value, later, rfl, hlength, hvalue, hnone, hlater⟩, hclears⟩)
    · exact ⟨history, value, [], rfl, rfl, hvalue, hnone, by simp⟩
    · refine ⟨before, value, later ++ [operation], by simp, hlength, hvalue, hnone, ?_⟩
      rw [List.forall_mem_append, List.forall_mem_singleton]
      exact ⟨hlater, hclears⟩

lemma Enters.lt (h : Enters history name n) : n < history.length := by
  obtain ⟨before, value, later, rfl, rfl, -⟩ := h
  simp

lemma Operation.Decides.cases (h : operation.Decides name) :
    operation.Clears name ∨ ∃ value, operation = .insert name value ∧ value ≠ [] := by
  rcases h with hremove | ⟨value, hinsert⟩
  · exact .inl (.inl hremove)
  · by_cases hvalue : value = []
    · exact .inl (.inr (hvalue ▸ hinsert))
    · exact .inr ⟨value, hinsert, hvalue⟩

lemma Enters.exists_holds (h : Enters history name n) : ∃ value, Holds history name value := by
  induction history using List.reverseRecOn with
  | nil => exact absurd h.lt (Nat.not_lt_zero n)
  | append_singleton history operation ih =>
    rcases enters_concat.1 h with ⟨-, ⟨value, hinsert, hvalue⟩, -⟩ | ⟨hearlier, hclears⟩
    · exact ⟨value, holds_concat.2 (.inl ⟨hinsert, hvalue⟩)⟩
    · obtain ⟨old, hold⟩ := ih hearlier
      by_cases hdecides : operation.Decides name
      · obtain ⟨value, hinsert, hvalue⟩ := hdecides.cases.resolve_left hclears
        exact ⟨value, holds_concat.2 (.inl ⟨hinsert, hvalue⟩)⟩
      · exact ⟨old, holds_concat.2 (.inr ⟨hold, hdecides⟩)⟩

lemma Holds.exists_enters (h : Holds history name value) : ∃ n, Enters history name n := by
  induction history using List.reverseRecOn generalizing value with
  | nil =>
    obtain ⟨before, later, hnil, -⟩ := h
    cases before <;> cases hnil
  | append_singleton history operation ih =>
    by_cases hheld : ∃ old, Holds history name old
    · obtain ⟨old, hold⟩ := hheld
      obtain ⟨n, hn⟩ := ih hold
      refine ⟨n, enters_concat.2 (.inr ⟨hn, fun hclears => ?_⟩)⟩
      rcases holds_concat.1 h with ⟨hinsert, hvalue⟩ | ⟨-, hdecides⟩
      · rcases hclears with hremove | hempty
        · cases hremove.symm.trans hinsert
        · cases hempty.symm.trans hinsert
          exact hvalue rfl
      · exact hdecides (hclears.imp id fun hempty => ⟨[], hempty⟩)
    · rcases holds_concat.1 h with ⟨hinsert, hvalue⟩ | ⟨hold, -⟩
      · exact ⟨history.length, enters_concat.2
          (.inl ⟨rfl, ⟨value, hinsert, hvalue⟩, not_exists.1 hheld⟩)⟩
      · exact absurd ⟨value, hold⟩ hheld

lemma wellFormed_perform (h : fields.WellFormed) (operation : Operation) :
    (fields.perform operation).2.WellFormed := by
  cases operation with
  | insert name value => exact wellFormed_insert h name value
  | remove name =>
    rw [perform_remove h.1]
    exact wellFormed_erase h name
  | get | contains => exact h

theorem wellFormed_after (history : List Operation) : (after history).WellFormed := by
  induction history using List.reverseRecOn with
  | nil => exact wellFormed_empty
  | append_singleton history operation ih =>
    rw [after_concat]
    exact wellFormed_perform ih operation

lemma get?_perform (h : fields.names.Nodup) (operation : Operation) :
    (fields.perform operation).2.get? name = some value ↔
      (operation = .insert name value ∧ value ≠ []) ∨
        (fields.get? name = some value ∧ ¬ operation.Decides name) := by
  cases operation with
  | insert key given =>
    rw [perform, get?_insert]
    by_cases hname : name = key
    · subst hname
      have hdecides : (Operation.insert name given).Decides name := .inr ⟨given, rfl⟩
      rw [if_pos rfl, Option.ite_none_left_eq_some, Option.some.injEq, Operation.insert.injEq]
      constructor
      · rintro ⟨hgiven, rfl⟩
        exact .inl ⟨⟨rfl, rfl⟩, hgiven⟩
      · rintro (⟨⟨-, rfl⟩, hvalue⟩ | ⟨-, hkept⟩)
        · exact ⟨hvalue, rfl⟩
        · exact absurd hdecides hkept
    · simp [Operation.Decides, hname, Ne.symm hname]
  | remove key =>
    rw [perform_remove h, get?_erase]
    by_cases hname : name = key
    · simp [Operation.Decides, hname]
    · simp [Operation.Decides, hname, Ne.symm hname]
  | get | contains => simp [perform, Operation.Decides]

theorem get?_after (history : List Operation) (name : String) (value : Text) :
    (after history).get? name = some value ↔ Holds history name value := by
  induction history using List.reverseRecOn with
  | nil =>
    constructor
    · intro h
      cases h
    · rintro ⟨before, later, hnil, -⟩
      cases before <;> cases hnil
  | append_singleton history operation ih =>
    rw [after_concat, get?_perform (wellFormed_after history).1, holds_concat, ih]

lemma mem_names_iff : name ∈ fields.names ↔ ∃ value, fields.get? name = some value := by
  rw [← Fields.contains_iff, contains, Option.isSome_iff_exists]

lemma mem_names_after : name ∈ (after history).names ↔ ∃ value, Holds history name value := by
  simp only [mem_names_iff, get?_after]

lemma names_perform (h : fields.names.Nodup) (operation : Operation) :
    (fields.perform operation).2.names.Sublist fields.names ∨
      ∃ name value, operation = .insert name value ∧ name ∉ fields.names ∧
        (fields.perform operation).2.names = fields.names ++ [name] := by
  have herase : ∀ name, (fields.erase name).names.Sublist fields.names := fun name =>
    List.filter_sublist.map Prod.fst
  cases operation with
  | insert name value =>
    by_cases hvalue : value = []
    · rw [perform, insert, if_pos hvalue]
      exact .inl (herase name)
    · cases hname : fields.contains name with
      | true =>
        rw [(lawful_of_nodup h).replaced name value hvalue hname]
        exact .inl (List.Sublist.refl _)
      | false =>
        refine .inr ⟨name, value, rfl, fun hmem => ?_, ?_⟩
        · rw [(Fields.contains_iff fields name).2 hmem] at hname
          cases hname
        · rw [names, (lawful_of_nodup h).appended name value hvalue hname, List.map_append, names]
          rfl
  | remove name =>
    rw [perform_remove h]
    exact .inl (herase name)
  | get | contains => exact .inl (List.Sublist.refl _)

lemma Enters.of_concat (h : Enters (history ++ [operation]) name n)
    (hname : name ∈ (after history).names) : Enters history name n := by
  rcases enters_concat.1 h with ⟨-, -, hnone⟩ | ⟨hearlier, -⟩
  · exact absurd (mem_names_after.1 hname) (not_exists.2 hnone)
  · exact hearlier

lemma precedes_concat {first second : String} (hfirst : first ∈ (after history).names)
    (hsecond : second ∈ (after history).names) (h : Precedes history first second) :
    Precedes (history ++ [operation]) first second := fun i j hi hj =>
  h i j (hi.of_concat hfirst) (hj.of_concat hsecond)

lemma precedes_new {first second : String} (hfirst : first ∈ (after history).names)
    (hsecond : second ∉ (after history).names) :
    Precedes (history ++ [operation]) first second := by
  intro i j hi hj
  rcases enters_concat.1 hj with ⟨rfl, -⟩ | ⟨hearlier, -⟩
  · exact (hi.of_concat hfirst).lt
  · exact absurd (mem_names_after.2 hearlier.exists_holds) hsecond

theorem pairwise_precedes (history : List Operation) :
    (after history).names.Pairwise (Precedes history) := by
  induction history using List.reverseRecOn with
  | nil => exact List.Pairwise.nil
  | append_singleton history operation ih =>
    have hkept : (after history).names.Pairwise (Precedes (history ++ [operation])) :=
      ih.imp_of_mem fun hfirst hsecond => precedes_concat hfirst hsecond
    rw [after_concat]
    rcases names_perform (wellFormed_after history).1 operation with
      hsublist | ⟨name, value, -, hnew, hnames⟩
    · exact hkept.sublist hsublist
    · rw [hnames, List.pairwise_append]
      refine ⟨hkept, List.pairwise_singleton _ _, fun first hfirst second hsecond => ?_⟩
      rw [List.mem_singleton.1 hsecond]
      exact precedes_new hfirst hnew

/-- After every history the fields are those that it records, and any next operation does its part
to them. -/
theorem after_records (history : List Operation) :
    Records history (after history) ∧ (after history).Lawful := by
  obtain ⟨hdistinct, hvalued⟩ := wellFormed_after history
  refine ⟨⟨hdistinct, hvalued, get?_after history, fun name => ?_, ?_, fun name hname => ?_,
    pairwise_precedes history⟩, lawful_of_nodup hdistinct⟩
  · rw [Fields.contains_iff, mem_names_after]
  · refine ⟨(after history).names.toFinset, fun name => ?_, ?_⟩
    · rw [List.mem_toFinset, mem_names_iff]
    · rw [List.toFinset_card_of_nodup hdistinct, size, names, List.length_map]
  · obtain ⟨value, hvalue⟩ := mem_names_after.1 hname
    exact hvalue.exists_enters

/-- A name that was removed comes back at the end, and one that was not keeps its place. -/
example : after [.insert "host" ['h'], .insert "tag" ['t'], .insert "host" [], .insert "tag" ['u'],
    .insert "host" ['g']] = ⟨[("tag", ['u']), ("host", ['g'])]⟩ := by decide

end Syslog.Fields
