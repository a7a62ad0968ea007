import Mathlib.Data.List.Forall2
import Syslog.Catalog.Basic

/-!
# Positions of grammars

A catalog that is read from a text numbers its grammars by their positions.
-/
namespace Syslog.Catalog

/-- Every grammar has the number of its position. -/
def Numbered (catalog : Catalog) : Prop :=
  ∀ (i : ℕ) (grammar : Grammar), catalog.grammars[i]? = some grammar → grammar.index = i

lemma mapM_eq_ok_iff {α β ε : Type} {f : α → Except ε β} {xs : List α} {ys : List β} :
    xs.mapM f = .ok ys ↔ List.Forall₂ (fun x y => f x = .ok y) xs ys := by
  induction xs generalizing ys with
  | nil =>
    rw [List.mapM_nil, List.forall₂_nil_left_iff]
    exact ⟨fun h => (Except.ok.inj h).symm, fun h => h ▸ rfl⟩
  | cons x xs ih =>
    rw [List.mapM_cons, List.forall₂_cons_left_iff]
    constructor
    · intro h
      cases hx : f x with
      | error fault =>
        rw [hx] at h
        cases h
      | ok y =>
        cases hxs : xs.mapM f with
        | error fault =>
          rw [hx, hxs] at h
          cases h
        | ok later =>
          rw [hx, hxs] at h
          exact ⟨y, later, rfl, ih.1 hxs, (Except.ok.inj h).symm⟩
    · rintro ⟨y, later, hy, hlater, rfl⟩
      rw [hy, ih.2 hlater]
      rfl

lemma grammarOfLine_eq_ok_iff {index : ℕ} {line : Line} {grammar : Grammar} :
    grammarOfLine index line = .ok grammar ↔ Grammar.ofText index line.text = .ok grammar := by
  rw [grammarOfLine]
  cases Grammar.ofText index line.text <;> simp [Except.mapError]

/-- A catalog is read from a text when each of its grammars is read from the text of its line. -/
theorem ofText_eq_ok_iff {t : Text} {catalog : Catalog} :
    ofText t = .ok catalog ↔
      List.Forall₂ (fun (entry : Text × ℕ) grammar => Grammar.ofText entry.2 entry.1 = .ok grammar)
        ((grammarLines t).map Line.text).zipIdx catalog.grammars := by
  have hbind : ofText t =
      (((grammarLines t).zipIdx.mapM fun entry => grammarOfLine entry.2 entry.1).bind
        fun grammars => .ok ⟨grammars⟩) := rfl
  rw [List.zipIdx_map, List.forall₂_map_left_iff, hbind]
  simp only [Prod.map_fst, Prod.map_snd, id_eq, ← grammarOfLine_eq_ok_iff, ← mapM_eq_ok_iff]
  cases (grammarLines t).zipIdx.mapM fun entry => grammarOfLine entry.2 entry.1 with
  | error fault => constructor <;> intro h <;> cases h
  | ok grammars =>
    constructor
    · intro h
      rw [← Except.ok.inj h]
    · intro h
      rw [Except.ok.inj h]
      rfl

lemma exists_text_of_ofText {t : Text} {catalog : Catalog} (h : ofText t = .ok catalog) {i : ℕ}
    {grammar : Grammar} (hgrammar : catalog.grammars[i]? = some grammar) :
    ∃ text, Grammar.ofText i text = .ok grammar := by
  obtain ⟨hlength, hread⟩ := List.forall₂_iff_get.1 (ofText_eq_ok_iff.1 h)
  obtain ⟨hi, rfl⟩ := List.getElem?_eq_some_iff.1 hgrammar
  have htext := hread i (hlength ▸ hi) hi
  rw [List.get_eq_getElem, List.getElem_zipIdx, Nat.zero_add] at htext
  exact ⟨_, htext⟩

lemma numbered_ofText {t : Text} {catalog : Catalog} (h : ofText t = .ok catalog) :
    catalog.Numbered := by
  intro i grammar hgrammar
  obtain ⟨text, hread⟩ := exists_text_of_ofText h hgrammar
  obtain ⟨segments, -, rfl⟩ := Grammar.ofText_eq_ok_iff.1 hread
  rfl

lemma Numbered.index_lt {catalog : Catalog} (h : catalog.Numbered) {grammar : Grammar}
    (hgrammar : grammar ∈ catalog.grammars) : grammar.index < catalog.size := by
  obtain ⟨i, hi⟩ := List.mem_iff_getElem?.1 hgrammar
  rw [h i grammar hi]
  exact (List.getElem?_eq_some_iff.1 hi).1

end Syslog.Catalog
