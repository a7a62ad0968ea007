import Syslog.Proofs.Grammar.Words

/-!
# Ends of structured data

Structured data may hold blanks and brackets, yet it ends in one place: of the sequences of elements
at the start of a text only the longest is not followed by another element.
-/
namespace Syslog
open Text Reader
open scoped Computability

namespace Token

def isOpening (c : Char) : Bool := c == '['

lemma stops_of_between {t rest : Text} (ht : t ∈ ElementState.between.language) :
    ¬ Stops isOpening (t ++ rest) := by
  cases t with
  | nil => exact absurd ht (ElementState.nil_notMem _)
  | cons c t =>
    rw [(cons_mem_between.1 ht).1]
    simp [isOpening]

/-- Of two sequences of elements at the start of a text, neither before another element, both are
the same. -/
theorem elements_unique {rest rest' : Text} (hrest : Stops isOpening rest)
    (hrest' : Stops isOpening rest') (n : ℕ) {state : ElementState} {s t : Text}
    (hn : s.length ≤ n) (hs : s ∈ state.language) (ht : t ∈ state.language)
    (h : s ++ rest = t ++ rest') : s = t := by
  induction n generalizing state s t with
  | zero =>
    rw [List.length_eq_zero_iff.1 (Nat.le_zero.1 hn)] at hs
    exact absurd hs state.nil_notMem
  | succ n ih =>
    cases s with
    | nil => exact absurd hs state.nil_notMem
    | cons c s =>
      cases t with
      | nil => exact absurd ht state.nil_notMem
      | cons d t =>
        obtain ⟨rfl, htail⟩ := List.cons.inj h
        have hlength : s.length ≤ n := Nat.le_of_succ_le_succ hn
        -- an escape takes two characters at once, so the induction is on the length
        have hescape : ∀ other : ElementState, (∃ x u, s = x :: u ∧ u ∈ other.language) →
            (∃ y v, t = y :: v ∧ v ∈ other.language) → s = t := by
          rintro other ⟨x, u, rfl, hu⟩ ⟨y, v, rfl, hv⟩
          obtain ⟨rfl, hends⟩ := List.cons.inj htail
          rw [ih (Nat.le_of_succ_le hlength) hu hv hends]
        rw [List.cons_inj_right]
        cases state with
        | between => exact ih hlength (cons_mem_between.1 hs).2 (cons_mem_between.1 ht).2 htail
        | element =>
          rcases cons_mem_element.1 hs with ⟨rfl, h'⟩ | ⟨hc, h'⟩ | ⟨rfl, h'⟩ | ⟨rfl, h'⟩
          · have ht' : t ∈ dataElement∗ := by simpa [cons_mem_element] using ht
            rcases mem_dataElements.1 h' with rfl | hs' <;>
              rcases mem_dataElements.1 ht' with rfl | ht'
            · rfl
            · exact absurd ((show rest = t ++ rest' from htail) ▸ hrest) (stops_of_between ht')
            · exact absurd ((show s ++ rest = rest' from htail) ▸ hrest') (stops_of_between hs')
            · exact ih hlength hs' ht' htail
          · have ht' : t ∈ ElementState.element.language := by
              rcases cons_mem_element.1 ht with ⟨rfl, -⟩ | ⟨-, ht'⟩ | ⟨rfl, -⟩ | ⟨rfl, -⟩
              · simp at hc
              · exact ht'
              · simp at hc
              · simp at hc
            exact ih hlength h' ht' htail
          · exact hescape .element h' (by simpa [cons_mem_element] using ht)
          · exact ih hlength h' (by simpa [cons_mem_element] using ht) htail
        | quoted =>
          rcases cons_mem_quoted.1 hs with ⟨rfl, h'⟩ | ⟨hc, h'⟩ | ⟨rfl, h'⟩
          · exact ih hlength h' (by simpa [cons_mem_quoted] using ht) htail
          · have ht' : t ∈ ElementState.quoted.language := by
              rcases cons_mem_quoted.1 ht with ⟨rfl, -⟩ | ⟨-, ht'⟩ | ⟨rfl, -⟩
              · simp at hc
              · exact ht'
              · simp at hc
            exact ih hlength h' ht' htail
          · exact hescape .quoted h' (by simpa [cons_mem_quoted] using ht)

lemma structuredData_unique {s t rest rest' : Text} (hs : s ∈ structuredData.language)
    (ht : t ∈ structuredData.language) (hrest : Stops isOpening rest)
    (hrest' : Stops isOpening rest') (h : s ++ rest = t ++ rest') : s = t := by
  have hhyphen : ∀ {u v v' : Text}, u ∈ ElementState.between.language →
      u ++ v ≠ ['-'] ++ v' := by
    intro u v v' hu hv
    cases u with
    | nil => exact ElementState.nil_notMem _ hu
    | cons c u =>
      obtain ⟨rfl, -⟩ := cons_mem_between.1 hu
      cases (List.cons.inj hv).1
  rcases hs with rfl | hs <;> rcases ht with rfl | ht
  · rfl
  · exact absurd h.symm (hhyphen ht)
  · exact absurd h (hhyphen hs)
  · have hbetween : s ∈ ElementState.between.language := hs
    exact elements_unique hrest hrest' s.length le_rfl hbetween ht h

theorem getLast?_structuredData {t : Text} (h : t ∈ structuredData.language) :
    t.getLast? = some '-' ∨ t.getLast? = some ']' := by
  rcases h with rfl | h
  · exact .inl rfl
  · change t ∈ dataElement * dataElement∗ at h
    rw [← Language.mul_self_kstar_comm, Language.mem_mul] at h
    obtain ⟨before, -, _, ⟨_, rfl, _, ⟨inner, -, _, rfl, rfl⟩, rfl⟩, rfl⟩ := h
    refine .inr ?_
    change (before ++ (['['] ++ (inner ++ [']']))).getLast? = _
    rw [← List.append_assoc, ← List.append_assoc, List.getLast?_concat]

lemma ne_nil_of_structuredData {t : Text} (h : t ∈ structuredData.language) : t ≠ [] := by
  rintro rfl
  rcases h with h | h
  · cases h
  · exact ElementState.nil_notMem .between h

end Token

theorem reads_structuredData {t rest : Text} (ht : t ∈ Token.structuredData.language)
    (hrest : Stops isBlank rest) {field : Option String} {segments : List Segment}
    {entries : List (String × Text)} :
    Reads (.token .structuredData field :: .blanks :: segments) (t ++ ' ' :: rest) entries ↔
      ∃ later, Reads segments rest later ∧
        entries = (Segment.token .structuredData field).capture t ++ later := by
  constructor
  · intro h
    obtain ⟨piece, hpiece, u, later, hu, htext, rfl⟩ := reads_cons.1 h
    have hopening : Stops Token.isOpening u := (refuses_blanks segments u later hu).of_imp
      fun c hc => by rw [beq_iff_eq.1 hc]; decide
    obtain rfl := Token.structuredData_unique hpiece ht hopening (stops_cons.2 (by decide)) htext
    rw [List.append_cancel_left htext, reads_blanks hrest] at hu
    exact ⟨later, hu, rfl⟩
  · rintro ⟨later, h, rfl⟩
    exact .token ht ((reads_blanks hrest).2 h)

/-- No blanks follow a part of structured data that is structured data too. -/
theorem not_reads_structuredData {t : Text} (ht : t ∈ Token.structuredData.language)
    {field : Option String} {segments : List Segment} {entries : List (String × Text)} :
    ¬ Reads (.token .structuredData field :: .blanks :: segments) t entries := by
  intro h
  obtain ⟨piece, hpiece, u, later, hu, htext, -⟩ := reads_cons.1 h
  have hopening : Stops Token.isOpening u := (refuses_blanks segments u later hu).of_imp
    fun c hc => by rw [beq_iff_eq.1 hc]; decide
  rw [← List.append_nil t] at htext
  obtain rfl := Token.structuredData_unique hpiece ht hopening stops_nil htext
  rw [List.append_cancel_left htext] at hu
  obtain ⟨run, hrun, u, later, -, hrun_nil, -⟩ := reads_cons.1 hu
  exact (mem_runOf.1 hrun).1 (List.append_eq_nil_iff.1 hrun_nil).1

end Syslog
