import Mathlib.Data.List.Basic
import Syslog.HostName
import Syslog.Proofs.Grammar.Solid

/-!
# Host names

A host name, of whatever kind, consists of labels, and so of ASCII letters, digits, hyphens and
points. What is left of one after some letters is one again, unless it begins with a hyphen or a
point.
-/
namespace Syslog.HostName
open Text

def IsCharacter (c : Char) : Prop := c.isAlphanum = true ∨ c = '-' ∨ c = '.'

theorem eq_or_exists_mem_splitOn (separator : Char) {c : Char} {t : Text} (h : c ∈ t) :
    c = separator ∨ ∃ piece ∈ t.splitOn separator, c ∈ piece := by
  induction t with
  | nil => cases h
  | cons d t ih =>
    rw [List.splitOn_cons_eq_if_modifyHead]
    obtain ⟨first, later, hpieces⟩ := List.exists_cons_of_ne_nil (List.splitOn_ne_nil separator t)
    split
    · next hd =>
      rcases List.mem_cons.1 h with rfl | h
      · exact .inl (beq_iff_eq.1 hd)
      · exact (ih h).imp_right fun ⟨piece, hpiece, hc⟩ => ⟨piece, by simp [hpiece], hc⟩
    · rw [hpieces] at ih ⊢
      rcases List.mem_cons.1 h with rfl | h
      · exact .inr ⟨c :: first, by simp, by simp⟩
      · refine (ih h).imp_right fun ⟨piece, hpiece, hc⟩ => ?_
        rcases List.mem_cons.1 hpiece with rfl | hpiece
        · exact ⟨d :: piece, by simp, by simp [hc]⟩
        · exact ⟨piece, by simp [hpiece], hc⟩

lemma isCharacter_of_isLocal {t : Text} (h : isLocal t = true) {c : Char} (hc : c ∈ t) :
    IsCharacter c := by
  have hname : t.map Char.toLower = ofString "localhost" := by simpa [isLocal, toAsciiLower] using h
  have hletters : ∀ d ∈ ofString "localhost", d.isLower = true := by decide
  have hlower := hletters c.toLower (hname ▸ List.mem_map_of_mem hc)
  exact .inl (isAlphanum_of_isAlpha (isAlpha_of_isLower_toLower hlower))

lemma isCharacter_of_isAddress {t : Text} (h : isAddress t = true) {c : Char} (hc : c ∈ t) :
    IsCharacter c := by
  simp only [isAddress, Bool.and_eq_true, List.all_eq_true] at h
  rcases eq_or_exists_mem_splitOn '.' hc with rfl | ⟨octet, hoctet, hc⟩
  · exact .inr (.inr rfl)
  · have hdigits := h.2 octet hoctet
    simp only [isOctet, Bool.and_eq_true, List.all_eq_true] at hdigits
    exact .inl (by simp [Char.isAlphanum, hdigits.1.1.1.1 c hc])

lemma isCharacter_of_isLabels {t : Text} (h : isLabels t = true) {c : Char} (hc : c ∈ t) :
    IsCharacter c := by
  rw [isLabels, List.all_eq_true] at h
  rcases eq_or_exists_mem_splitOn '.' hc with rfl | ⟨label, hlabel, hc⟩
  · exact .inr (.inr rfl)
  · have hcharacters := h label hlabel
    simp only [isLabel, Bool.and_eq_true, List.all_eq_true] at hcharacters
    rcases Bool.or_eq_true_iff.1 (hcharacters.1.1 c hc) with h | h
    · exact .inl h
    · exact .inr (.inl (beq_iff_eq.1 h))

lemma isCharacter_of_isValid {t : Text} (h : isValid t = true) {c : Char} (hc : c ∈ t) :
    IsCharacter c := by
  simp only [isValid, Bool.and_eq_true, Bool.or_eq_true] at h
  rcases h.2 with (h | h) | h
  · exact isCharacter_of_isLocal h hc
  · exact isCharacter_of_isAddress h hc
  · exact isCharacter_of_isLabels h hc

lemma isSolid_of_isValid {t : Text} (h : isValid t = true) : IsSolid t := by
  intro c hc
  rcases isCharacter_of_isValid h hc with h | rfl | rfl
  · exact isBlank_of_isAlphanum h
  · decide
  · decide

lemma isLabel_of_isAlphanum {t : Text} (hne : t ≠ []) (h : ∀ c ∈ t, c.isAlphanum = true) :
    isLabel t = true := by
  simp only [isLabel, Bool.and_eq_true, List.all_eq_true]
  refine ⟨⟨fun c hc => ?_, ?_⟩, ?_⟩
  · simp [isLabelCharacter, h c hc]
  · rw [List.head?_eq_some_head hne]
    exact h _ (List.head_mem hne)
  · rw [List.getLast?_eq_some_getLast hne]
    exact h _ (List.getLast_mem hne)

lemma isLabels_of_isLocal {t : Text} (h : isLocal t = true) : isLabels t = true := by
  have hname : t.map Char.toLower = ofString "localhost" := by simpa [isLocal, toAsciiLower] using h
  have hletters : ∀ c ∈ t, c.isAlphanum = true := by
    have hlower : ∀ d ∈ ofString "localhost", d.isLower = true := by decide
    exact fun c hc => isAlphanum_of_isAlpha
      (isAlpha_of_isLower_toLower (hlower _ (hname ▸ List.mem_map_of_mem hc)))
  have hne : t ≠ [] := by
    rintro rfl
    cases hname
  have hpoint : '.' ∉ t := fun hmem => by simpa using hletters '.' hmem
  rw [isLabels, List.splitOn_eq_singleton hpoint]
  simpa using isLabel_of_isAlphanum hne hletters

lemma isLabels_of_isAddress {t : Text} (h : isAddress t = true) : isLabels t = true := by
  simp only [isAddress, Bool.and_eq_true, List.all_eq_true] at h
  rw [isLabels, List.all_eq_true]
  intro octet hoctet
  have hdigits := h.2 octet hoctet
  simp only [isOctet, Bool.and_eq_true, List.all_eq_true, decide_eq_true_eq] at hdigits
  refine isLabel_of_isAlphanum (List.ne_nil_of_length_pos hdigits.1.1.1.2) fun c hc => ?_
  simp [Char.isAlphanum, hdigits.1.1.1.1 c hc]

theorem isValid_iff {t : Text} :
    isValid t = true ↔ t ≠ [] ∧ byteLength t ≤ maxLength ∧ isLabels t = true := by
  simp only [isValid, Bool.and_eq_true, Bool.or_eq_true, Bool.not_eq_true',
    List.isEmpty_eq_false_iff, decide_eq_true_eq, and_assoc]
  refine and_congr_right fun _ => and_congr_right fun _ => ⟨?_, .inr⟩
  rintro ((h | h) | h)
  · exact isLabels_of_isLocal h
  · exact isLabels_of_isAddress h
  · exact h

lemma isLabels_of_cons {c d : Char} {t : Text} (hc : c.isAlphanum = true)
    (h : isLabels (d :: c :: t) = true) : isLabels (c :: t) = true := by
  have hpoint : (c == '.') = false := by
    rw [beq_eq_false_iff_ne]
    rintro rfl
    simp at hc
  rw [isLabels, List.splitOn_cons_eq_if_modifyHead] at h
  split at h
  · exact (Bool.and_eq_true_iff.1 h).2
  · rw [isLabels]
    rw [List.splitOn_cons_eq_if_modifyHead, hpoint] at h ⊢
    obtain ⟨first, later, hpieces⟩ := List.exists_cons_of_ne_nil (List.splitOn_ne_nil '.' t)
    rw [hpieces] at h ⊢
    simp only [Bool.false_eq_true, ↓reduceIte, List.modifyHead_cons, List.all_cons,
      Bool.and_eq_true] at h ⊢
    refine ⟨?_, h.2⟩
    have hlabel := h.1
    simp only [isLabel, List.all_cons, Bool.and_eq_true, List.getLast?_cons_cons] at hlabel ⊢
    exact ⟨⟨hlabel.1.1.2, hc⟩, hlabel.2⟩

lemma isLabels_of_append {s : Text} (hs : ∀ d ∈ s, d.isAlphanum = true) {c : Char} {t : Text}
    (hc : c.isAlphanum = true) (h : isLabels (s ++ c :: t) = true) : isLabels (c :: t) = true := by
  induction s with
  | nil => exact h
  | cons d s ih =>
    refine ih (fun e he => hs e (by simp [he])) ?_
    cases s with
    | nil => exact isLabels_of_cons hc h
    | cons e s => exact isLabels_of_cons (hs e (by simp)) h

/-- After letters and digits a host name goes on as a host name, unless with a hyphen or a point. -/
theorem isValid_of_append {s : Text} (hs : ∀ d ∈ s, d.isAlphanum = true) {c : Char} {t : Text}
    (h : isValid (s ++ c :: t) = true) :
    isValid (c :: t) = true ∨ c = '-' ∨ c = '.' := by
  rcases isCharacter_of_isValid h (c := c) (by simp) with hc | hmark
  · obtain ⟨-, hlength, hlabels⟩ := isValid_iff.1 h
    rw [byteLength_append] at hlength
    exact .inl (isValid_iff.2 ⟨by simp, by omega, isLabels_of_append hs hc hlabels⟩)
  · exact .inr hmark

lemma ne_nil_of_isValid {t : Text} (h : isValid t = true) : t ≠ [] := by
  rintro rfl
  cases h

end Syslog.HostName
