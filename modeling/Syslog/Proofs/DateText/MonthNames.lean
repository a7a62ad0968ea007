import Syslog.Proofs.DateText.Parts
import Syslog.Proofs.Grammar.TokenLanguage

/-!
# Names of months

The names of the months and their abbreviations, in any case. The first three letters of each, the
first of them a capital, are the name under which a date tells the month.
-/
namespace Syslog
open Text Token

def monthWords : List (ℕ × List Text) := [
  (1, ["january", "jan"].map ofString), (2, ["february", "feb"].map ofString),
  (3, ["march", "mar"].map ofString), (4, ["april", "apr"].map ofString),
  (5, ["may"].map ofString), (6, ["june", "jun"].map ofString), (7, ["july", "jul"].map ofString),
  (8, ["august", "aug"].map ofString), (9, ["september", "sept", "sep"].map ofString),
  (10, ["october", "oct"].map ofString), (11, ["november", "nov"].map ofString),
  (12, ["december", "dec"].map ofString)]

/-- The text is a word for the month in any case. -/
def NamesMonth (t : Text) (month : ℕ) : Prop :=
  ∃ entry ∈ monthWords, entry.1 = month ∧ toAsciiLower t ∈ entry.2

instance (t : Text) (month : ℕ) : Decidable (NamesMonth t month) :=
  inferInstanceAs (Decidable (∃ entry ∈ monthWords, entry.1 = month ∧ toAsciiLower t ∈ entry.2))

theorem DateText.abbreviate_toAsciiLower (t : Text) :
    abbreviate (toAsciiLower t) = abbreviate t := by
  rw [abbreviate, abbreviate, toAsciiLower, ← List.map_take]
  cases t.take 3 with
  | nil => rfl
  | cons c t => simp [toAsciiLower, toUpper_toLower, toLower_toLower]

namespace NamesMonth

variable {t : Text} {month : ℕ}

lemma isLower_of_mem {entry : ℕ × List Text} (hentry : entry ∈ monthWords) {word : Text}
    (hword : word ∈ entry.2) {c : Char} (hc : c ∈ word) : c.isLower = true := by
  have hall : ∀ entry ∈ monthWords, ∀ word ∈ entry.2, word.all Char.isLower = true := by decide
  exact List.all_eq_true.1 (hall entry hentry word hword) c hc

lemma isAlpha (h : NamesMonth t month) {c : Char} (hc : c ∈ t) : c.isAlpha = true := by
  obtain ⟨entry, hentry, -, hword⟩ := h
  exact isAlpha_of_isLower_toLower (isLower_of_mem hentry hword (List.mem_map_of_mem hc))

lemma ne_nil (h : NamesMonth t month) : t ≠ [] := by
  rintro rfl
  obtain ⟨entry, hentry, -, hword⟩ := h
  have hall : ∀ entry ∈ monthWords, [] ∉ entry.2 := by decide
  exact hall entry hentry hword

lemma mem_language (h : NamesMonth t month) : t ∈ Token.month.language := by
  have hfold : t.map foldCase = toAsciiLower t := by
    refine List.map_congr_left fun c hc => ?_
    rw [foldCase, if_neg]
    rintro rfl
    exact absurd (h.isAlpha hc) (by decide)
  obtain ⟨entry, hentry, -, hword⟩ := h
  have hall : ∀ entry ∈ monthWords, ∀ word ∈ entry.2, word ∈ monthSpellings := by decide
  have hspelling := hall entry hentry _ hword
  rwa [← hfold] at hspelling

theorem month?_abbreviate (h : NamesMonth t month) :
    DateLayout.month? (DateText.abbreviate t) = some month := by
  obtain ⟨entry, hentry, rfl, hword⟩ := h
  have hall : ∀ entry ∈ monthWords, ∀ word ∈ entry.2,
      DateLayout.month? (DateText.abbreviate word) = some entry.1 := by decide
  rw [← DateText.abbreviate_toAsciiLower]
  exact hall entry hentry _ hword

theorem admits_abbreviate (h : NamesMonth t month) :
    DateLayout.Admits DateLayout.monthName (DateText.abbreviate t) := by
  obtain ⟨entry, hentry, -, hword⟩ := h
  have hall : ∀ entry ∈ monthWords, ∀ word ∈ entry.2,
      DateLayout.Admits DateLayout.monthName (DateText.abbreviate word) := by decide
  rw [← DateText.abbreviate_toAsciiLower]
  exact hall entry hentry _ hword

lemma all_isDigit_abbreviate (h : NamesMonth t month) :
    (DateText.abbreviate t).all Char.isDigit = false := by
  obtain ⟨entry, hentry, -, hword⟩ := h
  have hall : ∀ entry ∈ monthWords, ∀ word ∈ entry.2,
      (DateText.abbreviate word).all Char.isDigit = false := by decide
  rw [← DateText.abbreviate_toAsciiLower]
  exact hall entry hentry _ hword

lemma monthText (h : NamesMonth t month) {fields : Fields} (hmonth : fields.get? "month" = some t)
    (now : LocalTime) : DateText.monthText now fields = DateText.abbreviate t := by
  obtain ⟨c, rest, rfl⟩ := List.exists_cons_of_ne_nil h.ne_nil
  have hletter : c.isDigit = false := by
    have hdigit := isDecimalDigit_of_isAlpha (h.isAlpha (c := c) (by simp))
    cases hc : c.isDigit with
    | false => rfl
    | true => rw [isDecimalDigit_of_isDigit hc] at hdigit; cases hdigit
  simp [DateText.monthText, hmonth, hletter]

end NamesMonth
end Syslog
