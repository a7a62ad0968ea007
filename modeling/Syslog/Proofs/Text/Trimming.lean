import Mathlib.Data.List.Infix
import Mathlib.Data.List.TakeWhile
import Syslog.Proofs.Text.Characters

/-!
# Trimmed texts

What is left of a text when characters of a class are taken off its end, or blanks off both ends. A
text is its trimmed text between blanks, and blanks around a text do not change what it is trimmed
to.
-/
namespace Syslog.Text

section TrimEnd

variable {p : Char → Bool} {s t : Text}

theorem trimEnd_eq_self (h : ∀ c ∈ t.getLast?, p c = false) : trimEnd p t = t := by
  rw [trimEnd]
  cases hreverse : t.reverse with
  | nil => rw [List.reverse_eq_nil_iff.1 hreverse]; rfl
  | cons c s =>
    have hlast : t.getLast? = some c := by rw [← List.head?_reverse, hreverse]; rfl
    rw [List.dropWhile_cons_of_neg (by simp [h c hlast]), ← hreverse, List.reverse_reverse]

lemma trimEnd_append (h : trimEnd p t ≠ []) : trimEnd p (s ++ t) = s ++ trimEnd p t := by
  have hne : t.reverse.dropWhile p ≠ [] := fun hnil => h (by rw [trimEnd, hnil, List.reverse_nil])
  rw [trimEnd, List.reverse_append, List.dropWhile_append,
    if_neg (by simpa only [List.isEmpty_iff] using hne), List.reverse_append, List.reverse_reverse,
    trimEnd]

lemma trimEnd_append_of_forall {ends : Text} (h : ∀ c ∈ ends, p c = true) :
    trimEnd p (t ++ ends) = trimEnd p t := by
  have hreverse : ∀ c ∈ ends.reverse, p c = true := fun c hc => h c (List.mem_reverse.1 hc)
  rw [trimEnd, List.reverse_append, List.dropWhile_append_of_pos hreverse, trimEnd]

lemma getLast?_trimEnd : ∀ c ∈ (trimEnd p t).getLast?, p c = false := by
  intro c hc
  rw [trimEnd, List.getLast?_reverse] at hc
  have hhead := List.head?_dropWhile_not p t.reverse
  rw [Option.mem_def.1 hc] at hhead
  simpa using hhead

lemma trimEnd_isPrefix (p : Char → Bool) (t : Text) : trimEnd p t <+: t := by
  rw [trimEnd, ← List.reverse_suffix, List.reverse_reverse]
  exact List.dropWhile_suffix p

lemma trimEnd_ne_nil {c : Char} (hc : p c = false) : trimEnd p (c :: t) ≠ [] := by
  rw [trimEnd, List.reverse_cons, List.dropWhile_append]
  split
  · simp [List.dropWhile_cons_of_neg, hc]
  · simp

lemma exists_trimEnd_append (p : Char → Bool) (t : Text) :
    ∃ ends, t = trimEnd p t ++ ends ∧ ∀ c ∈ ends, p c = true := by
  refine ⟨(t.reverse.takeWhile p).reverse, ?_, ?_⟩
  · rw [trimEnd, ← List.reverse_append, List.takeWhile_append_dropWhile, List.reverse_reverse]
  · intro c hc
    exact List.mem_takeWhile_imp (List.mem_reverse.1 hc)

end TrimEnd

section Trim

variable {before after t : Text}

/-- The text neither starts nor ends with a blank. -/
structure IsTrimmed (t : Text) : Prop where
  head : ∀ c ∈ t.head?, isBlank c = false
  last : ∀ c ∈ t.getLast?, isBlank c = false

lemma trim_sublist (t : Text) : (trim t).Sublist t :=
  ((trimEnd_isPrefix isBlank _).sublist).trans (List.dropWhile_sublist isBlank)

lemma trim_eq_self (h : IsTrimmed t) : trim t = t := by
  have hstart : trimStart isBlank t = t := by
    cases t with
    | nil => rfl
    | cons c t => exact List.dropWhile_cons_of_neg (by simp [h.head c rfl])
  rw [trim, hstart, trimEnd_eq_self h.last]

lemma isTrimmed_trim (t : Text) : IsTrimmed (trim t) := by
  refine ⟨?_, getLast?_trimEnd⟩
  intro c hc
  rw [trim] at hc
  obtain ⟨ends, hends⟩ := trimEnd_isPrefix isBlank (trimStart isBlank t)
  have hhead : (trimStart isBlank t).head? = some c := by
    rw [← hends, List.head?_append, Option.mem_def.1 hc, Option.some_or]
  have hnot := List.head?_dropWhile_not isBlank t
  rw [trimStart] at hhead
  rw [hhead] at hnot
  simpa using hnot

theorem trim_between (hbefore : ∀ c ∈ before, isBlank c = true)
    (hafter : ∀ c ∈ after, isBlank c = true) : trim (before ++ t ++ after) = trim t := by
  unfold trim trimStart
  rw [List.append_assoc, List.dropWhile_append_of_pos hbefore, List.dropWhile_append]
  split
  · next hempty =>
    -- a text of blanks alone goes with those around it
    rw [List.isEmpty_iff.1 hempty, List.dropWhile_eq_nil_iff.2 hafter]
  · exact trimEnd_append_of_forall hafter

lemma trim_append_of_forall (hbefore : ∀ c ∈ before, isBlank c = true) :
    trim (before ++ t) = trim t := by
  rw [← trim_between (t := t) hbefore fun _ hc => absurd hc List.not_mem_nil, List.append_nil]

theorem exists_trim_between (t : Text) :
    ∃ before after, t = before ++ trim t ++ after ∧ (∀ c ∈ before, isBlank c = true) ∧
      ∀ c ∈ after, isBlank c = true := by
  obtain ⟨after, hafter, hblank⟩ := exists_trimEnd_append isBlank (trimStart isBlank t)
  refine ⟨t.takeWhile isBlank, after, ?_, fun c => List.mem_takeWhile_imp, hblank⟩
  rw [List.append_assoc, trim, ← hafter, trimStart, List.takeWhile_append_dropWhile]

lemma head?_trim_cons {c : Char} (hc : isBlank c = false) : (trim (c :: t)).head? = some c := by
  have hstart : trimStart isBlank (c :: t) = c :: t := List.dropWhile_cons_of_neg (by simp [hc])
  obtain ⟨ends, hends⟩ := trimEnd_isPrefix isBlank (c :: t)
  rw [trim, hstart]
  cases hkept : trimEnd isBlank (c :: t) with
  | nil => exact absurd hkept (trimEnd_ne_nil hc)
  | cons d kept =>
    rw [hkept, List.cons_append] at hends
    rw [List.head?_cons, (List.cons.inj hends).1]

end Trim

end Syslog.Text
