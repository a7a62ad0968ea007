import Mathlib.Data.List.Infix
import Mathlib.Data.Nat.Notation
import Syslog.Text.Basic
import Syslog.Text.WordCharacter

/-!
# Characters of texts

What holds of every character of a text is decided on the text alone. A literal is found in a text
exactly if the text contains it.
-/
namespace Syslog.Text

instance (priority := high) decidableForallMem {p : Char → Prop} [DecidablePred p] (t : Text) :
    Decidable (∀ c ∈ t, p c) := List.decidableBAll p t

instance (priority := high) decidableForallMemOption {p : Char → Prop} [DecidablePred p]
    (o : Option Char) : Decidable (∀ c ∈ o, p c) :=
  match o with
  | none => isTrue (by simp)
  | some c => decidable_of_iff (p c) (by simp)

variable {c : Char}

lemma isAlpha_of_isUpper (h : c.isUpper = true) : c.isAlpha = true :=
  Bool.or_eq_true_iff.2 (.inl h)

lemma isAlpha_of_isLower (h : c.isLower = true) : c.isAlpha = true :=
  Bool.or_eq_true_iff.2 (.inr h)

lemma isAlphanum_of_isAlpha (h : c.isAlpha = true) : c.isAlphanum = true :=
  Bool.or_eq_true_iff.2 (.inl h)

lemma isAlpha_of_isLower_toLower (h : c.toLower.isLower = true) : c.isAlpha = true := by
  by_cases hupper : c.isUpper = true
  · exact isAlpha_of_isUpper hupper
  · have hsame : c.toLower = c := dif_neg fun hrange => hupper (decide_eq_true hrange)
    rw [hsame] at h
    exact isAlpha_of_isLower h

theorem toNat_of_isAlpha (h : c.isAlpha = true) :
    65 ≤ c.toNat ∧ c.toNat ≤ 90 ∨ 97 ≤ c.toNat ∧ c.toNat ≤ 122 := by
  rcases Bool.or_eq_true_iff.1 h with h | h
  · exact .inl (of_decide_eq_true h)
  · obtain ⟨hlow, hhigh⟩ := Bool.and_eq_true_iff.1 h
    exact .inr ⟨of_decide_eq_true hlow, of_decide_eq_true hhigh⟩

lemma toNat_of_isDigit (h : c.isDigit = true) : 48 ≤ c.toNat ∧ c.toNat ≤ 57 :=
  Char.isDigit_iff_toNat.1 h

lemma utf8Size_of_isAlphanum (h : c.isAlphanum = true) : c.utf8Size = 1 := by
  refine Char.utf8Size_eq_one_iff.2 (UInt32.le_iff_toNat_le.2 ?_)
  change c.toNat ≤ 127
  rcases Bool.or_eq_true_iff.1 h with h | h
  · have := toNat_of_isAlpha h
    omega
  · have := toNat_of_isDigit h
    omega

lemma utf8Size_of_isDigit (h : c.isDigit = true) : c.utf8Size = 1 :=
  utf8Size_of_isAlphanum (Bool.or_eq_true_iff.2 (.inr h))

lemma byteLength_eq_length {t : Text} (h : ∀ c ∈ t, c.utf8Size = 1) : byteLength t = t.length := by
  induction t with
  | nil => rfl
  | cons c t ih =>
    obtain ⟨hc, ht⟩ := List.forall_mem_cons.1 h
    rw [byteLength_cons, hc, ih ht, List.length_cons, Nat.add_comm]

lemma length_le_length_flatMap {α : Type} {f : α → Text} (h : ∀ a, f a ≠ []) (l : List α) :
    l.length ≤ (l.flatMap f).length := by
  induction l with
  | nil => exact Nat.le_refl 0
  | cons a l ih =>
    have hpos := List.length_pos_iff.2 (h a)
    rw [List.flatMap_cons, List.length_append, List.length_cons]
    omega

lemma toNat_toLower (c : Char) :
    c.toLower.toNat = if 65 ≤ c.toNat ∧ c.toNat ≤ 90 then c.toNat + 32 else c.toNat := by
  split
  · next h =>
    have hlower : c.toLower = _ :=
      dif_pos ⟨UInt32.le_iff_toNat_le.2 h.1, UInt32.le_iff_toNat_le.2 h.2⟩
    rw [hlower]
    refine (UInt32.toNat_add _ _).trans (Nat.mod_eq_of_lt ?_)
    change c.toNat + 32 < 2 ^ 32
    omega
  · next h =>
    have hsame : c.toLower = c := by
      refine dif_neg fun hrange => h ?_
      exact hrange.imp UInt32.le_iff_toNat_le.1 UInt32.le_iff_toNat_le.1
    rw [hsame]

lemma toNat_of_isLower (h : c.isLower = true) : 97 ≤ c.toNat ∧ c.toNat ≤ 122 := by
  obtain ⟨hlow, hhigh⟩ := Bool.and_eq_true_iff.1 h
  exact ⟨UInt32.le_iff_toNat_le.1 (of_decide_eq_true hlow),
    UInt32.le_iff_toNat_le.1 (of_decide_eq_true hhigh)⟩

lemma toNat_toUpper (c : Char) :
    c.toUpper.toNat = if 97 ≤ c.toNat ∧ c.toNat ≤ 122 then c.toNat - 32 else c.toNat := by
  split
  · next h =>
    have hupper : c.toUpper = _ :=
      dif_pos ⟨UInt32.le_iff_toNat_le.2 h.1, UInt32.le_iff_toNat_le.2 h.2⟩
    rw [hupper]
    refine (UInt32.toNat_add _ _).trans ?_
    -- the distance of the cases is negative and wraps around
    change (c.toNat + (4294967296 - 32)) % 4294967296 = c.toNat - 32
    omega
  · next h =>
    have hsame : c.toUpper = c := by
      refine dif_neg fun hrange => h ?_
      exact hrange.imp UInt32.le_iff_toNat_le.1 UInt32.le_iff_toNat_le.1
    rw [hsame]

lemma toUpper_toLower (c : Char) : c.toLower.toUpper = c.toUpper := by
  rw [← Char.toNat_inj, toNat_toUpper, toNat_toUpper, toNat_toLower]
  grind

lemma toLower_toLower (c : Char) : c.toLower.toLower = c.toLower := by
  rw [← Char.toNat_inj, toNat_toLower, toNat_toLower]
  grind

lemma eq_of_toUpper_eq {d : Char} (hd : d.toNat < 65) (h : c.toUpper = d) : c = d := by
  rw [← Char.toNat_inj, toNat_toUpper] at h
  rw [← Char.toNat_inj]
  split at h <;> omega

lemma eq_of_toLower_eq {d : Char} (hd : d.toNat < 65) (h : c.toLower = d) : c = d := by
  rw [← Char.toNat_inj, toNat_toLower] at h
  rw [← Char.toNat_inj]
  split at h <;> omega

theorem toLower_eq_iff {letter : Char} (h : letter.isLower = true) :
    c.toLower = letter ↔ c = letter ∨ c = letter.toUpper := by
  have hcode := toNat_of_isLower h
  rw [← Char.toNat_inj, ← Char.toNat_inj, ← Char.toNat_inj, toNat_toLower, toNat_toUpper,
    if_pos hcode]
  split <;> omega

theorem isDecimalDigit_of_isAlpha (h : c.isAlpha = true) : isDecimalDigit c = false := by
  have hcode := toNat_of_isAlpha h
  have hzeros : ∀ start ∈ decimalZeros, 122 < start ∨ start + 9 < 65 := by decide
  have hdigit : ¬ c.isDigit = true := by
    intro hdigit
    have hlow := toNat_of_isDigit hdigit
    omega
  simp only [isDecimalDigit, hdigit, Bool.false_or, List.any_eq_false, Bool.and_eq_true,
    decide_eq_true_eq, not_and]
  intro start hstart hle
  have := hzeros start hstart
  omega

lemma after?_eq_none_iff {literal t : Text} : after? literal t = none ↔ ¬ literal <+: t := by
  rw [Option.eq_none_iff_forall_ne_some, List.IsPrefix, not_exists]
  refine forall_congr' fun rest => not_congr ?_
  rw [after?_eq_some_iff, eq_comm]

lemma breakFrom?_eq_none_iff {literal seen t : Text} :
    breakFrom? literal seen t = none ↔ ¬ literal <:+: t := by
  induction t generalizing seen with
  | nil =>
    rw [breakFrom?, Option.map_eq_none_iff, after?_eq_none_iff, List.prefix_nil, List.infix_nil]
  | cons c t ih =>
    rw [breakFrom?, List.infix_cons_iff, not_or, ← after?_eq_none_iff]
    cases h : after? literal (c :: t) with
    | none => simp [ih]
    | some rest => simp

lemma not_infix_dropLast {l : Text} (hne : l ≠ []) : ¬ l <:+: l.dropLast := by
  intro h
  have hlength := h.length_le
  have hpos := List.length_pos_iff.2 hne
  rw [List.length_dropLast] at hlength
  omega

theorem exists_of_breakFrom? {literal seen t before rest : Text} (hne : literal ≠ [])
    (h : breakFrom? literal seen t = some (before, rest)) :
    ∃ s, before = seen.reverse ++ s ∧ t = s ++ literal ++ rest ∧
      ¬ literal <:+: s ++ literal.dropLast := by
  induction t generalizing seen with
  | nil =>
    rw [breakFrom?, Option.map_eq_some_iff] at h
    obtain ⟨found, hfound, hpair⟩ := h
    obtain ⟨rfl, rfl⟩ := Prod.mk.inj hpair
    exact ⟨[], by simp, after?_eq_some_iff.1 hfound, not_infix_dropLast hne⟩
  | cons c t ih =>
    rw [breakFrom?] at h
    split at h
    · next hfound =>
      obtain ⟨rfl, rfl⟩ := Prod.mk.inj (Option.some.inj h)
      exact ⟨[], by simp, after?_eq_some_iff.1 hfound, not_infix_dropLast hne⟩
    · next hmissed =>
      obtain ⟨s, hbefore, rfl, hs⟩ := ih h
      refine ⟨c :: s, by simp [hbefore], rfl, fun hwithin => ?_⟩
      rcases List.infix_cons_iff.1 hwithin with hstart | hwithin
      · refine after?_eq_none_iff.1 hmissed (hstart.trans ?_)
        rw [List.append_assoc, ← List.cons_append]
        exact (List.prefix_append_right_inj (c :: s)).2
          ((List.dropLast_prefix literal).trans (List.prefix_append literal rest))
      · exact hs hwithin

lemma exists_of_breakAt? {literal t before rest : Text} (hne : literal ≠ [])
    (h : breakAt? literal t = some (before, rest)) :
    t = before ++ literal ++ rest ∧ ¬ literal <:+: before := by
  obtain ⟨s, rfl, ht, hs⟩ := exists_of_breakFrom? hne h
  exact ⟨ht, fun hwithin => hs (hwithin.trans (List.prefix_append ..).isInfix)⟩

lemma prefix_append_cons {l s t : Text} {c : Char} (hc : c ∉ l) (h : l <+: s ++ c :: t) :
    l <+: s := by
  induction s generalizing l with
  | nil =>
    cases l with
    | nil => exact List.nil_prefix
    | cons d l =>
      obtain ⟨rfl, -⟩ := List.cons_prefix_cons.1 h
      exact absurd List.mem_cons_self hc
  | cons d s ih =>
    cases l with
    | nil => exact List.nil_prefix
    | cons e l =>
      obtain ⟨rfl, hstart⟩ := List.cons_prefix_cons.1 h
      have hlater : c ∉ l := fun hmem => hc (List.mem_cons_of_mem _ hmem)
      exact List.cons_prefix_cons.2 ⟨rfl, ih hlater hstart⟩

theorem infix_append_cons {l s t : Text} {c : Char} (hc : c ∉ l) (h : l <:+: s ++ c :: t) :
    l <:+: s ∨ l <:+: t := by
  obtain ⟨before, after, h⟩ := h
  rcases List.append_eq_append_iff.1 h with ⟨middle, hs, -⟩ | ⟨middle, hbefore, hrest⟩
  · exact .inl ⟨before, middle, hs.symm⟩
  · cases middle with
    | nil => exact .inl ⟨before, [], by simpa using hbefore⟩
    | cons d middle =>
      obtain ⟨rfl, rfl⟩ := List.cons.inj hrest
      rcases List.append_eq_append_iff.1 hbefore with ⟨start, -, hl⟩ | ⟨start, -, hmiddle⟩
      · exact absurd (hl ▸ by simp) hc
      · cases start with
        | nil =>
          have hl : c :: middle = l := hmiddle
          exact absurd (hl ▸ by simp) hc
        | cons d start =>
          obtain rfl := (List.cons.inj hmiddle).2
          exact .inr ⟨start, after, rfl⟩

/-- What stands in two texts stands in one of them or reaches from the first into the second. -/
theorem infix_append {l s t : Text} (h : l <:+: s ++ t) :
    l <:+: s ∨ l <:+: t ∨ ∃ first second, l = first ++ second ∧ first ≠ [] ∧ second ≠ [] ∧
      first <:+ s ∧ second <+: t := by
  obtain ⟨before, after, h⟩ := h
  rcases List.append_eq_append_iff.1 h with ⟨middle, hs, -⟩ | ⟨second, hwithin, rfl⟩
  · exact .inl ⟨before, middle, hs.symm⟩
  · rcases List.append_eq_append_iff.1 hwithin with ⟨first, hs, hl⟩ | ⟨middle, -, rfl⟩
    · rcases eq_or_ne first [] with rfl | hfirst
      · exact .inr (.inl ⟨[], after, by rw [hl]; rfl⟩)
      rcases eq_or_ne second [] with rfl | hsecond
      · exact .inl ⟨before, [], by rw [hs, hl]; simp⟩
      exact .inr (.inr ⟨first, second, hl, hfirst, hsecond, ⟨before, hs.symm⟩, after, rfl⟩)
    · exact .inr (.inl ⟨middle, after, rfl⟩)

theorem breakFrom?_append {literal before rest : Text}
    (h : ¬ literal <:+: before ++ literal.dropLast) (seen : Text) :
    breakFrom? literal seen (before ++ literal ++ rest) = some (seen.reverse ++ before, rest) := by
  induction before generalizing seen with
  | nil =>
    have hfound : after? literal (literal ++ rest) = some rest := after?_eq_some_iff.2 rfl
    cases literal with
    | nil => exact absurd (List.nil_infix ..) h
    | cons c l =>
      simp only [List.nil_append, List.cons_append] at hfound ⊢
      simp [breakFrom?, hfound]
  | cons d before ih =>
    have hmissed : after? literal (d :: (before ++ literal ++ rest)) = none := by
      refine after?_eq_none_iff.2 fun hstart => h ?_
      have hbegin : d :: before ++ literal.dropLast <+: d :: (before ++ literal ++ rest) := by
        rw [List.append_assoc, ← List.cons_append]
        exact (List.prefix_append_right_inj (d :: before)).2
          ((List.dropLast_prefix literal).trans (List.prefix_append literal rest))
      refine (List.prefix_of_prefix_length_le hstart hbegin ?_).isInfix
      simp only [List.length_append, List.length_cons, List.length_dropLast]
      omega
    have hlater : ¬ literal <:+: before ++ literal.dropLast := fun hwithin =>
      h (List.infix_cons hwithin)
    rw [List.cons_append, List.cons_append, breakFrom?, hmissed]
    simpa only [List.reverse_cons, List.append_assoc, List.singleton_append]
      using ih hlater (d :: seen)

lemma breakAt?_eq_some_iff {literal t before rest : Text} (hne : literal ≠ []) :
    breakAt? literal t = some (before, rest) ↔
      t = before ++ literal ++ rest ∧ ¬ literal <:+: before ++ literal.dropLast := by
  constructor
  · intro h
    obtain ⟨s, rfl, ht, hs⟩ := exists_of_breakFrom? hne h
    exact ⟨ht, hs⟩
  · rintro ⟨rfl, hfirst⟩
    exact breakFrom?_append hfirst []

lemma not_infix_append_dropLast {c : Char} {l before : Text} (hc : c ∉ l)
    (h : ¬ c :: l <:+: before) : ¬ c :: l <:+: before ++ (c :: l).dropLast := by
  intro hwithin
  rcases infix_append hwithin with
    hbefore | hlast | ⟨first, second, heq, hfirst, hsecond, -, hstart⟩
  · exact h hbefore
  · exact not_infix_dropLast (List.cons_ne_nil c l) hlast
  · obtain ⟨d, second, rfl⟩ := List.exists_cons_of_ne_nil hsecond
    obtain ⟨e, first, rfl⟩ := List.exists_cons_of_ne_nil hfirst
    obtain ⟨-, rfl⟩ := List.cons.inj heq
    obtain ⟨rfl, -⟩ := List.cons_prefix_cons.1 (hstart.trans (List.dropLast_prefix _))
    exact hc (by simp)

end Syslog.Text
