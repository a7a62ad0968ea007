import Mathlib.Algebra.Group.Nat.Defs
import Mathlib.Data.Nat.Notation
import Syslog.Proofs.Text.Characters
import Syslog.Text.Numeral

/-!
# Numerals as texts

A numeral with zeros on the left is a run of ASCII digits, reads as the number it was written for,
and has exactly the width if the number fits into it. That of an integer may have a sign in front.
-/
namespace Syslog.Text

lemma padded_eq (width n : ℕ) :
    padded width n = List.replicate (width - (ofNat n).length) '0' ++ ofNat n := rfl

lemma ofNat_ne_nil (n : ℕ) : ofNat n ≠ [] := Nat.toDigits_ne_nil

lemma head?_ofNat {n : ℕ} (h : 0 < n) : (ofNat n).head? ≠ some '0' := by
  induction n using Nat.strongRecOn with
  | ind n ih =>
    rcases Nat.lt_or_ge n 10 with hlt | hge
    · rw [ofNat, Nat.toDigits_of_lt_base hlt]
      simpa using Nat.pos_iff_ne_zero.1 h
    · have hlower := ih (n / 10) (by omega) (by omega)
      rw [ofNat, Nat.toDigits_of_base_le (by decide) hge, List.head?_append_of_ne_nil]
      · exact hlower
      · exact Nat.toDigits_ne_nil

lemma mem_ofInt {c : Char} {n : ℤ} (h : c ∈ ofInt n) : c = '-' ∨ c.isDigit = true := by
  rw [ofInt] at h
  split at h
  · rcases List.mem_cons.1 h with rfl | h
    · exact .inl rfl
    · exact .inr (isDigit_of_mem_ofNat h)
  · exact .inr (isDigit_of_mem_ofNat h)

lemma exists_cons_ofInt (n : ℤ) :
    ∃ c s, ofInt n = c :: s ∧ ∀ d : Char, d.isDigit = false → d ≠ '-' → c ≠ d := by
  have hne : ofInt n ≠ [] := by
    rw [ofInt]
    split
    · exact List.cons_ne_nil _ _
    · exact ofNat_ne_nil _
  obtain ⟨c, s, hcons⟩ := List.exists_cons_of_ne_nil hne
  refine ⟨c, s, hcons, ?_⟩
  rintro _ hdigit hminus rfl
  rcases mem_ofInt (hcons ▸ List.mem_cons_self) with heq | htrue
  · exact hminus heq
  · cases hdigit.symm.trans htrue

lemma padded_ne_nil (width n : ℕ) : padded width n ≠ [] := by
  rw [padded_eq]
  exact List.append_ne_nil_of_right_ne_nil _ (ofNat_ne_nil n)

lemma isDigit_of_mem_padded {c : Char} {width n : ℕ} (h : c ∈ padded width n) :
    c.isDigit = true := by
  rw [padded_eq, List.mem_append] at h
  rcases h with h | h
  · rw [List.eq_of_mem_replicate h]
    rfl
  · exact isDigit_of_mem_ofNat h

lemma notMem_padded {c : Char} (h : c.isDigit = false) {width n : ℕ} : c ∉ padded width n := by
  intro hmem
  rw [isDigit_of_mem_padded hmem] at h
  cases h

lemma length_padded {width n : ℕ} (hwidth : 0 < width) (hn : n < 10 ^ width) :
    (padded width n).length = width := by
  have hlength : (ofNat n).length ≤ width := (Nat.length_toDigits_le_iff (by decide) hwidth).2 hn
  rw [padded_eq, List.length_append, List.length_replicate]
  omega

lemma byteLength_of_digits {t : Text} (h : ∀ c ∈ t, c.isDigit = true) :
    byteLength t = t.length :=
  byteLength_eq_length fun c hc => utf8Size_of_isDigit (h c hc)

lemma byteLength_padded {width n : ℕ} (hwidth : 0 < width) (hn : n < 10 ^ width) :
    byteLength (padded width n) = width := by
  rw [byteLength_of_digits fun _ => isDigit_of_mem_padded, length_padded hwidth hn]

lemma digits?_eq_some {t : Text} (hne : t ≠ []) (hdigits : ∀ c ∈ t, c.isDigit = true) :
    digits? t = some (Nat.ofDigitChars 10 t 0) :=
  if_pos ⟨hne, List.all_eq_true.2 hdigits⟩

lemma digits?_padded (width n : ℕ) : digits? (padded width n) = some n := by
  rw [digits?_eq_some (padded_ne_nil width n) fun _ => isDigit_of_mem_padded, padded_eq,
    Nat.ofDigitChars_append, Nat.ofDigitChars_replicate_zero, Nat.mul_zero, ofNat,
    Nat.ofDigitChars_ten_toDigits]

/-- The text consists of so many ASCII digits and reads as the number. -/
def Spells (width : ℕ) (t : Text) (n : ℕ) : Prop := t.length = width ∧ digits? t = some n

instance (width : ℕ) (t : Text) (n : ℕ) : Decidable (Spells width t n) :=
  inferInstanceAs (Decidable (t.length = width ∧ digits? t = some n))

lemma spells_padded {width n : ℕ} (hwidth : 0 < width) (hn : n < 10 ^ width) :
    Spells width (padded width n) n := ⟨length_padded hwidth hn, digits?_padded width n⟩

theorem spells_ofNat {width n : ℕ} (hlow : 10 ^ width ≤ n) (hhigh : n < 10 ^ (width + 1)) :
    Spells (width + 1) (ofNat n) n := by
  refine ⟨Nat.le_antisymm ?_ ?_, digits?_ofNat n⟩
  · exact (Nat.length_toDigits_le_iff (by decide) (Nat.succ_pos width)).2 hhigh
  · rcases Nat.eq_zero_or_pos width with rfl | hwidth
    · exact List.length_pos_iff.2 (ofNat_ne_nil n)
    · refine Nat.lt_of_not_le fun hle => ?_
      have hlt := (Nat.length_toDigits_le_iff (by decide) hwidth).1 hle
      omega

lemma spells_ofInt {n : ℤ} (hlow : 1000 ≤ n) (hhigh : n ≤ 9999) : Spells 4 (ofInt n) n.natAbs := by
  rw [ofInt, if_neg (by omega)]
  exact spells_ofNat (show 10 ^ 3 ≤ _ by omega) (by omega)

lemma Spells.all_isDigit {width n : ℕ} {t : Text} (h : Spells width t n) :
    t.all Char.isDigit = true := by
  have hsome := h.2
  rw [digits?] at hsome
  split at hsome
  · next hdigits => exact hdigits.2
  · cases hsome

lemma Spells.isDecimalDigit_of_mem {width n : ℕ} {t : Text} (h : Spells width t n) {c : Char}
    (hc : c ∈ t) : isDecimalDigit c = true :=
  isDecimalDigit_of_isDigit (List.all_eq_true.1 h.all_isDigit c hc)

lemma ofDigitChars_cons_eq (c : Char) (t : Text) :
    Nat.ofDigitChars 10 (c :: t) 0 =
      10 ^ t.length * (c.toNat - '0'.toNat) + Nat.ofDigitChars 10 t 0 := by
  rw [Nat.ofDigitChars_cons, Nat.ofDigitChars_eq_ofDigitChars_zero, Nat.mul_zero, Nat.zero_add]

lemma ofDigitChars_lt {t : Text} (h : ∀ c ∈ t, c.isDigit = true) :
    Nat.ofDigitChars 10 t 0 < 10 ^ t.length := by
  induction t with
  | nil => decide
  | cons c t ih =>
    obtain ⟨hlow, hhigh⟩ := toNat_of_isDigit (h c (by simp))
    have hzero : '0'.toNat = 48 := rfl
    have hrest := ih fun d hd => h d (by simp [hd])
    have hfirst := Nat.mul_le_mul_left (10 ^ t.length) (show c.toNat - '0'.toNat ≤ 9 by omega)
    rw [ofDigitChars_cons_eq, List.length_cons, Nat.pow_succ]
    omega

theorem ofDigitChars_injective {s t : Text} (hs : ∀ c ∈ s, c.isDigit = true)
    (ht : ∀ c ∈ t, c.isDigit = true) (hlength : s.length = t.length)
    (h : Nat.ofDigitChars 10 s 0 = Nat.ofDigitChars 10 t 0) : s = t := by
  induction s generalizing t with
  | nil => exact (List.length_eq_zero_iff.1 hlength.symm).symm
  | cons c s ih =>
    obtain ⟨d, t, rfl⟩ := List.exists_cons_of_length_eq_add_one hlength.symm
    have hs' : ∀ e ∈ s, e.isDigit = true := fun e he => hs e (by simp [he])
    have ht' : ∀ e ∈ t, e.isDigit = true := fun e he => ht e (by simp [he])
    have hsame : s.length = t.length := Nat.succ.inj hlength
    have hpos : 0 < 10 ^ t.length := Nat.pow_pos (by decide)
    have hsrest := ofDigitChars_lt hs'
    have htrest := ofDigitChars_lt ht'
    rw [ofDigitChars_cons_eq, ofDigitChars_cons_eq, hsame] at h
    rw [hsame] at hsrest
    -- the first digit is the quotient by the power, the later ones are the remainder
    have hquotient := congrArg (· / 10 ^ t.length) h
    have hremainder := congrArg (· % 10 ^ t.length) h
    simp only [Nat.mul_add_div hpos, Nat.mul_add_mod, Nat.div_eq_of_lt hsrest,
      Nat.div_eq_of_lt htrest, Nat.mod_eq_of_lt hsrest, Nat.mod_eq_of_lt htrest]
      at hquotient hremainder
    obtain ⟨hclow, -⟩ := toNat_of_isDigit (hs c (by simp))
    obtain ⟨hdlow, -⟩ := toNat_of_isDigit (ht d (by simp))
    have hzero : '0'.toNat = 48 := rfl
    rw [Char.toNat_inj.1 (show c.toNat = d.toNat by omega), ih hs' ht' hsame hremainder]

theorem Spells.eq_padded {width n : ℕ} {t : Text} (hwidth : 0 < width) (h : Spells width t n) :
    n < 10 ^ width ∧ t = padded width n := by
  have hdigits : ∀ c ∈ t, c.isDigit = true := List.all_eq_true.1 h.all_isDigit
  have hne : t ≠ [] := List.ne_nil_of_length_pos (h.1.symm ▸ hwidth)
  have hvalue : Nat.ofDigitChars 10 t 0 = n :=
    Option.some.inj ((digits?_eq_some hne hdigits).symm.trans h.2)
  have hlt : n < 10 ^ width := by
    rw [← hvalue, ← h.1]
    exact ofDigitChars_lt hdigits
  have hpadded : Spells width (padded width n) n := spells_padded hwidth hlt
  refine ⟨hlt, ofDigitChars_injective hdigits (fun _ => isDigit_of_mem_padded)
    (h.1.trans hpadded.1.symm) ?_⟩
  have hsome := (digits?_eq_some (padded_ne_nil width n) fun _ => isDigit_of_mem_padded).symm.trans
    hpadded.2
  rw [hvalue, Option.some.inj hsome]

end Syslog.Text
