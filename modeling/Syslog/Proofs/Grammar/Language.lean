import Mathlib.Computability.Language
import Syslog.Grammar.Reader
import Syslog.Proofs.Text.Characters

/-!
# Languages of readers

A reader takes a language if the pieces that it finds at the start of a text are the words of the
language with which the text starts, whatever follows them. Readers combine as their languages do:
one after the other is the product, one before the other the sum, and a run the star.
-/
namespace Syslog.Reader
open Text
open scoped Computability

/-- The reader finds exactly the words of the language. -/
def Takes (reader : Reader) (language : Language Char) : Prop :=
  ∀ t rest, rest ∈ reader t ↔ ∃ piece ∈ language, piece ++ rest = t

def oneOf (p : Char → Bool) : Language Char := {t | ∃ c, p c = true ∧ t = [c]}

def runOf (p : Char → Bool) : Language Char := oneOf p * (oneOf p)∗

def atMost (p : Char → Bool) (n : ℕ) : Language Char := {t | t.length ≤ n ∧ ∀ c ∈ t, p c = true}

@[simp] lemma mem_oneOf {p : Char → Bool} {t : Text} :
    t ∈ oneOf p ↔ ∃ c, p c = true ∧ t = [c] := Iff.rfl

@[simp] lemma mem_singleton {l t : Text} : t ∈ ({l} : Language Char) ↔ t = l := Iff.rfl

@[simp] lemma mem_kstar_oneOf {p : Char → Bool} {t : Text} :
    t ∈ (oneOf p)∗ ↔ ∀ c ∈ t, p c = true := by
  rw [Language.mem_kstar]
  constructor
  · rintro ⟨pieces, rfl, h⟩ c hc
    obtain ⟨piece, hpiece, hc⟩ := List.mem_flatten.1 hc
    obtain ⟨d, hd, rfl⟩ := h piece hpiece
    rwa [List.mem_singleton.1 hc]
  · intro h
    refine ⟨t.map fun c => [c], ?_, ?_⟩
    · induction t with
      | nil => rfl
      | cons c t ih =>
        rw [List.map_cons, List.flatten_cons, ← ih fun d hd => h d (by simp [hd])]
        rfl
    · intro piece hpiece
      obtain ⟨c, hc, rfl⟩ := List.mem_map.1 hpiece
      exact ⟨c, h c hc, rfl⟩

@[simp] lemma mem_runOf {p : Char → Bool} {t : Text} :
    t ∈ runOf p ↔ t ≠ [] ∧ ∀ c ∈ t, p c = true := by
  rw [runOf, Language.mem_mul]
  constructor
  · rintro ⟨_, ⟨c, hc, rfl⟩, run, hrun, rfl⟩
    exact ⟨by simp, by simpa [hc] using hrun⟩
  · rintro ⟨hne, h⟩
    cases t with
    | nil => contradiction
    | cons c t =>
      have ht : ∀ d ∈ t, p d = true := fun d hd => h d (by simp [hd])
      exact ⟨[c], ⟨c, h c (by simp), rfl⟩, t, by simpa using ht, rfl⟩

@[simp] lemma mem_atMost {p : Char → Bool} {n : ℕ} {t : Text} :
    t ∈ atMost p n ↔ t.length ≤ n ∧ ∀ c ∈ t, p c = true := Iff.rfl

@[simp] lemma mem_pow_oneOf {p : Char → Bool} {n : ℕ} {t : Text} :
    t ∈ oneOf p ^ n ↔ t.length = n ∧ ∀ c ∈ t, p c = true := by
  induction n generalizing t with
  | zero => cases t <;> simp
  | succ n ih =>
    rw [pow_succ', Language.mem_mul]
    constructor
    · rintro ⟨_, ⟨c, hc, rfl⟩, run, hrun, rfl⟩
      obtain ⟨hlength, hrun⟩ := ih.1 hrun
      exact ⟨by simp [hlength], by simpa [hc] using hrun⟩
    · rintro ⟨hlength, h⟩
      cases t with
      | nil => simp at hlength
      | cons c t =>
        refine ⟨[c], ⟨c, h c (by simp), rfl⟩, t, ih.2 ⟨by simpa using hlength, ?_⟩, rfl⟩
        exact fun d hd => h d (by simp [hd])

lemma cons_mem_oneOf_mul {p : Char → Bool} {l : Language Char} {c : Char} {t : Text} :
    c :: t ∈ oneOf p * l ↔ p c = true ∧ t ∈ l := by
  rw [Language.mem_mul]
  constructor
  · rintro ⟨_, ⟨d, hd, rfl⟩, b, hb, h⟩
    obtain ⟨rfl, rfl⟩ := List.cons.inj h
    exact ⟨hd, hb⟩
  · rintro ⟨hc, ht⟩
    exact ⟨[c], ⟨c, hc, rfl⟩, t, ht, rfl⟩

lemma cons_mem_singleton_mul {l : Language Char} {c d : Char} {t : Text} :
    c :: t ∈ ({[d]} : Language Char) * l ↔ c = d ∧ t ∈ l := by
  rw [Language.mem_mul]
  constructor
  · rintro ⟨_, rfl, b, hb, h⟩
    obtain ⟨rfl, rfl⟩ := List.cons.inj h
    exact ⟨rfl, hb⟩
  · rintro ⟨rfl, ht⟩
    exact ⟨[c], rfl, t, ht, rfl⟩

lemma nil_notMem_oneOf_mul {p : Char → Bool} {l : Language Char} : [] ∉ oneOf p * l := by
  rintro ⟨_, ⟨c, hc, rfl⟩, b, hb, h⟩
  cases h

lemma nil_notMem_singleton_mul {l : Language Char} {c : Char} :
    [] ∉ ({[c]} : Language Char) * l := by
  rintro ⟨_, rfl, b, hb, h⟩
  cases h

lemma exists_piece_nil {l : Language Char} (hl : [] ∉ l) {rest : Text} :
    ¬ ∃ piece ∈ l, piece ++ rest = [] := by
  rintro ⟨piece, hpiece, h⟩
  rw [(List.append_eq_nil_iff.1 h).1] at hpiece
  exact hl hpiece

lemma exists_piece_cons {l : Language Char} (hl : [] ∉ l) {c : Char} {t rest : Text} :
    (∃ piece ∈ l, piece ++ rest = c :: t) ↔ ∃ piece, c :: piece ∈ l ∧ piece ++ rest = t := by
  constructor
  · rintro ⟨piece, hpiece, h⟩
    cases piece with
    | nil => exact absurd hpiece hl
    | cons d piece =>
      obtain ⟨rfl, rfl⟩ := List.cons.inj h
      exact ⟨piece, hpiece, rfl⟩
  · rintro ⟨piece, hpiece, rfl⟩
    exact ⟨c :: piece, hpiece, rfl⟩

theorem kstar_mul (l m : Language Char) : l∗ * m = m + l * (l∗ * m) := by
  calc l∗ * m = (1 + l * l∗) * m := by rw [Language.one_add_self_mul_kstar_eq_kstar]
    _ = m + l * (l∗ * m) := by rw [add_mul, one_mul, mul_assoc]

lemma takes_nothing : Takes nothing 1 := by
  intro t rest
  simp

lemma takes_one (p : Char → Bool) : Takes (one p) (oneOf p) := by
  intro t rest
  rw [mem_one]
  constructor
  · rintro ⟨c, hc, rfl⟩
    exact ⟨[c], ⟨c, hc, rfl⟩, rfl⟩
  · rintro ⟨_, ⟨c, hc, rfl⟩, rfl⟩
    exact ⟨c, hc, rfl⟩

lemma takes_literal (l : Text) : Takes (literal l) {l} := by
  intro t rest
  simp [eq_comm]

lemma takes_many (p : Char → Bool) : Takes (many p) (oneOf p)∗ := by
  intro t rest
  simp only [mem_many, mem_kstar_oneOf]
  constructor
  · rintro ⟨run, rfl, hrun⟩
    exact ⟨run, hrun, rfl⟩
  · rintro ⟨run, hrun, rfl⟩
    exact ⟨run, rfl, hrun⟩

lemma takes_fewest : Takes fewest (oneOf fun _ => true)∗ := by
  intro t rest
  simp [List.IsSuffix]

lemma Takes.andThen {first second : Reader} {l m : Language Char} (hfirst : first.Takes l)
    (hsecond : second.Takes m) : (Reader.andThen first second).Takes (l * m) := by
  intro t rest
  rw [mem_andThen]
  constructor
  · rintro ⟨middle, hmiddle, hrest⟩
    obtain ⟨a, ha, rfl⟩ := (hfirst _ _).1 hmiddle
    obtain ⟨b, hb, rfl⟩ := (hsecond _ _).1 hrest
    exact ⟨a ++ b, Language.append_mem_mul ha hb, List.append_assoc a b rest⟩
  · rintro ⟨_, ⟨a, ha, b, hb, rfl⟩, rfl⟩
    refine ⟨b ++ rest, (hfirst _ _).2 ⟨a, ha, (List.append_assoc a b rest).symm⟩, ?_⟩
    exact (hsecond _ _).2 ⟨b, hb, rfl⟩

lemma Takes.orElse {first second : Reader} {l m : Language Char} (hfirst : first.Takes l)
    (hsecond : second.Takes m) : (Reader.orElse first second).Takes (l + m) := by
  intro t rest
  rw [mem_orElse, hfirst, hsecond]
  constructor
  · rintro (⟨piece, hpiece, rfl⟩ | ⟨piece, hpiece, rfl⟩)
    · exact ⟨piece, .inl hpiece, rfl⟩
    · exact ⟨piece, .inr hpiece, rfl⟩
  · rintro ⟨piece, hpiece | hpiece, rfl⟩
    · exact .inl ⟨piece, hpiece, rfl⟩
    · exact .inr ⟨piece, hpiece, rfl⟩

lemma Takes.optional {reader : Reader} {l : Language Char} (h : reader.Takes l) :
    (Reader.optional reader).Takes (l + 1) := h.orElse takes_nothing

lemma takes_some (p : Char → Bool) : Takes (Reader.some p) (runOf p) :=
  (takes_one p).andThen (takes_many p)

lemma takes_sequence_nil : Takes (sequence []) 1 := takes_nothing

lemma Takes.sequence_cons {reader : Reader} {readers : List Reader} {l m : Language Char}
    (hreader : reader.Takes l) (hreaders : (sequence readers).Takes m) :
    (sequence (reader :: readers)).Takes (l * m) := hreader.andThen hreaders

lemma takes_exactly (n : ℕ) (p : Char → Bool) : Takes (exactly n p) (oneOf p ^ n) := by
  induction n with
  | zero => simpa [exactly] using takes_sequence_nil
  | succ n ih =>
    rw [pow_succ']
    exact (takes_one p).sequence_cons ih

lemma takes_upTo (p : Char → Bool) (n : ℕ) : Takes (upTo p n) (atMost p n) := by
  intro t rest
  rw [mem_upTo]
  constructor
  · rintro ⟨run, hlength, rfl, hrun⟩
    exact ⟨run, ⟨hlength, hrun⟩, rfl⟩
  · rintro ⟨run, ⟨hlength, hrun⟩, rfl⟩
    exact ⟨run, hlength, rfl, hrun⟩

end Syslog.Reader
