import Syslog.Text.Basic

/-!
# Readers

A reader finds the pieces that a text may start with. It gives every piece by what follows it, in
the order of preference. Readers combine like the expressions they stand for: one after the other,
one before the other, and in runs that take as much as they can first.
-/
namespace Syslog

abbrev Reader := Text → List Text

namespace Reader
open Text

/-- The empty piece. -/
def nothing : Reader := fun t => [t]

/-- One character of a class. -/
def one (p : Char → Bool) : Reader
  | [] => []
  | c :: t => if p c then [t] else []

def literal (l : Text) : Reader := fun t => (after? l t).toList

/-- A piece of the first reader, then one of the second. -/
def andThen (first second : Reader) : Reader := fun t => (first t).flatMap second

/-- The pieces of the first reader, then those of the second. -/
def orElse (first second : Reader) : Reader := fun t => first t ++ second t

/-- A piece of the reader, or else none of the text. -/
def optional (reader : Reader) : Reader := orElse reader nothing

/-- One reader after the other. -/
def sequence (readers : List Reader) : Reader := readers.foldr andThen nothing

def exactly (n : Nat) (p : Char → Bool) : Reader := sequence (List.replicate n (one p))

/-- At most `n` characters of a class, the longest run first. -/
def upTo (p : Char → Bool) : Nat → Reader
  | 0 => nothing
  | n + 1 => optional (andThen (one p) (upTo p n))

/-- Collects what follows every run of a class at the start of a text, the longest run first. -/
def runsFrom (p : Char → Bool) (found : List Text) : Reader
  | [] => [] :: found
  | c :: t => if p c then runsFrom p ((c :: t) :: found) t else (c :: t) :: found

/-- Any number of characters of a class, the longest run first. -/
def many (p : Char → Bool) : Reader := runsFrom p []

/-- At least one character of a class, the longest run first. -/
def some (p : Char → Bool) : Reader := andThen (one p) (many p)

/-- Any characters, the shortest run first. -/
def fewest : Reader := fun t => (many (fun _ => true) t).reverse

@[simp] theorem mem_nothing {t rest : Text} : rest ∈ nothing t ↔ rest = t := by simp [nothing]

@[simp] theorem mem_one {p : Char → Bool} {t rest : Text} :
    rest ∈ one p t ↔ ∃ c, p c = true ∧ t = c :: rest := by
  cases t with
  | nil => simp [one]
  | cons d t => by_cases h : p d <;> simp only [one, h] <;> grind

@[simp] theorem mem_literal {l t rest : Text} : rest ∈ literal l t ↔ t = l ++ rest := by
  simp [literal, after?_eq_some_iff]

@[simp] theorem mem_andThen {first second : Reader} {t rest : Text} :
    rest ∈ andThen first second t ↔ ∃ middle ∈ first t, rest ∈ second middle := by
  simp [andThen]

@[simp] theorem mem_orElse {first second : Reader} {t rest : Text} :
    rest ∈ orElse first second t ↔ rest ∈ first t ∨ rest ∈ second t := by
  simp [orElse]

@[simp] theorem mem_optional {reader : Reader} {t rest : Text} :
    rest ∈ optional reader t ↔ rest ∈ reader t ∨ rest = t := by
  simp [optional]

theorem mem_runsFrom {p : Char → Bool} {found : List Text} {t rest : Text} :
    rest ∈ runsFrom p found t ↔
      (∃ run, t = run ++ rest ∧ ∀ c ∈ run, p c = true) ∨ rest ∈ found := by
  induction t generalizing found with
  | nil =>
    simp only [runsFrom, List.mem_cons, List.nil_eq_append_iff]
    exact or_congr_left ⟨fun h => ⟨[], ⟨rfl, h⟩, by simp⟩, fun ⟨_, h, _⟩ => h.2⟩
  | cons c t ih =>
    by_cases h : p c
    · simp only [runsFrom, h, ↓reduceIte, ih, List.mem_cons]
      constructor
      · rintro (⟨run, rfl, hrun⟩ | rfl | hfound)
        · exact .inl ⟨c :: run, rfl, by simpa [h] using hrun⟩
        · exact .inl ⟨[], rfl, by simp⟩
        · exact .inr hfound
      · rintro (⟨run, heq, hrun⟩ | hfound)
        · cases run with
          | nil => exact .inr (.inl heq.symm)
          | cons d run =>
            obtain ⟨rfl, rfl⟩ := by simpa using heq
            exact .inl ⟨run, rfl, fun x hx => hrun x (List.mem_cons_of_mem _ hx)⟩
        · exact .inr (.inr hfound)
    · simp only [runsFrom, h, Bool.false_eq_true, ↓reduceIte, List.mem_cons]
      constructor
      · rintro (rfl | hfound)
        · exact .inl ⟨[], rfl, by simp⟩
        · exact .inr hfound
      · rintro (⟨run, heq, hrun⟩ | hfound)
        · cases run with
          | nil => exact .inl heq.symm
          | cons d run =>
            obtain ⟨rfl, rfl⟩ := by simpa using heq
            exact absurd (hrun c (List.mem_cons_self ..)) h
        · exact .inr hfound

@[simp] theorem mem_many {p : Char → Bool} {t rest : Text} :
    rest ∈ many p t ↔ ∃ run, t = run ++ rest ∧ ∀ c ∈ run, p c = true := by
  simp [many, mem_runsFrom]

@[simp] theorem mem_some {p : Char → Bool} {t rest : Text} :
    rest ∈ Reader.some p t ↔ ∃ run, run ≠ [] ∧ t = run ++ rest ∧ ∀ c ∈ run, p c = true := by
  simp only [Reader.some, mem_andThen, mem_one, mem_many]
  constructor
  · rintro ⟨_, ⟨c, hc, rfl⟩, run, rfl, hrun⟩
    exact ⟨c :: run, by simp, rfl, by simpa [hc] using hrun⟩
  · rintro ⟨_ | ⟨c, run⟩, hrun, rfl, h⟩
    · contradiction
    · exact ⟨_, ⟨c, h c (by simp), rfl⟩, run, rfl, fun d hd => h d (by simp [hd])⟩

@[simp] theorem mem_fewest {t rest : Text} : rest ∈ fewest t ↔ rest <:+ t := by
  simp [fewest, List.IsSuffix, eq_comm]

theorem mem_upTo {p : Char → Bool} {n : Nat} {t rest : Text} :
    rest ∈ upTo p n t ↔ ∃ run, run.length ≤ n ∧ t = run ++ rest ∧ ∀ c ∈ run, p c = true := by
  induction n generalizing t with
  | zero =>
    simp only [upTo, mem_nothing, Nat.le_zero_eq, List.length_eq_zero_iff]
    exact ⟨fun h => ⟨[], rfl, h.symm, by simp⟩, fun ⟨_, hrun, h, _⟩ => by simp [h, hrun]⟩
  | succ n ih =>
    simp only [upTo, mem_optional, mem_andThen, mem_one, ih]
    constructor
    · rintro (⟨_, ⟨c, hc, rfl⟩, run, hlength, rfl, hrun⟩ | rfl)
      · exact ⟨c :: run, by simpa using hlength, rfl, by simpa [hc] using hrun⟩
      · exact ⟨[], by simp, rfl, by simp⟩
    · rintro ⟨_ | ⟨c, run⟩, hlength, rfl, h⟩
      · exact .inr rfl
      · exact .inl ⟨_, ⟨c, h c (by simp), rfl⟩, run, by simpa using hlength, rfl,
          fun d hd => h d (by simp [hd])⟩

theorem mem_exactly {p : Char → Bool} {n : Nat} {t rest : Text} :
    rest ∈ exactly n p t ↔ ∃ run, run.length = n ∧ t = run ++ rest ∧ ∀ c ∈ run, p c = true := by
  induction n generalizing t with
  | zero =>
    simp only [exactly, sequence, List.replicate_zero, List.foldr_nil, mem_nothing,
      List.length_eq_zero_iff]
    exact ⟨fun h => ⟨[], rfl, h.symm, by simp⟩, fun ⟨_, hrun, h, _⟩ => by simp [h, hrun]⟩
  | succ n ih =>
    simp only [exactly, sequence, List.replicate_succ, List.foldr_cons, mem_andThen, mem_one] at *
    simp only [ih]
    constructor
    · rintro ⟨_, ⟨c, hc, rfl⟩, run, hlength, rfl, hrun⟩
      exact ⟨c :: run, by simpa using hlength, rfl, by simpa [hc] using hrun⟩
    · rintro ⟨_ | ⟨c, run⟩, hlength, rfl, h⟩
      · simp at hlength
      · exact ⟨_, ⟨c, h c (by simp), rfl⟩, run, by simpa using hlength, rfl,
          fun d hd => h d (by simp [hd])⟩

/-- Whatever the reader leaves is an end of the text. -/
def LeavesEnds (reader : Reader) : Prop := ∀ t, ∀ rest ∈ reader t, rest <:+ t

theorem leavesEnds_nothing : LeavesEnds nothing := by simp [LeavesEnds]

theorem leavesEnds_one (p : Char → Bool) : LeavesEnds (one p) := by
  intro t rest h
  obtain ⟨c, _, rfl⟩ := mem_one.1 h
  exact List.suffix_cons c rest

theorem leavesEnds_literal (l : Text) : LeavesEnds (literal l) := by
  intro t rest h
  rw [mem_literal.1 h]
  exact List.suffix_append l rest

theorem leavesEnds_many (p : Char → Bool) : LeavesEnds (many p) := by
  intro t rest h
  obtain ⟨run, rfl, _⟩ := mem_many.1 h
  exact List.suffix_append run rest

theorem leavesEnds_fewest : LeavesEnds fewest := fun _ _ => mem_fewest.1

theorem LeavesEnds.andThen {first second : Reader} (hfirst : first.LeavesEnds)
    (hsecond : second.LeavesEnds) : (Reader.andThen first second).LeavesEnds := by
  intro t rest h
  obtain ⟨middle, hmiddle, hrest⟩ := mem_andThen.1 h
  exact (hsecond middle rest hrest).trans (hfirst t middle hmiddle)

theorem LeavesEnds.orElse {first second : Reader} (hfirst : first.LeavesEnds)
    (hsecond : second.LeavesEnds) : (Reader.orElse first second).LeavesEnds := by
  intro t rest h
  exact (mem_orElse.1 h).elim (hfirst t rest) (hsecond t rest)

theorem LeavesEnds.optional {reader : Reader} (h : reader.LeavesEnds) :
    (Reader.optional reader).LeavesEnds := h.orElse leavesEnds_nothing

theorem leavesEnds_some (p : Char → Bool) : LeavesEnds (Reader.some p) :=
  (leavesEnds_one p).andThen (leavesEnds_many p)

theorem leavesEnds_sequence {readers : List Reader} (h : ∀ reader ∈ readers, LeavesEnds reader) :
    LeavesEnds (sequence readers) := by
  induction readers with
  | nil => exact leavesEnds_nothing
  | cons reader readers ih =>
    exact (h reader (by simp)).andThen (ih fun other hother => h other (by simp [hother]))

theorem leavesEnds_upTo (p : Char → Bool) (n : Nat) : LeavesEnds (upTo p n) := by
  intro t rest h
  obtain ⟨run, _, rfl, _⟩ := mem_upTo.1 h
  exact List.suffix_append run rest

theorem leavesEnds_exactly (n : Nat) (p : Char → Bool) : LeavesEnds (exactly n p) := by
  intro t rest h
  obtain ⟨run, _, rfl, _⟩ := mem_exactly.1 h
  exact List.suffix_append run rest

end Reader
end Syslog
