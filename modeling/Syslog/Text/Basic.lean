/-!
# Texts

A text is the list of its characters, so that every reader of a text is a recursion on its data.
Lengths that a protocol limits are counted in bytes of the UTF-8 encoding. Blanks are the white
space of Unicode; they may be taken off the ends of a text.
-/
namespace Syslog

abbrev Text := List Char

namespace Text

def ofString (s : String) : Text := s.toList

/-- Length of the UTF-8 encoding in bytes. -/
def byteLength (t : Text) : Nat := t.foldl (fun n c => n + c.utf8Size) 0

/-- Membership in a set of characters given by closed ranges of code points. -/
def inRanges (ranges : List (Nat × Nat)) (c : Char) : Bool :=
  ranges.any fun range => range.1 ≤ c.toNat && c.toNat ≤ range.2

/-- The white space characters as closed ranges of code points, in order. -/
def blankRanges : List (Nat × Nat) := [
  (0x9, 0xD), (0x20, 0x20), (0x85, 0x85), (0xA0, 0xA0), (0x1680, 0x1680), (0x2000, 0x200A),
  (0x2028, 0x2029), (0x202F, 0x202F), (0x205F, 0x205F), (0x3000, 0x3000)]

def isBlank (c : Char) : Bool := inRanges blankRanges c

/-- The part after the longest run of characters of the class at the start. -/
def trimStart (p : Char → Bool) (t : Text) : Text := t.dropWhile p

/-- The part before the longest run of characters of the class at the end. -/
def trimEnd (p : Char → Bool) (t : Text) : Text := (t.reverse.dropWhile p).reverse

def trim (t : Text) : Text := trimEnd isBlank (trimStart isBlank t)

def toAsciiLower (t : Text) : Text := t.map Char.toLower

/-- What follows a literal that the text starts with. -/
def after? : Text → Text → Option Text
  | [], t => some t
  | _ :: _, [] => none
  | l :: literal, c :: t => if l = c then after? literal t else none

/-- Finds the first occurrence of a literal in `t`, of which `seen` has been read, the latest
character first. -/
def breakFrom? (literal seen : Text) : Text → Option (Text × Text)
  | [] => (after? literal []).map fun rest => (seen.reverse, rest)
  | c :: t =>
    match after? literal (c :: t) with
    | some rest => some (seen.reverse, rest)
    | none => breakFrom? literal (c :: seen) t

/-- The texts before and after the first occurrence of a literal. -/
def breakAt? (literal t : Text) : Option (Text × Text) := breakFrom? literal [] t

theorem after?_eq_some_iff {literal t rest : Text} :
    after? literal t = some rest ↔ t = literal ++ rest := by
  induction literal generalizing t with
  | nil => simp [after?]
  | cons l literal ih =>
    cases t with
    | nil => simp [after?]
    | cons c t =>
      by_cases h : l = c
      · simp [after?, h, ih]
      · simp [after?, h, Ne.symm h]

theorem breakFrom?_eq_some {literal seen t before rest : Text}
    (h : breakFrom? literal seen t = some (before, rest)) :
    seen.reverse ++ t = before ++ literal ++ rest := by
  induction t generalizing seen with
  | nil =>
    simp only [breakFrom?, Option.map_eq_some_iff, Prod.mk.injEq] at h
    obtain ⟨rest', hrest, rfl, rfl⟩ := h
    simp [after?_eq_some_iff.1 hrest]
  | cons c t ih =>
    rw [breakFrom?] at h
    split at h
    · next hrest =>
      obtain ⟨rfl, rfl⟩ := by simpa using h
      rw [after?_eq_some_iff.1 hrest, List.append_assoc]
    · simpa using ih h

theorem breakAt?_eq_some {literal t before rest : Text}
    (h : breakAt? literal t = some (before, rest)) : t = before ++ literal ++ rest := by
  simpa using breakFrom?_eq_some h

theorem foldl_byteLength (t : Text) (n : Nat) :
    t.foldl (fun n c => n + c.utf8Size) n = n + byteLength t := by
  induction t generalizing n with
  | nil => simp [byteLength]
  | cons c t ih => rw [byteLength, List.foldl_cons, List.foldl_cons, ih, ih (0 + _)]; omega

@[simp] theorem byteLength_nil : byteLength [] = 0 := rfl

@[simp] theorem byteLength_cons (c : Char) (t : Text) :
    byteLength (c :: t) = c.utf8Size + byteLength t := by
  rw [byteLength, List.foldl_cons, foldl_byteLength, Nat.zero_add]

@[simp] theorem byteLength_append (s t : Text) :
    byteLength (s ++ t) = byteLength s + byteLength t := by
  induction s with
  | nil => simp
  | cons c s ih => simp [ih, Nat.add_assoc]

theorem length_le_byteLength (t : Text) : t.length ≤ byteLength t := by
  induction t with
  | nil => simp
  | cons c t ih =>
    have := c.utf8Size_pos
    simp
    omega

end Text
end Syslog
