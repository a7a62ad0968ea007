import Mathlib.Data.List.TakeDrop
import Mathlib.Data.List.TakeWhile
import Syslog.Proofs.Grammar.Words
import Syslog.Proofs.Text.Numerals
import Syslog.Toml.Document

/-!
# Reading back TOML

A document of lines, each of which gives a key a string or an integer, is read as the table of these
keys and values. Quotes, backslashes and controls stand escaped in a string, and an integer is no
date, no time and no float.
-/
namespace Syslog.Toml
open Text

/-- What stands for a character between double quotes. -/
def escape (c : Char) : Text :=
  if c = '"' ∨ c = '\\' then ['\\', c]
  else if isControl c = true then '\\' :: 'u' :: (Nat.toDigits 16 c.toNat).leftpad 4 '0'
  else [c]

def quote (s : Text) : Text := '"' :: s.flatMap escape ++ ['"']

/-- A value that is written on the line of its key. -/
inductive Scalar where
  | string (s : Text)
  | integer (n : ℤ)
  deriving DecidableEq, Repr

namespace Scalar

def text : Scalar → Text
  | string s => quote s
  | integer n => ofInt n

def value : Scalar → Value
  | string s => .string s
  | integer n => .integer n

/-- Integers are those of 128 bits, with a sign or without. -/
def Fits : Scalar → Prop
  | string _ => True
  | integer n => -(Nat.pow 2 127 : ℤ) ≤ n ∧ n < (Nat.pow 2 128 : ℤ)

lemma fits_integer {n : ℤ} (hlow : -(half64 : ℤ) ≤ n) (hhigh : n < values64) :
    (integer n).Fits := by
  have hhalf : (half64 : ℤ) ≤ Nat.pow 2 127 := by decide
  have hvalues : (values64 : ℤ) ≤ Nat.pow 2 128 := by decide
  exact ⟨Int.le_trans (Int.neg_le_neg hhalf) hlow, Int.lt_of_lt_of_le hhigh hvalues⟩

end Scalar

/-- A key without points that needs no quotes. -/
def IsBareKey (key : Text) : Prop := key ≠ [] ∧ ∀ c ∈ key, isBareKeyCharacter c = true

instance (key : Text) : Decidable (IsBareKey key) :=
  inferInstanceAs (Decidable (key ≠ [] ∧ ∀ c ∈ key, isBareKeyCharacter c = true))

/-- The line of a key and its value. -/
def lineText (entry : Text × Scalar) : Text :=
  entry.1 ++ ofString " = " ++ entry.2.text ++ ['\n']

section Strings

lemma scalar?_control : ∀ n < 0x80, isControl (Char.ofNat n) = true →
    ((Nat.toDigits 16 n).leftpad 4 '0').length = 4 ∧
      scalar? ((Nat.toDigits 16 n).leftpad 4 '0') = some (Char.ofNat n) := by decide

lemma escaped?_hex {digits : Text} {c : Char} (hlength : digits.length = 4)
    (h : scalar? digits = some c) (t : Text) : escaped? ('u' :: (digits ++ t)) = some (c, t) := by
  match digits, hlength with
  | [a, b, d, e], _ => simp only [List.cons_append, List.nil_append, escaped?, h, Option.map_some]

lemma lt_of_isControl {c : Char} (h : isControl c = true) : c.toNat < 0x80 := by
  simp only [isControl, Bool.or_eq_true, Bool.and_eq_true, decide_eq_true_eq, beq_iff_eq] at h
  rcases h with ⟨hlow, -⟩ | rfl
  · omega
  · decide

lemma basic?_escape (read : Text) (c : Char) (fuel : ℕ) (t : Text) :
    basic? read (fuel + 1) (escape c ++ t) = basic? (c :: read) fuel t := by
  unfold escape
  split_ifs with hmark hcontrol
  · rcases hmark with rfl | rfl <;> rfl
  · have hcode := scalar?_control c.toNat (lt_of_isControl hcontrol)
    rw [Char.ofNat_toNat] at hcode
    obtain ⟨hlength, hscalar⟩ := hcode hcontrol
    change (escaped? ('u' :: (_ ++ t))).bind _ = _
    rw [escaped?_hex hlength hscalar]
    rfl
  · rw [not_or] at hmark
    rw [List.singleton_append, basic?, if_neg hcontrol]
    · exact hmark.1
    · exact hmark.2

lemma basic?_flatMap {s : Text} {fuel : ℕ} (hfuel : s.length ≤ fuel) (read t : Text) :
    basic? read fuel (s.flatMap escape ++ '"' :: t) = some (read.reverse ++ s, t) := by
  induction s generalizing fuel read with
  | nil => cases fuel <;> simp [basic?]
  | cons c s ih =>
    cases fuel with
    | zero => cases hfuel
    | succ fuel =>
      rw [List.flatMap_cons, List.append_assoc, basic?_escape, ih (Nat.le_of_succ_le_succ hfuel)]
      simp

lemma exists_cons_escape (c : Char) : ∃ d s, escape c = d :: s ∧ d ≠ '"' := by
  unfold escape
  split_ifs with hmark hcontrol
  · exact ⟨'\\', [c], rfl, by decide⟩
  · exact ⟨'\\', _, rfl, by decide⟩
  · exact ⟨c, [], rfl, fun hquote => hmark (.inl hquote)⟩

/-- A string is read back, unless a third quote follows the two of an empty one. -/
theorem string?_quote (s : Text) {t : Text} (h : Stops (· == '"') t) :
    string? (quote s ++ t) = some (s, t) := by
  have hfuel : s.length ≤ (s.flatMap escape ++ '"' :: t).length := by
    have hescape : ∀ c, escape c ≠ [] := fun c hnil => by
      obtain ⟨d, rest, hcons, -⟩ := exists_cons_escape c
      rw [hnil] at hcons
      cases hcons
    rw [List.length_append]
    exact Nat.le_add_right_of_le (length_le_length_flatMap hescape s)
  have hline : line? (quote s ++ t) = some (s, t) := by
    have htext : quote s ++ t = '"' :: (s.flatMap escape ++ '"' :: t) := by simp [quote]
    rw [htext]
    exact basic?_flatMap hfuel [] t
  rw [← hline]
  cases s with
  | nil =>
    cases t with
    | nil => rfl
    | cons c t =>
      have hc : c ≠ '"' := by simpa using h
      simp [quote, string?, hc]
  | cons c s =>
    obtain ⟨d, rest, hescape, hd⟩ := exists_cons_escape c
    simp [quote, hescape, string?, hd]

end Strings

section Integers

variable {n : ℤ}

lemma isAtomCharacter_of_mem_ofInt {c : Char} (h : c ∈ ofInt n) : isAtomCharacter c = true := by
  rcases mem_ofInt h with rfl | hdigit
  · simp [isAtomCharacter, String.contains_char_eq]
  · simp [isAtomCharacter, Char.isAlphanum, hdigit]

lemma spanAtom_line {atom t : Text} (h : ∀ c ∈ atom, isAtomCharacter c = true) :
    spanAtom (atom ++ '\n' :: t) = (atom, '\n' :: t) := by
  have hend : Stops isAtomCharacter ('\n' :: t) := by
    have halphanum : '\n'.isAlphanum = false := by decide
    rw [stops_cons]
    simp [isAtomCharacter, String.contains_char_eq, halphanum]
  rw [spanAtom, List.span_eq_takeWhile_dropWhile, takeWhile_append h hend, dropWhile_append h hend]
  rfl

lemma notMem_ofNat {c : Char} (h : c.isDigit = false) (m : ℕ) : c ∉ ofNat m := by
  intro hmem
  rw [isDigit_of_mem_ofNat hmem] at h
  cases h

lemma length_splitOn_ofInt_le (n : ℤ) {separator : Char} (hseparator : separator.isDigit = false)
    (k : ℕ) : (((ofInt n).take k).splitOn separator).length ≤ 2 := by
  have hdigits : ∀ k, separator ∉ (ofNat n.natAbs).take k := fun k hmem =>
    notMem_ofNat hseparator _ (List.mem_of_mem_take hmem)
  rw [ofInt]
  split
  · cases k with
    | zero => simp
    | succ k =>
      rw [List.take_succ_cons]
      rcases eq_or_ne '-' separator with rfl | hne
      · rw [← List.nil_append ('-' :: _),
          List.splitOn_append_cons_self_of_not_mem List.not_mem_nil,
          List.splitOn_eq_singleton (hdigits k)]
        exact Nat.le_refl 2
      · have hfree : separator ∉ '-' :: (ofNat n.natAbs).take k := by
          simp [hne.symm, hdigits k]
        rw [List.splitOn_eq_singleton hfree]
        exact Nat.le_succ 1
  · rw [List.splitOn_eq_singleton (hdigits k)]
    exact Nat.le_succ 1

lemma isDate_take_ofInt (n : ℤ) (k : ℕ) : isDate ((ofInt n).take k) = false := by
  have hlength := length_splitOn_ofInt_le n (show '-'.isDigit = false by decide) k
  rw [isDate]
  split
  · next hpieces =>
    rw [hpieces] at hlength
    simp at hlength
  · rfl

lemma isTime_ofInt (n : ℤ) : isTime (ofInt n) = false := by
  have hlength := length_splitOn_ofInt_le n (show ':'.isDigit = false by decide) (ofInt n).length
  rw [List.take_length] at hlength
  rw [isTime]
  split
  · next hpieces =>
    rw [hpieces] at hlength
    simp at hlength
  · rfl

lemma isDateTime_ofInt (n : ℤ) : isDateTime (ofInt n) = false := by
  have hdate := isDate_take_ofInt n 10
  rw [isDateTime]
  split
  · next hdrop =>
    have hlong : (ofInt n).length ≤ 10 := List.drop_eq_nil_iff.1 hdrop
    rw [List.take_of_length_le hlong] at hdate
    rw [hdate, isTime_ofInt]
    rfl
  · rw [hdate, isTime_ofInt]
    rfl

lemma signed_ofInt (n : ℤ) : signed (ofInt n) = (decide (n < 0), ofNat n.natAbs) := by
  obtain ⟨c, digits, hcons⟩ := List.exists_cons_of_ne_nil (ofNat_ne_nil n.natAbs)
  have hdigit : c.isDigit = true := isDigit_of_mem_ofNat (hcons ▸ List.mem_cons_self)
  rw [ofInt]
  split
  · next hneg => simp [signed, hneg]
  · next hpos =>
    have hminus : c ≠ '-' := by
      rintro rfl
      cases hdigit
    have hplus : c ≠ '+' := by
      rintro rfl
      cases hdigit
    simp [signed, hcons, hpos, hminus, hplus]

lemma digitGroups?_ofNat (m : ℕ) : digitGroups? Char.isDigit (ofNat m) = some (ofNat m) := by
  have hdigits : (ofNat m).all Char.isDigit = true :=
    List.all_eq_true.2 fun c hc => isDigit_of_mem_ofNat hc
  have hgroups : (ofNat m).splitOn '_' = [ofNat m] :=
    List.splitOn_eq_singleton (notMem_ofNat (by decide) m)
  simp [digitGroups?, hgroups, hdigits, ofNat_ne_nil m]

lemma unpadded?_ofNat (m : ℕ) : unpadded? (ofNat m) = some (ofNat m) := by
  have hzero : ¬ ((ofNat m).head? = some '0' ∧ (ofNat m).length ≠ 1) := by
    rintro ⟨hhead, hlength⟩
    rcases Nat.eq_zero_or_pos m with rfl | hpos
    · exact hlength (by decide)
    · exact head?_ofNat hpos hhead
  simp only [unpadded?, digitGroups?_ofNat, Option.bind_eq_bind, Option.bind_some, if_neg hzero]

lemma isFloat_ofInt (n : ℤ) : isFloat (ofInt n) = false := by
  have hword : ∀ word : Text, word.any (fun c => !c.isDigit) = true → ofNat n.natAbs ≠ word := by
    rintro _ h rfl
    obtain ⟨c, hc, hdigit⟩ := List.any_eq_true.1 h
    rw [isDigit_of_mem_ofNat hc] at hdigit
    cases hdigit
  have hspan : ∀ p : Char → Bool, (∀ c ∈ ofNat n.natAbs, p c = true) →
      (ofNat n.natAbs).span p = (ofNat n.natAbs, []) := fun p h => by
    rw [List.span_eq_takeWhile_dropWhile, List.takeWhile_eq_self_iff.2 h,
      List.dropWhile_eq_nil_iff.2 h]
  have hexponent : (ofNat n.natAbs).span (fun c => c.toLower != 'e') = (ofNat n.natAbs, []) := by
    refine hspan _ fun c hc => bne_iff_ne.2 fun hlower => ?_
    rcases (toLower_eq_iff (show 'e'.isLower = true by decide)).1 hlower with rfl | rfl
    · exact notMem_ofNat (by decide) _ hc
    · exact notMem_ofNat (by decide) _ hc
  have hpoint : (ofNat n.natAbs).span (· != '.') = (ofNat n.natAbs, []) := by
    refine hspan _ fun c hc => bne_iff_ne.2 ?_
    rintro rfl
    exact notMem_ofNat (by decide) _ hc
  have hinf : ofNat n.natAbs ≠ ofString "inf" := hword _ (by decide)
  have hnan : ofNat n.natAbs ≠ ofString "nan" := hword _ (by decide)
  rw [isFloat, signed_ofInt]
  simp only [hinf, hnan, or_self, ↓reduceIte, hexponent, hpoint, unpadded?_ofNat]
  rfl

lemma valueOf_ofNat (m : ℕ) : valueOf 10 (ofNat m) = m := by
  have hdigits : ∀ t : Text, (∀ c ∈ t, c.isDigit = true) →
      valueOf 10 t = Nat.ofDigitChars 10 t 0 := by
    intro t h
    rw [valueOf, Nat.ofDigitChars_eq_foldl]
    exact List.foldl_ext _ _ 0 fun value c hc => by
      rw [if_pos (h c hc)]
      rfl
  rw [hdigits _ fun c hc => isDigit_of_mem_ofNat hc, ofNat,
    Nat.ofDigitChars_toDigits (by decide) (by decide)]

lemma integerValue?_ofInt (n : ℤ) : integerValue? (ofInt n) = some n := by
  have hletter : ∀ c ∈ ofInt n, ¬ (c = 'x' ∨ c = 'o' ∨ c = 'b') := by
    intro c hc
    rcases mem_ofInt hc with rfl | hdigit
    · decide
    · rintro (rfl | rfl | rfl) <;> cases hdigit
  rw [integerValue?]
  · rw [signed_ofInt]
    simp only [unpadded?_ofNat, Option.map_some, valueOf_ofNat, Option.some.injEq,
      decide_eq_true_eq]
    split <;> omega
  · intro t h
    exact hletter 'x' (by simp [h]) (by decide)
  · intro t h
    exact hletter 'o' (by simp [h]) (by decide)
  · intro t h
    exact hletter 'b' (by simp [h]) (by decide)

lemma atom?_ofInt (h : (Scalar.integer n).Fits) : atom? (ofInt n) = some (.integer n) := by
  have hword : ∀ word : Text, word.any (fun c => !c.isDigit && c != '-') = true →
      ofInt n ≠ word := by
    rintro _ h rfl
    obtain ⟨c, hc, hother⟩ := List.any_eq_true.1 h
    rcases mem_ofInt hc with rfl | hdigit
    · cases hother
    · rw [hdigit] at hother
      cases hother
  rw [atom?, if_neg (hword _ (by decide)), if_neg (hword _ (by decide)), isDateTime_ofInt,
    isFloat_ofInt, integer?, integerValue?_ofInt]
  have hfits : -(Nat.pow 2 127 : ℤ) ≤ n ∧ n < Nat.pow 2 128 := h
  rw [Option.filter_some, if_pos (decide_eq_true hfits)]
  rfl

end Integers

section Lines

variable {entry : Text × Scalar} {t : Text}

lemma exists_cons_of_isBareKey {key : Text} (h : IsBareKey key) :
    ∃ c rest, key = c :: rest ∧ isBareKeyCharacter c = true := by
  obtain ⟨c, rest, rfl⟩ := List.exists_cons_of_ne_nil h.1
  exact ⟨c, rest, rfl, h.2 c List.mem_cons_self⟩

lemma ne_of_isBareKeyCharacter {c d : Char} (hc : isBareKeyCharacter c = true)
    (hd : isBareKeyCharacter d = false) : c ≠ d := by
  rintro rfl
  rw [hc] at hd
  cases hd

lemma isSpace_of_isBareKeyCharacter {c : Char} (h : isBareKeyCharacter c = true) :
    isSpace c = false := by
  have hblank : c ≠ ' ' := ne_of_isBareKeyCharacter h (by decide)
  have htab : c ≠ '\t' := ne_of_isBareKeyCharacter h (by decide)
  simp [isSpace, hblank, htab]

lemma skipSpaces_cons {c : Char} (h : isSpace c = false) (t : Text) :
    skipSpaces (c :: t) = c :: t := by
  simp [skipSpaces, h]

lemma key?_append {key : Text} (h : IsBareKey key) (room : ℕ) (t : Text) :
    key? (room + 1) (key ++ ' ' :: '=' :: t) = some ([key], '=' :: t) := by
  obtain ⟨c, rest, hkey, hc⟩ := exists_cons_of_isBareKey h
  have hskip : skipSpaces (key ++ ' ' :: '=' :: t) = key ++ ' ' :: '=' :: t := by
    rw [hkey]
    exact skipSpaces_cons (isSpace_of_isBareKeyCharacter hc) _
  have hspan : (key ++ ' ' :: '=' :: t).span isBareKeyCharacter = (key, ' ' :: '=' :: t) := by
    have hend : Stops isBareKeyCharacter (' ' :: '=' :: t) := by
      rw [stops_cons]
      decide
    rw [List.span_eq_takeWhile_dropWhile, takeWhile_append h.2 hend, dropWhile_append h.2 hend]
  have hsimple : simpleKey? (key ++ ' ' :: '=' :: t) = some (key, ' ' :: '=' :: t) := by
    rw [simpleKey?, hspan, hkey]
  rw [key?, hskip, hsimple]
  rfl

lemma value?_cons {c : Char} (hbracket : c ≠ '[') (hbrace : c ≠ '\x7b') (room fuel : ℕ) (t : Text) :
    value? room (fuel + 1) (c :: t) =
      if c = '"' ∨ c = '\x27' then (string? (c :: t)).map fun read => (.string read.1, read.2)
      else (atom? (spanAtom (c :: t)).1).map fun value => (value, (spanAtom (c :: t)).2) := by
  rw [value?]
  · split_ifs
    · cases string? (c :: t) <;> rfl
    · change (atom? (spanAtom (c :: t)).1).bind _ = _
      cases atom? (spanAtom (c :: t)).1 <;> rfl
  · exact Nat.succ_ne_zero fuel
  · exact fun _ _ => hbracket
  · exact fun _ _ => hbrace

lemma value?_quote (s : Text) (room fuel : ℕ) (t : Text) :
    value? room (fuel + 1) (quote s ++ '\n' :: t) = some (.string s, '\n' :: t) := by
  have htext : quote s ++ '\n' :: t = '"' :: (s.flatMap escape ++ '"' :: '\n' :: t) := by
    simp [quote]
  rw [htext, value?_cons (by decide) (by decide), if_pos (.inl rfl), ← htext,
    string?_quote s (stops_cons.2 (by decide))]
  rfl

lemma value?_ofInt {n : ℤ} (h : (Scalar.integer n).Fits) (room fuel : ℕ) (t : Text) :
    value? room (fuel + 1) (ofInt n ++ '\n' :: t) = some (.integer n, '\n' :: t) := by
  obtain ⟨c, rest, hcons, hne⟩ := exists_cons_ofInt n
  have htext : ofInt n ++ '\n' :: t = c :: (rest ++ '\n' :: t) := by rw [hcons]; rfl
  have hbracket : c ≠ '[' := hne _ (by decide) (by decide)
  have hbrace : c ≠ '\x7b' := hne _ (by decide) (by decide)
  have hquote : ¬ (c = '"' ∨ c = '\x27') :=
    not_or.2 ⟨hne _ (by decide) (by decide), hne _ (by decide) (by decide)⟩
  have hspan : spanAtom (ofInt n ++ '\n' :: t) = (ofInt n, '\n' :: t) :=
    spanAtom_line fun c hc => isAtomCharacter_of_mem_ofInt hc
  rw [htext, value?_cons hbracket hbrace, if_neg hquote, ← htext, hspan, atom?_ofInt h]
  rfl

lemma value?_line {scalar : Scalar} (h : scalar.Fits) (room fuel : ℕ) (t : Text) :
    value? room (fuel + 1) (scalar.text ++ '\n' :: t) = some (scalar.value, '\n' :: t) := by
  cases scalar with
  | string s => exact value?_quote s room fuel t
  | integer n => exact value?_ofInt h room fuel t

lemma skipSpaces_text (scalar : Scalar) (t : Text) :
    skipSpaces (' ' :: (scalar.text ++ t)) = scalar.text ++ t := by
  change skipSpaces (scalar.text ++ t) = _
  cases scalar with
  | string s => exact skipSpaces_cons (by decide) _
  | integer n =>
    obtain ⟨c, rest, hcons, hne⟩ := exists_cons_ofInt n
    have hblank : c ≠ ' ' := hne _ (by decide) (by decide)
    have htab : c ≠ '\t' := hne _ (by decide) (by decide)
    rw [Scalar.text, hcons]
    exact skipSpaces_cons (by simp [isSpace, hblank, htab]) _

lemma lineEnd?_newline (t : Text) : lineEnd? ('\n' :: t) = some t := rfl

lemma skipBlankLines?_cons {c : Char} (h : isBareKeyCharacter c = true) (fuel : ℕ) (t : Text) :
    skipBlankLines? fuel (c :: t) = some (c :: t) := by
  have hmark : c ≠ '#' := ne_of_isBareKeyCharacter h (by decide)
  have hfeed : c ≠ '\n' := ne_of_isBareKeyCharacter h (by decide)
  have hreturn : c ≠ '\r' := ne_of_isBareKeyCharacter h (by decide)
  cases fuel with
  | zero => rfl
  | succ fuel =>
    have hremark : skipRemark? (c :: t) = some (c :: t) := by
      simp [skipRemark?, skipSpaces_cons (isSpace_of_isBareKeyCharacter h), hmark]
    have hbreak : lineBreak? (c :: t) = none := by
      simp [lineBreak?, hfeed, hreturn]
    simp only [skipBlankLines?, hremark, Option.bind_eq_bind, Option.bind_some, hbreak]

lemma lookup_eq_none_of_notMem {β : Type} {key : Text} {members : List (Text × β)}
    (h : key ∉ members.map Prod.fst) : members.lookup key = none := by
  refine List.lookup_eq_none_iff.2 fun member hmember => ?_
  have hmem : member.1 ∈ members.map Prod.fst := List.mem_map_of_mem hmember
  have hne : key ≠ member.1 := fun heq => h (heq ▸ hmem)
  simpa using hne

lemma Table.put_of_get?_eq_none {table : Table} {key : Text} (h : table.get? key = none)
    (value : Value) : table.put key value = table ++ [(key, value)] := by
  simp [put, h]

lemma exists_cons_lineText (h : IsBareKey entry.1) (t : Text) :
    ∃ c rest, lineText entry ++ t = c :: rest ∧ isBareKeyCharacter c = true := by
  obtain ⟨c, rest, hkey, hc⟩ := exists_cons_of_isBareKey h
  exact ⟨c, _, by rw [lineText, hkey]; rfl, hc⟩

lemma Section.line?_lineText {table : Table} (hkey : IsBareKey entry.1) (hfits : entry.2.Fits)
    (hnew : table.get? entry.1 = none) (t : Text) :
    (Section.mk table []).line? (lineText entry ++ t) =
      some (⟨table ++ [(entry.1, entry.2.value)], []⟩, t) := by
  obtain ⟨c, rest, hcons, hc⟩ := exists_cons_of_isBareKey hkey
  have hbracket : c ≠ '[' := ne_of_isBareKeyCharacter hc (by decide)
  have htext : lineText entry ++ t =
      entry.1 ++ ' ' :: '=' :: ' ' :: (entry.2.text ++ '\n' :: t) := by
    simp [lineText, ofString]
  have hpath := key?_append hkey 79 (' ' :: (entry.2.text ++ '\n' :: t))
  have hdefine : table.define? true [entry.1] entry.2.value =
      some (table ++ [(entry.1, entry.2.value)]) := by
    simp [Table.define?, hnew, Table.put_of_get?_eq_none hnew]
  rw [htext]
  rw [hcons, List.cons_append] at hpath ⊢
  rw [Section.line?]
  -- the line is no header, since its key starts with no bracket
  · simp only [maxDepth, hpath, Option.bind_eq_bind, Option.bind_some, skipSpaces_text,
      value?_line hfits, Table.changeAt?, lineEnd?_newline]
    rw [← hcons, hdefine]
    rfl
  · exact fun _ heq => hbracket (List.cons.inj heq).1
  · exact fun _ heq => hbracket (List.cons.inj heq).1

lemma Section.lines?_flatMap {entries : List (Text × Scalar)} {table : Table} {fuel : ℕ}
    (hfuel : entries.length < fuel) (hentries : ∀ entry ∈ entries, IsBareKey entry.1 ∧ entry.2.Fits)
    (hnew : (table.map Prod.fst ++ entries.map Prod.fst).Nodup) :
    (Section.mk table []).lines? fuel (entries.flatMap lineText) =
      some (table ++ entries.map fun entry => (entry.1, entry.2.value)) := by
  -- each line makes the table longer, and the keys left are still new to it
  induction entries generalizing table fuel with
  | nil =>
    obtain ⟨fuel, rfl⟩ := Nat.exists_eq_succ_of_ne_zero (Nat.ne_of_gt hfuel)
    simp [Section.lines?, skipBlankLines?]
  | cons entry entries ih =>
    obtain ⟨fuel, rfl⟩ := Nat.exists_eq_succ_of_ne_zero (Nat.ne_of_gt (Nat.zero_lt_of_lt hfuel))
    obtain ⟨⟨hkey, hfits⟩, hentries⟩ := List.forall_mem_cons.1 hentries
    obtain ⟨c, rest, hcons, hc⟩ := exists_cons_lineText hkey (entries.flatMap lineText)
    have hnew' : ((table ++ [(entry.1, entry.2.value)]).map Prod.fst ++
        entries.map Prod.fst).Nodup := by
      simpa using hnew
    have hget : table.get? entry.1 = none := by
      refine lookup_eq_none_of_notMem fun hmem => ?_
      have hlisted : entry.1 ∈ (entry :: entries).map Prod.fst :=
        List.mem_map_of_mem List.mem_cons_self
      exact (List.nodup_append.1 hnew).2.2 _ hmem entry.1 hlisted rfl
    have hline := line?_lineText hkey hfits hget (entries.flatMap lineText)
    rw [List.flatMap_cons]
    rw [hcons] at hline ⊢
    rw [lines?, skipBlankLines?_cons hc]
    simp only [Option.bind_eq_bind, Option.bind_some, hline]
    rw [ih (Nat.lt_of_succ_lt_succ hfuel) hentries hnew']
    simp

/-- A document of lines with different keys is the table of these keys and values. -/
theorem document?_lines {entries : List (Text × Scalar)}
    (hentries : ∀ entry ∈ entries, IsBareKey entry.1 ∧ entry.2.Fits)
    (hkeys : (entries.map Prod.fst).Nodup) :
    document? (entries.flatMap lineText) =
      some (entries.map fun entry => (entry.1, entry.2.value)) := by
  have hmark : ∀ t, entries.flatMap lineText ≠ '\uFEFF' :: t := by
    intro t h
    cases entries with
    | nil => cases h
    | cons entry entries =>
      obtain ⟨c, rest, hcons, hc⟩ := exists_cons_lineText
        (hentries entry List.mem_cons_self).1 (entries.flatMap lineText)
      rw [List.flatMap_cons, hcons] at h
      exact ne_of_isBareKeyCharacter hc (by decide) (List.cons.inj h).1
  have hfuel : entries.length < (entries.flatMap lineText).length + 1 :=
    Nat.lt_succ_of_le (length_le_length_flatMap (fun entry => by simp [lineText]) entries)
  rw [document?]
  · have hnew : ((([] : Table).map Prod.fst) ++ entries.map Prod.fst).Nodup := by simpa using hkeys
    exact Section.lines?_flatMap hfuel hentries hnew
  · exact hmark

end Lines

end Syslog.Toml
