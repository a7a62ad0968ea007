import Syslog.Proofs.Grammar.Cutting
import Syslog.Proofs.Text.Trimming

/-!
# Solid segments

A segment is solid if none of its pieces holds a blank. All literals of grammars are, and so are all
types of token but those that take any characters and structured data.
-/
namespace Syslog
open Text Reader
open scoped Computability

namespace Text

def IsSolid (t : Text) : Prop := ∀ c ∈ t, isBlank c = false

instance : DecidablePred IsSolid := fun t =>
  inferInstanceAs (Decidable (∀ c ∈ t, isBlank c = false))

lemma isSolid_iff {t : Text} : IsSolid t ↔ ∀ c ∈ t, (!isBlank c) = true := by simp [IsSolid]

@[simp] lemma isSolid_nil : IsSolid [] := by simp [IsSolid]

@[simp] lemma isSolid_cons {c : Char} {t : Text} :
    IsSolid (c :: t) ↔ isBlank c = false ∧ IsSolid t := by simp [IsSolid]

@[simp] lemma isSolid_append {s t : Text} : IsSolid (s ++ t) ↔ IsSolid s ∧ IsSolid t := by
  simp [IsSolid, or_imp, forall_and]

lemma trim_of_isSolid {t : Text} (h : IsSolid t) : trim t = t :=
  trim_eq_self
    ⟨fun c hc => h c (List.mem_of_mem_head? hc), fun c hc => h c (List.mem_of_getLast? hc)⟩

lemma isBlank_of_visible {c : Char} (hlow : 0x21 ≤ c.toNat) (hhigh : c.toNat ≤ 0x7E) :
    isBlank c = false := by
  simp only [isBlank, inRanges, blankRanges, List.any_cons, List.any_nil, Bool.or_eq_false_iff,
    Bool.and_eq_false_iff, decide_eq_false_iff_not]
  refine ⟨?_, ?_, ?_, ?_, ?_, ?_, ?_, ?_, ?_, ?_, trivial⟩ <;> omega

lemma isBlank_of_isAlphanum {c : Char} (h : c.isAlphanum = true) : isBlank c = false := by
  rcases Bool.or_eq_true_iff.1 h with h | h
  · have hcode := toNat_of_isAlpha h
    apply isBlank_of_visible <;> omega
  · have hcode := toNat_of_isDigit h
    apply isBlank_of_visible <;> omega

lemma inRanges_eq_false {ranges others : List (ℕ × ℕ)} {c : Char}
    (hdisjoint : ∀ range ∈ ranges, ∀ other ∈ others, range.2 < other.1 ∨ other.2 < range.1)
    (h : inRanges ranges c = true) : inRanges others c = false := by
  simp only [inRanges, List.any_eq_true, Bool.and_eq_true, decide_eq_true_eq] at h
  obtain ⟨range, hrange, hlow, hhigh⟩ := h
  simp only [inRanges, List.any_eq_false, Bool.and_eq_true, decide_eq_true_eq, not_and]
  intro other hother hle
  have := hdisjoint range hrange other hother
  omega

lemma decimalZeros_disjoint : ∀ start ∈ decimalZeros, ∀ range ∈ blankRanges,
    range.2 < start ∨ start + 9 < range.1 := by decide

lemma wordRanges_disjoint : ∀ range ∈ wordRanges, ∀ other ∈ blankRanges,
    range.2 < other.1 ∨ other.2 < range.1 := by decide +kernel

lemma isBlank_of_isDecimalDigit {c : Char} (h : isDecimalDigit c = true) :
    isBlank c = false := by
  simp only [isDecimalDigit, Bool.or_eq_true, List.any_eq_true, Bool.and_eq_true,
    decide_eq_true_eq] at h
  rcases h with h | ⟨start, hstart, hlow, hhigh⟩
  · exact isBlank_of_isAlphanum (by simp [Char.isAlphanum, h])
  · simp only [isBlank, inRanges, List.any_eq_false, Bool.and_eq_true, decide_eq_true_eq, not_and]
    intro range hrange hle
    have := decimalZeros_disjoint start hstart range hrange
    omega

lemma isBlank_of_isWordCharacter {c : Char} (h : isWordCharacter c = true) :
    isBlank c = false := by
  simp only [isWordCharacter, Bool.or_eq_true, beq_iff_eq] at h
  rcases h with (h | rfl) | h
  · exact isBlank_of_isAlphanum h
  · decide
  · exact inRanges_eq_false wordRanges_disjoint h

end Text

def SolidLanguage (l : Language Char) : Prop := ∀ t ∈ l, IsSolid t

namespace SolidLanguage

variable {l m : Language Char}

lemma singleton {t : Text} (h : IsSolid t) : SolidLanguage {t} := by
  rintro _ rfl
  exact h

lemma one : SolidLanguage 1 := singleton isSolid_nil

lemma oneOf {p : Char → Bool} (h : ∀ c, p c = true → isBlank c = false) :
    SolidLanguage (oneOf p) := by
  rintro _ ⟨c, hc, rfl⟩
  simp [h c hc]

lemma mul (hl : SolidLanguage l) (hm : SolidLanguage m) : SolidLanguage (l * m) := by
  rintro _ ⟨s, hs, t, ht, rfl⟩
  exact isSolid_append.2 ⟨hl s hs, hm t ht⟩

lemma add (hl : SolidLanguage l) (hm : SolidLanguage m) : SolidLanguage (l + m) := by
  rintro t (h | h)
  · exact hl t h
  · exact hm t h

lemma pow (hl : SolidLanguage l) (n : ℕ) : SolidLanguage (l ^ n) := by
  induction n with
  | zero => simpa using one
  | succ n ih =>
    rw [pow_succ]
    exact ih.mul hl

lemma kstar (hl : SolidLanguage l) : SolidLanguage l∗ := by
  rw [Language.kstar_eq_iSup_pow]
  intro t ht
  obtain ⟨n, hn⟩ := Language.mem_iSup.1 ht
  exact hl.pow n t hn

lemma runOf {p : Char → Bool} (h : ∀ c, p c = true → isBlank c = false) :
    SolidLanguage (runOf p) := (oneOf h).mul (oneOf h).kstar

lemma atMost {p : Char → Bool} (h : ∀ c, p c = true → isBlank c = false) (n : ℕ) :
    SolidLanguage (atMost p n) := fun _ ht c hc => h c (ht.2 c hc)

end SolidLanguage

namespace Token

lemma solid_digit : SolidLanguage (oneOf isDecimalDigit) :=
  .oneOf fun _ => isBlank_of_isDecimalDigit

lemma solid_label : SolidLanguage label := by
  have halnum : SolidLanguage (oneOf Char.isAlphanum) := .oneOf fun _ => isBlank_of_isAlphanum
  have hcharacter : SolidLanguage (oneOf HostName.isLabelCharacter) := .oneOf fun c h => by
    rcases Bool.or_eq_true_iff.1 h with h | h
    · exact isBlank_of_isAlphanum h
    · rw [beq_iff_eq.1 h]
      decide
  exact halnum.mul ((hcharacter.kstar.mul halnum).add .one)

lemma solid_monthNames : SolidLanguage monthNames := by
  have hletters : ∀ spelling ∈ monthSpellings, ∀ c ∈ spelling, c.isLower = true := by decide
  intro t ht c hc
  have hlower := hletters _ ht (foldCase c) (List.mem_map_of_mem hc)
  rw [foldCase] at hlower
  split at hlower
  · next h =>
    rw [h]
    decide
  · exact isBlank_of_isAlphanum (isAlphanum_of_isAlpha (isAlpha_of_isLower_toLower hlower))

lemma solid_offsets : SolidLanguage offsets := by
  have hsign : SolidLanguage signs := .oneOf fun c h => by
    rcases Bool.or_eq_true_iff.1 h with h | h <;> rw [beq_iff_eq.1 h] <;> decide
  have htwo := solid_digit.pow 2
  have hcolon : SolidLanguage ({[':']} + 1) := (SolidLanguage.singleton (by decide)).add .one
  exact (SolidLanguage.singleton (by decide)).add (((hsign.mul htwo).mul hcolon).mul htwo)

lemma solid_timesOfDay : SolidLanguage timesOfDay := by
  have htwo := solid_digit.pow 2
  have hcolon : SolidLanguage {[':']} := .singleton (by decide)
  exact (((htwo.mul hcolon).mul htwo).mul hcolon).mul htwo

lemma solid_timestamps : SolidLanguage timestamps := by
  have hhyphen : SolidLanguage {['-']} := .singleton (by decide)
  have hdate := (((((solid_digit.pow 4).mul hhyphen).mul (solid_digit.pow 2)).mul hhyphen).mul
    (solid_digit.pow 2))
  have hfraction : SolidLanguage ({['.']} * runOf isDecimalDigit + 1) :=
    ((SolidLanguage.singleton (by decide)).mul (.runOf fun _ => isBlank_of_isDecimalDigit)).add .one
  exact (((hdate.mul (.singleton (by decide))).mul solid_timesOfDay).mul hfraction).mul
    (solid_offsets.add .one)

lemma solid_addresses : SolidLanguage addresses := by
  have hoctet : SolidLanguage octets :=
    solid_digit.mul (.atMost (fun _ => isBlank_of_isDecimalDigit) 2)
  exact ((hoctet.mul (.singleton (by decide))).pow 3).mul hoctet

lemma solid_hostNames : SolidLanguage (label * laterLabels) :=
  solid_label.mul (((SolidLanguage.singleton (by decide)).mul solid_label).kstar)

def isSolid : Token → Bool
  | data | string | greedyData | structuredData => false
  | _ => true

lemma solid_language {token : Token} (h : token.isSolid = true) :
    SolidLanguage token.language := by
  have hrun : SolidLanguage (runOf isDecimalDigit) := .runOf fun _ => isBlank_of_isDecimalDigit
  cases token with
  | int =>
    have hsign : SolidLanguage signs := .oneOf fun c h => by
      rcases Bool.or_eq_true_iff.1 h with h | h <;> rw [beq_iff_eq.1 h] <;> decide
    exact (hsign.add .one).mul hrun
  | posint => exact hrun
  | word => exact .runOf fun _ => isBlank_of_isWordCharacter
  | nospace => exact .runOf fun c h => by simpa using h
  | data | string | greedyData | structuredData => cases h
  | month => exact solid_monthNames
  | hostName => exact solid_hostNames
  | ipv4 => exact solid_addresses
  | ipOrHost => exact solid_addresses.add solid_hostNames
  | time => exact solid_timesOfDay
  | timeZone =>
    refine (SolidLanguage.oneOf fun c h => ?_).pow 3
    exact isBlank_of_isAlphanum (isAlphanum_of_isAlpha (isAlpha_of_isUpper h))
  | offset => exact solid_offsets
  | fraction => exact hrun.mul ((SolidLanguage.singleton (by decide)).add .one)
  | timestamp => exact solid_timestamps

end Token
end Syslog
