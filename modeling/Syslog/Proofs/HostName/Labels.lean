import Syslog.Proofs.Grammar.Fitting
import Syslog.Proofs.HostName
import Syslog.Veto

/-!
# Labels of host names

The check of a host name, the token of a grammar and the test that tells hosts from programs ask for
the same texts: labels joined by points. The check limits their length too, and the test asks for
two labels where the text is not the name of the local host.
-/
namespace Syslog
open Text
open scoped Computability

namespace HostName

/-- ASCII letters, digits and hyphens with no hyphen at either end. -/
structure IsLabel (t : Text) : Prop where
  ne_nil : t ≠ []
  characters : ∀ c ∈ t, c.isAlphanum = true ∨ c = '-'
  first : t.head? ≠ some '-'
  last : t.getLast? ≠ some '-'

/-- All that stands between the points of the text are labels. -/
def OfLabels (t : Text) : Prop := ∀ label ∈ t.splitOn '.', IsLabel label

/-- The name of the local host, each letter in either case. -/
def IsLocalhost (t : Text) : Prop :=
  List.Forall₂ (fun c letter => c = letter ∨ c = letter.toUpper) t (ofString "localhost")

section Label

variable {t : Text}

lemma isLabelCharacter_iff {c : Char} :
    isLabelCharacter c = true ↔ c.isAlphanum = true ∨ c = '-' := by
  simp [isLabelCharacter]

lemma IsLabel.isAlphanum_of_ne {c : Char} (h : IsLabel t) (hc : c ∈ t) (hne : c ≠ '-') :
    c.isAlphanum = true := (h.characters c hc).resolve_right hne

lemma IsLabel.isAlphanum_head (h : IsLabel t) : (t.head h.ne_nil).isAlphanum = true :=
  h.isAlphanum_of_ne (List.head_mem _) fun hhead =>
    h.first (by rw [List.head?_eq_some_head h.ne_nil, hhead])

lemma IsLabel.isAlphanum_getLast (h : IsLabel t) : (t.getLast h.ne_nil).isAlphanum = true :=
  h.isAlphanum_of_ne (List.getLast_mem _) fun hlast =>
    h.last (by rw [List.getLast?_eq_some_getLast h.ne_nil, hlast])

lemma IsLabel.point_notMem (h : IsLabel t) : '.' ∉ t := by
  intro hpoint
  simpa using h.isAlphanum_of_ne hpoint (by decide)

lemma isLabel_iff : isLabel t = true ↔ IsLabel t := by
  simp only [isLabel, Bool.and_eq_true, List.all_eq_true, isLabelCharacter_iff]
  constructor
  · rintro ⟨⟨hcharacters, hfirst⟩, hlast⟩
    refine ⟨?_, hcharacters, fun h => ?_, fun h => ?_⟩
    · rintro rfl
      cases hfirst
    · simp [h] at hfirst
    · simp [h] at hlast
  · intro h
    refine ⟨⟨h.characters, ?_⟩, ?_⟩
    · rw [List.head?_eq_some_head h.ne_nil]
      exact h.isAlphanum_head
    · rw [List.getLast?_eq_some_getLast h.ne_nil]
      exact h.isAlphanum_getLast

lemma isLabels_iff : isLabels t = true ↔ OfLabels t := by
  simp only [isLabels, List.all_eq_true, isLabel_iff, OfLabels]

lemma OfLabels.ne_nil (h : OfLabels t) : t ≠ [] := by
  rintro rfl
  exact (h [] (by simp)).ne_nil rfl

/-- Every host name consists of labels, the local and the numeric ones too. -/
theorem isValid_iff_ofLabels : isValid t = true ↔ byteLength t ≤ maxLength ∧ OfLabels t := by
  rw [isValid_iff, isLabels_iff]
  exact and_iff_right_of_imp fun h => h.2.ne_nil

end Label

/-! ## The language of the token -/

section Language

variable {t : Text}

theorem mem_label_iff : t ∈ Token.label ↔ IsLabel t := by
  rw [← isLabel_iff, isLabel, Bool.and_eq_true, Bool.and_eq_true, List.all_eq_true]
  constructor
  · rintro ⟨_, ⟨c, hc, rfl⟩, _, ⟨run, hrun, _, ⟨d, hd, rfl⟩, rfl⟩ | rfl, rfl⟩
    · have hrun := Reader.mem_kstar_oneOf.1 hrun
      refine ⟨⟨?_, by simpa using hc⟩, by simpa [List.getLast?_cons] using hd⟩
      simpa [isLabelCharacter, hc, hd, or_imp, forall_and] using hrun
    · simp [isLabelCharacter, hc]
  · rintro ⟨⟨hcharacters, hfirst⟩, hlast⟩
    obtain ⟨c, hhead, hc⟩ := (Option.any_eq_true _ _).1 hfirst
    obtain ⟨rest, rfl⟩ := List.head?_eq_some_iff.1 hhead
    refine ⟨[c], ⟨c, hc, rfl⟩, rest, ?_, rfl⟩
    cases rest using List.reverseRecOn with
    | nil => exact .inr rfl
    | append_singleton run d =>
      refine .inl ⟨run, Reader.mem_kstar_oneOf.2 fun e he => ?_, [d], ⟨d, ?_, rfl⟩, rfl⟩
      · exact hcharacters e (by simp [he])
      · simpa [List.getLast?_cons] using hlast

lemma IsLabel.ofLabels (h : IsLabel t) : OfLabels t := by
  rw [OfLabels, List.splitOn_eq_singleton h.point_notMem]
  simpa using h

lemma ofLabels_append {first : Text} (h : IsLabel first) :
    OfLabels (first ++ '.' :: t) ↔ OfLabels t := by
  rw [OfLabels, List.splitOn_append_cons_self_of_not_mem h.point_notMem, List.forall_mem_cons]
  exact and_iff_right h

lemma ofLabels_of_laterLabels {first later : Text} (hfirst : IsLabel first)
    (h : later ∈ Token.laterLabels) : OfLabels (first ++ later) := by
  obtain ⟨pieces, rfl, hpieces⟩ := Language.mem_kstar.1 h
  clear h
  induction pieces generalizing first with
  | nil => simpa using hfirst.ofLabels
  | cons piece pieces ih =>
    obtain ⟨_, rfl, label, hlabel, rfl⟩ := hpieces piece (by simp)
    exact (ofLabels_append hfirst).2
      (ih (mem_label_iff.1 hlabel) fun other hother => hpieces other (by simp [hother]))

lemma intercalate_mem_hostName {labels : List Text} (hne : labels ≠ [])
    (h : ∀ label ∈ labels, IsLabel label) :
    ['.'].intercalate labels ∈ Token.hostName.language := by
  induction labels with
  | nil => contradiction
  | cons label labels ih =>
    have hlabel := mem_label_iff.2 (h label (by simp))
    cases labels with
    | nil => exact ⟨label, hlabel, [], Token.mem_laterLabels.2 (.inl rfl), by simp⟩
    | cons next labels =>
      have hlater := ih (by simp) fun other hother => h other (List.mem_cons_of_mem _ hother)
      refine ⟨label, hlabel, '.' :: ['.'].intercalate (next :: labels), ?_, ?_⟩
      · exact Token.mem_laterLabels.2 (.inr ⟨['.'], rfl, _, hlater, rfl⟩)
      · simp [List.intercalate_cons_cons]

theorem mem_hostName_iff : t ∈ Token.hostName.language ↔ OfLabels t := by
  constructor
  · rintro ⟨first, hfirst, later, hlater, rfl⟩
    exact ofLabels_of_laterLabels (mem_label_iff.1 hfirst) hlater
  · intro h
    have hjoin : ['.'].intercalate (t.splitOn '.') = t := List.intercalate_splitOn '.'
    rw [← hjoin]
    exact intercalate_mem_hostName (List.splitOn_ne_nil _ _) h

end Language

/-! ## Local and numeric names -/

section Kinds

variable {t : Text}

theorem isLocal_iff : isLocal t = true ↔ IsLocalhost t := by
  have hletters : ∀ letter ∈ ofString "localhost", letter.isLower = true := by decide
  rw [isLocal, beq_iff_eq, toAsciiLower, IsLocalhost]
  generalize ofString "localhost" = name at hletters
  induction name generalizing t with
  | nil => simp
  | cons letter name ih =>
    obtain ⟨hletter, hname⟩ := List.forall_mem_cons.1 hletters
    cases t with
    | nil => simp
    | cons c t => simp [toLower_eq_iff hletter, ih hname]

lemma OfLabels.byteLength_eq (h : OfLabels t) : byteLength t = t.length := by
  refine byteLength_eq_length fun c hc => ?_
  rcases isCharacter_of_isLabels (isLabels_iff.2 h) hc with hc | rfl | rfl
  · exact utf8Size_of_isAlphanum hc
  · rfl
  · rfl

lemma length_le_of_isAddress (h : isAddress t = true) : t.length ≤ 15 := by
  simp only [isAddress, Bool.and_eq_true, beq_iff_eq, List.all_eq_true] at h
  obtain ⟨a, b, c, d, hoctets⟩ := List.length_eq_four.1 h.1
  have hlength : ∀ octet ∈ [a, b, c, d], octet.length ≤ 3 := by
    intro octet hoctet
    have hoctet := h.2 octet (hoctets ▸ hoctet)
    simp only [isOctet, Bool.and_eq_true, decide_eq_true_eq] at hoctet
    exact hoctet.1.1.2
  simp only [List.forall_mem_cons] at hlength
  have hjoin : ['.'].intercalate (t.splitOn '.') = t := List.intercalate_splitOn '.'
  rw [← hjoin, hoctets]
  simp only [List.intercalate_cons_cons, List.intercalate_singleton, List.length_append,
    List.length_cons, List.length_nil]
  omega

lemma isValid_of_isAddress (h : isAddress t = true) : isValid t = true := by
  have hlabels := isLabels_iff.1 (isLabels_of_isAddress h)
  refine isValid_iff_ofLabels.2 ⟨?_, hlabels⟩
  rw [hlabels.byteLength_eq]
  exact (length_le_of_isAddress h).trans (by decide)

lemma two_le_length_splitOn_iff {separator : Char} :
    2 ≤ (t.splitOn separator).length ↔ separator ∈ t := by
  constructor
  · intro h
    by_contra habsent
    rw [List.splitOn_eq_singleton habsent] at h
    simp at h
  · intro h
    obtain ⟨before, after, rfl, hbefore⟩ := List.eq_append_cons_of_mem h
    rw [List.splitOn_append_cons_self_of_not_mem hbefore, List.length_cons]
    have := List.length_pos_of_ne_nil (List.splitOn_ne_nil separator after)
    omega

theorem namesHost_iff :
    namesHost t = true ↔ IsLocalhost t ∨ isValid t = true ∧ 2 ≤ (t.splitOn '.').length := by
  rw [namesHost, Bool.or_eq_true, Bool.or_eq_true, Bool.and_eq_true, List.contains_iff_mem,
    isLocal_iff, two_le_length_splitOn_iff, or_assoc, and_comm]
  refine or_congr_right (or_iff_right_of_imp fun h => ⟨isValid_of_isAddress h, ?_⟩)
  rw [isAddress, Bool.and_eq_true, beq_iff_eq] at h
  exact two_le_length_splitOn_iff.1 (by omega)

end Kinds

end HostName

/-! ## Host names in grammars -/

namespace Grammar

def hostNameGrammar (index : ℕ) : Grammar where
  index := index
  text := ofString "%\x7bHOSTNAME:hostname\x7d"
  segments := [.token .hostName (some "hostname")]

lemma ofText_hostNameGrammar (index : ℕ) :
    ofText index (ofString "%\x7bHOSTNAME:hostname\x7d") = .ok (hostNameGrammar index) :=
  ofText_of_readSegments (by decide +kernel) index

lemma fieldsOf?_hostNameGrammar {index : ℕ} {t : Text} {fields : Fields} :
    (hostNameGrammar index).fieldsOf? t = some fields ↔
      HostName.OfLabels t ∧ fields = .ofList [("hostname", t)] := by
  have hreads : ∀ entries, Reads (hostNameGrammar index).segments t entries ↔
      HostName.OfLabels t ∧ entries = [("hostname", t)] := by
    intro entries
    rw [← HostName.mem_hostName_iff]
    exact reads_single
  constructor
  · intro h
    obtain ⟨entries, hentries, rfl⟩ := reads_of_fieldsOf?_eq_some h
    obtain ⟨hlabels, rfl⟩ := (hreads entries).1 hentries
    exact ⟨hlabels, rfl⟩
  · rintro ⟨hlabels, rfl⟩
    exact fieldsOf?_of_reads fun other => (hreads other).trans (and_iff_right hlabels)

end Grammar

namespace HostName

lemma hostNameVeto?_eq_none_iff {fields : Fields} {value : Text} (h : OfLabels value)
    (hget : fields.get? "hostname" = some value) :
    fields.hostNameVeto? = none ↔ byteLength value ≤ maxLength := by
  have hnil : value ≠ nilValue := by
    rintro rfl
    exact (h nilValue (by decide)).first rfl
  have hvalid : isValid value = true ↔ byteLength value ≤ maxLength := by
    rw [isValid_iff_ofLabels]
    exact and_iff_left h
  simp [Fields.hostNameVeto?, hget, hnil, hvalid]

/-- The check of host names, the token of grammars and the test for hosts know the same labels. The
check bounds their length, the token takes them all, and the test asks for two unless the name is
that of the local host. -/
theorem hostNames_agree (t : Text) :
    (isValid t = true ↔ byteLength t ≤ 253 ∧ OfLabels t) ∧
      (isLocal t = true ∨ isAddress t = true → isLabels t = true) ∧
      (∀ index, Grammar.ofText index (ofString "%\x7bHOSTNAME:hostname\x7d") =
          .ok (Grammar.hostNameGrammar index) ∧
        ∀ fields, (Grammar.hostNameGrammar index).fieldsOf? t = some fields ↔
          OfLabels t ∧ fields = .ofList [("hostname", t)]) ∧
      (∀ index text grammar, Grammar.ofText index text = .ok grammar →
        .token .hostName (some "hostname") ∈ grammar.segments →
        ∀ fields, grammar.fieldsOf? t = some fields →
          ∃ value, fields.get? "hostname" = some value ∧
            (fields.hostNameVeto? = none ↔ byteLength value ≤ 253)) ∧
      (namesHost t = true ↔ IsLocalhost t ∨ isValid t = true ∧ 2 ≤ (t.splitOn '.').length) := by
  refine ⟨isValid_iff_ofLabels, ?_, fun index => ?_, ?_, namesHost_iff⟩
  · rintro (h | h)
    · exact isLabels_of_isLocal h
    · exact isLabels_of_isAddress h
  · exact ⟨Grammar.ofText_hostNameGrammar index, fun _ => Grammar.fieldsOf?_hostNameGrammar⟩
  · intro index text grammar hread hmem fields hfields
    obtain ⟨value, hvalue, hget⟩ := Grammar.exists_get?_of_token hread hmem
      (fun hnil => (mem_hostName_iff.1 hnil).ne_nil rfl) hfields
    exact ⟨value, hget, hostNameVeto?_eq_none_iff (mem_hostName_iff.1 hvalue) hget⟩

def angled : Grammar where
  index := 0
  text := ofString "<%\x7bHOSTNAME:hostname\x7d> %\x7bSTRING:message\x7d"
  segments := [
    .literal ['<'], .token .hostName (some "hostname"), .literal ['>'], .blanks,
    .token .string (some "message")]

theorem hostNames_agree_angled :
    Grammar.ofText 0 angled.text = .ok angled ∧
      .token .hostName (some "hostname") ∈ angled.segments ∧
      ∃ fields, angled.fieldsOf? (ofString "<Fw-01.10.dc--2>  up") = some fields ∧
        fields.get? "hostname" = some (ofString "Fw-01.10.dc--2") ∧
        fields.hostNameVeto? = none := by
  have hread : Grammar.ofText 0 angled.text = .ok angled := by decide +kernel
  have hmem : .token .hostName (some "hostname") ∈ angled.segments := by decide
  have hfields : angled.fieldsOf? (ofString "<Fw-01.10.dc--2>  up") =
      some ⟨[("hostname", ofString "Fw-01.10.dc--2"), ("message", ofString "up")]⟩ := by
    decide +kernel
  obtain ⟨value, hget, hveto⟩ := (hostNames_agree _).2.2.2.1 _ _ _ hread hmem _ hfields
  obtain rfl : ofString "Fw-01.10.dc--2" = value := Option.some.inj hget
  exact ⟨hread, hmem, _, hfields, hget, hveto.2 (by decide)⟩

end HostName
end Syslog
