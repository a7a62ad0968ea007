import Syslog.Proofs.Collector.Delivery
import Syslog.Proofs.Text.Numerals

/-!
# Values of fields

Entries with different names and no empty values are the fields they make. A value that does not
start with a byte order mark is told as it stands unless it is a hyphen, and a numeral that fits
counts for its number.
-/
namespace Syslog
open Text

namespace Fields

lemma ofList_append (entries later : List (String × Text)) :
    ofList (entries ++ later) =
      later.foldl (fun fields entry => fields.insert entry.1 entry.2) (ofList entries) := by
  rw [ofList, List.foldl_append, ← ofList]

theorem ofList_eq_filter {entries : List (String × Text)}
    (hnames : (entries.map Prod.fst).Nodup) :
    ofList entries = ⟨entries.filter fun entry => entry.2 ≠ []⟩ := by
  induction entries using List.reverseRecOn with
  | nil => rfl
  | append_singleton entries entry ih =>
    rw [List.map_append, List.nodup_append] at hnames
    have hnew : ∀ other ∈ entries, other.1 ≠ entry.1 := fun other hother =>
      hnames.2.2 _ (List.mem_map_of_mem hother) entry.1 (by simp)
    rw [ofList_append, ih hnames.1, List.foldl_cons, List.foldl_nil, insert, List.filter_append]
    by_cases hvalue : entry.2 = []
    · rw [if_pos hvalue, erase, List.filter_cons_of_neg (by simp [hvalue]), List.filter_nil,
        List.append_nil, List.filter_eq_self.2]
      exact fun other hother => by simpa using hnew other (List.mem_filter.1 hother).1
    · have habsent : ¬ contains ⟨entries.filter fun entry => entry.2 ≠ []⟩ entry.1 = true := by
        rw [contains_iff]
        intro hmem
        obtain ⟨other, hother, hsame⟩ := List.mem_map.1 hmem
        exact hnew other (List.mem_filter.1 hother).1 hsame
      rw [if_neg hvalue, if_neg habsent, List.filter_cons_of_pos (by simp [hvalue]),
        List.filter_nil]

theorem ofList_eq {entries : List (String × Text)} (hnames : (entries.map Prod.fst).Nodup)
    (hvalues : ∀ entry ∈ entries, entry.2 ≠ []) : ofList entries = ⟨entries⟩ := by
  rw [ofList_eq_filter hnames, List.filter_eq_self.2]
  exact fun entry hentry => by simpa using hvalues entry hentry

lemma lookup_eq_some_of_mem {entries : List (String × Text)}
    (hnames : (entries.map Prod.fst).Nodup) {name : String} {value : Text}
    (h : (name, value) ∈ entries) : entries.lookup name = some value := by
  induction entries with
  | nil => cases h
  | cons entry entries ih =>
    rw [List.map_cons, List.nodup_cons] at hnames
    rw [lookup_cons_ite]
    rcases List.mem_cons.1 h with rfl | h
    · exact if_pos rfl
    · rw [if_neg, ih hnames.2 h]
      rintro rfl
      exact hnames.1 (List.mem_map.2 ⟨_, h, rfl⟩)

lemma get?_of_mem_of_ne_nil {entries : List (String × Text)}
    (hnames : (entries.map Prod.fst).Nodup) {name : String} {value : Text}
    (h : (name, value) ∈ entries) (hvalue : value ≠ []) :
    (ofList entries).get? name = some value := by
  rw [ofList_eq_filter hnames]
  exact lookup_eq_some_of_mem (hnames.sublist (List.filter_sublist.map _))
    (List.mem_filter.2 ⟨h, by simpa using hvalue⟩)

lemma get?_of_mem {entries : List (String × Text)} (hnames : (entries.map Prod.fst).Nodup)
    (hvalues : ∀ entry ∈ entries, entry.2 ≠ []) {name : String} {value : Text}
    (h : (name, value) ∈ entries) : (ofList entries).get? name = some value :=
  get?_of_mem_of_ne_nil hnames h (hvalues _ h)

lemma get?_of_notMem {entries : List (String × Text)} (hnames : (entries.map Prod.fst).Nodup)
    (hvalues : ∀ entry ∈ entries, entry.2 ≠ []) {name : String}
    (h : name ∉ entries.map Prod.fst) : (ofList entries).get? name = none := by
  rw [ofList_eq hnames hvalues, ← Option.not_isSome_iff_eq_none]
  exact fun hsome => h ((lookup_isSome_iff _ _).1 hsome)

lemma get?_foldl_insert {later : List (String × Text)} {name : String}
    (h : name ∉ later.map Prod.fst) (fields : Fields) :
    (later.foldl (fun fields entry => fields.insert entry.1 entry.2) fields).get? name =
      fields.get? name := by
  induction later generalizing fields with
  | nil => rfl
  | cons entry later ih =>
    rw [List.map_cons, List.mem_cons, not_or] at h
    rw [List.foldl_cons, ih h.2, get?_insert, if_neg h.1]

theorem get?_ofList_of_last {entries before later : List (String × Text)} {name : String}
    {value : Text} (hentries : entries = before ++ (name, value) :: later) (hvalue : value ≠ [])
    (hlater : name ∉ later.map Prod.fst) : (ofList entries).get? name = some value := by
  rw [hentries, ofList_append, List.foldl_cons, get?_foldl_insert hlater, get?_insert, if_pos rfl,
    if_neg hvalue]

theorem veto?_eq_none_iff {fields : Fields} :
    fields.veto? = none ↔
      (∀ host ∈ fields.get? "hostname", host = nilValue ∨ HostName.isValid host = true) ∧
        ∀ name ∈ fields.get? "processName", name = nilValue ∨ processNameFault? name = none := by
  rw [veto?, Option.orElse_eq_orElse, Option.orElse_eq_or, Option.or_eq_none_iff]
  refine and_congr ?_ ?_
  · rw [hostNameVeto?]
    cases fields.get? "hostname" with
    | none => simp
    | some host => simp [or_iff_not_imp_left]
  · rw [processNameVeto?]
    cases fields.get? "processName" with
    | none => simp
    | some name => by_cases hnil : name = nilValue <;> simp [hnil]

/-- The value does not start with a byte order mark or what stands for one. -/
def Unmarked (value : Text) : Prop := ¬ markWord <+: value ∧ ¬ byteOrderMark <+: value

instance (value : Text) : Decidable (Unmarked value) :=
  inferInstanceAs (Decidable (¬ markWord <+: value ∧ ¬ byteOrderMark <+: value))

/-- What a value tells: a hyphen tells nothing. -/
def told (value : Text) : Option Text := if value = nilValue then none else some value

lemma meaning?_eq_told {value : Text} (hne : value ≠ []) (h : Unmarked value) :
    meaning? value = told value := by
  rw [meaning?, told, after?_eq_none_iff.2 h.1, after?_eq_none_iff.2 h.2]
  simp [hne]

lemma unmarked_of_head {c : Char} {t : Text} (hB : c ≠ 'B') (hmark : c ≠ '\uFEFF') :
    Unmarked (c :: t) := by
  constructor
  · intro h
    exact hB (List.cons_prefix_cons.1 (show 'B' :: ['O', 'M'] <+: c :: t from h)).1.symm
  · intro h
    exact hmark (List.cons_prefix_cons.1 (show '\uFEFF' :: [] <+: c :: t from h)).1.symm

lemma told_of_head {c : Char} {t : Text} (h : c ≠ '-') : told (c :: t) = some (c :: t) := by
  rw [told, if_neg]
  intro hnil
  exact h (List.cons.inj hnil).1

end Fields

namespace Text

lemma ne_of_isDigit {c d : Char} (h : c.isDigit = true) (hd : d.isDigit = false) : c ≠ d := by
  rintro rfl
  rw [h] at hd
  cases hd

lemma integer?_of_digits {half : ℕ} {t : Text} (hne : t ≠ []) (h : ∀ c ∈ t, c.isDigit = true)
    (hhalf : Nat.ofDigitChars 10 t 0 < half) :
    integer? half t = some ((Nat.ofDigitChars 10 t 0 : ℕ) : ℤ) := by
  have hdigits := digits?_eq_some hne h
  have hvalue : integer? half t =
      (some ((Nat.ofDigitChars 10 t 0 : ℕ) : ℤ)).filter fun n => -(half : ℤ) ≤ n ∧ n < half := by
    unfold integer?
    split
    · exact absurd rfl (ne_of_isDigit (h '+' (by simp)) (by decide))
    · exact absurd rfl (ne_of_isDigit (h '-' (by simp)) (by decide))
    · rw [hdigits]
      rfl
  rw [hvalue, Option.filter_some, if_pos]
  rw [decide_eq_true_eq]
  omega

lemma natural?_of_digits {bound : ℕ} {t : Text} (hne : t ≠ []) (h : ∀ c ∈ t, c.isDigit = true)
    (hbound : Nat.ofDigitChars 10 t 0 < bound) :
    natural? bound t = some (Nat.ofDigitChars 10 t 0) := by
  have hdigits := digits?_eq_some hne h
  have hvalue : natural? bound t =
      (some (Nat.ofDigitChars 10 t 0)).filter (· < bound) := by
    unfold natural?
    split
    · exact absurd rfl (ne_of_isDigit (h '+' (by simp)) (by decide))
    · simp only [hdigits]
  rw [hvalue, Option.filter_some, if_pos]
  simpa using hbound

lemma natural?_ofNat {bound n : ℕ} (h : n < bound) : natural? bound (ofNat n) = some n := by
  have hvalue : Nat.ofDigitChars 10 (ofNat n) 0 = n := Nat.ofDigitChars_ten_toDigits
  rw [natural?_of_digits (ofNat_ne_nil n) (fun _ => isDigit_of_mem_ofNat) (hvalue.symm ▸ h), hvalue]

end Text

lemma Priority.encode_lt (priority : Priority) : priority.encode < 256 := by
  have hfacility : priority.facility.code < 24 := by cases priority.facility <;> decide
  have hseverity : priority.severity.code < 8 := by cases priority.severity <;> decide
  rw [encode]
  omega

namespace Fields

lemma meaning?_of_digits {t : Text} (hne : t ≠ []) (h : ∀ c ∈ t, c.isDigit = true) :
    meaning? t = some t := by
  cases t with
  | nil => contradiction
  | cons c t =>
    have hc := h c (by simp)
    rw [meaning?_eq_told hne (unmarked_of_head (ne_of_isDigit hc (by decide))
      (ne_of_isDigit hc (by decide))), told_of_head (ne_of_isDigit hc (by decide))]

variable {fields : Fields} {name : String} {value : Text}

lemma value?_of_get? (h : fields.get? name = some value) (hne : value ≠ [])
    (hunmarked : Unmarked value) : fields.value? name = told value := by
  rw [value?, h, Option.bind_some, meaning?_eq_told hne hunmarked]

lemma value?_of_get?_eq_none (h : fields.get? name = none) : fields.value? name = none := by
  rw [value?, h, Option.bind_none]

lemma number_of_digits (h : fields.get? name = some value) (hne : value ≠ [])
    (hdigits : ∀ c ∈ value, c.isDigit = true) (hhalf : Nat.ofDigitChars 10 value 0 < half64) :
    fields.number name = (Nat.ofDigitChars 10 value 0 : ℕ) := by
  rw [number, value?, h, Option.bind_some, meaning?_of_digits hne hdigits, Option.bind_some,
    integer?_of_digits hne hdigits hhalf, Option.getD_some]

lemma number_of_get?_eq_none (h : fields.get? name = none) : fields.number name = 0 := by
  rw [number, value?_of_get?_eq_none h]
  rfl

lemma priority?_of_get? {priority : Priority}
    (h : fields.get? "facilityCode" = some (ofNat priority.encode)) :
    fields.priority? = some priority := by
  rw [priority?, h, Option.bind_some, natural?_ofNat priority.encode_lt, Option.bind_some,
    Priority.decode?_encode]

theorem body_of_get? (h : fields.get? "firewallVersion" = none) :
    fields.body = (fields.value? "message").getD [] := by
  have hcsv : fields.csvBody? = none := by
    rw [csvBody?, h]
    cases fields.get? "message" <;> rfl
  rw [body, hcsv]
  rfl

theorem veto?_eq_none {host tag : Text} (hhost : fields.get? "hostname" = some host)
    (htag : fields.get? "processName" = some tag)
    (hvalid : host = nilValue ∨ HostName.isValid host = true)
    (hname : tag = nilValue ∨ processNameFault? tag = none) : fields.veto? = none :=
  veto?_eq_none_iff.2 ⟨by simp [hhost, hvalid], by simp [htag, hname]⟩

end Fields
end Syslog
