import Syslog.Grammar.Token
import Syslog.HostName
import Syslog.Proofs.Grammar.Language

/-!
# Languages of tokens

Every type of token has a regular language, and its reader takes exactly that language. The readers
of labels and of structured data pass over a text once, by the state they are in; to a state belongs
the language of what may still follow.
-/
namespace Syslog.Token
open Text Reader
open scoped Computability

/-! ## Labels -/

def label : Language Char :=
  oneOf Char.isAlphanum * ((oneOf HostName.isLabelCharacter)∗ * oneOf Char.isAlphanum + 1)

/-- The labels that may follow a label, each after a point. -/
def laterLabels : Language Char := ({['.']} * label)∗

/-- What may still be read of a sequence of labels. -/
def LabelState.language : LabelState → Language Char
  | .start => label * laterLabels
  | .letter =>
    (oneOf HostName.isLabelCharacter)∗ * (oneOf Char.isAlphanum * laterLabels) +
      {['.']} * (label * laterLabels)
  | .hyphen => (oneOf HostName.isLabelCharacter)∗ * (oneOf Char.isAlphanum * laterLabels)

lemma laterLabels_eq : laterLabels = 1 + {['.']} * LabelState.start.language := by
  conv_lhs => rw [laterLabels, ← Language.one_add_self_mul_kstar_eq_kstar, ← laterLabels]
  rw [mul_assoc]
  rfl

lemma mem_laterLabels {t : Text} :
    t ∈ laterLabels ↔ t = [] ∨ t ∈ ({['.']} : Language Char) * LabelState.start.language := by
  conv_lhs => rw [laterLabels_eq, Language.mem_add, Language.mem_one]

lemma start_language : LabelState.start.language =
    oneOf Char.isAlphanum * (LabelState.letter.language + 1) := by
  have hletter : LabelState.letter.language =
      LabelState.hyphen.language + {['.']} * LabelState.start.language := rfl
  calc LabelState.start.language
      = oneOf Char.isAlphanum * (LabelState.hyphen.language + laterLabels) := by
        rw [LabelState.language, label, mul_assoc, add_mul, one_mul, mul_assoc]
        rfl
    _ = oneOf Char.isAlphanum * (LabelState.letter.language + 1) := by
        rw [laterLabels_eq, hletter, add_assoc, add_comm 1]

lemma hyphen_language : LabelState.hyphen.language =
    oneOf Char.isAlphanum * laterLabels +
      oneOf HostName.isLabelCharacter * LabelState.hyphen.language := by
  conv_lhs => rw [LabelState.language, kstar_mul]
  rfl

lemma LabelState.nil_notMem (state : LabelState) : [] ∉ state.language := by
  have hhyphen : [] ∉ LabelState.hyphen.language := by
    rw [hyphen_language]
    rintro (h | h)
    · exact nil_notMem_oneOf_mul h
    · exact nil_notMem_oneOf_mul h
  cases state with
  | start =>
    rw [start_language]
    exact nil_notMem_oneOf_mul
  | letter =>
    rintro (h | h)
    · exact hhyphen h
    · exact nil_notMem_singleton_mul h
  | hyphen => exact hhyphen

lemma cons_mem_start {c : Char} {t : Text} :
    c :: t ∈ LabelState.start.language ↔
      c.isAlphanum = true ∧ (t ∈ LabelState.letter.language ∨ t = []) := by
  rw [start_language, cons_mem_oneOf_mul, Language.mem_add, Language.mem_one]

lemma cons_mem_hyphen {c : Char} {t : Text} :
    c :: t ∈ LabelState.hyphen.language ↔
      (c.isAlphanum = true ∧ t ∈ laterLabels) ∨
      (HostName.isLabelCharacter c = true ∧ t ∈ LabelState.hyphen.language) := by
  rw [hyphen_language, Language.mem_add, cons_mem_oneOf_mul, cons_mem_oneOf_mul, ← hyphen_language]

lemma mem_letter {t : Text} :
    t ∈ LabelState.letter.language ↔
      t ∈ LabelState.hyphen.language ∨
      t ∈ ({['.']} : Language Char) * LabelState.start.language := Iff.rfl

lemma cons_mem_of_isAlphanum {state : LabelState} {c : Char} (hc : c.isAlphanum = true)
    {t : Text} :
    c :: t ∈ state.language ↔ t ∈ LabelState.letter.language ∨ t = [] := by
  have hpoint : c ≠ '.' := by
    rintro rfl
    simp at hc
  have hhyphen : c :: t ∈ LabelState.hyphen.language ↔
      t ∈ LabelState.letter.language ∨ t = [] := by
    rw [cons_mem_hyphen, mem_laterLabels, mem_letter]
    simp only [hc, HostName.isLabelCharacter, Bool.true_or, true_and]
    tauto
  cases state with
  | start => simp [cons_mem_start, hc]
  | letter => rw [mem_letter, cons_mem_singleton_mul, hhyphen]; simp [hpoint]
  | hyphen => exact hhyphen

lemma hyphen_cons_mem {state : LabelState} (hstate : state ≠ .start) {t : Text} :
    '-' :: t ∈ state.language ↔ t ∈ LabelState.hyphen.language := by
  have hhyphen : '-' :: t ∈ LabelState.hyphen.language ↔ t ∈ LabelState.hyphen.language := by
    simp [cons_mem_hyphen, HostName.isLabelCharacter, show Char.isAlphanum '-' = false by decide]
  cases state with
  | start => contradiction
  | letter => rw [mem_letter, cons_mem_singleton_mul, hhyphen]; simp
  | hyphen => exact hhyphen

lemma mem_labelsFrom_iff {found : List Text} {state : LabelState} {t rest : Text} :
    rest ∈ labelsFrom found state t ↔
      (∃ piece ∈ state.language, piece ++ rest = t) ∨ rest ∈ found := by
  induction t generalizing found state with
  | nil => exact (or_iff_right (exists_piece_nil state.nil_notMem)).symm
  | cons c t ih =>
    rw [labelsFrom, exists_piece_cons state.nil_notMem]
    split
    · next hc =>
      rw [ih, List.mem_cons, ← or_assoc]
      simp only [cons_mem_of_isAlphanum hc]
      grind
    · next hc =>
      split
      · next h =>
        obtain ⟨rfl, hstate⟩ := h
        simp only [ih, hyphen_cons_mem hstate]
      · next hhyphen =>
        split
        · next h =>
          obtain ⟨rfl, rfl⟩ := h
          simp [ih, mem_letter, cons_mem_hyphen, cons_mem_singleton_mul, HostName.isLabelCharacter]
        · next hpoint =>
          refine (or_iff_right ?_).symm
          rintro ⟨piece, hpiece, -⟩
          cases state <;>
            simp_all [cons_mem_start, mem_letter, cons_mem_hyphen, cons_mem_singleton_mul,
              HostName.isLabelCharacter]

lemma takes_labels : labels.Takes LabelState.start.language := by
  intro t rest
  rw [labels, mem_labelsFrom_iff]
  simp

/-! ## Structured data -/

def escapedCharacter : Language Char := {['\\']} * oneOf fun _ => true

/-- What stands between the quotes of a value; quotes and backslashes in it are escaped. -/
def valueCharacters : Language Char := (oneOf (fun c => c != '"' && c != '\\') + escapedCharacter)∗

def quotedValue : Language Char := {['"']} * (valueCharacters * {['"']})

/-- What stands between the brackets of an element. -/
def elementCharacters : Language Char :=
  (oneOf (fun c => c != ']' && c != '\\' && c != '"') + escapedCharacter + quotedValue)∗

def dataElement : Language Char := {['[']} * (elementCharacters * {[']']})

/-- What may still be read of a sequence of elements. -/
def ElementState.language : ElementState → Language Char
  | .between => dataElement * dataElement∗
  | .element => elementCharacters * ({[']']} * dataElement∗)
  | .quoted => valueCharacters * ({['"']} * (elementCharacters * ({[']']} * dataElement∗)))

lemma cons_mem_escaped_mul {l : Language Char} {c : Char} {t : Text} :
    c :: t ∈ escapedCharacter * l ↔ c = '\\' ∧ ∃ d s, t = d :: s ∧ s ∈ l := by
  rw [escapedCharacter, mul_assoc, cons_mem_singleton_mul]
  cases t with
  | nil => simp [nil_notMem_oneOf_mul]
  | cons d t => simp [cons_mem_oneOf_mul]

lemma cons_mem_between {c : Char} {t : Text} :
    c :: t ∈ ElementState.between.language ↔ c = '[' ∧ t ∈ ElementState.element.language := by
  rw [ElementState.language, dataElement, mul_assoc, mul_assoc, cons_mem_singleton_mul]
  rfl

theorem element_language : ElementState.element.language =
    {[']']} * dataElement∗ +
      (oneOf (fun c => c != ']' && c != '\\' && c != '"') * ElementState.element.language +
        escapedCharacter * ElementState.element.language +
        {['"']} * ElementState.quoted.language) := by
  conv_lhs => rw [ElementState.language, elementCharacters, kstar_mul, ← elementCharacters]
  rw [add_mul, add_mul, quotedValue, mul_assoc, mul_assoc]
  rfl

lemma quoted_language : ElementState.quoted.language =
    {['"']} * ElementState.element.language +
      (oneOf (fun c => c != '"' && c != '\\') * ElementState.quoted.language +
        escapedCharacter * ElementState.quoted.language) := by
  conv_lhs => rw [ElementState.language, valueCharacters, kstar_mul, ← valueCharacters]
  rw [add_mul]
  rfl

lemma cons_mem_element {c : Char} {t : Text} :
    c :: t ∈ ElementState.element.language ↔
      (c = ']' ∧ t ∈ dataElement∗) ∨
      ((c != ']' && c != '\\' && c != '"') = true ∧ t ∈ ElementState.element.language) ∨
      (c = '\\' ∧ ∃ d s, t = d :: s ∧ s ∈ ElementState.element.language) ∨
      (c = '"' ∧ t ∈ ElementState.quoted.language) := by
  rw [element_language, Language.mem_add, Language.mem_add, Language.mem_add, or_assoc,
    cons_mem_singleton_mul, cons_mem_oneOf_mul, cons_mem_escaped_mul, cons_mem_singleton_mul,
    ← element_language]

lemma cons_mem_quoted {c : Char} {t : Text} :
    c :: t ∈ ElementState.quoted.language ↔
      (c = '"' ∧ t ∈ ElementState.element.language) ∨
      ((c != '"' && c != '\\') = true ∧ t ∈ ElementState.quoted.language) ∨
      (c = '\\' ∧ ∃ d s, t = d :: s ∧ s ∈ ElementState.quoted.language) := by
  rw [quoted_language, Language.mem_add, Language.mem_add, cons_mem_singleton_mul,
    cons_mem_oneOf_mul, cons_mem_escaped_mul, ← quoted_language]

lemma ElementState.nil_notMem (state : ElementState) : [] ∉ state.language := by
  cases state with
  | between =>
    rw [ElementState.language, dataElement, mul_assoc]
    exact nil_notMem_singleton_mul
  | element =>
    rw [element_language, escapedCharacter, mul_assoc]
    rintro (h | (h | h) | h)
    · exact nil_notMem_singleton_mul h
    · exact nil_notMem_oneOf_mul h
    · exact nil_notMem_singleton_mul h
    · exact nil_notMem_singleton_mul h
  | quoted =>
    rw [quoted_language, escapedCharacter, mul_assoc]
    rintro (h | h | h)
    · exact nil_notMem_singleton_mul h
    · exact nil_notMem_oneOf_mul h
    · exact nil_notMem_singleton_mul h

lemma mem_dataElements {t : Text} :
    t ∈ dataElement∗ ↔ t = [] ∨ t ∈ ElementState.between.language := by
  rw [← Language.one_add_self_mul_kstar_eq_kstar, Language.mem_add, Language.mem_one]
  rfl

lemma exists_piece_bracket {t rest : Text} :
    (∃ piece ∈ ElementState.element.language, piece ++ rest = ']' :: t) ↔
      (∃ piece ∈ ElementState.between.language, piece ++ rest = t) ∨ rest = t := by
  simp only [exists_piece_cons (ElementState.nil_notMem _), cons_mem_element, mem_dataElements]
  constructor
  · rintro ⟨piece, h, rfl⟩
    simp only [true_and] at h
    rcases h with (rfl | h) | ⟨h, -⟩ | ⟨h, -⟩ | ⟨h, -⟩
    · exact .inr rfl
    · exact .inl ⟨piece, h, rfl⟩
    all_goals simp at h
  · rintro (⟨piece, h, rfl⟩ | rfl)
    · exact ⟨piece, .inl ⟨trivial, .inr h⟩, rfl⟩
    · exact ⟨[], .inl ⟨trivial, .inl rfl⟩, rfl⟩

lemma exists_piece_escape {state : ElementState} (hstate : state ≠ .between) {c : Char}
    {t rest : Text} :
    (∃ piece ∈ state.language, piece ++ rest = '\\' :: c :: t) ↔
      ∃ piece ∈ state.language, piece ++ rest = t := by
  rw [exists_piece_cons state.nil_notMem]
  have hiff : ∀ piece, '\\' :: piece ∈ state.language ↔
      ∃ d s, piece = d :: s ∧ s ∈ state.language := by
    cases state with
    | between => contradiction
    | element => simp [cons_mem_element]
    | quoted => simp [cons_mem_quoted]
  simp only [hiff]
  constructor
  · rintro ⟨_, ⟨d, s, rfl, hs⟩, h⟩
    exact ⟨s, hs, (List.cons.inj h).2⟩
  · rintro ⟨s, hs, rfl⟩
    exact ⟨c :: s, ⟨c, s, rfl, hs⟩, rfl⟩

lemma mem_elementsFrom_iff {found : List Text} {state : ElementState} {t rest : Text} :
    rest ∈ elementsFrom found state t ↔
      (∃ piece ∈ state.language, piece ++ rest = t) ∨ rest ∈ found := by
  fun_induction elementsFrom found state t with
  | case1 found t ih => simp [ih, exists_piece_cons (ElementState.nil_notMem _), cons_mem_between]
  | case2 t found ht =>
    cases t with
    | nil => exact (or_iff_right (exists_piece_nil (ElementState.nil_notMem _))).symm
    | cons c t =>
      have hc : c ≠ '[' := fun hc => ht t (by rw [hc])
      simp [exists_piece_cons (ElementState.nil_notMem _), cons_mem_between, hc]
  | case3 found state => exact (or_iff_right (exists_piece_nil (ElementState.nil_notMem _))).symm
  | case4 found state hstate =>
    refine (or_iff_right ?_).symm
    rw [exists_piece_cons state.nil_notMem]
    rintro ⟨piece, hpiece, h⟩
    obtain ⟨rfl, rfl⟩ := List.append_eq_nil_iff.1 h
    cases state with
    | between => contradiction
    | element => simp [cons_mem_element] at hpiece
    | quoted => simp [cons_mem_quoted] at hpiece
  | case5 found state c t hstate ih => rw [ih, exists_piece_escape hstate]
  | case6 found t ih => simp [ih, exists_piece_cons (ElementState.nil_notMem _), cons_mem_element]
  | case7 found t ih => simp [ih, exists_piece_cons (ElementState.nil_notMem _), cons_mem_quoted]
  | case8 found t ih => rw [ih, exists_piece_bracket, List.mem_cons, or_assoc]
  | case9 found state c t h1 h2 h3 h4 h5 h6 h7 ih =>
    have hc : c ≠ '\\' := by
      rintro rfl
      cases t with
      | nil => exact h3 rfl rfl
      | cons d t => exact h4 d t rfl rfl
    rw [ih, exists_piece_cons state.nil_notMem]
    cases state with
    | between => contradiction
    | element =>
      have hquote : c ≠ '"' := h5 rfl
      have hbracket : c ≠ ']' := h7 rfl
      simp [cons_mem_element, hc, hquote, hbracket]
    | quoted =>
      have hquote : c ≠ '"' := h6 rfl
      simp [cons_mem_quoted, hc, hquote]

lemma takes_elements : elements.Takes (dataElement * dataElement∗) := by
  intro t rest
  rw [elements, mem_elementsFrom_iff]
  simp [ElementState.language]

/-! ## Tokens -/

def pairOfDigits : Language Char := oneOf isDecimalDigit ^ 2

def octets : Language Char := oneOf isDecimalDigit * atMost isDecimalDigit 2

def addresses : Language Char := (octets * {['.']}) ^ 3 * octets

def timesOfDay : Language Char := pairOfDigits * {[':']} * pairOfDigits * {[':']} * pairOfDigits

def signs : Language Char := oneOf fun c => c == '+' || c == '-'

/-- A Z, or a sign, two digits and two digits, with or without a colon between them. -/
def offsets : Language Char := {['Z']} + signs * pairOfDigits * ({[':']} + 1) * pairOfDigits

def timestamps : Language Char :=
  oneOf isDecimalDigit ^ 4 * {['-']} * pairOfDigits * {['-']} * pairOfDigits * {['T']} *
    timesOfDay * ({['.']} * runOf isDecimalDigit + 1) * (offsets + 1)

def monthNames : Language Char := {t | t.map foldCase ∈ monthSpellings}

/-- The values that a type of token asks for. -/
def language : Token → Language Char
  | int => (signs + 1) * runOf isDecimalDigit
  | posint => runOf isDecimalDigit
  | word => runOf isWordCharacter
  | nospace => runOf fun c => !isBlank c
  | data | string | greedyData => (oneOf fun _ => true)∗
  | month => monthNames
  | hostName => label * laterLabels
  | ipv4 => addresses
  | ipOrHost => addresses + label * laterLabels
  | time => timesOfDay
  | timeZone => oneOf Char.isUpper ^ 3
  | offset => offsets
  | fraction => runOf isDecimalDigit * ({['Z']} + 1)
  | timestamp => timestamps
  | structuredData => {['-']} + dataElement * dataElement∗

lemma takes_anyCase (spelling : Text) :
    (anyCase spelling).Takes {t | t.map foldCase = spelling} := by
  intro t rest
  rw [anyCase]
  constructor
  · intro h
    split at h
    · next heq =>
      rw [List.mem_singleton.1 h]
      exact ⟨t.take spelling.length, heq, List.take_append_drop _ t⟩
    · simp at h
  · rintro ⟨piece, hpiece, rfl⟩
    have hlength : spelling.length = piece.length := by
      rw [← (show piece.map foldCase = spelling from hpiece), List.length_map]
    rw [hlength, List.take_left', List.drop_left']
    · exact if_pos hpiece ▸ List.mem_singleton.2 rfl
    · rfl
    · rfl

lemma takes_monthNames :
    Takes (fun t => monthSpellings.flatMap fun spelling => anyCase spelling t) monthNames := by
  intro t rest
  rw [List.mem_flatMap]
  constructor
  · rintro ⟨spelling, hspelling, h⟩
    obtain ⟨piece, hpiece, rfl⟩ := (takes_anyCase spelling t rest).1 h
    have hpiece : piece.map foldCase = spelling := hpiece
    rw [← hpiece] at hspelling
    exact ⟨piece, hspelling, rfl⟩
  · rintro ⟨piece, hpiece, rfl⟩
    exact ⟨_, hpiece, (takes_anyCase _ _ _).2 ⟨piece, rfl, rfl⟩⟩

lemma takes_char (c : Char) : (char c).Takes {[c]} := takes_literal [c]

lemma takes_twoDigits : twoDigits.Takes pairOfDigits := by
  rw [pairOfDigits, pow_two]
  exact (takes_one _).andThen (takes_one _)

lemma takes_octet : octet.Takes octets := (takes_one _).andThen (takes_upTo _ 2)

lemma takes_address : address.Takes addresses := by
  have hdot := takes_char '.'
  have h := takes_octet.sequence_cons <| hdot.sequence_cons <| takes_octet.sequence_cons <|
    hdot.sequence_cons <| takes_octet.sequence_cons <| hdot.sequence_cons <|
    takes_octet.sequence_cons takes_sequence_nil
  simpa only [address, addresses, pow_succ, pow_zero, one_mul, mul_one, mul_assoc] using h

lemma takes_timeOfDay : timeOfDay.Takes timesOfDay := by
  have hcolon := takes_char ':'
  have h := takes_twoDigits.sequence_cons <| hcolon.sequence_cons <|
    takes_twoDigits.sequence_cons <| hcolon.sequence_cons <|
    takes_twoDigits.sequence_cons takes_sequence_nil
  simpa only [timeOfDay, timesOfDay, mul_one, mul_assoc] using h

lemma takes_sign : sign.Takes signs := takes_one _

lemma takes_zoneOffset : zoneOffset.Takes offsets := by
  refine (takes_char 'Z').orElse ?_
  have h := takes_sign.sequence_cons <| takes_twoDigits.sequence_cons <|
    (takes_char ':').optional.sequence_cons <| takes_twoDigits.sequence_cons takes_sequence_nil
  simpa only [mul_one, mul_assoc] using h

lemma takes_dateAndTime : dateAndTime.Takes timestamps := by
  have hfour : pairOfDigits * pairOfDigits = oneOf isDecimalDigit ^ 4 := by
    rw [pairOfDigits, ← pow_add]
  have hfraction := ((takes_char '.').andThen (takes_some isDecimalDigit)).optional
  have h := takes_twoDigits.sequence_cons <| takes_twoDigits.sequence_cons <|
    (takes_char '-').sequence_cons <| takes_twoDigits.sequence_cons <|
    (takes_char '-').sequence_cons <| takes_twoDigits.sequence_cons <|
    (takes_char 'T').sequence_cons <| takes_timeOfDay.sequence_cons <|
    hfraction.sequence_cons <| takes_zoneOffset.optional.sequence_cons takes_sequence_nil
  rw [← mul_assoc pairOfDigits pairOfDigits, hfour] at h
  simpa only [dateAndTime, timestamps, mul_one, mul_assoc] using h

/-- The reader of a token finds exactly the values of its type. -/
theorem takes_reader (token : Token) : token.reader.Takes token.language := by
  cases token with
  | int => exact takes_sign.optional.andThen (takes_some _)
  | posint => exact takes_some _
  | word => exact takes_some _
  | nospace => exact takes_some _
  | data => exact takes_fewest
  | string => exact takes_many _
  | greedyData => exact takes_many _
  | month => exact takes_monthNames
  | hostName => exact takes_labels
  | ipv4 => exact takes_address
  | ipOrHost => exact takes_address.orElse takes_labels
  | time => exact takes_timeOfDay
  | timeZone => exact takes_exactly 3 _
  | offset => exact takes_zoneOffset
  | fraction => exact (takes_some _).andThen (takes_char 'Z').optional
  | timestamp => exact takes_dateAndTime
  | structuredData => exact (takes_char '-').orElse takes_elements

lemma mem_language_iff {token : Token} {t : Text} :
    t ∈ token.language ↔ [] ∈ token.reader t := by
  rw [takes_reader]
  simp

instance (token : Token) (t : Text) : Decidable (t ∈ token.language) :=
  decidable_of_iff' _ mem_language_iff

end Syslog.Token
