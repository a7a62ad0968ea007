import Syslog.Proofs.Grammar.Scanning

/-!
# Faults of written grammars

A text is that of a grammar if every token that its scan finds is closed and sound; otherwise its
fault is that of the first token that is not. Offsets count the bytes of the whole text, whatever
stands before the token.
-/
namespace Syslog.Grammar
open Text

def WrittenToken.field? (token : WrittenToken) : Option String := token.name?.map String.ofList

def names (tokens : List WrittenToken) : List String := tokens.filterMap WrittenToken.field?

def IsFieldName (t : Text) : Prop :=
  ∃ c rest, t = c :: rest ∧ (c.isAlpha = true ∨ c = '_') ∧
    ∀ d ∈ rest, d.isAlphanum = true ∨ d = '_'

def IsTypeName (t : Text) : Prop := ∃ type : Token, ofString type.name = t

/-- A token of a known type, whose name is a new identifier if it has one. -/
structure WrittenToken.Sound (taken : List String) (token : WrittenToken) : Prop where
  known : IsTypeName token.typeName
  identifier : ∀ name ∈ token.name?, IsFieldName name
  new : ∀ field ∈ token.field?, field ∉ taken

/-- What is at fault with a token: an unknown type, or else the form of its name, or else that the
name is taken. -/
inductive WrittenToken.Offends (taken : List String) (token : WrittenToken) : Fault → Prop
  | type (unknown : ¬ IsTypeName token.typeName) :
      Offends taken token (.unknownType token.typeName)
  | name {name : Text} (known : IsTypeName token.typeName) (named : token.name? = some name)
      (invalid : ¬ IsFieldName name) : Offends taken token (.invalidFieldName name)
  | repetition {name : Text} (known : IsTypeName token.typeName) (named : token.name? = some name)
      (identifier : IsFieldName name) (repeated : String.ofList name ∈ taken) :
      Offends taken token (.duplicateField name)

def SoundAfter (taken : List String) (tokens : List WrittenToken) : Prop :=
  ∀ earlier token later, tokens = earlier ++ token :: later →
    token.Sound (taken ++ names earlier)

namespace Scan

structure Sound (scan : Scan) : Prop where
  tokens : SoundAfter [] scan.tokens
  ending : ∃ rest free, scan.ending = .plain rest free

/-- The fault of the first token that is not sound, or of the one that is not closed after sound
ones; its offset is the length of all that stands before it. -/
inductive FirstFault (scan : Scan) : Fault → Prop
  | token {earlier later : List WrittenToken} {token : WrittenToken} {fault : Fault}
      (split : scan.tokens = earlier ++ token :: later) (sound : SoundAfter [] earlier)
      (offends : token.Offends (names earlier) fault) : FirstFault scan fault
  | unterminated {before after : Text} {free : ¬ tokenStart <:+: before} {unclosed : '\x7d' ∉ after}
      (sound : SoundAfter [] scan.tokens)
      (ending : scan.ending = .unterminated before after free unclosed) :
      FirstFault scan (.unterminatedToken (byteLength (front scan.tokens ++ before)))

end Scan

/-! ## One token -/

lemma isIdentifier_iff {t : Text} : isIdentifier t = true ↔ IsFieldName t := by
  cases t with
  | nil => simp [isIdentifier, IsFieldName]
  | cons c t =>
    have halnum : c.isAlpha = true → c.isAlphanum = true := isAlphanum_of_isAlpha
    simp only [isIdentifier, IsFieldName, List.head?_cons, Option.any_some, List.all_cons,
      Bool.and_eq_true, Bool.or_eq_true, beq_iff_eq, List.all_eq_true, List.cons.injEq]
    constructor
    · rintro ⟨hc, -, ht⟩
      exact ⟨c, t, ⟨rfl, rfl⟩, hc, ht⟩
    · rintro ⟨_, _, ⟨rfl, rfl⟩, hc, ht⟩
      exact ⟨hc, hc.imp_left halnum, ht⟩

lemma ofName?_eq_none_iff {t : Text} : Token.ofName? t = none ↔ ¬ IsTypeName t := by
  have hall : ∀ type : Token, type ∈ Token.all := by intro type; cases type <;> decide
  rw [Token.ofName?, List.find?_eq_none]
  constructor
  · rintro h ⟨type, rfl⟩
    exact h type (hall type) (by simp [ofString])
  · intro h type _ hname
    refine h ⟨type, ?_⟩
    rw [beq_iff_eq.1 hname, ofString, String.toList_ofList]

lemma exists_ofName? {t : Text} (h : IsTypeName t) : ∃ type, Token.ofName? t = some type :=
  Option.ne_none_iff_exists'.1 fun hnone => ofName?_eq_none_iff.1 hnone h

namespace WrittenToken

variable {taken : List String} {token : WrittenToken}

theorem readToken_body (taken : List String) (token : WrittenToken) :
    readToken taken token.body =
      match Token.ofName? token.typeName with
      | none => .error (.unknownType token.typeName)
      | some type =>
        match token.name? with
        | none => .ok (.token type none)
        | some name =>
          if !isIdentifier name then .error (.invalidFieldName name)
          else if taken.contains (String.ofList name) then .error (.duplicateField name)
          else .ok (.token type (some (String.ofList name))) := by
  rw [readToken, List.span_eq_takeWhile_dropWhile, body,
    takeWhile_append token.typeName_run token.stops_colonAndName,
    dropWhile_append token.typeName_run token.stops_colonAndName, colonAndName]
  dsimp only
  cases Token.ofName? token.typeName with
  | none => rfl
  | some type => cases token.name? <;> rfl

lemma Sound.exists_readToken (h : token.Sound taken) :
    ∃ type, readToken taken token.body = .ok (.token type token.field?) := by
  obtain ⟨type, htype⟩ := exists_ofName? h.known
  have hidentifier := h.identifier
  have hnew := h.new
  refine ⟨type, ?_⟩
  rw [readToken_body, htype]
  rw [field?] at hnew ⊢
  cases hname : token.name? with
  | none => rfl
  | some name =>
    rw [hname] at hidentifier hnew
    have hfresh : String.ofList name ∉ taken := hnew _ rfl
    simp [isIdentifier_iff.2 (hidentifier name rfl), hfresh]

lemma Offends.readToken_eq {fault : Fault} (h : token.Offends taken fault) :
    readToken taken token.body = .error fault := by
  rw [readToken_body]
  cases h with
  | type unknown => rw [ofName?_eq_none_iff.2 unknown]
  | @name name known named invalid =>
    obtain ⟨type, htype⟩ := exists_ofName? known
    have hname : isIdentifier name = false := by rwa [← Bool.not_eq_true, isIdentifier_iff]
    simp [htype, named, hname]
  | @repetition name known named identifier repeated =>
    obtain ⟨type, htype⟩ := exists_ofName? known
    simp [htype, named, isIdentifier_iff.2 identifier, repeated]

lemma sound_or_offends (taken : List String) (token : WrittenToken) :
    token.Sound taken ∨ ∃ fault, token.Offends taken fault := by
  by_cases hknown : IsTypeName token.typeName
  · cases hname : token.name? with
    | none => exact .inl ⟨hknown, by simp [hname], by simp [field?, hname]⟩
    | some name =>
      by_cases hidentifier : IsFieldName name
      · by_cases hrepeated : String.ofList name ∈ taken
        · exact .inr ⟨_, .repetition hknown hname hidentifier hrepeated⟩
        · exact .inl ⟨hknown, by simpa [hname], by simpa [field?, hname]⟩
      · exact .inr ⟨_, .name hknown hname hidentifier⟩
  · exact .inr ⟨_, .type hknown⟩

lemma byteLength_text (token : WrittenToken) :
    byteLength token.text = byteLength token.before + 3 + byteLength token.body := by
  have hstart : byteLength tokenStart = 2 := by decide
  have hend : byteLength tokenEnd = 1 := by decide
  simp only [text, byteLength_append, hstart, hend]
  omega

theorem readSegments_append (token : WrittenToken) (offset : ℕ) (taken : List String)
    (rest : Text) :
    readSegments offset taken (token.text ++ rest) = (do
      let segment ← readToken taken token.body
      let later ← readSegments (offset + byteLength token.text)
        (taken ++ segment.field?.toList) rest
      return Segment.ofLiteral token.before ++ segment :: later) := by
  have hstart := token.breakAt?_text rest
  have hend := token.breakAt?_body rest
  have hoffset : offset + byteLength token.text =
      offset + byteLength token.before + 3 + byteLength token.body := by
    rw [byteLength_text]
    omega
  rw [readSegments, hoffset]
  split
  · next hnone =>
    rw [hstart] at hnone
    cases hnone
  · next before after hsome =>
    obtain ⟨rfl, rfl⟩ := Prod.mk.inj (Option.some.inj (hstart.symm.trans hsome))
    split
    · next hnone =>
      rw [hend] at hnone
      cases hnone
    · next body rest hsome =>
      obtain ⟨rfl, rfl⟩ := Prod.mk.inj (Option.some.inj (hend.symm.trans hsome))
      rfl

end WrittenToken

/-! ## Texts of tokens -/

lemma front_append (first second : List WrittenToken) :
    front (first ++ second) = front first ++ front second := by simp [front]

lemma names_cons (token : WrittenToken) (tokens : List WrittenToken) :
    names (token :: tokens) = token.field?.toList ++ names tokens := by
  rw [names, List.filterMap_cons]
  cases token.field? <;> rfl

lemma soundAfter_nil (taken : List String) : SoundAfter taken [] := by simp [SoundAfter]

lemma soundAfter_cons {taken : List String} {token : WrittenToken} {tokens : List WrittenToken} :
    SoundAfter taken (token :: tokens) ↔
      token.Sound taken ∧ SoundAfter (taken ++ token.field?.toList) tokens := by
  constructor
  · intro h
    refine ⟨by simpa [names] using h [] token tokens rfl, fun earlier other later hsplit => ?_⟩
    have hother := h (token :: earlier) other later (by rw [hsplit, List.cons_append])
    rwa [names_cons, ← List.append_assoc] at hother
  · rintro ⟨htoken, htokens⟩ earlier other later hsplit
    cases earlier with
    | nil =>
      obtain ⟨rfl, rfl⟩ := List.cons.inj hsplit
      simpa [names] using htoken
    | cons first earlier =>
      obtain ⟨rfl, htail⟩ := List.cons.inj hsplit
      rw [names_cons, ← List.append_assoc]
      exact htokens earlier other later htail

/-- Sound tokens are read to their names, and what follows them is read after their text. -/
theorem exists_readSegments_front {taken : List String} {tokens : List WrittenToken}
    (h : SoundAfter taken tokens) (offset : ℕ) (rest : Text) :
    ∃ segments : List Segment, segments.filterMap Segment.field? = names tokens ∧
      readSegments offset taken (front tokens ++ rest) =
        (readSegments (offset + byteLength (front tokens)) (taken ++ names tokens) rest).map
          (segments ++ ·) := by
  -- the offset and the names taken grow with every token that is read
  induction tokens generalizing taken offset with
  | nil =>
    refine ⟨[], rfl, ?_⟩
    simp only [front, names, List.map_nil, List.flatten_nil, List.filterMap_nil, List.append_nil,
      List.nil_append, byteLength_nil, Nat.add_zero]
    cases readSegments offset taken rest <;> rfl
  | cons token tokens ih =>
    obtain ⟨htoken, htokens⟩ := soundAfter_cons.1 h
    obtain ⟨type, htype⟩ := htoken.exists_readToken
    obtain ⟨segments, hsegments, hread⟩ := ih htokens (offset + byteLength token.text)
    refine ⟨Segment.ofLiteral token.before ++ .token type token.field? :: segments, ?_, ?_⟩
    · rw [List.filterMap_append, Segment.filterMap_field?_ofLiteral, List.nil_append,
        Segment.filterMap_field?_token, hsegments, names_cons]
    · rw [front_cons, List.append_assoc, token.readSegments_append, htype, byteLength_append,
        names_cons, ← Nat.add_assoc, ← List.append_assoc taken]
      change (readSegments _ (taken ++ token.field?.toList) _ >>= _) = _
      rw [hread]
      cases readSegments (offset + byteLength token.text + byteLength (front tokens))
        (taken ++ token.field?.toList ++ names tokens) rest with
      | error fault => rfl
      | ok later =>
        change Except.ok _ = Except.ok _
        simp

lemma readSegments_unterminated {before after : Text} (hfree : ¬ tokenStart <:+: before)
    (hunclosed : '\x7d' ∉ after) (offset : ℕ) (taken : List String) :
    readSegments offset taken (before ++ tokenStart ++ after) =
      .error (.unterminatedToken (offset + byteLength before)) := by
  rw [readSegments]
  split
  · next hnone =>
    rw [breakAt?_tokenStart hfree] at hnone
    cases hnone
  · next hsome =>
    obtain ⟨rfl, rfl⟩ :=
      Prod.mk.inj (Option.some.inj ((breakAt?_tokenStart hfree).symm.trans hsome))
    split
    · rfl
    · next hsome => exact absurd (by simp [breakAt?_eq_some hsome, tokenEnd]) hunclosed

namespace Scan

variable {scan : Scan}

lemma Sound.exists_readSegments (h : scan.Sound) :
    ∃ segments, readSegments 0 [] scan.text = .ok segments ∧
      segments.filterMap Segment.field? = names scan.tokens := by
  obtain ⟨rest, hfree, hending⟩ := h.ending
  obtain ⟨segments, hsegments, hread⟩ := exists_readSegments_front h.tokens 0 rest
  refine ⟨segments ++ Segment.ofLiteral rest, ?_, ?_⟩
  · rw [text, hending, Ending.text, hread, readSegments_of_free hfree]
    rfl
  · rw [List.filterMap_append, hsegments, Segment.filterMap_field?_ofLiteral, List.append_nil]

lemma FirstFault.readSegments_eq {fault : Fault} (h : scan.FirstFault fault) :
    readSegments 0 [] scan.text = .error fault := by
  cases h with
  | @token earlier later token _ split sound offends =>
    obtain ⟨segments, -, hread⟩ :=
      exists_readSegments_front sound 0 (token.text ++ (front later ++ scan.ending.text))
    rw [text, split, front_append, front_cons, List.append_assoc, List.append_assoc, hread,
      token.readSegments_append, List.nil_append, offends.readToken_eq]
    rfl
  | @unterminated before after hfree hunclosed sound ending =>
    obtain ⟨segments, -, hread⟩ :=
      exists_readSegments_front sound 0 (before ++ tokenStart ++ after)
    rw [text, ending, Ending.text, hread, readSegments_unterminated hfree hunclosed,
      byteLength_append, Nat.zero_add]
    rfl

lemma soundAfter_or_offends (taken : List String) (tokens : List WrittenToken) :
    SoundAfter taken tokens ∨ ∃ earlier token later fault, tokens = earlier ++ token :: later ∧
      SoundAfter taken earlier ∧ token.Offends (taken ++ names earlier) fault := by
  induction tokens generalizing taken with
  | nil => exact .inl (soundAfter_nil taken)
  | cons token tokens ih =>
    rcases token.sound_or_offends taken with hsound | ⟨fault, hoffends⟩
    · rcases ih (taken ++ token.field?.toList) with
        htokens | ⟨earlier, other, later, fault, rfl, hearlier, hoffends⟩
      · exact .inl (soundAfter_cons.2 ⟨hsound, htokens⟩)
      · have hbefore := soundAfter_cons.2 ⟨hsound, hearlier⟩
        refine .inr ⟨token :: earlier, other, later, fault, rfl, hbefore, ?_⟩
        rwa [names_cons, ← List.append_assoc]
    · refine .inr ⟨[], token, tokens, fault, rfl, soundAfter_nil taken, ?_⟩
      simpa [names] using hoffends

lemma sound_or_firstFault (scan : Scan) : scan.Sound ∨ ∃ fault, scan.FirstFault fault := by
  rcases soundAfter_or_offends [] scan.tokens with
    hsound | ⟨earlier, token, later, fault, hsplit, hearlier, hoffends⟩
  · cases hending : scan.ending with
    | plain rest hfree => exact .inl ⟨hsound, rest, hfree, hending⟩
    | unterminated before after hfree hunclosed => exact .inr ⟨_, .unterminated hsound hending⟩
  · exact .inr ⟨fault, .token hsplit hearlier hoffends⟩

end Scan

/-! ## What comes of a text -/

lemma Scan.Sound.exists_ofText {scan : Scan} (h : scan.Sound) (index : ℕ) :
    ∃ grammar, ofText index scan.text = .ok grammar ∧ grammar.fields = names scan.tokens ∧
      grammar.fields.Nodup := by
  obtain ⟨segments, hread, hnames⟩ := h.exists_readSegments
  exact ⟨_, ofText_of_readSegments hread index, hnames,
    (spelledBy_of_readSegments hread).1.distinct⟩

lemma Scan.FirstFault.ofText_eq {scan : Scan} {fault : Fault} (h : scan.FirstFault fault)
    (index : ℕ) : ofText index scan.text = .error fault := by
  rw [ofText_eq_map, h.readSegments_eq]
  rfl

/-- A text is that of a grammar if and only if its one scan is sound. The fields of the grammar are
the names of the tokens in their order, none twice. Otherwise the fault is the first of the scan. -/
theorem ofText_scanned (index : ℕ) (t : Text) :
    ∃ scan : Scan, (∀ other : Scan, other.text = t ↔ other = scan) ∧
      ((∃ grammar, ofText index t = .ok grammar) ↔ scan.Sound) ∧
      (∀ fields, (ofText index t).map Grammar.fields = .ok fields ↔
        scan.Sound ∧ fields = names scan.tokens ∧ fields.Nodup) ∧
      ∀ fault, ofText index t = .error fault ↔ scan.FirstFault fault := by
  obtain ⟨scan, rfl⟩ := exists_scan t
  refine ⟨scan, fun other => Scan.text_injective.eq_iff, ?_⟩
  rcases scan.sound_or_firstFault with hsound | ⟨fault, hfault⟩
  · obtain ⟨grammar, hgrammar, hfields, hdistinct⟩ := hsound.exists_ofText index
    have hfaultless : ∀ fault, ¬ scan.FirstFault fault := by
      intro fault hfault
      rw [hfault.ofText_eq index] at hgrammar
      cases hgrammar
    have hiff : ∀ fields, grammar.fields = fields ↔ fields = names scan.tokens ∧ fields.Nodup := by
      intro fields
      constructor
      · rintro rfl
        exact ⟨hfields, hdistinct⟩
      · rintro ⟨rfl, -⟩
        exact hfields
    rw [hgrammar]
    simp [Except.map, hsound, hfaultless, hiff]
  · have hunsound : ¬ scan.Sound := by
      intro hsound
      obtain ⟨grammar, hgrammar, -⟩ := hsound.exists_ofText index
      rw [hfault.ofText_eq index] at hgrammar
      cases hgrammar
    have hiff : ∀ other, fault = other ↔ scan.FirstFault other := by
      intro other
      constructor
      · rintro rfl
        exact hfault
      · intro hother
        exact Except.error.inj ((hfault.ofText_eq index).symm.trans (hother.ofText_eq index))
    rw [hfault.ofText_eq index]
    simp [Except.map, hunsound, hiff]

/-- Two of the fourteen characters before the token without an end take two bytes. -/
example : ofText 0 (ofString "é %\x7bWORD:a\x7d ü %\x7bINT:a") =
    .error (.unterminatedToken 16) := by decide +kernel

end Syslog.Grammar
