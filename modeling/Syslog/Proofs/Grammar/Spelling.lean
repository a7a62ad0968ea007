import Mathlib.Data.List.SplitBy
import Syslog.Grammar.Written
import Syslog.Proofs.Grammar.Solid

/-!
# Spelling of grammars

The text of a grammar is spelled by its segments: literals by themselves, blanks by any run of them,
tokens by their types and fields in braces. The runs are maximal, no literal holds the start of a
token, and no field is named twice.
-/
namespace Syslog
open Text

namespace Segment

inductive Spelled : Segment → Text → Prop
  | literal {t : Text} (solid : IsSolid t) (ne_nil : t ≠ [])
      (plain : ¬ Grammar.tokenStart <:+: t) : Spelled (.literal t) t
  | blanks {t : Text} (blank : ∀ c ∈ t, isBlank c = true) (ne_nil : t ≠ []) : Spelled .blanks t
  | token (type : Token) :
      Spelled (.token type none) (Grammar.tokenStart ++ ofString type.name ++ Grammar.tokenEnd)
  | field (type : Token) {name : Text} (identifier : Grammar.isIdentifier name = true) :
      Spelled (.token type (some (String.ofList name)))
        (Grammar.tokenStart ++ (ofString type.name ++ ':' :: name) ++ Grammar.tokenEnd)

/-- Two segments that are not one run: not both literals and not both blanks. -/
def MayFollow : Segment → Segment → Prop
  | literal _, literal _ => False
  | blanks, blanks => False
  | _, _ => True

def ofRun (run : Text) : Segment := if run.all isBlank then blanks else literal run

lemma ofLiteral_eq (t : Text) :
    ofLiteral t = (t.splitBy fun a b => isBlank a == isBlank b).map ofRun := rfl

structure IsRun (run : Text) : Prop where
  ne_nil : run ≠ []
  uniform : IsSolid run ∨ ∀ c ∈ run, isBlank c = true

theorem isRun_of_isChain {run : Text} (hne : run ≠ [])
    (h : run.IsChain fun a b => (isBlank a == isBlank b) = true) : IsRun run := by
  refine ⟨hne, ?_⟩
  induction run with
  | nil => contradiction
  | cons c run ih =>
    cases run with
    | nil => cases hc : isBlank c <;> simp [hc]
    | cons d run =>
      obtain ⟨hsame, hchain⟩ := List.isChain_cons_cons.1 h
      have hsame : isBlank c = isBlank d := beq_iff_eq.1 hsame
      rcases ih (List.cons_ne_nil d run) hchain with hsolid | hblank
      · exact .inl (isSolid_cons.2 ⟨hsame.trans (hsolid d (by simp)), hsolid⟩)
      · refine .inr fun e he => ?_
        rcases List.mem_cons.1 he with rfl | he
        · exact hsame.trans (hblank d (by simp))
        · exact hblank e he

lemma isRun_of_mem_splitBy {run t : Text}
    (h : run ∈ t.splitBy fun a b => isBlank a == isBlank b) : IsRun run :=
  isRun_of_isChain (List.ne_nil_of_mem_splitBy h) (List.isChain_of_mem_splitBy h)

lemma ofRun_of_blank {run : Text} (h : ∀ c ∈ run, isBlank c = true) : ofRun run = blanks :=
  if_pos (List.all_eq_true.2 h)

lemma ofRun_of_solid {run : Text} (hne : run ≠ []) (h : IsSolid run) :
    ofRun run = literal run := by
  refine if_neg fun hall => ?_
  obtain ⟨c, rest, rfl⟩ := List.exists_cons_of_ne_nil hne
  have hblank := List.all_eq_true.1 hall c (by simp)
  rw [h c (by simp)] at hblank
  cases hblank

lemma IsRun.spelled {run : Text} (h : IsRun run) (hplain : ¬ Grammar.tokenStart <:+: run) :
    Spelled (ofRun run) run := by
  rcases h.uniform with hsolid | hblank
  · rw [ofRun_of_solid h.ne_nil hsolid]
    exact .literal hsolid h.ne_nil hplain
  · rw [ofRun_of_blank hblank]
    exact .blanks hblank h.ne_nil

/-- A run may follow another if blanks begin or end between them. -/
theorem mayFollow_ofRun_iff {first second : Text} (hfirst : IsRun first) (hsecond : IsRun second) :
    MayFollow (ofRun first) (ofRun second) ↔
      (isBlank (first.getLast hfirst.ne_nil) == isBlank (second.head hsecond.ne_nil)) = false := by
  have hlast := List.getLast_mem hfirst.ne_nil
  have hhead := List.head_mem hsecond.ne_nil
  rcases hfirst.uniform with hsolid | hblank <;> rcases hsecond.uniform with hsolid' | hblank'
  · rw [ofRun_of_solid hfirst.ne_nil hsolid, ofRun_of_solid hsecond.ne_nil hsolid']
    simp [MayFollow, hsolid _ hlast, hsolid' _ hhead]
  · rw [ofRun_of_solid hfirst.ne_nil hsolid, ofRun_of_blank hblank']
    simp [MayFollow, hsolid _ hlast, hblank' _ hhead]
  · rw [ofRun_of_blank hblank, ofRun_of_solid hsecond.ne_nil hsolid']
    simp [MayFollow, hblank _ hlast, hsolid' _ hhead]
  · rw [ofRun_of_blank hblank, ofRun_of_blank hblank']
    simp [MayFollow, hblank _ hlast, hblank' _ hhead]

lemma mayFollow_token (segment : Segment) (type : Token) (name : Option String) :
    MayFollow segment (.token type name) := by
  cases segment <;> trivial

lemma token_mayFollow (segment : Segment) (type : Token) (name : Option String) :
    MayFollow (.token type name) segment := by
  cases segment <;> trivial

lemma field?_ofRun (run : Text) : (ofRun run).field? = none := by
  rw [ofRun]
  split <;> rfl

lemma filterMap_field?_token (type : Token) (name : Option String) (later : List Segment) :
    (token type name :: later).filterMap field? = name.toList ++ later.filterMap field? := by
  cases name <;> rfl

section Literal

variable {t : Text}

lemma spelled_ofLiteral (h : ¬ Grammar.tokenStart <:+: t) :
    ∃ parts : List Text, List.Forall₂ Spelled (ofLiteral t) parts ∧ parts.flatten = t := by
  refine ⟨_, ?_, List.flatten_splitBy (fun a b => isBlank a == isBlank b) t⟩
  rw [ofLiteral_eq, List.forall₂_map_left_iff, List.forall₂_same]
  intro run hrun
  refine (isRun_of_mem_splitBy hrun).spelled fun hwithin => h ?_
  have hpart := hwithin.trans (List.infix_of_mem_flatten hrun)
  rwa [List.flatten_splitBy] at hpart

lemma isChain_ofLiteral (t : Text) : (ofLiteral t).IsChain MayFollow := by
  rw [ofLiteral_eq, List.isChain_map]
  refine List.IsChain.imp_of_mem_imp ?_ (List.isChain_getLast_head_splitBy _ t)
  rintro first second hfirst hsecond ⟨_, _, hends⟩
  exact (mayFollow_ofRun_iff (isRun_of_mem_splitBy hfirst) (isRun_of_mem_splitBy hsecond)).2 hends

lemma filterMap_field?_ofLiteral (t : Text) : (ofLiteral t).filterMap field? = [] := by
  rw [ofLiteral_eq, List.filterMap_map, List.filterMap_eq_nil_iff]
  exact fun run _ => field?_ofRun run

end Literal

end Segment

namespace Grammar

structure SpelledBy (t : Text) (segments : List Segment) : Prop where
  spelled : ∃ parts : List Text, List.Forall₂ Segment.Spelled segments parts ∧ parts.flatten = t
  maximal : segments.IsChain Segment.MayFollow
  distinct : (segments.filterMap Segment.field?).Nodup

lemma spelledBy_ofLiteral {t : Text} (h : ¬ tokenStart <:+: t) :
    SpelledBy t (Segment.ofLiteral t) :=
  ⟨Segment.spelled_ofLiteral h, Segment.isChain_ofLiteral t,
    by simp [Segment.filterMap_field?_ofLiteral]⟩

lemma exists_ok_of_bind {ε α β : Type} {first : Except ε α} {next : α → Except ε β} {b : β}
    (h : first >>= next = .ok b) : ∃ a, first = .ok a ∧ next a = .ok b := by
  cases first with
  | error fault => cases h
  | ok a => exact ⟨a, rfl, h⟩

theorem spelled_of_readToken {taken : List String} {body : Text} {token : Segment}
    (h : readToken taken body = .ok token) :
    (∃ type name, token = .token type name) ∧
      Segment.Spelled token (tokenStart ++ body ++ tokenEnd) ∧
      ∀ name ∈ token.field?, name ∉ taken := by
  have hbody : body.takeWhile (· != ':') ++ body.dropWhile (· != ':') = body :=
    List.takeWhile_append_dropWhile
  simp only [readToken, List.span_eq_takeWhile_dropWhile] at h
  split at h
  · cases h
  · next type htype =>
    have hname : body.takeWhile (· != ':') = ofString type.name := by
      rw [Token.ofName?] at htype
      have hsame := List.find?_some htype
      rw [beq_iff_eq] at hsame
      rw [hsame, ofString, String.toList_ofList]
    split at h
    · next hfield =>
      obtain rfl := Except.ok.inj h
      rw [hfield, List.append_nil, hname] at hbody
      exact ⟨⟨type, none, rfl⟩, hbody ▸ .token type, by simp [Segment.field?]⟩
    · next colon field hfield =>
      have hcolon : colon = ':' := by
        have hhead := List.head_dropWhile_not (· != ':') (l := body) (by simp [hfield])
        simpa [hfield] using hhead
      rw [hfield, hname, hcolon] at hbody
      split at h
      · cases h
      · next hidentifier =>
        split at h
        · cases h
        · next hnew =>
          obtain rfl := Except.ok.inj h
          refine ⟨⟨type, _, rfl⟩, hbody ▸ .field type (by simpa using hidentifier), ?_⟩
          rintro name hmem
          obtain rfl := Option.some.inj hmem
          simpa using hnew

theorem SpelledBy.append_token {before tokenText rest : Text} {type : Token}
    {name : Option String} {later : List Segment} (hbefore : ¬ tokenStart <:+: before)
    (htoken : Segment.Spelled (.token type name) tokenText) (hlater : SpelledBy rest later)
    (hnew : ∀ field ∈ name, field ∉ later.filterMap Segment.field?) :
    SpelledBy (before ++ tokenText ++ rest)
      (Segment.ofLiteral before ++ .token type name :: later) where
  spelled := by
    obtain ⟨parts, hparts, hflatten⟩ := Segment.spelled_ofLiteral hbefore
    obtain ⟨parts', hparts', hflatten'⟩ := hlater.spelled
    refine ⟨parts ++ tokenText :: parts', List.rel_append hparts (.cons htoken hparts'), ?_⟩
    rw [List.flatten_append, List.flatten_cons, hflatten, hflatten', List.append_assoc]
  maximal := by
    refine List.isChain_append.2 ⟨Segment.isChain_ofLiteral before, ?_, ?_⟩
    · exact List.isChain_cons.2
        ⟨fun segment _ => Segment.token_mayFollow segment type name, hlater.maximal⟩
    · rintro segment _ token htoken
      obtain rfl := Option.some.inj htoken
      exact Segment.mayFollow_token segment type name
  distinct := by
    rw [List.filterMap_append, Segment.filterMap_field?_ofLiteral, List.nil_append,
      Segment.filterMap_field?_token]
    refine List.nodup_append.2 ⟨by cases name <;> simp, hlater.distinct, ?_⟩
    rintro field hfield _ hmem rfl
    exact hnew field (Option.mem_toList.1 hfield) hmem

theorem spelledBy_of_readSegments {offset : ℕ} {taken : List String} {t : Text}
    {segments : List Segment} (h : readSegments offset taken t = .ok segments) :
    SpelledBy t segments ∧ ∀ name ∈ segments.filterMap Segment.field?, name ∉ taken := by
  fun_induction readSegments offset taken t generalizing segments with
  | case1 offset taken t hplain =>
    obtain rfl := Except.ok.inj h
    refine ⟨spelledBy_ofLiteral (breakFrom?_eq_none_iff.1 hplain), ?_⟩
    simp [Segment.filterMap_field?_ofLiteral]
  | case2 => cases h
  | case3 offset taken t before after hbefore start body rest hbody =>
    rename_i ih
    obtain ⟨token, htoken, h⟩ := exists_ok_of_bind h
    obtain ⟨later, hlater, h⟩ := exists_ok_of_bind h
    obtain rfl := Except.ok.inj h
    obtain ⟨⟨type, name, rfl⟩, hspelled, hnew⟩ := spelled_of_readToken htoken
    obtain ⟨hlaterSpelled, hlaterNew⟩ := ih _ hlater
    obtain ⟨rfl, hplain⟩ := exists_of_breakAt? (by decide) hbefore
    obtain ⟨rfl, -⟩ := exists_of_breakAt? (by decide) hbody
    have hdistinct : ∀ field ∈ name, field ∉ later.filterMap Segment.field? := by
      intro field hfield hmem
      exact hlaterNew field hmem (List.mem_append_right _ (Option.mem_toList.2 hfield))
    constructor
    · simpa only [List.append_assoc] using hlaterSpelled.append_token hplain hspelled hdistinct
    · intro field hfield
      rw [List.filterMap_append, Segment.filterMap_field?_ofLiteral, List.nil_append,
        Segment.filterMap_field?_token] at hfield
      rcases List.mem_append.1 hfield with hfield | hfield
      · exact hnew field (Option.mem_toList.1 hfield)
      · exact fun hmem => hlaterNew field hfield (List.mem_append_left _ hmem)

end Grammar
end Syslog
