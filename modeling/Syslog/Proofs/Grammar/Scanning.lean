import Syslog.Proofs.Grammar.ReadBack
import Syslog.Proofs.Grammar.Words

/-!
# Scans of written grammars

A scan of a text finds its tokens from left to right, each up to the next closing brace, and ends
with what follows the last of them. Every text has exactly one scan.
-/
namespace Syslog.Grammar
open Text

/-- A token with the text since the token before it. The name of its type ends at the first colon,
and the token itself at the first closing brace. -/
@[ext]
structure WrittenToken where
  before : Text
  typeName : Text
  name? : Option Text
  free : ¬ tokenStart <:+: before
  colon_notMem : ':' ∉ typeName
  brace_notMem : '\x7d' ∉ typeName
  brace_notMem_name : ∀ name ∈ name?, '\x7d' ∉ name

namespace WrittenToken

def colonAndName (token : WrittenToken) : Text :=
  match token.name? with
  | none => []
  | some name => ':' :: name

def body (token : WrittenToken) : Text := token.typeName ++ token.colonAndName

def text (token : WrittenToken) : Text := token.before ++ tokenStart ++ token.body ++ tokenEnd

lemma typeName_run (token : WrittenToken) : ∀ c ∈ token.typeName, (c != ':') = true :=
  fun _ hc => bne_iff_ne.2 fun h => token.colon_notMem (h ▸ hc)

lemma stops_colonAndName (token : WrittenToken) : Stops (· != ':') token.colonAndName := by
  rw [colonAndName]
  cases token.name? with
  | none => exact stops_nil
  | some name => exact stops_cons.2 (by decide)

lemma brace_notMem_body (token : WrittenToken) : '\x7d' ∉ token.body := by
  have hname := token.brace_notMem_name
  rw [body, colonAndName]
  cases h : token.name? with
  | none => simpa using token.brace_notMem
  | some name =>
    rw [h] at hname
    simp [token.brace_notMem, hname]

lemma breakAt?_text (token : WrittenToken) (rest : Text) :
    breakAt? tokenStart (token.text ++ rest) =
      some (token.before, token.body ++ tokenEnd ++ rest) := by
  simpa only [text, List.append_assoc] using breakAt?_tokenStart token.free

lemma breakAt?_body (token : WrittenToken) (rest : Text) :
    breakAt? tokenEnd (token.body ++ tokenEnd ++ rest) = some (token.body, rest) :=
  breakAt?_tokenEnd token.brace_notMem_body

end WrittenToken

def front (tokens : List WrittenToken) : Text := (tokens.map WrittenToken.text).flatten

/-- What follows the last token: no other one, or one without a closing brace. -/
inductive Ending where
  | plain (rest : Text) (free : ¬ tokenStart <:+: rest)
  | unterminated (before after : Text) (free : ¬ tokenStart <:+: before) (unclosed : '\x7d' ∉ after)

def Ending.text : Ending → Text
  | plain rest _ => rest
  | unterminated before after _ _ => before ++ tokenStart ++ after

/-- What is found in a text from left to right. -/
structure Scan where
  tokens : List WrittenToken
  ending : Ending

def Scan.text (scan : Scan) : Text := front scan.tokens ++ scan.ending.text

lemma front_cons (token : WrittenToken) (tokens : List WrittenToken) :
    front (token :: tokens) = token.text ++ front tokens := rfl

lemma exists_writtenToken {before body : Text} (hfree : ¬ tokenStart <:+: before)
    (hbody : '\x7d' ∉ body) :
    ∃ token : WrittenToken, token.before = before ∧ token.body = body := by
  by_cases hcolon : ':' ∈ body
  · obtain ⟨typeName, name, rfl, htypeName⟩ := List.eq_append_cons_of_mem hcolon
    rw [List.mem_append, List.mem_cons, not_or, not_or] at hbody
    refine ⟨⟨before, typeName, some name, hfree, htypeName, hbody.1, ?_⟩, rfl, rfl⟩
    rintro _ ⟨⟩
    exact hbody.2.2
  · exact ⟨⟨before, body, none, hfree, hcolon, hbody, by simp⟩, rfl, List.append_nil body⟩

theorem exists_scan (t : Text) : ∃ scan : Scan, scan.text = t := by
  -- what follows a token is shorter than the text
  induction hn : t.length using Nat.strong_induction_on generalizing t with
  | _ n ih =>
    cases hstart : breakAt? tokenStart t with
    | none => exact ⟨⟨[], .plain t (breakFrom?_eq_none_iff.1 hstart)⟩, rfl⟩
    | some pair =>
      obtain ⟨before, after⟩ := pair
      obtain ⟨rfl, hfree⟩ := exists_of_breakAt? (by decide) hstart
      cases hend : breakAt? tokenEnd after with
      | none =>
        have hunclosed : '\x7d' ∉ after := fun h =>
          breakFrom?_eq_none_iff.1 hend ((List.singleton_infix_iff _ _).2 h)
        exact ⟨⟨[], .unterminated before after hfree hunclosed⟩, rfl⟩
      | some pair =>
        obtain ⟨body, rest⟩ := pair
        obtain ⟨rfl, hbody⟩ := exists_of_breakAt? (by decide) hend
        obtain ⟨token, rfl, rfl⟩ := exists_writtenToken hfree fun h =>
          hbody ((List.singleton_infix_iff _ _).2 h)
        have hlt : rest.length < n := by
          rw [← hn]
          simp only [tokenStart, tokenEnd, List.length_append, List.length_cons, List.length_nil]
          omega
        obtain ⟨⟨tokens, ending⟩, rfl⟩ := ih _ hlt rest rfl
        refine ⟨⟨token :: tokens, ending⟩, ?_⟩
        simp only [Scan.text, front_cons, WrittenToken.text, List.append_assoc]

lemma WrittenToken.eq_of_body {token other : WrittenToken} (hbefore : token.before = other.before)
    (hbody : token.body = other.body) : token = other := by
  obtain ⟨htype, hname⟩ := run_unique token.typeName_run token.stops_colonAndName
    other.typeName_run other.stops_colonAndName hbody
  rw [colonAndName, colonAndName] at hname
  refine WrittenToken.ext hbefore htype ?_
  cases h : token.name? <;> cases h' : other.name? <;> simp_all

lemma WrittenToken.text_append_inj {token other : WrittenToken} {rest rest' : Text}
    (h : token.text ++ rest = other.text ++ rest') : token = other ∧ rest = rest' := by
  have hstart := token.breakAt?_text rest
  rw [h, other.breakAt?_text, Option.some.injEq, Prod.mk.injEq] at hstart
  have hend := token.breakAt?_body rest
  rw [← hstart.2, other.breakAt?_body, Option.some.injEq, Prod.mk.injEq] at hend
  exact ⟨eq_of_body hstart.1.symm hend.1.symm, hend.2.symm⟩

lemma WrittenToken.text_append_ne (token : WrittenToken) (rest : Text) (ending : Ending) :
    token.text ++ rest ≠ ending.text := by
  intro h
  have hstart := token.breakAt?_text rest
  rw [h] at hstart
  cases ending with
  | plain text hfree =>
    rw [Ending.text, breakAt?, breakFrom?_eq_none_iff.2 hfree] at hstart
    cases hstart
  | unterminated before after hfree hunclosed =>
    rw [Ending.text, breakAt?_tokenStart hfree, Option.some.injEq, Prod.mk.injEq] at hstart
    rw [hstart.2] at hunclosed
    exact hunclosed (by simp [tokenEnd])

lemma Ending.text_injective : Function.Injective Ending.text := by
  have hne : ∀ {rest before after : Text}, ¬ tokenStart <:+: rest →
      rest ≠ before ++ tokenStart ++ after := by
    rintro rest before after hfree rfl
    exact hfree ⟨before, after, rfl⟩
  rintro (⟨rest, hfree⟩ | ⟨before, after, hfree, hunclosed⟩)
    (⟨rest', hfree'⟩ | ⟨before', after', hfree', hunclosed'⟩) h
  · cases h
    rfl
  · exact absurd h (hne hfree)
  · exact absurd h.symm (hne hfree')
  · have hstart : breakAt? tokenStart (before ++ tokenStart ++ after) = some (before, after) :=
      breakAt?_tokenStart hfree
    rw [show before ++ tokenStart ++ after = before' ++ tokenStart ++ after' from h,
      breakAt?_tokenStart hfree'] at hstart
    cases hstart
    rfl

theorem Scan.text_injective : Function.Injective Scan.text := by
  rintro ⟨tokens, ending⟩ ⟨others, ending'⟩ h
  simp only [text] at h
  induction tokens generalizing others with
  | nil =>
    cases others with
    | nil => rw [Ending.text_injective h]
    | cons other others =>
      rw [front_cons, List.append_assoc] at h
      exact absurd h.symm (other.text_append_ne _ ending)
  | cons token tokens ih =>
    cases others with
    | nil =>
      rw [front_cons, List.append_assoc] at h
      exact absurd h (token.text_append_ne _ ending')
    | cons other others =>
      rw [front_cons, front_cons, List.append_assoc, List.append_assoc] at h
      obtain ⟨rfl, hlater⟩ := WrittenToken.text_append_inj h
      obtain ⟨rfl, rfl⟩ := Scan.mk.inj (ih others hlater)
      rfl

end Syslog.Grammar
