import Mathlib.Data.List.TakeWhile
import Syslog.Proofs.Grammar.Spelling

/-!
# Reading spelled grammars

A text that segments spell is read to these segments. So the segments of a grammar are the only ones
that spell its text.
-/
namespace Syslog
open Text

namespace Segment

section Runs

variable {runs : List Text}

lemma IsRun.isChain {run : Text} (h : IsRun run) :
    run.IsChain fun a b => (isBlank a == isBlank b) = true := by
  refine (List.pairwise_of_forall_mem_list fun a ha b hb => ?_).isChain
  rcases h.uniform with hsolid | hblank
  · rw [hsolid a ha, hsolid b hb]; rfl
  · rw [hblank a ha, hblank b hb]; rfl

theorem ofLiteral_flatten (hruns : ∀ run ∈ runs, IsRun run)
    (hchain : (runs.map ofRun).IsChain MayFollow) : ofLiteral runs.flatten = runs.map ofRun := by
  rw [ofLiteral_eq, List.splitBy_flatten (fun hnil => (hruns [] hnil).ne_nil rfl)
    fun run hrun => (hruns run hrun).isChain]
  refine List.IsChain.imp_of_mem_imp ?_ ((List.isChain_map ofRun).1 hchain)
  intro first second hfirst hsecond hfollows
  have hrun := hruns first hfirst
  have hnext := hruns second hsecond
  exact ⟨hrun.ne_nil, hnext.ne_nil, (mayFollow_ofRun_iff hrun hnext).1 hfollows⟩

/-- What has no blanks does not reach from a run into the next. -/
theorem exists_infix_of_infix_flatten {l : Text} (hne : l ≠ []) (hsolid : IsSolid l)
    (hruns : ∀ run ∈ runs, IsRun run) (hchain : (runs.map ofRun).IsChain MayFollow)
    (h : l <:+: runs.flatten) : ∃ run ∈ runs, l <:+: run := by
  induction runs with
  | nil => exact absurd (List.infix_nil.1 h) hne
  | cons run runs ih =>
    have hlater : ∀ run ∈ runs, IsRun run := fun later hmem => hruns later (by simp [hmem])
    obtain h | h | ⟨first, second, rfl, hfirst, hsecond, hend, hstart⟩ := infix_append h
    · exact ⟨run, by simp, h⟩
    · obtain ⟨later, hmem, h⟩ := ih hlater hchain.tail h
      exact ⟨later, by simp [hmem], h⟩
    · obtain ⟨hsolid, hsolid'⟩ := isSolid_append.1 hsolid
      cases runs with
      | nil => exact absurd (List.prefix_nil.1 hstart) hsecond
      | cons next runs =>
        have hrun := hruns run (by simp)
        have hnext := hlater next (by simp)
        have hfollows := (mayFollow_ofRun_iff hrun hnext).1 (List.isChain_cons_cons.1 hchain).1
        have hhead : next.head hnext.ne_nil = second.head hsecond := by
          rw [hstart.head hsecond]
          simp [List.head_append_of_ne_nil, hnext.ne_nil]
        rw [← hend.getLast hfirst, hhead, hsolid _ (List.getLast_mem hfirst),
          hsolid' _ (List.head_mem hsecond)] at hfollows
        cases hfollows

lemma free_flatten (hruns : ∀ run ∈ runs, IsRun run ∧ ¬ Grammar.tokenStart <:+: run)
    (hchain : (runs.map ofRun).IsChain MayFollow) : ¬ Grammar.tokenStart <:+: runs.flatten := by
  intro hwithin
  obtain ⟨run, hrun, hwithin⟩ := exists_infix_of_infix_flatten (by decide) (by decide)
    (fun run hrun => (hruns run hrun).1) hchain hwithin
  exact (hruns run hrun).2 hwithin

end Runs

theorem Spelled.token_or_isRun {segment : Segment} {t : Text} (h : Spelled segment t) :
    (∃ type name, segment = .token type name) ∨
      IsRun t ∧ ¬ Grammar.tokenStart <:+: t ∧ segment = ofRun t := by
  cases h with
  | literal solid ne_nil plain =>
    exact .inr ⟨⟨ne_nil, .inl solid⟩, plain, (ofRun_of_solid ne_nil solid).symm⟩
  | blanks blank ne_nil =>
    refine .inr ⟨⟨ne_nil, .inr blank⟩, fun hwithin => ?_, (ofRun_of_blank blank).symm⟩
    exact absurd (blank '%' (hwithin.subset (by decide))) (by decide)
  | token type => exact .inl ⟨type, none, rfl⟩
  | field type => exact .inl ⟨type, _, rfl⟩

end Segment

namespace Grammar

lemma breakAt?_tokenStart {before rest : Text} (h : ¬ tokenStart <:+: before) :
    breakAt? tokenStart (before ++ tokenStart ++ rest) = some (before, rest) :=
  breakFrom?_append (not_infix_append_dropLast (by decide) h) []

lemma breakAt?_tokenEnd {body rest : Text} (h : '\x7d' ∉ body) :
    breakAt? tokenEnd (body ++ tokenEnd ++ rest) = some (body, rest) :=
  breakFrom?_append (not_infix_append_dropLast (by decide)
    fun hwithin => h ((List.singleton_infix_iff _ _).1 hwithin)) []

lemma notMem_of_isIdentifier {c : Char} {t : Text} (h : isIdentifier t = true)
    (hc : (c.isAlphanum || c == '_') = false) : c ∉ t := by
  intro hmem
  rw [List.all_eq_true.1 (Bool.and_eq_true_iff.1 h).2 c hmem] at hc
  cases hc

theorem readToken_of_spelled {taken : List String} {type : Token} {name : Option String}
    {t : Text} (h : Segment.Spelled (.token type name) t) (hnew : ∀ field ∈ name, field ∉ taken) :
    ∃ body, t = tokenStart ++ body ++ tokenEnd ∧ '\x7d' ∉ body ∧
      readToken taken body = .ok (.token type name) := by
  have hname : Token.ofName? (ofString type.name) = some type := by cases type <;> decide
  have hcolon : ∀ c ∈ ofString type.name, (c != ':') = true := by cases type <;> decide
  have hbrace : '\x7d' ∉ ofString type.name := by cases type <;> decide
  cases h with
  | token =>
    refine ⟨_, rfl, hbrace, ?_⟩
    rw [readToken, List.span_eq_takeWhile_dropWhile]
    simp [List.takeWhile_eq_self_iff.2 hcolon, List.dropWhile_eq_nil_iff.2 hcolon, hname]
  | @field _ field identifier =>
    have hfield : '\x7d' ∉ field := notMem_of_isIdentifier identifier (by decide)
    refine ⟨_, rfl, by simp [hbrace, hfield], ?_⟩
    rw [readToken, List.span_eq_takeWhile_dropWhile, List.takeWhile_append_of_pos hcolon,
      List.dropWhile_append_of_pos hcolon]
    simp [hname, identifier, hnew]

theorem readSegments_append_token {offset : ℕ} {taken : List String} {before tokenText rest : Text}
    {type : Token} {name : Option String} {later : List Segment}
    (hbefore : ¬ tokenStart <:+: before) (htoken : Segment.Spelled (.token type name) tokenText)
    (hnew : ∀ field ∈ name, field ∉ taken)
    (hrest : ∀ offset, readSegments offset (taken ++ name.toList) rest = .ok later) :
    readSegments offset taken (before ++ (tokenText ++ rest)) =
      .ok (Segment.ofLiteral before ++ .token type name :: later) := by
  obtain ⟨body, rfl, hbody, hread⟩ := readToken_of_spelled htoken hnew
  have hstart : breakAt? tokenStart (before ++ (tokenStart ++ body ++ tokenEnd ++ rest)) =
      some (before, body ++ tokenEnd ++ rest) := by
    simpa only [List.append_assoc] using breakAt?_tokenStart hbefore
  rw [readSegments]
  split
  · next hnone =>
    rw [hstart] at hnone
    cases hnone
  · next hsome =>
    obtain ⟨rfl, rfl⟩ := Prod.mk.inj (Option.some.inj (hstart.symm.trans hsome))
    split
    · next hnone =>
      rw [breakAt?_tokenEnd hbody] at hnone
      cases hnone
    · next hsome =>
      obtain ⟨rfl, rfl⟩ :=
        Prod.mk.inj (Option.some.inj ((breakAt?_tokenEnd hbody).symm.trans hsome))
      simp only [hread]
      change (readSegments _ (taken ++ name.toList) rest >>= _) = _
      rw [hrest]
      rfl

lemma readSegments_of_free {offset : ℕ} {taken : List String} {t : Text}
    (h : ¬ tokenStart <:+: t) : readSegments offset taken t = .ok (Segment.ofLiteral t) := by
  rw [readSegments]
  split
  · rfl
  · next hsome => exact absurd ⟨_, _, (breakAt?_eq_some hsome).symm⟩ h

/-- Segments are read from what spells them, also after runs that they may follow. -/
theorem readSegments_of_spelled {segments : List Segment} {runs parts : List Text} {offset : ℕ}
    {taken : List String} (hruns : ∀ run ∈ runs, Segment.IsRun run ∧ ¬ tokenStart <:+: run)
    (hparts : List.Forall₂ Segment.Spelled segments parts)
    (hchain : (runs.map Segment.ofRun ++ segments).IsChain Segment.MayFollow)
    (hdistinct : (segments.filterMap Segment.field?).Nodup)
    (hnew : ∀ name ∈ segments.filterMap Segment.field?, name ∉ taken) :
    readSegments offset taken (runs.flatten ++ parts.flatten) =
      .ok (runs.map Segment.ofRun ++ segments) := by
  -- the runs gather up to the next token, as they make up one literal
  induction segments generalizing runs parts offset taken with
  | nil =>
    cases hparts
    rw [List.append_nil] at hchain
    rw [List.flatten_nil, List.append_nil, List.append_nil,
      readSegments_of_free (Segment.free_flatten hruns hchain),
      Segment.ofLiteral_flatten (fun run hrun => (hruns run hrun).1) hchain]
  | cons segment segments ih =>
    cases hparts with
    | @cons _ part _ parts hspelled hparts =>
      rcases hspelled.token_or_isRun with ⟨type, name, rfl⟩ | ⟨hrun, hplain, rfl⟩
      · obtain ⟨hchainRuns, hchainLater, -⟩ := List.isChain_append.1 hchain
        rw [Segment.filterMap_field?_token] at hdistinct hnew
        obtain ⟨-, hdistinctLater, hapart⟩ := List.nodup_append.1 hdistinct
        have hlater : ∀ offset, readSegments offset (taken ++ name.toList) parts.flatten =
            .ok segments := by
          intro offset
          refine ih (List.forall_mem_nil _) hparts hchainLater.tail hdistinctLater ?_
          intro field hfield
          rw [List.mem_append, not_or]
          exact ⟨hnew field (List.mem_append_right _ hfield),
            fun hmem => hapart field hmem field hfield rfl⟩
        have hnewToken : ∀ field ∈ name, field ∉ taken := fun field hfield =>
          hnew field (List.mem_append_left _ (Option.mem_toList.2 hfield))
        rw [List.flatten_cons, readSegments_append_token (Segment.free_flatten hruns hchainRuns)
          hspelled hnewToken hlater,
          Segment.ofLiteral_flatten (fun run hrun => (hruns run hrun).1) hchainRuns]
      · have hruns' : ∀ run ∈ runs ++ [part], Segment.IsRun run ∧ ¬ tokenStart <:+: run := by
          intro run hmem
          rcases List.mem_append.1 hmem with hmem | hmem
          · exact hruns run hmem
          · rw [List.mem_singleton.1 hmem]
            exact ⟨hrun, hplain⟩
        rw [List.filterMap_cons, Segment.field?_ofRun] at hdistinct hnew
        simpa [List.append_assoc] using
          ih hruns' hparts (by simpa using hchain) hdistinct hnew

theorem spelledBy_iff {t : Text} {segments : List Segment} :
    SpelledBy t segments ↔ readSegments 0 [] t = .ok segments := by
  refine ⟨fun h => ?_, fun h => (spelledBy_of_readSegments h).1⟩
  obtain ⟨parts, hparts, rfl⟩ := h.spelled
  exact readSegments_of_spelled (List.forall_mem_nil _) hparts h.maximal h.distinct (by simp)

end Grammar
end Syslog
