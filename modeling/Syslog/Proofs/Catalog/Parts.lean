import Syslog.Catalog.Bundled
import Syslog.Proofs.Grammar.StructuredData
import Syslog.Proofs.HostName
import Syslog.Proofs.Text.Numerals

/-!
# Parts of the bundled grammars

How the groups of segments that the bundled grammars share read the texts written for them: the
priority, numbers before a mark, times of day, dates, words and tags.
-/
namespace Syslog.Catalog.Bundled
open Text Reader
open scoped Computability

variable {segments : List Segment} {rest : Text} {entries : List (String × Text)}

lemma mem_posint {t : Text} :
    t ∈ Token.posint.language ↔ t ≠ [] ∧ ∀ c ∈ t, isDecimalDigit c = true := mem_runOf

lemma mem_nospace {t : Text} : t ∈ Token.nospace.language ↔ t ≠ [] ∧ IsSolid t := by
  rw [isSolid_iff]
  exact mem_runOf

lemma hostName_mem_nospace {t : Text} (h : HostName.isValid t = true) :
    t ∈ Token.nospace.language :=
  mem_nospace.2 ⟨HostName.ne_nil_of_isValid h, HostName.isSolid_of_isValid h⟩

lemma posint_of_spells {width n : ℕ} {t : Text} (hwidth : 0 < width) (h : Spells width t n) :
    t ∈ Token.posint.language := by
  refine mem_posint.2 ⟨?_, fun c => h.isDecimalDigit_of_mem⟩
  rintro rfl
  exact absurd h.1 (Nat.ne_of_lt hwidth)

lemma posint_of_isDigit {t : Text} (hne : t ≠ []) (h : ∀ c ∈ t, c.isDigit = true) :
    t ∈ Token.posint.language :=
  mem_posint.2 ⟨hne, fun c hc => isDecimalDigit_of_isDigit (h c hc)⟩

lemma padded_mem_posint (width n : ℕ) : padded width n ∈ Token.posint.language :=
  posint_of_isDigit (padded_ne_nil width n) fun _ => isDigit_of_mem_padded

lemma isSolid_of_mem_posint {t : Text} (h : t ∈ Token.posint.language) : IsSolid t :=
  fun c hc => isBlank_of_isDecimalDigit ((mem_posint.1 h).2 c hc)

lemma stops_of_mem_nospace {t rest : Text} (h : t ∈ Token.nospace.language) :
    Stops isBlank (t ++ rest) := stops_isBlank (mem_nospace.1 h).1 (mem_nospace.1 h).2

lemma reads_mark {s : String} {c : Char} (hs : ofString s = [c]) :
    Reads (word s :: segments) (c :: rest) entries ↔ Reads segments rest entries := by
  rw [word, hs]
  exact reads_literal (l := [c])

lemma refuses_mark {p : Char → Bool} {s : String} {c : Char} (hs : ofString s = [c])
    (hc : p c = false) : Refuses p (word s :: segments) := by
  rw [word, hs]
  exact refuses_literal hc

lemma reads_number {name : String} {digits : Text} (hdigits : digits ∈ Token.posint.language)
    (hsegments : Refuses isDecimalDigit segments) (hrest : Stops isDecimalDigit rest) :
    Reads (field .posint name :: segments) (digits ++ rest) entries ↔
      ∃ later, Reads segments rest later ∧ entries = (name, digits) :: later := by
  obtain ⟨hne, hrun⟩ := mem_posint.1 hdigits
  exact reads_run rfl hsegments hne hrun hrest

theorem reads_numberMark {name s : String} {c : Char} (hs : ofString s = [c])
    (hc : isDecimalDigit c = false) {digits : Text} (hdigits : digits ∈ Token.posint.language) :
    Reads (field .posint name :: word s :: segments) (digits ++ c :: rest) entries ↔
      ∃ later, Reads segments rest later ∧ entries = (name, digits) :: later := by
  rw [reads_number hdigits (refuses_mark hs hc) (stops_cons.2 hc)]
  simp only [reads_mark hs]

lemma reads_priority {code : Text} (hcode : code ∈ Token.posint.language) :
    Reads (priority ++ segments) ('<' :: (code ++ '>' :: rest)) entries ↔
      ∃ later, Reads segments rest later ∧ entries = ("facilityCode", code) :: later := by
  change Reads (word "<" :: field .posint "facilityCode" :: word ">" :: segments) _ _ ↔ _
  rw [reads_mark rfl]
  exact reads_numberMark rfl (by decide) hcode

lemma reads_timeOfDay {hour minute second : Text} (hhour : hour ∈ Token.posint.language)
    (hminute : minute ∈ Token.posint.language) (hsecond : second ∈ Token.posint.language)
    (hsegments : Refuses isDecimalDigit segments) (hrest : Stops isDecimalDigit rest) :
    Reads (timeOfDay ++ segments) (hour ++ ':' :: (minute ++ ':' :: (second ++ rest))) entries ↔
      ∃ later, Reads segments rest later ∧
        entries = ("hours", hour) :: ("minutes", minute) :: ("seconds", second) :: later := by
  change Reads (field .posint "hours" :: word ":" :: field .posint "minutes" :: word ":" ::
    field .posint "seconds" :: segments) _ _ ↔ _
  rw [reads_numberMark rfl (by decide) hhour]
  simp only [reads_numberMark (s := ":") (c := ':') rfl (by decide) hminute,
    reads_number hsecond hsegments hrest]
  constructor
  · rintro ⟨_, ⟨_, ⟨later, h, rfl⟩, rfl⟩, rfl⟩
    exact ⟨later, h, rfl⟩
  · rintro ⟨later, h, rfl⟩
    exact ⟨_, ⟨_, ⟨later, h, rfl⟩, rfl⟩, rfl⟩

lemma reads_isoTime {year month day hour minute second : Text}
    (hyear : year ∈ Token.posint.language) (hmonth : month ∈ Token.posint.language)
    (hday : day ∈ Token.posint.language) (hhour : hour ∈ Token.posint.language)
    (hminute : minute ∈ Token.posint.language) (hsecond : second ∈ Token.posint.language)
    (hsegments : Refuses isDecimalDigit segments) (hrest : Stops isDecimalDigit rest) :
    Reads (isoTime ++ segments) (year ++ '-' :: (month ++ '-' :: (day ++ 'T' ::
      (hour ++ ':' :: (minute ++ ':' :: (second ++ rest)))))) entries ↔
      ∃ later, Reads segments rest later ∧
        entries = [("year", year), ("month", month), ("day", day), ("hours", hour),
          ("minutes", minute), ("seconds", second)] ++ later := by
  change Reads (field .posint "year" :: word "-" :: field .posint "month" :: word "-" ::
    field .posint "day" :: word "T" :: (timeOfDay ++ segments)) _ _ ↔ _
  rw [reads_numberMark rfl (by decide) hyear]
  simp only [reads_numberMark (s := "-") (c := '-') rfl (by decide) hmonth,
    reads_numberMark (s := "T") (c := 'T') rfl (by decide) hday,
    reads_timeOfDay hhour hminute hsecond hsegments hrest]
  constructor
  · rintro ⟨_, ⟨_, ⟨_, ⟨later, h, rfl⟩, rfl⟩, rfl⟩, rfl⟩
    exact ⟨later, h, rfl⟩
  · rintro ⟨later, h, rfl⟩
    exact ⟨_, ⟨_, ⟨_, ⟨later, h, rfl⟩, rfl⟩, rfl⟩, rfl⟩

theorem reads_token {type : Token} {name : String} {t : Text} :
    Reads [field type name] t entries ↔ t ∈ type.language ∧ entries = [(name, t)] := reads_single

theorem reads_nospace {name : String} {t : Text} (ht : t ∈ Token.nospace.language)
    (hrest : Stops isBlank rest) :
    Reads (field .nospace name :: .blanks :: segments) (t ++ ' ' :: rest) entries ↔
      ∃ later, Reads segments rest later ∧ entries = (name, t) :: later := by
  have hsolid := (mem_nospace.1 ht).2
  rw [show field .nospace name :: .blanks :: segments = [field .nospace name] ++ .blanks :: segments
    from rfl, reads_word _ (by simp [field, Segment.isSolid, Token.isSolid]) hsolid hrest]
  simp only [reads_token]
  constructor
  · rintro ⟨_, later, ⟨-, rfl⟩, h, rfl⟩
    exact ⟨later, h, rfl⟩
  · rintro ⟨later, h, rfl⟩
    exact ⟨_, later, ⟨ht, rfl⟩, h, rfl⟩

lemma reads_body {body : Text} {entries : List (String × Text)} :
    Reads [message] body entries ↔ entries = [("message", body)] := by
  rw [message, reads_token]
  refine and_iff_right ?_
  exact Reader.mem_kstar_oneOf.2 fun _ _ => rfl

theorem reads_suffix (segments : List Segment) {l t : Text} :
    Reads (segments ++ [.literal l]) (t ++ l) entries ↔ Reads segments t entries := by
  rw [reads_append]
  simp only [reads_single]
  constructor
  · rintro ⟨s, u, before, after, h, ⟨rfl, rfl⟩, heq, rfl⟩
    rw [← List.append_cancel_right heq]
    simpa [Segment.capture, Segment.field?] using h
  · intro h
    exact ⟨t, l, entries, [], h, ⟨rfl, rfl⟩, rfl, List.append_nil _⟩

theorem reads_plainWord {tag : Text} (htag : tag ∈ Token.nospace.language) :
    Reads [process, word ":"] (tag ++ [':']) entries ↔ entries = [("processName", tag)] :=
  (reads_suffix [process]).trans (reads_token.trans (and_iff_right htag))

/-- The word of a tag with a number. The number starts after the only bracket that opens. -/
theorem reads_numberedWord {tag digits : Text} (htag : tag ∈ Token.nospace.language)
    (hbracket : '[' ∉ tag) (hdigits : digits ∈ Token.posint.language) :
    Reads [process, word "[", field .posint "processId", word "]:"]
      (tag ++ '[' :: (digits ++ [']', ':'])) entries ↔
      entries = [("processName", tag), ("processId", digits)] := by
  rw [show tag ++ '[' :: (digits ++ [']', ':']) = tag ++ '[' :: digits ++ [']', ':'] by simp]
  refine (reads_suffix [process, word "[", field .posint "processId"]).trans ?_
  have hcount : ∀ {t}, t ∈ Token.posint.language → t.count '[' = 0 := fun ht =>
    List.count_eq_zero.2 fun hmem => absurd ((mem_posint.1 ht).2 _ hmem) (by decide)
  constructor
  · intro h
    obtain ⟨name, -, u, later, hu, htext, rfl⟩ := reads_cons.1 h
    obtain ⟨_, rfl, number, last, hnumber, rfl, rfl⟩ := reads_cons.1 hu
    obtain ⟨hmem, rfl⟩ := reads_token.1 hnumber
    have htext : name ++ '[' :: number = tag ++ '[' :: digits := htext
    have hname : '[' ∉ name := by
      have hcounts := congrArg (List.count '[') htext
      simp only [List.count_append, List.count_cons_self, hcount hmem, hcount hdigits,
        List.count_eq_zero.2 hbracket] at hcounts
      exact List.count_eq_zero.1 (by omega)
    obtain ⟨rfl, hrest⟩ := run_unique (p := (· != '[')) (fun c hc => by
        simpa using ne_of_mem_of_not_mem hc hname) (stops_cons.2 (by decide)) (fun c hc => by
        simpa using ne_of_mem_of_not_mem hc hbracket) (stops_cons.2 (by decide)) htext
    obtain rfl := (List.cons.inj hrest).2
    rfl
  · rintro rfl
    have hnumber : Reads (word "[" :: [field .posint "processId"]) (['['] ++ digits)
        [("processId", digits)] := .cons rfl (reads_token.2 ⟨hdigits, rfl⟩)
    exact .token htag hnumber

lemma reads_plainTag {tag body : Text} (htag : tag ∈ Token.nospace.language)
    (hbody : Stops isBlank body) :
    Reads plainTag (tag ++ [':'] ++ ' ' :: body) entries ↔
      entries = [("processName", tag), ("message", body)] := by
  change Reads ([process, word ":"] ++ .blanks :: [message]) _ _ ↔ _
  have hsolid : IsSolid (tag ++ [':']) :=
    isSolid_append.2 ⟨(mem_nospace.1 htag).2, by decide⟩
  rw [reads_word _ (by decide) hsolid hbody]
  simp [reads_plainWord htag, reads_body]

lemma reads_numberedTag {tag digits body : Text} (htag : tag ∈ Token.nospace.language)
    (hbracket : '[' ∉ tag) (hdigits : digits ∈ Token.posint.language)
    (hbody : Stops isBlank body) :
    Reads numberedTag (tag ++ '[' :: (digits ++ [']', ':']) ++ ' ' :: body) entries ↔
      entries = [("processName", tag), ("processId", digits), ("message", body)] := by
  change Reads ([process, word "[", field .posint "processId", word "]:"] ++ .blanks :: [message])
    _ _ ↔ _
  have hsolid : IsSolid (tag ++ '[' :: (digits ++ [']', ':'])) :=
    isSolid_append.2 ⟨(mem_nospace.1 htag).2, isSolid_cons.2 ⟨by decide,
      isSolid_append.2 ⟨isSolid_of_mem_posint hdigits, by decide⟩⟩⟩
  rw [reads_word _ (by decide) hsolid hbody]
  simp [reads_numberedWord htag hbracket hdigits, reads_body]

lemma getLast?_of_reads (segments : List Segment) {c : Char} {t : Text}
    (h : Reads (segments ++ [.literal [c]]) t entries) :
    t.getLast? = some c := by
  obtain ⟨s, u, before, after, -, hu, rfl, -⟩ := reads_append.1 h
  obtain rfl : u = [c] := (reads_single.1 hu).1
  exact List.getLast?_concat ..

lemma not_reads_numberedTag {tag rest : Text} (htag : IsSolid tag) (hbracket : '[' ∉ tag)
    (hrest : Stops isBlank rest) : ¬ Reads numberedTag (tag ++ ' ' :: rest) entries := by
  change ¬ Reads ([process, word "[", field .posint "processId", word "]:"] ++ .blanks :: [message])
    _ _
  rw [reads_word _ (by decide) htag hrest]
  rintro ⟨_, _, hbefore, -, -⟩
  exact hbracket (hbefore.mem_of_literal (l := ['[']) (by decide) (by decide))

lemma not_reads_plainTag {tag rest : Text} (htag : IsSolid tag)
    (hcolon : tag.getLast? ≠ some ':') (hrest : Stops isBlank rest) :
    ¬ Reads plainTag (tag ++ ' ' :: rest) entries := by
  change ¬ Reads ([process, .literal [':']] ++ .blanks :: [message]) _ _
  rw [reads_word _ (by decide) htag hrest]
  rintro ⟨_, _, hbefore, -, -⟩
  exact hcolon (getLast?_of_reads [process] hbefore)

lemma reads_monthAndDay {month day : Text} (hmonth : month ∈ Token.month.language)
    (hday : day ∈ Token.posint.language) (hrest : Stops isBlank rest) :
    Reads (monthAndDay ++ segments) (month ++ ' ' :: (day ++ ' ' :: rest)) entries ↔
      ∃ later, Reads segments rest later ∧ entries = ("month", month) :: ("day", day) :: later := by
  change Reads ([field .month "month"] ++ .blanks :: ([field .posint "day"] ++ .blanks ::
    segments)) _ _ ↔ _
  have hdaySolid := isSolid_of_mem_posint hday
  rw [reads_word _ (by decide) (Token.month.solid_language rfl month hmonth)
    (stops_isBlank (mem_posint.1 hday).1 hdaySolid)]
  simp only [reads_word [field .posint "day"] (by decide) hdaySolid hrest, reads_token]
  constructor
  · rintro ⟨_, _, ⟨-, rfl⟩, ⟨_, later, ⟨-, rfl⟩, h, rfl⟩, rfl⟩
    exact ⟨later, h, rfl⟩
  · rintro ⟨later, h, rfl⟩
    exact ⟨_, _, ⟨hmonth, rfl⟩, ⟨_, later, ⟨hday, rfl⟩, h, rfl⟩, rfl⟩

lemma refuses_digit_blanks (segments : List Segment) :
    Refuses isDecimalDigit (.blanks :: segments) := fun t found hreads =>
  (refuses_blanks segments t found hreads).of_imp fun c hc => by simp [isBlank_of_isDecimalDigit hc]

theorem reads_timeWord {hour minute second : Text} (hhour : hour ∈ Token.posint.language)
    (hminute : minute ∈ Token.posint.language) (hsecond : second ∈ Token.posint.language)
    (hrest : Stops isBlank rest) :
    Reads (timeOfDay ++ .blanks :: segments)
      (hour ++ ':' :: (minute ++ ':' :: (second ++ ' ' :: rest))) entries ↔
      ∃ later, Reads segments rest later ∧
        entries = ("hours", hour) :: ("minutes", minute) :: ("seconds", second) :: later := by
  rw [reads_timeOfDay hhour hminute hsecond (refuses_digit_blanks _) (stops_cons.2 (by decide))]
  simp only [reads_blanks hrest]

theorem eq_or_exists_of_mem_offset {t : Text} (h : t ∈ Token.offset.language) :
    t = ['Z'] ∨ ∃ sign u, (sign = '+' ∨ sign = '-') ∧ t = sign :: u := by
  rcases h with h | h
  · exact .inl h
  · rw [mul_assoc, mul_assoc] at h
    obtain ⟨_, ⟨sign, hsign, rfl⟩, u, -, rfl⟩ := h
    refine .inr ⟨sign, u, ?_, rfl⟩
    simpa using hsign

lemma stops_of_mem_offset {p : Char → Bool} (hp : p 'Z' = false ∧ p '+' = false ∧ p '-' = false)
    {t : Text} (h : t ∈ Token.offset.language) : t ≠ [] ∧ Stops p t := by
  rcases eq_or_exists_of_mem_offset h with rfl | ⟨sign, u, rfl | rfl, rfl⟩
  · exact ⟨by simp, stops_cons.2 hp.1⟩
  · exact ⟨by simp, stops_cons.2 hp.2.1⟩
  · exact ⟨by simp, stops_cons.2 hp.2.2⟩

lemma refuses_offset {p : Char → Bool} (hp : p 'Z' = false ∧ p '+' = false ∧ p '-' = false) :
    Refuses p (zoneOffset :: segments) :=
  refuses_cons fun _ hpiece => stops_of_mem_offset hp hpiece

/-- The digits of a fraction before an offset. The Z of a fraction is left to the offset, which has
to start with something. -/
theorem reads_fraction {digits offset : Text} (hdigits : digits ∈ Token.posint.language)
    (hoffset : offset ∈ Token.offset.language) :
    Reads (fraction ++ [zoneOffset]) ('.' :: (digits ++ offset)) entries ↔
      entries = [("milliseconds", digits), ("timeOffset", offset)] := by
  change Reads (word "." :: field .fraction "milliseconds" :: [zoneOffset]) _ _ ↔ _
  rw [reads_mark rfl]
  have hstop : ∀ t ∈ Token.offset.language, t ≠ [] ∧ Stops isDecimalDigit t :=
    fun _ => stops_of_mem_offset (by decide)
  constructor
  · intro h
    obtain ⟨_, ⟨run, hrun, zulu, hzulu, rfl⟩, u, later, hu, htext, rfl⟩ := reads_cons.1 h
    obtain ⟨hmem, rfl⟩ := reads_token.1 hu
    have hrest : Stops isDecimalDigit (zulu ++ u) := by
      rcases hzulu with rfl | rfl
      · exact stops_cons.2 (by decide)
      · exact (hstop u hmem).2
    rw [List.append_assoc] at htext
    obtain ⟨rfl, htail⟩ := run_unique (mem_runOf.1 hrun).2 hrest (mem_posint.1 hdigits).2
      (hstop offset hoffset).2 htext
    rcases hzulu with rfl | rfl
    · rcases eq_or_exists_of_mem_offset hoffset with rfl | ⟨sign, t, hsign, rfl⟩
      · exact absurd (List.cons.inj htail).2 (hstop u hmem).1
      · obtain ⟨rfl, -⟩ := List.cons.inj htail
        simp at hsign
    · obtain rfl : u = offset := htail
      simp [Segment.capture, Segment.field?, field]
  · rintro rfl
    have hfraction : digits ∈ Token.fraction.language := ⟨digits, hdigits, [], .inr rfl, by simp⟩
    exact .token hfraction (reads_token.2 ⟨hoffset, rfl⟩)

end Syslog.Catalog.Bundled
