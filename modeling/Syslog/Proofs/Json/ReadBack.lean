import Syslog.Json.Reader
import Syslog.Proofs.Grammar.Words
import Syslog.Proofs.Text.Numerals

/-!
# Reading back JSON

What is written of a value is read as that value, whatever follows it: quotes end a string, braces
an object, and a number ends where nothing follows that belongs to it. No control character stands
in a line.
-/
namespace Syslog.Json
open Text

lemma codeUnit?_append {s : Text} {n : ℕ} (hlength : s.length = 4)
    (h : codeUnit? s = some (n, [])) (t : Text) : codeUnit? (s ++ t) = some (n, t) := by
  match s, hlength with
  | [a, b, c, d], _ =>
    obtain ⟨digits, hdigits, hpair⟩ := Option.map_eq_some_iff.1 h
    simp only [List.cons_append, List.nil_append, codeUnit?, hdigits, Option.map_some]
    rw [(Prod.mk.inj hpair).1]

lemma codeUnit?_control : ∀ n < 0x20, ((Nat.toDigits 16 n).leftpad 4 '0').length = 4 ∧
    codeUnit? ((Nat.toDigits 16 n).leftpad 4 '0') = some (n, []) := by decide

lemma escapedUnit?_of_isValidChar {s t : Text} {n : ℕ} (h : codeUnit? s = some (n, t))
    (hvalid : n.isValidChar) : escapedUnit? s = some (Char.ofNat n, t) := by
  rw [escapedUnit?, h]
  exact if_pos hvalid

lemma characters?_backslash {s t : Text} {c : Char} (h : escaped? s = some (c, t)) (fuel : ℕ) :
    characters? (fuel + 1) ('\\' :: s) = (characters? fuel t).map fun (s, t) => (c :: s, t) := by
  rw [characters?, h]
  rfl

theorem characters?_escape (c : Char) (fuel : ℕ) (t : Text) :
    characters? (fuel + 1) (escape c ++ t) =
      (characters? fuel t).map fun (s, t) => (c :: s, t) := by
  fun_cases escape c
  case case8 _ _ _ _ _ _ _ hcontrol =>
    obtain ⟨hlength, hcode⟩ := codeUnit?_control c.toNat hcontrol
    have hunit : escaped? ('u' :: _) = some (Char.ofNat c.toNat, t) :=
      escapedUnit?_of_isValidChar (codeUnit?_append hlength hcode t) c.valid
    rw [Char.ofNat_toNat] at hunit
    exact characters?_backslash hunit fuel
  case case9 hquote hbackslash _ _ _ _ _ hprintable =>
    rw [List.singleton_append, characters?, if_neg hprintable]
    · exact hquote
    · exact hbackslash
  -- the characters with a short escape
  all_goals exact characters?_backslash rfl fuel

lemma escape_ne_nil (c : Char) : escape c ≠ [] := by
  fun_cases escape c <;> simp

theorem characters?_flatMap {s : Text} {fuel : ℕ} (hfuel : s.length ≤ fuel) (t : Text) :
    characters? fuel (s.flatMap escape ++ '"' :: t) = some (s, t) := by
  induction s generalizing fuel with
  | nil => cases fuel <;> rfl
  | cons c s ih =>
    cases fuel with
    | zero => cases hfuel
    | succ fuel =>
      rw [List.flatMap_cons, List.append_assoc, characters?_escape,
        ih (Nat.le_of_succ_le_succ hfuel)]
      rfl

theorem string?_quote (s t : Text) : string? (quote s ++ t) = some (s, t) := by
  have hfuel : s.length ≤ (s.flatMap escape ++ '"' :: t).length := by
    rw [List.length_append]
    exact Nat.le_add_right_of_le (length_le_length_flatMap escape_ne_nil s)
  have htext : quote s ++ t = '"' :: (s.flatMap escape ++ '"' :: t) := by simp [quote]
  rw [htext]
  exact characters?_flatMap hfuel t

lemma magnitude?_ofNat (n : ℕ) {t : Text} (h : Stops isNumberPart t) :
    magnitude? (ofNat n ++ t) = some (n, t) := by
  have hdigits : ∀ c ∈ ofNat n, c.isDigit = true := fun c => isDigit_of_mem_ofNat
  have hstops : Stops Char.isDigit t := h.of_imp fun c hc => by simp [isNumberPart, hc]
  have hrest : t.head?.any isNumberPart = false := by
    cases t with
    | nil => rfl
    | cons c t => exact stops_cons.1 h
  have hzero : ¬ (1 < (ofNat n).length ∧ (ofNat n).head? = some '0') := by
    rintro ⟨hlength, hhead⟩
    rcases Nat.eq_zero_or_pos n with rfl | hpos
    · exact absurd hlength (by decide)
    · exact head?_ofNat hpos hhead
  simp only [magnitude?, takeWhile_append hdigits hstops, dropWhile_append hdigits hstops, hrest,
    digits?_ofNat, if_neg hzero]
  rfl

theorem number?_ofInt (n : ℤ) {t : Text} (h : Stops isNumberPart t) :
    number? (ofInt n ++ t) = some (n, t) := by
  have hmagnitude := magnitude?_ofNat n.natAbs h
  rw [ofInt]
  split
  · next hneg =>
    rw [List.cons_append, number?, hmagnitude]
    simp only [Option.map_some, Option.some.injEq, Prod.mk.injEq, and_true]
    omega
  · next hpos =>
    rw [number?, hmagnitude]
    · simp only [Option.map_some, Option.some.injEq, Prod.mk.injEq, and_true]
      omega
    · intro rest hrest
      have hminus : '-' ∈ ofNat n.natAbs := by
        obtain ⟨c, digits, hcons⟩ := List.exists_cons_of_ne_nil (ofNat_ne_nil n.natAbs)
        rw [hcons] at hrest ⊢
        rw [(List.cons.inj hrest).1]
        exact List.mem_cons_self
      exact absurd (isDigit_of_mem_ofNat hminus) (by decide)

lemma value?_int (n : ℤ) (fuel : ℕ) {t : Text} (h : Stops isNumberPart t) :
    value? (fuel + 1) (ofInt n ++ t) = some (int n, t) := by
  have hnumber := number?_ofInt n h
  obtain ⟨c, s, hcons, hc⟩ := exists_cons_ofInt n
  rw [hcons, List.cons_append] at hnumber ⊢
  rw [value?, scalar?, hnumber]
  · rfl
  -- the number starts like no value of another kind
  all_goals exact fun _ heq => hc _ (by decide) (by decide) (List.cons.inj heq).1

lemma value?_string (s : Text) (fuel : ℕ) (t : Text) :
    value? (fuel + 1) (quote s ++ t) = some (string s, t) := by
  change (string? (quote s ++ t)).map _ = _
  rw [string?_quote]
  rfl

lemma skipSpaces_render (json : Json) (t : Text) :
    skipSpaces (json.render ++ t) = json.render ++ t := by
  cases json with
  | null => rfl
  | bool value => cases value <;> rfl
  | int n =>
    obtain ⟨c, s, hcons, hc⟩ := exists_cons_ofInt n
    have hspace : isSpace c = false := by
      simp only [isSpace, Bool.or_eq_false_iff, beq_eq_false_iff_ne]
      exact ⟨⟨⟨hc _ rfl (by decide), hc _ rfl (by decide)⟩, hc _ rfl (by decide)⟩,
        hc _ rfl (by decide)⟩
    rw [render, hcons, List.cons_append, skipSpaces, List.dropWhile_cons_of_neg (by simp [hspace])]
  | string s => rfl
  | object members => rfl

lemma length_render_pos (json : Json) : 0 < json.render.length := by
  cases json with
  | null => decide
  | bool value => cases value <;> decide
  | int n =>
    obtain ⟨c, s, hcons, -⟩ := exists_cons_ofInt n
    rw [render, hcons]
    exact Nat.succ_pos _
  | string s => exact Nat.succ_pos _
  | object members => exact Nat.succ_pos _

lemma exists_quote_of_renderMembers (member : String × Json) (members : List (String × Json)) :
    ∃ s, renderMembers (member :: members) = '"' :: s := by
  cases members with
  | nil => exact ⟨_, rfl⟩
  | cons next members => exact ⟨_, rfl⟩

section Members

variable {name : String} {value : Json} {members : List (String × Json)} {fuel : ℕ} {t rest : Text}

lemma members?_succ (h : value? fuel (value.render ++ t) = some (value, t)) :
    members? (fuel + 1) (quote (ofString name) ++ (':' :: value.render) ++ t) =
      match skipSpaces t with
      | ',' :: t =>
        (members? fuel (skipSpaces t)).bind fun (members, t) => some ((name, value) :: members, t)
      | '\x7d' :: t => some ([(name, value)], t)
      | _ => none := by
  have hname : string? (quote (ofString name) ++ (':' :: value.render ++ t)) =
      some (ofString name, ':' :: value.render ++ t) := string?_quote ..
  have hcolon :
      after? [':'] (skipSpaces (':' :: value.render ++ t)) = some (value.render ++ t) := rfl
  rw [List.append_assoc, members?, hname]
  simp only [Option.bind_eq_bind, Option.bind_some, hcolon, skipSpaces_render, h, ofString,
    String.ofList_toList]
  rfl

lemma members?_last (h : value? fuel (value.render ++ '\x7d' :: t) = some (value, '\x7d' :: t)) :
    members? (fuel + 1) (renderMembers [(name, value)] ++ '\x7d' :: t) =
      some ([(name, value)], t) := members?_succ h

lemma members?_cons (h : value? fuel (value.render ++ ',' :: t) = some (value, ',' :: t))
    (hmembers : members? fuel (skipSpaces t) = some (members, rest)) :
    members? (fuel + 1) (quote (ofString name) ++ (':' :: value.render) ++ ',' :: t) =
      some ((name, value) :: members, rest) := by
  rw [members?_succ h]
  change (members? fuel (skipSpaces t)).bind _ = _
  rw [hmembers]
  rfl

end Members

mutual

/-- A value is read back, unless what follows would continue a number. -/
theorem value?_render (json : Json) {fuel : ℕ} (hfuel : json.render.length ≤ fuel) {t : Text}
    (h : Stops isNumberPart t) : value? fuel (json.render ++ t) = some (json, t) := by
  obtain ⟨fuel, rfl⟩ := Nat.exists_eq_succ_of_ne_zero
    (Nat.ne_of_gt (Nat.lt_of_lt_of_le json.length_render_pos hfuel))
  match json with
  | null => rfl
  | bool true => rfl
  | bool false => rfl
  | int n => exact value?_int n fuel h
  | string s => exact value?_string s fuel t
  | object [] => rfl
  | object (member :: members) =>
    have hlength : (renderMembers (member :: members)).length ≤ fuel := by
      simp only [render, List.length_append, List.length_cons] at hfuel
      omega
    have hmembers := members?_render member members hlength t
    obtain ⟨s, hs⟩ := exists_quote_of_renderMembers member members
    have htext : (object (member :: members)).render ++ t =
        '\x7b' :: (renderMembers (member :: members) ++ '\x7d' :: t) := by simp [render]
    rw [hs] at hmembers htext
    rw [htext]
    change (members? fuel ('"' :: s ++ '\x7d' :: t)).map _ = _
    rw [hmembers]
    rfl

theorem members?_render (member : String × Json) (members : List (String × Json)) {fuel : ℕ}
    (hfuel : (renderMembers (member :: members)).length ≤ fuel) (t : Text) :
    members? fuel (renderMembers (member :: members) ++ '\x7d' :: t) =
      some (member :: members, t) := by
  obtain ⟨name, value⟩ := member
  cases fuel with
  | zero =>
    obtain ⟨s, hs⟩ := exists_quote_of_renderMembers (name, value) members
    rw [hs] at hfuel
    cases hfuel
  | succ fuel =>
    match members with
    | [] =>
      have hlength : value.render.length ≤ fuel := by
        simp only [renderMembers, List.length_append, List.length_cons] at hfuel
        omega
      exact members?_last (value?_render value hlength (stops_cons.2 rfl))
    | next :: members =>
      have hlength : value.render.length ≤ fuel ∧
          (renderMembers (next :: members)).length ≤ fuel := by
        simp only [renderMembers, List.length_append, List.length_cons] at hfuel
        omega
      have hvalue := value?_render value hlength.1
        (t := ',' :: (renderMembers (next :: members) ++ '\x7d' :: t)) (stops_cons.2 rfl)
      have hmembers := members?_render next members hlength.2 t
      have hstart : skipSpaces (renderMembers (next :: members) ++ '\x7d' :: t) =
          renderMembers (next :: members) ++ '\x7d' :: t := by
        obtain ⟨s, hs⟩ := exists_quote_of_renderMembers next members
        rw [hs]
        rfl
      rw [renderMembers, List.append_assoc]
      · exact members?_cons hvalue (hstart ▸ hmembers)
      · nofun

end

lemma control_escape : ∀ n < 0x20, ∀ c ∈ (Nat.toDigits 16 n).leftpad 4 '0', 0x20 ≤ c.toNat := by
  decide

lemma le_toNat_of_mem_escape {c d : Char} (h : d ∈ escape c) : 0x20 ≤ d.toNat := by
  revert h
  fun_cases escape c
  case case8 _ _ _ _ _ _ _ hcontrol =>
    have hmark : ∀ d ∈ ['\\', 'u'], 0x20 ≤ d.toNat := by decide
    intro h
    rcases List.mem_append.1 h with h | h
    · exact hmark d h
    · exact control_escape c.toNat hcontrol d h
  case case9 _ _ _ _ _ _ _ hprintable =>
    intro h
    rw [List.mem_singleton.1 h]
    exact Nat.le_of_not_lt hprintable
  -- the characters with a short escape
  all_goals
    revert d
    decide

lemma le_toNat_of_mem_quote {c : Char} {s : Text} (h : c ∈ quote s) : 0x20 ≤ c.toNat := by
  simp only [quote, List.mem_cons, List.mem_append, List.not_mem_nil, or_false,
    List.mem_flatMap] at h
  rcases h with (rfl | ⟨d, -, hd⟩) | rfl
  · decide
  · exact le_toNat_of_mem_escape hd
  · decide

lemma le_toNat_of_mem_ofInt {c : Char} {n : ℤ} (h : c ∈ ofInt n) : 0x20 ≤ c.toNat := by
  rcases mem_ofInt h with rfl | hdigit
  · decide
  · exact Nat.le_trans (by decide) (toNat_of_isDigit hdigit).1

mutual

theorem le_toNat_of_mem_render (json : Json) {c : Char} (h : c ∈ json.render) :
    0x20 ≤ c.toNat := by
  match json with
  | null =>
    revert c
    decide
  | bool value =>
    revert c
    cases value <;> decide
  | int n => exact le_toNat_of_mem_ofInt h
  | string s => exact le_toNat_of_mem_quote h
  | object members =>
    simp only [render, List.mem_append, List.mem_cons, List.not_mem_nil, or_false] at h
    rcases h with (rfl | h) | rfl
    · decide
    · exact le_toNat_of_mem_renderMembers members h
    · decide

lemma le_toNat_of_mem_renderMembers (members : List (String × Json)) {c : Char}
    (h : c ∈ renderMembers members) : 0x20 ≤ c.toNat := by
  match members with
  | [] => cases h
  | [(name, value)] =>
    rw [renderMembers] at h
    rcases List.mem_append.1 h with h | h
    · exact le_toNat_of_mem_quote h
    · rcases List.mem_cons.1 h with rfl | h
      · decide
      · exact le_toNat_of_mem_render value h
  | (name, value) :: next :: members =>
    simp only [renderMembers, List.mem_append, List.mem_cons] at h
    rcases h with (h | rfl | h) | rfl | h
    · exact le_toNat_of_mem_quote h
    · decide
    · exact le_toNat_of_mem_render value h
    · decide
    · exact le_toNat_of_mem_renderMembers (next :: members) h

end

end Syslog.Json
