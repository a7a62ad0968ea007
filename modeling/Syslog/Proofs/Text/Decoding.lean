import Mathlib.Data.List.Forall2
import Mathlib.Data.List.Induction
import Syslog.Proofs.Text.Encoding

/-!
# Texts that decode

Strict decoding undoes encoding and accepts nothing else. A character begun is one that every
completion within its ranges turns into a character with these bytes as its encoding, so what was
read so far is the encoding of the characters read, and the bytes of the one begun.
-/
namespace Syslog.Text.Utf8

section Characters

variable {a b c d : ℕ}

lemma toNat_ofNat_of_valid {n : ℕ} (h : n < 0xD800 ∨ 0xDFFF < n ∧ n < 0x110000) :
    (Char.ofNat n).val.toNat = n := by
  have hvalid : n.isValidChar := h
  rw [Char.ofNat, dif_pos hvalid]
  rfl

lemma encode_one (ha : a < 0x80) :
    String.utf8EncodeChar (Char.ofNat a) = [UInt8.ofNat a] := by
  have hcode := toNat_ofNat_of_valid (n := a) (by omega)
  simp only [String.utf8EncodeChar, hcode]
  rw [if_pos (by omega)]

lemma encode_two (ha : 0xC2 ≤ a ∧ a ≤ 0xDF) (hb : 0x80 ≤ b ∧ b ≤ 0xBF) :
    String.utf8EncodeChar (Char.ofNat ((a - 0xC0) * 64 + b % 64)) =
      [UInt8.ofNat a, UInt8.ofNat b] := by
  obtain ⟨n, hn⟩ : ∃ n, n = (a - 0xC0) * 64 + b % 64 := ⟨_, rfl⟩
  have hcode := toNat_ofNat_of_valid (n := n) (by omega)
  have hfirst : n / 64 % 0x20 + 0xC0 = a := by omega
  have hsecond : n % 0x40 + 0x80 = b := by omega
  rw [← hn]
  simp only [String.utf8EncodeChar, hcode]
  rw [if_neg (by omega), if_pos (by omega), hfirst, hsecond]

lemma encode_three (ha : 0xE0 ≤ a ∧ a ≤ 0xEF) (hb : 0x80 ≤ b ∧ b ≤ 0xBF)
    (hc : 0x80 ≤ c ∧ c ≤ 0xBF) (hlow : a = 0xE0 → 0xA0 ≤ b) (hhigh : a = 0xED → b ≤ 0x9F) :
    String.utf8EncodeChar (Char.ofNat (((a - 0xE0) * 64 + b % 64) * 64 + c % 64)) =
      [UInt8.ofNat a, UInt8.ofNat b, UInt8.ofNat c] := by
  obtain ⟨n, hn⟩ : ∃ n, n = ((a - 0xE0) * 64 + b % 64) * 64 + c % 64 := ⟨_, rfl⟩
  have hcode := toNat_ofNat_of_valid (n := n) (by omega)
  have hfirst : n / 4096 % 0x10 + 0xE0 = a := by omega
  have hsecond : n / 64 % 0x40 + 0x80 = b := by omega
  have hthird : n % 0x40 + 0x80 = c := by omega
  rw [← hn]
  simp only [String.utf8EncodeChar, hcode]
  rw [if_neg (by omega), if_neg (by omega), if_pos (by omega), hfirst, hsecond, hthird]

lemma encode_four (ha : 0xF0 ≤ a ∧ a ≤ 0xF4) (hb : 0x80 ≤ b ∧ b ≤ 0xBF)
    (hc : 0x80 ≤ c ∧ c ≤ 0xBF) (hd : 0x80 ≤ d ∧ d ≤ 0xBF) (hlow : a = 0xF0 → 0x90 ≤ b)
    (hhigh : a = 0xF4 → b ≤ 0x8F) :
    String.utf8EncodeChar
        (Char.ofNat ((((a - 0xF0) * 64 + b % 64) * 64 + c % 64) * 64 + d % 64)) =
      [UInt8.ofNat a, UInt8.ofNat b, UInt8.ofNat c, UInt8.ofNat d] := by
  obtain ⟨n, hn⟩ : ∃ n, n = (((a - 0xF0) * 64 + b % 64) * 64 + c % 64) * 64 + d % 64 := ⟨_, rfl⟩
  have hcode := toNat_ofNat_of_valid (n := n) (by omega)
  have hfirst : n / 262144 % 0x08 + 0xF0 = a := by omega
  have hsecond : n / 4096 % 0x40 + 0x80 = b := by omega
  have hthird : n / 64 % 0x40 + 0x80 = c := by omega
  have hfourth : n % 0x40 + 0x80 = d := by omega
  rw [← hn]
  simp only [String.utf8EncodeChar, hcode]
  rw [if_neg (by omega), if_neg (by omega), if_neg (by omega), hfirst, hsecond, hthird, hfourth]

end Characters

/-- The byte lies in a range. -/
def Within (range : UInt8 × UInt8) (byte : UInt8) : Prop := range.1 ≤ byte ∧ byte ≤ range.2

/-- The bits of a character begun with those of more bytes. -/
def bitsAfter (bits : ℕ) (bytes : List UInt8) : ℕ :=
  bytes.foldl (fun bits byte => bits * 64 + byte.toNat % 64) bits

/-- The character begun is the one that these bytes begin, however it goes on. -/
def Begun.StartsWith (begun : Begun) (pending : List UInt8) : Prop :=
  ∀ rest, List.Forall₂ Within (begun.next :: begun.later) rest →
    String.utf8EncodeChar (Char.ofNat (bitsAfter begun.bits rest)) = pending ++ rest

lemma toNat_of_within {low high byte : UInt8} (h : Within (low, high) byte) :
    low.toNat ≤ byte.toNat ∧ byte.toNat ≤ high.toNat :=
  ⟨UInt8.le_iff_toNat_le.1 h.1, UInt8.le_iff_toNat_le.1 h.2⟩

lemma startsWith_two {byte : UInt8} (hbyte : 0xC2 ≤ byte.toNat ∧ byte.toNat ≤ 0xDF) :
    Begun.StartsWith ⟨byte.toNat - 0xC0, tail, []⟩ [byte] := by
  intro rest hwithin
  obtain ⟨b, _, hb, hnil, rfl⟩ := List.forall₂_cons_left_iff.1 hwithin
  obtain rfl := List.forall₂_nil_left_iff.1 hnil
  have hencode := encode_two hbyte (toNat_of_within hb)
  rwa [UInt8.ofNat_toNat, UInt8.ofNat_toNat] at hencode

lemma startsWith_three (byte : UInt8) {low high : UInt8}
    (hbyte : 0xE0 ≤ byte.toNat ∧ byte.toNat ≤ 0xEF) (htail : 0x80 ≤ low.toNat ∧ high.toNat ≤ 0xBF)
    (hlow : byte.toNat = 0xE0 → 0xA0 ≤ low.toNat)
    (hhigh : byte.toNat = 0xED → high.toNat ≤ 0x9F) :
    Begun.StartsWith ⟨byte.toNat - 0xE0, (low, high), [tail]⟩ [byte] := by
  intro rest hwithin
  obtain ⟨b, _, hb, hlater, rfl⟩ := List.forall₂_cons_left_iff.1 hwithin
  obtain ⟨c, _, hc, hnil, rfl⟩ := List.forall₂_cons_left_iff.1 hlater
  obtain rfl := List.forall₂_nil_left_iff.1 hnil
  have hb := toNat_of_within hb
  have hencode := encode_three hbyte (b := b.toNat) (by omega) (toNat_of_within hc) (by omega)
    (by omega)
  rwa [UInt8.ofNat_toNat, UInt8.ofNat_toNat, UInt8.ofNat_toNat] at hencode

lemma startsWith_four (byte : UInt8) {low high : UInt8}
    (hbyte : 0xF0 ≤ byte.toNat ∧ byte.toNat ≤ 0xF4) (htail : 0x80 ≤ low.toNat ∧ high.toNat ≤ 0xBF)
    (hlow : byte.toNat = 0xF0 → 0x90 ≤ low.toNat)
    (hhigh : byte.toNat = 0xF4 → high.toNat ≤ 0x8F) :
    Begun.StartsWith ⟨byte.toNat - 0xF0, (low, high), [tail, tail]⟩ [byte] := by
  intro rest hwithin
  obtain ⟨b, _, hb, hlater, rfl⟩ := List.forall₂_cons_left_iff.1 hwithin
  obtain ⟨c, _, hc, hlast, rfl⟩ := List.forall₂_cons_left_iff.1 hlater
  obtain ⟨d, _, hd, hnil, rfl⟩ := List.forall₂_cons_left_iff.1 hlast
  obtain rfl := List.forall₂_nil_left_iff.1 hnil
  have hb := toNat_of_within hb
  have hencode := encode_four hbyte (b := b.toNat) (by omega) (toNat_of_within hc)
    (toNat_of_within hd) (by omega) (by omega)
  rwa [UInt8.ofNat_toNat, UInt8.ofNat_toNat, UInt8.ofNat_toNat, UInt8.ofNat_toNat] at hencode

theorem startsWith_of_begin? {byte : UInt8} {begun : Begun} (h : begin? byte = some begun) :
    begun.StartsWith [byte] := by
  have hle : ∀ {low high : UInt8}, low ≤ byte ∧ byte ≤ high →
      low.toNat ≤ byte.toNat ∧ byte.toNat ≤ high.toNat := toNat_of_within
  have htail : 0x80 ≤ tail.1.toNat ∧ tail.2.toNat ≤ 0xBF := by decide
  unfold begin? at h
  split_ifs at h with htwo he0 hed hthree hf0 hfour hf4
  · obtain rfl := Option.some.inj h
    exact startsWith_two (hle htwo)
  · obtain rfl := Option.some.inj h
    subst he0
    exact startsWith_three 0xE0 (by decide) (by decide) (by decide) (by decide)
  · obtain rfl := Option.some.inj h
    subst hed
    exact startsWith_three 0xED (by decide) (by decide) (by decide) (by decide)
  · obtain rfl := Option.some.inj h
    have he0 : byte.toNat ≠ 0xE0 := fun heq => he0 (UInt8.toNat_inj.1 heq)
    have hed : byte.toNat ≠ 0xED := fun heq => hed (UInt8.toNat_inj.1 heq)
    have hrange : 0xE1 ≤ byte.toNat ∧ byte.toNat ≤ 0xEF := hle hthree
    exact startsWith_three byte (by omega) htail (fun heq => absurd heq he0)
      fun heq => absurd heq hed
  · obtain rfl := Option.some.inj h
    subst hf0
    exact startsWith_four 0xF0 (by decide) (by decide) (by decide) (by decide)
  · obtain rfl := Option.some.inj h
    have hrange : 0xF1 ≤ byte.toNat ∧ byte.toNat ≤ 0xF3 := hle hfour
    exact startsWith_four byte (by omega) htail (by omega) (by omega)
  · obtain rfl := Option.some.inj h
    subst hf4
    exact startsWith_four 0xF4 (by decide) (by decide) (by decide) (by decide)

/-- All that was read are characters; the bytes are their encoding and those of the one begun. -/
def Decoder.HasRead (decoder : Decoder) (bytes : List UInt8) : Prop :=
  ∃ (t : Text) (pending : List UInt8), decoder.units = (t.map some).reverse ∧
    bytes = encode t ++ pending ∧
    match decoder.begun with
    | none => pending = []
    | some begun => begun.StartsWith pending

lemma encode_concat (t : Text) (c : Char) :
    encode (t ++ [c]) = encode t ++ String.utf8EncodeChar c := by
  simp [encode]

lemma none_mem_first {units : List (Option Char)} (byte : UInt8) (h : none ∈ units) :
    none ∈ (first units byte).units := by
  unfold first
  split_ifs
  · exact List.mem_cons_of_mem _ h
  · cases begin? byte with
    | none => exact List.mem_cons_self
    | some begun => exact h

lemma none_mem_step {decoder : Decoder} (byte : UInt8) (h : none ∈ decoder.units) :
    none ∈ (decoder.step byte).units := by
  obtain ⟨units, begun⟩ := decoder
  cases begun with
  | none => exact none_mem_first byte h
  | some begun =>
    obtain ⟨bits, ⟨low, high⟩, later⟩ := begun
    simp only [Decoder.step]
    split_ifs
    · cases later with
      | nil => exact List.mem_cons_of_mem _ h
      | cons next later => exact h
    · exact none_mem_first byte (List.mem_cons_of_mem _ h)

lemma hasRead_first {t : Text} (byte : UInt8) :
    (first (t.map some).reverse byte).HasRead (encode t ++ [byte]) ∨
      none ∈ (first (t.map some).reverse byte).units := by
  unfold first
  split_ifs with hone
  · have hencode := encode_one (UInt8.lt_iff_toNat_lt.1 hone)
    rw [UInt8.ofNat_toNat] at hencode
    refine .inl ⟨t ++ [Char.ofNat byte.toNat], [], by simp, ?_, rfl⟩
    rw [encode_concat, hencode, List.append_nil]
  · cases hbegin : begin? byte with
    | none => exact .inr List.mem_cons_self
    | some begun => exact .inl ⟨t, [byte], rfl, rfl, startsWith_of_begin? hbegin⟩

/-- A byte goes on with what was read, or there is an ill-formed part. -/
theorem Decoder.HasRead.step {decoder : Decoder} {bytes : List UInt8} (h : decoder.HasRead bytes)
    (byte : UInt8) :
    (decoder.step byte).HasRead (bytes ++ [byte]) ∨ none ∈ (decoder.step byte).units := by
  obtain ⟨units, begun⟩ := decoder
  obtain ⟨t, pending, hunits, rfl, hpending⟩ := h
  obtain rfl : units = (t.map some).reverse := hunits
  cases begun with
  | none =>
    obtain rfl : pending = [] := hpending
    rw [List.append_nil]
    exact hasRead_first byte
  | some begun =>
    obtain ⟨bits, ⟨low, high⟩, later⟩ := begun
    have hstarts : Begun.StartsWith ⟨bits, (low, high), later⟩ pending := hpending
    simp only [Decoder.step]
    split_ifs with hrange
    · rw [List.append_assoc]
      cases later with
      | nil =>
        -- the last byte of the character
        have hencode := hstarts [byte] (.cons hrange .nil)
        refine .inl ⟨t ++ [Char.ofNat (bits * 64 + byte.toNat % 64)], [], by simp, ?_, rfl⟩
        rw [encode_concat, List.append_nil]
        exact congrArg _ hencode.symm
      | cons next later =>
        refine .inl ⟨t, pending ++ [byte], rfl, rfl, fun rest hrest => ?_⟩
        have hencode := hstarts (byte :: rest) (.cons hrange hrest)
        rw [List.append_assoc]
        exact hencode
    · exact .inr (none_mem_first byte List.mem_cons_self)

lemma hasRead_foldl (bytes : List UInt8) :
    (bytes.foldl Decoder.step Decoder.empty).HasRead bytes ∨
      none ∈ (bytes.foldl Decoder.step Decoder.empty).units := by
  induction bytes using List.reverseRecOn with
  | nil => exact .inl ⟨[], [], rfl, rfl, rfl⟩
  | append_singleton bytes byte ih =>
    rw [List.foldl_append, List.foldl_cons, List.foldl_nil]
    rcases ih with h | h
    · exact h.step byte
    · exact .inr (none_mem_step byte h)

lemma decode?_eq_none {bytes : List UInt8} (h : none ∈ units bytes) : decode? bytes = none := by
  rw [decode?, if_neg]
  exact fun hall => absurd (List.all_eq_true.1 hall none h) (by decide)

theorem exists_eq_encode {bytes : List UInt8} (h : none ∉ units bytes) :
    ∃ t, bytes = encode t := by
  rw [units, Decoder.finish] at h
  rcases hasRead_foldl bytes with ⟨t, pending, -, hbytes, hpending⟩ | hmem
  · split at h
    · next hbegun =>
      rw [hbegun] at hpending
      obtain rfl : pending = [] := hpending
      exact ⟨t, by rw [hbytes, List.append_nil]⟩
    · exact absurd (by simp) h
  · split at h
    · exact absurd (List.mem_reverse.2 hmem) h
    · exact absurd (by simp) h

/-- The strict decoder reads the encodings of texts and refuses all other bytes. -/
theorem decode?_eq_some_iff {bytes : List UInt8} {t : Text} :
    decode? bytes = some t ↔ bytes = encode t := by
  refine ⟨fun h => ?_, fun h => h ▸ decode?_encode t⟩
  have hnone : none ∉ units bytes := by
    intro hmem
    rw [decode?_eq_none hmem] at h
    cases h
  obtain ⟨s, rfl⟩ := exists_eq_encode hnone
  rw [decode?_encode] at h
  rw [Option.some.inj h]

end Syslog.Text.Utf8
