import Mathlib.Data.List.Basic
import Syslog.Text.Utf8

/-!
# Decoding encoded texts

A decoder that reads the encoding of a character between two characters has read that character, so
the lenient reading of an encoded text is the text.
-/
namespace Syslog.Text.Utf8

lemma toNat_byte {n : ℕ} (h : n < 256) : (UInt8.ofNat n).toNat = n := by
  rw [UInt8.toNat_ofNat']
  exact Nat.mod_eq_of_lt h

/-- The range of the second byte of three after a first byte that carries four bits. -/
def secondOfThree (bits : ℕ) : UInt8 × UInt8 :=
  if bits = 0 then (0xA0, 0xBF) else if bits = 13 then (0x80, 0x9F) else tail

/-- The range of the second byte of four after a first byte that carries three bits. -/
def secondOfFour (bits : ℕ) : UInt8 × UInt8 :=
  if bits = 0 then (0x90, 0xBF) else if bits = 4 then (0x80, 0x8F) else tail

lemma begin?_two : ∀ bits < 32, 2 ≤ bits →
    begin? (UInt8.ofNat (bits + 0xC0)) = some ⟨bits, tail, []⟩ := by decide

lemma begin?_three : ∀ bits < 16,
    begin? (UInt8.ofNat (bits + 0xE0)) = some ⟨bits, secondOfThree bits, [tail]⟩ := by decide

lemma begin?_four : ∀ bits < 5,
    begin? (UInt8.ofNat (bits + 0xF0)) = some ⟨bits, secondOfFour bits, [tail, tail]⟩ := by decide

lemma step_begin {units : List (Option Char)} {n : ℕ} {begun : Begun} (hlow : 0x80 ≤ n)
    (hhigh : n < 256) (h : begin? (UInt8.ofNat n) = some begun) :
    Decoder.step ⟨units, none⟩ (UInt8.ofNat n) = ⟨units, some begun⟩ := by
  have hbyte : ¬ UInt8.ofNat n < 0x80 := by
    rw [UInt8.lt_iff_toNat_lt, toNat_byte hhigh]
    exact Nat.not_lt.2 hlow
  simp only [Decoder.step, first, hbyte, ↓reduceIte, h]

lemma step_within {units : List (Option Char)} {bits n : ℕ} {range : UInt8 × UInt8}
    {later : List (UInt8 × UInt8)} (hlow : range.1.toNat ≤ n) (hhigh : n ≤ range.2.toNat) :
    Decoder.step ⟨units, some ⟨bits, range, later⟩⟩ (UInt8.ofNat n) =
      match later with
      | [] => ⟨some (Char.ofNat (bits * 64 + n % 64)) :: units, none⟩
      | next :: later => ⟨units, some ⟨bits * 64 + n % 64, next, later⟩⟩ := by
  have hbyte : (UInt8.ofNat n).toNat = n := toNat_byte (Nat.lt_of_le_of_lt hhigh range.2.toNat_lt)
  have hrange : range.1 ≤ UInt8.ofNat n ∧ UInt8.ofNat n ≤ range.2 := by
    rw [UInt8.le_iff_toNat_le, UInt8.le_iff_toNat_le, hbyte]
    exact ⟨hlow, hhigh⟩
  cases later <;> simp only [Decoder.step, hrange, and_self, ↓reduceIte, hbyte]

lemma step_tail {units : List (Option Char)} {bits n : ℕ} {later : List (UInt8 × UInt8)} :
    Decoder.step ⟨units, some ⟨bits, tail, later⟩⟩ (UInt8.ofNat (n % 0x40 + 0x80)) =
      match later with
      | [] => ⟨some (Char.ofNat (bits * 64 + n % 64)) :: units, none⟩
      | next :: later => ⟨units, some ⟨bits * 64 + n % 64, next, later⟩⟩ := by
  have hmod : (n % 0x40 + 0x80) % 64 = n % 64 := by omega
  have hlow : tail.1.toNat = 0x80 := rfl
  have hhigh : tail.2.toNat = 0xBF := rfl
  rw [step_within (by omega) (by omega), hmod]

lemma step_secondOfThree {units : List (Option Char)} {n : ℕ} (hlow : 0x7FF < n)
    (hhigh : n ≤ 0xFFFF) (hsurrogate : n < 0xD800 ∨ 0xDFFF < n) :
    Decoder.step ⟨units, some ⟨n / 4096, secondOfThree (n / 4096), [tail]⟩⟩
      (UInt8.ofNat (n / 64 % 0x40 + 0x80)) = ⟨units, some ⟨n / 64, tail, []⟩⟩ := by
  have hrange : (secondOfThree (n / 4096)).1.toNat ≤ n / 64 % 0x40 + 0x80 ∧
      n / 64 % 0x40 + 0x80 ≤ (secondOfThree (n / 4096)).2.toNat := by
    unfold secondOfThree
    split_ifs <;> simp [tail] <;> omega
  have hbits : n / 4096 * 64 + (n / 64 % 0x40 + 0x80) % 64 = n / 64 := by omega
  rw [step_within hrange.1 hrange.2, hbits]

lemma step_secondOfFour {units : List (Option Char)} {n : ℕ} (hlow : 0xFFFF < n)
    (hhigh : n < 0x110000) :
    Decoder.step ⟨units, some ⟨n / 262144, secondOfFour (n / 262144), [tail, tail]⟩⟩
      (UInt8.ofNat (n / 4096 % 0x40 + 0x80)) = ⟨units, some ⟨n / 4096, tail, [tail]⟩⟩ := by
  have hrange : (secondOfFour (n / 262144)).1.toNat ≤ n / 4096 % 0x40 + 0x80 ∧
      n / 4096 % 0x40 + 0x80 ≤ (secondOfFour (n / 262144)).2.toNat := by
    unfold secondOfFour
    split_ifs <;> simp [tail] <;> omega
  have hbits : n / 262144 * 64 + (n / 4096 % 0x40 + 0x80) % 64 = n / 4096 := by omega
  rw [step_within hrange.1 hrange.2, hbits]

theorem foldl_step_encode (units : List (Option Char)) (c : Char) :
    (String.utf8EncodeChar c).foldl Decoder.step ⟨units, none⟩ = ⟨some c :: units, none⟩ := by
  have hvalid : c.toNat < 0xD800 ∨ 0xDFFF < c.toNat ∧ c.toNat < 0x110000 := c.valid
  have hchar : Char.ofNat c.toNat = c := Char.ofNat_toNat c
  have hcode : c.val.toNat = c.toNat := rfl
  simp only [String.utf8EncodeChar, hcode]
  -- the number of bytes by the number of the character
  generalize c.toNat = n at *
  split_ifs with hone htwo hthree
  · have hbyte : UInt8.ofNat n < 0x80 := by
      rw [UInt8.lt_iff_toNat_lt, toNat_byte (by omega)]
      exact Nat.lt_succ_of_le hone
    simp only [List.foldl_cons, List.foldl_nil, Decoder.step, first, hbyte, ↓reduceIte]
    rw [toNat_byte (by omega), hchar]
  · have hfirst : n / 64 % 0x20 = n / 64 := by omega
    have hbits : n / 64 * 64 + n % 64 = n := by omega
    simp only [List.foldl_cons, List.foldl_nil, hfirst]
    rw [step_begin (by omega) (by omega) (begin?_two (n / 64) (by omega) (by omega)), step_tail]
    simp only [hbits, hchar]
  · have hfirst : n / 4096 % 0x10 = n / 4096 := by omega
    have hbits : n / 64 * 64 + n % 64 = n := by omega
    simp only [List.foldl_cons, List.foldl_nil, hfirst]
    rw [step_begin (by omega) (by omega) (begin?_three (n / 4096) (by omega)),
      step_secondOfThree (by omega) (by omega) (by omega), step_tail]
    simp only [hbits, hchar]
  · have hfirst : n / 262144 % 0x08 = n / 262144 := by omega
    have hmiddle : n / 4096 * 64 + n / 64 % 64 = n / 64 := by omega
    have hbits : n / 64 * 64 + n % 64 = n := by omega
    simp only [List.foldl_cons, List.foldl_nil, hfirst]
    rw [step_begin (by omega) (by omega) (begin?_four (n / 262144) (by omega)),
      step_secondOfFour (by omega) (by omega), step_tail]
    simp only [hmiddle]
    rw [step_tail]
    simp only [hbits, hchar]

lemma foldl_encode (units : List (Option Char)) (t : Text) :
    (encode t).foldl Decoder.step ⟨units, none⟩ = ⟨(t.map some).reverse ++ units, none⟩ := by
  induction t generalizing units with
  | nil => rfl
  | cons c t ih =>
    rw [encode, List.flatMap_cons, List.foldl_append, foldl_step_encode, ← encode, ih]
    simp

lemma units_encode (t : Text) : units (encode t) = t.map some := by
  rw [units, Decoder.empty, foldl_encode]
  simp [Decoder.finish]

/-- The lenient reading of an encoded text is the text. -/
@[simp] theorem decodeLossy_encode (t : Text) : decodeLossy (encode t) = t := by
  rw [decodeLossy, units_encode, List.map_map]
  exact List.map_id' t

/-- So is the strict one. -/
@[simp] theorem decode?_encode (t : Text) : decode? (encode t) = some t := by
  rw [decode?, units_encode]
  simp

lemma step_append (units before : List (Option Char)) (begun : Option Begun) (byte : UInt8) :
    Decoder.step ⟨units ++ before, begun⟩ byte =
      ⟨(Decoder.step ⟨units, begun⟩ byte).units ++ before,
        (Decoder.step ⟨units, begun⟩ byte).begun⟩ := by
  have hfirst : ∀ units : List (Option Char), first (units ++ before) byte =
      ⟨(first units byte).units ++ before, (first units byte).begun⟩ := by
    intro units
    unfold first
    split_ifs
    · rfl
    · cases begin? byte <;> rfl
  cases begun with
  | none => exact hfirst units
  | some begun =>
    obtain ⟨bits, ⟨low, high⟩, later⟩ := begun
    simp only [Decoder.step]
    split_ifs
    · cases later <;> rfl
    · exact hfirst (none :: units)

lemma foldl_step_append (units before : List (Option Char)) (begun : Option Begun)
    (bytes : List UInt8) :
    bytes.foldl Decoder.step ⟨units ++ before, begun⟩ =
      ⟨(bytes.foldl Decoder.step ⟨units, begun⟩).units ++ before,
        (bytes.foldl Decoder.step ⟨units, begun⟩).begun⟩ := by
  induction bytes generalizing units begun with
  | nil => rfl
  | cons byte bytes ih => rw [List.foldl_cons, step_append, ih, List.foldl_cons]

lemma units_encode_append (t : Text) (bytes : List UInt8) :
    units (encode t ++ bytes) = t.map some ++ units bytes := by
  have hempty : (t.map some).reverse ++ [] = [] ++ (t.map some).reverse := by simp
  rw [units, List.foldl_append, Decoder.empty, foldl_encode, hempty, foldl_step_append, units,
    Decoder.empty, Decoder.finish, Decoder.finish]
  cases (bytes.foldl Decoder.step ⟨[], none⟩).begun <;> simp

theorem decodeLossy_encode_append (t : Text) (bytes : List UInt8) :
    decodeLossy (encode t ++ bytes) = t ++ decodeLossy bytes := by
  rw [decodeLossy, units_encode_append, List.map_append, List.map_map, decodeLossy]
  exact congrArg (· ++ _) (List.map_id' t)

/-- No byte that a character begun still needs starts a character. -/
def Decoder.NeedsTails (decoder : Decoder) : Prop :=
  ∀ begun ∈ decoder.begun, ∀ range ∈ begun.next :: begun.later, 0x80 ≤ range.1 ∧ range.2 ≤ 0xBF

lemma needsTails_none (units : List (Option Char)) : Decoder.NeedsTails ⟨units, none⟩ := by
  simp [Decoder.NeedsTails]

lemma needsTails_some {units : List (Option Char)} {bits : ℕ} {next : UInt8 × UInt8}
    {later : List (UInt8 × UInt8)} :
    Decoder.NeedsTails ⟨units, some ⟨bits, next, later⟩⟩ ↔
      ∀ range ∈ next :: later, 0x80 ≤ range.1 ∧ range.2 ≤ 0xBF := by
  simp [Decoder.NeedsTails]

lemma needsTails_begin? {units : List (Option Char)} {byte : UInt8} {begun : Begun}
    (h : begin? byte = some begun) : Decoder.NeedsTails ⟨units, some begun⟩ := by
  unfold begin? at h
  split_ifs at h
  all_goals
    obtain rfl := Option.some.inj h
    simp [needsTails_some, tail]

lemma needsTails_first (units : List (Option Char)) (byte : UInt8) :
    (first units byte).NeedsTails := by
  unfold first
  split_ifs
  · exact needsTails_none _
  · cases hbegin : begin? byte with
    | none => exact needsTails_none _
    | some begun => exact needsTails_begin? hbegin

lemma Decoder.NeedsTails.step {decoder : Decoder} (h : decoder.NeedsTails) (byte : UInt8) :
    (decoder.step byte).NeedsTails := by
  obtain ⟨units, begun⟩ := decoder
  cases begun with
  | none => exact needsTails_first units byte
  | some begun =>
    obtain ⟨bits, ⟨low, high⟩, later⟩ := begun
    simp only [Decoder.step]
    split_ifs
    · cases later with
      | nil => exact needsTails_none _
      | cons next later =>
        exact needsTails_some.2 fun range hrange =>
          needsTails_some.1 h range (List.mem_cons_of_mem _ hrange)
    · exact needsTails_first _ byte

lemma Decoder.NeedsTails.foldl_step {decoder : Decoder} (h : decoder.NeedsTails)
    (bytes : List UInt8) : (bytes.foldl Decoder.step decoder).NeedsTails := by
  induction bytes generalizing decoder with
  | nil => exact h
  | cons byte bytes ih => exact ih (h.step byte)

lemma step_finish {decoder : Decoder} (h : decoder.NeedsTails) {byte : UInt8}
    (hbyte : byte < 0x80 ∨ 0xBF < byte) :
    decoder.step byte = Decoder.step ⟨decoder.finish.reverse, none⟩ byte := by
  obtain ⟨units, begun⟩ := decoder
  cases begun with
  | none => simp [Decoder.finish]
  | some begun =>
    obtain ⟨bits, ⟨low, high⟩, later⟩ := begun
    obtain ⟨hlow, hhigh⟩ := needsTails_some.1 h (low, high) List.mem_cons_self
    have hout : ¬ (low ≤ byte ∧ byte ≤ high) := by
      simp only [UInt8.le_iff_toNat_le, UInt8.lt_iff_toNat_lt] at *
      omega
    simp only [Decoder.step, Decoder.finish, if_neg hout, List.reverse_reverse]

lemma exists_lead (c : Char) :
    ∃ byte rest, String.utf8EncodeChar c = byte :: rest ∧ (byte < 0x80 ∨ 0xBF < byte) := by
  simp only [String.utf8EncodeChar, UInt8.lt_iff_toNat_lt]
  split_ifs with hone
  · refine ⟨_, _, rfl, .inl ?_⟩
    rw [toNat_byte (by omega)]
    exact Nat.lt_succ_of_le hone
  all_goals
    refine ⟨_, _, rfl, .inr ?_⟩
    rw [toNat_byte (by omega)]
    exact Nat.lt_add_left _ (by decide)

lemma units_append_encode (bytes : List UInt8) (t : Text) :
    units (bytes ++ encode t) = units bytes ++ t.map some := by
  cases t with
  | nil => simp [encode]
  | cons c t =>
    obtain ⟨byte, rest, hchar, hlead⟩ := exists_lead c
    have hencode : encode (c :: t) = byte :: (rest ++ encode t) := by
      rw [encode, List.flatMap_cons, hchar, List.cons_append, ← encode]
    have hread : (bytes.foldl Decoder.step Decoder.empty).NeedsTails :=
      (needsTails_none []).foldl_step bytes
    rw [units, List.foldl_append, hencode, List.foldl_cons, step_finish hread hlead,
      ← List.foldl_cons, ← hencode, foldl_encode, ← units]
    simp [Decoder.finish]

theorem decodeLossy_append_encode (bytes : List UInt8) (t : Text) :
    decodeLossy (bytes ++ encode t) = decodeLossy bytes ++ t := by
  rw [decodeLossy, units_append_encode, List.map_append, List.map_map, decodeLossy]
  exact congrArg (_ ++ ·) (List.map_id' t)

@[simp] lemma length_encode (t : Text) : (encode t).length = byteLength t := by
  induction t with
  | nil => rfl
  | cons c t ih =>
    rw [encode, List.flatMap_cons, List.length_append, ← encode, ih, byteLength_cons,
      String.length_utf8EncodeChar]

end Syslog.Text.Utf8
