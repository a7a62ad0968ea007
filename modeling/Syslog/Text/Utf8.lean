import Syslog.Text.Basic

/-!
# UTF-8

Decoder bytes as UTF-8, one byte at a time. What is not UTF-8 falls into maximal ill-formed parts:
the longest starts of a character that the bytes break off, and single bytes that start none. A
strict decoder refuses them; a lenient one puts the replacement character in the place of each.
-/
namespace Syslog.Text.Utf8

/-- A character begun: the bits read so far, and the ranges of the bytes it still needs, of which
there is at least one. -/
structure Begun where
  bits : Nat
  next : UInt8 × UInt8
  later : List (UInt8 × UInt8)
  deriving DecidableEq, Repr

/-- What was read so far, the latest first, an ill-formed part as `none`. -/
structure Decoder where
  units : List (Option Char)
  begun : Option Begun
  deriving DecidableEq, Repr

def Decoder.empty : Decoder := ⟨[], none⟩

def tail : UInt8 × UInt8 := (0x80, 0xBF)

/-- The character that a first byte of two or more begins. The range of the second byte keeps out
overlong forms, surrogates and values above the last code point. -/
def begin? (byte : UInt8) : Option Begun :=
  if 0xC2 ≤ byte ∧ byte ≤ 0xDF then some ⟨byte.toNat - 0xC0, tail, []⟩
  else if byte = 0xE0 then some ⟨0, (0xA0, 0xBF), [tail]⟩
  else if byte = 0xED then some ⟨0xD, (0x80, 0x9F), [tail]⟩
  else if 0xE1 ≤ byte ∧ byte ≤ 0xEF then some ⟨byte.toNat - 0xE0, tail, [tail]⟩
  else if byte = 0xF0 then some ⟨0, (0x90, 0xBF), [tail, tail]⟩
  else if 0xF1 ≤ byte ∧ byte ≤ 0xF3 then some ⟨byte.toNat - 0xF0, tail, [tail, tail]⟩
  else if byte = 0xF4 then some ⟨4, (0x80, 0x8F), [tail, tail]⟩
  else none

/-- A byte between two characters. -/
def first (units : List (Option Char)) (byte : UInt8) : Decoder :=
  if byte < 0x80 then ⟨some (Char.ofNat byte.toNat) :: units, none⟩
  else match begin? byte with
    | some begun => ⟨units, some begun⟩
    | none => ⟨none :: units, none⟩

/-- One byte more. A byte that does not continue the character begun breaks it off. -/
def Decoder.step (decoder : Decoder) (byte : UInt8) : Decoder :=
  match decoder.begun with
  | none => first decoder.units byte
  | some ⟨bits, (low, high), later⟩ =>
    if low ≤ byte ∧ byte ≤ high then
      let bits := bits * 64 + byte.toNat % 64
      match later with
      | [] => ⟨some (Char.ofNat bits) :: decoder.units, none⟩
      | next :: later => ⟨decoder.units, some ⟨bits, next, later⟩⟩
    else first (none :: decoder.units) byte

/-- The units in order; a character still begun is ill-formed. -/
def Decoder.finish (decoder : Decoder) : List (Option Char) :=
  match decoder.begun with
  | none => decoder.units.reverse
  | some _ => (none :: decoder.units).reverse

def units (bytes : List UInt8) : List (Option Char) :=
  (bytes.foldl Decoder.step Decoder.empty).finish

/-- The lenient reading. -/
def decodeLossy (bytes : List UInt8) : Text := (units bytes).map (·.getD '\uFFFD')

/-- The strict reading. -/
def decode? (bytes : List UInt8) : Option Text :=
  let units := units bytes
  if units.all Option.isSome then some (units.filterMap id) else none

def encode (t : Text) : List UInt8 := t.flatMap String.utf8EncodeChar

end Syslog.Text.Utf8
