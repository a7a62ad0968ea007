import Syslog.Text.Basic

/-!
# Numerals

Decimal numerals in ASCII digits. Reading allows any number of leading zeros and one sign; a sign
alone, an empty text, and any other character are refused. Writing pads with zeros on the left.
-/
namespace Syslog.Text

/-- How many values have 64 bits, or 32. -/
def values64 : Nat := 18446744073709551616

def values32 : Nat := 4294967296

/-- Half of them, where the bits tell negative values too. -/
def half64 : Nat := 9223372036854775808

def half32 : Nat := 2147483648

/-- The value of a non-empty run of ASCII digits. -/
def digits? (t : Text) : Option Nat :=
  if t ≠ [] ∧ t.all Char.isDigit then some (Nat.ofDigitChars 10 t 0) else none

/-- An unsigned numeral, a plus sign allowed, whose value is below the bound. -/
def natural? (bound : Nat) (t : Text) : Option Nat :=
  let digits := match t with
    | '+' :: rest => rest
    | _ => t
  (digits? digits).filter (· < bound)

/-- A signed numeral whose value is at least `-half` and below `half`. -/
def integer? (half : Nat) (t : Text) : Option Int :=
  let value : Option Int := match t with
    | '+' :: rest => (digits? rest).map Int.ofNat
    | '-' :: rest => (digits? rest).map fun n => -(n : Int)
    | _ => (digits? t).map Int.ofNat
  value.filter fun n => -(half : Int) ≤ n ∧ n < half

def ofNat (n : Nat) : Text := Nat.toDigits 10 n

def ofInt (n : Int) : Text := if n < 0 then '-' :: ofNat n.natAbs else ofNat n.natAbs

/-- The numeral of `n`, with zeros on the left up to the width. -/
def padded (width n : Nat) : Text := (ofNat n).leftpad width '0'

theorem isDigit_of_mem_ofNat {c : Char} {n : Nat} (h : c ∈ ofNat n) : c.isDigit = true :=
  Nat.isDigit_of_mem_toDigits (by decide) (by decide) h

theorem digits?_ofNat (n : Nat) : digits? (ofNat n) = some n := by
  have hdigits : (ofNat n).all Char.isDigit = true :=
    List.all_eq_true.2 fun _ h => isDigit_of_mem_ofNat h
  have hne : ofNat n ≠ [] := by simp [ofNat]
  rw [digits?, if_pos ⟨hne, hdigits⟩, ofNat, Nat.ofDigitChars_toDigits (by decide) (by decide)]

end Syslog.Text
