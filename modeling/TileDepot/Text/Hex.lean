/-!
# Hexadecimal digits

Numbers with a fixed count of digits, and bytes as two digits each.  Digits are written in lower case
and read in either case.

* `hexValue_hexDigit` says that a digit reads back as its value.
* `bytesOfDigits_digitsOfBytes` says that bytes read back from their digits.
-/

namespace TileDepot.Text

/-- A hexadecimal digit in lower case. -/
def hexDigit (n : Nat) : Char := Char.ofNat (if n < 10 then 48 + n else 87 + n)

/-- A number in hexadecimal with a fixed count of digits, the most significant first. -/
def hexDigits : Nat → Nat → List Char
  | 0, _ => []
  | width + 1, n => hexDigits width (n / 16) ++ [hexDigit (n % 16)]

/-- The value of a hexadecimal digit in either case. -/
def hexValue? (c : Char) : Option Nat :=
  if '0' ≤ c ∧ c ≤ '9' then some (c.toNat - 48)
  else if 'a' ≤ c ∧ c ≤ 'f' then some (c.toNat - 87)
  else if 'A' ≤ c ∧ c ≤ 'F' then some (c.toNat - 55)
  else none

/-- The digits of bytes, two for each. -/
def digitsOfBytes (bytes : List UInt8) : List Char := bytes.flatMap (fun b => hexDigits 2 b.toNat)

/-- The bytes that pairs of digits stand for. -/
def bytesOfDigits : List Char → Option (List UInt8)
  | [] => some []
  | a :: b :: rest => do
      let high ← hexValue? a
      let low ← hexValue? b
      return UInt8.ofNat (high * 16 + low) :: (← bytesOfDigits rest)
  | [_] => none

theorem hexValue_hexDigit {n : Nat} (h : n < 16) : hexValue? (hexDigit n) = some n := by
  have : ∀ i : Fin 16, hexValue? (hexDigit i.val) = some i.val := by decide
  exact this ⟨n, h⟩

/-- Bytes are read back from the digits they are written as. -/
theorem bytesOfDigits_digitsOfBytes (bytes : List UInt8) :
    bytesOfDigits (digitsOfBytes bytes) = some bytes := by
  induction bytes with
  | nil => rfl
  | cons b rest ih =>
      have hb : b.toNat < 256 := b.toNat_lt
      have hh : b.toNat / 16 % 16 = b.toNat / 16 := Nat.mod_eq_of_lt (by omega)
      have high : hexValue? (hexDigit (b.toNat / 16 % 16)) = some (b.toNat / 16) := by
        rw [hh]
        exact hexValue_hexDigit (by omega)
      have low : hexValue? (hexDigit (b.toNat % 16)) = some (b.toNat % 16) :=
        hexValue_hexDigit (by omega)
      have whole : UInt8.ofNat (b.toNat / 16 * 16 + b.toNat % 16) = b := by
        rw [show b.toNat / 16 * 16 + b.toNat % 16 = b.toNat by omega]
        exact UInt8.ofNat_toNat
      have two : hexDigits 2 b.toNat = [hexDigit (b.toNat / 16 % 16), hexDigit (b.toNat % 16)] := rfl
      simp only [digitsOfBytes] at ih
      simp only [digitsOfBytes, List.flatMap_cons, two, List.cons_append, List.nil_append,
        bytesOfDigits, high, low, ih, Option.bind_eq_bind, Option.bind_some, Option.pure_def, whole]

end TileDepot.Text
