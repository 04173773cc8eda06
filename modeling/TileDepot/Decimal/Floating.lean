import TileDepot.Decimal.Digits

/-!
# Floating-point numbers as text

A double is decoded into its sign and `m · 2 ^ q`, its digits are selected by `TileDepot.Decimal.Digits`
and laid out by a `Layout`.  Two layouts are in use: `plain`, for a number that stands for itself, and
`stored`, for a number that a text column keeps.  In the other direction `ofDecimal` reads
`digits · 10 ^ exponent` as the nearest double.
-/

namespace TileDepot.Decimal

/-- A double by kind. -/
inductive Decoded where
  | nan
  | infinite (negative : Bool)
  | zero (negative : Bool)
  | finite (negative : Bool) (m : Nat) (q : Int) (atBinade : Bool)
  deriving DecidableEq

/-- The weight of the sign among sixty-four bits. -/
def signWeight : Nat := 9223372036854775808

/-- The weight of the leading bit of a significand, which is not written. -/
def hiddenBit : Nat := 4503599627370496

/-- Read sign, exponent and significand of the sixty-four bits. -/
def decode (x : Float) : Decoded :=
  let bits := x.toBits.toNat
  let negative := decide (bits / signWeight = 1)
  let e : Nat := bits / hiddenBit % 2048
  let f : Nat := bits % hiddenBit
  if e = 2047 then if f = 0 then .infinite negative else .nan
  else if e = 0 then if f = 0 then .zero negative else .finite negative f (-1074) false
  else .finite negative (f + hiddenBit) ((e : Int) - 1075) (decide (f = 0 ∧ 1 < e))

/-- How digits are laid out: the closed range of scientific exponents that are written positionally,
and whether a mantissa without a fraction gets one before an exponent mark. -/
structure Layout where
  least : Int
  greatest : Int
  pointed : Bool

/-- Positional from 10⁻⁴ to below 10¹⁶. -/
def plain : Layout := ⟨-4, 15, false⟩

/-- Positional from 10⁻⁴ to below 10¹⁵, and always with a fraction. -/
def stored : Layout := ⟨-4, 14, true⟩

/-- An exponent with its sign and two digits or more. -/
def exponentText (e : Int) : String :=
  let digits := toString e.natAbs
  (if e < 0 then "-" else "+") ++ (if digits.length < 2 then "0" else "") ++ digits

/-- Digits as text: positionally with at least one digit on both sides of the point, or as one digit,
the fraction and an exponent. -/
def Layout.text (l : Layout) (d : Digits) : String :=
  let ds := (toString d.digits).toList
  let count : Int := ds.length
  let e := d.exponent + count - 1
  if l.least ≤ e ∧ e ≤ l.greatest then
    if 0 ≤ d.exponent then
      String.ofList (ds ++ List.replicate d.exponent.toNat '0' ++ ['.', '0'])
    else if 0 ≤ e then
      let whole := (e + 1).toNat
      String.ofList (ds.take whole ++ '.' :: ds.drop whole)
    else
      String.ofList ('0' :: '.' :: (List.replicate (-e - 1).toNat '0' ++ ds))
  else
    let fraction := ds.drop 1
    let tail := if fraction.isEmpty then (if l.pointed then ['.', '0'] else []) else '.' :: fraction
    String.ofList (ds.take 1 ++ tail) ++ "e" ++ exponentText e

/-- The sign in front of a text. -/
def signed (negative : Bool) (s : String) : String := if negative then "-" ++ s else s

/-- A double in its shortest text. -/
def text (x : Float) : String :=
  match decode x with
  | .nan => "nan"
  | .infinite negative => signed negative "inf"
  | .zero negative => signed negative "0.0"
  | .finite negative m q atBinade => signed negative (plain.text (shortest m q atBinade))

/-- A double as a text column keeps it: fifteen digits, and no sign of zero. -/
def storedText (x : Float) : String :=
  match decode x with
  | .nan => ""
  | .infinite negative => signed negative "Inf"
  | .zero _ => "0.0"
  | .finite negative m q _ => signed negative (stored.text (significant m q 15))

/-- Whether a double is neither infinite nor undefined. -/
def isFinite (x : Float) : Bool :=
  match decode x with
  | .zero _ | .finite .. => true
  | .nan | .infinite _ => false

/-- The nearest double to `digits · 10 ^ exponent`.  Numbers beyond every double are infinite or zero
by their magnitude alone, so no power of ten larger than that is computed. -/
def ofDecimal (negative : Bool) (d : Digits) : Float :=
  let size := d.exponent + (width d.digits : Int)
  let x : Float :=
    if d.digits = 0 ∨ size < -400 then 0.0
    else if 400 < size then 1.0 / 0.0
    else if 0 ≤ d.exponent then Float.ofScientific (d.digits * Nat.pow 10 d.exponent.toNat) false 0
    else Float.ofScientific d.digits true (-d.exponent).toNat
  if negative then -x else x

end TileDepot.Decimal
