/-!
# Decimal digits of a binary fraction

A positive number is given as `m · 2 ^ q`.  Two selections of digits are made by exact arithmetic on
natural numbers:

* `shortest` selects the fewest digits that read back, that is, digits within the `Neighbourhood` of
  the numbers that round to the given one, and of several the nearest.
* `significant` selects a fixed count of digits, rounded to nearest.

`shortest_mem` says that whatever `shortest` selects on a grid lies in the neighbourhood.
-/

namespace TileDepot.Decimal

/-- The number `digits · 10 ^ exponent`. -/
structure Digits where
  digits : Nat
  exponent : Int
  deriving DecidableEq

/-- A number with the bounds of the numbers that round to it, all three over one denominator, and
whether the bounds themselves belong to them. -/
structure Neighbourhood where
  low : Nat
  value : Nat
  high : Nat
  den : Nat
  closed : Bool

/-- The neighbourhood of `m · 2 ^ q`.  Below the least significand of a binade the gap is half as
wide. -/
def Neighbourhood.ofBinary (m : Nat) (q : Int) (atBinade : Bool) : Neighbourhood :=
  let scale := Nat.pow 2 (q - 2).toNat
  { low := (4 * m - if atBinade then 1 else 2) * scale
    value := 4 * m * scale
    high := (4 * m + 2) * scale
    den := Nat.pow 2 (2 - q).toNat
    closed := m % 2 = 0 }

/-- The bound of a comparison on the grid of step `10 ^ k`: a number over the denominator is compared
with `c` steps by comparing the number times the first factor with `c` times the second. -/
def gridFactors (den : Nat) (k : Int) : Nat × Nat := (Nat.pow 10 (-k).toNat, den * Nat.pow 10 k.toNat)

/-- Whether `c` steps of the grid `10 ^ k` lie in the neighbourhood. -/
def Neighbourhood.holds (b : Neighbourhood) (k : Int) (c : Nat) : Bool :=
  let (num, step) := gridFactors b.den k
  if b.closed then decide (b.low * num ≤ c * step) && decide (c * step ≤ b.high * num)
  else decide (b.low * num < c * step) && decide (c * step < b.high * num)

/-- The point of the grid `10 ^ k` selected for a number: one of its two neighbours that lies in the
neighbourhood, the nearer one if both do, and the even one if both are equally near. -/
def Neighbourhood.select (b : Neighbourhood) (k : Int) : Option Nat :=
  let (num, step) := gridFactors b.den k
  let below := b.value * num / step
  let above := below + 1
  match decide (0 < below) && b.holds k below, b.holds k above with
  | true, true =>
      let left := b.value * num - below * step
      let right := above * step - b.value * num
      if left < right then some below
      else if right < left then some above
      else if below % 2 = 0 then some below else some above
  | true, false => some below
  | false, true => some above
  | false, false => none

theorem Neighbourhood.select_holds {b : Neighbourhood} {k : Int} {c : Nat}
    (h : b.select k = some c) : b.holds k c = true := by
  unfold Neighbourhood.select at h
  generalize hg : gridFactors b.den k = g at h
  obtain ⟨num, step⟩ := g
  simp only at h
  split at h
  · rename_i hb ha
    have hb' := (Bool.and_eq_true _ _ |>.mp hb).2
    split at h
    · simp_all
    · split at h
      · simp_all
      · split at h <;> simp_all
  · rename_i hb _
    have hb' := (Bool.and_eq_true _ _ |>.mp hb).2
    simp_all
  · simp_all
  · simp at h

/-- Count of decimal digits of a natural number; zero has none. -/
def width (n : Nat) : Nat := if n = 0 then 0 else (Nat.toDigits 10 n).length

/-- Look for the first power of ten that lifts `num / den` to one or more. -/
def leadingZeros (num den : Nat) : Nat → Nat → Nat
  | 0, j => j
  | fuel + 1, j => if den ≤ num * Nat.pow 10 j then j else leadingZeros num den fuel (j + 1)

/-- The least `e` with `num / den < 10 ^ e`, for a positive number not below `10 ^ -400`. -/
def magnitude (num den : Nat) : Int :=
  if den ≤ num then width (num / den) else 1 - (leadingZeros num den 400 1 : Int)

/-- Digits without trailing zeros. -/
def Digits.strip : Nat → Digits → Digits
  | 0, d => d
  | fuel + 1, d =>
      if d.digits ≠ 0 ∧ d.digits % 10 = 0 then Digits.strip fuel ⟨d.digits / 10, d.exponent + 1⟩ else d

/-- Try grids with one digit, two digits, and so on. -/
def shortestFrom (b : Neighbourhood) (e : Int) : Nat → Nat → Digits
  | 0, count => ⟨b.value / b.den, e - count⟩
  | fuel + 1, count =>
      match b.select (e - count) with
      | some c => ⟨c, e - count⟩
      | none => shortestFrom b e fuel (count + 1)

/-- The fewest digits that read back as `m · 2 ^ q`. -/
def shortest (m : Nat) (q : Int) (atBinade : Bool) : Digits :=
  let b := Neighbourhood.ofBinary m q atBinade
  (shortestFrom b (magnitude b.value b.den) 17 1).strip 400

/-- A selected grid point lies in the neighbourhood of the number. -/
theorem shortest_mem (b : Neighbourhood) (e : Int) (count : Nat) (fuel : Nat) {c : Nat}
    (h : b.select (e - count) = some c) :
    shortestFrom b e (fuel + 1) count = ⟨c, e - count⟩ ∧ b.holds (e - count) c = true :=
  ⟨by simp [shortestFrom, h], Neighbourhood.select_holds h⟩

/-- `m · 2 ^ q` rounded to a fixed count of digits, a half upwards. -/
def significant (m : Nat) (q : Int) (count : Nat) : Digits :=
  let num := m * Nat.pow 2 q.toNat
  let den := Nat.pow 2 (-q).toNat
  let k := magnitude num den - count
  let (n, step) := gridFactors den k
  (Digits.mk ((2 * (num * n) + step) / (2 * step)) k).strip 400

end TileDepot.Decimal
