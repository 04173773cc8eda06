/-!
# Points in time

A point in time is a count of microseconds from the start of 1970 in universal time.  `Date.ofDays`
turns a count of days into year, month and day of the Gregorian calendar, by eras of four hundred
years.  A file carries its time in nanoseconds; it is read through a double, so that the microseconds
are those nearest to the double and a half goes to the even one.
-/

namespace TileDepot

/-- A day of the Gregorian calendar. -/
structure Date where
  year : Int
  month : Nat
  day : Nat
  deriving DecidableEq

/-- The date of a count of days from the start of 1970.  Within an era of 146097 days the years begin
in March, so that the leap day is the last. -/
def Date.ofDays (days : Int) : Date :=
  let shifted := days + 719468
  let era := Int.fdiv shifted 146097
  let doe := (Int.fmod shifted 146097).toNat
  let yoe := (doe - doe / 1460 + doe / 36524 - doe / 146096) / 365
  let doy := doe - (365 * yoe + yoe / 4 - yoe / 100)
  let mp := (5 * doy + 2) / 153
  let day := doy - (153 * mp + 2) / 5 + 1
  let month := if mp < 10 then mp + 3 else mp - 9
  ⟨(yoe : Int) + era * 400 + (if month ≤ 2 then 1 else 0), month, day⟩

/-- Microseconds from the start of 1970. -/
structure Instant where
  micros : Int
  deriving DecidableEq

namespace Instant

/-- A number in decimal with at least the given count of digits. -/
def padded (width n : Nat) : String :=
  let s := toString n
  String.ofList (List.replicate (width - s.length) '0') ++ s

/-- A rational number rounded to nearest, a half to the even neighbour. -/
def roundHalfEven (x : Float) : Int :=
  let below := x.floor
  let rest := x - below
  let n : Int := if below < 0.0 then -((-below).toUInt64.toNat : Int) else below.toUInt64.toNat
  if rest < 0.5 then n else if 0.5 < rest then n + 1 else if n % 2 = 0 then n else n + 1

/-- A whole number as a double. -/
def floatOfInt (i : Int) : Float := if i < 0 then -(Float.ofNat i.natAbs) else Float.ofNat i.natAbs

/-- The whole seconds of a double below 2⁶⁴, towards zero. -/
def wholeSeconds (x : Float) : Int :=
  if x < 0.0 then -((-x).toUInt64.toNat : Int) else x.toUInt64.toNat

/-- The time of a file, in nanoseconds, as a point in time. -/
def ofFileTime (ns : Int) : Instant :=
  let seconds := Int.fdiv ns 1000000000
  let rest := Int.fmod ns 1000000000
  let x := floatOfInt seconds + 1e-9 * floatOfInt rest
  let whole := wholeSeconds x
  let micros := roundHalfEven ((x - floatOfInt whole) * 1e6)
  ⟨whole * 1000000 + micros⟩

/-- Days from the start of 1970, and seconds and microseconds within the day. -/
def parts (t : Instant) : Int × Nat × Nat :=
  let seconds := Int.fdiv t.micros 1000000
  (Int.fdiv seconds 86400, (Int.fmod seconds 86400).toNat, (Int.fmod t.micros 1000000).toNat)

/-- Hours, minutes and seconds. -/
def clockText (s : Nat) : String :=
  padded 2 (s / 3600) ++ ":" ++ padded 2 (s / 60 % 60) ++ ":" ++ padded 2 (s % 60)

/-- Date and time with the offset of universal time; microseconds only if there are any. -/
def isoText (t : Instant) : String :=
  let (days, seconds, micros) := t.parts
  let d := Date.ofDays days
  padded 4 d.year.toNat ++ "-" ++ padded 2 d.month ++ "-" ++ padded 2 d.day ++ "T" ++
    clockText seconds ++ (if micros = 0 then "" else "." ++ padded 6 micros) ++ "+00:00"

/-- The name of a weekday; the first day of 1970 was a Thursday. -/
def weekday (days : Int) : String :=
  ["Thu", "Fri", "Sat", "Sun", "Mon", "Tue", "Wed"].getD (Int.fmod days 7).toNat ""

/-- The name of a month. -/
def monthName (m : Nat) : String :=
  ["Jan", "Feb", "Mar", "Apr", "May", "Jun", "Jul", "Aug", "Sep", "Oct", "Nov", "Dec"].getD (m - 1) ""

/-- The form that HTTP headers use, to the second. -/
def httpText (t : Instant) : String :=
  let (days, seconds, _) := t.parts
  let d := Date.ofDays days
  weekday days ++ ", " ++ padded 2 d.day ++ " " ++ monthName d.month ++ " " ++
    padded 4 d.year.toNat ++ " " ++ clockText seconds ++ " GMT"

end Instant

end TileDepot
