import TileDepot.Json.Basic
import TileDepot.Text.Hex

/-!
# Reading JSON

`Json.read` reads a document from its characters.  Besides the standard it accepts the names of the
three doubles without a number, `NaN`, `Infinity` and `-Infinity`.  A document that is refused is
refused with a `Problem`: what was expected and at which character, or one of the two limits, on the
digits of an integer and on the nesting of lists and objects.

The readers take the position of the next character and the characters that are left, and return both
after what they read.  `takeDigits_append` says that reading digits loses nothing.
-/

namespace TileDepot.Json

/-- Why a document is refused. -/
inductive Problem where
  | expectedValue (position : Nat)
  | expectedName (position : Nat)
  | expectedColon (position : Nat)
  | expectedComma (position : Nat)
  | unterminated (position : Nat)
  | control (position : Nat)
  | badEscape (position : Nat)
  | badUnit (position : Nat)
  | extra (position : Nat)
  | tooManyDigits
  | tooDeep
  deriving DecidableEq

/-- The wording and the position of a problem of spelling; a limit has neither. -/
def Problem.spelling? : Problem → Option (String × Nat)
  | .expectedValue p => some ("Expecting value", p)
  | .expectedName p => some ("Expecting property name enclosed in double quotes", p)
  | .expectedColon p => some ("Expecting ':' delimiter", p)
  | .expectedComma p => some ("Expecting ',' delimiter", p)
  | .unterminated p => some ("Unterminated string starting at", p)
  | .control p => some ("Invalid control character at", p)
  | .badEscape p => some ("Invalid \\escape", p)
  | .badUnit p => some ("Invalid \\uXXXX escape", p)
  | .extra p => some ("Extra data", p)
  | .tooManyDigits => none
  | .tooDeep => none

/-- The most digits of an integer. -/
def maxDigits : Nat := 4300

/-- The most lists and objects around a value. -/
def maxDepth : Nat := 940

/-- What was read, the next position and the characters left. -/
abbrev Read (α : Type) := Except Problem (α × Nat × List Char)

/-- Whether a character is a blank between the parts of a document. -/
def isGap (c : Char) : Bool := c = ' ' || c = '\t' || c = '\n' || c = '\r'

/-- Skip blanks. -/
def skipGaps : Nat → List Char → Nat × List Char
  | p, [] => (p, [])
  | p, c :: cs => if isGap c then skipGaps (p + 1) cs else (p, c :: cs)

/-- The number of four hexadecimal digits. -/
def unit? (a b c d : Char) : Option Nat := do
  let a ← Text.hexValue? a
  let b ← Text.hexValue? b
  let c ← Text.hexValue? c
  let d ← Text.hexValue? d
  return ((a * 16 + b) * 16 + c) * 16 + d

/-- The character that a letter after a backslash stands for. -/
def simpleEscape? (c : Char) : Option Nat :=
  if c = '\x22' ∨ c = '\\' ∨ c = '/' then some c.toNat
  else if c = 'b' then some 8
  else if c = 'f' then some 12
  else if c = 'n' then some 10
  else if c = 'r' then some 13
  else if c = 't' then some 9
  else none

/-- The first of a surrogate pair. -/
def isHigh (n : Nat) : Bool := 0xd800 ≤ n && n ≤ 0xdbff

/-- The second of a surrogate pair. -/
def isLow (n : Nat) : Bool := 0xdc00 ≤ n && n ≤ 0xdfff

/-- Read the code points of a string after its opening quote, which stands at `start`.  The points
read so far are given latest first. -/
def readPoints (start : Nat) : Nat → Nat → List Nat → List Char → Read (List Nat)
  | 0, _, _, _ => .error (.unterminated start)
  | _ + 1, _, _, [] => .error (.unterminated start)
  | fuel + 1, p, done, c :: cs =>
      if c = '\x22' then .ok (done.reverse, p + 1, cs)
      else if c.toNat < 0x20 then .error (.control p)
      else if c ≠ '\\' then readPoints start fuel (p + 1) (c.toNat :: done) cs
      else
        match cs with
        | [] => .error (.unterminated start)
        | 'u' :: a :: b :: c :: d :: e :: rest =>
            match unit? a b c d with
            | none => .error (.badUnit (p + 1))
            | some high =>
                match isHigh high, e :: rest with
                | true, '\\' :: 'u' :: a' :: b' :: c' :: d' :: e' :: rest' =>
                    match unit? a' b' c' d' with
                    | none => .error (.badUnit (p + 7))
                    | some low =>
                        if isLow low then
                          readPoints start fuel (p + 12)
                            ((0x10000 + (high - 0xd800) * 0x400 + (low - 0xdc00)) :: done) (e' :: rest')
                        else readPoints start fuel (p + 6) (high :: done) (e :: rest)
                | _, _ => readPoints start fuel (p + 6) (high :: done) (e :: rest)
        | 'u' :: _ => .error (.badUnit (p + 1))
        | c :: cs =>
            match simpleEscape? c with
            | some n => readPoints start fuel (p + 2) (n :: done) cs
            | none => .error (.badEscape p)

/-- Code points as a text, if none of them is half of a surrogate pair. -/
def ofPoints (points : List Nat) : Json :=
  if points.any (fun n => isHigh n || isLow n) then .unpaired points
  else .text (String.ofList (points.map Char.ofNat))

/-- The name that code points spell; half of a surrogate pair is replaced. -/
def nameOfPoints (points : List Nat) : String :=
  String.ofList (points.map (fun n => if isHigh n || isLow n then '\uFFFD' else Char.ofNat n))

/-- Split off the leading decimal digits. -/
def takeDigits (cs : List Char) : List Char × List Char :=
  (cs.takeWhile Char.isDigit, cs.dropWhile Char.isDigit)

theorem takeDigits_append (cs : List Char) : (takeDigits cs).1 ++ (takeDigits cs).2 = cs :=
  List.takeWhile_append_dropWhile

/-- The number that decimal digits spell. -/
def natOfDigits (ds : List Char) : Nat := ds.foldl (fun n c => n * 10 + (c.toNat - 48)) 0

/-- The fraction digits after a point, if there are any. -/
def takeFraction : List Char → Option (List Char × List Char)
  | '.' :: cs =>
      let (ds, rest) := takeDigits cs
      if ds.isEmpty then none else some (ds, rest)
  | _ => none

/-- The sign and digits of an exponent and the count of characters read, if there is one. -/
def takeExponent : List Char → Option (Bool × List Char × Nat × List Char)
  | e :: cs =>
      if e = 'e' ∨ e = 'E' then
        let (negative, marks, cs) :=
          match cs with
          | '-' :: cs => (true, 2, cs)
          | '+' :: cs => (false, 2, cs)
          | cs => (false, 1, cs)
        let (ds, rest) := takeDigits cs
        if ds.isEmpty then none else some (negative, ds, marks + ds.length, rest)
      else none
  | [] => none

/-- Read a number; `start` is the position of its sign, if it has one. -/
def readNumber (start : Nat) (negative : Bool) (p : Nat) (cs : List Char) : Read Json :=
  let whole :=
    match cs with
    | '0' :: rest => some (['0'], rest)
    | cs =>
        let (ds, rest) := takeDigits cs
        if ds.isEmpty then none else some (ds, rest)
  match whole with
  | none => .error (.expectedValue start)
  | some (ds, rest) =>
      let p := p + ds.length
      let (fraction, p, rest) :=
        match takeFraction rest with
        | some (fs, rest) => (some fs, p + 1 + fs.length, rest)
        | none => (none, p, rest)
      let (exponent, p, rest) :=
        match takeExponent rest with
        | some (below, es, count, rest) =>
            let e : Int := natOfDigits es
            (some (if below then -e else e), p + count, rest)
        | none => (none, p, rest)
      if fraction.isNone ∧ exponent.isNone then
        if maxDigits < ds.length then .error .tooManyDigits
        else
          let n : Int := natOfDigits ds
          .ok (.int (if negative then -n else n), p, rest)
      else
        let fs := fraction.getD []
        let d : Decimal.Digits := ⟨natOfDigits (ds ++ fs), exponent.getD 0 - fs.length⟩
        .ok (.real (Decimal.ofDecimal negative d), p, rest)

/-- The words that stand for a value. -/
def words : List (List Char × Json) :=
  [("null".toList, .null), ("true".toList, .bool true), ("false".toList, .bool false),
   ("NaN".toList, .real (0.0 / 0.0)), ("Infinity".toList, .real (1.0 / 0.0)),
   ("-Infinity".toList, .real (-1.0 / 0.0))]

/-- Read a value that is neither a string nor a list nor an object. -/
def readScalar (p : Nat) (cs : List Char) : Read Json :=
  match words.find? (fun w => w.1.isPrefixOf cs) with
  | some (w, v) => .ok (v, p + w.length, cs.drop w.length)
  | none =>
      match cs with
      | '-' :: rest => readNumber p true (p + 1) rest
      | cs => readNumber p false p cs

mutual

/-- Read a value; the second number is the nesting that is still allowed. -/
def readValue : Nat → Nat → Nat → List Char → Read Json
  | 0, _, p, _ => .error (.expectedValue p)
  | _ + 1, _, p, [] => .error (.expectedValue p)
  | fuel + 1, depth, p, c :: cs =>
      if c = '\x22' then
        (readPoints p (cs.length + 1) (p + 1) [] cs).map (fun (ps, rest) => (ofPoints ps, rest))
      else if c = '[' then
        match depth, skipGaps (p + 1) cs with
        | 0, _ => .error .tooDeep
        | _ + 1, (p, ']' :: rest) => .ok (.list [], p + 1, rest)
        | depth + 1, (p, rest) => readItems fuel depth p [] rest
      else if c = '\x7b' then
        match depth, skipGaps (p + 1) cs with
        | 0, _ => .error .tooDeep
        | _ + 1, (p, '\x7d' :: rest) => .ok (.object [], p + 1, rest)
        | depth + 1, (p, rest) => readFields fuel depth p [] rest
      else readScalar p (c :: cs)

/-- Read the items of a list up to its closing bracket; the items read so far are given latest
first. -/
def readItems : Nat → Nat → Nat → List Json → List Char → Except Problem (Json × Nat × List Char)
  | 0, _, p, _, _ => .error (.expectedValue p)
  | fuel + 1, depth, p, done, cs => do
      let (x, p, rest) ← readValue fuel depth p cs
      match skipGaps p rest with
      | (p, ']' :: rest) => .ok (.list (x :: done).reverse, p + 1, rest)
      | (p, ',' :: rest) =>
          let (p, rest) := skipGaps (p + 1) rest
          readItems fuel depth p (x :: done) rest
      | (p, _) => .error (.expectedComma p)

/-- Read the fields of an object up to its closing brace. -/
def readFields :
    Nat → Nat → Nat → List (String × Json) → List Char → Except Problem (Json × Nat × List Char)
  | 0, _, p, _, _ => .error (.expectedName p)
  | fuel + 1, depth, p, done, cs =>
      match cs with
      | '\x22' :: cs => do
          let (name, q, rest) ← readPoints p (cs.length + 1) (p + 1) [] cs
          match skipGaps q rest with
          | (p, ':' :: rest) =>
              let (p, rest) := skipGaps (p + 1) rest
              let (x, p, rest) ← readValue fuel depth p rest
              let done := (nameOfPoints name, x) :: done
              match skipGaps p rest with
              | (p, '\x7d' :: rest) => .ok (.object (Ordered.ofPairs done.reverse), p + 1, rest)
              | (p, ',' :: rest) =>
                  let (p, rest) := skipGaps (p + 1) rest
                  readFields fuel depth p done rest
              | (p, _) => .error (.expectedComma p)
          | (p, _) => .error (.expectedColon p)
      | _ => .error (.expectedName p)

end

/-- Read a whole document with a limit on its nesting. -/
def readWithin (depth : Nat) (s : String) : Except Problem Json :=
  let cs := s.toList
  let (p, rest) := skipGaps 0 cs
  match readValue (2 * cs.length + 2) depth p rest with
  | .error e => .error e
  | .ok (x, p, rest) =>
      match skipGaps p rest with
      | (_, []) => .ok x
      | (p, _) => .error (.extra p)

/-- Read a whole document. -/
def read (s : String) : Except Problem Json := readWithin maxDepth s

end TileDepot.Json
