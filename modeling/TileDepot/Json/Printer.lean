import TileDepot.Json.Basic
import TileDepot.Text.Quoted

/-!
# Writing JSON

Two spellings of the same value are in use.  `compact` writes no blanks and keeps every character
beyond ASCII; response bodies have it.  `spaced` writes a blank after each comma and colon and escapes
every character beyond ASCII by its UTF-16 units; requests made from a value have it.
-/

namespace TileDepot.Json

/-- The spelling of a document: what stands between items, what stands between a name and its value,
and whether characters beyond ASCII are escaped. -/
structure Style where
  comma : String
  colon : String
  asciiOnly : Bool

/-- No blanks, characters beyond ASCII as themselves. -/
def compact : Style := ⟨",", ":", false⟩

/-- A blank after each comma and colon, characters beyond ASCII by number. -/
def spaced : Style := ⟨", ", ": ", true⟩

/-- An escape by number. -/
def unitEscape (n : Nat) : List Char := '\\' :: 'u' :: Text.hexDigits 4 n

/-- How one character is written inside a string. -/
def charText (asciiOnly : Bool) (c : Char) : List Char :=
  if c = '\x22' then ['\\', '\x22']
  else if c = '\\' then ['\\', '\\']
  else if c = '\n' then ['\\', 'n']
  else if c = '\r' then ['\\', 'r']
  else if c = '\t' then ['\\', 't']
  else if c = '\x08' then ['\\', 'b']
  else if c = '\x0c' then ['\\', 'f']
  else if c.toNat < 0x20 then unitEscape c.toNat
  else if asciiOnly ∧ 0x7f ≤ c.toNat then
    if c.toNat = 0x7f then [c]
    else if c.toNat < 0x10000 then unitEscape c.toNat
    else
      let n := c.toNat - 0x10000
      unitEscape (0xd800 + n / 0x400) ++ unitEscape (0xdc00 + n % 0x400)
  else [c]

/-- A string between quotes. -/
def stringText (asciiOnly : Bool) (s : String) : String :=
  String.ofList ('\x22' :: (s.toList.flatMap (charText asciiOnly) ++ ['\x22']))

/-- Whether a code point is half of a surrogate pair. -/
def isHalf (n : Nat) : Bool := 0xd800 ≤ n && n ≤ 0xdfff

/-- How one code point is written inside a string; half of a surrogate pair is always escaped. -/
def pointText (asciiOnly : Bool) (n : Nat) : List Char :=
  if isHalf n then unitEscape n else charText asciiOnly (Char.ofNat n)

/-- A double as a JSON number; the values that JSON has no number for have names. -/
def realText (x : Float) : String :=
  match Decimal.decode x with
  | .nan => "NaN"
  | .infinite negative => Decimal.signed negative "Infinity"
  | .zero _ | .finite .. => Decimal.text x

mutual

/-- A value as text. -/
def render (style : Style) : Json → String
  | .null => "null"
  | .bool b => if b then "true" else "false"
  | .int i => toString i
  | .real x => realText x
  | .text s => stringText style.asciiOnly s
  | .unpaired points =>
      String.ofList ('\x22' :: (points.flatMap (pointText style.asciiOnly) ++ ['\x22']))
  | .list [] => "[]"
  | .list (x :: xs) => "[" ++ render style x ++ renderItems style xs ++ "]"
  | .object [] => "\x7b\x7d"
  | .object ((k, v) :: fields) =>
      "\x7b" ++ stringText style.asciiOnly k ++ style.colon ++ render style v ++
        renderFields style fields ++ "\x7d"

/-- The items after the first, each after a comma. -/
def renderItems (style : Style) : List Json → String
  | [] => ""
  | x :: xs => style.comma ++ render style x ++ renderItems style xs

/-- The fields after the first, each after a comma. -/
def renderFields (style : Style) : List (String × Json) → String
  | [] => ""
  | (k, v) :: fields =>
      style.comma ++ stringText style.asciiOnly k ++ style.colon ++ render style v ++
        renderFields style fields

end

mutual

/-- Whether a value holds a double that JSON has no number for. -/
def hasNonFinite : Json → Bool
  | .real x => !Decimal.isFinite x
  | .list xs => anyNonFinite xs
  | .object fields => anyFieldNonFinite fields
  | _ => false

/-- Whether an item of a list holds such a double. -/
def anyNonFinite : List Json → Bool
  | [] => false
  | x :: xs => hasNonFinite x || anyNonFinite xs

/-- Whether a field of an object holds such a double. -/
def anyFieldNonFinite : List (String × Json) → Bool
  | [] => false
  | (_, v) :: fields => hasNonFinite v || anyFieldNonFinite fields

end

/-- Count the characters of a string up to the first half of a surrogate pair.  The first number is
the position reached so far; an error is the position of the half, the half, and how many follow each
other. -/
def seekPoints : Nat → List Nat → Except (Nat × Nat × Nat) Nat
  | p, [] => .ok p
  | p, n :: ns =>
      if isHalf n then .error (p, n, 1 + (ns.takeWhile isHalf).length)
      else seekPoints (p + (pointText false n).length) ns

mutual

/-- Where in the compact text of a value the first half of a surrogate pair would stand. -/
def seekHalf : Nat → Json → Except (Nat × Nat × Nat) Nat
  | p, .unpaired points => (seekPoints (p + 1) points).map (· + 1)
  | p, .list xs => (seekItems (p + 1) xs).map (fun q => if xs.isEmpty then q + 1 else q)
  | p, .object fields => (seekFields (p + 1) fields).map (fun q => if fields.isEmpty then q + 1 else q)
  | p, v => .ok (p + (render compact v).length)

/-- The same for the items of a list, each followed by a comma or the closing bracket. -/
def seekItems : Nat → List Json → Except (Nat × Nat × Nat) Nat
  | p, [] => .ok p
  | p, x :: xs => do
      let p ← seekHalf p x
      seekItems (p + 1) xs

/-- The same for the fields of an object. -/
def seekFields : Nat → List (String × Json) → Except (Nat × Nat × Nat) Nat
  | p, [] => .ok p
  | p, (k, v) :: fields => do
      let p ← seekHalf (p + (stringText false k).length + 1) v
      seekFields (p + 1) fields

end

end TileDepot.Json
