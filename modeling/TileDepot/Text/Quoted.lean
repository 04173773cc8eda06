import TileDepot.Text.Hex
import TileDepot.Text.Printable

/-!
# Quoted names

A name inside a message is written between quotes, so that its ends and its invisible characters can
be seen.  The quotes are apostrophes, unless the name holds an apostrophe and no double quote.  A
backslash and the quote in use are escaped by a backslash; tab, line feed and carriage return have
letters; every other character without a visible form is given by its number, in two, four or eight
hexadecimal digits.

* `escape_printable` says that a visible character other than the backslash and the quote is kept.
-/

namespace TileDepot.Text

/-- The quote that encloses a name: an apostrophe, or a double quote where the name has an apostrophe
and no double quote. -/
def quoteFor (cs : List Char) : Char :=
  if cs.contains '\x27' && !cs.contains '\x22' then '\x22' else '\x27'

/-- How one character is written between the given quotes. -/
def escape (quote c : Char) : List Char :=
  if c = '\\' ∨ c = quote then ['\\', c]
  else if c = '\t' then ['\\', 't']
  else if c = '\n' then ['\\', 'n']
  else if c = '\r' then ['\\', 'r']
  else if isPrintable c then [c]
  else if c.toNat < 0x100 then '\\' :: 'x' :: hexDigits 2 c.toNat
  else if c.toNat < 0x10000 then '\\' :: 'u' :: hexDigits 4 c.toNat
  else '\\' :: 'U' :: hexDigits 8 c.toNat

/-- A name between quotes. -/
def quoted (s : String) : String :=
  let cs := s.toList
  let quote := quoteFor cs
  String.ofList (quote :: (cs.flatMap (escape quote) ++ [quote]))

theorem escape_printable {quote c : Char} (hp : isPrintable c = true) (hb : c ≠ '\\')
    (hq : c ≠ quote) (ht : c ≠ '\t') (hn : c ≠ '\n') (hr : c ≠ '\r') : escape quote c = [c] := by
  simp [escape, hb, hq, ht, hn, hr, hp]

end TileDepot.Text
