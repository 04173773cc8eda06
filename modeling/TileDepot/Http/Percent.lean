import TileDepot.Text.Hex
import TileDepot.Text.Utf8

/-!
# Percent encoding

A path is given with some of its bytes as a percent sign and two hexadecimal digits.  Reading it
replaces them and reads the bytes as UTF-8; bytes that are no text become replacement characters.
Writing a location encodes every character but letters, digits and those with a meaning in a location.

* `unescape_plain` says that text without a percent sign is read as its own bytes.
-/

namespace TileDepot.Http

/-- The bytes of a character. -/
def charBytes (c : Char) : List UInt8 := (String.singleton c).toUTF8.toList

/-- The bytes that a percent-encoded text stands for; a percent sign without two digits stands for
itself. -/
def unescape : List Char → List UInt8
  | '%' :: a :: b :: rest =>
      match Text.hexValue? a, Text.hexValue? b with
      | some x, some y => UInt8.ofNat (x * 16 + y) :: unescape rest
      | _, _ => 37 :: unescape (a :: b :: rest)
  | c :: rest => charBytes c ++ unescape rest
  | [] => []

/-- Read bytes as text with a replacement character in place of each flaw. -/
def decodeLossy : Nat → List UInt8 → List Char
  | 0, _ => []
  | fuel + 1, bytes =>
      match Utf8.decodeFrom 0 [] bytes with
      | .ok cs => cs
      | .error flaw =>
          let good :=
            match Utf8.decodeFrom 0 [] (bytes.take flaw.position) with
            | .ok cs => cs
            | .error _ => []
          good ++ '\uFFFD' :: decodeLossy fuel (bytes.drop (flaw.position + flaw.count))

/-- Read a percent-encoded text. -/
def percentDecode (s : String) : String :=
  let bytes := unescape s.toList
  String.ofList (decodeLossy (bytes.length + 1) bytes)

/-- The characters that a location keeps besides letters and digits. -/
def locationMarks : List Char := ":/%#?=@[]!$&'()*+,;_.-~".toList

/-- Whether a location keeps a character. -/
def keptInLocation (c : Char) : Bool := c.isAlphanum || locationMarks.contains c

/-- A hexadecimal digit in upper case. -/
def upperHex (n : Nat) : Char := Char.ofNat (if n < 10 then 48 + n else 55 + n)

/-- A text as part of a location. -/
def percentEncode (s : String) : String :=
  String.ofList (s.toList.flatMap (fun c =>
    if keptInLocation c then [c]
    else (charBytes c).flatMap (fun b => ['%', upperHex (b.toNat / 16), upperHex (b.toNat % 16)])))

theorem unescape_plain (cs : List Char) (h : '%' ∉ cs) : unescape cs = cs.flatMap charBytes := by
  induction cs with
  | nil => rfl
  | cons c rest ih =>
      have hc : c ≠ '%' := fun e => h (by simp [e])
      have hr : '%' ∉ rest := fun e => h (List.mem_cons_of_mem _ e)
      rw [unescape.eq_def]
      split
      · rename_i heq
        simp only [List.cons.injEq] at heq
        exact absurd heq.1 hc
      · rename_i heq
        simp only [List.cons.injEq] at heq
        rw [← heq.1, ← heq.2, ih hr, List.flatMap_cons]
      · simp_all

end TileDepot.Http
