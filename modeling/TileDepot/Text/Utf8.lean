/-!
# Reading UTF-8

`Utf8.decode` reads bytes as text.  Only the shortest form of a character is accepted, no surrogate
and nothing beyond U+10FFFF.  Where reading fails, the `Flaw` says where the bytes at fault begin, how
many they are and what is wrong with them: a byte that starts no character, a byte that does not
continue one, or an end in the middle of one.

* `decode_ascii` says that bytes below 128 are read as the characters of the same numbers.
-/

namespace TileDepot.Utf8

/-- What is wrong with a sequence of bytes. -/
inductive FlawKind where
  | badStart
  | badContinuation
  | truncated
  deriving DecidableEq

/-- The wording of a flaw. -/
def FlawKind.text : FlawKind → String
  | .badStart => "invalid start byte"
  | .badContinuation => "invalid continuation byte"
  | .truncated => "unexpected end of data"

/-- Bytes that are no text: the first byte at fault, its position, and how many bytes are at fault. -/
structure Flaw where
  kind : FlawKind
  position : Nat
  count : Nat
  byte : UInt8
  deriving DecidableEq

/-- The closed range of second bytes that may follow a lead byte. -/
def secondRange (lead : UInt8) : UInt8 × UInt8 :=
  if lead = 0xe0 then (0xa0, 0xbf)
  else if lead = 0xed then (0x80, 0x9f)
  else if lead = 0xf0 then (0x90, 0xbf)
  else if lead = 0xf4 then (0x80, 0x8f)
  else (0x80, 0xbf)

/-- Whether a byte may follow a lead byte. -/
def followsLead (lead byte : UInt8) : Bool :=
  let (lo, hi) := secondRange lead
  lo ≤ byte && byte ≤ hi

/-- Whether a byte may stand third or fourth in a character. -/
def isTrail (byte : UInt8) : Bool := 0x80 ≤ byte && byte ≤ 0xbf

/-- The character of a lead value and the trailing bytes, six bits each. -/
def assemble (lead : Nat) (trail : List UInt8) : Char :=
  Char.ofNat (trail.foldl (fun n b => n * 64 + b.toNat % 64) lead)

/-- Read bytes that begin at a position, after the characters read so far (latest first). -/
def decodeFrom (position : Nat) (done : List Char) : List UInt8 → Except Flaw (List Char)
  | [] => .ok done.reverse
  | a :: rest =>
      if a < 0x80 then decodeFrom (position + 1) (Char.ofNat a.toNat :: done) rest
      else if a < 0xc2 ∨ 0xf4 < a then .error ⟨.badStart, position, 1, a⟩
      else
        match rest with
        | [] => .error ⟨.truncated, position, 1, a⟩
        | b :: rest =>
            if !followsLead a b then .error ⟨.badContinuation, position, 1, a⟩
            else if a < 0xe0 then
              decodeFrom (position + 2) (assemble (a.toNat % 32) [b] :: done) rest
            else
              match rest with
              | [] => .error ⟨.truncated, position, 2, a⟩
              | c :: rest =>
                  if !isTrail c then .error ⟨.badContinuation, position, 2, a⟩
                  else if a < 0xf0 then
                    decodeFrom (position + 3) (assemble (a.toNat % 16) [b, c] :: done) rest
                  else
                    match rest with
                    | [] => .error ⟨.truncated, position, 3, a⟩
                    | d :: rest =>
                        if !isTrail d then .error ⟨.badContinuation, position, 3, a⟩
                        else decodeFrom (position + 4) (assemble (a.toNat % 8) [b, c, d] :: done) rest

/-- Read bytes as text. -/
def decode (bytes : ByteArray) : Except Flaw String :=
  (decodeFrom 0 [] bytes.toList).map String.ofList

theorem decode_ascii (position : Nat) (done : List Char) (bytes : List UInt8)
    (h : ∀ b ∈ bytes, b < 0x80) :
    decodeFrom position done bytes
      = .ok (done.reverse ++ bytes.map (fun b => Char.ofNat b.toNat)) := by
  induction bytes generalizing position done with
  | nil => simp [decodeFrom]
  | cons a rest ih =>
      have ha : a < 0x80 := h a (by simp)
      rw [decodeFrom.eq_def]
      simp [ha, ih _ _ (fun b hb => h b (List.mem_cons_of_mem a hb))]

end TileDepot.Utf8
