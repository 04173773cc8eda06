import TileDepot.Database.Basic

/-!
# The content of a file as a database

The bytes that someone wrote into a file are no database, unless there are none: an empty file is a
database without tables.  A lone byte counts as none, since the engine itself writes one where a file
has to have some length.  What is said about other bytes depends on the first hundred of them.  If they
are the header of a database, the rest is damaged; if not, the file is something else.

* `view_of_isEmpty` says that a file without content is a database without tables.
-/

namespace TileDepot

/-- What a file holds: bytes written from outside, or a database. -/
inductive Content where
  | raw (bytes : ByteArray)
  | database (db : Database)
  deriving DecidableEq

namespace Content

/-- The byte at a position; zero beyond the end. -/
def byteAt (bytes : ByteArray) (i : Nat) : Nat := (bytes.data.getD i 0).toNat

/-- The sixteen bytes that a database begins with. -/
def magic : List UInt8 := "SQLite format 3".toUTF8.toList ++ [0]

/-- The size of a page, by the two bytes that give it. -/
def pageSize (bytes : ByteArray) : Nat :=
  let n := byteAt bytes 16 * 256 + byteAt bytes 17
  if n = 1 then 65536 else n

/-- Whether the first hundred bytes are a header: the magic bytes, a known format, the three fixed
fractions, and a page size that is a power of two and leaves room for a row. -/
def hasHeader (bytes : ByteArray) : Bool :=
  let size := pageSize bytes
  decide (100 ≤ bytes.size) && (bytes.extract 0 16).toList == magic && decide (byteAt bytes 19 ≤ 2) &&
    byteAt bytes 21 == 64 && byteAt bytes 22 == 32 && byteAt bytes 23 == 32 &&
    [512, 1024, 2048, 4096, 8192, 16384, 32768, 65536].contains size &&
    decide (480 ≤ size - byteAt bytes 20)

/-- Whether a content counts as none. -/
def isEmpty : Content → Bool
  | .raw bytes => bytes.size ≤ 1
  | .database _ => false

/-- The database that a content is, or why it is none. -/
def view : Content → Except DbFault Database
  | .database db => .ok db
  | .raw bytes =>
      if bytes.size ≤ 1 then .ok .blank
      else if hasHeader bytes then .error .malformed
      else .error .notADatabase

/-- A file without content is a database without tables. -/
theorem view_of_isEmpty {c : Content} (h : c.isEmpty = true) : c.view = .ok .blank := by
  cases c with
  | raw bytes => simp_all [isEmpty, view]
  | database db => simp [isEmpty] at h

end Content

end TileDepot
