/-!
# Database faults

A `DbFault` is why a statement, or opening a database, fails.  Its wording is `DbFault.message`.
-/

namespace TileDepot

/-- Why the database engine refuses. -/
inductive DbFault where
  | notADatabase
  | malformed
  | locked
  | cannotOpen
  | diskFailure
  | readOnly
  | closed
  | incomplete
  | noSuchTable (table : String)
  | noSuchColumn (column : String)
  | noColumnNamed (table column : String)
  | missingValue (table column : String)
  | tableExists (table : String)
  | undecodable (column : String) (bytes : List UInt8)
  | integerTooLarge
  deriving DecidableEq

namespace DbFault

/-- Bytes up to the first NUL, those beyond ASCII replaced, as a message shows them. -/
def shownBytes (bytes : List UInt8) : List Char :=
  (bytes.takeWhile (· ≠ 0)).map (fun b => if b < 0x80 then Char.ofNat b.toNat else '\uFFFD')

/-- The most characters of a message about bytes that are no text. -/
def maxShown : Nat := 198

/-- The wording of a fault. -/
def message : DbFault → String
  | .notADatabase => "file is not a database"
  | .malformed => "database disk image is malformed"
  | .locked => "database is locked"
  | .cannotOpen => "unable to open database file"
  | .diskFailure => "disk I/O error"
  | .readOnly => "attempt to write a readonly database"
  | .closed => "Cannot operate on a closed database."
  | .incomplete => "incomplete input"
  | .noSuchTable table => "no such table: " ++ table
  | .noSuchColumn column => "no such column: " ++ column
  | .noColumnNamed table column => "table " ++ table ++ " has no column named " ++ column
  | .missingValue table column => "NOT NULL constraint failed: " ++ table ++ "." ++ column
  | .tableExists table => "table " ++ table ++ " already exists"
  | .undecodable column bytes =>
      String.ofList (("Could not decode to UTF-8 column '" ++ column ++ "' with text '").toList ++
        shownBytes bytes ++ ['\x27'] |>.take maxShown)
  | .integerTooLarge => "Python int too large to convert to SQLite INTEGER"

end DbFault

end TileDepot
