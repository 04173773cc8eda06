import TileDepot.Database.Fault
import TileDepot.Text.Utf8
import TileDepot.Tile

/-!
# Databases

A database holds a table of tiles and a table of metadata, and either may be missing or have other
columns than expected.  Rows keep the order in which they were inserted.  Tables carry no unique index,
so that several rows may have one key; a row that was inserted from outside may have any value as its
data.

* `Database.empty_rows` says that the freshly created store holds two tables and no row.
-/

namespace TileDepot

/-- The columns of a table: the expected ones, only the first of them, or the expected ones and one
more that must have a value. -/
inductive Shape where
  | full
  | keyOnly
  | guarded
  deriving DecidableEq

/-- The two tables of a store. -/
inductive TableName where
  | tiles
  | metadata
  deriving DecidableEq

/-- The name of a table. -/
def TableName.text : TableName → String
  | .tiles => "tiles"
  | .metadata => "meta"

/-- The data of a tile row. -/
inductive Cell where
  | null
  | integer (i : Int)
  | text (s : String)
  | blob (b : Blob)
  deriving DecidableEq

/-- A row of the table of tiles. -/
structure TileRow where
  key : RowKey
  data : Cell
  deriving DecidableEq

/-- A value in a text column: nothing, a text, or bytes that are no text. -/
inductive TextCell where
  | null
  | text (s : String)
  | bytes (bs : List UInt8)
  deriving DecidableEq

/-- Bytes as a value of a text column. -/
def TextCell.ofBytes (bytes : List UInt8) : TextCell :=
  match Utf8.decodeFrom 0 [] bytes with
  | .ok cs => .text (String.ofList cs)
  | .error _ => .bytes bytes

/-- A row of the table of metadata. -/
structure MetadataRow where
  key : TextCell
  value : TextCell
  deriving DecidableEq

/-- A table: its columns and its rows in insertion order. -/
structure Table (ρ : Type) where
  shape : Shape
  rows : List ρ
  deriving DecidableEq

/-- The tables of a database, and the names of whatever else it defines. -/
structure Database where
  tiles : Option (Table TileRow)
  metadata : Option (Table MetadataRow)
  others : List String
  deriving DecidableEq

/-- The columns of the two tables, as far as they are there. -/
structure Schema where
  tiles : Option Shape
  metadata : Option Shape
  deriving DecidableEq

/-- The columns of a table of a schema. -/
def Schema.shape? (s : Schema) : TableName → Option Shape
  | .tiles => s.tiles
  | .metadata => s.metadata

namespace Database

/-- A database without any table. -/
def blank : Database := ⟨none, none, []⟩

/-- The two tables of a new store. -/
def empty : Database := ⟨some ⟨.full, []⟩, some ⟨.full, []⟩, []⟩

/-- The columns of the two tables. -/
def schema (db : Database) : Schema := ⟨db.tiles.map (·.shape), db.metadata.map (·.shape)⟩

/-- The required tables that are missing, in alphabetical order. -/
def missing (db : Database) : List TableName :=
  (if db.metadata.isNone then [.metadata] else []) ++ (if db.tiles.isNone then [.tiles] else [])

/-- Whether something else than the two tables has a name, in whatever case. -/
def defines (db : Database) (name : String) : Bool :=
  db.others.any (fun o => o.map Char.toLower = name)

/-- The rows of the table of tiles; a missing table has none. -/
def tileRows (db : Database) : List TileRow := (db.tiles.map (·.rows)).getD []

/-- The rows of the table of metadata; a missing table has none. -/
def metadataRows (db : Database) : List MetadataRow := (db.metadata.map (·.rows)).getD []

/-- A new store has both tables and no rows. -/
theorem empty_rows : empty.missing = [] ∧ empty.tileRows = [] ∧ empty.metadataRows = [] := by
  decide

end Database

end TileDepot
