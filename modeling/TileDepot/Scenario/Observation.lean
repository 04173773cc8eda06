import TileDepot.Disk.Outside
import TileDepot.Store.Connection

/-!
# Looking into a file

An observer opens a file as a database and reads its rows or its columns without going through a store.
There may be no file, or none that can be read.

* `lookAt_missing` says that a path that leads nowhere shows nothing.
-/

namespace TileDepot.Scenario

/-- What an observer sees of a file. -/
inductive Look (α : Type) where
  | missing
  | unreadable (f : DbFault)
  | seen (a : α)

/-- Read something from the database at a path. -/
def lookAt {α : Type} (d : Disk) (p : Path) (f : Database → Except DbFault α) : Look α :=
  match d.find p with
  | .error _ => .missing
  | .ok (_, .directory) => .unreadable .cannotOpen
  | .ok (place, .file n) =>
      match (Store.meet d place n).bind f with
      | .ok a => .seen a
      | .error e => .unreadable e

/-- The rows of the two tables, as far as they are there. -/
structure Rows where
  tiles : Option (List TileRow)
  metadata : Option (List MetadataRow)

/-- The rows of a table, if it has all its columns. -/
def fullRows {ρ : Type} (column : String) (t : Table ρ) : Except DbFault (List ρ) :=
  match t.shape with
  | .keyOnly => .error (.noSuchColumn column)
  | .full | .guarded => .ok t.rows

/-- Refuse a row of metadata that is no text. -/
def readable (r : MetadataRow) : Except DbFault Unit := do
  let _ ← Statement.readText "key" r.key
  let _ ← Statement.readText "value" r.value

/-- All rows of a database. -/
def rowsOf (db : Database) : Except DbFault Rows := do
  let tiles ← db.tiles.mapM (fullRows "x")
  let metadata ← db.metadata.mapM (fullRows "value")
  (metadata.getD []).forM readable
  return ⟨tiles, metadata⟩

/-- The names and types of the columns of the two tables, as far as they are there. -/
structure Columns where
  tiles : Option (List (String × String))
  metadata : Option (List (String × String))

/-- The columns of a table with a shape, given the expected ones. -/
def columnsOf (expected : List (String × String)) : Shape → List (String × String)
  | .full => expected
  | .keyOnly => expected.take 1
  | .guarded => expected ++ [("extra", "TEXT")]

/-- The expected columns of the table of tiles. -/
def tileColumns : List (String × String) :=
  [("grid_set_id", "TEXT"), ("x", "INTEGER"), ("y", "INTEGER"), ("z", "INTEGER"), ("type", "TEXT"),
   ("data", "BLOB")]

/-- The expected columns of the table of metadata. -/
def metadataColumns : List (String × String) := [("key", "TEXT"), ("value", "TEXT")]

/-- The columns of a database. -/
def schemaOf (db : Database) : Except DbFault Columns :=
  .ok ⟨db.schema.tiles.map (columnsOf tileColumns), db.schema.metadata.map (columnsOf metadataColumns)⟩

/-- The databases that other programs make, by the name of what is special about them. -/
def samples : List (String × Database) :=
  [("good", .empty),
   ("extra_table", { Database.empty with others := ["zoom"] }),
   ("tiles_only", { Database.blank with tiles := some ⟨.full, []⟩ }),
   ("meta_only", { Database.blank with metadata := some ⟨.full, []⟩ }),
   ("other", { Database.blank with others := ["other"] }),
   ("upper", { Database.blank with others := ["TILES", "META"] }),
   ("meta_view", ⟨some ⟨.full, []⟩, none, ["meta"]⟩),
   ("bare_columns", ⟨some ⟨.keyOnly, []⟩, some ⟨.keyOnly, []⟩, []⟩),
   ("notnull", ⟨some ⟨.guarded, []⟩, some ⟨.guarded, []⟩, []⟩)]

/-- Add the tables of one database to another, unless one is there already. -/
def addTables (db more : Database) : Except DbFault Database :=
  if db.tiles.isSome && more.tiles.isSome then .error (.tableExists "tiles")
  else if db.metadata.isSome && more.metadata.isSome then .error (.tableExists "meta")
  else
    match more.others.find? (fun t => db.others.contains t) with
    | some t => .error (.tableExists t)
    | none => .ok ⟨db.tiles.or more.tiles, db.metadata.or more.metadata, db.others ++ more.others⟩

theorem lookAt_missing {α : Type} {d : Disk} {p : Path} {c : OsCause} (h : d.find p = .error c)
    (f : Database → Except DbFault α) : lookAt d p f = .missing := by
  simp [lookAt, h]

end TileDepot.Scenario
