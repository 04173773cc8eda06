import TileDepot.Database.Basic

/-!
# Statements

A statement has a form, which is the same whatever values it is given.  It is checked against the
columns of its table, then its numbers are bound, then it runs on a database.  Running gives an answer
and, if the database was changed, the database afterwards; a statement that matched no row, or gave
every row the value it had, leaves `none`, since it writes nothing.

* `answer_updateTile`, `answer_deleteTile` and `answer_deleteGrid` say that the count a statement
  answers is the number of rows that match.
-/

namespace TileDepot

/-- The answer of a statement and the database afterwards, if rows were changed. -/
structure Effect (α : Type) where
  answer : α
  after : Option Database

/-- The forms of statements. -/
inductive Form where
  | selectTile
  | updateTile
  | insertTile
  | deleteTile
  | deleteGrid
  | selectValue
  | selectEntries
  | updateValue
  | insertValue
  | dropTable (table : TableName)
  deriving DecidableEq

/-- Whether statements of a form change rows, so that they run in a transaction. -/
def Form.changesRows : Form → Bool
  | .updateTile | .insertTile | .deleteTile | .deleteGrid | .updateValue | .insertValue => true
  | .selectTile | .selectValue | .selectEntries | .dropTable _ => false

/-- A statement on one of the two tables. -/
structure Statement (α : Type) where
  form : Form
  table : TableName
  writes : Bool
  check : Shape → Except DbFault Unit
  bind : Except DbFault Unit
  run : Database → Except DbFault (Effect α)

namespace Statement

/-- Refuse a table that has only its first column. -/
def unlessKeyOnly (fault : DbFault) : Shape → Except DbFault Unit
  | .keyOnly => .error fault
  | .full | .guarded => .ok ()

/-- Refuse a key with a coordinate that a table cannot keep. -/
def bindKey (k : RowKey) : Except DbFault Unit :=
  if k.fits then .ok () else .error .integerTooLarge

/-- Change the rows of the table of tiles. -/
def onTiles (db : Database) (f : List TileRow → List TileRow) : Database :=
  { db with tiles := db.tiles.map (fun t => { t with rows := f t.rows }) }

/-- Change the rows of the table of metadata. -/
def onMetadata (db : Database) (f : List MetadataRow → List MetadataRow) : Database :=
  { db with metadata := db.metadata.map (fun t => { t with rows := f t.rows }) }

/-- The answer of a statement that counts the rows it matched.  One that gives every row the value it
has writes nothing. -/
def counted (n : Nat) (before after : Database) : Except DbFault (Effect Nat) :=
  .ok ⟨n, if after = before then none else some after⟩

/-- The data of the first tile row with the key. -/
def selectTile (k : RowKey) : Statement (Option Cell) where
  form := .selectTile
  table := .tiles
  writes := false
  check := unlessKeyOnly (.noSuchColumn "data")
  bind := bindKey k
  run db := .ok ⟨(db.tileRows.find? (fun r => r.key = k)).map (·.data), none⟩

/-- Give every tile row with the key the data, and count them. -/
def updateTile (k : RowKey) (data : Cell) : Statement Nat where
  form := .updateTile
  table := .tiles
  writes := true
  check := unlessKeyOnly (.noSuchColumn "data")
  bind := bindKey k
  run db :=
    counted (db.tileRows.countP (fun r => r.key = k)) db
      (onTiles db (·.map (fun r => if r.key = k then { r with data := data } else r)))

/-- Append a tile row. -/
def insertTile (k : RowKey) (data : Cell) : Statement Unit where
  form := .insertTile
  table := .tiles
  writes := true
  check := unlessKeyOnly (.noColumnNamed "tiles" "x")
  bind :=
    match data with
    | .integer i => if k.fits && fitsInteger i then .ok () else .error .integerTooLarge
    | _ => bindKey k
  run db :=
    if db.schema.tiles = some .guarded then .error (.missingValue "tiles" "extra")
    else .ok ⟨(), some (onTiles db (· ++ [⟨k, data⟩]))⟩

/-- Remove every tile row with the key, and count them. -/
def deleteTile (k : RowKey) : Statement Nat where
  form := .deleteTile
  table := .tiles
  writes := true
  check := unlessKeyOnly (.noSuchColumn "x")
  bind := bindKey k
  run db :=
    counted (db.tileRows.countP (fun r => r.key = k)) db
      (onTiles db (·.filter (fun r => !decide (r.key = k))))

/-- Remove every tile row of the grid set, and count them. -/
def deleteGrid (grid : String) : Statement Nat where
  form := .deleteGrid
  table := .tiles
  writes := true
  check := fun _ => .ok ()
  bind := .ok ()
  run db :=
    counted (db.tileRows.countP (fun r => r.key.grid = grid)) db
      (onTiles db (·.filter (fun r => !decide (r.key.grid = grid))))

/-- A cell of a text column as a text, if it is one or empty. -/
def readText (column : String) : TextCell → Except DbFault (Option String)
  | .null => .ok none
  | .text s => .ok (some s)
  | .bytes bs => .error (.undecodable column bs)

/-- The value of the first metadata row with the key. -/
def selectValue (key : String) : Statement (Option String) where
  form := .selectValue
  table := .metadata
  writes := false
  check := unlessKeyOnly (.noSuchColumn "value")
  bind := .ok ()
  run db := do
    match db.metadataRows.find? (fun r => r.key = .text key) with
    | none => return ⟨none, none⟩
    | some r => return ⟨← readText "value" r.value, none⟩

/-- Keys and values of all metadata rows. -/
def selectEntries : Statement (List (Option String × Option String)) where
  form := .selectEntries
  table := .metadata
  writes := false
  check := unlessKeyOnly (.noSuchColumn "value")
  bind := .ok ()
  run db := do
    let rows ← db.metadataRows.mapM (fun r => do
      let k ← readText "key" r.key
      let v ← readText "value" r.value
      return (k, v))
    return ⟨rows, none⟩

/-- Give every metadata row with the key the value, and count them. -/
def updateValue (key value : String) : Statement Nat where
  form := .updateValue
  table := .metadata
  writes := true
  check := unlessKeyOnly (.noSuchColumn "value")
  bind := .ok ()
  run db :=
    counted (db.metadataRows.countP (fun r => r.key = .text key)) db
      (onMetadata db
        (·.map (fun r => if r.key = .text key then { r with value := .text value } else r)))

/-- Append a metadata row. -/
def insertValue (key value : TextCell) : Statement Unit where
  form := .insertValue
  table := .metadata
  writes := true
  check := unlessKeyOnly (.noColumnNamed "meta" "value")
  bind := .ok ()
  run db :=
    if db.schema.metadata = some .guarded then .error (.missingValue "meta" "extra")
    else .ok ⟨(), some (onMetadata db (· ++ [⟨key, value⟩]))⟩

/-- Remove a table with its rows. -/
def dropTable (table : TableName) : Statement Unit where
  form := .dropTable table
  table := table
  writes := true
  check := fun _ => .ok ()
  bind := .ok ()
  run db :=
    match table with
    | .tiles => .ok ⟨(), some { db with tiles := none }⟩
    | .metadata => .ok ⟨(), some { db with metadata := none }⟩

theorem answer_counted {n : Nat} {before after : Database} {e : Effect Nat}
    (h : counted n before after = .ok e) : e.answer = n := by
  simp only [counted, Except.ok.injEq] at h
  rw [← h]

/-- An update answers the number of rows with the key. -/
theorem answer_updateTile {k : RowKey} {data : Cell} {db : Database} {e : Effect Nat}
    (h : (updateTile k data).run db = .ok e) :
    e.answer = db.tileRows.countP (fun r => r.key = k) :=
  answer_counted h

/-- A removal answers the number of rows with the key. -/
theorem answer_deleteTile {k : RowKey} {db : Database} {e : Effect Nat}
    (h : (deleteTile k).run db = .ok e) : e.answer = db.tileRows.countP (fun r => r.key = k) :=
  answer_counted h

/-- A removal by grid set answers the number of rows of the grid set. -/
theorem answer_deleteGrid {grid : String} {db : Database} {e : Effect Nat}
    (h : (deleteGrid grid).run db = .ok e) :
    e.answer = db.tileRows.countP (fun r => r.key.grid = grid) :=
  answer_counted h

end Statement

end TileDepot
