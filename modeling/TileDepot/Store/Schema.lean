import TileDepot.Store.Connection

/-!
# Creating and opening store files

A new store file gets its two tables in one transaction, and an existing one is opened only if it has
both.  Where creating fails after the file was made, an empty file stays behind.

Whether there is a file is asked of the path as it is spelled, while a file is opened or made where the
path leads once its double dots are resolved.  Under an extension that has double dots, a file may be
met there that nobody looked for, and the tables are then made in it.
-/

namespace TileDepot.Store

/-- The database in a file with the two tables of a store added, or what keeps them from being made.
Nothing that is in the database goes, and a table whose name is taken is not made again. -/
def withTables (s : Store) (place : Place) (file : Nat) : Except DbFault Database := do
  let db ← meet s.disk place file
  if db.tiles.isSome || db.defines "tiles" then throw (.tableExists "tiles")
  if s.ddl.tilesBroken then throw .incomplete
  if !(s.disk.locksOn file).isEmpty then throw .locked
  writeObstacle s.disk place file (contentOf s.disk file).isEmpty
  if db.metadata.isSome || db.defines "meta" then throw (.tableExists "meta")
  if s.ddl.metadataBroken then throw .incomplete
  return { db with tiles := some ⟨.full, []⟩, metadata := some ⟨.full, []⟩ }

/-- Create the store file of a layer with its two tables. -/
def create (layer : String) : Step HandleId := do
  let path ← pathFor layer
  let d ← Step.view (·.disk)
  if ← Step.ofDisk (d.exists? path) then
    Step.fail (.storeExists path.toString) (some layer) "create"
  Step.note .info .schema ("Creating SQLite tile database " ++ path.name)
  let (place, file) ← connect path true
  Step.changeDisk (fun d => settle d place file true)
  match withTables (← get) place file with
  | .error f =>
      Step.note .error .schema ("Schema creation failed for " ++ path.name ++ ": " ++ f.message)
      Step.fail (.schemaNotMade path.name f) (some layer) "create"
  | .ok db =>
      Step.changeDisk (fun d => commit d place file db)
      issue layer path place file db.schema

/-- Open the store file of a layer, if it has both tables. -/
def openStore (layer : String) : Step HandleId := do
  let path ← pathFor layer
  Step.note .debug .schema ("Opening SQLite tile database " ++ path.name)
  let (place, file) ← connect path false
  let d ← Step.view (·.disk)
  Step.changeDisk (fun d => settle d place file false)
  match meet d place file with
  | .error f => Step.fail (.notReadable path.name f) (some layer) "open"
  | .ok db =>
      if db.missing.isEmpty then issue layer path place file db.schema
      else Step.fail (.tablesMissing path.name db.missing) (some layer) "open"

end TileDepot.Store
