import TileDepot.Store.Registry
import TileDepot.Time

/-!
# Tiles in a store

Tiles are looked up, written and removed by their address.  The table has no unique index, so a write
first changes the rows that are there and inserts a row only if there is none.  A change is announced
after it was made, and only if rows were changed.
-/

namespace TileDepot.Store

/-- A tile that was looked up; the time is that of its file, or none for the present. -/
structure TileRecord where
  key : TileKey
  blob : Blob
  modified : Option Instant

/-- The time of the file at a path; a file that was not given one has the present. -/
def modifiedAt (path : Path) : Step (Option Instant) := do
  let d ← Step.view (·.disk)
  match d.find path with
  | .ok (_, .file n) => return ((d.body? n).bind (·.time)).map Instant.ofFileTime
  | .ok (_, .directory) => return none
  | .error c => do
      Step.note .debug .tiles
        ("Could not stat " ++ path.toString ++ ", using current time: " ++
          OsFault.message ⟨c, path.toString, none⟩)
      return none

/-- The bytes of a data cell: a blob is itself, a number stands for that many zero bytes. -/
def blobOf : Cell → Except Fault (Option Blob)
  | .null => .ok none
  | .blob b => .ok (some b)
  | .integer i =>
      if i < 0 then .error .negativeBlob else .ok (some ⟨Array.replicate i.toNat 0⟩)
  | .text _ => .error .textualBlob

/-- Look up a tile. -/
def getTile (key : TileKey) : Step (Option TileRecord) := do
  let found ← Step.translated key.layer "get" (session key.layer (fun id => do
    let cell ← exec id (Statement.selectTile key.row)
    let path ← pathFor key.layer
    match cell with
    | none | some .null => return none
    | some cell => return some (cell, ← modifiedAt path)))
  match found with
  | none => return none
  | some (cell, modified) =>
      match blobOf cell with
      | .error f => throw f
      | .ok none => return none
      | .ok (some blob) => return some ⟨key, blob, modified⟩

/-- Store a tile in place of whatever is stored under its address. -/
def putTile (key : TileKey) (blob : Blob) : Step Unit := do
  Step.translated key.layer "put" (session key.layer (fun id => transact id (do
    let count ← exec id (Statement.updateTile key.row (.blob blob))
    if count = 0 then exec id (Statement.insertTile key.row (.blob blob)))))
  Step.announce (.tileStored key blob.size)

/-- How an address within a layer is shown. -/
def rowText (k : RowKey) : String :=
  "(" ++ Text.joined ", "
    [Text.quoted k.grid, toString k.x, toString k.y, toString k.z, Text.quoted k.format] ++ ")"

/-- Remove a tile, and say whether there was one. -/
def deleteTile (key : TileKey) : Step Bool := do
  Step.note .debug .tiles ("Deleting tile " ++ rowText key.row ++ " from layer " ++ key.layer)
  let count ← Step.translated key.layer "delete" (session key.layer (fun id =>
    transact id (exec id (Statement.deleteTile key.row))))
  if count ≠ 0 then Step.announce (.tileDeleted key)
  return count ≠ 0

/-- Remove every tile of a grid set from a layer, and count the rows removed. -/
def deleteGridset (layer grid : String) : Step Nat := do
  Step.note .info .tiles ("Deleting SQLite cached layer " ++ layer ++ "; grid set " ++ grid)
  let count ← Step.translated layer "delete_by_gridset" (session layer (fun id =>
    transact id (exec id (Statement.deleteGrid grid))))
  if count ≠ 0 then Step.announce (.gridsetDeleted layer grid)
  return count

/-- Removing a block of tiles is not supported. -/
def deleteRange (range : TileRange) : Step Nat :=
  Step.fail .rangesUnsupported (some range.layer) "delete_range"

/-- Removing everything is not supported. -/
def clear : Step Unit := Step.fail .clearUnsupported none "clear"

end TileDepot.Store
