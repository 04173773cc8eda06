import TileDepot.Store.Lifecycle
import TileDepot.Store.Metadata
import TileDepot.Store.Tiles

/-!
# The operations of a store

`Operation` lists everything that a user of a store can ask for, and `Answer` what it can be told.
`perform` carries an operation out.  `run` carries out a sequence and keeps the outcome of each.
-/

namespace TileDepot.Store

/-- What a user can ask of a store. -/
inductive Operation where
  | getTile (key : TileKey)
  | putTile (key : TileKey) (blob : Blob)
  | deleteTile (key : TileKey)
  | deleteGridset (layer grid : String)
  | deleteRange (range : TileRange)
  | clear
  | layerExists (layer : String)
  | deleteLayer (layer : String)
  | renameLayer (source target : String)
  | getMetadata (layer key : String)
  | putMetadata (layer key value : String)
  | allMetadata (layer : String)
  | metadataEntries (layer : String)
  | destroy

/-- What a store answers. -/
inductive Answer where
  | done
  | flag (b : Bool)
  | count (n : Nat)
  | tile (record : Option TileRecord)
  | value (v : Option String)
  | pairs (ps : List (Option String × Option String))
  | entries (layer : String) (ps : List (Option String × Option String))

/-- Close every handle.  The store stays usable: the next operation opens its file again. -/
def destroy : Step Unit := do
  Step.note .info .service "Closing SQLiteBlobStore connections"
  releaseAll

/-- Carry an operation out. -/
def perform : Operation → Step Answer
  | .getTile key => return .tile (← getTile key)
  | .putTile key blob => do
      putTile key blob
      return .done
  | .deleteTile key => return .flag (← deleteTile key)
  | .deleteGridset layer grid => return .count (← deleteGridset layer grid)
  | .deleteRange range => return .count (← deleteRange range)
  | .clear => do
      clear
      return .done
  | .layerExists layer => return .flag (← layerExists layer)
  | .deleteLayer layer => return .flag (← deleteLayer layer)
  | .renameLayer source target => return .flag (← renameLayer source target)
  | .getMetadata layer key => return .value (← getMetadata layer key)
  | .putMetadata layer key value => do
      putMetadata layer key value
      return .done
  | .allMetadata layer => return .pairs (← allMetadata layer)
  | .metadataEntries layer => return .entries layer (← metadataEntries layer)
  | .destroy => do
      destroy
      return .done

/-- Carry operations out one after the other; a failed one does not stop the rest. -/
def run : List Operation → Store → List (Except Fault Answer) × Store
  | [], s => ([], s)
  | o :: os, s =>
      let (r, s) := Step.outcome (perform o) s
      let (rs, s) := run os s
      (r :: rs, s)

end TileDepot.Store
