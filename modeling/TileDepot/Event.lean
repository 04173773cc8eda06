import TileDepot.Tile

/-!
# Events

What a store tells its listeners after it changed something.
-/

namespace TileDepot

/-- The five kinds of events. -/
inductive EventKind where
  | tileStored
  | tileDeleted
  | gridsetDeleted
  | layerDeleted
  | layerRenamed
  deriving DecidableEq

/-- The name of a kind of event. -/
def EventKind.name : EventKind → String
  | .tileStored => "tile_stored"
  | .tileDeleted => "tile_deleted"
  | .gridsetDeleted => "gridset_deleted"
  | .layerDeleted => "layer_deleted"
  | .layerRenamed => "layer_renamed"

/-- A change that was made. -/
inductive Event where
  | tileStored (key : TileKey) (size : Nat)
  | tileDeleted (key : TileKey)
  | gridsetDeleted (layer grid : String)
  | layerDeleted (layer : String)
  | layerRenamed (source target : String)
  deriving DecidableEq

/-- The kind of an event. -/
def Event.kind : Event → EventKind
  | .tileStored .. => .tileStored
  | .tileDeleted _ => .tileDeleted
  | .gridsetDeleted .. => .gridsetDeleted
  | .layerDeleted _ => .layerDeleted
  | .layerRenamed .. => .layerRenamed

end TileDepot
