import TileDepot.Layer.Stripes
import TileDepot.Store.Schema

/-!
# The cache of handles

The registry keeps at most one handle per layer name.  `acquire` hands out the cached handle if it is
still usable; otherwise it closes and forgets it, and opens the store file or creates it.  Two layer
names with one file have a handle each, and `invalidate` closes them all.  Closing is best effort: a
handle that refuses is logged and forgotten all the same.

A `session` takes a handle that is not closed.  Between being handed out and being used a handle may be
closed by others; then another one is acquired, once for each time this happens.
-/

namespace TileDepot.Store

/-- The handle cached for a layer. -/
def cached (layer : String) : Step (Option HandleId) := Step.view (·.cache.get? layer)

/-- How a handle is shown. -/
def handleText (s : Store) (id : HandleId) : String := ((s.handle? id).map Handle.text).getD ""

/-- Close a handle and log a refusal. -/
def closeQuietly (id : HandleId) : Step Unit :=
  tryCatch (close id) (fun
    | .db f => do
        Step.note .warning .registry
          ("Failed to close " ++ handleText (← get) id ++ ": " ++ f.message)
    | f => throw f)

/-- Forget the handle of a layer, if it is the given one, and close it. -/
def dropHandle (layer : String) (id : HandleId) : Step Unit := do
  modify (fun s => if s.cache.get? layer = some id then { s with cache := s.cache.drop layer } else s)
  closeQuietly id

/-- The cached handle of a layer, if it may be handed out again. -/
def usable (layer : String) : Step (Option HandleId) := do
  match ← cached layer with
  | none => return none
  | some id => if ← isOpen id then return some id else return none

/-- Open or create the store file of a layer and cache the handle. -/
def renew (layer : String) : Step HandleId := do
  let path ← pathFor layer
  let d ← Step.view (·.disk)
  let id ← if ← Step.ofDisk (d.exists? path) then openStore layer else create layer
  modify (fun s => { s with cache := s.cache.put layer id })
  return id

/-- An open handle of a layer: the cached one if it is usable, a new one otherwise. -/
def obtain (layer : String) : Step HandleId := do
  match ← usable layer with
  | some id => return id
  | none =>
      let _ ← pathFor layer
      match ← cached layer with
      | none => renew layer
      | some id =>
          if ← isOpen id then return id
          Step.note .debug .registry ("Replacing stale connection " ++ handleText (← get) id)
          dropHandle layer id
          renew layer

/-- Hand out a handle of a layer.  While a closing by others is pending, it takes place before the
handle is handed out. -/
def acquire (layer : String) : Step HandleId := do
  let pending := (← get).staleAcquires
  modify (fun s => { s with staleAcquires := s.staleAcquires - 1 })
  let id ← obtain layer
  if 0 < pending then close id
  return id

/-- Whether a handle is closed. -/
def isClosed (s : Store) (id : HandleId) : Bool := ((s.handle? id).map (·.isClosed)).getD true

/-- Acquire handles until one is not closed, at most a number of times more than once. -/
def acquireOpen (layer : String) : Nat → Step HandleId
  | 0 => acquire layer
  | retries + 1 => do
      let id ← acquire layer
      if isClosed (← get) id then acquireOpen layer retries else return id

/-- Do something with a handle of a layer that is not closed. -/
def session {α : Type} (layer : String) (body : HandleId → Step α) : Step α := do
  let id ← acquireOpen layer (← get).staleAcquires
  body id

/-- The paths whose locks an operation on the layers takes, in the order in which it takes them. -/
def lockOrder (layers : List String) : Step (List Path) := do
  let paths ← layers.mapM pathFor
  return Layer.inOrder paths

/-- Close and forget every cached handle on the file of a layer. -/
def invalidate (layer : String) : Step Unit := do
  let path ← pathFor layer
  let s ← get
  let stale := s.cache.filter (fun e =>
    decide (e.1 = layer) || ((s.handle? e.2).map (fun h => decide (h.path = path))).getD false)
  stale.forM (fun e => dropHandle e.1 e.2)

/-- Close every cached handle and empty the cache. -/
def releaseAll : Step Unit := do
  let ids := (← get).cache.map Prod.snd
  modify (fun s => { s with cache := [] })
  Step.note .info .registry
    ("Closing " ++ toString ids.length ++ " SQLite tile store connection(s)")
  ids.forM closeQuietly

end TileDepot.Store
