import TileDepot.Scenario.Shown
import TileDepot.Scenario.World

/-!
# Carrying actions out

Each action is carried out on the world.  What users ask runs through the service, so that listeners
are told; what other programs do changes the disk alone.

* `perform_cachedLayers` says that looking at the cache changes nothing.
-/

namespace TileDepot.Scenario

/-- The path that a text names below the base. -/
def pathOf (path : String) : Path := base.join path

/-- Fail with a fault of the database. -/
def dbFailure {α : Type} (f : DbFault) : Act α := throw (.fault (.db f))

/-- Change the listeners and say how many are registered. -/
def onListeners (f : Notifier → Notifier) : Act Nat := do
  let w ← get
  let n := f w.app.service.notifier
  set (w.withNotifier n)
  return n.registered.length

/-- Change a named handle. -/
def onHandle (label : String) (f : Handle → Handle) : Act Result := do
  let id ← Act.named (← get).handles label
  Act.onStore (Step.changeHandle id f)
  return .done

/-- Open a file with a step of the store, close it again and show the handle. -/
def opened (x : Step HandleId) : Act Result := do
  let text ← Act.onStore (do
    let id ← x
    Store.close id
    return Store.handleText (← get) id)
  return .text text

/-- Run a statement through a session of the layer, in a transaction. -/
def inSession {α : Type} (layer : String) (st : Statement α) : Act Result := do
  let _ ← Act.onStore (Store.session layer (fun id => Store.transact id (Store.exec id st)))
  return .done

/-- Destroy the store and set another one up. -/
def reopen (changes : Ordered String Json) (root : Option String) : Act Result := do
  let _ ← Act.onStore (Store.perform .destroy)
  modify (fun w =>
    { w with
      arguments := changes.foldl (fun done p => Ordered.put done p.1 p.2) w.arguments
      root := root.getD w.root })
  let (r, w) := (← get).openStore
  set w
  match r with
  | .ok a => return a
  | .error e => throw e

/-- The number of the file at a path, which another program opens and creates if it is missing. -/
def openOutside (path : Path) : Act (Place × Nat) := do
  let w ← get
  match w.disk.find path with
  | .ok (place, .file n) => return (place, n)
  | .ok (_, .directory) => dbFailure .cannotOpen
  | .error .noEntry =>
      match w.disk.locate path with
      | .error _ => dbFailure .cannotOpen
      | .ok place =>
          let (n, d) := w.disk.createFile place (.raw .empty)
          set (w.withStore { w.app.service.store with disk := d })
          return (place, n)
  | .error _ => dbFailure .cannotOpen

/-- The database that another program meets in a file, unless somebody holds a lock on it. -/
def meetOutside (place : Place) (n : Nat) : Act Database := do
  let d := (← get).disk
  match Store.meet d place n with
  | .error f => dbFailure f
  | .ok db => if (d.locksOn n).isEmpty then return db else dbFailure .locked

/-- Make the tables of a database at a path. -/
def makeDatabase (path : Path) (more : Database) : Act Result := do
  let (place, n) ← openOutside path
  let db ← meetOutside place n
  match addTables db more with
  | .error f => dbFailure f
  | .ok db => Act.onDisk (fun d => .ok (Store.commit d place n db))

/-- Take a lock on the file at a path. -/
def takeLock (label : String) (level : LockLevel) : Act Result := do
  let (place, n) ← openOutside (pathOf label)
  let _ ← meetOutside place n
  Act.onDisk (fun d => .ok { d with locks := d.locks ++ [⟨label, n, level⟩] })

/-- Show what is known of a named handle. -/
def inspect (label : String) : Act Result := do
  let id ← Act.named (← get).handles label
  let isOpen ← Act.onStore (Store.isOpen id)
  match (← get).app.service.store.handle? id with
  | none => throw (.unknownLabel label)
  | some h => return .handle ⟨h.layer, h.path.name, h.isClosed, isOpen, h.text⟩

/-- Take a handle of a layer under a label. -/
def acquire (layer label : String) : Act Result := do
  let id ← Act.onStore (Store.acquire layer)
  let w ← get
  set { w with handles := w.handles.put label id }
  return .handed (w.handles.get? label = some id) (Store.handleText w.app.service.store id)

/-- Add a new listener. -/
def newListener (plan : ListenerPlan) (register : Bool) : Act Result := do
  let l := plan.listener (← get).listeners
  modify (fun w => { w with listeners := w.listeners + 1 })
  let count ← onListeners (fun n =>
    let n := { n with directory := n.directory.put l.label l }
    if register then n.add l else n)
  return .number count

/-- The listener with a label. -/
def listener (label : String) : Act Listener := do
  Act.named (← get).app.service.notifier.directory label

/-- Tell the listeners of an event that did not happen. -/
def emit (e : Event) : Act Result := do
  Act.onStore (Step.announce e)
  return .done

/-- Handle a request. -/
def request (r : Http.Request) : Act Result := do
  let w ← get
  let (outcome, app) := w.app.handle r
  set { w with app := app }
  match outcome with
  | .ok response => return .response response none
  | .error e => return .response Http.failureResponse (some e)

/-- Methods and templates of the endpoints in increasing order. -/
def sortedRoutes : List (String × String) :=
  Http.appRoutes.mergeSort (fun a b => a.1 < b.1 || (a.1 == b.1 && decide (a.2 ≤ b.2)))

/-- What a look into a file leaves of what stood beside it. -/
def settle (path : Path) : Act Unit := do
  let w ← get
  match w.disk.find path with
  | .ok (place, .file n) =>
      set (w.withStore { w.app.service.store with disk := Store.settle w.disk place n false })
  | _ => return ()

/-- Carry an action out. -/
def perform : Action → Act Result
  | .ask o => return resultOf (← Act.onStore (Store.perform o))
  | .request r => request r
  | .describeApp => return .app Http.appTitle Http.appVersion sortedRoutes
  | .newListener plan register => newListener plan register
  | .addListener label => do
      let l ← listener label
      return .number (← onListeners (·.add l))
  | .removeListener label => do
      let l ← listener label
      let removed := (← get).app.service.notifier.has l
      return .removal removed (← onListeners (·.remove l))
  | .emit e => emit e
  | .cachedLayers => return .names (← get).app.service.store.cachedLayers
  | .acquire layer label => acquire layer label
  | .inspect label => inspect label
  | .closeHandle label => do
      let id ← Act.named (← get).handles label
      Act.onStore (Store.close id)
      return .done
  | .severHandle label => onHandle label (fun h => { h with isSevered := true })
  | .failClosing label => onHandle label (fun h => { h with isStubborn := true })
  | .staleAcquire => do
      Act.onStore (modify (fun s => { s with staleAcquires := 1 }))
      return .done
  | .invalidate layer => do
      Act.onStore (Store.invalidate layer)
      return .done
  | .createFile layer => opened (Store.create layer)
  | .openFile layer => opened (Store.openStore layer)
  | .pathFor layer => return .text (← Act.onStore (Store.pathFor layer)).toString
  | .damageSchema .tiles => do
      Act.onStore (modify (fun s => { s with ddl := { s.ddl with tilesBroken := true } }))
      return .done
  | .damageSchema .metadata => do
      Act.onStore (modify (fun s => { s with ddl := { s.ddl with metadataBroken := true } }))
      return .done
  | .repairSchema => do
      Act.onStore (modify (fun s => { s with ddl := ⟨false, false⟩ }))
      return .done
  | .chooseDriver name => do
      modify (fun w => { w with driver := name })
      return .done
  | .reopen changes root => reopen changes root
  | .write path bytes => Act.onDisk (·.writeFile (pathOf path) bytes)
  | .unlink path => Act.onDisk (·.unlink (pathOf path))
  | .makeDirectory path =>
      Act.onDisk (fun d =>
        match d.makeDirectories (pathOf path) with
        | (none, d) => .ok d
        | (some f, _) => .error f)
  | .removeTree path => Act.onDisk (·.removeTree (pathOf path))
  | .move source target => Act.onDisk (·.move (pathOf source) (pathOf target))
  | .setTime path ns => Act.onDisk (·.setTime (pathOf path) ns)
  | .makeDatabase path db => makeDatabase (pathOf path) db
  | .dropTable layer table => inSession layer (Statement.dropTable table)
  | .insertTile key data => inSession key.layer (Statement.insertTile key.row data)
  | .insertMetadata layer key value => inSession layer (Statement.insertValue key value)
  | .lock path level => takeLock path level
  | .unlock path =>
      Act.onDisk (fun d => .ok { d with locks := d.locks.filter (fun l => l.label != path) })
  | .listFiles => return .names ((← get).disk.listing [baseName])
  | .readRows path inOrder => do
      let seen := lookAt (← get).disk (pathOf path) rowsOf
      settle (pathOf path)
      match seen with
      | .seen rows => return .rows (.seen (if inOrder then rows.sorted else rows))
      | other => return .rows other
  | .readColumns path => do
      let seen := lookAt (← get).disk (pathOf path) schemaOf
      settle (pathOf path)
      return .columns seen

/-- Listing the layers with a cached handle leaves the world as it is. -/
theorem perform_cachedLayers (w : World) :
    Act.outcome (perform .cachedLayers) w = (.ok (.names w.app.service.store.cachedLayers), w) := rfl

end TileDepot.Scenario
