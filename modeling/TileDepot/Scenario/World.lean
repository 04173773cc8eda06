import TileDepot.Scenario.Basic

/-!
# The world of a scenario

A `World` is a service, the settings it was set up with, and what the scenario has named: handles by
label, the locks that it holds at present, and how many listeners there have been.  Everything happens
below one directory, the base.  An `Act` is an effect on the world that gives a result or fails; a
failure does not undo what was done before it.

* `openStore_refused` says that settings that are refused leave the world as it is.
* `run_onStore` says that an act on the store is the step of the service.
-/

namespace TileDepot.Scenario

/-- The name of the base directory. -/
def baseName : String := "<base>"

/-- The base directory. -/
def base : Path := ⟨.here, [baseName]⟩

/-- Where a scenario happens. -/
structure World where
  app : Http.App
  root : String
  arguments : Ordered String Json
  driver : String
  handles : Ordered String HandleId
  held : List Path
  listeners : Nat

/-- An effect on the world. -/
abbrev Act (α : Type) := ExceptT Failure (StateM World) α

namespace World

/-- The disk of a world. -/
def disk (w : World) : Disk := w.app.service.store.disk

/-- A world with another service. -/
def withService (w : World) (v : Service) : World := { w with app := { w.app with service := v } }

/-- A world with another store. -/
def withStore (w : World) (s : Store) : World := w.withService { w.app.service with store := s }

/-- A world with other listeners. -/
def withNotifier (w : World) (n : Notifier) : World := w.withService { w.app.service with notifier := n }

/-- A world over a disk before any store was set up, with the settings for it. -/
def before (root : String) (arguments : Ordered String Json) (isSealed : Bool) : World :=
  let disk := { Disk.ofDirectory baseName with isSealed := isSealed }
  let store := Store.fresh ⟨base, "", false⟩ disk ⟨false, false⟩
  ⟨⟨⟨store, .empty, []⟩, []⟩, root, arguments, Store.defaultDriver, [], [], 0⟩

/-- The settings of a world. -/
def settings (w : World) : Except Settings.Refusal Settings :=
  Settings.load ⟨("storage_dir", .text (base.join w.root).toString) :: w.arguments, [], none⟩

/-- A path as it is shown to somebody in the base directory. -/
def relative (p : Path) : String :=
  if p.anchor = .here ∧ p.names.head? = some baseName then
    Path.toString { p with names := p.names.drop 1 }
  else p.toString

/-- Set a store up by the settings.  It has no listeners; issued handles stay what they are. -/
def openStore (w : World) : Outcome × World :=
  match w.settings with
  | .error r => (.error (.settings r), w)
  | .ok s =>
      let old := w.app.service.store
      let next := { Store.fresh s.storeConfig old.disk old.ddl with issued := old.issued, log := old.log }
      match Step.outcome (Store.setUp w.driver) next with
      | (.error f, t) => (.error (.fault f), w.withStore { old with disk := t.disk, log := t.log })
      | (.ok (), t) =>
          let notifier := { w.app.service.notifier with registered := [] }
          let service : Service := ⟨t, notifier, w.app.service.deliveries⟩
          (.ok (.text (relative s.storageDir)), { w with app := ⟨service, s.allowOrigins⟩ })

theorem openStore_refused {w : World} {r : Settings.Refusal} (h : w.settings = .error r) :
    w.openStore = (.error (.settings r), w) := by
  simp [openStore, h]

end World

namespace Act

/-- Run an act. -/
def outcome {α : Type} (x : Act α) (w : World) : Except Failure α × World := x.run.run w

/-- Run a step of the store and dispatch what it announces. -/
def onStore {α : Type} (x : Step α) : Act α :=
  ExceptT.mk (fun w =>
    let (r, v) := w.app.service.run x
    (r.mapError Failure.fault, w.withService v))

/-- Change the disk, or fail with a fault of the file system. -/
def onDisk (f : Disk → Except OsFault Disk) : Act Result := do
  let w ← get
  match f w.disk with
  | .error e => throw (.fault (.os e))
  | .ok d =>
      set (w.withStore { w.app.service.store with disk := d })
      return .done

/-- What a label names. -/
def named {α : Type} (m : Ordered String α) (label : String) : Act α :=
  match m.get? label with
  | some a => return a
  | none => throw (.unknownLabel label)

/-- An act whose failure is a result. -/
def attempt {α : Type} (x : Act α) : Act (Except Failure α) := do
  let w ← get
  let (r, w) := outcome x w
  set w
  return r

end Act

/-- An act on the store gives what the service gives, and leaves the service as it left it. -/
theorem run_onStore {α : Type} (x : Step α) (w : World) :
    Act.outcome (Act.onStore x) w =
      ((w.app.service.run x).1.mapError Failure.fault, w.withService (w.app.service.run x).2) := rfl

end TileDepot.Scenario
