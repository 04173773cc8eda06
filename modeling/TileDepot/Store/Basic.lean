import TileDepot.Database.Statement
import TileDepot.Disk.Basic
import TileDepot.Event
import TileDepot.Fault
import TileDepot.Layer.Name
import TileDepot.Log

/-!
# The store and its operations

A `Store` is the disk with everything a running store keeps about it: the handles it has issued, the
cache from layer names to handles, and what it has logged and announced but nobody has collected yet.
Handles are numbered in the order in which they were issued, and the number is the identity of a
handle.  A `Step` is an operation: it turns a store into an answer or a fault, and the store
afterwards.  A fault does not undo what was done before it.

Events are collected, not delivered: a store does not know its listeners.

* `run_bind` says how a step continues after an answer, and `run_pure`, `run_get`, `run_set` and
  `run_modify` what the simplest steps do.
* `run_throw` and `run_tryCatch` say how faults pass and are caught.
-/

namespace TileDepot

/-- Which of the two statements that make a schema are damaged. -/
structure Ddl where
  tilesBroken : Bool
  metadataBroken : Bool
  deriving DecidableEq

/-- How far the transaction of a handle has come: there is none, one has begun, or it has changed rows
and holds the database back until it is committed. -/
inductive Transaction where
  | idle
  | begun
  | changed (after : Database)
  deriving DecidableEq

/-- A transaction that has been begun unless it had been before. -/
def Transaction.started : Transaction → Transaction
  | .idle => .begun
  | .begun => .begun
  | .changed db => .changed db

/-- An open database: the layer it was opened for, the path and the place of its file, the number of
the file, the columns it has seen, the forms of statement it has prepared with whether the last one of
the form found its table, its condition, and its transaction.  A severed handle has lost its database
without being closed; a stubborn one refuses to be closed once. -/
structure Handle where
  layer : String
  path : Path
  place : Place
  file : Nat
  schema : Schema
  prepared : Ordered Form Bool
  isClosed : Bool
  isSevered : Bool
  isStubborn : Bool
  transaction : Transaction
  deriving DecidableEq

/-- How a handle is shown in messages. -/
def Handle.text (h : Handle) : String :=
  "<LayerConnection " ++ Text.quoted h.layer ++ " " ++ h.path.name ++
    (if h.isClosed then " closed>" else " open>")

/-- The number of a handle. -/
abbrev HandleId := Nat

/-- What a store is set up with. -/
structure StoreConfig where
  root : Path
  extension : String
  forgiving : Bool
  deriving DecidableEq

/-- A store over a disk. -/
structure Store where
  config : StoreConfig
  disk : Disk
  issued : List Handle
  cache : Ordered String HandleId
  ddl : Ddl
  staleAcquires : Nat
  log : List LogRecord
  events : List Event
  deriving DecidableEq

/-- An operation on a store. -/
abbrev Step (α : Type) := ExceptT Fault (StateM Store) α

namespace Step

/-- The outcome of an operation and the store afterwards. -/
def outcome {α : Type} (x : Step α) (s : Store) : Except Fault α × Store := x.run.run s

/-- Read something off the store. -/
def view {α : Type} (f : Store → α) : Step α := do return f (← get)

/-- Write a log record. -/
def note (severity : Severity) (channel : Channel) (message : String) : Step Unit :=
  modify (fun s => { s with log := s.log ++ [⟨severity, channel, message⟩] })

/-- Announce an event. -/
def announce (e : Event) : Step Unit := modify (fun s => { s with events := s.events ++ [e] })

/-- Change the disk. -/
def changeDisk (f : Disk → Disk) : Step Unit := modify (fun s => { s with disk := f s.disk })

/-- Replace a handle. -/
def changeHandle (id : HandleId) (f : Handle → Handle) : Step Unit :=
  modify (fun s => { s with issued := s.issued.modify id f })

/-- Fail with an error of the store. -/
def fail {α : Type} (cause : Cause) (layer : Option String) (operation : String) : Step α :=
  throw (.store ⟨cause, layer, operation⟩)

/-- Pass a fault of the file system through. -/
def ofDisk {α : Type} : Except OsFault α → Step α
  | .ok a => pure a
  | .error f => throw (.os f)

/-- Pass a fault of the database through. -/
def ofDb {α : Type} : Except DbFault α → Step α
  | .ok a => pure a
  | .error f => throw (.db f)

/-- Report a fault of the database as a failed query on the layer; every other fault passes. -/
def translated {α : Type} (layer operation : String) (x : Step α) : Step α :=
  tryCatch x (fun
    | .db f => fail (.statement f) (some layer) operation
    | f => throw f)

theorem run_bind {α β : Type} (x : Step α) (f : α → Step β) (s : Store) :
    outcome (x >>= f) s =
      match outcome x s with
      | (.ok a, t) => outcome (f a) t
      | (.error e, t) => (.error e, t) := by
  simp only [outcome, ExceptT.run_bind, StateT.run_bind]
  rcases h : StateT.run x.run s with ⟨r, t⟩
  cases r <;> rfl

theorem run_pure {α : Type} (a : α) (s : Store) : outcome (pure a : Step α) s = (.ok a, s) := rfl

theorem run_get (s : Store) : outcome (get : Step Store) s = (.ok s, s) := rfl

theorem run_set (s t : Store) : outcome (set t : Step PUnit) s = (.ok ⟨⟩, t) := rfl

theorem run_modify (f : Store → Store) (s : Store) :
    outcome (modify f : Step PUnit) s = (.ok ⟨⟩, f s) := rfl

theorem run_throw {α : Type} (e : Fault) (s : Store) :
    outcome (throw e : Step α) s = (.error e, s) := rfl

theorem run_tryCatch {α : Type} (x : Step α) (f : Fault → Step α) (s : Store) :
    outcome (tryCatch x f) s =
      match outcome x s with
      | (.ok a, t) => (.ok a, t)
      | (.error e, t) => outcome (f e) t := by
  rcases h : outcome x s with ⟨r, t⟩
  have hx : (x : StateM Store (Except Fault α)) s = (r, t) := h
  change (ExceptT.tryCatch x f : StateM Store (Except Fault α)) s = _
  simp only [ExceptT.tryCatch, ExceptT.mk, bind, StateT.bind, hx]
  cases r <;> rfl

end Step

namespace Store

/-- The handle with a number. -/
def handle? (s : Store) (id : HandleId) : Option Handle := s.issued[id]?

/-- The layers with a cached handle, in the order in which they were cached. -/
def cachedLayers (s : Store) : List String := s.cache.keys

/-- The path of a layer's store file; the empty name has none. -/
def pathFor (layer : String) : Step Path := do
  let c ← Step.view (·.config)
  match Layer.storePath? c.root c.extension layer with
  | some p => return p
  | none => throw .emptyName

end Store

end TileDepot
