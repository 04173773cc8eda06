import TileDepot.Database.Basic
import TileDepot.Disk.Fault
import TileDepot.Text.Joined

/-!
# Failures of the store

Every failure that the store reports itself is a `StoreError`: its cause, the layer it concerns and the
operation that was running.  Causes fall into `Category`s, and the text of an error is the wording of
the cause followed by operation and layer between brackets.  A tile, a value or a layer that is not
there is no failure.  A `Fault` is whatever an operation can end with, a store error or something that
passes through the store.

* `withContext_both` says what the text of an error with both operation and layer ends with.
-/

namespace TileDepot

/-- The kinds of store errors. -/
inductive Category where
  | general
  | engineUnavailable
  | storageIO
  | schema
  | query
  | notImplemented
  | targetExists
  deriving DecidableEq

namespace Category

/-- The name of a kind of error. -/
def name : Category → String
  | .general => "TileStoreError"
  | .engineUnavailable => "EngineUnavailableError"
  | .storageIO => "StorageIOError"
  | .schema => "SchemaError"
  | .query => "QueryError"
  | .notImplemented => "NotImplementedOperationError"
  | .targetExists => "TargetExistsError"

/-- All kinds. -/
def all : List Category :=
  [.general, .engineUnavailable, .storageIO, .schema, .query, .notImplemented, .targetExists]

/-- The names of a kind and of the kind that contains it. -/
def lineage : Category → List String
  | .general => [Category.general.name]
  | c => [c.name, Category.general.name]

/-- The HTTP status that reports a kind of error. -/
def status : Category → Nat
  | .targetExists => 409
  | .notImplemented => 501
  | _ => 500

end Category

/-- Why the store fails. -/
inductive Cause where
  | driverMissing (driver reason : String)
  | cannotOpen (path : String) (fault : DbFault)
  | rootNotMade (root : String) (fault : OsFault)
  | rootNotWritable (root : String)
  | storeExists (path : String)
  | schemaNotMade (file : String) (fault : DbFault)
  | notReadable (file : String) (fault : DbFault)
  | tablesMissing (file : String) (tables : List TableName)
  | statement (fault : DbFault)
  | rangesUnsupported
  | clearUnsupported
  | targetTaken (source target : String)
  | notRemoved (path : String) (fault : OsFault)
  | notMoved (source target : String) (fault : OsFault)
  deriving DecidableEq

namespace Cause

/-- The kind of error that a cause makes. -/
def category : Cause → Category
  | .driverMissing .. => .engineUnavailable
  | .cannotOpen .. | .rootNotMade .. | .rootNotWritable _ | .storeExists _ | .notRemoved ..
  | .notMoved .. => .storageIO
  | .schemaNotMade .. | .notReadable .. | .tablesMissing .. => .schema
  | .statement _ => .query
  | .rangesUnsupported | .clearUnsupported => .notImplemented
  | .targetTaken .. => .targetExists

/-- The wording of a cause. -/
def wording : Cause → String
  | .driverMissing driver reason =>
      "Couldn't load SQLite driver module " ++ Text.quoted driver ++ ": " ++ reason
  | .cannotOpen path fault => "Could not open store file " ++ path ++ ": " ++ fault.message
  | .rootNotMade root fault =>
      "Could not create storage directory " ++ root ++ ": " ++ fault.message
  | .rootNotWritable root => "Storage directory " ++ root ++ " is not writable"
  | .storeExists path => "Store file " ++ path ++ " already exists"
  | .schemaNotMade file fault => "Could not create schema in " ++ file ++ ": " ++ fault.message
  | .notReadable file fault => file ++ " is not a readable tile store: " ++ fault.message
  | .tablesMissing file tables =>
      file ++ " is missing table(s) " ++ Text.joined ", " (tables.map TableName.text)
  | .statement fault => fault.message
  | .rangesUnsupported => "Deleting tile ranges is not supported by the SQLite blob store"
  | .clearUnsupported => "Clearing the SQLite blob store is not supported"
  | .targetTaken source target =>
      "Cannot rename " ++ Text.quoted source ++ ": a store already exists for " ++ Text.quoted target
  | .notRemoved path fault => "Could not remove " ++ path ++ ": " ++ fault.message
  | .notMoved source target fault =>
      "Could not rename " ++ source ++ " to " ++ target ++ ": " ++ fault.message

end Cause

/-- A wording followed by the operation and the layer between brackets, as far as they are given; an
empty operation counts as none. -/
def withContext (wording : String) (layer operation : Option String) : String :=
  let parts :=
    (match operation with
      | some op => if op.isEmpty then [] else [op]
      | none => []) ++
    (match layer with
      | some name => ["layer=" ++ Text.quoted name]
      | none => [])
  if parts.isEmpty then wording else wording ++ " [" ++ Text.joined " " parts ++ "]"

/-- A failure that the store reports. -/
structure StoreError where
  cause : Cause
  layer : Option String
  operation : String
  deriving DecidableEq

/-- The text of a store error. -/
def StoreError.text (e : StoreError) : String :=
  withContext e.cause.wording e.layer (some e.operation)

/-- How an operation can end other than with an answer: an error of the store, an empty layer name, a
fault of the file system or of the database that nothing translated, or data of a tile that is no
blob. -/
inductive Fault where
  | store (e : StoreError)
  | emptyName
  | os (f : OsFault)
  | db (f : DbFault)
  | textualBlob
  | negativeBlob
  deriving DecidableEq

/-- The wording of a fault. -/
def Fault.message : Fault → String
  | .store e => e.text
  | .emptyName => "Layer name must not be empty"
  | .os f => f.message
  | .db f => f.message
  | .textualBlob => "string argument without an encoding"
  | .negativeBlob => "negative count"

/-- The text of an error about a layer ends with its operation and layer. -/
theorem withContext_both (wording layer operation : String) (h : operation.isEmpty = false) :
    withContext wording (some layer) (some operation)
      = wording ++ " [" ++ (operation ++ (" " ++ ("layer=" ++ Text.quoted layer))) ++ "]" := by
  simp [withContext, h, Text.joined]

end TileDepot
