import TileDepot.Store.Basic

/-!
# Handles on databases

A handle stays on the file it was opened on, also when the path leads elsewhere by now.  `exec` runs a
statement through a handle.  Unless a statement of its form was prepared before, it is checked against
the columns that the handle has seen.  Its numbers are bound, and only then the file is looked at:
whether another program excludes readers, whether what lies beside the file stands in the way, whether
the content is a database, whether another program excludes writers, and whether the table is still
there.  A statement that changes rows must in addition find its file at the place where it was opened,
and room for the journal's name.

A statement that changes rows begins a transaction before its numbers are bound, and what it changes is
held back until the transaction is committed.  `transact` does so, or gives the transaction up if what
was done in it failed.

`isOpen` is the test that a cached handle has to pass before it is handed out again: it is not closed,
there is a file at its path, and its database answers.

* `settle_clean` says that nothing is taken away where nothing lies beside the database, and
  `commit_clean` that a change then only replaces the content of the file.
* `isOpen_closed` says that a closed handle fails the test and leaves the store alone.
-/

namespace TileDepot.Store

/-- Files that a database may keep beside it while it is changed. -/
def sidecarSuffixes : List String := ["-journal", "-wal", "-shm"]

/-- The place beside a file whose name has the suffix in addition. -/
def beside (p : Place) (suffix : String) : Place := p.dropLast ++ [p.getLastD "" ++ suffix]

/-- Whether a directory stands where a database would keep a file of its own. -/
def blocksSidecar (d : Disk) (p : Place) (suffix : String) : Bool :=
  d.node? (beside p suffix) == some .directory

/-- Whether the name of the journal fits. -/
def journalFits (p : Place) : Bool :=
  decide ((p.getLastD "" ++ "-journal").utf8ByteSize ≤ Disk.maxName)

/-- What a directory beside a database does to every statement.  The log of a database comes before
its journal where the database is empty, and after it where it is not. -/
def obstacle (d : Disk) (p : Place) (isEmpty : Bool) : Except DbFault Unit :=
  if isEmpty then
    if blocksSidecar d p "-wal" then .error .diskFailure else .ok ()
  else if blocksSidecar d p "-journal" then .error .diskFailure
  else if blocksSidecar d p "-wal" then .error .cannotOpen
  else .ok ()

/-- What keeps a database at a place from being changed, for the file that it was opened on. -/
def writeObstacle (d : Disk) (p : Place) (file : Nat) (isEmpty : Bool) : Except DbFault Unit :=
  if !isEmpty && d.number? p != some file then .error .readOnly
  else if !journalFits p || blocksSidecar d p "-journal" then .error .cannotOpen
  else .ok ()

/-- What keeps an empty database from being changed.  Its journal takes after whatever is at its place,
so something has to be there. -/
def startObstacle (d : Disk) (p : Place) : Except DbFault Unit :=
  if !journalFits p || blocksSidecar d p "-journal" then .error .cannotOpen
  else if (d.node? p).isNone then .error .diskFailure
  else .ok ()

/-- The content of a file; a body that is gone is empty. -/
def contentOf (d : Disk) (file : Nat) : Content :=
  ((d.body? file).map (·.content)).getD (.raw .empty)

/-- Take away a file that lies beside a database. -/
def detachBeside (d : Disk) (p : Place) (suffix : String) : Disk :=
  if (d.number? (beside p suffix)).isSome then d.detach (beside p suffix) else d

/-- The first byte of the file beside a database, unless that file is empty. -/
def firstBeside? (d : Disk) (p : Place) (suffix : String) : Option Nat :=
  match d.number? (beside p suffix) with
  | none => none
  | some n =>
      match contentOf d n with
      | .raw bytes => if bytes.size = 0 then none else some (Content.byteAt bytes 0)
      | .database _ => some (Content.byteAt ⟨Content.magic.toArray⟩ 0)

/-- Take away a file that lies beside a database and passes a test. -/
def settleBeside (d : Disk) (p : Place) (suffix : String) (goes : Nat → Bool) : Disk :=
  if (firstBeside? d p suffix).any goes then d.detach (beside p suffix) else d

/-- What a look into a database takes away: the journal of a change that was broken off, and beside an
empty database any journal and any log.  A file without content counts as missing, but one that changes
an empty database uses it as its journal all the same.  Nothing is taken while somebody holds a lock,
or where a directory keeps an empty database from being looked into. -/
def settle (d : Disk) (p : Place) (file : Nat) (changes : Bool) : Disk :=
  if !(d.locksOn file).isEmpty then d
  else if (contentOf d file).isEmpty && blocksSidecar d p "-wal" then d
  else if (contentOf d file).isEmpty then
    let d := settleBeside (settleBeside d p "-journal" (fun _ => true)) p "-wal" (fun _ => true)
    if changes then detachBeside d p "-journal" else d
  else settleBeside d p "-journal" (fun first => first ≠ 0)

/-- Write a database into a file; the journal of the change is gone afterwards. -/
def commit (d : Disk) (p : Place) (file : Nat) (db : Database) : Disk :=
  detachBeside (d.setBody file ⟨.database db, none⟩) p "-journal"

theorem detachBeside_absent {d : Disk} {p : Place} {suffix : String}
    (h : d.number? (beside p suffix) = none) : detachBeside d p suffix = d := by
  simp [detachBeside, h]

theorem settleBeside_absent {d : Disk} {p : Place} {suffix : String} (goes : Nat → Bool)
    (h : d.number? (beside p suffix) = none) : settleBeside d p suffix goes = d := by
  simp [settleBeside, firstBeside?, h]

/-- Where no journal and no log lies beside a database, a look takes nothing away. -/
theorem settle_clean {d : Disk} {p : Place} (file : Nat) (changes : Bool)
    (hj : d.number? (beside p "-journal") = none) (hw : d.number? (beside p "-wal") = none) :
    settle d p file changes = d := by
  simp [settle, settleBeside_absent _ hj, settleBeside_absent _ hw, detachBeside_absent hj]

/-- Where no journal lies beside a database, a change only replaces the content of the file. -/
theorem commit_clean {d : Disk} {p : Place} {file : Nat} (db : Database)
    (hj : d.number? (beside p "-journal") = none) :
    commit d p file db = d.setBody file ⟨.database db, none⟩ := by
  have hs : (d.setBody file ⟨.database db, none⟩).number? (beside p "-journal") = none := by
    rw [Disk.number_setBody, hj]
  rw [commit, detachBeside_absent hs]

/-- The database in a file as a connection that was opened at a place meets it: what locks, what lies
beside the file, and the content itself. -/
def meet (d : Disk) (p : Place) (file : Nat) : Except DbFault Database := do
  if (d.locksOn file).contains .exclusive then throw .locked
  obstacle d p (contentOf d file).isEmpty
  (contentOf d file).view

/-- Whether a handle has to look into its file before it can prepare a statement: it does not know the
table, nor has it prepared a statement of the form. -/
def misses {α : Type} (h : Handle) (st : Statement α) : Bool :=
  !h.prepared.has st.form && (h.schema.shape? st.table).isNone

/-- The columns that the handle goes by when it looks for a table.  A handle that misses the table looks
into the file again. -/
def knownSchema (d : Disk) (h : Handle) (t : TableName) : Schema :=
  if (h.schema.shape? t).isSome then h.schema
  else
    match meet d h.place h.file with
    | .ok db => db.schema
    | .error _ => h.schema

/-- Prepare a statement: whether it can be, and the handle afterwards.  One of a form that the handle
has prepared before is ready whatever became of its table. -/
def prepare {α : Type} (d : Disk) (h : Handle) (st : Statement α) : Except DbFault Unit × Handle :=
  if h.prepared.has st.form then (.ok (), h)
  else
    let looked := { h with schema := knownSchema d h st.table }
    match looked.schema.shape? st.table with
    | none => (.error (.noSuchTable st.table.text), looked)
    | some shape =>
        match st.check shape with
        | .error f => (.error f, looked)
        | .ok () => (.ok (), { looked with prepared := h.prepared.put st.form true })

/-- Refuse a statement again if the last one of its form missed its table and the handle does not see
it now either. -/
def checkAgain {α : Type} (d : Disk) (h : Handle) (st : Statement α) : Except DbFault Unit :=
  if h.prepared.get? st.form = some false ∧
      ((knownSchema d h st.table).shape? st.table).isNone then
    .error (.noSuchTable st.table.text)
  else .ok ()

/-- A handle that has met a database with a statement: it knows the columns, and whether the statement
found its table. -/
def meeting (h : Handle) (form : Form) (table : TableName) (schema : Schema) : Handle :=
  { h with
    schema := schema
    prepared := h.prepared.put form (schema.shape? table).isSome }

/-- The database that a statement meets in the file: one that writes must in addition find no other
writer, and nothing that keeps an empty database from being changed.  After a change in a transaction
it is the changed one. -/
def enter {α : Type} (d : Disk) (h : Handle) (st : Statement α) : Except DbFault Database :=
  match h.transaction with
  | .changed db => return db
  | .idle | .begun => do
      let db ← meet d h.place h.file
      if st.writes then
        if !(d.locksOn h.file).isEmpty then throw .locked
        if (contentOf d h.file).isEmpty then startObstacle d h.place
      return db

/-- What a statement makes of the database it met: its answer, and the database to write if rows were
changed. -/
def runOn {α : Type} (d : Disk) (h : Handle) (db : Database) (st : Statement α) :
    Except DbFault (Effect α) := do
  match db.schema.shape? st.table with
  | none => throw (.noSuchTable st.table.text)
  | some shape =>
      st.check shape
      let effect ← st.run db
      if effect.after.isSome then
        writeObstacle d h.place h.file (contentOf d h.file).isEmpty
      return effect

/-- Keep what a statement made of the database.  In a transaction it is held back, and otherwise it is
written into the file at once. -/
def keep (id : HandleId) (after : Database) : Step Unit := do
  match (← get).handle? id with
  | none => pure ()
  | some h =>
      match h.transaction with
      | .idle => do
          Step.changeDisk (fun d => commit d h.place h.file after)
          Step.changeHandle id (fun h => { h with schema := after.schema })
      | .begun | .changed _ =>
          Step.changeHandle id (fun h => { h with transaction := .changed after })

/-- Give a transaction up; what it changed is forgotten. -/
def rollback (id : HandleId) : Step Unit :=
  Step.changeHandle id (fun h => { h with transaction := .idle })

/-- End a transaction; what it changed is written. -/
def commitChanges (id : HandleId) : Step Unit := do
  match (← get).handle? id with
  | none => pure ()
  | some h =>
      rollback id
      match h.transaction with
      | .idle | .begun => pure ()
      | .changed after => keep id after

/-- Do something in a transaction of a handle, which is committed if it succeeds and given up if it
fails. -/
def transact {α : Type} (id : HandleId) (body : Step α) : Step α := do
  let a ← tryCatch body (fun f => do
    rollback id
    throw f)
  commitChanges id
  return a

/-- Put a statement to the database of a handle: what it makes of the database, the disk without what
the looks into the file took away beside it, and the handle with what it has learned.  Once it is
prepared, a statement that changes rows begins a transaction, unless there is one; once the database was
met, the handle knows its columns.  Every look is at the disk as the statement found it, since the files
that are taken away do not bear on what is seen. -/
def consult {α : Type} (d : Disk) (h : Handle) (st : Statement α) :
    Except DbFault (Effect α) × Disk × Handle :=
  if h.isClosed || h.isSevered then (.error .closed, d, h)
  else
    let looked := if misses h st then settle d h.place h.file false else d
    match prepare d h st with
    | (.error f, h) => (.error f, looked, h)
    | (.ok (), ready) =>
        let ready :=
          if st.form.changesRows then { ready with transaction := ready.transaction.started } else ready
        match st.bind, checkAgain d ready st with
        | .error f, _ | .ok (), .error f => (.error f, looked, ready)
        | .ok (), .ok () =>
            let entered := settle looked h.place h.file st.writes
            match enter d h st with
            | .error f => (.error f, entered, ready)
            | .ok db => (runOn d h db st, entered, meeting ready st.form st.table db.schema)

/-- Run a statement through a handle. -/
def exec {α : Type} (id : HandleId) (st : Statement α) : Step α := do
  let s ← get
  match s.handle? id with
  | none => throw (.db .closed)
  | some h =>
      let (result, d, h) := consult s.disk h st
      Step.changeDisk (fun _ => d)
      Step.changeHandle id (fun _ => h)
      let effect ← Step.ofDb result
      match effect.after with
      | none => pure ()
      | some after => keep id after
      return effect.answer

/-- Open the file at a path, or create it if that is wanted, and return its place and number. -/
def connect (path : Path) (create : Bool) : Step (Place × Nat) := do
  let refuse : Step (Place × Nat) := Step.fail (.cannotOpen path.toString .cannotOpen) none "connect"
  let d ← Step.view (·.disk)
  match d.find path.resolved with
  | .ok (place, .file n) => return (place, n)
  | .ok (_, .directory) => refuse
  | .error .noEntry =>
      match create, d.locate path.resolved with
      | true, .ok place =>
          let (n, d) := d.createFile place (.raw .empty)
          Step.changeDisk (fun _ => d)
          return (place, n)
      | _, _ => refuse
  | .error _ => refuse

/-- Keep an open database as a new handle. -/
def issue (layer : String) (path : Path) (place : Place) (file : Nat) (schema : Schema) :
    Step HandleId := do
  let s ← get
  let h : Handle := ⟨layer, path, place, file, schema, [], false, false, false, .idle⟩
  set { s with issued := s.issued ++ [h] }
  return s.issued.length

/-- Whether a handle may be handed out again. -/
def isOpen (id : HandleId) : Step Bool := do
  let s ← get
  match s.handle? id with
  | none => return false
  | some h =>
      if h.isClosed then return false
      let there ← Step.ofDisk (s.disk.isFile? h.path)
      if !there then return false
      if h.isSevered then
        Step.note .debug .connection
          ("Connection probe failed for " ++ h.path.toString ++ ": " ++ DbFault.closed.message)
        return false
      return true

/-- Close a handle.  A stubborn one fails this once and stays as it is. -/
def close (id : HandleId) : Step Unit := do
  match (← get).handle? id with
  | none => pure ()
  | some h =>
      if h.isStubborn then
        Step.changeHandle id (fun h => { h with isStubborn := false })
        throw (.db .diskFailure)
      Step.changeHandle id (fun h => { h with isClosed := true })

theorem isOpen_closed {s : Store} {id : HandleId} {h : Handle} (hh : s.handle? id = some h)
    (hc : h.isClosed = true) : Step.outcome (isOpen id) s = (.ok false, s) := by
  simp [isOpen, Step.run_bind, Step.run_get, Step.run_pure, hh, hc]

end TileDepot.Store
