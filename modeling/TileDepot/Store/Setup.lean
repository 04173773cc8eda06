import TileDepot.Disk.Outside
import TileDepot.Store.Operation

/-!
# Setting up a store

A store is set up over a disk that is already there.  The database driver is looked up, the root
directory is made if it is missing, and it has to be writable; then the store is ready, without having
opened any file.
-/

namespace TileDepot.Store

/-- The driver that a store uses unless told otherwise. -/
def defaultDriver : String := "sqlite3"

/-- The modules that a driver can be loaded from, and whether they contain others. -/
def modules : List (String × Bool) :=
  [("sqlite3", true), ("sqlite3.dbapi2", false), ("sqlite3.dump", false)]

/-- Cut a name at its dots. -/
def splitDots : List Char → List (List Char)
  | [] => [[]]
  | c :: cs =>
      if c = '.' then [] :: splitDots cs
      else
        match splitDots cs with
        | [] => [[c]]
        | w :: ws => (c :: w) :: ws

/-- Why the module that the parts of a name spell cannot be loaded, given the part that was found. -/
def missingFrom (found : Option (String × Bool)) : List (List Char) → Option String
  | [] => none
  | part :: rest =>
      let name :=
        match found with
        | none => String.ofList part
        | some (above, _) => above ++ "." ++ String.ofList part
      match found with
      | some (above, false) =>
          some ("No module named " ++ Text.quoted name ++ "; " ++ Text.quoted above ++
            " is not a package")
      | _ =>
          match modules.find? (fun m => m.1 = name) with
          | none => some ("No module named " ++ Text.quoted name)
          | some m => missingFrom (some m) rest

/-- Look up a driver; an empty name means the default one. -/
def loadDriver (name : String) : Step String := do
  let name := if name.isEmpty then defaultDriver else name
  match missingFrom none (splitDots name.toList) with
  | some reason => Step.fail (.driverMissing name reason) none "configure"
  | none =>
      Step.note .debug .service ("Using SQLite driver " ++ name ++ " (library <sqlite>)")
      return name

/-- Make the root directory, and check that it can be written. -/
def prepareRoot (root : Path) : Step Unit := do
  let (fault, d) := (← get).disk.makeDirectories root
  Step.changeDisk (fun _ => d)
  match fault with
  | some f => Step.fail (.rootNotMade root.toString f) none "configure"
  | none =>
      if d.isSealed then Step.fail (.rootNotWritable root.toString) none "configure"

/-- A store over a disk before it is set up. -/
def fresh (config : StoreConfig) (disk : Disk) (ddl : Ddl) : Store :=
  ⟨config, disk, [], [], ddl, 0, [], []⟩

/-- Set a store up. -/
def setUp (driver : String) : Step Unit := do
  let _ ← loadDriver driver
  let root := (← get).config.root
  prepareRoot root
  Step.note .info .service ("Configured SQLiteBlobStore with path " ++ root.toString)

end TileDepot.Store
