import TileDepot.Disk.Basic

/-!
# What others do to a disk

Other programs write and remove files, make and remove directories, move things and set the time of a
file.  Each operation fails with the fault of the file system, and a failed one changes nothing, but
for a chain of new directories, of which the first ones may have been made.

* `writeFile_other` says that writing one file changes no other body.
-/

namespace TileDepot.Disk

/-- A fault at a path. -/
def faultAt (cause : OsCause) (p : Path) : OsFault := ⟨cause, p.toString, none⟩

/-- Give a file the bytes, and create it if it is missing. -/
def writeFile (d : Disk) (p : Path) (bytes : ByteArray) : Except OsFault Disk :=
  match d.locate p with
  | .error c => .error (faultAt c p)
  | .ok place =>
      match d.node? place with
      | some .directory => .error (faultAt .isDirectory p)
      | some (.file n) => .ok (d.setBody n ⟨.raw bytes, none⟩)
      | none => .ok (d.createFile place (.raw bytes)).2

/-- Remove a file. -/
def unlink (d : Disk) (p : Path) : Except OsFault Disk :=
  match d.find p with
  | .error c => .error (faultAt c p)
  | .ok (_, .directory) => .error (faultAt .isDirectory p)
  | .ok (place, .file _) => .ok (d.detach place)

/-- Make one directory; one that is there already is accepted. -/
def makeOne (d : Disk) (p : Path) : Except OsFault Disk :=
  match d.locate p with
  | .error c => .error (faultAt c p)
  | .ok place =>
      match d.node? place with
      | some .directory => .ok d
      | some (.file _) => .error (faultAt .exists p)
      | none => .ok (d.createDirectory place)

/-- Make a directory and the missing ones above it, given the names of the path from last to first. -/
def makeChain (anchor : Anchor) : List String → Disk → Option OsFault × Disk
  | [], d => (none, d)
  | n :: above, d =>
      let p : Path := ⟨anchor, (n :: above).reverse⟩
      match d.makeOne p with
      | .ok d => (none, d)
      | .error ⟨.noEntry, path, target⟩ =>
          if above.isEmpty then (some ⟨.noEntry, path, target⟩, d)
          else
            match makeChain anchor above d with
            | (some f, d) => (some f, d)
            | (none, d) =>
                match d.makeOne p with
                | .ok d => (none, d)
                | .error f => (some f, d)
      | .error f => (some f, d)

/-- Make a directory and the missing ones above it. -/
def makeDirectories (d : Disk) (p : Path) : Option OsFault × Disk :=
  makeChain p.anchor p.names.reverse d

/-- Remove a directory and everything below it. -/
def removeTree (d : Disk) (p : Path) : Except OsFault Disk :=
  match d.find p with
  | .error c => .error (faultAt c p)
  | .ok (_, .file _) => .error (faultAt .notDirectory p)
  | .ok (place, .directory) => .ok (d.detachTree place)

/-- Move a file or a directory to another path; a file may take the place of a file. -/
def move (d : Disk) (source target : Path) : Except OsFault Disk :=
  let fail (c : OsCause) : Except OsFault Disk :=
    .error ⟨c, source.toString, some target.toString⟩
  match d.find source, d.locate target with
  | .error c, _ => fail c
  | .ok _, .error c => fail c
  | .ok (a, n), .ok b =>
      match n, d.node? b with
      | .file _, some .directory => fail .isDirectory
      | .directory, some (.file _) => fail .notDirectory
      | .file _, _ | .directory, _ => .ok (if a = b then d else d.moveTree a b)

/-- Set the time of a file. -/
def setTime (d : Disk) (p : Path) (ns : Int) : Except OsFault Disk :=
  match d.find p with
  | .error c => .error (faultAt c p)
  | .ok (_, .directory) => .ok d
  | .ok (_, .file n) =>
      match d.body? n with
      | none => .ok d
      | some b => .ok (d.setBody n { b with time := some ns })

/-- The names below a place in increasing order of their paths, directories with a slash. -/
def listing (d : Disk) (base : Place) : List String :=
  let below := d.tree.filter (fun e => base.isPrefixOf e.1 && base.length < e.1.length)
  let shown := below.map (fun e =>
    Text.joined "/" (e.1.drop base.length) ++ (if e.2.isFile then "" else "/"))
  shown.mergeSort (fun a b => decide (a ≤ b))

theorem writeFile_other {d e : Disk} {p : Path} {bytes : ByteArray} {n : Nat} {place : Place}
    (hp : d.locate p = .ok place) (hn : d.node? place = some (.file n))
    (hw : d.writeFile p bytes = .ok e) {m : Nat} (h : n ≠ m) : e.body? m = d.body? m := by
  simp only [writeFile, hp, hn, Except.ok.injEq] at hw
  subst hw
  exact body_setBody_of_ne d _ h

end TileDepot.Disk
