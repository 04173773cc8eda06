import TileDepot.Database.Header
import TileDepot.Disk.Fault
import TileDepot.Ordered
import TileDepot.Path

/-!
# Disks

A disk is a tree of names.  A name leads to a directory or to a file number, and the bodies of files are
kept by number, so that a body outlives the name it was opened by.  A `Place` is the list of names from
the root, free of dots.  Locks that other programs hold are held on file numbers.

* `locate_child` says that the place of a name below a directory is the place of the directory and the
  name.
* `body_setBody_self` and `body_setBody_of_ne` say that writing a file changes that file and no other,
  and `number_setBody` that no name leads elsewhere afterwards.
-/

namespace TileDepot

/-- Names from the root of the disk, free of dots. -/
abbrev Place := List String

/-- What a name leads to. -/
inductive Node where
  | directory
  | file (number : Nat)
  deriving DecidableEq

/-- Whether a node is a file. -/
def Node.isFile : Node → Bool
  | .directory => false
  | .file _ => true

/-- The content of a file and the time it was given, in nanoseconds; a file that was written since then
has the time of the writing. -/
structure Body where
  content : Content
  time : Option Int
  deriving DecidableEq

/-- How much another program keeps others from: reading and writing, or writing alone. -/
inductive LockLevel where
  | exclusive
  | immediate
  deriving DecidableEq

/-- A lock that another program holds on a file, under the path by which it took it. -/
structure Lock where
  label : String
  number : Nat
  level : LockLevel
  deriving DecidableEq

/-- A tree of names, the bodies of files by number, the next number, and the locks of others.  In a
sealed tree the access check on directories denies writing. -/
structure Disk where
  tree : Ordered Place Node
  bodies : Ordered Nat Body
  next : Nat
  locks : List Lock
  isSealed : Bool
  deriving DecidableEq

namespace Disk

/-- The most bytes of a name. -/
def maxName : Nat := 255

/-- A disk with a single directory below the root. -/
def ofDirectory (name : String) : Disk := ⟨[([name], .directory)], [], 0, [], false⟩

/-- What a place holds; the root is a directory. -/
def node? (d : Disk) (p : Place) : Option Node := if p = [] then some .directory else d.tree.get? p

/-- Follow names from a directory.  Every name is looked up in a directory that is there; a double dot
leads to the parent.  The last name need not be there. -/
def follow (d : Disk) : Place → List String → Except OsCause Place
  | here, [] => .ok here
  | here, n :: ns =>
      match d.node? here with
      | none => .error .noEntry
      | some (.file _) => .error .notDirectory
      | some .directory =>
          if n = ".." then follow d here.dropLast ns
          else if maxName < n.utf8ByteSize then .error .nameTooLong
          else follow d (here ++ [n]) ns

/-- The place that a path leads to. -/
def locate (d : Disk) (p : Path) : Except OsCause Place := d.follow [] p.names

/-- What a path leads to. -/
def find (d : Disk) (p : Path) : Except OsCause (Place × Node) := do
  let place ← d.locate p
  match d.node? place with
  | none => .error .noEntry
  | some n => .ok (place, n)

/-- Whether a path leads to something that passes a test.  A missing name or a file in the place of a
directory answers no; a name that is too long is a fault. -/
def test (d : Disk) (p : Path) (holds : Node → Bool) : Except OsFault Bool :=
  match d.find p with
  | .ok (_, n) => .ok (holds n)
  | .error .nameTooLong => .error ⟨.nameTooLong, p.toString, none⟩
  | .error _ => .ok false

/-- Whether a path leads anywhere. -/
def exists? (d : Disk) (p : Path) : Except OsFault Bool := d.test p (fun _ => true)

/-- Whether a path leads to a file. -/
def isFile? (d : Disk) (p : Path) : Except OsFault Bool := d.test p Node.isFile

/-- The number of the file at a place. -/
def number? (d : Disk) (p : Place) : Option Nat :=
  match d.node? p with
  | some (.file n) => some n
  | _ => none

/-- The body of a file. -/
def body? (d : Disk) (n : Nat) : Option Body := d.bodies.get? n

/-- Replace the body of a file. -/
def setBody (d : Disk) (n : Nat) (b : Body) : Disk := { d with bodies := d.bodies.put n b }

/-- Create an empty file at a place and return its number. -/
def createFile (d : Disk) (p : Place) (content : Content) : Nat × Disk :=
  (d.next,
    { d with
      tree := d.tree.put p (.file d.next)
      bodies := d.bodies.put d.next ⟨content, none⟩
      next := d.next + 1 })

/-- Create a directory at a place. -/
def createDirectory (d : Disk) (p : Place) : Disk := { d with tree := d.tree.put p .directory }

/-- Take a place out of the tree. -/
def detach (d : Disk) (p : Place) : Disk := { d with tree := d.tree.drop p }

/-- A place with the names that led to it exchanged. -/
def rebase (source target p : Place) : Place :=
  if source.isPrefixOf p then target ++ p.drop source.length else p

/-- Move a place and everything below it. -/
def moveTree (d : Disk) (source target : Place) : Disk :=
  { d with tree := (d.tree.drop target).map (fun e => (rebase source target e.1, e.2)) }

/-- Take a place and everything below it out of the tree. -/
def detachTree (d : Disk) (p : Place) : Disk :=
  { d with tree := d.tree.filter (fun e => !p.isPrefixOf e.1) }

/-- The locks on a file. -/
def locksOn (d : Disk) (n : Nat) : List LockLevel :=
  (d.locks.filter (fun l => l.number = n)).map (·.level)

theorem locate_child (d : Disk) (p : Path) (place : Place) (name : String)
    (hp : d.locate p = .ok place) (hd : d.node? place = some .directory) (hn : name ≠ "..")
    (hl : name.utf8ByteSize ≤ maxName) : d.locate (p.child name) = .ok (place ++ [name]) := by
  have key : ∀ (ns : List String) (here : Place), d.follow here ns = .ok place →
      d.follow here (ns ++ [name]) = .ok (place ++ [name]) := by
    intro ns
    induction ns with
    | nil =>
        intro here h
        simp only [follow, Except.ok.injEq] at h
        subst h
        simp [follow, hd, hn, Nat.not_lt.2 hl]
    | cons n ns ih =>
        intro here h
        simp only [List.cons_append, follow] at h ⊢
        split at h
        · simp at h
        · simp at h
        · rename_i hdir
          split at h
          · rename_i hdots
            simpa [hdir, hdots] using ih _ h
          · rename_i hdots
            split at h
            · simp at h
            · rename_i hlen
              simpa [hdir, hdots, hlen] using ih _ h
  exact key p.names [] hp

theorem body_setBody_self (d : Disk) (n : Nat) (b : Body) : (d.setBody n b).body? n = some b :=
  Ordered.get?_put_self d.bodies n b

theorem body_setBody_of_ne (d : Disk) {n m : Nat} (b : Body) (h : n ≠ m) :
    (d.setBody n b).body? m = d.body? m :=
  Ordered.get?_put_of_ne d.bodies b h

theorem number_setBody (d : Disk) (n : Nat) (b : Body) (p : Place) :
    (d.setBody n b).number? p = d.number? p := rfl

end Disk

end TileDepot
