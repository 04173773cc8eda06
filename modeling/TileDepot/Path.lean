import TileDepot.Text.Joined

/-!
# Paths

A `Path` is an anchor and the names that follow it.  Reading a path drops empty names and single dots
and keeps double dots, since what they lead to depends on the disk.  Two leading slashes are an anchor
of their own; any other number of them is the root.

* `child_parent` and `child_name` say that the last name added is the name of the path and that what
  was there before is its parent.
* `split_append_slash` says that splitting at slashes distributes over a slash.
-/

namespace TileDepot

/-- Where a path begins. -/
inductive Anchor where
  | here
  | root
  | doubleRoot
  deriving DecidableEq

/-- A path as its anchor and its names. -/
structure Path where
  anchor : Anchor
  names : List String
  deriving DecidableEq

namespace Path

instance : Inhabited Path := ⟨⟨.here, []⟩⟩

/-- Cut a list of characters at each slash. -/
def splitSlash : List Char → List (List Char)
  | [] => [[]]
  | c :: cs =>
      if c = '/' then [] :: splitSlash cs
      else
        match splitSlash cs with
        | [] => [[c]]
        | w :: ws => (c :: w) :: ws

/-- The names in a text between slashes, without empty names and single dots. -/
def namesOf (s : String) : List String :=
  ((splitSlash s.toList).filter (fun w => !(w.isEmpty || w == ['.']))).map String.ofList

/-- The anchor that the leading slashes of a text spell. -/
def anchorOf : List Char → Anchor
  | '/' :: '/' :: '/' :: _ => .root
  | '/' :: '/' :: _ => .doubleRoot
  | '/' :: _ => .root
  | _ => .here

/-- Read a path. -/
def ofString (s : String) : Path := ⟨anchorOf s.toList, namesOf s⟩

/-- A path as text; the empty relative path is a dot. -/
def toString (p : Path) : String :=
  match p.anchor, p.names with
  | .here, [] => "."
  | .here, names => Text.joined "/" names
  | .root, names => "/" ++ Text.joined "/" names
  | .doubleRoot, names => "//" ++ Text.joined "/" names

/-- Follow a path by a text: an anchored text replaces the path, any other text adds its names. -/
def join (p : Path) (s : String) : Path :=
  match anchorOf s.toList with
  | .here => { p with names := p.names ++ namesOf s }
  | _ => ofString s

/-- Add one name. -/
def child (p : Path) (name : String) : Path := { p with names := p.names ++ [name] }

/-- The last name; empty if there is none. -/
def name (p : Path) : String := p.names.getLastD ""

/-- The path without its last name. -/
def parent (p : Path) : Path := { p with names := p.names.dropLast }

/-- The path with a text added to its last name. -/
def extendName (p : Path) (suffix : String) : Path := p.parent.child (p.name ++ suffix)

/-- Names in increasing order, compared one by one. -/
def namesLe : List String → List String → Bool
  | [], _ => true
  | _ :: _, [] => false
  | a :: as, b :: bs => if a < b then true else if b < a then false else namesLe as bs

/-- The order of paths below one anchor: name by name. -/
def le (p q : Path) : Bool := namesLe p.names q.names

/-- Resolve double dots by removing the name before them. -/
def resolveNames (names : List String) : List String :=
  names.foldl (fun done n => if n = ".." then done.dropLast else done ++ [n]) []

/-- The path with its double dots resolved by spelling alone. -/
def resolved (p : Path) : Path := { p with names := resolveNames p.names }

theorem child_parent (p : Path) (n : String) : (p.child n).parent = p := by
  simp [child, parent]

theorem child_name (p : Path) (n : String) : (p.child n).name = n := by
  simp [child, name]

theorem splitSlash_ne_nil (cs : List Char) : splitSlash cs ≠ [] := by
  cases cs with
  | nil => simp [splitSlash]
  | cons c cs =>
      rw [splitSlash]
      split
      · simp
      · split <;> simp

/-- A slash separates the names on its two sides. -/
theorem split_append_slash (as bs : List Char) :
    splitSlash (as ++ '/' :: bs) = splitSlash as ++ splitSlash bs := by
  induction as with
  | nil => simp [splitSlash]
  | cons c cs ih =>
      by_cases h : c = '/'
      · simp [splitSlash, h, ih]
      · simp only [List.cons_append, splitSlash, h, if_false, ih]
        cases hs : splitSlash cs with
        | nil => exact absurd hs (splitSlash_ne_nil cs)
        | cons w ws => simp

end Path

end TileDepot
