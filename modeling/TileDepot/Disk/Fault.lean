import TileDepot.Text.Quoted

/-!
# File-system faults

An `OsFault` is why an operation on files fails: its cause and the paths it names.  The wording gives
the number of the cause, its text and the paths between quotes.
-/

namespace TileDepot

/-- Why the file system refuses. -/
inductive OsCause where
  | noEntry
  | exists
  | notDirectory
  | isDirectory
  | nameTooLong
  deriving DecidableEq

/-- The number of a cause. -/
def OsCause.number : OsCause → Nat
  | .noEntry => 2
  | .exists => 17
  | .notDirectory => 20
  | .isDirectory => 21
  | .nameTooLong => 36

/-- The wording of a cause. -/
def OsCause.text : OsCause → String
  | .noEntry => "No such file or directory"
  | .exists => "File exists"
  | .notDirectory => "Not a directory"
  | .isDirectory => "Is a directory"
  | .nameTooLong => "File name too long"

/-- A cause with the path it concerns and, for a move, the path moved to. -/
structure OsFault where
  cause : OsCause
  path : String
  target : Option String
  deriving DecidableEq

/-- The wording of a fault. -/
def OsFault.message (f : OsFault) : String :=
  "[Errno " ++ toString f.cause.number ++ "] " ++ f.cause.text ++ ": " ++ Text.quoted f.path ++
    match f.target with
    | none => ""
    | some t => " -> " ++ Text.quoted t

end TileDepot
