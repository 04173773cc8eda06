import TileDepot.Fault

/-!
# Errors during an operation

Whatever the database engine complains of while an operation works on a layer is reported as a failed
query of that operation on that layer.  Every other error passes as it is.

* `during_idem` says that an error which was reported once is not reported again.
-/

namespace TileDepot

/-- An error by where it comes from: the database engine, the store itself, or anything else. -/
inductive Trouble where
  | engine (text : String)
  | store (category : Category) (wording : String) (layer operation : Option String)
  | value (text : String)
  | system (text : String)
  | key (text : String)
  deriving DecidableEq

namespace Trouble

/-- An error as it leaves an operation on a layer. -/
def during (layer operation : Option String) : Trouble → Trouble
  | .engine text => .store .query text layer operation
  | t => t

/-- The text of an error; a missing key is shown between quotes. -/
def text : Trouble → String
  | .engine text => text
  | .store _ wording layer operation => withContext wording layer operation
  | .value text => text
  | .system text => text
  | .key text => Text.quoted text

theorem during_idem (a b c d : Option String) (t : Trouble) :
    during a b (during c d t) = during c d t := by
  cases t <;> rfl

end Trouble

end TileDepot
