import TileDepot.Decimal.Floating
import TileDepot.Ordered

/-!
# JSON values

Integers have any size and stay apart from doubles.  An object is an ordered map: a repeated name keeps
its first place and its last value.  A string that cannot be a text, because an escape named half of a
surrogate pair, is kept as its code points.
-/

namespace TileDepot

/-- A JSON value. -/
inductive Json where
  | null
  | bool (b : Bool)
  | int (i : Int)
  | real (x : Float)
  | text (s : String)
  | unpaired (points : List Nat)
  | list (items : List Json)
  | object (fields : List (String × Json))

namespace Json

instance : Inhabited Json := ⟨.null⟩

/-- The value of a field of an object; the last one of a repeated name. -/
def field? : Json → String → Option Json
  | .object fields, name => Ordered.get? fields name
  | _, _ => none

/-- The text of a string. -/
def text? : Json → Option String
  | .text s => some s
  | _ => none

/-- The integer of an integer number. -/
def int? : Json → Option Int
  | .int i => some i
  | _ => none

/-- The items of a list. -/
def list? : Json → Option (List Json)
  | .list xs => some xs
  | _ => none

/-- The flag of a boolean. -/
def bool? : Json → Option Bool
  | .bool b => some b
  | _ => none

end Json

end TileDepot
