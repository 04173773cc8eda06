/-!
# Joined texts

`joined` writes texts one after the other with a separator between them.
-/

namespace TileDepot.Text

/-- Texts with a separator between each two. -/
def joined (separator : String) : List String → String
  | [] => ""
  | [s] => s
  | s :: t :: rest => s ++ (separator ++ joined separator (t :: rest))

theorem joined_cons (separator s : String) {rest : List String} (h : rest ≠ []) :
    joined separator (s :: rest) = s ++ (separator ++ joined separator rest) := by
  cases rest with
  | nil => exact absurd rfl h
  | cons t rest => rfl

end TileDepot.Text
