import TileDepot.Http.Message
import TileDepot.Path

/-!
# Routes

An endpoint has a method and a template: the parts between the slashes of its path.  A part is a fixed
word, a field that takes whatever is there, or two fields around the last dot.  A path is matched part
by part, and every field has at least one character.  Of the endpoints whose template matches, the
first with the method of the request answers; if none has it, the first of them says which method it
would take.

* `length_eq_of_matchParts` says that a path that matches has as many parts as the template.
-/

namespace TileDepot.Http

/-- The things that the service can be asked for. -/
inductive Endpoint where
  | getTile
  | putTile
  | deleteTile
  | deleteGridset
  | describeLayer
  | deleteLayer
  | renameLayer
  | allMetadata
  | getMetadata
  | putMetadata
  | health
  deriving DecidableEq

/-- A part of a template. -/
inductive Part where
  | word (w : String)
  | field (name : String)
  | dotted (left right : String)
  deriving DecidableEq

namespace Endpoint

/-- The endpoints in the order in which they are tried. -/
def all : List Endpoint :=
  [.getTile, .putTile, .deleteTile, .deleteGridset, .describeLayer, .deleteLayer, .renameLayer,
   .allMetadata, .getMetadata, .putMetadata, .health]

/-- The method of an endpoint. -/
def method : Endpoint → String
  | .getTile | .describeLayer | .allMetadata | .getMetadata | .health => "GET"
  | .putTile | .putMetadata => "PUT"
  | .deleteTile | .deleteGridset | .deleteLayer => "DELETE"
  | .renameLayer => "POST"

/-- The parts of the path of a tile. -/
def tileParts : List Part :=
  [.word "tiles", .field "layer", .field "grid_set_id", .field "z", .field "x", .dotted "y" "fmt"]

/-- The parts of the path of a layer. -/
def layerParts : List Part := [.word "api", .word "layers", .field "layer"]

/-- The template of an endpoint. -/
def template : Endpoint → List Part
  | .getTile | .putTile | .deleteTile => tileParts
  | .deleteGridset => [.word "tiles", .field "layer", .field "grid_set_id"]
  | .describeLayer | .deleteLayer => layerParts
  | .renameLayer => layerParts ++ [.word "rename"]
  | .allMetadata => layerParts ++ [.word "metadata"]
  | .getMetadata | .putMetadata => layerParts ++ [.word "metadata", .field "key"]
  | .health => [.word "health"]

end Endpoint

/-- How a part of a template is written. -/
def Part.text : Part → String
  | .word w => w
  | .field name => "\x7b" ++ name ++ "\x7d"
  | .dotted left right => "\x7b" ++ left ++ "\x7d.\x7b" ++ right ++ "\x7d"

/-- How a template is written. -/
def templateText (ps : List Part) : String :=
  String.ofList (ps.flatMap (fun p => '/' :: p.text.toList))

/-- Split at the last dot that has something on both sides. -/
def splitLastDot (cs : List Char) : Option (List Char × List Char) :=
  let step (i : Nat) : Option (List Char × List Char) :=
    match cs.drop i with
    | '.' :: right => if i = 0 ∨ right.isEmpty then none else some (cs.take i, right)
    | _ => none
  (List.range cs.length).reverse.findSome? step

/-- Match the parts of a path with those of a template; a last word may be followed by a line feed. -/
def matchParts : List Part → List (List Char) → Option (List (String × String))
  | [], [] => some []
  | [.word w], [cs] => if cs = w.toList ∨ cs = w.toList ++ ['\n'] then some [] else none
  | .word w :: ps, cs :: rest => if cs = w.toList then matchParts ps rest else none
  | .field name :: ps, cs :: rest =>
      if cs.isEmpty then none
      else (matchParts ps rest).map ((name, String.ofList cs) :: ·)
  | .dotted left right :: ps, cs :: rest =>
      match splitLastDot cs with
      | none => none
      | some (a, b) =>
          (matchParts ps rest).map
            (fun fs => (left, String.ofList a) :: (right, String.ofList b) :: fs)
  | _, _ => none

/-- The fields of a path that matches the template of an endpoint. -/
def Endpoint.fields? (e : Endpoint) (path : String) : Option (List (String × String)) :=
  match Path.splitSlash path.toList with
  | [] :: parts => matchParts e.template parts
  | _ => none

/-- What routing finds: an endpoint with its fields, an endpoint that has another method, or none. -/
inductive Routed where
  | found (e : Endpoint) (fields : List (String × String))
  | otherMethod (allowed : String)
  | nowhere

/-- Find the endpoint of a method and a path. -/
def route (method path : String) : Routed :=
  let fitting := Endpoint.all.filterMap (fun e => (e.fields? path).map (fun fs => (e, fs)))
  match fitting.find? (fun p => p.1.method == method), fitting with
  | some (e, fs), _ => .found e fs
  | none, (e, _) :: _ => .otherMethod e.method
  | none, [] => .nowhere

/-- Whether a path matches any template. -/
def leadsSomewhere (path : String) : Bool := Endpoint.all.any (fun e => (e.fields? path).isSome)

/-- The path with its final slashes removed, or with one added if it has none. -/
def toggledSlash (path : String) : String :=
  let cs := path.toList
  if cs.getLast? = some '/' then String.ofList (cs.reverse.dropWhile (· == '/')).reverse
  else path ++ "/"

theorem length_eq_of_matchParts {ps : List Part} {parts : List (List Char)}
    {fs : List (String × String)} (h : matchParts ps parts = some fs) :
    parts.length = ps.length := by
  fun_induction matchParts ps parts generalizing fs with
  | case1 => rfl
  | case2 => rfl
  | case3 => simp at h
  | case4 w ps rest _ ih => simp [ih h]
  | case5 => simp at h
  | case6 => simp at h
  | case7 name ps cs rest _ ih =>
      obtain ⟨gs, hg, -⟩ := Option.map_eq_some_iff.1 h
      simp [ih hg]
  | case8 => simp at h
  | case9 left right ps cs rest a b _ ih =>
      obtain ⟨gs, hg, -⟩ := Option.map_eq_some_iff.1 h
      simp [ih hg]
  | case10 => simp at h

end TileDepot.Http
