import TileDepot.Http.Message

/-!
# Requests from other origins

A browser asks before it sends a request to another origin.  Such a preflight is answered before
anything else is done.  Every other response says that it depends on the origin, and whether the origin
may read it.

* `allowedOrigin_star` says that a list with a star allows every origin, by the star.
-/

namespace TileDepot.Http

/-- The methods that other origins may use, in the order in which they are listed. -/
def corsMethods : List String :=
  ["DELETE", "GET", "HEAD", "OPTIONS", "PATCH", "POST", "PUT", "QUERY"]

/-- What a response says about an origin, if it may read it. -/
def allowedOrigin (origins : List String) (origin : String) : Option String :=
  if origins.contains "*" then some "*" else if origins.contains origin then some origin else none

/-- The header that allows an origin. -/
def originHeader (origins : List String) (origin : String) : List (String × String) :=
  match allowedOrigin origins origin with
  | some o => [("access-control-allow-origin", o)]
  | none => []

/-- The request headers that a preflight's answer depends on. -/
def preflightVary : String :=
  "Origin, Access-Control-Request-Method, Access-Control-Request-Headers, " ++
    "Access-Control-Request-Private-Network"

/-- The answer to a preflight. -/
def preflight (origins : List String) (origin method : String) (headers : Option String) :
    Response :=
  let failures :=
    (if (allowedOrigin origins origin).isNone then ["origin"] else []) ++
      (if corsMethods.contains method then [] else ["method"])
  let common :=
    originHeader origins origin ++
      [("vary", preflightVary), ("access-control-allow-methods", Text.joined ", " corsMethods),
       ("access-control-max-age", "600")] ++
      (match headers with
        | some h => [("access-control-allow-headers", h)]
        | none => [])
  if failures.isEmpty then respondText 200 common "OK"
  else respondText 400 common ("Disallowed CORS " ++ Text.joined ", " failures)

/-- The answer to a request that is a preflight. -/
def preflight? (origins : List String) (r : Request) : Option Response :=
  match r.method == "OPTIONS", r.header? "origin", r.header? "access-control-request-method" with
  | true, some origin, some method =>
      some (preflight origins origin method (r.header? "access-control-request-headers"))
  | _, _, _ => none

/-- Add to a response what it says about origins. -/
def withOrigin (origins : List String) (r : Request) (response : Response) : Response :=
  let about :=
    match r.header? "origin" with
    | some origin => originHeader origins origin
    | none => []
  { response with headers := response.headers ++ ("vary", "Origin") :: about }

theorem allowedOrigin_star {origins : List String} (h : "*" ∈ origins) (origin : String) :
    allowedOrigin origins origin = some "*" := by
  simp [allowedOrigin, h]

end TileDepot.Http
