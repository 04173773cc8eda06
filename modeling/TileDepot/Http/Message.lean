import TileDepot.Fault
import TileDepot.Json.Printer
import TileDepot.Text.Utf8

/-!
# Requests and responses

A request is a method, a decoded path, a query, headers with names in lower case and a body.  What a
request comes to is a response, or an exception that no part of the service answers.
-/

namespace TileDepot.Http

/-- A request. -/
structure Request where
  method : String
  path : String
  query : String
  headers : List (String × String)
  body : ByteArray

/-- The first header with a name. -/
def Request.header? (r : Request) (name : String) : Option String := Ordered.get? r.headers name

/-- A response. -/
structure Response where
  status : Nat
  headers : List (String × String)
  body : ByteArray

/-- Why a request ends without a response: a fault of the store, a number that JSON cannot hold, a body
that is no text, a text with half of a surrogate pair, or values that a mapping of texts cannot hold. -/
inductive Escape where
  | fault (f : Fault)
  | notCompliant
  | undecodable (flaw : Utf8.Flaw)
  | unencodable (position half count : Nat)
  | notMapping (keys : List String)

/-- Where a range of positions lies. -/
def rangeText (position count : Nat) : String :=
  toString position ++ "-" ++ toString (position + count - 1)

/-- The wording of an exception. -/
def Escape.message : Escape → String
  | .fault f => f.message
  | .notCompliant => "Out of range float values are not JSON compliant"
  | .undecodable flaw =>
      "'utf-8' codec can't decode " ++
        (if flaw.count = 1 then
          "byte 0x" ++ String.ofList (Text.hexDigits 2 flaw.byte.toNat) ++ " in position " ++
            toString flaw.position
        else "bytes in position " ++ rangeText flaw.position flaw.count) ++ ": " ++ flaw.kind.text
  | .unencodable position half count =>
      "'utf-8' codec can't encode " ++
        (if count = 1 then
          "character '\\u" ++ String.ofList (Text.hexDigits 4 half) ++ "' in position " ++
            toString position
        else "characters in position " ++ rangeText position count) ++ ": surrogates not allowed"
  | .notMapping keys =>
      toString keys.length ++ " validation error" ++ (if keys.length = 1 then "" else "s") ++ ":\n" ++
        Text.joined "\n" (keys.map (fun k =>
          "  \x7b'type': 'string_type', 'loc': ('response', " ++ Text.quoted k ++
            "), 'msg': 'Input should be a valid string', 'input': None\x7d"))

/-- What a request comes to. -/
abbrev Outcome := Except Escape Response

/-- A response with a JSON body. -/
def respondJson (status : Nat) (headers : List (String × String)) (v : Json) : Outcome :=
  if v.hasNonFinite then .error .notCompliant
  else
    match Json.seekHalf 0 v with
    | .error (p, half, count) => .error (.unencodable p half count)
    | .ok _ =>
        .ok ⟨status, ("content-type", "application/json") :: headers,
          (Json.render Json.compact v).toUTF8⟩

/-- A response that gives nothing but a detail. -/
def respondDetail (status : Nat) (headers : List (String × String)) (detail : String) : Outcome :=
  respondJson status headers (.object [("detail", .text detail)])

/-- A response with a plain text. -/
def respondText (status : Nat) (headers : List (String × String)) (body : String) : Response :=
  ⟨status, ("content-type", "text/plain; charset=utf-8") :: headers, body.toUTF8⟩

/-- The response to a request that ended without one. -/
def failureResponse : Response := respondText 500 [] "Internal Server Error"

end TileDepot.Http
