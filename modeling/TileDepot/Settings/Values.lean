import TileDepot.Json.Reader
import TileDepot.Settings.Basic
import TileDepot.Text.Blank
import TileDepot.Text.Case

/-!
# Checking the values of settings

Each check takes a value of any kind and gives the setting or the complaints about it.  Numbers and
flags may also be spelled as texts, since the environment has nothing else.

* `dotted_startsWith` says that a checked extension begins with a dot.
-/

namespace TileDepot.Settings

/-- The outcome of a check: a setting, or complaints with their place below the field. -/
abbrev Checked (α : Type) := Except (List (Complaint × List String)) α

/-- A complaint about the whole value. -/
def refuse {α : Type} (c : Complaint) : Checked α := .error [(c, [])]

/-- A value that has to be a text. -/
def checkText : Json → Checked String
  | .text s => .ok s
  | _ => refuse .stringType

/-- A value that has to be a path. -/
def checkPath : Json → Checked Path
  | .text s => .ok (Path.ofString s)
  | _ => refuse .pathType

/-- An extension with blanks removed and a dot in front; one of dots alone is refused. -/
def dotted (cs : List Char) : Option (List Char) :=
  let kept := Text.trimList Text.isBlank cs
  if kept.all (· == '.') then none
  else
    match kept with
    | '.' :: rest => some ('.' :: rest)
    | kept => some ('.' :: kept)

/-- A value that has to be an extension. -/
def checkExtension (v : Json) : Checked String := do
  match dotted (← checkText v).toList with
  | some cs => return String.ofList cs
  | none => refuse .emptyExtension

/-- The sign in front of a number, as whether it is negative, and the rest. -/
def takeSign : List Char → Bool × List Char
  | '-' :: cs => (true, cs)
  | '+' :: cs => (false, cs)
  | cs => (false, cs)

/-- A decimal number: digits with at most one point and an exponent, or the name of a double that has
no digits. -/
def readDecimal (cs : List Char) : Option Float :=
  let (negative, cs) := takeSign cs
  let lower := cs.map Char.toLower
  if lower = "inf".toList ∨ lower = "infinity".toList then
    some (if negative then -(1.0 / 0.0) else 1.0 / 0.0)
  else if lower = "nan".toList then some (0.0 / 0.0)
  else
    let (whole, rest) := Json.takeDigits cs
    let (fraction, rest) :=
      match rest with
      | '.' :: rest => Json.takeDigits rest
      | rest => ([], rest)
    if whole.isEmpty ∧ fraction.isEmpty then none
    else
      let finish (e : Int) : Option Float :=
        some (Decimal.ofDecimal negative ⟨Json.natOfDigits (whole ++ fraction), e - fraction.length⟩)
      match rest with
      | [] => finish 0
      | rest =>
          match Json.takeExponent rest with
          | some (below, es, _, []) =>
              let e : Int := Json.natOfDigits es
              finish (if below then -e else e)
          | _ => none

/-- Whether a text has two underscores in a row. -/
def doubledUnderscore : List Char → Bool
  | '_' :: '_' :: _ => true
  | _ :: cs => doubledUnderscore cs
  | [] => false

/-- A text without its underscores, unless they stand at an end or next to each other. -/
def stripUnderscores (cs : List Char) : Option (List Char) :=
  if cs.head? = some '_' ∨ cs.getLast? = some '_' ∨ doubledUnderscore cs then none
  else some (cs.filter (· != '_'))

/-- A number spelled as a text, with blanks around it and underscores between its digits. -/
def readNumberText (s : String) : Option Float :=
  (stripUnderscores (Text.trimList Text.isWhite s.toList)).bind readDecimal

/-- A value that has to be a positive number. -/
def checkPositive (v : Json) : Checked Float := do
  let x ←
    match v with
    | .real x => pure x
    | .int i =>
        let x := Decimal.ofDecimal (decide (i < 0)) ⟨i.natAbs, 0⟩
        if Decimal.isFinite x then pure x else refuse .floatType
    | .bool b => pure (if b then 1.0 else 0.0)
    | .text s =>
        match readNumberText s with
        | some x => pure x
        | none => refuse .floatParsing
    | _ => refuse .floatType
  if 0.0 < x then return x else refuse .notPositive

/-- The texts that mean no. -/
def noTexts : List String := ["0", "off", "f", "false", "n", "no"]

/-- The texts that mean yes. -/
def yesTexts : List String := ["1", "on", "t", "true", "y", "yes"]

/-- A value that has to be a flag. -/
def checkFlag : Json → Checked Bool
  | .bool b => .ok b
  | .int i => if i = 0 then .ok false else if i = 1 then .ok true else refuse .boolParsing
  | .real x => if x == 0.0 then .ok false else if x == 1.0 then .ok true else refuse .boolType
  | .text s =>
      let s := Text.lowerAscii s
      if noTexts.contains s then .ok false
      else if yesTexts.contains s then .ok true
      else refuse .boolParsing
  | _ => refuse .boolType

/-- Check the items of a list, each a text; all complaints are kept. -/
def checkItems : Nat → List Json → List String × List (Complaint × List String)
  | _, [] => ([], [])
  | i, v :: vs =>
      let (texts, complaints) := checkItems (i + 1) vs
      match v with
      | .text s => (s :: texts, complaints)
      | _ => (texts, (.stringType, [toString i]) :: complaints)

/-- A value that has to be a list of texts. -/
def checkTexts : Json → Checked (List String)
  | .list vs =>
      let (texts, complaints) := checkItems 0 vs
      if complaints.isEmpty then .ok texts else .error complaints
  | _ => refuse .listType

/-- An extension that passes the check begins with a dot and has another character. -/
theorem dotted_startsWith {cs ds : List Char} (h : dotted cs = some ds) :
    ds.head? = some '.' ∧ 2 ≤ ds.length := by
  unfold dotted at h
  generalize Text.trimList Text.isBlank cs = kept at h
  simp only at h
  split at h
  · simp at h
  · rename_i hdots
    split at h
    · rename_i rest
      simp only [Option.some.injEq] at h
      subst h
      refine ⟨rfl, ?_⟩
      cases rest with
      | nil => simp at hdots
      | cons c rest => simp
    · simp only [Option.some.injEq] at h
      subst h
      refine ⟨rfl, ?_⟩
      cases kept with
      | nil => simp at hdots
      | cons c rest => simp

end TileDepot.Settings
