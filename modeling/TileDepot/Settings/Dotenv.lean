import TileDepot.Ordered
import TileDepot.Text.Blank

/-!
# Settings files

A settings file gives a value to a name on each line: a name, an equals sign and a value, which may be
quoted, in single or double quotes, and then may go over several lines.  Blank lines and comments are
skipped, a leading `export` is allowed, and a name without an equals sign has no value.  A line that
cannot be read is skipped.  Values may refer to names given before or in the environment, with a text
to use where the name has no value.

* `readLine_shorter` says that reading a line takes at least one character away.
-/

namespace TileDepot.Dotenv

/-- A blank that does not end a line. -/
def isInline (c : Char) : Bool := Text.isBlank c && c != '\r' && c != '\n'

/-- Whether a character ends a line. -/
def endsLine (c : Char) : Bool := c == '\r' || c == '\n'

/-- Skip a leading `export` and the blanks after it. -/
def skipExport (cs : List Char) : List Char :=
  if "export".toList.isPrefixOf cs then
    match cs.drop 6 with
    | c :: rest => if isInline c then rest.dropWhile isInline else cs
    | [] => cs
  else cs

/-- Read a name, quoted or plain; a comment has none. -/
def readName : List Char → Option (Option (List Char) × List Char)
  | '#' :: cs => some (none, '#' :: cs)
  | '\x27' :: cs =>
      let name := cs.takeWhile (· != '\x27')
      match name.isEmpty, cs.dropWhile (· != '\x27') with
      | false, _ :: rest => some (some name, rest)
      | _, _ => none
  | cs =>
      let plain (c : Char) : Bool := c != '=' && c != '#' && !Text.isBlank c
      let name := cs.takeWhile plain
      if name.isEmpty then none else some (some name, cs.dropWhile plain)

/-- Read up to a closing quote.  A backslash keeps a quote from closing, unless no other quote
follows. -/
def readQuoted (quote : Char) : List Char → Option (List Char × List Char)
  | [] => none
  | [c] => if c = quote then some ([], []) else none
  | c :: d :: rest =>
      if c = quote then some ([], d :: rest)
      else if c = '\\' ∧ d = quote then
        match readQuoted quote rest with
        | some (value, rest) => some (c :: d :: value, rest)
        | none => some ([c], rest)
      else
        match readQuoted quote (d :: rest) with
        | some (value, rest) => some (c :: value, rest)
        | none => none

/-- The character that a letter after a backslash stands for in a double-quoted value. -/
def doubleEscape? (c : Char) : Option Char :=
  if c = '\\' ∨ c = '\x27' ∨ c = '\x22' then some c
  else if c = 'a' then some '\x07'
  else if c = 'b' then some '\x08'
  else if c = 'f' then some '\x0c'
  else if c = 'n' then some '\n'
  else if c = 'r' then some '\r'
  else if c = 't' then some '\t'
  else if c = 'v' then some '\x0b'
  else none

/-- The character that a letter after a backslash stands for in a single-quoted value. -/
def singleEscape? (c : Char) : Option Char := if c = '\\' ∨ c = '\x27' then some c else none

/-- Replace escapes; a backslash before any other character is kept. -/
def unescape (escape? : Char → Option Char) : List Char → List Char
  | '\\' :: c :: rest =>
      match escape? c with
      | some d => d :: unescape escape? rest
      | none => '\\' :: unescape escape? (c :: rest)
  | c :: rest => c :: unescape escape? rest
  | [] => []

/-- A plain value up to a blank and a comment. -/
def cutComment : List Char → List Char
  | [] => []
  | c :: cs =>
      if Text.isBlank c ∧ (cs.dropWhile Text.isBlank).head? = some '#' then [] else c :: cutComment cs

/-- Remove the blanks at the end. -/
def trimEnd (cs : List Char) : List Char := (cs.reverse.dropWhile Text.isBlank).reverse

/-- Read a value. -/
def readValue : List Char → Option (List Char × List Char)
  | '\x27' :: cs => (readQuoted '\x27' cs).map (fun (v, rest) => (unescape singleEscape? v, rest))
  | '\x22' :: cs => (readQuoted '\x22' cs).map (fun (v, rest) => (unescape doubleEscape? v, rest))
  | cs => some (trimEnd (cutComment (cs.takeWhile (!endsLine ·))), cs.dropWhile (!endsLine ·))

/-- Skip a comment, if there is one. -/
def skipComment (cs : List Char) : List Char :=
  match cs.dropWhile isInline with
  | '#' :: rest => rest.dropWhile (!endsLine ·)
  | _ => cs

/-- Skip blanks and the end of a line; anything else is refused. -/
def readEnd (cs : List Char) : Option (List Char) :=
  match cs.dropWhile isInline with
  | [] => some []
  | '\r' :: '\n' :: rest => some rest
  | '\r' :: rest => some rest
  | '\n' :: rest => some rest
  | _ => none

/-- Skip what is left of a line. -/
def skipLine (cs : List Char) : List Char := (cs.dropWhile (!endsLine ·)).drop 1

/-- Read one binding from the first character of a line that is not blank: a name with or without a
value, or a comment. -/
def readBinding (cs : List Char) :
    Option (Option (List Char × Option (List Char)) × List Char) := do
  let (name, rest) ← readName (skipExport cs)
  let rest := rest.dropWhile isInline
  let (value, rest) ←
    match rest with
    | '=' :: rest => (readValue (rest.dropWhile isInline)).map (fun (v, rest) => (some v, rest))
    | rest => some (none, rest)
  let rest ← readEnd (skipComment rest)
  return (name.map (fun n => (n, value)), rest)

/-- Read one line; a line that cannot be read gives nothing. -/
def readLine (cs : List Char) : Option (List Char × Option (List Char)) × List Char :=
  match readBinding cs with
  | some (binding, rest) => if rest.length < cs.length then (binding, rest) else (none, cs.drop 1)
  | none => if (skipLine cs).length < cs.length then (none, skipLine cs) else (none, cs.drop 1)

theorem readLine_shorter {cs : List Char} (h : cs ≠ []) : (readLine cs).2.length < cs.length := by
  have hd : (cs.drop 1).length < cs.length := by
    cases cs with
    | nil => exact absurd rfl h
    | cons c cs => simp
  unfold readLine
  split
  · split
    · assumption
    · exact hd
  · split
    · assumption
    · exact hd

/-- Read all bindings in order. -/
def bindings (cs : List Char) : List (List Char × Option (List Char)) :=
  match h : cs.dropWhile Text.isBlank with
  | [] => []
  | c :: rest =>
      have : (readLine (c :: rest)).2.length < cs.length := by
        have h1 := readLine_shorter (List.cons_ne_nil c rest)
        have h2 : (c :: rest).length ≤ cs.length := by
          rw [← h]
          exact (List.dropWhile_sublist _).length_le
        omega
      (readLine (c :: rest)).1.toList ++ bindings (readLine (c :: rest)).2
termination_by cs.length

/-- A reference after its opening: the name, the text to use in its place, and the rest. -/
def readReference (cs : List Char) : Option (List Char × List Char × List Char) :=
  let plain (c : Char) : Bool := c != '\x7d' && c != ':'
  let name := cs.takeWhile plain
  match cs.dropWhile plain with
  | '\x7d' :: rest => some (name, [], rest)
  | ':' :: '-' :: rest =>
      match rest.dropWhile (· != '\x7d') with
      | _ :: after => some (name, rest.takeWhile (· != '\x7d'), after)
      | [] => none
  | _ => none

/-- Replace references by the values of their names; the fuel bounds the characters left. -/
def expand (value? : String → Option (Option String)) : Nat → List Char → List Char
  | 0, cs => cs
  | _, [] => []
  | fuel + 1, c :: cs =>
      match c, cs with
      | '$', '\x7b' :: rest =>
          match readReference rest with
          | some (name, fallback, rest) =>
              let value :=
                match value? (String.ofList name) with
                | some (some v) => v.toList
                | some none => []
                | none => fallback
              value ++ expand value? fuel rest
          | none => c :: expand value? fuel cs
      | _, _ => c :: expand value? fuel cs

/-- Give every name its value, the later of two winning; references look at the names before and then
at the environment. -/
def resolve (environment : Ordered String String) (bs : List (List Char × Option (List Char))) :
    Ordered String (Option String) :=
  bs.foldl (fun done b =>
    let value? (name : String) : Option (Option String) :=
      match done.get? name with
      | some v => some v
      | none => (environment.get? name).map some
    done.put (String.ofList b.1)
      (b.2.map (fun cs => String.ofList (expand value? (cs.length + 1) cs)))) []

/-- Read a settings file in an environment. -/
def read (environment : Ordered String String) (text : String) : Ordered String (Option String) :=
  resolve environment (bindings text.toList)

end TileDepot.Dotenv
