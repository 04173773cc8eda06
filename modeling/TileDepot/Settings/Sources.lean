import TileDepot.Disk.Outside
import TileDepot.Settings.Dotenv
import TileDepot.Settings.Values

/-!
# Where settings come from

A setting is taken from the first source that gives it: the arguments, the environment, the settings
file, the defaults.  Names match whatever their case.  The environment may hold names that are no
settings; the other two may not.  A list of origins is decoded from JSON wherever it is given as text,
also if an argument overrides it.

`Cache` is a memory of the settings read last: they are read again only after it was cleared.
-/

namespace TileDepot.Settings

/-- What the sources give. -/
structure Given where
  arguments : Ordered String Json
  environment : Ordered String String
  file : Option String

/-- Names in lower case, the last of several that become equal winning. -/
def lowered {ν : Type} (m : Ordered String ν) : Ordered String ν :=
  Ordered.ofPairs (m.map (fun p => (Text.lower p.1, p.2)))

/-- The values that a source of texts gives, with the list of origins decoded. -/
def ofTexts (source : Origin) (texts : Ordered String (Option String)) :
    Except Refusal (Ordered String Json) :=
  Field.all.foldlM (fun done f =>
    match texts.get? f.name with
    | some (some s) =>
        if f = .allowOrigins then
          match Json.read s with
          | .error _ => .error (.undecodable source)
          | .ok .null => .ok done
          | .ok v => .ok (done.put f.name v)
        else .ok (done.put f.name (.text s))
    | _ => .ok done) []

/-- Whether a name is that of a field. -/
def isField (name : String) : Bool := Field.all.any (fun f => f.name == name)

/-- The names of a settings file that are no settings; one without a value is overlooked. -/
def strangeTexts (texts : Ordered String (Option String)) : List String :=
  (texts.filter (fun p => !isField p.1 && (p.2.getD "") != "")).map Prod.fst

/-- The arguments that are settings, by field name; a name in the spelling of the field comes before
others. -/
def ofArguments (arguments : Ordered String Json) : Ordered String Json :=
  Field.all.filterMap (fun f =>
    match arguments.get? f.name with
    | some v => some (f.name, v)
    | none => (arguments.find? (fun p => Text.lower p.1 == f.name)).map (fun p => (f.name, p.2)))

/-- The arguments that are no settings. -/
def strangeArguments (arguments : Ordered String Json) : List String :=
  (arguments.map Prod.fst).filter (fun name => !isField (Text.lower name))

/-- Check a field with its value, if one is given, and collect the complaints. -/
def checkField {α : Type} (given : Ordered String Json) (f : Field) (fallback : α)
    (check : Json → Checked α) : α × List Violation :=
  match given.get? f.name with
  | none => (fallback, [])
  | some v =>
      match check v with
      | .ok a => (a, [])
      | .error cs => (fallback, cs.map (fun (c, below) => ⟨c, f.name :: below⟩))

/-- Make settings from values by field name and the names that are no settings. -/
def ofValues (given : Ordered String Json) (strange : List String) : Except Refusal Settings :=
  let d := Settings.default
  let (dir, v1) := checkField given .storageDir d.storageDir checkPath
  let (extension, v2) := checkField given .fileExtension d.fileExtension checkExtension
  let (timeout, v3) := checkField given .connectTimeout d.connectTimeout checkPositive
  let (absent, v4) := checkField given .readErrorsAsAbsent d.readErrorsAsAbsent checkFlag
  let (level, v5) := checkField given .logLevel d.logLevel checkText
  let (origins, v6) := checkField given .allowOrigins d.allowOrigins checkTexts
  let extra : List Violation := strange.map (fun name => ⟨.unknownField, [name]⟩)
  let violations := v1 ++ v2 ++ v3 ++ v4 ++ v5 ++ v6 ++ extra
  if violations.isEmpty then .ok ⟨dir, extension, timeout, absent, level, origins⟩
  else .error (.invalid violations)

/-- Make settings from what the sources give. -/
def load (g : Given) : Except Refusal Settings := do
  let environment ← ofTexts .environment (lowered (g.environment.map (fun p => (p.1, some p.2))))
  let texts := lowered ((g.file.map (Dotenv.read g.environment)).getD [])
  let file ← ofTexts .file texts
  let arguments := ofArguments g.arguments
  let strange := Ordered.ofPairs ((strangeTexts texts ++ strangeArguments g.arguments).map (·, ()))
  ofValues (arguments ++ environment ++ file) strange.keys

/-- The settings read last, with the number of the reading. -/
structure Cache where
  held : Option (Nat × Settings)

/-- The settings of a process: those held, or those that the sources give now, whose directory is made.
A reading that fails is not held. -/
def Cache.get (c : Cache) (reading : Nat) (g : Given) (d : Disk) :
    Except Refusal (Except OsFault (Nat × Settings)) × Cache × Disk :=
  match c.held with
  | some held => (.ok (.ok held), c, d)
  | none =>
      match load g with
      | .error r => (.error r, c, d)
      | .ok s =>
          match d.makeDirectories s.storageDir with
          | (some f, d) => (.ok (.error f), c, d)
          | (none, d) => (.ok (.ok (reading, s)), ⟨some (reading, s)⟩, d)

end TileDepot.Settings
