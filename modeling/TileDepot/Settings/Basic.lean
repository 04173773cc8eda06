import TileDepot.Decimal.Floating
import TileDepot.Path

/-!
# Settings

The settings of a service, and what can be wrong with a value that is given for one of them.  A
`Violation` names its kind, the field, and within a list the position of the item.
-/

namespace TileDepot

/-- The settings of a service. -/
structure Settings where
  storageDir : Path
  fileExtension : String
  connectTimeout : Float
  readErrorsAsAbsent : Bool
  logLevel : String
  allowOrigins : List String

namespace Settings

/-- The fields in the order in which they are checked. -/
inductive Field where
  | storageDir
  | fileExtension
  | connectTimeout
  | readErrorsAsAbsent
  | logLevel
  | allowOrigins
  deriving DecidableEq

/-- The name by which a field is given. -/
def Field.name : Field → String
  | .storageDir => "storage_dir"
  | .fileExtension => "file_extension"
  | .connectTimeout => "connect_timeout"
  | .readErrorsAsAbsent => "metadata_read_errors_as_absent"
  | .logLevel => "log_level"
  | .allowOrigins => "allow_origins"

/-- All fields in order. -/
def Field.all : List Field :=
  [.storageDir, .fileExtension, .connectTimeout, .readErrorsAsAbsent, .logLevel, .allowOrigins]

/-- The settings where nothing is given. -/
def default : Settings :=
  { storageDir := Path.ofString "/tmp/tilestore/layers"
    fileExtension := ".sqlite"
    connectTimeout := 5.0
    readErrorsAsAbsent := true
    logLevel := "INFO"
    allowOrigins := ["*"] }

/-- What is wrong with a value. -/
inductive Complaint where
  | stringType
  | listType
  | pathType
  | floatParsing
  | floatType
  | notPositive
  | boolParsing
  | boolType
  | emptyExtension
  | unknownField
  deriving DecidableEq

/-- The short name of a complaint. -/
def Complaint.kind : Complaint → String
  | .stringType => "string_type"
  | .listType => "list_type"
  | .pathType => "path_type"
  | .floatParsing => "float_parsing"
  | .floatType => "float_type"
  | .notPositive => "greater_than"
  | .boolParsing => "bool_parsing"
  | .boolType => "bool_type"
  | .emptyExtension => "value_error"
  | .unknownField => "extra_forbidden"

/-- The wording of a complaint. -/
def Complaint.message : Complaint → String
  | .stringType => "Input should be a valid string"
  | .listType => "Input should be a valid list"
  | .pathType => "Input is not a valid path for <class 'pathlib.Path'>"
  | .floatParsing => "Input should be a valid number, unable to parse string as a number"
  | .floatType => "Input should be a valid number"
  | .notPositive => "Input should be greater than 0"
  | .boolParsing => "Input should be a valid boolean, unable to interpret input"
  | .boolType => "Input should be a valid boolean"
  | .emptyExtension => "Value error, file_extension must not be empty"
  | .unknownField => "Extra inputs are not permitted"

/-- A complaint about a field or about an item of its list. -/
structure Violation where
  complaint : Complaint
  location : List String
  deriving DecidableEq

/-- Where a list of origins was given as text that is no JSON. -/
inductive Origin where
  | environment
  | file
  deriving DecidableEq

/-- The name of a source of texts. -/
def Origin.name : Origin → String
  | .environment => "EnvSettingsSource"
  | .file => "DotEnvSettingsSource"

/-- Why settings cannot be made: a text that cannot be decoded, or values that are refused. -/
inductive Refusal where
  | undecodable (source : Origin)
  | invalid (violations : List Violation)
  deriving DecidableEq

/-- The wording of a text that cannot be decoded. -/
def Refusal.message : Refusal → String
  | .undecodable source =>
      "error parsing value for field \"allow_origins\" from source \"" ++ source.name ++ "\""
  | .invalid vs => toString vs.length ++ " validation errors"

end Settings

end TileDepot
