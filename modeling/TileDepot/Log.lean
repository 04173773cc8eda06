/-!
# Log records

Every part of the library writes its records under a name of its own.
-/

namespace TileDepot

/-- How important a record is. -/
inductive Severity where
  | debug
  | info
  | warning
  | error
  deriving DecidableEq

/-- The name of a severity. -/
def Severity.name : Severity → String
  | .debug => "DEBUG"
  | .info => "INFO"
  | .warning => "WARNING"
  | .error => "ERROR"

/-- The part of the library that writes a record. -/
inductive Channel where
  | connection
  | schema
  | registry
  | tiles
  | metadata
  | lifecycle
  | notifier
  | service
  deriving DecidableEq

/-- The name that a part of the library writes under. -/
def Channel.name : Channel → String
  | .connection => "tilestore.db.connection"
  | .schema => "tilestore.db.schema"
  | .registry => "tilestore.db.registry"
  | .tiles => "tilestore.db.tiles"
  | .metadata => "tilestore.db.metadata"
  | .lifecycle => "tilestore.db.lifecycle"
  | .notifier => "tilestore.services.notifier"
  | .service => "tilestore.services.blobstore"

/-- A record. -/
structure LogRecord where
  severity : Severity
  channel : Channel
  message : String
  deriving DecidableEq

end TileDepot
