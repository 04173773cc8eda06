import TileDepot.Database.Basic
import TileDepot.Database.Fault
import TileDepot.Database.Header
import TileDepot.Database.Statement
import TileDepot.Decimal.Digits
import TileDepot.Decimal.Floating
import TileDepot.Disk.Basic
import TileDepot.Disk.Fault
import TileDepot.Disk.Outside
import TileDepot.Event
import TileDepot.Fault
import TileDepot.Http.App
import TileDepot.Http.Cors
import TileDepot.Http.Message
import TileDepot.Http.Percent
import TileDepot.Http.Route
import TileDepot.Http.Target
import TileDepot.Http.Validation
import TileDepot.Json.Basic
import TileDepot.Json.Printer
import TileDepot.Json.Reader
import TileDepot.Layer.Name
import TileDepot.Layer.Stripes
import TileDepot.Log
import TileDepot.Logging
import TileDepot.Notifier
import TileDepot.Ordered
import TileDepot.Path
import TileDepot.Proofs.Acquiring
import TileDepot.Proofs.Acts
import TileDepot.Proofs.Addresses
import TileDepot.Proofs.Agreeing
import TileDepot.Proofs.Blame
import TileDepot.Proofs.Books
import TileDepot.Proofs.Bystanders
import TileDepot.Proofs.Changes
import TileDepot.Proofs.Commuting
import TileDepot.Proofs.Containment
import TileDepot.Proofs.Custody
import TileDepot.Proofs.Descent
import TileDepot.Proofs.Dispatching
import TileDepot.Proofs.Erasing
import TileDepot.Proofs.Escapes
import TileDepot.Proofs.Failures
import TileDepot.Proofs.FileNames
import TileDepot.Proofs.Granting
import TileDepot.Proofs.Handover
import TileDepot.Proofs.History
import TileDepot.Proofs.Holding
import TileDepot.Proofs.Homegrown
import TileDepot.Proofs.Invalidating
import TileDepot.Proofs.Inventory
import TileDepot.Proofs.Keeping
import TileDepot.Proofs.Layers
import TileDepot.Proofs.Leaks
import TileDepot.Proofs.Ledger
import TileDepot.Proofs.Leftovers
import TileDepot.Proofs.Lending
import TileDepot.Proofs.Leniency
import TileDepot.Proofs.LockOrder
import TileDepot.Proofs.Meddling
import TileDepot.Proofs.Opening
import TileDepot.Proofs.Performing
import TileDepot.Proofs.Provenance
import TileDepot.Proofs.Queueing
import TileDepot.Proofs.Reading
import TileDepot.Proofs.Refinement
import TileDepot.Proofs.Removals
import TileDepot.Proofs.Replies
import TileDepot.Proofs.Revising
import TileDepot.Proofs.Routing
import TileDepot.Proofs.Serving
import TileDepot.Proofs.Sessions
import TileDepot.Proofs.Sharing
import TileDepot.Proofs.Shelves
import TileDepot.Proofs.Shielding
import TileDepot.Proofs.Shifts
import TileDepot.Proofs.Sidecars
import TileDepot.Proofs.Simulation
import TileDepot.Proofs.Steadiness
import TileDepot.Proofs.Surface
import TileDepot.Proofs.Tasks
import TileDepot.Proofs.Tidying
import TileDepot.Proofs.Transactions
import TileDepot.Proofs.Tree
import TileDepot.Proofs.Wholeness
import TileDepot.Proofs.Working
import TileDepot.Proofs.Writes
import TileDepot.Scenario.Basic
import TileDepot.Scenario.Observation
import TileDepot.Scenario.Perform
import TileDepot.Scenario.Recorder
import TileDepot.Scenario.Script
import TileDepot.Scenario.Shown
import TileDepot.Scenario.World
import TileDepot.Service
import TileDepot.Settings.Basic
import TileDepot.Settings.Dotenv
import TileDepot.Settings.Readings
import TileDepot.Settings.Sources
import TileDepot.Settings.Values
import TileDepot.Store.Basic
import TileDepot.Store.Connection
import TileDepot.Store.Lifecycle
import TileDepot.Store.Metadata
import TileDepot.Store.Operation
import TileDepot.Store.Registry
import TileDepot.Store.Schema
import TileDepot.Store.Setup
import TileDepot.Store.Tiles
import TileDepot.Store.Translation
import TileDepot.Text.Blank
import TileDepot.Text.Case
import TileDepot.Text.Hex
import TileDepot.Text.Joined
import TileDepot.Text.Printable
import TileDepot.Text.Quoted
import TileDepot.Text.Utf8
import TileDepot.Tile
import TileDepot.Time
