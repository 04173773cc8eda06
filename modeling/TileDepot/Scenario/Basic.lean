import TileDepot.Http.App
import TileDepot.Scenario.Observation
import TileDepot.Scenario.Recorder
import TileDepot.Settings.Sources

/-!
# Actions and their results

An `Action` is one thing that happens in a scenario: a user asks something of the store or sends a
request, a listener comes or goes, a handle is taken or broken, another program touches the disk, or an
observer looks at something.  A `Result` is what the action came to, and a `Failure` why it came to
nothing.  Handles and listeners are named by labels.
-/

namespace TileDepot.Scenario

/-- One thing that happens. -/
inductive Action where
  | ask (o : Store.Operation)
  | request (r : Http.Request)
  | describeApp
  | newListener (plan : ListenerPlan) (register : Bool)
  | addListener (label : String)
  | removeListener (label : String)
  | emit (e : Event)
  | cachedLayers
  | acquire (layer label : String)
  | inspect (label : String)
  | closeHandle (label : String)
  | severHandle (label : String)
  | failClosing (label : String)
  | staleAcquire
  | invalidate (layer : String)
  | createFile (layer : String)
  | openFile (layer : String)
  | pathFor (layer : String)
  | damageSchema (table : TableName)
  | repairSchema
  | chooseDriver (name : String)
  | reopen (changes : Ordered String Json) (root : Option String)
  | write (path : String) (bytes : ByteArray)
  | unlink (path : String)
  | makeDirectory (path : String)
  | removeTree (path : String)
  | move (source target : String)
  | setTime (path : String) (ns : Int)
  | makeDatabase (path : String) (db : Database)
  | dropTable (layer : String) (table : TableName)
  | insertTile (key : TileKey) (data : Cell)
  | insertMetadata (layer : String) (key value : TextCell)
  | lock (path : String) (level : LockLevel)
  | unlock (path : String)
  | listFiles
  | readRows (path : String) (inOrder : Bool)
  | readColumns (path : String)

/-- Why an action comes to nothing: a fault of the store or of the disk, settings that are refused, or
a label that names nothing. -/
inductive Failure where
  | fault (f : Fault)
  | settings (r : Settings.Refusal)
  | unknownLabel (label : String)

/-- What is known of a handle. -/
structure HandleView where
  layer : String
  file : String
  isClosed : Bool
  isOpen : Bool
  text : String

/-- What an action comes to. -/
inductive Result where
  | done
  | flag (b : Bool)
  | number (n : Nat)
  | text (s : String)
  | names (ss : List String)
  | removal (removed : Bool) (left : Nat)
  | tile (record : Option Store.TileRecord)
  | value (v : Option String)
  | pairs (ps : List (Option String × Option String))
  | entries (layer : String) (ps : List (Option String × Option String))
  | handed (reused : Bool) (text : String)
  | handle (view : HandleView)
  | rows (seen : Look Rows)
  | columns (seen : Look Columns)
  | response (r : Http.Response) (raised : Option Http.Escape)
  | app (title version : String) (routes : List (String × String))
  | held (inside : List String) (left : Nat) (inner : List (Except Failure Result))
  | same (inner : List (Except Failure Result))
  | several (inner : List (Except Failure Result))

/-- What a single action comes to, or why it comes to nothing. -/
abbrev Outcome := Except Failure Result

/-- The names of a list in increasing order. -/
def sortNames (ss : List String) : List String := ss.mergeSort (fun a b => decide (a ≤ b))

/-- An absent key comes before every other. -/
def keyLe : Option String → Option String → Bool
  | none, _ => true
  | some _, none => false
  | some a, some b => decide (a ≤ b)

/-- What an answer of the store comes to. -/
def resultOf : Store.Answer → Result
  | .done => .done
  | .flag b => .flag b
  | .count n => .number n
  | .tile record => .tile record
  | .value v => .value v
  | .pairs ps => .pairs (ps.mergeSort (fun a b => keyLe a.1 b.1))
  | .entries layer ps => .entries layer ps

/-- Sorting names loses none. -/
theorem mem_sortNames {ss : List String} {s : String} : s ∈ sortNames ss ↔ s ∈ ss := by
  simp [sortNames]

end TileDepot.Scenario
