import TileDepot.Scenario.Perform

/-!
# Scripts

A script is a list of commands: single actions, and commands that run further commands while locks are
held, within the life of the store, or side by side.  Each command at the top is reported with what
listeners recorded and what was logged meanwhile; commands inside another are reported as part of it.

Commands that run side by side commute, so they are run one after the other, and what listeners
recorded is put in order.

* `reportAll_length` says that every command of a script is reported.
* `report_drained` says that a report leaves nothing uncollected.
-/

namespace TileDepot.Scenario

/-- A command of a script. -/
inductive Command where
  | act (a : Action)
  | exclusive (layers : List String) (inner : List Command)
  | within (inner : List Command)
  | lifespan (inner : List Command)
  | together (inner : List Command)

/-- The distinct names of the locks that are held, in order. -/
def heldNames (held : List Path) : List String := sortNames ((Layer.inOrder held).map Path.name)

/-- Take the locks of layers. -/
def takeLocks (layers : List String) : Act (List Path) := do
  let paths ← Act.onStore (Store.lockOrder layers)
  modify (fun w => { w with held := w.held ++ paths })
  return paths

/-- Give locks back and say how many are still held. -/
def giveLocks (paths : List Path) : Act Nat := do
  modify (fun w => { w with held := w.held.take (w.held.length - paths.length) })
  return (Layer.inOrder (← get).held).length

/-- Close the store at the end of its life. -/
def endLife : Act Unit := do
  let _ ← Act.onStore (Store.perform .destroy)

/-- Put what listeners have recorded since then in order. -/
def orderDeliveries (earlier : Nat) : Act Unit :=
  modify (fun w =>
    let v := w.app.service
    w.withService
      { v with deliveries := v.deliveries.take earlier ++ sorted deliveryJson (v.deliveries.drop earlier) })

mutual

/-- Carry a command out. -/
def execute : Command → Act Result
  | .act a => perform a
  | .exclusive layers inner => do
      let paths ← takeLocks layers
      let inside := heldNames (← get).held
      let results ← executeAll inner
      return .held inside (← giveLocks paths) results
  | .within inner => do
      let results ← executeAll inner
      endLife
      return .same results
  | .lifespan inner => do
      let results ← executeAll inner
      endLife
      return .several results
  | .together inner => do
      let earlier := (← get).app.service.deliveries.length
      let results ← executeAll inner
      orderDeliveries earlier
      return .several results

/-- Carry commands out one after the other. -/
def executeAll : List Command → Act (List Outcome)
  | [] => return []
  | c :: rest => do
      let r ← Act.attempt (execute c)
      return r :: (← executeAll rest)

end

/-- What a command came to, what listeners recorded and what was logged. -/
structure Report where
  outcome : Outcome
  deliveries : List Delivery
  log : List LogRecord

/-- Collect what was recorded and logged. -/
def collect (outcome : Outcome) (w : World) : Report × World :=
  let v := w.app.service
  (⟨outcome, v.deliveries, v.store.log⟩,
    w.withService { v with deliveries := [], store := { v.store with log := [] } })

/-- Carry a command out and report it. -/
def report (c : Command) (w : World) : Report × World :=
  let (r, w) := Act.outcome (execute c) w
  collect r w

/-- Report commands one after the other. -/
def reportAll : List Command → World → List Report × World
  | [], w => ([], w)
  | c :: rest, w =>
      let (r, w) := report c w
      let (rs, w) := reportAll rest w
      (r :: rs, w)

/-- What a script starts from: the root of the store below the base, its other settings, whether
directories deny writing, and what happens before the store is set up. -/
structure Setting where
  root : String
  arguments : Ordered String Json
  isSealed : Bool
  before : List Command

/-- How a script went: something before the store failed, or the store was set up and, if that went
well, every command reported. -/
inductive Transcript where
  | stopped (before : List Report)
  | ran (setUp : Report) (reports : Option (List Report))

/-- Whether a command came to something. -/
def Report.succeeded (r : Report) : Bool :=
  match r.outcome with
  | .ok _ => true
  | .error _ => false

/-- Run a script. -/
def run (start : Setting) (script : List Command) : Transcript :=
  let (earlier, w) := reportAll start.before (World.before start.root start.arguments start.isSealed)
  if !earlier.all Report.succeeded then .stopped earlier
  else
    let (outcome, w) := w.openStore
    let (setUp, w) := collect outcome w
    if setUp.succeeded then .ran setUp (some (reportAll script w).1) else .ran setUp none

/-- Run a script about listeners alone. -/
def runListeners (script : List Command) : List Report :=
  (reportAll script (World.before "" [] false)).1

theorem reportAll_length (script : List Command) (w : World) :
    (reportAll script w).1.length = script.length := by
  induction script generalizing w with
  | nil => rfl
  | cons c rest ih => simp [reportAll, ih]

/-- After a report nothing is left to collect. -/
theorem report_drained (c : Command) (w : World) :
    (report c w).2.app.service.deliveries = [] ∧ (report c w).2.app.service.store.log = [] :=
  ⟨rfl, rfl⟩

end TileDepot.Scenario
