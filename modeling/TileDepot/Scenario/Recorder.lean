import TileDepot.Notifier

/-!
# Listeners of a scenario

A scenario plans each of its listeners: which events it records, which listeners it registers and
removes when told of one, and at which events it then fails.

* `hook_full` says that a listener of the full kind answers every kind of event alike, but for failing.
-/

namespace TileDepot.Scenario

/-- Which hooks a listener has: all of them, none that does anything, or the named ones, some of which
may be absent after all or not be callable. -/
inductive Hooks where
  | full
  | silent
  | some (present absent broken : List EventKind)

/-- What a listener does. -/
structure ListenerPlan where
  label : String
  group : Option String
  hooks : Hooks
  changes : List Change
  fails : List EventKind

/-- A hook that records and carries out the plan. -/
def ListenerPlan.active (p : ListenerPlan) (k : EventKind) : Hook :=
  .callable true p.changes (p.fails.contains k)

/-- The hook for a kind of event. -/
def ListenerPlan.hook (p : ListenerPlan) (k : EventKind) : Hook :=
  match p.hooks with
  | .full => p.active k
  | .silent => .callable false [] false
  | .some present absent broken =>
      if broken.contains k then .broken
      else if absent.contains k then .absent
      else if present.contains k then p.active k
      else .absent

/-- A planned listener under an identity of its own. -/
def ListenerPlan.listener (p : ListenerPlan) (identity : Nat) : Listener :=
  ⟨identity, p.label, p.group, p.hook⟩

/-- The kind of event with a name. -/
def eventKind? (name : String) : Option EventKind :=
  [EventKind.tileStored, .tileDeleted, .gridsetDeleted, .layerDeleted, .layerRenamed].find?
    (fun k => k.name == name)

theorem hook_full (p : ListenerPlan) (h : p.hooks = .full) (k : EventKind) :
    p.hook k = .callable true p.changes (p.fails.contains k) := by
  simp [ListenerPlan.hook, ListenerPlan.active, h]

end TileDepot.Scenario
