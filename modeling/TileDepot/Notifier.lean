import TileDepot.Event
import TileDepot.Log
import TileDepot.Ordered

/-!
# Listeners

A `Notifier` keeps listeners in the order in which they were registered; a listener may be registered
several times.  An event goes to the listeners that are registered when it is dispatched, whatever
their hooks change meanwhile: a hook may register and remove listeners, and then fail.  A failure is
logged and concerns nobody else.  Removing deletes the first registered listener that equals the given
one; listeners of one group are equal to each other, and every other listener only to itself.

Hooks name the listeners they register and remove by label, and `directory` says which listener a label
names at present.

* `dispatch_deliveries` says that the deliveries of an event are those of the listeners registered
  before it, in order, whatever the hooks do.
* `remove_registered` says what removing a listener leaves.
-/

namespace TileDepot

/-- What a hook does to the list of listeners. -/
inductive Change where
  | add (label : String)
  | remove (label : String)
  deriving DecidableEq

/-- A hook of a listener: there is none, there is something that cannot be called, or it records the
event or not, changes the list of listeners, and fails or not. -/
inductive Hook where
  | absent
  | broken
  | callable (records : Bool) (changes : List Change) (fails : Bool)
  deriving DecidableEq

/-- A listener: its identity, the label it is shown by, the group of listeners it equals, and its hook
for each kind of event. -/
structure Listener where
  identity : Nat
  label : String
  group : Option String
  hook : EventKind → Hook

/-- Whether two listeners are equal. -/
def Listener.same (a b : Listener) : Bool :=
  decide (a.identity = b.identity) || (a.group.isSome && decide (a.group = b.group))

/-- An event as a listener recorded it. -/
structure Delivery where
  label : String
  event : Event
  deriving DecidableEq

/-- The listeners in the order of registration, and the listener that each label names. -/
structure Notifier where
  registered : List Listener
  directory : Ordered String Listener

namespace Notifier

/-- A notifier without listeners. -/
def empty : Notifier := ⟨[], []⟩

/-- Register a listener once more. -/
def add (n : Notifier) (l : Listener) : Notifier := { n with registered := n.registered ++ [l] }

/-- Whether a listener that equals the given one is registered. -/
def has (n : Notifier) (l : Listener) : Bool := n.registered.any (fun r => r.same l)

/-- Remove the first registered listener that equals the given one. -/
def remove (n : Notifier) (l : Listener) : Notifier :=
  { n with registered := n.registered.eraseP (fun r => r.same l) }

/-- Apply changes one after the other; a label that names nobody ends them with a failure. -/
def applyChanges : Notifier → List Change → Notifier × Bool
  | n, [] => (n, true)
  | n, .add label :: rest =>
      match n.directory.get? label with
      | some l => applyChanges (n.add l) rest
      | none => (n, false)
  | n, .remove label :: rest =>
      match n.directory.get? label with
      | some l => applyChanges (n.remove l) rest
      | none => (n, false)

/-- What comes of calling one hook: the notifier afterwards and whether the call failed. -/
def call (n : Notifier) : Hook → Notifier × Bool
  | .absent => (n, false)
  | .broken => (n, true)
  | .callable _ changes fails =>
      let (n, complete) := n.applyChanges changes
      (n, fails || !complete)

/-- What a listener records of an event. -/
def deliveryOf (e : Event) (l : Listener) : List Delivery :=
  match l.hook e.kind with
  | .callable true _ _ => [⟨l.label, e⟩]
  | _ => []

/-- The log record of a failed hook. -/
def failureRecord (e : Event) (l : Listener) : LogRecord :=
  ⟨.error, .notifier, "Listener <" ++ l.label ++ "> failed handling " ++ e.kind.name⟩

/-- Hand an event to listeners one after the other. -/
def deliver (e : Event) : List Listener → Notifier → Notifier × List Delivery × List LogRecord
  | [], n => (n, [], [])
  | l :: rest, n =>
      let (n, failed) := n.call (l.hook e.kind)
      let (n, deliveries, records) := deliver e rest n
      (n, deliveryOf e l ++ deliveries, if failed then failureRecord e l :: records else records)

/-- Hand an event to the listeners that are registered now. -/
def dispatch (n : Notifier) (e : Event) : Notifier × List Delivery × List LogRecord :=
  deliver e n.registered n

/-- Dispatch events one after the other. -/
def dispatchAll : List Event → Notifier → Notifier × List Delivery × List LogRecord
  | [], n => (n, [], [])
  | e :: rest, n =>
      let (n, d, r) := n.dispatch e
      let (n, ds, rs) := dispatchAll rest n
      (n, d ++ ds, r ++ rs)

theorem deliver_deliveries (e : Event) (ls : List Listener) (n : Notifier) :
    (deliver e ls n).2.1 = ls.flatMap (deliveryOf e) := by
  induction ls generalizing n with
  | nil => rfl
  | cons l rest ih => simp [deliver, ih]

/-- The deliveries of an event depend on the registered listeners alone. -/
theorem dispatch_deliveries (n : Notifier) (e : Event) :
    (n.dispatch e).2.1 = n.registered.flatMap (deliveryOf e) :=
  deliver_deliveries e n.registered n

/-- Removing deletes the first equal listener and keeps the rest in order. -/
theorem remove_registered (n : Notifier) (l : Listener) (before after : List Listener)
    (r : Listener) (hn : n.registered = before ++ r :: after)
    (hb : ∀ b ∈ before, b.same l = false) (hr : r.same l = true) :
    (n.remove l).registered = before ++ after := by
  simp only [remove, hn]
  rw [List.eraseP_append_right _ (fun b hm => by simp [hb b hm])]
  simp [hr]

end Notifier

end TileDepot
