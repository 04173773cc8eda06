import TileDepot.Notifier
import TileDepot.Settings.Basic
import TileDepot.Store.Setup

/-!
# A store with its listeners

A `Service` is a store and a notifier.  An operation runs on the store alone; what it announced is then
dispatched, and the failures of hooks are added to the log.  So the outcome of an operation and the
store, its log apart, do not depend on the listeners.

* `run_outcome` says that the outcome is that of the store, and `run_store` what the store keeps.
-/

namespace TileDepot

/-- What a store is set up with under the given settings. -/
def Settings.storeConfig (s : Settings) : StoreConfig :=
  ⟨s.storageDir, s.fileExtension, s.readErrorsAsAbsent⟩

/-- A store, its listeners and what they have recorded and nobody has collected yet. -/
structure Service where
  store : Store
  notifier : Notifier
  deliveries : List Delivery

namespace Service

/-- Dispatch what the store has announced. -/
def flush (v : Service) : Service :=
  let (n, ds, rs) := Notifier.dispatchAll v.store.events v.notifier
  { store := { v.store with events := [], log := v.store.log ++ rs }
    notifier := n
    deliveries := v.deliveries ++ ds }

/-- Run an operation and dispatch what it announced. -/
def run {α : Type} (x : Step α) (v : Service) : Except Fault α × Service :=
  let (r, s) := Step.outcome x v.store
  (r, flush { v with store := s })

theorem run_outcome {α : Type} (x : Step α) (v : Service) :
    (run x v).1 = (Step.outcome x v.store).1 := rfl

/-- Dispatching leaves everything of the store as it is but its log and its announcements. -/
theorem run_store {α : Type} (x : Step α) (v : Service) :
    (run x v).2.store.disk = (Step.outcome x v.store).2.disk ∧
      (run x v).2.store.cache = (Step.outcome x v.store).2.cache ∧
      (run x v).2.store.issued = (Step.outcome x v.store).2.issued :=
  ⟨rfl, rfl, rfl⟩

end Service

end TileDepot
