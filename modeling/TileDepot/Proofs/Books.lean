import Mathlib.Data.List.Induction
import TileDepot.Proofs.History
import TileDepot.Proofs.Simulation
import TileDepot.Service

/-!
# The books of a listener

A listener that records every event and stays registered receives exactly what the operations announce.
So its books on the sizes of tiles agree with the files after every operation, unless some operation is
a slip; and from the first slip on there is an operation after which they do not.

* `books_iff` is the statement about runs, and `received_real` says that whatever is received is about
  something that really happened.
* `slippedRun_books` shows a run with a slip: a layer with tiles gets a name whose file fits into the
  directory while its journal does not, and is removed.
-/

namespace TileDepot

open Layer Store

/-! ## Listening -/

/-- A listener that records every event, whatever else its hooks do. -/
def Listener.Records (l : Listener) : Prop :=
  ∀ k, ∃ changes fails, l.hook k = .callable true changes fails

/-- The events that a listener has received, by its label. -/
def Listener.received (l : Listener) (ds : List Delivery) : List Event :=
  (ds.filter (fun d => decide (d.label = l.label))).map (·.event)

/-- A listener is registered once, and no other one has its label. -/
def Notifier.Attended (n : Notifier) (l : Listener) : Prop :=
  n.registered.filter (fun r => decide (r.label = l.label)) = [l]

namespace Listener

variable {l : Listener} {n : Notifier} {e : Event}

theorem received_append (ds ds' : List Delivery) :
    l.received (ds ++ ds') = l.received ds ++ l.received ds' := by
  rw [received, List.filter_append, List.map_append]
  rfl

theorem received_deliveryOf (r : Listener) :
    l.received (Notifier.deliveryOf e r) =
      if r.label = l.label then (Notifier.deliveryOf e r).map (·.event) else [] := by
  rw [received, Notifier.deliveryOf]
  split
  · by_cases hr : r.label = l.label
    · simp [hr]
    · simp [hr]
  · simp

theorem received_flatMap (rs : List Listener) :
    l.received (rs.flatMap (Notifier.deliveryOf e)) =
      (rs.filter (fun r => decide (r.label = l.label))).flatMap
        (fun r => (Notifier.deliveryOf e r).map (·.event)) := by
  induction rs with
  | nil => rfl
  | cons r rs ih =>
    rw [List.flatMap_cons, received_append, received_deliveryOf, ih, List.filter_cons]
    by_cases hr : r.label = l.label
    · simp [hr]
    · simp [hr]

/-- A listener that is registered receives an event that is dispatched once. -/
theorem received_dispatch (hr : l.Records) (ha : n.Attended l) : l.received (n.dispatch e).2.1 = [e] := by
  obtain ⟨changes, fails, hook⟩ := hr e.kind
  have hdelivery : Notifier.deliveryOf e l = [⟨l.label, e⟩] := by
    rw [Notifier.deliveryOf, hook]
  rw [Notifier.dispatch_deliveries, received_flatMap, ha, List.flatMap_singleton, hdelivery]
  rfl

/-- What an operation announces is received. -/
theorem received_dispatchAll (hr : l.Records) (ha : n.Attended l) {events : List Event}
    (hs : events.length ≤ 1) : l.received (Notifier.dispatchAll events n).2.1 = events := by
  cases events with
  | nil => rfl
  | cons e rest =>
    have hrest : rest = [] := by
      rw [List.length_cons] at hs
      exact List.eq_nil_of_length_eq_zero (by omega)
    subst hrest
    have hone : (Notifier.dispatchAll [e] n).2.1 = (n.dispatch e).2.1 := by
      show (n.dispatch e).2.1 ++ [] = _
      rw [List.append_nil]
    rw [hone, received_dispatch hr ha]

end Listener

/-! ## Runs of a service -/

namespace Service

/-- Run operations one after the other. -/
def runAll (os : List Operation) (v : Service) : Service :=
  os.foldl (fun v o => (v.run (perform o)).2) v

/-- The contents of the files of a service. -/
def files (R : Place) (v : Service) : Files :=
  fun f => v.store.disk.contentAt (v.store.config.placeOf R f)

theorem run_deliveries {α : Type} (x : Step α) (v : Service) : (v.run x).2.deliveries =
    v.deliveries ++ (Notifier.dispatchAll (Step.outcome x v.store).2.events v.notifier).2.1 := rfl

/-- A recording listener receives what an operation announces. -/
theorem received_run {α : Type} {v : Service} {l : Listener} {x : Step α} (hr : l.Records)
    (ha : v.notifier.Attended l) (hs : (Step.outcome x v.store).2.events.length ≤ 1) :
    l.received (v.run x).2.deliveries =
      l.received v.deliveries ++ (Step.outcome x v.store).2.events := by
  rw [run_deliveries, Listener.received_append, Listener.received_dispatchAll hr ha hs]

theorem runAll_nil (v : Service) : v.runAll [] = v := rfl

theorem runAll_cons (o : Operation) (os : List Operation) (v : Service) :
    v.runAll (o :: os) = (v.run (perform o)).2.runAll os := rfl

theorem runAll_append (os : List Operation) (o : Operation) (v : Service) :
    v.runAll (os ++ [o]) = ((v.runAll os).run (perform o)).2 := by
  rw [runAll, List.foldl_append]
  rfl

section Run

variable {c : StoreConfig} {R : Place} {A : Shelves} {v : Service} {l : Listener}

/-- A service whose store keeps shelves and has nothing left to dispatch. -/
structure Keeps (c : StoreConfig) (R : Place) (A : Shelves) (v : Service) : Prop where
  store : v.store.Keeps c R .taut A []
  idle : v.store.staleAcquires = 0

theorem Keeps.files_eq (hk : v.Keeps c R A) : v.files R = A.files := by
  funext f
  rw [files, hk.store.config]
  exact hk.store.disk.contentAt_eq f

/-- An operation of a service leaves the shelves that it leaves by itself. -/
theorem Keeps.run (hk : v.Keeps c R A) (o : Operation) :
    (v.run (perform o)).2.Keeps c R (A.perform c o).2.1 := by
  obtain ⟨⟨-, hkeeps, -⟩, hpending⟩ := perform_undisturbed hk.store hk.idle o
  exact ⟨⟨hkeeps.config, hkeeps.regular, hkeeps.ddl, rfl, hkeeps.disk, hkeeps.handles⟩, hpending⟩

/-- What an operation announces is what it announces on shelves. -/
theorem Keeps.received (hk : v.Keeps c R A) (hr : l.Records) (ha : v.notifier.Attended l)
    {o : Operation} (hs : (A.perform c o).2.2.length ≤ 1) :
    l.received (v.run (perform o)).2.deliveries =
      l.received v.deliveries ++ (A.perform c o).2.2 := by
  obtain ⟨⟨-, hkeeps, -⟩, -⟩ := perform_undisturbed hk.store hk.idle o
  have hevents : (Step.outcome (perform o) v.store).2.events = (A.perform c o).2.2 := hkeeps.events
  rw [received_run hr ha (by rwa [hevents]), hevents]

/-- A service whose store is new keeps shelves after every run. -/
theorem runAll_keeps (hv : v.store.Vacant c R) (os : List Operation) :
    ∃ A, (v.runAll os).Keeps c R A := by
  induction os using List.reverseRecOn with
  | nil => exact ⟨_, hv.keeps _, hv.pending⟩
  | append_singleton os o ih =>
    obtain ⟨A, hA⟩ := ih
    rw [runAll_append]
    exact ⟨_, hA.run o⟩

/-- What an operation lets a listener receive is about something real, and it turns the sizes before the
operation into those after it unless the operation is a slip; a slip lets it receive nothing. -/
theorem Keeps.received_real (hk : v.Keeps c R A) (hr : l.Records) (ha : v.notifier.Attended l)
    (o : Operation) : ∃ new,
      l.received (v.run (perform o)).2.deliveries = l.received v.deliveries ++ new ∧
      (∀ e ∈ new, e.IsReal (v.files R) ((v.run (perform o)).2.files R)) ∧
      (¬ o.Slip c (v.files R) →
        new.foldl Event.apply (v.files R).sizes = ((v.run (perform o)).2.files R).sizes) ∧
      (o.Slip c (v.files R) →
        new = [] ∧ ((v.run (perform o)).2.files R).sizes ≠ (v.files R).sizes) := by
  rw [hk.files_eq, (hk.run o).files_eq]
  by_cases hs : o.Slip c A.files
  · obtain ⟨hevents, hsizes⟩ := perform_slip hs
    refine ⟨[], ?_, ?_, fun hn => absurd hs hn, fun _ => ⟨rfl, hsizes⟩⟩
    · rw [hk.received hr ha (by rw [hevents]; exact Nat.zero_le _), hevents]
    · intro e he
      cases he
  · have hchronicled := perform_chronicled hs
    exact ⟨_, hk.received hr ha hchronicled.short, hchronicled.real, fun _ => hchronicled.books,
      fun h => absurd h hs⟩

/-- The books that a listener keeps on the sizes of tiles. -/
def books (l : Listener) (v : Service) : Sizes :=
  (l.received v.deliveries).foldl Event.apply (fun _ _ => none)

/-- The books of a listener agree with the files after every operation of a run if and only if no
operation of the run is a slip.  Whatever is received is about something that really happened, and the
files never have two rows for one tile. -/
theorem books_iff {os : List Operation} (hv : v.store.Vacant c R) (hd : v.deliveries = [])
    (hr : l.Records) (ha : ∀ p, p <+: os → (v.runAll p).notifier.Attended l) :
    ((∀ p, p <+: os → (v.runAll p).books l = ((v.runAll p).files R).sizes) ↔
        ∀ p o, p ++ [o] <+: os → ¬ o.Slip c ((v.runAll p).files R)) ∧
      (∀ p o, p ++ [o] <+: os → ∃ new,
        l.received (v.runAll (p ++ [o])).deliveries = l.received (v.runAll p).deliveries ++ new ∧
          ∀ e ∈ new, e.IsReal ((v.runAll p).files R) ((v.runAll (p ++ [o])).files R)) ∧
      ∀ p f x, p <+: os → (v.runAll p).files R f = some x → x.IsMap := by
  have hearlier : ∀ {p : List Operation} {o : Operation}, p ++ [o] <+: os → p <+: os :=
    fun hp => (List.prefix_append _ _).trans hp
  refine ⟨⟨?_, ?_⟩, ?_, ?_⟩
  · intro hbooks p o hp hslip
    obtain ⟨A, hA⟩ := runAll_keeps hv p
    obtain ⟨new, hnew, -, -, hquiet⟩ := hA.received_real hr (ha p (hearlier hp)) o
    obtain ⟨hempty, hsizes⟩ := hquiet hslip
    have hafter := hbooks _ hp
    rw [runAll_append, books, hnew, hempty, List.append_nil] at hafter
    exact hsizes (hafter.symm.trans (hbooks p (hearlier hp)))
  · intro hslips p
    induction p using List.reverseRecOn with
    | nil =>
      intro _
      have hfiles := Keeps.files_eq (⟨hv.keeps _, hv.pending⟩ : v.Keeps c R (fun _ => none))
      show (v.books l) = (v.files R).sizes
      rw [books, hd, hfiles]
      rfl
    | append_singleton p o ih =>
      intro hp
      obtain ⟨A, hA⟩ := runAll_keeps hv p
      obtain ⟨new, hnew, -, hfold, -⟩ := hA.received_real hr (ha p (hearlier hp)) o
      have hbefore : (l.received (v.runAll p).deliveries).foldl Event.apply (fun _ _ => none) = _ :=
        ih (hearlier hp)
      rw [runAll_append, books, hnew, List.foldl_append, hbefore]
      exact hfold (hslips p o hp)
  · intro p o hp
    obtain ⟨A, hA⟩ := runAll_keeps hv p
    obtain ⟨new, hnew, hreal, -, -⟩ := hA.received_real hr (ha p (hearlier hp)) o
    rw [runAll_append]
    exact ⟨new, hnew, hreal⟩
  · intro p f x _ hx
    obtain ⟨A, hA⟩ := runAll_keeps hv p
    rw [hA.files_eq] at hx
    exact A.files_isMap hx

end Run

/-! ## A run with a slip -/

/-- A listener that records every event and does nothing else. -/
def recorder : Listener := ⟨0, "recorder", none, fun _ => .callable true [] false⟩

/-- A new store with a listener. -/
def attendedStore : Service := ⟨emptyStore, ⟨[recorder], []⟩, []⟩

/-- A listener that changes nothing stays registered. -/
theorem dispatchAll_recorder (events : List Event) :
    (Notifier.dispatchAll events ⟨[recorder], []⟩).1 = ⟨[recorder], []⟩ := by
  induction events with
  | nil => rfl
  | cons e rest ih =>
    show (Notifier.dispatchAll rest (Notifier.dispatch ⟨[recorder], []⟩ e).1).1 = _
    have hone : (Notifier.dispatch ⟨[recorder], []⟩ e).1 = ⟨[recorder], []⟩ := rfl
    rw [hone, ih]

theorem runAll_recorder (os : List Operation) :
    (attendedStore.runAll os).notifier = ⟨[recorder], []⟩ := by
  induction os using List.reverseRecOn with
  | nil => rfl
  | append_singleton os o ih =>
    rw [runAll_append]
    show (Notifier.dispatchAll _ (attendedStore.runAll os).notifier).1 = _
    rw [ih, dispatchAll_recorder]

/-- A layer with a tile gets a name whose journal does not fit into the directory. -/
def crampingRun : List Operation :=
  [.putTile ⟨"roads", "g", "png", ⟨0, 0, 0⟩⟩ ⟨#[0]⟩, .renameLayer "roads" crampedName]

theorem crampingRun_sizes : ∃ A : Shelves,
    (attendedStore.runAll crampingRun).Keeps emptyStore.config ["layers"] A ∧
      A.files.sizes (safe crampedName) ⟨"g", 0, 0, 0, "png"⟩ ≠ none := by
  have hnew : attendedStore.Keeps emptyStore.config ["layers"] (fun _ => none) :=
    ⟨emptyStore_vacant.keeps _, rfl⟩
  rw [crampingRun, runAll_cons, runAll_cons, runAll_nil]
  refine ⟨_, (hnew.run (.putTile ⟨"roads", "g", "png", ⟨0, 0, 0⟩⟩ ⟨#[0]⟩)).run
    (.renameLayer "roads" crampedName), ?_⟩
  let B := (Shelves.perform emptyStore.config (.putTile ⟨"roads", "g", "png", ⟨0, 0, 0⟩⟩ ⟨#[0]⟩)
    (fun _ => none)).2.1
  have hsource : B (safe "roads") =
      some (.full (Holding.empty.putTile ⟨"g", 0, 0, 0, "png"⟩ ⟨#[0]⟩)) := by decide +kernel
  have hne : safe "roads" ≠ safe crampedName := by
    rw [safe_crampedName]
    decide +kernel
  have htarget : B (safe crampedName) = none := by
    rw [safe_crampedName]
    decide +kernel
  have hsizes := (renameLayer_sizes (c := emptyStore.config) (by decide) crampedName_ne_empty hne
    (by rw [room_crampedName]; decide) htarget (by decide +kernel)
    (Option.ne_none_iff_exists'.2 ⟨_, hsource⟩)).trans
    (Shelves.sizes_full hsource)
  have hperform : B.perform emptyStore.config (.renameLayer "roads" crampedName) =
      B.renameLayer emptyStore.config "roads" crampedName := rfl
  rw [hperform, hsizes]
  decide +kernel

/-- The layer with a cramped name is removed. -/
def slippedRun : List Operation := crampingRun ++ [.deleteLayer crampedName]

/-- The books are wrong at some point of the run with a slip. -/
theorem slippedRun_books : attendedStore.store.Vacant emptyStore.config ["layers"] ∧
    attendedStore.deliveries = [] ∧ recorder.Records ∧
    (∀ p, p <+: slippedRun → (attendedStore.runAll p).notifier.Attended recorder) ∧
    ¬ ∀ p, p <+: slippedRun →
      (attendedStore.runAll p).books recorder = ((attendedStore.runAll p).files ["layers"]).sizes := by
  have hrecords : recorder.Records := fun k => ⟨[], false, rfl⟩
  have hattended : ∀ p, p <+: slippedRun → (attendedStore.runAll p).notifier.Attended recorder := by
    intro p _
    rw [runAll_recorder]
    rfl
  refine ⟨emptyStore_vacant, rfl, hrecords, hattended, ?_⟩
  have hiff := (books_iff (v := attendedStore) emptyStore_vacant rfl hrecords hattended).1
  rw [hiff]
  intro hslips
  obtain ⟨A, hA, hsizes⟩ := crampingRun_sizes
  refine hslips crampingRun (.deleteLayer crampedName) (List.prefix_refl _)
    ⟨crampedName_ne_empty, room_crampedName, ⟨"g", 0, 0, 0, "png"⟩, ?_⟩
  rw [hA.files_eq]
  exact hsizes

end Service

end TileDepot
