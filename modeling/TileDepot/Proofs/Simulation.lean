import TileDepot.Proofs.Layers
import TileDepot.Proofs.Tasks

/-!
# Operations follow the shelves

Whatever a user asks of a store that keeps shelves, the answer is the one that `Shelves.perform` gives,
and the store keeps the shelves that it leaves, with the events that it announces.  This holds for every
operation in every state of the cache, so that a run of operations follows a run on shelves.

* `perform_follows` is about one operation, `perform_undisturbed` about one that no closing by others meets.
* `Vacant` says that a store has been set up over an empty directory, and `Vacant.keeps` that it then
  keeps empty shelves.  `setUp_vacant` says that setting up a store makes it so.
-/

namespace TileDepot.Store

open Layer

section Simulation

variable {c : StoreConfig} {R : Place} {slack : Slack} {A : Shelves} {E : List Event}
  {s : Store}

/-- An operation comes to what the shelves say of it. -/
theorem perform_follows {o : Operation} (hk : s.Keeps c R slack A E)
    (hcl : ∀ t, o.task? = some t → Clear slack A t.layer)
    (hy : ∀ t, o.task? = some t → s.staleAcquires ≠ 0 → s.Yielding t.layer) :
    Follows c R slack E s (A.perform c o) (Step.outcome (perform o) s) := by
  cases ht : o.task? with
  | some t =>
    obtain ⟨hanswer, hkeeps, hspares⟩ := perform_task ht hk (hcl t ht) (hy t ht)
    rw [Shelves.perform_of_task ht]
    exact ⟨hanswer, hkeeps, hspares.pending⟩
  | none =>
    cases Operation.whole_of_task ht with
    | layerExists layer => exact layerExists_run hk
    | deleteLayer layer => exact deleteLayer_run hk
    | renameLayer source target => exact renameLayer_run hk
    | destroy => exact destroy_run hk
    | deleteRange range => exact .quiet rfl hk (Nat.le_refl _)
    | clear => exact .quiet rfl hk (Nat.le_refl _)

/-- Where no closing by others is pending, every operation comes to what the shelves say of it, and none is
pending afterwards. -/
theorem perform_undisturbed (hk : s.Keeps c R .taut A E) (hp : s.staleAcquires = 0) (o : Operation) :
    Follows c R .taut E s (A.perform c o) (Step.outcome (perform o) s) ∧
      (Step.outcome (perform o) s).2.staleAcquires = 0 := by
  have hfollows : Follows c R .taut E s (A.perform c o) (Step.outcome (perform o) s) :=
    perform_follows hk (fun t _ => clear_taut _ _) (fun t _ hne => absurd hp hne)
  refine ⟨hfollows, ?_⟩
  have hpending := hfollows.pending
  rw [hp] at hpending
  exact Nat.le_zero.1 hpending

end Simulation

/-! ## New stores -/

/-- A store that has been set up over an empty directory and not been used. -/
structure Vacant (c : StoreConfig) (R : Place) (s : Store) : Prop where
  config : s.config = c
  regular : c.Regular
  cache : s.cache = []
  ddl : s.ddl = ⟨false, false⟩
  pending : s.staleAcquires = 0
  events : s.events = []
  root : s.disk.LeadsTo c.root R
  bare : ∀ p, R <+: p → p ≠ R → s.disk.node? p = none
  free : ∀ n, s.disk.next ≤ n → s.disk.locksOn n = []
  writable : s.disk.isSealed = false

variable {c : StoreConfig} {R : Place} {s : Store}

theorem Vacant.keeps (h : s.Vacant c R) (slack : Slack) :
    s.Keeps c R slack (fun _ => none) [] where
  config := h.config
  regular := h.regular
  ddl := h.ddl
  events := h.events
  disk :=
    { root := h.root
      known := fun p hp hne hnode => absurd (h.bare p hp hne) hnode
      named := fun f hf => absurd rfl hf
      stored := fun f v hf => by cases hf
      apart := by
        intro f g n hf _
        have hnone := h.bare (c.placeOf R f) (List.prefix_append _ _) (by simp [StoreConfig.placeOf])
        rw [hnone] at hf
        cases hf
      free := h.free
      writable := h.writable }
  handles := by
    intro name id hid
    rw [h.cache] at hid
    cases hid

/-- A directory that is there is made without any change. -/
theorem makeDirectories_there {d : Disk} {root : Path} (h : d.LeadsTo root R) :
    d.makeDirectories root = (none, d) := by
  rw [Disk.makeDirectories]
  cases hn : root.names.reverse with
  | nil => rfl
  | cons n above =>
    have hroot : (⟨root.anchor, (n :: above).reverse⟩ : Path) = root := by
      rw [← hn, List.reverse_reverse]
    have hone : d.makeOne root = .ok d := by
      simp only [Disk.makeOne, h.locate, h.node]
    simp only [Disk.makeChain, hroot, hone]

/-- Setting a store up over a directory that is there writes log records and does nothing else, and it
fails only for want of its driver. -/
theorem setUp_run (driver : String) (hroot : s.disk.LeadsTo s.config.root R)
    (hw : s.disk.isSealed = false) :
    ∃ l, (∃ f, Step.outcome (setUp driver) s = (.error f, { s with log := l })) ∨
      Step.outcome (setUp driver) s = (.ok (), { s with log := l }) := by
  have hmake := makeDirectories_there hroot
  let name := if driver.isEmpty then defaultDriver else driver
  cases hm : missingFrom none (splitDots name.toList) with
  | some reason =>
    refine ⟨s.log, .inl ⟨.store ⟨.driverMissing name reason, none, "configure"⟩, ?_⟩⟩
    simp only [setUp, loadDriver, Step.run_bind]
    rw [hm]
    rfl
  | none =>
    refine ⟨s.log ++ [⟨.debug, .service, "Using SQLite driver " ++ name ++ " (library <sqlite>)"⟩] ++
      [⟨.info, .service, "Configured SQLiteBlobStore with path " ++ s.config.root.toString⟩], .inr ?_⟩
    simp only [setUp, loadDriver, Step.run_bind]
    rw [hm]
    simp only [prepareRoot, Step.run_bind, Step.run_note, Step.run_pure, Step.run_get, hmake,
      Step.run_changeDisk, hw, Bool.false_eq_true, if_false]
    rfl

/-- A store that was set up over an empty directory is vacant. -/
theorem setUp_vacant {c : StoreConfig} {R : Place} {d : Disk} {driver : String} {t : Store}
    (hc : c.Regular) (hroot : d.LeadsTo c.root R) (hbare : ∀ p, R <+: p → p ≠ R → d.node? p = none)
    (hfree : ∀ n, d.next ≤ n → d.locksOn n = []) (hw : d.isSealed = false)
    (hup : Step.outcome (setUp driver) (fresh c d ⟨false, false⟩) = (.ok (), t)) : t.Vacant c R := by
  obtain ⟨l, ⟨f, hrun⟩ | hrun⟩ :=
    setUp_run (s := fresh c d ⟨false, false⟩) (R := R) driver hroot hw
  · rw [hrun] at hup
    cases hup
  · rw [hrun] at hup
    cases hup
    exact ⟨rfl, hc, rfl, rfl, rfl, rfl, hroot, hbare, hfree, hw⟩

/-! ## An empty store -/

/-- A store over an empty directory, as the default settings make it. -/
def emptyStore : Store :=
  fresh ⟨⟨.here, ["layers"]⟩, ".sqlite", true⟩ (Disk.ofDirectory "layers") ⟨false, false⟩

theorem emptyStore_vacant : emptyStore.Vacant emptyStore.config ["layers"] where
  config := rfl
  regular := ⟨by decide, by decide⟩
  cache := rfl
  ddl := rfl
  pending := rfl
  events := rfl
  root := ⟨by decide, by decide⟩
  bare := by
    intro p hp hne
    have hnil : p ≠ [] := by
      rintro rfl
      exact absurd (List.prefix_nil.1 hp) (by decide)
    rw [Disk.node_of_ne_nil _ hnil]
    show Ordered.get? [(["layers"], Node.directory)] p = none
    rw [Ordered.get?, if_neg (Ne.symm hne)]
    rfl
  free := fun _ _ => rfl
  writable := rfl

/-- A name whose file fits into a directory while its journal does not. -/
def crampedName : String := String.ofList (List.replicate 245 'a')

theorem crampedName_ne_empty : crampedName ≠ "" := by decide +kernel

theorem safe_crampedName : safe crampedName = crampedName := by
  have hchars : safeChars (List.replicate 245 'a') = List.replicate 245 'a' := by decide +kernel
  exact (safe_ofList _).trans (congrArg String.ofList hchars)

theorem room_crampedName : emptyStore.config.room (safe crampedName) = .scarce := by
  rw [safe_crampedName]
  decide +kernel

end TileDepot.Store
