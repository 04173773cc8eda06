import Mathlib.Data.List.Induction
import TileDepot.Proofs.Books
import TileDepot.Proofs.Steadiness

/-!
# Stores that forgive failed reads

Of two stores that are alike one forgives failed reads of metadata and the other does not.  They may be in
any state, with any files.  Operations keep them alike, whatever the reads do to files and handles before
they fail, and the answers differ only where a read ends with an error of the store: the forgiving one then
answers that there is nothing.

* `perform_pardoned` is the step, and `runAll_lenient` the statement about runs and what listeners receive.
-/

namespace TileDepot

open Layer Store

namespace Store

/-- An outcome in which an answer takes the place of an error of the store, if there is one to take it. -/
def pardon {α : Type} (absence : Option α) : Except Fault α → Except Fault α
  | .error (.store e) =>
      match absence with
      | some a => .ok a
      | none => .error (.store e)
  | r => r

/-- Two runs of a step of which only the second one forgives end alike, but for the error that is forgiven. -/
structure Pardoned {α : Type} (absence : Option α) (r r' : Except Fault α × Store) : Prop where
  answer : r'.1 = pardon absence r.1
  store : r.2.Alike true r'.2
  strict : r.2.config.forgiving = false

variable {α β : Type} {n o : Prop} {s t : Store}

theorem pardon_none (r : Except Fault α) : pardon none r = r := by
  cases r with
  | ok a => rfl
  | error f => cases f <;> rfl

/-- A steady step has nothing to be forgiven. -/
theorem Pardoned.of_steady {P : Fault → Prop} {x : Step α} (hx : Step.Steady P x)
    (hs : s.config.forgiving = false) (h : s.Alike true t) :
    Pardoned none (Step.outcome x s) (Step.outcome x t) := by
  have hstrict := hx.forgiving_eq (s := s)
  have hrun := hx s true t h
  generalize Step.outcome x s = r at hrun hstrict
  generalize Step.outcome x t = r' at hrun
  cases hrun with
  | ok h => exact ⟨rfl, h, hstrict.trans hs⟩
  | error _ h => exact ⟨(pardon_none _).symm, h, hstrict.trans hs⟩

/-- A failed read is forgiven or not, and leaves the same behind. -/
theorem forgiving_pardoned {x : Step α} {P : Fault → Prop} (hx : Step.Steady P x) (a : α)
    (hs : s.config.forgiving = false) (h : s.Alike true t) :
    Pardoned (some a) (Step.outcome (forgiving a x) s) (Step.outcome (forgiving a x) t) := by
  have hstrict := hx.forgiving_eq (s := s)
  have hrun := hx s true t h
  rw [forgiving, Step.run_tryCatch, Step.run_tryCatch]
  generalize Step.outcome x s = r at hrun hstrict
  generalize Step.outcome x t = r' at hrun
  cases hrun with
  | ok h => exact ⟨rfl, h, hstrict.trans hs⟩
  | @error e u u' _ h =>
    have hu : u.config.forgiving = false := hstrict.trans hs
    obtain ⟨l, rfl⟩ := h
    cases e with
    | store e =>
      have hforgives : (u.retuned true l).config.forgiving = true := rfl
      simp only [Step.run_bind, Step.run_get, hu, hforgives, Bool.not_false, Bool.not_true,
        Bool.false_eq_true, if_true, if_false, Step.run_throw, Step.run_note, Step.run_pure]
      exact ⟨rfl, ⟨_, rfl⟩, hu⟩
    | _ => exact ⟨rfl, ⟨l, rfl⟩, hu⟩

/-- A value that is made of the answer does not change what is forgiven. -/
theorem Pardoned.map {x : Step α} {absence : Option α} (g : α → β)
    (h : Pardoned absence (Step.outcome x s) (Step.outcome x t)) :
    Pardoned (absence.map g) (Step.outcome (x >>= fun a => pure (g a)) s)
      (Step.outcome (x >>= fun a => pure (g a)) t) := by
  obtain ⟨hanswer, hstore, hstrict⟩ := h
  rw [Step.run_bind, Step.run_bind]
  generalize Step.outcome x s = r at hanswer hstore hstrict
  generalize Step.outcome x t = r' at hanswer hstore
  obtain ⟨r, u⟩ := r
  obtain ⟨r', u'⟩ := r'
  simp only at hanswer hstore hstrict
  subst hanswer
  cases r with
  | ok a => exact ⟨rfl, hstore, hstrict⟩
  | error e =>
    cases e with
    | store e => cases absence <;> exact ⟨rfl, hstore, hstrict⟩
    | _ => exact ⟨rfl, hstore, hstrict⟩

/-- An operation ends alike in a store that forgives and in one that does not, but for the error that is
forgiven. -/
theorem perform_pardoned (op : Operation) (hs : s.config.forgiving = false) (h : s.Alike true t) :
    Pardoned op.absence? (Step.outcome (perform op) s) (Step.outcome (perform op) t) := by
  have hmade := perform_made op (n := True) (o := True) (fun _ => trivial) (fun _ _ _ => trivial)
  generalize op.absence? = absence at hmade ⊢
  generalize perform op = x at hmade ⊢
  cases hmade with
  | steady hx => exact .of_steady hx hs h
  | read hx nothing g => exact (forgiving_pardoned hx nothing hs h).map g

end Store

/-! ## Runs -/

namespace Service

/-- A service whose store forgives failed reads, or does not. -/
def tuned (b : Bool) (v : Service) : Service :=
  { v with store := { v.store with config := { v.store.config with forgiving := b } } }

/-- Two services of which only the second one forgives differ in nothing else but their logs. -/
structure Lenient (v w : Service) : Prop where
  strict : v.store.config.forgiving = false
  store : v.store.Alike true w.store
  notifier : w.notifier = v.notifier
  deliveries : w.deliveries = v.deliveries

variable {v w : Service}

theorem lenient_tuned (v : Service) : Lenient (v.tuned false) (v.tuned true) :=
  ⟨rfl, ⟨v.store.log, rfl⟩, rfl, rfl⟩

/-- An operation is answered alike by both services, but for an error that is forgiven. -/
theorem Lenient.answer (h : Lenient v w) (o : Operation) :
    (w.run (perform o)).1 = pardon o.absence? (v.run (perform o)).1 :=
  (perform_pardoned o h.strict h.store).answer

/-- An operation keeps the services alike, and so does the dispatch of what it announced. -/
theorem Lenient.run (h : Lenient v w) (o : Operation) :
    Lenient (v.run (perform o)).2 (w.run (perform o)).2 := by
  obtain ⟨-, ⟨l, hstore⟩, hstrict⟩ := perform_pardoned o h.strict h.store
  have hevents : (Step.outcome (perform o) w.store).2.events =
      (Step.outcome (perform o) v.store).2.events := by
    rw [hstore]
    rfl
  have hdispatch : Notifier.dispatchAll (Step.outcome (perform o) w.store).2.events w.notifier =
      Notifier.dispatchAll (Step.outcome (perform o) v.store).2.events v.notifier := by
    rw [hevents, h.notifier]
  refine ⟨hstrict, ⟨(w.run (perform o)).2.store.log, ?_⟩, ?_, ?_⟩
  · show ({ (Step.outcome (perform o) w.store).2 with
      events := [], log := (w.run (perform o)).2.store.log } : Store) = _
    rw [hstore]
    rfl
  · exact congrArg Prod.fst hdispatch
  · rw [run_deliveries, run_deliveries, h.deliveries, hdispatch]

/-- Operations keep the services alike. -/
theorem Lenient.runAll (h : Lenient v w) (os : List Operation) :
    Lenient (v.runAll os) (w.runAll os) := by
  induction os using List.reverseRecOn with
  | nil => exact h
  | append_singleton os o ih =>
    rw [runAll_append, runAll_append]
    exact ih.run o

/-- Whether a store forgives failed reads of metadata does not matter for its files, its cached layers and
what its listeners receive, whatever state it starts in and whatever is asked of it.  Nor does it matter
for an answer, unless a read of metadata ends with an error of the store; then there is nothing to read. -/
theorem runAll_lenient (v : Service) (os : List Operation) :
    let strict := (v.tuned false).runAll os
    let lenient := (v.tuned true).runAll os
    lenient.store.disk = strict.store.disk ∧
      lenient.store.cachedLayers = strict.store.cachedLayers ∧
      lenient.deliveries = strict.deliveries ∧
      ∀ o : Operation,
        (lenient.run (perform o)).1 = pardon o.absence? (strict.run (perform o)).1 := by
  have hrun := (lenient_tuned v).runAll os
  obtain ⟨l, hstore⟩ := hrun.store
  refine ⟨?_, ?_, hrun.deliveries, hrun.answer⟩
  · rw [hstore]
    rfl
  · rw [hstore]
    rfl

/-- A new store whose tables cannot be made. -/
def brittleStore : Service := ⟨{ emptyStore with ddl := ⟨true, true⟩ }, .empty, []⟩

example : ((brittleStore.tuned true).run (perform (.getMetadata "roads" "title"))).1 = .ok (.value none) ∧
    ((brittleStore.tuned false).run (perform (.getMetadata "roads" "title"))).1 ≠ .ok (.value none) := by
  decide +kernel

end Service

end TileDepot
