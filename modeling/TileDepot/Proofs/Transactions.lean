import TileDepot.Proofs.Keeping

/-!
# Statements and transactions of a handle

What a statement comes to is decided by `consult` from the disk and the handle alone.  `exec_run` says
how its verdict is carried out in any store: the disk and the handle are replaced, and what the
statement made of the database is kept.  Without a transaction it is written at once; within one it
stays with the handle, so that giving the transaction up forgets it.

* `keep_idle` and `keep_pending` are the two ways of keeping.
* `transact_failed` and `transact_done` say how a transaction ends.
-/

namespace TileDepot.Store

variable {α : Type} {s : Store} {id : HandleId} {h : Handle}

/-! ## Exchanging a handle -/

/-- The store with another handle in the place of one. -/
def setHandle (s : Store) (id : HandleId) (h : Handle) : Store :=
  { s with issued := s.issued.modify id (fun _ => h) }

/-- A change of one handle depends on what it makes of that handle alone. -/
theorem modify_congr {f g : Handle → Handle} (hfg : ∀ h, s.handle? id = some h → f h = g h) :
    s.issued.modify id f = s.issued.modify id g := by
  apply List.ext_getElem?
  intro i
  rw [List.getElem?_modify, List.getElem?_modify]
  by_cases hi : id = i
  · subst hi
    cases hget : s.issued[id]? with
    | none => rfl
    | some h =>
      simp only [if_true]
      exact congrArg some (hfg h hget)
  · simp only [if_neg hi]

theorem modify_of_handle (hh : s.handle? id = some h) (f : Handle → Handle) :
    ({ s with issued := s.issued.modify id f } : Store) = s.setHandle id (f h) := by
  rw [setHandle, modify_congr (g := fun _ => f h)]
  intro h' hh'
  rw [hh, Option.some.injEq] at hh'
  rw [hh']

theorem handle_setHandle (hh : s.handle? id = some h) (k : Handle) :
    (s.setHandle id k).handle? id = some k := by
  have hself := handle_modify s id (fun _ => k) id
  rw [if_pos rfl, hh] at hself
  exact hself

theorem setHandle_setHandle (k k' : Handle) :
    (s.setHandle id k).setHandle id k' = s.setHandle id k' := by
  simp only [setHandle, List.modify_modify_eq]
  rfl

theorem setHandle_same (hh : s.handle? id = some h) : s.setHandle id h = s := by
  have hset := modify_of_handle hh (fun x => x)
  have hissued : s.issued.modify id (fun x => x) = s.issued := List.modify_id id s.issued
  rw [← hset, hissued]

theorem changeHandle_run (hh : s.handle? id = some h) (f : Handle → Handle) :
    Step.outcome (Step.changeHandle id f) s = (.ok (), s.setHandle id (f h)) := by
  rw [Step.run_changeHandle, modify_of_handle hh]

/-! ## Keeping what a statement made -/

/-- Without a transaction, what a statement made of the database is written at once. -/
theorem keep_idle (hh : s.handle? id = some h) (hx : h.transaction = .idle) (after : Database) :
    Step.outcome (keep id after) s =
      (.ok (), ({ s with disk := commit s.disk h.place h.file after } : Store).setHandle id
        { h with schema := after.schema }) := by
  have hh' : ({ s with disk := commit s.disk h.place h.file after } : Store).handle? id = some h := hh
  simp only [keep, Step.run_bind, Step.run_get, hh, hx, Step.run_changeDisk, changeHandle_run hh']

/-- In a transaction, what a statement made of the database stays with the handle. -/
theorem keep_pending (hh : s.handle? id = some h) (hx : h.transaction ≠ .idle) (after : Database) :
    Step.outcome (keep id after) s =
      (.ok (), s.setHandle id { h with transaction := .changed after }) := by
  cases ht : h.transaction with
  | idle => exact absurd ht hx
  | begun | changed db =>
    simp only [keep, Step.run_bind, Step.run_get, hh, ht, changeHandle_run hh]

/-! ## Running a statement -/

/-- A statement that is refused leaves what `consult` leaves. -/
theorem exec_refused_run {st : Statement α} {f : DbFault} {d : Disk} {k : Handle}
    (hh : s.handle? id = some h) (hc : consult s.disk h st = (.error f, d, k)) :
    Step.outcome (exec id st) s = (.error (.db f), ({ s with disk := d } : Store).setHandle id k) := by
  have hh' : ({ s with disk := d } : Store).handle? id = some h := hh
  simp only [exec, Step.run_bind, Step.run_get, hh, hc, Step.run_changeDisk, changeHandle_run hh',
    Step.run_ofDb_error]

/-- A statement that leaves the database as it is. -/
theorem exec_quiet_run {st : Statement α} {a : α} {d : Disk} {k : Handle}
    (hh : s.handle? id = some h) (hc : consult s.disk h st = (.ok ⟨a, none⟩, d, k)) :
    Step.outcome (exec id st) s = (.ok a, ({ s with disk := d } : Store).setHandle id k) := by
  have hh' : ({ s with disk := d } : Store).handle? id = some h := hh
  simp only [exec, Step.run_bind, Step.run_get, hh, hc, Step.run_changeDisk, changeHandle_run hh',
    Step.run_ofDb_ok, Step.run_pure]

/-- A statement that changes the database keeps what it made of it. -/
theorem exec_changed_run {st : Statement α} {a : α} {after : Database} {d : Disk} {k : Handle}
    (hh : s.handle? id = some h) (hc : consult s.disk h st = (.ok ⟨a, some after⟩, d, k)) :
    Step.outcome (exec id st) s = Step.outcome (do
      keep id after
      return a) (({ s with disk := d } : Store).setHandle id k) := by
  have hh' : ({ s with disk := d } : Store).handle? id = some h := hh
  simp only [exec, Step.run_bind, Step.run_get, hh, hc, Step.run_changeDisk, changeHandle_run hh',
    Step.run_ofDb_ok]

/-! ## Ending a transaction -/

section Transact

variable {body : Step α} {t : Store}

theorem rollback_run (hh : s.handle? id = some h) : Step.outcome (rollback id) s =
    (.ok (), s.setHandle id { h with transaction := .idle }) :=
  changeHandle_run hh _

/-- Work that fails gives its transaction up. -/
theorem transact_failed {f : Fault} (hb : Step.outcome body s = (.error f, t))
    (hh : t.handle? id = some h) : Step.outcome (transact id body) s =
      (.error f, t.setHandle id { h with transaction := .idle }) := by
  simp only [transact, Step.run_bind, Step.run_tryCatch, hb, rollback_run hh, Step.run_throw]

/-- Work that succeeds ends its transaction and keeps what it changed. -/
theorem transact_done {a : α} (hb : Step.outcome body s = (.ok a, t)) (hh : t.handle? id = some h) :
    Step.outcome (transact id body) s =
      match h.transaction with
      | .idle | .begun => (.ok a, t.setHandle id { h with transaction := .idle })
      | .changed after =>
          (.ok a, ({ t with disk := commit t.disk h.place h.file after } : Store).setHandle id
            { h with transaction := .idle, schema := after.schema }) := by
  simp only [transact, commitChanges, Step.run_bind, Step.run_tryCatch, hb, Step.run_get, hh,
    rollback_run hh]
  cases ht : h.transaction with
  | idle | begun => simp only [Step.run_pure]
  | changed after =>
    have hh' : (t.setHandle id { h with transaction := .idle }).handle? id =
        some { h with transaction := .idle } := handle_setHandle hh _
    simp only [keep_idle hh' rfl, Step.run_pure]
    exact congrArg (Prod.mk _) (setHandle_setHandle
      (s := { t with disk := commit t.disk h.place h.file after }) _ _)

end Transact

end TileDepot.Store
