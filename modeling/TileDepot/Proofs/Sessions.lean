import TileDepot.Proofs.Acquiring
import TileDepot.Proofs.Transactions

/-!
# Statements in a session

A session works on one layer through one handle, which `Works` describes: the handle leads to the file
of the layer, and the layer's shelf has a holding.  `Engages` describes the same store in the middle of a
transaction.  A statement meets the database of the holding, and what it makes of it stays with the
handle, provided that there is room to write; on the shelf it is when the transaction is committed.

* `exec_refused`, `exec_read`, `exec_written` and `exec_cramped` say what a statement comes to whose
  numbers cannot be bound, which leaves the database as it is, which changes it, and which finds no room
  for the change.
* `Engages.failed`, `Engages.done` and `Engages.written` say what a transaction comes to that fails, that
  changes nothing, and that changes what the layer holds.
-/

namespace TileDepot.Store

open Layer

/-- A store in the middle of work on a layer, by a handle: what it keeps, the layer's holding, and the
store in which the work began. -/
structure Works (c : StoreConfig) (R : Place) (slack : Slack) (E : List Event) (s : Store)
    (m : String) (id : HandleId) (A : Shelves) (H : Holding) (u : Store) : Prop where
  keeps : u.Keeps c R slack A E
  shelf : A (safe m) = some (.full H)
  spares : s.Spares m u
  leads : ∃ h, u.handle? id = some h ∧ h.Leads c R u.disk m

section Sessions

variable {c : StoreConfig} {R : Place} {slack : Slack} {A : Shelves} {E : List Event}
  {s u : Store} {m : String} {id : HandleId} {H : Holding} {α : Type}

/-! ## Changes of the store during the work -/

/-- The handle that works on a layer is cached for no other. -/
theorem Works.other (hw : Works c R slack E s m id A H u) {name : String} {id' : HandleId}
    (hn : name ≠ m) (hid : u.cache.get? name = some id') : id ≠ id' := by
  rintro rfl
  obtain ⟨h, hh, hl⟩ := hw.leads
  obtain ⟨h', hh', hs⟩ := hw.keeps.handles name id hid
  rw [hh, Option.some.injEq] at hh'
  subst hh'
  exact hn (hs.fits.layer.symm.trans hl.fits.layer)

/-- The working handle may learn what it has prepared. -/
theorem Works.tune (hw : Works c R slack E s m id A H u) {h : Handle} (hh : u.handle? id = some h)
    (f : Handle → Handle) {p : Ordered Form Bool} (hf : f h = { h with prepared := p }) :
    Works c R slack E s m id A H { u with issued := u.issued.modify id f } ∧
      ({ u with issued := u.issued.modify id f } : Store).handle? id =
        some { h with prepared := p } := by
  have hworn : u.Worn { u with issued := u.issued.modify id f } := by
    apply Worn.modify
    intro h' hh'
    rw [hh, Option.some.injEq] at hh'
    subst hh'
    rw [hf]
    exact ⟨rfl, rfl, rfl, rfl, rfl, rfl, fun e => ⟨e.opened, e.joined⟩⟩
  have hself : ({ u with issued := u.issued.modify id f } : Store).handle? id =
      some { h with prepared := p } := by
    rw [handle_modify, if_pos rfl, hh, Option.map_some, hf]
  obtain ⟨h', hh', hl⟩ := hw.leads
  rw [hh, Option.some.injEq] at hh'
  subst hh'
  refine ⟨⟨hw.keeps.weaken hworn, hw.shelf, ?_, _, hself, ?_⟩, hself⟩
  · refine hw.spares.trans ⟨Nat.le_refl _, Nat.le_refl _, fun _ _ e => .inl e, ?_⟩
    intro name id' hn hid
    have hother := handle_modify u id f id'
    rw [if_neg (hw.other hn hid)] at hother
    exact ⟨hid, hother⟩
  · obtain ⟨hfits, hlive, hfile⟩ := hl
    exact ⟨⟨hfits.layer, hfits.named, hfits.room, hfits.path, hfits.place, hfits.schema,
      hfits.idle⟩,
      ⟨hlive.opened, hlive.joined⟩, hfile⟩

/-- The file of the layer may be written. -/
theorem Works.write (hw : Works c R slack E s m id A H u) {h : Handle} (hh : u.handle? id = some h)
    (H' : Holding) : Works c R slack E s m id (Function.update A (safe m) (some (.full H'))) H'
      { u with disk := commit u.disk (c.placeOf R (safe m)) h.file H'.database } := by
  obtain ⟨h', hh', hl⟩ := hw.leads
  rw [hh, Option.some.injEq] at hh'
  subst hh'
  have hne : A (safe m) ≠ none := by
    rw [hw.shelf]
    exact Option.some_ne_none _
  obtain ⟨hk, hs, hsame⟩ := hw.keeps.write (m := m) H' hne hl.file rfl
  exact ⟨hk, Function.update_self .., hw.spares.trans hs, h, hh, hl.fits, hl.live,
    (hsame _).trans hl.file⟩

/-! ## Transactions -/

/-- A store in the middle of a transaction: but for the transaction of its handle, it is one in the
middle of work on a layer. -/
def Engages (c : StoreConfig) (R : Place) (slack : Slack) (E : List Event) (s : Store)
    (m : String) (id : HandleId) (A : Shelves) (H : Holding) (x : Transaction) (v : Store) : Prop :=
  ∃ u h, Works c R slack E s m id A H u ∧ u.handle? id = some h ∧
    v = u.setHandle id { h with transaction := x }

theorem Works.idle (hw : Works c R slack E s m id A H u) {h : Handle} (hh : u.handle? id = some h) :
    { h with transaction := .idle } = h := by
  obtain ⟨h', hh', hl⟩ := hw.leads
  rw [hh, Option.some.injEq] at hh'
  rw [hh', ← hl.fits.idle]

theorem Works.engages (hw : Works c R slack E s m id A H u) :
    Engages c R slack E s m id A H .idle u := by
  obtain ⟨h, hh, -⟩ := hw.leads
  refine ⟨u, h, hw, hh, ?_⟩
  rw [hw.idle hh, setHandle_same hh]

section Engages

variable {v v' : Store} {x : Transaction} {body : Step α}

/-- Without its transaction, a store is in the middle of work on a layer. -/
theorem Engages.reset (hw : Engages c R slack E s m id A H x v) :
    ∃ k, v.handle? id = some k ∧ k.transaction = x ∧
      Works c R slack E s m id A H (v.setHandle id { k with transaction := .idle }) := by
  obtain ⟨u, h, hw, hh, rfl⟩ := hw
  refine ⟨_, handle_setHandle hh _, rfl, ?_⟩
  rw [setHandle_setHandle]
  show Works c R slack E s m id A H (u.setHandle id { h with transaction := .idle })
  rw [hw.idle hh, setHandle_same hh]
  exact hw

theorem Engages.works (hw : Engages c R slack E s m id A H .idle v) :
    Works c R slack E s m id A H v := by
  obtain ⟨u, h, hw, hh, rfl⟩ := hw
  rw [hw.idle hh, setHandle_same hh]
  exact hw

/-- A transaction whose work fails leaves nothing behind. -/
theorem Engages.failed {f : Fault} (hw : Engages c R slack E s m id A H x v')
    (hb : Step.outcome body v = (.error f, v')) :
    ∃ w, Step.outcome (transact id body) v = (.error f, w) ∧ Works c R slack E s m id A H w := by
  obtain ⟨k, hk, -, hw'⟩ := hw.reset
  exact ⟨_, transact_failed hb hk, hw'⟩

/-- A transaction that changes nothing. -/
theorem Engages.done {a : α} (hw : Engages c R slack E s m id A H x v')
    (hx : ∀ db, x ≠ .changed db) (hb : Step.outcome body v = (.ok a, v')) :
    ∃ w, Step.outcome (transact id body) v = (.ok a, w) ∧ Works c R slack E s m id A H w := by
  obtain ⟨k, hk, hkx, hw'⟩ := hw.reset
  refine ⟨_, ?_, hw'⟩
  rw [transact_done hb hk, hkx]
  cases x with
  | idle | begun => rfl
  | changed db => exact absurd rfl (hx db)

/-- A transaction that changes what the layer holds. -/
theorem Engages.written {a : α} {H' : Holding}
    (hw : Engages c R slack E s m id A H (.changed H'.database) v')
    (hb : Step.outcome body v = (.ok a, v')) :
    ∃ w, Step.outcome (transact id body) v = (.ok a, w) ∧
      Works c R slack E s m id (Function.update A (safe m) (some (.full H'))) H' w := by
  obtain ⟨u, h, hw, hh, rfl⟩ := hw
  obtain ⟨h', hh', hl⟩ := hw.leads
  rw [hh, Option.some.injEq] at hh'
  subst hh'
  refine ⟨_, transact_done hb (handle_setHandle hh _), ?_⟩
  have hw' := hw.write hh H'
  rw [← setHandle_same (s := { u with disk := commit u.disk (c.placeOf R (safe m)) h.file H'.database }) hh]
    at hw'
  -- The handle is as before, since no statement on a holding changes the columns.
  have hhandle : { h with transaction := .idle, schema := H'.database.schema } = h := by
    rw [Holding.database_schema, ← hl.fits.schema]
    exact hw.idle hh
  have hplace : commit (u.setHandle id { h with transaction := .changed H'.database }).disk h.place
      h.file H'.database = commit u.disk (c.placeOf R (safe m)) h.file H'.database := by
    rw [← hl.fits.place]
    rfl
  show Works c R slack E s m id _ H' (setHandle _ id { h with
    transaction := .idle, schema := H'.database.schema })
  rw [hhandle, hplace]
  exact (setHandle_setHandle (s := { u with
    disk := commit u.disk (c.placeOf R (safe m)) h.file H'.database }) _ h).symm ▸ hw'

end Engages

/-! ## Running a statement -/

theorem shape_full (t : TableName) : Database.empty.schema.shape? t = some .full := by
  cases t <;> rfl

/-- The transaction of a handle once a statement of a form has been prepared. -/
def begunBy (form : Form) (x : Transaction) : Transaction := if form.changesRows then x.started else x

theorem begunBy_ne {form : Form} {x : Transaction} (hx : ∀ db, x ≠ .changed db) (db : Database) :
    begunBy form x ≠ .changed db := by
  rw [begunBy]
  split
  · cases x with
    | idle => exact nofun
    | begun => exact nofun
    | changed db' => exact absurd rfl (hx db')
  · exact hx db

/-- Nothing but a lack of room for the journal keeps the file of the layer from being written. -/
theorem writeObstacle_eq (hw : Works c R slack E s m id A H u) {h : Handle}
    (hl : h.Leads c R u.disk m) :
    writeObstacle u.disk h.place h.file (contentOf u.disk h.file).isEmpty =
      if c.room (safe m) = .ample then .ok () else .error .cannotOpen := by
  obtain ⟨n, hn, -, -, hcontent⟩ := hw.keeps.disk.stored _ _ hw.shelf
  rw [hl.file, Option.some.injEq, Node.file.injEq] at hn
  rw [← hn] at hcontent
  have hnumber : u.disk.number? (c.placeOf R (safe m)) = some h.file := by
    rw [Disk.number?, hl.file]
  have hblocks := hw.keeps.disk.blocksSidecar_eq hw.keeps.regular (f := safe m)
    (show "-journal" ∈ sidecarSuffixes by decide)
  have hempty : (contentOf u.disk h.file).isEmpty = false := by
    rw [hcontent]
    rfl
  rw [hempty, hl.fits.place, writeObstacle, hnumber, StoreConfig.journalFits_eq, hblocks]
  by_cases hr : c.room (safe m) = .ample
  · simp [hr]
  · simp [hr]

/-- What a statement makes of the database of a holding, which it must have room to write. -/
theorem runOn_eq (hw : Works c R slack E s m id A H u) {h : Handle} (hl : h.Leads c R u.disk m)
    {st : Statement α} (hst : st.check .full = .ok ()) {a : α} {w : Option Holding}
    (hrun : st.run H.database = .ok ⟨a, w.map Holding.database⟩) :
    runOn u.disk h H.database st =
      if w = none ∨ c.room (safe m) = .ample then .ok ⟨a, w.map Holding.database⟩
      else .error .cannotOpen := by
  have hshape : H.database.schema.shape? st.table = some .full := shape_full st.table
  have hobstacle := writeObstacle_eq hw hl
  cases w with
  | none =>
    rw [if_pos (.inl rfl)]
    simp only [runOn, hshape, hst, hrun, Option.map_none]
    rfl
  | some H' =>
    by_cases hr : c.room (safe m) = .ample
    · rw [if_pos hr] at hobstacle
      rw [if_pos (.inr hr)]
      simp only [runOn, hshape, hst, hrun, Option.map_some, hobstacle]
      rfl
    · rw [if_neg hr] at hobstacle
      have hnot : ¬ (some H' = none ∨ c.room (safe m) = .ample) := by
        rintro (e | e)
        · cases e
        · exact hr e
      rw [if_neg hnot]
      simp only [runOn, hshape, hst, hrun, Option.map_some, hobstacle]
      rfl

section Statements

variable {v : Store} {x : Transaction} {st : Statement α}

/-- Up to binding its numbers, a statement only prepares itself, and then it meets the database of the
layer's holding; the disk stays as it is, and of the handle all but what is prepared and the
transaction. -/
theorem consult_eq (hw : Works c R slack E s m id A H u) {h : Handle} (hh : u.handle? id = some h)
    (hx : ∀ db, x ≠ .changed db) (hst : st.check .full = .ok ()) :
    ∃ p, consult u.disk { h with transaction := x } st =
      (match st.bind with
        | .error f => .error f
        | .ok () => runOn u.disk h H.database st,
      u.disk, { h with prepared := p, transaction := begunBy st.form x }) := by
  obtain ⟨h', hh', hl⟩ := hw.leads
  rw [hh, Option.some.injEq] at hh'
  subst hh'
  have hshape : h.schema.shape? st.table = some .full := by
    rw [hl.fits.schema]
    exact shape_full _
  have hknown : ∀ k : Handle, k.schema = h.schema → knownSchema u.disk k st.table = h.schema := by
    intro k hk
    rw [knownSchema, hk, hshape, Option.isSome_some, if_pos rfl]
  have hlive : (h.isClosed || h.isSevered) = false := by
    rw [hl.live.opened, hl.live.joined]
    rfl
  have hmisses : misses { h with transaction := x } st = false := by
    simp only [misses, hshape, Option.isNone_some, Bool.and_false]
  have hsettle : ∀ b, settle u.disk h.place h.file b = u.disk := by
    intro b
    rw [hl.fits.place]
    exact hw.keeps.disk.settle_eq hw.keeps.regular _ _
  -- Whatever the handle has prepared before, it is ready now and has learned nothing else.
  obtain ⟨q, hprepare⟩ : ∃ q, prepare u.disk { h with transaction := x } st =
      (.ok (), { h with transaction := x, prepared := q }) := by
    by_cases hhas : h.prepared.has st.form = true
    · exact ⟨h.prepared, by rw [prepare, if_pos hhas]⟩
    · refine ⟨h.prepared.put st.form true, ?_⟩
      simp only [prepare, hhas, Bool.false_eq_true, if_false, hknown, hshape, hst]
  have hagain : ∀ k : Handle, k.schema = h.schema → checkAgain u.disk k st = .ok () := by
    intro k hk
    rw [checkAgain, hknown k hk, hshape, Option.isNone_some, if_neg (fun e => Bool.noConfusion e.2)]
  have hmeet : meet u.disk h.place h.file = .ok H.database := by
    rw [hl.fits.place]
    exact hw.keeps.disk.meet_eq hw.keeps.regular hw.shelf hl.file
  have henter : enter u.disk { h with transaction := x } st = .ok H.database := by
    obtain ⟨n, hn, -, hlock, hcontent⟩ := hw.keeps.disk.stored _ _ hw.shelf
    rw [hl.file, Option.some.injEq, Node.file.injEq] at hn
    rw [← hn] at hlock hcontent
    cases x with
    | idle | begun =>
      simp only [enter, hmeet, hlock, hcontent]
      cases st.writes <;> rfl
    | changed db => exact absurd rfl (hx db)
  have hmeeting : ∀ k : Handle, k.schema = h.schema →
      meeting k st.form st.table H.database.schema =
        { k with prepared := k.prepared.put st.form (H.database.schema.shape? st.table).isSome } := by
    intro k hk
    rw [meeting, Holding.database_schema, ← hl.fits.schema, hk]
  have hrunOn : runOn u.disk { h with transaction := x } H.database st = runOn u.disk h H.database st := rfl
  cases hb : st.bind with
  | error f =>
    refine ⟨q, ?_⟩
    by_cases hc : st.form.changesRows = true
    · simp only [consult, hlive, hmisses, hprepare, hb, begunBy, hc, Bool.false_eq_true, if_false, if_true]
    · simp only [consult, hlive, hmisses, hprepare, hb, begunBy, hc, Bool.false_eq_true, if_false]
  | ok _ =>
    refine ⟨q.put st.form (H.database.schema.shape? st.table).isSome, ?_⟩
    by_cases hc : st.form.changesRows = true
    · simp only [consult, hlive, hmisses, hprepare, hb, begunBy, hc, hagain, hsettle, henter, hmeeting,
        hrunOn, Bool.false_eq_true, if_false, if_true]
    · simp only [consult, hlive, hmisses, hprepare, hb, begunBy, hc, hagain, hsettle, henter, hmeeting,
        hrunOn, Bool.false_eq_true, if_false]

/-- A handle that works on a layer may learn what it has prepared, and come into a transaction. -/
theorem Works.engaged (hw : Works c R slack E s m id A H u) {h : Handle} (hh : u.handle? id = some h)
    (p : Ordered Form Bool) (y z : Transaction) :
    Engages c R slack E s m id A H y
      ((({ u.setHandle id { h with transaction := z } with disk := u.disk } : Store)).setHandle id
        { h with prepared := p, transaction := y }) := by
  obtain ⟨hw', hh'⟩ := hw.tune hh (fun _ => { h with prepared := p }) rfl
  refine ⟨_, _, hw', hh', ?_⟩
  show (u.setHandle id { h with transaction := z }).setHandle id _ =
    (u.setHandle id { h with prepared := p }).setHandle id _
  rw [setHandle_setHandle, setHandle_setHandle]

/-- A statement whose numbers cannot be bound does nothing. -/
theorem exec_refused (hw : Engages c R slack E s m id A H x v) (hx : ∀ db, x ≠ .changed db)
    (hst : st.check .full = .ok ()) {f : DbFault} (hb : st.bind = .error f) :
    ∃ v', Step.outcome (exec id st) v = (.error (.db f), v') ∧
      Engages c R slack E s m id A H (begunBy st.form x) v' := by
  obtain ⟨u, h, hw, hh, rfl⟩ := hw
  obtain ⟨p, hc⟩ := consult_eq hw hh hx hst
  rw [hb] at hc
  exact ⟨_, exec_refused_run (handle_setHandle hh _) hc, hw.engaged hh p _ _⟩

/-- A statement that leaves the database as it is. -/
theorem exec_read (hw : Engages c R slack E s m id A H x v) (hx : ∀ db, x ≠ .changed db)
    (hst : st.check .full = .ok ()) (hb : st.bind = .ok ()) {a : α}
    (hrun : st.run H.database = .ok ⟨a, none⟩) :
    ∃ v', Step.outcome (exec id st) v = (.ok a, v') ∧
      Engages c R slack E s m id A H (begunBy st.form x) v' := by
  obtain ⟨u, h, hw, hh, rfl⟩ := hw
  obtain ⟨p, hc⟩ := consult_eq hw hh hx hst
  obtain ⟨h', hh', hl⟩ := hw.leads
  rw [hh, Option.some.injEq] at hh'
  subst hh'
  have hon := runOn_eq (w := none) hw hl hst hrun
  rw [if_pos (.inl rfl)] at hon
  rw [hb, hon] at hc
  exact ⟨_, exec_quiet_run (handle_setHandle hh _) hc, hw.engaged hh p _ _⟩

/-- A statement that has room for what it changes holds it back. -/
theorem exec_written (hw : Engages c R slack E s m id A H x v) (hx : ∀ db, x ≠ .changed db)
    (hform : st.form.changesRows = true) (hst : st.check .full = .ok ()) (hb : st.bind = .ok ())
    {a : α} {H' : Holding} (hrun : st.run H.database = .ok ⟨a, (some H').map Holding.database⟩)
    (hroom : c.room (safe m) = .ample) :
    ∃ v', Step.outcome (exec id st) v = (.ok a, v') ∧
      Engages c R slack E s m id A H (.changed H'.database) v' := by
  obtain ⟨u, h, hw, hh, rfl⟩ := hw
  obtain ⟨p, hc⟩ := consult_eq hw hh hx hst
  obtain ⟨h', hh', hl⟩ := hw.leads
  rw [hh, Option.some.injEq] at hh'
  subst hh'
  have hon := runOn_eq hw hl hst hrun
  rw [if_pos (.inr hroom)] at hon
  rw [hb, hon] at hc
  have hopen : begunBy st.form x ≠ .idle := by
    rw [begunBy, if_pos hform]
    cases x <;> exact nofun
  have hk := handle_setHandle (s := ({ u.setHandle id { h with transaction := x } with
    disk := u.disk } : Store)) (handle_setHandle hh _)
      { h with prepared := p, transaction := begunBy st.form x }
  refine ⟨_, ?_, hw.engaged hh p (.changed H'.database) x⟩
  rw [exec_changed_run (handle_setHandle hh _) hc, Step.run_bind, keep_pending hk hopen]
  exact congrArg (Prod.mk _) (setHandle_setHandle _ _)

/-- A statement that has no room for what it would change leaves everything as it is. -/
theorem exec_cramped (hw : Engages c R slack E s m id A H x v) (hx : ∀ db, x ≠ .changed db)
    (hst : st.check .full = .ok ()) (hb : st.bind = .ok ()) {a : α} {H' : Holding}
    (hrun : st.run H.database = .ok ⟨a, (some H').map Holding.database⟩)
    (hroom : c.room (safe m) ≠ .ample) :
    ∃ v', Step.outcome (exec id st) v = (.error (.db .cannotOpen), v') ∧
      Engages c R slack E s m id A H (begunBy st.form x) v' := by
  obtain ⟨u, h, hw, hh, rfl⟩ := hw
  obtain ⟨p, hc⟩ := consult_eq hw hh hx hst
  obtain ⟨h', hh', hl⟩ := hw.leads
  rw [hh, Option.some.injEq] at hh'
  subst hh'
  have hon := runOn_eq hw hl hst hrun
  rw [if_neg (by simpa using hroom)] at hon
  rw [hb, hon] at hc
  exact ⟨_, exec_refused_run (handle_setHandle hh _) hc, hw.engaged hh p _ _⟩

end Statements

end Sessions

end TileDepot.Store
