import TileDepot.Proofs.Granting
import TileDepot.Store.Operation

/-!
# Everything that an operation can do

`Change` lists what an operation can do to a store beyond getting hold of a handle: it writes a
database, announces an event, and removes or moves a file.  Whatever a store is in, an operation on a
layer is a sequence of changes.  If it fails, it wrote nothing, and is a sequence of shifts; the reason is
one for which there is no handle, or a fault of the database, which is then reported as an error of the
store.

* `Statement.Mild` states what the statements of the store have in common: they change rows in a
  transaction only, and write no tile whose data is not a blob.
* `Underway` is the store in the middle of a transaction, and `transact_result` says how the
  transaction ends.
* `session_result` is about the operations that open a layer.
-/

namespace TileDepot

/-- The data of every tile is a blob. -/
def Database.Plain (db : Database) : Prop := ∀ r ∈ db.tileRows, ∃ b, r.data = .blob b

/-! ## Statements -/

namespace Statement

/-- A statement that changes rows only in a transaction, and writes blobs only. -/
structure Mild {α : Type} (st : Statement α) : Prop where
  quiet : st.form.changesRows = false → ∀ {db e}, st.run db = .ok e → e.after = none
  plain : ∀ {db e after}, st.run db = .ok e → e.after = some after → db.Plain → after.Plain

theorem mem_onTiles {db : Database} {f : List TileRow → List TileRow} {r : TileRow}
    (h : r ∈ (onTiles db f).tileRows) : r ∈ f db.tileRows := by
  rw [onTiles, Database.tileRows] at h
  rw [Database.tileRows]
  cases ht : db.tiles with
  | none =>
    rw [ht] at h
    cases h
  | some t =>
    rw [ht] at h
    exact h

theorem after_counted {n : Nat} {before after made : Database} {e : Effect Nat}
    (h : counted n before made = .ok e) (ha : e.after = some after) : after = made := by
  simp only [counted, Except.ok.injEq] at h
  subst h
  dsimp only at ha
  split at ha
  · cases ha
  · exact (Option.some.inj ha).symm

/-- A statement that never changes the database. -/
theorem Mild.of_quiet {α : Type} {st : Statement α}
    (h : ∀ {db e}, st.run db = .ok e → e.after = none) : st.Mild where
  quiet := fun _ _ _ => h
  plain := by
    intro db e after hr ha
    rw [h hr] at ha
    cases ha

theorem mild_selectTile (k : RowKey) : (selectTile k).Mild := by
  apply Mild.of_quiet
  intro db e h
  cases h
  rfl

theorem mild_selectValue (key : String) : (selectValue key).Mild := by
  apply Mild.of_quiet
  intro db e h
  simp only [selectValue] at h
  split at h
  · cases h
    rfl
  · obtain ⟨v, -, h⟩ := Store.bind_ok h
    cases h
    rfl

theorem mild_selectEntries : selectEntries.Mild := by
  apply Mild.of_quiet
  intro db e h
  obtain ⟨rows, -, h⟩ := Store.bind_ok h
  cases h
  rfl

theorem mild_updateTile (k : RowKey) (b : Blob) : (updateTile k (.blob b)).Mild where
  quiet := nofun
  plain := by
    intro db e after h ha hp r hr
    rw [after_counted h ha] at hr
    obtain ⟨old, hold, rfl⟩ := List.mem_map.1 (mem_onTiles hr)
    split
    · exact ⟨b, rfl⟩
    · exact hp old hold

theorem mild_insertTile (k : RowKey) (b : Blob) : (insertTile k (.blob b)).Mild where
  quiet := nofun
  plain := by
    intro db e after h ha hp r hr
    simp only [insertTile] at h
    split at h
    · cases h
    · cases h
      cases ha
      rcases List.mem_append.1 (mem_onTiles (f := fun rows => rows ++ [⟨k, .blob b⟩]) hr) with
        hold | hnew
      · exact hp r hold
      · rw [List.mem_singleton.1 hnew]
        exact ⟨b, rfl⟩

theorem mild_deleteTile (k : RowKey) : (deleteTile k).Mild where
  quiet := nofun
  plain := by
    intro db e after h ha hp r hr
    rw [after_counted h ha] at hr
    exact hp r (List.mem_filter.1 (mem_onTiles hr)).1

theorem mild_deleteGrid (grid : String) : (deleteGrid grid).Mild where
  quiet := nofun
  plain := by
    intro db e after h ha hp r hr
    rw [after_counted h ha] at hr
    exact hp r (List.mem_filter.1 (mem_onTiles hr)).1

theorem mild_updateValue (key value : String) : (updateValue key value).Mild where
  quiet := nofun
  plain := by
    intro db e after h ha hp
    rw [after_counted h ha]
    exact hp

theorem mild_insertValue (key value : TextCell) : (insertValue key value).Mild where
  quiet := nofun
  plain := by
    intro db e after h ha hp
    simp only [insertValue] at h
    split at h
    · cases h
    · cases h
      cases ha
      exact hp

end Statement

namespace Store

variable {α β : Type} {s t u v : Store} {m : String} {p : Path} {id : HandleId} {h : Handle}

/-- The store with another disk, and another handle in the place of one. -/
def exchange (s : Store) (d : Disk) (id : HandleId) (k : Handle) : Store :=
  ({ s with disk := d } : Store).setHandle id k

theorem exchange_exchange (s : Store) (d e : Disk) (id : HandleId) (k l : Handle) :
    (s.exchange d id k).exchange e id l = s.exchange e id l :=
  setHandle_setHandle (s := { s with disk := e }) k l

theorem setHandle_exchange (s : Store) (d : Disk) (id : HandleId) (k l : Handle) :
    (s.exchange d id k).setHandle id l = s.exchange d id l :=
  setHandle_setHandle (s := { s with disk := d }) k l

theorem handle_exchange (hh : s.handle? id = some h) (d : Disk) (k : Handle) :
    (s.exchange d id k).handle? id = some k :=
  handle_setHandle (s := { s with disk := d }) hh k

/-! ## Changes -/

/-- What an operation can do to a store. -/
inductive Change : Store → Store → Prop
  | shift {s t : Store} : Shift s t → Change s t
  /-- A database is written into the file of a handle, which has no transaction then. -/
  | written {s : Store} {id : HandleId} {h : Handle} {after : Database} : s.handle? id = some h →
      (∀ db, (contentOf s.disk h.file).view = .ok db → db.Plain → after.Plain) →
      Change s (s.exchange (commit s.disk h.place h.file after) id
        { h with transaction := .idle, schema := after.schema })
  /-- An event is announced. -/
  | announced (s : Store) (e : Event) : Change s { s with events := s.events ++ [e] }
  /-- A file is removed. -/
  | removed {s : Store} {p : Path} {q : Place} {n : Nat} : s.disk.find p = .ok (q, .file n) →
      Change s { s with disk := s.disk.detach q }
  /-- The file of a layer takes a name that leads nowhere. -/
  | renamed {s : Store} {source target : String} {p p' : Path} {d : Disk} :
      s.pathOf? source = some p → s.pathOf? target = some p' → s.disk.exists? p' = .ok false →
      s.disk.move p p' = .ok d → Change s { s with disk := d }

/-- A sequence of changes. -/
abbrev Changes : Store → Store → Prop := Relation.ReflTransGen Change

theorem Change.changes (h : Change s t) : Changes s t := .single h

theorem Shifts.changes (h : Shifts s t) : Changes s t := by
  induction h with
  | refl => exact .refl
  | tail _ hstep ih => exact ih.tail (.shift hstep)

theorem Change.config (h : Change s t) : t.config = s.config := by
  cases h with
  | shift h => exact h.config
  | _ => rfl

theorem Changes.config (h : Changes s t) : t.config = s.config := by
  induction h with
  | refl => rfl
  | tail _ hstep ih => exact hstep.config.trans ih

theorem Changes.pathOf (h : Changes s t) (m : String) : t.pathOf? m = s.pathOf? m := by
  rw [pathOf?, pathOf?, h.config]

theorem Change.registered (hst : Change s t) (hs : s.Registered) : t.Registered := by
  cases hst with
  | shift h => exact h.registered hs
  | announced => exact ⟨hs.keys, hs.cached⟩
  | removed | renamed => exact hs.onDisk _
  | written hh =>
    refine (hs.onDisk _).modify fun h' hh' => ?_
    have he : some h' = some _ := hh'.symm.trans hh
    rw [Option.some.inj he]
    exact ⟨rfl, rfl, rfl, rfl⟩

theorem Changes.registered (hst : Changes s t) (hs : s.Registered) : t.Registered := by
  induction hst with
  | refl => exact hs
  | tail _ hstep ih => exact hstep.registered ih

/-! ## Cached handles at rest -/

/-- No cached handle has a transaction. -/
def Resting (s : Store) : Prop :=
  ∀ name id h, s.cache.get? name = some id → s.handle? id = some h → h.transaction = .idle

/-- Cached handles stay at rest if the cache only lost entries and no handle got a transaction. -/
theorem Resting.lessened (hs : s.Resting)
    (hcache : ∀ name id, t.cache.get? name = some id → s.cache.get? name = some id)
    (hh : ∀ id k, t.handle? id = some k → ∃ h, s.handle? id = some h ∧
      (h.transaction = .idle → k.transaction = .idle)) : t.Resting := by
  intro name id k hid hk
  obtain ⟨h, hh', himp⟩ := hh id k hk
  exact himp (hs name id h (hcache name id hid) hh')

theorem resting_modify {f : Handle → Handle}
    (hf : ∀ h, s.handle? id = some h → h.transaction = .idle → (f h).transaction = .idle) :
    ∀ i k, ({ s with issued := s.issued.modify id f } : Store).handle? i = some k →
      ∃ h, s.handle? i = some h ∧ (h.transaction = .idle → k.transaction = .idle) := by
  intro i k hk
  rw [handle_modify] at hk
  split at hk
  · rename_i he
    obtain ⟨h, hh, rfl⟩ := Option.map_eq_some_iff.1 hk
    exact ⟨h, hh, hf h (he ▸ hh)⟩
  · exact ⟨k, hk, fun e => e⟩

theorem Resting.enlist (hs : s.Resting) (hr : s.Registered) (d : Disk) (file : Nat) (schema : Schema) :
    (Store.enlist { s with disk := d } m (.fresh m p file schema)).Resting := by
  intro name id k hid hk
  by_cases hn : m = name
  · subst hn
    simp only [Store.enlist, Ordered.get?_put_self, Option.some.injEq] at hid
    subst hid
    have hnew := handle_issued s (.fresh m p file schema)
    have he : some k = some _ := hk.symm.trans hnew
    rw [Option.some.inj he]
    rfl
  · simp only [Store.enlist, Ordered.get?_put_of_ne _ _ hn] at hid
    obtain ⟨h, hh, -⟩ := hr.cached name id hid
    have hold := handle_append (.fresh m p file schema) hh
    have he : some k = some h := hk.symm.trans hold
    rw [Option.some.inj he]
    exact hs name id h hid hh

theorem released_transaction (h : Handle) : h.released.transaction = h.transaction :=
  (Worn.released h).transaction

theorem Shift.resting (hst : Shift s t) (hr : s.Registered) (hs : s.Resting) : t.Resting := by
  cases hst with
  | logged | counted | tidied | blanked => exact hs
  | learned hh _ hidle =>
    refine hs.lessened (fun _ _ e => e) (resting_modify fun h' hh' hx => ?_)
    rw [hh, Option.some.injEq] at hh'
    exact hidle (hh' ▸ hx)
  | dropped name id l =>
    exact hs.lessened (fun _ _ e => get?_without e)
      (resting_modify fun h _ hx => (released_transaction h).trans hx)
  | closed id =>
    exact hs.lessened (fun _ _ e => e)
      (resting_modify fun h _ hx => (released_transaction h).trans hx)
  | founded | grafted | opened => exact hs.enlist hr _ _ _

theorem Shifts.resting (hst : Shifts s t) (hr : s.Registered) (hs : s.Resting) : t.Resting := by
  induction hst with
  | refl => exact hs
  | tail hsteps hstep ih => exact hstep.resting (Shifts.registered hsteps hr) ih

theorem Change.resting (hst : Change s t) (hr : s.Registered) (hs : s.Resting) : t.Resting := by
  cases hst with
  | shift h => exact h.resting hr hs
  | announced | removed | renamed => exact hs
  | written hh =>
    exact hs.lessened (fun _ _ e => e) (resting_modify (s := { s with disk := _ }) fun _ _ _ => rfl)

theorem Changes.resting (hst : Changes s t) (hr : s.Registered) (hs : s.Resting) : t.Resting := by
  induction hst with
  | refl => exact hs
  | tail hsteps hstep ih => exact hstep.resting (Changes.registered hsteps hr) ih

/-! ## Statements in a transaction -/

/-- A statement that is let through begins a transaction if it changes rows. -/
theorem consult_started {d e : Disk} {k : Handle} {st : Statement α} {effect : Effect α}
    (hc : consult d h st = (.ok effect, e, k)) (hform : st.form.changesRows = true) :
    k.transaction = h.transaction.started := by
  obtain ⟨-, htrans⟩ := prepare_kin d h st
  rw [consult] at hc
  split at hc
  · cases hc
  dsimp only at hc
  rcases hp : prepare d h st with ⟨_ | _, ready⟩
  · rw [hp] at hc
    cases hc
  · rw [hp] at hc htrans
    dsimp only at hc htrans
    split at hc
    · cases hc
    · cases hc
    · split at hc
      · cases hc
      · have hk := congrArg (fun x => x.2.2.transaction) hc
        exact hk.symm.trans (congrArg Transaction.started htrans)

/-- A statement meets what its handle holds back, or what is in the file. -/
theorem enter_ok {d : Disk} {st : Statement α} {db : Database} (he : enter d h st = .ok db) :
    h.transaction = .changed db ∨ meet d h.place h.file = .ok db := by
  rw [enter] at he
  have hmeet : (do
      let db ← meet d h.place h.file
      if st.writes then
        if !(d.locksOn h.file).isEmpty then throw .locked
        if (contentOf d h.file).isEmpty then startObstacle d h.place
      return db : Except DbFault Database) = .ok db → meet d h.place h.file = .ok db := by
    intro he
    obtain ⟨met, hmet, he⟩ := bind_ok he
    rw [hmet]
    dsimp only at he
    split at he
    · obtain ⟨-, he⟩ := unless_ok he
      split at he
      · obtain ⟨-, -, he⟩ := bind_ok he
        exact he
      · exact he
    · exact he
  cases hx : h.transaction with
  | changed held =>
    rw [hx] at he
    exact .inl (congrArg Transaction.changed (Except.ok.inj he))
  | idle | begun =>
    rw [hx] at he
    exact .inr (hmeet he)

/-- A store in the middle of a transaction of a handle: nothing was written yet, and what is held back
has blobs only if what is in the file has. -/
structure Underway (s : Store) (id : HandleId) (h : Handle) (v : Store) : Prop where
  state : ∃ d k, v = s.exchange d id k ∧ s.disk.Tidied h.place d ∧ Kin h k ∧
    ∀ after, k.transaction = .changed after →
      ∀ db, (contentOf s.disk h.file).view = .ok db → db.Plain → after.Plain

theorem Underway.start (hh : s.handle? id = some h) (hx : h.transaction = .idle) :
    Underway s id h s := by
  refine ⟨s.disk, h, (setHandle_same hh).symm, .refl _ _, .refl h, fun after e => ?_⟩
  rw [hx] at e
  cases e

theorem started_changed {x : Transaction} {db : Database} :
    x.started = .changed db ↔ x = .changed db := by
  cases x <;> simp [Transaction.started]

/-- A statement leaves a transaction underway, and fails with a fault of the database only. -/
theorem exec_underway (hu : Underway s id h v) (hh : s.handle? id = some h) {st : Statement α}
    (hm : st.Mild) : ∃ r v', Step.outcome (exec id st) v = (r, v') ∧ Underway s id h v' ∧
      ∀ f, r = .error f → ∃ g, f = .db g := by
  obtain ⟨d, k, rfl, htidy, hkin, hplain⟩ := hu.state
  have hk := handle_exchange hh d k
  rcases hc : consult d k st with ⟨r, e, k'⟩
  obtain ⟨htidy', hkin', htrans⟩ := consult_tidied hc
  rw [hkin.akin.place] at htidy'
  have hquiet : Underway s id h ((s.exchange d id k).exchange e id k') := by
    refine ⟨e, k', exchange_exchange .., htidy.trans htidy', hkin.trans hkin', fun after hafter => ?_⟩
    apply hplain after
    rcases htrans with he | ⟨-, he⟩
    · rw [← he, hafter]
    · rw [he] at hafter
      exact started_changed.1 hafter
  cases r with
  | error g => exact ⟨_, _, exec_refused_run hk hc, hquiet, fun f hf => ⟨g, (Except.error.inj hf).symm⟩⟩
  | ok effect =>
    obtain ⟨a, after⟩ := effect
    cases after with
    | none => exact ⟨_, _, exec_quiet_run hk hc, hquiet, fun _ hf => nomatch hf⟩
    | some after =>
      obtain ⟨db, henter, hrun⟩ := consult_changed hc
      have hform : st.form.changesRows = true := by
        rw [← Bool.not_eq_false]
        intro hform
        cases hm.quiet hform hrun
      have hpending : k'.transaction ≠ .idle := by
        rw [consult_started hc hform]
        cases k.transaction <;> exact nofun
      have hk' := handle_exchange hk e k'
      refine ⟨.ok a, s.exchange e id { k' with transaction := .changed after }, ?_, ?_,
        fun _ hf => nomatch hf⟩
      · have hkept : Step.outcome (do
            keep id after
            return a) ((s.exchange d id k).exchange e id k') =
            (.ok a, s.exchange e id { k' with transaction := .changed after }) := by
          rw [Step.run_bind, keep_pending hk' hpending, setHandle_exchange, exchange_exchange]
          rfl
        exact (exec_changed_run hk hc).trans hkept
      · refine ⟨e, _, rfl, htidy.trans htidy', (hkin.trans hkin').trans rfl, ?_⟩
        rintro after' hafter' before hbefore hp
        cases hafter'
        apply hm.plain hrun rfl
        rcases enter_ok henter with hheld | hmeet
        · exact hplain db hheld before hbefore hp
        · have hview := meet_view hmeet
          rw [htidy.contentOf_eq, hkin.akin.file, hbefore] at hview
          exact Except.ok.inj hview ▸ hp

/-- Work that leaves a transaction underway, and fails with faults of the database only. -/
def Proceeds (s : Store) (id : HandleId) (h : Handle) (x : Step α) : Prop :=
  ∀ v, Underway s id h v → ∃ r v', Step.outcome x v = (r, v') ∧ Underway s id h v' ∧
    ∀ f, r = .error f → ∃ g, f = .db g

theorem exec_proceeds (hh : s.handle? id = some h) {st : Statement α} (hm : st.Mild) :
    Proceeds s id h (exec id st) :=
  fun _ hu => exec_underway hu hh hm

theorem Proceeds.bind {x : Step α} {f : α → Step β} (hx : Proceeds s id h x)
    (hf : ∀ a, Proceeds s id h (f a)) : Proceeds s id h (x >>= f) := by
  intro v hu
  obtain ⟨r, v', hrun, hu', hr⟩ := hx v hu
  rw [Step.run_bind, hrun]
  cases r with
  | error g => exact ⟨_, _, rfl, hu', fun f hf => hr f (congrArg Except.error (Except.error.inj hf))⟩
  | ok a => exact hf a v' hu'

theorem Proceeds.pure (a : α) : Proceeds s id h (pure a : Step α) :=
  fun v hu => ⟨_, v, rfl, hu, fun _ hf => nomatch hf⟩

/-! ## Ends -/

/-- How the body of a session ends: with an answer, or with a fault of the database and by shifts. -/
def Ends (Q : α → Store → Prop) (s : Store) (r : Except Fault α × Store) : Prop :=
  match r with
  | (.ok a, t) => Q a t
  | (.error f, t) => Shifts s t ∧ ∃ g, f = .db g

/-- What a handle has learned and what lay beside its file are all that a transaction leaves that wrote
nothing. -/
theorem exchange_shifts {d : Disk} {k : Handle} (hh : s.handle? id = some h) (hp : s.pathOf? m = some p)
    (hplace : h.place = p.resolved.names) (htidy : s.disk.Tidied h.place d) (hkin : Kin h k)
    (hx : h.transaction = .idle → k.transaction = .idle) : Shifts s (s.exchange d id k) := by
  rw [hplace] at htidy
  have hlearned : Shift { s with disk := d } (s.exchange d id k) :=
    .learned (s := { s with disk := d }) hh hkin hx
  exact (Shift.tidied hp htidy).shifts.tail hlearned

/-- A transaction is written if its work is done, and leaves nothing in the file if it fails. -/
theorem transact_ends (hh : s.handle? id = some h) (hx : h.transaction = .idle)
    (hp : s.pathOf? m = some p) (hplace : h.place = p.resolved.names) {body : Step α}
    (hbody : Proceeds s id h body) :
    Ends (fun _ t => Changes s t) s (Step.outcome (transact id body) s) := by
  obtain ⟨r, v, hrun, hu, hr⟩ := hbody s (.start hh hx)
  obtain ⟨d, k, rfl, htidy, hkin, hplain⟩ := hu.state
  have hk := handle_exchange hh d k
  have hquiet : Shifts s (s.exchange d id { k with transaction := .idle }) :=
    exchange_shifts hh hp hplace htidy (hkin.trans rfl) (fun _ => rfl)
  cases r with
  | error f =>
    rw [transact_failed hrun hk, setHandle_exchange]
    exact ⟨hquiet, hr f rfl⟩
  | ok a =>
    have hdone := transact_done hrun hk
    cases hktrans : k.transaction with
    | idle | begun =>
      rw [hktrans] at hdone
      dsimp only at hdone
      rw [hdone, setHandle_exchange]
      exact hquiet.changes
    | changed after =>
      rw [hktrans] at hdone
      let k₀ : Handle := { k with transaction := .idle }
      let k₁ : Handle := { k with transaction := .idle, schema := after.schema }
      have hstate : (s.exchange d id k₀).exchange (commit d k.place k.file after) id k₁ =
          (s.exchange d id k).exchange (commit d k.place k.file after) id k₁ := by
        rw [exchange_exchange, exchange_exchange]
      have hwritten : Change (s.exchange d id k₀)
          ((s.exchange d id k₀).exchange (commit d k.place k.file after) id k₁) := by
        apply Change.written (h := k₀) (handle_exchange hh d k₀)
        intro db hview hdb
        change (contentOf d k.file).view = .ok db at hview
        rw [htidy.contentOf_eq, hkin.akin.file] at hview
        exact hplain after hktrans db hview hdb
      rw [hstate] at hwritten
      rw [hdone]
      exact hquiet.changes.tail hwritten

/-- A statement that only looks answers what it finds in the file. -/
theorem exec_ends (hh : s.handle? id = some h) (hx : h.transaction = .idle)
    (hp : s.pathOf? m = some p) (hplace : h.place = p.resolved.names) {st : Statement α}
    (hform : st.form.changesRows = false) (hm : st.Mild) :
    Ends (fun a t => Shifts s t ∧
      ∃ db, (contentOf s.disk h.file).view = .ok db ∧ st.run db = .ok ⟨a, none⟩) s
      (Step.outcome (exec id st) s) := by
  rcases hc : consult s.disk h st with ⟨r, d, k⟩
  obtain ⟨htidy, hkin, htrans⟩ := consult_tidied hc
  have hsame : k.transaction = h.transaction := by
    rcases htrans with he | ⟨he, -⟩
    · exact he
    · rw [hform] at he
      cases he
  have hquiet : Shifts s (s.exchange d id k) :=
    exchange_shifts hh hp hplace htidy hkin (fun e => hsame.trans e)
  cases r with
  | error g =>
    rw [exec_refused_run hh hc]
    exact ⟨hquiet, g, rfl⟩
  | ok effect =>
    obtain ⟨a, after⟩ := effect
    obtain ⟨db, henter, hrun⟩ := consult_changed hc
    obtain rfl : after = none := hm.quiet hform hrun
    rw [exec_quiet_run hh hc]
    refine ⟨hquiet, db, ?_, hrun⟩
    rcases enter_ok henter with hheld | hmeet
    · rw [hx] at hheld
      cases hheld
    · exact meet_view hmeet

/-! ## Sessions -/

/-- What an operation that opens a layer comes to: it answers, or there is a reason why not, which is no
bare fault of the database. -/
def Concludes (m : String) (Q : α → Store → Prop) (s : Store) (r : Except Fault α × Store) : Prop :=
  match r with
  | (.ok a, t) => Q a t ∧ ¬ s.Overlong m
  | (.error f, t) => Shifts s t ∧ s.Declines m f ∧ ∀ g, f ≠ .db g

/-- A session reports what its body fails with. -/
theorem session_concludes (hs : s.Registered) {operation : String} {body : HandleId → Step α}
    {Q : α → Store → Prop} (hbody : ∀ id t, Shifts s t → t.cache.get? m = some id →
      Ends Q t (Step.outcome (body id) t)) :
    Concludes m Q s (Step.outcome (Step.translated m operation (session m body)) s) := by
  have hgrant := acquireOpen_granted hs m s.staleAcquires
  simp only [Step.translated, session, Step.run_tryCatch, Step.run_bind, Step.run_get]
  generalize Step.outcome (acquireOpen m s.staleAcquires) s = r at hgrant
  obtain ⟨f | id, t⟩ := r
  · obtain ⟨hst, hdecl⟩ := hgrant
    cases hdecl with
    | unnamed hm => exact ⟨hst, .unnamed hm, by simp⟩
    | overlong hp hl => exact ⟨hst, .overlong hp hl, by simp⟩
    | reported e hn => exact ⟨hst, .reported e hn, by simp⟩
    | interrupted hn _ => exact ⟨hst, .reported _ hn, by simp⟩
  · obtain ⟨hst, hid, hn⟩ := hgrant
    have hends := hbody id t hst hid
    dsimp only
    generalize Step.outcome (body id) t = r at hends
    obtain ⟨f | a, u⟩ := r
    · obtain ⟨htu, g, rfl⟩ := hends
      exact ⟨hst.trans htu, .reported _ hn, by simp⟩
    · exact ⟨hends, hn⟩

/-- A forgiving store answers where a read fails, unless the path of the layer does not fit. -/
theorem forgiving_concludes {x : Step α} {a : α} {Q : α → Store → Prop}
    (hx : Concludes m Q s (Step.outcome x s)) (ha : ∀ t, Shifts s t → Q a t) :
    Concludes m Q s (Step.outcome (forgiving a x) s) := by
  rw [forgiving, Step.run_tryCatch]
  generalize Step.outcome x s = r at hx
  obtain ⟨f | b, t⟩ := r
  · obtain ⟨hst, hdecl, hdb⟩ := hx
    cases hdecl with
    | unnamed hm => exact ⟨hst, .unnamed hm, by simp⟩
    | overlong hp hl => exact ⟨hst, .overlong hp hl, by simp⟩
    | interrupted => exact absurd rfl (hdb _)
    | reported e hn =>
      simp only [Step.run_bind, Step.run_get]
      cases t.config.forgiving with
      | true =>
        exact ⟨ha _ (hst.tail (.logged t _)), hn⟩
      | false => exact ⟨hst, .reported e hn, by simp⟩
  · exact hx

end Store

end TileDepot
