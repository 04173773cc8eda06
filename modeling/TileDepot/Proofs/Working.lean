import TileDepot.Proofs.Failures
import TileDepot.Proofs.Revising

/-!
# Work through a handle

A handle works on the database that it has in sight: the one that its transaction holds back, or the one in
its file.  `Unhindered` lists what has to be so for it to be able to, and then every statement that is
accepted comes to what it makes of the database in sight.

`Amid` is the store in the middle of such work.  `Makes` states what work makes of the database in sight,
and that it fails with a fault of the database alone, and not without a hindrance.  The rules follow the
way in which work is put together.

* `exec_runs` is about one statement, and `Makes.upsert` about two of which the second inserts a row where the
  first one matched none.
* `transact_finishes` says what is in the file when a transaction is over, and `exec_looks` what a statement
  tells that only looks.
* `putTile_makes`, `deleteTile_makes`, `deleteGrid_makes` and `putValue_makes` are about the operations.
-/

namespace TileDepot

namespace Store

open Statement

/-! ## What keeps a handle from working -/

/-- A file at a place is a database with the two tables of a store, and nothing keeps it from being read
and changed. -/
structure Offers (d : Disk) (p : Place) (n : Nat) (db : Database) : Prop where
  node : d.node? p = some (.file n)
  content : contentOf d n = .database db
  schema : db.schema = Database.empty.schema
  unlocked : d.locksOn n = []
  room : journalFits p = true
  journal : d.node? (beside p "-journal") ≠ some .directory
  log : d.node? (beside p "-wal") ≠ some .directory

/-- A handle can work on such a file: it is live, and does not remember a table with one column alone. -/
structure Unhindered (d : Disk) (h : Handle) (db : Database) : Prop where
  live : h.Live
  known : ∀ t, h.schema.shape? t ≠ some .keyOnly
  offers : Offers d h.place h.file db

section Unhindered

variable {α : Type} {d e : Disk} {p : Place} {n : Nat} {h k : Handle} {db db₀ : Database}
  {st : Statement α}

theorem shape_empty (t : TableName) : Database.empty.schema.shape? t = some .full := by
  cases t <;> rfl

theorem Offers.unblocked (ho : Offers d p n db) :
    blocksSidecar d p "-journal" = false ∧ blocksSidecar d p "-wal" = false :=
  ⟨beq_eq_false_iff_ne.2 ho.journal, beq_eq_false_iff_ne.2 ho.log⟩

theorem Offers.nonempty (ho : Offers d p n db) : (contentOf d n).isEmpty = false := by
  rw [ho.content]
  rfl

/-- Whoever looks into the file meets the database. -/
theorem Offers.meet (ho : Offers d p n db) : Store.meet d p n = .ok db := by
  have hobstacle : obstacle d p false = .ok () := by
    simp only [obstacle, ho.unblocked.1, ho.unblocked.2, Bool.false_eq_true, if_false]
  rw [Store.meet, ho.unlocked, ho.nonempty, hobstacle, ho.content]
  rfl

theorem Offers.writable (ho : Offers d p n db) : writeObstacle d p n false = .ok () := by
  have hnumber : d.number? p = some n := by rw [Disk.number?, ho.node]
  simp [writeObstacle, hnumber, ho.room, ho.unblocked.1]

theorem Offers.tidied (ho : Offers d p n db) (htidy : d.Tidied p e) : Offers e p n db where
  node := by
    rw [htidy.elsewhere fun suffix hs => (Layer.beside_ne hs rfl).symm, ho.node]
  content := by rw [htidy.contentOf_eq, ho.content]
  schema := ho.schema
  unlocked := by
    rw [Disk.locksOn, htidy.locks]
    exact ho.unlocked
  room := ho.room
  journal := fun hdir => ho.journal (htidy.directory.1 hdir)
  log := fun hdir => ho.log (htidy.directory.1 hdir)

/-- What is offered once another database was written. -/
theorem Offers.commit (ho : Offers d p n db) {after : Database} (hschema : after.schema = db.schema) :
    Offers (Store.commit d p n after) p n after := by
  have hset : Offers (d.setBody n ⟨.database after, none⟩) p n after :=
    { node := ho.node
      content := Disk.Holds.contentOf_setBody_self d n _
      schema := hschema.trans ho.schema
      unlocked := ho.unlocked
      room := ho.room
      journal := ho.journal
      log := ho.log }
  exact hset.tidied (commit_tidied d p n after)

theorem Unhindered.kin (hu : Unhindered d h db) (htidy : d.Tidied h.place e) (hkin : Kin h k)
    (hknown : ∀ t, k.schema.shape? t ≠ some .keyOnly) : Unhindered e k db := by
  have hakin := hkin.akin
  refine ⟨?_, hknown, ?_⟩
  · rw [hkin]
    exact ⟨hu.live.opened, hu.live.joined⟩
  · rw [hakin.place, hakin.file]
    exact hu.offers.tidied htidy

/-- Such a handle knows of every table that it has more than one column. -/
theorem Unhindered.knownSchema (hu : Unhindered d h db) (t : TableName) :
    (∃ shape, (Store.knownSchema d h t).shape? t = some shape ∧ shape ≠ .keyOnly) ∧
      ∀ t', (Store.knownSchema d h t).shape? t' ≠ some .keyOnly := by
  rw [Store.knownSchema]
  cases hshape : h.schema.shape? t with
  | some shape =>
    refine ⟨⟨shape, hshape, fun hkey => hu.known t (hkey ▸ hshape)⟩, ?_⟩
    exact hu.known
  | none =>
    simp only [Option.isSome_none, Bool.false_eq_true, if_false, hu.offers.meet, hu.offers.schema,
      shape_empty]
    exact ⟨⟨.full, rfl, nofun⟩, fun _ => nofun⟩

/-- Every statement that is accepted is prepared. -/
theorem Unhindered.prepare (hu : Unhindered d h db) (hst : st.Accepted) :
    ∃ ready, Store.prepare d h st = (.ok (), ready) ∧ Unhindered d ready db := by
  rw [Store.prepare]
  by_cases hform : h.prepared.has st.form = true
  · rw [if_pos hform]
    exact ⟨h, rfl, hu⟩
  · obtain ⟨⟨shape, hshape, hkey⟩, hknown⟩ := hu.knownSchema st.table
    simp only [if_neg hform, hshape, hst.check shape hkey]
    exact ⟨_, rfl, ⟨hu.live.opened, hu.live.joined⟩, hknown, hu.offers⟩

theorem Unhindered.checkAgain (hu : Unhindered d h db) (st : Statement α) :
    Store.checkAgain d h st = .ok () := by
  obtain ⟨⟨shape, hshape, -⟩, -⟩ := hu.knownSchema st.table
  rw [Store.checkAgain, hshape, if_neg]
  exact fun hmissing => Bool.noConfusion hmissing.2

end Unhindered

end Store

/-- What a handle has in sight: the database that its transaction holds back, or the one in its file. -/
def Handle.sight (d : Disk) (h : Handle) : Except DbFault Database :=
  match h.transaction with
  | .changed db => .ok db
  | .idle | .begun => (Store.contentOf d h.file).view

namespace Store

open Statement

section Sight

variable {α : Type} {d e : Disk} {h k : Handle} {db db₀ : Database} {st : Statement α}

/-- What a statement enters is in sight. -/
theorem enter_sight (he : enter d h st = .ok db) : h.sight d = .ok db := by
  cases hx : h.transaction with
  | changed held =>
    rw [enter, hx] at he
    rw [Handle.sight, hx]
    exact he
  | idle | begun =>
    rw [Handle.sight, hx]
    rcases enter_ok he with hheld | hmeet
    · rw [hx] at hheld
      cases hheld
    · exact meet_view hmeet

theorem Unhindered.enter (hu : Unhindered d h db₀) (hsight : h.sight d = .ok db) :
    Store.enter d h st = .ok db := by
  rw [Handle.sight] at hsight
  cases hx : h.transaction with
  | changed held =>
    rw [hx] at hsight
    rw [Store.enter, hx]
    exact hsight
  | idle | begun =>
    rw [hx] at hsight
    have hsame : db₀ = db := by
      rw [hu.offers.content] at hsight
      exact Except.ok.inj hsight
    simp only [Store.enter, hx, hu.offers.meet, hu.offers.unlocked, hu.offers.nonempty, hsame]
    cases st.writes <;> rfl

/-- Where nothing keeps a handle from working, a statement comes to what it makes of what is in sight. -/
theorem Unhindered.consult (hu : Unhindered d h db₀) (hsight : h.sight d = .ok db)
    (hschema : db.schema = Database.empty.schema) (hst : st.Accepted) :
    (Store.consult d h st).1 = st.run db := by
  obtain ⟨ready, hprepare, hready⟩ := hu.prepare hst
  have hopen : (h.isClosed || h.isSevered) = false := by
    rw [hu.live.opened, hu.live.joined]
    rfl
  have hagain : ∀ x, Store.checkAgain d { ready with transaction := x } st = .ok () := fun x =>
    Unhindered.checkAgain ⟨⟨hready.live.opened, hready.live.joined⟩, hready.known, hready.offers⟩ st
  have hagain' : Store.checkAgain d (if st.form.changesRows = true then
      { ready with transaction := ready.transaction.started } else ready) st = .ok () := by
    split
    · exact hagain _
    · exact hagain ready.transaction
  have hrunOn : runOn d h db st = st.run db := by
    simp only [runOn, hschema, shape_empty, hst.check .full (by simp)]
    cases st.run db with
    | error g => rfl
    | ok effect =>
      have hwritable := hu.offers.writable
      rw [← hu.offers.nonempty] at hwritable
      obtain ⟨a, _ | after⟩ := effect
      · rfl
      · show (do
          writeObstacle d h.place h.file (contentOf d h.file).isEmpty
          return (⟨a, some after⟩ : Effect α) : Except DbFault (Effect α)) = _
        rw [hwritable]
        rfl
  simp only [Store.consult, hopen, Bool.false_eq_true, if_false, hprepare, hst.bind, hagain',
    hu.enter hsight, hrunOn]

/-- The columns of the database in a file. -/
def Columns (d : Disk) (n : Nat) (schema : Schema) : Prop :=
  ∃ db, (contentOf d n).view = .ok db ∧ schema = db.schema

theorem Offers.columns {p : Place} {n : Nat} {schema : Schema} (ho : Offers d p n db)
    (hcol : Columns d n schema) : schema = Database.empty.schema := by
  obtain ⟨db', hview, rfl⟩ := hcol
  rw [ho.content] at hview
  rw [← Except.ok.inj hview, ho.schema]

/-- A handle knows the columns that it knew, or those of the database in its file or of the one in sight. -/
theorem consult_schema {r : Except DbFault (Effect α)} (hc : consult d h st = (r, e, k)) :
    k.schema = h.schema ∨ Columns d h.file k.schema ∨ ∃ db, h.sight d = .ok db ∧ k.schema = db.schema := by
  have hprepare : (prepare d h st).2.schema = h.schema ∨ Columns d h.file (prepare d h st).2.schema := by
    have hknown : knownSchema d h st.table = h.schema ∨ Columns d h.file (knownSchema d h st.table) := by
      rw [knownSchema]
      split
      · exact .inl rfl
      · split
        · rename_i db hmeet
          exact .inr ⟨db, meet_view hmeet, rfl⟩
        · exact .inl rfl
    rw [prepare]
    split
    · exact .inl rfl
    · dsimp only
      split
      · exact hknown
      · split <;> exact hknown
  rw [consult] at hc
  split at hc
  · cases hc
    exact .inl rfl
  dsimp only at hc
  rcases hp : prepare d h st with ⟨ready, h₁⟩
  rw [hp] at hc hprepare
  have hready : ∀ x : Transaction, ({ h₁ with transaction := x } : Handle).schema = h.schema ∨
      Columns d h.file ({ h₁ with transaction := x } : Handle).schema ∨
        ∃ db, h.sight d = .ok db ∧ ({ h₁ with transaction := x } : Handle).schema = db.schema :=
    fun _ => hprepare.imp_right .inl
  cases ready with
  | error f =>
    cases hc
    exact hready k.transaction
  | ok _ =>
    dsimp only at hc
    generalize hh₂ : (if st.form.changesRows = true then
      { h₁ with transaction := h₁.transaction.started } else h₁) = h₂ at hc
    have hready₂ : h₂.schema = h.schema ∨ Columns d h.file h₂.schema ∨
        ∃ db, h.sight d = .ok db ∧ h₂.schema = db.schema := by
      rw [← hh₂]
      split
      · exact hready _
      · exact hready h₁.transaction
    split at hc
    · cases hc
      exact hready₂
    · cases hc
      exact hready₂
    · split at hc
      · cases hc
        exact hready₂
      · rename_i db henter
        cases hc
        exact .inr (.inr ⟨db, enter_sight henter, rfl⟩)

end Sight

/-! ## Work in a transaction -/

section Work

variable {α β : Type} {s v w : Store} {id : HandleId} {h : Handle}
  {seen : Except DbFault Database}

/-- A store while a handle works, with what it has in sight.  Nothing was written yet, and the columns that
the handle knows are those that it knew or those of its file. -/
structure Amid (s : Store) (id : HandleId) (h : Handle) (seen : Except DbFault Database) (v : Store) :
    Prop where
  state : ∃ d k, v = s.exchange d id k ∧ s.disk.Tidied h.place d ∧ Kin h k ∧ k.sight s.disk = seen ∧
    (k.schema = h.schema ∨ Columns s.disk h.file k.schema)
  columns : ∀ db, seen = .ok db → Columns s.disk h.file db.schema

theorem Amid.start (hh : s.handle? id = some h) (hx : h.transaction = .idle) :
    Amid s id h (contentOf s.disk h.file).view s where
  state := by
    refine ⟨s.disk, h, (setHandle_same hh).symm, .refl _ _, .refl h, ?_, .inl rfl⟩
    rw [Handle.sight, hx]
  columns := fun db hview => ⟨db, hview, rfl⟩

/-- What a statement comes to while a handle works.  It is refused with a fault of the database, and if
nothing keeps the handle from working and the statement is accepted, with its own. -/
inductive Runs (s : Store) (id : HandleId) (h : Handle) (seen : Except DbFault Database)
    (st : Statement α) : Except Fault α × Store → Prop
  | done {db : Database} {a : α} {after : Option Database} {w : Store} : seen = .ok db →
      st.run db = .ok ⟨a, after⟩ → Amid s id h (.ok (after.getD db)) w → Runs s id h seen st (.ok a, w)
  | refused {g : DbFault} {w : Store} : Amid s id h seen w →
      (∀ db₀, Unhindered s.disk h db₀ → st.Accepted → ∃ db, seen = .ok db ∧ st.run db = .error g) →
      Runs s id h seen st (.error (.db g), w)

/-- A statement that starts a transaction leaves in sight what was there. -/
theorem sight_of_started {d : Disk} {k k' : Handle} (hkin : Kin k k')
    (htrans : k'.transaction = k.transaction ∨ k'.transaction = k.transaction.started) :
    k'.sight d = k.sight d := by
  rw [Handle.sight, Handle.sight, hkin.akin.file]
  rcases htrans with he | he <;> rw [he]
  cases k.transaction <;> rfl

theorem sight_tidied {d e : Disk} {p : Place} (htidy : d.Tidied p e) (k : Handle) :
    k.sight e = k.sight d := by
  rw [Handle.sight, Handle.sight, htidy.contentOf_eq]

/-- Whatever the handle has learned or holds back, nothing keeps it from working if nothing did before. -/
theorem Unhindered.amid {d : Disk} {k : Handle} {db₀ : Database} (hu : Unhindered s.disk h db₀)
    (htidy : s.disk.Tidied h.place d) (hkin : Kin h k)
    (hlearned : k.schema = h.schema ∨ Columns s.disk h.file k.schema)
    (hcolumns : ∀ db, k.sight s.disk = .ok db → Columns s.disk h.file db.schema) :
    Unhindered d k db₀ ∧ ∃ db, k.sight s.disk = .ok db ∧ db.schema = Database.empty.schema := by
  have hfull : ∀ schema, Columns s.disk h.file schema → schema = Database.empty.schema :=
    fun _ hcol => hu.offers.columns hcol
  refine ⟨hu.kin htidy hkin fun t => ?_, ?_⟩
  · rcases hlearned with he | hcol
    · rw [he]
      exact hu.known t
    · rw [hfull _ hcol, shape_empty]
      exact nofun
  · cases hdb : k.sight s.disk with
    | ok db => exact ⟨db, rfl, hfull _ (hcolumns db hdb)⟩
    | error f =>
      have hview : (contentOf s.disk k.file).view = .error f := by
        rw [Handle.sight] at hdb
        split at hdb
        · cases hdb
        · exact hdb
        · exact hdb
      rw [hkin.akin.file, hu.offers.content] at hview
      cases hview

/-- A statement runs on what is in sight, and leaves in sight what it made of it. -/
theorem exec_runs (ha : Amid s id h seen v) (hh : s.handle? id = some h) {st : Statement α}
    (hst : st.Rowwise) : Runs s id h seen st (Step.outcome (exec id st) v) := by
  obtain ⟨⟨d, k, rfl, htidy, hkin, rfl, hlearned⟩, hcolumns⟩ := ha
  have hk := handle_exchange hh d k
  rcases hc : consult d k st with ⟨r, e, k'⟩
  obtain ⟨htidy', hkin', htrans⟩ := consult_tidied hc
  rw [hkin.akin.place] at htidy'
  have hsight : k'.sight s.disk = k.sight s.disk :=
    sight_of_started hkin' (htrans.imp_right And.right)
  have hlearned' : k'.schema = h.schema ∨ Columns s.disk h.file k'.schema := by
    rcases consult_schema hc with he | ⟨db, hview, he⟩ | ⟨db, hdb, he⟩
    · rw [he]
      exact hlearned
    · rw [htidy.contentOf_eq, hkin.akin.file] at hview
      exact .inr ⟨db, hview, he⟩
    · rw [sight_tidied htidy] at hdb
      exact .inr (he ▸ hcolumns db hdb)
  have hstill : Amid s id h (k.sight s.disk) ((s.exchange d id k).exchange e id k') :=
    ⟨⟨e, k', exchange_exchange .., htidy.trans htidy', hkin.trans hkin', hsight, hlearned'⟩, hcolumns⟩
  cases r with
  | error g =>
    rw [exec_refused_run hk hc]
    refine .refused hstill fun db₀ hu hacc => ?_
    obtain ⟨huk, db, hdb, hschema⟩ := hu.amid htidy hkin hlearned hcolumns
    have hsame := huk.consult ((sight_tidied htidy k).trans hdb) hschema hacc
    rw [hc] at hsame
    exact ⟨db, hdb, hsame.symm⟩
  | ok effect =>
    obtain ⟨a, after⟩ := effect
    obtain ⟨db, henter, hrun⟩ := consult_changed hc
    have hseen : k.sight s.disk = .ok db := (sight_tidied htidy k).symm.trans (enter_sight henter)
    cases after with
    | none =>
      rw [exec_quiet_run hk hc]
      refine .done hseen hrun ?_
      rw [Option.getD_none, ← hseen]
      exact hstill
    | some after =>
      have hform : st.form.changesRows = true := by
        rw [← Bool.not_eq_false]
        intro hform
        cases hst.quiet hform hrun
      have hpending : k'.transaction ≠ .idle := by
        rw [consult_started hc hform]
        cases k.transaction <;> exact nofun
      have hk' := handle_exchange hk e k'
      have hkept : Step.outcome (do
          keep id after
          return a) ((s.exchange d id k).exchange e id k') =
          (.ok a, s.exchange e id { k' with transaction := .changed after }) := by
        rw [Step.run_bind, keep_pending hk' hpending, setHandle_exchange, exchange_exchange]
        rfl
      rw [exec_changed_run hk hc]
      refine hkept.symm ▸ .done hseen hrun ⟨⟨e, _, rfl, htidy.trans htidy', (hkin.trans hkin').trans rfl,
        rfl, hlearned'⟩, ?_⟩
      rintro _ ⟨rfl⟩
      rw [Option.getD_some, hst.schema hrun]
      exact hcolumns db hseen

/-- What work comes to that a handle does: what it makes of what is in sight, or a fault of the database,
which does not come up if nothing keeps the handle from working and the work is possible. -/
inductive Made (s : Store) (id : HandleId) (h : Handle) (seen : Except DbFault Database)
    (makes : Database → α → Database → Prop) (possible : Prop) : Except Fault α × Store → Prop
  | done {db after : Database} {a : α} {w : Store} : seen = .ok db → makes db a after →
      Amid s id h (.ok after) w → Made s id h seen makes possible (.ok a, w)
  | refused {seen' : Except DbFault Database} {g : DbFault} {w : Store} : Amid s id h seen' w →
      (∀ db, Unhindered s.disk h db → ¬ possible) → Made s id h seen makes possible (.error (.db g), w)

/-- Work makes something of what is in sight. -/
def Makes (s : Store) (id : HandleId) (h : Handle) (x : Step α)
    (makes : Database → α → Database → Prop) (possible : Prop) : Prop :=
  ∀ v seen, Amid s id h seen v → Made s id h seen makes possible (Step.outcome x v)

variable {makes : Database → α → Database → Prop} {possible : Prop}

/-- A statement makes of a database what it says. -/
theorem exec_makes (hh : s.handle? id = some h) {st : Statement α} (hst : st.Rowwise)
    (hmakes : ∀ {db a after}, st.run db = .ok ⟨a, after⟩ → makes db a (after.getD db))
    (hposs : possible → st.Accepted ∧
      ∀ db, db.schema = Database.empty.schema → ∃ effect, st.run db = .ok effect) :
    Makes s id h (exec id st) makes possible := by
  intro v seen ha
  have hcolumns := ha.columns
  have hruns := exec_runs ha hh hst
  generalize Step.outcome (exec id st) v = r at hruns
  cases hruns with
  | done hseen hrun hafter => exact .done hseen (hmakes hrun) hafter
  | refused hstill hwhy =>
    refine .refused hstill fun db₀ hu hpossible => ?_
    obtain ⟨hacc, htotal⟩ := hposs hpossible
    obtain ⟨db, hseen, hrun⟩ := hwhy db₀ hu hacc
    obtain ⟨effect, hok⟩ := htotal db (hu.offers.columns (hcolumns db hseen))
    rw [hrun] at hok
    cases hok

/-- Work that goes on where something is in sight. -/
def Goes (s : Store) (id : HandleId) (h : Handle) (x : Step α)
    (makes : Database → α → Database → Prop) (possible : Prop) : Prop :=
  ∀ v db, Amid s id h (.ok db) v → Made s id h (.ok db) makes possible (Step.outcome x v)

theorem Makes.bind {x : Step α} {f : α → Step β} {makes' : Database → α → Database → Prop}
    {makes'' : α → Database → β → Database → Prop} {makes : Database → β → Database → Prop}
    (hx : Makes s id h x makes' possible) (hf : ∀ a, Goes s id h (f a) (makes'' a) possible)
    (hboth : ∀ {db a mid b after}, makes' db a mid → makes'' a mid b after → makes db b after) :
    Makes s id h (x >>= f) makes possible := by
  intro v seen ha
  have hmade := hx v seen ha
  rw [Step.run_bind]
  generalize Step.outcome x v = r at hmade
  cases hmade with
  | refused hstill hwhy => exact .refused hstill hwhy
  | @done db mid a w hseen hfirst hmid =>
    have hmade := hf a w mid hmid
    dsimp only
    generalize Step.outcome (f a) w = r at hmade
    cases hmade with
    | refused hstill hwhy => exact .refused hstill hwhy
    | @done mid' after b u hseen' hsecond hafter =>
      cases hseen'
      exact .done hseen (hboth hfirst hsecond) hafter

/-- What a transaction comes to.  The file has what the work made, or it is as it was and the transaction is
over. -/
inductive Finishes (s : Store) (id : HandleId) (h : Handle) (makes : Database → α → Database → Prop)
    (possible : Prop) : Except Fault α × Store → Prop
  | same {db : Database} {a : α} {d : Disk} {k : Handle} : (contentOf s.disk h.file).view = .ok db →
      makes db a db → s.disk.Tidied h.place d → Kin h k → k.transaction = .idle →
      (k.schema = h.schema ∨ Columns s.disk h.file k.schema) →
      Finishes s id h makes possible (.ok a, s.exchange d id k)
  | written {db after : Database} {a : α} {d : Disk} {k : Handle} :
      (contentOf s.disk h.file).view = .ok db → makes db a after → s.disk.Tidied h.place d → Kin h k →
      k.transaction = .idle → k.schema = after.schema → Columns s.disk h.file after.schema →
      Finishes s id h makes possible (.ok a, s.exchange (commit d h.place h.file after) id k)
  | refused {g : DbFault} {d : Disk} {k : Handle} : s.disk.Tidied h.place d → Kin h k →
      k.transaction = .idle → (k.schema = h.schema ∨ Columns s.disk h.file k.schema) →
      (∀ db, Unhindered s.disk h db → ¬ possible) →
      Finishes s id h makes possible (.error (.db g), s.exchange d id k)

/-- A transaction writes what its work makes, and gives up what work has made that fails. -/
theorem transact_finishes (hh : s.handle? id = some h) (hx : h.transaction = .idle) {body : Step α}
    (hbody : Makes s id h body makes possible) :
    Finishes s id h makes possible (Step.outcome (transact id body) s) := by
  have hmade := hbody s _ (.start hh hx)
  rcases hrun : Step.outcome body s with ⟨r, v⟩
  rw [hrun] at hmade
  cases hmade with
  | refused hstill hwhy =>
    obtain ⟨d, k, rfl, htidy, hkin, -, hlearned⟩ := hstill.state
    rw [transact_failed hrun (handle_exchange hh d k), setHandle_exchange]
    exact .refused htidy (hkin.trans rfl) rfl hlearned hwhy
  | @done db after a w hview hdid hafter =>
    obtain ⟨⟨d, k, rfl, htidy, hkin, hsight, hlearned⟩, hcolumns⟩ := hafter
    have hdone := transact_done hrun (handle_exchange hh d k)
    rw [Handle.sight] at hsight
    rw [hdone]
    cases htrans : k.transaction with
    | idle | begun =>
      rw [htrans] at hsight
      dsimp only at hsight ⊢
      rw [hkin.akin.file, hview, Except.ok.injEq] at hsight
      subst hsight
      rw [setHandle_exchange]
      exact .same hview hdid htidy (hkin.trans rfl) rfl hlearned
    | changed held =>
      rw [htrans] at hsight
      cases hsight
      have hstate : Finishes s id h makes possible (.ok a,
          s.exchange (commit d h.place h.file after) id { k with transaction := .idle, schema := after.schema }) :=
        .written hview hdid htidy (hkin.trans rfl) rfl rfl (hcolumns after rfl)
      rw [← exchange_exchange s d _ id k, ← hkin.akin.place, ← hkin.akin.file] at hstate
      exact hstate

/-- What a statement comes to that only looks, outside of a transaction.  The handle may have learned the
columns of its file. -/
inductive Looks (s : Store) (id : HandleId) (h : Handle) (st : Statement α) : Except Fault α × Store → Prop
  | found {db : Database} {a : α} {d : Disk} {k : Handle} : (contentOf s.disk h.file).view = .ok db →
      st.run db = .ok ⟨a, none⟩ → s.disk.Tidied h.place d → Kin h k → k.transaction = .idle →
      (k.schema = h.schema ∨ Columns s.disk h.file k.schema) → Looks s id h st (.ok a, s.exchange d id k)
  | refused {g : DbFault} {d : Disk} {k : Handle} : s.disk.Tidied h.place d → Kin h k →
      k.transaction = .idle → (k.schema = h.schema ∨ Columns s.disk h.file k.schema) →
      (∀ db, Unhindered s.disk h db → st.Accepted → st.run db = .error g) →
      Looks s id h st (.error (.db g), s.exchange d id k)

theorem exec_looks (hh : s.handle? id = some h) (hx : h.transaction = .idle) {st : Statement α}
    (hst : st.Rowwise) (hform : st.form.changesRows = false) :
    Looks s id h st (Step.outcome (exec id st) s) := by
  have hruns := exec_runs (.start hh hx) hh hst
  rcases hc : consult s.disk h st with ⟨r, d, k⟩
  obtain ⟨htidy, hkin, htrans⟩ := consult_tidied hc
  have hidle : k.transaction = .idle := by
    rcases htrans with he | ⟨he, -⟩
    · rw [he, hx]
    · rw [hform] at he
      cases he
  have hsight : h.sight s.disk = (contentOf s.disk h.file).view := by rw [Handle.sight, hx]
  have hlearned : k.schema = h.schema ∨ Columns s.disk h.file k.schema := by
    rcases consult_schema hc with he | hcol | ⟨db, hdb, he⟩
    · exact .inl he
    · exact .inr hcol
    · exact .inr ⟨db, hsight ▸ hdb, he⟩
  cases r with
  | error g =>
    rw [exec_refused_run hh hc] at hruns ⊢
    cases hruns with
    | refused _ hwhy =>
      refine .refused htidy hkin hidle hlearned fun db hu hacc => ?_
      obtain ⟨db', hview, hrun⟩ := hwhy db hu hacc
      rw [hu.offers.content] at hview
      rw [Except.ok.inj hview]
      exact hrun
  | ok effect =>
    obtain ⟨a, after⟩ := effect
    obtain ⟨db, henter, hrun⟩ := consult_changed hc
    obtain rfl : after = none := hst.quiet hform hrun
    rw [exec_quiet_run hh hc]
    exact .found (hsight ▸ enter_sight henter) hrun htidy hkin hidle hlearned

/-! ## What the operations make -/

theorem accepted_of_bindKey {st : Statement α} {k : RowKey} {f : DbFault} (hk : k.fits)
    (hcheck : st.check = unlessKeyOnly f) (hbind : st.bind = bindKey k) : st.Accepted where
  check := fun shape hne => by
    rw [hcheck]
    exact accepted_unlessKeyOnly shape hne
  bind := by
    rw [hbind, bindKey, if_pos hk]

/-- Work that inserts a row where the first statement matched none. -/
theorem Makes.upsert {update : Step Nat} {insert : Step Unit} {count : Database → Nat}
    {changed added : Database → Database}
    (hupdate : Makes s id h update (fun db n mid => n = count db ∧ mid = changed db) possible)
    (hinsert : Makes s id h insert (fun mid _ after => after = added mid) possible) :
    Makes s id h (do
      let n ← update
      if n = 0 then insert)
      (fun db _ after => after = if count db = 0 then added (changed db) else changed db) possible := by
  have hrest : ∀ n : Nat, Goes s id h (if n = 0 then insert else pure ())
      (fun mid _ after => after = if n = 0 then added mid else mid) possible := by
    intro n
    by_cases hn : n = 0
    · simp only [hn, if_true]
      exact fun v db ha => hinsert v _ ha
    · simp only [hn, if_false]
      exact fun v db ha => .done rfl rfl ha
  refine hupdate.bind hrest ?_
  · rintro db _ _ _ _ ⟨rfl, rfl⟩ rfl
    rfl

/-- The work of putting a tile. -/
theorem putTile_makes (hh : s.handle? id = some h) (k : RowKey) (b : Blob) :
    Makes s id h (do
      let count ← exec id (updateTile k (.blob b))
      if count = 0 then exec id (insertTile k (.blob b)))
      (fun db _ after => after = onTiles db (withTile k b)) k.fits := by
  have hupdate : Makes s id h (exec id (updateTile k (.blob b)))
      (fun db n mid => n = db.tileRows.countP (fun r => decide (r.key = k)) ∧
        mid = onTiles db (·.map (fun r => if r.key = k then { r with data := .blob b } else r))) k.fits :=
    exec_makes hh (.of_counted rfl (fun _ => rfl) fun db => onTiles_schema db _)
      (fun hrun => counted_after hrun) fun hk => ⟨accepted_of_bindKey hk rfl rfl, fun db _ => ⟨_, rfl⟩⟩
  have hinsert : Makes s id h (exec id (insertTile k (.blob b)))
      (fun mid _ after => after = onTiles mid (· ++ [⟨k, .blob b⟩])) k.fits := by
    refine exec_makes hh (rowwise_insertTile k _) (fun hrun => ?_) fun hk =>
      ⟨accepted_of_bindKey hk rfl rfl, fun db hschema => ⟨_, if_neg (by rw [hschema]; exact nofun)⟩⟩
    simp only [insertTile] at hrun
    split at hrun
    · cases hrun
    · cases hrun
      rfl
  have hboth : ∀ db : Database, onTiles db (withTile k b) =
      if db.tileRows.countP (fun r => decide (r.key = k)) = 0 then
        onTiles (onTiles db (·.map (fun r => if r.key = k then { r with data := .blob b } else r)))
          (· ++ [⟨k, .blob b⟩])
      else onTiles db (·.map (fun r => if r.key = k then { r with data := .blob b } else r)) := by
    intro db
    rw [onTiles_onTiles, ← apply_ite (onTiles db)]
    apply onTiles_congr
    simp only [withTile, upsert_eq, decide_eq_true_eq]
    split <;> rfl
  simp only [hboth]
  exact hupdate.upsert hinsert

/-- The work of putting a value of metadata. -/
theorem putValue_makes (hh : s.handle? id = some h) (key value : String) :
    Makes s id h (do
      let count ← exec id (updateValue key value)
      if count = 0 then exec id (insertValue (.text key) (.text value)))
      (fun db _ after => after = onMetadata db (withValue key value)) True := by
  have hupdate : Makes s id h (exec id (updateValue key value))
      (fun db n mid => n = db.metadataRows.countP (fun r => decide (r.key = .text key)) ∧
        mid = onMetadata db
          (·.map (fun r => if r.key = .text key then { r with value := .text value } else r))) True :=
    exec_makes hh (.of_counted rfl (fun _ => rfl) fun db => onMetadata_schema db _)
      (fun hrun => counted_after hrun) fun _ => ⟨⟨accepted_unlessKeyOnly, rfl⟩, fun db _ => ⟨_, rfl⟩⟩
  have hinsert : Makes s id h (exec id (insertValue (.text key) (.text value)))
      (fun mid _ after => after = onMetadata mid (· ++ [⟨.text key, .text value⟩])) True := by
    refine exec_makes hh (rowwise_insertValue _ _) (fun hrun => ?_) fun _ =>
      ⟨⟨accepted_unlessKeyOnly, rfl⟩, fun db hschema => ⟨_, if_neg (by rw [hschema]; exact nofun)⟩⟩
    simp only [insertValue] at hrun
    split at hrun
    · cases hrun
    · cases hrun
      rfl
  have hboth : ∀ db : Database, onMetadata db (withValue key value) =
      if db.metadataRows.countP (fun r => decide (r.key = .text key)) = 0 then
        onMetadata (onMetadata db
          (·.map (fun r => if r.key = .text key then { r with value := .text value } else r)))
          (· ++ [⟨.text key, .text value⟩])
      else onMetadata db
        (·.map (fun r => if r.key = .text key then { r with value := .text value } else r)) := by
    intro db
    rw [onMetadata_onMetadata, ← apply_ite (onMetadata db)]
    apply onMetadata_congr
    simp only [withValue, upsert_eq, decide_eq_true_eq]
    split <;> rfl
  simp only [hboth]
  exact hupdate.upsert hinsert

/-- The work of removing a tile. -/
theorem deleteTile_makes (hh : s.handle? id = some h) (k : RowKey) :
    Makes s id h (exec id (Statement.deleteTile k))
      (fun db n after => n = db.tileRows.countP (fun r => decide (r.key = k)) ∧
        after = onTiles db (·.filter (fun r => !decide (r.key = k)))) k.fits :=
  exec_makes hh (.of_counted rfl (fun _ => rfl) fun db => onTiles_schema db _)
    (fun hrun => counted_after hrun) fun hk => ⟨accepted_of_bindKey hk rfl rfl, fun _ _ => ⟨_, rfl⟩⟩

/-- The work of removing the tiles of a grid set. -/
theorem deleteGrid_makes (hh : s.handle? id = some h) (grid : String) :
    Makes s id h (exec id (deleteGrid grid))
      (fun db n after => n = db.tileRows.countP (fun r => decide (r.key.grid = grid)) ∧
        after = onTiles db (·.filter (fun r => !decide (r.key.grid = grid)))) True :=
  exec_makes hh (.of_counted rfl (fun _ => rfl) fun db => onTiles_schema db _)
    (fun hrun => counted_after hrun) fun _ => ⟨⟨fun _ _ => rfl, rfl⟩, fun _ _ => ⟨_, rfl⟩⟩

end Work

end Store

end TileDepot
