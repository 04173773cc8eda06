import TileDepot.Proofs.Working

/-!
# Acts

An `Act` is one thing that an operation does to a store.  Acts say more than changes do: which columns a
handle comes to know, and what became of a database that was written.  So whatever every act keeps of the
tables and of the handles on them is kept by every operation.  Operations that open a layer do not move
files, and the databases that they write are revisions of the database that was there.

* `Composed` states that every handle was issued at the path of a layer and has no transaction; every act
  keeps it.
* `Step.Does` is what a step does.  Its rules follow the way in which steps are put together, and
  `does_session` is the one for work with a handle.
* `perform_does` is about all operations.
-/

namespace TileDepot

namespace Store

/-- The cache is in order, and every handle that was issued was issued at the path of a layer and has no
transaction. -/
structure Composed (s : Store) : Prop where
  registered : s.Registered
  handles : ∀ id h, s.handle? id = some h → h.transaction = .idle ∧
    ∃ m, s.pathOf? m = some h.path ∧ h.place = h.path.resolved.names

/-- One thing that an operation does.  What is written is a revision of what was there, and files are moved
only if that may be. -/
inductive Act (moving : Prop) (revises : Database → Database → Prop) : Store → Store → Prop
  /-- Something is logged, announced or counted. -/
  | noted (s : Store) (l : List LogRecord) (es : List Event) (n : Nat) :
      Act moving revises s { s with log := l, events := es, staleAcquires := n }
  /-- A handle is forgotten. -/
  | forgot (s : Store) (name : String) (id : HandleId) :
      Act moving revises s { s with cache := s.without name id }
  /-- All handles are forgotten. -/
  | emptied (s : Store) : Act moving revises s { s with cache := [] }
  /-- A handle is closed. -/
  | released (s : Store) (id : HandleId) :
      Act moving revises s { s with issued := s.issued.modify id Handle.released }
  /-- Files beside a layer's database are taken away. -/
  | tidied {s : Store} {m : String} {p : Path} {d : Disk} : s.pathOf? m = some p →
      s.disk.Tidied p.resolved.names d → Act moving revises s { s with disk := d }
  /-- A handle comes to know the columns of the database in its file. -/
  | learned {s : Store} {id : HandleId} {h k : Handle} : s.handle? id = some h → Kin h k →
      k.transaction = .idle → (k.schema = h.schema ∨ Columns s.disk h.file k.schema) →
      Act moving revises s (s.setHandle id k)
  /-- A file is found or made for a layer whose path leads nowhere, and the tables are not made in it. -/
  | blanked {s : Store} {m : String} {p : Path} {d e : Disk} {n : Nat} : s.pathOf? m = some p →
      s.disk.exists? p = .ok false → Meets s.disk p true d n → d.Tidied p.resolved.names e →
      Act moving revises s { s with disk := e }
  /-- The tables are made in a file that was found or made for a layer whose path leads nowhere, and the
  file is opened. -/
  | made {s : Store} {m : String} {p : Path} {d e : Disk} {n : Nat} {db : Database} :
      s.pathOf? m = some p → s.disk.exists? p = .ok false → Meets s.disk p true d n →
      d.Tidied p.resolved.names e → (contentOf e n).view = .ok db → db.tiles = none → db.metadata = none →
      Act moving revises s (enlist { s with disk := commit e p.resolved.names n db.furnished } m
        (.fresh m p n db.furnished.schema))
  /-- The file of a layer is opened. -/
  | opened {s : Store} {m : String} {p : Path} {n : Nat} {db : Database} {d : Disk} : s.pathOf? m = some p →
      s.disk.find p.resolved = .ok (p.resolved.names, .file n) → (contentOf s.disk n).view = .ok db →
      db.missing = [] → s.disk.Tidied p.resolved.names d →
      Act moving revises s (enlist { s with disk := d } m (.fresh m p n db.schema))
  /-- A revised database is written into the file of a handle. -/
  | written {s : Store} {id : HandleId} {h k : Handle} {db after : Database} : s.handle? id = some h →
      Kin h k → k.transaction = .idle → k.schema = after.schema → (contentOf s.disk h.file).view = .ok db →
      Columns s.disk h.file after.schema → revises db after →
      Act moving revises s (s.exchange (commit s.disk h.place h.file after) id k)
  /-- Files are removed or moved. -/
  | moved {s : Store} {d : Disk} : moving → d.bodies = s.disk.bodies →
      Act moving revises s { s with disk := d }

/-- A sequence of acts. -/
abbrev Acts (moving : Prop) (revises : Database → Database → Prop) : Store → Store → Prop :=
  Relation.ReflTransGen (Act moving revises)

/-- A sequence of acts that moves no files and writes nothing. -/
abbrev Gentle : Store → Store → Prop := Acts False (fun _ _ => False)

section Acts

variable {α β : Type} {moving : Prop} {revises : Database → Database → Prop} {s t : Store} {m : String}
  {p : Path} {id : HandleId} {h : Handle}

theorem Act.config (ha : Act moving revises s t) : t.config = s.config := by
  cases ha <;> rfl

theorem Acts.config (ha : Acts moving revises s t) : t.config = s.config := by
  induction ha with
  | refl => rfl
  | tail _ hstep ih => exact hstep.config.trans ih

theorem Acts.pathOf (ha : Acts moving revises s t) (m : String) : t.pathOf? m = s.pathOf? m := by
  rw [pathOf?, pathOf?, ha.config]

/-! ## Composure -/

theorem Composed.resting (hs : s.Composed) : s.Resting := fun _ id h _ hh => (hs.handles id h hh).1

theorem Composed.fresh (c : StoreConfig) (d : Disk) (ddl : Ddl) : (Store.fresh c d ddl).Composed where
  registered := ⟨List.nodup_nil, fun _ _ hid => nomatch hid⟩
  handles := fun _ _ hh => nomatch hh

theorem Composed.modify {f : Handle → Handle} (hs : s.Composed)
    (hf : ∀ h, s.handle? id = some h → h.Akin (f h) ∧ (f h).transaction = .idle) :
    ({ s with issued := s.issued.modify id f } : Store).Composed where
  registered := hs.registered.modify fun h hh => (hf h hh).1
  handles := by
    intro i k hk
    rcases handle_of_modified (s := s) rfl hk with hold | ⟨rfl, h, hh, rfl⟩
    · exact hs.handles i k hold
    · obtain ⟨-, n, hp, hplace⟩ := hs.handles i h hh
      obtain ⟨hakin, hidle⟩ := hf h hh
      exact ⟨hidle, n, hakin.path ▸ hp, by rw [hakin.place, hakin.path, hplace]⟩

theorem Composed.enlist (hs : s.Composed) (hp : s.pathOf? m = some p) (d : Disk) (n : Nat)
    (schema : Schema) : (Store.enlist { s with disk := d } m (.fresh m p n schema)).Composed where
  registered := hs.registered.enlist hp d n schema
  handles := by
    intro i k hk
    rcases handle_of_issued (s := s) rfl hk with hold | ⟨-, rfl⟩
    · exact hs.handles i k hold
    · exact ⟨rfl, m, hp, rfl⟩

theorem Act.composed (ha : Act moving revises s t) (hs : s.Composed) : t.Composed := by
  have hdisk : ∀ d, ({ s with disk := d } : Store).Composed := fun d => ⟨hs.registered.onDisk d, hs.handles⟩
  cases ha with
  | noted => exact ⟨⟨hs.registered.keys, hs.registered.cached⟩, hs.handles⟩
  | forgot name id =>
    exact ⟨hs.registered.lessened rfl (keys_without hs.registered.keys name id) (fun _ _ => get?_without)
      fun _ h hh => ⟨h, hh, .refl h⟩, hs.handles⟩
  | emptied => exact ⟨⟨List.nodup_nil, fun _ _ hid => nomatch hid⟩, hs.handles⟩
  | released id =>
    exact hs.modify fun h hh => ⟨h.released_akin, (released_transaction h).trans (hs.handles id h hh).1⟩
  | tidied | blanked | moved => exact hdisk _
  | learned hh hkin hidle =>
    refine hs.modify fun h' hh' => ?_
    rw [hh, Option.some.injEq] at hh'
    exact ⟨hh' ▸ hkin.akin, hidle⟩
  | made hp | opened hp => exact hs.enlist hp _ _ _
  | written hh hkin hidle =>
    refine (hdisk _).modify fun h' hh' => ?_
    have he : some h' = some _ := hh'.symm.trans hh
    rw [Option.some.inj he]
    exact ⟨hkin.akin, hidle⟩

theorem Acts.composed (ha : Acts moving revises s t) (hs : s.Composed) : t.Composed := by
  induction ha with
  | refl => exact hs
  | tail _ hstep ih => exact hstep.composed ih

end Acts

end Store

/-! ## What steps do -/

namespace Step

open Store

/-- A step does nothing but acts. -/
def Does {α : Type} (moving : Prop) (revises : Database → Database → Prop) (x : Step α) : Prop :=
  ∀ s : Store, s.Composed → Acts moving revises s (outcome x s).2

namespace Does

variable {α β : Type} {moving : Prop} {revises : Database → Database → Prop} {x : Step α}

theorem pure (a : α) : Does moving revises (Pure.pure a : Step α) := fun _ _ => .refl

theorem throw (f : Fault) : Does moving revises (throw f : Step α) := fun _ _ => .refl

theorem get : Does moving revises (get : Step Store) := fun _ _ => .refl

theorem view (f : Store → α) : Does moving revises (view f) := fun _ _ => .refl

theorem after {f : α → Step β} {s : Store} (hs : s.Composed) (hx : Acts moving revises s (outcome x s).2)
    (hf : ∀ a, Does moving revises (f a)) : Acts moving revises s (outcome (x >>= f) s).2 := by
  rw [run_bind]
  generalize outcome x s = r at hx
  obtain ⟨f | a, t⟩ := r
  · exact hx
  · exact hx.trans (hf a t (hx.composed hs))

theorem bind {f : α → Step β} (hx : Does moving revises x) (hf : ∀ a, Does moving revises (f a)) :
    Does moving revises (x >>= f) :=
  fun s hs => after hs (hx s hs) hf

theorem tryCatch {f : Fault → Step α} (hx : Does moving revises x) (hf : ∀ e, Does moving revises (f e)) :
    Does moving revises (tryCatch x f) := by
  intro s hs
  have hdoes := hx s hs
  rw [run_tryCatch]
  generalize outcome x s = r at hdoes
  obtain ⟨e | a, t⟩ := r
  · exact hdoes.trans (hf e t (hdoes.composed hs))
  · exact hdoes

/-- A step that looks at the store first does what it does in that store. -/
theorem looking {f : Store → Step α}
    (hf : ∀ s : Store, s.Composed → Acts moving revises s (outcome (f s) s).2) :
    Does moving revises ((MonadState.get : Step Store) >>= f) :=
  fun s hs => hf s hs

theorem note (severity : Severity) (channel : Channel) (message : String) :
    Does moving revises (note severity channel message) :=
  fun s _ => .single (.noted s _ s.events s.staleAcquires)

theorem announce (e : Event) : Does moving revises (announce e) :=
  fun s _ => .single (.noted s s.log _ s.staleAcquires)

theorem fail (cause : Cause) (layer : Option String) (operation : String) :
    Does moving revises (fail cause layer operation : Step α) := throw _

theorem ofDisk (r : Except OsFault α) : Does moving revises (ofDisk r) := by
  cases r with
  | ok a => exact pure a
  | error f => exact throw _

theorem translated (layer operation : String) (hx : Does moving revises x) :
    Does moving revises (translated layer operation x) := by
  refine tryCatch hx fun f => ?_
  cases f with
  | db g => exact fail (.statement g) (some layer) operation
  | _ => exact throw _

theorem forM {γ : Type} {f : γ → Step Unit} (hf : ∀ a, Does moving revises (f a)) (l : List γ) :
    Does moving revises (l.forM f) := by
  induction l with
  | nil => exact pure ()
  | cons a l ih => exact bind (hf a) fun _ => ih

theorem mapM {γ : Type} {f : γ → Step α} (hf : ∀ a, Does moving revises (f a)) (l : List γ) :
    Does moving revises (l.mapM f) := by
  induction l with
  | nil => exact pure []
  | cons a l ih =>
    rw [List.mapM_cons]
    exact bind (hf a) fun _ => bind ih fun _ => pure _

end Does

end Step

namespace Store

open Step

variable {α : Type} {moving : Prop} {revises : Database → Database → Prop} {s : Store} {m : String}
  {id : HandleId}

/-! ## Getting hold of a handle -/

theorem does_pathFor (m : String) : Does moving revises (pathFor m) := by
  refine .bind (.view _) fun c => ?_
  split
  · exact .pure _
  · exact .throw _

theorem does_isOpen (id : HandleId) : Does moving revises (isOpen id) := by
  intro s _
  cases hh : s.handle? id with
  | none =>
    have hrun : outcome (isOpen id) s = (.ok false, s) := by
      simp only [isOpen, run_bind, run_get, hh, run_pure]
    rw [hrun]
  | some h =>
    have htested := isOpen_tested hh
    generalize outcome (isOpen id) s = r at htested
    cases htested with
    | passed | unanswered => exact .refl
    | failed l => exact .single (.noted s l s.events s.staleAcquires)

theorem does_close (id : HandleId) : Does moving revises (close id) := by
  intro s _
  obtain ⟨r, hclose, -⟩ := close_attempt id s
  rw [hclose]
  exact .single (.released s id)

theorem does_closeQuietly (id : HandleId) : Does moving revises (closeQuietly id) := by
  refine .tryCatch (does_close id) fun f => ?_
  cases f with
  | db g => exact .bind .get fun s => .note _ _ _
  | _ => exact .throw _

theorem does_dropHandle (m : String) (id : HandleId) : Does moving revises (dropHandle m id) := by
  refine .bind (fun s _ => ?_) fun _ => does_closeQuietly id
  have hforgot : Act moving revises s _ := .forgot s m id
  rw [run_modify]
  rw [without] at hforgot
  by_cases hid : s.cache.get? m = some id
  · rw [if_pos hid] at hforgot ⊢
    exact .single hforgot
  · rw [if_neg hid]

/-- Opening or making the file of a layer. -/
theorem does_renew (m : String) : Does moving revises (renew m) := by
  intro s hs
  cases hp : s.pathOf? m with
  | none =>
    have hrun : outcome (renew m) s = (.error .emptyName, s) := by
      simp only [renew, run_bind, pathFor_none hp]
    rw [hrun]
  | some p =>
    have hlog : ∀ l, Act moving revises s { s with log := l } := fun l =>
      .noted s l s.events s.staleAcquires
    rcases renew_cases hp with ⟨-, hrun⟩ | ⟨-, r, hrun, ⟨hthere, hopening⟩ | ⟨hthere, hmaking⟩⟩
    · rw [hrun]
    · rw [hrun]
      have htidy := fun n => settle_tidied s.disk p.resolved.names n false
      cases hopening with
      | refused l => exact .single (hlog l)
      | unreadable l | lacking l =>
        exact (Relation.ReflTransGen.single (hlog l)).tail (.tidied (s := { s with log := l }) hp (htidy _))
      | opened l hf hmeet hmissing =>
        exact (Relation.ReflTransGen.single (hlog l)).tail
          (.opened (s := { s with log := l }) hp hf (meet_view hmeet) hmissing (htidy _))
    · rw [hrun]
      cases hmaking with
      | refused l => exact .single (hlog l)
      | @failed d n f l hmeets _ =>
        exact (Relation.ReflTransGen.single (hlog l)).tail
          (.blanked (s := { s with log := l }) hp hthere hmeets (settle_tidied d p.resolved.names n true))
      | @made d n db l hmeets hddl =>
        obtain ⟨old, hmeet, htiles, hmeta, rfl⟩ := withTables_ok hddl
        exact (Relation.ReflTransGen.single (hlog l)).tail
          (.made (s := { s with log := l }) hp hthere hmeets (settle_tidied d p.resolved.names n true)
            (meet_view hmeet) htiles hmeta)

theorem does_obtain (m : String) : Does moving revises (obtain m) := by
  have hcached : Does moving revises (cached m) := .view _
  refine .bind (.bind hcached fun found => ?_) fun usable => ?_
  · cases found with
    | none => exact .pure none
    | some id => exact .bind (does_isOpen id) fun b => by cases b <;> exact .pure _
  · cases usable with
    | some id => exact .pure id
    | none =>
      refine .bind (does_pathFor m) fun _ => .bind hcached fun found => ?_
      cases found with
      | none => exact does_renew m
      | some id =>
        refine .bind (does_isOpen id) fun b => ?_
        cases b with
        | true => exact .pure id
        | false =>
          exact .bind .get fun _ => .bind (.note _ _ _) fun _ => .bind (does_dropHandle m id) fun _ => does_renew m

theorem does_acquire (m : String) : Does moving revises (acquire m) := by
  refine .bind .get fun u => .bind (fun s _ => .single (.noted s s.log s.events _)) fun _ =>
    .bind (does_obtain m) fun id => ?_
  split
  · exact .bind (does_close id) fun _ => .pure id
  · exact .pure id

theorem does_acquireOpen (m : String) (retries : Nat) : Does moving revises (acquireOpen m retries) := by
  induction retries with
  | zero => exact does_acquire m
  | succ retries ih =>
    refine .bind (does_acquire m) fun id => .bind .get fun t => ?_
    split
    · exact ih
    · exact .pure id

/-- Work with a handle of a layer does what it does with the handle that is cached then. -/
theorem does_session {body : HandleId → Step α} (hbody : ∀ (id : HandleId) (t : Store), t.Composed →
    t.cache.get? m = some id → Acts moving revises t (outcome (body id) t).2) :
    Does moving revises (session m body) := by
  refine .looking fun s hs => ?_
  have hgrant := acquireOpen_granted hs.registered m s.staleAcquires
  have hdoes : Acts moving revises s _ := does_acquireOpen m s.staleAcquires s hs
  rw [run_bind]
  generalize outcome (acquireOpen m s.staleAcquires) s = r at hgrant hdoes
  obtain ⟨f | id, t⟩ := r
  · exact hdoes
  · exact hdoes.trans (hbody id t (hdoes.composed hs) hgrant.2.1)

/-! ## Work with a handle -/

section Work

variable {h : Handle} {makes : Database → α → Database → Prop} {possible : Prop}
  {r : Except Fault α × Store}

/-- What a handle has learned and what lay beside its file. -/
theorem learned_acts {d : Disk} {k : Handle} (hs : s.Composed) (hh : s.handle? id = some h)
    (htidy : s.disk.Tidied h.place d) (hkin : Kin h k) (hidle : k.transaction = .idle)
    (hcol : k.schema = h.schema ∨ Columns s.disk h.file k.schema) :
    Acts moving revises s (s.exchange d id k) := by
  obtain ⟨-, n, hp, hplace⟩ := hs.handles id h hh
  have hcol' : k.schema = h.schema ∨ Columns d h.file k.schema := by
    rw [Columns, htidy.contentOf_eq]
    exact hcol
  rw [hplace] at htidy
  exact (Relation.ReflTransGen.single (.tidied hp htidy)).tail
    (.learned (s := { s with disk := d }) hh hkin hidle hcol')

theorem Looks.acts {st : Statement α} (hr : Looks s id h st r) (hs : s.Composed)
    (hh : s.handle? id = some h) : Acts moving revises s r.2 := by
  cases hr with
  | found _ _ htidy hkin hidle hcol => exact learned_acts hs hh htidy hkin hidle hcol
  | refused htidy hkin hidle hcol => exact learned_acts hs hh htidy hkin hidle hcol

/-- A transaction writes a revision, if that is what its work makes. -/
theorem Finishes.acts (hr : Finishes s id h makes possible r) (hs : s.Composed) (hh : s.handle? id = some h)
    (hmakes : ∀ {db a after}, makes db a after → revises db after) : Acts moving revises s r.2 := by
  cases hr with
  | same _ _ htidy hkin hidle hcol => exact learned_acts hs hh htidy hkin hidle hcol
  | refused htidy hkin hidle hcol => exact learned_acts hs hh htidy hkin hidle hcol
  | @written db after a d k hview hdid htidy hkin hidle hschema hcol =>
    obtain ⟨-, n, hp, hplace⟩ := hs.handles id h hh
    have hview' : (contentOf d h.file).view = .ok db := by rw [htidy.contentOf_eq, hview]
    have hcol' : Columns d h.file after.schema := by rwa [Columns, htidy.contentOf_eq]
    rw [hplace] at htidy
    exact (Relation.ReflTransGen.single (.tidied hp htidy)).tail
      (.written (s := { s with disk := d }) hh hkin hidle hschema hview' hcol' (hmakes hdid))

end Work

/-- A session whose work is done in a transaction. -/
theorem does_transact {body : HandleId → Step α} {makes : Database → α → Database → Prop}
    {possible : Prop} (hbody : ∀ {t : Store} {id h}, t.handle? id = some h → Makes t id h (body id) makes possible)
    (hmakes : ∀ {db a after}, makes db a after → revises db after) :
    Does moving revises (session m (fun id => transact id (body id))) := by
  refine does_session fun id t ht hid => ?_
  obtain ⟨h, hh, -⟩ := ht.registered.cached m id hid
  exact (transact_finishes hh (ht.handles id h hh).1 (hbody hh)).acts ht hh hmakes

/-- A session that goes on with what a statement tells that only looks. -/
theorem does_look {β : Type} {st : Statement α} {next : α → Step β} (hst : st.Rowwise)
    (hform : st.form.changesRows = false) (hnext : ∀ a, Does moving revises (next a)) :
    Does moving revises (session m (fun id => exec id st >>= next)) := by
  refine does_session fun id t ht hid => ?_
  obtain ⟨h, hh, -⟩ := ht.registered.cached m id hid
  exact Does.after ht ((exec_looks hh (ht.handles id h hh).1 hst hform).acts ht hh) hnext

theorem does_forgiving {x : Step α} (nothing : α) (hx : Does moving revises x) :
    Does moving revises (forgiving nothing x) := by
  refine .tryCatch hx fun f => ?_
  cases f with
  | store e =>
    refine .bind .get fun s => ?_
    cases s.config.forgiving with
    | true => exact .bind (.note _ _ _) fun _ => .pure nothing
    | false => exact .throw _
  | _ => exact .throw _

theorem does_modifiedAt (p : Path) : Does moving revises (modifiedAt p) := by
  refine .bind (.view _) fun d => ?_
  split
  · exact .pure _
  · exact .pure _
  · exact .bind (.note _ _ _) fun _ => .pure _

/-! ## Operations that open a layer -/

/-- A read that a forgiving store may answer itself. -/
theorem does_read {st : Statement α} {operation : String} (nothing : α) (hm : st.Mild)
    (hform : st.form.changesRows = false) :
    Does moving revises (forgiving nothing (Step.translated m operation (session m (fun id => exec id st)))) := by
  have hlook : Does moving revises (session m (fun id => exec id st >>= pure)) :=
    does_look (hm.rowwise hform) hform .pure
  simp only [bind_pure] at hlook
  exact does_forgiving nothing (.translated m operation hlook)

theorem does_getTile (key : TileKey) : Does moving revises (getTile key) := by
  refine .bind (.translated _ _ (does_look ((Statement.mild_selectTile key.row).rowwise rfl) rfl
    fun cell => .bind (does_pathFor _) fun p => ?_)) fun found => ?_
  · split
    · exact .pure none
    · exact .pure none
    · exact .bind (does_modifiedAt p) fun _ => .pure _
  · split
    · exact .pure none
    · split
      · exact .throw _
      · exact .pure none
      · exact .pure _

/-- An operation that opens a layer does nothing but acts, and writes its revision. -/
theorem does_opening {o : Operation} (ho : o.opens? = some m) :
    Does moving (fun db after => after = o.revise db) (perform o) := by
  cases o with
  | getTile key => exact .bind (does_getTile key) fun _ => .pure _
  | putTile key blob =>
    exact .bind (.bind (.translated _ _ (does_transact (fun hh => putTile_makes hh key.row blob) fun h => h))
      fun _ => .announce _) fun _ => .pure _
  | deleteTile key =>
    refine .bind (.bind (.note _ _ _) fun _ => .bind (.translated _ _ (does_transact
      (fun hh => deleteTile_makes hh key.row) fun h => h.2)) fun n => ?_) fun _ => .pure _
    split
    · exact .bind (.announce _) fun _ => .pure _
    · exact .pure _
  | deleteGridset layer grid =>
    refine .bind (.bind (.note _ _ _) fun _ => .bind (.translated _ _ (does_transact
      (fun hh => deleteGrid_makes hh grid) fun h => h.2)) fun n => ?_) fun _ => .pure _
    split
    · exact .bind (.announce _) fun _ => .pure _
    · exact .pure _
  | getMetadata layer key =>
    exact .bind (does_read none (Statement.mild_selectValue key) rfl) fun _ => .pure _
  | putMetadata layer key value =>
    exact .bind (.bind (.translated _ _ (does_transact (fun hh => putValue_makes hh key value) fun h => h))
      fun _ => .note _ _ _) fun _ => .pure _
  | allMetadata layer =>
    exact .bind (.bind (does_read [] Statement.mild_selectEntries rfl) fun _ => .pure _) fun _ => .pure _
  | metadataEntries layer =>
    exact .bind (does_read [] Statement.mild_selectEntries rfl) fun _ => .pure _
  | deleteRange | clear | layerExists | deleteLayer | renameLayer | destroy => cases ho

/-! ## Operations on whole layers -/

theorem does_releaseAll : Does moving revises releaseAll := by
  refine .bind .get fun s => .bind (fun s _ => .single (.emptied s)) fun _ => .bind (.note _ _ _) fun _ => ?_
  exact .forM does_closeQuietly _

theorem does_invalidate (m : String) : Does moving revises (invalidate m) := by
  refine .bind (does_pathFor m) fun p => .bind .get fun s => ?_
  exact Does.forM (f := fun e : String × HandleId => dropHandle e.1 e.2) (fun e => does_dropHandle e.1 e.2) _

theorem does_lockOrder (layers : List String) : Does moving revises (lockOrder layers) :=
  .bind (.mapM does_pathFor layers) fun _ => .pure _

theorem unlink_bodies {d e : Disk} {p : Path} (h : d.unlink p = .ok e) : e.bodies = d.bodies := by
  rw [Disk.unlink] at h
  split at h
  · cases h
  · cases h
  · cases h
    rfl

theorem move_bodies {d e : Disk} {p q : Path} (h : d.move p q = .ok e) : e.bodies = d.bodies := by
  rcases move_tree h with rfl | ⟨a, b, rfl⟩ <;> rfl

theorem does_removeSidecars (hmoving : moving) (p : Path) : Does moving revises (removeSidecars p) := by
  refine .forM (fun suffix => ?_) _
  intro s hs
  simp only [removeBeside, run_bind, run_view]
  cases hu : s.disk.unlink (p.extendName suffix) with
  | ok d => exact .single (.moved hmoving (unlink_bodies hu))
  | error f =>
    dsimp only
    split <;> exact .refl

theorem does_deleteLayer (hmoving : moving) (m : String) : Does moving revises (deleteLayer m) := by
  refine .bind (.note _ _ _) fun _ => .bind (does_pathFor m) fun p => .bind (does_lockOrder _) fun _ =>
    .bind (does_invalidate m) fun _ => fun s hs => ?_
  simp only [run_bind, run_view]
  cases hu : s.disk.unlink p with
  | error f =>
    dsimp only
    split <;> exact .refl
  | ok d =>
    have hmoved : Acts moving revises s { s with disk := d } := .single (.moved hmoving (unlink_bodies hu))
    refine hmoved.trans ?_
    exact Does.bind (does_removeSidecars hmoving p) (fun _ => .bind (.announce _) fun _ => .pure true) _
      (hmoved.composed hs)

/-- What a renaming does once it holds the locks and found nothing in the way. -/
theorem does_move (hmoving : moving) (source target : String) (p p' : Path) :
    Does moving revises (do
      invalidate source
      invalidate target
      if !(← Step.ofDisk ((← MonadState.get).disk.exists? p)) then
        Step.note .debug .lifecycle ("No store for layer " ++ source ++ ", nothing to rename")
        return true
      match (← MonadState.get).disk.move p p' with
      | .error f =>
          Step.fail (.notMoved p.toString p'.toString f) (some source) "rename"
      | .ok d =>
          Step.changeDisk (fun _ => d)
          removeSidecars p
          Step.announce (.layerRenamed source target)
          return true) := by
  refine .bind (does_invalidate _) fun _ => .bind (does_invalidate _) fun _ => .bind .get fun _ =>
    .bind (.ofDisk _) fun there => ?_
  split
  · exact .bind (.note _ _ _) fun _ => .pure true
  · refine .looking fun s hs => ?_
    cases hmove : s.disk.move p p' with
    | error f => exact .refl
    | ok d =>
      have hmoved : Acts moving revises s { s with disk := d } :=
        .single (.moved hmoving (move_bodies hmove))
      refine hmoved.trans ?_
      exact Does.bind (does_removeSidecars hmoving p) (fun _ => .bind (.announce _) fun _ => .pure true) _
        (hmoved.composed hs)

theorem does_renameLayer (hmoving : moving) (source target : String) :
    Does moving revises (renameLayer source target) := by
  refine .bind (.note _ _ _) fun _ => .bind (does_pathFor _) fun p => .bind (does_pathFor _) fun p' => ?_
  split
  · exact .bind (does_invalidate _) fun _ => .pure true
  · refine .bind (does_lockOrder _) fun _ => .bind .get fun _ => .bind (.ofDisk _) fun b => ?_
    have hrest : Does moving revises _ := does_move hmoving source target p p'
    split
    · exact .bind (.fail _ _ _) fun _ => hrest
    · exact hrest

/-- The operations that remove or move files. -/
def Operation.MovesFiles : Operation → Prop
  | .deleteLayer _ | .renameLayer .. => True
  | _ => False

/-- Whatever is asked of a store, what happens to it are acts. -/
theorem perform_does (o : Operation) : Does o.MovesFiles (fun db after => after = o.revise db) (perform o) := by
  cases ho : o.opens? with
  | some m => exact does_opening ho
  | none =>
    cases o with
    | getTile | putTile | deleteTile | deleteGridset | getMetadata | putMetadata | allMetadata
      | metadataEntries => cases ho
    | deleteRange range => exact .bind (.fail _ _ _) fun _ => .pure _
    | clear => exact .bind (.fail _ _ _) fun _ => .pure _
    | layerExists m =>
      exact .bind (.bind (does_pathFor m) fun p => .bind (.view _) fun d => .ofDisk _) fun _ => .pure _
    | deleteLayer m => exact .bind (does_deleteLayer trivial m) fun _ => .pure _
    | renameLayer m m' => exact .bind (does_renameLayer trivial m m') fun _ => .pure _
    | destroy => exact .bind (.bind (.note _ _ _) fun _ => does_releaseAll) fun _ => .pure _

/-! ## What holds of every table -/

/-- The database in a file has a property, if it can be read. -/
def Upholds (P : Database → Prop) (d : Disk) (n : Nat) : Prop := ∀ db, (contentOf d n).view = .ok db → P db

/-- The databases in all files have a property, and every handle knows the columns of one that has it. -/
structure Everywhere (P : Database → Prop) (s : Store) : Prop where
  files : ∀ n, Upholds P s.disk n
  handles : ∀ id h, s.handle? id = some h → ∃ db, P db ∧ h.schema = db.schema

/-- A property that a database without tables has, and that stays when the tables are made, or a revision. -/
structure Lasting (P : Database → Prop) (revises : Database → Database → Prop) : Prop where
  blank : P .blank
  furnished : ∀ db, P db → P db.furnished
  revised : ∀ {db after}, revises db after → P db → P after

section Everywhere

variable {P : Database → Prop} {t : Store}

/-- A file that is found or made for a path is one that was there, or is empty. -/
theorem Meets.contentOf {d e : Disk} {p : Path} {create : Bool} {n : Nat} (h : Meets d p create e n)
    (k : Nat) : Store.contentOf e k = Store.contentOf d k ∨ Store.contentOf e k = .raw .empty := by
  cases h with
  | found => exact .inl rfl
  | made =>
    by_cases hk : d.next = k
    · subst hk
      exact .inr (contentOf_createFile ..)
    · have hbody : (d.createFile p.resolved.names (.raw .empty)).2.bodies.get? k = d.bodies.get? k :=
        Ordered.get?_put_of_ne d.bodies _ hk
      rw [Store.contentOf, Store.contentOf, Disk.body?, Disk.body?, hbody]
      exact .inl rfl

theorem Upholds.tidied {d e : Disk} {q : Place} {n : Nat} (h : Upholds P d n) (htidy : d.Tidied q e) :
    Upholds P e n := by
  intro db hview
  rw [htidy.contentOf_eq] at hview
  exact h db hview

theorem Upholds.meets {d e : Disk} {p : Path} {create : Bool} {k n : Nat} (h : Upholds P d n)
    (hblank : P .blank) (hmeets : Meets d p create e k) : Upholds P e n := by
  intro db hview
  rcases hmeets.contentOf n with he | he
  · exact h db (he ▸ hview)
  · rw [he] at hview
    exact Except.ok.inj hview ▸ hblank

theorem Upholds.commit {d : Disk} {q : Place} {k n : Nat} {after : Database} (h : Upholds P d n)
    (hafter : k = n → P after) : Upholds P (Store.commit d q k after) n := by
  intro db hview
  by_cases hk : k = n
  · subst hk
    rw [contentOf_commit_self] at hview
    exact Except.ok.inj hview ▸ hafter rfl
  · rw [contentOf_commit_of_ne _ _ _ hk] at hview
    exact h db hview

/-- What lasts of the database in a file is kept by every act. -/
theorem Act.upholds (ha : Act moving revises s t) (hP : Lasting P revises) {n : Nat}
    (hn : Upholds P s.disk n) : Upholds P t.disk n := by
  cases ha with
  | noted | forgot | emptied | released | learned => exact hn
  | tidied _ htidy | opened _ _ _ _ htidy => exact hn.tidied htidy
  | blanked _ _ hmeets htidy => exact (hn.meets hP.blank hmeets).tidied htidy
  | made _ _ hmeets htidy hview =>
    have he := (hn.meets hP.blank hmeets).tidied htidy
    exact he.commit fun hk => hP.furnished _ (he _ (hk ▸ hview))
  | written _ _ _ _ hview _ hrevises => exact hn.commit fun hk => hP.revised hrevises (hn _ (hk ▸ hview))
  | moved _ hbodies =>
    intro db hview
    apply hn db
    rwa [contentOf, Disk.body?, ← hbodies]

theorem Acts.upholds (ha : Acts moving revises s t) (hP : Lasting P revises) {n : Nat}
    (hn : Upholds P s.disk n) : Upholds P t.disk n := by
  induction ha with
  | refl => exact hn
  | tail _ hstep ih => exact hstep.upholds hP ih

theorem Act.everywhere (ha : Act moving revises s t) (hP : Lasting P revises) (hs : s.Everywhere P) :
    t.Everywhere P := by
  have hfiles : ∀ n, Upholds P t.disk n := fun n => ha.upholds hP (hs.files n)
  have hmodify : ∀ {id : HandleId} {f : Handle → Handle} {u : Store},
      u.issued = s.issued.modify id f →
      (∀ h, s.handle? id = some h → ∃ db, P db ∧ (f h).schema = db.schema) →
      ∀ i k, u.handle? i = some k → ∃ db, P db ∧ k.schema = db.schema := by
    intro id f u hi hf i k hk
    rcases handle_of_modified hi hk with hold | ⟨-, h, hh, rfl⟩
    · exact hs.handles i k hold
    · exact hf h hh
  have henlist : ∀ {h : Handle} {db : Database} {u : Store}, u.issued = s.issued ++ [h] → P db →
      h.schema = db.schema → ∀ i k, u.handle? i = some k → ∃ db, P db ∧ k.schema = db.schema := by
    intro h db u hi hdb hschema i k hk
    rcases handle_of_issued hi hk with hold | ⟨-, rfl⟩
    · exact hs.handles i k hold
    · exact ⟨db, hdb, hschema⟩
  refine ⟨hfiles, ?_⟩
  cases ha with
  | noted | forgot | emptied | tidied | blanked | moved => exact hs.handles
  | released id =>
    refine hmodify rfl fun h hh => ?_
    rw [(Worn.released h).schema]
    exact hs.handles id h hh
  | @learned id h k hh _ _ hcol =>
    refine hmodify rfl fun _ _ => ?_
    rcases hcol with he | ⟨db, hview, he⟩
    · rw [he]
      exact hs.handles id h hh
    · exact ⟨db, hs.files _ db hview, he⟩
  | @made m p d e n db _ _ hmeets htidy hview =>
    exact henlist rfl (hP.furnished _ (((hs.files n).meets hP.blank hmeets).tidied htidy db hview)) rfl
  | opened _ _ hview => exact henlist rfl (hs.files _ _ hview) rfl
  | @written id h k db after hh _ _ hschema hview _ hrevises =>
    exact hmodify rfl fun _ _ => ⟨after, hP.revised hrevises (hs.files _ _ hview), hschema⟩

theorem Acts.everywhere (ha : Acts moving revises s t) (hP : Lasting P revises) (hs : s.Everywhere P) :
    t.Everywhere P := by
  induction ha with
  | refl => exact hs
  | tail _ hstep ih => exact hstep.everywhere hP ih

/-- A store stays composed, whatever is asked of it one after the other. -/
theorem Composed.run (hs : s.Composed) (os : List Operation) : (Store.run os s).2.Composed := by
  induction os generalizing s with
  | nil => exact hs
  | cons o os ih => exact ih ((perform_does o s hs).composed hs)

/-- What every revision keeps is kept in every file. -/
theorem Upholds.run (hP : ∀ o : Operation, Lasting P (fun db after => after = o.revise db)) {n : Nat}
    (os : List Operation) (hs : s.Composed) (hn : Upholds P s.disk n) :
    Upholds P (Store.run os s).2.disk n := by
  induction os generalizing s with
  | nil => exact hn
  | cons o os ih =>
    have hacts := perform_does o s hs
    exact ih (hacts.composed hs) (hacts.upholds (hP o) hn)

/-- What every revision keeps is kept everywhere. -/
theorem Everywhere.run (hP : ∀ o : Operation, Lasting P (fun db after => after = o.revise db))
    (os : List Operation) (hs : s.Composed) (he : s.Everywhere P) : (Store.run os s).2.Everywhere P := by
  induction os generalizing s with
  | nil => exact he
  | cons o os ih =>
    have hacts := perform_does o s hs
    exact ih (hacts.composed hs) (hacts.everywhere (hP o) he)

end Everywhere

end Store

end TileDepot
