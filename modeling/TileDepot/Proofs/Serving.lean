import TileDepot.Proofs.Acts
import TileDepot.Proofs.Handover
import TileDepot.Proofs.Meddling

/-!
# Tiles in any table

Where nothing keeps the store from working on the tables of a layer, `Serviceable` states it: the file is
there with both tables, nobody holds a lock on it, nothing beside it stands in the way, and the handle that
is cached for the layer, if it is live, is on the file.  The rows may be any rows, also several with one key,
and rows whose data is no blob.

* `Serviceable.session` says that work on such a layer is work with a handle that nothing hinders, and
  `Serviceable.transact` and `Serviceable.look` what comes of it.
* `tiles_exact` says what putting, getting and removing tiles comes to, for whatever rows there are, and that
  keys that are unique stay unique.
-/

namespace TileDepot

/-! ## Databases with both tables -/

namespace Database

variable {db : Database}

/-- A database with the columns of a store has both tables. -/
theorem full_of_schema (h : db.schema = empty.schema) :
    ∃ tiles metadata others, db = ⟨some ⟨.full, tiles⟩, some ⟨.full, metadata⟩, others⟩ := by
  obtain ⟨_ | ⟨shape, tiles⟩, _ | ⟨shape', metadata⟩, others⟩ := db
  · cases h
  · cases h
  · cases h
  · cases h
    exact ⟨tiles, metadata, others, rfl⟩

theorem missing_of_schema (h : db.schema = empty.schema) : db.missing = [] := by
  obtain ⟨tiles, metadata, others, rfl⟩ := full_of_schema h
  rfl

theorem onTiles_full (h : db.schema = empty.schema) (f : List TileRow → List TileRow) :
    Statement.onTiles db f = { db with tiles := some ⟨.full, f db.tileRows⟩ } := by
  obtain ⟨tiles, metadata, others, rfl⟩ := full_of_schema h
  rfl

theorem onMetadata_full (h : db.schema = empty.schema) (f : List MetadataRow → List MetadataRow) :
    Statement.onMetadata db f = { db with metadata := some ⟨.full, f db.metadataRows⟩ } := by
  obtain ⟨tiles, metadata, others, rfl⟩ := full_of_schema h
  rfl

end Database

open Layer

namespace Store

open Statement

/-- Nothing keeps the store from working on the tables of a layer, which are those of a database in the file
at the layer's path. -/
structure Serviceable (s : Store) (m : String) (p : Path) (n : Nat) (db : Database) : Prop where
  composed : s.Composed
  pending : s.staleAcquires = 0
  path : s.pathOf? m = some p
  located : s.disk.locate p = .ok p.resolved.names
  offers : Offers s.disk p.resolved.names n db
  handle : ∀ id h, s.cache.get? m = some id → s.handle? id = some h → h.Live →
    h.file = n ∧ ∀ t, h.schema.shape? t ≠ some .keyOnly

/-- All files but one have what they had. -/
def Elsewhere (n : Nat) (s t : Store) : Prop := ∀ k, k ≠ n → contentOf t.disk k = contentOf s.disk k

section Serviceable

variable {α β : Type} {s t u : Store} {m : String} {p : Path} {n : Nat} {db after : Database} {id : HandleId}
  {h : Handle}

theorem Elsewhere.trans (a : Elsewhere n s t) (b : Elsewhere n t u) : Elsewhere n s u :=
  fun k hk => (b k hk).trans (a k hk)

/-- A handle that works on the tables of a layer. -/
structure Serviceable.With (s : Store) (m : String) (p : Path) (n : Nat) (db : Database) (id : HandleId)
    (h : Handle) : Prop where
  serviceable : s.Serviceable m p n db
  cached : s.cache.get? m = some id
  handle : s.handle? id = some h
  place : h.place = p.resolved.names
  file : h.file = n
  live : h.Live

theorem Serviceable.With.unhindered (hw : Serviceable.With s m p n db id h) : Unhindered s.disk h db where
  live := hw.live
  known := (hw.serviceable.handle id h hw.cached hw.handle hw.live).2
  offers := by
    rw [hw.place, hw.file]
    exact hw.serviceable.offers

theorem Serviceable.With.idle (hw : Serviceable.With s m p n db id h) : h.transaction = .idle :=
  (hw.serviceable.composed.handles id h hw.handle).1

/-- What does not matter for the layer. -/
theorem Serviceable.noted (hs : s.Serviceable m p n db) (l : List LogRecord) (es : List Event) :
    ({ s with log := l, events := es } : Store).Serviceable m p n db where
  composed := ⟨⟨hs.composed.registered.keys, hs.composed.registered.cached⟩, hs.composed.handles⟩
  pending := hs.pending
  path := hs.path
  located := hs.located
  offers := hs.offers
  handle := hs.handle

/-- Opening the file of such a layer. -/
theorem Serviceable.renew (hs : s.Serviceable m p n db) :
    ∃ id t h, Step.outcome (Store.renew m) s = (.ok id, t) ∧ Serviceable.With t m p n db id h ∧
      Elsewhere n s t := by
  have hdoes : Gentle s _ := does_renew m s hs.composed
  have hf : s.disk.find p.resolved = .ok (p.resolved.names, .file n) :=
    Disk.find_of_node (Disk.locate_resolved hs.located) hs.offers.node
  have hthere : s.disk.exists? p = .ok true :=
    Disk.exists_iff.2 ⟨_, _, Disk.find_of_node hs.located hs.offers.node⟩
  rcases renew_cases hs.path with ⟨hl, -⟩ | ⟨-, r, hrun, ⟨-, hopening⟩ | ⟨hnot, -⟩⟩
  · rw [hs.located] at hl
    cases hl
  · have hsame : ∀ {k}, s.disk.find p.resolved = .ok (p.resolved.names, .file k) → k = n := by
      intro k hk
      rw [hf] at hk
      cases hk
      rfl
    cases hopening with
    | refused l hb => exact absurd hf fun hf => hb.not_file hf
    | unreadable l hk hmeet =>
      rw [hsame hk, hs.offers.meet] at hmeet
      cases hmeet
    | lacking l hk hmeet hmissing =>
      rw [hsame hk, hs.offers.meet] at hmeet
      cases hmeet
      exact absurd (Database.missing_of_schema hs.offers.schema) hmissing
    | @opened k db' l hk hmeet hmissing =>
      obtain rfl := hsame hk
      rw [hs.offers.meet] at hmeet
      cases hmeet
      rw [hrun] at hdoes ⊢
      have htidy := settle_tidied s.disk p.resolved.names k false
      refine ⟨_, _, .fresh m p k db.schema, rfl, ⟨⟨hdoes.composed hs.composed, hs.pending, hs.path,
        Disk.follow_mono (fun q => htidy.directory.2) hs.located, hs.offers.tidied htidy, ?_⟩,
        Ordered.get?_put_self _ _ _, handle_issued s _, rfl, rfl, ⟨rfl, rfl⟩⟩,
        fun j _ => htidy.contentOf_eq j⟩
      intro i x hi hx _
      have he : i = s.issued.length := Option.some.inj (hi.symm.trans (Ordered.get?_put_self _ _ _))
      subst he
      have hx' : some x = some (.fresh m p k db.schema) := hx.symm.trans (handle_issued s _)
      rw [Option.some.inj hx']
      refine ⟨rfl, fun t => ?_⟩
      show db.schema.shape? t ≠ _
      rw [hs.offers.schema, shape_empty]
      exact nofun
  · rw [hthere] at hnot
    cases hnot

/-- Work on such a layer is work with a handle that nothing hinders. -/
theorem Serviceable.session (hs : s.Serviceable m p n db) (body : HandleId → Step α) :
    ∃ id t h, Step.outcome (Store.session m body) s = Step.outcome (body id) t ∧
      Serviceable.With t m p n db id h ∧ Elsewhere n s t := by
  have hobtain : ∃ id t h, Step.outcome (obtain m) s = (.ok id, t) ∧ Serviceable.With t m p n db id h ∧
      Elsewhere n s t := by
    cases hid : s.cache.get? m with
    | none =>
      rcases obtain_missing hid with ⟨hm, -⟩ | ⟨-, -, hrun⟩
      · have hnone := hs.path
        rw [pathOf_none.2 hm] at hnone
        cases hnone
      · rw [hrun]
        exact hs.renew
    | some id =>
      obtain ⟨h, hh, -, hp, hplace⟩ := hs.composed.registered.cached m id hid
      have hsame : h.path = p := Option.some.inj (hp.symm.trans hs.path)
      rcases obtain_cases hid hh hp with ⟨hfit, hrun⟩ | ⟨-, -, l, hrun⟩ | ⟨-, hl, -⟩
      · have hlive : h.Live := ⟨hfit.unclosed, hfit.joined⟩
        exact ⟨id, s, h, hrun, ⟨hs, hid, hh, hsame ▸ hplace, (hs.handle id h hid hh hlive).1, hlive⟩,
          fun _ _ => rfl⟩
      · have hforgot : (s.forgotten m id l).Serviceable m p n db :=
          { composed := by
              have hacts : Gentle s (s.forgotten m id l) :=
                ((Relation.ReflTransGen.single (.forgot s m id)).tail (.released _ id)).tail
                  (.noted _ l s.events s.staleAcquires)
              exact hacts.composed hs.composed
            pending := hs.pending
            path := hs.path
            located := hs.located
            offers := hs.offers
            handle := by
              intro i x hi
              rw [show (s.forgotten m id l).cache.get? m = none from get?_without_self hid] at hi
              cases hi }
        rw [hrun]
        exact hforgot.renew
      · rw [hsame, hs.located] at hl
        cases hl
  obtain ⟨id, t, h, hrun, hrest⟩ := hobtain
  refine ⟨id, t, h, ?_, hrest⟩
  simp only [Store.session, Step.run_bind, Step.run_get, hs.pending, acquireOpen, acquire_run hs.pending, hrun]

/-- What work with the handle leaves, if the file has a database with the same columns. -/
theorem Serviceable.With.exchange (hw : Serviceable.With s m p n db id h) {d : Disk} {k : Handle}
    (hoffers : Offers d p.resolved.names n after)
    (hdir : ∀ q, s.disk.node? q = some .directory → d.node? q = some .directory) (hkin : Kin h k)
    (hknown : ∀ t, k.schema.shape? t ≠ some .keyOnly) (hcomposed : (s.exchange d id k).Composed) :
    Serviceable.With (s.exchange d id k) m p n after id k := by
  have hakin := hkin.akin
  have hk := handle_exchange hw.handle d k
  have hlive : k.Live := by
    rw [hkin]
    exact ⟨hw.live.opened, hw.live.joined⟩
  refine ⟨⟨hcomposed, hw.serviceable.pending, hw.serviceable.path,
    Disk.follow_mono hdir hw.serviceable.located, hoffers, ?_⟩, hw.cached, hk, hakin.place.trans hw.place,
    hakin.file.trans hw.file, hlive⟩
  intro i x hi hx _
  have he : some i = some id := hi.symm.trans hw.cached
  rw [Option.some.inj he, hk, Option.some.injEq] at hx
  exact ⟨hx ▸ hakin.file.trans hw.file, hx ▸ hknown⟩

/-- The handle may have learned something. -/
theorem Serviceable.With.learned (hw : Serviceable.With s m p n db id h) {d : Disk} {k : Handle}
    (htidy : s.disk.Tidied h.place d) (hkin : Kin h k) (hidle : k.transaction = .idle)
    (hcol : k.schema = h.schema ∨ Columns s.disk h.file k.schema) :
    Serviceable.With (s.exchange d id k) m p n db id k ∧ Elsewhere n s (s.exchange d id k) := by
  have hacts : Gentle s (s.exchange d id k) :=
    learned_acts hw.serviceable.composed hw.handle htidy hkin hidle hcol
  have hcomposed := hacts.composed hw.serviceable.composed
  have hoffers := hw.unhindered.offers.tidied htidy
  rw [hw.place, hw.file] at hoffers
  refine ⟨hw.exchange hoffers (fun q => htidy.directory.2) hkin (fun t => ?_) hcomposed,
    fun j _ => htidy.contentOf_eq j⟩
  rcases hcol with he | hcol
  · rw [he]
    exact hw.unhindered.known t
  · rw [hw.unhindered.offers.columns hcol, shape_empty]
    exact nofun

/-- A statement that only looks tells what it finds in the tables, or is refused with its own fault. -/
theorem Serviceable.With.look (hw : Serviceable.With s m p n db id h) {st : Statement α} (hst : st.Rowwise)
    (hform : st.form.changesRows = false) (hacc : st.Accepted) :
    ∃ t k, Step.outcome (exec id st) s = ((st.run db).mapError Fault.db |>.map Effect.answer, t) ∧
      Serviceable.With t m p n db id k ∧ Elsewhere n s t := by
  have hlooks := exec_looks hw.handle hw.idle hst hform
  generalize Step.outcome (exec id st) s = r at hlooks
  cases hlooks with
  | @found db' a d k hview hrun htidy hkin hidle hcol =>
    obtain ⟨hthen, helse⟩ := hw.learned htidy hkin hidle hcol
    rw [hw.unhindered.offers.content] at hview
    cases hview
    exact ⟨_, k, by rw [hrun]; rfl, hthen, helse⟩
  | @refused g d k htidy hkin hidle hcol hwhy =>
    obtain ⟨hthen, helse⟩ := hw.learned htidy hkin hidle hcol
    exact ⟨_, k, by rw [hwhy db hw.unhindered hacc]; rfl, hthen, helse⟩

/-- What follows a statement that only looks goes on with what it finds in the tables. -/
theorem Serviceable.look (hs : s.Serviceable m p n db) {st : Statement α} (hst : st.Rowwise)
    (hform : st.form.changesRows = false) (hacc : st.Accepted) (next : α → Step β) :
    ∃ t, Step.outcome (Store.session m (fun id => exec id st >>= next)) s =
        (match st.run db with
          | .ok effect => Step.outcome (next effect.answer) t
          | .error g => (.error (.db g), t)) ∧
      t.Serviceable m p n db ∧ Elsewhere n s t := by
  obtain ⟨id, u, h, hrun, hw, helse⟩ := hs.session (fun id => exec id st >>= next)
  obtain ⟨t, k, hexec, hthen, helse'⟩ := hw.look hst hform hacc
  refine ⟨t, ?_, hthen.serviceable, helse.trans helse'⟩
  rw [hrun, Step.run_bind, hexec]
  cases st.run db <;> rfl

/-- A transaction on such a layer does its work, and the file has what the work makes. -/
theorem Serviceable.transact (hs : s.Serviceable m p n db) (operation : String) {body : HandleId → Step α}
    {makes : Database → α → Database → Prop} {possible : Prop}
    (hbody : ∀ {t : Store} {id h}, t.handle? id = some h → Makes t id h (body id) makes possible)
    (hposs : possible) :
    ∃ a after t, Step.outcome (Step.translated m operation
        (Store.session m (fun id => Store.transact id (body id)))) s = (.ok a, t) ∧
      makes db a after ∧ t.Serviceable m p n after ∧ Elsewhere n s t := by
  obtain ⟨id, u, h, hrun, hw, helse⟩ := hs.session (fun id => Store.transact id (body id))
  have hfinishes := transact_finishes hw.handle hw.idle (hbody hw.handle)
  have hacts : Acts False (fun _ _ => True) u (Step.outcome (Store.transact id (body id)) u).2 :=
    hfinishes.acts hw.serviceable.composed hw.handle fun _ => trivial
  have hcomposed := hacts.composed hw.serviceable.composed
  rw [Step.translated, Step.run_tryCatch, hrun]
  generalize Step.outcome (Store.transact id (body id)) u = r at hfinishes hcomposed
  cases hfinishes with
  | refused _ _ _ _ hwhy => exact absurd hposs (hwhy db hw.unhindered)
  | @same db' a d k hview hdid htidy hkin hidle hcol =>
    obtain ⟨hthen, helse'⟩ := hw.learned htidy hkin hidle hcol
    rw [hw.unhindered.offers.content] at hview
    cases hview
    exact ⟨a, _, _, rfl, hdid, hthen.serviceable, helse.trans helse'⟩
  | @written db' after a d k hview hdid htidy hkin hidle hschema hcol =>
    have hfull := hw.unhindered.offers.columns hcol
    rw [hw.unhindered.offers.content] at hview
    cases hview
    have hoffers := (hw.unhindered.offers.tidied htidy).commit
      (hfull.trans hw.unhindered.offers.schema.symm)
    have hdir : ∀ q, u.disk.node? q = some .directory →
        (commit d h.place h.file after).node? q = some .directory := fun q hq =>
      (commit_tidied d h.place h.file after).directory.2 (htidy.directory.2 hq)
    rw [hw.place, hw.file] at hoffers hdir hcomposed ⊢
    have hthen := hw.exchange hoffers hdir hkin (fun t => by simp [hschema, hfull, shape_empty])
      hcomposed
    refine ⟨a, after, _, rfl, hdid, hthen.serviceable, helse.trans fun j hj => ?_⟩
    exact (contentOf_commit_of_ne d p.resolved.names after (Ne.symm hj)).trans (htidy.contentOf_eq j)

/-- What follows a step that succeeds. -/
theorem run_then {x : Step α} {a : α} (hx : Step.outcome x s = (.ok a, t)) (next : α → Step β) :
    Step.outcome (x >>= next) s = Step.outcome (next a) t := by
  rw [Step.run_bind, hx]

theorem translated_ok {x : Step α} {a : α} {operation : String} (hx : Step.outcome x s = (.ok a, t)) :
    Step.outcome (Step.translated m operation x) s = (.ok a, t) := by
  rw [Step.translated, Step.run_tryCatch, hx]

/-! ## Tiles -/

/-- What is made of the cell a tile's row holds, with the time of the layer's file. -/
def withTime (layer : String) (cell : Option Cell) : Step (Option (Cell × Option Instant)) := do
  let path ← pathFor layer
  match cell with
  | none | some .null => return none
  | some cell => return some (cell, ← modifiedAt path)

/-- A tile is looked up in the first row that has its key. -/
theorem Serviceable.getTile {key : TileKey} (hs : s.Serviceable key.layer p n db)
    (hfits : key.row.fits = true) :
    let found := (db.tileRows.find? (fun r => decide (r.key = key.row))).map (·.data)
    (found = none → ∃ u, Step.outcome (Store.getTile key) s = (.ok none, u)) ∧
      ∀ b, found = some (.blob b) → ∃ time u,
        Step.outcome (Store.getTile key) s = (.ok (some ⟨key, b, time⟩), u) := by
  intro found
  obtain ⟨t, hrun, hthen, -⟩ := hs.look ((mild_selectTile key.row).rowwise rfl) rfl
    (accepted_of_bindKey hfits rfl rfl) (withTime key.layer)
  have hanswer : (selectTile key.row).run db = .ok ⟨found, none⟩ := rfl
  simp only [hanswer, withTime, Step.run_bind, pathFor_some hthen.path] at hrun
  refine ⟨fun hfound => ?_, fun b hfound => ?_⟩
  · rw [hfound] at hrun
    exact ⟨t, run_then (translated_ok hrun) _⟩
  · obtain ⟨time, l, htime⟩ := modifiedAt_answers p t
    rw [hfound] at hrun
    simp only [Step.run_bind, htime] at hrun
    exact ⟨time, { t with log := l }, run_then (translated_ok hrun) _⟩

theorem Serviceable.putTile {key : TileKey} (hs : s.Serviceable key.layer p n db)
    (hfits : key.row.fits = true) (b : Blob) :
    ∃ t, Step.outcome (perform (.putTile key b)) s = (.ok .done, t) ∧
      t.Serviceable key.layer p n { db with tiles := some ⟨.full, withTile key.row b db.tileRows⟩ } ∧
      Elsewhere n s t := by
  obtain ⟨a, after, t, hrun, rfl, hthen, helse⟩ := hs.transact "put"
    (fun hh => putTile_makes hh key.row b) hfits
  rw [Database.onTiles_full hs.offers.schema] at hthen
  refine ⟨_, ?_, hthen.noted t.log (t.events ++ [.tileStored key b.size]), helse⟩
  simp only [perform, Store.putTile, Step.run_bind, hrun]
  rfl

/-- What is announced if something was removed, before it is answered. -/
theorem announced_if (c : Prop) [Decidable c] (e : Event) (a : α) :
    ∃ es, Step.outcome (do
      if c then Step.announce e
      return a) t = (.ok a, { t with events := es }) := by
  by_cases hc : c
  · exact ⟨t.events ++ [e], by rw [if_pos hc]; rfl⟩
  · exact ⟨t.events, by rw [if_neg hc]; rfl⟩

theorem Serviceable.deleteTile {key : TileKey} (hs : s.Serviceable key.layer p n db)
    (hfits : key.row.fits = true) :
    ∃ t, Step.outcome (perform (.deleteTile key)) s =
        (.ok (.flag (decide (0 < db.tileRows.countP (fun r => decide (r.key = key.row))))), t) ∧
      t.Serviceable key.layer p n
        { db with tiles := some ⟨.full, db.tileRows.filter (fun r => !decide (r.key = key.row))⟩ } ∧
      Elsewhere n s t := by
  let l := s.log ++
    [⟨.debug, .tiles, "Deleting tile " ++ rowText key.row ++ " from layer " ++ key.layer⟩]
  obtain ⟨count, after, t, hrun, ⟨hcount, rfl⟩, hthen, helse⟩ := (hs.noted l s.events).transact
    "delete" (fun hh => deleteTile_makes hh key.row) hfits
  rw [Database.onTiles_full hs.offers.schema] at hthen
  obtain ⟨es, hes⟩ := announced_if (t := t) (count ≠ 0) (.tileDeleted key) (decide (count ≠ 0))
  refine ⟨_, ?_, hthen.noted t.log es, helse⟩
  have hdelete : Step.outcome (Store.deleteTile key) s = (.ok (decide (count ≠ 0)), { t with events := es }) := by
    rw [Store.deleteTile, Step.run_bind, Step.note, Step.run_modify]
    refine (run_then hrun _).trans ?_
    exact hes
  rw [perform, Step.run_bind, hdelete, hcount]
  simp only [Nat.pos_iff_ne_zero, Step.run_pure]

theorem Serviceable.deleteGridset (hs : s.Serviceable m p n db) (grid : String) :
    ∃ t, Step.outcome (perform (.deleteGridset m grid)) s =
        (.ok (.count (db.tileRows.countP (fun r => decide (r.key.grid = grid)))), t) ∧
      t.Serviceable m p n
        { db with tiles := some ⟨.full, db.tileRows.filter (fun r => !decide (r.key.grid = grid))⟩ } ∧
      Elsewhere n s t := by
  let l := s.log ++ [⟨.info, .tiles, "Deleting SQLite cached layer " ++ m ++ "; grid set " ++ grid⟩]
  obtain ⟨count, after, t, hrun, ⟨hcount, rfl⟩, hthen, helse⟩ := (hs.noted l s.events).transact
    "delete_by_gridset" (fun hh => deleteGrid_makes hh grid) trivial
  rw [Database.onTiles_full hs.offers.schema] at hthen
  obtain ⟨es, hes⟩ := announced_if (t := t) (count ≠ 0) (.gridsetDeleted m grid) count
  refine ⟨_, ?_, hthen.noted t.log es, helse⟩
  have hdelete : Step.outcome (Store.deleteGridset m grid) s = (.ok count, { t with events := es }) := by
    rw [Store.deleteGridset, Step.run_bind, Step.note, Step.run_modify]
    refine (run_then hrun _).trans ?_
    exact hes
  rw [perform, Step.run_bind, hdelete, hcount]
  rfl

/-! ## What comes of all this -/

/-- No two rows of tiles have one key. -/
def Distinct (db : Database) : Prop := (db.tileRows.map (·.key)).Nodup

theorem Distinct.onTiles {f : List TileRow → List TileRow} (h : Distinct db)
    (hf : ∀ rows : List TileRow, (rows.map (·.key)).Nodup → ((f rows).map (·.key)).Nodup) :
    Distinct (Statement.onTiles db f) := by
  obtain ⟨_ | t, metadata, others⟩ := db
  · exact List.nodup_nil
  · exact hf t.rows h

theorem Distinct.of_tiles (h : Distinct db) (hsame : after.tiles = db.tiles) : Distinct after := by
  rw [Distinct, Database.tileRows, hsame]
  exact h

/-- Whatever an operation makes of the rows, no two have one key if none had before. -/
theorem Distinct.revise (h : Distinct db) (o : Operation) : Distinct (o.revise db) := by
  have hfilter : ∀ hit : TileRow → Bool, Distinct (Statement.onTiles db (·.filter hit)) := fun hit =>
    h.onTiles fun rows hrows => hrows.sublist (List.filter_sublist.map _)
  cases o with
  | putTile key b =>
    exact h.onTiles fun rows hrows => nodup_upsert (fun _ => rfl) (fun _ => rfl) hrows
  | deleteTile | deleteGridset => exact hfilter _
  | putMetadata => exact h.of_tiles rfl
  | getTile | deleteRange | clear | layerExists | deleteLayer | renameLayer | getMetadata | allMetadata
    | metadataEntries | destroy => exact h

end Serviceable

end Store

end TileDepot
