import TileDepot.Proofs.Changes

/-!
# Operations in any store

What an operation comes to is known without knowing what the files hold: it is a sequence of changes,
and if it opens a layer and fails, a sequence of shifts.  `Fares` states this for the operations that open
a layer, and says for which reasons they fail.  Besides the reasons for which there is no handle there is
one more, a tile whose data is no blob.

* `perform_fares` is about the operations that open a layer.
* `releaseAll_shifts`, `deleteLayer_changes` and `renameLayer_changes` are about the others.
* `perform_changes` is about all of them.
-/

namespace TileDepot.Store

/-- The layer that an operation opens. -/
def Operation.opens? : Operation → Option String
  | .getTile key | .putTile key _ | .deleteTile key => some key.layer
  | .deleteGridset layer _ | .getMetadata layer _ | .putMetadata layer _ _ | .allMetadata layer
  | .metadataEntries layer => some layer
  | .deleteRange _ | .clear | .layerExists _ | .deleteLayer _ | .renameLayer .. | .destroy => none

variable {α β : Type} {s t u : Store} {m : String} {p : Path} {id : HandleId}

/-! ## Operations that open a layer -/

/-- A handle that is cached for the layer, now or later, is on a file with a tile that is no blob. -/
def Garbled (s : Store) (m : String) : Prop :=
  ∃ u id h db, Shifts s u ∧ u.cache.get? m = some id ∧ u.handle? id = some h ∧
    (contentOf u.disk h.file).view = .ok db ∧ ¬ db.Plain

theorem Garbled.before (hst : Shifts s t) (h : t.Garbled m) : s.Garbled m := by
  obtain ⟨u, id, h, db, htu, hrest⟩ := h
  exact ⟨u, id, h, db, hst.trans htu, hrest⟩

/-- What an operation that opens a layer comes to. -/
def Fares (m : String) (s : Store) (r : Except Fault α × Store) : Prop :=
  match r with
  | (.ok _, t) => Changes s t ∧ ¬ s.Overlong m
  | (.error f, t) => Shifts s t ∧ ((s.Declines m f ∧ ∀ g, f ≠ .db g) ∨
      (f = .textualBlob ∨ f = .negativeBlob) ∧ s.Garbled m ∧ ¬ s.Overlong m)

theorem Fares.after (hst : Shifts s t) {r : Except Fault α × Store} (h : Fares m t r) : Fares m s r := by
  have hover : ¬ t.Overlong m → ¬ s.Overlong m := fun hn ho => hn (hst.overlong.2 ho)
  obtain ⟨f | a, u⟩ := r
  · refine ⟨hst.trans h.1, h.2.imp (fun hd => ⟨hd.1.before hst, hd.2⟩) fun hg => ?_⟩
    exact ⟨hg.1, hg.2.1.before hst, hover hg.2.2⟩
  · exact ⟨hst.changes.trans h.1, hover h.2⟩

/-- What is noted first does not matter. -/
theorem Fares.noted {severity : Severity} {channel : Channel} {message : String} {x : Step α}
    (h : ∀ l, Fares m { s with log := l } (Step.outcome x { s with log := l })) :
    Fares m s (Step.outcome (Step.note severity channel message >>= fun _ => x) s) := by
  rw [Step.run_bind, Step.run_note]
  exact (h _).after (Shift.logged s _).shifts

/-- An operation goes on with the answer of a session, and does not fail any more. -/
theorem Concludes.fares {x : Step α} {next : α → Step β}
    (hx : Concludes m (fun _ t => Changes s t) s (Step.outcome x s))
    (hnext : ∀ a t, ∃ b u, Step.outcome (next a) t = (.ok b, u) ∧ Changes t u) :
    Fares m s (Step.outcome (x >>= next) s) := by
  rw [Step.run_bind]
  generalize Step.outcome x s = r at hx
  obtain ⟨f | a, t⟩ := r
  · exact ⟨hx.1, .inl hx.2⟩
  · obtain ⟨b, u, hrun, htu⟩ := hnext a t
    dsimp only
    rw [hrun]
    exact ⟨hx.1.trans htu, hx.2⟩

/-- The handle that a session works with. -/
theorem Registered.worker (hs : s.Registered) (hrest : s.Resting) (hid : s.cache.get? m = some id) :
    ∃ h p, s.handle? id = some h ∧ h.transaction = .idle ∧ s.pathOf? m = some p ∧
      h.place = p.resolved.names := by
  obtain ⟨h, hh, -, hp, hplace⟩ := hs.cached m id hid
  exact ⟨h, h.path, hh, hrest m id h hid hh, hp, hplace⟩

/-- A session whose work is done in a transaction. -/
theorem session_transact (hs : s.Registered) (hrest : s.Resting) {operation : String}
    {body : HandleId → Step α}
    (hbody : ∀ id t h, t.handle? id = some h → Proceeds t id h (body id)) :
    Concludes m (fun _ t => Changes s t) s (Step.outcome (Step.translated m operation
      (session m (fun id => transact id (body id)))) s) := by
  apply session_concludes hs
  intro id t hst hid
  obtain ⟨h, p, hh, hidle, hp, hplace⟩ := (hst.registered hs).worker (hst.resting hs hrest) hid
  have hends := transact_ends hh hidle hp hplace (hbody id t h hh)
  generalize Step.outcome (transact id (body id)) t = r at hends
  obtain ⟨f | a, u⟩ := r
  · exact hends
  · exact hst.changes.trans hends

/-- A session that runs one statement, which only looks. -/
theorem session_look (hs : s.Registered) (hrest : s.Resting) {operation : String} {st : Statement α}
    (hform : st.form.changesRows = false) (hm : st.Mild) :
    Concludes m (fun _ t => Shifts s t) s
      (Step.outcome (Step.translated m operation (session m (fun id => exec id st))) s) := by
  apply session_concludes hs
  intro id t hst hid
  obtain ⟨h, p, hh, hidle, hp, hplace⟩ := (hst.registered hs).worker (hst.resting hs hrest) hid
  have hends := exec_ends hh hidle hp hplace hform hm
  generalize Step.outcome (exec id st) t = r at hends
  obtain ⟨f | a, u⟩ := r
  · exact hends
  · exact hst.trans hends.1

theorem putTile_fares (hs : s.Registered) (hrest : s.Resting) (key : TileKey) (blob : Blob) :
    Fares key.layer s (Step.outcome (perform (.putTile key blob)) s) := by
  simp only [perform, putTile, bind_assoc]
  apply Concludes.fares (session_transact hs hrest fun id t h hh => ?_)
  · exact fun _ t => ⟨_, _, rfl, (Change.announced t _).changes⟩
  · refine (exec_proceeds hh (Statement.mild_updateTile key.row blob)).bind fun count => ?_
    split
    · exact exec_proceeds hh (Statement.mild_insertTile key.row blob)
    · exact .pure _

theorem putMetadata_fares (hs : s.Registered) (hrest : s.Resting) (layer key value : String) :
    Fares layer s (Step.outcome (perform (.putMetadata layer key value)) s) := by
  simp only [perform, putMetadata, bind_assoc]
  apply Concludes.fares (session_transact hs hrest fun id t h hh => ?_)
  · exact fun _ t => ⟨_, _, rfl, (Shift.logged t _).shifts.changes⟩
  · refine (exec_proceeds hh (Statement.mild_updateValue key value)).bind fun count => ?_
    split
    · exact exec_proceeds hh (Statement.mild_insertValue (.text key) (.text value))
    · exact .pure _

/-- An event that is announced if rows were changed. -/
theorem announce_counted (count : Nat) (e : Event) (answer : Answer) (t : Store) :
    ∃ b u, Step.outcome (do
      if count ≠ 0 then Step.announce e
      return answer) t = (.ok b, u) ∧ Changes t u := by
  split
  · exact ⟨answer, _, rfl, (Change.announced t e).changes⟩
  · exact ⟨answer, t, rfl, .refl⟩

theorem deleteTile_fares (hs : s.Registered) (hrest : s.Resting) (key : TileKey) :
    Fares key.layer s (Step.outcome (perform (.deleteTile key)) s) := by
  simp only [perform, deleteTile, bind_assoc]
  apply Fares.noted
  intro l
  have hlog := (Shift.logged s l).shifts
  apply Concludes.fares (session_transact (hlog.registered hs) (hlog.resting hs hrest) fun id t h hh =>
    exec_proceeds hh (Statement.mild_deleteTile key.row))
  intro count t
  obtain ⟨b, u, hrun, htu⟩ := announce_counted count (.tileDeleted key) (.flag (decide (count ≠ 0))) t
  refine ⟨b, u, ?_, htu⟩
  rw [← hrun]
  split <;> rfl

theorem deleteGridset_fares (hs : s.Registered) (hrest : s.Resting) (layer grid : String) :
    Fares layer s (Step.outcome (perform (.deleteGridset layer grid)) s) := by
  simp only [perform, deleteGridset, bind_assoc]
  apply Fares.noted
  intro l
  have hlog := (Shift.logged s l).shifts
  apply Concludes.fares (session_transact (hlog.registered hs) (hlog.resting hs hrest) fun id t h hh =>
    exec_proceeds hh (Statement.mild_deleteGrid grid))
  intro count t
  obtain ⟨b, u, hrun, htu⟩ := announce_counted count (.gridsetDeleted layer grid) (.count count) t
  refine ⟨b, u, ?_, htu⟩
  rw [← hrun]
  split <;> rfl

/-- A read that a forgiving store may answer itself. -/
theorem forgiving_fares (hs : s.Registered) (hrest : s.Resting) {operation : String} {st : Statement α}
    (hform : st.form.changesRows = false) (hm : st.Mild) (nothing : α) (answer : α → β) :
    Fares m s (Step.outcome (do
      let a ← forgiving nothing (Step.translated m operation (session m (fun id => exec id st)))
      return answer a) s) := by
  apply Concludes.fares (x := forgiving nothing (Step.translated m operation (session m (fun id => exec id st))))
  · have hlook : Concludes m (fun _ t => Shifts s t) s (Step.outcome (forgiving nothing
        (Step.translated m operation (session m (fun id => exec id st)))) s) :=
      forgiving_concludes (session_look hs hrest hform hm) (fun _ hst => hst)
    generalize Step.outcome (forgiving nothing _) s = r at hlook
    obtain ⟨f | a, t⟩ := r
    · exact hlook
    · exact ⟨hlook.1.changes, hlook.2⟩
  · exact fun a t => ⟨_, t, rfl, .refl⟩

theorem modifiedAt_answers (p : Path) (s : Store) :
    ∃ time l, Step.outcome (modifiedAt p) s = (.ok time, { s with log := l }) := by
  simp only [modifiedAt, Step.run_bind, Step.run_view]
  split
  · exact ⟨_, s.log, rfl⟩
  · exact ⟨none, s.log, rfl⟩
  · exact ⟨none, _, rfl⟩

/-- A tile is looked up without changing anything, and its data is a blob unless the file is garbled. -/
theorem lookTile_concludes (hs : s.Registered) (hrest : s.Resting) (key : TileKey) :
    Concludes key.layer (fun found t => Shifts s t ∧
        ∀ x, found = some x → (∃ b, x.1 = .blob b) ∨ s.Garbled key.layer) s
      (Step.outcome (Step.translated key.layer "get" (session key.layer (fun id => do
        let cell ← exec id (Statement.selectTile key.row)
        let path ← pathFor key.layer
        match cell with
        | none | some .null => return none
        | some cell => return some (cell, ← modifiedAt path)))) s) := by
  apply session_concludes hs
  intro id t hst hid
  obtain ⟨h, p, hh, hidle, hp, hplace⟩ := (hst.registered hs).worker (hst.resting hs hrest) hid
  have hends := exec_ends hh hidle hp hplace rfl (Statement.mild_selectTile key.row)
  rw [Step.run_bind]
  generalize Step.outcome (exec id (Statement.selectTile key.row)) t = r at hends
  obtain ⟨f | found, u⟩ := r
  · exact hends
  · obtain ⟨htu, db, hview, hrun⟩ := hends
    have hpu : u.pathOf? key.layer = some p := (htu.pathOf _).trans hp
    have hcell : ∀ cell, found = some cell → (∃ b, cell = .blob b) ∨ s.Garbled key.layer := by
      rintro cell rfl
      by_cases hplain : db.Plain
      · left
        have hfind : (db.tileRows.find? (fun r => r.key = key.row)).map (·.data) = some cell :=
          congrArg Effect.answer (Except.ok.inj hrun)
        obtain ⟨r, hr, rfl⟩ := Option.map_eq_some_iff.1 hfind
        exact hplain r (List.mem_of_find?_eq_some hr)
      · exact .inr ⟨t, id, h, db, hst, hid, hh, hview, hplain⟩
    have hfound : ∀ cell, found = some cell →
        Ends (fun found t => Shifts s t ∧
          ∀ x, found = some x → (∃ b, x.1 = .blob b) ∨ s.Garbled key.layer) t
        (Step.outcome (do return some (cell, ← modifiedAt p)) u) := by
      intro cell he
      obtain ⟨time, l, hmodified⟩ := modifiedAt_answers p u
      rw [Step.run_bind, hmodified]
      refine ⟨(hst.trans htu).tail (.logged u l), ?_⟩
      rintro x ⟨rfl⟩
      exact hcell cell he
    have hnone : Ends (fun found t => Shifts s t ∧
          ∀ x, found = some x → (∃ b, x.1 = .blob b) ∨ s.Garbled key.layer) t
        ((.ok none, u) : Except Fault (Option (Cell × Option Instant)) × Store) :=
      ⟨hst.trans htu, nofun⟩
    simp only [Step.run_bind, pathFor_some hpu]
    rcases found with _ | cell
    · exact hnone
    · cases cell with
      | null => exact hnone
      | _ => exact hfound _ rfl

theorem blobOf_error {cell : Cell} {f : Fault} (h : blobOf cell = .error f) :
    f = .textualBlob ∨ f = .negativeBlob := by
  cases cell with
  | null => cases h
  | blob b => cases h
  | text s =>
    cases h
    exact .inl rfl
  | integer i =>
    simp only [blobOf] at h
    split at h
    · cases h
      exact .inr rfl
    · cases h

theorem getTile_fares (hs : s.Registered) (hrest : s.Resting) (key : TileKey) :
    Fares key.layer s (Step.outcome (perform (.getTile key)) s) := by
  have hlook := lookTile_concludes hs hrest key
  simp only [perform, getTile, bind_assoc]
  rw [Step.run_bind]
  generalize Step.outcome (Step.translated key.layer "get" _) s = r at hlook
  obtain ⟨f | found, t⟩ := r
  · exact ⟨hlook.1, .inl hlook.2⟩
  · obtain ⟨⟨hst, hcell⟩, hn⟩ := hlook
    rcases found with _ | ⟨cell, modified⟩
    · exact ⟨hst.changes, hn⟩
    · cases hblob : blobOf cell with
      | error f =>
        simp only [hblob]
        refine ⟨hst, .inr ⟨blobOf_error hblob, ?_, hn⟩⟩
        rcases hcell _ rfl with ⟨b, rfl⟩ | hgarbled
        · cases hblob
        · exact hgarbled
      | ok blob =>
        simp only [hblob]
        cases blob <;> exact ⟨hst.changes, hn⟩

/-- An operation that opens a layer fares as it opens the layer, in whatever state the store is. -/
theorem perform_fares (hs : s.Registered) (hrest : s.Resting) {o : Operation} (ho : o.opens? = some m) :
    Fares m s (Step.outcome (perform o) s) := by
  cases o with
  | getTile key =>
    cases ho
    exact getTile_fares hs hrest key
  | putTile key blob =>
    cases ho
    exact putTile_fares hs hrest key blob
  | deleteTile key =>
    cases ho
    exact deleteTile_fares hs hrest key
  | deleteGridset layer grid =>
    cases ho
    exact deleteGridset_fares hs hrest m grid
  | getMetadata layer key =>
    cases ho
    exact forgiving_fares hs hrest rfl (Statement.mild_selectValue key) none Answer.value
  | putMetadata layer key value =>
    cases ho
    exact putMetadata_fares hs hrest m key value
  | allMetadata layer =>
    cases ho
    simp only [perform, allMetadata, metadataEntries, bind_assoc, pure_bind]
    exact forgiving_fares hs hrest rfl Statement.mild_selectEntries [] 
      (fun ps => Answer.pairs (Ordered.ofPairs ps))
  | metadataEntries layer =>
    cases ho
    exact forgiving_fares hs hrest rfl Statement.mild_selectEntries [] (Answer.entries m)
  | deleteRange range => cases ho
  | clear => cases ho
  | layerExists layer => cases ho
  | deleteLayer layer => cases ho
  | renameLayer source target => cases ho
  | destroy => cases ho

/-! ## Operations on whole layers -/

theorem lockOrder_cases (layers : List String) (hne : ∀ n ∈ layers, s.pathOf? n ≠ none) :
    ∃ paths, Step.outcome (lockOrder layers) s = (.ok paths, s) := by
  have hpaths : ∃ ps, Step.outcome (layers.mapM pathFor) s = (.ok ps, s) := by
    induction layers with
    | nil => exact ⟨[], rfl⟩
    | cons n layers ih =>
      obtain ⟨ps, hps⟩ := ih (fun k hk => hne k (List.mem_cons_of_mem _ hk))
      obtain ⟨p, hp⟩ := Option.ne_none_iff_exists'.1 (hne n List.mem_cons_self)
      refine ⟨p :: ps, ?_⟩
      rw [List.mapM_cons]
      simp only [Step.run_bind, pathFor_some hp, hps, Step.run_pure]
  obtain ⟨ps, hps⟩ := hpaths
  exact ⟨_, by simp only [lockOrder, Step.run_bind, hps, Step.run_pure]; rfl⟩

/-- Taking a file away beside a path fails only where the path beside it cannot be looked up. -/
theorem removeBeside_cases (p : Path) (suffix : String) (s : Store) :
    (∃ t, Step.outcome (removeBeside p suffix) s = (.ok (), t) ∧ Changes s t) ∨
      ∃ f, Step.outcome (removeBeside p suffix) s = (.error (.os f), s) := by
  cases hu : s.disk.unlink (p.extendName suffix) with
  | ok d =>
    left
    refine ⟨{ s with disk := d }, by simp only [removeBeside, Step.run_bind, Step.run_view, hu,
      Step.run_changeDisk], ?_⟩
    rw [Disk.unlink] at hu
    split at hu
    · cases hu
    · cases hu
    · rename_i hfind
      cases hu
      exact (Change.removed hfind).changes
  | error f =>
    by_cases hf : f.cause = .noEntry
    · exact .inl ⟨s, by simp only [removeBeside, Step.run_bind, Step.run_view, hu, if_pos hf,
        Step.run_pure], .refl⟩
    · exact .inr ⟨f, by simp only [removeBeside, Step.run_bind, Step.run_view, hu, if_neg hf,
        Step.run_throw]⟩

theorem removeAll_cases (p : Path) (suffixes : List String) (s : Store) :
    ∃ r t, Step.outcome (suffixes.forM (removeBeside p)) s = (r, t) ∧ Changes s t ∧
      ∀ f, r = .error f → ∃ g, f = .os g := by
  induction suffixes generalizing s with
  | nil => exact ⟨_, s, rfl, .refl, fun _ hf => nomatch hf⟩
  | cons suffix suffixes ih =>
    change ∃ r t, Step.outcome (removeBeside p suffix >>= fun _ => suffixes.forM (removeBeside p)) s = _ ∧ _
    rw [Step.run_bind]
    rcases removeBeside_cases p suffix s with ⟨t, ht, hst⟩ | ⟨f, hf⟩
    · obtain ⟨r, u, hu, htu, hr⟩ := ih t
      rw [ht]
      exact ⟨r, u, hu, hst.trans htu, hr⟩
    · rw [hf]
      exact ⟨_, s, rfl, .refl, fun g hg => ⟨f, (Except.error.inj hg).symm⟩⟩

/-- What is left to do when a file is gone. -/
def afterwards (p : Path) (e : Event) : Step Answer := do
  removeSidecars p
  Step.announce e
  return .flag true

theorem afterwards_changes (p : Path) (e : Event) (s : Store) :
    Changes s (Step.outcome (afterwards p e) s).2 := by
  obtain ⟨r, t, hrun, hst, -⟩ := removeAll_cases p sidecarSuffixes s
  have hrun : Step.outcome (removeSidecars p) s = (r, t) := hrun
  rw [afterwards, Step.run_bind, hrun]
  cases r with
  | error f => exact hst
  | ok _ => exact hst.tail (.announced t e)

/-- Removing a layer: it is invalidated, and then its file is removed. -/
theorem deleteLayer_after (hp : s.pathOf? m = some p) :
    ∃ l, ∀ t, Step.outcome (invalidate m) { s with log := l } = (.ok (), t) → t.disk = s.disk →
      Step.outcome (perform (.deleteLayer m)) s =
      match s.disk.unlink p with
      | .error f =>
          if f.cause = .noEntry then (.ok (.flag false), t)
          else (.error (.store ⟨.notRemoved p.toString f, some m, "delete_layer"⟩), t)
      | .ok d => Step.outcome (afterwards p (.layerDeleted m)) { t with disk := d } := by
  generalize hl : s.log ++ [LogRecord.mk .info .lifecycle ("Deleting SQLite cached layer " ++ m)] = l
  have hpu : ({ s with log := l } : Store).pathOf? m = some p := hp
  obtain ⟨paths, hlocks⟩ := lockOrder_cases (s := { s with log := l }) [m] (by simp [hpu])
  refine ⟨l, fun t ht hd => ?_⟩
  simp only [perform, deleteLayer, Step.run_bind, Step.run_note, hl, pathFor_some hpu, hlocks, ht,
    Step.run_view, hd]
  cases s.disk.unlink p with
  | error f =>
    by_cases hf : f.cause = .noEntry
    · simp only [if_pos hf, Step.run_pure]
    · simp only [if_neg hf, Step.run_fail]
  | ok d =>
    simp only [afterwards, Step.run_bind, Step.run_changeDisk]
    rcases Step.outcome (removeSidecars p) { t with disk := d } with ⟨_ | _, _⟩ <;> rfl

/-- Removing a layer: its handles are closed, and then its file is removed. -/
theorem deleteLayer_outcome (hp : s.pathOf? m = some p) :
    ∃ t, Shifts s t ∧ t.disk = s.disk ∧ Step.outcome (perform (.deleteLayer m)) s =
      match s.disk.unlink p with
      | .error f =>
          if f.cause = .noEntry then (.ok (.flag false), t)
          else (.error (.store ⟨.notRemoved p.toString f, some m, "delete_layer"⟩), t)
      | .ok d => Step.outcome (afterwards p (.layerDeleted m)) { t with disk := d } := by
  obtain ⟨l, hrun⟩ := deleteLayer_after hp
  obtain ⟨t, ht, hut, hd⟩ := invalidate_shifts (s := { s with log := l }) hp
  exact ⟨t, (Shift.logged s l).shifts.trans hut, hd, hrun t ht hd⟩

/-- Renaming a layer to a name with the same file invalidates it. -/
theorem renameLayer_same_after {m' : String} (hp : s.pathOf? m = some p) (hp' : s.pathOf? m' = some p) :
    ∃ l, ∀ t, Step.outcome (invalidate m) { s with log := l } = (.ok (), t) →
      Step.outcome (perform (.renameLayer m m')) s = (.ok (.flag true), t) := by
  generalize hl : s.log ++ [LogRecord.mk .info .lifecycle
    ("Renaming SQLite cached layer " ++ m ++ " to " ++ m')] = l
  have hpu : ({ s with log := l } : Store).pathOf? m = some p := hp
  have hpu' : ({ s with log := l } : Store).pathOf? m' = some p := hp'
  refine ⟨l, fun t ht => ?_⟩
  simp only [perform, renameLayer, Step.run_bind, Step.run_note, hl, pathFor_some hpu, pathFor_some hpu',
    if_true, ht, Step.run_pure]

/-- Renaming a layer to a name with the same file closes the handles on the file. -/
theorem renameLayer_same {m' : String} (hp : s.pathOf? m = some p) (hp' : s.pathOf? m' = some p) :
    ∃ t, Shifts s t ∧ t.disk = s.disk ∧
      Step.outcome (perform (.renameLayer m m')) s = (.ok (.flag true), t) := by
  obtain ⟨l, hrun⟩ := renameLayer_same_after hp hp'
  obtain ⟨t, ht, hut, hd⟩ := invalidate_shifts (s := { s with log := l }) hp
  exact ⟨t, (Shift.logged s l).shifts.trans hut, hd, hrun t ht⟩

/-- Renaming a layer to a name with another file: there must be none, then both layers are invalidated, and
the file is moved if there is one. -/
theorem renameLayer_after {m' : String} {p' : Path} (hp : s.pathOf? m = some p)
    (hp' : s.pathOf? m' = some p') (hne : p ≠ p') :
    ∃ l, ∀ u v, Step.outcome (invalidate m) { s with log := l } = (.ok (), u) →
      Step.outcome (invalidate m') u = (.ok (), v) → v.disk = s.disk →
      Step.outcome (perform (.renameLayer m m')) s =
      match s.disk.exists? p', s.disk.exists? p with
      | .error f, _ => (.error (.os f), { s with log := l })
      | .ok true, _ =>
          (.error (.store ⟨.targetTaken m m', some m', "rename"⟩), { s with log := l })
      | .ok false, .error f => (.error (.os f), v)
      | .ok false, .ok false => (.ok (.flag true), { v with log := v.log ++ [⟨.debug, .lifecycle,
          "No store for layer " ++ m ++ ", nothing to rename"⟩] })
      | .ok false, .ok true =>
          match s.disk.move p p' with
          | .error f => (.error (.store ⟨.notMoved p.toString p'.toString f, some m, "rename"⟩), v)
          | .ok d => Step.outcome (afterwards p (.layerRenamed m m')) { v with disk := d } := by
  generalize hl : s.log ++ [LogRecord.mk .info .lifecycle
    ("Renaming SQLite cached layer " ++ m ++ " to " ++ m')] = l
  have hpu : ({ s with log := l } : Store).pathOf? m = some p := hp
  have hpu' : ({ s with log := l } : Store).pathOf? m' = some p' := hp'
  obtain ⟨paths, hlocks⟩ := lockOrder_cases (s := { s with log := l }) [m, m'] (by simp [hpu, hpu'])
  refine ⟨l, fun u v ht hv hd => ?_⟩
  simp only [perform, renameLayer, Step.run_bind, Step.run_note, hl, pathFor_some hpu, pathFor_some hpu',
    if_neg hne, hlocks, Step.run_get]
  cases s.disk.exists? p' with
  | error f => rfl
  | ok b =>
    cases b with
    | true => rfl
    | false =>
      simp only [Step.run_ofDisk_ok, Bool.false_eq_true, if_false, Step.run_bind, ht, hv, Step.run_get]
      cases hthere : s.disk.exists? p with
      | error f =>
        rw [← hd] at hthere
        simp only [hthere, Step.run_ofDisk_error]
      | ok b =>
        rw [← hd] at hthere
        cases b with
        | false =>
          simp only [hthere, Step.run_ofDisk_ok, Bool.not_false, if_true, Step.run_bind, Step.run_note,
            Step.run_pure]
        | true =>
          simp only [hthere, Step.run_ofDisk_ok, Bool.not_true, Bool.false_eq_true, if_false, Step.run_bind,
            Step.run_get]
          cases hmove : s.disk.move p p' with
          | error f =>
            rw [← hd] at hmove
            simp only [hmove, Step.run_fail]
          | ok d =>
            rw [← hd] at hmove
            simp only [hmove, afterwards, Step.run_bind, Step.run_changeDisk]
            rcases Step.outcome (removeSidecars p) { v with disk := d } with ⟨_ | _, _⟩ <;> rfl

/-- Renaming a layer to a name with another file: there must be none, then the handles on both files are
closed, and the file is moved if there is one. -/
theorem renameLayer_outcome {m' : String} {p' : Path} (hp : s.pathOf? m = some p)
    (hp' : s.pathOf? m' = some p') (hne : p ≠ p') :
    ∃ t u, Shifts s t ∧ t.disk = s.disk ∧ Shifts s u ∧ u.disk = s.disk ∧
      Step.outcome (perform (.renameLayer m m')) s =
      match s.disk.exists? p', s.disk.exists? p with
      | .error f, _ => (.error (.os f), u)
      | .ok true, _ => (.error (.store ⟨.targetTaken m m', some m', "rename"⟩), u)
      | .ok false, .error f => (.error (.os f), t)
      | .ok false, .ok false => (.ok (.flag true), { t with log := t.log ++ [⟨.debug, .lifecycle,
          "No store for layer " ++ m ++ ", nothing to rename"⟩] })
      | .ok false, .ok true =>
          match s.disk.move p p' with
          | .error f => (.error (.store ⟨.notMoved p.toString p'.toString f, some m, "rename"⟩), t)
          | .ok d => Step.outcome (afterwards p (.layerRenamed m m')) { t with disk := d } := by
  obtain ⟨l, hrun⟩ := renameLayer_after hp hp' hne
  have hu : Shifts s { s with log := l } := (Shift.logged s l).shifts
  obtain ⟨t, ht, hut, hdt⟩ := invalidate_shifts (s := { s with log := l }) hp
  obtain ⟨v, hv, htv, hdv⟩ := invalidate_shifts ((hut.pathOf m').trans hp')
  have hd : v.disk = s.disk := hdv.trans hdt
  exact ⟨v, { s with log := l }, (hu.trans hut).trans htv, hd, hu, rfl, hrun t v ht hv hd⟩

/-- Asking for a layer changes nothing. -/
theorem layerExists_outcome (hp : s.pathOf? m = some p) :
    Step.outcome (perform (.layerExists m)) s =
      ((s.disk.isFile? p).mapError Fault.os |>.map Answer.flag, s) := by
  simp only [perform, layerExists, Step.run_bind, pathFor_some hp, Step.run_view]
  cases s.disk.isFile? p <;> rfl

theorem pathFor_none (hp : s.pathOf? m = none) : Step.outcome (pathFor m) s = (.error .emptyName, s) := by
  rw [pathOf_none.1 hp]
  exact pathFor_empty s

/-- Without a name nothing is removed. -/
theorem deleteLayer_unnamed (hp : s.pathOf? m = none) :
    ∃ t, Shifts s t ∧ t.disk = s.disk ∧
      Step.outcome (perform (.deleteLayer m)) s = (.error .emptyName, t) := by
  generalize hl : s.log ++ [LogRecord.mk .info .lifecycle ("Deleting SQLite cached layer " ++ m)] = l
  refine ⟨{ s with log := l }, (Shift.logged s l).shifts, rfl, ?_⟩
  have hpath := pathFor_none (s := { s with log := l }) hp
  simp only [perform, deleteLayer, Step.run_bind, Step.run_note, hl, hpath]

/-- Nothing is renamed unless both names are there. -/
theorem renameLayer_unnamed {m' : String} (h : s.pathOf? m = none ∨ s.pathOf? m' = none) :
    ∃ t, Shifts s t ∧ t.disk = s.disk ∧
      Step.outcome (perform (.renameLayer m m')) s = (.error .emptyName, t) := by
  generalize hl : s.log ++ [LogRecord.mk .info .lifecycle
    ("Renaming SQLite cached layer " ++ m ++ " to " ++ m')] = l
  refine ⟨{ s with log := l }, (Shift.logged s l).shifts, rfl, ?_⟩
  cases hp : s.pathOf? m with
  | none =>
    have hpath := pathFor_none (s := { s with log := l }) hp
    simp only [perform, renameLayer, Step.run_bind, Step.run_note, hl, hpath]
  | some p =>
    have hp' : s.pathOf? m' = none := h.resolve_left (by rw [hp]; exact nofun)
    have hpath := pathFor_some (s := { s with log := l }) hp
    have hpath' := pathFor_none (s := { s with log := l }) hp'
    simp only [perform, renameLayer, Step.run_bind, Step.run_note, hl, hpath, hpath']

/-- Closing all handles never fails. -/
theorem destroy_outcome (hs : s.Registered) :
    ∃ t, Shifts s t ∧ Step.outcome (perform .destroy) s = (.ok .done, t) := by
  let u : Store := { s with log := s.log ++ [⟨.info, .service, "Closing SQLiteBlobStore connections"⟩] }
  have hu : Shifts s u := (Shift.logged s _).shifts
  obtain ⟨t, ht, hut, -⟩ := releaseAll_shifts (hu.registered hs)
  refine ⟨t, hu.trans hut, ?_⟩
  simp only [perform, destroy, Step.run_bind, Step.run_note]
  rw [ht]
  rfl

theorem deleteLayer_changes (m : String) (s : Store) :
    Changes s (Step.outcome (perform (.deleteLayer m)) s).2 := by
  cases hp : s.pathOf? m with
  | none =>
    obtain ⟨t, hst, -, hrun⟩ := deleteLayer_unnamed hp
    rw [hrun]
    exact hst.changes
  | some p =>
    obtain ⟨t, hst, hd, hrun⟩ := deleteLayer_outcome hp
    rw [hrun]
    cases hu : s.disk.unlink p with
    | error f =>
      dsimp only
      split <;> exact hst.changes
    | ok d =>
      refine (hst.changes.tail ?_).trans (afterwards_changes p _ _)
      rw [Disk.unlink] at hu
      split at hu
      · cases hu
      · cases hu
      · rename_i hfind
        cases hu
        rw [← hd] at hfind ⊢
        exact .removed hfind

/-- The file of a layer is moved, if it is, to a path that leads nowhere. -/
theorem renameLayer_apart {m' : String} {p' : Path} (hp : s.pathOf? m = some p)
    (hp' : s.pathOf? m' = some p') (hne : p ≠ p') :
    Changes s (Step.outcome (perform (.renameLayer m m')) s).2 := by
  obtain ⟨t, u, hst, hd, hsu, -, hrun⟩ := renameLayer_outcome hp hp' hne
  rw [hrun]
  cases hthere' : s.disk.exists? p' with
  | error f => exact hsu.changes
  | ok b =>
    cases b with
    | true => exact hsu.changes
    | false =>
      cases hthere : s.disk.exists? p with
      | error f => exact hst.changes
      | ok b =>
        cases b with
        | false => exact Shifts.changes (hst.tail (.logged t _))
        | true =>
          cases hmove : s.disk.move p p' with
          | error f => exact hst.changes
          | ok d =>
            rw [← hd] at hthere' hmove
            exact (hst.changes.tail (.renamed ((hst.pathOf m).trans hp) ((hst.pathOf m').trans hp')
              hthere' hmove)).trans (afterwards_changes p _ _)

theorem renameLayer_changes (m m' : String) (s : Store) :
    Changes s (Step.outcome (perform (.renameLayer m m')) s).2 := by
  by_cases hunnamed : s.pathOf? m = none ∨ s.pathOf? m' = none
  · obtain ⟨t, hst, -, hrun⟩ := renameLayer_unnamed hunnamed
    rw [hrun]
    exact hst.changes
  · rw [not_or] at hunnamed
    obtain ⟨p, hp⟩ := Option.ne_none_iff_exists'.1 hunnamed.1
    obtain ⟨p', hp'⟩ := Option.ne_none_iff_exists'.1 hunnamed.2
    by_cases hpp : p = p'
    · obtain ⟨t, hst, -, hrun⟩ := renameLayer_same hp (hpp ▸ hp')
      rw [hrun]
      exact hst.changes
    · exact renameLayer_apart hp hp' hpp

/-- Whatever is asked of a store, what happens to it is a sequence of changes. -/
theorem perform_changes (hs : s.Registered) (hrest : s.Resting) (o : Operation) :
    Changes s (Step.outcome (perform o) s).2 := by
  cases ho : o.opens? with
  | some m =>
    have hfares := perform_fares hs hrest ho
    generalize Step.outcome (perform o) s = r at hfares
    obtain ⟨f | a, t⟩ := r
    · exact hfares.1.changes
    · exact hfares.1
  | none =>
    cases o with
    | getTile | putTile | deleteTile | deleteGridset | getMetadata | putMetadata | allMetadata
      | metadataEntries => cases ho
    | deleteRange range => exact .refl
    | clear => exact .refl
    | layerExists m =>
      cases hp : s.pathOf? m with
      | none =>
        simp only [perform, layerExists, Step.run_bind, pathFor_none hp]
        exact .refl
      | some p =>
        rw [layerExists_outcome hp]
    | deleteLayer m => exact deleteLayer_changes m s
    | renameLayer m m' => exact renameLayer_changes m m' s
    | destroy =>
      obtain ⟨t, hst, hrun⟩ := destroy_outcome hs
      rw [hrun]
      exact hst.changes

end TileDepot.Store
