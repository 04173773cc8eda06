import TileDepot.Proofs.Leftovers

/-!
# Failed creations are contained

Where the tables of a new layer cannot be made, acquiring a handle fails, and an empty file stays behind.
Nothing comes of that file: whoever asks for it is refused, until it is removed.

* `acquire_fails` says what is left when a statement of the schema is damaged.
* `Leftover.acquire` and `Leftover.perform` say that every handle and every operation that needs one is
  refused, and `Leftover.attend` that the file stays what it is.
* `Leftover.deleted` says that the way is free once the file is removed.
* `failure_contained` is the statement on the whole.  It supposes that the extension has no slash; with one,
  a leftover can be mistaken for a place where nothing is.
-/

namespace TileDepot

open Layer

namespace Store

variable {α β : Type} {s t u : Store} {m m' : String} {p p' : Path} {n : Nat} {d e : Disk}

/-! ## Creating in vain -/

theorem acquire_obtain (m : String) (s : Store) :
    Step.outcome (acquire m) s = Step.outcome (do
      let id ← obtain m
      if 0 < s.staleAcquires then close id
      return id) { s with staleAcquires := s.staleAcquires - 1 } := by
  simp only [acquire, Step.run_bind, Step.run_get, Step.run_modify]

/-- What is not obtained is not acquired. -/
theorem acquire_error {f : Fault}
    (h : Step.outcome (obtain m) { s with staleAcquires := s.staleAcquires - 1 } = (.error f, t)) :
    Step.outcome (acquire m) s = (.error f, t) := by
  rw [acquire_obtain, Step.run_bind, h]

/-- Which statements of the schema are damaged, and how many closings by others are pending, does not matter. -/
theorem Unclaimed.regardless (hs : s.Unclaimed p) (ddl : Ddl) (k : Nat) :
    ({ s with ddl := ddl, staleAcquires := k } : Store).Unclaimed p :=
  hs.kept ⟨hs.counted.numbered, hs.counted.handles, hs.counted.locks⟩ rfl rfl rfl fun _ => id

/-- No handle is cached for the layer, so its file is opened, or made if there is none. -/
theorem Unclaimed.obtain_cases (hs : s.Unclaimed p) (hp : s.pathOf? m = some p) :
    ∃ r, Step.outcome (obtain m) s = cachedAs m r ∧
      (s.disk.exists? p = .ok true ∧ Opening s m p r ∨ s.disk.exists? p = .ok false ∧ Making s m p r) := by
  have hc : s.cache.get? m = none := by
    cases hid : s.cache.get? m with
    | none => rfl
    | some id => exact absurd hp (hs.uncached m id hid)
  rcases obtain_missing hc with ⟨rfl, -⟩ | ⟨-, -, hrun⟩
  · rw [pathOf_none.2 rfl] at hp
    cases hp
  · rcases renew_cases hp with ⟨hl, -⟩ | ⟨-, r, hrenew, hcases⟩
    · rw [hs.located] at hl
      cases hl
    · exact ⟨r, hrun.trans hrenew, hcases⟩

/-- Where the path of a layer leads nowhere, a file is made, and then the tables are made in it or not. -/
theorem Unclaimed.making (hs : s.Unclaimed p) (hmissing : s.disk.exists? p = .ok false)
    (hp : s.pathOf? m = some p) :
    s.disk.node? p.resolved.names = none ∧ ∃ l,
      let d := settle (s.disk.createFile p.resolved.names (.raw .empty)).2 p.resolved.names s.disk.next true
      match withTables { s with disk := d } p.resolved.names s.disk.next with
      | .error f => Step.outcome (obtain m) s =
          (.error (.store ⟨.schemaNotMade p.name f, some m, "create"⟩), { s with disk := d, log := l })
      | .ok db => Step.outcome (obtain m) s = (.ok s.issued.length, enlist
          { s with disk := commit d p.resolved.names s.disk.next db, log := l } m
          (.fresh m p s.disk.next db.schema)) := by
  obtain ⟨R, hroot⟩ := hs.root
  have hnone := vacant_of_missing hs.regular hroot hs.layer hmissing
  obtain ⟨r, hrun, ⟨hthere, -⟩ | ⟨-, hmaking⟩⟩ := hs.obtain_cases hp
  · rw [hmissing] at hthere
    cases hthere
  · refine ⟨hnone, ?_⟩
    cases hmaking with
    | refused l hbarred =>
      have hdir := hbarred _ (Disk.locate_resolved hs.located)
      rw [hnone] at hdir
      cases hdir
    | failed l hmeets hwith =>
      obtain ⟨rfl, rfl⟩ := hmeets.of_vacant hnone
      exact ⟨l, by simp only [hwith]; exact hrun⟩
    | made l hmeets hwith =>
      obtain ⟨rfl, rfl⟩ := hmeets.of_vacant hnone
      exact ⟨l, by simp only [hwith]; exact hrun⟩

/-- The empty file that is made is a leftover, and it is no concern of other layers. -/
theorem Unclaimed.blanked (hs : s.Unclaimed p) (hnone : s.disk.node? p.resolved.names = none)
    (htidy : (s.disk.createFile p.resolved.names (.raw .empty)).2.Tidied p.resolved.names d)
    (l : List LogRecord) :
    ({ s with disk := d, log := l } : Store).Leftover p s.disk.next ∧
      ∀ m' p', s.pathOf? m' = some p' → p' ≠ p → ∀ k, k ≠ s.disk.next →
        s.disk.Spared p'.resolved.names k d := by
  obtain ⟨m₀, hm₀⟩ := hs.layer
  have hbeside : ∀ {m' p'}, s.pathOf? m' = some p' → ∀ suffix ∈ sidecarSuffixes,
      p'.resolved.names ≠ beside p.resolved.names suffix := fun hp' _ hsuffix =>
    resolved_ne_beside hs.regular.dotted hsuffix hm₀ hp'
  have hcounted := (hs.counted.created p.resolved.names (.raw .empty)).tidied htidy
  have hthen : ({ s with disk := d, log := l } : Store).Unclaimed p :=
    hs.kept ⟨hcounted.numbered, hcounted.handles, hcounted.locks⟩ rfl rfl rfl fun q hq =>
      htidy.directory.2 ((Disk.directory_createFile hnone _ q).2 hq)
  constructor
  · exact
      { hthen with
        node := by
          refine (htidy.elsewhere (hbeside hm₀)).trans ?_
          rw [Disk.node_createFile s.disk (Disk.ne_nil_of_vacant hnone), if_pos rfl]
        content := (htidy.contentOf_eq _).trans (contentOf_createFile ..)
        untouched := fun id h hh => Nat.ne_of_lt (hs.counted.handles id h hh) }
  · intro m' p' hp' hne k hk
    exact (Disk.Spared.created hnone (hs.elsewhere hp' hne) hk _).trans
      (.tidied htidy (hbeside hp'))

/-- Work with a layer is refused since its file is no store: nothing is cached, and the file is as it was. -/
def Denied (p : Path) (n : Nat) (m : String) (s : Store) (r : Except Fault α × Store) : Prop :=
  ∃ cause t, r = (.error (.store ⟨cause, some m, "open"⟩), t) ∧ cause.category = .schema ∧
    t.cache = s.cache ∧ t.Leftover p n

theorem Denied.bind {x : Step α} (h : Denied p n m s (Step.outcome x t)) (f : α → Step β) :
    Denied p n m s (Step.outcome (x >>= f) t) := by
  obtain ⟨cause, u, hrun, hrest⟩ := h
  exact ⟨cause, u, by rw [Step.run_bind, hrun], hrest⟩

theorem Denied.translated {x : Step α} (h : Denied p n m s (Step.outcome x t)) (m' operation : String) :
    Denied p n m s (Step.outcome (Step.translated m' operation x) t) := by
  obtain ⟨cause, u, hrun, hrest⟩ := h
  exact ⟨cause, u, by rw [Step.translated, Step.run_tryCatch, hrun]; rfl, hrest⟩

/-- What is noted does not matter. -/
theorem Leftover.noted (hs : s.Leftover p n) (l : List LogRecord) (es : List Event) (k : Nat) :
    ({ s with log := l, events := es, staleAcquires := k } : Store).Leftover p n := by
  have hacts : Gentle s _ := .single (.noted s l es k)
  exact hacts.leftover id hs

/-- A leftover is not opened, since neither table is in it. -/
theorem Leftover.obtain (hs : s.Leftover p n) (hp : s.pathOf? m = some p) :
    Denied p n m s (Step.outcome (obtain m) s) := by
  have hfind := Disk.find_of_node (Disk.locate_resolved hs.located) hs.node
  have hthere : s.disk.exists? p = .ok true :=
    Disk.exists_iff.2 ⟨_, _, Disk.find_of_node hs.located hs.node⟩
  have hview : ∀ {k db}, s.disk.find p.resolved = .ok (p.resolved.names, .file k) →
      meet s.disk p.resolved.names k = .ok db → db = .blank := by
    intro k db hk hmeet
    rw [hfind] at hk
    cases hk
    have hview := meet_view hmeet
    rw [hs.content] at hview
    exact (Except.ok.inj hview).symm
  have htidy : ∀ k l,
      ({ s with disk := settle s.disk p.resolved.names k false, log := l } : Store).Leftover p n := by
    intro k l
    have hacts : Gentle s _ := .single (.tidied hp (settle_tidied s.disk p.resolved.names k false))
    exact (hacts.leftover id hs).noted l s.events s.staleAcquires
  obtain ⟨r, hrun, ⟨-, hopening⟩ | ⟨hnot, -⟩⟩ := hs.obtain_cases hp
  · rw [hrun]
    cases hopening with
    | refused l hbarred => exact absurd hfind fun hf => hbarred.not_file hf
    | unreadable l => exact ⟨_, _, rfl, rfl, rfl, htidy _ l⟩
    | lacking l => exact ⟨_, _, rfl, rfl, rfl, htidy _ l⟩
    | opened l hk hmeet hmissing =>
      rw [hview hk hmeet] at hmissing
      cases hmissing
  · rw [hthere] at hnot
    cases hnot

/-- No handle on a leftover is handed out. -/
theorem Leftover.acquire (hs : s.Leftover p n) (hp : s.pathOf? m = some p) :
    Denied p n m s (Step.outcome (Store.acquire m) s) := by
  obtain ⟨cause, t, hrun, hrest⟩ := (hs.noted s.log s.events (s.staleAcquires - 1)).obtain hp
  exact ⟨cause, t, acquire_error hrun, hrest⟩

theorem Leftover.session (hs : s.Leftover p n) (hp : s.pathOf? m = some p) (body : HandleId → Step α) :
    Denied p n m s (Step.outcome (Store.session m body) s) := by
  have hopen : Denied p n m s (Step.outcome (acquireOpen m s.staleAcquires) s) := by
    cases s.staleAcquires with
    | zero => exact hs.acquire hp
    | succ retries => exact (hs.acquire hp).bind _
  rw [Store.session, Step.run_bind, Step.run_get]
  exact hopen.bind body

/-- The layer that an operation on tiles, or one that writes metadata, is about.  Removing a range is not among
them, since it is refused for every layer. -/
def Operation.needs? : Operation → Option String
  | .getTile key | .putTile key _ | .deleteTile key => some key.layer
  | .deleteGridset layer _ | .putMetadata layer _ _ => some layer
  | _ => none

/-- Operations that need the tables of a leftover are refused. -/
theorem Leftover.perform (hs : s.Leftover p n) (hp : s.pathOf? m = some p) {o : Operation}
    (ho : o.needs? = some m) : Denied p n m s (Step.outcome (Store.perform o) s) := by
  have hsession : ∀ {γ : Type} (l : List LogRecord) (operation : String) (body : HandleId → Step γ),
      Denied p n m s (Step.outcome (Step.translated m operation (Store.session m body)) { s with log := l }) :=
    fun l operation body => ((hs.noted l s.events s.staleAcquires).session hp body).translated m operation
  cases o with
  | getTile key =>
    cases ho
    exact ((hsession s.log _ _).bind _).bind _
  | putTile key b =>
    cases ho
    exact ((hsession s.log _ _).bind _).bind _
  | deleteTile key =>
    cases ho
    have hdelete : Denied p n key.layer s (Step.outcome (Store.deleteTile key) s) := by
      rw [Store.deleteTile, Step.run_bind, Step.run_note]
      exact (hsession _ _ _).bind _
    exact hdelete.bind _
  | deleteGridset _ grid =>
    cases ho
    have hdelete : Denied p n m s (Step.outcome (Store.deleteGridset m grid) s) := by
      rw [Store.deleteGridset, Step.run_bind, Step.run_note]
      exact (hsession _ _ _).bind _
    exact hdelete.bind _
  | putMetadata _ key value =>
    cases ho
    exact ((hsession s.log _ _).bind _).bind _
  | deleteRange | clear | layerExists | deleteLayer | renameLayer | getMetadata | allMetadata
    | metadataEntries | destroy => cases ho

/-! ## What may be asked for meanwhile -/

/-- What may be done with a store after a creation failed. -/
inductive Errand where
  | acquire (layer : String)
  | ask (o : Operation)
  | mend (ddl : Ddl)

/-- The store after an errand. -/
def Errand.after (s : Store) : Errand → Store
  | .acquire layer => (Step.outcome (Store.acquire layer) s).2
  | .ask o => (Step.outcome (Store.perform o) s).2
  | .mend ddl => { s with ddl := ddl }

/-- An errand that may remove or move files. -/
def Errand.MovesFiles : Errand → Prop
  | .ask o => o.MovesFiles
  | .acquire _ | .mend _ => False

theorem Leftover.mended (hs : s.Leftover p n) (ddl : Ddl) : ({ s with ddl := ddl } : Store).Leftover p n :=
  { hs.toUnclaimed.regardless ddl s.staleAcquires with
    node := hs.node
    content := hs.content
    untouched := hs.untouched }

/-- Settings stay, and so does a leftover as long as no files are removed or moved. -/
theorem Leftover.after (hs : s.Leftover p n) {e : Errand} (he : ¬ e.MovesFiles) :
    (e.after s).config = s.config ∧ (e.after s).Leftover p n := by
  cases e with
  | acquire m =>
    have hacts : Gentle s _ := does_acquire m s hs.composed
    exact ⟨hacts.config, hacts.leftover id hs⟩
  | ask o =>
    have hacts := perform_does o s hs.composed
    exact ⟨hacts.config, hacts.leftover he hs⟩
  | mend ddl => exact ⟨rfl, hs.mended ddl⟩

/-- A layer's path leads nowhere, and nothing beside it keeps its file from being made. -/
structure Vacated (p : Path) (s : Store) : Prop extends Unclaimed p s where
  missing : s.disk.exists? p = .ok false
  journal : journalFits p.resolved.names = true
  clear : ∀ suffix ∈ sidecarSuffixes, s.disk.node? (beside p.resolved.names suffix) ≠ some .directory

/-- In a file that was made where a leftover was removed both tables can be made. -/
theorem Vacated.withTables (hs : s.Vacated p) (hddl : s.ddl = ⟨false, false⟩)
    (htidy : (s.disk.createFile p.resolved.names (.raw .empty)).2.Tidied p.resolved.names d) :
    Store.withTables { s with disk := d } p.resolved.names s.disk.next = .ok .empty := by
  obtain ⟨R, hroot⟩ := hs.root
  have hnone := vacant_of_missing hs.regular hroot hs.layer hs.missing
  have hlocks : d.locksOn s.disk.next = [] := by
    rw [Disk.locksOn, htidy.locks, List.map_eq_nil_iff, List.filter_eq_nil_iff]
    intro l hl hnumber
    rw [decide_eq_true_eq] at hnumber
    exact absurd hnumber (Nat.ne_of_lt (hs.counted.locks l hl))
  have hcontent : contentOf d s.disk.next = .raw .empty :=
    (htidy.contentOf_eq _).trans (contentOf_createFile ..)
  have hblocks : ∀ suffix ∈ sidecarSuffixes, blocksSidecar d p.resolved.names suffix = false := by
    intro suffix hsuffix
    rw [blocksSidecar, beq_eq_false_iff_ne]
    intro hdir
    exact hs.clear suffix hsuffix ((Disk.directory_createFile hnone _ _).1 (htidy.directory.1 hdir))
  have hwal := hblocks "-wal" (by decide)
  have hjournal := hblocks "-journal" (by decide)
  simp only [Store.withTables, meet, hlocks, hcontent, obstacle, hwal, hjournal, hddl, writeObstacle, hs.journal]
  rfl

theorem Vacated.regardless (hs : s.Vacated p) (ddl : Ddl) (k : Nat) :
    ({ s with ddl := ddl, staleAcquires := k } : Store).Vacated p :=
  { hs.toUnclaimed.regardless ddl k with
    missing := hs.missing
    journal := hs.journal
    clear := hs.clear }

/-- A new store was made for a layer: the handle that was handed out is cached, and the file at the layer's
path, which it is on, has both tables and no rows. -/
def Founded (p : Path) (m : String) (r : Except Fault HandleId × Store) : Prop :=
  ∃ id t h, r = (.ok id, t) ∧ t.cache.get? m = some id ∧ t.handle? id = some h ∧
    t.disk.node? p.resolved.names = some (.file h.file) ∧ contentOf t.disk h.file = .database .empty

/-- Where a leftover was removed, a new store is made once the statements of the schema are whole. -/
theorem Vacated.obtain (hs : s.Vacated p) (hddl : s.ddl = ⟨false, false⟩) (hp : s.pathOf? m = some p) :
    ∃ id t h, Step.outcome (Store.obtain m) s = (.ok id, t) ∧ t.cache.get? m = some id ∧
      t.handle? id = some h ∧ h.isStubborn = false ∧
      t.disk.node? p.resolved.names = some (.file h.file) ∧ contentOf t.disk h.file = .database .empty := by
  have htidy := settle_tidied (s.disk.createFile p.resolved.names (.raw .empty)).2 p.resolved.names s.disk.next
    true
  obtain ⟨hnone, l, hrun⟩ := hs.toUnclaimed.making hs.missing hp
  have hbeside : ∀ suffix ∈ sidecarSuffixes, p.resolved.names ≠ beside p.resolved.names suffix :=
    fun _ hsuffix => resolved_ne_beside hs.regular.dotted hsuffix hp hp
  simp only [hs.withTables hddl htidy] at hrun
  refine ⟨_, _, .fresh m p s.disk.next Database.empty.schema, hrun, Ordered.get?_put_self _ _ _,
    handle_issued s _, rfl, ?_, contentOf_commit_self ..⟩
  refine ((commit_tidied _ _ _ _).elsewhere hbeside).trans ((htidy.elsewhere hbeside).trans ?_)
  rw [Disk.node_createFile s.disk (Disk.ne_nil_of_vacant hnone), if_pos rfl]
  rfl

theorem Vacated.acquire (hs : s.Vacated p) (hddl : s.ddl = ⟨false, false⟩) (hp : s.pathOf? m = some p) :
    Founded p m (Step.outcome (Store.acquire m) s) := by
  obtain ⟨id, t, h, hrun, hcached, hhandle, hyields, hnode, hcontent⟩ :=
    (hs.regardless s.ddl (s.staleAcquires - 1)).obtain hddl hp
  rw [acquire_obtain, Step.run_bind, hrun]
  by_cases hpending : 0 < s.staleAcquires
  · obtain ⟨r, hclose, rfl | ⟨-, k, hk, hstubborn⟩⟩ := close_attempt id t
    · refine ⟨id, { t with issued := t.issued.modify id Handle.released }, h.released, ?_, hcached, ?_, ?_⟩
      · simp only [if_pos hpending, Step.run_bind, hclose, Step.run_pure]
      · rw [handle_modify, if_pos rfl, hhandle, Option.map_some]
      · rw [h.released_akin.file]
        exact ⟨hnode, hcontent⟩
    · rw [hhandle, Option.some.injEq] at hk
      rw [← hk, hyields] at hstubborn
      cases hstubborn
  · refine ⟨id, t, h, ?_, hcached, hhandle, hnode, hcontent⟩
    simp only [if_neg hpending, Step.run_pure]

/-! ## Containment -/

end Store

end TileDepot
