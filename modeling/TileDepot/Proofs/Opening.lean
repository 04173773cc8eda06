import TileDepot.Proofs.Keeping

/-!
# Opening layers

Opening a layer gives what `Shelves.lend` says: it is refused with the same fault, or the handle leads
to the file of the layer, and the store keeps the shelves that lending leaves.  `Opened` states this.

Making the file of a layer turns live handles of other names with that file, if they are idle, into
handles that are on another file than the one at their path.  So the file may be made only if these
names are known to be stray, which is what `Clear` asks.

* `openStore_opened` is about a file that is there, and `create_opened` about one that is not.
* `Keeps.create_blank` and `Keeps.write` say what making and writing a file do to a store that keeps
  shelves.
-/

namespace TileDepot

open Layer Store

/-! ## Questions about a store file -/

namespace Disk.Holds

variable {c : StoreConfig} {R : Place} {A : Shelves} {d : Disk} {m : String}

theorem test_eq (h : d.Holds c R A) (hm : m ≠ "") (hr : c.room (safe m) ≠ .lacking)
    {holds : Node → Bool} (hf : ∀ k, holds (.file k) = true) :
    d.test (c.pathOf (safe m)) holds = .ok (A (safe m)).isSome := by
  have hl := StoreConfig.room_ne_lacking.1 hr
  have ht : d.test (c.pathOf (safe m)) holds = .ok ((d.node? (c.placeOf R (safe m))).any holds) :=
    Disk.test_child h.root (file_ne_dots hm _) hl holds
  rw [ht]
  cases hA : A (safe m) with
  | none => rw [h.node_none hA, Option.any_none, Option.isSome_none]
  | some v =>
    obtain ⟨n, hn, -⟩ := h.stored (safe m) v hA
    rw [hn, Option.any_some, hf, Option.isSome_some]

theorem exists_eq (h : d.Holds c R A) (hm : m ≠ "") (hr : c.room (safe m) ≠ .lacking) :
    d.exists? (c.pathOf (safe m)) = .ok (A (safe m)).isSome :=
  h.test_eq hm hr (fun _ => rfl)

theorem isFile_eq (h : d.Holds c R A) (hm : m ≠ "") (hr : c.room (safe m) ≠ .lacking) :
    d.isFile? (c.pathOf (safe m)) = .ok (A (safe m)).isSome :=
  h.test_eq hm hr (fun _ => rfl)

theorem test_lacking (h : d.Holds c R A) (hm : m ≠ "") (hr : c.room (safe m) = .lacking)
    (holds : Node → Bool) :
    d.test (c.pathOf (safe m)) holds = .error (Shelves.longName c (safe m ++ c.extension)) :=
  Disk.test_long h.root (file_ne_dots hm _) (StoreConfig.room_lacking.1 hr) holds

/-- A path with double dots resolved is found where the path is. -/
theorem find_resolved (h : d.Holds c R A) (hm : m ≠ "") (hr : c.room (safe m) ≠ .lacking) :
    d.find (c.pathOf (safe m)).resolved =
      match d.node? (c.placeOf R (safe m)) with
      | none => .error .noEntry
      | some node => .ok (c.placeOf R (safe m), node) := by
  rw [StoreConfig.pathOf, Disk.resolved_child (file_ne_dots hm _)]
  exact Disk.find_child h.root.resolved (file_ne_dots hm _) (StoreConfig.room_ne_lacking.1 hr)

theorem locate_resolved (h : d.Holds c R A) (hm : m ≠ "") (hr : c.room (safe m) ≠ .lacking) :
    d.locate (c.pathOf (safe m)).resolved = .ok (c.placeOf R (safe m)) := by
  rw [StoreConfig.pathOf, Disk.resolved_child (file_ne_dots hm _)]
  exact Disk.locate_child d _ R _ h.root.resolved.locate h.root.node (file_ne_dots hm _)
    (StoreConfig.room_ne_lacking.1 hr)

end Disk.Holds

theorem StoreConfig.pathOf_name (c : StoreConfig) (f : String) : (c.pathOf f).name = f ++ c.extension :=
  Path.child_name _ _

namespace Store

/-! ## What comes of opening a layer -/

/-- A layer is not stray, and if its file is still to be made, the idle ones among the other names that
share it are. -/
structure Clear (slack : Slack) (A : Shelves) (m : String) : Prop where
  sure : ¬ slack.stray m
  alone : A (safe m) = none → ∀ n, n ≠ m → safe n = safe m → slack.idle n → slack.stray n

theorem clear_taut (A : Shelves) (m : String) : Clear .taut A m := ⟨id, fun _ _ _ _ => id⟩

/-- What comes of opening a layer in a store that keeps shelves. -/
inductive Opened (c : StoreConfig) (R : Place) (slack : Slack) (A : Shelves) (E : List Event)
    (s : Store) (m : String) : Except Fault HandleId × Store → Prop
  | refused {f : Fault} {B : Shelves} {t : Store} : A.lend c m = (.error f, B) →
      t.Keeps c R slack B E → s.Spares m t → Opened c R slack A E s m (.error f, t)
  | handed {H : Holding} {B : Shelves} {id : HandleId} {h : Handle} {t : Store} :
      A.lend c m = (.ok H, B) → t.Keeps c R slack B E → s.Spares m t → t.handle? id = some h →
      h.Leads c R t.disk m →
      (h.isStubborn = false ∨ s.cache.get? m = some id ∧ s.handle? id = some h) →
      Opened c R slack A E s m (.ok id, t)

section Opening

variable {c : StoreConfig} {R : Place} {slack : Slack} {A : Shelves} {E : List Event}
  {s : Store} {m : String}

/-! ## Opening and creating a file -/

/-- Cached handles keep serving while files are made, if idle names with such a file are stray. -/
theorem Keeps.handles_of_file (hk : s.Keeps c R slack A E) {d : Disk} {B : Shelves} {f : String}
    (hcl : ∀ n, safe n = f → A f = none → s.cache.get? n ≠ none → slack.idle n → slack.stray n)
    (hnext : s.disk.next ≤ d.next)
    (hf : A f ≠ none → d.node? (c.placeOf R f) = s.disk.node? (c.placeOf R f) ∧
      ((∃ H, A f = some (.full H)) → ∃ H, B f = some (.full H)))
    (hother : ∀ g, g ≠ f → d.node? (c.placeOf R g) = s.disk.node? (c.placeOf R g) ∧ B g = A g) :
    ∀ name id, s.cache.get? name = some id →
      ∃ h, s.handle? id = some h ∧ h.Serves c R slack d B name := by
  intro name id hid
  obtain ⟨h, hh, hs⟩ := hk.handles name id hid
  refine ⟨h, hh, hs.fits, Nat.lt_of_lt_of_le hs.issued hnext, ?_⟩
  intro hl
  by_cases hn : safe name = f
  · rcases hs.current hl with hstray | ⟨hnone, hidle⟩ | ⟨hnode, hH⟩
    · exact .inl hstray
    · rw [hn] at hnone
      exact .inl (hcl name hn hnone (by rw [hid]; exact Option.some_ne_none id) hidle)
    · rw [hn] at hnode hH
      have hne : A f ≠ none := by
        obtain ⟨H, hH⟩ := hH
        rw [hH]
        exact Option.some_ne_none _
      obtain ⟨hsame, hfull⟩ := hf hne
      right
      right
      rw [Handle.Current, hn, hsame]
      exact ⟨hnode, hfull hH⟩
  · obtain ⟨hsame, hB⟩ := hother (safe name) hn
    rw [Handle.Current, hsame, hB]
    exact hs.current hl

/-- A new handle that leads to the file of a layer. -/
theorem leads_new {d : Disk} {file : Nat} (hm : m ≠ "") (hr : c.room (safe m) ≠ .lacking)
    (hfile : d.node? (c.placeOf R (safe m)) = some (.file file)) :
    Handle.Leads c R d m ⟨m, c.pathOf (safe m), c.placeOf R (safe m), file, Database.empty.schema, [],
      false, false, false, .idle⟩ where
  fits := ⟨rfl, hm, hr, rfl, rfl, rfl, rfl⟩
  live := ⟨rfl, rfl⟩
  file := hfile

theorem handle_issued (s : Store) (h : Handle) :
    ({ s with issued := s.issued ++ [h] } : Store).handle? s.issued.length = some h := by
  simp [handle?]

theorem handle_append {s : Store} {id : HandleId} {x : Handle} (h : Handle)
    (hid : s.handle? id = some x) :
    ({ s with issued := s.issued ++ [h] } : Store).handle? id = some x := by
  have hlt : id < s.issued.length := (List.getElem?_eq_some_iff.1 hid).1
  rw [handle?, List.getElem?_append_left hlt]
  exact hid

/-- A handle of a store that issued another one is that one, or was issued before. -/
theorem handle_of_issued {s t : Store} {h k : Handle} {id : HandleId}
    (hi : t.issued = s.issued ++ [h]) (hk : t.handle? id = some k) :
    s.handle? id = some k ∨ id = s.issued.length ∧ k = h := by
  rw [handle?, hi, List.getElem?_append] at hk
  split at hk
  · exact .inl hk
  · rename_i hlen
    rw [List.getElem?_singleton] at hk
    split at hk
    · rename_i hz
      exact .inr ⟨Nat.le_antisymm (Nat.le_of_sub_eq_zero hz) (Nat.le_of_not_lt hlen),
        (Option.some.inj hk).symm⟩
    · cases hk

/-- A handle of a store that changed one is that one as it is now, or is what it was. -/
theorem handle_of_modified {s t : Store} {k : Handle} {id i : HandleId} {f : Handle → Handle}
    (hi : t.issued = s.issued.modify id f) (hk : t.handle? i = some k) :
    s.handle? i = some k ∨ i = id ∧ ∃ h, s.handle? id = some h ∧ k = f h := by
  have hk : ({ s with issued := s.issued.modify id f } : Store).handle? i = some k := by
    rw [← hk, handle?, handle?, hi]
  rw [handle_modify] at hk
  split at hk
  · rename_i he
    obtain ⟨h, hh, rfl⟩ := Option.map_eq_some_iff.1 hk
    exact .inr ⟨he.symm, h, he ▸ hh, rfl⟩
  · exact .inl hk

/-- A store keeps what it keeps when a handle is issued. -/
theorem Keeps.issue (hk : s.Keeps c R slack A E) (h : Handle) :
    Keeps c R slack A E { s with issued := s.issued ++ [h] } where
  config := hk.config
  regular := hk.regular
  ddl := hk.ddl
  events := hk.events
  disk := hk.disk
  handles := by
    intro name id hid
    obtain ⟨x, hx, hs⟩ := hk.handles name id hid
    exact ⟨x, handle_append h hx, hs⟩

theorem Keeps.spares_issue (hk : s.Keeps c R slack A E) (m : String) (h : Handle) :
    s.Spares m { s with issued := s.issued ++ [h] } := by
  refine ⟨Nat.le_refl _, Nat.le_refl _, fun _ _ e => .inl e, ?_⟩
  intro name id _ hid
  obtain ⟨x, hx, -⟩ := hk.handles name id hid
  exact ⟨hid, (handle_append h hx).trans hx.symm⟩

/-- A store file that is there is opened if it holds both tables. -/
theorem openStore_opened (hk : s.Keeps c R slack A E) (hm : m ≠ "") (hr : c.room (safe m) ≠ .lacking)
    (hA : A (safe m) ≠ none) : Opened c R slack A E s m (Step.outcome (openStore m) s) := by
  obtain ⟨v, hv⟩ := Option.ne_none_iff_exists'.1 hA
  obtain ⟨file, hfile, -, -, -⟩ := hk.disk.stored (safe m) v hv
  have hfind := hk.disk.find_resolved hm hr
  rw [hfile] at hfind
  have hsettle := hk.disk.settle_eq hk.regular (f := safe m) file false
  have hmeet := hk.disk.meet_eq hk.regular hv hfile
  have hname := c.pathOf_name (safe m)
  have hpath := hk.pathFor hm
  generalize hl : s.log ++ [LogRecord.mk .debug .schema ("Opening SQLite tile database " ++
    (safe m ++ c.extension))] = l
  have hk' : Keeps c R slack A E { s with log := l } := hk.weaken (.log s l)
  have hs' : s.Spares m { s with log := l } := .log m s l
  cases v with
  | blank =>
    have hrun : Step.outcome (openStore m) s =
        (.error (.store ⟨.tablesMissing (safe m ++ c.extension) [.metadata, .tiles], some m, "open"⟩),
          { s with log := l }) := by
      simp only [openStore, Step.run_bind, hpath, Step.run_note, connect, Step.run_view, hfind,
        Step.run_pure, Step.run_changeDisk, hsettle, hmeet, hname, hl]
      rfl
    rw [hrun]
    exact .refused (Shelves.lend_blank hm hr hv) hk' hs'
  | full H =>
    have hrun : Step.outcome (openStore m) s = (.ok s.issued.length,
        { s with
          log := l
          issued := s.issued ++ [⟨m, c.pathOf (safe m), c.placeOf R (safe m), file,
            Database.empty.schema, [], false, false, false, .idle⟩] }) := by
      simp only [openStore, Step.run_bind, hpath, Step.run_note, connect, Step.run_view, hfind,
        Step.run_pure, Step.run_changeDisk, hsettle, hmeet, hname, hl]
      rfl
    rw [hrun]
    exact .handed (Shelves.lend_full hm hr hv) (hk'.issue _) (hs'.trans (hk'.spares_issue m _))
      (handle_issued { s with log := l } _) (leads_new hm hr hfile) (.inl rfl)

/-- What keeps the tables from being made in a new file is the lack of room for its journal. -/
theorem withTables_blank {t : Store} {file : Nat} (hd : t.disk.Holds c R A) (hc : c.Regular)
    (hddl : t.ddl = ⟨false, false⟩) {f : String} (hA : A f = some .blank)
    (hfile : t.disk.node? (c.placeOf R f) = some (.file file)) :
    withTables t (c.placeOf R f) file =
      if c.room f = .ample then .ok .empty else .error .cannotOpen := by
  have hmeet := hd.meet_eq hc hA hfile
  obtain ⟨n, hn, -, hlock, hcontent⟩ := hd.stored f _ hA
  rw [hfile, Option.some.injEq, Node.file.injEq] at hn
  rw [← hn] at hlock hcontent
  have hblocks := hd.blocksSidecar_eq hc (f := f) (show "-journal" ∈ sidecarSuffixes by decide)
  simp only [withTables, hmeet, hddl, hlock, hcontent, writeObstacle, hblocks,
    StoreConfig.journalFits_eq]
  by_cases hr : c.room f = .ample
  · simp only [hr, if_true]
    rfl
  · simp only [hr, if_false]
    rfl

/-- Making a blank file for a layer that has none. -/
theorem Keeps.create_blank (hk : s.Keeps c R slack A E) (hm : m ≠ "")
    (hr : c.room (safe m) ≠ .lacking) (hA : A (safe m) = none) (hcl : Clear slack A m)
    (hcache : s.cache.get? m = none) (l : List LogRecord) {t : Store}
    (ht : t = { s with disk := (s.disk.createFile (c.placeOf R (safe m)) (.raw .empty)).2, log := l }) :
    t.Keeps c R slack (Function.update A (safe m) (some .blank)) E ∧ s.Spares m t ∧
      t.disk.node? (c.placeOf R (safe m)) = some (.file s.disk.next) := by
  subst ht
  have hplaces := Disk.node_createFile s.disk (c.placeOf_ne_nil R (safe m)) (.raw .empty)
  refine ⟨⟨hk.config, hk.regular, hk.ddl, hk.events, ?_, ?_⟩, ⟨Nat.le_refl _, ?_, ?_, ?_⟩, ?_⟩
  · exact hk.disk.create (isSafe_safe hm) (StoreConfig.room_ne_lacking.1 hr)
  · refine hk.handles_of_file (f := safe m) ?_ (Nat.le_succ _) (fun hne => absurd hA hne) ?_
    · intro n hn _ hcn
      apply hcl.alone hA n ?_ hn
      rintro rfl
      exact hcn hcache
    · intro g hg
      rw [hplaces, if_neg (fun e => hg (StoreConfig.placeOf_inj.1 e)), Function.update_of_ne hg]
      exact ⟨rfl, rfl⟩
  · exact Nat.le_succ _
  · intro p k hp
    rw [hplaces] at hp
    split at hp
    · rw [Option.some.injEq, Node.file.injEq] at hp
      right
      omega
    · exact .inl hp
  · exact fun _ _ _ e => ⟨e, rfl⟩
  · rw [hplaces, if_pos rfl]

/-- Writing a holding into a file that is there. -/
theorem Keeps.write (hk : s.Keeps c R slack A E) {f : String} {n : Nat} (H : Holding)
    (hA : A f ≠ none) (hn : s.disk.node? (c.placeOf R f) = some (.file n)) {t : Store}
    (ht : t = { s with disk := commit s.disk (c.placeOf R f) n H.database }) :
    t.Keeps c R slack (Function.update A f (some (.full H))) E ∧ s.Spares m t ∧
      ∀ q, t.disk.node? q = s.disk.node? q := by
  have hj := hk.disk.number_beside hk.regular (f := f) (show "-journal" ∈ sidecarSuffixes by decide)
  rw [commit_clean _ hj] at ht
  subst ht
  refine ⟨⟨hk.config, hk.regular, hk.ddl, hk.events, ?_, ?_⟩, ?_, fun q => rfl⟩
  · exact hk.disk.commit (.full H) none hA hn
  · refine hk.handles_of_file (f := f) ?_ (Nat.le_refl _) ?_ ?_
    · exact fun _ _ hnone => absurd hnone hA
    · intro _
      exact ⟨rfl, fun _ => ⟨H, Function.update_self ..⟩⟩
    · exact fun g hg => ⟨rfl, Function.update_of_ne hg ..⟩
  · exact ⟨Nat.le_refl _, Nat.le_refl _, fun _ _ e => .inl e, fun _ _ _ e => ⟨e, rfl⟩⟩

/-- The file of a layer that has none is created, and holds both tables if there is ample room. -/
theorem create_opened (hk : s.Keeps c R slack A E) (hm : m ≠ "") (hr : c.room (safe m) ≠ .lacking)
    (hA : A (safe m) = none) (hcl : Clear slack A m) (hcache : s.cache.get? m = none) :
    Opened c R slack A E s m (Step.outcome (create m) s) := by
  have hexists := hk.disk.exists_eq hm hr
  rw [hA, Option.isSome_none] at hexists
  have hfind := hk.disk.find_resolved hm hr
  rw [hk.disk.node_none hA] at hfind
  have hlocate := hk.disk.locate_resolved hm hr
  have hpath := hk.pathFor hm
  have hname := c.pathOf_name (safe m)
  generalize hl : s.log ++ [LogRecord.mk .info .schema ("Creating SQLite tile database " ++
    (safe m ++ c.extension))] = l
  -- The file is made before the tables are, and stays whatever becomes of them.
  generalize hd : (s.disk.createFile (c.placeOf R (safe m)) (.raw .empty)).2 = d
  have hpair : s.disk.createFile (c.placeOf R (safe m)) (.raw .empty) = (s.disk.next, d) := by
    rw [← hd]
    rfl
  have hblank : Function.update A (safe m) (some .blank) (safe m) = some .blank := Function.update_self ..
  obtain ⟨hk', hs', hfile⟩ := hk.create_blank hm hr hA hcl hcache l
    (t := { s with disk := d, log := l }) (by rw [hd])
  have hsettle := hk'.disk.settle_eq hk.regular (f := safe m) s.disk.next true
  have hddl := withTables_blank hk'.disk hk.regular hk.ddl hblank hfile
  by_cases hroom : c.room (safe m) = .ample
  · rw [if_pos hroom] at hddl
    have hrun : Step.outcome (create m) s = (.ok s.issued.length,
        { s with
          disk := commit d (c.placeOf R (safe m)) s.disk.next .empty
          log := l
          issued := s.issued ++ [⟨m, c.pathOf (safe m), c.placeOf R (safe m), s.disk.next,
            Database.empty.schema, [], false, false, false, .idle⟩] }) := by
      simp only [create, Step.run_bind, hpath, Step.run_note, connect, Step.run_view, hfind, hexists,
        Step.run_ofDisk_ok, hlocate, hpair, Step.run_pure, Step.run_changeDisk, hsettle, hname, hl,
        Step.run_get, hddl, Bool.false_eq_true, if_false]
      rfl
    rw [hrun]
    obtain ⟨hk'', hs'', hsame⟩ := hk'.write (m := m) .empty (by rw [hblank]; exact Option.some_ne_none _)
      hfile (t := { s with disk := commit d (c.placeOf R (safe m)) s.disk.next .empty, log := l }) rfl
    rw [Function.update_idem] at hk''
    exact .handed (Shelves.lend_new hm hroom hA) (hk''.issue _)
      ((hs'.trans hs'').trans (hk''.spares_issue m _)) (handle_issued _ _)
      (leads_new hm hr ((hsame _).trans hfile)) (.inl rfl)
  · rw [if_neg hroom] at hddl
    have hscarce : c.room (safe m) = .scarce := by
      cases hroom' : c.room (safe m) with
      | ample => exact absurd hroom' hroom
      | scarce => rfl
      | lacking => exact absurd hroom' hr
    generalize hl' : l ++ [LogRecord.mk .error .schema ("Schema creation failed for " ++
      (safe m ++ c.extension) ++ ": " ++ DbFault.cannotOpen.message)] = l'
    have hrun : Step.outcome (create m) s =
        (.error (.store ⟨.schemaNotMade (safe m ++ c.extension) .cannotOpen, some m, "create"⟩),
          { s with disk := d, log := l' }) := by
      simp only [create, Step.run_bind, hpath, Step.run_note, connect, Step.run_view, hfind, hexists,
        Step.run_ofDisk_ok, hlocate, hpair, Step.run_pure, Step.run_changeDisk, hsettle, hname, hl,
        Step.run_get, hddl, hl', Step.run_fail, Bool.false_eq_true, if_false]
    rw [hrun]
    exact .refused (Shelves.lend_scarce hm hscarce hA) (hk'.weaken (.log _ l')) (hs'.trans (.log m _ l'))

end Opening

end Store

end TileDepot
