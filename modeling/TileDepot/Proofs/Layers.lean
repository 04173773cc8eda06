import TileDepot.Proofs.Acquiring
import TileDepot.Store.Operation

/-!
# Operations on whole layers

Removing and renaming a layer first close and forget every handle on the files concerned, so that no
cached handle is on a file that goes.  What is left is a change of the directory and then the removal
of whatever lies beside the file, of which there is nothing.  It fails all the same where a name beside
the file would be too long to look up.

* `deleteLayer_run` and `renameLayer_run` say that the operations come to what `Shelves.deleteLayer` and
  `Shelves.renameLayer` say.
* `removeSidecars_ample` and `removeSidecars_scarce` say what comes of taking away what lies beside.
-/

namespace TileDepot.Store

open Layer

/-- An operation comes to what the shelves say of it. -/
structure Follows (c : StoreConfig) (R : Place) (slack : Slack) (E : List Event) (s : Store)
    (x : Except Fault Answer × Shelves × List Event) (r : Except Fault Answer × Store) : Prop where
  answer : r.1.map Answer.bare = x.1
  keeps : r.2.Keeps c R slack x.2.1 (E ++ x.2.2)
  pending : r.2.staleAcquires ≤ s.staleAcquires

section Layers

variable {c : StoreConfig} {R : Place} {slack : Slack} {A : Shelves} {E : List Event}
  {s t : Store} {m : String}

/-- An operation that announces nothing. -/
theorem Follows.quiet {r : Except Fault Answer} {a : Except Fault Answer} (ha : r.map Answer.bare = a)
    (hk : t.Keeps c R slack A E) (hp : t.staleAcquires ≤ s.staleAcquires) :
    Follows c R slack E s (a, A, []) (r, t) := by
  refine ⟨ha, ?_, hp⟩
  rw [List.append_nil]
  exact hk

/-! ## What lies beside a file -/

theorem extendName_pathOf (c : StoreConfig) (f suffix : String) :
    (c.pathOf f).extendName suffix = c.root.child (f ++ c.extension ++ suffix) := by
  rw [Path.extendName, StoreConfig.pathOf, Path.child_parent, Path.child_name]

theorem beside_ne_dots (hm : m ≠ "") (ext suffix : String) : safe m ++ ext ++ suffix ≠ ".." := by
  rw [String.append_assoc]
  exact file_ne_dots hm _

theorem removeBeside_ample (hk : s.Keeps c R slack A E) (hm : m ≠ "") {suffix : String}
    (hs : suffix ∈ sidecarSuffixes)
    (hl : (safe m ++ c.extension ++ suffix).utf8ByteSize ≤ Disk.maxName) :
    Step.outcome (removeBeside (c.pathOf (safe m)) suffix) s = (.ok (), s) := by
  have hnode := hk.disk.node_beside hk.regular (f := safe m) hs
  rw [beside_placeOf] at hnode
  have hunlink := Disk.unlink_child hk.disk.root (beside_ne_dots hm _ _) hl
  rw [hnode] at hunlink
  simp only [removeBeside, Step.run_bind, Step.run_view, extendName_pathOf, hunlink, if_true,
    Step.run_pure]

/-- Nothing is taken away where nothing lies beside a file. -/
theorem removeSidecars_ample (hk : s.Keeps c R slack A E) (hm : m ≠ "") (hr : c.room (safe m) = .ample) :
    Step.outcome (removeSidecars (c.pathOf (safe m))) s = (.ok (), s) := by
  have hj := StoreConfig.room_ample.1 hr
  have hsize : ∀ suffix : String, (safe m ++ c.extension ++ suffix).utf8ByteSize =
      (safe m ++ c.extension).utf8ByteSize + suffix.utf8ByteSize :=
    fun suffix => String.utf8ByteSize_append
  have hjournal : ("-journal" : String).utf8ByteSize = 8 := by decide
  have hwal : ("-wal" : String).utf8ByteSize = 4 := by decide
  have hshm : ("-shm" : String).utf8ByteSize = 4 := by decide
  rw [hsize, hjournal] at hj
  have h₁ := removeBeside_ample hk hm (show "-journal" ∈ sidecarSuffixes by decide)
    (by rw [hsize, hjournal]; exact hj)
  have h₂ := removeBeside_ample hk hm (show "-wal" ∈ sidecarSuffixes by decide)
    (by rw [hsize, hwal]; omega)
  have h₃ := removeBeside_ample hk hm (show "-shm" ∈ sidecarSuffixes by decide)
    (by rw [hsize, hshm]; omega)
  change Step.outcome (removeBeside (c.pathOf (safe m)) "-journal" >>= fun _ =>
    removeBeside (c.pathOf (safe m)) "-wal" >>= fun _ =>
    removeBeside (c.pathOf (safe m)) "-shm" >>= fun _ => pure ()) s = _
  simp only [Step.run_bind, h₁, h₂, h₃, Step.run_pure]

/-- Where the name of the journal is too long, looking for it fails. -/
theorem removeSidecars_scarce (hk : s.Keeps c R slack A E) (hm : m ≠ "")
    (hr : c.room (safe m) ≠ .ample) :
    Step.outcome (removeSidecars (c.pathOf (safe m))) s =
      (.error (.os (Shelves.longName c (safe m ++ c.extension ++ "-journal"))), s) := by
  have hlong : Disk.maxName < (safe m ++ c.extension ++ "-journal").utf8ByteSize := by
    rw [Ne, StoreConfig.room_ample] at hr
    exact Nat.lt_of_not_le hr
  have hunlink := Disk.unlink_long hk.disk.root (beside_ne_dots hm c.extension "-journal") hlong
  change Step.outcome (removeBeside (c.pathOf (safe m)) "-journal" >>= fun _ =>
    List.forM ["-wal", "-shm"] (removeBeside (c.pathOf (safe m)))) s = _
  have hne : ¬ (OsCause.nameTooLong = OsCause.noEntry) := by decide
  simp only [removeBeside, Step.run_bind, Step.run_view, extendName_pathOf, hunlink, if_neg hne,
    Step.run_throw]
  rfl

/-- What is left to do when a file is gone. -/
theorem afterwards_run (hk : s.Keeps c R slack A E) (hm : m ≠ "") (hr : c.room (safe m) ≠ .lacking)
    (event : Event) (hp : s.staleAcquires ≤ t.staleAcquires) :
    Follows c R slack E t (Shelves.afterwards c (safe m) A event)
      (Step.outcome (do
        removeSidecars (c.pathOf (safe m))
        Step.announce event
        return .flag true) s) := by
  cases hroom : c.room (safe m) with
  | lacking => exact absurd hroom hr
  | ample =>
    have hafter : Shelves.afterwards c (safe m) A event = (.ok (.flag true), A, [event]) := by
      rw [Shelves.afterwards, hroom, if_neg (by decide)]
    rw [hafter]
    simp only [Step.run_bind, removeSidecars_ample hk hm hroom, Step.run_announce, Step.run_pure]
    exact ⟨rfl, ⟨hk.config, hk.regular, hk.ddl, congrArg (· ++ _) hk.events, hk.disk, hk.handles⟩, hp⟩
  | scarce =>
    have hafter : Shelves.afterwards c (safe m) A event =
        (.error (.os (Shelves.longName c (safe m ++ c.extension ++ "-journal"))), A, []) := by
      rw [Shelves.afterwards, hroom, if_pos rfl]
    rw [hafter]
    simp only [Step.run_bind, removeSidecars_scarce hk hm (by rw [hroom]; decide)]
    exact .quiet rfl hk hp

/-! ## Asking and removing -/

theorem layerExists_run (hk : s.Keeps c R slack A E) :
    Follows c R slack E s (A.layerExists c m, A, []) (Step.outcome (perform (.layerExists m)) s) := by
  by_cases hm : m = ""
  · subst hm
    rw [Shelves.layerExists, if_pos rfl]
    simp only [perform, layerExists, Step.run_bind, pathFor_empty]
    exact .quiet rfl hk (Nat.le_refl _)
  · by_cases hr : c.room (safe m) = .lacking
    · have htest : s.disk.isFile? (c.pathOf (safe m)) =
          .error (Shelves.longName c (safe m ++ c.extension)) :=
        hk.disk.test_lacking hm hr Node.isFile
      rw [Shelves.layerExists, if_neg hm, if_pos hr]
      simp only [perform, layerExists, Step.run_bind, hk.pathFor hm, Step.run_view, htest,
        Step.run_ofDisk_error]
      exact .quiet rfl hk (Nat.le_refl _)
    · have htest := hk.disk.isFile_eq hm hr
      rw [Shelves.layerExists, if_neg hm, if_neg hr]
      simp only [perform, layerExists, Step.run_bind, hk.pathFor hm, Step.run_view, htest,
        Step.run_ofDisk_ok, Step.run_pure]
      exact .quiet rfl hk (Nat.le_refl _)

/-- Cached handles keep serving when other files than theirs change. -/
theorem Keeps.handles_elsewhere (hk : s.Keeps c R slack A E) {d : Disk} {B : Shelves}
    (F : String → Prop) (hF : ∀ n id, s.cache.get? n = some id → ¬ F (safe n))
    (hnext : s.disk.next ≤ d.next)
    (hother : ∀ g, ¬ F g → d.node? (c.placeOf R g) = s.disk.node? (c.placeOf R g) ∧ B g = A g) :
    ∀ name id, s.cache.get? name = some id →
      ∃ h, s.handle? id = some h ∧ h.Serves c R slack d B name := by
  intro name id hid
  obtain ⟨h, hh, hs⟩ := hk.handles name id hid
  obtain ⟨hsame, hB⟩ := hother (safe name) (hF name id hid)
  refine ⟨h, hh, hs.fits, Nat.lt_of_lt_of_le hs.issued hnext, ?_⟩
  rw [Handle.Current, hsame, hB]
  exact hs.current

theorem lockOrder_run (hk : s.Keeps c R slack A E) (layers : List String) (hne : ∀ m ∈ layers, m ≠ "") :
    ∃ paths, Step.outcome (lockOrder layers) s = (.ok paths, s) := by
  have hpaths : Step.outcome (layers.mapM pathFor) s =
      (.ok (layers.map (fun m => c.pathOf (safe m))), s) := by
    induction layers with
    | nil => rfl
    | cons m layers ih =>
      have ih := ih (fun n hn => hne n (List.mem_cons_of_mem _ hn))
      rw [List.mapM_cons]
      simp only [Step.run_bind, hk.pathFor (hne m List.mem_cons_self), ih, Step.run_pure, List.map_cons]
  exact ⟨_, by simp only [lockOrder, Step.run_bind, hpaths, Step.run_pure]; rfl⟩

/-- Removing a layer. -/
theorem deleteLayer_run (hk : s.Keeps c R slack A E) :
    Follows c R slack E s (A.deleteLayer c m) (Step.outcome (perform (.deleteLayer m)) s) := by
  generalize hl : s.log ++ [LogRecord.mk .info .lifecycle ("Deleting SQLite cached layer " ++ m)] = l
  have hk₁ : Keeps c R slack A E { s with log := l } := hk.weaken (.log s l)
  by_cases hm : m = ""
  · subst hm
    rw [Shelves.deleteLayer, if_pos rfl]
    simp only [perform, deleteLayer, Step.run_bind, Step.run_note, pathFor_empty, hl]
    exact .quiet rfl hk₁ (Nat.le_refl _)
  · obtain ⟨paths, hlocks⟩ := lockOrder_run hk₁ [m] (by simpa using hm)
    obtain ⟨t, ht, hw, hp, hgone⟩ := invalidate_run hk₁ hm
    have hkt : t.Keeps c R slack A E := hk₁.weaken hw
    have hpt : t.staleAcquires ≤ s.staleAcquires := Nat.le_of_eq hp
    rw [Shelves.deleteLayer, if_neg hm]
    by_cases hr : c.room (safe m) = .lacking
    · have hunlink : t.disk.unlink (c.pathOf (safe m)) =
          .error (Shelves.longName c (safe m ++ c.extension)) :=
        Disk.unlink_long hkt.disk.root (file_ne_dots hm _) (StoreConfig.room_lacking.1 hr)
      have hne : ¬ (Shelves.longName c (safe m ++ c.extension)).cause = .noEntry := by
        intro e
        rw [Shelves.longName] at e
        cases e
      rw [if_pos hr]
      simp only [perform, deleteLayer, Step.run_bind, Step.run_note, hl, hk₁.pathFor hm, hlocks, ht,
        Step.run_view, hunlink, if_neg hne, Step.run_fail]
      exact .quiet rfl hkt hpt
    · have hunlink := Disk.unlink_child hkt.disk.root (file_ne_dots hm c.extension)
        (StoreConfig.room_ne_lacking.1 hr)
      rw [if_neg hr]
      cases hA : A (safe m) with
      | none =>
        have hnode : t.disk.node? (R ++ [safe m ++ c.extension]) = none := hkt.disk.node_none hA
        have hunlink : t.disk.unlink (c.pathOf (safe m)) =
            .error ⟨.noEntry, (c.root.child (safe m ++ c.extension)).toString, none⟩ := by
          rw [hnode] at hunlink
          exact hunlink
        rw [if_pos rfl]
        simp only [perform, deleteLayer, Step.run_bind, Step.run_note, hl, hk₁.pathFor hm, hlocks, ht,
          Step.run_view, hunlink, if_true, Step.run_pure]
        exact .quiet rfl hkt hpt
      | some v =>
        obtain ⟨n, hn, -⟩ := hkt.disk.stored _ v hA
        have hnode : t.disk.node? (R ++ [safe m ++ c.extension]) = some (.file n) := hn
        have hunlink : t.disk.unlink (c.pathOf (safe m)) =
            .ok (t.disk.detach (c.placeOf R (safe m))) := by
          rw [hnode] at hunlink
          exact hunlink
        have hdetached := hkt.disk.detach (f := safe m)
        have hplaces := Disk.node_detach t.disk (c.placeOf_ne_nil R (safe m))
        have hku : Keeps c R slack (Function.update A (safe m) none) E
            { t with disk := t.disk.detach (c.placeOf R (safe m)) } := by
          refine ⟨hkt.config, hkt.regular, hkt.ddl, hkt.events, hdetached, ?_⟩
          apply hkt.handles_elsewhere (fun g => g = safe m)
          · intro n id hid hn
            rw [hgone n hn] at hid
            cases hid
          · exact Nat.le_refl _
          · intro g hg
            rw [hplaces, if_neg (fun e => hg (StoreConfig.placeOf_inj.1 e))]
            exact ⟨rfl, Function.update_of_ne hg ..⟩
        have hafter := afterwards_run hku hm hr (.layerDeleted m) (t := s) hpt
        rw [if_neg (Option.some_ne_none v)]
        simp only [perform, deleteLayer, Step.run_bind, Step.run_note, hl, hk₁.pathFor hm, hlocks, ht,
          Step.run_view, hunlink, Step.run_changeDisk, bind_assoc, pure_bind]
        simp only [Step.run_bind] at hafter
        exact hafter

/-! ## Renaming -/

/-- Moving the file of a layer to a name that is free, in a store that has no handle on either. -/
theorem Keeps.move (hk : s.Keeps c R slack A E) {source target : String} {v : Volume}
    (htarget : target ≠ "") (hne : safe source ≠ safe target) (hr : c.room (safe target) ≠ .lacking)
    (hv : A (safe source) = some v)
    (hs : ∀ n, safe n = safe source → s.cache.get? n = none)
    (ht : ∀ n, safe n = safe target → s.cache.get? n = none) :
    Keeps c R slack
      (Function.update (Function.update A (safe target) (A (safe source))) (safe source) none) E
      { s with disk := s.disk.moveTree (c.placeOf R (safe source)) (c.placeOf R (safe target)) } := by
  have hsome : A (safe source) ≠ none := by
    rw [hv]
    exact Option.some_ne_none v
  have hplaces := Disk.node_moveTree s.disk (c.placeOf_ne_nil R (safe source))
    (c.placeOf_ne_nil R (safe target)) (fun e => hne (StoreConfig.placeOf_inj.1 e))
    (fun q hq hqne => hk.disk.node_below hq hqne)
  refine ⟨hk.config, hk.regular, hk.ddl, hk.events, ?_, ?_⟩
  · exact hk.disk.move hne hsome (isSafe_safe htarget) (StoreConfig.room_ne_lacking.1 hr)
  · apply hk.handles_elsewhere (fun g => g = safe source ∨ g = safe target)
    · rintro n id hid (hn | hn)
      · rw [hs n hn] at hid
        cases hid
      · rw [ht n hn] at hid
        cases hid
    · exact Nat.le_refl _
    · intro g hg
      rw [not_or] at hg
      rw [hplaces, if_neg (fun e => hg.2 (StoreConfig.placeOf_inj.1 e)),
        if_neg (fun e => hg.1 (StoreConfig.placeOf_inj.1 e)), Function.update_of_ne hg.1,
        Function.update_of_ne hg.2]
      exact ⟨rfl, rfl⟩

/-- Renaming a layer. -/
theorem renameLayer_run {source target : String} (hk : s.Keeps c R slack A E) :
    Follows c R slack E s (A.renameLayer c source target)
      (Step.outcome (perform (.renameLayer source target)) s) := by
  generalize hl : s.log ++ [LogRecord.mk .info .lifecycle ("Renaming SQLite cached layer " ++ source ++
    " to " ++ target)] = l
  have hk₁ : Keeps c R slack A E { s with log := l } := hk.weaken (.log s l)
  by_cases hs : source = ""
  · subst hs
    rw [Shelves.renameLayer, if_pos (.inl rfl)]
    simp only [perform, renameLayer, Step.run_bind, Step.run_note, pathFor_empty, hl]
    exact .quiet rfl hk₁ (Nat.le_refl _)
  by_cases ht : target = ""
  · subst ht
    rw [Shelves.renameLayer, if_pos (.inr rfl)]
    simp only [perform, renameLayer, Step.run_bind, Step.run_note, hk₁.pathFor hs, pathFor_empty, hl]
    exact .quiet rfl hk₁ (Nat.le_refl _)
  rw [Shelves.renameLayer, if_neg (by rw [not_or]; exact ⟨hs, ht⟩)]
  by_cases hsame : safe source = safe target
  · obtain ⟨t, hinv, hw, hp, -⟩ := invalidate_run hk₁ hs
    rw [if_pos hsame]
    simp only [perform, renameLayer, Step.run_bind, Step.run_note, hl, hk₁.pathFor hs, hk₁.pathFor ht,
      if_pos (StoreConfig.pathOf_inj.2 hsame), hinv, Step.run_pure]
    exact .quiet rfl (hk₁.weaken hw) (Nat.le_of_eq hp)
  have hpaths : c.pathOf (safe source) ≠ c.pathOf (safe target) :=
    fun e => hsame (StoreConfig.pathOf_inj.1 e)
  obtain ⟨paths, hlocks⟩ := lockOrder_run hk₁ [source, target] (by simp [hs, ht])
  rw [if_neg hsame]
  by_cases hrt : c.room (safe target) = .lacking
  · have htest : s.disk.exists? (c.pathOf (safe target)) =
        .error (Shelves.longName c (safe target ++ c.extension)) :=
      hk.disk.test_lacking ht hrt (fun _ => true)
    rw [if_pos hrt]
    simp only [perform, renameLayer, Step.run_bind, Step.run_note, hl, hk₁.pathFor hs, hk₁.pathFor ht,
      if_neg hpaths, hlocks, Step.run_get, htest, Step.run_ofDisk_error]
    exact .quiet rfl hk₁ (Nat.le_refl _)
  have hfree := hk.disk.exists_eq ht hrt
  rw [if_neg hrt]
  cases hAt : A (safe target) with
  | some w =>
    rw [hAt, Option.isSome_some] at hfree
    rw [if_pos (Option.some_ne_none w)]
    simp only [perform, renameLayer, Step.run_bind, Step.run_note, hl, hk₁.pathFor hs, hk₁.pathFor ht,
      if_neg hpaths, hlocks, Step.run_get, hfree, Step.run_ofDisk_ok, if_true, Step.run_fail]
    exact .quiet rfl hk₁ (Nat.le_refl _)
  | none =>
    rw [hAt, Option.isSome_none] at hfree
    rw [if_neg (fun e => e rfl)]
    obtain ⟨t, hinv, hw, hp, hgone⟩ := invalidate_run hk₁ hs
    have hkt : t.Keeps c R slack A E := hk₁.weaken hw
    obtain ⟨u, hinv', hw', hp', hgone'⟩ := invalidate_run hkt ht
    have hku : u.Keeps c R slack A E := hkt.weaken hw'
    have hpu : u.staleAcquires ≤ s.staleAcquires := Nat.le_of_eq (hp'.trans hp)
    by_cases hrs : c.room (safe source) = .lacking
    · have htest : u.disk.exists? (c.pathOf (safe source)) =
          .error (Shelves.longName c (safe source ++ c.extension)) :=
        hku.disk.test_lacking hs hrs (fun _ => true)
      rw [if_pos hrs]
      simp only [perform, renameLayer, Step.run_bind, Step.run_note, hl, hk₁.pathFor hs, hk₁.pathFor ht,
        if_neg hpaths, hlocks, Step.run_get, hfree, Step.run_ofDisk_ok, Bool.false_eq_true, if_false,
        hinv, hinv', htest, Step.run_ofDisk_error]
      exact .quiet rfl hku hpu
    have hthere := hku.disk.exists_eq hs hrs
    rw [if_neg hrs]
    cases hAs : A (safe source) with
    | none =>
      rw [hAs, Option.isSome_none] at hthere
      rw [if_pos rfl]
      simp only [perform, renameLayer, Step.run_bind, Step.run_note, hl, hk₁.pathFor hs, hk₁.pathFor ht,
        if_neg hpaths, hlocks, Step.run_get, hfree, Step.run_ofDisk_ok, Bool.false_eq_true, if_false,
        hinv, hinv', hthere, Bool.not_false, if_true, Step.run_pure]
      exact .quiet rfl (hku.weaken (.log u _)) hpu
    | some v =>
      rw [hAs, Option.isSome_some] at hthere
      rw [if_neg (Option.some_ne_none v)]
      obtain ⟨n, hn, -⟩ := hku.disk.stored _ v hAs
      have hsourceNone : ∀ n, safe n = safe source → u.cache.get? n = none := by
        intro n hn
        cases hid : u.cache.get? n with
        | none => rfl
        | some id => exact absurd (hw'.cache n id hid) (by rw [hgone n hn]; exact Option.some_ne_none id |>.symm)
      have hmove : u.disk.move (c.pathOf (safe source)) (c.pathOf (safe target)) =
          .ok (u.disk.moveTree (c.placeOf R (safe source)) (c.placeOf R (safe target))) :=
        Disk.move_child hku.disk.root (file_ne_dots hs _) (StoreConfig.room_ne_lacking.1 hrs)
          (file_ne_dots ht _) (StoreConfig.room_ne_lacking.1 hrt)
          (fun e => hsame ((String.append_left_inj _).1 e)) hn (hku.disk.node_none hAt)
      have hmoved := hku.move ht hsame hrt hAs hsourceNone hgone'
      rw [hAs] at hmoved
      have hafter := afterwards_run hmoved hs hrs (.layerRenamed source target) (t := s) hpu
      simp only [perform, renameLayer, Step.run_bind, Step.run_note, hl, hk₁.pathFor hs, hk₁.pathFor ht,
        if_neg hpaths, hlocks, Step.run_get, hfree, Step.run_ofDisk_ok, Bool.false_eq_true, if_false,
        hinv, hinv', hthere, Bool.not_true, hmove, Step.run_changeDisk, bind_assoc, pure_bind]
      simp only [Step.run_bind] at hafter
      exact hafter

/-- Closing everything. -/
theorem destroy_run (hk : s.Keeps c R slack A E) :
    Follows c R slack E s (.ok .done, A, []) (Step.outcome (perform .destroy) s) := by
  obtain ⟨t, ht, hw, hp⟩ := releaseAll_run
    { s with log := s.log ++ [⟨.info, .service, "Closing SQLiteBlobStore connections"⟩] }
  simp only [perform, destroy, Step.run_bind, Step.run_note, ht, Step.run_pure]
  exact .quiet rfl ((hk.weaken (.log s _)).weaken hw) (Nat.le_of_eq hp)

end Layers

end TileDepot.Store
