import TileDepot.Proofs.Shifts

/-!
# Getting hold of a handle

`Registered` is what the cache of a store keeps true whatever happens to the disk: no name has two
entries, and the handle that is cached for a name was issued for that name, at the name's path.  Every
shift keeps it.

Getting hold of a handle is a sequence of shifts.  The handle is cached for the layer then; or there is
none, for one of the reasons that `Declines` lists.  Whether the path of the layer has a name that is too
long is decided by the directories alone, which no shift changes.

* `renew_cases` and `obtain_cases` say whether a cached handle is handed out, or a new one in its place.
* `acquireOpen_granted` is about what a session gets.
* `invalidate_shifts` and `releaseAll_shifts` say that closing many handles is a sequence of shifts too, and
  leaves the disk alone.
-/

namespace TileDepot

/-! ## Names that are too long -/

namespace Disk

variable {d e : Disk} {p : Path}

/-- Whether a name on the way is too long depends on the directories alone. -/
theorem follow_long {d e : Disk} (hde : ∀ q, e.node? q = some .directory ↔ d.node? q = some .directory)
    {ns : List String} {here : Place} (h : d.follow here ns = .error .nameTooLong) :
    e.follow here ns = .error .nameTooLong := by
  induction ns generalizing here with
  | nil => cases h
  | cons n ns ih =>
    rw [follow] at h ⊢
    cases hn : d.node? here with
    | none =>
      rw [hn] at h
      cases h
    | some node =>
      rw [hn] at h
      cases node with
      | file k => cases h
      | directory =>
        simp only [(hde here).2 hn] at h ⊢
        split at h
        · rename_i hdots
          rw [if_pos hdots]
          exact ih h
        · rename_i hdots
          rw [if_neg hdots]
          split at h
          · rename_i hlen
            rw [if_pos hlen]
          · rename_i hlen
            rw [if_neg hlen]
            exact ih h

theorem locate_long_iff (hde : ∀ q, e.node? q = some .directory ↔ d.node? q = some .directory) :
    e.locate p = .error .nameTooLong ↔ d.locate p = .error .nameTooLong :=
  ⟨follow_long fun q => (hde q).symm, follow_long hde⟩

/-- A question about a path is answered unless a name on the way is too long. -/
theorem test_cases (d : Disk) (p : Path) (holds : Node → Bool) :
    (∃ b, d.test p holds = .ok b ∧ d.locate p ≠ .error .nameTooLong) ∨
      d.test p holds = .error ⟨.nameTooLong, p.toString, none⟩ ∧ d.locate p = .error .nameTooLong := by
  cases hl : d.locate p with
  | error c =>
    rw [test, find_error hl]
    cases c with
    | nameTooLong => exact .inr ⟨rfl, rfl⟩
    | _ => exact .inl ⟨false, rfl, by simp⟩
  | ok q =>
    cases hn : d.node? q with
    | none =>
      rw [test, find_of_vacant hl hn]
      exact .inl ⟨false, rfl, by simp⟩
    | some n =>
      rw [test, find_of_node hl hn]
      exact .inl ⟨holds n, rfl, by simp⟩

end Disk

/-- What a handle keeps for good: the layer, the path, the place and the file that it was opened for. -/
structure Handle.Akin (h k : Handle) : Prop where
  layer : k.layer = h.layer
  path : k.path = h.path
  place : k.place = h.place
  file : k.file = h.file

theorem Handle.Akin.refl (h : Handle) : h.Akin h := ⟨rfl, rfl, rfl, rfl⟩

theorem Handle.released_akin (h : Handle) : h.Akin h.released :=
  ⟨(Store.Worn.released h).layer, (Store.Worn.released h).path, (Store.Worn.released h).place,
    (Store.Worn.released h).file⟩

theorem Store.Kin.akin {h k : Handle} (hk : Store.Kin h k) : h.Akin k := by
  rw [hk]
  exact ⟨rfl, rfl, rfl, rfl⟩

namespace Store

variable {s t : Store} {m : String} {p : Path} {id : HandleId} {h : Handle}

/-! ## The cache -/

/-- No name is cached twice, and the handle that is cached for a name was issued for it, at its path. -/
structure Registered (s : Store) : Prop where
  keys : s.cache.keys.Nodup
  cached : ∀ name id, s.cache.get? name = some id → ∃ h, s.handle? id = some h ∧ h.layer = name ∧
    s.pathOf? name = some h.path ∧ h.place = h.path.resolved.names

/-- A cache that only lost entries, over handles that are still there, is as good as before. -/
theorem Registered.lessened (hs : s.Registered) (hc : t.config = s.config)
    (hkeys : t.cache.keys.Nodup)
    (hcache : ∀ name id, t.cache.get? name = some id → s.cache.get? name = some id)
    (hh : ∀ id h, s.handle? id = some h → ∃ k, t.handle? id = some k ∧ h.Akin k) : t.Registered where
  keys := hkeys
  cached := by
    intro name id hid
    obtain ⟨h, hid', hl, hp, hq⟩ := hs.cached name id (hcache name id hid)
    obtain ⟨k, hk, ha⟩ := hh id h hid'
    refine ⟨k, hk, ha.layer.trans hl, ?_, ?_⟩
    · rw [pathOf?, hc, ha.path]
      exact hp
    · rw [ha.place, ha.path]
      exact hq

theorem Registered.onDisk (hs : s.Registered) (d : Disk) : ({ s with disk := d } : Store).Registered :=
  ⟨hs.keys, hs.cached⟩

/-- A change of one handle keeps the handles akin. -/
theorem akin_modify {f : Handle → Handle} (hf : ∀ h, s.handle? id = some h → h.Akin (f h)) :
    ∀ i h, s.handle? i = some h →
      ∃ k, ({ s with issued := s.issued.modify id f } : Store).handle? i = some k ∧ h.Akin k := by
  intro i h hi
  rw [handle_modify, hi]
  split
  · rename_i he
    exact ⟨f h, rfl, hf h (he ▸ hi)⟩
  · exact ⟨h, rfl, .refl h⟩

theorem Registered.modify (hs : s.Registered) {f : Handle → Handle}
    (hf : ∀ h, s.handle? id = some h → h.Akin (f h)) :
    ({ s with issued := s.issued.modify id f } : Store).Registered :=
  hs.lessened rfl hs.keys (fun _ _ e => e) (akin_modify hf)

theorem keys_without (hs : s.cache.keys.Nodup) (name : String) (id : HandleId) :
    (s.without name id).keys.Nodup := by
  rw [without]
  split
  · exact hs.sublist ((List.filter_sublist).map Prod.fst)
  · exact hs

theorem Registered.dropped (hs : s.Registered) (name : String) (id : HandleId) (l : List LogRecord) :
    ({ s with
      cache := s.without name id
      issued := s.issued.modify id Handle.released
      log := l } : Store).Registered :=
  hs.lessened rfl (keys_without hs.keys name id) (fun _ _ e => get?_without e)
    (akin_modify fun h _ => h.released_akin)

/-- A new handle may be cached for its layer. -/
theorem Registered.enlist (hs : s.Registered) (hp : s.pathOf? m = some p) (d : Disk) (file : Nat)
    (schema : Schema) :
    (Store.enlist { s with disk := d } m (.fresh m p file schema)).Registered where
  keys := by
    have hput := Ordered.keys_put s.cache m s.issued.length
    rw [Store.enlist]
    dsimp only
    rw [hput]
    split
    · exact hs.keys
    · rename_i hm
      exact List.nodup_append.2 ⟨hs.keys, List.nodup_singleton m, fun a ha b hb => by
        rw [List.mem_singleton] at hb
        rintro rfl
        exact hm (hb ▸ ha)⟩
  cached := by
    intro name id hid
    by_cases hn : m = name
    · subst hn
      simp only [Store.enlist, Ordered.get?_put_self, Option.some.injEq] at hid
      subst hid
      exact ⟨_, handle_issued s _, rfl, hp, rfl⟩
    · simp only [Store.enlist, Ordered.get?_put_of_ne _ _ hn] at hid
      obtain ⟨h, hh, hrest⟩ := hs.cached name id hid
      exact ⟨h, handle_append _ hh, hrest⟩

/-- The cache of a store stays as good as it is while a layer is opened. -/
theorem Shift.registered (hst : Shift s t) (hs : s.Registered) : t.Registered := by
  cases hst with
  | logged | counted => exact ⟨hs.keys, hs.cached⟩
  | tidied | blanked => exact hs.onDisk _
  | learned hh hk _ =>
    refine hs.modify fun h' hh' => ?_
    rw [hh, Option.some.injEq] at hh'
    exact hh' ▸ hk.akin
  | dropped name id l => exact hs.dropped name id l
  | closed id => exact hs.modify fun h _ => h.released_akin
  | founded _ hp | grafted _ hp | opened _ hp =>
    exact hs.enlist hp _ _ _

theorem Shifts.registered (hst : Shifts s t) (hs : s.Registered) : t.Registered := by
  induction hst with
  | refl => exact hs
  | tail _ hstep ih => exact hstep.registered ih

/-! ## Directories -/

/-- No directory comes or goes while a layer is opened. -/
theorem Shift.directory (hst : Shift s t) (q : Place) :
    t.disk.node? q = some .directory ↔ s.disk.node? q = some .directory := by
  have hmade : ∀ {p : Place} (e : Disk), s.disk.node? p = none →
      (s.disk.createFile p (.raw .empty)).2.Tidied p e →
      (e.node? q = some .directory ↔ s.disk.node? q = some .directory) := by
    intro p e hnone htidy
    rw [htidy.directory]
    by_cases hp : p = []
    · subst hp
      simp [Disk.node?] at hnone
    · rw [Disk.node_createFile _ hp]
      split
      · rename_i hq
        rw [hq, hnone]
        simp
      · exact Iff.rfl
  have hwritten : ∀ {e : Disk} {p : Place} {n : Nat} {db : Database},
      (commit e p n db).node? q = some .directory ↔ e.node? q = some .directory :=
    (commit_tidied _ _ _ _).directory
  cases hst with
  | logged | counted | learned | dropped | closed => exact Iff.rfl
  | tidied _ htidy => exact htidy.directory
  | blanked _ _ _ hnone htidy => exact hmade _ hnone htidy
  | founded _ _ _ _ hnone htidy => exact hwritten.trans (hmade _ hnone htidy)
  | grafted _ _ _ _ _ _ _ htidy => exact hwritten.trans htidy.directory
  | opened _ _ _ _ _ _ htidy => exact htidy.directory

theorem Shifts.directory (hst : Shifts s t) (q : Place) :
    t.disk.node? q = some .directory ↔ s.disk.node? q = some .directory := by
  induction hst with
  | refl => exact Iff.rfl
  | tail _ hstep ih => exact (hstep.directory q).trans ih

/-- The path of a layer has a name that is too long, in directories that are there. -/
def Overlong (s : Store) (m : String) : Prop :=
  ∃ p, s.pathOf? m = some p ∧ s.disk.locate p = .error .nameTooLong

theorem Shifts.overlong (hst : Shifts s t) : t.Overlong m ↔ s.Overlong m := by
  have hlong : ∀ p, t.disk.locate p = .error .nameTooLong ↔ s.disk.locate p = .error .nameTooLong :=
    fun p => Disk.locate_long_iff hst.directory
  simp only [Overlong, hst.pathOf, hlong]

theorem overlong_iff (hp : s.pathOf? m = some p) :
    s.Overlong m ↔ s.disk.locate p = .error .nameTooLong := by
  constructor
  · rintro ⟨p', hp', hl⟩
    rw [hp, Option.some.injEq] at hp'
    rwa [hp']
  · exact fun hl => ⟨p, hp, hl⟩

/-! ## What getting hold of a handle comes to -/

/-- Why there is no handle for a layer. -/
inductive Declines (s : Store) (m : String) : Fault → Prop
  | unnamed : m = "" → Declines s m .emptyName
  | overlong {p : Path} : s.pathOf? m = some p → s.disk.locate p = .error .nameTooLong →
      Declines s m (.os ⟨.nameTooLong, p.toString, none⟩)
  | reported (e : StoreError) : ¬ s.Overlong m → Declines s m (.store e)
  | interrupted : ¬ s.Overlong m → s.staleAcquires ≠ 0 → Declines s m (.db .diskFailure)

/-- Getting hold of a handle of a layer is a sequence of shifts, and the handle is cached for the layer,
or there is a reason why there is none. -/
def Granted (m : String) (s : Store) (r : Except Fault HandleId × Store) : Prop :=
  match r with
  | (.ok id, t) => Shifts s t ∧ t.cache.get? m = some id ∧ ¬ s.Overlong m
  | (.error f, t) => Shifts s t ∧ s.Declines m f

theorem Declines.before (hst : Shifts s t) {f : Fault} (h : t.Declines m f) : s.Declines m f := by
  have hover : ¬ t.Overlong m → ¬ s.Overlong m := fun hn ho => hn (hst.overlong.2 ho)
  cases h with
  | unnamed hm => exact .unnamed hm
  | @overlong p hp hl =>
    exact .overlong ((hst.pathOf m).symm.trans hp) ((Disk.locate_long_iff hst.directory).1 hl)
  | reported e hn => exact .reported e (hover hn)
  | interrupted hn hstale =>
    refine .interrupted (hover hn) fun h0 => hstale ?_
    have hle := hst.staleAcquires
    omega

theorem Granted.after (hst : Shifts s t) {r : Except Fault HandleId × Store} (h : Granted m t r) :
    Granted m s r := by
  obtain ⟨_ | id, u⟩ := r
  · exact ⟨hst.trans h.1, h.2.before hst⟩
  · exact ⟨hst.trans h.1, h.2.1, fun ho => h.2.2 (hst.overlong.2 ho)⟩

/-- What is handed out is cached for a layer. -/
def cachedAs (m : String) : Except Fault HandleId × Store → Except Fault HandleId × Store
  | (.ok id, t) => (.ok id, { t with cache := t.cache.put m id })
  | (.error f, t) => (.error f, t)

theorem run_cachedAs (m : String) (x : Step HandleId) (s : Store) :
    Step.outcome (do
      let id ← x
      modify (fun s => { s with cache := s.cache.put m id })
      return id) s = cachedAs m (Step.outcome x s) := by
  rw [Step.run_bind]
  rcases Step.outcome x s with ⟨_ | _, _⟩ <;> rfl

/-- A layer without a cached handle has its file opened or made, unless its path has a name that is too
long. -/
theorem renew_cases (hp : s.pathOf? m = some p) :
    s.disk.locate p = .error .nameTooLong ∧
      Step.outcome (renew m) s = (.error (.os ⟨.nameTooLong, p.toString, none⟩), s) ∨
    s.disk.locate p ≠ .error .nameTooLong ∧ ∃ r, Step.outcome (renew m) s = cachedAs m r ∧
      (s.disk.exists? p = .ok true ∧ Opening s m p r ∨ s.disk.exists? p = .ok false ∧ Making s m p r) := by
  rcases s.disk.test_cases p (fun _ => true) with ⟨b, hb, hl⟩ | ⟨hf, hl⟩
  · have hthere : s.disk.exists? p = .ok b := hb
    have hrun : Step.outcome (renew m) s =
        cachedAs m (Step.outcome (if b then openStore m else create m) s) := by
      rw [← run_cachedAs]
      cases b <;> simp only [renew, Step.run_bind, pathFor_some hp, Step.run_view, hthere,
        Step.run_ofDisk_ok, Bool.false_eq_true, if_false, if_true]
    refine .inr ⟨hl, _, hrun, ?_⟩
    cases b with
    | true => exact .inl ⟨hthere, openStore_cases hp hthere⟩
    | false => exact .inr ⟨hthere, create_cases hp hthere⟩
  · have hthere : s.disk.exists? p = .error ⟨.nameTooLong, p.toString, none⟩ := hf
    refine .inl ⟨hl, ?_⟩
    simp only [renew, Step.run_bind, pathFor_some hp, Step.run_view, hthere, Step.run_ofDisk_error]

/-- What is made for a layer or opened is granted once it is cached. -/
theorem Yields.granted {r : Except Fault HandleId × Store} (hy : Yields m s r) (hn : ¬ s.Overlong m) :
    Granted m s (cachedAs m r) := by
  obtain ⟨f | id, t⟩ := r
  · obtain ⟨hst, e, rfl⟩ := hy
    exact ⟨hst, .reported e hn⟩
  · exact ⟨hy, Ordered.get?_put_self _ _ _, hn⟩

/-- A layer without a cached handle gets one. -/
theorem renew_granted (hp : s.pathOf? m = some p) (hc : s.cache.get? m = none) :
    Granted m s (Step.outcome (renew m) s) := by
  rcases renew_cases hp with ⟨hl, hrun⟩ | ⟨hl, r, hrun, hr⟩
  · rw [hrun]
    exact ⟨.refl, .overlong hp hl⟩
  · rw [hrun]
    have hn : ¬ s.Overlong m := fun ho => hl ((overlong_iff hp).1 ho)
    rcases hr with ⟨hthere, hopening⟩ | ⟨hthere, hmaking⟩
    · exact (hopening.yields hc hp hthere).granted hn
    · exact (hmaking.yields hc hp hthere).granted hn

/-- A handle may be handed out again: it is not closed, its database answers, and there is a file at its
path. -/
structure Fit (s : Store) (h : Handle) : Prop where
  unclosed : h.isClosed = false
  joined : h.isSevered = false
  there : s.disk.isFile? h.path = .ok true

/-- What testing a handle comes to.  It changes nothing but the log, and it has no answer where the path of
a handle that is not closed has a name that is too long. -/
inductive Tested (s : Store) (h : Handle) : Except Fault Bool × Store → Prop
  | passed : s.Fit h → Tested s h (.ok true, s)
  | failed (l : List LogRecord) : ¬ s.Fit h →
      (h.isClosed = false → s.disk.locate h.path ≠ .error .nameTooLong) →
      Tested s h (.ok false, { s with log := l })
  | unanswered : h.isClosed = false → s.disk.locate h.path = .error .nameTooLong →
      Tested s h (.error (.os ⟨.nameTooLong, h.path.toString, none⟩), s)

theorem Fit.locate (hf : s.Fit h) : s.disk.locate h.path ≠ .error .nameTooLong := by
  intro hl
  have hthere := hf.there
  rw [Disk.isFile?, Disk.test, Disk.find_error hl] at hthere
  cases hthere

theorem isOpen_tested (hh : s.handle? id = some h) : Tested s h (Step.outcome (isOpen id) s) := by
  by_cases hclosed : h.isClosed = true
  · rw [isOpen_closed hh hclosed]
    refine .failed s.log (fun hf => ?_) (fun hopen => ?_)
    · rw [hf.unclosed] at hclosed
      cases hclosed
    · rw [hopen] at hclosed
      cases hclosed
  · have hopen : h.isClosed = false := by simpa using hclosed
    rcases s.disk.test_cases h.path Node.isFile with ⟨b, hb, hl⟩ | ⟨hf, hl⟩
    · have hthere : s.disk.isFile? h.path = .ok b := hb
      cases b with
      | false =>
        simp only [isOpen, Step.run_bind, Step.run_get, hh, hopen, hthere, Step.run_ofDisk_ok,
          Bool.false_eq_true, if_false, Bool.not_false, if_true, Step.run_pure]
        refine .failed s.log (fun hf => ?_) fun _ => hl
        rw [hf.there] at hthere
        cases hthere
      | true =>
        by_cases hsevered : h.isSevered = true
        · simp only [isOpen, Step.run_bind, Step.run_get, hh, hopen, hthere, Step.run_ofDisk_ok, hsevered,
            Bool.false_eq_true, if_false, if_true, Bool.not_true, Step.run_note, Step.run_pure]
          refine .failed _ (fun hf => ?_) fun _ => hl
          rw [hf.joined] at hsevered
          cases hsevered
        · have hjoined : h.isSevered = false := by simpa using hsevered
          simp only [isOpen, Step.run_bind, Step.run_get, hh, hopen, hthere, Step.run_ofDisk_ok, hjoined,
            Bool.false_eq_true, if_false, Bool.not_true, Step.run_pure]
          exact .passed ⟨hopen, hjoined, hthere⟩
    · have hthere : s.disk.isFile? h.path = .error ⟨.nameTooLong, h.path.toString, none⟩ := hf
      simp only [isOpen, Step.run_bind, Step.run_get, hh, hopen, hthere, Step.run_ofDisk_error,
        Bool.false_eq_true, if_false]
      exact .unanswered hopen hl

/-- What getting hold of a handle comes to where one is cached.  It is handed out if it is fit, and else it
is tested a second time, closed and forgotten, and replaced. -/
theorem obtain_cases (hid : s.cache.get? m = some id) (hh : s.handle? id = some h)
    (hp : s.pathOf? m = some h.path) :
    s.Fit h ∧ Step.outcome (obtain m) s = (.ok id, s) ∨
    (¬ s.Fit h ∧ (h.isClosed = false → s.disk.locate h.path ≠ .error .nameTooLong) ∧ ∃ l,
      Step.outcome (obtain m) s = Step.outcome (renew m) { s with
        cache := s.without m id
        issued := s.issued.modify id Handle.released
        log := l }) ∨
    h.isClosed = false ∧ s.disk.locate h.path = .error .nameTooLong ∧
      Step.outcome (obtain m) s = (.error (.os ⟨.nameTooLong, h.path.toString, none⟩), s) := by
  have htested := isOpen_tested hh
  simp only [obtain, usable, cached, Step.run_bind, Step.run_view, hid]
  generalize Step.outcome (isOpen id) s = r at htested
  cases htested with
  | passed hfit => exact .inl ⟨hfit, rfl⟩
  | unanswered hopen hl => exact .inr (.inr ⟨hopen, hl, rfl⟩)
  | failed l hunfit hl =>
    refine .inr (.inl ⟨hunfit, hl, ?_⟩)
    have hpath := pathFor_some (s := { s with log := l }) hp
    simp only [Step.run_bind, Bool.false_eq_true, if_false, Step.run_pure, hpath, Step.run_view, hid]
    have hagain : Tested { s with log := l } h (Step.outcome (isOpen id) { s with log := l }) := isOpen_tested hh
    generalize Step.outcome (isOpen id) { s with log := l } = r at hagain
    cases hagain with
    | passed hfit => exact absurd ⟨hfit.unclosed, hfit.joined, hfit.there⟩ hunfit
    | unanswered hopen hlong => exact absurd hlong (hl hopen)
    | failed l =>
      obtain ⟨l', hdrop⟩ := dropHandle_run m id { s with log := l ++ [⟨.debug, .registry,
        "Replacing stale connection " ++ handleText { s with log := l } id⟩] }
      refine ⟨l', ?_⟩
      simp only [Step.run_bind, Bool.false_eq_true, if_false, Step.run_get, Step.run_note]
      rw [hdrop]
      rfl

/-- A layer without a cached handle gets one, if it has a name. -/
theorem obtain_missing (hid : s.cache.get? m = none) :
    m = "" ∧ Step.outcome (obtain m) s = (.error .emptyName, s) ∨
      ∃ p, s.pathOf? m = some p ∧ Step.outcome (obtain m) s = Step.outcome (renew m) s := by
  by_cases hm : m = ""
  · subst hm
    refine .inl ⟨rfl, ?_⟩
    simp only [obtain, usable, cached, Step.run_bind, Step.run_view, hid, Step.run_pure, pathFor_empty]
  · obtain ⟨p, hp⟩ := exists_pathOf (s := s) hm
    refine .inr ⟨p, hp, ?_⟩
    simp only [obtain, usable, cached, Step.run_bind, Step.run_view, hid, Step.run_pure, pathFor_some hp]

/-- A name that was forgotten has no entry any more. -/
theorem get?_without_self (hid : s.cache.get? m = some id) : (s.without m id).get? m = none := by
  rw [without, if_pos hid, Ordered.get?_drop_self]

/-- The cached handle is handed out, or another one is cached, or there is a reason why not. -/
theorem obtain_granted (hs : s.Registered) (m : String) :
    Granted m s (Step.outcome (obtain m) s) := by
  cases hid : s.cache.get? m with
  | none =>
    rcases obtain_missing hid with ⟨hm, hrun⟩ | ⟨p, hp, hrun⟩
    · rw [hrun]
      exact ⟨.refl, .unnamed hm⟩
    · rw [hrun]
      exact renew_granted hp hid
  | some id =>
    obtain ⟨h, hh, -, hp, -⟩ := hs.cached m id hid
    rcases obtain_cases hid hh hp with ⟨hfit, hrun⟩ | ⟨-, -, l, hrun⟩ | ⟨-, hl, hrun⟩
    · rw [hrun]
      exact ⟨.refl, hid, fun ho => hfit.locate ((overlong_iff hp).1 ho)⟩
    · rw [hrun]
      exact (renew_granted (s := { s with
        cache := s.without m id
        issued := s.issued.modify id Handle.released
        log := l }) hp (get?_without_self hid)).after (Shift.dropped s m id l).shifts
    · rw [hrun]
      exact ⟨.refl, .overlong hp hl⟩

/-- A closing by others that is pending takes place before the handle is handed out, and is reported if
it is refused. -/
theorem acquire_granted (hs : s.Registered) (m : String) :
    Granted m s (Step.outcome (acquire m) s) := by
  let s' : Store := { s with staleAcquires := s.staleAcquires - 1 }
  have hs' : Shifts s s' := (Shift.counted (Nat.sub_le _ 1)).shifts
  have hgrant := (obtain_granted (hs'.registered hs) m).after hs'
  have hrun : Step.outcome (acquire m) s = Step.outcome (do
      let id ← obtain m
      if 0 < s.staleAcquires then close id
      return id) s' := by
    simp only [acquire, Step.run_bind, Step.run_get, Step.run_modify]
    rfl
  rw [hrun, Step.run_bind]
  generalize Step.outcome (obtain m) s' = r at hgrant ⊢
  obtain ⟨f | id, t⟩ := r
  · exact hgrant
  · obtain ⟨hst, hid, hn⟩ := hgrant
    dsimp only
    by_cases hpending : 0 < s.staleAcquires
    · obtain ⟨r, hclose, hr⟩ := close_attempt id t
      simp only [if_pos hpending, Step.run_bind, hclose]
      have hclosed : Shifts s { t with issued := t.issued.modify id Handle.released } :=
        hst.tail (.closed t id)
      rcases hr with rfl | ⟨rfl, -⟩
      · exact ⟨hclosed, hid, hn⟩
      · exact ⟨hclosed, .interrupted hn (by omega)⟩
    · simp only [if_neg hpending, Step.run_pure]
      exact ⟨hst, hid, hn⟩

/-- A session acquires handles until one is not closed. -/
theorem acquireOpen_granted (hs : s.Registered) (m : String) (k : Nat) :
    Granted m s (Step.outcome (acquireOpen m k) s) := by
  induction k generalizing s with
  | zero => exact acquire_granted hs m
  | succ k ih =>
    have hgrant := acquire_granted hs m
    rw [acquireOpen, Step.run_bind]
    generalize Step.outcome (acquire m) s = r at hgrant ⊢
    obtain ⟨f | id, t⟩ := r
    · exact hgrant
    · obtain ⟨hst, hid, hn⟩ := hgrant
      simp only [Step.run_bind, Step.run_get]
      split
      · exact (ih (hst.registered hs)).after hst
      · exact ⟨hst, hid, hn⟩

/-! ## Closing many handles -/

theorem dropHandles_shifts (es : List (String × HandleId)) (s : Store) :
    ∃ t, Step.outcome (es.forM (fun e => dropHandle e.1 e.2)) s = (.ok (), t) ∧ Shifts s t ∧
      t.disk = s.disk := by
  induction es generalizing s with
  | nil => exact ⟨s, rfl, .refl, rfl⟩
  | cons e es ih =>
    obtain ⟨l, hrun⟩ := dropHandle_run e.1 e.2 s
    obtain ⟨t, ht, hst, hd⟩ := ih { s with
      cache := s.without e.1 e.2
      issued := s.issued.modify e.2 Handle.released
      log := l }
    refine ⟨t, ?_, (Shift.dropped s e.1 e.2 l).shifts.trans hst, hd⟩
    change Step.outcome (dropHandle e.1 e.2 >>= fun _ => es.forM (fun e => dropHandle e.1 e.2)) s = _
    rw [Step.run_bind, hrun]
    exact ht

/-- Invalidating a layer fails only for the empty name. -/
theorem invalidate_shifts (hp : s.pathOf? m = some p) :
    ∃ t, Step.outcome (invalidate m) s = (.ok (), t) ∧ Shifts s t ∧ t.disk = s.disk := by
  simp only [invalidate, Step.run_bind, pathFor_some hp, Step.run_get]
  exact dropHandles_shifts _ s

/-- Without its first entry, a cache in which no name has two entries is the rest. -/
theorem without_head {name : String} {es : Ordered String HandleId} (hc : s.cache = (name, id) :: es)
    (hkeys : s.cache.keys.Nodup) : s.without name id = es := by
  have hget : s.cache.get? name = some id := by
    rw [hc, Ordered.get?, if_pos rfl]
  rw [hc, Ordered.keys, List.map_cons, List.nodup_cons] at hkeys
  rw [without, if_pos hget, hc, Ordered.drop, List.filter_cons, if_neg (by simp), List.filter_eq_self]
  intro e he
  have hne : e.1 ≠ name := fun h => hkeys.1 (List.mem_map.2 ⟨e, he, h⟩)
  simp [hne]

/-- Emptying the cache and then closing what was cached comes to forgetting and closing one handle after
the other. -/
theorem closeAll_shifts {es : Ordered String HandleId} (s : Store) (l : List LogRecord)
    (hc : s.cache = es) (hkeys : s.cache.keys.Nodup) :
    ∃ t, Step.outcome ((es.map Prod.snd).forM closeQuietly) { s with cache := [], log := l } =
      (.ok (), t) ∧ Shifts s t ∧ t.disk = s.disk := by
  induction es generalizing s l with
  | nil =>
    have hs : { s with cache := [], log := l } = { s with log := l } := by rw [← hc]
    refine ⟨{ s with log := l }, ?_, (Shift.logged s l).shifts, rfl⟩
    rw [hs]
    rfl
  | cons e es ih =>
    obtain ⟨name, id⟩ := e
    obtain ⟨l', hrun⟩ := closeQuietly_run id { s with cache := [], log := l }
    have hrest := without_head hc hkeys
    let s' : Store := { s with
      cache := s.without name id
      issued := s.issued.modify id Handle.released
      log := l' }
    obtain ⟨t, ht, hst, hd⟩ := ih s' l' hrest (keys_without hkeys name id)
    refine ⟨t, ?_, (Shift.dropped s name id l').shifts.trans hst, hd⟩
    change Step.outcome (closeQuietly id >>= fun _ => (es.map Prod.snd).forM closeQuietly) _ = _
    rw [Step.run_bind, hrun]
    exact ht

/-- Closing every handle never fails. -/
theorem releaseAll_shifts (hs : s.Registered) :
    ∃ t, Step.outcome releaseAll s = (.ok (), t) ∧ Shifts s t ∧ t.disk = s.disk := by
  simp only [releaseAll, Step.run_bind, Step.run_get, Step.run_modify, Step.run_note]
  exact closeAll_shifts s _ rfl hs.keys

end Store

end TileDepot
