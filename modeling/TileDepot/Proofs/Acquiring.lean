import TileDepot.Proofs.Opening
import TileDepot.Proofs.Transactions

/-!
# Acquiring handles

What the cache hands out for a layer is `Opened`, whichever way it takes: the cached handle passes its
test, or it is closed, forgotten and renewed, or there was none.  A session acquires handles until one
has not been closed by others, and what it gets in the end is `Opened` as well.

A handle that refuses to be closed must not be handed out while a closing by others is pending, which
is what `Yielding` asks.

* `isOpen_run` says what the test of a cached handle comes to in a store that keeps shelves.
* `obtain_opened` is about what the cache hands out, and `acquireOpen_opened` about what a session gets.
* `invalidate_run` and `releaseAll_run` say that closing many handles only wears the store.
-/

namespace TileDepot

/-- A handle after an attempt to close it: a stubborn one has refused and will not refuse again. -/
def Handle.released (h : Handle) : Handle :=
  if h.isStubborn then { h with isStubborn := false } else { h with isClosed := true }

namespace Store

open Layer

/-- The live handle that is cached for a layer, if there is one, lets itself be closed. -/
def Yielding (s : Store) (m : String) : Prop :=
  ∀ id h, s.cache.get? m = some id → s.handle? id = some h → h.Live → h.isStubborn = false

/-- The handle that comes of opening a layer is the one that is cached for it. -/
def Caches (m : String) (r : Except Fault HandleId × Store) : Prop :=
  ∀ id, r.1 = .ok id → r.2.cache.get? m = some id

section Acquiring

variable {c : StoreConfig} {R : Place} {slack : Slack} {A : Shelves} {E : List Event}
  {s : Store} {m : String}

/-! ## Closing handles -/

theorem Worn.closed (h : Handle) : h.Worn { h with isClosed := true } :=
  ⟨rfl, rfl, rfl, rfl, rfl, rfl, fun e => Bool.noConfusion (show true = false from e.opened)⟩

theorem Worn.yielded (h : Handle) : h.Worn { h with isStubborn := false } :=
  ⟨rfl, rfl, rfl, rfl, rfl, rfl, fun e => ⟨e.opened, e.joined⟩⟩

theorem Worn.released (h : Handle) : h.Worn h.released := by
  rw [Handle.released]
  split
  · exact Worn.yielded h
  · exact Worn.closed h

/-- An attempt to close a handle touches no other, and fails only if the handle is stubborn. -/
theorem close_attempt (id : HandleId) (s : Store) :
    ∃ r, Step.outcome (close id) s = (r, { s with issued := s.issued.modify id Handle.released }) ∧
      (r = .ok () ∨
        r = .error (.db .diskFailure) ∧ ∃ h, s.handle? id = some h ∧ h.isStubborn = true) := by
  cases hh : s.handle? id with
  | none =>
    have hissued : s.issued.modify id Handle.released = s.issued := by
      rw [modify_congr (s := s) (g := fun h => h) (fun h e => by rw [hh] at e; cases e)]
      exact List.modify_id id s.issued
    refine ⟨.ok (), ?_, .inl rfl⟩
    simp only [close, Step.run_bind, Step.run_get, hh, Step.run_pure, hissued]
  | some h =>
    by_cases hst : h.isStubborn = true
    · refine ⟨.error (.db .diskFailure), ?_, .inr ⟨rfl, h, rfl, hst⟩⟩
      simp only [close, Step.run_bind, Step.run_get, hh, hst, if_true, Step.run_changeHandle,
        Step.run_throw]
      rw [modify_of_handle hh, modify_of_handle hh, Handle.released, if_pos hst]
    · refine ⟨.ok (), ?_, .inl rfl⟩
      simp only [close, Step.run_bind, Step.run_get, hh, hst, Bool.false_eq_true, if_false,
        Step.run_changeHandle]
      rw [modify_of_handle hh, modify_of_handle hh, Handle.released, if_neg hst]

/-- Closing a handle touches no other, and is never reported. -/
theorem closeQuietly_run (id : HandleId) (s : Store) :
    ∃ l, Step.outcome (closeQuietly id) s =
      (.ok (), { s with issued := s.issued.modify id Handle.released, log := l }) := by
  obtain ⟨r, hclose, rfl | ⟨rfl, -⟩⟩ := close_attempt id s
  · refine ⟨s.log, ?_⟩
    simp only [closeQuietly, Step.run_tryCatch, hclose]
  · let t : Store := { s with issued := s.issued.modify id Handle.released }
    refine ⟨s.log ++ [⟨.warning, .registry,
      "Failed to close " ++ handleText t id ++ ": " ++ DbFault.diskFailure.message⟩], ?_⟩
    simp only [closeQuietly, Step.run_tryCatch, hclose, Step.run_bind, Step.run_get, Step.run_note]
    rfl

/-- The cache without the handle of a name, if it is the given one. -/
def without (s : Store) (name : String) (id : HandleId) : Ordered String HandleId :=
  if s.cache.get? name = some id then s.cache.drop name else s.cache

theorem get?_without {s : Store} {name : String} {id id' : HandleId} {n : String}
    (h : (s.without name id).get? n = some id') : s.cache.get? n = some id' := by
  rw [without] at h
  split at h
  · exact Ordered.get?_of_get?_drop h
  · exact h

theorem dropHandle_run (name : String) (id : HandleId) (s : Store) :
    ∃ l, Step.outcome (dropHandle name id) s =
      (.ok (), { s with
        cache := s.without name id
        issued := s.issued.modify id Handle.released
        log := l }) := by
  obtain ⟨l, hrun⟩ := closeQuietly_run id { s with cache := s.without name id }
  refine ⟨l, ?_⟩
  have hmodify : (if s.cache.get? name = some id then { s with cache := s.cache.drop name } else s) =
      { s with cache := s.without name id } := by
    rw [without]
    split <;> rfl
  simp only [dropHandle, Step.run_bind, Step.run_modify, hmodify, hrun]

/-- Closing and forgetting a handle wears a store. -/
theorem worn_dropped (s : Store) (name : String) (id : HandleId) (l : List LogRecord) :
    s.Worn { s with
      cache := s.without name id
      issued := s.issued.modify id Handle.released
      log := l } := by
  obtain ⟨-, -, -, -, -, hh⟩ := Worn.modify s id (fun h _ => Worn.released h)
  exact ⟨rfl, rfl, rfl, rfl, fun _ _ e => get?_without e, hh⟩

/-- Closing and forgetting the handle of a layer leaves those of the other names alone. -/
theorem Keeps.spares_dropped (hk : s.Keeps c R slack A E) {id : HandleId}
    (hid : s.cache.get? m = some id) (l : List LogRecord) :
    s.Spares m { s with
      cache := s.without m id
      issued := s.issued.modify id Handle.released
      log := l } := by
  refine ⟨Nat.le_refl _, Nat.le_refl _, fun _ _ e => .inl e, ?_⟩
  intro name id' hn hid'
  have hne : id ≠ id' := by
    rintro rfl
    exact hn (hk.apart hid' hid)
  have hcache : (s.without m id).get? name = some id' := by
    rw [without, if_pos hid, Ordered.get?_drop_of_ne _ (Ne.symm hn)]
    exact hid'
  have hhandle := handle_modify s id Handle.released id'
  rw [if_neg hne] at hhandle
  exact ⟨hcache, hhandle⟩

/-! ## Handing out the cached handle -/

/-- A cached handle passes its test if it is live and its name has a file. -/
theorem isOpen_run (hk : s.Keeps c R slack A E) {h : Handle} {id : HandleId}
    (hh : s.handle? id = some h) (hf : h.Fits c R m) :
    ∃ l, Step.outcome (isOpen id) s =
      (.ok (decide h.Live && (A (safe m)).isSome), { s with log := l }) := by
  have hfile := hk.disk.isFile_eq hf.named hf.room
  rw [← hf.path] at hfile
  by_cases hc : h.isClosed = true
  · have hdead : decide h.Live = false := by
      rw [decide_eq_false_iff_not]
      intro hl
      rw [hl.opened] at hc
      cases hc
    exact ⟨s.log, by rw [isOpen_closed hh hc, hdead, Bool.false_and]⟩
  · have hopen : h.isClosed = false := by simpa using hc
    by_cases hA : (A (safe m)).isSome = true
    · by_cases hs : h.isSevered = true
      · have hdead : decide h.Live = false := by
          rw [decide_eq_false_iff_not]
          intro hl
          rw [hl.joined] at hs
          cases hs
        refine ⟨s.log ++ [⟨.debug, .connection, "Connection probe failed for " ++ h.path.toString ++
          ": " ++ DbFault.closed.message⟩], ?_⟩
        simp only [isOpen, Step.run_bind, Step.run_get, hh, hopen, hfile, Step.run_ofDisk_ok, hA, hs,
          Bool.false_eq_true, if_false, if_true, Bool.not_true, Step.run_note, Step.run_pure, hdead,
          Bool.false_and]
      · have hjoined : h.isSevered = false := by simpa using hs
        have hlive : decide h.Live = true := decide_eq_true ⟨hopen, hjoined⟩
        refine ⟨s.log, ?_⟩
        simp only [isOpen, Step.run_bind, Step.run_get, hh, hopen, hfile, Step.run_ofDisk_ok, hA,
          hjoined, Bool.false_eq_true, if_false, Bool.not_true, Step.run_pure, hlive, Bool.and_self]
    · have hA' : (A (safe m)).isSome = false := by simpa using hA
      refine ⟨s.log, ?_⟩
      simp only [isOpen, Step.run_bind, Step.run_get, hh, hopen, hfile, Step.run_ofDisk_ok, hA',
        Bool.false_eq_true, if_false, Bool.not_false, if_true, Step.run_pure, Bool.and_false]

/-! ## Renewing a handle -/

/-- Caching a handle that leads to the file of a layer. -/
theorem Keeps.cache_put (hk : s.Keeps c R slack A E) {id : HandleId} {h : Handle} {H : Holding}
    (hh : s.handle? id = some h) (hl : h.Leads c R s.disk m) (hA : A (safe m) = some (.full H)) :
    Keeps c R slack A E { s with cache := s.cache.put m id } where
  config := hk.config
  regular := hk.regular
  ddl := hk.ddl
  events := hk.events
  disk := hk.disk
  handles := by
    intro name id' hid
    by_cases hn : m = name
    · subst hn
      simp only [Ordered.get?_put_self, Option.some.injEq] at hid
      subst hid
      obtain ⟨k, hk', hlt, -⟩ := hk.disk.stored _ _ hA
      rw [hl.file, Option.some.injEq, Node.file.injEq] at hk'
      refine ⟨h, hh, hl.fits, ?_, fun _ => .inr (.inr ⟨hl.file, H, hA⟩)⟩
      rw [hk']
      exact hlt
    · simp only [Ordered.get?_put_of_ne _ _ hn] at hid
      exact hk.handles name id' hid

theorem spares_cache_put (s : Store) (m : String) (id : HandleId) :
    s.Spares m { s with cache := s.cache.put m id } := by
  refine ⟨Nat.le_refl _, Nat.le_refl _, fun _ _ e => .inl e, ?_⟩
  intro name id' hn hid
  exact ⟨(Ordered.get?_put_of_ne _ _ (Ne.symm hn)).trans hid, rfl⟩

/-- A layer without a cached handle gets one. -/
theorem renew_opened (hk : s.Keeps c R slack A E) (hm : m ≠ "") (hcl : Clear slack A m)
    (hcache : s.cache.get? m = none) :
    Opened c R slack A E s m (Step.outcome (renew m) s) ∧ Caches m (Step.outcome (renew m) s) := by
  have hpath := hk.pathFor hm
  by_cases hr : c.room (safe m) = .lacking
  · have htest : s.disk.exists? (c.pathOf (safe m)) =
        .error (Shelves.longName c (safe m ++ c.extension)) :=
      hk.disk.test_lacking hm hr (fun _ => true)
    have hrun : Step.outcome (renew m) s =
        (.error (.os (Shelves.longName c (safe m ++ c.extension))), s) := by
      simp only [renew, Step.run_bind, hpath, Step.run_view, htest, Step.run_ofDisk_error]
    rw [hrun]
    exact ⟨.refused (Shelves.lend_lacking hm hr) hk (.refl m s), fun id e => by cases e⟩
  · have hexists := hk.disk.exists_eq hm hr
    -- Whether the file is opened or made, the rest is the same.
    have hfinish : ∀ x : Step HandleId, Opened c R slack A E s m (Step.outcome x s) →
        Step.outcome (renew m) s = Step.outcome (do
          let id ← x
          modify (fun s => { s with cache := s.cache.put m id })
          return id) s →
        Opened c R slack A E s m (Step.outcome (renew m) s) ∧ Caches m (Step.outcome (renew m) s) := by
      intro x hx hrun
      rw [hrun, Step.run_bind]
      generalize Step.outcome x s = r at hx
      cases hx with
      | refused hl hk' hs' => exact ⟨.refused hl hk' hs', fun id e => by cases e⟩
      | handed hl hk' hs' hh hlead hnew =>
        simp only [Step.run_bind, Step.run_modify, Step.run_pure]
        have hB := (Shelves.lend_ok hl).2.2.1
        refine ⟨.handed hl (hk'.cache_put hh hlead hB) (hs'.trans (spares_cache_put _ m _)) hh hlead
          hnew, ?_⟩
        intro id e
        rw [Except.ok.injEq] at e
        subst e
        exact Ordered.get?_put_self _ _ _
    cases hA : A (safe m) with
    | none =>
      apply hfinish (create m) (create_opened hk hm hr hA hcl hcache)
      rw [hA, Option.isSome_none] at hexists
      simp only [renew, Step.run_bind, hpath, Step.run_view, hexists, Step.run_ofDisk_ok,
        Bool.false_eq_true, if_false]
    | some v =>
      have hne : A (safe m) ≠ none := by
        rw [hA]
        exact Option.some_ne_none v
      apply hfinish (openStore m) (openStore_opened hk hm hr hne)
      rw [hA, Option.isSome_some] at hexists
      simp only [renew, Step.run_bind, hpath, Step.run_view, hexists, Step.run_ofDisk_ok, if_true]

/-! ## Handing out a handle -/

/-- What was opened after a part of the work that left no cached handle of the layer. -/
theorem Opened.after {t : Store} {r : Except Fault HandleId × Store}
    (ho : Opened c R slack A E t m r) (hs : s.Spares m t) (hnone : t.cache.get? m = none) :
    Opened c R slack A E s m r := by
  cases ho with
  | refused hl hk hs' => exact .refused hl hk (hs.trans hs')
  | handed hl hk hs' hh hlead hnew =>
    refine .handed hl hk (hs.trans hs') hh hlead (.inl ?_)
    rcases hnew with hnew | ⟨hid, -⟩
    · exact hnew
    · rw [hnone] at hid
      cases hid

/-- A live handle is handed out again while its name has a file. -/
theorem obtain_cached (hk : s.Keeps c R slack A E) {id : HandleId} {h : Handle}
    (hid : s.cache.get? m = some id) (hh : s.handle? id = some h) (hf : h.Fits c R m) (hl : h.Live)
    (hA : A (safe m) ≠ none) : ∃ l, Step.outcome (obtain m) s = (.ok id, { s with log := l }) := by
  obtain ⟨l, hopen⟩ := isOpen_run hk hh hf
  have hflag : (decide h.Live && (A (safe m)).isSome) = true := by
    rw [Bool.and_eq_true, decide_eq_true_eq, Option.isSome_iff_ne_none]
    exact ⟨hl, hA⟩
  refine ⟨l, ?_⟩
  simp only [obtain, usable, cached, Step.run_bind, Step.run_view, hid, hopen, hflag, if_true,
    Step.run_pure]

theorem obtain_opened (hk : s.Keeps c R slack A E) (hcl : Clear slack A m) :
    Opened c R slack A E s m (Step.outcome (obtain m) s) ∧ Caches m (Step.outcome (obtain m) s) := by
  cases hid : s.cache.get? m with
  | none =>
    by_cases hm : m = ""
    · subst hm
      have hrun : Step.outcome (obtain "") s = (.error .emptyName, s) := by
        simp only [obtain, usable, cached, Step.run_bind, Step.run_view, hid, Step.run_pure, pathFor_empty]
      rw [hrun]
      exact ⟨.refused Shelves.lend_empty hk (.refl "" s), fun id e => by cases e⟩
    · have hrun : Step.outcome (obtain m) s = Step.outcome (renew m) s := by
        simp only [obtain, usable, cached, Step.run_bind, Step.run_view, hid, Step.run_pure,
          hk.pathFor hm]
      rw [hrun]
      exact renew_opened hk hm hcl hid
  | some id =>
    obtain ⟨h, hh, hserves⟩ := hk.handles m id hid
    have hm := hserves.fits.named
    by_cases hgood : h.Live ∧ A (safe m) ≠ none
    · obtain ⟨hlive, hA⟩ := hgood
      obtain ⟨l, hrun⟩ := obtain_cached hk hid hh hserves.fits hlive hA
      rcases hserves.current hlive with hstray | ⟨hnone, -⟩ | ⟨hnode, H, hH⟩
      · exact absurd hstray hcl.sure
      · exact absurd hnone hA
      · rw [hrun]
        refine ⟨.handed (Shelves.lend_full hm hserves.fits.room hH) (hk.weaken (.log s l)) (.log m s l) hh
          ⟨hserves.fits, hlive, hnode⟩ (.inr ⟨hid, hh⟩), ?_⟩
        intro id' e
        rw [Except.ok.injEq] at e
        exact e ▸ hid
    · have hflag : (decide h.Live && (A (safe m)).isSome) = false := by
        rw [← Bool.not_eq_true, Bool.and_eq_true, decide_eq_true_eq, Option.isSome_iff_ne_none]
        exact hgood
      -- The test is made twice, before and after the lock is taken.
      obtain ⟨l, hopen⟩ := isOpen_run hk hh hserves.fits
      have hk' : Keeps c R slack A E { s with log := l } := hk.weaken (.log s l)
      obtain ⟨l', hopen'⟩ := isOpen_run hk' hh hserves.fits
      let u : Store := { s with log := l' ++ [⟨.debug, .registry,
        "Replacing stale connection " ++ handleText { s with log := l' } id⟩] }
      have hku : Keeps c R slack A E u := hk.weaken (.log s _)
      obtain ⟨l'', hdrop⟩ := dropHandle_run m id u
      have hrun : Step.outcome (obtain m) s = Step.outcome (renew m)
          { u with cache := u.without m id, issued := u.issued.modify id Handle.released, log := l'' } := by
        simp only [obtain, usable, cached, Step.run_bind, Step.run_view, hid, hopen, hopen', hflag,
          hk'.pathFor hm, Step.run_get, Step.run_note, Step.run_pure, Bool.false_eq_true, if_false]
        rw [hdrop]
      rw [hrun]
      have hidu : u.cache.get? m = some id := hid
      have hnone : (u.without m id).get? m = none := by
        rw [without, if_pos hidu, Ordered.get?_drop_self]
      obtain ⟨ho, hc⟩ := renew_opened (hku.weaken (worn_dropped u m id l'')) hm hcl hnone
      exact ⟨ho.after ((Spares.log m s _).trans (hku.spares_dropped hidu l'')) hnone, hc⟩

/-- Without a pending closing, acquiring is handing out. -/
theorem acquire_run (hp : s.staleAcquires = 0) (m : String) :
    Step.outcome (acquire m) s = Step.outcome (obtain m) s := by
  have hs : { s with staleAcquires := 0 } = s := by
    cases s
    simp only at hp
    rw [hp]
  simp only [acquire, Step.run_bind, Step.run_get, Step.run_modify, hp, Nat.zero_sub, hs,
    Nat.lt_irrefl, if_false, Step.run_pure]
  generalize Step.outcome (obtain m) s = r
  obtain ⟨r, t⟩ := r
  cases r <;> rfl

theorem acquire_opened (hk : s.Keeps c R slack A E) (hcl : Clear slack A m)
    (hp : s.staleAcquires = 0) : Opened c R slack A E s m (Step.outcome (acquire m) s) := by
  rw [acquire_run hp]
  exact (obtain_opened hk hcl).1

/-- A handle that does not refuse is closed. -/
theorem close_run {t : Store} {id : HandleId} {h : Handle} (hh : t.handle? id = some h)
    (hs : h.isStubborn = false) : Step.outcome (close id) t =
      (.ok (), { t with issued := t.issued.modify id (fun h => { h with isClosed := true }) }) := by
  simp only [close, Step.run_bind, Step.run_get, hh, hs, Bool.false_eq_true, if_false,
    Step.run_changeHandle]

/-- Whether closing succeeds or not, it only wears the store. -/
theorem close_worn (id : HandleId) (s : Store) : s.Worn (Step.outcome (close id) s).2 := by
  obtain ⟨r, hclose, -⟩ := close_attempt id s
  rw [hclose]
  exact .modify s id (fun h _ => Worn.released h)

/-- Whatever acquiring comes to, the store keeps what lending leaves. -/
theorem acquire_keeps (hk : s.Keeps c R slack A E) (hcl : Clear slack A m) :
    (Step.outcome (acquire m) s).2.Keeps c R slack (A.lend c m).2 E := by
  let s' : Store := { s with staleAcquires := s.staleAcquires - 1 }
  have hk' : s'.Keeps c R slack A E := hk.weaken (.pending s _)
  have ho := (obtain_opened hk' hcl).1
  generalize hr : Step.outcome (obtain m) s' = r at ho
  have hrun : Step.outcome (acquire m) s = Step.outcome (do
      let id ← obtain m
      if 0 < s.staleAcquires then close id
      return id) s' := by
    simp only [acquire, Step.run_bind, Step.run_get, Step.run_modify]
    rfl
  rw [hrun, Step.run_bind, hr]
  cases ho with
  | refused hl hkt _ =>
    rw [hl]
    exact hkt
  | @handed H B id h t hl hkt _ _ _ _ =>
    rw [hl]
    by_cases hp : 0 < s.staleAcquires
    · have hworn := close_worn id t
      simp only [if_pos hp, Step.run_bind]
      rcases hc : Step.outcome (close id) t with ⟨_ | _, u⟩
      all_goals
        rw [hc] at hworn
        exact hkt.weaken hworn
    · simp only [if_neg hp, Step.run_pure]
      exact hkt

/-- Acquiring while a closing is pending hands out a closed handle. -/
theorem acquire_pending (hk : s.Keeps c R slack A E) (hcl : Clear slack A m)
    (hp : s.staleAcquires ≠ 0) (hy : s.Yielding m) :
    (∃ f B t, Step.outcome (acquire m) s = (.error f, t) ∧ A.lend c m = (.error f, B) ∧
      t.Keeps c R slack B E ∧ s.Spares m t) ∨
    (∃ H B id h t, Step.outcome (acquire m) s = (.ok id, t) ∧ A.lend c m = (.ok H, B) ∧
      t.Keeps c R slack B E ∧ s.Spares m t ∧ t.staleAcquires < s.staleAcquires ∧
      t.cache.get? m = some id ∧ t.handle? id = some h ∧ h.isClosed = true) := by
  let s' : Store := { s with staleAcquires := s.staleAcquires - 1 }
  have hk' : s'.Keeps c R slack A E := hk.weaken (.pending s _)
  have hs' : s.Spares m s' := by
    exact ⟨Nat.sub_le _ _, Nat.le_refl _, fun _ _ e => .inl e, fun _ _ _ e => ⟨e, rfl⟩⟩
  have hpos : 0 < s.staleAcquires := Nat.pos_of_ne_zero hp
  obtain ⟨ho, hc⟩ := obtain_opened hk' hcl
  generalize hr : Step.outcome (obtain m) s' = r at ho hc
  cases ho with
  | @refused f B t hl hkt hst =>
    left
    refine ⟨f, B, t, ?_, hl, hkt, hs'.trans hst⟩
    simp only [acquire, Step.run_bind, Step.run_get, Step.run_modify]
    rw [hr]
  | @handed H B id h t hl hkt hst hh hlead hnew =>
    have hstub : h.isStubborn = false := by
      rcases hnew with hnew | ⟨hid, hh'⟩
      · exact hnew
      · exact hy id h hid hh' hlead.live
    have hcached : t.cache.get? m = some id := hc id rfl
    let t' : Store := { t with issued := t.issued.modify id (fun h => { h with isClosed := true }) }
    have hclosed : t'.handle? id = some { h with isClosed := true } := by
      rw [handle_modify, if_pos rfl, hh]
      rfl
    right
    refine ⟨H, B, id, { h with isClosed := true }, t', ?_, hl, hkt.weaken (.modify t id (fun h _ => Worn.closed h)), ?_,
      ?_, hcached, hclosed, rfl⟩
    · simp only [acquire, Step.run_bind, Step.run_get, Step.run_modify]
      rw [hr]
      simp only [if_pos hpos, Step.run_bind, close_run hh hstub, Step.run_pure]
      rfl
    · refine (hs'.trans hst).trans ⟨Nat.le_refl _, Nat.le_refl _, fun _ _ e => .inl e, ?_⟩
      intro name id' hn hid'
      have hne : id ≠ id' := by
        rintro rfl
        exact hn (hkt.apart hid' hcached)
      have hother := handle_modify t id (fun h => { h with isClosed := true }) id'
      rw [if_neg hne] at hother
      exact ⟨hid', hother⟩
    · have hle : t.staleAcquires ≤ s.staleAcquires - 1 := hst.pending
      show t.staleAcquires < s.staleAcquires
      omega

/-- A session gets a live handle, if it acquires once more than closings are pending. -/
theorem acquireOpen_opened {k : Nat} (hk : s.Keeps c R slack A E) (hcl : Clear slack A m)
    (hp : s.staleAcquires ≤ k) (hy : s.staleAcquires ≠ 0 → s.Yielding m) :
    Opened c R slack A E s m (Step.outcome (acquireOpen m k) s) := by
  induction k generalizing s A with
  | zero => exact acquire_opened hk hcl (Nat.le_zero.1 hp)
  | succ k ih =>
    by_cases hp0 : s.staleAcquires = 0
    · have ho := acquire_opened hk hcl hp0
      generalize hr : Step.outcome (acquire m) s = r at ho
      cases ho with
      | @refused f B t hl hkt hst =>
        have hrun : Step.outcome (acquireOpen m (k + 1)) s = (.error f, t) := by
          rw [acquireOpen, Step.run_bind, hr]
        rw [hrun]
        exact .refused hl hkt hst
      | @handed H B id h t hl hkt hst hh hlead hnew =>
        have hopen : isClosed t id = false := by
          rw [isClosed, hh]
          exact hlead.live.opened
        have hrun : Step.outcome (acquireOpen m (k + 1)) s = (.ok id, t) := by
          rw [acquireOpen, Step.run_bind, hr]
          simp only [Step.run_bind, Step.run_get, hopen, Bool.false_eq_true, if_false, Step.run_pure]
        rw [hrun]
        exact .handed hl hkt hst hh hlead hnew
    · rcases acquire_pending hk hcl hp0 (hy hp0) with
        ⟨f, B, t, hr, hl, hkt, hst⟩ | ⟨H, B, id, h, t, hr, hl, hkt, hst, hlt, hid, hh, hclosed⟩
      · have hrun : Step.outcome (acquireOpen m (k + 1)) s = (.error f, t) := by
          rw [acquireOpen, Step.run_bind, hr]
        rw [hrun]
        exact .refused hl hkt hst
      · have hisClosed : isClosed t id = true := by
          rw [isClosed, hh]
          exact hclosed
        have hrun : Step.outcome (acquireOpen m (k + 1)) s = Step.outcome (acquireOpen m k) t := by
          rw [acquireOpen, Step.run_bind, hr]
          simp only [Step.run_bind, Step.run_get, hisClosed, if_true]
        rw [hrun]
        have hB := (Shelves.lend_ok hl).2.2.1
        have hagain := Shelves.lend_again hl
        -- The handle that is cached now is closed, so that it cannot be handed out again.
        have hnot : ∀ id' h', t.cache.get? m = some id' → t.handle? id' = some h' → ¬ h'.Live := by
          intro id' h' hid' hh' hlive
          rw [hid, Option.some.injEq] at hid'
          subst hid'
          rw [hh, Option.some.injEq] at hh'
          subst hh'
          rw [hlive.opened] at hclosed
          cases hclosed
        have ho := ih hkt ⟨hcl.sure, fun hnone => by rw [hB] at hnone; cases hnone⟩ (by omega)
          (fun _ id' h' hid' hh' hlive => absurd hlive (hnot id' h' hid' hh'))
        generalize Step.outcome (acquireOpen m k) t = r at ho
        cases ho with
        | refused hl' _ _ =>
          rw [hagain] at hl'
          cases hl'
        | handed hl' hkt' hst' hh' hlead' hnew' =>
          rw [hagain] at hl'
          cases hl'
          refine .handed hl hkt' (hst.trans hst') hh' hlead' (.inl ?_)
          rcases hnew' with hnew' | ⟨hid', hh''⟩
          · exact hnew'
          · exact absurd hlead'.live (hnot _ _ hid' hh'')

/-! ## Closing many handles -/

/-- Dropping handles one after the other wears the store, and leaves none of them cached. -/
theorem dropHandles_run (es : List (String × HandleId)) (s : Store) :
    ∃ t, Step.outcome (es.forM (fun e => dropHandle e.1 e.2)) s = (.ok (), t) ∧ s.Worn t ∧
      t.staleAcquires = s.staleAcquires ∧ ∀ e ∈ es, t.cache.get? e.1 ≠ some e.2 := by
  induction es generalizing s with
  | nil => exact ⟨s, rfl, .refl s, rfl, fun e he => by cases he⟩
  | cons e es ih =>
    obtain ⟨l, hrun⟩ := dropHandle_run e.1 e.2 s
    obtain ⟨t, ht, hw, hp, hgone⟩ := ih { s with
      cache := s.without e.1 e.2
      issued := s.issued.modify e.2 Handle.released
      log := l }
    refine ⟨t, ?_, (worn_dropped s e.1 e.2 l).trans hw, hp, ?_⟩
    · change Step.outcome (dropHandle e.1 e.2 >>= fun _ => es.forM (fun e => dropHandle e.1 e.2)) s = _
      rw [Step.run_bind, hrun]
      exact ht
    · intro x hx
      rcases List.mem_cons.1 hx with rfl | hx
      · intro hcached
        have hcached := hw.cache x.1 x.2 hcached
        simp only [without] at hcached
        split at hcached
        · rw [Ordered.get?_drop_self] at hcached
          cases hcached
        · rename_i hne
          exact hne hcached
      · exact hgone x hx

theorem mem_of_get? {κ ν : Type} [DecidableEq κ] {xs : Ordered κ ν} {key : κ} {value : ν}
    (h : xs.get? key = some value) : (key, value) ∈ xs := by
  induction xs with
  | nil => cases h
  | cons e xs ih =>
    obtain ⟨k, v⟩ := e
    rw [Ordered.get?] at h
    split at h
    · rename_i hk
      rw [Option.some.injEq] at h
      rw [hk, h]
      exact List.mem_cons_self
    · exact List.mem_cons_of_mem _ (ih h)

/-- Invalidating a layer leaves no cached handle on its file. -/
theorem invalidate_run (hk : s.Keeps c R slack A E) (hm : m ≠ "") :
    ∃ t, Step.outcome (invalidate m) s = (.ok (), t) ∧ s.Worn t ∧
      t.staleAcquires = s.staleAcquires ∧ ∀ n, safe n = safe m → t.cache.get? n = none := by
  obtain ⟨t, ht, hw, hp, hgone⟩ := dropHandles_run (s.cache.filter (fun e =>
    decide (e.1 = m) ||
      ((s.handle? e.2).map (fun h => decide (h.path = c.pathOf (safe m)))).getD false)) s
  refine ⟨t, ?_, hw, hp, ?_⟩
  · simp only [invalidate, Step.run_bind, hk.pathFor hm, Step.run_get]
    exact ht
  · intro n hn
    cases hid : t.cache.get? n with
    | none => rfl
    | some id =>
      have hids := hw.cache n id hid
      obtain ⟨h, hh, hserves⟩ := hk.handles n id hids
      have hpath : h.path = c.pathOf (safe m) := by
        rw [hserves.fits.path, hn]
      refine absurd hid (hgone (n, id) (List.mem_filter.2 ⟨mem_of_get? hids, ?_⟩))
      simp only [hh, hpath, Option.map_some, Option.getD_some, decide_true, Bool.or_true]

theorem closeAll_run (ids : List HandleId) (s : Store) :
    ∃ t, Step.outcome (ids.forM closeQuietly) s = (.ok (), t) ∧ s.Worn t ∧
      t.staleAcquires = s.staleAcquires := by
  induction ids generalizing s with
  | nil => exact ⟨s, rfl, .refl s, rfl⟩
  | cons id ids ih =>
    obtain ⟨l, hrun⟩ := closeQuietly_run id s
    obtain ⟨t, ht, hw, hp⟩ := ih { s with issued := s.issued.modify id Handle.released, log := l }
    refine ⟨t, ?_, ((Worn.modify s id (fun h _ => Worn.released h)).trans (.log _ l)).trans hw, hp⟩
    change Step.outcome (closeQuietly id >>= fun _ => ids.forM closeQuietly) s = _
    rw [Step.run_bind, hrun]
    exact ht

theorem releaseAll_run (s : Store) :
    ∃ t, Step.outcome releaseAll s = (.ok (), t) ∧ s.Worn t ∧ t.staleAcquires = s.staleAcquires := by
  let s' : Store := { s with
    cache := []
    log := s.log ++ [⟨.info, .registry, "Closing " ++ toString (s.cache.map Prod.snd).length ++
      " SQLite tile store connection(s)"⟩] }
  have hs' : s.Worn s' := by
    refine ⟨rfl, rfl, rfl, rfl, ?_, fun _ h e => ⟨h, e, .refl h⟩⟩
    intro name id e
    cases e
  obtain ⟨t, ht, hw, hp⟩ := closeAll_run (s.cache.map Prod.snd) s'
  refine ⟨t, ?_, hs'.trans hw, hp⟩
  simp only [releaseAll, Step.run_bind, Step.run_get, Step.run_modify, Step.run_note]
  exact ht

end Acquiring

end Store

end TileDepot
