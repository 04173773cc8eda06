import TileDepot.Proofs.Wholeness

/-!
# Closing the handles of a file

Two layer names with one file have a handle each.  Whoever changes the file as a whole must close them all,
under whatever name they are cached, and must leave those on other files alone; a handle that refuses to be
closed keeps nobody from closing the others.

* `Swept` says what is left when the cached handles on certain paths were closed and forgotten, and
  `Swept.trans` that this may be done for one path after the other.
* `dropHandles_exact` and `closeAll_exact` say what comes of closing many handles, whichever of them refuse.
* `invalidate_swept`, `deleteLayer_swept`, `renameLayer_swept` and `releaseAll_swept` say which paths the
  operations clear.
* `handles_swept` puts them together.
-/

namespace TileDepot

namespace Store

open Layer

variable {s t u : Store} {m m' : String} {p p' : Path} {id : HandleId}

/-- An entry of the cache has a handle on one of certain paths. -/
def lies (s : Store) (gone : Path → Bool) (e : String × HandleId) : Bool :=
  (s.handle? e.2).any (fun h => gone h.path)

/-- A store is what is left of another one when the cached handles on certain paths were closed, unless they
refused, and forgotten.  All other entries are cached as before and in the same order, and all other handles
are what they were. -/
structure Swept (gone : Path → Bool) (s t : Store) : Prop where
  cache : t.cache = s.cache.filter (fun e => !s.lies gone e)
  released : ∀ name id h, (name, id) ∈ s.cache → s.handle? id = some h → gone h.path = true →
    t.handle? id = some h.released
  kept : ∀ id h, s.handle? id = some h → (∀ name, (name, id) ∈ s.cache → gone h.path = false) →
    t.handle? id = some h
  missing : ∀ id, s.handle? id = none → t.handle? id = none
  config : t.config = s.config

/-- Nothing of a store has changed but handles, the cache and the log. -/
def Rehandled (s t : Store) : Prop :=
  ∃ l, t = { s with issued := t.issued, cache := t.cache, log := l }

theorem Rehandled.trans (a : s.Rehandled t) (b : t.Rehandled u) : s.Rehandled u := by
  obtain ⟨l, ha⟩ := a
  obtain ⟨l', hb⟩ := b
  refine ⟨l', ?_⟩
  rw [hb, ha]

section Swept

variable {gone gone' : Path → Bool}

theorem Swept.not_cached (a : Swept gone s t) {name : String} {h : Handle} (hid : (name, id) ∈ t.cache)
    (hh : s.handle? id = some h) : (name, id) ∈ s.cache ∧ gone h.path = false := by
  rw [a.cache, List.mem_filter] at hid
  simpa [lies, hh] using hid

/-- What is not swept first is swept next. -/
theorem Swept.trans (a : Swept gone s t) (b : Swept gone' t u) :
    Swept (fun x => gone x || gone' x) s u where
  cache := by
    rw [b.cache, a.cache, List.filter_filter]
    apply List.filter_congr
    intro e _
    cases hh : s.handle? e.2 with
    | none => simp [lies, hh, a.missing _ hh]
    | some h =>
      by_cases hg : gone h.path = true
      · simp [lies, hh, hg]
      · rw [Bool.not_eq_true] at hg
        simp [lies, hh, hg, a.kept _ _ hh (fun _ _ => hg)]
  released := by
    intro name id h hid hh hg
    by_cases hfirst : gone h.path = true
    · -- It is not cached any more, and so it is left alone.
      refine b.kept id h.released (a.released name id h hid hh hfirst) fun n hn => ?_
      have hkept := (a.not_cached hn hh).2
      rw [hfirst] at hkept
      cases hkept
    · rw [Bool.not_eq_true] at hfirst
      have hnext : gone' h.path = true := by simpa [hfirst] using hg
      refine b.released name id h ?_ (a.kept id h hh fun _ _ => hfirst) hnext
      rw [a.cache, List.mem_filter]
      exact ⟨hid, by simp [lies, hh, hfirst]⟩
  kept := by
    intro id h hh hg
    refine b.kept id h (a.kept id h hh fun n hn => ?_) fun n hn => ?_
    · exact (Bool.or_eq_false_iff.1 (hg n hn)).1
    · exact (Bool.or_eq_false_iff.1 (hg n (a.not_cached hn hh).1)).2
  missing id hid := b.missing id (a.missing id hid)
  config := b.config.trans a.config

/-- Only the cache, the handles and the configuration matter. -/
theorem Swept.congr (a : Swept gone s t) {s' t' : Store} (hc : s'.cache = s.cache)
    (hi : s'.issued = s.issued) (hf : s'.config = s.config) (hc' : t'.cache = t.cache)
    (hi' : t'.issued = t.issued) (hf' : t'.config = t.config) : Swept gone s' t' := by
  have hs : ∀ id, s'.handle? id = s.handle? id := fun id => by rw [handle?, hi]; rfl
  have ht : ∀ id, t'.handle? id = t.handle? id := fun id => by rw [handle?, hi']; rfl
  obtain ⟨hcache, hreleased, hkept, hmissing, hconfig⟩ := a
  refine ⟨?_, ?_, ?_, ?_, ?_⟩
  · rw [hc', hc, hcache]
    simp only [lies, hs]
  · simpa only [hs, ht, hc] using hreleased
  · simpa only [hs, ht, hc] using hkept
  · simpa only [hs, ht] using hmissing
  · rw [hf', hf, hconfig]

end Swept

/-! ## Closing many handles -/

/-- Handles after an attempt to close some of them. -/
def releasing (issued : List Handle) (ids : List HandleId) : List Handle :=
  ids.foldl (fun hs id => hs.modify id Handle.released) issued

theorem handle_releasing {ids : List HandleId} (hids : ids.Nodup) (s : Store) (i : HandleId) :
    ({ s with issued := releasing s.issued ids } : Store).handle? i =
      if i ∈ ids then (s.handle? i).map Handle.released else s.handle? i := by
  induction ids generalizing s with
  | nil => simp [releasing, handle?]
  | cons id ids ih =>
    rw [List.nodup_cons] at hids
    have hrest := ih hids.2 { s with issued := s.issued.modify id Handle.released }
    rw [handle_modify] at hrest
    refine hrest.trans ?_
    by_cases hi : id = i
    · subst hi
      simp [hids.1]
    · simp [hi, Ne.symm hi]

/-- Closing handles one after the other touches these and no others, and is never reported. -/
theorem closeAll_exact (ids : List HandleId) (s : Store) :
    ∃ l, Step.outcome (ids.forM closeQuietly) s =
      (.ok (), { s with issued := releasing s.issued ids, log := l }) := by
  induction ids generalizing s with
  | nil => exact ⟨s.log, rfl⟩
  | cons id ids ih =>
    obtain ⟨l, hrun⟩ := closeQuietly_run id s
    obtain ⟨l', hrest⟩ := ih { s with issued := s.issued.modify id Handle.released, log := l }
    refine ⟨l', ?_⟩
    change Step.outcome (closeQuietly id >>= fun _ => ids.forM closeQuietly) s = _
    rw [Step.run_bind, hrun]
    exact hrest

/-- A store without some entries of its cache, whose handles were closed unless they refused. -/
def struck (s : Store) (es : List (String × HandleId)) (l : List LogRecord) : Store :=
  { s with
    cache := s.cache.filter (fun x => !decide (x.1 ∈ es.map Prod.fst))
    issued := releasing s.issued (es.map Prod.snd)
    log := l }

/-- Closing and forgetting cached handles one after the other takes their entries out of the cache, and
leaves the other entries in their order. -/
theorem dropHandles_exact (es : List (String × HandleId)) (s : Store)
    (hcached : ∀ e ∈ es, s.cache.get? e.1 = some e.2) (hnames : (es.map Prod.fst).Nodup) :
    ∃ l, Step.outcome (es.forM (fun e => dropHandle e.1 e.2)) s = (.ok (), s.struck es l) := by
  induction es generalizing s with
  | nil =>
    refine ⟨s.log, ?_⟩
    have hsame : s.struck [] s.log = s := by simp [struck, releasing]
    rw [hsame]
    rfl
  | cons e es ih =>
    rw [List.map_cons, List.nodup_cons] at hnames
    obtain ⟨l, hrun⟩ := dropHandle_run e.1 e.2 s
    have hwithout : s.without e.1 e.2 = s.cache.drop e.1 := if_pos (hcached e List.mem_cons_self)
    have hstill : ∀ x ∈ es, (s.cache.drop e.1).get? x.1 = some x.2 := by
      intro x hx
      have hne : e.1 ≠ x.1 := fun h => hnames.1 (h ▸ List.mem_map_of_mem hx)
      rw [Ordered.get?_drop_of_ne _ hne]
      exact hcached x (List.mem_cons_of_mem _ hx)
    rw [hwithout] at hrun
    obtain ⟨l', hrest⟩ := ih { s with
      cache := s.cache.drop e.1
      issued := s.issued.modify e.2 Handle.released
      log := l } hstill hnames.2
    refine ⟨l', ?_⟩
    change Step.outcome (dropHandle e.1 e.2 >>= fun _ => es.forM (fun e => dropHandle e.1 e.2)) s = _
    rw [Step.run_bind, hrun]
    refine hrest.trans ?_
    simp only [struck, Ordered.drop, List.filter_filter, releasing, List.map_cons, List.foldl_cons,
      List.mem_cons, Bool.decide_or, Bool.not_or, Bool.and_comm]

/-! ## The cache -/

theorem Registered.handle (hs : s.Registered) {name : String} (hid : (name, id) ∈ s.cache) :
    ∃ h, s.handle? id = some h ∧ h.layer = name ∧ s.pathOf? name = some h.path := by
  obtain ⟨h, hh, hl, hp, -⟩ := hs.cached name id (Ordered.get?_of_mem hs.keys hid)
  exact ⟨h, hh, hl, hp⟩

/-- No handle is cached twice. -/
theorem Registered.ids_nodup (hs : s.Registered) : (s.cache.map Prod.snd).Nodup := by
  refine List.Nodup.map_on ?_ (List.Nodup.of_map _ hs.keys)
  rintro ⟨name, id⟩ hx ⟨name', id'⟩ hy rfl
  obtain ⟨h, hh, hl, -⟩ := hs.handle hx
  obtain ⟨h', hh', hl', -⟩ := hs.handle hy
  cases hh.symm.trans hh'
  rw [← hl, ← hl']

/-- A handle is struck if its path is among those that are cleared and it is cached at all. -/
theorem mem_stale_iff {gone : Path → Bool} {h : Handle} (hh : s.handle? id = some h) :
    id ∈ (s.cache.filter (s.lies gone)).map Prod.snd ↔
      gone h.path = true ∧ ∃ name, (name, id) ∈ s.cache := by
  simp only [List.mem_map, List.mem_filter, lies, Prod.exists]
  constructor
  · rintro ⟨name, i, ⟨hid, hlies⟩, rfl⟩
    exact ⟨by simpa [hh] using hlies, name, hid⟩
  · rintro ⟨hg, name, hid⟩
    exact ⟨name, id, ⟨hid, by simp [hh, hg]⟩, rfl⟩

/-- Striking the entries on certain paths is what clears them. -/
theorem Registered.struck (hs : s.Registered) (gone : Path → Bool) (l : List LogRecord) :
    Swept gone s (s.struck (s.cache.filter (s.lies gone)) l) := by
  have hids : ((s.cache.filter (s.lies gone)).map Prod.snd).Nodup :=
    hs.ids_nodup.sublist (List.filter_sublist.map _)
  have hhandle : ∀ i, (s.struck (s.cache.filter (s.lies gone)) l).handle? i =
      if i ∈ (s.cache.filter (s.lies gone)).map Prod.snd then (s.handle? i).map Handle.released
      else s.handle? i := fun i => handle_releasing hids s i
  refine ⟨?_, ?_, ?_, ?_, rfl⟩
  · apply List.filter_congr
    intro e he
    have hname : e.1 ∈ (s.cache.filter (s.lies gone)).map Prod.fst ↔ s.lies gone e = true := by
      constructor
      · intro h
        obtain ⟨x, hx, hxe⟩ := List.mem_map.1 h
        obtain ⟨hx, hlies⟩ := List.mem_filter.1 hx
        rwa [List.inj_on_of_nodup_map hs.keys hx he hxe] at hlies
      · exact fun h => List.mem_map_of_mem (List.mem_filter.2 ⟨he, h⟩)
    simp [hname]
  · intro name i h hid hh hg
    rw [hhandle, if_pos ((mem_stale_iff hh).2 ⟨hg, name, hid⟩), hh]
    rfl
  · intro i h hh hg
    rw [hhandle, if_neg, hh]
    intro hi
    obtain ⟨hgone, name, hid⟩ := (mem_stale_iff hh).1 hi
    rw [hg name hid] at hgone
    cases hgone
  · intro i hh
    rw [hhandle, hh]
    simp

/-! ## Operations that close many handles -/

/-- The entries of a layer's file are those whose handle is on its path; the entry of the layer itself is
among them. -/
theorem Registered.stale_eq (hs : s.Registered) (hp : s.pathOf? m = some p) :
    s.cache.filter (fun e =>
        decide (e.1 = m) || ((s.handle? e.2).map (fun h => decide (h.path = p))).getD false) =
      s.cache.filter (s.lies (fun x => decide (x = p))) := by
  apply List.filter_congr
  rintro ⟨name, id⟩ he
  obtain ⟨h, hh, hl, hpath⟩ := hs.handle he
  by_cases hname : name = m
  · subst hname
    cases hp.symm.trans hpath
    simp [lies, hh]
  · simp [lies, hh, hname]

/-- Invalidating a layer clears the path of its file and touches nothing else. -/
theorem invalidate_swept (hs : s.Registered) (hp : s.pathOf? m = some p) :
    ∃ t, Step.outcome (invalidate m) s = (.ok (), t) ∧ Swept (fun x => decide (x = p)) s t ∧
      s.Rehandled t := by
  have hmem : ∀ e ∈ s.cache.filter (s.lies (fun x => decide (x = p))), s.cache.get? e.1 = some e.2 :=
    fun e he => Ordered.get?_of_mem hs.keys (List.mem_filter.1 he).1
  have hnames : ((s.cache.filter (s.lies (fun x => decide (x = p)))).map Prod.fst).Nodup :=
    hs.keys.sublist (List.filter_sublist.map _)
  obtain ⟨l, hrun⟩ := dropHandles_exact _ s hmem hnames
  refine ⟨_, ?_, hs.struck _ l, l, rfl⟩
  simp only [invalidate, Step.run_bind, pathFor_some hp, Step.run_get, hs.stale_eq hp]
  exact hrun

/-- Layers with one file are invalidated alike. -/
theorem invalidate_eq (hs : s.Registered) (h : s.pathOf? m = s.pathOf? m') :
    Step.outcome (invalidate m) s = Step.outcome (invalidate m') s := by
  cases hp : s.pathOf? m with
  | none =>
    rw [hp] at h
    simp only [invalidate, Step.run_bind, pathFor_none hp, pathFor_none h.symm]
  | some p =>
    rw [hp] at h
    simp only [invalidate, Step.run_bind, pathFor_some hp, pathFor_some h.symm, Step.run_get,
      hs.stale_eq hp, hs.stale_eq h.symm]

/-- Closing all handles clears every path and touches nothing else. -/
theorem releaseAll_swept (hs : s.Registered) :
    ∃ t, Step.outcome releaseAll s = (.ok (), t) ∧ t.cache = [] ∧ Swept (fun _ => true) s t ∧
      s.Rehandled t := by
  have hall : s.cache.filter (s.lies (fun _ => true)) = s.cache := by
    rw [List.filter_eq_self]
    rintro ⟨name, id⟩ he
    obtain ⟨h, hh, -⟩ := hs.handle he
    simp [lies, hh]
  obtain ⟨l, hrun⟩ := closeAll_exact (s.cache.map Prod.snd) { s with
    cache := []
    log := s.log ++ [⟨.info, .registry, "Closing " ++ toString (s.cache.map Prod.snd).length ++
      " SQLite tile store connection(s)"⟩] }
  have hnone : (s.struck s.cache l).cache = [] := by
    simp only [struck, List.filter_eq_nil_iff]
    intro e he
    simpa using ⟨e.2, he⟩
  have hswept := hs.struck (fun _ => true) l
  rw [hall] at hswept
  have hrelease : Step.outcome releaseAll s =
      (.ok (), { s with cache := [], issued := releasing s.issued (s.cache.map Prod.snd), log := l }) := by
    simp only [releaseAll, Step.run_bind, Step.run_get, Step.run_modify, Step.run_note]
    exact hrun
  exact ⟨_, hrelease, rfl, hswept.congr rfl rfl rfl hnone.symm rfl rfl, l, rfl⟩

theorem Registered.logged (hs : s.Registered) (l : List LogRecord) :
    ({ s with log := l } : Store).Registered := ⟨hs.keys, hs.cached⟩

/-- What is left to do when a file is gone has nothing to do with handles. -/
theorem afterwards_swept {gone : Path → Bool} {d : Disk} {e : Event} (h : Swept gone s t) :
    Swept gone s (Step.outcome (afterwards p e) { t with disk := d }).2 := by
  obtain ⟨d', -, ⟨-, hrun⟩ | ⟨-, f, hrun⟩⟩ := afterwards_sheds p e { t with disk := d }
  · rw [hrun]
    exact h.congr rfl rfl rfl rfl rfl rfl
  · rw [hrun]
    exact h.congr rfl rfl rfl rfl rfl rfl

/-- Removing a layer clears the path of its file, whether or not there is one and it can be removed. -/
theorem deleteLayer_swept (hs : s.Registered) (hp : s.pathOf? m = some p) :
    Swept (fun x => decide (x = p)) s (Step.outcome (perform (.deleteLayer m)) s).2 := by
  obtain ⟨l, hrun⟩ := deleteLayer_after hp
  obtain ⟨t, ht, hswept, l', hrest⟩ := invalidate_swept (hs.logged l) hp
  have hswept : Swept (fun x => decide (x = p)) s t := hswept.congr rfl rfl rfl rfl rfl rfl
  rw [hrun t ht (by rw [hrest])]
  cases s.disk.unlink p with
  | error f =>
    dsimp only
    split <;> exact hswept
  | ok d => exact afterwards_swept hswept

/-- Renaming a layer clears the paths of both files, unless it is given up before anything is changed. -/
theorem renameLayer_swept (hs : s.Registered) (hp : s.pathOf? m = some p) (hp' : s.pathOf? m' = some p') :
    Swept (fun x => decide (x = p) || decide (x = p')) s
        (Step.outcome (perform (.renameLayer m m')) s).2 ∨
      ∃ f l, Step.outcome (perform (.renameLayer m m')) s = (.error f, { s with log := l }) := by
  by_cases hne : p = p'
  · subst hne
    obtain ⟨l, hrun⟩ := renameLayer_same_after hp hp'
    obtain ⟨t, ht, hswept, -⟩ := invalidate_swept (hs.logged l) hp
    rw [hrun t ht]
    simp only [Bool.or_self]
    exact .inl (hswept.congr rfl rfl rfl rfl rfl rfl)
  · obtain ⟨l, hrun⟩ := renameLayer_after hp hp' hne
    obtain ⟨t, ht, hswept, l', hrest⟩ := invalidate_swept (hs.logged l) hp
    have hst : t.Registered := by
      obtain ⟨t', ht', hshifts, -⟩ := invalidate_shifts (s := { s with log := l }) hp
      cases ht.symm.trans ht'
      exact hshifts.registered (hs.logged l)
    have hpt : t.pathOf? m' = some p' := by
      rw [hrest]
      exact hp'
    obtain ⟨u, hu, hswept', l'', hrest'⟩ := invalidate_swept hst hpt
    have hboth : Swept (fun x => decide (x = p) || decide (x = p')) s u :=
      (hswept.trans hswept').congr rfl rfl rfl rfl rfl rfl
    rw [hrun t u ht hu (by rw [hrest', hrest])]
    cases s.disk.exists? p' with
    | error f => exact .inr ⟨_, l, rfl⟩
    | ok b =>
      cases b with
      | true => exact .inr ⟨_, l, rfl⟩
      | false =>
        left
        cases s.disk.exists? p with
        | error f => exact hboth
        | ok b =>
          cases b with
          | false => exact hboth.congr rfl rfl rfl rfl rfl rfl
          | true =>
            cases s.disk.move p p' with
            | error f => exact hboth
            | ok d => exact afterwards_swept hboth

/-- Handles are closed exactly where they have to be.  Invalidating a layer never fails.  It clears the path of
the layer's file, whatever names the handles there are cached under, and touches nothing else, so layers with
one file are invalidated alike.  When a layer was removed its path is clear, and when one was renamed both
paths are, while all other handles are kept.  Releasing all handles never fails either and leaves none in the
cache.  A handle that refuses to be closed is forgotten like the others. -/
theorem handles_swept (hs : s.Registered) :
    (∀ m, m ≠ "" → ∃ p t, s.pathOf? m = some p ∧ Step.outcome (invalidate m) s = (.ok (), t) ∧
      Swept (fun x => decide (x = p)) s t ∧ s.Rehandled t) ∧
    (∀ m m', s.pathOf? m = s.pathOf? m' →
      Step.outcome (invalidate m) s = Step.outcome (invalidate m') s) ∧
    (∀ m p, s.pathOf? m = some p →
      Swept (fun x => decide (x = p)) s (Step.outcome (perform (.deleteLayer m)) s).2) ∧
    (∀ m m' p p', s.pathOf? m = some p → s.pathOf? m' = some p' →
      Swept (fun x => decide (x = p) || decide (x = p')) s
          (Step.outcome (perform (.renameLayer m m')) s).2 ∨
        ∃ f l, Step.outcome (perform (.renameLayer m m')) s = (.error f, { s with log := l })) ∧
    ∃ t, Step.outcome releaseAll s = (.ok (), t) ∧ t.cache = [] ∧ Swept (fun _ => true) s t ∧
      s.Rehandled t := by
  refine ⟨fun m hm => ?_, fun m m' h => invalidate_eq hs h, fun m p hp => deleteLayer_swept hs hp,
    fun m m' p p' hp hp' => renameLayer_swept hs hp hp', releaseAll_swept hs⟩
  obtain ⟨p, hp⟩ := exists_pathOf (s := s) hm
  obtain ⟨t, hrun, hswept, hrest⟩ := invalidate_swept hs hp
  exact ⟨p, t, hp, hrun, hswept, hrest⟩

/-- A store in which a file has handles under two names, one of which refuses to be closed. -/
def aliasedStore : Store :=
  let handle (layer file : String) (isStubborn : Bool) : Handle :=
    ⟨layer, ⟨.here, ["layers", file]⟩, ["layers", file], 0, ⟨none, none⟩, [], false, false, isStubborn, .idle⟩
  { fresh ⟨⟨.here, ["layers"]⟩, ".sqlite", true⟩ (Disk.ofDirectory "layers") ⟨false, false⟩ with
    issued := [handle "a/b" "a_b.sqlite" true, handle "a_b" "a_b.sqlite" false, handle "c" "c.sqlite" false]
    cache := [("a/b", 0), ("c", 2), ("a_b", 1)] }

theorem aliasedStore_registered : aliasedStore.Registered where
  keys := by decide
  cached := by
    intro name id hid
    have hmem : (name, id) ∈ [("a/b", 0), ("c", 2), ("a_b", 1)] := Ordered.mem_of_get? hid
    simp only [List.mem_cons, Prod.mk.injEq, List.not_mem_nil, or_false] at hmem
    obtain ⟨rfl, rfl⟩ | ⟨rfl, rfl⟩ | ⟨rfl, rfl⟩ := hmem
    · exact ⟨_, rfl, rfl, by decide +kernel, by decide +kernel⟩
    · exact ⟨_, rfl, rfl, by decide +kernel, by decide +kernel⟩
    · exact ⟨_, rfl, rfl, by decide +kernel, by decide +kernel⟩

/-- Both handles on the file are forgotten, when a third name for it is invalidated.  The one that refuses is
left open and the other is closed. -/
theorem aliasedStore_swept : aliasedStore.Registered ∧
    ∃ t, Step.outcome (invalidate "a b") aliasedStore = (.ok (), t) ∧ t.cache = [("c", 2)] ∧
      (t.handle? 0).map Handle.isClosed = some false ∧ (t.handle? 1).map Handle.isClosed = some true ∧
      t.handle? 2 = aliasedStore.handle? 2 := by
  obtain ⟨p, t, hp, hrun, hswept, -⟩ := (handles_swept aliasedStore_registered).1 "a b" (by decide)
  have hpath : some p = some ⟨.here, ["layers", "a_b.sqlite"]⟩ := by
    rw [← hp]
    decide +kernel
  cases hpath
  refine ⟨aliasedStore_registered, t, hrun, ?_, ?_, ?_, ?_⟩
  · rw [hswept.cache]
    decide +kernel
  · rw [hswept.released "a/b" 0 _ (by simp [aliasedStore]) rfl (by decide +kernel)]
    rfl
  · rw [hswept.released "a_b" 1 _ (by simp [aliasedStore]) rfl (by decide +kernel)]
    rfl
  · rw [hswept.kept 2 _ rfl (fun _ _ => by decide +kernel)]
    rfl

end Store

end TileDepot
