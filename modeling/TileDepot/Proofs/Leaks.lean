import TileDepot.Proofs.Performing
import TileDepot.Store.Setup

/-!
# No handle is leaked

A store is used while everything around it happens: handles are acquired, invalidated and released,
operations are carried out, handles and their connections are closed by others, closings refuse, and
whatever there is on the disk is replaced by something else.  After any such run the cache is in order:
no name is cached twice and no handle is cached for two names, and a cached handle was issued for its name,
at the path of its name.

Every handle that was ever issued is cached or closed, except one whose closing was refused, since such a
handle is forgotten and stays open.  As long as no closing was refused, there is at most one open handle
for a name.

* `Change.leakless` says what a change of the store does to the handles that are not cached.
* `undergo_accounted` is the statement about runs.
-/

namespace TileDepot.Store

variable {s t : Store} {m : String} {id : HandleId} {h : Handle} {P : HandleId → Prop}

/-! ## Handles that refuse to be closed -/

/-- A handle is set to refuse its next closing. -/
def Stubborn (s : Store) (id : HandleId) : Prop := ∃ h, s.handle? id = some h ∧ h.isStubborn = true

/-- Closing a handle fails exactly if it is set to refuse, and it is not set so any more afterwards. -/
theorem close_refused_iff (s : Store) (id : HandleId) :
    (∃ f, (Step.outcome (close id) s).1 = .error f) ↔
      s.Stubborn id ∧ ¬ (Step.outcome (close id) s).2.Stubborn id := by
  cases hh : s.handle? id with
  | none =>
    have hrun : Step.outcome (close id) s = (.ok (), s) := by
      simp only [close, Step.run_bind, Step.run_get, hh, Step.run_pure]
    rw [hrun]
    constructor
    · rintro ⟨f, hf⟩
      cases hf
    · rintro ⟨⟨h, hh', -⟩, -⟩
      rw [hh] at hh'
      cases hh'
  | some h =>
    by_cases hst : h.isStubborn = true
    · have hrun : Step.outcome (close id) s =
          (.error (.db .diskFailure), s.setHandle id { h with isStubborn := false }) := by
        simp only [close, Step.run_bind, Step.run_get, hh, hst, if_true, changeHandle_run hh,
          Step.run_throw]
      rw [hrun]
      refine ⟨fun _ => ⟨⟨h, hh, hst⟩, ?_⟩, fun _ => ⟨_, rfl⟩⟩
      rintro ⟨k, hk, hks⟩
      rw [handle_setHandle hh, Option.some.injEq] at hk
      rw [← hk] at hks
      cases hks
    · have hrun : Step.outcome (close id) s = (.ok (), s.setHandle id { h with isClosed := true }) := by
        simp only [close, Step.run_bind, Step.run_get, hh, hst, Bool.false_eq_true, if_false,
          changeHandle_run hh]
      rw [hrun]
      constructor
      · rintro ⟨f, hf⟩
        cases hf
      · rintro ⟨⟨h', hh', hst'⟩, -⟩
        rw [hh, Option.some.injEq] at hh'
        exact absurd (hh' ▸ hst') hst

/-! ## What becomes of handles -/

/-- What a change of a store does to its handles and its cache: nothing that matters here, or a handle is
released and may be forgotten, or a new one is cached for a layer that has none. -/
inductive Turnover (s t : Store) : Prop
  | kept : t.cache = s.cache → (∀ i k, t.handle? i = some k → ∃ h, s.handle? i = some h ∧
      k.layer = h.layer ∧ k.isClosed = h.isClosed ∧ k.isStubborn = h.isStubborn) → Turnover s t
  | released (id : HandleId) : (t.cache = s.cache ∨ ∃ name, t.cache = s.without name id) →
      (∀ i, t.handle? i = if id = i then (s.handle? i).map Handle.released else s.handle? i) →
      Turnover s t
  | enlisted (h : Handle) : s.cache.get? h.layer = none →
      t.cache = s.cache.put h.layer s.issued.length → t.issued = s.issued ++ [h] →
      h.isStubborn = false → Turnover s t

theorem Turnover.same (hc : t.cache = s.cache) (hi : t.issued = s.issued) : Turnover s t := by
  refine .kept hc fun i k hk => ⟨k, ?_, rfl, rfl, rfl⟩
  rw [handle?, ← hi]
  exact hk

theorem Turnover.setHandle {k : Handle} (hc : t.cache = s.cache) (hi : t.issued = s.issued.modify id (fun _ => k))
    (hh : s.handle? id = some h) (hl : k.layer = h.layer) (hclosed : k.isClosed = h.isClosed)
    (hstub : k.isStubborn = h.isStubborn) : Turnover s t := by
  refine .kept hc fun i k' hk' => ?_
  have hmod := handle_modify s id (fun _ => k) i
  have hti : t.handle? i = ({ s with issued := s.issued.modify id (fun _ => k) } : Store).handle? i := by
    rw [handle?, hi]
    rfl
  rw [hti, hmod] at hk'
  split at hk'
  · rename_i he
    subst he
    rw [hh] at hk'
    cases hk'
    exact ⟨h, hh, hl, hclosed, hstub⟩
  · exact ⟨k', hk', rfl, rfl, rfl⟩

theorem Shift.turnover (hst : Shift s t) : Turnover s t := by
  cases hst with
  | logged | counted | tidied | blanked => exact .same rfl rfl
  | learned hh hk _ =>
    rw [Kin] at hk
    exact .setHandle rfl rfl hh (by rw [hk]) (by rw [hk]) (by rw [hk])
  | dropped name id l => exact .released id (.inr ⟨name, rfl⟩) (handle_modify s id Handle.released)
  | closed id => exact .released id (.inl rfl) (handle_modify s id Handle.released)
  | founded hc | grafted hc | opened hc => exact .enlisted _ hc rfl rfl rfl

theorem Change.turnover (hst : Change s t) : Turnover s t := by
  cases hst with
  | shift h => exact h.turnover
  | announced | removed | renamed => exact .same rfl rfl
  | written hh => exact .setHandle rfl rfl hh rfl rfl rfl

theorem released_stubborn (h : Handle) : h.released.isStubborn = false := by
  rw [Handle.released]
  split
  · rfl
  · rename_i hs
    simpa using hs

/-- A change of one handle that does not set it to refuse makes none refuse. -/
theorem stubborn_modify {f : Handle → Handle} (hf : ∀ h, (f h).isStubborn = true → h.isStubborn = true)
    {i : HandleId} (hi : ({ s with issued := s.issued.modify id f } : Store).Stubborn i) :
    s.Stubborn i := by
  obtain ⟨k, hk, hks⟩ := hi
  rw [handle_modify] at hk
  split at hk
  · obtain ⟨h, hh, rfl⟩ := Option.map_eq_some_iff.1 hk
    exact ⟨h, hh, hf h hks⟩
  · exact ⟨k, hk, hks⟩

/-- No handle becomes stubborn through what a store does itself. -/
theorem Turnover.stubborn (hst : Turnover s t) (ht : t.Stubborn id) : s.Stubborn id := by
  obtain ⟨k, hk, hks⟩ := ht
  cases hst with
  | kept _ hh =>
    obtain ⟨h, hh', -, -, hs⟩ := hh id k hk
    exact ⟨h, hh', hs ▸ hks⟩
  | released i _ hh =>
    rw [hh] at hk
    split at hk
    · obtain ⟨h, -, rfl⟩ := Option.map_eq_some_iff.1 hk
      rw [released_stubborn] at hks
      cases hks
    · exact ⟨k, hk, hks⟩
  | enlisted h _ _ hi hs =>
    rcases handle_of_issued hi hk with hold | ⟨-, rfl⟩
    · exact ⟨k, hold, hks⟩
    · rw [hs] at hks
      cases hks

/-- Every handle is cached for its layer or closed, but for some. -/
def Leakless (P : HandleId → Prop) (s : Store) : Prop :=
  ∀ id h, s.handle? id = some h → h.isClosed = true ∨ s.cache.get? h.layer = some id ∨ P id

/-- The closing of a handle was refused between two states of a store. -/
def GaveUp (s t : Store) (id : HandleId) : Prop := s.Stubborn id ∧ ¬ t.Stubborn id

theorem get?_without_of_ne {name n : String} {i : HandleId} (hne : i ≠ id)
    (h : s.cache.get? n = some i) : (s.without name id).get? n = some i := by
  rw [without]
  split
  · rename_i hname
    have hn : name ≠ n := by
      rintro rfl
      rw [hname, Option.some.injEq] at h
      exact hne h.symm
    rw [Ordered.get?_drop_of_ne _ hn, h]
  · exact h

/-- A change leaks no handle, unless the handle refuses to be closed. -/
theorem Turnover.leakless (hst : Turnover s t) (hs : s.Leakless P) :
    t.Leakless (fun id => P id ∨ GaveUp s t id) := by
  intro i k hk
  cases hst with
  | kept hc hh =>
    obtain ⟨h, hh', hl, hclosed, -⟩ := hh i k hk
    rw [hclosed, hl, hc]
    exact (hs i h hh').imp_right (Or.imp_right .inl)
  | released id hc hh =>
    have hk' := hk
    rw [hh] at hk
    split at hk
    · rename_i he
      subst he
      obtain ⟨h, hold, rfl⟩ := Option.map_eq_some_iff.1 hk
      by_cases hstub : h.isStubborn = true
      · refine .inr (.inr (.inr ⟨⟨h, hold, hstub⟩, ?_⟩))
        rintro ⟨k, hk, hks⟩
        rw [hk', Option.some.injEq] at hk
        rw [← hk, released_stubborn] at hks
        cases hks
      · rw [Handle.released, if_neg hstub]
        exact .inl rfl
    · rename_i hne
      rcases hs i k hk with hclosed | hcached | hP
      · exact .inl hclosed
      · refine .inr (.inl ?_)
        rcases hc with hc | ⟨name, hc⟩
        · rw [hc]
          exact hcached
        · rw [hc]
          exact get?_without_of_ne (fun e => hne e.symm) hcached
      · exact .inr (.inr (.inl hP))
  | enlisted h hnone hc hi _ =>
    rcases handle_of_issued hi hk with hold | ⟨rfl, rfl⟩
    · rcases hs i k hold with hclosed | hcached | hP
      · exact .inl hclosed
      · have hne : h.layer ≠ k.layer := by
          intro e
          rw [e, hcached] at hnone
          cases hnone
        refine .inr (.inl ?_)
        rw [hc, Ordered.get?_put_of_ne _ _ hne]
        exact hcached
      · exact .inr (.inr (.inl hP))
    · refine .inr (.inl ?_)
      rw [hc, Ordered.get?_put_self]

theorem Leakless.mono {Q : HandleId → Prop} (hs : s.Leakless P) (hPQ : ∀ id, P id → Q id) : s.Leakless Q :=
  fun id h hh => (hs id h hh).imp_right (Or.imp_right (hPQ id))

/-- What a sequence of changes leaves open and uncached is what refused to be closed. -/
theorem Changes.leakless (hst : Changes s t) (hs : s.Leakless P) :
    (∀ id, t.Stubborn id → s.Stubborn id) ∧ t.Leakless (fun id => P id ∨ GaveUp s t id) := by
  induction hst with
  | refl => exact ⟨fun _ h => h, hs.mono fun _ h => .inl h⟩
  | @tail u v _ hstep ih =>
    have hback : ∀ id, v.Stubborn id → u.Stubborn id := fun _ => hstep.turnover.stubborn
    refine ⟨fun id h => ih.1 id (hback id h), (hstep.turnover.leakless ih.2).mono fun id h => ?_⟩
    rcases h with (hP | ⟨hsid, huid⟩) | ⟨huid, hvid⟩
    · exact .inl hP
    · exact .inr ⟨hsid, fun hv => huid (hback id hv)⟩
    · exact .inr ⟨ih.1 id huid, hvid⟩

/-! ## Runs -/

/-- What can happen to a store and around it. -/
inductive Occurrence where
  | ask (o : Operation)
  | acquire (layer : String)
  | invalidate (layer : String)
  | releaseAll
  | closeHandle (id : HandleId)
  | severHandle (id : HandleId)
  | failClosing (id : HandleId)
  | staleAcquire (n : Nat)
  | damage (ddl : Ddl)
  | outside (d : Disk)

/-- The store after an occurrence.  What others do outside may replace the disk by any other. -/
def Occurrence.apply (s : Store) : Occurrence → Store
  | .ask o => (Step.outcome (perform o) s).2
  | .acquire layer => (Step.outcome (Store.acquire layer) s).2
  | .invalidate layer => (Step.outcome (Store.invalidate layer) s).2
  | .releaseAll => (Step.outcome Store.releaseAll s).2
  | .closeHandle id => (Step.outcome (close id) s).2
  | .severHandle id => { s with issued := s.issued.modify id (fun h => { h with isSevered := true }) }
  | .failClosing id => { s with issued := s.issued.modify id (fun h => { h with isStubborn := true }) }
  | .staleAcquire n => { s with staleAcquires := n }
  | .damage ddl => { s with ddl := ddl }
  | .outside d => { s with disk := d }

/-- The store after a run. -/
def undergo : List Occurrence → Store → Store
  | [], s => s
  | o :: os, s => undergo os (o.apply s)

/-- The closing of a handle was refused in a run. -/
def Refused : List Occurrence → Store → HandleId → Prop
  | [], _, _ => False
  | o :: os, s, id => GaveUp s (o.apply s) id ∨ Refused os (o.apply s) id

/-- A store whose cache is in order and at rest, and in which every handle is cached or closed, but for
some. -/
structure Orderly (P : HandleId → Prop) (s : Store) : Prop where
  registered : s.Registered
  resting : s.Resting
  leakless : s.Leakless P

theorem Orderly.fresh (c : StoreConfig) (d : Disk) (ddl : Ddl) :
    (Store.fresh c d ddl).Orderly (fun _ => False) where
  registered := by
    refine ⟨List.nodup_nil, fun name id hid => ?_⟩
    cases hid
  resting := by
    intro name id h hid
    cases hid
  leakless := by
    intro id h hh
    cases hh

theorem Orderly.changes (hs : s.Orderly P) (hst : Changes s t) :
    t.Orderly (fun id => P id ∨ GaveUp s t id) :=
  ⟨hst.registered hs.registered, hst.resting hs.registered hs.resting, (hst.leakless hs.leakless).2⟩

/-- What others do to a handle without closing it, or to what is around the store. -/
theorem Orderly.modify {f : Handle → Handle} (hs : s.Orderly P) (hakin : ∀ h : Handle, h.Akin (f h))
    (hidle : ∀ h, (f h).transaction = h.transaction) (hclosed : ∀ h, (f h).isClosed = h.isClosed) :
    ({ s with issued := s.issued.modify id f } : Store).Orderly P where
  registered := hs.registered.modify fun h _ => hakin h
  resting := hs.resting.lessened (fun _ _ e => e) (resting_modify fun h _ hx => (hidle h).trans hx)
  leakless := by
    intro i k hk
    rw [handle_modify] at hk
    split at hk
    · obtain ⟨h, hh, rfl⟩ := Option.map_eq_some_iff.1 hk
      rw [hclosed, (hakin h).layer]
      exact hs.leakless i h hh
    · exact hs.leakless i k hk

theorem Orderly.mono {Q : HandleId → Prop} (hs : s.Orderly P) (hPQ : ∀ id, P id → Q id) : s.Orderly Q :=
  ⟨hs.registered, hs.resting, hs.leakless.mono hPQ⟩

/-- What the store does itself. -/
def Occurrence.IsWork : Occurrence → Prop
  | .ask _ | .acquire _ | .invalidate _ | .releaseAll | .closeHandle _ => True
  | .severHandle _ | .failClosing _ | .staleAcquire _ | .damage _ | .outside _ => False

theorem Occurrence.changes (o : Occurrence) (ho : o.IsWork) (hs : s.Orderly P) :
    Changes s (o.apply s) := by
  cases o with
  | ask o => exact perform_changes hs.registered hs.resting o
  | acquire layer =>
    have hgrant := acquire_granted hs.registered layer
    show Changes s (Step.outcome (Store.acquire layer) s).2
    generalize Step.outcome (Store.acquire layer) s = r at hgrant
    obtain ⟨f | id, t⟩ := r <;> exact Shifts.changes hgrant.1
  | invalidate layer =>
    show Changes s (Step.outcome (Store.invalidate layer) s).2
    cases hp : s.pathOf? layer with
    | none =>
      simp only [Store.invalidate, Step.run_bind, pathFor_none hp]
      exact .refl
    | some p =>
      obtain ⟨t, ht, hst, -⟩ := invalidate_shifts hp
      rw [ht]
      exact hst.changes
  | releaseAll =>
    obtain ⟨t, ht, hst, -⟩ := releaseAll_shifts hs.registered
    show Changes s (Step.outcome Store.releaseAll s).2
    rw [ht]
    exact hst.changes
  | closeHandle id =>
    obtain ⟨r, hclose, -⟩ := close_attempt id s
    show Changes s (Step.outcome (close id) s).2
    rw [hclose]
    exact (Shift.closed s id).shifts.changes
  | severHandle id => exact ho.elim
  | failClosing id => exact ho.elim
  | staleAcquire n => exact ho.elim
  | damage ddl => exact ho.elim
  | outside d => exact ho.elim

theorem Occurrence.orderly (o : Occurrence) (hs : s.Orderly P) :
    (o.apply s).Orderly (fun id => P id ∨ GaveUp s (o.apply s) id) := by
  have haround : ∀ t : Store, t.config = s.config → t.cache = s.cache → t.issued = s.issued →
      t.Orderly P := by
    intro t hc hcache hi
    have hsame : ∀ id, t.handle? id = s.handle? id := fun id => by rw [handle?, handle?, hi]
    refine ⟨⟨hcache ▸ hs.registered.keys, fun name id hid => ?_⟩, fun name id h hid hh => ?_,
      fun id h hh => ?_⟩
    · rw [hcache] at hid
      rw [hsame, pathOf?, hc]
      exact hs.registered.cached name id hid
    · exact hs.resting name id h (hcache ▸ hid) (hsame id ▸ hh)
    · rw [hcache]
      exact hs.leakless id h (hsame id ▸ hh)
  cases o with
  | ask | acquire | invalidate | releaseAll | closeHandle =>
    exact hs.changes (Occurrence.changes _ trivial hs)
  | severHandle id =>
    have hs' : ({ s with issued := s.issued.modify id (fun h => { h with isSevered := true }) } :
        Store).Orderly P := hs.modify (fun h => ⟨rfl, rfl, rfl, rfl⟩) (fun _ => rfl) (fun _ => rfl)
    exact hs'.mono fun _ h => .inl h
  | failClosing id =>
    have hs' : ({ s with issued := s.issued.modify id (fun h => { h with isStubborn := true }) } :
        Store).Orderly P := hs.modify (fun h => ⟨rfl, rfl, rfl, rfl⟩) (fun _ => rfl) (fun _ => rfl)
    exact hs'.mono fun _ h => .inl h
  | staleAcquire n => exact (haround { s with staleAcquires := n } rfl rfl rfl).mono fun _ h => .inl h
  | damage ddl => exact (haround { s with ddl := ddl } rfl rfl rfl).mono fun _ h => .inl h
  | outside d => exact (haround { s with disk := d } rfl rfl rfl).mono fun _ h => .inl h

theorem undergo_orderly (os : List Occurrence) (hs : s.Orderly P) :
    (undergo os s).Orderly (fun id => P id ∨ Refused os s id) := by
  induction os generalizing s P with
  | nil => exact hs.mono fun _ h => .inl h
  | cons o os ih =>
    refine (ih (o.orderly hs)).mono fun id h => ?_
    rcases h with (hP | hgave) | hrefused
    · exact .inl hP
    · exact .inr (.inl hgave)
    · exact .inr (.inr hrefused)

/-- As long as nobody sets a handle to refuse, no closing is refused. -/
theorem not_refused_of_calm {os : List Occurrence} (hcalm : ∀ id, .failClosing id ∉ os)
    (hs : s.Orderly P) (hfree : ∀ id, ¬ s.Stubborn id) (id : HandleId) : ¬ Refused os s id := by
  induction os generalizing s P with
  | nil => exact fun h => h
  | cons o os ih =>
    rintro (⟨hstub, -⟩ | hrefused)
    · exact hfree id hstub
    · refine ih (fun i hi => hcalm i (List.mem_cons_of_mem _ hi)) (o.orderly hs) (fun i hi => ?_) hrefused
      apply hfree i
      have hwork : o.IsWork → s.Stubborn i := fun ho => ((o.changes ho hs).leakless hs.leakless).1 i hi
      cases o with
      | ask | acquire | invalidate | releaseAll | closeHandle => exact hwork trivial
      | severHandle j =>
        exact stubborn_modify (f := fun h => { h with isSevered := true }) (fun _ hh => hh) hi
      | failClosing j => exact absurd List.mem_cons_self (hcalm j)
      | staleAcquire | damage | outside => exact hi

/-- After any run no name is cached twice, a cached handle was issued for its name at the path of the name,
and no handle is cached for two names.  A handle that is not cached is closed unless its closing was
refused, and as long as no closing was, there is at most one open handle for a name. -/
theorem undergo_accounted (c : StoreConfig) (d : Disk) (ddl : Ddl) (os : List Occurrence) :
    let s := undergo os (fresh c d ddl)
    s.cache.keys.Nodup ∧
      (∀ name id, s.cache.get? name = some id →
        ∃ h, s.handle? id = some h ∧ h.layer = name ∧ s.pathOf? name = some h.path) ∧
      (∀ name name' id, s.cache.get? name = some id → s.cache.get? name' = some id → name = name') ∧
      (∀ id h, s.handle? id = some h → (∀ name, s.cache.get? name ≠ some id) →
        ¬ Refused os (fresh c d ddl) id → h.isClosed = true) ∧
      ((∀ id, ¬ Refused os (fresh c d ddl) id) → ∀ id id' h h', s.handle? id = some h →
        s.handle? id' = some h' → h.layer = h'.layer → h.isClosed = false → h'.isClosed = false →
        id = id') := by
  intro s
  have hs := undergo_orderly os (Orderly.fresh c d ddl)
  have hcached : ∀ name id, s.cache.get? name = some id →
      ∃ h, s.handle? id = some h ∧ h.layer = name ∧ s.pathOf? name = some h.path := by
    intro name id hid
    obtain ⟨h, hh, hl, hp, -⟩ := hs.registered.cached name id hid
    exact ⟨h, hh, hl, hp⟩
  -- A handle that is open and whose closing was not refused is the one that is cached for its layer.
  have hopen : ∀ id h, s.handle? id = some h → ¬ Refused os (fresh c d ddl) id → h.isClosed = false →
      s.cache.get? h.layer = some id := by
    intro id h hh hnot hclosed
    rcases hs.leakless id h hh with hc | hc | hP | hR
    · rw [hclosed] at hc
      cases hc
    · exact hc
    · exact hP.elim
    · exact absurd hR hnot
  refine ⟨hs.registered.keys, hcached, ?_, ?_, ?_⟩
  · intro name name' id hid hid'
    obtain ⟨h, hh, hl, -⟩ := hcached name id hid
    obtain ⟨h', hh', hl', -⟩ := hcached name' id hid'
    rw [hh, Option.some.injEq] at hh'
    rw [← hl, ← hl', hh']
  · intro id h hh hnone hnot
    cases hclosed : h.isClosed with
    | true => rfl
    | false => exact absurd (hopen id h hh hnot hclosed) (hnone h.layer)
  · intro hnot id id' h h' hh hh' hl hclosed hclosed'
    have hid := hopen id h hh (hnot id) hclosed
    have hid' := hopen id' h' hh' (hnot id') hclosed'
    rw [hl, hid', Option.some.injEq] at hid
    exact hid.symm

/-- A store over an empty directory. -/
def upsetStore : Store :=
  fresh ⟨⟨.here, ["layers"]⟩, ".sqlite", true⟩ (Disk.ofDirectory "layers") ⟨false, false⟩

/-- A run in which everything on the disk is replaced between two uses of a layer. -/
def upsetRun : List Occurrence :=
  [.acquire "a b", .ask (.deleteGridset "a_b" "g"), .outside (Disk.ofDirectory "layers"), .acquire "a b",
    .severHandle 1, .ask (.getMetadata "a_b" "k"), .staleAcquire 1, .ask (.renameLayer "a b" "c"),
    .invalidate "a_b", .acquire "a b"]

theorem upsetRun_accounted :
    (∀ id, ¬ Refused upsetRun upsetStore id) ∧
      ∀ id h, (undergo upsetRun upsetStore).handle? id = some h →
        (∀ name, (undergo upsetRun upsetStore).cache.get? name ≠ some id) → h.isClosed = true := by
  have hcalm : ∀ id, .failClosing id ∉ upsetRun := fun id => by simp [upsetRun]
  have hfree : ∀ id, ¬ upsetStore.Stubborn id := by
    rintro id ⟨h, hh, -⟩
    cases hh
  have hnot := not_refused_of_calm hcalm (Orderly.fresh _ _ _) hfree
  obtain ⟨-, -, -, hclosed, -⟩ := undergo_accounted _ (Disk.ofDirectory "layers") ⟨false, false⟩ upsetRun
  exact ⟨hnot, fun id h hh hnone => hclosed id h hh hnone (hnot id)⟩

end TileDepot.Store
