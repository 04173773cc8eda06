import TileDepot.Proofs.Containment
import TileDepot.Proofs.Leaks

/-!
# Lending a handle

A session works on a handle that is not closed.  Others may close the handle that it acquired before it gets
to use it; then it acquires again, and the closed handle is replaced.  So a session ends after one
acquisition more than there were such closings, or with the first acquisition that fails, and what is done
with the handle is done once.

`Lends` is the loop of a session without a bound, in which others may do what they like after a handle was
acquired and before it was found closed, as long as they leave the cache in order and open no closed handle
again, which is what `Tolerates` asks.

* `obtain_open` says that what is obtained is open, and `acquire_fresh` that what is acquired was not closed
  before, and is closed afterwards exactly if a closing was pending.
* `Lends.sound` says what is lent in the end, whatever others did.
* `acquireOpen_lends` says that acquiring ends, and that no bound on the number of acquisitions matters that is
  not less than the number of pending closings.
* `undergo_tolerates` says that everything that can happen to a store is tolerated.
-/

namespace TileDepot.Store

variable {α : Type} {s t u : Store} {m : String} {p : Path} {id i : HandleId} {h : Handle}
  {P : HandleId → Prop}

/-! ## Closed handles stay closed -/

/-- Handles are kept, and the closed ones stay closed. -/
def Abides (s t : Store) : Prop :=
  ∀ id h, s.handle? id = some h → ∃ k, t.handle? id = some k ∧ (h.isClosed = true → k.isClosed = true)

theorem Abides.refl (s : Store) : s.Abides s := fun _ h hh => ⟨h, hh, fun hc => hc⟩

theorem Abides.trans (a : s.Abides t) (b : t.Abides u) : s.Abides u := by
  intro id h hh
  obtain ⟨k, hk, hc⟩ := a id h hh
  obtain ⟨l, hl, hc'⟩ := b id k hk
  exact ⟨l, hl, fun h => hc' (hc h)⟩

theorem Abides.same (hi : t.issued = s.issued) : s.Abides t :=
  fun id h hh => ⟨h, by rw [handle?, hi]; exact hh, fun hc => hc⟩

theorem Abides.modify {f : Handle → Handle}
    (hf : ∀ h, s.handle? id = some h → h.isClosed = true → (f h).isClosed = true)
    (hi : t.issued = s.issued.modify id f) : s.Abides t := by
  intro i h hh
  have hmod := handle_modify s id f i
  have ht : t.handle? i = ({ s with issued := s.issued.modify id f } : Store).handle? i := by
    rw [handle?, hi]
    rfl
  rw [ht, hmod, hh]
  split
  · rename_i he
    exact ⟨f h, rfl, hf h (he ▸ hh)⟩
  · exact ⟨h, rfl, fun hc => hc⟩

theorem Abides.setHandle {k : Handle} (hh : s.handle? id = some h)
    (hc : h.isClosed = true → k.isClosed = true) (hi : t.issued = s.issued.modify id (fun _ => k)) :
    s.Abides t := by
  refine .modify (fun h' hh' => ?_) hi
  rw [hh, Option.some.injEq] at hh'
  exact hh' ▸ hc

theorem Abides.append (hi : t.issued = s.issued ++ [h]) : s.Abides t := by
  intro i k hk
  refine ⟨k, ?_, fun hc => hc⟩
  have ht : t.handle? i = ({ s with issued := s.issued ++ [h] } : Store).handle? i := by
    rw [handle?, hi]
    rfl
  rw [ht]
  exact handle_append h hk

theorem released_closed (hc : h.isClosed = true) : h.released.isClosed = true := by
  rw [Handle.released]
  split
  · exact hc
  · rfl

theorem Shift.abides (hst : Shift s t) : s.Abides t := by
  cases hst with
  | logged | counted | tidied | blanked => exact .same rfl
  | learned hh hk _ =>
    rw [Kin] at hk
    exact .setHandle hh (fun hc => by rw [hk]; exact hc) rfl
  | dropped | closed => exact .modify (fun _ _ => released_closed) rfl
  | founded | grafted | opened => exact .append rfl

theorem Shifts.abides (hst : Shifts s t) : s.Abides t := by
  induction hst with
  | refl => exact .refl s
  | tail _ hstep ih => exact ih.trans hstep.abides

theorem Change.abides (hst : Change s t) : s.Abides t := by
  cases hst with
  | shift h => exact h.abides
  | announced | removed | renamed => exact .same rfl
  | @written id h after hh =>
    exact .setHandle (k := { h with transaction := .idle, schema := after.schema }) hh (fun hc => hc) rfl

theorem Changes.abides (hst : Changes s t) : s.Abides t := by
  induction hst with
  | refl => exact .refl s
  | tail _ hstep ih => exact ih.trans hstep.abides

/-! ## What is obtained is open -/

/-- What was opened or made is cached, and it is open. -/
theorem renew_open (hp : s.pathOf? m = some p) (h : Step.outcome (renew m) s = (.ok id, t)) :
    t.staleAcquires = s.staleAcquires ∧ ∃ k, t.handle? id = some k ∧ k.isClosed = false := by
  have hnew : ∀ (d : Disk) (l : List LogRecord) (n : Nat) (schema : Schema),
      (.ok id, t) = cachedAs m (.ok s.issued.length, { s with
        disk := d
        issued := s.issued ++ [.fresh m p n schema]
        log := l }) →
      t.staleAcquires = s.staleAcquires ∧ ∃ k, t.handle? id = some k ∧ k.isClosed = false := by
    intro d l n schema h
    cases h
    exact ⟨rfl, _, handle_issued s _, rfl⟩
  rcases renew_cases hp with ⟨-, hrun⟩ | ⟨-, r, hrun, hr⟩
  · rw [hrun] at h
    cases h
  · rw [hrun] at h
    rcases hr with ⟨-, hopening⟩ | ⟨-, hmaking⟩
    · cases hopening with
      | refused | unreadable | lacking => cases h
      | opened => exact hnew _ _ _ _ h.symm
    · cases hmaking with
      | refused | failed => cases h
      | made => exact hnew _ _ _ _ h.symm

/-- What is obtained is open, and pending closings stay pending. -/
theorem obtain_open (hs : s.Registered) (h : Step.outcome (obtain m) s = (.ok id, t)) :
    t.staleAcquires = s.staleAcquires ∧ ∃ k, t.handle? id = some k ∧ k.isClosed = false := by
  cases hid : s.cache.get? m with
  | none =>
    rcases obtain_missing hid with ⟨-, hrun⟩ | ⟨p, hp, hrun⟩
    · rw [hrun] at h
      cases h
    · exact renew_open hp (hrun ▸ h)
  | some id' =>
    obtain ⟨k, hk, -, hp, -⟩ := hs.cached m id' hid
    rcases obtain_cases hid hk hp with ⟨hfit, hrun⟩ | ⟨-, -, l, hrun⟩ | ⟨-, -, hrun⟩
    · rw [hrun] at h
      cases h
      exact ⟨rfl, k, hk, hfit.unclosed⟩
    · exact renew_open (s := { s with
        cache := s.without m id'
        issued := s.issued.modify id' Handle.released
        log := l }) hp (hrun ▸ h)
    · rw [hrun] at h
      cases h

/-- What is acquired was not closed before.  It is cached for the layer, and it is closed exactly if a closing
by others was pending, of which there is then one less. -/
structure Acquired (m : String) (s : Store) (id : HandleId) (t : Store) : Prop where
  shifts : Shifts s t
  cached : t.cache.get? m = some id
  pending : t.staleAcquires = s.staleAcquires - 1
  fresh : ∀ h, s.handle? id = some h → h.isClosed = false
  handle : ∃ k, t.handle? id = some k ∧ k.isClosed = decide (0 < s.staleAcquires)

theorem acquire_fresh (hs : s.Registered) (h : Step.outcome (acquire m) s = (.ok id, t)) :
    Acquired m s id t := by
  have hgrant := acquire_granted hs m
  rw [h] at hgrant
  obtain ⟨hst, hid, -⟩ := hgrant
  let s' : Store := { s with staleAcquires := s.staleAcquires - 1 }
  have hs' : s'.Registered := ⟨hs.keys, hs.cached⟩
  rw [acquire_obtain, Step.run_bind] at h
  have hobtain := obtain_granted hs' m
  rcases hrun : Step.outcome (obtain m) s' with ⟨f | id', v⟩
  · rw [hrun] at h
    cases h
  rw [hrun] at h hobtain
  obtain ⟨hpending, k, hk, hopen⟩ := obtain_open hs' hrun
  -- A handle that is open when it is obtained was not closed before.
  have hfresh : ∀ h, s.handle? id' = some h → h.isClosed = false := by
    intro h hh
    obtain ⟨k', hk', hc⟩ := hobtain.1.abides id' h hh
    cases hk.symm.trans hk'
    rw [← Bool.not_eq_true]
    intro hclosed
    rw [hc hclosed] at hopen
    cases hopen
  by_cases hstale : 0 < s.staleAcquires
  · obtain ⟨r, hclose, hr⟩ := close_attempt id' v
    simp only [if_pos hstale, Step.run_bind, hclose] at h
    rcases hr with rfl | ⟨rfl, -⟩
    · cases h
      have hyields : ¬ k.isStubborn = true := by
        intro hstub
        have hnot : ¬ ({ v with issued := v.issued.modify id Handle.released } : Store).Stubborn id := by
          rintro ⟨l, hl, hls⟩
          rw [handle_modify, if_pos rfl, hk, Option.map_some, Option.some.injEq] at hl
          rw [← hl, released_stubborn] at hls
          cases hls
        obtain ⟨f, hf⟩ := (close_refused_iff v id).2 ⟨⟨k, hk, hstub⟩, by rw [hclose]; exact hnot⟩
        rw [hclose] at hf
        cases hf
      refine ⟨hst, hid, hpending, hfresh, k.released, ?_, ?_⟩
      · rw [handle_modify, if_pos rfl, hk, Option.map_some]
      · rw [Handle.released, if_neg hyields, decide_eq_true hstale]
    · cases h
  · simp only [if_neg hstale, Step.run_pure] at h
    cases h
    exact ⟨hst, hid, hpending, hfresh, k, hk, by rw [hopen, decide_eq_false hstale]⟩

/-! ## The loop -/

/-- What others may do while a session has no handle yet: they leave the cache in order and the configuration
as it is, and open no closed handle again. -/
structure Tolerates (s t : Store) : Prop where
  registered : s.Registered → t.Registered
  config : t.config = s.config
  abides : s.Abides t

theorem Tolerates.refl (s : Store) : s.Tolerates s := ⟨fun hs => hs, rfl, .refl s⟩

/-- The loop of a session.  It ends with an acquisition that fails or gives a handle that is not closed.  The
handles that others closed before are listed, so there was one acquisition for each of them and one more. -/
inductive Lends (m : String) : Store → List HandleId → Except Fault HandleId → Store → Prop
  | refused {s t : Store} {f : Fault} (h : Step.outcome (acquire m) s = (.error f, t)) :
      Lends m s [] (.error f) t
  | lent {s t : Store} {id : HandleId} (h : Step.outcome (acquire m) s = (.ok id, t))
      (hopen : isClosed t id = false) : Lends m s [] (.ok id) t
  | again {s t t' u : Store} {id : HandleId} {ids : List HandleId} {r : Except Fault HandleId}
      (h : Step.outcome (acquire m) s = (.ok id, t)) (hothers : t.Tolerates t')
      (hclosed : isClosed t' id = true) (rest : Lends m t' ids r u) : Lends m s (id :: ids) r u

theorem isClosed_of_handle (hh : s.handle? id = some h) : isClosed s id = h.isClosed := by
  rw [isClosed, hh]
  rfl

variable {ids : List HandleId} {r : Except Fault HandleId}

/-- The store afterwards is as good as before, and no handle was opened again. -/
theorem Lends.tolerates (hl : Lends m s ids r t) (hs : s.Registered) : s.Tolerates t := by
  induction hl with
  | refused h =>
    have hgrant := acquire_granted hs m
    rw [h] at hgrant
    exact ⟨hgrant.1.registered, hgrant.1.config, hgrant.1.abides⟩
  | lent h =>
    have hst := (acquire_fresh hs h).shifts
    exact ⟨hst.registered, hst.config, hst.abides⟩
  | again h hothers _ _ ih =>
    have hst := (acquire_fresh hs h).shifts
    have hrest := ih (hothers.registered (hst.registered hs))
    exact ⟨fun hs => hrest.registered (hothers.registered (hst.registered hs)),
      hrest.config.trans (hothers.config.trans hst.config),
      (hst.abides.trans hothers.abides).trans hrest.abides⟩

/-- A handle that is closed already is not acquired. -/
theorem Lends.not_mem (hl : Lends m s ids r t) (hs : s.Registered) (hh : s.handle? i = some h)
    (hc : h.isClosed = true) : i ∉ ids := by
  induction hl generalizing h with
  | refused | lent => exact List.not_mem_nil
  | @again s t t' u id ids r h' hothers _ _ ih =>
    have hacquired := acquire_fresh hs h'
    have hne : i ≠ id := by
      rintro rfl
      rw [hacquired.fresh h hh] at hc
      cases hc
    obtain ⟨k, hk, hkc⟩ := (hacquired.shifts.abides.trans hothers.abides) i h hh
    have hrest := ih (hothers.registered (hacquired.shifts.registered hs)) hk (hkc hc)
    rw [List.mem_cons, not_or]
    exact ⟨hne, hrest⟩

/-- What a session comes to, whatever others did meanwhile.  No handle that was found closed is acquired
again, and they are all closed in the end.  What is lent is none of them: it is not closed, it is cached for
the layer, and its path is that of the layer. -/
theorem Lends.sound (hl : Lends m s ids r t) (hs : s.Registered) :
    ids.Nodup ∧ (∀ id ∈ ids, ∃ h, t.handle? id = some h ∧ h.isClosed = true) ∧
      ∀ id, r = .ok id → id ∉ ids ∧ t.cache.get? m = some id ∧
        ∃ h, t.handle? id = some h ∧ h.isClosed = false ∧ s.pathOf? m = some h.path := by
  induction hl with
  | refused => exact ⟨List.nodup_nil, nofun, nofun⟩
  | lent h hopen =>
    have hacquired := acquire_fresh hs h
    obtain ⟨k, hk, -⟩ := hacquired.handle
    rw [isClosed_of_handle hk] at hopen
    obtain ⟨k', hk', -, hp, -⟩ := (hacquired.shifts.registered hs).cached m _ hacquired.cached
    cases hk.symm.trans hk'
    refine ⟨List.nodup_nil, nofun, ?_⟩
    rintro id ⟨⟩
    exact ⟨List.not_mem_nil, hacquired.cached, k, hk, hopen, (hacquired.shifts.pathOf m).symm.trans hp⟩
  | @again s t t' u id ids r h hothers hclosed rest ih =>
    have hacquired := acquire_fresh hs h
    have ht' : t'.Registered := hothers.registered (hacquired.shifts.registered hs)
    obtain ⟨hnodup, hall, hlent⟩ := ih ht'
    obtain ⟨k, hk, -⟩ := hacquired.handle
    obtain ⟨k', hk', -⟩ := hothers.abides id k hk
    rw [isClosed_of_handle hk'] at hclosed
    obtain ⟨l, hl, hlc⟩ := (rest.tolerates ht').abides id k' hk'
    refine ⟨List.nodup_cons.2 ⟨rest.not_mem ht' hk' hclosed, hnodup⟩, ?_, ?_⟩
    · intro j hj
      rcases List.mem_cons.1 hj with rfl | hj
      · exact ⟨l, hl, hlc hclosed⟩
      · exact hall j hj
    · intro j hj
      obtain ⟨hnot, hcached, k'', hk'', hopen, hp⟩ := hlent j hj
      have hne : j ≠ id := by
        rintro rfl
        cases hl.symm.trans hk''
        rw [hlc hclosed] at hopen
        cases hopen
      have hpath : s.pathOf? m = t'.pathOf? m := by
        rw [pathOf?, pathOf?, hothers.config, hacquired.shifts.config]
      exact ⟨by rw [List.mem_cons, not_or]; exact ⟨hne, hnot⟩, hcached, k'', hk'', hopen, hpath.trans hp⟩

/-- With a number of closings pending, a session ends.  If no acquisition fails there is one for each closing
and one more.  A bound on the number of acquisitions does not matter unless it is less than that. -/
theorem acquireOpen_lends (hs : s.Registered) (m : String) :
    ∃ ids r t, Lends m s ids r t ∧ ids.length ≤ s.staleAcquires ∧
      (∀ id, r = .ok id → ids.length = s.staleAcquires) ∧
      ∀ n, s.staleAcquires ≤ n → Step.outcome (acquireOpen m n) s = (r, t) := by
  generalize hk : s.staleAcquires = k
  induction k generalizing s with
  | zero =>
    rcases hrun : Step.outcome (acquire m) s with ⟨f | id, t⟩
    · refine ⟨[], _, t, .refused hrun, Nat.le_refl 0, nofun, fun n _ => ?_⟩
      cases n with
      | zero => exact hrun
      | succ n => rw [acquireOpen, Step.run_bind, hrun]
    · obtain ⟨k, hk', hopen⟩ := (acquire_fresh hs hrun).handle
      have hopen : isClosed t id = false := by
        rw [isClosed_of_handle hk', hopen, hk]
        rfl
      refine ⟨[], _, t, .lent hrun hopen, Nat.le_refl 0, fun _ _ => rfl, fun n _ => ?_⟩
      cases n with
      | zero => exact hrun
      | succ n =>
        rw [acquireOpen, Step.run_bind, hrun]
        simp only [Step.run_bind, Step.run_get, hopen, Bool.false_eq_true, if_false, Step.run_pure]
  | succ k ih =>
    rcases hrun : Step.outcome (acquire m) s with ⟨f | id, t⟩
    · refine ⟨[], _, t, .refused hrun, Nat.zero_le _, nofun, fun n _ => ?_⟩
      cases n with
      | zero => exact hrun
      | succ n => rw [acquireOpen, Step.run_bind, hrun]
    · have hacquired := acquire_fresh hs hrun
      obtain ⟨k', hk', hclosed⟩ := hacquired.handle
      have hclosed : isClosed t id = true := by
        rw [isClosed_of_handle hk', hclosed, hk]
        rfl
      have hpending : t.staleAcquires = k := by
        rw [hacquired.pending, hk]
        rfl
      obtain ⟨ids, r, u, hl, hle, hlength, hsame⟩ := ih (hacquired.shifts.registered hs) hpending
      refine ⟨id :: ids, r, u, .again hrun (.refl t) hclosed hl, Nat.succ_le_succ hle,
        fun j hj => congrArg Nat.succ (hlength j hj), fun n hn => ?_⟩
      obtain ⟨n, rfl⟩ : ∃ n', n = n' + 1 := ⟨n - 1, by omega⟩
      rw [acquireOpen, Step.run_bind, hrun]
      simp only [Step.run_bind, Step.run_get, hclosed, if_true]
      exact hsame n (by omega)

/-! ## What is tolerated -/

theorem Occurrence.tolerates (o : Occurrence) (hs : s.Orderly P) : s.Tolerates (o.apply s) := by
  refine ⟨fun _ => (o.orderly hs).registered, ?_, ?_⟩
  · have hwork : o.IsWork → (o.apply s).config = s.config := fun ho => (o.changes ho hs).config
    cases o with
    | ask | acquire | invalidate | releaseAll | closeHandle => exact hwork trivial
    | _ => rfl
  · have hwork : o.IsWork → s.Abides (o.apply s) := fun ho => (o.changes ho hs).abides
    cases o with
    | ask | acquire | invalidate | releaseAll | closeHandle => exact hwork trivial
    | severHandle id => exact .modify (f := fun h => { h with isSevered := true }) (fun _ _ hc => hc) rfl
    | failClosing id => exact .modify (f := fun h => { h with isStubborn := true }) (fun _ _ hc => hc) rfl
    | staleAcquire | damage | outside => exact .same rfl

/-- Whatever happens to a store that is in order is tolerated. -/
theorem undergo_tolerates (os : List Occurrence) (hs : s.Orderly P) : s.Tolerates (undergo os s) := by
  induction os generalizing s P with
  | nil => exact .refl s
  | cons o os ih =>
    have hfirst := o.tolerates hs
    have hrest := ih (o.orderly hs)
    exact ⟨fun h => hrest.registered (hfirst.registered h), hrest.config.trans hfirst.config,
      hfirst.abides.trans hrest.abides⟩

/-- A session ends and never lends a closed handle.  Whatever the disk and the cache are like, and however many
closings by others are pending, it acquires until a handle is not closed: once for each closing and once
more, unless an acquisition fails, with whose fault it ends.  What is lent is not closed, is cached for the
layer and has its path; it is none of the handles that were found closed, each of which was acquired once.
This is so whatever others do in between.  What is to be done is done once with what is lent, and its outcome
is that of the session. -/
theorem session_lends (hs : s.Registered) (m : String) (body : HandleId → Step α) :
    (∃ ids r t, Lends m s ids r t ∧ ids.length ≤ s.staleAcquires ∧
      (∀ id, r = .ok id → ids.length = s.staleAcquires) ∧
      (∀ n, s.staleAcquires ≤ n → Step.outcome (acquireOpen m n) s = (r, t)) ∧
      Step.outcome (session m body) s =
        match r with
        | .ok id => Step.outcome (body id) t
        | .error f => (.error f, t)) ∧
    (∀ ids r t, Lends m s ids r t → ids.Nodup ∧
      (∀ id ∈ ids, ∃ h, t.handle? id = some h ∧ h.isClosed = true) ∧
      ∀ id, r = .ok id → id ∉ ids ∧ t.cache.get? m = some id ∧
        ∃ h, t.handle? id = some h ∧ h.isClosed = false ∧ s.pathOf? m = some h.path) ∧
    ∀ (P : HandleId → Prop) (os : List Occurrence), s.Orderly P → s.Tolerates (undergo os s) := by
  refine ⟨?_, fun ids r t hl => hl.sound hs, fun P os ho => undergo_tolerates os ho⟩
  obtain ⟨ids, r, t, hl, hle, hlength, hsame⟩ := acquireOpen_lends hs m
  refine ⟨ids, r, t, hl, hle, hlength, hsame, ?_⟩
  simp only [session, Step.run_bind, Step.run_get, hsame _ (Nat.le_refl _)]
  cases r <;> rfl

/-- A store over an empty directory, in which the next two handles that are handed out are closed by others. -/
def hurriedStore : Store :=
  { fresh ⟨⟨.here, ["layers"]⟩, ".sqlite", true⟩ (Disk.ofDirectory "layers") ⟨false, false⟩ with
    staleAcquires := 2 }

theorem hurriedStore_lends : hurriedStore.Registered ∧
    ∃ ids id t, Lends "roads" hurriedStore ids (.ok id) t ∧ ids.length = 2 ∧ id ∉ ids ∧
      Step.outcome (session "roads" pure) hurriedStore = (.ok id, t) ∧
      ∃ h, t.handle? id = some h ∧ h.isClosed = false := by
  have hs : hurriedStore.Registered := ⟨List.nodup_nil, nofun⟩
  obtain ⟨⟨ids, r, t, hl, -, hlength, -, hrun⟩, hsound, -⟩ :=
    session_lends hs "roads" (pure : HandleId → Step HandleId)
  refine ⟨hs, ?_⟩
  cases r with
  | error f =>
    have hok : (Step.outcome (session "roads" (pure : HandleId → Step HandleId)) hurriedStore).1.isOk = true := by
      decide +kernel
    rw [hrun] at hok
    cases hok
  | ok id =>
    obtain ⟨-, -, hlent⟩ := hsound ids (.ok id) t hl
    obtain ⟨hnot, -, h, hh, hopen, -⟩ := hlent id rfl
    exact ⟨ids, id, t, hl, hlength id rfl, hnot, hrun, h, hh, hopen⟩

end TileDepot.Store
