import TileDepot.Proofs.Performing
import TileDepot.Proofs.Simulation

/-!
# Whom an error names

An error of the store should say which layer it concerns and which operation was running, and its text
should end with both.  All errors that an operation on a layer ends with do so but one: where nothing can be
opened at the layer's path, the error knows the path and not the layer.

`Step.Raises` says of which family the faults of a step are, whatever store it starts in.  Steps below the
opening of a file raise no errors of the store, and what is raised on the way to a handle names the layer or
is that one error.

* `acquireOpen_raises` is about the way to a handle, and `session_accounts` adds when the one error comes up.
* `perform_accounts` is about operations that open a layer, and `names_iff` about all operations on tiles and
  metadata.
-/

namespace TileDepot

open Store

/-! ## Errors that name a layer -/

/-- An error names a layer and the operation that was running, and its text ends with both. -/
structure StoreError.Names (e : StoreError) (m : String) : Prop where
  layer : e.layer = some m
  operation : e.operation ≠ ""
  text : ∃ wording, e.text =
    wording ++ " [" ++ (e.operation ++ (" " ++ ("layer=" ++ Text.quoted m))) ++ "]"

theorem StoreError.names_of (cause : Cause) (m : String) {operation : String} (h : operation ≠ "") :
    (StoreError.mk cause (some m) operation).Names m where
  layer := rfl
  operation := h
  text := ⟨cause.wording, withContext_both _ _ _ (by simpa using h)⟩

/-- The error of a file that cannot be opened names no layer. -/
theorem StoreError.Names.ne_unopened {e : StoreError} {m : String} (h : e.Names m) (p : Path) :
    e ≠ unopened p := by
  rintro rfl
  cases h.layer

/-- A fault that is no error of the store. -/
def Fault.Foreign (f : Fault) : Prop := ∀ e, f ≠ .store e

/-- If a fault is an error of the store, it names the layer or is that of a file that cannot be opened. -/
def Fault.Traces (m : String) (f : Fault) : Prop := ∀ e, f = .store e → e.Names m ∨ ∃ p, e = unopened p

theorem Fault.Foreign.traces {f : Fault} (h : f.Foreign) (m : String) : f.Traces m :=
  fun e he => absurd he (h e)

theorem Fault.traces_named (cause : Cause) (m : String) {operation : String} (h : operation ≠ "") :
    (Fault.store ⟨cause, some m, operation⟩).Traces m := by
  rintro e ⟨rfl⟩
  exact .inl (StoreError.names_of cause m h)

theorem Fault.traces_unopened (p : Path) (m : String) : (Fault.store (unopened p)).Traces m := by
  rintro e ⟨rfl⟩
  exact .inr ⟨p, rfl⟩

/-! ## What a step raises -/

namespace Step

variable {α β : Type} {P Q : Fault → Prop}

/-- The faults of a step are of a family, whatever store it starts in. -/
def Raises (P : Fault → Prop) (x : Step α) : Prop := ∀ s f t, outcome x s = (.error f, t) → P f

namespace Raises

variable {x : Step α}

theorem mono (hx : Raises Q x) (h : ∀ f, Q f → P f) : Raises P x := fun s f t hr => h f (hx s f t hr)

theorem pure (a : α) : Raises P (pure a : Step α) := by
  intro s f t h
  cases h

theorem throw {f : Fault} (hf : P f) : Raises P (throw f : Step α) := by
  intro s f' t h
  cases h
  exact hf

theorem bind {next : α → Step β} (hx : Raises P x) (hnext : ∀ a, Raises P (next a)) :
    Raises P (x >>= next) := by
  intro s f t h
  rw [run_bind] at h
  rcases hr : outcome x s with ⟨f' | a, u⟩
  · rw [hr] at h
    cases h
    exact hx s _ _ hr
  · rw [hr] at h
    exact hnext a u f t h

/-- A step may be taken before another one, or left out. -/
theorem guarded {c : Prop} [Decidable c] {y : Step β} (hy : Raises P y) (hx : Raises P x) :
    Raises P (if c then y >>= fun _ => x else x) := by
  split
  · exact hy.bind fun _ => hx
  · exact hx

theorem tryCatch {handler : Fault → Step α} (hx : Raises Q x) (hh : ∀ f, Q f → Raises P (handler f)) :
    Raises P (tryCatch x handler) := by
  intro s f t h
  rw [run_tryCatch] at h
  rcases hr : outcome x s with ⟨f' | a, u⟩
  · rw [hr] at h
    exact hh f' (hx s _ _ hr) u f t h
  · rw [hr] at h
    cases h

/-- A step that reads or changes the store without a test does not fail. -/
theorem modify (f : Store → Store) : Raises P (modify f : Step PUnit) := by
  intro s f t h
  cases h

theorem get : Raises P (get : Step Store) := by
  intro s f t h
  cases h

theorem set (u : Store) : Raises P (set u : Step PUnit) := by
  intro s f t h
  cases h

theorem view (f : Store → α) : Raises P (view f) := get.bind fun _ => pure _

theorem ofDisk (r : Except OsFault α) (h : ∀ f, P (.os f)) : Raises P (ofDisk r) := by
  cases r with
  | ok a => exact pure a
  | error f => exact throw (h f)

theorem ofDb (r : Except DbFault α) (h : ∀ f, P (.db f)) : Raises P (ofDb r) := by
  cases r with
  | ok a => exact pure a
  | error f => exact throw (h f)

end Raises

end Step

open Step

namespace Store

variable {α β : Type} {m : String} {p : Path} {id : HandleId} {P : Fault → Prop} {s t : Store}

/-! ## Below the opening of a file -/

theorem pathFor_raises (m : String) : Raises Fault.Foreign (pathFor m) := by
  refine (Raises.view _).bind fun c => ?_
  split
  · exact .pure _
  · exact .throw nofun

theorem keep_raises (id : HandleId) (after : Database) : Raises P (keep id after) := by
  refine Raises.get.bind fun s => ?_
  split
  · exact .pure _
  · split
    · exact (Raises.modify _).bind fun _ => .modify _
    · exact .modify _
    · exact .modify _

theorem exec_raises (id : HandleId) (st : Statement α) : Raises Fault.Foreign (exec id st) := by
  refine Raises.get.bind fun s => ?_
  split
  · exact .throw nofun
  · refine (Raises.modify _).bind fun _ => (Raises.modify _).bind fun _ => ?_
    refine (Raises.ofDb _ fun _ => nofun).bind fun effect => ?_
    split
    · exact .pure _
    · exact (keep_raises id _).bind fun _ => .pure _

theorem transact_raises {body : Step α} (hbody : Raises P body) : Raises P (transact id body) := by
  have hcommit : Raises P (commitChanges id) := by
    refine Raises.get.bind fun s => ?_
    split
    · exact .pure _
    · refine (Raises.modify _).bind fun _ => ?_
      split
      · exact .pure _
      · exact .pure _
      · exact keep_raises id _
  refine (hbody.tryCatch fun f hf => ?_).bind fun a => hcommit.bind fun _ => .pure _
  exact (Raises.modify _).bind fun _ => .throw hf

theorem isOpen_raises (id : HandleId) : Raises Fault.Foreign (isOpen id) := by
  refine Raises.get.bind fun s => ?_
  split
  · exact .pure _
  · split
    · exact .pure _
    · refine (Raises.ofDisk _ fun _ => nofun).bind fun there => ?_
      split
      · exact .pure _
      · split
        · exact (Raises.modify _).bind fun _ => .pure _
        · exact .pure _

theorem close_raises (id : HandleId) : Raises Fault.Foreign (close id) := by
  refine Raises.get.bind fun s => ?_
  split
  · exact .pure _
  · split
    · exact (Raises.modify _).bind fun _ => (Raises.throw nofun).bind fun _ => .modify _
    · exact .modify _

theorem dropHandle_raises (m : String) (id : HandleId) : Raises Fault.Foreign (dropHandle m id) := by
  refine (Raises.modify _).bind fun _ => (close_raises id).tryCatch fun f hf => ?_
  split
  · exact Raises.get.bind fun s => .modify _
  · exact .throw hf

theorem modifiedAt_raises (p : Path) : Raises P (modifiedAt p) := by
  refine (Raises.view _).bind fun d => ?_
  split
  · exact .pure _
  · exact .pure _
  · exact (Raises.modify _).bind fun _ => .pure _

/-! ## The way to a handle -/

theorem connect_raises (p : Path) (create : Bool) (m : String) :
    Raises (Fault.Traces m) (connect p create) := by
  have hrefuse : Raises (Fault.Traces m) (throw (.store (unopened p)) : Step (Place × Nat)) :=
    .throw (Fault.traces_unopened p m)
  refine (Raises.view _).bind fun d => ?_
  split
  · exact .pure _
  · exact hrefuse
  · split
    · exact (Raises.modify _).bind fun _ => .pure _
    · exact hrefuse
  · exact hrefuse

theorem issue_raises (place : Place) (file : Nat) (schema : Schema) :
    Raises P (issue m p place file schema) :=
  Raises.get.bind fun _ => (Raises.set _).bind fun _ => .pure _

theorem foreign_traces {x : Step α} (hx : Raises Fault.Foreign x) : Raises (Fault.Traces m) x :=
  hx.mono fun _ hf => hf.traces m

theorem openStore_raises (m : String) : Raises (Fault.Traces m) (openStore m) := by
  refine (foreign_traces (pathFor_raises m)).bind fun path => (Raises.modify _).bind fun _ => ?_
  refine (connect_raises path false m).bind fun found => (Raises.view _).bind fun d => ?_
  refine (Raises.modify _).bind fun _ => ?_
  split
  · exact .throw (Fault.traces_named _ m (by decide))
  · split
    · exact issue_raises _ _ _
    · exact .throw (Fault.traces_named _ m (by decide))

theorem create_raises (m : String) : Raises (Fault.Traces m) (create m) := by
  refine (foreign_traces (pathFor_raises m)).bind fun path => (Raises.view _).bind fun d => ?_
  refine (Raises.ofDisk _ fun _ => nofun).bind fun there => ?_
  refine Raises.guarded (.throw (Fault.traces_named _ m (by decide))) ?_
  refine (Raises.modify _).bind fun _ => (connect_raises path true m).bind fun found => ?_
  refine (Raises.modify _).bind fun _ => Raises.get.bind fun s => ?_
  split
  · exact (Raises.modify _).bind fun _ => .throw (Fault.traces_named _ m (by decide))
  · exact (Raises.modify _).bind fun _ => issue_raises _ _ _

theorem renew_raises (m : String) : Raises (Fault.Traces m) (renew m) := by
  refine (foreign_traces (pathFor_raises m)).bind fun path => (Raises.view _).bind fun d => ?_
  refine (Raises.ofDisk _ fun _ => nofun).bind fun there => ?_
  split
  · exact (openStore_raises m).bind fun id => (Raises.modify _).bind fun _ => .pure _
  · exact (create_raises m).bind fun id => (Raises.modify _).bind fun _ => .pure _

theorem usable_raises (m : String) : Raises Fault.Foreign (usable m) := by
  refine (Raises.view _).bind fun found => ?_
  split
  · exact .pure _
  · refine (isOpen_raises _).bind fun fit => ?_
    split
    · exact .pure _
    · exact .pure _

theorem obtain_raises (m : String) : Raises (Fault.Traces m) (obtain m) := by
  refine (foreign_traces (usable_raises m)).bind fun fit => ?_
  split
  · exact .pure _
  · refine (foreign_traces (pathFor_raises m)).bind fun _ => (Raises.view _).bind fun found => ?_
    split
    · exact renew_raises m
    · refine (foreign_traces (isOpen_raises _)).bind fun fit => ?_
      split
      · exact .pure _
      · refine Raises.get.bind fun s => (Raises.modify _).bind fun _ => ?_
        exact (foreign_traces (dropHandle_raises m _)).bind fun _ => renew_raises m

theorem acquire_raises (m : String) : Raises (Fault.Traces m) (acquire m) := by
  refine Raises.get.bind fun s => (Raises.modify _).bind fun _ => (obtain_raises m).bind fun id => ?_
  split
  · exact (foreign_traces (close_raises id)).bind fun _ => .pure _
  · exact .pure _

/-- Whatever is raised on the way to a handle names the layer, or is the error of a file that cannot be
opened. -/
theorem acquireOpen_raises (m : String) (retries : Nat) :
    Raises (Fault.Traces m) (acquireOpen m retries) := by
  induction retries with
  | zero => exact acquire_raises m
  | succ retries ih =>
    refine (acquire_raises m).bind fun id => Raises.get.bind fun s => ?_
    split
    · exact ih
    · exact .pure _

/-! ## When no file can be opened -/

/-- Nothing can be opened or made at the path of a layer. -/
def Blocked (s : Store) (m : String) : Prop := ∃ p, s.pathOf? m = some p ∧ s.disk.Barred p.resolved

theorem blocked_iff (hp : s.pathOf? m = some p) : s.Blocked m ↔ s.disk.Barred p.resolved := by
  constructor
  · rintro ⟨p', hp', hb⟩
    rw [hp, Option.some.injEq] at hp'
    exact hp' ▸ hb
  · exact fun hb => ⟨p, hp, hb⟩

/-- Nothing changes that while a layer is opened. -/
theorem Shifts.blocked (hst : Shifts s t) : t.Blocked m ↔ s.Blocked m := by
  have hsame : ∀ p, t.disk.Barred p ↔ s.disk.Barred p := by
    intro p
    constructor
    · exact fun hb q hl => (hst.directory q).1 (hb q (Disk.follow_mono (fun q => (hst.directory q).2) hl))
    · exact fun hb q hl => (hst.directory q).2 (hb q (Disk.follow_mono (fun q => (hst.directory q).1) hl))
  simp only [Blocked, hst.pathOf, hsame]

/-- Whether a file can be opened decides what getting hold of a handle comes to: with a handle, with the
refusal of a closing, or with an error that names the layer, if it can be, and with the error of a file that
cannot be opened if not. -/
def Settles (m : String) (s : Store) (r : Except Fault HandleId × Store) : Prop :=
  match r with
  | (.ok _, _) => ¬ s.Blocked m
  | (.error (.store e), _) => (∃ p, e = unopened p) ↔ s.Blocked m
  | (.error (.db _), _) => ¬ s.Blocked m
  | (.error _, _) => True

theorem Settles.after (hst : Shifts s t) {r : Except Fault HandleId × Store} (h : Settles m t r) :
    Settles m s r := by
  obtain ⟨_ | id, u⟩ := r
  · rename_i f
    cases f <;> first | exact trivial | simpa only [Settles, hst.blocked] using h
  · simpa only [Settles, hst.blocked] using h

theorem named_iff {cause : Cause} {operation : String} (hb : ¬ s.Blocked m) :
    (∃ p, StoreError.mk cause (some m) operation = unopened p) ↔ s.Blocked m := by
  refine iff_of_false ?_ hb
  rintro ⟨p, h⟩
  cases h

theorem unblocked_of_found {q : Place} {n : Nat} (hp : s.pathOf? m = some p)
    (hf : s.disk.find p.resolved = .ok (q, .file n)) : ¬ s.Blocked m :=
  fun hb => ((blocked_iff hp).1 hb).not_file hf

theorem Meets.unblocked {create : Bool} {d : Disk} {n : Nat} (hp : s.pathOf? m = some p)
    (h : Meets s.disk p create d n) : ¬ s.Blocked m :=
  fun hb => h.not_barred ((blocked_iff hp).1 hb)

theorem renew_settles (hp : s.pathOf? m = some p) : Settles m s (Step.outcome (renew m) s) := by
  rcases renew_cases hp with ⟨-, hrun⟩ | ⟨-, r, hrun, hr⟩
  · rw [hrun]
    trivial
  · rw [hrun]
    rcases hr with ⟨-, hopening⟩ | ⟨-, hmaking⟩
    · cases hopening with
      | refused l hb => exact iff_of_true ⟨p, rfl⟩ ⟨p, hp, hb⟩
      | unreadable l hf | lacking l hf => exact named_iff (unblocked_of_found hp hf)
      | opened l hf => exact unblocked_of_found hp hf
    · cases hmaking with
      | refused l hb => exact iff_of_true ⟨p, rfl⟩ ⟨p, hp, hb⟩
      | failed l hmeets => exact named_iff (hmeets.unblocked hp)
      | made l hmeets => exact hmeets.unblocked hp

/-- A handle that is fit has a file at its path. -/
theorem Fit.unblocked {h : Handle} (hfit : s.Fit h) (hp : s.pathOf? m = some h.path) : ¬ s.Blocked m := by
  obtain ⟨q, n, hfind⟩ := Disk.isFile_iff.1 hfit.there
  obtain ⟨hl, hn, -⟩ := Disk.find_place hfind
  exact unblocked_of_found hp (Disk.find_of_node (Disk.locate_resolved hl) hn)

theorem obtain_settles (hs : s.Registered) (m : String) : Settles m s (Step.outcome (obtain m) s) := by
  cases hid : s.cache.get? m with
  | none =>
    rcases obtain_missing hid with ⟨-, hrun⟩ | ⟨p, hp, hrun⟩
    · rw [hrun]
      trivial
    · rw [hrun]
      exact renew_settles hp
  | some id =>
    obtain ⟨h, hh, -, hp, -⟩ := hs.cached m id hid
    rcases obtain_cases hid hh hp with ⟨hfit, hrun⟩ | ⟨-, -, l, hrun⟩ | ⟨-, -, hrun⟩
    · rw [hrun]
      exact hfit.unblocked hp
    · rw [hrun]
      exact (renew_settles (s := { s with
        cache := s.without m id
        issued := s.issued.modify id Handle.released
        log := l }) hp).after (Shift.dropped s m id l).shifts
    · rw [hrun]
      trivial

theorem acquire_settles (hs : s.Registered) (m : String) : Settles m s (Step.outcome (acquire m) s) := by
  let s' : Store := { s with staleAcquires := s.staleAcquires - 1 }
  have hs' : Shifts s s' := (Shift.counted (Nat.sub_le _ 1)).shifts
  have hsettles := (obtain_settles (hs'.registered hs) m).after hs'
  have hrun : Step.outcome (acquire m) s = Step.outcome (do
      let id ← obtain m
      if 0 < s.staleAcquires then close id
      return id) s' := by
    simp only [acquire, Step.run_bind, Step.run_get, Step.run_modify]
    rfl
  rw [hrun, Step.run_bind]
  generalize Step.outcome (obtain m) s' = r at hsettles ⊢
  obtain ⟨f | id, t⟩ := r
  · exact hsettles
  · dsimp only
    by_cases hpending : 0 < s.staleAcquires
    · obtain ⟨r, hclose, hr⟩ := close_attempt id t
      simp only [if_pos hpending, Step.run_bind, hclose]
      rcases hr with rfl | ⟨rfl, -⟩
      · exact hsettles
      · exact hsettles
    · simp only [if_neg hpending, Step.run_pure]
      exact hsettles

theorem acquireOpen_settles (hs : s.Registered) (m : String) (retries : Nat) :
    Settles m s (Step.outcome (acquireOpen m retries) s) := by
  induction retries generalizing s with
  | zero => exact acquire_settles hs m
  | succ retries ih =>
    have hsettles := acquire_settles hs m
    have hgrant := acquire_granted hs m
    rw [acquireOpen, Step.run_bind]
    generalize Step.outcome (acquire m) s = r at hsettles hgrant ⊢
    obtain ⟨f | id, t⟩ := r
    · exact hsettles
    · simp only [Step.run_bind, Step.run_get]
      split
      · exact (ih (hgrant.1.registered hs)).after hgrant.1
      · exact hsettles

/-! ## Operations -/

/-- What the errors of a run name: the layer, unless nothing can be opened at its path. -/
def Accounts (m : String) (s : Store) (r : Except Fault α × Store) : Prop :=
  ∀ e, r.1 = .error (.store e) →
    (e.Names m ∨ ∃ p, e = unopened p) ∧ (s.Registered → ((∃ p, e = unopened p) ↔ s.Blocked m))

/-- Work in a session that raises no errors of the store itself. -/
theorem session_accounts {body : HandleId → Step α} {operation : String} (hop : operation ≠ "")
    (hbody : ∀ id, Raises Fault.Foreign (body id)) (s : Store) :
    Accounts m s (Step.outcome (Step.translated m operation (session m body)) s) := by
  have hrun : Step.outcome (session m body) s =
      Step.outcome (acquireOpen m s.staleAcquires >>= body) s := by
    simp only [session, Step.run_bind, Step.run_get]
  have hraises := acquireOpen_raises m s.staleAcquires s
  have hsettles := fun hs => acquireOpen_settles (s := s) hs m s.staleAcquires
  intro e he
  rw [Step.translated, Step.run_tryCatch, hrun, Step.run_bind] at he
  generalize Step.outcome (acquireOpen m s.staleAcquires) s = r at he hraises hsettles
  -- A fault of the database becomes an error that names the layer.
  have hnamed : ∀ {f : DbFault}, StoreError.mk (.statement f) (some m) operation = e →
      (s.Registered → ¬ s.Blocked m) →
      (e.Names m ∨ ∃ p, e = unopened p) ∧ (s.Registered → ((∃ p, e = unopened p) ↔ s.Blocked m)) := by
    rintro f rfl hfree
    exact ⟨.inl (StoreError.names_of _ m hop), fun hs => named_iff (hfree hs)⟩
  obtain ⟨f | id, t⟩ := r
  · cases f with
    | store e' =>
      cases he
      exact ⟨hraises _ _ rfl e rfl, hsettles⟩
    | db f => exact hnamed (Fault.store.inj (Except.error.inj he)) hsettles
    | _ => cases he
  · dsimp only at he
    have hforeign := hbody id t
    generalize Step.outcome (body id) t = r at he hforeign
    obtain ⟨f | a, u⟩ := r
    · cases f with
      | store e' => exact absurd rfl (hforeign _ _ rfl e')
      | db f => exact hnamed (Fault.store.inj (Except.error.inj he)) hsettles
      | _ => cases he
    · cases he

/-- What is done with the answer of a step that accounts for its errors, if it raises none itself. -/
theorem Accounts.bind {x : Step α} {next : α → Step β} (h : Accounts m s (Step.outcome x s))
    (hnext : ∀ a, Raises Fault.Foreign (next a)) : Accounts m s (Step.outcome (x >>= next) s) := by
  intro e he
  rw [Step.run_bind] at he
  generalize Step.outcome x s = r at h he
  obtain ⟨f | a, t⟩ := r
  · cases he
    exact h e rfl
  · have hforeign := hnext a t
    dsimp only at he
    generalize Step.outcome (next a) t = r at he hforeign
    obtain ⟨r, u⟩ := r
    cases he
    exact absurd rfl (hforeign _ _ rfl e)

theorem Accounts.noted {severity : Severity} {channel : Channel} {message : String} {x : Step α}
    (h : ∀ s, Accounts m s (Step.outcome x s)) :
    Accounts m s (Step.outcome (Step.note severity channel message >>= fun _ => x) s) := by
  intro e he
  rw [Step.run_bind, Step.run_note] at he
  obtain ⟨hnames, hblocked⟩ := h _ e he
  exact ⟨hnames, fun hs => hblocked ⟨hs.keys, hs.cached⟩⟩

/-- An error that a forgiving store does not answer itself is passed on. -/
theorem Accounts.forgiving {x : Step α} (nothing : α) (h : Accounts m s (Step.outcome x s)) :
    Accounts m s (Step.outcome (Store.forgiving nothing x) s) := by
  intro e he
  rw [Store.forgiving, Step.run_tryCatch] at he
  generalize Step.outcome x s = r at h he
  obtain ⟨f | a, t⟩ := r
  · cases f with
    | store e' =>
      simp only [Step.run_bind, Step.run_get] at he
      split at he
      · cases he
        exact h e rfl
      · cases he
    | _ => cases he
  · cases he

/-- The layer that an operation on tiles or metadata is about. -/
def Operation.concerns? : Operation → Option String
  | .deleteRange range => some range.layer
  | o => o.opens?

theorem getTile_accounts (key : TileKey) (s : Store) :
    Accounts key.layer s (Step.outcome (perform (.getTile key)) s) := by
  refine Accounts.bind (Accounts.bind (session_accounts (by decide) (fun id => ?_) s) fun found => ?_)
    fun _ => .pure _
  · refine (exec_raises id _).bind fun cell => (pathFor_raises _).bind fun path => ?_
    split
    · exact .pure _
    · exact .pure _
    · exact (modifiedAt_raises path).bind fun _ => .pure _
  · split
    · exact .pure _
    · split
      · rename_i f hf
        rcases blobOf_error hf with rfl | rfl
        · exact .throw nofun
        · exact .throw nofun
      · exact .pure _
      · exact .pure _

/-- A row is inserted where there was none to update. -/
theorem upsert_raises (id : HandleId) (update : Statement Nat) (insert : Statement Unit) :
    Raises Fault.Foreign (transact id (do
      let count ← exec id update
      if count = 0 then exec id insert)) := by
  refine transact_raises ((exec_raises id _).bind fun count => ?_)
  split
  · exact exec_raises id _
  · exact .pure _

theorem putTile_accounts (key : TileKey) (blob : Blob) (s : Store) :
    Accounts key.layer s (Step.outcome (perform (.putTile key blob)) s) :=
  Accounts.bind (Accounts.bind (session_accounts (by decide) (fun id => upsert_raises id _ _) s)
    fun _ => .modify _) fun _ => .pure _

theorem putMetadata_accounts (layer key value : String) (s : Store) :
    Accounts layer s (Step.outcome (perform (.putMetadata layer key value)) s) :=
  Accounts.bind (Accounts.bind (session_accounts (by decide) (fun id => upsert_raises id _ _) s)
    fun _ => .modify _) fun _ => .pure _

theorem deleteTile_accounts (key : TileKey) (s : Store) :
    Accounts key.layer s (Step.outcome (perform (.deleteTile key)) s) := by
  refine Accounts.bind (Accounts.noted fun s => Accounts.bind (session_accounts (by decide)
    (fun id => transact_raises (exec_raises id _)) s) fun count => ?_) fun _ => .pure _
  split
  · exact (Raises.modify _).bind fun _ => .pure _
  · exact .pure _

theorem deleteGridset_accounts (layer grid : String) (s : Store) :
    Accounts layer s (Step.outcome (perform (.deleteGridset layer grid)) s) := by
  refine Accounts.bind (Accounts.noted fun s => Accounts.bind (session_accounts (by decide)
    (fun id => transact_raises (exec_raises id _)) s) fun count => ?_) fun _ => .pure _
  split
  · exact (Raises.modify _).bind fun _ => .pure _
  · exact .pure _

theorem entries_accounts (layer : String) (s : Store) :
    Accounts layer s (Step.outcome (metadataEntries layer) s) :=
  Accounts.forgiving [] (session_accounts (by decide) (fun id => exec_raises id _) s)

/-- What the errors of an operation that opens a layer name, in whatever state the store is. -/
theorem perform_accounts {o : Operation} (ho : o.opens? = some m) (s : Store) :
    Accounts m s (Step.outcome (perform o) s) := by
  cases o with
  | deleteRange | clear | layerExists | deleteLayer | renameLayer | destroy => cases ho
  | getTile key =>
    cases ho
    exact getTile_accounts key s
  | putTile key blob =>
    cases ho
    exact putTile_accounts key blob s
  | deleteTile key =>
    cases ho
    exact deleteTile_accounts key s
  | deleteGridset layer grid =>
    cases ho
    exact deleteGridset_accounts m grid s
  | getMetadata layer key =>
    cases ho
    exact Accounts.bind (Accounts.forgiving none (session_accounts (by decide) (fun id => exec_raises id _) s))
      fun _ => .pure _
  | putMetadata layer key value =>
    cases ho
    exact putMetadata_accounts m key value s
  | allMetadata layer =>
    cases ho
    exact Accounts.bind (Accounts.bind (entries_accounts m s) fun _ => .pure _) fun _ => .pure _
  | metadataEntries layer =>
    cases ho
    exact Accounts.bind (entries_accounts m s) fun _ => .pure _

/-- Every error of the store that an operation on the tiles or the metadata of a layer ends with names the
layer, but that of a file that cannot be opened.  That one comes up exactly where the operation opens the
layer and nothing can be opened or made at its path: there is a directory, or the way there cannot be
followed. -/
theorem names_iff {o : Operation} {e : StoreError} (ho : o.concerns? = some m)
    (he : Step.outcome (perform o) s = (.error (.store e), t)) :
    (e.Names m ∨ ∃ p, e = unopened p) ∧
      (s.Registered → (e.Names m ↔ ¬ (o.opens? = some m ∧ s.Blocked m))) := by
  by_cases hopens : o.opens? = some m
  · obtain ⟨hnames, hblocked⟩ := perform_accounts hopens s e (by rw [he])
    refine ⟨hnames, fun hs => ?_⟩
    rw [← hblocked hs]
    constructor
    · rintro hn ⟨-, p, hp⟩
      exact hn.ne_unopened p hp
    · exact fun hn => hnames.resolve_right fun hp => hn ⟨hopens, hp⟩
  · -- What is left is the operation that no store supports.
    cases o with
    | deleteRange range =>
      cases ho
      cases he
      have hnames : (StoreError.mk .rangesUnsupported (some range.layer) "delete_range").Names range.layer :=
        StoreError.names_of _ _ (by decide)
      exact ⟨.inl hnames, fun _ => iff_of_true hnames fun h => hopens h.1⟩
    | _ => exact absurd ho hopens

/-- A new store with a directory where the file of a layer would be. -/
def obstructedStore : Store :=
  { emptyStore with disk := (Disk.ofDirectory "layers").createDirectory ["layers", "roads.sqlite"] }

/-- The path of the file that cannot be opened. -/
def obstructedPath : Path := ⟨.here, ["layers", "roads.sqlite"]⟩

theorem obstructedStore_barred : obstructedStore.disk.Barred obstructedPath.resolved :=
  Disk.barred_of_directory (q := ["layers", "roads.sqlite"]) rfl

theorem obstructedStore_unnamed :
    ∃ t, Step.outcome (perform (.getTile ⟨"roads", "g", "png", ⟨0, 0, 0⟩⟩)) obstructedStore =
        (.error (.store (unopened obstructedPath)), t) ∧
      ¬ (unopened obstructedPath).Names "roads" := by
  have hpath : obstructedStore.pathOf? "roads" = some obstructedPath := by decide +kernel
  have hfault : (Step.outcome (perform (.getTile ⟨"roads", "g", "png", ⟨0, 0, 0⟩⟩)) obstructedStore).1 =
      .error (.store (unopened obstructedPath)) := by decide +kernel
  obtain ⟨t, hrun⟩ : ∃ t, Step.outcome (perform (.getTile ⟨"roads", "g", "png", ⟨0, 0, 0⟩⟩)) obstructedStore =
      (.error (.store (unopened obstructedPath)), t) := ⟨_, Prod.ext hfault rfl⟩
  have hregistered : obstructedStore.Registered := ⟨List.nodup_nil, nofun⟩
  refine ⟨t, hrun, fun hnames => ?_⟩
  exact ((names_iff rfl hrun).2 hregistered).1 hnames ⟨rfl, obstructedPath, hpath, obstructedStore_barred⟩

end Store

end TileDepot
