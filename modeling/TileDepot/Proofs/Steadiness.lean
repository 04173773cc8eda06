import TileDepot.Proofs.Inventory
import TileDepot.Proofs.Keeping

/-!
# Steps that do not look at the way reads are answered

Two stores are alike if they differ in nothing but their log and in whether they forgive reads that fail.
A step is `Steady` if it goes the same way in stores that are alike, and if all its faults are of a family.
Steady steps are made of steady ones by sequence and by catching faults, and everything a store does is
made so, up to the one place where a failed read of metadata is answered.

The family of interest is `Fault.Among`.  It leaves out two faults that a caller may cause by what it asks:
an empty layer name, and a number that is too large to be bound to a statement.

* `Steady.bind`, `Steady.tryCatch` and `Steady.get` are the rules, and `steady_exec` is about the statement
  that all work on a database comes down to.
* `steady_session` is the rule for work with a handle.
-/

namespace TileDepot

open Layer

/-! ## Stores that are alike -/

namespace Store

/-- The store with another way to answer failed reads and another log. -/
def retuned (b : Bool) (l : List LogRecord) (s : Store) : Store :=
  { s with config := { s.config with forgiving := b }, log := l }

/-- A store differs from another one in nothing but its log and whether it forgives, which it does as
told. -/
def Alike (s : Store) (b : Bool) (t : Store) : Prop := ∃ l, t = s.retuned b l

theorem Alike.self (s : Store) : s.Alike s.config.forgiving s := ⟨s.log, rfl⟩

end Store

/-! ## Faults that a caller may cause -/

/-- Any fault, but an empty layer name and a number that is too large only as far as they are allowed
for. -/
def Fault.Among (nameless overflow : Prop) : Fault → Prop
  | .emptyName => nameless
  | .db .integerTooLarge => overflow
  | .store ⟨.statement .integerTooLarge, _, _⟩ => overflow
  | _ => True

theorem Fault.Among.mono {n n' o o' : Prop} (hn : n → n') (ho : o → o') {f : Fault}
    (h : f.Among n o) : f.Among n' o' := by
  unfold Fault.Among at h ⊢
  split at h
  · exact hn h
  · exact ho h
  · exact ho h
  · trivial

namespace Step

variable {α β : Type} {P Q : Fault → Prop}

/-! ## Rules -/

/-- Two runs of a step end in the same way, and a fault is of a family. -/
inductive Parallel (P : Fault → Prop) (b : Bool) :
    Except Fault α × Store → Except Fault α × Store → Prop
  | ok {a : α} {s t : Store} (h : s.Alike b t) : Parallel P b (.ok a, s) (.ok a, t)
  | error {e : Fault} {s t : Store} (he : P e) (h : s.Alike b t) :
      Parallel P b (.error e, s) (.error e, t)

/-- A step goes the same way in stores that are alike, and its faults are of a family. -/
def Steady (P : Fault → Prop) (x : Step α) : Prop :=
  ∀ s b t, s.Alike b t → Parallel P b (outcome x s) (outcome x t)

namespace Steady

variable {x : Step α} {s : Store}

/-- A steady step does not change whether a store forgives. -/
theorem forgiving_eq (hx : Steady P x) : (outcome x s).2.config.forgiving = s.config.forgiving := by
  have hrun := hx s _ s (.self s)
  generalize outcome x s = r at hrun
  cases hrun with
  | ok h | error _ h =>
    obtain ⟨l, h⟩ := h
    have hconfig := congrArg (fun t : Store => t.config.forgiving) h
    exact hconfig

theorem pure (a : α) : Steady P (pure a : Step α) := fun _ _ _ h => .ok h

theorem throw {e : Fault} (he : P e) : Steady P (throw e : Step α) := fun _ _ _ h => .error he h

theorem bind {x : Step α} {f : α → Step β} (hx : Steady P x) (hf : ∀ a, Steady P (f a)) :
    Steady P (x >>= f) := by
  intro s b t h
  have hrun := hx s b t h
  rw [run_bind, run_bind]
  generalize outcome x s = r at hrun
  generalize outcome x t = r' at hrun
  cases hrun with
  | ok h => exact hf _ _ _ _ h
  | error he h => exact .error he h

theorem tryCatch {x : Step α} {f : Fault → Step α} (hx : Steady Q x)
    (hf : ∀ e, Q e → Steady P (f e)) : Steady P (tryCatch x f) := by
  intro s b t h
  have hrun := hx s b t h
  rw [run_tryCatch, run_tryCatch]
  generalize outcome x s = r at hrun
  generalize outcome x t = r' at hrun
  cases hrun with
  | ok h => exact .ok h
  | error he h => exact hf _ he _ _ _ h

/-- A step that may do something, or break off, before it goes on. -/
theorem guarded {b : Prop} [Decidable b] {x : Step PUnit} {f : PUnit → Step β} (hx : Steady P x)
    (hf : ∀ u, Steady P (f u)) : Steady P (if b then x >>= f else f ⟨⟩) := by
  split
  · exact hx.bind hf
  · exact hf _

/-- What is read off a store may decide how a step goes on, if it is the same in stores that are alike. -/
theorem get {f : Store → Step α} (hsame : ∀ s b l, f (s.retuned b l) = f s)
    (hf : ∀ s, Steady P (f s)) : Steady P (get >>= f) := by
  intro s b t h
  obtain ⟨l, rfl⟩ := h
  rw [run_bind, run_bind]
  simp only [run_get, hsame]
  exact hf s _ _ _ ⟨l, rfl⟩

theorem modify {f : Store → Store} (hsame : ∀ s b l, (f s).Alike b (f (s.retuned b l))) :
    Steady P (modify f : Step PUnit) := by
  intro s b t h
  obtain ⟨l, rfl⟩ := h
  exact .ok (hsame s b l)

theorem view {f : Store → α} (hsame : ∀ s b l, f (s.retuned b l) = f s) : Steady P (view f) :=
  get (fun _ _ _ => congrArg Pure.pure (hsame _ _ _)) (fun _ => pure _)

theorem note (severity : Severity) (channel : Channel) (message : String) :
    Steady P (note severity channel message) :=
  modify (fun _ _ l => ⟨l ++ [⟨severity, channel, message⟩], rfl⟩)

theorem announce (e : Event) : Steady P (announce e) := modify (fun _ _ l => ⟨l, rfl⟩)

theorem changeDisk (f : Disk → Disk) : Steady P (changeDisk f) := modify (fun _ _ l => ⟨l, rfl⟩)

theorem changeHandle (id : HandleId) (f : Handle → Handle) : Steady P (changeHandle id f) :=
  modify (fun _ _ l => ⟨l, rfl⟩)

theorem ofDb {r : Except DbFault α} (hr : ∀ f, r = .error f → P (.db f)) : Steady P (ofDb r) := by
  cases r with
  | ok a => exact pure a
  | error f => exact throw (hr f rfl)

theorem ofDisk {r : Except OsFault α} (hr : ∀ f, r = .error f → P (.os f)) : Steady P (ofDisk r) := by
  cases r with
  | ok a => exact pure a
  | error f => exact throw (hr f rfl)

theorem forM {γ : Type} {f : γ → Step Unit} (hf : ∀ a, Steady P (f a)) (l : List γ) :
    Steady P (l.forM f) := by
  induction l with
  | nil => exact pure _
  | cons a l ih =>
    show Steady P (f a >>= fun _ => l.forM f)
    exact (hf a).bind (fun _ => ih)

theorem mapM {γ : Type} {f : γ → Step α} {l : List γ} (hf : ∀ a ∈ l, Steady P (f a)) :
    Steady P (l.mapM f) := by
  induction l with
  | nil => exact pure _
  | cons a l ih =>
    rw [List.mapM_cons]
    refine (hf a (List.mem_cons_self ..)).bind (fun b => ?_)
    exact (ih (fun c hc => hf c (List.mem_cons_of_mem _ hc))).bind (fun _ => pure _)

end Steady

end Step

/-! ## Statements -/

section Except

variable {α β ε : Type} {e : ε}

theorem bind_ne {x : Except ε α} {f : α → Except ε β} (hx : x ≠ .error e) (hf : ∀ a, f a ≠ .error e) :
    (x >>= f) ≠ .error e := by
  intro h
  cases x with
  | ok a => exact hf a h
  | error e' =>
    cases h
    exact hx rfl

theorem mapM_ne {f : α → Except ε β} (hf : ∀ a, f a ≠ .error e) (l : List α) :
    l.mapM f ≠ .error e := by
  induction l with
  | nil =>
    intro h
    cases h
  | cons a l ih =>
    rw [List.mapM_cons]
    exact bind_ne (hf a) (fun b => bind_ne ih (fun bs => nofun))

end Except

/-- A number that is too large is only found when the numbers are bound, and only if that is allowed
for. -/
structure Statement.Bounded {α : Type} (overflow : Prop) (st : Statement α) : Prop where
  bind : st.bind = .error .integerTooLarge → overflow
  check : ∀ shape, st.check shape ≠ .error .integerTooLarge
  run : ∀ db, st.run db ≠ .error .integerTooLarge

namespace Statement

theorem check_unlessKeyOnly {f : DbFault} (hf : f ≠ .integerTooLarge) (shape : Shape) :
    unlessKeyOnly f shape ≠ .error .integerTooLarge := by
  intro h
  cases shape with
  | keyOnly =>
    cases h
    exact hf rfl
  | full => cases h
  | guarded => cases h

theorem bind_bindKey {k : RowKey} (h : bindKey k = .error .integerTooLarge) : ¬ k.fits := by
  intro hk
  rw [bindKey, if_pos hk] at h
  cases h

theorem readText_ne (column : String) (c : TextCell) : readText column c ≠ .error .integerTooLarge := by
  intro h
  cases c <;> cases h

section Bounded

variable {o : Prop} {k : RowKey}

theorem bounded_selectTile (h : ¬ k.fits → o) : (selectTile k).Bounded o where
  bind e := h (bind_bindKey e)
  check := check_unlessKeyOnly (by decide)
  run := by
    intro db e
    cases e

theorem bounded_updateTile (h : ¬ k.fits → o) (b : Blob) : (updateTile k (.blob b)).Bounded o where
  bind e := h (bind_bindKey e)
  check := check_unlessKeyOnly (by decide)
  run := by
    intro db e
    cases e

theorem bounded_insertTile (h : ¬ k.fits → o) (b : Blob) : (insertTile k (.blob b)).Bounded o where
  bind e := h (bind_bindKey e)
  check := check_unlessKeyOnly (by decide)
  run := by
    intro db e
    simp only [insertTile] at e
    split at e <;> cases e

theorem bounded_deleteTile (h : ¬ k.fits → o) : (deleteTile k).Bounded o where
  bind e := h (bind_bindKey e)
  check := check_unlessKeyOnly (by decide)
  run := by
    intro db e
    cases e

theorem bounded_deleteGrid (grid : String) : (deleteGrid grid).Bounded o where
  bind e := by cases e
  check := by
    intro shape e
    cases e
  run := by
    intro db e
    cases e

theorem bounded_selectValue (key : String) : (selectValue key).Bounded o where
  bind e := by cases e
  check := check_unlessKeyOnly (by decide)
  run := by
    intro db
    simp only [selectValue]
    split
    · intro h
      cases h
    · refine bind_ne (readText_ne _ _) (fun value => ?_)
      intro h
      cases h

theorem bounded_selectEntries : selectEntries.Bounded o where
  bind e := by cases e
  check := check_unlessKeyOnly (by decide)
  run := by
    intro db
    refine bind_ne (mapM_ne (fun r => ?_) _) (fun _ => nofun)
    exact bind_ne (readText_ne _ _) (fun _ => bind_ne (readText_ne _ _) (fun _ => nofun))

theorem bounded_updateValue (key value : String) : (updateValue key value).Bounded o where
  bind e := by cases e
  check := check_unlessKeyOnly (by decide)
  run := by
    intro db e
    cases e

theorem bounded_insertValue (key value : TextCell) : (insertValue key value).Bounded o where
  bind e := by cases e
  check := check_unlessKeyOnly (by decide)
  run := by
    intro db e
    simp only [insertValue] at e
    split at e <;> cases e

end Bounded

end Statement

namespace Store

variable {α β : Type} {n o : Prop} {id : HandleId} {m : String}

/-! ## Files and handles -/

theorem obstacle_ne (d : Disk) (p : Place) (b : Bool) : obstacle d p b ≠ .error .integerTooLarge := by
  intro h
  rw [obstacle] at h
  split at h
  · split at h <;> cases h
  · split at h
    · cases h
    · split at h <;> cases h

theorem writeObstacle_ne (d : Disk) (p : Place) (file : Nat) (b : Bool) :
    writeObstacle d p file b ≠ .error .integerTooLarge := by
  intro h
  rw [writeObstacle] at h
  split at h
  · cases h
  · split at h <;> cases h

theorem startObstacle_ne (d : Disk) (p : Place) : startObstacle d p ≠ .error .integerTooLarge := by
  intro h
  rw [startObstacle] at h
  split at h
  · cases h
  · split at h <;> cases h

theorem view_ne (x : Content) : x.view ≠ .error .integerTooLarge := by
  intro h
  cases x with
  | database db => cases h
  | raw bytes =>
    simp only [Content.view] at h
    split at h
    · cases h
    · split at h <;> cases h

theorem meet_ne (d : Disk) (p : Place) (file : Nat) : meet d p file ≠ .error .integerTooLarge := by
  rw [meet]
  split
  · intro h
    cases h
  · exact bind_ne (obstacle_ne _ _ _) (fun _ => view_ne _)

theorem checkAgain_ne (d : Disk) (h : Handle) (st : Statement α) :
    checkAgain d h st ≠ .error .integerTooLarge := by
  intro e
  rw [checkAgain] at e
  split at e <;> cases e

theorem enter_ne (d : Disk) (h : Handle) (st : Statement α) :
    enter d h st ≠ .error .integerTooLarge := by
  rw [enter]
  split
  · exact nofun
  all_goals
    refine bind_ne (meet_ne _ _ _) (fun db => ?_)
    dsimp only
    split
    · by_cases hlock : (!(d.locksOn h.file).isEmpty) = true
      · rw [if_pos hlock]
        exact nofun
      · rw [if_neg hlock]
        split
        · exact bind_ne (startObstacle_ne _ _) (fun _ => nofun)
        · exact nofun
    · exact nofun

theorem runOn_ne (d : Disk) (h : Handle) (db : Database) {st : Statement α} (hst : st.Bounded o) :
    runOn d h db st ≠ .error .integerTooLarge := by
  rw [runOn]
  split
  · exact nofun
  · refine bind_ne (hst.check _) (fun _ => bind_ne (hst.run db) (fun effect => ?_))
    split
    · exact bind_ne (writeObstacle_ne _ _ _ _) (fun _ => nofun)
    · exact nofun

theorem prepare_ne (d : Disk) (h : Handle) {st : Statement α} (hst : st.Bounded o) :
    (prepare d h st).1 ≠ .error .integerTooLarge := by
  simp only [prepare]
  split
  · exact nofun
  · split
    · exact nofun
    · split
      · rename_i f hf
        intro e
        simp only [Except.error.injEq] at e
        exact hst.check _ (e ▸ hf)
      · exact nofun

/-- Consulting a database finds a number too large only where the statement is allowed to have one. -/
theorem consult_overflow {d : Disk} {h : Handle} {st : Statement α} (hst : st.Bounded o)
    (he : (consult d h st).1 = .error .integerTooLarge) : o := by
  simp only [consult] at he
  split at he
  · cases he
  · split at he
    · rename_i f h' hf
      have hprepare : (prepare d h st).1 = .error f := by rw [hf]
      simp only [Except.error.injEq] at he
      exact absurd (he ▸ hprepare) (prepare_ne d h hst)
    · split at he
      · rename_i f hb
        simp only [Except.error.injEq] at he
        exact hst.bind (he ▸ hb)
      · rename_i f _ hf
        simp only [Except.error.injEq] at he
        exact absurd (he ▸ hf) (checkAgain_ne _ _ _)
      · split at he
        · rename_i f hf
          simp only [Except.error.injEq] at he
          exact absurd (he ▸ hf) (enter_ne _ _ _)
        · exact absurd he (runOn_ne _ _ _ hst)

/-! ## Work on a database -/

section Programs

open Step

theorem among_db {f : DbFault} (h : f = .integerTooLarge → o) : (Fault.db f).Among n o := by
  cases f with
  | integerTooLarge => exact h rfl
  | _ => trivial

theorem eq_empty_of_storePath {root : Path} {ext : String} (h : storePath? root ext m = none) :
    m = "" := by
  by_contra hne
  rw [storePath?, safeName?_of_ne hne] at h
  cases h

theorem steady_pathFor (hm : m = "" → n) : Steady (Fault.Among n o) (pathFor m) := by
  rw [pathFor, Step.view, bind_assoc]
  refine Steady.get (fun s b l => ?_) (fun s => ?_)
  · simp only [pure_bind]
    rfl
  · rw [pure_bind]
    split
    · exact Steady.pure _
    · rename_i h
      exact Steady.throw (hm (eq_empty_of_storePath h))

theorem steady_keep (after : Database) : Steady (Fault.Among n o) (keep id after) := by
  refine Steady.get (fun _ _ _ => rfl) (fun s => ?_)
  split
  · exact Steady.pure _
  · split
    · exact (Steady.changeDisk _).bind (fun _ => Steady.changeHandle _ _)
    · exact Steady.changeHandle _ _
    · exact Steady.changeHandle _ _

theorem steady_commitChanges : Steady (Fault.Among n o) (commitChanges id) := by
  refine Steady.get (fun _ _ _ => rfl) (fun s => ?_)
  split
  · exact Steady.pure _
  · refine (Steady.changeHandle _ _).bind (fun _ => ?_)
    split
    · exact Steady.pure _
    · exact Steady.pure _
    · exact steady_keep _

theorem steady_transact {body : Step α} (hbody : Steady (Fault.Among n o) body) :
    Steady (Fault.Among n o) (transact id body) := by
  refine (hbody.tryCatch (fun f hf => ?_)).bind (fun a => ?_)
  · exact (Steady.changeHandle _ _).bind (fun _ => Steady.throw hf)
  · exact steady_commitChanges.bind (fun _ => Steady.pure a)

theorem steady_exec {st : Statement α} (hst : st.Bounded o) :
    Steady (Fault.Among n o) (exec id st) := by
  refine Steady.get (fun _ _ _ => rfl) (fun s => ?_)
  split
  · exact Steady.throw trivial
  · rename_i h _
    refine (Steady.changeDisk _).bind (fun _ => (Steady.changeHandle _ _).bind (fun _ => ?_))
    refine (Steady.ofDb (fun f hf => among_db (fun e => ?_))).bind (fun effect => ?_)
    · exact consult_overflow hst (e ▸ hf)
    · split
      · exact Steady.pure _
      · exact (steady_keep _).bind (fun _ => Steady.pure _)

theorem steady_connect (path : Path) (b : Bool) : Steady (Fault.Among n o) (connect path b) := by
  have hrefuse : Steady (Fault.Among n o)
      (Step.fail (.cannotOpen path.toString .cannotOpen) none "connect" : Step (Place × Nat)) :=
    Steady.throw trivial
  rw [connect]
  refine (Steady.view (fun _ _ _ => rfl)).bind (fun d => ?_)
  split
  · exact Steady.pure _
  · exact hrefuse
  · split
    · exact (Steady.changeDisk _).bind (fun _ => Steady.pure _)
    · exact hrefuse
  · exact hrefuse

theorem steady_issue (layer : String) (path : Path) (place : Place) (file : Nat) (schema : Schema) :
    Steady (Fault.Among n o) (issue layer path place file schema) := by
  intro s b t h
  obtain ⟨l, rfl⟩ := h
  exact .ok ⟨l, rfl⟩

theorem steady_isOpen : Steady (Fault.Among n o) (isOpen id) := by
  refine Steady.get (fun _ _ _ => rfl) (fun s => ?_)
  split
  · exact Steady.pure _
  · split
    · exact Steady.pure _
    · refine (Steady.ofDisk (fun _ _ => trivial)).bind (fun there => ?_)
      split
      · exact Steady.pure _
      · split
        · exact (Steady.note _ _ _).bind (fun _ => Steady.pure _)
        · exact Steady.pure _

theorem steady_close : Steady (Fault.Among n o) (close id) := by
  refine Steady.get (fun _ _ _ => rfl) (fun s => ?_)
  split
  · exact Steady.pure _
  · split
    · refine (Steady.changeHandle _ _).bind (fun _ => ?_)
      exact (Steady.throw trivial).bind (fun _ => Steady.changeHandle _ _)
    · exact Steady.changeHandle _ _

/-! ## Files of layers -/

theorem steady_create (hm : m = "" → n) : Steady (Fault.Among n o) (create m) := by
  refine (steady_pathFor hm).bind (fun path => (Steady.view (fun _ _ _ => rfl)).bind (fun d => ?_))
  refine (Steady.ofDisk (fun _ _ => trivial)).bind (fun there => ?_)
  refine Steady.guarded (Steady.throw trivial) (fun _ => (Steady.note _ _ _).bind (fun _ => ?_))
  refine (steady_connect _ _).bind (fun found => (Steady.changeDisk _).bind (fun _ => ?_))
  refine Steady.get (fun _ _ _ => rfl) (fun s => ?_)
  split
  · exact (Steady.note _ _ _).bind (fun _ => Steady.throw trivial)
  · exact (Steady.changeDisk _).bind (fun _ => steady_issue _ _ _ _ _)

theorem steady_openStore (hm : m = "" → n) : Steady (Fault.Among n o) (openStore m) := by
  refine (steady_pathFor hm).bind (fun path => (Steady.note _ _ _).bind (fun _ => ?_))
  refine (steady_connect _ _).bind (fun found => (Steady.view (fun _ _ _ => rfl)).bind (fun d => ?_))
  refine (Steady.changeDisk _).bind (fun _ => ?_)
  split
  · exact Steady.throw trivial
  · split
    · exact steady_issue _ _ _ _ _
    · exact Steady.throw trivial

/-! ## Handles that are kept -/

theorem steady_closeQuietly : Steady (Fault.Among n o) (closeQuietly id) := by
  refine Steady.tryCatch (Q := Fault.Among n o) steady_close (fun f hf => ?_)
  split
  · exact Steady.get (fun _ _ _ => rfl) (fun _ => Steady.note _ _ _)
  · exact Steady.throw hf

theorem steady_dropHandle : Steady (Fault.Among n o) (dropHandle m id) := by
  refine (Steady.modify (fun s b l => ?_)).bind (fun _ => steady_closeQuietly)
  show Alike (if s.cache.get? m = some id then _ else s) b (if s.cache.get? m = some id then _ else _)
  split
  · exact ⟨l, rfl⟩
  · exact ⟨l, rfl⟩

theorem steady_cached : Steady (Fault.Among n o) (cached m) := Steady.view (fun _ _ _ => rfl)

theorem steady_usable : Steady (Fault.Among n o) (usable m) := by
  refine steady_cached.bind (fun c => ?_)
  split
  · exact Steady.pure _
  · refine steady_isOpen.bind (fun b => ?_)
    split
    · exact Steady.pure _
    · exact Steady.pure _

theorem steady_renew (hm : m = "" → n) : Steady (Fault.Among n o) (renew m) := by
  refine (steady_pathFor hm).bind (fun path => (Steady.view (fun _ _ _ => rfl)).bind (fun d => ?_))
  refine (Steady.ofDisk (fun _ _ => trivial)).bind (fun there => ?_)
  have hkeep : ∀ id, Steady (Fault.Among n o) (do
      modify (fun s : Store => { s with cache := s.cache.put m id })
      return id : Step HandleId) :=
    fun id => (Steady.modify (fun _ _ l => ⟨l, rfl⟩)).bind (fun _ => Steady.pure _)
  split
  · exact (steady_openStore hm).bind hkeep
  · exact (steady_create hm).bind hkeep

theorem steady_obtain (hm : m = "" → n) : Steady (Fault.Among n o) (obtain m) := by
  refine steady_usable.bind (fun c => ?_)
  split
  · exact Steady.pure _
  · refine (steady_pathFor hm).bind (fun _ => steady_cached.bind (fun c => ?_))
    split
    · exact steady_renew hm
    · refine steady_isOpen.bind (fun b => ?_)
      split
      · exact Steady.pure _
      · refine Steady.get (fun _ _ _ => rfl) (fun s => (Steady.note _ _ _).bind (fun _ => ?_))
        exact steady_dropHandle.bind (fun _ => steady_renew hm)

theorem steady_acquire (hm : m = "" → n) : Steady (Fault.Among n o) (acquire m) := by
  refine Steady.get (fun _ _ _ => rfl) (fun s => ?_)
  refine (Steady.modify (fun _ _ l => ⟨l, rfl⟩)).bind (fun _ => (steady_obtain hm).bind (fun id => ?_))
  split
  · exact steady_close.bind (fun _ => Steady.pure _)
  · exact Steady.pure _

theorem steady_acquireOpen (hm : m = "" → n) (retries : Nat) :
    Steady (Fault.Among n o) (acquireOpen m retries) := by
  induction retries with
  | zero => exact steady_acquire hm
  | succ retries ih =>
    refine (steady_acquire hm).bind (fun id => Steady.get (fun _ _ _ => rfl) (fun s => ?_))
    split
    · exact ih
    · exact Steady.pure _

/-- Work with a handle is steady if what is done with the handle is. -/
theorem steady_session {body : HandleId → Step α} (hm : m = "" → n)
    (hbody : ∀ id, Steady (Fault.Among n o) (body id)) :
    Steady (Fault.Among n o) (session m body) :=
  Steady.get (fun _ _ _ => rfl) (fun _ => (steady_acquireOpen hm _).bind hbody)

theorem steady_translated {x : Step α} (operation : String) (hx : Steady (Fault.Among n o) x) :
    Steady (Fault.Among n o) (Step.translated m operation x) := by
  refine hx.tryCatch (fun f hf => ?_)
  split
  · rename_i f'
    refine Steady.throw ?_
    cases f' with
    | integerTooLarge => exact hf
    | _ => trivial
  · exact Steady.throw hf

theorem steady_invalidate (hm : m = "" → n) : Steady (Fault.Among n o) (invalidate m) := by
  refine (steady_pathFor hm).bind (fun path => Steady.get (fun _ _ _ => rfl) (fun s => ?_))
  exact Steady.forM (fun _ => steady_dropHandle) _

theorem steady_releaseAll : Steady (Fault.Among n o) releaseAll := by
  refine Steady.get (fun _ _ _ => rfl) (fun s => ?_)
  refine (Steady.modify (fun _ _ l => ⟨l, rfl⟩)).bind (fun _ => (Steady.note _ _ _).bind (fun _ => ?_))
  exact Steady.forM (fun _ => steady_closeQuietly) _

/-! ## Operations -/

section Tiles

variable {key : TileKey}

theorem among_blobOf {cell : Cell} {f : Fault} (h : blobOf cell = .error f) : f.Among n o := by
  cases cell with
  | null => cases h
  | blob b => cases h
  | text t =>
    cases h
    trivial
  | integer i =>
    simp only [blobOf] at h
    split at h
    · cases h
      trivial
    · cases h

theorem steady_modifiedAt (path : Path) : Steady (Fault.Among n o) (modifiedAt path) := by
  refine (Steady.view (fun _ _ _ => rfl)).bind (fun d => ?_)
  split
  · exact Steady.pure _
  · exact Steady.pure _
  · exact (Steady.note _ _ _).bind (fun _ => Steady.pure _)

theorem steady_getTile (hm : key.layer = "" → n) (hk : ¬ key.row.fits → o) :
    Steady (Fault.Among n o) (getTile key) := by
  refine (steady_translated _ (steady_session hm (fun id => ?_))).bind (fun found => ?_)
  · refine (steady_exec (Statement.bounded_selectTile hk)).bind (fun cell => ?_)
    refine (steady_pathFor hm).bind (fun path => ?_)
    split
    · exact Steady.pure _
    · exact Steady.pure _
    · exact (steady_modifiedAt path).bind (fun _ => Steady.pure _)
  · split
    · exact Steady.pure _
    · split
      · rename_i f hf
        exact Steady.throw (among_blobOf hf)
      · exact Steady.pure _
      · exact Steady.pure _

theorem steady_putTile (hm : key.layer = "" → n) (hk : ¬ key.row.fits → o) (blob : Blob) :
    Steady (Fault.Among n o) (putTile key blob) := by
  refine (steady_translated _ (steady_session hm (fun id => steady_transact ?_))).bind
    (fun _ => Steady.announce _)
  refine (steady_exec (Statement.bounded_updateTile hk _)).bind (fun count => ?_)
  split
  · exact steady_exec (Statement.bounded_insertTile hk _)
  · exact Steady.pure _

theorem steady_deleteTile (hm : key.layer = "" → n) (hk : ¬ key.row.fits → o) :
    Steady (Fault.Among n o) (deleteTile key) := by
  refine (Steady.note _ _ _).bind (fun _ => ?_)
  refine (steady_translated _ (steady_session hm (fun id =>
    steady_transact (steady_exec (Statement.bounded_deleteTile hk))))).bind (fun count => ?_)
  split
  · exact (Steady.announce _).bind (fun _ => Steady.pure _)
  · exact Steady.pure _

end Tiles

theorem steady_deleteGridset (hm : m = "" → n) (grid : String) :
    Steady (Fault.Among n o) (deleteGridset m grid) := by
  refine (Steady.note _ _ _).bind (fun _ => ?_)
  refine (steady_translated _ (steady_session hm (fun id =>
    steady_transact (steady_exec (Statement.bounded_deleteGrid grid))))).bind (fun count => ?_)
  split
  · exact (Steady.announce _).bind (fun _ => Steady.pure _)
  · exact Steady.pure _

theorem steady_putMetadata (hm : m = "" → n) (key value : String) :
    Steady (Fault.Among n o) (putMetadata m key value) := by
  refine (steady_translated _ (steady_session hm (fun id => steady_transact ?_))).bind
    (fun _ => Steady.note _ _ _)
  refine (steady_exec (Statement.bounded_updateValue key value)).bind (fun count => ?_)
  split
  · exact steady_exec (Statement.bounded_insertValue _ _)
  · exact Steady.pure _

theorem steady_layerExists (hm : m = "" → n) : Steady (Fault.Among n o) (layerExists m) :=
  (steady_pathFor hm).bind (fun _ => (Steady.view (fun _ _ _ => rfl)).bind
    (fun _ => Steady.ofDisk (fun _ _ => trivial)))

theorem steady_removeSidecars (path : Path) : Steady (Fault.Among n o) (removeSidecars path) := by
  refine Steady.forM (fun suffix => (Steady.view (fun _ _ _ => rfl)).bind (fun d => ?_)) _
  split
  · exact Steady.changeDisk _
  · split
    · exact Steady.pure _
    · exact Steady.throw trivial

theorem steady_lockOrder {layers : List String} (hm : ∀ m ∈ layers, m = "" → n) :
    Steady (Fault.Among n o) (lockOrder layers) :=
  (Steady.mapM (fun m h => steady_pathFor (hm m h))).bind (fun _ => Steady.pure _)

theorem steady_deleteLayer (hm : m = "" → n) : Steady (Fault.Among n o) (deleteLayer m) := by
  have hlock : Steady (Fault.Among n o) (lockOrder [m]) :=
    steady_lockOrder (by simpa using hm)
  refine (Steady.note _ _ _).bind (fun _ => (steady_pathFor hm).bind (fun path => ?_))
  refine hlock.bind (fun _ => (steady_invalidate hm).bind (fun _ => ?_))
  refine (Steady.view (fun _ _ _ => rfl)).bind (fun d => ?_)
  split
  · split
    · exact Steady.pure _
    · exact Steady.throw trivial
  · refine (Steady.changeDisk _).bind (fun _ => (steady_removeSidecars _).bind (fun _ => ?_))
    exact (Steady.announce _).bind (fun _ => Steady.pure _)

theorem steady_renameLayer {source target : String} (hs : source = "" → n) (ht : target = "" → n) :
    Steady (Fault.Among n o) (renameLayer source target) := by
  have hlock : Steady (Fault.Among n o) (lockOrder [source, target]) :=
    steady_lockOrder (by simpa using ⟨hs, ht⟩)
  refine (Steady.note _ _ _).bind (fun _ => (steady_pathFor hs).bind (fun sourcePath => ?_))
  refine (steady_pathFor ht).bind (fun targetPath => ?_)
  split
  · exact (steady_invalidate hs).bind (fun _ => Steady.pure _)
  · refine hlock.bind (fun _ => Steady.get (fun _ _ _ => rfl) (fun s => ?_))
    refine (Steady.ofDisk (fun _ _ => trivial)).bind (fun taken => ?_)
    refine Steady.guarded (Steady.throw trivial) (fun _ => (steady_invalidate hs).bind (fun _ => ?_))
    refine (steady_invalidate ht).bind (fun _ => Steady.get (fun _ _ _ => rfl) (fun s => ?_))
    refine (Steady.ofDisk (fun _ _ => trivial)).bind (fun there => ?_)
    split
    · exact (Steady.note _ _ _).bind (fun _ => Steady.pure _)
    · refine Steady.get (fun _ _ _ => rfl) (fun s => ?_)
      split
      · exact Steady.throw trivial
      · refine (Steady.changeDisk _).bind (fun _ => (steady_removeSidecars _).bind (fun _ => ?_))
        exact (Steady.announce _).bind (fun _ => Steady.pure _)

/-- What a read of metadata answers where there is nothing. -/
def Operation.absence? : Operation → Option Answer
  | .getMetadata _ _ => some (.value none)
  | .allMetadata _ => some (.pairs [])
  | .metadataEntries layer => some (.entries layer [])
  | _ => none

/-- The tile that an operation is about. -/
def Operation.tile? : Operation → Option TileKey
  | .getTile key | .putTile key _ | .deleteTile key => some key
  | _ => none

/-- How an operation is made of a steady step: it is one, or it is a read that may be answered in another
way if it fails. -/
inductive Operation.Made (P : Fault → Prop) : Option Answer → Step Answer → Prop
  | steady {x : Step Answer} (hx : Steady P x) : Made P none x
  | read {γ : Type} {x : Step γ} (hx : Steady P x) (nothing : γ) (g : γ → Answer) :
      Made P (some (g nothing)) (forgiving nothing x >>= fun a => pure (g a))

/-- A read of metadata is steady before its failure is answered. -/
theorem steady_read {st : Statement α} (operation : String) (hm : m = "" → n) (hst : st.Bounded o) :
    Steady (Fault.Among n o) (Step.translated m operation (session m (fun id => exec id st))) :=
  steady_translated _ (steady_session hm (fun _ => steady_exec hst))

/-- Every operation is made of a steady step, whose faults are among those that its layers and its tile
can cause. -/
theorem perform_made (op : Operation) (hn : "" ∈ op.layers → n)
    (ho : ∀ key, op.tile? = some key → ¬ key.row.fits → o) :
    Operation.Made (Fault.Among n o) op.absence? (perform op) := by
  have hdone : ∀ {γ : Type} {x : Step γ} (g : γ → Answer), Steady (Fault.Among n o) x →
      Operation.Made (Fault.Among n o) none (x >>= fun a => pure (g a)) :=
    fun g hx => .steady (hx.bind (fun _ => Steady.pure _))
  have hone : ∀ {m : String}, op.layers = [m] → m = "" → n := by
    rintro m h rfl
    exact hn (h ▸ List.mem_singleton_self _)
  cases op with
  | getTile key => exact hdone _ (steady_getTile (hone rfl) (ho key rfl))
  | putTile key blob => exact hdone _ (steady_putTile (hone rfl) (ho key rfl) blob)
  | deleteTile key => exact hdone _ (steady_deleteTile (hone rfl) (ho key rfl))
  | deleteGridset layer grid => exact hdone _ (steady_deleteGridset (hone rfl) grid)
  | deleteRange range => exact hdone (x := deleteRange range) _ (Steady.throw trivial)
  | clear => exact hdone (x := clear) _ (Steady.throw trivial)
  | layerExists layer => exact hdone _ (steady_layerExists (hone rfl))
  | deleteLayer layer => exact hdone _ (steady_deleteLayer (hone rfl))
  | renameLayer source target =>
    refine hdone _ (steady_renameLayer ?_ ?_)
    · rintro rfl
      exact hn (List.mem_cons_self ..)
    · rintro rfl
      exact hn (List.mem_cons_of_mem _ (List.mem_singleton_self _))
  | getMetadata layer key =>
    exact .read (steady_read _ (hone rfl) (Statement.bounded_selectValue key)) none _
  | putMetadata layer key value => exact hdone _ (steady_putMetadata (hone rfl) key value)
  | allMetadata layer =>
    have hread := steady_read (n := n) (o := o) "get_metadata" (hone rfl) Statement.bounded_selectEntries
    have hmade := Operation.Made.read hread [] (fun ps => Answer.pairs (Ordered.ofPairs ps))
    have heq : perform (.allMetadata layer) =
        metadataEntries layer >>= fun ps => pure (Answer.pairs (Ordered.ofPairs ps)) := by
      simp only [perform, allMetadata, bind_assoc, pure_bind]
    rw [heq]
    exact hmade
  | metadataEntries layer =>
    exact .read (steady_read _ (hone rfl) Statement.bounded_selectEntries) [] _
  | destroy => exact hdone _ ((Steady.note _ _ _).bind (fun _ => steady_releaseAll))

end Programs

end Store

end TileDepot
