import Mathlib.Logic.Relation
import TileDepot.Proofs.Acquiring
import TileDepot.Proofs.Tidying

/-!
# Everything that can happen while a layer is opened

`Shift` lists, once for all, what getting hold of a handle can do to a store, whatever the directory
holds and whatever state the cache is in: handles are closed and forgotten, a file is made, the tables
are made in it or in a file that was met where nobody looked for one, a file is opened, and files beside
a database are taken away.  No row changes, and nothing is announced.  An invariant of the store that
every shift keeps is kept by everything that is built from shifts.

* `connect_cases` says how a file is found or made, and when there can be none.
* `openStore_cases` and `create_cases` say how opening and making the file of a layer end; `Opening.yields`
  and `Making.yields` say that either is a sequence of shifts, and that the handle which is handed out is
  one of the layer.
-/

namespace TileDepot

open Layer

/-! ## Paths of layers -/

namespace Store

/-- The path of a layer's file; the empty name has none. -/
def pathOf? (s : Store) (layer : String) : Option Path :=
  Layer.storePath? s.config.root s.config.extension layer

theorem pathOf_none {s : Store} {m : String} : s.pathOf? m = none ↔ m = "" := by
  rw [pathOf?, storePath?, Option.map_eq_none_iff, safeName?]
  by_cases hm : m = ""
  · subst hm
    exact ⟨fun _ => rfl, fun _ => rfl⟩
  · have he : m.isEmpty = false := by simpa using hm
    rw [he, if_neg (by simp)]
    exact iff_of_false (Option.some_ne_none _) hm

theorem exists_pathOf {s : Store} {m : String} (hm : m ≠ "") : ∃ p, s.pathOf? m = some p :=
  Option.ne_none_iff_exists'.1 (mt pathOf_none.1 hm)

theorem pathFor_some {s : Store} {m : String} {p : Path} (hp : s.pathOf? m = some p) :
    Step.outcome (pathFor m) s = (.ok p, s) := by
  rw [pathOf?] at hp
  simp only [pathFor, Step.run_bind, Step.run_view, hp, Step.run_pure]

end Store

/-- Nothing can be opened or made where a path leads: there is a directory, or the way there cannot be
followed. -/
def Disk.Barred (d : Disk) (p : Path) : Prop := ∀ q, d.locate p = .ok q → d.node? q = some .directory

namespace Disk

variable {d : Disk} {p : Path} {q : Place} {c : OsCause}

theorem barred_of_directory (h : d.find p = .ok (q, .directory)) : d.Barred p := by
  intro q' hl
  obtain ⟨hq, hn, -⟩ := find_place h
  rw [hq, Except.ok.injEq] at hl
  exact hl ▸ hn

theorem barred_of_error (h : d.locate p = .error c) : d.Barred p := by
  intro q hl
  rw [h] at hl
  cases hl

/-- What is found is no file where a path is barred. -/
theorem Barred.not_file (h : d.Barred p) {n : Nat} (hf : d.find p = .ok (q, .file n)) : False := by
  obtain ⟨hl, hn, -⟩ := find_place hf
  rw [h q hl] at hn
  cases hn

theorem vacant_of_error (hf : d.find p = .error c) (hl : d.locate p = .ok q) :
    c = .noEntry ∧ d.node? q = none := by
  cases hn : d.node? q with
  | none =>
    rw [find_of_vacant hl hn] at hf
    cases hf
    exact ⟨rfl, rfl⟩
  | some n =>
    rw [find_of_node hl hn] at hf
    cases hf

end Disk

/-- A database with the two tables of a store in the place of whatever it had for them. -/
def Database.furnished (db : Database) : Database :=
  { db with tiles := some ⟨.full, []⟩, metadata := some ⟨.full, []⟩ }

/-- The handle that a layer gets for a file at its path. -/
def Handle.fresh (layer : String) (path : Path) (file : Nat) (schema : Schema) : Handle :=
  ⟨layer, path, path.resolved.names, file, schema, [], false, false, false, .idle⟩

namespace Store

/-- The store with a new handle that is cached for a layer. -/
def enlist (s : Store) (layer : String) (h : Handle) : Store :=
  { s with issued := s.issued ++ [h], cache := s.cache.put layer s.issued.length }

/-! ## Shifts -/

/-- What can happen to a store at a time while a layer is opened. -/
inductive Shift : Store → Store → Prop
  /-- Something is written to the log. -/
  | logged (s : Store) (l : List LogRecord) : Shift s { s with log := l }
  /-- A closing by others that was pending has taken place. -/
  | counted {s : Store} {n : Nat} : n ≤ s.staleAcquires → Shift s { s with staleAcquires := n }
  /-- Files beside a layer's database are taken away. -/
  | tidied {s : Store} {layer : String} {p : Path} {d : Disk} : s.pathOf? layer = some p →
      s.disk.Tidied p.resolved.names d → Shift s { s with disk := d }
  /-- A handle comes to know more of its database. -/
  | learned {s : Store} {id : HandleId} {h k : Handle} : s.handle? id = some h → Kin h k →
      (h.transaction = .idle → k.transaction = .idle) → Shift s (s.setHandle id k)
  /-- A handle is forgotten and closed. -/
  | dropped (s : Store) (name : String) (id : HandleId) (l : List LogRecord) :
      Shift s { s with
        cache := s.without name id
        issued := s.issued.modify id Handle.released
        log := l }
  /-- A handle is closed. -/
  | closed (s : Store) (id : HandleId) :
      Shift s { s with issued := s.issued.modify id Handle.released }
  /-- A file is made for a layer whose path leads nowhere, and the tables are not. -/
  | blanked {s : Store} {layer : String} {p : Path} {d : Disk} : s.pathOf? layer = some p →
      s.disk.exists? p = .ok false → s.disk.locate p.resolved = .ok p.resolved.names →
      s.disk.node? p.resolved.names = none →
      (s.disk.createFile p.resolved.names (.raw .empty)).2.Tidied p.resolved.names d →
      Shift s { s with disk := d }
  /-- A file with the two tables is made for a layer whose path leads nowhere, and opened. -/
  | founded {s : Store} {layer : String} {p : Path} {d : Disk} : s.cache.get? layer = none →
      s.pathOf? layer = some p →
      s.disk.exists? p = .ok false → s.disk.locate p.resolved = .ok p.resolved.names →
      s.disk.node? p.resolved.names = none →
      (s.disk.createFile p.resolved.names (.raw .empty)).2.Tidied p.resolved.names d →
      Shift s (enlist { s with disk := commit d p.resolved.names s.disk.next .empty } layer
        (.fresh layer p s.disk.next Database.empty.schema))
  /-- The path of a layer leads nowhere, but there is a database where it leads once its double dots are
  resolved; the two tables are made in it, and it is opened. -/
  | grafted {s : Store} {layer : String} {p : Path} {n : Nat} {db : Database} {d : Disk} :
      s.cache.get? layer = none → s.pathOf? layer = some p → s.disk.exists? p = .ok false →
      s.disk.find p.resolved = .ok (p.resolved.names, .file n) → (contentOf s.disk n).view = .ok db →
      db.tiles = none → db.metadata = none → s.disk.Tidied p.resolved.names d →
      Shift s (enlist { s with disk := commit d p.resolved.names n db.furnished } layer
        (.fresh layer p n Database.empty.schema))
  /-- The file of a layer is opened. -/
  | opened {s : Store} {layer : String} {p : Path} {n : Nat} {db : Database} {d : Disk} :
      s.cache.get? layer = none → s.pathOf? layer = some p → s.disk.exists? p = .ok true →
      s.disk.find p.resolved = .ok (p.resolved.names, .file n) → (contentOf s.disk n).view = .ok db →
      db.missing = [] → s.disk.Tidied p.resolved.names d →
      Shift s (enlist { s with disk := d } layer (.fresh layer p n db.schema))

/-- A sequence of shifts. -/
abbrev Shifts : Store → Store → Prop := Relation.ReflTransGen Shift

theorem Shift.shifts {s t : Store} (h : Shift s t) : Shifts s t := .single h

theorem Shift.config {s t : Store} (h : Shift s t) : t.config = s.config := by
  cases h <;> rfl

theorem Shift.events {s t : Store} (h : Shift s t) : t.events = s.events := by
  cases h <;> rfl

theorem Shift.staleAcquires {s t : Store} (h : Shift s t) : t.staleAcquires ≤ s.staleAcquires := by
  cases h with
  | counted h => exact h
  | _ => exact Nat.le_refl _

theorem Shifts.config {s t : Store} (h : Shifts s t) : t.config = s.config := by
  induction h with
  | refl => rfl
  | tail _ hstep ih => exact hstep.config.trans ih

theorem Shifts.events {s t : Store} (h : Shifts s t) : t.events = s.events := by
  induction h with
  | refl => rfl
  | tail _ hstep ih => exact hstep.events.trans ih

theorem Shifts.staleAcquires {s t : Store} (h : Shifts s t) : t.staleAcquires ≤ s.staleAcquires := by
  induction h with
  | refl => exact Nat.le_refl _
  | tail _ hstep ih => exact Nat.le_trans hstep.staleAcquires ih

theorem Shifts.pathOf {s t : Store} (h : Shifts s t) (m : String) : t.pathOf? m = s.pathOf? m := by
  rw [pathOf?, pathOf?, h.config]

/-! ## Opening and making a file -/

/-- The two tables are made in a database that has neither, and nothing else becomes of it. -/
theorem withTables_ok {s : Store} {place : Place} {n : Nat} {db : Database}
    (h : withTables s place n = .ok db) :
    ∃ old, meet s.disk place n = .ok old ∧ old.tiles = none ∧ old.metadata = none ∧
      db = old.furnished := by
  rw [withTables] at h
  obtain ⟨old, hmeet, h⟩ := bind_ok h
  obtain ⟨htiles, h⟩ := unless_ok h
  obtain ⟨-, h⟩ := unless_ok h
  obtain ⟨-, h⟩ := unless_ok h
  obtain ⟨-, -, h⟩ := bind_ok h
  obtain ⟨hmeta, h⟩ := unless_ok h
  obtain ⟨-, h⟩ := unless_ok h
  rw [Bool.or_eq_true, not_or, Bool.not_eq_true, Option.isSome_eq_false_iff,
    Option.isNone_iff_eq_none] at htiles hmeta
  exact ⟨old, hmeet, htiles.1, hmeta.1, (Except.ok.inj h).symm⟩

/-- The error of a file that cannot be opened. -/
def unopened (p : Path) : StoreError := ⟨.cannotOpen p.toString .cannotOpen, none, "connect"⟩

/-- A path leads to a file, or to a place where one is made: the disk afterwards, and the number of the
file. -/
inductive Meets (d : Disk) (p : Path) : Bool → Disk → Nat → Prop
  | found {create : Bool} {n : Nat} : d.find p.resolved = .ok (p.resolved.names, .file n) → Meets d p create d n
  | made : d.locate p.resolved = .ok p.resolved.names → d.node? p.resolved.names = none →
      Meets d p true (d.createFile p.resolved.names (.raw .empty)).2 d.next

theorem Meets.not_barred {d e : Disk} {p : Path} {create : Bool} {n : Nat} (h : Meets d p create e n) :
    ¬ d.Barred p.resolved := by
  intro hb
  cases h with
  | found hf => exact hb.not_file hf
  | made hl hnone =>
    rw [hb _ hl] at hnone
    cases hnone

section Opening

variable {s : Store} {m : String} {p : Path}

/-- Opening the file at a path finds it, makes it, or is refused: a directory or nothing at all is where the
path leads, or the file is missing and not wanted. -/
theorem connect_cases (p : Path) (create : Bool) (s : Store) :
    (∃ d n, Meets s.disk p create d n ∧
      Step.outcome (connect p create) s = (.ok (p.resolved.names, n), { s with disk := d })) ∨
    Step.outcome (connect p create) s = (.error (.store (unopened p)), s) ∧
      (s.disk.Barred p.resolved ∨ create = false ∧ s.disk.find p.resolved = .error .noEntry) := by
  cases hf : s.disk.find p.resolved with
  | ok found =>
    obtain ⟨q, node⟩ := found
    have hq := Disk.locate_resolved_names (Disk.find_place hf).1
    subst hq
    cases node with
    | file n =>
      refine .inl ⟨s.disk, n, .found hf, ?_⟩
      simp only [connect, Step.run_bind, Step.run_view, hf, Step.run_pure]
    | directory =>
      refine .inr ⟨?_, .inl (Disk.barred_of_directory hf)⟩
      simp only [connect, Step.run_bind, Step.run_view, hf, Step.run_fail]
      rfl
  | error c =>
    cases hl : s.disk.locate p.resolved with
    | error c' =>
      refine .inr ⟨?_, .inl (Disk.barred_of_error hl)⟩
      cases c with
      | noEntry =>
        cases create with
        | true | false =>
          simp only [connect, Step.run_bind, Step.run_view, hf, hl, Step.run_fail]
          rfl
      | _ =>
        simp only [connect, Step.run_bind, Step.run_view, hf, Step.run_fail]
        rfl
    | ok q =>
      -- Names are followed all the way, so all that can be missing is the last one.
      have hq := Disk.locate_resolved_names hl
      subst hq
      obtain ⟨rfl, hnone⟩ := Disk.vacant_of_error hf hl
      cases create with
      | true =>
        refine .inl ⟨_, _, .made hl hnone, ?_⟩
        simp only [connect, Step.run_bind, Step.run_view, hf, hl, Step.run_changeDisk, Step.run_pure]
        rfl
      | false =>
        refine .inr ⟨?_, .inr ⟨rfl, rfl⟩⟩
        simp only [connect, Step.run_bind, Step.run_view, hf, Step.run_fail]
        rfl

/-- What opening the store file of a layer comes to. -/
inductive Opening (s : Store) (m : String) (p : Path) : Except Fault HandleId × Store → Prop
  | refused (l : List LogRecord) : s.disk.Barred p.resolved →
      Opening s m p (.error (.store (unopened p)), { s with log := l })
  | unreadable {n : Nat} {f : DbFault} (l : List LogRecord) :
      s.disk.find p.resolved = .ok (p.resolved.names, .file n) → meet s.disk p.resolved.names n = .error f →
      Opening s m p (.error (.store ⟨.notReadable p.name f, some m, "open"⟩),
        { s with disk := settle s.disk p.resolved.names n false, log := l })
  | lacking {n : Nat} {db : Database} (l : List LogRecord) :
      s.disk.find p.resolved = .ok (p.resolved.names, .file n) → meet s.disk p.resolved.names n = .ok db →
      db.missing ≠ [] → Opening s m p (.error (.store ⟨.tablesMissing p.name db.missing, some m, "open"⟩),
        { s with disk := settle s.disk p.resolved.names n false, log := l })
  | opened {n : Nat} {db : Database} (l : List LogRecord) :
      s.disk.find p.resolved = .ok (p.resolved.names, .file n) → meet s.disk p.resolved.names n = .ok db →
      db.missing = [] → Opening s m p (.ok s.issued.length, { s with
        disk := settle s.disk p.resolved.names n false
        issued := s.issued ++ [.fresh m p n db.schema]
        log := l })

/-- A path that leads to something leads there once it is resolved, too. -/
theorem found_resolved (hthere : s.disk.exists? p = .ok true) :
    s.disk.find p.resolved ≠ .error .noEntry := by
  intro hf
  obtain ⟨q, node, hfind⟩ := Disk.exists_iff.1 hthere
  obtain ⟨hl, hn, -⟩ := Disk.find_place hfind
  rw [Disk.find_of_node (Disk.locate_resolved hl) hn] at hf
  cases hf

/-- A store file that is there is opened if it can be read and holds both tables. -/
theorem openStore_cases (hp : s.pathOf? m = some p) (hthere : s.disk.exists? p = .ok true) :
    Opening s m p (Step.outcome (openStore m) s) := by
  simp only [openStore, Step.run_bind, pathFor_some hp, Step.run_note]
  generalize s.log ++ [LogRecord.mk .debug .schema ("Opening SQLite tile database " ++ p.name)] = l
  rcases connect_cases p false { s with log := l } with ⟨d, n, hmeets, hconn⟩ | ⟨hconn, hwhy⟩
  · rw [hconn]
    cases hmeets with
    | found hn =>
      cases hmeet : meet s.disk p.resolved.names n with
      | error f =>
        simp only [Step.run_view, Step.run_changeDisk, hmeet, Step.run_fail]
        exact .unreadable l hn hmeet
      | ok db =>
        by_cases hmissing : db.missing = []
        · simp only [Step.run_bind, Step.run_view, Step.run_changeDisk, hmeet, hmissing,
            List.isEmpty_nil, if_true, issue, Step.run_get, Step.run_set, Step.run_pure]
          exact .opened l hn hmeet hmissing
        · have hnot : db.missing.isEmpty = false := by
            rw [List.isEmpty_eq_false_iff]
            exact hmissing
          simp only [Step.run_view, Step.run_changeDisk, hmeet, hnot, Bool.false_eq_true, if_false,
            Step.run_fail]
          exact .lacking l hn hmeet hmissing
  · rw [hconn]
    exact .refused l (hwhy.resolve_right fun h => found_resolved hthere h.2)

/-- What making the store file of a layer comes to. -/
inductive Making (s : Store) (m : String) (p : Path) : Except Fault HandleId × Store → Prop
  | refused (l : List LogRecord) : s.disk.Barred p.resolved →
      Making s m p (.error (.store (unopened p)), { s with log := l })
  | failed {d : Disk} {n : Nat} {f : DbFault} (l : List LogRecord) : Meets s.disk p true d n →
      withTables { s with disk := settle d p.resolved.names n true } p.resolved.names n = .error f →
      Making s m p (.error (.store ⟨.schemaNotMade p.name f, some m, "create"⟩),
        { s with disk := settle d p.resolved.names n true, log := l })
  | made {d : Disk} {n : Nat} {db : Database} (l : List LogRecord) : Meets s.disk p true d n →
      withTables { s with disk := settle d p.resolved.names n true } p.resolved.names n = .ok db →
      Making s m p (.ok s.issued.length, { s with
        disk := commit (settle d p.resolved.names n true) p.resolved.names n db
        issued := s.issued ++ [.fresh m p n db.schema]
        log := l })

/-- Where the path of a layer leads nowhere, the two tables are made in a new file, or in the file that is
met, unless something keeps them from being made. -/
theorem create_cases (hp : s.pathOf? m = some p) (hthere : s.disk.exists? p = .ok false) :
    Making s m p (Step.outcome (create m) s) := by
  simp only [create, Step.run_bind, pathFor_some hp, Step.run_view, hthere, Step.run_ofDisk_ok,
    Bool.false_eq_true, if_false, Step.run_note]
  generalize s.log ++ [LogRecord.mk .info .schema ("Creating SQLite tile database " ++ p.name)] = l
  rcases connect_cases p true { s with log := l } with ⟨d, n, hmeets, hconn⟩ | ⟨hconn, hwhy⟩
  · rw [hconn]
    simp only [Step.run_changeDisk, Step.run_get]
    have hsame : withTables { s with disk := settle d p.resolved.names n true, log := l } p.resolved.names n =
        withTables { s with disk := settle d p.resolved.names n true } p.resolved.names n := rfl
    cases hddl : withTables { s with disk := settle d p.resolved.names n true } p.resolved.names n with
    | error f =>
      simp only [hsame, hddl, Step.run_bind, Step.run_note, Step.run_fail]
      exact .failed _ hmeets hddl
    | ok db =>
      simp only [hsame, hddl, Step.run_bind, Step.run_changeDisk, issue, Step.run_get, Step.run_set,
        Step.run_pure]
      exact .made l hmeets hddl
  · rw [hconn]
    exact .refused l (hwhy.resolve_right fun h => Bool.noConfusion h.1)

/-- What opening a file comes to: whether or not there is a file, and once the new handle is cached, it is
a sequence of shifts, and it is refused with an error of the store. -/
def Yields (m : String) (s : Store) (r : Except Fault HandleId × Store) : Prop :=
  match r with
  | (.ok id, t) => Shifts s { t with cache := t.cache.put m id }
  | (.error f, t) => Shifts s t ∧ ∃ e, f = .store e

/-- A store file that is there is opened if it holds both tables. -/
theorem Opening.yields {r : Except Fault HandleId × Store} (h : Opening s m p r)
    (hc : s.cache.get? m = none) (hp : s.pathOf? m = some p) (hthere : s.disk.exists? p = .ok true) :
    Yields m s r := by
  have hlog : ∀ l, Shifts s { s with log := l } := fun l => (Shift.logged s l).shifts
  have htidy := fun n => settle_tidied s.disk p.resolved.names n false
  cases h with
  | refused l => exact ⟨hlog l, _, rfl⟩
  | unreadable l | lacking l => exact ⟨(hlog l).tail (.tidied hp (htidy _)), _, rfl⟩
  | opened l hn hmeet hmissing =>
    exact (hlog l).tail (.opened (s := { s with log := l }) hc hp hthere hn (meet_view hmeet) hmissing (htidy _))

theorem contentOf_createFile (d : Disk) (p : Place) (content : Content) :
    contentOf (d.createFile p content).2 d.next = content := by
  have hbody : (d.createFile p content).2.body? d.next = some ⟨content, none⟩ :=
    Ordered.get?_put_self _ _ _
  rw [contentOf, hbody]
  rfl

/-- Where the path of a layer leads nowhere, a file is made, or the tables are made in the file that is
met, or it is refused with an error of the store. -/
theorem Making.yields {r : Except Fault HandleId × Store} (h : Making s m p r)
    (hc : s.cache.get? m = none) (hp : s.pathOf? m = some p) (hthere : s.disk.exists? p = .ok false) :
    Yields m s r := by
  have hlog : ∀ l, Shifts s { s with log := l } := fun l => (Shift.logged s l).shifts
  cases h with
  | refused l => exact ⟨hlog l, _, rfl⟩
  | @failed d n f l hmeets _ =>
    have htidy := settle_tidied d p.resolved.names n true
    cases hmeets with
    | found => exact ⟨(hlog l).tail (.tidied hp htidy), _, rfl⟩
    | made hl hnone => exact ⟨(hlog l).tail (.blanked hp hthere hl hnone htidy), _, rfl⟩
  | @made d n db l hmeets hddl =>
    have htidy := settle_tidied d p.resolved.names n true
    obtain ⟨old, hmeet, htiles, hmeta, rfl⟩ := withTables_ok hddl
    have hview := meet_view hmeet
    rw [htidy.contentOf_eq] at hview
    cases hmeets with
    | found hn =>
      exact (hlog l).tail (.grafted (s := { s with log := l }) hc hp hthere hn hview htiles hmeta htidy)
    | made hl hnone =>
      rw [contentOf_createFile] at hview
      cases hview
      exact (hlog l).tail (.founded (s := { s with log := l }) hc hp hthere hl hnone htidy)

end Opening

end Store

end TileDepot
