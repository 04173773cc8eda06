import TileDepot.Proofs.Custody
import TileDepot.Store.Setup

/-!
# Stores that keep shelves

`Store.Keeps` ties a store to the shelves that its files come to: the disk holds the shelves, and every
cached handle is one of its name's file.  A handle that is live, which is to say neither closed nor
severed, is on the file that lies at its path now, as far as `Slack` makes no exception.  A name may be
idle, so that its handle is on no file while there is none at its path, and it may be stray, which an
idle name becomes as soon as its file is made again under another name.

* `Keeps.weaken` says that closing and forgetting handles, and whatever is logged, changes nothing.
* `Handle.Leads` says that a handle is live and on the file of a layer.
* `Spares` says what work on one layer leaves alone: the cached handles of all other names, and every
  file that was there.
-/

namespace TileDepot

open Layer Store

/-! ## Small steps -/

namespace Step

variable {α : Type}

theorem run_view (f : Store → α) (s : Store) : outcome (view f) s = (.ok (f s), s) := rfl

theorem run_note (severity : Severity) (channel : Channel) (message : String) (s : Store) :
    outcome (note severity channel message) s =
      (.ok (), { s with log := s.log ++ [⟨severity, channel, message⟩] }) := rfl

theorem run_announce (e : Event) (s : Store) :
    outcome (announce e) s = (.ok (), { s with events := s.events ++ [e] }) := rfl

theorem run_changeDisk (f : Disk → Disk) (s : Store) :
    outcome (changeDisk f) s = (.ok (), { s with disk := f s.disk }) := rfl

theorem run_changeHandle (id : HandleId) (f : Handle → Handle) (s : Store) :
    outcome (changeHandle id f) s = (.ok (), { s with issued := s.issued.modify id f }) := rfl

theorem run_fail (cause : Cause) (layer : Option String) (operation : String) (s : Store) :
    outcome (fail cause layer operation : Step α) s = (.error (.store ⟨cause, layer, operation⟩), s) :=
  rfl

theorem run_ofDisk_ok (a : α) (s : Store) : outcome (ofDisk (.ok a)) s = (.ok a, s) := rfl

theorem run_ofDisk_error (f : OsFault) (s : Store) :
    outcome (ofDisk (.error f) : Step α) s = (.error (.os f), s) := rfl

theorem run_ofDb_ok (a : α) (s : Store) : outcome (ofDb (.ok a)) s = (.ok a, s) := rfl

theorem run_ofDb_error (f : DbFault) (s : Store) :
    outcome (ofDb (.error f) : Step α) s = (.error (.db f), s) := rfl

end Step

namespace Store

theorem pathFor_empty (s : Store) : Step.outcome (pathFor "") s = (.error .emptyName, s) := by
  simp only [pathFor, Step.run_bind, Step.run_view, storePath_empty, Step.run_throw]

theorem pathFor_eq {s : Store} {name : String} (hc : s.config.Regular) (hn : name ≠ "") :
    Step.outcome (pathFor name) s = (.ok (s.config.pathOf (safe name)), s) := by
  simp only [pathFor, Step.run_bind, Step.run_view, storePath_eq hc hn, Step.run_pure]

end Store

/-! ## Room -/

namespace StoreConfig

variable {c : StoreConfig} {f : String} {R : Place}

theorem room_lacking : c.room f = .lacking ↔ Disk.maxName < (f ++ c.extension).utf8ByteSize := by
  rw [room]
  split
  · rename_i h
    exact ⟨fun _ => h, fun _ => rfl⟩
  · rename_i h
    refine ⟨fun e => ?_, fun e => absurd e h⟩
    split at e <;> cases e

theorem room_ne_lacking : c.room f ≠ .lacking ↔ (f ++ c.extension).utf8ByteSize ≤ Disk.maxName := by
  rw [Ne, room_lacking, Nat.not_lt]

theorem room_ample :
    c.room f = .ample ↔ (f ++ c.extension ++ "-journal").utf8ByteSize ≤ Disk.maxName := by
  have hle : (f ++ c.extension).utf8ByteSize ≤ (f ++ c.extension ++ "-journal").utf8ByteSize := by
    rw [String.utf8ByteSize_append (s := f ++ c.extension)]
    exact Nat.le_add_right _ _
  rw [room]
  split
  · rename_i h
    refine ⟨fun e => ?_, fun e => ?_⟩
    · cases e
    · omega
  · split
    · rename_i h
      refine ⟨fun e => ?_, fun e => ?_⟩
      · cases e
      · omega
    · rename_i h
      exact ⟨fun _ => Nat.le_of_not_lt h, fun _ => rfl⟩

theorem journalFits_eq : journalFits (c.placeOf R f) = decide (c.room f = .ample) := by
  rw [journalFits_placeOf]
  exact decide_eq_decide.2 room_ample.symm

end StoreConfig

/-! ## Handles -/

/-- A handle that is neither closed nor severed. -/
structure Handle.Live (h : Handle) : Prop where
  opened : h.isClosed = false
  joined : h.isSevered = false

instance (h : Handle) : Decidable h.Live :=
  decidable_of_iff (h.isClosed = false ∧ h.isSevered = false)
    ⟨fun e => ⟨e.1, e.2⟩, fun e => ⟨e.opened, e.joined⟩⟩

/-- A handle for a name below a root, whatever became of its file. -/
structure Handle.Fits (c : StoreConfig) (R : Place) (name : String) (h : Handle) : Prop where
  layer : h.layer = name
  named : name ≠ ""
  room : c.room (safe name) ≠ .lacking
  path : h.path = c.pathOf (safe name)
  place : h.place = c.placeOf R (safe name)
  schema : h.schema = Database.empty.schema
  idle : h.transaction = .idle

/-- A handle is on the file of a name, and the name has a holding. -/
def Handle.Current (c : StoreConfig) (R : Place) (d : Disk) (A : Shelves) (name : String)
    (h : Handle) : Prop :=
  d.node? (c.placeOf R (safe name)) = some (.file h.file) ∧ ∃ H, A (safe name) = some (.full H)

/-- The names whose live handles may be off their files: those of idle names while there is no file at
their path, and those of stray names at any time. -/
structure Slack where
  idle : String → Prop
  stray : String → Prop

/-- Every live handle is on its file. -/
def Slack.taut : Slack := ⟨fun _ => False, fun _ => False⟩

/-- A handle that may be cached for a name: while it is live, it is on the file of the name as far as the
slack makes no exception. -/
structure Handle.Serves (c : StoreConfig) (R : Place) (slack : Slack) (d : Disk) (A : Shelves)
    (name : String) (h : Handle) : Prop where
  fits : h.Fits c R name
  issued : h.file < d.next
  current : h.Live → slack.stray name ∨ (A (safe name) = none ∧ slack.idle name) ∨
    h.Current c R d A name

/-- A live handle on the file of a name. -/
structure Handle.Leads (c : StoreConfig) (R : Place) (d : Disk) (name : String) (h : Handle) : Prop where
  fits : h.Fits c R name
  live : h.Live
  file : d.node? (c.placeOf R (safe name)) = some (.file h.file)

/-- What may happen to a handle that nobody works with: it is closed or severed, and it learns or
forgets how to refuse. -/
structure Handle.Worn (h h' : Handle) : Prop where
  layer : h'.layer = h.layer
  path : h'.path = h.path
  place : h'.place = h.place
  file : h'.file = h.file
  schema : h'.schema = h.schema
  transaction : h'.transaction = h.transaction
  live : h'.Live → h.Live

namespace Handle

theorem Worn.refl (h : Handle) : h.Worn h := ⟨rfl, rfl, rfl, rfl, rfl, rfl, id⟩

theorem Worn.trans {h h' h'' : Handle} (a : h.Worn h') (b : h'.Worn h'') : h.Worn h'' where
  layer := b.layer.trans a.layer
  path := b.path.trans a.path
  place := b.place.trans a.place
  file := b.file.trans a.file
  schema := b.schema.trans a.schema
  transaction := b.transaction.trans a.transaction
  live := fun e => a.live (b.live e)

theorem Fits.worn {c : StoreConfig} {R : Place} {name : String} {h h' : Handle} (hf : h.Fits c R name)
    (hw : h.Worn h') : h'.Fits c R name where
  layer := hw.layer.trans hf.layer
  named := hf.named
  room := hf.room
  path := hw.path.trans hf.path
  place := hw.place.trans hf.place
  schema := hw.schema.trans hf.schema
  idle := hw.transaction.trans hf.idle

theorem Serves.worn {c : StoreConfig} {R : Place} {slack : Slack} {d : Disk} {A : Shelves}
    {name : String} {h h' : Handle} (hs : h.Serves c R slack d A name) (hw : h.Worn h') :
    h'.Serves c R slack d A name where
  fits := hs.fits.worn hw
  issued := by
    rw [hw.file]
    exact hs.issued
  current := by
    intro hl
    rw [Current, hw.file]
    exact hs.current (hw.live hl)

end Handle

/-! ## Stores -/

namespace Store

/-- A store whose files come to shelves, which has announced events and not dispatched them. -/
structure Keeps (c : StoreConfig) (R : Place) (slack : Slack) (A : Shelves) (E : List Event)
    (s : Store) : Prop where
  config : s.config = c
  regular : c.Regular
  ddl : s.ddl = ⟨false, false⟩
  events : s.events = E
  disk : s.disk.Holds c R A
  handles : ∀ name id, s.cache.get? name = some id →
    ∃ h, s.handle? id = some h ∧ h.Serves c R slack s.disk A name

/-- A store that is as another one but for handles closed and forgotten, and for its log. -/
structure Worn (s t : Store) : Prop where
  config : t.config = s.config
  disk : t.disk = s.disk
  ddl : t.ddl = s.ddl
  events : t.events = s.events
  cache : ∀ name id, t.cache.get? name = some id → s.cache.get? name = some id
  handle : ∀ id h, s.handle? id = some h → ∃ h', t.handle? id = some h' ∧ h.Worn h'

theorem Worn.refl (s : Store) : s.Worn s :=
  ⟨rfl, rfl, rfl, rfl, fun _ _ e => e, fun _ h e => ⟨h, e, .refl h⟩⟩

theorem Worn.trans {s t u : Store} (a : s.Worn t) (b : t.Worn u) : s.Worn u where
  config := b.config.trans a.config
  disk := b.disk.trans a.disk
  ddl := b.ddl.trans a.ddl
  events := b.events.trans a.events
  cache := fun name id e => a.cache name id (b.cache name id e)
  handle := by
    intro id h e
    obtain ⟨h', e', w'⟩ := a.handle id h e
    obtain ⟨h'', e'', w''⟩ := b.handle id h' e'
    exact ⟨h'', e'', w'.trans w''⟩

theorem Worn.log (s : Store) (l : List LogRecord) : s.Worn { s with log := l } :=
  ⟨rfl, rfl, rfl, rfl, fun _ _ e => e, fun _ h e => ⟨h, e, .refl h⟩⟩

theorem Worn.pending (s : Store) (n : Nat) : s.Worn { s with staleAcquires := n } :=
  ⟨rfl, rfl, rfl, rfl, fun _ _ e => e, fun _ h e => ⟨h, e, .refl h⟩⟩

theorem handle_modify (s : Store) (id : HandleId) (f : Handle → Handle) (id' : HandleId) :
    ({ s with issued := s.issued.modify id f } : Store).handle? id' =
      if id = id' then (s.handle? id').map f else s.handle? id' := by
  simp only [handle?, List.getElem?_modify]
  by_cases e : id = id'
  · simp only [if_pos e]
    cases s.issued[id']? <;> rfl
  · simp only [if_neg e]
    cases s.issued[id']? <;> rfl

theorem Worn.modify (s : Store) (id : HandleId) {f : Handle → Handle}
    (hf : ∀ h : Handle, s.handle? id = some h → h.Worn (f h)) :
    s.Worn { s with issued := s.issued.modify id f } := by
  refine ⟨rfl, rfl, rfl, rfl, fun _ _ e => e, ?_⟩
  intro id' h e
  rw [handle_modify, e]
  split
  · rename_i hid
    exact ⟨f h, rfl, hf h (hid ▸ e)⟩
  · exact ⟨h, rfl, .refl h⟩

/-- What work on a layer leaves alone: cached handles of other names stay as they are, and a file that
was not there before is a new one. -/
structure Spares (layer : String) (s t : Store) : Prop where
  pending : t.staleAcquires ≤ s.staleAcquires
  next : s.disk.next ≤ t.disk.next
  files : ∀ p k, t.disk.node? p = some (.file k) →
    s.disk.node? p = some (.file k) ∨ s.disk.next ≤ k
  others : ∀ name id, name ≠ layer → s.cache.get? name = some id →
    t.cache.get? name = some id ∧ t.handle? id = s.handle? id

theorem Spares.refl (layer : String) (s : Store) : s.Spares layer s :=
  ⟨Nat.le_refl _, Nat.le_refl _, fun _ _ e => .inl e, fun _ _ _ e => ⟨e, rfl⟩⟩

theorem Spares.trans {layer : String} {s t u : Store} (a : s.Spares layer t) (b : t.Spares layer u) :
    s.Spares layer u where
  pending := Nat.le_trans b.pending a.pending
  next := Nat.le_trans a.next b.next
  files := by
    intro p k e
    rcases b.files p k e with e' | e'
    · exact a.files p k e'
    · exact .inr (Nat.le_trans a.next e')
  others := by
    intro name id hn e
    obtain ⟨ht, hh⟩ := a.others name id hn e
    obtain ⟨hu, hh'⟩ := b.others name id hn ht
    exact ⟨hu, hh'.trans hh⟩

theorem Spares.log (layer : String) (s : Store) (l : List LogRecord) :
    s.Spares layer { s with log := l } :=
  ⟨Nat.le_refl _, Nat.le_refl _, fun _ _ e => .inl e, fun _ _ _ e => ⟨e, rfl⟩⟩

section Keeps

variable {c : StoreConfig} {R : Place} {slack : Slack} {A : Shelves} {E : List Event}
  {s t : Store}

theorem Keeps.weaken (hk : s.Keeps c R slack A E) (hw : s.Worn t) : t.Keeps c R slack A E where
  config := hw.config.trans hk.config
  regular := hk.regular
  ddl := hw.ddl.trans hk.ddl
  events := hw.events.trans hk.events
  disk := by
    rw [hw.disk]
    exact hk.disk
  handles := by
    intro name id e
    obtain ⟨h, hh, hs⟩ := hk.handles name id (hw.cache name id e)
    obtain ⟨h', hh', hw'⟩ := hw.handle id h hh
    rw [hw.disk]
    exact ⟨h', hh', hs.worn hw'⟩

theorem Keeps.pathFor (hk : s.Keeps c R slack A E) {name : String} (hn : name ≠ "") :
    Step.outcome (Store.pathFor name) s = (.ok (c.pathOf (safe name)), s) := by
  have hreg : s.config.Regular := hk.config ▸ hk.regular
  rw [pathFor_eq hreg hn, hk.config]

/-- Cached handles of different names are different. -/
theorem Keeps.apart (hk : s.Keeps c R slack A E) {m n : String} {id : HandleId}
    (hm : s.cache.get? m = some id) (hn : s.cache.get? n = some id) : m = n := by
  obtain ⟨h, hh, hs⟩ := hk.handles m id hm
  obtain ⟨h', hh', hs'⟩ := hk.handles n id hn
  rw [hh, Option.some.injEq] at hh'
  subst hh'
  exact hs.fits.layer.symm.trans hs'.fits.layer

end Keeps

end Store

end TileDepot
