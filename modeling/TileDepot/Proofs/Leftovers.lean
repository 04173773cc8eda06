import TileDepot.Proofs.Acts
import TileDepot.Proofs.Wholeness

/-!
# Empty files that nobody is on

A store file whose tables could not be made stays behind as an empty file.  `Leftover` states that there is one
where the path of a layer leads: nothing is in it, no handle is on it, and no handle is cached for any layer
with the path.  Nothing but removing or moving files changes this.

* `Disk.Spared` states that what is done to a disk does not concern a place and a file.
* `Counted` states that the numbers of all files were given out, so that a file that is made is another one;
  `Counted.run` says that it is so whatever is asked of a store.
* `vacant_of_missing` says that nothing is at the place of a layer's file if the layer's path leads nowhere,
  which holds as long as the extension has no slash.
* `Acts.leftover` says that a leftover stays one.
-/

namespace TileDepot

open Layer

namespace Disk

variable {d e g : Disk} {p p' : Path} {n k : Nat}

/-! ## What does not concern a file -/

theorem ne_nil_of_vacant {r : Place} (hr : d.node? r = none) : r ≠ [] := by
  rintro rfl
  cases hr

/-- Making a file where nothing was leaves directories what they are. -/
theorem directory_createFile {r : Place} (hr : d.node? r = none) (content : Content) (x : Place) :
    (d.createFile r content).2.node? x = some .directory ↔ d.node? x = some .directory := by
  rw [node_createFile d (ne_nil_of_vacant hr)]
  split
  · rename_i hx
    rw [hx, hr]
    exact ⟨nofun, nofun⟩
  · exact Iff.rfl

/-- What is done to a disk does not concern a place and a file: directories are the same, the place leads where
it led, and the file has what it had. -/
structure Spared (q : Place) (n : Nat) (d e : Disk) : Prop where
  directory : ∀ q, e.node? q = some .directory ↔ d.node? q = some .directory
  node : e.node? q = d.node? q
  content : Store.contentOf e n = Store.contentOf d n
  next : d.next ≤ e.next
  locks : e.locks = d.locks
  numbered : d.Numbered → e.Numbered

namespace Spared

variable {q r : Place}

theorem refl (q : Place) (n : Nat) (d : Disk) : Spared q n d d :=
  ⟨fun _ => Iff.rfl, rfl, rfl, Nat.le_refl _, rfl, id⟩

theorem trans (a : Spared q n d e) (b : Spared q n e g) : Spared q n d g where
  directory r := (b.directory r).trans (a.directory r)
  node := b.node.trans a.node
  content := b.content.trans a.content
  next := Nat.le_trans a.next b.next
  locks := b.locks.trans a.locks
  numbered := b.numbered ∘ a.numbered

/-- What lies beside another place may go. -/
theorem tidied (h : d.Tidied r e) (hq : ∀ suffix ∈ Store.sidecarSuffixes, q ≠ Store.beside r suffix) :
    Spared q n d e where
  directory _ := h.directory
  node := h.elsewhere hq
  content := h.contentOf_eq n
  next := Nat.le_of_eq h.next.symm
  locks := h.locks
  numbered hd := hd.tidied h

/-- A file may be made where nothing was. -/
theorem created (hr : d.node? r = none) (hne : q ≠ r) (hn : n ≠ d.next) (content : Content) :
    Spared q n d (d.createFile r content).2 where
  directory := directory_createFile hr content
  node := by
    rw [node_createFile d (ne_nil_of_vacant hr), if_neg hne]
  content := by
    have hbody : (d.createFile r content).2.body? n = d.body? n :=
      Ordered.get?_put_of_ne d.bodies _ (Ne.symm hn)
    rw [Store.contentOf, Store.contentOf, hbody]
  next := Nat.le_succ _
  locks := rfl
  numbered hd := hd.createFile r content

/-- Another file may be written. -/
theorem committed (hq : ∀ suffix ∈ Store.sidecarSuffixes, q ≠ Store.beside r suffix) (hk : k ≠ n)
    (d : Disk) (db : Database) : Spared q n d (Store.commit d r k db) where
  directory _ := (Store.commit_tidied d r k db).directory
  node := (Store.commit_tidied d r k db).elsewhere hq
  content := Store.contentOf_commit_of_ne d r db hk
  next := Nat.le_of_eq (Store.commit_tidied d r k db).next.symm
  locks := (Store.commit_tidied d r k db).locks
  numbered hd := hd.commit r k db

/-- If no file is concerned but a new one, a place has what it had. -/
theorem whole (hd : d.Numbered) (h : ∀ k, k ≠ d.next → Spared q k d e) :
    e.node? q = d.node? q ∧ e.contentAt q = d.contentAt q := by
  have hnode := (h _ (Nat.succ_ne_self d.next)).node
  refine ⟨hnode, ?_⟩
  rw [contentAt, contentAt, number?, number?, hnode]
  cases hq : d.node? q with
  | none => rfl
  | some node =>
    cases node with
    | directory => rfl
    | file k => exact congrArg some (h k (Nat.ne_of_lt (hd.lt hq))).content

/-- Where a path leads it leads on. -/
theorem locate (h : Spared q n d e) {r : Place} (hl : d.locate p = .ok r) : e.locate p = .ok r :=
  follow_mono (fun x => (h.directory x).2) hl

end Spared

end Disk

namespace Store

variable {α β : Type} {moving : Prop} {revises : Database → Database → Prop} {s t u : Store} {m m' : String}
  {p p' : Path} {n : Nat} {d e : Disk}

/-! ## Numbers that were given out -/

/-- The numbers of all files that a store knows of were given out: of those in the tree, of those that handles
are on, and of those that are locked. -/
structure Counted (s : Store) : Prop where
  numbered : s.disk.Numbered
  handles : ∀ id h, s.handle? id = some h → h.file < s.disk.next
  locks : ∀ l ∈ s.disk.locks, l.number < s.disk.next

theorem Counted.fresh (c : StoreConfig) (ddl : Ddl) (hd : d.Numbered)
    (hlocks : ∀ l ∈ d.locks, l.number < d.next) : (Store.fresh c d ddl).Counted :=
  ⟨hd, fun _ _ hh => (nomatch hh), hlocks⟩

theorem next_commit (d : Disk) (q : Place) (k : Nat) (db : Database) : (commit d q k db).next = d.next :=
  (commit_tidied d q k db).next

theorem Counted.onDisk (hs : s.Counted) (hd : d.Numbered) (hnext : s.disk.next ≤ d.next)
    (hlocks : d.locks = s.disk.locks) : ({ s with disk := d } : Store).Counted where
  numbered := hd
  handles id h hh := Nat.lt_of_lt_of_le (hs.handles id h hh) hnext
  locks l hl := Nat.lt_of_lt_of_le (hs.locks l (hlocks ▸ hl)) hnext

theorem Counted.tidied {q : Place} (hs : s.Counted) (htidy : s.disk.Tidied q d) :
    ({ s with disk := d } : Store).Counted :=
  hs.onDisk (hs.numbered.tidied htidy) (Nat.le_of_eq htidy.next.symm) htidy.locks

theorem Counted.created (hs : s.Counted) (q : Place) (content : Content) :
    ({ s with disk := (s.disk.createFile q content).2 } : Store).Counted :=
  hs.onDisk (hs.numbered.createFile q content) (Nat.le_succ _) rfl

theorem Counted.committed (hs : s.Counted) (q : Place) (k : Nat) (db : Database) :
    ({ s with disk := commit s.disk q k db } : Store).Counted :=
  hs.onDisk (hs.numbered.commit q k db) (Nat.le_of_eq (next_commit s.disk q k db).symm)
    (commit_tidied s.disk q k db).locks

/-- Handles are on the files they were on when one changes that stays on its file. -/
theorem file_of_modified {id i : HandleId} {f : Handle → Handle} {k : Handle}
    (hi : t.issued = s.issued.modify id f) (hf : ∀ h, s.handle? id = some h → (f h).file = h.file)
    (hk : t.handle? i = some k) : ∃ h, s.handle? i = some h ∧ k.file = h.file := by
  rcases handle_of_modified hi hk with hold | ⟨rfl, h, hh, rfl⟩
  · exact ⟨k, hold, rfl⟩
  · exact ⟨h, hh, hf h hh⟩

theorem Counted.modify {id : HandleId} {f : Handle → Handle} (hs : s.Counted)
    (hf : ∀ h, s.handle? id = some h → (f h).file = h.file) :
    ({ s with issued := s.issued.modify id f } : Store).Counted where
  numbered := hs.numbered
  handles := by
    intro i k hk
    obtain ⟨h, hh, hsame⟩ := file_of_modified (s := s) rfl hf hk
    rw [hsame]
    exact hs.handles i h hh
  locks := hs.locks

theorem Counted.exchanged {id : HandleId} {h k : Handle} (hs : s.Counted) (hh : s.handle? id = some h)
    (hsame : k.file = h.file) : (s.setHandle id k).Counted := by
  refine hs.modify fun h' hh' => ?_
  rw [hh, Option.some.injEq] at hh'
  exact hh' ▸ hsame

theorem Counted.enlist (hs : s.Counted) (m : String) {h : Handle} (hlt : h.file < s.disk.next) :
    (Store.enlist s m h).Counted where
  numbered := hs.numbered
  handles := by
    intro i k hk
    rcases handle_of_issued (s := s) rfl hk with hold | ⟨-, rfl⟩
    · exact hs.handles i k hold
    · exact hlt
  locks := hs.locks

theorem Shift.tallied (hst : Shift s t) (hs : s.Counted) : t.Counted := by
  cases hst with
  | logged | counted => exact ⟨hs.numbered, hs.handles, hs.locks⟩
  | tidied _ htidy => exact hs.tidied htidy
  | learned hh hkin => exact hs.exchanged hh hkin.akin.file
  | dropped _ id | closed id =>
    have hclosed : ({ s with issued := s.issued.modify id Handle.released } : Store).Counted :=
      hs.modify fun h _ => h.released_akin.file
    exact ⟨hclosed.numbered, hclosed.handles, hclosed.locks⟩
  | blanked _ _ _ _ htidy => exact (hs.created _ _).tidied htidy
  | founded _ _ _ _ _ htidy =>
    exact (((hs.created _ _).tidied htidy).committed _ _ _).enlist _
      (Nat.lt_of_lt_of_eq (Nat.lt_of_lt_of_eq (Nat.lt_succ_self _) htidy.next.symm) (next_commit ..).symm)
  | grafted _ _ _ hf _ _ _ htidy =>
    have hlt := hs.numbered.lt (Disk.find_place hf).2.1
    exact ((hs.tidied htidy).committed _ _ _).enlist _
      (Nat.lt_of_lt_of_eq (Nat.lt_of_lt_of_eq hlt htidy.next.symm) (next_commit ..).symm)
  | opened _ _ _ hf _ _ htidy =>
    have hlt := hs.numbered.lt (Disk.find_place hf).2.1
    exact (hs.tidied htidy).enlist _ (Nat.lt_of_lt_of_eq hlt htidy.next.symm)

theorem Change.tallied (hst : Change s t) (hs : s.Counted) : t.Counted := by
  cases hst with
  | shift h => exact h.tallied hs
  | announced => exact ⟨hs.numbered, hs.handles, hs.locks⟩
  | written hh _ => exact (hs.committed _ _ _).exchanged hh rfl
  | removed _ => exact hs.onDisk (hs.numbered.fewer (List.filter_subset_self _) rfl) (Nat.le_refl _) rfl
  | renamed _ _ _ hmove =>
    rcases move_tree hmove with rfl | ⟨a, b, rfl⟩
    · exact hs
    · exact hs.onDisk (hs.numbered.moveTree a b) (Nat.le_refl _) rfl

theorem Changes.tallied (hst : Changes s t) (hs : s.Counted) : t.Counted := by
  induction hst with
  | refl => exact hs
  | tail _ hstep ih => exact hstep.tallied ih

/-- Whatever is asked of a store one after the other, the numbers of its files were given out. -/
theorem Counted.run (hs : s.Counted) (hcomposed : s.Composed) (os : List Operation) :
    (Store.run os s).2.Counted := by
  induction os generalizing s with
  | nil => exact hs
  | cons o os ih =>
    have hchanges := perform_changes hcomposed.registered hcomposed.resting o
    exact ih (hchanges.tallied hs) ((perform_does o s hcomposed).composed hcomposed)

/-! ## Empty files that nobody is on -/

/-- The path of a layer leads somewhere, and no handle is cached for any layer with the path. -/
structure Unclaimed (p : Path) (s : Store) : Prop where
  composed : s.Composed
  counted : s.Counted
  regular : s.config.Regular
  layer : s.config.LayerPath p
  located : s.disk.locate p = .ok p.resolved.names
  uncached : ∀ name id, s.cache.get? name = some id → s.pathOf? name ≠ some p

/-- Such a path leads to an empty file that no handle is on. -/
structure Leftover (p : Path) (n : Nat) (s : Store) : Prop extends Unclaimed p s where
  node : s.disk.node? p.resolved.names = some (.file n)
  content : contentOf s.disk n = .raw .empty
  untouched : ∀ id h, s.handle? id = some h → h.file ≠ n

theorem Leftover.given (hs : s.Leftover p n) : n < s.disk.next := hs.counted.numbered.lt hs.node

/-- Without a slash in the extension, the root is there if the path of a layer leads somewhere. -/
theorem Unclaimed.root (hs : s.Unclaimed p) : ∃ R, s.disk.LeadsTo s.config.root R := by
  obtain ⟨m, hm⟩ := hs.layer
  have hl := hs.located
  rw [storePath_eq hs.regular (storePath_named hm), Option.some.injEq] at hm
  rw [← hm, StoreConfig.pathOf] at hl
  obtain ⟨R, hR, -⟩ := Disk.locate_child_cases hl
  exact ⟨R, hR⟩

/-- Without a slash in the extension, the path of a layer leads where its double dots resolved lead, unless its
name is too long. -/
theorem located_of_tested {c : StoreConfig} {R : Place} {there : Bool} (hc : c.Regular)
    (hroot : d.LeadsTo c.root R) (hp : c.LayerPath p) (htest : d.exists? p = .ok there) :
    d.locate p = .ok p.resolved.names := by
  obtain ⟨m, hm⟩ := hp
  have hname := storePath_named hm
  rw [storePath_eq hc hname, Option.some.injEq] at hm
  subst hm
  have hdots := file_ne_dots hname c.extension
  by_cases hlen : (safe m ++ c.extension).utf8ByteSize ≤ Disk.maxName
  · have hl := Disk.locate_child _ _ _ _ hroot.locate hroot.node hdots hlen
    rw [StoreConfig.pathOf, ← Disk.locate_resolved_names (Disk.locate_resolved hl)]
    exact hl
  · rw [Disk.exists?, StoreConfig.pathOf, Disk.test_long hroot hdots (Nat.lt_of_not_le hlen)] at htest
    cases htest

/-- Then nothing is where the path leads if it leads nowhere as it is spelled. -/
theorem vacant_of_missing {c : StoreConfig} {R : Place} (hc : c.Regular) (hroot : d.LeadsTo c.root R)
    (hp : c.LayerPath p) (hmiss : d.exists? p = .ok false) : d.node? p.resolved.names = none := by
  have hl := located_of_tested hc hroot hp hmiss
  cases hn : d.node? p.resolved.names with
  | none => rfl
  | some node =>
    rw [Disk.exists_iff.2 ⟨_, _, Disk.find_of_node hl hn⟩] at hmiss
    cases hmiss

/-- A path stays unclaimed if the handles and the cache stay what they are, and directories stay. -/
theorem Unclaimed.kept (hs : s.Unclaimed p) (hcounted : t.Counted) (hconfig : t.config = s.config)
    (hissued : t.issued = s.issued) (hcache : t.cache = s.cache)
    (hdir : ∀ q, s.disk.node? q = some .directory → t.disk.node? q = some .directory) : t.Unclaimed p := by
  obtain ⟨_, _, _, _, _, _, _, _⟩ := t
  cases hconfig
  cases hissued
  cases hcache
  exact
    { composed := ⟨⟨hs.composed.registered.keys, hs.composed.registered.cached⟩, hs.composed.handles⟩
      counted := hcounted
      regular := hs.regular
      layer := hs.layer
      located := Disk.follow_mono hdir hs.located
      uncached := hs.uncached }

/-- Where nothing is, a file is made. -/
theorem Meets.of_vacant {k : Nat} (h : Meets d p true e k) (hnone : d.node? p.resolved.names = none) :
    e = (d.createFile p.resolved.names (.raw .empty)).2 ∧ k = d.next := by
  cases h with
  | found hf =>
    obtain ⟨-, hn, -⟩ := Disk.find_place hf
    rw [hn] at hnone
    cases hnone
  | made => exact ⟨rfl, rfl⟩

/-- A leftover stays one if nothing that was done concerns it. -/
theorem Leftover.spared (hs : s.Leftover p n) (hdisk : s.disk.Spared p.resolved.names n t.disk)
    (hcomposed : t.Composed) (hconfig : t.config = s.config)
    (hcache : ∀ name id, t.cache.get? name = some id →
      s.cache.get? name = some id ∨ s.pathOf? name ≠ some p)
    (hhandles : ∀ id h, t.handle? id = some h →
      (∃ k, s.handle? id = some k ∧ h.file = k.file) ∨ h.file ≠ n ∧ h.file < t.disk.next) :
    t.Leftover p n where
  composed := hcomposed
  regular := hconfig ▸ hs.regular
  layer := hconfig ▸ hs.layer
  located := hdisk.locate hs.located
  uncached := by
    intro name id hid
    rw [pathOf?, hconfig]
    rcases hcache name id hid with hold | hnew
    · exact hs.uncached name id hold
    · exact hnew
  counted :=
    { numbered := hdisk.numbered hs.counted.numbered
      handles := by
        intro id h hh
        rcases hhandles id h hh with ⟨k, hk, hsame⟩ | ⟨-, hlt⟩
        · rw [hsame]
          exact Nat.lt_of_lt_of_le (hs.counted.handles id k hk) hdisk.next
        · exact hlt
      locks := by
        intro l hl
        rw [hdisk.locks] at hl
        exact Nat.lt_of_lt_of_le (hs.counted.locks l hl) hdisk.next }
  node := hdisk.node.trans hs.node
  content := hdisk.content.trans hs.content
  untouched := by
    intro id h hh
    rcases hhandles id h hh with ⟨k, hk, hsame⟩ | ⟨hne, -⟩
    · rw [hsame]
      exact hs.untouched id k hk
    · exact hne

/-- A leftover stays one if a handle is issued on another file and cached for another path. -/
theorem Leftover.enlist (hs : s.Leftover p n) {k : Nat} (hdisk : s.disk.Spared p.resolved.names n e)
    (hp : s.pathOf? m = some p') (hne : p' ≠ p) (hk : k ≠ n) (hlt : k < e.next) (schema : Schema) :
    (Store.enlist { s with disk := e } m (.fresh m p' k schema)).Leftover p n := by
  refine hs.spared hdisk (hs.composed.enlist hp e k schema) rfl (fun name id hid => ?_) fun i h hh => ?_
  · by_cases hname : m = name
    · subst hname
      exact .inr fun he => hne (Option.some.inj (hp.symm.trans he))
    · exact .inl ((Ordered.get?_put_of_ne _ _ hname).symm.trans hid)
  · rcases handle_of_issued (s := s) rfl hh with hold | ⟨-, rfl⟩
    · exact .inl ⟨h, hold, rfl⟩
    · exact .inr ⟨hk, hlt⟩

/-- What lies beside the file of a layer is no leftover. -/
theorem Leftover.apart (hs : s.Leftover p n) (hp : s.pathOf? m = some p') :
    ∀ suffix ∈ sidecarSuffixes, p.resolved.names ≠ beside p'.resolved.names suffix := by
  obtain ⟨m₀, hm₀⟩ := hs.layer
  exact fun suffix hsuffix => resolved_ne_beside hs.regular.dotted hsuffix hp hm₀

/-- The path of another layer leads elsewhere. -/
theorem Unclaimed.elsewhere (hs : s.Unclaimed p) (hp : s.pathOf? m = some p') (hne : p' ≠ p) :
    p'.resolved.names ≠ p.resolved.names := by
  obtain ⟨m₀, hm₀⟩ := hs.layer
  have hname := storePath_named hp
  have hname₀ := storePath_named hm₀
  rw [pathOf?, storePath_eq hs.regular hname, Option.some.injEq] at hp
  rw [storePath_eq hs.regular hname₀, Option.some.injEq] at hm₀
  subst hp hm₀
  intro hsame
  rw [StoreConfig.pathOf, StoreConfig.pathOf, Disk.resolved_child (file_ne_dots hname _),
    Disk.resolved_child (file_ne_dots hname₀ _)] at hsame
  have hlast := List.append_cancel_left hsame
  rw [List.cons.injEq] at hlast
  exact hne (by rw [StoreConfig.pathOf, StoreConfig.pathOf, hlast.1])

/-- A file that is made for a layer is none that is left, and at another place. -/
theorem Leftover.made (hs : s.Leftover p n) {k : Nat} (hp : s.pathOf? m = some p')
    (hmiss : s.disk.exists? p' = .ok false) (hmeets : Meets s.disk p' true d k)
    (htidy : d.Tidied p'.resolved.names e) :
    s.disk.Spared p.resolved.names n e ∧ k ≠ n ∧ k < e.next ∧ p' ≠ p := by
  obtain ⟨R, hroot⟩ := hs.root
  have hnone := vacant_of_missing hs.regular hroot ⟨m, hp⟩ hmiss
  obtain ⟨rfl, rfl⟩ := hmeets.of_vacant hnone
  have hplace : p.resolved.names ≠ p'.resolved.names := by
    intro he
    rw [← he, hs.node] at hnone
    cases hnone
  refine ⟨(Disk.Spared.created hnone hplace (Nat.ne_of_lt hs.given) _).trans
    (.tidied htidy (hs.apart hp)), (Nat.ne_of_lt hs.given).symm, ?_, fun he => hplace (he ▸ rfl)⟩
  rw [htidy.next]
  exact Nat.lt_succ_self _

/-- No act but moving files concerns a leftover. -/
theorem Act.leftover (ha : Act moving revises s t) (hstay : ¬ moving) (hs : s.Leftover p n) :
    t.Leftover p n := by
  have hcomposed := ha.composed hs.composed
  -- The handles are those that were there, on the same files.
  have hsame : ∀ id h, s.handle? id = some h →
      (∃ k, s.handle? id = some k ∧ h.file = k.file) ∨ h.file ≠ n ∧ h.file < t.disk.next :=
    fun id h hh => .inl ⟨h, hh, rfl⟩
  cases ha with
  | noted => exact hs.spared (.refl ..) hcomposed rfl (fun _ _ => .inl) hsame
  | forgot => exact hs.spared (.refl ..) hcomposed rfl (fun _ _ hid => .inl (get?_without hid)) hsame
  | emptied => exact hs.spared (.refl ..) hcomposed rfl (fun _ _ hid => by cases hid) hsame
  | tidied hp htidy => exact hs.spared (.tidied htidy (hs.apart hp)) hcomposed rfl (fun _ _ => .inl) hsame
  | released id =>
    exact hs.spared (.refl ..) hcomposed rfl (fun _ _ => .inl) fun i h hh =>
      .inl (file_of_modified rfl (fun h _ => h.released_akin.file) hh)
  | learned hh hkin =>
    refine hs.spared (.refl ..) hcomposed rfl (fun _ _ => .inl) fun i h hi =>
      .inl (file_of_modified rfl (fun h' hh' => ?_) hi)
    rw [hh, Option.some.injEq] at hh'
    exact hh' ▸ hkin.akin.file
  | blanked hp hmiss hmeets htidy =>
    exact hs.spared (hs.made hp hmiss hmeets htidy).1 hcomposed rfl (fun _ _ => .inl) hsame
  | @made m p' d e k db hp hmiss hmeets htidy =>
    obtain ⟨hdisk, hk, hlt, hne⟩ := hs.made hp hmiss hmeets htidy
    have hcommit := Disk.Spared.committed (hs.apart hp) hk e db.furnished
    exact hs.enlist (hdisk.trans hcommit) hp hne hk (Nat.lt_of_lt_of_le hlt hcommit.next) _
  | @opened m p' k db d hp hf hview hmissing htidy =>
    obtain ⟨hl, hn, -⟩ := Disk.find_place hf
    have hk : k ≠ n := by
      rintro rfl
      rw [hs.content] at hview
      cases hview
      cases hmissing
    have hne : p' ≠ p := by
      rintro rfl
      rw [hs.node] at hn
      cases hn
      exact hk rfl
    have hlt := hs.counted.numbered.lt hn
    rw [← htidy.next] at hlt
    exact hs.enlist (.tidied htidy (hs.apart hp)) hp hne hk hlt _
  | @written id h k db after hh hkin _ _ hview =>
    obtain ⟨-, m, hp, hplace⟩ := hs.composed.handles id h hh
    have hne := hs.untouched id h hh
    refine hs.spared (t := s.exchange (commit s.disk h.place h.file after) id k)
      (.committed (fun suffix hsuffix => ?_) hne _ _) hcomposed rfl (fun _ _ => .inl) fun i x hx =>
      .inl (file_of_modified rfl (fun h' hh' => ?_) hx)
    · rw [hplace]
      exact hs.apart hp suffix hsuffix
    · rw [hh, Option.some.injEq] at hh'
      exact hh' ▸ hkin.akin.file
  | moved hmoving => exact absurd hmoving hstay

theorem Acts.leftover (ha : Acts moving revises s t) (hstay : ¬ moving) (hs : s.Leftover p n) :
    t.Leftover p n := by
  induction ha with
  | refl => exact hs
  | tail _ hstep ih => exact hstep.leftover hstay ih

end Store

end TileDepot
