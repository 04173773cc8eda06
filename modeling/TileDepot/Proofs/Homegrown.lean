import TileDepot.Proofs.Failures

/-!
# Directories that only the store writes to

A store that starts over an empty directory finds nothing below it but what it made itself, whatever the
extension: `Homegrown` states that everything below the root is a file right below it, and that these
files and the files of all handles are databases whose tiles are blobs.  An extension that adds further
names does not change this.  The first name of a layer would have to be a directory for the path of the
layer to lead anywhere, and nobody makes one.

* `Homegrown.whereabouts` says what the path of a layer comes to then.
* `Change.homegrown` says that every change keeps the directory so, and `Homegrown.run` is about runs.
-/

namespace TileDepot

open Layer

/-- The first name below the root on the path of a layer. -/
def StoreConfig.nameOf (c : StoreConfig) (layer : String) : String := safe layer ++ stem c.extension

/-- The first name of a layer is longer than a name may be. -/
def StoreConfig.Oversized (c : StoreConfig) (layer : String) : Prop :=
  layer ≠ "" ∧ Disk.maxName < (c.nameOf layer).utf8ByteSize

/-! ## Files that hold what the store has written -/

namespace Disk

open Store

variable {c : StoreConfig} {d e : Disk} {p : Place} {x : String} {n : Nat}

/-- A file is a database whose tiles are blobs. -/
def Wholesome (d : Disk) (n : Nat) : Prop :=
  n < d.next ∧ ∃ db, (contentOf d n).view = .ok db ∧ db.Plain

theorem plain_of_rowless {db : Database} (h : db.tileRows = []) : db.Plain := by
  intro r hr
  rw [h] at hr
  cases hr

theorem Spares.wholesome (h : Spares c d e) (hn : d.Wholesome n) : e.Wholesome n := by
  obtain ⟨hlt, db, hview, hplain⟩ := hn
  refine ⟨Nat.lt_of_lt_of_le hlt h.next, ?_⟩
  rcases h.old n hlt with ho | ⟨db', -, ho⟩
  · exact ⟨db, ho ▸ hview, hplain⟩
  · rw [ho]
    exact ⟨_, rfl, plain_of_rowless rfl⟩

theorem Spares.wholesome_new (h : Spares c d e) (hge : d.next ≤ n) (hlt : n < e.next) :
    e.Wholesome n := by
  obtain ⟨db, hview, hrows, -⟩ := h.new n hge hlt
  exact ⟨hlt, db, hview, plain_of_rowless hrows⟩

/-- Files stay wholesome when a database is written that has blobs alone if the one before it had. -/
theorem Wholesome.commit {place : Place} {file : Nat} {after : Database} (h : d.Wholesome n)
    (hplain : ∀ db, (contentOf d file).view = .ok db → db.Plain → after.Plain) :
    (Store.commit d place file after).Wholesome n := by
  obtain ⟨hlt, db, hview, hdb⟩ := h
  refine ⟨(commit_tidied d place file after).next.symm ▸ hlt, ?_⟩
  by_cases hn : file = n
  · subst hn
    rw [contentOf_commit_self]
    exact ⟨after, rfl, hplain db hview hdb⟩
  · rw [contentOf_commit_of_ne _ _ _ hn]
    exact ⟨db, hview, hdb⟩

/-- A place that can be reached lies in a directory. -/
theorem Reached.parent {q : Place} (h : Reached d q) (hq : q = p ++ [x]) :
    d.node? p = some .directory := by
  cases h with
  | root => simp at hq
  | child _ hdir _ _ =>
    rw [(List.append_inj' hq rfl).1] at hdir
    exact hdir

/-- A disk on which a directory has nothing below it but files right below it. -/
def Shallow (P : Nat → Prop) (R : Place) (d : Disk) : Prop :=
  ∀ x xs node, d.node? (R ++ x :: xs) = some node → xs = [] ∧ ∃ n, node = .file n ∧ P n

theorem Shallow.mono {P Q : Nat → Prop} {R : Place} (h : Shallow P R d) (hPQ : ∀ n, P n → Q n) :
    Shallow Q R d := by
  intro x xs node hn
  obtain ⟨hxs, n, hfile, hP⟩ := h x xs node hn
  exact ⟨hxs, n, hfile, hPQ n hP⟩

/-- Nothing can be reached but what lies right below such a directory. -/
theorem Shallow.reached {P : Nat → Prop} {R : Place} (h : Shallow P R d) {xs : List String}
    (hr : Reached d (R ++ x :: xs)) : xs = [] := by
  rcases List.eq_nil_or_concat' xs with rfl | ⟨ys, y, rfl⟩
  · rfl
  · have hdir := hr.parent (p := R ++ x :: ys) (x := y) (by simp)
    obtain ⟨-, n, hfile, -⟩ := h x ys _ hdir
    cases hfile

end Disk

namespace Store

variable {s t : Store} {R : Place} {m : String} {p : Path}

/-- A store over a directory in which everything was made by the store. -/
structure Homegrown (R : Place) (s : Store) : Prop where
  dotted : s.config.extension.toList.head? = some '.'
  settled : s.Settled
  root : s.disk.LeadsTo s.config.root R
  below : s.disk.Shallow s.disk.Wholesome R
  handles : ∀ id h, s.handle? id = some h → s.disk.Wholesome h.file

/-! ## Where the path of a layer leads -/

/-- What the path of a layer comes to: its first name is too long, the names behind it keep it from
leading anywhere, there is nothing at its place, or there is a file. -/
inductive Whereabouts (R : Place) (s : Store) (m : String) (p : Path) : Prop
  | oversized : s.config.Oversized m → s.disk.locate p = .error .nameTooLong → Whereabouts R s m p
  | elsewhere (cause : OsCause) : ¬ s.config.Oversized m → trail s.config.extension ≠ [] →
      cause ≠ .nameTooLong → s.disk.locate p = .error cause → Whereabouts R s m p
  | vacant : ¬ s.config.Oversized m → trail s.config.extension = [] →
      p = s.config.root.child (s.config.nameOf m) → s.disk.locate p = .ok (R ++ [s.config.nameOf m]) →
      s.disk.node? (R ++ [s.config.nameOf m]) = none → Whereabouts R s m p
  | stored (n : Nat) : ¬ s.config.Oversized m → trail s.config.extension = [] →
      p = s.config.root.child (s.config.nameOf m) → s.disk.locate p = .ok (R ++ [s.config.nameOf m]) →
      s.disk.node? (R ++ [s.config.nameOf m]) = some (.file n) → Whereabouts R s m p

theorem Homegrown.whereabouts (hs : s.Homegrown R) (hp : s.pathOf? m = some p) :
    Whereabouts R s m p := by
  have hm : m ≠ "" := fun e => by
    rw [pathOf_none.2 e] at hp
    cases hp
  rw [pathOf?, storePath_dotted s.config.root s.config.extension hm, Option.some.injEq] at hp
  subst hp
  have hdots : s.config.nameOf m ≠ ".." := file_ne_dots hm _
  have hfirst : ∀ ns, s.disk.follow [] (s.config.root.names ++ s.config.nameOf m :: ns) =
      s.disk.follow R (s.config.nameOf m :: ns) := by
    intro ns
    rw [Disk.follow_append, show s.disk.follow [] s.config.root.names = .ok R from hs.root.locate]
    rfl
  by_cases hlen : Disk.maxName < (s.config.nameOf m).utf8ByteSize
  · refine .oversized ⟨hm, hlen⟩ ?_
    change s.disk.follow [] (s.config.root.names ++ s.config.nameOf m :: _) = _
    rw [hfirst, Disk.follow, hs.root.node]
    simp only [if_neg hdots, if_pos hlen]
  · have hfits : ¬ s.config.Oversized m := fun h => hlen h.2
    have hsecond : ∀ ns, s.disk.follow [] (s.config.root.names ++ s.config.nameOf m :: ns) =
        s.disk.follow (R ++ [s.config.nameOf m]) ns := by
      intro ns
      rw [hfirst, Disk.follow, hs.root.node]
      simp only [if_neg hdots, if_neg hlen]
    cases htrail : trail s.config.extension with
    | nil =>
      have hloc := hsecond []
      cases hnode : s.disk.node? (R ++ [s.config.nameOf m]) with
      | none => exact .vacant hfits htrail rfl hloc hnode
      | some node =>
        obtain ⟨-, n, rfl, -⟩ := hs.below _ [] node hnode
        exact .stored n hfits htrail rfl hloc hnode
    | cons w ws =>
      have hloc := hsecond (w :: ws)
      have hne : trail s.config.extension ≠ [] := by
        rw [htrail]
        exact List.cons_ne_nil _ _
      rw [Disk.follow] at hloc
      cases hnode : s.disk.node? (R ++ [s.config.nameOf m]) with
      | none =>
        rw [hnode] at hloc
        exact .elsewhere .noEntry hfits hne (by decide) hloc
      | some node =>
        obtain ⟨-, n, rfl, -⟩ := hs.below _ [] node hnode
        rw [hnode] at hloc
        exact .elsewhere .notDirectory hfits hne (by decide) hloc

/-- What a path that leads to something leads to is the file of the layer, right below the root. -/
theorem Homegrown.stored (hs : s.Homegrown R) (hp : s.pathOf? m = some p)
    (hthere : s.disk.exists? p = .ok true) :
    ∃ n, trail s.config.extension = [] ∧ p = s.config.root.child (s.config.nameOf m) ∧
      s.disk.find p = .ok (R ++ [s.config.nameOf m], .file n) := by
  obtain ⟨q, node, hf⟩ := Disk.exists_iff.1 hthere
  cases hs.whereabouts hp with
  | oversized _ hl | elsewhere _ _ _ _ hl =>
    rw [Disk.find_error hl] at hf
    cases hf
  | vacant _ _ _ hl hnone =>
    rw [Disk.find_of_vacant hl hnone] at hf
    cases hf
  | stored n _ htrail hchild hl hnode => exact ⟨n, htrail, hchild, Disk.find_of_node hl hnode⟩

theorem Homegrown.wholesome_place (hs : s.Homegrown R) (hp : s.pathOf? m = some p)
    (hthere : s.disk.exists? p = .ok true) {n : Nat}
    (hn : s.disk.node? p.resolved.names = some (.file n)) : s.disk.Wholesome n := by
  obtain ⟨n', -, -, hf⟩ := hs.stored hp hthere
  obtain ⟨-, -, hplace⟩ := Disk.find_place hf
  rw [← hplace] at hn
  obtain ⟨-, k, hk, hwhole⟩ := hs.below _ [] _ hn
  cases hk
  exact hwhole

/-! ## Shifts -/

/-- What is new on the disk after a shift is a file that lies in directories all the way. -/
theorem Shift.node (hst : Shift s t) {q : Place} {node : Node} (hn : t.disk.node? q = some node) :
    s.disk.node? q = some node ∨ Disk.Reached s.disk q ∧
      ∃ n, node = .file n ∧ s.disk.next ≤ n ∧ n < t.disk.next := by
  have hmade : ∀ {p : Path} {d : Disk}, s.disk.locate p.resolved = .ok p.resolved.names →
      s.disk.node? p.resolved.names = none →
      (s.disk.createFile p.resolved.names (.raw .empty)).2.Tidied p.resolved.names d →
      d.node? q = some node → s.disk.node? q = some node ∨ Disk.Reached s.disk q ∧
        ∃ n, node = .file n ∧ s.disk.next ≤ n ∧ n < d.next := by
    intro p d hl hnone htidy hn
    have hold := htidy.node_some hn
    have hnil : p.resolved.names ≠ [] := by
      intro e
      rw [e] at hnone
      cases hnone
    rw [Disk.node_createFile _ hnil] at hold
    split at hold
    · rename_i hq
      cases hold
      refine .inr ⟨hq ▸ (Disk.follow_reached .root hl).1, _, rfl, Nat.le_refl _, ?_⟩
      rw [htidy.next]
      exact Nat.lt_succ_self _
    · exact .inl hold
  cases hst with
  | logged | counted | learned | dropped | closed => exact .inl hn
  | tidied _ htidy | opened _ _ _ _ _ _ htidy => exact .inl (htidy.node_some hn)
  | blanked _ _ hl hnone htidy => exact hmade hl hnone htidy hn
  | @founded m p d _ _ _ hl hnone htidy =>
    have hcommit := commit_tidied d p.resolved.names s.disk.next .empty
    have hnext : (commit d p.resolved.names s.disk.next .empty).next = d.next := hcommit.next
    change (commit d p.resolved.names s.disk.next .empty).node? q = _ at hn
    show _ ∨ _ ∧ ∃ n, _ ∧ _ ∧ n < (commit d p.resolved.names s.disk.next .empty).next
    rw [hnext]
    exact hmade hl hnone htidy (hcommit.node_some hn)
  | @grafted m p n db d _ _ _ _ _ _ _ htidy =>
    have hcommit := commit_tidied d p.resolved.names n db.furnished
    exact .inl (htidy.node_some (hcommit.node_some hn))

/-- The files of handles stay what they are where handles stay akin. -/
theorem Homegrown.handles_modify (hs : s.Homegrown R) (id : HandleId) {f : Handle → Handle}
    (hf : ∀ h, s.handle? id = some h → h.Akin (f h)) :
    ∀ i k, ({ s with issued := s.issued.modify id f } : Store).handle? i = some k →
      s.disk.Wholesome k.file := by
  intro i k hk
  rw [handle_modify] at hk
  split at hk
  · rename_i he
    obtain ⟨h, hh, rfl⟩ := Option.map_eq_some_iff.1 hk
    rw [(hf h (he ▸ hh)).file]
    exact hs.handles i h hh
  · exact hs.handles i k hk

theorem Shift.homegrown (hst : Shift s t) (hs : s.Homegrown R) : t.Homegrown R := by
  have hspares := hst.spares hs.dotted
  have hconfig := hst.config
  refine ⟨hconfig ▸ hs.dotted, (Change.shift hst).changes.settled hs.settled, ?_, ?_, ?_⟩
  · rw [hconfig]
    exact hs.root.mono fun q => (hst.directory q).2
  · intro x xs node hn
    rcases hst.node hn with hold | ⟨hreach, n, rfl, hge, hlt⟩
    · exact (hs.below.mono fun n => hspares.wholesome) x xs node hold
    · exact ⟨hs.below.reached hreach, n, rfl, hspares.wholesome_new hge hlt⟩
  · have hnew : ∀ {d : Disk} {m : String} {p : Path} {file : Nat} {schema : Schema},
        t.disk.Wholesome file → ∀ id k,
          (enlist { s with disk := d } m (.fresh m p file schema)).handle? id = some k →
            t.disk.Wholesome k.file := by
      intro d m p file schema hfile id k hk
      rcases handle_of_issued (s := s) rfl hk with hold | ⟨-, rfl⟩
      · exact hspares.wholesome (hs.handles id k hold)
      · exact hfile
    cases hst with
    | logged | counted | tidied | blanked => exact fun id h hh => hspares.wholesome (hs.handles id h hh)
    | learned hh hk _ =>
      refine hs.handles_modify _ fun h' hh' => ?_
      rw [hh, Option.some.injEq] at hh'
      exact hh' ▸ hk.akin
    | dropped name id l => exact hs.handles_modify id fun h _ => h.released_akin
    | closed id => exact hs.handles_modify id fun h _ => h.released_akin
    | @founded m p d _ _ _ _ _ htidy =>
      have hnext : (commit d p.resolved.names s.disk.next .empty).next = s.disk.next + 1 :=
        (commit_tidied _ _ _ _).next.trans htidy.next
      exact hnew (hspares.wholesome_new (Nat.le_refl _) (Nat.lt_of_lt_of_eq (Nat.lt_succ_self _) hnext.symm))
    | grafted _ _ _ hf hview htiles _ _ =>
      have hlt := hs.settled.numbered.lt (Disk.find_place hf).2.1
      refine hnew (hspares.wholesome ⟨hlt, _, hview, Disk.plain_of_rowless ?_⟩)
      rw [Database.tileRows, htiles]
      rfl
    | opened _ hp hthere hf _ _ _ =>
      exact hnew (hspares.wholesome (hs.wholesome_place hp hthere (Disk.find_place hf).2.1))

/-! ## Changes -/

/-- The file of a layer can be moved to a name that leads nowhere, from one place right below the root to
another. -/
theorem Homegrown.move {m' : String} {p' : Path} (hs : s.Homegrown R) (hp : s.pathOf? m = some p)
    (hp' : s.pathOf? m' = some p') (hthere : s.disk.exists? p = .ok true)
    (hfree : s.disk.exists? p' = .ok false) :
    ∃ x x' n, x ≠ x' ∧ s.disk.node? (R ++ [x]) = some (.file n) ∧ s.disk.node? (R ++ [x']) = none ∧
      s.disk.move p p' = .ok (s.disk.moveTree (R ++ [x]) (R ++ [x'])) := by
  obtain ⟨n, htrail, -, hf⟩ := hs.stored hp hthere
  obtain ⟨-, hnode, -⟩ := Disk.find_place hf
  cases hs.whereabouts hp' with
  | oversized _ hl' =>
    rw [Disk.exists?, Disk.test, Disk.find_error hl'] at hfree
    cases hfree
  | elsewhere _ _ hne => exact absurd htrail hne
  | stored n' _ _ _ hl' hnode' =>
    rw [Disk.exists_iff.2 ⟨_, _, Disk.find_of_node hl' hnode'⟩] at hfree
    cases hfree
  | vacant _ _ _ hl' hnone' =>
    have hne : R ++ [s.config.nameOf m] ≠ R ++ [s.config.nameOf m'] := by
      intro e
      rw [e, hnone'] at hnode
      cases hnode
    refine ⟨_, _, n, fun e => hne (by rw [e]), hnode, hnone', ?_⟩
    simp only [Disk.move, hf, hl', hnone', if_neg hne]

/-- The files below the root and those of handles stay what they are if no file is changed. -/
theorem Homegrown.onDisk {d : Disk} (hs : s.Homegrown R) (hset : ({ s with disk := d } : Store).Settled)
    (hdir : ∀ q, s.disk.node? q = some .directory → d.node? q = some .directory)
    (hbodies : d.bodies = s.disk.bodies) (hnext : d.next = s.disk.next)
    (hnode : d.Shallow s.disk.Wholesome R) : ({ s with disk := d } : Store).Homegrown R := by
  have hwhole : ∀ n, s.disk.Wholesome n → d.Wholesome n := by
    rintro n ⟨hlt, db, hview, hplain⟩
    refine ⟨hnext ▸ hlt, db, ?_, hplain⟩
    rw [contentOf, Disk.body?, hbodies]
    exact hview
  exact ⟨hs.dotted, hset, hs.root.mono hdir, hnode.mono hwhole,
    fun id h hh => hwhole _ (hs.handles id h hh)⟩

/-- A file is removed. -/
theorem Homegrown.removed {q : Place} {n : Nat} (hs : s.Homegrown R)
    (hset : ({ s with disk := s.disk.detach q } : Store).Settled) (hnode : s.disk.node? q = some (.file n)) :
    ({ s with disk := s.disk.detach q } : Store).Homegrown R := by
  have hnil : q ≠ [] := by
    rintro rfl
    cases hnode
  have hdetach := Disk.node_detach s.disk hnil
  refine hs.onDisk hset (fun q' hdir => ?_) rfl rfl fun x xs node hn => ?_
  · rw [hdetach, if_neg, hdir]
    rintro rfl
    rw [hnode] at hdir
    cases hdir
  · rw [hdetach] at hn
    split at hn
    · cases hn
    · exact hs.below x xs node hn

/-- A file right below the root takes the name of another one there that is free. -/
theorem Homegrown.moved {x x' : String} {n : Nat} (hs : s.Homegrown R)
    (hset : ({ s with disk := s.disk.moveTree (R ++ [x]) (R ++ [x']) } : Store).Settled)
    (hne : x ≠ x') (hnode : s.disk.node? (R ++ [x]) = some (.file n))
    (hnone : s.disk.node? (R ++ [x']) = none) :
    ({ s with disk := s.disk.moveTree (R ++ [x]) (R ++ [x']) } : Store).Homegrown R := by
  have hbelow : ∀ q, R ++ [x] <+: q → q ≠ R ++ [x] → s.disk.node? q = none := by
    rintro _ ⟨ys, rfl⟩ hq
    rw [List.append_assoc] at hq ⊢
    cases hnode' : s.disk.node? (R ++ ([x] ++ ys)) with
    | none => rfl
    | some node =>
      obtain ⟨rfl, -⟩ := hs.below x ys node hnode'
      exact absurd rfl hq
  have hmoved := Disk.node_moveTree s.disk (a := R ++ [x]) (b := R ++ [x']) (by simp) (by simp)
    (by simpa using hne) hbelow
  refine hs.onDisk hset (fun q hdir => ?_) rfl rfl fun y ys node hn => ?_
  · rw [hmoved, if_neg, if_neg, hdir]
    · rintro rfl
      rw [hnode] at hdir
      cases hdir
    · rintro rfl
      rw [hnone] at hdir
      cases hdir
  · rw [hmoved] at hn
    split at hn
    · rename_i hq
      obtain ⟨-, hfile⟩ := hs.below x [] node hn
      exact ⟨(List.cons.inj (List.append_cancel_left hq)).2, hfile⟩
    · split at hn
      · cases hn
      · exact hs.below y ys node hn

theorem Change.homegrown (hst : Change s t) (hs : s.Homegrown R) : t.Homegrown R := by
  have hset := hst.changes.settled hs.settled
  cases hst with
  | shift h => exact h.homegrown hs
  | announced e => exact ⟨hs.dotted, hset, hs.root, hs.below, hs.handles⟩
  | removed hf => exact hs.removed hset (Disk.find_place hf).2.1
  | @renamed m m' p p' d hp hp' hfree hmove =>
    have hthere : s.disk.exists? p = .ok true := by
      cases hf : s.disk.find p with
      | ok found => exact Disk.exists_iff.2 ⟨_, _, hf⟩
      | error c =>
        rw [Disk.move, hf] at hmove
        cases hmove
    obtain ⟨x, x', n, hne, hnode, hnone, hmoved⟩ := hs.move hp hp' hthere hfree
    rw [hmoved, Except.ok.injEq] at hmove
    subst hmove
    exact hs.moved hset hne hnode hnone
  | @written id h after hh hplain =>
    have htidy := commit_tidied s.disk h.place h.file after
    refine ⟨hs.dotted, hset, hs.root.mono fun q => htidy.directory.2, fun x xs node hn => ?_,
      fun i k hk => ?_⟩
    · exact hs.below.mono (fun _ hn' => hn'.commit hplain) x xs node (htidy.node_some hn)
    · refine (hs.handles_modify id (fun h' hh' => ?_) i k hk).commit hplain
      rw [hh, Option.some.injEq] at hh'
      exact hh' ▸ ⟨rfl, rfl, rfl, rfl⟩

theorem Changes.homegrown (hst : Changes s t) (hs : s.Homegrown R) : t.Homegrown R := by
  induction hst with
  | refl => exact hs
  | tail _ hstep ih => exact hstep.homegrown ih

/-- Whatever is asked of a store one after the other, everything below the root is its own. -/
theorem Homegrown.run (hs : s.Homegrown R) (os : List Operation) : (Store.run os s).2.Homegrown R := by
  induction os generalizing s with
  | nil => exact hs
  | cons o os ih =>
    exact ih ((perform_changes hs.settled.registered hs.settled.resting o).homegrown hs)

/-- A store over an empty directory. -/
theorem Homegrown.fresh {c : StoreConfig} {d : Disk} (ddl : Ddl)
    (hd : c.extension.toList.head? = some '.') (hnum : d.Numbered) (hroot : d.LeadsTo c.root R)
    (hempty : ∀ x xs, d.node? (R ++ x :: xs) = none) : (Store.fresh c d ddl).Homegrown R where
  dotted := hd
  settled := .fresh c ddl hnum
  root := hroot
  below := by
    intro x xs node hn
    change d.node? _ = _ at hn
    rw [hempty] at hn
    cases hn
  handles := by
    intro id h hh
    cases hh

end Store

end TileDepot
