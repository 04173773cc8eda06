import TileDepot.Disk.Outside

/-!
# Looking things up below a directory

A path that leads to a directory keeps leading there as long as directories stay directories, and its
spelling with double dots resolved leads to the same place.  A name below that directory leads to the
place of the directory and the name, unless it is too long.

* `find_child` and `find_long` say what a look-up below a directory finds, and the lemmas after them
  what the questions asked of a disk and the changes made to it come to there.
* `node_createFile`, `node_detach` and `node_moveTree` say what every place holds after a change of the
  tree.  A move is described in full for a place that has nothing below it, as a file has not; for any move,
  `node_moveTree_target`, `node_moveTree_source` and `node_moveTree_elsewhere` say what the two places hold,
  and what is below neither.
-/

namespace TileDepot.Disk

/-! ## Following paths -/

theorem follow_append (d : Disk) (ns ms : List String) (here : Place) :
    d.follow here (ns ++ ms) = (d.follow here ns).bind (fun p => d.follow p ms) := by
  induction ns generalizing here with
  | nil => rfl
  | cons n ns ih =>
    rw [List.cons_append, follow, follow]
    cases d.node? here with
    | none => rfl
    | some node =>
      cases node with
      | file k => rfl
      | directory =>
        by_cases hdots : n = ".."
        · simp only [if_pos hdots, ih]
        · by_cases hlong : maxName < n.utf8ByteSize
          · simp only [if_neg hdots, if_pos hlong]
            rfl
          · simp only [if_neg hdots, if_neg hlong, ih]

/-- Where directories stay directories, a path keeps leading where it led. -/
theorem follow_mono {d e : Disk}
    (hde : ∀ q, d.node? q = some .directory → e.node? q = some .directory) {ns : List String}
    {here p : Place} (h : d.follow here ns = .ok p) : e.follow here ns = .ok p := by
  induction ns generalizing here with
  | nil => exact h
  | cons n ns ih =>
    rw [follow] at h ⊢
    cases hn : d.node? here with
    | none =>
      rw [hn] at h
      cases h
    | some node =>
      rw [hn] at h
      cases node with
      | file k => cases h
      | directory =>
        simp only [hde here hn] at h ⊢
        split at h
        · rename_i hdots
          rw [if_pos hdots]
          exact ih h
        · rename_i hdots
          split at h
          · cases h
          · rename_i hlen
            rw [if_neg hdots, if_neg hlen]
            exact ih h

/-- A place whose names are plain and not too long and that lies in directories all the way. -/
inductive Reached (d : Disk) : Place → Prop
  | root : Reached d []
  | child {p : Place} {n : String} : Reached d p → d.node? p = some .directory → n ≠ ".." →
      n.utf8ByteSize ≤ maxName → Reached d (p ++ [n])

theorem Reached.dropLast {d : Disk} {p : Place} (h : Reached d p) : Reached d p.dropLast := by
  cases h with
  | root => exact .root
  | child hp _ _ _ => rwa [List.dropLast_concat]

/-- A place lies in directories all the way. -/
theorem Reached.directory {d : Disk} {p q : Place} (h : Reached d p) (hq : q <+: p) (hne : q ≠ p) :
    d.node? q = some .directory := by
  induction h with
  | root => exact absurd (List.prefix_nil.1 hq) hne
  | @child p n hp hdir _ _ ih =>
    have hshort := (List.prefix_concat_iff.1 hq).resolve_left hne
    by_cases he : q = p
    · exact he ▸ hdir
    · exact ih hshort he

theorem Reached.follow {d : Disk} {p : Place} (h : Reached d p) : d.follow [] p = .ok p := by
  induction h with
  | root => rfl
  | child hp hdir hdots hlen ih =>
    rw [follow_append, ih]
    simp [Except.bind, Disk.follow, hdir, hdots, Nat.not_lt.2 hlen]

/-- Names are followed to the place that they spell once double dots are resolved. -/
theorem follow_reached {d : Disk} {ns : List String} {here p : Place} (hr : Reached d here)
    (h : d.follow here ns = .ok p) :
    Reached d p ∧
      ns.foldl (fun done n => if n = ".." then done.dropLast else done ++ [n]) here = p := by
  induction ns generalizing here with
  | nil =>
    cases h
    exact ⟨hr, rfl⟩
  | cons n ns ih =>
    rw [Disk.follow] at h
    rw [List.foldl_cons]
    cases hn : d.node? here with
    | none =>
      rw [hn] at h
      cases h
    | some node =>
      rw [hn] at h
      cases node with
      | file k => cases h
      | directory =>
        simp only at h
        split at h
        · rename_i hdots
          rw [if_pos hdots]
          exact ih hr.dropLast h
        · rename_i hdots
          split at h
          · cases h
          · rename_i hlen
            rw [if_neg hdots]
            exact ih (.child hr hn hdots (Nat.le_of_not_lt hlen)) h

/-- Only the directories on the way matter for where a path leads. -/
theorem follow_mono_reached {d e : Disk}
    (hde : ∀ q, Reached d q → d.node? q = some .directory → e.node? q = some .directory)
    {ns : List String} {here p : Place} (hr : Reached d here) (h : d.follow here ns = .ok p) :
    e.follow here ns = .ok p := by
  induction ns generalizing here with
  | nil => exact h
  | cons n ns ih =>
    rw [Disk.follow] at h ⊢
    cases hn : d.node? here with
    | none =>
      rw [hn] at h
      cases h
    | some node =>
      rw [hn] at h
      cases node with
      | file k => cases h
      | directory =>
        simp only [hde here hr hn] at h ⊢
        split at h
        · rename_i hdots
          rw [if_pos hdots]
          exact ih hr.dropLast h
        · rename_i hdots
          split at h
          · cases h
          · rename_i hlen
            rw [if_neg hdots, if_neg hlen]
            exact ih (.child hr hn hdots (Nat.le_of_not_lt hlen)) h

/-- Resolving double dots does not change where a path leads. -/
theorem locate_resolved {d : Disk} {p : Path} {place : Place} (h : d.locate p = .ok place) :
    d.locate p.resolved = .ok place := by
  obtain ⟨hr, hp⟩ := follow_reached .root h
  have hn : p.resolved.names = place := hp
  rw [locate, hn]
  exact hr.follow

theorem resolveNames_plain (ns : List String) : ".." ∉ Path.resolveNames ns := by
  suffices h : ∀ done : List String, ".." ∉ done →
      ".." ∉ ns.foldl (fun done n => if n = ".." then done.dropLast else done ++ [n]) done from
    h [] List.not_mem_nil
  induction ns with
  | nil => exact fun done h => h
  | cons n ns ih =>
    intro done h
    rw [List.foldl_cons]
    apply ih
    split
    · exact fun hm => h ((List.dropLast_sublist done).subset hm)
    · rename_i hn
      rw [List.mem_append, List.mem_singleton, not_or]
      exact ⟨h, fun e => hn e.symm⟩

theorem resolveNames_of_plain {ns : List String} (h : ".." ∉ ns) : Path.resolveNames ns = ns := by
  suffices hs : ∀ done : List String,
      ns.foldl (fun done n => if n = ".." then done.dropLast else done ++ [n]) done = done ++ ns by
    exact hs []
  induction ns with
  | nil => exact fun done => (List.append_nil done).symm
  | cons n ns ih =>
    rw [List.mem_cons, not_or] at h
    intro done
    rw [List.foldl_cons, if_neg (fun e => h.1 e.symm), ih h.2, List.append_assoc]
    rfl

/-- A path without double dots leads nowhere but to the place that it spells. -/
theorem locate_resolved_names {d : Disk} {p : Path} {q : Place} (h : d.locate p.resolved = .ok q) :
    q = p.resolved.names := by
  have hn := (follow_reached .root h).2
  have hp : p.resolved.names.foldl (fun done n => if n = ".." then done.dropLast else done ++ [n]) [] =
      p.resolved.names := resolveNames_of_plain (resolveNames_plain p.names)
  rw [← hn, hp]

theorem find_error {d : Disk} {p : Path} {c : OsCause} (hl : d.locate p = .error c) :
    d.find p = .error c := by
  simp only [find, hl, bind, Except.bind]

theorem find_of_node {d : Disk} {p : Path} {q : Place} {node : Node} (hl : d.locate p = .ok q)
    (hn : d.node? q = some node) : d.find p = .ok (q, node) := by
  simp only [find, hl, bind, Except.bind, hn]

theorem find_of_vacant {d : Disk} {p : Path} {q : Place} (hl : d.locate p = .ok q)
    (hn : d.node? q = none) : d.find p = .error .noEntry := by
  simp only [find, hl, bind, Except.bind, hn]

/-- What a path leads to lies at the place that its resolved spelling gives. -/
theorem find_place {d : Disk} {p : Path} {q : Place} {node : Node} (h : d.find p = .ok (q, node)) :
    d.locate p = .ok q ∧ d.node? q = some node ∧ q = p.resolved.names := by
  cases hl : d.locate p with
  | error c =>
    rw [find_error hl] at h
    cases h
  | ok q' =>
    cases hn : d.node? q' with
    | none =>
      rw [find_of_vacant hl hn] at h
      cases h
    | some n =>
      rw [find_of_node hl hn] at h
      cases h
      exact ⟨rfl, hn, locate_resolved_names (locate_resolved hl)⟩

theorem exists_iff {d : Disk} {p : Path} :
    d.exists? p = .ok true ↔ ∃ q node, d.find p = .ok (q, node) := by
  rw [exists?, test]
  constructor
  · intro h
    split at h
    · rename_i q node hf
      exact ⟨q, node, hf⟩
    · cases h
    · cases h
  · rintro ⟨q, node, hf⟩
    rw [hf]

theorem isFile_iff {d : Disk} {p : Path} :
    d.isFile? p = .ok true ↔ ∃ q n, d.find p = .ok (q, .file n) := by
  rw [isFile?, test]
  constructor
  · intro h
    split at h
    · rename_i q node hf
      cases node with
      | file n => exact ⟨q, n, hf⟩
      | directory => cases h
    · cases h
    · cases h
  · rintro ⟨q, n, hf⟩
    rw [hf]
    rfl

/-! ## Names below a directory -/

/-- A path leads to a directory at a place. -/
structure LeadsTo (d : Disk) (root : Path) (R : Place) : Prop where
  locate : d.locate root = .ok R
  node : d.node? R = some .directory

theorem LeadsTo.resolved {d : Disk} {root : Path} {R : Place} (h : d.LeadsTo root R) :
    d.LeadsTo root.resolved R :=
  ⟨locate_resolved h.locate, h.node⟩

theorem LeadsTo.mono {d e : Disk} {root : Path} {R : Place} (h : d.LeadsTo root R)
    (hde : ∀ q, d.node? q = some .directory → e.node? q = some .directory) : e.LeadsTo root R :=
  ⟨follow_mono hde h.locate, hde R h.node⟩

theorem resolved_child {p : Path} {n : String} (hn : n ≠ "..") :
    (p.child n).resolved = p.resolved.child n := by
  simp [Path.child, Path.resolved, Path.resolveNames, List.foldl_append, hn]

section Below

variable {d : Disk} {root : Path} {R : Place} {n : String}

theorem locate_long (h : d.LeadsTo root R) (hn : n ≠ "..") (hl : maxName < n.utf8ByteSize) :
    d.locate (root.child n) = .error .nameTooLong := by
  have hf : d.follow [] root.names = .ok R := h.locate
  simp only [Disk.locate, Path.child, follow_append, hf, Except.bind, follow, h.node, hn, hl, if_false,
    if_true]

/-- A path that leads somewhere leads to a directory before its last name. -/
theorem locate_child_cases {q : Place} (h : d.locate (root.child n) = .ok q) :
    ∃ R, d.LeadsTo root R ∧ q = if n = ".." then R.dropLast else R ++ [n] := by
  have hf : d.follow [] (root.names ++ [n]) = .ok q := h
  rw [follow_append] at hf
  cases hr : d.follow [] root.names with
  | error c =>
    rw [hr] at hf
    cases hf
  | ok R =>
    rw [hr] at hf
    change d.follow R [n] = .ok q at hf
    rw [follow] at hf
    cases hn : d.node? R with
    | none =>
      rw [hn] at hf
      cases hf
    | some node =>
      rw [hn] at hf
      cases node with
      | file k => cases hf
      | directory =>
        refine ⟨R, ⟨hr, hn⟩, ?_⟩
        by_cases hdots : n = ".."
        · simp only [if_pos hdots] at hf
          cases hf
          rw [if_pos hdots]
        · simp only [if_neg hdots] at hf
          split at hf
          · cases hf
          · cases hf
            rw [if_neg hdots]

theorem find_child (h : d.LeadsTo root R) (hn : n ≠ "..") (hl : n.utf8ByteSize ≤ maxName) :
    d.find (root.child n) =
      match d.node? (R ++ [n]) with
      | none => .error .noEntry
      | some node => .ok (R ++ [n], node) := by
  have hloc := Disk.locate_child d root R n h.locate h.node hn hl
  simp only [find, hloc]
  rfl

theorem find_long (h : d.LeadsTo root R) (hn : n ≠ "..") (hl : maxName < n.utf8ByteSize) :
    d.find (root.child n) = .error .nameTooLong := by
  simp only [find, locate_long h hn hl]
  rfl

theorem test_child (h : d.LeadsTo root R) (hn : n ≠ "..") (hl : n.utf8ByteSize ≤ maxName)
    (holds : Node → Bool) : d.test (root.child n) holds = .ok ((d.node? (R ++ [n])).any holds) := by
  rw [test, find_child h hn hl]
  cases d.node? (R ++ [n]) <;> rfl

theorem test_long (h : d.LeadsTo root R) (hn : n ≠ "..") (hl : maxName < n.utf8ByteSize)
    (holds : Node → Bool) :
    d.test (root.child n) holds = .error ⟨.nameTooLong, (root.child n).toString, none⟩ := by
  rw [test, find_long h hn hl]

theorem unlink_child (h : d.LeadsTo root R) (hn : n ≠ "..") (hl : n.utf8ByteSize ≤ maxName) :
    d.unlink (root.child n) =
      match d.node? (R ++ [n]) with
      | none => .error ⟨.noEntry, (root.child n).toString, none⟩
      | some .directory => .error ⟨.isDirectory, (root.child n).toString, none⟩
      | some (.file _) => .ok (d.detach (R ++ [n])) := by
  rw [unlink, find_child h hn hl]
  cases d.node? (R ++ [n]) with
  | none => rfl
  | some node => cases node <;> rfl

theorem unlink_long (h : d.LeadsTo root R) (hn : n ≠ "..") (hl : maxName < n.utf8ByteSize) :
    d.unlink (root.child n) = .error ⟨.nameTooLong, (root.child n).toString, none⟩ := by
  rw [unlink, find_long h hn hl]
  rfl

/-- A file is moved to a name that is free. -/
theorem move_child {m : String} {k : Nat} (h : d.LeadsTo root R) (hn : n ≠ "..")
    (hl : n.utf8ByteSize ≤ maxName) (hm : m ≠ "..") (hlm : m.utf8ByteSize ≤ maxName) (hne : n ≠ m)
    (hf : d.node? (R ++ [n]) = some (.file k)) (hfree : d.node? (R ++ [m]) = none) :
    d.move (root.child n) (root.child m) = .ok (d.moveTree (R ++ [n]) (R ++ [m])) := by
  have hloc := Disk.locate_child d root R m h.locate h.node hm hlm
  have hp : R ++ [n] ≠ R ++ [m] := by simpa using hne
  simp only [move, find_child h hn hl, hf, hloc, hfree, if_neg hp]

end Below

/-! ## What places hold after a change -/

theorem node_of_ne_nil (d : Disk) {p : Place} (h : p ≠ []) : d.node? p = d.tree.get? p := by
  rw [node?, if_neg h]

theorem node_createFile (d : Disk) {p : Place} (hp : p ≠ []) (content : Content) (q : Place) :
    (d.createFile p content).2.node? q = if q = p then some (.file d.next) else d.node? q := by
  by_cases hq : q = p
  · subst hq
    rw [if_pos rfl, node_of_ne_nil _ hp]
    exact Ordered.get?_put_self _ _ _
  · rw [if_neg hq]
    by_cases hnil : q = []
    · simp [node?, hnil]
    · rw [node_of_ne_nil _ hnil, node_of_ne_nil _ hnil]
      exact Ordered.get?_put_of_ne _ _ (fun e => hq e.symm)

theorem node_detach (d : Disk) {p : Place} (hp : p ≠ []) (q : Place) :
    (d.detach p).node? q = if q = p then none else d.node? q := by
  by_cases hq : q = p
  · subst hq
    rw [if_pos rfl, node_of_ne_nil _ hp]
    exact Ordered.get?_drop_self _ _
  · rw [if_neg hq]
    by_cases hnil : q = []
    · simp [node?, hnil]
    · rw [node_of_ne_nil _ hnil, node_of_ne_nil _ hnil]
      exact Ordered.get?_drop_of_ne _ (fun e => hq e.symm)

theorem rebase_self (a b : Place) : rebase a b a = b := by
  simp [rebase]

theorem rebase_elsewhere {a b q : Place} (h : ¬ a <+: q) : rebase a b q = q := by
  rw [rebase, if_neg]
  rwa [List.isPrefixOf_iff_prefix]

/-- Look-ups after every key is rebased, where one key alone begins with the old place. -/
theorem get?_rebase {t : Ordered Place Node} {a b : Place} (hab : a ≠ b)
    (ha : ∀ e ∈ t, a <+: e.1 → e.1 = a) (hb : ∀ e ∈ t, e.1 ≠ b) (q : Place) :
    Ordered.get? (t.map (fun e => (rebase a b e.1, e.2))) q =
      if q = b then Ordered.get? t a else if q = a then none else Ordered.get? t q := by
  induction t with
  | nil => simp [Ordered.get?]
  | cons e t ih =>
    have ih := ih (fun x hx => ha x (List.mem_cons_of_mem _ hx))
      (fun x hx => hb x (List.mem_cons_of_mem _ hx))
    obtain ⟨k, node⟩ := e
    have hkb : k ≠ b := hb _ List.mem_cons_self
    rw [List.map_cons, Ordered.get?, Ordered.get?, Ordered.get?, ih]
    by_cases hka : k = a
    · subst hka
      rw [rebase_self]
      by_cases hqb : q = b
      · simp [hqb]
      · have hbq : ¬ b = q := fun e => hqb e.symm
        by_cases hqa : q = k
        · simp [hqa, hab, Ne.symm hab]
        · simp [hbq, hqb, hqa, Ne.symm hqa]
    · have hnp : ¬ a <+: k := fun h => hka (ha _ List.mem_cons_self h)
      rw [rebase_elsewhere hnp]
      by_cases hqb : q = b
      · simp [hqb, hkb, hka]
      · by_cases hqa : q = a
        · simp [hqa, hka, hab]
        · simp [hqa, hqb]

theorem get?_eq_none_iff {κ ν : Type} [DecidableEq κ] {m : Ordered κ ν} {key : κ} :
    Ordered.get? m key = none ↔ ∀ e ∈ m, e.1 ≠ key := by
  induction m with
  | nil => simp [Ordered.get?]
  | cons e m ih =>
    obtain ⟨k, v⟩ := e
    by_cases hk : k = key <;> simp [Ordered.get?, hk, ih]

/-- What every place holds after a file was moved to a free place. -/
theorem node_moveTree (d : Disk) {a b : Place} (hane : a ≠ []) (hbne : b ≠ []) (hab : a ≠ b)
    (ha : ∀ q, a <+: q → q ≠ a → d.node? q = none) (q : Place) :
    (d.moveTree a b).node? q =
      if q = b then d.node? a else if q = a then none else d.node? q := by
  by_cases hnil : q = []
  · subst hnil
    simp [node?, Ne.symm hane, Ne.symm hbne]
  · rw [node_of_ne_nil _ hnil, node_of_ne_nil _ hane, node_of_ne_nil _ hnil]
    have hkeys : ∀ e ∈ Ordered.drop d.tree b, a <+: e.1 → e.1 = a := by
      intro e he hpre
      apply Classical.byContradiction
      intro hne
      have hem : e ∈ d.tree := (List.mem_filter.1 he).1
      have henil : e.1 ≠ [] := by
        intro hnil'
        rw [hnil', List.prefix_nil] at hpre
        exact hane hpre
      have hnone := ha e.1 hpre hne
      rw [node_of_ne_nil _ henil, get?_eq_none_iff] at hnone
      exact hnone e hem rfl
    have hfree : ∀ e ∈ Ordered.drop d.tree b, e.1 ≠ b := get?_eq_none_iff.1 (Ordered.get?_drop_self _ _)
    have hget := get?_rebase hab hkeys hfree q
    rw [moveTree, hget, Ordered.get?_drop_of_ne _ (Ne.symm hab)]
    by_cases hqb : q = b
    · rw [if_pos hqb, if_pos hqb]
    · rw [if_neg hqb, if_neg hqb, Ordered.get?_drop_of_ne _ (fun e => hqb e.symm)]

/-- Look-ups after every key is exchanged, at a key that one key alone is exchanged for. -/
theorem get?_map_key {t : Ordered Place Node} {f : Place → Place} {q q' : Place}
    (hf : ∀ e ∈ t, f e.1 = q ↔ e.1 = q') :
    Ordered.get? (t.map (fun e => (f e.1, e.2))) q = Ordered.get? t q' := by
  induction t with
  | nil => rfl
  | cons e t ih =>
    have ih := ih (fun x hx => hf x (List.mem_cons_of_mem _ hx))
    have he := hf e List.mem_cons_self
    obtain ⟨k, node⟩ := e
    rw [List.map_cons, Ordered.get?, Ordered.get?, ih]
    by_cases hk : k = q'
    · rw [if_pos hk, if_pos (he.2 hk)]
    · rw [if_neg hk, if_neg fun h => hk (he.1 h)]

/-- What was at a place is where it was moved to. -/
theorem node_moveTree_target (d : Disk) {a b : Place} (hane : a ≠ []) (hbne : b ≠ []) (hab : a ≠ b) :
    (d.moveTree a b).node? b = d.node? a := by
  have hfree : ∀ e ∈ Ordered.drop d.tree b, e.1 ≠ b := get?_eq_none_iff.1 (Ordered.get?_drop_self _ _)
  rw [node_of_ne_nil _ hbne, node_of_ne_nil _ hane, ← Ordered.get?_drop_of_ne d.tree (Ne.symm hab)]
  refine get?_map_key fun e he => ?_
  constructor
  · intro hk
    rw [rebase] at hk
    split at hk
    · rename_i hpre
      have hrest : e.1.drop a.length = [] := by simpa using hk
      rw [List.isPrefixOf_iff_prefix] at hpre
      exact (hpre.eq_of_length_le (List.drop_eq_nil_iff.1 hrest)).symm
    · exact absurd hk (hfree e he)
  · intro hk
    rw [hk, rebase_self]

/-- A place that was moved away holds nothing, unless it lies below where it was moved to. -/
theorem node_moveTree_source (d : Disk) {a b : Place} (hane : a ≠ []) (hba : ¬ b <+: a) :
    (d.moveTree a b).node? a = none := by
  rw [node_of_ne_nil _ hane, moveTree, get?_eq_none_iff]
  intro e he hk
  obtain ⟨e', -, rfl⟩ := List.mem_map.1 he
  dsimp only at hk
  rw [rebase] at hk
  split at hk
  · exact hba ⟨_, hk⟩
  · rename_i hpre
    rw [hk] at hpre
    exact hpre (List.isPrefixOf_iff_prefix.2 (List.prefix_refl a))

/-- A place that lies neither in the one nor in the other holds what it held. -/
theorem node_moveTree_elsewhere (d : Disk) {a b q : Place} (ha : ¬ a <+: q) (hb : ¬ b <+: q) :
    (d.moveTree a b).node? q = d.node? q := by
  by_cases hnil : q = []
  · subst hnil
    rfl
  · have hbq : b ≠ q := fun e => hb (e ▸ List.prefix_refl b)
    rw [node_of_ne_nil _ hnil, node_of_ne_nil _ hnil, ← Ordered.get?_drop_of_ne d.tree hbq]
    refine get?_map_key fun e _ => ?_
    rw [rebase]
    split
    · rename_i hpre
      rw [List.isPrefixOf_iff_prefix] at hpre
      exact iff_of_false (fun hk => hb ⟨_, hk⟩) (fun hk => ha (hk ▸ hpre))
    · exact Iff.rfl

end TileDepot.Disk
