import TileDepot.Proofs.Books
import TileDepot.Proofs.Failures

/-!
# Removing and renaming as a whole

Removing or renaming a layer should be done or not be done: if it fails, the files are where they were, and
listeners are told exactly if a store file was removed or moved.

It is not always so.  What databases keep beside a file is taken away after the file itself was removed or
moved, and where that fails the failure is reported all the same, and nobody is told.  A path may also lead to
a directory; then it is moved like a file, and listeners are told of a store file that there never was.

* `removeAll_sheds` says when something beside a path cannot be taken away, and `moved_file` what moving a
  file leaves.
* `deleteLayer_clears` and `renameLayer_clears` say how removing and renaming end.
* `layers_whole_iff` says that they are whole in all other cases.
-/

namespace TileDepot

open Layer Store

/-! ## Taking away what lies beside a path -/

namespace Disk

variable {d e g : Disk} {p : Path} {q : Place} {n : Nat} {suffix : String} {suffixes : List String}

/-- What lies beside a path cannot be taken away: there is something, or it cannot be told, and it is no
file. -/
def Obstructs (d : Disk) (p : Path) (suffix : String) : Prop :=
  d.find (p.extendName suffix) ≠ .error .noEntry ∧ ∀ q n, d.find (p.extendName suffix) ≠ .ok (q, .file n)

/-- Something that lies beside a path cannot be taken away. -/
def Cluttered (d : Disk) (p : Path) : Prop := ∃ suffix ∈ sidecarSuffixes, d.Obstructs p suffix

/-- A file beside a path is taken away, if there is one. -/
inductive Sheds (p : Path) (suffix : String) (d : Disk) : Disk → Prop
  | missing : Sheds p suffix d d
  | taken {q : Place} {n : Nat} : d.find (p.extendName suffix) = .ok (q, .file n) →
      Sheds p suffix d (d.detach q)

/-- A disk is another one without some of the files beside a path. -/
structure Shed (p : Path) (suffixes : List String) (d e : Disk) : Prop where
  bodies : e.bodies = d.bodies
  node : ∀ q, e.node? q = d.node? q ∨
    e.node? q = none ∧ (∃ k, d.node? q = some (.file k)) ∧
      ∃ suffix ∈ suffixes, q = (p.extendName suffix).resolved.names

theorem Shed.refl (p : Path) (d : Disk) : Shed p [] d d := ⟨rfl, fun _ => .inl rfl⟩

theorem Shed.mono {more : List String} (h : Shed p suffixes d e) (hmore : suffixes ⊆ more) :
    Shed p more d e where
  bodies := h.bodies
  node q := (h.node q).imp_right fun ⟨hn, hk, suffix, hs, hq⟩ => ⟨hn, hk, suffix, hmore hs, hq⟩

theorem Shed.trans (a : Shed p suffixes d e) (b : Shed p suffixes e g) : Shed p suffixes d g where
  bodies := b.bodies.trans a.bodies
  node := by
    intro q
    rcases b.node q with hb | ⟨hb, ⟨k, hk⟩, hq⟩
    · rw [hb]
      exact a.node q
    · rcases a.node q with ha | ⟨ha, -, -⟩
      · exact .inr ⟨hb, ⟨k, ha ▸ hk⟩, hq⟩
      · rw [ha] at hk
        cases hk

theorem Shed.directory (h : Shed p suffixes d e) (hq : d.node? q = some .directory) :
    e.node? q = some .directory := by
  rcases h.node q with hn | ⟨-, ⟨k, hk⟩, -⟩
  · rw [hn, hq]
  · rw [hq] at hk
    cases hk

/-- Nothing new comes up. -/
theorem Shed.node_none (h : Shed p suffixes d e) (hq : d.node? q = none) : e.node? q = none := by
  rcases h.node q with hn | ⟨hn, -, -⟩
  · rw [hn, hq]
  · exact hn

theorem Sheds.shed (h : Sheds p suffix d e) : Shed p [suffix] d e := by
  cases h with
  | missing => exact (Shed.refl p d).mono (List.nil_subset _)
  | @taken q n hf =>
    obtain ⟨-, hn, hq⟩ := find_place hf
    have hnil : q ≠ [] := by
      rintro rfl
      cases hn
    refine ⟨rfl, fun q' => ?_⟩
    rw [node_detach d hnil]
    by_cases he : q' = q
    · subst he
      exact .inr ⟨if_pos rfl, ⟨n, hn⟩, suffix, List.mem_singleton_self _, hq⟩
    · exact .inl (if_neg he)

theorem sidecar_ne_dots (hs : suffix ∈ sidecarSuffixes) (name : String) : name ++ suffix ≠ ".." := by
  intro h
  have hlist := congrArg (fun s : String => s.toList.getLast?) h
  simp only [sidecarSuffixes, List.mem_cons, List.not_mem_nil, or_false] at hs
  rcases hs with rfl | rfl | rfl <;> simp [String.toList_append] at hlist

/-- Taking away one file beside a path does not bear on the others. -/
theorem Sheds.find_eq {x y : String} (h : Sheds p x d e) (hxy : x ≠ y) (hx : x ∈ sidecarSuffixes)
    (hy : y ∈ sidecarSuffixes) : e.find (p.extendName y) = d.find (p.extendName y) := by
  cases h with
  | missing => rfl
  | @taken q n hf =>
    obtain ⟨hl, hn, -⟩ := find_place hf
    have hxdots := sidecar_ne_dots hx p.name
    have hydots := sidecar_ne_dots hy p.name
    obtain ⟨R, hR, hq⟩ := locate_child_cases hl
    rw [if_neg hxdots] at hq
    subst hq
    have hnode := node_detach d (p := R ++ [p.name ++ x]) (by simp)
    have hR' : (d.detach (R ++ [p.name ++ x])).LeadsTo p.parent R := by
      refine hR.mono fun q hq => ?_
      rw [hnode, if_neg, hq]
      rintro rfl
      rw [hn] at hq
      cases hq
    have hne : R ++ [p.name ++ y] ≠ R ++ [p.name ++ x] := by
      simpa using fun e : p.name ++ y = p.name ++ x => hxy (String.append_right_inj _ |>.1 e).symm
    show find _ (p.parent.child (p.name ++ y)) = find _ (p.parent.child (p.name ++ y))
    by_cases hlen : (p.name ++ y).utf8ByteSize ≤ maxName
    · rw [find_child hR' hydots hlen, find_child hR hydots hlen, hnode, if_neg hne]
    · rw [find_long hR' hydots (Nat.lt_of_not_le hlen), find_long hR hydots (Nat.lt_of_not_le hlen)]

/-! ## Files that were removed or moved -/

theorem not_file_of_vacant (h : d.node? p.resolved.names = none) : d.isFile? p ≠ .ok true := by
  intro hfile
  obtain ⟨q, n, hf⟩ := isFile_iff.1 hfile
  obtain ⟨-, hn, rfl⟩ := find_place hf
  rw [h] at hn
  cases hn

/-- A file that is removed was found at the path, and nothing is there any more. -/
theorem unlinked_file (hu : d.unlink p = .ok e) :
    ∃ q n, d.find p = .ok (q, .file n) ∧ e.node? p.resolved.names = none := by
  rw [unlink] at hu
  split at hu
  · cases hu
  · cases hu
  · rename_i q n hf
    cases hu
    obtain ⟨-, hn, rfl⟩ := find_place hf
    have hnil : p.resolved.names ≠ [] := by
      intro hnil
      rw [hnil] at hn
      cases hn
    exact ⟨_, n, hf, (node_detach d hnil _).trans (if_pos rfl)⟩

/-- A file can be moved to a path that led nowhere if the path leads to a place that is free. -/
theorem move_file_cases {p' : Path} (hf : d.find p = .ok (q, .file n)) (hfree : d.exists? p' = .ok false)
    (hm : d.move p p' = .ok e) : d.locate p' = .ok p'.resolved.names ∧ d.node? p'.resolved.names = none ∧
      e = d.moveTree q p'.resolved.names := by
  cases hl' : d.locate p' with
  | error c =>
    simp only [move, hf, hl'] at hm
    cases hm
  | ok b =>
    have hb := locate_resolved_names (locate_resolved hl')
    subst hb
    have hnone : d.node? p'.resolved.names = none := by
      cases hnode : d.node? p'.resolved.names with
      | none => rfl
      | some node =>
        rw [exists_iff.2 ⟨_, _, find_of_node hl' hnode⟩] at hfree
        cases hfree
    have hne : q ≠ p'.resolved.names := by
      rintro rfl
      rw [(find_place hf).2.1] at hnone
      cases hnone
    simp only [move, hf, hl', hnone, if_neg hne, Except.ok.injEq] at hm
    exact ⟨rfl, hnone, hm.symm⟩

/-- Moving a file to a free place moves nothing else, and directories stay. -/
theorem moveTree_file {a b : Place} (ha : Reached d a) (hn : d.node? a = some (.file n))
    (hb : d.node? b = none) :
    (d.moveTree a b).node? a = none ∧ (d.moveTree a b).node? b = some (.file n) ∧
      ∀ r, Reached d r → d.node? r = some .directory → (d.moveTree a b).node? r = some .directory := by
  have hne : a ≠ b := by
    rintro rfl
    rw [hn] at hb
    cases hb
  have hnil : a ≠ [] := by
    rintro rfl
    cases hn
  have hnil' : b ≠ [] := by
    rintro rfl
    cases hb
  -- What can be reached is below neither place, since there is a directory on the way to it.
  have hapart : ∀ {x r : Place}, Reached d r → d.node? x ≠ some .directory → d.node? r ≠ d.node? x →
      ¬ x <+: r := by
    intro x r hr hx hrx hpre
    exact hx (hr.directory hpre fun he => hrx (by rw [he]))
  refine ⟨?_, (node_moveTree_target d hnil hnil' hne).trans hn, fun r hr hdir => ?_⟩
  · exact node_moveTree_source d hnil (hapart ha (by simp [hb]) (by simp [hb, hn]))
  · rw [node_moveTree_elsewhere d, hdir]
    · exact hapart hr (by simp [hn]) (by simp [hn, hdir])
    · exact hapart hr (by simp [hb]) (by simp [hb, hdir])

/-- A file that is moved to a path that led nowhere is found there, and nothing is where it was. -/
theorem moved_file {p' : Path} (hf : d.find p = .ok (q, .file n)) (hfree : d.exists? p' = .ok false)
    (hm : d.move p p' = .ok e) :
    e.bodies = d.bodies ∧ e.node? p.resolved.names = none ∧
      e.find p' = .ok (p'.resolved.names, .file n) := by
  obtain ⟨hl', hnone, rfl⟩ := move_file_cases hf hfree hm
  obtain ⟨hl, hn, rfl⟩ := find_place hf
  obtain ⟨hgone, hthere, hdirs⟩ := moveTree_file (follow_reached .root hl).1 hn hnone
  exact ⟨rfl, hgone, find_of_node (follow_mono_reached hdirs .root hl') hthere⟩

/-- A path that leads to a file does not end in a double dot. -/
theorem child_of_file (hf : d.find p = .ok (q, .file n)) :
    ∃ (root : Path) (x : String), p = root.child x ∧ x ≠ ".." := by
  obtain ⟨hl, hn, -⟩ := find_place hf
  obtain ⟨anchor, names⟩ := p
  rcases List.eq_nil_or_concat' names with rfl | ⟨ns, x, rfl⟩
  · cases hl
    cases hn
  · refine ⟨⟨anchor, ns⟩, x, rfl, ?_⟩
    rintro rfl
    have hchild : d.locate (Path.child ⟨anchor, ns⟩ "..") = .ok q := hl
    obtain ⟨R, hR, rfl⟩ := locate_child_cases hchild
    have hdir : d.node? R.dropLast = some .directory := by
      by_cases he : R.dropLast = R
      · rw [he, hR.node]
      · exact (follow_reached .root hR.locate).1.directory (List.dropLast_prefix R) he
    rw [if_pos rfl, hdir] at hn
    cases hn

/-- What lies beside a path that leads to a file lies beside the place of the file. -/
theorem beside_of_file (hf : d.find p = .ok (q, .file n)) (hs : suffix ∈ sidecarSuffixes) :
    (p.extendName suffix).resolved.names = beside p.resolved.names suffix := by
  obtain ⟨root, x, rfl, hx⟩ := child_of_file hf
  rw [Path.extendName, Path.child_parent, Path.child_name, resolved_child (sidecar_ne_dots hs x),
    resolved_child hx]
  exact (beside_concat _ _ _).symm

/-- A file that is not beside the path stays. -/
theorem Shed.find_file {p' : Path} (h : Shed p suffixes d e) (hf : d.find p' = .ok (q, .file n))
    (hne : ∀ suffix ∈ suffixes, p'.resolved.names ≠ (p.extendName suffix).resolved.names) :
    e.find p' = .ok (q, .file n) := by
  obtain ⟨hl, hn, rfl⟩ := find_place hf
  have hl' := follow_mono_reached (fun _ _ => h.directory) .root hl
  rcases h.node p'.resolved.names with hnode | ⟨-, -, suffix, hs, hq⟩
  · exact find_of_node hl' (hnode.trans hn)
  · exact absurd hq (hne suffix hs)

/-- If a path leads to a file, it still does, and the file is as it was. -/
def KeepsFile (d e : Disk) (p : Path) : Prop :=
  ∀ q n, d.find p = .ok (q, .file n) → e.find p = .ok (q, .file n) ∧ e.body? n = d.body? n

theorem KeepsFile.refl (d : Disk) (p : Path) : d.KeepsFile d p := fun _ _ h => ⟨h, rfl⟩

theorem keepsFile_of_not_file (h : d.isFile? p ≠ .ok true) : d.KeepsFile e p :=
  fun q n hf => absurd (isFile_iff.2 ⟨q, n, hf⟩) h

theorem KeepsFile.isFile (h : d.KeepsFile e p) (hf : d.isFile? p = .ok true) : e.isFile? p = .ok true := by
  obtain ⟨q, n, hfind⟩ := isFile_iff.1 hf
  exact isFile_iff.2 ⟨q, n, (h q n hfind).1⟩

end Disk

namespace Store

variable {s t : Store} {m m' : String} {p p' : Path} {d : Disk} {suffix : String}

theorem removeBeside_sheds (p : Path) (suffix : String) (s : Store) :
    ¬ s.disk.Obstructs p suffix ∧ (∃ d, Disk.Sheds p suffix s.disk d ∧
        Step.outcome (removeBeside p suffix) s = (.ok (), { s with disk := d })) ∨
      s.disk.Obstructs p suffix ∧ ∃ f, Step.outcome (removeBeside p suffix) s = (.error f, s) := by
  have hrefused : ∀ {c : OsCause}, c ≠ .noEntry →
      s.disk.unlink (p.extendName suffix) = .error (Disk.faultAt c (p.extendName suffix)) →
      Step.outcome (removeBeside p suffix) s =
        (.error (.os (Disk.faultAt c (p.extendName suffix))), s) := by
    intro c hc hu
    simp only [removeBeside, Step.run_bind, Step.run_view, hu, Disk.faultAt, if_neg hc, Step.run_throw]
  cases hf : s.disk.find (p.extendName suffix) with
  | ok found =>
    obtain ⟨q, node⟩ := found
    cases node with
    | file n =>
      refine .inl ⟨fun h => h.2 q n hf, _, .taken hf, ?_⟩
      simp only [removeBeside, Step.run_bind, Step.run_view, Disk.unlink, hf, Step.run_changeDisk]
    | directory =>
      have hu : s.disk.unlink (p.extendName suffix) =
          .error (Disk.faultAt .isDirectory (p.extendName suffix)) := by rw [Disk.unlink, hf]
      exact .inr ⟨⟨by simp [hf], by simp [hf]⟩, _, hrefused (by decide) hu⟩
  | error c =>
    have hu : s.disk.unlink (p.extendName suffix) = .error (Disk.faultAt c (p.extendName suffix)) := by
      rw [Disk.unlink, hf]
    by_cases hc : c = .noEntry
    · subst hc
      refine .inl ⟨fun h => h.1 hf, _, .missing, ?_⟩
      simp only [removeBeside, Step.run_bind, Step.run_view, hu, Disk.faultAt, if_true, Step.run_pure]
    · exact .inr ⟨⟨by simp [hf, hc], by simp [hf]⟩, _, hrefused hc hu⟩

/-- What lies beside a path is taken away up to the first thing that cannot be. -/
theorem removeAll_sheds (p : Path) {suffixes : List String} (hs : suffixes ⊆ sidecarSuffixes)
    (hnodup : suffixes.Nodup) (s : Store) :
    ∃ d, Disk.Shed p suffixes s.disk d ∧
      ((∀ suffix ∈ suffixes, ¬ s.disk.Obstructs p suffix) ∧
          Step.outcome (suffixes.forM (removeBeside p)) s = (.ok (), { s with disk := d }) ∨
        (∃ suffix ∈ suffixes, s.disk.Obstructs p suffix) ∧
          ∃ f, Step.outcome (suffixes.forM (removeBeside p)) s = (.error f, { s with disk := d })) := by
  induction suffixes generalizing s with
  | nil => exact ⟨s.disk, .refl p _, .inl ⟨by simp, rfl⟩⟩
  | cons x suffixes ih =>
    have hx := hs List.mem_cons_self
    have hrest : suffixes ⊆ sidecarSuffixes := fun y hy => hs (List.mem_cons_of_mem x hy)
    rw [List.nodup_cons] at hnodup
    have hfold : Step.outcome ((x :: suffixes).forM (removeBeside p)) s =
        Step.outcome (removeBeside p x >>= fun _ => suffixes.forM (removeBeside p)) s := rfl
    rw [hfold, Step.run_bind]
    rcases removeBeside_sheds p x s with ⟨hfree, e, hsheds, hrun⟩ | ⟨hobstructs, f, hrun⟩
    · rw [hrun]
      obtain ⟨d, hshed, hcases⟩ := ih hrest hnodup.2 { s with disk := e }
      -- Whether the others can be taken away has not changed.
      have hothers : ∀ y ∈ suffixes, e.Obstructs p y ↔ s.disk.Obstructs p y := by
        intro y hy
        have hxy : x ≠ y := fun h => hnodup.1 (h ▸ hy)
        rw [Disk.Obstructs, Disk.Obstructs, hsheds.find_eq hxy hx (hrest hy)]
      refine ⟨d, (hsheds.shed.mono (by simp)).trans (hshed.mono (List.subset_cons_self ..)), ?_⟩
      rcases hcases with ⟨hnone, hrun'⟩ | ⟨⟨y, hy, hobstructs⟩, f, hrun'⟩
      · refine .inl ⟨fun y hy => ?_, hrun'⟩
        rcases List.mem_cons.1 hy with rfl | hy
        · exact hfree
        · exact mt (hothers y hy).2 (hnone y hy)
      · exact .inr ⟨⟨y, List.mem_cons_of_mem _ hy, (hothers y hy).1 hobstructs⟩, f, hrun'⟩
    · rw [hrun]
      exact ⟨s.disk, (Disk.Shed.refl p _).mono (List.nil_subset _),
        .inr ⟨⟨x, List.mem_cons_self, hobstructs⟩, f, rfl⟩⟩

/-- What is left to do when a file is gone fails exactly if something beside it cannot be taken away, and the
event is announced only if it does not fail. -/
theorem afterwards_sheds (p : Path) (e : Event) (s : Store) :
    ∃ d, Disk.Shed p sidecarSuffixes s.disk d ∧
      (¬ s.disk.Cluttered p ∧ Step.outcome (afterwards p e) s =
          (.ok (.flag true), { s with disk := d, events := s.events ++ [e] }) ∨
        s.disk.Cluttered p ∧ ∃ f, Step.outcome (afterwards p e) s = (.error f, { s with disk := d })) := by
  obtain ⟨d, hshed, hcases⟩ := removeAll_sheds p (List.Subset.refl sidecarSuffixes) (by decide) s
  refine ⟨d, hshed, ?_⟩
  rw [afterwards, Step.run_bind]
  rcases hcases with ⟨hnone, hrun⟩ | ⟨hobstructs, f, hrun⟩
  · have hrun : Step.outcome (removeSidecars p) s = (.ok (), { s with disk := d }) := hrun
    rw [hrun]
    refine .inl ⟨?_, rfl⟩
    rintro ⟨suffix, hs, hobstructs⟩
    exact hnone suffix hs hobstructs
  · have hrun : Step.outcome (removeSidecars p) s = (.error f, { s with disk := d }) := hrun
    rw [hrun]
    exact .inr ⟨hobstructs, f, rfl⟩

/-! ## How removing and renaming end -/

/-- The file of a layer can be removed, which leaves a disk. -/
def Removes (s : Store) (m : String) (p : Path) (d : Disk) : Prop :=
  s.pathOf? m = some p ∧ s.disk.unlink p = .ok d

/-- What the path of a layer leads to can be moved to that of another one, which leaves a disk. -/
def Moves (s : Store) (m m' : String) (p : Path) (d : Disk) : Prop :=
  s.pathOf? m = some p ∧ ∃ p', s.pathOf? m' = some p' ∧ p ≠ p' ∧ s.disk.exists? p' = .ok false ∧
    s.disk.move p p' = .ok d

/-- How an operation ends that does something with the path of a layer and then takes away what lies beside
it: nothing can be done, everything is done and announced, or something beside the path stays. -/
inductive Clears (s : Store) (e : Event) (does : Path → Disk → Prop) : Except Fault Answer × Store → Prop
  | idle {r : Except Fault Answer} {t : Store} : (∀ p d, ¬ does p d) → t.disk = s.disk →
      t.events = s.events → Clears s e does (r, t)
  | complete {p : Path} {d : Disk} {a : Answer} {t : Store} : does p d → ¬ d.Cluttered p →
      Disk.Shed p sidecarSuffixes d t.disk → t.events = s.events ++ [e] → Clears s e does (.ok a, t)
  | halfway {p : Path} {d : Disk} {f : Fault} {t : Store} : does p d → d.Cluttered p →
      Disk.Shed p sidecarSuffixes d t.disk → t.events = s.events → Clears s e does (.error f, t)

section Clears

variable {e : Event} {does : Path → Disk → Prop} {r : Except Fault Answer × Store}

theorem afterwards_clears (hdoes : does p d) (ht : t.events = s.events) :
    Clears s e does (Step.outcome (afterwards p e) { t with disk := d }) := by
  obtain ⟨d', hshed, ⟨hclear, hrun⟩ | ⟨hcluttered, f, hrun⟩⟩ := afterwards_sheds p e { t with disk := d }
  · rw [hrun]
    exact .complete hdoes hclear hshed (congrArg (· ++ [e]) ht)
  · rw [hrun]
    exact .halfway hdoes hcluttered hshed ht

theorem deleteLayer_clears (m : String) (s : Store) :
    Clears s (.layerDeleted m) (s.Removes m) (Step.outcome (perform (.deleteLayer m)) s) := by
  cases hp : s.pathOf? m with
  | none =>
    obtain ⟨t, hst, hd, hrun⟩ := deleteLayer_unnamed hp
    rw [hrun]
    refine .idle (fun p d h => ?_) hd hst.events
    rw [h.1] at hp
    cases hp
  | some p =>
    obtain ⟨t, hst, hd, hrun⟩ := deleteLayer_outcome hp
    rw [hrun]
    cases hu : s.disk.unlink p with
    | error f =>
      have hnone : ∀ p' d, ¬ s.Removes m p' d := by
        rintro p' d ⟨hp', hu'⟩
        cases hp.symm.trans hp'
        cases hu.symm.trans hu'
      dsimp only
      split <;> exact .idle hnone hd hst.events
    | ok d => exact afterwards_clears ⟨hp, hu⟩ hst.events

theorem Moves.paths {x : Path} (hp : s.pathOf? m = some p) (hp' : s.pathOf? m' = some p')
    (h : s.Moves m m' x d) : x = p ∧ p ≠ p' ∧ s.disk.exists? p' = .ok false ∧ s.disk.move p p' = .ok d := by
  obtain ⟨hx, x', hx', hrest⟩ := h
  cases hp.symm.trans hx
  cases hp'.symm.trans hx'
  exact ⟨rfl, hrest⟩

theorem exists_of_move (hm : s.disk.move p p' = .ok d) : s.disk.exists? p = .ok true := by
  cases hf : s.disk.find p with
  | error c =>
    simp only [Disk.move, hf] at hm
    cases hm
  | ok found => exact Disk.exists_iff.2 ⟨found.1, found.2, hf⟩

/-- Layers with different paths: nothing is done unless the new path leads nowhere and the old one can be
moved there. -/
theorem renameLayer_clears_apart (hp : s.pathOf? m = some p) (hp' : s.pathOf? m' = some p') (hne : p ≠ p') :
    Clears s (.layerRenamed m m') (s.Moves m m') (Step.outcome (perform (.renameLayer m m')) s) := by
  obtain ⟨t, u, hst, hd, hsu, hdu, hrun⟩ := renameLayer_outcome hp hp' hne
  rw [hrun]
  by_cases hfree : s.disk.exists? p' = .ok false
  · rw [hfree]
    cases hmove : s.disk.move p p' with
    | error f =>
      have hnone : ∀ x d, ¬ s.Moves m m' x d := by
        intro x d h
        obtain ⟨-, -, -, hmove'⟩ := h.paths hp hp'
        cases hmove.symm.trans hmove'
      cases s.disk.exists? p with
      | error f => exact .idle hnone hd hst.events
      | ok b => cases b <;> exact .idle hnone hd hst.events
    | ok d =>
      rw [exists_of_move hmove]
      exact afterwards_clears ⟨hp, p', hp', hne, hfree, hmove⟩ hst.events
  · have hnone : ∀ x d, ¬ s.Moves m m' x d := fun x d h => hfree (h.paths hp hp').2.2.1
    cases hthere : s.disk.exists? p' with
    | error f => exact .idle hnone hdu hsu.events
    | ok b =>
      cases b with
      | true => exact .idle hnone hdu hsu.events
      | false => exact absurd hthere hfree

theorem renameLayer_clears (m m' : String) (s : Store) :
    Clears s (.layerRenamed m m') (s.Moves m m') (Step.outcome (perform (.renameLayer m m')) s) := by
  by_cases hunnamed : s.pathOf? m = none ∨ s.pathOf? m' = none
  · obtain ⟨t, hst, hd, hrun⟩ := renameLayer_unnamed hunnamed
    rw [hrun]
    refine .idle ?_ hd hst.events
    rintro p d ⟨hp, p', hp', -⟩
    rw [hp, hp'] at hunnamed
    rcases hunnamed with h | h <;> cases h
  · rw [not_or] at hunnamed
    obtain ⟨p, hp⟩ := Option.ne_none_iff_exists'.1 hunnamed.1
    obtain ⟨p', hp'⟩ := Option.ne_none_iff_exists'.1 hunnamed.2
    by_cases hne : p = p'
    · obtain ⟨t, hst, hd, hrun⟩ := renameLayer_same hp (hne ▸ hp')
      rw [hrun]
      exact .idle (fun x d h => (h.paths hp hp').2.1 hne) hd hst.events
    · exact renameLayer_clears_apart hp hp' hne

theorem Clears.short (h : Clears s e does r) (hs : s.events = []) : r.2.events.length ≤ 1 := by
  cases h with
  | idle _ _ ht | halfway _ _ _ ht => simp [ht, hs]
  | complete _ _ _ ht => simp [ht, hs]

end Clears

/-! ## What is whole -/

/-- The file of a layer is no longer there. -/
def Removed (s : Store) (m : String) (d : Disk) : Prop :=
  ∃ p, s.pathOf? m = some p ∧ s.disk.isFile? p = .ok true ∧ d.isFile? p ≠ .ok true

/-- The file of a layer is no longer there, but at the path of another one, as it was. -/
def Moved (s : Store) (m m' : String) (d : Disk) : Prop :=
  ∃ p p' q q' n, s.pathOf? m = some p ∧ s.pathOf? m' = some p' ∧ s.disk.find p = .ok (q, .file n) ∧
    d.isFile? p ≠ .ok true ∧ d.find p' = .ok (q', .file n) ∧ d.body? n = s.disk.body? n

/-- An operation on layers is done or not done: if it failed, the files of the layers are as they were, and
its event is told if and only if it was done. -/
structure Whole (s : Store) (layers : List String) (e : Event) (done : Disk → Prop)
    (answer : Except Fault Answer) (after : Disk) (news : List Event) : Prop where
  kept : ∀ f, answer = .error f → ∀ m ∈ layers, ∀ p, s.pathOf? m = some p → s.disk.KeepsFile after p
  told : done after → news = [e]
  untold : ¬ done after → news = []

/-- The file of a layer can be removed, and then something beside it cannot. -/
def Littered (s : Store) (m : String) : Prop := ∃ p d, s.Removes m p d ∧ d.Cluttered p

/-- What the path of a layer leads to can be moved, and then either it is a file and something beside it
cannot be taken away, or it is no file and everything can. -/
def Botched (s : Store) (m m' : String) : Prop :=
  ∃ p d, s.Moves m m' p d ∧ (d.Cluttered p ↔ s.disk.isFile? p = .ok true)

section Whole

variable {e : Event} {e' : Disk} {layers : List String} {done : Disk → Prop} {answer : Except Fault Answer}
variable {news : List Event} {f : Fault}

theorem Removes.unique {d' : Disk} (h : s.Removes m p d) (h' : s.Removes m p' d') : p = p' ∧ d = d' := by
  obtain ⟨hp, hd⟩ := h
  obtain ⟨hp', hd'⟩ := h'
  cases hp.symm.trans hp'
  cases hd.symm.trans hd'
  exact ⟨rfl, rfl⟩

theorem Moves.unique {x x' : Path} {d' : Disk} (h : s.Moves m m' x d) (h' : s.Moves m m' x' d') :
    x = x' ∧ d = d' := by
  obtain ⟨hp, y, hy, -, -, hd⟩ := h
  obtain ⟨rfl, -, -, hd'⟩ := h'.paths hp hy
  cases hd.symm.trans hd'
  exact ⟨rfl, rfl⟩

theorem Removes.removed (h : s.Removes m p d) (hshed : Disk.Shed p sidecarSuffixes d e') :
    s.Removed m e' := by
  obtain ⟨hp, hu⟩ := h
  obtain ⟨q, n, hf, hv⟩ := Disk.unlinked_file hu
  exact ⟨p, hp, Disk.isFile_iff.2 ⟨q, n, hf⟩, Disk.not_file_of_vacant (hshed.node_none hv)⟩

theorem Moves.moved (h : s.Moves m m' p d) (hfile : s.disk.isFile? p = .ok true)
    (hd : s.config.extension.toList.head? = some '.') (hshed : Disk.Shed p sidecarSuffixes d e') :
    s.Moved m m' e' := by
  obtain ⟨hp, p', hp', -, hfree, hm⟩ := h
  obtain ⟨q, n, hf⟩ := Disk.isFile_iff.1 hfile
  obtain ⟨hbodies, hv, hf'⟩ := Disk.moved_file hf hfree hm
  refine ⟨p, p', q, _, n, hp, hp', hf, Disk.not_file_of_vacant (hshed.node_none hv),
    hshed.find_file hf' fun suffix hs => ?_, congrArg (·.get? n) (hshed.bodies.trans hbodies)⟩
  rw [Disk.beside_of_file hf hs]
  exact Layer.resolved_ne_beside hd hs hp hp'

theorem Moved.removed (h : s.Moved m m' d) : s.Removed m d := by
  obtain ⟨p, p', q, q', n, hp, -, hf, hgone, -⟩ := h
  exact ⟨p, hp, Disk.isFile_iff.2 ⟨q, n, hf⟩, hgone⟩

theorem Removed.isFile (h : s.Removed m d) (hp : s.pathOf? m = some p) : s.disk.isFile? p = .ok true := by
  obtain ⟨x, hx, hfile, -⟩ := h
  cases hp.symm.trans hx
  exact hfile

/-- Moving something else than a file leaves the files of both layers, since there are none. -/
theorem Moves.keeps (h : s.Moves m m' p d) (hfile : s.disk.isFile? p ≠ .ok true) :
    ∀ x ∈ [m, m'], ∀ y, s.pathOf? x = some y → s.disk.KeepsFile e' y := by
  obtain ⟨hp, p', hp', -, hfree, -⟩ := h
  intro x hx y hy
  refine Disk.keepsFile_of_not_file fun hyfile => ?_
  simp only [List.mem_cons, List.not_mem_nil, or_false] at hx
  rcases hx with rfl | rfl
  · cases hp.symm.trans hy
    exact hfile hyfile
  · cases hp'.symm.trans hy
    obtain ⟨q, n, hf⟩ := Disk.isFile_iff.1 hyfile
    cases hfree.symm.trans (Disk.exists_iff.2 ⟨q, _, hf⟩)

theorem not_removed_self : ¬ s.Removed m s.disk := fun ⟨_, _, hfile, hgone⟩ => hgone hfile

/-- Where something fails and is whole, no file was removed. -/
theorem Whole.not_removed (h : s.Whole layers e done (.error f) d news) (hm : m ∈ layers) :
    ¬ s.Removed m d :=
  fun ⟨p, hp, hfile, hgone⟩ => hgone ((h.kept f rfl m hm p hp).isFile hfile)

theorem Whole.of_idle (hd : d = s.disk) (hdone : ¬ done s.disk) : s.Whole layers e done answer d [] := by
  subst hd
  exact ⟨fun _ _ _ _ p _ => .refl _ p, fun h => absurd h hdone, fun _ => rfl⟩

theorem Whole.of_done (hdone : done d) (a : Answer) : s.Whole layers e done (.ok a) d [e] :=
  ⟨nofun, fun _ => rfl, fun h => absurd hdone h⟩

/-- Removing a layer is whole unless something stays beside the file. -/
theorem deleteLayer_whole_iff (m : String) (hs : s.events = []) :
    s.Whole [m] (.layerDeleted m) (s.Removed m) (Step.outcome (perform (.deleteLayer m)) s).1
        (Step.outcome (perform (.deleteLayer m)) s).2.disk
        (Step.outcome (perform (.deleteLayer m)) s).2.events ↔ ¬ s.Littered m := by
  have hclears := deleteLayer_clears m s
  generalize Step.outcome (perform (.deleteLayer m)) s = r at hclears
  cases hclears with
  | idle hnone hd ht =>
    rw [ht, hs]
    exact iff_of_true (.of_idle hd not_removed_self) fun ⟨p, d, h, _⟩ => hnone p d h
  | complete hremoves hclear hshed ht =>
    rw [ht, hs]
    refine iff_of_true (.of_done (hremoves.removed hshed) _) fun ⟨p, d, h, hcluttered⟩ => ?_
    obtain ⟨rfl, rfl⟩ := hremoves.unique h
    exact hclear hcluttered
  | halfway hremoves hcluttered hshed ht =>
    refine iff_of_false (fun h => ?_) (not_not_intro ⟨_, _, hremoves, hcluttered⟩)
    exact h.not_removed (List.mem_singleton_self m) (hremoves.removed hshed)

/-- Renaming a layer is whole unless something stays beside the file, or something else is moved than a file
and nothing stays. -/
theorem renameLayer_whole_iff (m m' : String) (hs : s.events = [])
    (hd : s.config.extension.toList.head? = some '.') :
    s.Whole [m, m'] (.layerRenamed m m') (s.Moved m m') (Step.outcome (perform (.renameLayer m m')) s).1
        (Step.outcome (perform (.renameLayer m m')) s).2.disk
        (Step.outcome (perform (.renameLayer m m')) s).2.events ↔ ¬ s.Botched m m' := by
  have hclears := renameLayer_clears m m' s
  generalize Step.outcome (perform (.renameLayer m m')) s = r at hclears
  cases hclears with
  | idle hnone hdisk ht =>
    rw [ht, hs]
    exact iff_of_true (.of_idle hdisk fun h => not_removed_self h.removed) fun ⟨p, d, h, _⟩ => hnone p d h
  | @complete p d _ _ hmoves hclear hshed ht =>
    rw [ht, hs]
    by_cases hfile : s.disk.isFile? p = .ok true
    · refine iff_of_true (.of_done (hmoves.moved hfile hd hshed) _) fun ⟨p', d', h, hiff⟩ => ?_
      obtain ⟨rfl, rfl⟩ := hmoves.unique h
      exact hclear (hiff.2 hfile)
    · refine iff_of_false (fun h => ?_) (not_not_intro ⟨p, d, hmoves, iff_of_false hclear hfile⟩)
      cases h.untold fun hmoved => hfile (hmoved.removed.isFile hmoves.1)
  | @halfway p d f t hmoves hcluttered hshed ht =>
    by_cases hfile : s.disk.isFile? p = .ok true
    · refine iff_of_false (fun h => ?_) (not_not_intro ⟨p, d, hmoves, iff_of_true hcluttered hfile⟩)
      exact h.not_removed List.mem_cons_self (hmoves.moved hfile hd hshed).removed
    · refine iff_of_true ⟨fun _ _ => hmoves.keeps hfile,
        fun hmoved => absurd (hmoved.removed.isFile hmoves.1) hfile, fun _ => ht.trans hs⟩ ?_
      rintro ⟨p', d', h, hiff⟩
      obtain ⟨rfl, rfl⟩ := hmoves.unique h
      exact hfile (hiff.1 hcluttered)

end Whole

end Store

namespace Service

variable {v : Service} {l : Listener}

/-- Removing and renaming are all or nothing, whatever is on the disk and in the registry, unless something
beside a file that was removed or moved cannot be taken away, or something else was moved than a file.  What
is meant by all or nothing is that a failure leaves the files of the layers as they were, and that a listener
is told of it if and only if the file was removed or moved. -/
theorem layers_whole_iff (v : Service) (hd : v.store.config.extension.toList.head? = some '.')
    (hquiet : v.store.events = []) (hr : l.Records) (ha : v.notifier.Attended l) :
    (∀ m r w, v.run (perform (.deleteLayer m)) = (r, w) →
      ∃ news, l.received w.deliveries = l.received v.deliveries ++ news ∧
        (v.store.Whole [m] (.layerDeleted m) (v.store.Removed m) r w.store.disk news ↔
          ¬ v.store.Littered m)) ∧
      ∀ m m' r w, v.run (perform (.renameLayer m m')) = (r, w) →
        ∃ news, l.received w.deliveries = l.received v.deliveries ++ news ∧
          (v.store.Whole [m, m'] (.layerRenamed m m') (v.store.Moved m m') r w.store.disk news ↔
            ¬ v.store.Botched m m') := by
  refine ⟨fun m r w h => ?_, fun m m' r w h => ?_⟩
  · cases h
    exact ⟨_, received_run hr ha ((deleteLayer_clears m v.store).short hquiet),
      deleteLayer_whole_iff m hquiet⟩
  · cases h
    exact ⟨_, received_run hr ha ((renameLayer_clears m m' v.store).short hquiet),
      renameLayer_whole_iff m m' hquiet hd⟩

/-- A layer's file with a directory where a database keeps its log. -/
def clutteredService : Service :=
  ⟨{ emptyStore with disk := (((Disk.ofDirectory "layers").createFile ["layers", "roads.sqlite"]
      (.raw ⟨#[]⟩)).2.createDirectory ["layers", "roads.sqlite-wal"]) }, ⟨[recorder], []⟩, []⟩

/-- The path of the file. -/
def clutteredPath : Path := ⟨.here, ["layers", "roads.sqlite"]⟩

theorem clutteredService_littered : clutteredService.store.Littered "roads" := by
  have hpath : clutteredService.store.pathOf? "roads" = some clutteredPath := by decide +kernel
  let d := clutteredService.store.disk.detach ["layers", "roads.sqlite"]
  have hunlink : clutteredService.store.disk.unlink clutteredPath = .ok d := rfl
  have hfind : d.find (clutteredPath.extendName "-wal") = .ok (["layers", "roads.sqlite-wal"], .directory) :=
    rfl
  refine ⟨clutteredPath, d, ⟨hpath, hunlink⟩, "-wal", by decide, by rw [hfind]; exact nofun, fun q n => ?_⟩
  rw [hfind]
  exact nofun

/-- Removing the layer is neither done nor not done. -/
theorem clutteredService_torn :
    clutteredService.store.config.extension.toList.head? = some '.' ∧
      clutteredService.store.events = [] ∧ recorder.Records ∧
      clutteredService.notifier.Attended recorder ∧
      ∃ r w, clutteredService.run (perform (.deleteLayer "roads")) = (r, w) ∧
        ∃ news, recorder.received w.deliveries = recorder.received clutteredService.deliveries ++ news ∧
          ¬ clutteredService.store.Whole ["roads"] (.layerDeleted "roads")
            (clutteredService.store.Removed "roads") r w.store.disk news := by
  have hrecords : recorder.Records := fun k => ⟨[], false, rfl⟩
  refine ⟨by decide, rfl, hrecords, rfl, _, _, rfl, ?_⟩
  obtain ⟨news, hnews, hwhole⟩ :=
    (layers_whole_iff clutteredService (by decide) rfl hrecords rfl).1 "roads" _ _ rfl
  exact ⟨news, hnews, fun h => hwhole.1 h clutteredService_littered⟩

end Service

end TileDepot
