import TileDepot.Proofs.Sharing
import TileDepot.Proofs.Wholeness

/-!
# What lies beside the files of layers

Removing a layer takes away, after its file, what databases leave beside it, and so does renaming.  These are
the files that have the name of the store file with a suffix behind it.  The extension may end in such a
suffix, any number of times, and the name of a layer may contain the extension; still none of these files is
the store file of a layer, since the suffixes have no dot and the extension begins with one.

So nothing of another layer is lost.  That is said of what a path leads to: the file that was found there
is still found there, with its content.

* `sidecar_ne_storePath` says that no layer has its file beside the file of a layer.
* `unlink_keepsFile`, `move_keepsFile` and `Shed.keepsFile` say which files stay when one is removed or moved,
  and when what lies beside a path is taken away.
* `layers_spared` is the statement about removing and renaming.
-/

namespace TileDepot

open Layer Store

/-! ## Names of files beside others -/

namespace Layer

variable {root : Path} {ext l m suffix : String} {p q : Path}

/-- What a database keeps beside the file of a layer has the path of no layer. -/
theorem sidecar_ne_storePath (hd : ext.toList.head? = some '.') (hflat : '/' ∉ ext.toList)
    (hs : suffix ∈ sidecarSuffixes) (hp : storePath? root ext l = some p)
    (hq : storePath? root ext m = some q) : p.extendName suffix ≠ q := by
  rw [storePath_flat root hflat (storePath_named hp), Option.some.injEq] at hp
  rw [storePath_flat root hflat (storePath_named hq), Option.some.injEq] at hq
  subst hp hq
  intro h
  have hname := congrArg Path.name h
  rw [Path.extendName, Path.child_name, Path.child_name, Path.child_name] at hname
  exact file_ne_sidecar hd hs _ _ hname

/-- Different names below one directory are different places. -/
theorem resolved_child_ne {n n' : String} (hn : n ≠ "..") (hn' : n' ≠ "..") (hne : n ≠ n') :
    (root.child n).resolved.names ≠ (root.child n').resolved.names := by
  rw [Disk.resolved_child hn, Disk.resolved_child hn']
  intro h
  have hlast : [n] = [n'] := List.append_cancel_left h
  exact hne (List.cons.inj hlast).1

/-- Nor does it lie at the place of a layer's file. -/
theorem resolved_ne_sidecar (hd : ext.toList.head? = some '.') (hflat : '/' ∉ ext.toList)
    (hs : suffix ∈ sidecarSuffixes) (hp : storePath? root ext l = some p)
    (hq : storePath? root ext m = some q) :
    q.resolved.names ≠ (p.extendName suffix).resolved.names := by
  have hl := storePath_named hp
  have hm := storePath_named hq
  rw [storePath_flat root hflat hl, Option.some.injEq] at hp
  rw [storePath_flat root hflat hm, Option.some.injEq] at hq
  subst hp hq
  rw [Path.extendName, Path.child_parent, Path.child_name]
  exact resolved_child_ne (file_ne_dots hm ext) (beside_ne_dots hl ext suffix)
    (file_ne_sidecar hd hs _ _).symm

/-- Layers with different paths have their files at different places. -/
theorem resolved_ne_of_storePath (hflat : '/' ∉ ext.toList) (hp : storePath? root ext l = some p)
    (hq : storePath? root ext m = some q) (hne : q ≠ p) : q.resolved.names ≠ p.resolved.names := by
  have hl := storePath_named hp
  have hm := storePath_named hq
  rw [storePath_flat root hflat hl, Option.some.injEq] at hp
  rw [storePath_flat root hflat hm, Option.some.injEq] at hq
  subst hp hq
  exact resolved_child_ne (file_ne_dots hm ext) (file_ne_dots hl ext) fun h => hne (congrArg _ h)

end Layer

/-! ## Files that stay -/

namespace Disk

variable {d e g : Disk} {p p' q : Path} {place : Place} {n : Nat} {suffixes : List String}

theorem KeepsFile.trans (a : d.KeepsFile e q) (b : e.KeepsFile g q) : d.KeepsFile g q := by
  intro place n hf
  obtain ⟨hfe, hbody⟩ := a place n hf
  obtain ⟨hfg, hbody'⟩ := b place n hfe
  exact ⟨hfg, hbody'.trans hbody⟩

/-- Removing a file leaves the files at other places. -/
theorem unlink_keepsFile (hu : d.unlink p = .ok e) (hne : q.resolved.names ≠ p.resolved.names) :
    d.KeepsFile e q := by
  rw [unlink] at hu
  split at hu
  · cases hu
  · cases hu
  · rename_i removed k hf
    cases hu
    obtain ⟨-, hgone, rfl⟩ := find_place hf
    have hnil : p.resolved.names ≠ [] := by
      intro hnil
      rw [hnil] at hgone
      cases hgone
    have hnode := node_detach d hnil
    intro place n hfound
    obtain ⟨hl, hn, rfl⟩ := find_place hfound
    -- Only a file went, so the directories on the way are still there.
    have hl' := follow_mono (fun r hr => by
      rw [hnode, if_neg, hr]
      rintro rfl
      cases hgone.symm.trans hr) hl
    exact ⟨find_of_node hl' ((hnode _).trans ((if_neg hne).trans hn)), rfl⟩

/-- Moving a file to a free place leaves the files at other places. -/
theorem move_keepsFile (hf : d.find p = .ok (place, .file n)) (hfree : d.exists? p' = .ok false)
    (hm : d.move p p' = .ok e) (hne : q.resolved.names ≠ p.resolved.names) : d.KeepsFile e q := by
  obtain ⟨-, hnone, rfl⟩ := move_file_cases hf hfree hm
  obtain ⟨hl, hn, rfl⟩ := find_place hf
  obtain ⟨-, -, hdirs⟩ := moveTree_file (follow_reached .root hl).1 hn hnone
  intro place k hfound
  obtain ⟨hlq, hnq, rfl⟩ := find_place hfound
  have hreached := (follow_reached .root hlq).1
  refine ⟨find_of_node (follow_mono_reached hdirs .root hlq) ?_, rfl⟩
  rw [node_moveTree_elsewhere d, hnq]
  · intro hpre
    have hdir := hreached.directory hpre hne.symm
    rw [hn] at hdir
    cases hdir
  · intro hpre
    have hdir := hreached.directory hpre (by
      intro heq
      rw [heq, hnq] at hnone
      cases hnone)
    rw [hnone] at hdir
    cases hdir

/-- Taking away what lies beside a path leaves the files that do not lie there. -/
theorem Shed.keepsFile (h : Shed p suffixes d e)
    (hne : ∀ suffix ∈ suffixes, q.resolved.names ≠ (p.extendName suffix).resolved.names) :
    d.KeepsFile e q :=
  fun _ n hf => ⟨h.find_file hf hne, congrArg (·.get? n) h.bodies⟩

end Disk

/-! ## Removing and renaming -/

namespace Store

variable {s : Store} {l m : String} {p q : Path} {d e : Disk}

/-- Moving what the path of a layer leads to leaves the files of all others, unless that is a directory. -/
theorem Moves.spares {l' : String} (h : s.Moves l l' p d)
    (hflat : '/' ∉ s.config.extension.toList)
    (hplain : ∀ place, s.disk.find p ≠ .ok (place, .directory)) (hq : s.pathOf? m = some q)
    (hne : q ≠ p) : s.disk.KeepsFile d q := by
  obtain ⟨hp, p', -, -, hfree, hm⟩ := h
  obtain ⟨place, node, hf⟩ := Disk.exists_iff.1 (exists_of_move hm)
  cases node with
  | directory => exact absurd hf (hplain place)
  | file n => exact Disk.move_keepsFile hf hfree hm (resolved_ne_of_storePath hflat hp hq hne)

section Spared

variable (hd : s.config.extension.toList.head? = some '.') (hflat : '/' ∉ s.config.extension.toList)

include hd hflat

/-- Taking away what lies beside the file of a layer leaves the files of all layers. -/
theorem shed_spares (hp : s.pathOf? l = some p) (h : Disk.Shed p sidecarSuffixes d e)
    (hq : s.pathOf? m = some q) : d.KeepsFile e q :=
  h.keepsFile fun _ hs => resolved_ne_sidecar hd hflat hs hp hq

/-- Removing a layer leaves the files of all others. -/
theorem deleteLayer_spares (hp : s.pathOf? l = some p) (hq : s.pathOf? m = some q) (hne : q ≠ p) :
    s.disk.KeepsFile (Step.outcome (perform (.deleteLayer l)) s).2.disk q := by
  have hremoves : ∀ {p' : Path} {d e : Disk}, s.Removes l p' d → Disk.Shed p' sidecarSuffixes d e →
      s.disk.KeepsFile e q := by
    rintro p' d e ⟨hp', hu⟩ hshed
    cases hp.symm.trans hp'
    have hplace := resolved_ne_of_storePath hflat hp hq hne
    exact (Disk.unlink_keepsFile hu hplace).trans (shed_spares hd hflat hp hshed hq)
  have hclears := deleteLayer_clears l s
  generalize Step.outcome (perform (.deleteLayer l)) s = r at hclears
  cases hclears with
  | idle _ hdisk _ =>
    rw [hdisk]
    exact .refl _ _
  | complete h _ hshed _ => exact hremoves h hshed
  | halfway h _ hshed _ => exact hremoves h hshed

/-- What renaming a layer does after it has moved what the path leads to leaves the files of all layers. -/
theorem renameLayer_spares (hp : s.pathOf? l = some p) (l' : String) :
    ∃ d, (d = s.disk ∨ s.Moves l l' p d) ∧ ∀ m q, s.pathOf? m = some q →
      d.KeepsFile (Step.outcome (perform (.renameLayer l l')) s).2.disk q := by
  have hmoves : ∀ {p' : Path} {d e : Disk}, s.Moves l l' p' d → Disk.Shed p' sidecarSuffixes d e →
      s.Moves l l' p d ∧ ∀ m q, s.pathOf? m = some q → d.KeepsFile e q := by
    intro p' d e h hshed
    cases hp.symm.trans h.1
    exact ⟨h, fun m q hq => shed_spares hd hflat hp hshed hq⟩
  have hclears := renameLayer_clears l l' s
  generalize Step.outcome (perform (.renameLayer l l')) s = r at hclears
  cases hclears with
  | idle _ hdisk _ =>
    refine ⟨s.disk, .inl rfl, fun m q _ => ?_⟩
    rw [hdisk]
    exact .refl _ _
  | complete h _ hshed _ => exact ⟨_, .inr (hmoves h hshed).1, (hmoves h hshed).2⟩
  | halfway h _ hshed _ => exact ⟨_, .inr (hmoves h hshed).1, (hmoves h hshed).2⟩

end Spared

/-- With an extension that is accepted as a setting and has no slash, nothing that a database keeps beside the
file of a layer has the path of a layer.  So removing a layer leaves the files of all other layers as they
were, and so does what is done for a renaming after the move; and the move does as well, unless what is moved
is a directory. -/
theorem layers_spared (c : StoreConfig) (raw : String)
    (hv : Settings.checkExtension (.text raw) = .ok c.extension) (hflat : '/' ∉ c.extension.toList) :
    (∀ l m, l ≠ "" → m ≠ "" → ∀ suffix ∈ sidecarSuffixes,
      ∃ p q, storePath? c.root c.extension l = some p ∧ storePath? c.root c.extension m = some q ∧
        p.extendName suffix ≠ q) ∧
      ∀ s : Store, s.config = c → ∀ l p, s.pathOf? l = some p →
        (∀ m q, s.pathOf? m = some q → q ≠ p →
          s.disk.KeepsFile (Step.outcome (perform (.deleteLayer l)) s).2.disk q) ∧
        ∀ l' e, (Step.outcome (perform (.renameLayer l l')) s).2.disk = e →
          ∃ d, (d = s.disk ∨ s.Moves l l' p d) ∧
            (∀ m q, s.pathOf? m = some q → d.KeepsFile e q) ∧
            ((∀ place, s.disk.find p ≠ .ok (place, .directory)) →
              ∀ m q, s.pathOf? m = some q → q ≠ p → s.disk.KeepsFile e q) := by
  have hd := (Settings.dotted_startsWith (Settings.checkExtension_text hv)).1
  refine ⟨fun l m hl hm suffix hs => ?_, ?_⟩
  · have hp := storePath_flat c.root hflat hl
    have hq := storePath_flat c.root hflat hm
    exact ⟨_, _, hp, hq, sidecar_ne_storePath hd hflat hs hp hq⟩
  · rintro s rfl l p hp
    refine ⟨fun m q hq hne => deleteLayer_spares hd hflat hp hq hne, ?_⟩
    rintro l' e rfl
    obtain ⟨d, hmoved, hkeeps⟩ := renameLayer_spares hd hflat hp l'
    refine ⟨d, hmoved, hkeeps, fun hplain m q hq hne => ?_⟩
    rcases hmoved with rfl | hmoves
    · exact hkeeps m q hq
    · exact (hmoves.spares hflat hplain hq hne).trans (hkeeps m q hq)

/-- The files of two layers under an extension that ends in a suffix of what lies beside files.  The name of
the second layer is that of the first one's file with the suffix. -/
def journaledStore : Store :=
  fresh ⟨⟨.here, ["layers"]⟩, ".a-journal", true⟩
    (((Disk.ofDirectory "layers").createFile ["layers", "roads.a-journal"] (.raw .empty)).2.createFile
      ["layers", "roads.a-journal-journal.a-journal"] (.raw .empty)).2 ⟨false, false⟩

/-- The path of the second file. -/
def journaledPath : Path := ⟨.here, ["layers", "roads.a-journal-journal.a-journal"]⟩

/-- Removing the first layer leaves the file of the second one. -/
theorem journaledStore_spared :
    Settings.checkExtension (.text " a-journal") = .ok journaledStore.config.extension ∧
      '/' ∉ journaledStore.config.extension.toList ∧
      journaledStore.disk.isFile? journaledPath = .ok true ∧
      (Step.outcome (perform (.deleteLayer "roads")) journaledStore).2.disk.isFile? journaledPath =
        .ok true := by
  have hv : Settings.checkExtension (.text " a-journal") = .ok journaledStore.config.extension := by rfl
  have hflat : '/' ∉ journaledStore.config.extension.toList := by decide
  have hthere : journaledStore.disk.isFile? journaledPath = .ok true := by decide +kernel
  have hp : journaledStore.pathOf? "roads" = some ⟨.here, ["layers", "roads.a-journal"]⟩ := by
    decide +kernel
  have hq : journaledStore.pathOf? "roads.a-journal-journal" = some journaledPath := by decide +kernel
  obtain ⟨hdeletes, -⟩ := (layers_spared _ _ hv hflat).2 journaledStore rfl "roads" _ hp
  have hkeeps := hdeletes _ _ hq (by decide)
  exact ⟨hv, hflat, hthere, hkeeps.isFile hthere⟩

end Store

end TileDepot
