import TileDepot.Proofs.Homegrown
import TileDepot.Proofs.Inventory
import TileDepot.Proofs.Simulation

/-!
# Failures that are no errors of the store

A fault is `Typed` for an operation if it is an error of the store, or if a name was empty and the operation
was given an empty name.  In a store over a directory that was empty at first, the other faults are all
of one kind: a name is longer than the file system takes.  An operation `Overreaches` if it looks up
such a name where nobody turns the fault into an error of the store.  These places are the look for the
file of a layer, before it is opened or on its own, the look for the two files of a renaming, and the
look for the journal of a file that was just removed or renamed.

* `Homegrown.judged` says what every operation comes to.
* `untyped_iff` is the statement about every state that operations lead to from an empty directory.
-/

namespace TileDepot

open Layer

/-- The journal of a layer's file would have a name that is longer than a name may be. -/
def StoreConfig.Cramped (c : StoreConfig) (layer : String) : Prop :=
  Disk.maxName < (c.nameOf layer ++ "-journal").utf8ByteSize

namespace Store

variable {s t u : Store} {R : Place} {m : String} {p : Path} {o : Operation}

/-! ## Looking a layer up -/

theorem Homegrown.overlong_iff (hs : s.Homegrown R) : s.Overlong m ↔ s.config.Oversized m := by
  constructor
  · rintro ⟨p, hp, hl⟩
    cases hs.whereabouts hp with
    | oversized hbig _ => exact hbig
    | elsewhere _ _ _ hne hl' =>
      rw [hl, Except.error.injEq] at hl'
      exact absurd hl'.symm hne
    | vacant _ _ _ hl' _ | stored _ _ _ _ hl' _ =>
      rw [hl] at hl'
      cases hl'
  · intro hbig
    obtain ⟨p, hp⟩ := exists_pathOf (s := s) hbig.1
    refine ⟨p, hp, ?_⟩
    cases hs.whereabouts hp with
    | oversized _ hl => exact hl
    | elsewhere _ hfits | vacant hfits | stored _ hfits => exact absurd hbig hfits

/-! ## Operations that open a layer -/

theorem extendName_child (root : Path) (n suffix : String) :
    (root.child n).extendName suffix = root.child (n ++ suffix) := by
  rw [Path.extendName, Path.child_parent, Path.child_name]

theorem beside_nameOf (c : StoreConfig) (hm : m ≠ "") (suffix : String) :
    c.nameOf m ++ suffix ≠ ".." := by
  rw [StoreConfig.nameOf, String.append_assoc]
  exact file_ne_dots hm _

/-- A file beside that of a layer is taken away, if there is one, as long as its name fits. -/
theorem Homegrown.removeBeside (hs : s.Homegrown R) (hm : m ≠ "") {suffix : String}
    (hlen : (s.config.nameOf m ++ suffix).utf8ByteSize ≤ Disk.maxName) :
    ∃ t, Step.outcome (Store.removeBeside (s.config.root.child (s.config.nameOf m)) suffix) s =
      (.ok (), t) ∧ t.Homegrown R ∧ t.config = s.config := by
  rcases removeBeside_cases (s.config.root.child (s.config.nameOf m)) suffix s with
    ⟨t, hrun, hst⟩ | ⟨f, hrun⟩
  · exact ⟨t, hrun, hst.homegrown hs, hst.config⟩
  · have hunlink := Disk.unlink_child hs.root (beside_nameOf s.config hm suffix) hlen
    rw [← extendName_child] at hunlink
    simp only [Store.removeBeside, Step.run_bind, Step.run_view, hunlink] at hrun ⊢
    cases hnode : s.disk.node? (R ++ [s.config.nameOf m ++ suffix]) with
    | none =>
      simp only [hnode, if_true, Step.run_pure] at hrun
      cases hrun
    | some node =>
      obtain ⟨-, n, rfl, -⟩ := hs.below _ [] node hnode
      simp only [hnode, Step.run_changeDisk] at hrun
      cases hrun

/-- The name of the journal is the longest of those beside a file: what lies beside is taken away if that
name fits, and looking for the journal fails if not. -/
theorem Homegrown.removeSidecars (hs : s.Homegrown R) (hm : m ≠ "") :
    (¬ s.config.Cramped m ∧
      ∃ t, Step.outcome (Store.removeSidecars (s.config.root.child (s.config.nameOf m))) s = (.ok (), t)) ∨
    s.config.Cramped m ∧ ∃ path,
      Step.outcome (Store.removeSidecars (s.config.root.child (s.config.nameOf m))) s =
        (.error (.os ⟨.nameTooLong, path, none⟩), s) := by
  have hfold : Step.outcome (Store.removeSidecars (s.config.root.child (s.config.nameOf m))) s =
      Step.outcome (do
        Store.removeBeside (s.config.root.child (s.config.nameOf m)) "-journal"
        Store.removeBeside (s.config.root.child (s.config.nameOf m)) "-wal"
        Store.removeBeside (s.config.root.child (s.config.nameOf m)) "-shm"
        pure ()) s := rfl
  rw [hfold]
  by_cases hj : s.config.Cramped m
  · refine .inr ⟨hj, ((s.config.root.child (s.config.nameOf m)).extendName "-journal").toString, ?_⟩
    have hunlink := Disk.unlink_long hs.root (beside_nameOf s.config hm "-journal") hj
    rw [← extendName_child] at hunlink
    have hne : ¬ (OsCause.nameTooLong = OsCause.noEntry) := by decide
    simp only [Store.removeBeside, Step.run_bind, Step.run_view, hunlink, if_neg hne, Step.run_throw]
  · have hlen := Nat.le_of_not_lt hj
    have hshorter : ∀ suffix : String, suffix.utf8ByteSize ≤ 8 →
        (s.config.nameOf m ++ suffix).utf8ByteSize ≤ Disk.maxName := by
      intro suffix hsuffix
      have hjournal : ("-journal" : String).utf8ByteSize = 8 := by decide
      rw [String.utf8ByteSize_append] at hlen ⊢
      omega
    obtain ⟨t, ht, htgrown, htc⟩ := hs.removeBeside hm hlen
    rw [← htc] at ht hshorter ⊢
    obtain ⟨u, hu, hugrown, huc⟩ := htgrown.removeBeside hm (hshorter "-wal" (by decide))
    rw [← huc] at ht hu hshorter ⊢
    obtain ⟨v, hv, -, -⟩ := hugrown.removeBeside hm (hshorter "-shm" (by decide))
    refine .inl ⟨?_, v, ?_⟩
    · rw [huc, htc]
      exact hj
    · simp only [Step.run_bind, ht, hu, hv, Step.run_pure]

theorem pathOf_inj {m' : String} {p' : Path} (hp : s.pathOf? m = some p) (hp' : s.pathOf? m' = some p') :
    p = p' ↔ safe m = safe m' := by
  rw [pathOf?, storePath_dotted _ _ (storePath_named hp), Option.some.injEq] at hp
  rw [pathOf?, storePath_dotted _ _ (storePath_named hp'), Option.some.injEq] at hp'
  rw [← hp, ← hp']
  simp

end Store

end TileDepot
