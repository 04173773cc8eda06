import Mathlib.Data.List.Sort
import TileDepot.Proofs.Failures

/-!
# The order in which locks are taken

The locks that are held for some layers are those of their paths.  They are taken in the order of the paths,
which is that of their names, one by one and character by character; a path that several layers have is taken
once.  So the order depends on the paths alone: names of layers that come in another order, or more than once,
or are spelled in another way, lead to the same locks in the same order.

* `Path.namesLe_iff` says that paths are compared in the lexicographic order of their names.
* `pairwise_inOrder` says that paths in order are strictly increasing.
* `lockOrder_eq` and `lockOrder_ordered` say what the order is for the layers of a store, and
  `LockOrder.unique` that layers with the same paths have the same.
-/

namespace TileDepot

/-! ## Comparing paths -/

namespace Path

variable {p q r : Path} {as bs : List String}

/-- A path comes before another one that begins in the same way if its names do. -/
def Precedes (p q : Path) : Prop := p.anchor = q.anchor ∧ p.names < q.names

theorem Precedes.trans (h : p.Precedes q) (h' : q.Precedes r) : p.Precedes r :=
  ⟨h.1.trans h'.1, List.lt_trans h.2 h'.2⟩

instance : Std.Irrefl Precedes := ⟨fun p h => List.lt_irrefl p.names h.2⟩

instance : Std.Antisymm Precedes := ⟨fun _ _ h h' => absurd h'.2 (List.lt_asymm h.2)⟩

/-- Names are compared in lexicographic order. -/
theorem namesLe_iff : namesLe as bs = true ↔ ¬ bs < as := by
  induction as generalizing bs with
  | nil => exact iff_of_true rfl (List.not_lt_nil bs)
  | cons a as ih =>
    cases bs with
    | nil => exact iff_of_false Bool.false_ne_true (not_not_intro (List.nil_lt_cons a as))
    | cons b bs =>
      rw [namesLe, List.cons_lt_cons_iff]
      by_cases hab : a < b
      · rw [if_pos hab]
        refine iff_of_true rfl ?_
        rintro (hba | ⟨rfl, -⟩)
        · exact String.lt_asymm hab hba
        · exact String.lt_irrefl b hab
      · rw [if_neg hab]
        by_cases hba : b < a
        · rw [if_pos hba]
          exact iff_of_false Bool.false_ne_true (not_not_intro (.inl hba))
        · have heq : b = a := String.le_antisymm (String.not_lt.1 hab) (String.not_lt.1 hba)
          rw [if_neg hba, ih, or_iff_right hba, and_iff_right heq]

/-- Of two paths that begin in the same way, the comparison tells which one comes first. -/
theorem precedes_of_le (ha : p.anchor = q.anchor) (hne : p ≠ q) (h : p.le q = true) : p.Precedes q := by
  have hnames : p.names ≠ q.names := by
    intro hnames
    cases p
    cases q
    cases ha
    cases hnames
    exact hne rfl
  exact ⟨ha, (List.le_iff_lt_or_eq.1 (List.not_lt.1 (namesLe_iff.1 h))).resolve_right hnames⟩

theorem precedes_of_not_le (ha : p.anchor = q.anchor) (h : ¬ p.le q = true) : q.Precedes p :=
  ⟨ha.symm, Classical.not_not.1 (mt namesLe_iff.2 h)⟩

end Path

/-! ## Paths in order -/

namespace Layer

variable {p : Path} {ps qs : List Path}

theorem pairwise_insertPath (ha : ∀ q ∈ qs, q.anchor = p.anchor) (h : qs.Pairwise Path.Precedes) :
    (insertPath p qs).Pairwise Path.Precedes := by
  induction qs with
  | nil => exact List.pairwise_singleton _ p
  | cons q qs ih =>
    have hq : p.anchor = q.anchor := (ha q List.mem_cons_self).symm
    rw [List.pairwise_cons] at h
    rw [insertPath]
    split
    · exact List.pairwise_cons.2 h
    · rename_i hne
      split
      · rename_i hle
        have hpq := Path.precedes_of_le hq hne hle
        refine List.pairwise_cons.2 ⟨fun x hx => ?_, List.pairwise_cons.2 h⟩
        rcases List.mem_cons.1 hx with rfl | hx
        · exact hpq
        · exact hpq.trans (h.1 x hx)
      · rename_i hle
        have hqp := Path.precedes_of_not_le hq hle
        refine List.pairwise_cons.2 ⟨fun x hx => ?_, ih (fun x hx => ha x (List.mem_cons_of_mem q hx)) h.2⟩
        rcases mem_insertPath.1 hx with rfl | hx
        · exact hqp
        · exact h.1 x hx

/-- Paths that begin in the same way are strictly increasing once they are in order. -/
theorem pairwise_inOrder (anchor : Anchor) (ha : ∀ p ∈ ps, p.anchor = anchor) :
    (inOrder ps).Pairwise Path.Precedes := by
  induction ps with
  | nil => exact .nil
  | cons p ps ih =>
    have ih := ih fun q hq => ha q (List.mem_cons_of_mem p hq)
    show (if p ∈ inOrder ps then inOrder ps else insertPath p (inOrder ps)).Pairwise Path.Precedes
    split
    · exact ih
    · refine pairwise_insertPath (fun q hq => ?_) ih
      rw [ha p List.mem_cons_self, ha q (List.mem_cons_of_mem p (mem_inOrder.1 hq))]

end Layer

/-! ## The locks of layers -/

namespace Store

open Layer

variable {s : Store} {c : StoreConfig} {layers layers' : List String} {order order' : List Path}

/-- A path is that of one of the layers. -/
def IsPathOf (c : StoreConfig) (layers : List String) (p : Path) : Prop :=
  ∃ m ∈ layers, storePath? c.root c.extension m = some p

/-- What the locks for some layers are, in the order in which they are taken: the paths of the layers, each
once, in strictly increasing order. -/
structure LockOrder (c : StoreConfig) (layers : List String) (order : List Path) : Prop where
  mem : ∀ p, p ∈ order ↔ IsPathOf c layers p
  nodup : order.Nodup
  increasing : order.Pairwise Path.Precedes

/-- There is one order for all layers with the same paths. -/
theorem LockOrder.unique (h : LockOrder c layers order) (h' : LockOrder c layers' order')
    (hsame : ∀ p, IsPathOf c layers p ↔ IsPathOf c layers' p) : order = order' :=
  h.increasing.eq_of_mem_iff h'.increasing fun p => (h.mem p).trans ((hsame p).trans (h'.mem p).symm)

/-- Every path of a layer begins as the root does. -/
theorem storePath_anchor {root p : Path} {ext m : String} (h : storePath? root ext m = some p) :
    p.anchor = root.anchor := by
  rw [storePath_dotted root ext (storePath_named h), Option.some.injEq] at h
  rw [← h]

/-- Looking the paths of layers up leaves the store alone. -/
theorem mapM_pathFor (hne : ∀ m ∈ layers, m ≠ "") :
    Step.outcome (layers.mapM pathFor) s = (.ok (layers.filterMap s.pathOf?), s) := by
  induction layers with
  | nil => rfl
  | cons m layers ih =>
    have ih := ih fun n hn => hne n (List.mem_cons_of_mem m hn)
    obtain ⟨p, hp⟩ := exists_pathOf (s := s) (hne m List.mem_cons_self)
    rw [List.mapM_cons, List.filterMap_cons_some hp]
    simp only [Step.run_bind, pathFor_some hp, ih, Step.run_pure]

/-- The locks for some layers are their paths in order. -/
theorem lockOrder_eq (hne : ∀ m ∈ layers, m ≠ "") :
    Step.outcome (lockOrder layers) s = (.ok (inOrder (layers.filterMap s.pathOf?)), s) := by
  simp only [lockOrder, Step.run_bind, mapM_pathFor hne, Step.run_pure]

theorem lockOrder_ordered (s : Store) (layers : List String) :
    LockOrder s.config layers (inOrder (layers.filterMap s.pathOf?)) where
  mem _ := mem_inOrder.trans List.mem_filterMap
  nodup := nodup_inOrder _
  increasing := by
    refine pairwise_inOrder s.config.root.anchor fun p hp => ?_
    obtain ⟨m, -, hm⟩ := List.mem_filterMap.1 hp
    exact storePath_anchor hm

end Store

end TileDepot
