import TileDepot.Proofs.Custody
import TileDepot.Proofs.Inventory

/-!
# Events as a history

Whoever records the events of a store can keep books on the sizes of its tiles: `Event.apply` is the
entry that an event makes in them.  The books are right as long as every operation announces what it
does to the tiles, which `perform_chronicled` says of shelves.  One operation does not.  Removing or
renaming away a layer with scarce room fails after its file is gone and announces nothing, so that the
books go wrong exactly if the layer had tiles; such an operation is a `Slip`.

* `perform_chronicled` says that the events of an operation turn the sizes before it into those after
  it, unless it is a slip, and that no event is announced for nothing.
* `perform_slip` says that a slip announces nothing and changes the sizes.
-/

namespace TileDepot

open Layer Store

/-- What the file of every safe name has as its content, if there is one. -/
abbrev Files := String → Option Content

/-- The size of every tile of every safe name. -/
abbrev Sizes := String → RowKey → Option Nat

/-- The number of bytes of a data cell that is a blob. -/
def Cell.size? : Cell → Option Nat
  | .blob b => some b.size
  | _ => none

/-- The sizes of the tiles that a content has rows for. -/
def Content.sizes : Content → RowKey → Option Nat
  | .raw _, _ => none
  | .database db, k => (db.tileRows.find? (fun r => decide (r.key = k))).bind (fun r => r.data.size?)

/-- The rows of tiles have different keys, and their data are blobs. -/
def Content.IsMap : Content → Prop
  | .raw _ => True
  | .database db => (db.tileRows.map (·.key)).Nodup ∧ ∀ r ∈ db.tileRows, ∃ b, r.data = .blob b

/-- The sizes of the tiles in files. -/
def Files.sizes (F : Files) : Sizes := fun f k => (F f).bind (fun x => x.sizes k)

/-- The entry that an event makes in books on sizes. -/
def Event.apply (M : Sizes) : Event → Sizes
  | .tileStored key size => fun f k =>
      if f = safe key.layer ∧ k = key.row then some size else M f k
  | .tileDeleted key => fun f k => if f = safe key.layer ∧ k = key.row then none else M f k
  | .gridsetDeleted layer grid => fun f k => if f = safe layer ∧ k.grid = grid then none else M f k
  | .layerDeleted layer => fun f k => if f = safe layer then none else M f k
  | .layerRenamed source target => fun f k =>
      if f = safe target then (M (safe source) k).or (M f k)
      else if f = safe source then none
      else M f k

/-- An event is about something that was there before it and is changed after it. -/
def Event.IsReal (F G : Files) : Event → Prop
  | .tileStored key size => G.sizes (safe key.layer) key.row = some size
  | .tileDeleted key => F.sizes (safe key.layer) key.row ≠ none ∧
      G.sizes (safe key.layer) key.row = none
  | .gridsetDeleted layer grid => (∃ k : RowKey, k.grid = grid ∧ F.sizes (safe layer) k ≠ none) ∧
      ∀ k : RowKey, k.grid = grid → G.sizes (safe layer) k = none
  | .layerDeleted layer => F (safe layer) ≠ none ∧ G (safe layer) = none
  | .layerRenamed source target => F (safe source) ≠ none ∧ F (safe target) = none ∧
      G (safe source) = none ∧ G (safe target) = F (safe source)

/-- An operation that takes tiles away from a name and does not announce it: the file of a layer with
scarce room is removed or renamed. -/
def Store.Operation.Slip (c : StoreConfig) (F : Files) : Operation → Prop
  | .deleteLayer layer => layer ≠ "" ∧ c.room (safe layer) = .scarce ∧ ∃ k, F.sizes (safe layer) k ≠ none
  | .renameLayer source target => source ≠ "" ∧ target ≠ "" ∧ safe source ≠ safe target ∧
      c.room (safe target) ≠ .lacking ∧ F (safe target) = none ∧
      c.room (safe source) = .scarce ∧ ∃ k, F.sizes (safe source) k ≠ none
  | _ => False

/-! ## Sizes on shelves -/

/-- The sizes of the tiles of a holding. -/
def Holding.sizes (h : Holding) (k : RowKey) : Option Nat := (h.tiles.get? k).map ByteArray.size

theorem Holding.content_sizes (h : Holding) (k : RowKey) :
    (Volume.content (.full h)).sizes k = h.sizes k := by
  have hrun := Holding.run_selectTile h k
  simp only [Statement.selectTile, Except.ok.injEq, Effect.mk.injEq, and_true] at hrun
  rw [Volume.content, Content.sizes, Holding.sizes]
  generalize h.database.tileRows.find? (fun r => decide (r.key = k)) = found at hrun
  cases found with
  | none =>
    cases hget : h.tiles.get? k with
    | none => rfl
    | some b =>
      rw [hget] at hrun
      cases hrun
  | some r =>
    cases hget : h.tiles.get? k with
    | none =>
      rw [hget] at hrun
      cases hrun
    | some b =>
      rw [hget, Option.map_some, Option.map_some, Option.some.injEq] at hrun
      rw [Option.bind_some, hrun]
      rfl

theorem Volume.content_isMap (v : Volume) : v.content.IsMap := by
  cases v with
  | blank => trivial
  | full h =>
    have hrows : h.database.tileRows = h.tiles.pairs.map Holding.tileRow := rfl
    constructor
    · rw [hrows, List.map_map]
      exact h.tiles.nodup
    · intro r hr
      rw [hrows] at hr
      obtain ⟨e, -, rfl⟩ := List.mem_map.1 hr
      exact ⟨e.2, rfl⟩

namespace Shelves

variable {c : StoreConfig} {A B : Shelves} {f : String}

/-- The contents of the files of shelves. -/
def files (A : Shelves) : Files := fun f => (A f).map Volume.content

theorem files_isMap (A : Shelves) {x : Content} (hx : A.files f = some x) : x.IsMap := by
  rw [files, Option.map_eq_some_iff] at hx
  obtain ⟨v, -, rfl⟩ := hx
  exact v.content_isMap

theorem files_eq_none : A.files f = none ↔ A f = none := Option.map_eq_none_iff

theorem sizes_none {k : RowKey} (h : A f = none) : A.files.sizes f k = none := by
  rw [Files.sizes, files, h]
  rfl

theorem sizes_blank {k : RowKey} (h : A f = some .blank) : A.files.sizes f k = none := by
  rw [Files.sizes, files, h]
  rfl

theorem sizes_full {h : Holding} (hA : A f = some (.full h)) : A.files.sizes f = h.sizes := by
  funext k
  rw [Files.sizes, files, hA]
  exact h.content_sizes k

theorem sizes_update (A : Shelves) (f : String) (h : Holding) :
    (files (Function.update A f (some (.full h)))).sizes = Function.update A.files.sizes f h.sizes := by
  funext g
  by_cases hg : g = f
  · subst hg
    rw [Function.update_self]
    exact sizes_full (Function.update_self ..)
  · rw [Function.update_of_ne hg]
    funext k
    rw [Files.sizes, files, Function.update_of_ne hg]
    rfl

theorem sizes_other {g : String} (v : Option Volume) (hg : g ≠ f) :
    (files (Function.update A f v)).sizes g = A.files.sizes g := by
  funext k
  rw [Files.sizes, files, Function.update_of_ne hg]
  rfl

/-- Opening a layer makes no tile and takes none away. -/
theorem lend_sizes (c : StoreConfig) (m : String) (A : Shelves) :
    (A.lend c m).2.files.sizes = A.files.sizes := by
  have hempty : Holding.empty.sizes = fun _ => none := by
    funext k
    rfl
  by_cases hm : m = ""
  · rw [hm, lend_empty]
  cases hr : c.room (safe m) with
  | lacking => rw [lend_lacking hm hr]
  | ample =>
    cases hA : A (safe m) with
    | none =>
      rw [lend_new hm hr hA]
      show (files (Function.update A (safe m) (some (.full .empty)))).sizes = _
      rw [sizes_update, hempty]
      have hnone : A.files.sizes (safe m) = fun _ => none := by
        funext k
        exact sizes_none hA
      rw [← hnone, Function.update_eq_self]
    | some v =>
      cases v with
      | blank => rw [lend_blank hm (by rw [hr]; decide) hA]
      | full h => rw [lend_full hm (by rw [hr]; decide) hA]
  | scarce =>
    cases hA : A (safe m) with
    | none =>
      rw [lend_scarce hm hr hA]
      funext f k
      by_cases hf : f = safe m
      · subst hf
        rw [sizes_blank (Function.update_self ..), sizes_none hA]
      · rw [sizes_other _ hf]
    | some v =>
      cases v with
      | blank => rw [lend_blank hm (by rw [hr]; decide) hA]
      | full h => rw [lend_full hm (by rw [hr]; decide) hA]

end Shelves

/-! ## What tasks announce -/

theorem Holding.sizes_putTile (h : Holding) (k : RowKey) (b : Blob) (k' : RowKey) :
    (h.putTile k b).sizes k' = if k' = k then some b.size else h.sizes k' := by
  rw [Holding.sizes, Holding.putTile, Ledger.get?_put]
  by_cases hk : k' = k
  · rw [if_pos hk, if_pos hk.symm]
    rfl
  · rw [if_neg hk, if_neg (Ne.symm hk)]
    rfl

theorem Holding.sizes_dropTile (h : Holding) (k : RowKey) (k' : RowKey) :
    (h.dropTile k).sizes k' = if k' = k then none else h.sizes k' := by
  rw [Holding.sizes, Holding.dropTile, Ledger.get?_drop]
  by_cases hk : k' = k
  · rw [if_pos hk, if_pos hk]
    rfl
  · rw [if_neg hk, if_neg hk]
    rfl

theorem Holding.sizes_dropGrid (h : Holding) (grid : String) (k' : RowKey) :
    (h.dropGrid grid).sizes k' = if k'.grid = grid then none else h.sizes k' := by
  rw [Holding.sizes, Holding.dropGrid, Ledger.get?_discard]
  by_cases hk : k'.grid = grid
  · simp [hk]
  · simp [hk, Holding.sizes]

theorem Holding.sizes_isSome (h : Holding) (k : RowKey) : (h.sizes k).isSome = h.tiles.has k := by
  rw [Holding.sizes, Option.isSome_map, Ledger.has_eq]

/-- What a task announces is what it does to the tiles of its layer. -/
structure Announced (layer : String) (h h' : Holding) (events : List Event) : Prop where
  books : ∀ M : Sizes, M (safe layer) = h.sizes →
    events.foldl Event.apply M = Function.update M (safe layer) h'.sizes
  real : ∀ F G : Files, F.sizes (safe layer) = h.sizes → G.sizes (safe layer) = h'.sizes →
    ∀ e ∈ events, e.IsReal F G
  short : events.length ≤ 1

/-- Nothing is announced where no tile changes. -/
theorem Announced.nothing {layer : String} {h h' : Holding} (hs : h'.sizes = h.sizes) :
    Announced layer h h' [] where
  books := by
    intro M hM
    rw [hs, ← hM, Function.update_eq_self]
    rfl
  real := by
    intro F G _ _ e he
    cases he
  short := Nat.zero_le _

theorem announced_put (key : TileKey) (b : Blob) (h : Holding) :
    Announced key.layer h (h.putTile key.row b) [.tileStored key b.size] where
  books := by
    intro M hM
    funext f k
    show (if f = safe key.layer ∧ k = key.row then some b.size else M f k) = _
    by_cases hf : f = safe key.layer
    · subst hf
      rw [Function.update_self, Holding.sizes_putTile, ← hM]
      simp only [true_and]
    · rw [Function.update_of_ne hf, if_neg (fun e => hf e.1)]
  real := by
    intro F G _ hG e he
    rw [List.mem_singleton.1 he]
    show G.sizes (safe key.layer) key.row = some b.size
    rw [hG, Holding.sizes_putTile, if_pos rfl]
  short := Nat.le_refl _

theorem announced_delete (key : TileKey) (h : Holding) :
    Announced key.layer h (h.dropTile key.row)
      (if h.tiles.has key.row then [.tileDeleted key] else []) := by
  by_cases hk : h.tiles.has key.row = true
  · rw [if_pos hk]
    constructor
    · intro M hM
      funext f k
      show (if f = safe key.layer ∧ k = key.row then none else M f k) = _
      by_cases hf : f = safe key.layer
      · subst hf
        rw [Function.update_self, Holding.sizes_dropTile, ← hM]
        simp only [true_and]
      · rw [Function.update_of_ne hf, if_neg (fun e => hf e.1)]
    · intro F G hF hG e he
      rw [List.mem_singleton.1 he]
      constructor
      · rw [hF]
        rw [← Holding.sizes_isSome] at hk
        exact Option.isSome_iff_ne_none.1 hk
      · rw [hG, Holding.sizes_dropTile, if_pos rfl]
    · exact Nat.le_refl _
  · rw [if_neg hk]
    rw [Bool.not_eq_true] at hk
    exact .nothing (congrArg Holding.sizes (Holding.dropTile_eq_self hk))

theorem announced_deleteGrid (layer grid : String) (h : Holding) :
    Announced layer h (h.dropGrid grid)
      (if h.tiles.count (fun k => decide (k.grid = grid)) = 0 then []
        else [.gridsetDeleted layer grid]) := by
  by_cases hn : h.tiles.count (fun k => decide (k.grid = grid)) = 0
  · rw [if_pos hn]
    exact .nothing (congrArg Holding.sizes (Holding.dropGrid_eq_self hn))
  · rw [if_neg hn]
    constructor
    · intro M hM
      funext f k
      show (if f = safe layer ∧ k.grid = grid then none else M f k) = _
      by_cases hf : f = safe layer
      · subst hf
        rw [Function.update_self, Holding.sizes_dropGrid, ← hM]
        simp only [true_and]
      · rw [Function.update_of_ne hf, if_neg (fun e => hf e.1)]
    · intro F G hF hG e he
      rw [List.mem_singleton.1 he]
      constructor
      · -- Some key of the grid set was counted.
        apply Classical.byContradiction
        intro hnot
        apply hn
        rw [Ledger.count_eq_zero]
        intro k hk
        rw [decide_eq_false_iff_not]
        intro hgrid
        apply hnot
        refine ⟨k, hgrid, ?_⟩
        rw [hF]
        rw [← Holding.sizes_isSome] at hk
        exact Option.isSome_iff_ne_none.1 hk
      · intro k hk
        rw [hG, Holding.sizes_dropGrid, if_pos hk]
    · exact Nat.le_refl _

theorem task_announced {o : Operation} {t : Task} (ho : o.task? = some t) {h h' : Holding} {a : Answer}
    {events : List Event} (hw : t.work h = .ok (a, h', events)) : Announced t.layer h h' events := by
  cases o with
  | getTile key =>
    cases ho
    cases onTile_ok hw
    exact .nothing rfl
  | putTile key blob =>
    cases ho
    cases onTile_ok hw
    exact announced_put key blob h
  | deleteTile key =>
    cases ho
    cases onTile_ok hw
    exact announced_delete key h
  | deleteGridset layer grid =>
    cases ho
    cases hw
    exact announced_deleteGrid layer grid h
  | getMetadata layer key =>
    cases ho
    cases hw
    exact .nothing rfl
  | putMetadata layer key value =>
    cases ho
    cases hw
    exact .nothing rfl
  | allMetadata layer =>
    cases ho
    cases hw
    exact .nothing rfl
  | metadataEntries layer =>
    cases ho
    cases hw
    exact .nothing rfl
  | deleteRange range => cases ho
  | clear => cases ho
  | layerExists layer => cases ho
  | deleteLayer layer => cases ho
  | renameLayer source target => cases ho
  | destroy => cases ho

/-! ## What operations announce -/

/-- What an operation announces is what it does to the tiles, and it announces nothing else. -/
structure Chronicled (A B : Shelves) (events : List Event) : Prop where
  books : events.foldl Event.apply A.files.sizes = B.files.sizes
  real : ∀ e ∈ events, e.IsReal A.files B.files
  short : events.length ≤ 1

/-- Nothing is announced where no tile is made or taken away. -/
theorem Chronicled.nothing {A B : Shelves} (h : B.files.sizes = A.files.sizes) : Chronicled A B [] where
  books := h.symm
  real := by
    intro e he
    cases he
  short := Nat.zero_le _

theorem visit_chronicled {c : StoreConfig} {o : Operation} {t : Task} (ho : o.task? = some t)
    (A : Shelves) : Chronicled A (A.visit c t).2.1 (A.visit c t).2.2 := by
  have hlend := Shelves.lend_sizes c t.layer A
  have hcarried := Shelves.carryOut_carried c t A
  have hvisit : (A.visit c t).2 = (A.carryOut c t).2 := rfl
  rw [hvisit]
  generalize A.carryOut c t = r at hcarried
  cases hcarried with
  | failed hB =>
    rw [← hB]
    exact .nothing hlend
  | @done h h' B a events hl hw =>
    rw [hl] at hlend
    have hB : B.files.sizes (safe t.layer) = h.sizes := Shelves.sizes_full (Shelves.lend_ok hl).2.2.1
    have hannounced := task_announced ho hw
    refine ⟨?_, ?_, hannounced.short⟩
    · rw [Shelves.sizes_update, ← hlend]
      exact hannounced.books _ hB
    · apply hannounced.real
      · rw [← hlend]
        exact hB
      · rw [Shelves.sizes_update, Function.update_self]

section Layers

variable {c : StoreConfig} {A : Shelves} {f g : String}

/-- Taking the file of a name away takes all its tiles. -/
theorem sizes_taken (A : Shelves) (f : String) :
    (Shelves.files (Function.update A f none)).sizes =
      fun f' k => if f' = f then none else A.files.sizes f' k := by
  funext f' k
  by_cases hf : f' = f
  · subst hf
    rw [if_pos rfl]
    exact Shelves.sizes_none (Function.update_self ..)
  · rw [if_neg hf, Shelves.sizes_other _ hf]

/-- Moving the file of a name moves all its tiles. -/
theorem sizes_moved (hfg : f ≠ g) (hg : A g = none) :
    (Shelves.files (Function.update (Function.update A g (A f)) f none)).sizes = fun f' k =>
      if f' = g then (A.files.sizes f k).or (A.files.sizes f' k)
      else if f' = f then none
      else A.files.sizes f' k := by
  rw [sizes_taken]
  funext f' k
  by_cases hg' : f' = g
  · subst hg'
    rw [if_neg (Ne.symm hfg), if_pos rfl, Shelves.sizes_none hg, Option.or_none, Files.sizes,
      Shelves.files, Function.update_self]
    rfl
  · rw [if_neg hg', Shelves.sizes_other _ hg']

/-- Taking a file away changes the sizes only if it had tiles. -/
theorem sizes_taken_ne (h : ∃ k, A.files.sizes f k ≠ none) {B : Shelves} (hB : B f = none) :
    B.files.sizes ≠ A.files.sizes := by
  obtain ⟨k, hk⟩ := h
  intro e
  apply hk
  rw [← e]
  exact Shelves.sizes_none hB

/-- Taking a file away that had no tiles leaves the sizes as they are. -/
theorem sizes_eq_of_none {B : Shelves} (h : ¬ ∃ k, A.files.sizes f k ≠ none) (hB : B f = none)
    (hother : ∀ f', f' ≠ f → B f' = A f') : B.files.sizes = A.files.sizes := by
  funext f' k
  by_cases hf : f' = f
  · subst hf
    rw [Shelves.sizes_none hB]
    apply Classical.byContradiction
    exact fun e => h ⟨k, Ne.symm e⟩
  · rw [Files.sizes, Shelves.files, hother f' hf]
    rfl

theorem deleteLayer_chronicled {layer : String} (hs : ¬ (Operation.deleteLayer layer).Slip c A.files) :
    Chronicled A (A.deleteLayer c layer).2.1 (A.deleteLayer c layer).2.2 := by
  rw [Shelves.deleteLayer]
  split
  · exact .nothing rfl
  · rename_i hm
    split
    · exact .nothing rfl
    · split
      · exact .nothing rfl
      · rename_i hA
        rw [Shelves.afterwards]
        split
        · rename_i hr
          refine .nothing (sizes_eq_of_none (f := safe layer) ?_ (Function.update_self ..)
            (fun f' hf' => Function.update_of_ne hf' ..))
          exact fun hk => hs ⟨hm, hr, hk⟩
        · refine ⟨(sizes_taken A (safe layer)).symm, ?_, Nat.le_refl _⟩
          intro e he
          rw [List.mem_singleton.1 he]
          constructor
          · rw [Ne, Shelves.files_eq_none]
            exact hA
          · rw [Shelves.files_eq_none]
            exact Function.update_self ..

theorem renameLayer_chronicled {source target : String}
    (hs : ¬ (Operation.renameLayer source target).Slip c A.files) :
    Chronicled A (A.renameLayer c source target).2.1 (A.renameLayer c source target).2.2 := by
  rw [Shelves.renameLayer]
  split
  · exact .nothing rfl
  rename_i hm
  split
  · exact .nothing rfl
  rename_i hne
  split
  · exact .nothing rfl
  rename_i hrt
  split
  · exact .nothing rfl
  rename_i hfree
  rw [not_not] at hfree
  split
  · exact .nothing rfl
  split
  · exact .nothing rfl
  rename_i hA
  rw [not_or] at hm
  rw [Shelves.afterwards]
  split
  · rename_i hr
    have hempty : ¬ ∃ k, A.files.sizes (safe source) k ≠ none :=
      fun hk => hs ⟨hm.1, hm.2, hne, hrt, Shelves.files_eq_none.2 hfree, hr, hk⟩
    have hsource : ∀ k, A.files.sizes (safe source) k = none := by
      intro k
      apply Classical.byContradiction
      exact fun hk => hempty ⟨k, hk⟩
    refine .nothing ?_
    dsimp only
    rw [sizes_moved hne hfree]
    funext f' k
    by_cases hf' : f' = safe source
    · rw [if_neg (fun e => hne (hf'.symm.trans e)), if_pos hf', hf', hsource]
    · rw [if_neg hf', hsource, Option.none_or]
      split <;> rfl
  · refine ⟨(sizes_moved hne hfree).symm, ?_, Nat.le_refl _⟩
    intro e he
    rw [List.mem_singleton.1 he]
    refine ⟨?_, ?_, ?_, ?_⟩
    · rw [Ne, Shelves.files_eq_none]
      exact hA
    · rw [Shelves.files_eq_none]
      exact hfree
    · rw [Shelves.files_eq_none]
      exact Function.update_self ..
    · rw [Shelves.files]
      dsimp only
      rw [Function.update_of_ne (Ne.symm hne), Function.update_self]
      rfl

/-- A layer that is renamed keeps its tiles. -/
theorem renameLayer_sizes {source target : String} (hs : source ≠ "") (ht : target ≠ "")
    (hne : safe source ≠ safe target) (hrt : c.room (safe target) ≠ .lacking)
    (hfree : A (safe target) = none) (hr : c.room (safe source) ≠ .lacking) (hA : A (safe source) ≠ none) :
    (A.renameLayer c source target).2.1.files.sizes (safe target) = A.files.sizes (safe source) := by
  have hshelves : (A.renameLayer c source target).2.1 =
      Function.update (Function.update A (safe target) (A (safe source))) (safe source) none := by
    rw [Shelves.renameLayer, if_neg (by rw [not_or]; exact ⟨hs, ht⟩), if_neg hne, if_neg hrt,
      if_neg (not_not.2 hfree), if_neg hr, if_neg hA, Shelves.afterwards_shelves]
  funext k
  rw [hshelves, sizes_moved hne hfree]
  dsimp only
  rw [if_pos rfl, Shelves.sizes_none hfree, Option.or_none]

/-- An operation that is no slip announces what it does to the tiles. -/
theorem perform_chronicled {o : Operation} (hs : ¬ o.Slip c A.files) :
    Chronicled A (A.perform c o).2.1 (A.perform c o).2.2 := by
  cases ht : o.task? with
  | some t =>
    rw [Shelves.perform_of_task ht]
    exact visit_chronicled ht A
  | none =>
    cases Operation.whole_of_task ht with
    | deleteLayer layer => exact deleteLayer_chronicled hs
    | renameLayer source target => exact renameLayer_chronicled hs
    | layerExists layer => exact .nothing rfl
    | deleteRange range => exact .nothing rfl
    | clear => exact .nothing rfl
    | destroy => exact .nothing rfl

/-- A slip announces nothing and changes the sizes. -/
theorem perform_slip {o : Operation} (hs : o.Slip c A.files) :
    (A.perform c o).2.2 = [] ∧ (A.perform c o).2.1.files.sizes ≠ A.files.sizes := by
  cases o with
  | deleteLayer layer =>
    obtain ⟨hm, hr, hk⟩ := hs
    have hA : A (safe layer) ≠ none := by
      intro hA
      obtain ⟨k, hk⟩ := hk
      exact hk (Shelves.sizes_none hA)
    have hperform : A.perform c (.deleteLayer layer) =
        Shelves.afterwards c (safe layer) (Function.update A (safe layer) none) (.layerDeleted layer) := by
      show A.deleteLayer c layer = _
      rw [Shelves.deleteLayer, if_neg hm, if_neg (by rw [hr]; decide), if_neg hA]
    rw [hperform, Shelves.afterwards, if_pos hr]
    exact ⟨rfl, sizes_taken_ne hk (Function.update_self ..)⟩
  | renameLayer source target =>
    obtain ⟨hs, ht, hne, hrt, hfree, hr, hk⟩ := hs
    have hA : A (safe source) ≠ none := by
      intro hA
      obtain ⟨k, hk⟩ := hk
      exact hk (Shelves.sizes_none hA)
    have hperform : A.perform c (.renameLayer source target) =
        Shelves.afterwards c (safe source)
          (Function.update (Function.update A (safe target) (A (safe source))) (safe source) none)
          (.layerRenamed source target) := by
      show A.renameLayer c source target = _
      rw [Shelves.renameLayer, if_neg (by rw [not_or]; exact ⟨hs, ht⟩), if_neg hne, if_neg hrt,
        if_neg (not_not.2 (Shelves.files_eq_none.1 hfree)), if_neg (by rw [hr]; decide), if_neg hA]
    rw [hperform, Shelves.afterwards, if_pos hr]
    exact ⟨rfl, sizes_taken_ne hk (Function.update_self ..)⟩
  | _ => exact absurd hs id

end Layers

end TileDepot
