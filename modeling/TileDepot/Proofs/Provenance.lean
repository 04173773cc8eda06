import TileDepot.Proofs.Shelves

/-!
# Where the entries of a file come from

An `Entry` is a tile or a metadata value of a file.  An operation brings an entry into a file by putting
it there, or by renaming another file, and shows an entry by answering it.

* `perform_has` says that a file has no entry after an operation that it did not have before, unless the
  operation brings it.
* `perform_shows` says that an operation shows only what a file has.
* `perform_get_put` says that a tile that was put is answered under every name of its file.
-/

namespace TileDepot

open Layer Store

/-- A tile or a metadata value of a file. -/
inductive Entry where
  | tile (k : RowKey) (blob : Blob)
  | value (key value : String)

/-- A holding has an entry. -/
def Holding.Has (h : Holding) : Entry → Prop
  | .tile k blob => h.tiles.get? k = some blob
  | .value key value => h.metadata.get? key = some value

/-- The file of a safe name has an entry. -/
def Shelves.Has (A : Shelves) (f : String) (e : Entry) : Prop := ∃ h, A f = some (.full h) ∧ h.Has e

/-- An operation may bring an entry into the file of a safe name. -/
def Store.Operation.Brings (f : String) (e : Entry) : Operation → Prop
  | .putTile key blob => safe key.layer = f ∧ e = .tile key.row blob
  | .putMetadata layer key value => safe layer = f ∧ e = .value key value
  | .renameLayer _ target => safe target = f
  | _ => False

/-- An answer to an operation shows an entry of the file of a safe name. -/
inductive Store.Shows : Operation → Answer → String → Entry → Prop
  | tile {key : TileKey} {record : TileRecord} :
      Shows (.getTile key) (.tile (some record)) (safe key.layer) (.tile key.row record.blob)
  | value {layer key v : String} :
      Shows (.getMetadata layer key) (.value (some v)) (safe layer) (.value key v)
  | pairs {layer k v : String} {ps : List (Option String × Option String)} : (some k, some v) ∈ ps →
      Shows (.allMetadata layer) (.pairs ps) (safe layer) (.value k v)
  | entries {layer k v : String} {ps : List (Option String × Option String)} : (some k, some v) ∈ ps →
      Shows (.metadataEntries layer) (.entries layer ps) (safe layer) (.value k v)

/-- The time of a file does not matter to what is shown of it. -/
theorem Store.Shows.bare {o : Operation} {a : Answer} {f : String} {e : Entry} (h : Shows o a f e) :
    Shows o a.bare f e := by
  cases h with
  | @tile key record => exact @Shows.tile key { record with modified := none }
  | value => exact .value
  | pairs hm => exact .pairs hm
  | entries hm => exact .entries hm

/-! ## What tasks do to entries -/

theorem Holding.has_shownEntries {h : Holding} {k v : String} (hm : (some k, some v) ∈ h.shownEntries) :
    h.Has (.value k v) := by
  rw [shownEntries, List.mem_map] at hm
  obtain ⟨⟨k', v'⟩, hmem, he⟩ := hm
  cases he
  exact Ordered.get?_of_mem h.metadata.nodup hmem

theorem Holding.has_putTile {h : Holding} {k : RowKey} {blob : Blob} {e : Entry}
    (he : (h.putTile k blob).Has e) : h.Has e ∨ e = .tile k blob := by
  cases e with
  | value key value => exact .inl he
  | tile k' blob' =>
    rw [Has, putTile, Ledger.get?_put] at he
    split at he
    · rename_i hk
      cases he
      exact .inr (by rw [hk])
    · exact .inl he

theorem Holding.has_putValue {h : Holding} {key value : String} {e : Entry}
    (he : (h.putValue key value).Has e) : h.Has e ∨ e = .value key value := by
  cases e with
  | tile k blob => exact .inl he
  | value key' value' =>
    rw [Has, putValue, Ledger.get?_put] at he
    split at he
    · rename_i hk
      cases he
      exact .inr (by rw [hk])
    · exact .inl he

theorem Holding.has_dropTile {h : Holding} {k : RowKey} {e : Entry} (he : (h.dropTile k).Has e) :
    h.Has e := by
  cases e with
  | value key value => exact he
  | tile k' blob =>
    rw [Has, dropTile, Ledger.get?_drop] at he
    split at he
    · cases he
    · exact he

theorem Holding.has_dropGrid {h : Holding} {grid : String} {e : Entry} (he : (h.dropGrid grid).Has e) :
    h.Has e := by
  cases e with
  | value key value => exact he
  | tile k blob =>
    rw [Has, dropGrid, Ledger.get?_discard] at he
    split at he
    · cases he
    · exact he

/-- The work of a task leaves what was there and what its operation brings. -/
theorem work_has {o : Operation} {t : Task} (ho : o.task? = some t) {h h' : Holding} {a : Answer}
    {events : List Event} (hw : t.work h = .ok (a, h', events)) {e : Entry} (he : h'.Has e) :
    h.Has e ∨ o.Brings (safe t.layer) e := by
  cases o with
  | getTile key =>
    cases ho
    cases onTile_ok hw
    exact .inl he
  | putTile key blob =>
    cases ho
    cases onTile_ok hw
    exact (Holding.has_putTile he).imp_right (fun e => ⟨rfl, e⟩)
  | deleteTile key =>
    cases ho
    cases onTile_ok hw
    exact .inl (Holding.has_dropTile he)
  | deleteGridset layer grid =>
    cases ho
    cases hw
    exact .inl (Holding.has_dropGrid he)
  | getMetadata layer key =>
    cases ho
    cases hw
    exact .inl he
  | putMetadata layer key value =>
    cases ho
    cases hw
    exact (Holding.has_putValue he).imp_right (fun e => ⟨rfl, e⟩)
  | allMetadata layer =>
    cases ho
    cases hw
    exact .inl he
  | metadataEntries layer =>
    cases ho
    cases hw
    exact .inl he
  | deleteRange range => cases ho
  | clear => cases ho
  | layerExists layer => cases ho
  | deleteLayer layer => cases ho
  | renameLayer source target => cases ho
  | destroy => cases ho

/-- What the work of a task shows was there. -/
theorem work_shows {o : Operation} {t : Task} (ho : o.task? = some t) {h h' : Holding} {a : Answer}
    {events : List Event} (hw : t.work h = .ok (a, h', events)) {f : String} {e : Entry}
    (hs : Shows o a f e) : f = safe t.layer ∧ h.Has e := by
  cases hs with
  | @tile key record =>
    cases ho
    have hx := onTile_ok hw
    simp only [Prod.mk.injEq, Answer.tile.injEq] at hx
    obtain ⟨b, hb, hrecord⟩ := Option.map_eq_some_iff.1 hx.1
    rw [← hrecord]
    exact ⟨rfl, hb⟩
  | value =>
    cases ho
    simp only [Except.ok.injEq, Prod.mk.injEq, Answer.value.injEq] at hw
    exact ⟨rfl, hw.1⟩
  | pairs hm =>
    cases ho
    cases hw
    exact ⟨rfl, Holding.has_shownEntries hm⟩
  | entries hm =>
    cases ho
    cases hw
    exact ⟨rfl, Holding.has_shownEntries hm⟩

/-- What is answered instead of a failure shows nothing. -/
theorem fallback_shows {o : Operation} {t : Task} (ho : o.task? = some t) {a : Answer}
    (ha : t.fallback = some a) {f : String} {e : Entry} : ¬ Shows o a f e := by
  intro hs
  cases hs with
  | tile =>
    cases ho
    cases ha
  | value =>
    cases ho
    cases ha
  | pairs hm =>
    cases ho
    cases ha
    cases hm
  | entries hm =>
    cases ho
    cases ha
    cases hm

/-! ## What operations do to entries -/

namespace Shelves

variable {c : StoreConfig} {A : Shelves} {f g : String} {e : Entry}

theorem has_update {v : Option Volume} (h : Has (Function.update A g v) f e) :
    A.Has f e ∨ (f = g ∧ ∃ x, v = some (.full x) ∧ x.Has e) := by
  obtain ⟨x, hx, he⟩ := h
  by_cases hf : f = g
  · rw [hf, Function.update_self] at hx
    exact .inr ⟨hf, x, hx, he⟩
  · rw [Function.update_of_ne hf] at hx
    exact .inl ⟨x, hx, he⟩

/-- Opening a layer brings nothing into its file. -/
theorem lend_has {m : String} (h : (A.lend c m).2.Has f e) : A.Has f e := by
  have hempty : ¬ Holding.empty.Has e := by
    cases e with
    | tile k blob => exact fun he => by cases he
    | value key value => exact fun he => by cases he
  rw [lend] at h
  split at h
  · exact h
  · split at h
    · exact h
    · exact h
    · exact h
    · rcases has_update h with h | ⟨-, x, hx, he⟩
      · exact h
      · cases hx
        exact absurd he hempty
    · rcases has_update h with h | ⟨-, x, hx, -⟩
      · exact h
      · cases hx

theorem visit_has {o : Operation} {t : Task} (ho : o.task? = some t) (h : (A.visit c t).2.1.Has f e) :
    A.Has f e ∨ o.Brings f e := by
  have hcarried := carryOut_carried c t A
  have hvisit : (A.visit c t).2.1 = (A.carryOut c t).2.1 := rfl
  rw [hvisit] at h
  generalize A.carryOut c t = r at hcarried h
  cases hcarried with
  | failed hB =>
    rw [← hB] at h
    exact .inl (lend_has h)
  | @done x x' B a events hl hw =>
    rcases has_update h with h | ⟨rfl, y, hy, he⟩
    · rw [← show (A.lend c t.layer).2 = B by rw [hl]] at h
      exact .inl (lend_has h)
    · cases hy
      refine (work_has ho hw he).imp_left (fun he => lend_has (c := c) (m := t.layer) ?_)
      rw [hl]
      exact ⟨x, (lend_ok hl).2.2.1, he⟩

theorem visit_shows {o : Operation} {t : Task} (ho : o.task? = some t) {a : Answer}
    (ha : (A.visit c t).1 = .ok a) (hs : Shows o a f e) : A.Has f e := by
  have hcarried := carryOut_carried c t A
  have hvisit : (A.visit c t).1 = forgive c t.fallback (A.carryOut c t).1 := rfl
  rw [hvisit] at ha
  generalize A.carryOut c t = r at hcarried ha
  cases hcarried with
  | @failed x B hB =>
    have hfallback : t.fallback = some a := by
      cases x with
      | store x =>
        dsimp only [forgive] at ha
        split at ha
        · rename_i hfallback
          cases ha
          exact hfallback
        · cases ha
      | _ => cases ha
    exact absurd hs (fallback_shows ho hfallback)
  | @done x x' B a' events hl hw =>
    cases ha
    obtain ⟨rfl, he⟩ := work_shows ho hw hs
    apply lend_has (c := c) (m := t.layer)
    rw [hl]
    exact ⟨x, (lend_ok hl).2.2.1, he⟩

theorem deleteLayer_has {layer : String} (h : (A.deleteLayer c layer).2.1.Has f e) : A.Has f e := by
  rw [deleteLayer] at h
  split at h
  · exact h
  · split at h
    · exact h
    · split at h
      · exact h
      · rw [afterwards_shelves] at h
        rcases has_update h with h | ⟨-, x, hx, -⟩
        · exact h
        · cases hx

theorem renameLayer_has {source target : String} (h : (A.renameLayer c source target).2.1.Has f e) :
    A.Has f e ∨ safe target = f := by
  rw [renameLayer] at h
  repeat'
    split at h
    · exact .inl h
  rw [afterwards_shelves] at h
  rcases has_update h with h | ⟨-, x, hx, -⟩
  · rcases has_update h with h | ⟨hf, -⟩
    · exact .inl h
    · exact .inr hf.symm
  · cases hx

/-- After an operation a file has what it had before and what the operation brings. -/
theorem perform_has {o : Operation} (h : (A.perform c o).2.1.Has f e) : A.Has f e ∨ o.Brings f e := by
  cases ht : o.task? with
  | some t =>
    rw [perform_of_task ht] at h
    exact visit_has ht h
  | none =>
    cases Operation.whole_of_task ht with
    | deleteLayer layer => exact .inl (deleteLayer_has h)
    | renameLayer source target => exact renameLayer_has h
    | layerExists layer => exact .inl h
    | deleteRange range => exact .inl h
    | clear => exact .inl h
    | destroy => exact .inl h

/-- An operation shows what a file has. -/
theorem perform_shows {o : Operation} {a : Answer} (ha : (A.perform c o).1 = .ok a) (hs : Shows o a f e) :
    A.Has f e := by
  cases ht : o.task? with
  | some t =>
    rw [perform_of_task ht] at ha
    exact visit_shows ht ha hs
  | none =>
    cases hs with
    | tile => cases ht
    | value => cases ht
    | pairs _ => cases ht
    | entries _ => cases ht

/-- A tile that was put is answered under every name of its file. -/
theorem perform_get_put {key : TileKey} {blob : Blob} {name : String} {a : Answer}
    (ha : (A.perform c (.putTile key blob)).1 = .ok a) (hn : safe name = safe key.layer) :
    ((A.perform c (.putTile key blob)).2.1.perform c (.getTile { key with layer := name })).1 =
      .ok (.tile (some ⟨{ key with layer := name }, blob, none⟩)) := by
  obtain ⟨t, ht⟩ : ∃ t, (Operation.putTile key blob).task? = some t := ⟨_, rfl⟩
  have hcarried := carryOut_carried c t A
  have hanswer : (A.visit c t).1 = forgive c t.fallback (A.carryOut c t).1 := rfl
  have hshelves : (A.visit c t).2.1 = (A.carryOut c t).2.1 := rfl
  rw [perform_of_task ht, hanswer] at ha
  rw [perform_of_task ht, hshelves]
  generalize A.carryOut c t = r at hcarried ha
  cases ht
  cases hcarried with
  | @failed x B hB =>
    cases x with
    | store x => cases hf : c.forgiving <;> simp only [forgive, hf] at ha <;> cases ha
    | _ => cases ha
  | @done x x' B a' events hl hw =>
    obtain ⟨hne, hroom, -, -⟩ := lend_ok hl
    have hname : name ≠ "" := by
      rintro rfl
      exact safe_ne_empty hne hn.symm
    have hfits : key.row.fits = true := by
      dsimp only [onTile] at hw
      split at hw
      · assumption
      · cases hw
    cases onTile_ok hw
    have hshelf : Function.update B (safe key.layer) (some (.full (x.putTile key.row blob))) (safe name) =
        some (.full (x.putTile key.row blob)) := by
      rw [hn]
      exact Function.update_self ..
    have hlend := lend_full hname (by rw [hn]; exact hroom) hshelf
    have hget : (x.putTile key.row blob).tiles.get? key.row = some blob := by
      rw [Holding.putTile, Ledger.get?_put, if_pos rfl]
    have hrow : ({ key with layer := name } : TileKey).row = key.row := rfl
    show forgive c none (carryOut c _ _).1 = _
    simp only [carryOut, hlend, onTile, hrow, hfits, if_true, hget, Option.map_some, true_or, forgive]

end Shelves

end TileDepot
