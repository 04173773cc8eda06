import Mathlib.Data.List.Basic
import TileDepot.Database.Header
import TileDepot.Database.Statement
import TileDepot.Proofs.Ledger

/-!
# What a layer holds

A `Holding` is a finite map of tiles and a finite map of metadata.  `Holding.database` is the database
that keeps it: two tables of the expected columns, one row per key.  The theorems say what each
statement answers on such a database and which holding it leaves; a statement that leaves the holding
as it was writes nothing, which `changed` expresses.

A file of the store holds such a database or nothing at all, and `Volume` tells the two apart.
-/

namespace TileDepot

/-- The tiles and the metadata of a layer. -/
structure Holding where
  tiles : Ledger RowKey Blob
  metadata : Ledger String String
  deriving DecidableEq

namespace Holding

/-- No tile and no metadata. -/
def empty : Holding := ⟨.empty, .empty⟩

/-- Put a tile under its address. -/
def putTile (h : Holding) (k : RowKey) (b : Blob) : Holding := { h with tiles := h.tiles.put k b }

/-- Remove the tile with an address. -/
def dropTile (h : Holding) (k : RowKey) : Holding := { h with tiles := h.tiles.drop k }

/-- Remove the tiles of a grid set. -/
def dropGrid (h : Holding) (grid : String) : Holding :=
  { h with tiles := h.tiles.discard (fun k => decide (k.grid = grid)) }

/-- Put a value under a metadata key. -/
def putValue (h : Holding) (key value : String) : Holding :=
  { h with metadata := h.metadata.put key value }

/-- The row of a tile. -/
def tileRow (e : RowKey × Blob) : TileRow := ⟨e.1, .blob e.2⟩

/-- The row of a metadata value. -/
def metadataRow (e : String × String) : MetadataRow := ⟨.text e.1, .text e.2⟩

/-- The database that keeps a holding. -/
def database (h : Holding) : Database :=
  ⟨some ⟨.full, h.tiles.pairs.map tileRow⟩, some ⟨.full, h.metadata.pairs.map metadataRow⟩, []⟩

/-- The holding to write, if it is not the one that is there. -/
def changed (h h' : Holding) : Option Holding := if h' = h then none else some h'

theorem tileRow_injective : Function.Injective tileRow := by
  rintro ⟨k, b⟩ ⟨k', b'⟩ h
  simpa [tileRow] using h

theorem metadataRow_injective : Function.Injective metadataRow := by
  rintro ⟨k, v⟩ ⟨k', v'⟩ h
  simpa [metadataRow] using h

theorem database_injective : Function.Injective database := by
  rintro ⟨t, m⟩ ⟨t', m'⟩ h
  simp only [database, Database.mk.injEq, Option.some.injEq, Table.mk.injEq, true_and, and_true] at h
  have ht := tileRow_injective.list_map h.1
  have hm := metadataRow_injective.list_map h.2
  rw [Ledger.ext_pairs ht, Ledger.ext_pairs hm]

theorem database_schema (h : Holding) : h.database.schema = Database.empty.schema := rfl

theorem changed_self (h : Holding) : h.changed h = none := if_pos rfl

theorem changed_of_ne {h h' : Holding} (hne : h' ≠ h) : h.changed h' = some h' := if_neg hne

theorem counted_database (n : Nat) (h h' : Holding) :
    Statement.counted n h.database h'.database = .ok ⟨n, (h.changed h').map database⟩ := by
  by_cases e : h' = h
  · subst e
    rw [Statement.counted, if_pos rfl, changed_self]
    rfl
  · rw [Statement.counted, if_neg (fun he => e (database_injective he)), changed_of_ne e]
    rfl

/-! ## Statements on tiles -/

theorem run_selectTile (h : Holding) (k : RowKey) :
    (Statement.selectTile k).run h.database = .ok ⟨(h.tiles.get? k).map Cell.blob, none⟩ := by
  have key : ∀ m : Ordered RowKey Blob,
      ((m.map tileRow).find? (fun r => decide (r.key = k))).map (·.data) =
        (m.get? k).map Cell.blob := by
    intro m
    induction m with
    | nil => rfl
    | cons e m ih =>
      obtain ⟨k', b⟩ := e
      by_cases hk : k' = k
      · simp [tileRow, Ordered.get?, hk]
      · simpa [tileRow, Ordered.get?, hk] using ih
  have hrows : h.database.tileRows = h.tiles.pairs.map tileRow := rfl
  simp only [Statement.selectTile, hrows, key]
  rfl

theorem countP_tileRows (h : Holding) (p : RowKey → Bool) :
    h.database.tileRows.countP (fun r => p r.key) = h.tiles.count p := by
  have hrows : h.database.tileRows = h.tiles.pairs.map tileRow := rfl
  rw [hrows, List.countP_map, Ledger.count, Ordered.keys, List.countP_map]
  rfl

theorem count_key (h : Holding) (k : RowKey) :
    h.tiles.count (fun k' => decide (k' = k)) = if h.tiles.has k then 1 else 0 := by
  rw [Ledger.count, Ordered.keys, List.countP_map]
  exact Ordered.countP_key k h.tiles.nodup

theorem filter_tileRows (h : Holding) (p : RowKey → Bool) :
    Statement.onTiles h.database (·.filter (fun r => !p r.key)) =
      database { h with tiles := h.tiles.discard p } := by
  simp only [Statement.onTiles, database, Option.map_some, Ledger.discard, List.filter_map]
  rfl

theorem run_updateTile (h : Holding) (k : RowKey) (b : Blob) :
    (Statement.updateTile k (.blob b)).run h.database =
      if h.tiles.has k then .ok ⟨1, (h.changed (h.putTile k b)).map database⟩ else .ok ⟨0, none⟩ := by
  have hmap : ∀ m : Ordered RowKey Blob,
      (m.map tileRow).map (fun r => if r.key = k then { r with data := .blob b } else r) =
        (m.map (fun e => if e.1 = k then (e.1, b) else e)).map tileRow := by
    intro m
    rw [List.map_map, List.map_map]
    apply List.map_congr_left
    rintro ⟨k', b'⟩ -
    by_cases hk : k' = k <;> simp [tileRow, hk]
  have hcount : h.database.tileRows.countP (fun r => decide (r.key = k)) =
      if h.tiles.has k then 1 else 0 := by
    rw [countP_tileRows h (fun k' => decide (k' = k)), count_key]
  have hafter : Statement.onTiles h.database
      (·.map (fun r => if r.key = k then { r with data := .blob b } else r)) =
        database (if h.tiles.has k then h.putTile k b else h) := by
    simp only [Statement.onTiles, database, Option.map_some, hmap]
    by_cases hk : h.tiles.has k = true
    · rw [Ordered.map_update b h.tiles.nodup (Ordered.has_iff_mem_keys.1 hk), if_pos hk]
      rfl
    · rw [Ordered.map_update_of_not_mem b (fun e => hk (Ordered.has_iff_mem_keys.2 e)), if_neg hk]
  have hrun : (Statement.updateTile k (.blob b)).run h.database =
      Statement.counted (if h.tiles.has k then 1 else 0) h.database
        (database (if h.tiles.has k then h.putTile k b else h)) := by
    rw [← hcount, ← hafter]
    rfl
  rw [hrun, counted_database]
  by_cases hk : h.tiles.has k = true
  · rw [if_pos hk, if_pos hk, if_pos hk]
  · rw [if_neg hk, if_neg hk, if_neg hk, changed_self]
    rfl

theorem run_insertTile {h : Holding} {k : RowKey} (b : Blob) (hk : h.tiles.has k = false) :
    (Statement.insertTile k (.blob b)).run h.database =
      .ok ⟨(), (some (h.putTile k b)).map database⟩ := by
  have hput : h.tiles.pairs.put k b = h.tiles.pairs ++ [(k, b)] := by
    apply Ordered.put_of_not_mem
    intro e
    have hk' : h.tiles.pairs.has k = false := hk
    rw [Ordered.has_iff_mem_keys.2 e] at hk'
    cases hk'
  have hafter : Statement.onTiles h.database (· ++ [⟨k, .blob b⟩]) = (h.putTile k b).database := by
    simp only [Statement.onTiles, database, Option.map_some, putTile, Ledger.put, hput, List.map_append]
    rfl
  have hguard : ¬ h.database.schema.tiles = some .guarded := by
    rw [database_schema]
    decide
  simp only [Statement.insertTile, if_neg hguard, hafter]
  rfl

theorem run_deleteTile (h : Holding) (k : RowKey) :
    (Statement.deleteTile k).run h.database =
      .ok ⟨if h.tiles.has k then 1 else 0, (h.changed (h.dropTile k)).map database⟩ := by
  have hcount := countP_tileRows h (fun k' => decide (k' = k))
  rw [count_key] at hcount
  have hafter := filter_tileRows h (fun k' => decide (k' = k))
  rw [← counted_database, ← hcount]
  change Statement.counted _ _ (Statement.onTiles h.database _) = _
  rw [hafter]
  rfl

theorem run_deleteGrid (h : Holding) (grid : String) :
    (Statement.deleteGrid grid).run h.database =
      .ok ⟨h.tiles.count (fun k => decide (k.grid = grid)),
        (h.changed (h.dropGrid grid)).map database⟩ := by
  have hcount := countP_tileRows h (fun k => decide (k.grid = grid))
  have hafter := filter_tileRows h (fun k => decide (k.grid = grid))
  rw [← counted_database, ← hcount]
  change Statement.counted _ _ (Statement.onTiles h.database _) = _
  rw [hafter]
  rfl

/-! ## Statements on metadata -/

theorem run_selectValue (h : Holding) (key : String) :
    (Statement.selectValue key).run h.database = .ok ⟨h.metadata.get? key, none⟩ := by
  have hfind : ∀ m : Ordered String String,
      (m.map metadataRow).find? (fun r => decide (r.key = .text key)) =
        (m.get? key).map (fun v => metadataRow (key, v)) := by
    intro m
    induction m with
    | nil => rfl
    | cons e m ih =>
      obtain ⟨k', v⟩ := e
      by_cases hk : k' = key
      · simp [metadataRow, Ordered.get?, hk]
      · simpa [metadataRow, Ordered.get?, hk] using ih
  have hrows : h.database.metadataRows = h.metadata.pairs.map metadataRow := rfl
  simp only [Statement.selectValue, hrows, hfind, Ledger.get?]
  cases h.metadata.pairs.get? key <;> rfl

/-- Keys and values as the rows show them. -/
def shownEntries (h : Holding) : List (Option String × Option String) :=
  h.metadata.pairs.map (fun e => (some e.1, some e.2))

theorem run_selectEntries (h : Holding) :
    Statement.selectEntries.run h.database = .ok ⟨h.shownEntries, none⟩ := by
  have hmap : ∀ m : Ordered String String,
      (m.map metadataRow).mapM (fun r => do
        let k ← Statement.readText "key" r.key
        let v ← Statement.readText "value" r.value
        return (k, v)) =
        (Except.ok (m.map (fun e => (some e.1, some e.2))) :
          Except DbFault (List (Option String × Option String))) := by
    intro m
    induction m with
    | nil => rfl
    | cons e m ih =>
      rw [List.map_cons, List.mapM_cons, ih]
      rfl
  have hrows : h.database.metadataRows = h.metadata.pairs.map metadataRow := rfl
  simp only [Statement.selectEntries, hrows, hmap]
  rfl

theorem ofPairs_shownEntries (h : Holding) : Ordered.ofPairs h.shownEntries = h.shownEntries := by
  apply Ordered.ofPairs_of_nodup
  have hkeys : Ordered.keys h.shownEntries = h.metadata.pairs.keys.map some := by
    rw [Ordered.keys, shownEntries, List.map_map, Ordered.keys, List.map_map]
    rfl
  rw [hkeys]
  exact h.metadata.nodup.map (fun _ _ e => Option.some.inj e)

theorem run_updateValue (h : Holding) (key value : String) :
    (Statement.updateValue key value).run h.database =
      if h.metadata.has key then .ok ⟨1, (h.changed (h.putValue key value)).map database⟩
      else .ok ⟨0, none⟩ := by
  have hmap : ∀ m : Ordered String String,
      (m.map metadataRow).map
          (fun r => if r.key = .text key then { r with value := .text value } else r) =
        (m.map (fun e => if e.1 = key then (e.1, value) else e)).map metadataRow := by
    intro m
    rw [List.map_map, List.map_map]
    apply List.map_congr_left
    rintro ⟨k', v'⟩ -
    by_cases hk : k' = key <;> simp [metadataRow, hk]
  have hcount : h.database.metadataRows.countP (fun r => decide (r.key = .text key)) =
      if h.metadata.has key then 1 else 0 := by
    have hrows : h.database.metadataRows = h.metadata.pairs.map metadataRow := rfl
    have hkey := Ordered.countP_key key h.metadata.nodup
    rw [hrows, List.countP_map]
    refine Eq.trans ?_ hkey
    apply List.countP_congr
    rintro ⟨k', v'⟩ -
    simp [metadataRow]
  have hafter : Statement.onMetadata h.database
      (·.map (fun r => if r.key = .text key then { r with value := .text value } else r)) =
        database (if h.metadata.has key then h.putValue key value else h) := by
    simp only [Statement.onMetadata, database, Option.map_some, hmap]
    by_cases hk : h.metadata.has key = true
    · rw [Ordered.map_update value h.metadata.nodup (Ordered.has_iff_mem_keys.1 hk), if_pos hk]
      rfl
    · rw [Ordered.map_update_of_not_mem value (fun e => hk (Ordered.has_iff_mem_keys.2 e)),
        if_neg hk]
  have hrun : (Statement.updateValue key value).run h.database =
      Statement.counted (if h.metadata.has key then 1 else 0) h.database
        (database (if h.metadata.has key then h.putValue key value else h)) := by
    rw [← hcount, ← hafter]
    rfl
  rw [hrun, counted_database]
  by_cases hk : h.metadata.has key = true
  · rw [if_pos hk, if_pos hk, if_pos hk]
  · rw [if_neg hk, if_neg hk, if_neg hk, changed_self]
    rfl

theorem run_insertValue {h : Holding} {key : String} (value : String)
    (hk : h.metadata.has key = false) :
    (Statement.insertValue (.text key) (.text value)).run h.database =
      .ok ⟨(), (some (h.putValue key value)).map database⟩ := by
  have hput : h.metadata.pairs.put key value = h.metadata.pairs ++ [(key, value)] := by
    apply Ordered.put_of_not_mem
    intro e
    have hk' : h.metadata.pairs.has key = false := hk
    rw [Ordered.has_iff_mem_keys.2 e] at hk'
    cases hk'
  have hafter : Statement.onMetadata h.database (· ++ [⟨.text key, .text value⟩]) =
      (h.putValue key value).database := by
    simp only [Statement.onMetadata, database, Option.map_some, putValue, Ledger.put, hput,
      List.map_append]
    rfl
  have hguard : ¬ h.database.schema.metadata = some .guarded := by
    rw [database_schema]
    decide
  simp only [Statement.insertValue, if_neg hguard, hafter]
  rfl

/-! ## What is left unchanged -/

theorem dropTile_eq_self {h : Holding} {k : RowKey} (hk : h.tiles.has k = false) :
    h.dropTile k = h := by
  rw [dropTile, Ledger.drop_eq_self hk]

theorem dropGrid_eq_self {h : Holding} {grid : String}
    (hg : h.tiles.count (fun k => decide (k.grid = grid)) = 0) : h.dropGrid grid = h := by
  rw [dropGrid, Ledger.discard_eq_self hg]

theorem putTile_ne_self {h : Holding} {k : RowKey} (b : Blob) (hk : h.tiles.has k = false) :
    h.putTile k b ≠ h :=
  fun e => Ledger.put_ne_self b hk (congrArg Holding.tiles e)

theorem putValue_ne_self {h : Holding} {key : String} (value : String)
    (hk : h.metadata.has key = false) : h.putValue key value ≠ h :=
  fun e => Ledger.put_ne_self value hk (congrArg Holding.metadata e)

end Holding

/-- What a store file holds: nothing, or what a layer holds. -/
inductive Volume where
  | blank
  | full (h : Holding)
  deriving DecidableEq

/-- The content of a file with a volume. -/
def Volume.content : Volume → Content
  | .blank => .raw .empty
  | .full h => .database h.database

end TileDepot
