import TileDepot.Proofs.Changes

/-!
# What operations make of tables

An operation that opens a layer revises one database, or leaves all of them as they are.
`Operation.revise` is what it makes of the rows, whatever they are.  The two operations that write do not
look for a key first; they change the rows that have it, and insert a row where the count of these was zero.
`upsert` says at once what this comes to.

The tables carry no unique index, so nothing here supposes that a key has one row.

* `Rewritten` states what is in the rows afterwards, and `upsert_rewritten` that it is.  `nodup_upsert` says
  that keys stay distinct.
* `Statement.Rowwise` states that a statement changes nothing but rows, and `Statement.Accepted` that neither
  its numbers nor the columns of its table keep it from being run.
-/

namespace TileDepot

/-! ## Changing rows or inserting one -/

section Upsert

variable {ρ κ : Type} {hit : ρ → Bool} {change : ρ → ρ} {new r : ρ} {rows : List ρ}

/-- The rows with those changed that a test hits, or with a new one behind them where it hits none. -/
def upsert (hit : ρ → Bool) (change : ρ → ρ) (new : ρ) (rows : List ρ) : List ρ :=
  if rows.countP hit = 0 then rows ++ [new] else rows.map (fun r => if hit r then change r else r)

theorem map_change_of_count (h : rows.countP hit = 0) :
    rows.map (fun r => if hit r then change r else r) = rows := by
  rw [List.countP_eq_zero] at h
  calc rows.map (fun r => if hit r then change r else r) = rows.map id :=
        List.map_congr_left fun r hr => if_neg (h r hr)
    _ = rows := List.map_id rows

theorem upsert_append (h : rows.countP hit = 0) : upsert hit change new rows = rows ++ [new] := if_pos h

theorem upsert_map (h : rows.countP hit ≠ 0) :
    upsert hit change new rows = rows.map (fun r => if hit r then change r else r) := if_neg h

/-- Changing rows, and inserting one if none was hit. -/
theorem upsert_eq : upsert hit change new rows =
    if rows.countP hit = 0 then rows.map (fun r => if hit r then change r else r) ++ [new]
    else rows.map (fun r => if hit r then change r else r) := by
  by_cases h : rows.countP hit = 0
  · rw [upsert_append h, if_pos h, map_change_of_count h]
  · rw [upsert_map h, if_neg h]

/-- The rows that are hit are as many as before, or there is one now. -/
theorem countP_upsert (hkeep : ∀ r, hit (change r) = hit r) (hnew : hit new = true) :
    (upsert hit change new rows).countP hit = max 1 (rows.countP hit) := by
  by_cases hzero : rows.countP hit = 0
  · rw [upsert_append hzero, List.countP_append, List.countP_singleton, if_pos hnew, hzero]
    rfl
  · have hsame : (hit ∘ fun r => if hit r then change r else r) = hit := by
      funext r
      rw [Function.comp_apply]
      split
      · exact hkeep r
      · rfl
    rw [upsert_map hzero, List.countP_map, hsame]
    omega

/-- All other rows are what they were, in the same order. -/
theorem filter_upsert (hkeep : ∀ r, hit (change r) = hit r) (hnew : hit new = true) :
    (upsert hit change new rows).filter (fun r => !hit r) = rows.filter (fun r => !hit r) := by
  by_cases hzero : rows.countP hit = 0
  · rw [upsert_append hzero, List.filter_append, List.filter_cons_of_neg (by simp [hnew]),
      List.filter_nil, List.append_nil]
  · rw [upsert_map hzero]
    clear hzero
    induction rows with
    | nil => rfl
    | cons r rows ih =>
      rw [List.map_cons]
      by_cases hr : hit r = true
      · rw [if_pos hr, List.filter_cons_of_neg (by simp [hkeep, hr]),
          List.filter_cons_of_neg (by simp [hr]), ih]
      · rw [if_neg hr, List.filter_cons_of_pos (by simp [hr]), List.filter_cons_of_pos (by simp [hr]), ih]

/-- A row that is hit is the new one or a changed one. -/
theorem mem_upsert (hr : r ∈ upsert hit change new rows) (hhit : hit r = true) :
    r = new ∨ ∃ old, r = change old := by
  by_cases hzero : rows.countP hit = 0
  · rw [upsert_append hzero, List.mem_append, List.mem_singleton] at hr
    rw [List.countP_eq_zero] at hzero
    exact .inl (hr.resolve_left fun hold => hzero r hold hhit)
  · rw [upsert_map hzero] at hr
    obtain ⟨old, -, rfl⟩ := List.mem_map.1 hr
    by_cases hold : hit old = true
    · exact .inr ⟨old, if_pos hold⟩
    · rw [if_neg hold] at hhit
      exact absurd hhit hold

/-- What becomes of rows when those that a test hits are rewritten, or one is added that it hits. -/
structure Rewritten (hit : ρ → Bool) (fine : ρ → Prop) (rows after : List ρ) : Prop where
  count : after.countP hit = max 1 (rows.countP hit)
  fine : ∀ r ∈ after, hit r = true → fine r
  others : after.filter (fun r => !hit r) = rows.filter (fun r => !hit r)

theorem upsert_rewritten {fine : ρ → Prop} (hkeep : ∀ r, hit (change r) = hit r) (hnew : hit new = true)
    (hfine : fine new) (hchange : ∀ r, fine (change r)) (rows : List ρ) :
    Rewritten hit fine rows (upsert hit change new rows) where
  count := countP_upsert hkeep hnew
  fine := by
    intro r hr hhit
    rcases mem_upsert hr hhit with rfl | ⟨old, rfl⟩
    · exact hfine
    · exact hchange old
  others := filter_upsert hkeep hnew

theorem Rewritten.reverse {fine : ρ → Prop} {after : List ρ} (h : Rewritten hit fine rows after) :
    Rewritten hit fine rows.reverse after.reverse where
  count := by rw [List.countP_reverse, List.countP_reverse, h.count]
  fine := fun r hr => h.fine r (List.mem_reverse.1 hr)
  others := by rw [List.filter_reverse, List.filter_reverse, h.others]

/-- The first row that the test hits is fine. -/
theorem Rewritten.found {fine : ρ → Prop} {after : List ρ} (h : Rewritten hit fine rows after) :
    ∃ r, after.find? hit = some r ∧ fine r := by
  have hpos : 0 < after.countP hit := by
    rw [h.count]
    omega
  obtain ⟨r, hr, hhit⟩ := List.countP_pos_iff.1 hpos
  cases hfound : after.find? hit with
  | none => exact absurd hhit (List.find?_eq_none.1 hfound r hr)
  | some r' => exact ⟨r', rfl, h.fine r' (List.mem_of_find?_eq_some hfound) (List.find?_some hfound)⟩

/-- Where every key has one row it still has. -/
theorem nodup_upsert [DecidableEq κ] {key : ρ → κ} (hhit : ∀ r, hit r = decide (key r = key new))
    (hkeep : ∀ r, key (change r) = key r) (h : (rows.map key).Nodup) :
    ((upsert hit change new rows).map key).Nodup := by
  by_cases hzero : rows.countP hit = 0
  · rw [upsert_append hzero, List.map_append, List.map_singleton, List.nodup_append]
    refine ⟨h, List.nodup_singleton _, fun a ha b hb => ?_⟩
    rw [List.mem_singleton] at hb
    subst hb
    obtain ⟨r, hr, rfl⟩ := List.mem_map.1 ha
    rw [List.countP_eq_zero] at hzero
    have hnot := hzero r hr
    rw [hhit, decide_eq_true_eq] at hnot
    exact hnot
  · have hsame : (key ∘ fun r => if hit r then change r else r) = key := by
      funext r
      rw [Function.comp_apply]
      split
      · exact hkeep r
      · rfl
    rw [upsert_map hzero, List.map_map, hsame]
    exact h

end Upsert

/-! ## Databases -/

namespace Statement

theorem onTiles_congr {db : Database} {f g : List TileRow → List TileRow}
    (h : f db.tileRows = g db.tileRows) : onTiles db f = onTiles db g := by
  obtain ⟨_ | t, metadata, others⟩ := db
  · rfl
  · have h' : f t.rows = g t.rows := h
    simp only [onTiles, Option.map_some, h']

theorem onMetadata_congr {db : Database} {f g : List MetadataRow → List MetadataRow}
    (h : f db.metadataRows = g db.metadataRows) : onMetadata db f = onMetadata db g := by
  obtain ⟨tiles, _ | t, others⟩ := db
  · rfl
  · have h' : f t.rows = g t.rows := h
    simp only [onMetadata, Option.map_some, h']

/-- What a counting statement leaves is what it makes, also where it writes nothing. -/
theorem counted_after {n : Nat} {before made : Database} {a : Nat} {after : Option Database}
    (h : counted n before made = .ok ⟨a, after⟩) : a = n ∧ after.getD before = made := by
  simp only [counted, Except.ok.injEq, Effect.mk.injEq] at h
  obtain ⟨rfl, rfl⟩ := h
  refine ⟨rfl, ?_⟩
  split
  · rename_i he
    exact he.symm
  · rfl

theorem onTiles_schema (db : Database) (f : List TileRow → List TileRow) :
    (onTiles db f).schema = db.schema := by
  obtain ⟨_ | t, metadata, others⟩ := db <;> rfl

theorem onMetadata_schema (db : Database) (f : List MetadataRow → List MetadataRow) :
    (onMetadata db f).schema = db.schema := by
  obtain ⟨tiles, _ | t, others⟩ := db <;> rfl

theorem onTiles_onTiles (db : Database) (f g : List TileRow → List TileRow) :
    onTiles (onTiles db f) g = onTiles db (fun rows => g (f rows)) := by
  obtain ⟨_ | t, metadata, others⟩ := db <;> rfl

theorem onMetadata_onMetadata (db : Database) (f g : List MetadataRow → List MetadataRow) :
    onMetadata (onMetadata db f) g = onMetadata db (fun rows => g (f rows)) := by
  obtain ⟨tiles, _ | t, others⟩ := db <;> rfl

/-- A statement that changes nothing but rows, and these in a transaction only. -/
structure Rowwise {α : Type} (st : Statement α) : Prop where
  quiet : st.form.changesRows = false → ∀ {db e}, st.run db = .ok e → e.after = none
  schema : ∀ {db a after}, st.run db = .ok ⟨a, some after⟩ → after.schema = db.schema

/-- Neither its numbers nor the columns of its table keep a statement from being run. -/
structure Accepted {α : Type} (st : Statement α) : Prop where
  check : ∀ shape, shape ≠ .keyOnly → st.check shape = .ok ()
  bind : st.bind = .ok ()

/-- A statement that only looks. -/
theorem Mild.rowwise {α : Type} {st : Statement α} (h : st.Mild) (hform : st.form.changesRows = false) :
    st.Rowwise where
  quiet := h.quiet
  schema := fun hr => absurd (h.quiet hform hr) (Option.some_ne_none _)

/-- A statement that counts the rows it matches. -/
theorem Rowwise.of_counted {st : Statement Nat} {n : Database → Nat} {made : Database → Database}
    (hform : st.form.changesRows = true) (hrun : ∀ db, st.run db = counted (n db) db (made db))
    (hmade : ∀ db, (made db).schema = db.schema) : st.Rowwise where
  quiet := fun hno => by
    rw [hform] at hno
    cases hno
  schema := by
    intro db a after hr
    rw [hrun] at hr
    rw [after_counted hr rfl, hmade]

theorem accepted_unlessKeyOnly {f : DbFault} (shape : Shape) (h : shape ≠ .keyOnly) :
    unlessKeyOnly f shape = .ok () := by
  cases shape with
  | keyOnly => exact absurd rfl h
  | full | guarded => rfl

theorem rowwise_insertTile (k : RowKey) (data : Cell) : (insertTile k data).Rowwise where
  quiet := nofun
  schema := by
    intro db a after hr
    simp only [insertTile] at hr
    split at hr
    · cases hr
    · cases hr
      exact onTiles_schema db _

theorem rowwise_insertValue (key value : TextCell) : (insertValue key value).Rowwise where
  quiet := nofun
  schema := by
    intro db a after hr
    simp only [insertValue] at hr
    split at hr
    · cases hr
    · cases hr
      exact onMetadata_schema db _

end Statement

namespace Store

open Statement

/-- The rows of tiles with a blob under a key. -/
def withTile (k : RowKey) (b : Blob) : List TileRow → List TileRow :=
  upsert (fun r => decide (r.key = k)) (fun r => { r with data := .blob b }) ⟨k, .blob b⟩

/-- The rows of metadata with a value under a key. -/
def withValue (key value : String) : List MetadataRow → List MetadataRow :=
  upsert (fun r => decide (r.key = .text key)) (fun r => { r with value := .text value })
    ⟨.text key, .text value⟩

/-- What an operation makes of the database of its layer. -/
def Operation.revise : Operation → Database → Database
  | .putTile key blob, db => onTiles db (withTile key.row blob)
  | .deleteTile key, db => onTiles db (·.filter (fun r => !decide (r.key = key.row)))
  | .deleteGridset _ grid, db => onTiles db (·.filter (fun r => !decide (r.key.grid = grid)))
  | .putMetadata _ key value, db => onMetadata db (withValue key value)
  | _, db => db

end Store

end TileDepot
