import Mathlib.Logic.Function.Basic
import TileDepot.Proofs.FileNames
import TileDepot.Proofs.Holding
import TileDepot.Store.Operation

/-!
# What the files of a store come to

`Shelves` say which volume every safe name has, if it has a file at all; file numbers, handles and the
log are gone.  `Shelves.perform` says what each operation answers, which shelves it leaves and which
events it announces.  This is all that an operation does, down to the wording of its faults, and it
depends on nothing but the shelves.

A name has `Room` for a file if the file system takes the name, and ample room if it takes the name of
the journal as well.  Where room is scarce, a file can be made but not changed: a new one stays blank,
and what a database leaves beside it cannot be taken away.  So an operation that removes or renames
such a file fails after the file is gone, and announces nothing.

* `lend` says what comes of opening a layer, and `visit` of working on what it holds.
* `lend_ok` says that an opened layer has its holding on its shelf and every other shelf is as before.
-/

namespace TileDepot

/-- How much room the file system has for the file of a safe name. -/
inductive Room where
  | ample
  | scarce
  | lacking
  deriving DecidableEq

/-- The room for the file of a safe name. -/
def StoreConfig.room (c : StoreConfig) (f : String) : Room :=
  if Disk.maxName < (f ++ c.extension).utf8ByteSize then .lacking
  else if Disk.maxName < (f ++ c.extension ++ "-journal").utf8ByteSize then .scarce
  else .ample

namespace Store

deriving instance DecidableEq for TileRecord, Answer

/-- An answer without the time of the file that it came from. -/
def Answer.bare : Answer → Answer
  | .tile (some r) => .tile (some { r with modified := none })
  | a => a

/-- What an operation does to a layer's holding: what its errors are labelled with, its layer, the
answer with the holding afterwards and the events, and what a forgiving store answers instead of an
error of its own. -/
structure Task where
  label : String
  layer : String
  work : Holding → Except DbFault (Answer × Holding × List Event)
  fallback : Option Answer

/-- Work on a tile, whose coordinates the table has to be able to keep. -/
def onTile (k : RowKey) (result : Answer × Holding × List Event) :
    Except DbFault (Answer × Holding × List Event) :=
  if k.fits then .ok result else .error .integerTooLarge

theorem onTile_ok {k : RowKey} {x y : Answer × Holding × List Event} (h : onTile k x = .ok y) : x = y := by
  rw [onTile] at h
  split at h
  · rw [Except.ok.injEq] at h
    exact h
  · cases h

/-- The task of an operation that works on what one layer holds. -/
def Operation.task? : Operation → Option Task
  | .getTile key => some
      { label := "get"
        layer := key.layer
        work := fun h =>
          onTile key.row (.tile ((h.tiles.get? key.row).map (fun b => ⟨key, b, none⟩)), h, [])
        fallback := none }
  | .putTile key blob => some
      { label := "put"
        layer := key.layer
        work := fun h => onTile key.row (.done, h.putTile key.row blob, [.tileStored key blob.size])
        fallback := none }
  | .deleteTile key => some
      { label := "delete"
        layer := key.layer
        work := fun h =>
          onTile key.row (.flag (h.tiles.has key.row), h.dropTile key.row,
            if h.tiles.has key.row then [.tileDeleted key] else [])
        fallback := none }
  | .deleteGridset layer grid => some
      { label := "delete_by_gridset"
        layer := layer
        work := fun h =>
          let n := h.tiles.count (fun k => decide (k.grid = grid))
          .ok (.count n, h.dropGrid grid, if n = 0 then [] else [.gridsetDeleted layer grid])
        fallback := none }
  | .getMetadata layer key => some
      { label := "get_metadata"
        layer := layer
        work := fun h => .ok (.value (h.metadata.get? key), h, [])
        fallback := some (.value none) }
  | .putMetadata layer key value => some
      { label := "put_metadata"
        layer := layer
        work := fun h => .ok (.done, h.putValue key value, [])
        fallback := none }
  | .allMetadata layer => some
      { label := "get_metadata"
        layer := layer
        work := fun h => .ok (.pairs h.shownEntries, h, [])
        fallback := some (.pairs []) }
  | .metadataEntries layer => some
      { label := "get_metadata"
        layer := layer
        work := fun h => .ok (.entries layer h.shownEntries, h, [])
        fallback := some (.entries layer []) }
  | .deleteRange _ | .clear | .layerExists _ | .deleteLayer _ | .renameLayer .. | .destroy => none

/-- The operations that work on no layer's holding. -/
inductive Operation.Whole : Operation → Prop
  | layerExists (layer : String) : Whole (.layerExists layer)
  | deleteLayer (layer : String) : Whole (.deleteLayer layer)
  | renameLayer (source target : String) : Whole (.renameLayer source target)
  | deleteRange (range : TileRange) : Whole (.deleteRange range)
  | clear : Whole .clear
  | destroy : Whole .destroy

theorem Operation.whole_of_task {o : Operation} (h : o.task? = none) : o.Whole := by
  cases o with
  | layerExists layer => exact .layerExists layer
  | deleteLayer layer => exact .deleteLayer layer
  | renameLayer source target => exact .renameLayer source target
  | deleteRange range => exact .deleteRange range
  | clear => exact .clear
  | destroy => exact .destroy
  | getTile key => cases h
  | putTile key blob => cases h
  | deleteTile key => cases h
  | deleteGridset layer grid => cases h
  | getMetadata layer key => cases h
  | putMetadata layer key value => cases h
  | allMetadata layer => cases h
  | metadataEntries layer => cases h

end Store

/-- The volume of every safe name that has a file. -/
abbrev Shelves := String → Option Volume

namespace Shelves

open Store Layer

/-- What a name that is too long for the file system leads to. -/
def longName (c : StoreConfig) (n : String) : OsFault := ⟨.nameTooLong, (c.root.child n).toString, none⟩

/-- Open the file of a layer, or make it: what it holds, or why it cannot be used, and the shelves
afterwards. -/
def lend (c : StoreConfig) (name : String) (A : Shelves) : Except Fault Holding × Shelves :=
  if name = "" then (.error .emptyName, A)
  else
    match A (safe name), c.room (safe name) with
    | _, .lacking => (.error (.os (longName c (safe name ++ c.extension))), A)
    | some (.full h), _ => (.ok h, A)
    | some .blank, _ =>
        (.error (.store ⟨.tablesMissing (safe name ++ c.extension) [.metadata, .tiles], some name,
          "open"⟩), A)
    | none, .ample => (.ok .empty, Function.update A (safe name) (some (.full .empty)))
    | none, .scarce =>
        (.error (.store ⟨.schemaNotMade (safe name ++ c.extension) .cannotOpen, some name, "create"⟩),
          Function.update A (safe name) (some .blank))

/-- Do the work of a task on what its layer holds.  A holding can be changed only where there is ample
room. -/
def carryOut (c : StoreConfig) (t : Task) (A : Shelves) : Except Fault Answer × Shelves × List Event :=
  match A.lend c t.layer with
  | (.error f, A) => (.error f, A, [])
  | (.ok h, A) =>
      match t.work h with
      | .error f => (.error (.store ⟨.statement f, some t.layer, t.label⟩), A, [])
      | .ok (a, h', events) =>
          if h' = h ∨ c.room (safe t.layer) = .ample then
            (.ok a, Function.update A (safe t.layer) (some (.full h')), events)
          else (.error (.store ⟨.statement .cannotOpen, some t.layer, t.label⟩), A, [])

/-- An outcome as a forgiving store gives it. -/
def forgive (c : StoreConfig) (fallback : Option Answer) : Except Fault Answer → Except Fault Answer
  | .error (.store e) =>
      match c.forgiving, fallback with
      | true, some a => .ok a
      | _, _ => .error (.store e)
  | r => r

/-- Carry a task out, and forgive its failure where that is wanted. -/
def visit (c : StoreConfig) (t : Task) (A : Shelves) : Except Fault Answer × Shelves × List Event :=
  let (r, A, events) := A.carryOut c t
  (forgive c t.fallback r, A, events)

/-- What is left to answer when a file is gone: what lies beside it has to be taken away. -/
def afterwards (c : StoreConfig) (f : String) (A : Shelves) (event : Event) :
    Except Fault Answer × Shelves × List Event :=
  if c.room f = .scarce then (.error (.os (longName c (f ++ c.extension ++ "-journal"))), A, [])
  else (.ok (.flag true), A, [event])

/-- Whether a layer has a file. -/
def layerExists (c : StoreConfig) (layer : String) (A : Shelves) : Except Fault Answer :=
  if layer = "" then .error .emptyName
  else if c.room (safe layer) = .lacking then
    .error (.os (longName c (safe layer ++ c.extension)))
  else .ok (.flag (A (safe layer)).isSome)

/-- Remove the file of a layer. -/
def deleteLayer (c : StoreConfig) (layer : String) (A : Shelves) :
    Except Fault Answer × Shelves × List Event :=
  if layer = "" then (.error .emptyName, A, [])
  else if c.room (safe layer) = .lacking then
    (.error (.store ⟨.notRemoved (c.pathOf (safe layer)).toString
      (longName c (safe layer ++ c.extension)), some layer, "delete_layer"⟩), A, [])
  else if A (safe layer) = none then (.ok (.flag false), A, [])
  else afterwards c (safe layer) (Function.update A (safe layer) none) (.layerDeleted layer)

/-- Give the file of a layer the name of another. -/
def renameLayer (c : StoreConfig) (source target : String) (A : Shelves) :
    Except Fault Answer × Shelves × List Event :=
  if source = "" ∨ target = "" then (.error .emptyName, A, [])
  else if safe source = safe target then (.ok (.flag true), A, [])
  else if c.room (safe target) = .lacking then
    (.error (.os (longName c (safe target ++ c.extension))), A, [])
  else if A (safe target) ≠ none then
    (.error (.store ⟨.targetTaken source target, some target, "rename"⟩), A, [])
  else if c.room (safe source) = .lacking then
    (.error (.os (longName c (safe source ++ c.extension))), A, [])
  else if A (safe source) = none then (.ok (.flag true), A, [])
  else
    afterwards c (safe source)
      (Function.update (Function.update A (safe target) (A (safe source))) (safe source) none)
      (.layerRenamed source target)

/-- Carry an operation out: its outcome, the shelves afterwards and what it announces. -/
def perform (c : StoreConfig) (o : Operation) (A : Shelves) :
    Except Fault Answer × Shelves × List Event :=
  match o.task? with
  | some t => A.visit c t
  | none =>
      match o with
      | .layerExists layer => (A.layerExists c layer, A, [])
      | .deleteLayer layer => A.deleteLayer c layer
      | .renameLayer source target => A.renameLayer c source target
      | .deleteRange range =>
          (.error (.store ⟨.rangesUnsupported, some range.layer, "delete_range"⟩), A, [])
      | .clear => (.error (.store ⟨.clearUnsupported, none, "clear"⟩), A, [])
      | _ => (.ok .done, A, [])

/-- An operation with a task does its task. -/
theorem perform_of_task {c : StoreConfig} {A : Shelves} {o : Operation} {t : Task} (h : o.task? = some t) :
    A.perform c o = A.visit c t := by
  unfold perform
  rw [h]

/-- There is nothing to forgive where no other answer is prepared. -/
theorem forgive_none {c : StoreConfig} (r : Except Fault Answer) : forgive c none r = r := by
  cases r with
  | ok a => rfl
  | error f =>
    cases f with
    | store e => cases h : c.forgiving <;> simp only [forgive, h]
    | _ => rfl

theorem visit_unforgiven {c : StoreConfig} {A : Shelves} {t : Task} (h : t.fallback = none) :
    A.visit c t = A.carryOut c t := by
  have hvisit : A.visit c t = (forgive c t.fallback (A.carryOut c t).1, (A.carryOut c t).2) := rfl
  rw [hvisit, h, forgive_none]

theorem afterwards_shelves (c : StoreConfig) (f : String) (A : Shelves) (event : Event) :
    (afterwards c f A event).2.1 = A := by
  rw [afterwards]
  split <;> rfl

/-! ## Opening a layer -/

section Lend

variable {c : StoreConfig} {name : String} {A : Shelves}

theorem lend_empty : A.lend c "" = (.error .emptyName, A) := if_pos rfl

theorem lend_lacking (hn : name ≠ "") (hr : c.room (safe name) = .lacking) :
    A.lend c name = (.error (.os (longName c (safe name ++ c.extension))), A) := by
  simp only [lend, if_neg hn, hr]

theorem lend_full {h : Holding} (hn : name ≠ "") (hr : c.room (safe name) ≠ .lacking)
    (hA : A (safe name) = some (.full h)) : A.lend c name = (.ok h, A) := by
  cases hroom : c.room (safe name) with
  | lacking => exact absurd hroom hr
  | ample => simp only [lend, if_neg hn, hA, hroom]
  | scarce => simp only [lend, if_neg hn, hA, hroom]

theorem lend_blank (hn : name ≠ "") (hr : c.room (safe name) ≠ .lacking)
    (hA : A (safe name) = some .blank) :
    A.lend c name = (.error (.store ⟨.tablesMissing (safe name ++ c.extension) [.metadata, .tiles],
      some name, "open"⟩), A) := by
  cases hroom : c.room (safe name) with
  | lacking => exact absurd hroom hr
  | ample => simp only [lend, if_neg hn, hA, hroom]
  | scarce => simp only [lend, if_neg hn, hA, hroom]

theorem lend_new (hn : name ≠ "") (hr : c.room (safe name) = .ample) (hA : A (safe name) = none) :
    A.lend c name = (.ok .empty, Function.update A (safe name) (some (.full .empty))) := by
  simp only [lend, if_neg hn, hA, hr]

theorem lend_scarce (hn : name ≠ "") (hr : c.room (safe name) = .scarce) (hA : A (safe name) = none) :
    A.lend c name = (.error (.store ⟨.schemaNotMade (safe name ++ c.extension) .cannotOpen, some name,
      "create"⟩), Function.update A (safe name) (some .blank)) := by
  simp only [lend, if_neg hn, hA, hr]

/-- What opening a layer says of the shelves: where it succeeds, the layer's holding is on its shelf,
and every other shelf is as before. -/
theorem lend_ok {h : Holding} {B : Shelves} (hl : A.lend c name = (.ok h, B)) :
    name ≠ "" ∧ c.room (safe name) ≠ .lacking ∧ B (safe name) = some (.full h) ∧
      ∀ f, f ≠ safe name → B f = A f := by
  have hn : name ≠ "" := by
    rintro rfl
    rw [lend_empty] at hl
    cases hl
  have hr : c.room (safe name) ≠ .lacking := by
    intro hr
    rw [lend_lacking hn hr] at hl
    cases hl
  refine ⟨hn, hr, ?_⟩
  cases hA : A (safe name) with
  | none =>
    cases hroom : c.room (safe name) with
    | lacking => exact absurd hroom hr
    | scarce =>
      rw [lend_scarce hn hroom hA] at hl
      cases hl
    | ample =>
      rw [lend_new hn hroom hA] at hl
      cases hl
      exact ⟨Function.update_self .., fun f hf => Function.update_of_ne hf ..⟩
  | some v =>
    cases v with
    | blank =>
      rw [lend_blank hn hr hA] at hl
      cases hl
    | full h' =>
      rw [lend_full hn hr hA] at hl
      cases hl
      exact ⟨hA, fun f _ => rfl⟩

/-- Opening a layer leaves it with a file, if the file system takes its name. -/
theorem lend_ne_none (hn : name ≠ "") (hr : c.room (safe name) ≠ .lacking) :
    (A.lend c name).2 (safe name) ≠ none := by
  cases hA : A (safe name) with
  | none =>
    cases hroom : c.room (safe name) with
    | lacking => exact absurd hroom hr
    | ample =>
      rw [lend_new hn hroom hA]
      dsimp only
      rw [Function.update_self]
      exact Option.some_ne_none _
    | scarce =>
      rw [lend_scarce hn hroom hA]
      dsimp only
      rw [Function.update_self]
      exact Option.some_ne_none _
  | some v =>
    cases v with
    | blank =>
      rw [lend_blank hn hr hA]
      dsimp only
      rw [hA]
      exact Option.some_ne_none _
    | full h =>
      rw [lend_full hn hr hA]
      dsimp only
      rw [hA]
      exact Option.some_ne_none _

/-- A layer that was opened can be opened again. -/
theorem lend_again {h : Holding} {B : Shelves} (hl : A.lend c name = (.ok h, B)) :
    B.lend c name = (.ok h, B) :=
  have hB := lend_ok hl
  lend_full hB.1 hB.2.1 hB.2.2.1

end Lend

/-! ## Carrying a task out -/

/-- What carrying a task out comes to: it fails and leaves what lending leaves, or it leaves what its
work on the holding leaves. -/
inductive Carried (c : StoreConfig) (t : Task) (A : Shelves) :
    Except Fault Answer × Shelves × List Event → Prop
  | failed {f : Fault} {B : Shelves} : (A.lend c t.layer).2 = B → Carried c t A (.error f, B, [])
  | done {h h' : Holding} {B : Shelves} {a : Answer} {events : List Event} :
      A.lend c t.layer = (.ok h, B) → t.work h = .ok (a, h', events) →
      Carried c t A (.ok a, Function.update B (safe t.layer) (some (.full h')), events)

theorem carryOut_carried (c : StoreConfig) (t : Task) (A : Shelves) : Carried c t A (A.carryOut c t) := by
  rcases hl : A.lend c t.layer with ⟨r, B⟩
  have hB : (A.lend c t.layer).2 = B := by rw [hl]
  rw [carryOut, hl]
  cases r with
  | error f => exact .failed hB
  | ok h =>
    cases hw : t.work h with
    | error f =>
      simp only [hw]
      exact .failed hB
    | ok result =>
      obtain ⟨a, h', events⟩ := result
      simp only [hw]
      split
      · exact .done hl hw
      · exact .failed hB

/-- After a visit to a layer it has a file, if the file system takes its name. -/
theorem visit_ne_none {c : StoreConfig} {t : Task} {A : Shelves} (hn : t.layer ≠ "")
    (hr : c.room (safe t.layer) ≠ .lacking) : (A.visit c t).2.1 (safe t.layer) ≠ none := by
  have hcarried := carryOut_carried c t A
  have hvisit : (A.visit c t).2.1 = (A.carryOut c t).2.1 := rfl
  rw [hvisit]
  generalize A.carryOut c t = r at hcarried
  cases hcarried with
  | failed hB =>
    rw [← hB]
    exact lend_ne_none hn hr
  | done hl hw =>
    dsimp only
    rw [Function.update_self]
    exact Option.some_ne_none _

end Shelves

end TileDepot
