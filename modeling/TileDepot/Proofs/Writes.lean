import TileDepot.Proofs.Inventory

/-!
# Writes

A `Write` puts a tile or a value of metadata.  It goes to an address, which is a file and a key of one of
its two tables, and leaves a row there.  What it comes to depends on nothing but the volume of its file, and
it matters little which volume that is: writes fill a new file, or leave it blank for want of room, or
replace what it holds, and none of this changes what another write comes to.

* `perform_write` says what a write does to shelves.
* `verdict_write` says that a write does not change what another one comes to.
* `row?_write` says that a write changes no row but its own, and `row?_writeAll` that the last write to an
  address is the one that counts.
-/

namespace TileDepot

open Layer Store

/-- A call that puts a tile, or a value of metadata. -/
inductive Write where
  | tile (key : TileKey) (blob : Blob)
  | value (layer key text : String)
  deriving DecidableEq

/-- A file and a key of its table of tiles or of its table of metadata. -/
inductive Address where
  | tile (file : String) (row : RowKey)
  | value (file : String) (key : TextCell)
  deriving DecidableEq

/-- A row of one of the two tables. -/
inductive Row where
  | tile (row : TileRow)
  | value (row : MetadataRow)
  deriving DecidableEq

/-- The file of an address. -/
def Address.file : Address → String
  | .tile file _ | .value file _ => file

namespace Write

/-- The operation of a write. -/
def operation : Write → Operation
  | .tile key blob => .putTile key blob
  | .value layer key text => .putMetadata layer key text

/-- The layer that a write is about. -/
def layer : Write → String
  | .tile key _ => key.layer
  | .value layer _ _ => layer

/-- The safe name of the layer that a write is about. -/
def file (w : Write) : String := safe w.layer

/-- Where a write goes. -/
def address (w : Write) : Address :=
  match w with
  | .tile key _ => .tile w.file key.row
  | .value _ key _ => .value w.file (.text key)

/-- What a write leaves at its address. -/
def row : Write → Row
  | .tile key blob => .tile ⟨key.row, .blob blob⟩
  | .value _ key text => .value ⟨.text key, .text text⟩

/-- Whether the tables can keep the numbers of a write. -/
def fits : Write → Bool
  | .tile key _ => key.row.fits
  | .value .. => true

/-- What a write makes of a holding. -/
def put : Write → Holding → Holding
  | .tile key blob, h => h.putTile key.row blob
  | .value _ key text, h => h.putValue key text

/-- What a write announces. -/
def events : Write → List Event
  | .tile key blob => [.tileStored key blob.size]
  | .value .. => []

/-- The task of a write. -/
theorem operation_task (w : Write) : ∃ t, w.operation.task? = some t ∧ t.layer = w.layer ∧
    t.fallback = none ∧ ∀ h, t.work h =
      if w.fits then .ok (.done, w.put h, w.events) else .error .integerTooLarge := by
  cases w with
  | tile key blob => exact ⟨_, rfl, rfl, rfl, fun h => rfl⟩
  | value layer key text => exact ⟨_, rfl, rfl, rfl, fun h => rfl⟩

theorem address_file (w : Write) : w.address.file = w.file := by
  cases w <;> rfl

/-! ## What a write comes to -/

/-- What a write comes to, given the volume of its file. -/
def verdict (c : StoreConfig) (w : Write) (v : Option Volume) : Except FaultKind Answer :=
  if w.layer = "" then .error .value
  else
    match c.room w.file with
    | .lacking => .error .system
    | .scarce =>
        match v with
        | some (.full h) => if w.fits = true ∧ w.put h = h then .ok .done else .error (.store .query)
        | _ => .error (.store .schema)
    | .ample =>
        match v with
        | some .blank => .error (.store .schema)
        | _ => if w.fits then .ok .done else .error (.store .query)

/-- The volume that a write leaves of the one of its file. -/
def leaves (c : StoreConfig) (w : Write) (v : Option Volume) : Option Volume :=
  if w.layer = "" then v
  else
    match c.room w.file with
    | .lacking => v
    | .scarce => some (v.getD .blank)
    | .ample =>
        match v.getD (.full .empty) with
        | .blank => some .blank
        | .full h => some (.full (if w.fits then w.put h else h))

end Write

namespace Shelves

variable {c : StoreConfig} {A : Shelves} {w : Write}

/-- A write whose layer cannot be opened. -/
theorem perform_refused {f : Fault} {B : Shelves} (hl : A.lend c w.layer = (.error f, B)) :
    A.perform c w.operation = (.error f, B, []) := by
  obtain ⟨t, ht, hlayer, hfallback, -⟩ := w.operation_task
  rw [perform_of_task ht, visit_unforgiven hfallback, carryOut, hlayer, hl]

/-- Where a layer was opened, its holding was put on its shelf, if it was not there. -/
theorem lend_update {name : String} {h : Holding} {B : Shelves} (hl : A.lend c name = (.ok h, B)) :
    B = Function.update A (safe name) (some (.full h)) := by
  obtain ⟨-, -, hself, hother⟩ := lend_ok hl
  funext f
  by_cases hf : f = safe name
  · rw [hf, Function.update_self, hself]
  · rw [Function.update_of_ne hf, hother f hf]

/-- What is seen of an outcome, the shelves afterwards and what is announced. -/
def viewed (r : Except Fault Answer × Shelves × List Event) :
    Except FaultKind Answer × Shelves × List Event :=
  (seen r.1, r.2.1, r.2.2)

/-- A write whose layer is open. -/
theorem perform_opened {h : Holding} {B : Shelves} (hl : A.lend c w.layer = (.ok h, B)) :
    viewed (A.perform c w.operation) =
      if w.fits = true ∧ (w.put h = h ∨ c.room w.file = .ample) then
        (.ok .done, Function.update A w.file (some (.full (w.put h))), w.events)
      else (.error (.store .query), Function.update A w.file (some (.full h)), []) := by
  obtain ⟨t, ht, hlayer, hfallback, hwork⟩ := w.operation_task
  have hB : B = Function.update A w.file (some (.full h)) := lend_update hl
  rw [perform_of_task ht, visit_unforgiven hfallback, carryOut, hlayer, hl]
  simp only [hwork]
  cases hf : w.fits with
  | false =>
    rw [if_neg (by simp), ← hB]
    rfl
  | true =>
    simp only [if_true, true_and]
    by_cases hw : w.put h = h ∨ c.room w.file = .ample
    · have hw' : w.put h = h ∨ c.room (safe w.layer) = .ample := hw
      rw [if_pos hw, if_pos hw', hB]
      show (_, Function.update (Function.update A w.file _) w.file _, _) = _
      rw [Function.update_idem]
      rfl
    · have hw' : ¬ (w.put h = h ∨ c.room (safe w.layer) = .ample) := hw
      rw [if_neg hw, if_neg hw', ← hB]
      rfl

/-- A write whose layer is open and whose file has room. -/
theorem perform_ample {h : Holding} {B : Shelves} (hl : A.lend c w.layer = (.ok h, B))
    (hr : c.room w.file = .ample) : viewed (A.perform c w.operation) =
      (if w.fits then .ok .done else .error (.store .query),
        Function.update A w.file (some (.full (if w.fits then w.put h else h))),
        if w.fits then w.events else []) := by
  rw [perform_opened hl, hr]
  simp only [or_true, and_true]
  cases w.fits with
  | false => rfl
  | true => rfl

/-- A write whose layer is open and whose file has no room to be changed. -/
theorem perform_scarce {h : Holding} {B : Shelves} (hl : A.lend c w.layer = (.ok h, B))
    (hr : c.room w.file = .scarce) : viewed (A.perform c w.operation) =
      (if w.fits = true ∧ w.put h = h then .ok .done else .error (.store .query),
        Function.update A w.file (some (.full h)),
        if w.fits = true ∧ w.put h = h then w.events else []) := by
  have hsame : (w.put h = h ∨ c.room w.file = .ample) ↔ w.put h = h := by
    rw [hr]
    exact or_iff_left (by decide)
  rw [perform_opened hl]
  simp only [hsame]
  by_cases hw : w.fits = true ∧ w.put h = h
  · rw [if_pos hw, if_pos hw, if_pos hw, hw.2]
  · rw [if_neg hw, if_neg hw, if_neg hw]

/-- A write to a file without tables. -/
theorem perform_blank (hn : w.layer ≠ "") (hr : c.room w.file ≠ .lacking) (hA : A w.file = some .blank) :
    viewed (A.perform c w.operation) =
      (.error (.store .schema), Function.update A w.file (some .blank), []) := by
  rw [perform_refused (lend_blank hn hr hA), ← hA, Function.update_eq_self]
  rfl

/-- What a write does to shelves. -/
theorem perform_write (c : StoreConfig) (w : Write) (A : Shelves) :
    viewed (A.perform c w.operation) =
      (w.verdict c (A w.file), Function.update A w.file (w.leaves c (A w.file)),
        if w.verdict c (A w.file) = .ok .done then w.events else []) := by
  have hdone : ∀ (p : Prop) [Decidable p], ((if p then .ok .done else .error (.store .query) :
      Except FaultKind Answer) = .ok .done) ↔ p := by
    intro p _
    split <;> simp [*]
  by_cases hn : w.layer = ""
  · have hl : A.lend c w.layer = (.error .emptyName, A) := by
      rw [hn, lend_empty]
    rw [perform_refused hl]
    simp only [Write.verdict, Write.leaves, if_pos hn, Function.update_eq_self]
    rfl
  have hne : c.room w.file ≠ .lacking → c.room (safe w.layer) ≠ .lacking := id
  cases hr : c.room w.file with
  | lacking =>
    rw [perform_refused (lend_lacking hn hr)]
    simp only [Write.verdict, Write.leaves, if_neg hn, hr, Function.update_eq_self]
    rfl
  | scarce =>
    rw [hr] at hne
    simp only [Write.verdict, Write.leaves, if_neg hn, hr]
    match hA : A w.file with
    | none =>
      rw [perform_refused (lend_scarce hn hr hA)]
      rfl
    | some .blank => exact perform_blank hn (hne nofun) hA
    | some (.full h) =>
      rw [perform_scarce (lend_full hn (hne nofun) hA) hr]
      simp only [hdone, Option.getD_some]
  | ample =>
    rw [hr] at hne
    simp only [Write.verdict, Write.leaves, if_neg hn, hr]
    match hA : A w.file with
    | none =>
      rw [perform_ample (lend_new hn hr hA) hr]
      simp only [hdone, Option.getD_none]
    | some .blank => exact perform_blank hn (hne nofun) hA
    | some (.full h) =>
      rw [perform_ample (lend_full hn (hne nofun) hA) hr]
      simp only [hdone, Option.getD_some]

end Shelves

/-! ## What writes make of volumes -/

/-- What writes make of a volume: it stays, a new file is filled or is left blank for want of room, or what
it holds is replaced where there is room. -/
inductive Grows : Room → Option Volume → Option Volume → Prop
  | refl (r : Room) (v : Option Volume) : Grows r v v
  | made (h : Holding) : Grows .ample none (some (.full h))
  | spoiled : Grows .scarce none (some .blank)
  | filled (h h' : Holding) : Grows .ample (some (.full h)) (some (.full h'))

namespace Write

variable {c : StoreConfig} {w : Write} {v v' : Option Volume}

theorem leaves_grows (c : StoreConfig) (w : Write) (v : Option Volume) :
    Grows (c.room w.file) v (w.leaves c v) := by
  rw [leaves]
  split
  · exact .refl _ _
  · cases c.room w.file with
    | lacking => exact .refl _ _
    | scarce =>
      cases v with
      | none => exact .spoiled
      | some v => exact .refl _ _
    | ample =>
      cases v with
      | none => exact .made _
      | some v =>
        cases v with
        | blank => exact .refl _ _
        | full h => exact .filled _ _

/-- What a write comes to does not change where the volume of its file grows. -/
theorem verdict_grows (h : Grows (c.room w.file) v v') : w.verdict c v' = w.verdict c v := by
  unfold verdict
  generalize c.room w.file = r at h
  cases h with
  | refl => rfl
  | made h | spoiled | filled h h' => rfl

/-- A write to a file that the file system takes leaves a volume. -/
theorem leaves_ne_none (hn : w.layer ≠ "") (hr : c.room w.file ≠ .lacking) : w.leaves c v ≠ none := by
  rw [leaves, if_neg hn]
  cases h : c.room w.file with
  | lacking => exact absurd h hr
  | scarce => exact Option.some_ne_none _
  | ample =>
    dsimp only
    split <;> exact Option.some_ne_none _

end Write

theorem Grows.ne_none {r : Room} {v w : Option Volume} (h : Grows r v w) (hv : v ≠ none) : w ≠ none := by
  cases h with
  | refl => exact hv
  | made h | spoiled | filled h h' => exact Option.some_ne_none _

theorem Grows.trans {r : Room} {u v w : Option Volume} (h : Grows r u v) (h' : Grows r v w) :
    Grows r u w := by
  cases h with
  | refl => exact h'
  | made h =>
    cases h' with
    | refl => exact .made _
    | filled h h' => exact .made _
  | spoiled =>
    cases h' with
    | refl => exact .spoiled
  | filled h h' =>
    cases h' with
    | refl => exact .filled _ _
    | filled h h' => exact .filled _ _

/-! ## Rows -/

/-- The row that a holding has for a key of one of its tables. -/
def Holding.row? (h : Holding) : Address → Option Row
  | .tile _ k => (h.tiles.get? k).map (fun b => .tile ⟨k, .blob b⟩)
  | .value _ (.text k) => (h.metadata.get? k).map (fun v => .value ⟨.text k, .text v⟩)
  | .value _ _ => none

theorem Holding.row?_empty (a : Address) : Holding.empty.row? a = none := by
  cases a with
  | tile f k => rfl
  | value f k => cases k <;> rfl

/-- The row at an address, given the volume of its file. -/
def Address.row? (a : Address) : Option Volume → Option Row
  | some (.full h) => h.row? a
  | _ => none

/-- The row at an address. -/
def Shelves.row? (A : Shelves) (a : Address) : Option Row := a.row? (A a.file)

namespace Write

variable {c : StoreConfig} {w : Write} {v : Option Volume} {a : Address}

/-- A write puts its row at its address and leaves the other rows of its file. -/
theorem row?_put (h : Holding) (ha : a.file = w.file) :
    (w.put h).row? a = if w.address = a then some w.row else h.row? a := by
  cases w with
  | tile key blob =>
    cases a with
    | tile f k =>
      have haddress : (tile key blob).address = .tile f k ↔ key.row = k := by
        rw [address, Address.tile.injEq]
        exact and_iff_right ha.symm
      simp only [haddress, put, Holding.putTile, Holding.row?, Ledger.get?_put]
      split
      · rename_i hk
        rw [← hk]
        rfl
      · rfl
    | value f k => cases k <;> rfl
  | value layer key text =>
    cases a with
    | tile f k => rfl
    | value f k =>
      have haddress : (value layer key text).address = .value f k ↔ .text key = k := by
        rw [address, Address.value.injEq]
        exact and_iff_right ha.symm
      simp only [haddress]
      cases k with
      | text k =>
        simp only [TextCell.text.injEq, put, Holding.putValue, Holding.row?, Ledger.get?_put]
        split
        · rename_i hk
          rw [← hk]
          rfl
        · rfl
      | null | bytes bs => rfl

/-- A write that changes nothing finds its row at its address. -/
theorem row?_of_put_eq {h : Holding} (hp : w.put h = h) : h.row? w.address = some w.row := by
  have hput := row?_put (w := w) h w.address_file
  rw [hp, if_pos rfl] at hput
  exact hput

/-- Where the numbers of a write fit, it puts its row, and otherwise none. -/
theorem row?_kept (h : Holding) (ha : a.file = w.file) :
    (if w.fits then w.put h else h).row? a =
      if (if w.fits then .ok .done else .error (.store .query) : Except FaultKind Answer) = .ok .done ∧
        w.address = a then some w.row else h.row? a := by
  cases w.fits with
  | false => exact (if_neg (fun h => by cases h.1)).symm
  | true =>
    simp only [if_true, true_and]
    exact row?_put h ha

/-- The rows of a file after a write to it. -/
theorem row?_leaves (ha : a.file = w.file) : a.row? (w.leaves c v) =
    if w.verdict c v = .ok .done ∧ w.address = a then some w.row else a.row? v := by
  have hfailed : ∀ {k : FaultKind} {x y : Option Row},
      (if (.error k : Except FaultKind Answer) = .ok .done ∧ w.address = a then x else y) = y :=
    fun {k x y} => if_neg (fun h => by cases h.1)
  unfold leaves verdict
  by_cases hn : w.layer = ""
  · rw [if_pos hn, if_pos hn, hfailed]
  rw [if_neg hn, if_neg hn]
  cases c.room w.file with
  | lacking => exact hfailed.symm
  | scarce =>
    match v with
    | none | some .blank => exact hfailed.symm
    | some (.full h) =>
      by_cases hw : w.fits = true ∧ w.put h = h
      · simp only [Option.getD_some, hw, and_self, if_true, true_and]
        split
        · rename_i ha
          rw [← ha]
          exact row?_of_put_eq hw.2
        · rfl
      · simp only [Option.getD_some, if_neg hw, hfailed]
  | ample =>
    match v with
    | some .blank => exact hfailed.symm
    | none =>
      have hkept := row?_kept .empty ha
      rw [Holding.row?_empty] at hkept
      exact hkept
    | some (.full h) => exact row?_kept h ha

end Write

/-! ## Sequences of writes -/

/-- The row that is left at an address by the last write to it that succeeded. -/
def lastWritten (succeeds : Write → Bool) (ws : List Write) (a : Address) : Option Row :=
  ((ws.filter (fun w => succeeds w && decide (w.address = a))).getLast?).map Write.row

theorem lastWritten_cons (succeeds : Write → Bool) (w : Write) (ws : List Write) (a : Address) :
    lastWritten succeeds (w :: ws) a = (lastWritten succeeds ws a).or
      (if succeeds w = true ∧ w.address = a then some w.row else none) := by
  rw [lastWritten, lastWritten]
  by_cases h : succeeds w = true ∧ w.address = a
  · rw [List.filter_cons_of_pos (by simpa using h), List.getLast?_cons, if_pos h]
    cases (ws.filter _).getLast? <;> rfl
  · rw [List.filter_cons_of_neg (by simpa using h), if_neg h, Option.or_none]

/-- The last row at an address depends only on the writes to it and their order. -/
theorem lastWritten_eq {xs ys : List Write} {a : Address} (succeeds : Write → Bool)
    (h : xs.filter (fun w => decide (w.address = a)) = ys.filter (fun w => decide (w.address = a))) :
    lastWritten succeeds xs a = lastWritten succeeds ys a := by
  rw [lastWritten, lastWritten, ← List.filter_filter, ← List.filter_filter, h]

/-- Writes that go to every address in the same order are the same writes. -/
theorem perm_of_address {xs ys : List Write} (h : ∀ a,
    xs.filter (fun w => decide (w.address = a)) = ys.filter (fun w => decide (w.address = a))) :
    xs.Perm ys := by
  rw [List.perm_iff_count]
  intro w
  have hcount : ∀ ws : List Write,
      (ws.filter (fun w' => decide (w'.address = w.address))).count w = ws.count w :=
    fun ws => List.count_filter (by simp)
  rw [← hcount xs, ← hcount ys, h]

namespace Shelves

variable {c : StoreConfig} {A : Shelves} {w : Write} {ws : List Write} {f : String}

/-- The shelves after a write. -/
def write (c : StoreConfig) (A : Shelves) (w : Write) : Shelves :=
  Function.update A w.file (w.leaves c (A w.file))

/-- The shelves after writes. -/
def writeAll (c : StoreConfig) (A : Shelves) (ws : List Write) : Shelves := ws.foldl (write c) A

theorem write_grows (c : StoreConfig) (A : Shelves) (w : Write) (f : String) :
    Grows (c.room f) (A f) (A.write c w f) := by
  rw [write]
  by_cases hf : f = w.file
  · rw [hf, Function.update_self]
    exact w.leaves_grows c _
  · rw [Function.update_of_ne hf]
    exact .refl _ _

/-- A write does not change what another one comes to. -/
theorem verdict_write (c : StoreConfig) (A : Shelves) (w w' : Write) :
    w'.verdict c (A.write c w w'.file) = w'.verdict c (A w'.file) :=
  Write.verdict_grows (A.write_grows c w w'.file)

/-- A write changes no row but its own, and that only if it succeeds. -/
theorem row?_write (c : StoreConfig) (A : Shelves) (w : Write) (a : Address) : (A.write c w).row? a =
    if w.verdict c (A w.file) = .ok .done ∧ w.address = a then some w.row else A.row? a := by
  rw [row?, row?, write]
  by_cases ha : a.file = w.file
  · rw [ha, Function.update_self]
    exact Write.row?_leaves ha
  · have hne : w.address ≠ a := by
      rintro rfl
      exact ha w.address_file
    rw [Function.update_of_ne ha, if_neg (fun h => hne h.2)]

theorem writeAll_grows (c : StoreConfig) (A : Shelves) (ws : List Write) (f : String) :
    Grows (c.room f) (A f) (A.writeAll c ws f) := by
  induction ws generalizing A with
  | nil => exact .refl _ _
  | cons w ws ih => exact (A.write_grows c w f).trans (ih (A.write c w))

/-- A file that no write is about stays as it is. -/
theorem writeAll_eq (h : ∀ w ∈ ws, w.layer ≠ "" → w.file ≠ f) : A.writeAll c ws f = A f := by
  induction ws generalizing A with
  | nil => rfl
  | cons w ws ih =>
    rw [List.forall_mem_cons] at h
    show (A.write c w).writeAll c ws f = A f
    rw [ih h.2, write]
    by_cases hn : w.layer = ""
    · rw [Write.leaves, if_pos hn, Function.update_eq_self]
    · rw [Function.update_of_ne (Ne.symm (h.1 hn))]

/-- A file that a write is about is there afterwards, if the file system takes its name. -/
theorem writeAll_ne_none (hw : w ∈ ws) (hn : w.layer ≠ "") (hr : c.room w.file ≠ .lacking) :
    A.writeAll c ws w.file ≠ none := by
  induction ws generalizing A with
  | nil => cases hw
  | cons w' ws ih =>
    rcases List.mem_cons.1 hw with rfl | hw
    · have hgrows := (A.write c w).writeAll_grows c ws w.file
      have hne : A.write c w w.file ≠ none := by
        rw [write, Function.update_self]
        exact Write.leaves_ne_none hn hr
      show (A.write c w).writeAll c ws w.file ≠ none
      exact hgrows.ne_none hne
    · exact ih hw

/-- A file is there after writes, unless it was not there before and every write to it found no room for
its name. -/
theorem writeAll_eq_none_iff : A.writeAll c ws f = none ↔
    A f = none ∧ ∀ w ∈ ws, w.layer ≠ "" → w.file = f → c.room f = .lacking := by
  have hgrows := A.writeAll_grows c ws f
  constructor
  · intro h
    refine ⟨?_, ?_⟩
    · by_contra hA
      exact hgrows.ne_none hA h
    · rintro w hw hn rfl
      by_contra hr
      exact writeAll_ne_none hw hn hr h
  · rintro ⟨hA, hlacking⟩
    by_cases hr : c.room f = .lacking
    · rw [hr] at hgrows
      generalize A.writeAll c ws f = v at hgrows
      cases hgrows with
      | refl => exact hA
    · rw [writeAll_eq (fun w hw hn hf => hr (hlacking w hw hn hf)), hA]

/-- The rows after writes: the last write to an address is the one that counts. -/
theorem row?_writeAll (c : StoreConfig) (A : Shelves) (ws : List Write) (a : Address) :
    (A.writeAll c ws).row? a =
      (lastWritten (fun w => decide (w.verdict c (A w.file) = .ok .done)) ws a).or (A.row? a) := by
  induction ws generalizing A with
  | nil => rfl
  | cons w ws ih =>
    show ((A.write c w).writeAll c ws).row? a = _
    rw [ih, lastWritten_cons, row?_write]
    simp only [verdict_write, decide_eq_true_eq]
    rw [Option.or_assoc]
    split
    · rfl
    · rw [Option.none_or]

end Shelves

end TileDepot
