import TileDepot.Proofs.Meddling
import TileDepot.Proofs.Writes

/-!
# Independent writes commute

Writes may be carried out in any order, in any state that a store can reach, as long as those to one address
keep theirs: the files may be there or not, several names may share a file, and writes may fail.  What a
write comes to is what it would come to alone; the tables hold the same rows at the end, and the same is
announced, up to the order.  No write is lost: every address has one row, which is that of the last write
that succeeded there, or the one that was there before.

All this is read off the shelves.  The orders are not joined by swaps, since what a run leaves at an address
is known from the writes to this address alone.

* `run_writes` says what a run of writes does to the shelves that a store keeps.
* `writes_commute` is the statement about two orders.
* `climbing_order` shows that the extension has to be free of slashes: the path of a layer may then lead
  nowhere while the file is there, and the second of two writes tries to make it again.
-/

namespace TileDepot

open Layer

/-! ## Tables up to the order of rows -/

/-- Databases with the same columns, and with the same rows up to their order. -/
structure Database.Alike (d d' : Database) : Prop where
  schema : d.schema = d'.schema
  tiles : d.tileRows.Perm d'.tileRows
  metadata : d.metadataRows.Perm d'.metadataRows
  others : d.others = d'.others

/-- The same bytes, or databases that are alike. -/
inductive Content.Alike : Content → Content → Prop
  | raw (bytes : ByteArray) : Alike (.raw bytes) (.raw bytes)
  | database {d d' : Database} (h : d.Alike d') : Alike (.database d) (.database d')

/-- Volumes of which one is full if the other one is. -/
inductive Volume.SameShape : Option Volume → Option Volume → Prop
  | none : SameShape none none
  | blank : SameShape (some .blank) (some .blank)
  | full (h h' : Holding) : SameShape (some (.full h)) (some (.full h'))

theorem Volume.sameShape_self (v : Option Volume) : SameShape v v := by
  match v with
  | none => exact .none
  | some .blank => exact .blank
  | some (.full h) => exact .full h h

/-- What grows from one volume has the same shape, if it grows at all. -/
theorem Grows.sameShape {r : Room} {v x y : Option Volume} (hx : Grows r v x) (hy : Grows r v y)
    (h : x = none ↔ y = none) : Volume.SameShape x y := by
  cases hx with
  | refl =>
    cases hy with
    | refl => exact Volume.sameShape_self _
    | made | spoiled => cases h.1 rfl
    | filled => exact .full _ _
  | made =>
    cases hy with
    | refl => cases h.2 rfl
    | made => exact .full _ _
  | spoiled =>
    cases hy with
    | refl => cases h.2 rfl
    | spoiled => exact .blank
  | filled =>
    cases hy with
    | refl | filled => exact .full _ _

/-- Holdings with the same rows are kept by databases that are alike. -/
theorem Holding.database_alike {h h' : Holding} {f : String}
    (hrows : ∀ a : Address, a.file = f → h.row? a = h'.row? a) : h.database.Alike h'.database where
  schema := rfl
  others := rfl
  tiles := by
    have hget : ∀ k, h.tiles.get? k = h'.tiles.get? k := by
      intro k
      have hrow := hrows (.tile f k) rfl
      exact Option.map_injective (fun b b' e => by cases e; rfl) hrow
    exact (Ledger.perm_of_get? hget).map tileRow
  metadata := by
    have hget : ∀ k, h.metadata.get? k = h'.metadata.get? k := by
      intro k
      have hrow := hrows (.value f (.text k)) rfl
      exact Option.map_injective (fun v v' e => by cases e; rfl) hrow
    exact (Ledger.perm_of_get? hget).map metadataRow

/-- Volumes of one shape with the same rows are alike as contents. -/
theorem Volume.SameShape.alike {x y : Option Volume} (h : SameShape x y) {f : String}
    (hrows : ∀ a : Address, a.file = f → a.row? x = a.row? y) :
    Option.Rel Content.Alike (x.map Volume.content) (y.map Volume.content) := by
  cases h with
  | none => exact .none
  | blank => exact .some (.raw _)
  | full h h' => exact .some (.database (Holding.database_alike hrows))

/-- There is no file below the root but those of safe names. -/
theorem Disk.Holds.contentAt_elsewhere {c : StoreConfig} {R p : Place} {A : Shelves} {d : Disk}
    (h : d.Holds c R A) (hR : R <+: p) (hp : ∀ f, p ≠ c.placeOf R f) : d.contentAt p = none := by
  by_cases hroot : p = R
  · rw [hroot, contentAt, number?, h.root.node]
    rfl
  · have hnode : d.node? p = none := by
      by_contra hne
      obtain ⟨f, -, hf⟩ := h.known p hR hroot hne
      exact hp f hf
    rw [contentAt, number?, hnode]
    rfl

namespace Store

/-! ## Rows of a store -/

/-- The tables of the file of a safe name; a file that is no database has none. -/
def tables (R : Place) (s : Store) (f : String) : Database :=
  match s.disk.contentAt (s.config.placeOf R f) with
  | some (.database d) => d
  | _ => .blank

/-- The rows at an address. -/
def rows (R : Place) (s : Store) : Address → List Row
  | .tile f k => ((s.tables R f).tileRows.filter (fun r => decide (r.key = k))).map .tile
  | .value f k => ((s.tables R f).metadataRows.filter (fun r => decide (r.key = k))).map .value

end Store

/-- A database that keeps a holding has at most one row for a key, which is that of the holding. -/
theorem Holding.filter_tileRows_key (h : Holding) (k : RowKey) :
    h.database.tileRows.filter (fun r => decide (r.key = k)) =
      ((h.tiles.get? k).map (fun b => tileRow (k, b))).toList := by
  show (h.tiles.pairs.map tileRow).filter _ = _
  rw [List.filter_map]
  show (h.tiles.pairs.filter (fun e => decide (e.1 = k))).map tileRow = _
  rw [Ordered.filter_key h.tiles.nodup]
  show ((h.tiles.get? k).map _).toList.map tileRow = _
  cases h.tiles.get? k <;> rfl

theorem Holding.filter_metadataRows_text (h : Holding) (key : String) :
    h.database.metadataRows.filter (fun r => decide (r.key = .text key)) =
      ((h.metadata.get? key).map (fun v => metadataRow (key, v))).toList := by
  have hkey : (fun r : MetadataRow => decide (r.key = .text key)) ∘ metadataRow =
      fun e => decide (e.1 = key) := by
    funext e
    simp [metadataRow]
  show (h.metadata.pairs.map metadataRow).filter _ = _
  rw [List.filter_map, hkey, Ordered.filter_key h.metadata.nodup]
  show ((h.metadata.get? key).map _).toList.map metadataRow = _
  cases h.metadata.get? key <;> rfl

/-- The keys of metadata are texts. -/
theorem Holding.filter_metadataRows_other (h : Holding) {key : TextCell} (hk : ∀ s, key ≠ .text s) :
    h.database.metadataRows.filter (fun r => decide (r.key = key)) = [] := by
  refine List.filter_eq_nil_iff.2 ?_
  intro r hr
  obtain ⟨e, -, rfl⟩ := List.mem_map.1 (show r ∈ h.metadata.pairs.map metadataRow from hr)
  rw [decide_eq_true_iff]
  exact fun he => hk e.1 he.symm

namespace Store

section Keeping

variable {c : StoreConfig} {R : Place} {A : Shelves} {E : List Event} {s : Store}

theorem tables_eq (hk : s.Keeps c R .taut A E) (f : String) :
    s.tables R f = match A f with
      | some (.full h) => h.database
      | _ => .blank := by
  rw [tables, hk.config, hk.disk.contentAt_eq]
  match A f with
  | none | some .blank | some (.full h) => rfl

/-- A store that keeps shelves has the row at an address that the shelves have, if they have one. -/
theorem rows_eq (hk : s.Keeps c R .taut A E) (a : Address) : s.rows R a = (A.row? a).toList := by
  cases a with
  | tile f k =>
    rw [rows, tables_eq hk, Shelves.row?, Address.file]
    match A f with
    | none | some .blank => rfl
    | some (.full h) =>
      dsimp only
      rw [h.filter_tileRows_key]
      show _ = ((h.tiles.get? k).map _).toList
      cases h.tiles.get? k <;> rfl
  | value f k =>
    rw [rows, tables_eq hk, Shelves.row?, Address.file]
    match A f with
    | none | some .blank => rfl
    | some (.full h) =>
      dsimp only
      cases k with
      | text key =>
        rw [h.filter_metadataRows_text]
        show _ = ((h.metadata.get? key).map _).toList
        cases h.metadata.get? key <;> rfl
      | null | bytes bs =>
        rw [h.filter_metadataRows_other (by intro s e; cases e)]
        rfl

/-! ## Runs of writes -/

/-- What a write comes to by itself. -/
def verdict (s : Store) (w : Write) : Except FaultKind Answer :=
  seen (Step.outcome (perform w.operation) s).1

/-- Whether a write succeeds by itself. -/
def succeeds (s : Store) (w : Write) : Bool := decide (s.verdict w = .ok .done)

/-- What shelves say that a write announces. -/
def announced (c : StoreConfig) (A : Shelves) (w : Write) : List Event :=
  if w.verdict c (A w.file) = .ok .done then w.events else []

/-- A write does to a store what it does to its shelves. -/
theorem perform_writes (hk : s.Keeps c R .taut A E) (hp : s.staleAcquires = 0) (w : Write) :
    s.verdict w = w.verdict c (A w.file) ∧
      (Step.outcome (perform w.operation) s).2.Keeps c R .taut (A.write c w) (E ++ announced c A w) ∧
      (Step.outcome (perform w.operation) s).2.staleAcquires = 0 := by
  obtain ⟨⟨hanswer, hkeeps, -⟩, hpending⟩ := perform_undisturbed hk hp w.operation
  have hwrite := Shelves.perform_write c w A
  rw [Shelves.viewed, Prod.mk.injEq, Prod.mk.injEq] at hwrite
  obtain ⟨hseen, hshelves, hevents⟩ := hwrite
  rw [hshelves, hevents] at hkeeps
  refine ⟨?_, hkeeps, hpending⟩
  rw [verdict, ← seen_bare, hanswer, hseen]

/-- A run of writes does to a store what it does to its shelves, and every write comes to what it would
have come to at the start. -/
theorem run_writes (hk : s.Keeps c R .taut A E) (hp : s.staleAcquires = 0) (ws : List Write) :
    (run (ws.map Write.operation) s).1.map seen = ws.map (fun w => w.verdict c (A w.file)) ∧
      (run (ws.map Write.operation) s).2.Keeps c R .taut (A.writeAll c ws)
        (E ++ ws.flatMap (announced c A)) := by
  induction ws generalizing s A E with
  | nil =>
    rw [List.flatMap_nil, List.append_nil]
    exact ⟨rfl, hk⟩
  | cons w ws ih =>
    obtain ⟨hverdict, hkeeps, hpending⟩ := perform_writes hk hp w
    obtain ⟨hanswers, hrest⟩ := ih hkeeps hpending
    have hannounced : announced c (A.write c w) = announced c A := by
      funext w'
      rw [announced, announced, Shelves.verdict_write]
    simp only [Shelves.verdict_write] at hanswers
    rw [hannounced, List.append_assoc] at hrest
    refine ⟨?_, hrest⟩
    show seen (Step.outcome (perform w.operation) s).1 ::
      (run (ws.map Write.operation) (Step.outcome (perform w.operation) s).2).1.map seen = _
    rw [hanswers, List.map_cons, ← hverdict]
    rfl

end Keeping

/-! ## Two orders -/

/-- A store in a state that operations lead to, and others who meddle with its handles or set it up anew, as
long as no closing by them is pending. -/
inductive Reachable (c : StoreConfig) (R : Place) : Store → Prop
  | vacant {s : Store} (h : s.Vacant c R) : Reachable c R s
  | performed {s : Store} (h : Reachable c R s) (o : Operation) :
      Reachable c R (Step.outcome (perform o) s).2
  | meddled {s : Store} (h : Reachable c R s) (m : Meddling) (hp : (m.apply s).staleAcquires = 0) :
      Reachable c R (m.apply s)

variable {c : StoreConfig} {R : Place} {s : Store}

/-- A store in a state that can be reached keeps shelves. -/
theorem Reachable.keeps (h : s.Reachable c R) :
    ∃ A E, s.Keeps c R .taut A E ∧ s.staleAcquires = 0 := by
  induction h with
  | vacant h => exact ⟨_, _, h.keeps _, h.pending⟩
  | performed h o ih =>
    obtain ⟨A, E, hk, hp⟩ := ih
    obtain ⟨⟨-, hkeeps, -⟩, hpending⟩ := perform_undisturbed hk hp o
    exact ⟨_, _, hkeeps, hpending⟩
  | meddled h m hp ih =>
    obtain ⟨A, E, hk, -⟩ := ih
    obtain ⟨E', hkeeps⟩ := m.keeps hk
    exact ⟨A, E', hkeeps, hp⟩

/-- Writes in two orders leave volumes that are alike. -/
theorem writeAll_alike (A : Shelves) {xs ys : List Write} (hperm : xs.Perm ys)
    (hsame : ∀ a, (A.writeAll c xs).row? a = (A.writeAll c ys).row? a) (f : String) :
    Option.Rel Content.Alike ((A.writeAll c xs f).map Volume.content)
      ((A.writeAll c ys f).map Volume.content) := by
  have hnone : A.writeAll c xs f = none ↔ A.writeAll c ys f = none := by
    rw [Shelves.writeAll_eq_none_iff, Shelves.writeAll_eq_none_iff]
    simp only [hperm.mem_iff]
  refine ((A.writeAll_grows c xs f).sameShape (A.writeAll_grows c ys f) hnone).alike (f := f) ?_
  rintro a rfl
  exact hsame a

/-- Two orders of writes agree at every address if they do at those that they write to. -/
theorem order_of_addresses {xs ys : List Write} (h : ∀ a ∈ xs.map Write.address ++ ys.map Write.address,
    xs.filter (fun w => decide (w.address = a)) = ys.filter (fun w => decide (w.address = a))) (a : Address) :
    xs.filter (fun w => decide (w.address = a)) = ys.filter (fun w => decide (w.address = a)) := by
  by_cases ha : a ∈ xs.map Write.address ++ ys.map Write.address
  · exact h a ha
  · have hempty : ∀ ws : List Write, a ∉ ws.map Write.address →
        ws.filter (fun w => decide (w.address = a)) = [] := by
      intro ws hws
      refine List.filter_eq_nil_iff.2 ?_
      intro w hw hwa
      exact hws (List.mem_map.2 ⟨w, hw, of_decide_eq_true hwa⟩)
    rw [List.mem_append, not_or] at ha
    rw [hempty xs ha.1, hempty ys ha.2]

/-- Two orders of writes that go to every address in the same order come to the same: every write comes to
what it would come to alone, the contents of every file below the root are alike, every address has the row
of the last write that succeeded there, or else at most one row that was there before, and the same events
are announced. -/
theorem writes_commute (hs : s.Reachable c R) {xs ys : List Write}
    (horder : ∀ a, xs.filter (fun w => decide (w.address = a)) = ys.filter (fun w => decide (w.address = a))) :
    let first := run (xs.map Write.operation) s
    let second := run (ys.map Write.operation) s
    (first.1.map seen = xs.map s.verdict ∧ second.1.map seen = ys.map s.verdict) ∧
      (∀ p, R <+: p → Option.Rel Content.Alike (first.2.disk.contentAt p) (second.2.disk.contentAt p)) ∧
      (∀ a, (s.rows R a).length ≤ 1 ∧ first.2.rows R a =
        match lastWritten s.succeeds xs a with
        | some row => [row]
        | none => s.rows R a) ∧
      first.2.events.Perm second.2.events := by
  obtain ⟨A, E, hk, hp⟩ := hs.keeps
  have hperm := perm_of_address horder
  have hverdict : ∀ w, s.verdict w = w.verdict c (A w.file) := fun w => (perform_writes hk hp w).1
  obtain ⟨hanswers, hkeeps⟩ := run_writes hk hp xs
  obtain ⟨hanswers', hkeeps'⟩ := run_writes hk hp ys
  simp only [← hverdict] at hanswers hanswers'
  have hsucceeds : s.succeeds = fun w => decide (w.verdict c (A w.file) = .ok .done) := by
    funext w
    rw [succeeds, hverdict]
  have hrows : ∀ a, (A.writeAll c xs).row? a = (A.writeAll c ys).row? a := by
    intro a
    rw [Shelves.row?_writeAll, Shelves.row?_writeAll, lastWritten_eq _ (horder a)]
  refine ⟨⟨hanswers, hanswers'⟩, ?_, ?_, ?_⟩
  · intro p hR
    by_cases hf : ∃ f, p = c.placeOf R f
    · obtain ⟨f, rfl⟩ := hf
      rw [hkeeps.disk.contentAt_eq, hkeeps'.disk.contentAt_eq]
      exact writeAll_alike A hperm hrows f
    · rw [hkeeps.disk.contentAt_elsewhere hR (fun f h => hf ⟨f, h⟩),
        hkeeps'.disk.contentAt_elsewhere hR (fun f h => hf ⟨f, h⟩)]
      exact .none
  · intro a
    rw [rows_eq hk, rows_eq hkeeps, Shelves.row?_writeAll, hsucceeds]
    refine ⟨?_, ?_⟩
    · cases A.row? a with
      | none => exact Nat.zero_le 1
      | some row => exact Nat.le_refl 1
    · cases lastWritten _ xs a <;> rfl
  · rw [hkeeps.events, hkeeps'.events]
    exact (hperm.flatMap_right _).append_left _

/-- Writes to two files, one of which has two names, with a write that cannot be kept. -/
def scatteredWrites : List Write :=
  [.tile (roadsKey "a b") ⟨#[1]⟩, .value "roads" "title" "Roads", .tile (roadsKey "a_b") ⟨#[2]⟩,
    .tile ⟨"a b", "g", "png", ⟨0, 0, 9223372036854775808⟩⟩ ⟨#[3]⟩, .value "a_b" "title" "B"]

/-- The same writes in another order. -/
def shuffledWrites : List Write :=
  [.value "a_b" "title" "B", .tile ⟨"a b", "g", "png", ⟨0, 0, 9223372036854775808⟩⟩ ⟨#[3]⟩,
    .tile (roadsKey "a b") ⟨#[1]⟩, .tile (roadsKey "a_b") ⟨#[2]⟩, .value "roads" "title" "Roads"]

/-- Both orders leave the second tile in the file with two names, and announce the same. -/
theorem shuffled_commute :
    emptyStore.Reachable emptyStore.config ["layers"] ∧
      (run (scatteredWrites.map Write.operation) emptyStore).2.rows ["layers"]
          (.tile "a_b" (roadsKey "a b").row) = [.tile ⟨(roadsKey "a b").row, .blob ⟨#[2]⟩⟩] ∧
      (run (scatteredWrites.map Write.operation) emptyStore).2.events.Perm
        (run (shuffledWrites.map Write.operation) emptyStore).2.events := by
  have hreachable : emptyStore.Reachable emptyStore.config ["layers"] := .vacant emptyStore_vacant
  have horder : ∀ a, scatteredWrites.filter (fun w => decide (w.address = a)) =
      shuffledWrites.filter (fun w => decide (w.address = a)) :=
    order_of_addresses (by decide +kernel)
  obtain ⟨-, -, hrows, hevents⟩ := writes_commute hreachable horder
  have hlast : lastWritten emptyStore.succeeds scatteredWrites (.tile "a_b" (roadsKey "a b").row) =
      some (.tile ⟨(roadsKey "a b").row, .blob ⟨#[2]⟩⟩) := by
    decide +kernel
  have hrow := (hrows (.tile "a_b" (roadsKey "a b").row)).2
  rw [hlast] at hrow
  exact ⟨hreachable, hrow, hevents⟩

/-- A store whose extension leads out of the directory that a layer's name would be. -/
def steepStore : Store := { emptyStore with config := { emptyStore.config with extension := "./../x" } }

/-- With a slash in the extension, whichever of two writes comes second fails. -/
theorem climbing_order :
    (run [.putTile (roadsKey "a") ⟨#[1]⟩, .putTile (roadsKey "b") ⟨#[2]⟩] steepStore).1.map seen =
        [.ok .done, .error (.store .schema)] ∧
      (run [.putTile (roadsKey "b") ⟨#[2]⟩, .putTile (roadsKey "a") ⟨#[1]⟩] steepStore).1.map seen =
        [.ok .done, .error (.store .schema)] := by
  decide +kernel

end Store

end TileDepot
