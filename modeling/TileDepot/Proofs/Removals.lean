import Mathlib.Data.List.Infix
import TileDepot.Proofs.Provenance
import TileDepot.Proofs.Simulation

/-!
# Store files that others remove

Between the operations of a run others may remove store files.  A handle that is cached for a layer is
then left without its file, and the layer is `Orphaned`.  Acquiring the layer notices this as long as
its path is free.  An operation that makes the file again under another name of it is `Careless`: from
then on the orphaned handle passes its test, and it is handed out although it is on the file that was
removed.

* `ask_careful` and `ask_careless` say what becomes of the cached handles by an operation that is
  careful and by one that is not, and `lose_keeps` by a removal.
* `acquire_faithful_iff` says that a run never hands out a handle on another file than the one at the
  layer's path if and only if no operation of it is careless.  A careful run answers as if every layer
  were a map that a removal empties.
* `agingRun_careless` shows a careless run.
-/

namespace TileDepot

open Layer

namespace Store

/-- What happens next in a run in which others remove files. -/
inductive Incident where
  | ask (o : Operation)
  | lose (layer : String)

/-- The store after others have removed the file of a layer, if there is one. -/
def lose (layer : String) (s : Store) : Store :=
  match storePath? s.config.root s.config.extension layer with
  | none => s
  | some p =>
      match s.disk.unlink p with
      | .ok d => { s with disk := d }
      | .error _ => s

/-- Run operations with removals in between, and keep the outcome of each operation. -/
def runIncidents : List Incident → Store → List (Except Fault Answer) × Store
  | [], s => ([], s)
  | .lose layer :: is, s => runIncidents is (s.lose layer)
  | .ask o :: is, s =>
      let (r, s) := Step.outcome (perform o) s
      let (rs, s) := runIncidents is s
      (r :: rs, s)

/-- Whatever is acquired now is on the file at the path of its layer. -/
def Faithful (s : Store) : Prop :=
  ∀ m id t, Step.outcome (acquire m) s = (.ok id, t) →
    ∃ h place, t.handle? id = some h ∧ t.disk.find (t.config.pathOf (safe m)) = .ok (place, .file h.file)

/-- A live handle is cached for a name, and there is no file at its path. -/
def Orphaned (s : Store) (n : String) : Prop :=
  ∃ id h, s.cache.get? n = some id ∧ s.handle? id = some h ∧ h.Live ∧ s.disk.node? h.place = none

/-- An operation makes the file of an orphaned name under another name. -/
def Strays (s : Store) (o : Operation) (n : String) : Prop :=
  ∃ t, o.task? = some t ∧ n ≠ t.layer ∧ safe n = safe t.layer ∧ s.Orphaned n

/-- An operation makes the file of some orphaned name under another name. -/
def Careless (s : Store) (o : Operation) : Prop := ∃ n, s.Strays o n

/-- No operation of a run is careless. -/
def Careful : List Incident → Store → Prop
  | [], _ => True
  | .lose layer :: is, s => Careful is (s.lose layer)
  | .ask o :: is, s => ¬ s.Careless o ∧ Careful is (Step.outcome (perform o) s).2

end Store

namespace Shelves

open Store

/-- The shelves after the file of a layer has been removed. -/
def lose (layer : String) (A : Shelves) : Shelves :=
  if layer = "" then A else Function.update A (safe layer) none

/-- A run of operations on shelves, with removals in between. -/
def runIncidents (c : StoreConfig) : List Incident → Shelves → List (Except Fault Answer) × Shelves
  | [], A => ([], A)
  | .lose layer :: is, A => runIncidents c is (A.lose layer)
  | .ask o :: is, A =>
      let (r, A, _) := A.perform c o
      let (rs, A) := runIncidents c is A
      (r :: rs, A)

/-- What a file has after a run it had before, or an operation of the run brought it. -/
theorem runIncidents_has {c : StoreConfig} {is : List Incident} {A : Shelves} {f : String} {e : Entry}
    (h : (A.runIncidents c is).2.Has f e) : A.Has f e ∨ ∃ o, .ask o ∈ is ∧ o.Brings f e := by
  induction is generalizing A with
  | nil => exact .inl h
  | cons i is ih =>
    cases i with
    | lose layer =>
      rcases ih h with h | ⟨o, ho, hb⟩
      · left
        rw [lose] at h
        split at h
        · exact h
        · rcases has_update h with h | ⟨-, x, hx, -⟩
          · exact h
          · cases hx
      · exact .inr ⟨o, List.mem_cons_of_mem _ ho, hb⟩
    | ask o =>
      rcases ih h with h | ⟨o', ho, hb⟩
      · exact (perform_has h).imp_right (fun hb => ⟨o, List.mem_cons_self, hb⟩)
      · exact .inr ⟨o', List.mem_cons_of_mem _ ho, hb⟩

end Shelves

namespace Store

section Removals

variable {c : StoreConfig} {R : Place} {slack : Slack} {A : Shelves} {E : List Event} {s : Store}
  {o : Operation} {is : List Incident}

/-! ## Orphans -/

/-- Exactly the orphaned names are idle. -/
def idleness (s : Store) : Slack := ⟨s.Orphaned, fun _ => False⟩

/-- A store keeps shelves with more slack as well. -/
theorem Keeps.slacken (hk : s.Keeps c R slack A E) (slack' : Slack)
    (hi : ∀ n, slack.idle n → slack'.idle n) (hs : ∀ n, slack.stray n → slack'.stray n) :
    s.Keeps c R slack' A E where
  config := hk.config
  regular := hk.regular
  ddl := hk.ddl
  events := hk.events
  disk := hk.disk
  handles := by
    intro name id hid
    obtain ⟨h, hh, hserves⟩ := hk.handles name id hid
    refine ⟨h, hh, hserves.fits, hserves.issued, fun hl => ?_⟩
    rcases hserves.current hl with hstray | ⟨hnone, hidle⟩ | hcurrent
    · exact .inl (hs name hstray)
    · exact .inr (.inl ⟨hnone, hi name hidle⟩)
    · exact .inr (.inr hcurrent)

/-- Where nothing is stray, the names whose live handles are on no file are the orphaned ones. -/
theorem Keeps.idle (hk : s.Keeps c R slack A E) (hs : ∀ n, ¬ slack.stray n) :
    s.Keeps c R s.idleness A E where
  config := hk.config
  regular := hk.regular
  ddl := hk.ddl
  events := hk.events
  disk := hk.disk
  handles := by
    intro name id hid
    obtain ⟨h, hh, hserves⟩ := hk.handles name id hid
    refine ⟨h, hh, hserves.fits, hserves.issued, fun hl => ?_⟩
    rcases hserves.current hl with hstray | ⟨hnone, -⟩ | hcurrent
    · exact absurd hstray (hs name)
    · refine .inr (.inl ⟨hnone, id, h, hid, hh, hl, ?_⟩)
      rw [hserves.fits.place]
      exact hk.disk.node_none hnone
    · exact .inr (.inr hcurrent)

/-- Where every orphaned name is idle and nothing is stray, acquiring is faithful. -/
theorem Keeps.faithful (hk : s.Keeps c R s.idleness A E) (hp : s.staleAcquires = 0) : s.Faithful := by
  intro m id t hrun
  -- Whatever the layer is, its file may be made: the orphans that share it become stray.
  have ho := acquire_opened (m := m)
    (hk.slacken ⟨s.Orphaned, fun n => s.Orphaned n ∧ n ≠ m ∧ safe n = safe m⟩
      (fun _ h => h) (fun _ h => h.elim))
    ⟨fun h => h.2.1 rfl, fun _ n hne hsafe hidle => ⟨hidle, hne, hsafe⟩⟩ hp
  rw [hrun] at ho
  cases ho with
  | @handed H B id h t hl hkt hs hh hlead hnew =>
    have hfile : t.disk.node? (R ++ [safe m ++ c.extension]) = some (.file h.file) := hlead.file
    have hfind := Disk.find_child hkt.disk.root (file_ne_dots hlead.fits.named c.extension)
      (StoreConfig.room_ne_lacking.1 hlead.fits.room)
    rw [hfile] at hfind
    refine ⟨h, c.placeOf R (safe m), hh, ?_⟩
    rw [hkt.config]
    exact hfind

/-! ## Removals -/

/-- A removal leaves the shelf of its layer empty and orphans the names that share the file. -/
theorem lose_keeps (hk : s.Keeps c R s.idleness A E) (layer : String) :
    (s.lose layer).Keeps c R (s.lose layer).idleness (A.lose layer) E ∧
      (s.lose layer).staleAcquires = s.staleAcquires := by
  by_cases hm : layer = ""
  · have hlose : s.lose layer = s := by
      rw [lose, hm, storePath_empty]
    rw [hlose, Shelves.lose, if_pos hm]
    exact ⟨hk, rfl⟩
  · have hpath : storePath? s.config.root s.config.extension layer = some (c.pathOf (safe layer)) := by
      rw [hk.config]
      exact storePath_eq hk.regular hm
    rw [Shelves.lose, if_neg hm]
    -- Without a file nothing is removed.
    have hnothing : ∀ e, s.disk.unlink (c.pathOf (safe layer)) = .error e → A (safe layer) = none →
        (s.lose layer).Keeps c R (s.lose layer).idleness (Function.update A (safe layer) none) E ∧
          (s.lose layer).staleAcquires = s.staleAcquires := by
      intro e he hA
      have hlose : s.lose layer = s := by
        rw [lose, hpath]
        simp only [he]
      rw [hlose, ← hA, Function.update_eq_self]
      exact ⟨hk, rfl⟩
    by_cases hr : c.room (safe layer) = .lacking
    · apply hnothing _ (Disk.unlink_long hk.disk.root (file_ne_dots hm _) (StoreConfig.room_lacking.1 hr))
      apply Classical.byContradiction
      intro hA
      exact StoreConfig.room_ne_lacking.2 (hk.disk.named _ hA).2 hr
    · have hunlink : s.disk.unlink (c.pathOf (safe layer)) = _ := Disk.unlink_child hk.disk.root
        (file_ne_dots hm c.extension) (StoreConfig.room_ne_lacking.1 hr)
      cases hA : A (safe layer) with
      | none =>
        have hnode : s.disk.node? (R ++ [safe layer ++ c.extension]) = none := hk.disk.node_none hA
        rw [hnode] at hunlink
        exact hnothing _ hunlink hA
      | some v =>
        obtain ⟨k, hfile, -⟩ := hk.disk.stored _ v hA
        have hnode : s.disk.node? (R ++ [safe layer ++ c.extension]) = some (.file k) := hfile
        rw [hnode] at hunlink
        have hlose : s.lose layer = { s with disk := s.disk.detach (c.placeOf R (safe layer)) } := by
          rw [lose, hpath]
          simp only [hunlink]
          rfl
        rw [hlose]
        have hplaces := Disk.node_detach s.disk (c.placeOf_ne_nil R (safe layer))
        have hkept : Keeps c R ⟨fun _ => True, fun _ => False⟩ (Function.update A (safe layer) none) E
            { s with disk := s.disk.detach (c.placeOf R (safe layer)) } := by
          refine ⟨hk.config, hk.regular, hk.ddl, hk.events, hk.disk.detach, ?_⟩
          intro name id hid
          obtain ⟨h, hh, hserves⟩ := hk.handles name id hid
          refine ⟨h, hh, hserves.fits, hserves.issued, fun hl => .inr ?_⟩
          by_cases hn : safe name = safe layer
          · exact .inl ⟨by rw [hn, Function.update_self], trivial⟩
          · rw [Handle.Current, hplaces, if_neg (fun e => hn (StoreConfig.placeOf_inj.1 e)),
              Function.update_of_ne hn]
            rcases hserves.current hl with hstray | ⟨hnone, -⟩ | hcurrent
            · exact hstray.elim
            · exact .inl ⟨hnone, trivial⟩
            · exact .inr hcurrent
        exact ⟨hkept.idle (fun _ => id), rfl⟩

/-! ## Operations -/

/-- An operation that opens a layer finds it clear, whatever it makes stray. -/
theorem clear_strays {t : Task} (ht : o.task? = some t) : Clear ⟨s.Orphaned, s.Strays o⟩ A t.layer where
  sure := by
    rintro ⟨t', ht', hne, -⟩
    rw [ht, Option.some.injEq] at ht'
    exact hne (by rw [ht'])
  alone := fun _ n hne hsafe hidle => ⟨t, ht, hne, hsafe, hidle⟩

/-- An operation answers what the shelves say even if it is careless. -/
theorem ask_follows (hk : s.Keeps c R s.idleness A E) (hp : s.staleAcquires = 0) (o : Operation) :
    Follows c R ⟨s.Orphaned, s.Strays o⟩ E s (A.perform c o) (Step.outcome (perform o) s) :=
  perform_follows (hk.slacken _ (fun _ h => h) (fun _ h => h.elim)) (fun _ ht => clear_strays ht)
    (fun _ _ hne => absurd hp hne)

/-- A careful operation leaves nothing stray. -/
theorem ask_careful (hk : s.Keeps c R s.idleness A E) (hp : s.staleAcquires = 0) (hc : ¬ s.Careless o) :
    (Step.outcome (perform o) s).2.Keeps c R (Step.outcome (perform o) s).2.idleness
        (A.perform c o).2.1 (E ++ (A.perform c o).2.2) ∧
      (Step.outcome (perform o) s).2.staleAcquires = 0 := by
  obtain ⟨-, hkeeps, hpending⟩ := ask_follows hk hp o
  rw [hp] at hpending
  exact ⟨hkeeps.idle (fun n hn => hc ⟨n, hn⟩), Nat.le_zero.1 hpending⟩

/-- After a careless operation the orphaned handle is handed out, which is not on the new file. -/
theorem ask_careless (hk : s.Keeps c R s.idleness A E) (hp : s.staleAcquires = 0) (hc : s.Careless o) :
    ¬ (Step.outcome (perform o) s).2.Faithful := by
  obtain ⟨n, t, ht, hne, hsafe, id, h, hid, hh, hlive, hgone⟩ := hc
  obtain ⟨h', hh', hserves⟩ := hk.handles n id hid
  rw [hh, Option.some.injEq] at hh'
  subst hh'
  have hfits := hserves.fits
  obtain ⟨-, hkeeps, hspares⟩ := perform_task ht
    (hk.slacken ⟨s.Orphaned, s.Strays o⟩ (fun _ h => h) (fun _ h => h.elim))
    (clear_strays ht) (fun hne => absurd hp hne)
  generalize (Step.outcome (perform o) s).2 = u at hkeeps hspares
  have hpu : u.staleAcquires = 0 := by
    have hle := hspares.pending
    rw [hp] at hle
    exact Nat.le_zero.1 hle
  obtain ⟨hidu, hhu⟩ := hspares.others n id hne hid
  rw [hh] at hhu
  -- The file is there again, and it is a new one.
  have hthere : (A.visit c t).2.1 (safe n) ≠ none := by
    rw [hsafe]
    apply Shelves.visit_ne_none
    · intro hempty
      rw [hempty] at hsafe
      exact safe_ne_empty hfits.named hsafe
    · rw [← hsafe]
      exact hfits.room
  obtain ⟨v, hv⟩ := Option.ne_none_iff_exists'.1 hthere
  obtain ⟨k, hfile, -⟩ := hkeeps.disk.stored _ v hv
  have hnew : s.disk.next ≤ k := by
    rcases hspares.files _ _ hfile with hold | hnew
    · rw [hfits.place, hold] at hgone
      cases hgone
    · exact hnew
  obtain ⟨l, hrun⟩ := obtain_cached hkeeps hidu hhu hfits hlive hthere
  rw [← acquire_run hpu] at hrun
  intro hfaithful
  obtain ⟨h', place, hh', hfind⟩ := hfaithful n id _ hrun
  have hhandle : u.handle? id = some h' := hh'
  rw [hhu, Option.some.injEq] at hhandle
  subst hhandle
  have hchild := Disk.find_child hkeeps.disk.root (file_ne_dots hfits.named c.extension)
    (StoreConfig.room_ne_lacking.1 hfits.room)
  have hnode : u.disk.node? (R ++ [safe n ++ c.extension]) = some (.file k) := hfile
  have hsame : u.disk.find (c.root.child (safe n ++ c.extension)) = .ok (place, .file h.file) := by
    have hconfig : u.config = c := hkeeps.config
    rw [← hconfig]
    exact hfind
  rw [hnode, hsame] at hchild
  have hk' : h.file = k := by
    simp only [Except.ok.injEq, Prod.mk.injEq, Node.file.injEq] at hchild
    exact hchild.2
  have hissued := hserves.issued
  omega

/-! ## Runs -/

theorem runIncidents_append (is js : List Incident) (s : Store) :
    (runIncidents (is ++ js) s).2 = (runIncidents js (runIncidents is s).2).2 := by
  induction is generalizing s with
  | nil => rfl
  | cons i is ih =>
    cases i with
    | lose layer => exact ih _
    | ask o => exact ih _

theorem careful_append {js : List Incident} (hc : Careful (is ++ js) s) :
    Careful is s ∧ Careful js (runIncidents is s).2 := by
  induction is generalizing s with
  | nil => exact ⟨trivial, hc⟩
  | cons i is ih =>
    cases i with
    | lose layer => exact ih hc
    | ask o => exact ⟨⟨hc.1, (ih hc.2).1⟩, (ih hc.2).2⟩

/-- A careful run answers what the shelves answer, and keeps what they keep. -/
theorem runIncidents_keeps (hk : s.Keeps c R s.idleness A E) (hp : s.staleAcquires = 0)
    (hc : Careful is s) :
    (∃ E', (runIncidents is s).2.Keeps c R (runIncidents is s).2.idleness (A.runIncidents c is).2 E') ∧
      (runIncidents is s).2.staleAcquires = 0 ∧
      (runIncidents is s).1.map (·.map Answer.bare) = (A.runIncidents c is).1 := by
  induction is generalizing s A E with
  | nil => exact ⟨⟨E, hk⟩, hp, rfl⟩
  | cons i is ih =>
    cases i with
    | lose layer =>
      obtain ⟨hkeeps, hpending⟩ := lose_keeps hk layer
      exact ih hkeeps (hpending.trans hp) hc
    | ask o =>
      obtain ⟨hkeeps, hpending⟩ := ask_careful hk hp hc.1
      obtain ⟨hlater, hlast, hanswers⟩ := ih hkeeps hpending hc.2
      refine ⟨hlater, hlast, ?_⟩
      show Except.map Answer.bare (Step.outcome (perform o) s).1 ::
        (runIncidents is (Step.outcome (perform o) s).2).1.map (·.map Answer.bare) = _
      rw [hanswers, (ask_follows hk hp o).answer]
      rfl

theorem forall_prefix_cons {P : List Incident → Prop} {i : Incident} :
    (∀ p, p <+: i :: is → P p) ↔ P [] ∧ ∀ p, p <+: is → P (i :: p) := by
  constructor
  · exact fun h => ⟨h [] List.nil_prefix, fun p hp => h (i :: p) (List.cons_prefix_cons.2 ⟨rfl, hp⟩)⟩
  · rintro ⟨hnil, hcons⟩ p hp
    rcases List.prefix_cons_iff.1 hp with rfl | ⟨q, rfl, hq⟩
    · exact hnil
    · exact hcons q hq

/-- The states of a run are faithful exactly if its operations are careful. -/
theorem faithful_iff_careful (hk : s.Keeps c R s.idleness A E) (hp : s.staleAcquires = 0)
    (is : List Incident) :
    (∀ p, p <+: is → (runIncidents p s).2.Faithful) ↔ Careful is s := by
  induction is generalizing s A E with
  | nil =>
    refine ⟨fun _ => trivial, fun _ p hnil => ?_⟩
    rw [List.prefix_nil.1 hnil]
    exact hk.faithful hp
  | cons i is ih =>
    rw [forall_prefix_cons]
    have hfaithful : (runIncidents [] s).2.Faithful := hk.faithful hp
    cases i with
    | lose layer =>
      obtain ⟨hkeeps, hpending⟩ := lose_keeps hk layer
      exact (and_iff_right hfaithful).trans (ih hkeeps (hpending.trans hp))
    | ask o =>
      by_cases hc : s.Careless o
      · refine ⟨fun h => absurd (h.2 [] List.nil_prefix) (ask_careless hk hp hc), fun h => absurd hc h.1⟩
      · obtain ⟨hkeeps, hpending⟩ := ask_careful hk hp hc
        exact (and_iff_right hfaithful).trans ((ih hkeeps hpending).trans (and_iff_right hc).symm)

/-- A run hands out no handle on another file than the one at the path of its layer if and only if no
operation of the run is careless.  A careful run answers what the shelves answer; what it shows of a file
after a removal has been brought there after the removal; and a tile that was put is answered right
afterwards under every name of its file. -/
theorem acquire_faithful_iff (hs : s.Vacant c R) (is : List Incident) :
    ((∀ p, p <+: is → (runIncidents p s).2.Faithful) ↔ Careful is s) ∧
      (Careful is s →
        (runIncidents is s).1.map (·.map Answer.bare) =
          (Shelves.runIncidents c is (fun _ => none)).1 ∧
        (∀ before layer after o a e, is = before ++ .lose layer :: after → layer ≠ "" →
          (Step.outcome (perform o) (runIncidents is s).2).1 = .ok a → Shows o a (safe layer) e →
          ∃ o', .ask o' ∈ after ∧ o'.Brings (safe layer) e) ∧
        ∀ before key blob a name, is = before ++ [.ask (.putTile key blob)] →
          (Step.outcome (perform (.putTile key blob)) (runIncidents before s).2).1 = .ok a →
          safe name = safe key.layer →
          (Step.outcome (perform (.getTile { key with layer := name })) (runIncidents is s).2).1.map
              Answer.bare =
            .ok (.tile (some ⟨{ key with layer := name }, blob, none⟩))) := by
  have hnew : s.Keeps c R s.idleness (fun _ => none) [] := (hs.keeps .taut).idle (fun _ => id)
  refine ⟨faithful_iff_careful hnew hs.pending is, fun hc => ⟨?_, ?_, ?_⟩⟩
  · exact (runIncidents_keeps hnew hs.pending hc).2.2
  · rintro before layer after o a e rfl hm ha hshows
    obtain ⟨hbefore, hafter⟩ := careful_append hc
    obtain ⟨⟨E, hk⟩, hp, -⟩ := runIncidents_keeps hnew hs.pending hbefore
    obtain ⟨hk', hp'⟩ := lose_keeps hk layer
    obtain ⟨⟨E', hk''⟩, hp'', -⟩ := runIncidents_keeps hk' (hp'.trans hp) hafter
    rw [runIncidents_append] at ha
    have hanswer := (ask_follows hk'' hp'' o).answer
    have hrun : Step.outcome (perform o)
        (runIncidents after ((runIncidents before s).2.lose layer)).2 = Step.outcome (perform o)
          (runIncidents (.lose layer :: after) (runIncidents before s).2).2 := rfl
    rw [hrun, ha] at hanswer
    rcases Shelves.runIncidents_has (Shelves.perform_shows hanswer.symm hshows.bare) with hhas | hbrought
    · -- Right after the removal the file has nothing.
      obtain ⟨x, hx, -⟩ := hhas
      rw [Shelves.lose, if_neg hm, Function.update_self] at hx
      cases hx
    · exact hbrought
  · rintro before key blob a name rfl ha hname
    obtain ⟨hbefore, hput, -⟩ := careful_append hc
    obtain ⟨⟨E, hk⟩, hp, -⟩ := runIncidents_keeps hnew hs.pending hbefore
    obtain ⟨hk', hp'⟩ := ask_careful hk hp hput
    have hanswer := (ask_follows hk hp (.putTile key blob)).answer
    rw [ha] at hanswer
    have hget := (ask_follows hk' hp' (.getTile { key with layer := name })).answer
    rw [Shelves.perform_get_put hanswer.symm hname] at hget
    rw [runIncidents_append]
    exact hget

end Removals

/-! ## Runs with a removal -/

/-- A tile of a layer. -/
def originOf (layer : String) : TileKey := ⟨layer, "g", "png", ⟨0, 0, 0⟩⟩

/-- A file is removed and made again by the name that it was made by. -/
def mendingRun : List Incident :=
  [.ask (.putTile (originOf "a b") ⟨#[1]⟩), .lose "a b", .ask (.putTile (originOf "a b") ⟨#[2]⟩)]

/-- A file is removed and made again by another name of it. -/
def agingRun : List Incident :=
  [.ask (.putTile (originOf "a b") ⟨#[1]⟩), .lose "a b", .ask (.putTile (originOf "a_b") ⟨#[2]⟩)]

/-- An operation on a layer is careful if no other layer has a cached handle. -/
theorem not_careless_of_cache {s : Store} {o : Operation} {t : Task} (ht : o.task? = some t)
    (hcache : ∀ e ∈ s.cache, e.1 = t.layer) : ¬ s.Careless o := by
  rintro ⟨n, t', ht', hne, -, id, h, hid, -⟩
  rw [ht, Option.some.injEq] at ht'
  subst ht'
  exact hne (hcache (n, id) (mem_of_get? hid))

theorem mendingRun_careful : Careful mendingRun emptyStore := by
  refine ⟨not_careless_of_cache rfl ?_, not_careless_of_cache rfl ?_, trivial⟩
  · decide +kernel
  · decide +kernel

/-- A run that makes a removed file again by another name hands out the handle on the file that was
removed, and shows what was put before the removal. -/
theorem agingRun_careless : emptyStore.Vacant emptyStore.config ["layers"] ∧
    (∀ p, p <+: mendingRun → (runIncidents p emptyStore).2.Faithful) ∧
    (Step.outcome (perform (.getTile (originOf "a b"))) (runIncidents agingRun emptyStore).2).1.map
      Answer.bare = .ok (.tile (some ⟨originOf "a b", ⟨#[1]⟩, none⟩)) ∧
    ¬ ∀ p, p <+: agingRun → (runIncidents p emptyStore).2.Faithful := by
  have hstale : (Step.outcome (perform (.getTile (originOf "a b")))
      (runIncidents agingRun emptyStore).2).1.map Answer.bare =
      .ok (.tile (some ⟨originOf "a b", ⟨#[1]⟩, none⟩)) := by decide +kernel
  have hput : (Step.outcome (perform (.putTile (originOf "a_b") ⟨#[2]⟩))
      (runIncidents (agingRun.take 2) emptyStore).2).1 = .ok .done := by decide +kernel
  have hmending := acquire_faithful_iff emptyStore_vacant mendingRun
  have haging := acquire_faithful_iff emptyStore_vacant agingRun
  refine ⟨emptyStore_vacant, hmending.1.2 mendingRun_careful, hstale, fun hfaithful => ?_⟩
  have hfresh := (haging.2 (haging.1.1 hfaithful)).2.2 (agingRun.take 2) (originOf "a_b") ⟨#[2]⟩ .done
    "a b" rfl hput (by decide +kernel)
  have hsame := hstale.symm.trans hfresh
  revert hsame
  decide +kernel

end Store

end TileDepot
