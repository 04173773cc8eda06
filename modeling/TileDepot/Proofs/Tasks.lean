import TileDepot.Proofs.Sessions
import TileDepot.Store.Operation

/-!
# Operations on one layer

Eight operations open a layer and run one or two statements on what it holds.  Each of them does the
work of its task on the holding, which `Achieves` states for the body of its session; what the whole
operation comes to is then `Shelves.visit`.

* `session_agrees` carries the work of a body over to the session that it is the body of, faults
  included.
* `achieves_read` is about bodies that only look, `achieves_exec` about transactions of a single statement,
  and `achieves_upsert` about the two that write with a second statement what the first did not find.
* `perform_task` is about the operations.
-/

namespace TileDepot.Store

open Layer

/-- What the body of a session comes to, given what the work on the holding comes to.  The answer of
the body is related to the answer and the events of the work. -/
def Achieves {β : Type} (c : StoreConfig) (R : Place) (slack : Slack) (E : List Event) (s : Store)
    (m : String) (id : HandleId) (A : Shelves) (H : Holding) (ρ : β → Answer → List Event → Prop)
    (work : Except DbFault (Answer × Holding × List Event)) (r : Except Fault β × Store) : Prop :=
  match work with
  | .error f => r.1 = .error (.db f) ∧ Works c R slack E s m id A H r.2
  | .ok (a, H', events) =>
      if H' = H ∨ c.room (safe m) = .ample then
        (∃ b, r.1 = .ok b ∧ ρ b a events) ∧
          Works c R slack E s m id (Function.update A (safe m) (some (.full H'))) H' r.2
      else r.1 = .error (.db .cannotOpen) ∧ Works c R slack E s m id A H r.2

/-- An outcome agrees with an expected one and its events. -/
inductive Agrees {β : Type} (ρ : β → Answer → List Event → Prop) :
    Except Fault β → Except Fault Answer × List Event → Prop
  | failed (f : Fault) : Agrees ρ (.error f) (.error f, [])
  | answered {b : β} {a : Answer} {events : List Event} : ρ b a events → Agrees ρ (.ok b) (.ok a, events)

section Tasks

variable {c : StoreConfig} {R : Place} {slack : Slack} {A : Shelves} {E : List Event}
  {s u : Store} {m : String} {id : HandleId} {H : Holding} {α β : Type}

/-! ## Sessions -/

theorem lend_error {f : Fault} {B : Shelves} (hl : A.lend c m = (.error f, B)) (g : DbFault) :
    f ≠ .db g := by
  rintro rfl
  rw [Shelves.lend] at hl
  split at hl
  · cases hl
  · split at hl <;> cases hl

/-- A session comes to what its body does with the holding that it opens. -/
theorem session_agrees (t : Task) {ρ : β → Answer → List Event → Prop} {body : HandleId → Step β}
    (hk : s.Keeps c R slack A E) (hcl : Clear slack A t.layer)
    (hy : s.staleAcquires ≠ 0 → s.Yielding t.layer)
    (hbody : ∀ id B H u, Works c R slack E s t.layer id B H u →
      Achieves c R slack E s t.layer id B H ρ (t.work H) (Step.outcome (body id) u)) :
    (Step.outcome (Step.translated t.layer t.label (session t.layer body)) s).2.Keeps c R slack
        (A.carryOut c t).2.1 E ∧
      s.Spares t.layer (Step.outcome (Step.translated t.layer t.label (session t.layer body)) s).2 ∧
      Agrees ρ (Step.outcome (Step.translated t.layer t.label (session t.layer body)) s).1
        ((A.carryOut c t).1, (A.carryOut c t).2.2) := by
  have ho := acquireOpen_opened hk hcl (Nat.le_refl _) hy
  have hsession : Step.outcome (session t.layer body) s =
      match Step.outcome (acquireOpen t.layer s.staleAcquires) s with
      | (.ok id, u) => Step.outcome (body id) u
      | (.error e, u) => (.error e, u) := by
    rw [session, Step.run_bind, Step.run_get]
    show Step.outcome (acquireOpen t.layer s.staleAcquires >>= body) s = _
    rw [Step.run_bind]
    rcases Step.outcome (acquireOpen t.layer s.staleAcquires) s with ⟨_ | _, _⟩ <;> rfl
  rw [Step.translated, Step.run_tryCatch, hsession]
  generalize Step.outcome (acquireOpen t.layer s.staleAcquires) s = r at ho
  cases ho with
  | @refused f B u hl hku hsu =>
    have hcarry : A.carryOut c t = (.error f, B, []) := by
      rw [Shelves.carryOut, hl]
    rw [hcarry]
    cases f with
    | db g => exact absurd rfl (lend_error hl g)
    | store e => exact ⟨hku, hsu, .failed _⟩
    | emptyName => exact ⟨hku, hsu, .failed _⟩
    | os e => exact ⟨hku, hsu, .failed _⟩
    | textualBlob => exact ⟨hku, hsu, .failed _⟩
    | negativeBlob => exact ⟨hku, hsu, .failed _⟩
  | @handed H B id h u hl hku hsu hh hlead _ =>
    have hw : Works c R slack E s t.layer id B H u :=
      ⟨hku, (Shelves.lend_ok hl).2.2.1, hsu, h, hh, hlead⟩
    have hb := hbody id B H u hw
    simp only
    rcases hr : Step.outcome (body id) u with ⟨r, v⟩
    rw [hr] at hb
    cases hwork : t.work H with
    | error f =>
      have hcarry : A.carryOut c t = (.error (.store ⟨.statement f, some t.layer, t.label⟩), B, []) := by
        rw [Shelves.carryOut, hl]
        simp only [hwork]
      rw [hwork] at hb
      obtain ⟨rfl, hv⟩ := hb
      rw [hcarry]
      exact ⟨hv.keeps, hv.spares, .failed _⟩
    | ok result =>
      obtain ⟨a, H', events⟩ := result
      rw [hwork, Achieves] at hb
      by_cases hroom : H' = H ∨ c.room (safe t.layer) = .ample
      · have hcarry : A.carryOut c t =
            (.ok a, Function.update B (safe t.layer) (some (.full H')), events) := by
          rw [Shelves.carryOut, hl]
          simp only [hwork, if_pos hroom]
        rw [if_pos hroom] at hb
        obtain ⟨⟨b, rfl, hρ⟩, hv⟩ := hb
        rw [hcarry]
        exact ⟨hv.keeps, hv.spares, .answered hρ⟩
      · have hcarry : A.carryOut c t =
            (.error (.store ⟨.statement .cannotOpen, some t.layer, t.label⟩), B, []) := by
          rw [Shelves.carryOut, hl]
          simp only [hwork, if_neg hroom]
        rw [if_neg hroom] at hb
        obtain ⟨rfl, hv⟩ := hb
        rw [hcarry]
        exact ⟨hv.keeps, hv.spares, .failed _⟩

/-! ## Bodies -/

/-- A body that only looks at what the layer holds. -/
theorem achieves_read (hw : Works c R slack E s m id A H u) {st : Statement α}
    (hform : st.form.changesRows = false) (hst : st.check .full = .ok ()) (hb : st.bind = .ok ())
    {ρ : α → Answer → List Event → Prop} {b : α} {a : Answer} {events : List Event}
    (hrun : st.run H.database = .ok ⟨b, none⟩) (hρ : ρ b a events) :
    Achieves c R slack E s m id A H ρ (.ok (a, H, events)) (Step.outcome (exec id st) u) := by
  obtain ⟨u', hu, hw'⟩ := exec_read hw.engages (fun _ => by simp) hst hb hrun
  rw [begunBy, hform] at hw'
  rw [Achieves, if_pos (.inl rfl), ← hw.shelf, Function.update_eq_self, hu]
  exact ⟨⟨b, rfl, hρ⟩, hw'.works⟩

/-- What the body of a transaction comes to that is to turn one holding into another: it answers and holds
the change back, if there is one, or there is no room for it. -/
def Drafts (c : StoreConfig) (R : Place) (slack : Slack) (E : List Event) (s : Store) (m : String)
    (id : HandleId) (A : Shelves) (H H' : Holding) (b : α) (r : Except Fault α × Store) : Prop :=
  if H' = H then
    r.1 = .ok b ∧ ∃ y, (∀ db, y ≠ .changed db) ∧ Engages c R slack E s m id A H y r.2
  else if c.room (safe m) = .ample then
    r.1 = .ok b ∧ Engages c R slack E s m id A H (.changed H'.database) r.2
  else r.1 = .error (.db .cannotOpen) ∧ ∃ y, Engages c R slack E s m id A H y r.2

/-- A statement that changes a holding to another one holds the change back if there is room. -/
theorem exec_drafts {v : Store} {x : Transaction} (hw : Engages c R slack E s m id A H x v)
    (hx : ∀ db, x ≠ .changed db) {st : Statement α} (hform : st.form.changesRows = true)
    (hst : st.check .full = .ok ()) (hb : st.bind = .ok ()) {b : α} {H' : Holding}
    (hrun : st.run H.database = .ok ⟨b, (H.changed H').map Holding.database⟩) :
    Drafts c R slack E s m id A H H' b (Step.outcome (exec id st) v) := by
  rw [Drafts]
  by_cases hsame : H' = H
  · subst hsame
    rw [Holding.changed_self] at hrun
    obtain ⟨v', hv, hw'⟩ := exec_read hw hx hst hb hrun
    rw [if_pos rfl, hv]
    exact ⟨rfl, _, begunBy_ne hx, hw'⟩
  · rw [Holding.changed_of_ne hsame] at hrun
    rw [if_neg hsame]
    rcases Decidable.em (c.room (safe m) = .ample) with hroom | hroom
    · obtain ⟨v', hv, hw'⟩ := exec_written hw hx hform hst hb hrun hroom
      rw [if_pos hroom, hv]
      exact ⟨rfl, hw'⟩
    · obtain ⟨v', hv, hw'⟩ := exec_cramped hw hx hst hb hrun hroom
      rw [if_neg hroom, hv]
      exact ⟨rfl, _, hw'⟩

section Transacted

variable {body : Step α} {ρ : α → Answer → List Event → Prop}

/-- A transaction commits what its body holds back. -/
theorem achieves_transact {H' : Holding} {b : α} {a : Answer} {events : List Event}
    (hd : Drafts c R slack E s m id A H H' b (Step.outcome body u)) (hρ : ρ b a events) :
    Achieves c R slack E s m id A H ρ (.ok (a, H', events)) (Step.outcome (transact id body) u) := by
  rcases hr : Step.outcome body u with ⟨r, v⟩
  rw [hr, Drafts] at hd
  rw [Achieves]
  by_cases hsame : H' = H
  · rw [if_pos hsame] at hd
    obtain ⟨rfl, y, hy, hw⟩ := hd
    obtain ⟨w, hw', hworks⟩ := hw.done hy hr
    rw [if_pos (.inl hsame), hw', hsame, ← hworks.shelf, Function.update_eq_self]
    exact ⟨⟨b, rfl, hρ⟩, hworks⟩
  · rw [if_neg hsame] at hd
    rcases Decidable.em (c.room (safe m) = .ample) with hroom | hroom
    · rw [if_pos hroom] at hd
      obtain ⟨rfl, hw⟩ := hd
      obtain ⟨w, hw', hworks⟩ := hw.written hr
      rw [if_pos (.inr hroom), hw']
      exact ⟨⟨b, rfl, hρ⟩, hworks⟩
    · rw [if_neg hroom] at hd
      obtain ⟨rfl, y, hw⟩ := hd
      obtain ⟨w, hw', hworks⟩ := hw.failed hr
      rw [if_neg (by simp [hsame, hroom]), hw']
      exact ⟨rfl, hworks⟩

/-- A transaction whose body is refused is given up. -/
theorem achieves_refused {f : DbFault} {v : Store} {x : Transaction}
    (hb : Step.outcome body u = (.error (.db f), v)) (hw : Engages c R slack E s m id A H x v) :
    Achieves c R slack E s m id A H ρ (.error f) (Step.outcome (transact id body) u) := by
  obtain ⟨w, hw', hworks⟩ := hw.failed hb
  rw [hw']
  exact ⟨rfl, hworks⟩

end Transacted

/-- A transaction of a single statement. -/
theorem achieves_exec (hw : Works c R slack E s m id A H u) {st : Statement α}
    (hform : st.form.changesRows = true) (hst : st.check .full = .ok ())
    {ρ : α → Answer → List Event → Prop} {b : α} {a : Answer}
    {H' : Holding} {events : List Event} {work : Except DbFault (Answer × Holding × List Event)}
    (hbind : (∃ f, st.bind = .error f ∧ work = .error f) ∨
      (st.bind = .ok () ∧ work = .ok (a, H', events)))
    (hrun : st.run H.database = .ok ⟨b, (H.changed H').map Holding.database⟩) (hρ : ρ b a events) :
    Achieves c R slack E s m id A H ρ work (Step.outcome (transact id (exec id st)) u) := by
  rcases hbind with ⟨f, hb, rfl⟩ | ⟨hb, rfl⟩
  · obtain ⟨u', hu, hw'⟩ := exec_refused hw.engages (fun _ => by simp) hst hb
    exact achieves_refused hu hw'
  · exact achieves_transact (exec_drafts hw.engages (fun _ => by simp) hform hst hb hrun) hρ

/-- A transaction that changes what is there, and adds it if nothing was. -/
theorem achieves_upsert (hw : Works c R slack E s m id A H u) {change : Statement Nat}
    {add : Statement Unit} (hform : change.form.changesRows = true ∧ add.form.changesRows = true)
    (hchange : change.check .full = .ok ()) (hadd : add.check .full = .ok ())
    (there : Bool) (H' : Holding) {ρ : Unit → Answer → List Event → Prop} {a : Answer}
    {events : List Event}
    {work : Except DbFault (Answer × Holding × List Event)}
    (hbind : (∃ f, change.bind = .error f ∧ work = .error f) ∨
      (change.bind = .ok () ∧ add.bind = .ok () ∧ work = .ok (a, H', events)))
    (hrun : change.run H.database =
      if there then .ok ⟨1, (H.changed H').map Holding.database⟩ else .ok ⟨0, none⟩)
    (hnew : there = false → add.run H.database = .ok ⟨(), (some H').map Holding.database⟩ ∧ H' ≠ H)
    (hρ : ρ () a events) :
    Achieves c R slack E s m id A H ρ work (Step.outcome (transact id (do
      let count ← exec id change
      if count = 0 then exec id add)) u) := by
  rcases hbind with ⟨f, hb, rfl⟩ | ⟨hb, hb', rfl⟩
  · obtain ⟨u', hu, hw'⟩ := exec_refused hw.engages (fun _ => by simp) hchange hb
    refine achieves_refused ?_ hw'
    rw [Step.run_bind, hu]
  · refine achieves_transact ?_ hρ
    cases there with
    | true =>
      have hdrafts := exec_drafts hw.engages (fun _ => by simp) hform.1 hchange hb hrun
      rcases hr : Step.outcome (exec id change) u with ⟨r, v⟩
      rw [hr, Drafts] at hdrafts
      -- Either way the second statement does not run.
      have hpass : ∀ r', Except.map (fun _ => ()) r = r' → (r = .ok 1 ∨ r = .error (.db .cannotOpen)) →
          Step.outcome (do
            let count ← exec id change
            if count = 0 then exec id add) u = (r', v) := by
        rintro r' rfl (rfl | rfl) <;> rw [Step.run_bind, hr] <;> rfl
      rw [Drafts]
      by_cases hsame : H' = H
      · rw [if_pos hsame] at hdrafts ⊢
        obtain ⟨rfl, hw'⟩ := hdrafts
        rw [hpass _ rfl (.inl rfl)]
        exact ⟨rfl, hw'⟩
      · rw [if_neg hsame] at hdrafts ⊢
        rcases Decidable.em (c.room (safe m) = .ample) with hroom | hroom
        · rw [if_pos hroom] at hdrafts ⊢
          obtain ⟨rfl, hw'⟩ := hdrafts
          rw [hpass _ rfl (.inl rfl)]
          exact ⟨rfl, hw'⟩
        · rw [if_neg hroom] at hdrafts ⊢
          obtain ⟨rfl, hw'⟩ := hdrafts
          rw [hpass _ rfl (.inr rfl)]
          exact ⟨rfl, hw'⟩
    | false =>
      obtain ⟨hins, hne⟩ := hnew rfl
      obtain ⟨u₁, hu₁, hw₁⟩ := exec_read hw.engages (fun _ => by simp) hchange hb hrun
      rw [← Holding.changed_of_ne hne] at hins
      have hbody : Step.outcome (do
          let count ← exec id change
          if count = 0 then exec id add) u = Step.outcome (exec id add) u₁ := by
        rw [Step.run_bind, hu₁]
        rfl
      rw [hbody]
      exact exec_drafts hw₁ (begunBy_ne (fun _ => by simp)) hform.2 hadd hb' hins

/-! ## From sessions to operations -/

/-- An operation comes to what carrying out and forgiving its task comes to. -/
structure Visits (c : StoreConfig) (R : Place) (slack : Slack) (A : Shelves) (E : List Event)
    (s : Store) (t : Task) (r : Except Fault Answer × Store) : Prop where
  answer : r.1.map Answer.bare = (A.visit c t).1
  keeps : r.2.Keeps c R slack (A.visit c t).2.1 (E ++ (A.visit c t).2.2)
  spares : s.Spares t.layer r.2

/-- An operation that does something more with the outcome of its session. -/
theorem visits_of_session (t : Task) (hnone : t.fallback = none)
    {ρ : β → Answer → List Event → Prop} {body : HandleId → Step β} (hk : s.Keeps c R slack A E) (hcl : Clear slack A t.layer)
    (hy : s.staleAcquires ≠ 0 → s.Yielding t.layer)
    (hbody : ∀ id B H u, Works c R slack E s t.layer id B H u →
      Achieves c R slack E s t.layer id B H ρ (t.work H) (Step.outcome (body id) u))
    (k : β → Step Answer)
    (hfinish : ∀ b a events B v, ρ b a events → v.Keeps c R slack B E →
      ∃ a' v', Step.outcome (k b) v = (.ok a', v') ∧ a'.bare = a ∧
        v'.Keeps c R slack B (E ++ events) ∧ v.Spares t.layer v') :
    Visits c R slack A E s t
      (Step.outcome (Step.translated t.layer t.label (session t.layer body) >>= k) s) := by
  obtain ⟨hkeeps, hspares, hagrees⟩ := session_agrees t hk hcl hy hbody
  have hvisit : A.visit c t = A.carryOut c t := Shelves.visit_unforgiven hnone
  rw [Step.run_bind]
  generalize Step.outcome (Step.translated t.layer t.label (session t.layer body)) s = r at *
  obtain ⟨r, v⟩ := r
  rcases hc : A.carryOut c t with ⟨x, B, events⟩
  rw [hc] at hkeeps hagrees hvisit
  cases hagrees with
  | failed f =>
    refine ⟨?_, ?_, hspares⟩
    · rw [hvisit]
      rfl
    · rw [hvisit, List.append_nil]
      exact hkeeps
  | @answered b a _ hρ =>
    obtain ⟨a', v', hv, hbare, hk', hs'⟩ := hfinish b a events B v hρ hkeeps
    simp only [hv]
    refine ⟨?_, ?_, hspares.trans hs'⟩
    · rw [hvisit, ← hbare]
      rfl
    · rw [hvisit]
      exact hk'

/-- An operation that begins with a note. -/
theorem Visits.noted {severity : Severity} {channel : Channel} {message : String} {t : Task}
    {x : Step Answer}
    (hx : ∀ l, Visits c R slack A E { s with log := l } t (Step.outcome x { s with log := l })) :
    Visits c R slack A E s t (Step.outcome (Step.note severity channel message >>= fun _ => x) s) := by
  rw [Step.run_bind, Step.run_note]
  obtain ⟨hanswer, hkeeps, hspares⟩ := hx (s.log ++ [⟨severity, channel, message⟩])
  exact ⟨hanswer, hkeeps, (Spares.log _ s _).trans hspares⟩

/-- A read that is forgiven where the store forgives. -/
theorem visits_of_forgiving (t : Task) (nothing : β) {g : β → Answer}
    (hfallback : t.fallback = some (g nothing)) (hbare : ∀ b, (g b).bare = g b)
    {body : HandleId → Step β} (hk : s.Keeps c R slack A E) (hcl : Clear slack A t.layer)
    (hy : s.staleAcquires ≠ 0 → s.Yielding t.layer)
    (hbody : ∀ id B H u, Works c R slack E s t.layer id B H u →
      Achieves c R slack E s t.layer id B H (fun b a events => a = g b ∧ events = []) (t.work H)
        (Step.outcome (body id) u)) :
    Visits c R slack A E s t
      (Step.outcome (forgiving nothing (Step.translated t.layer t.label (session t.layer body)) >>=
        fun b => pure (g b)) s) := by
  obtain ⟨hkeeps, hspares, hagrees⟩ := session_agrees t hk hcl hy hbody
  rw [Step.run_bind, forgiving, Step.run_tryCatch]
  generalize Step.outcome (Step.translated t.layer t.label (session t.layer body)) s = r at *
  obtain ⟨r, v⟩ := r
  rcases hc : A.carryOut c t with ⟨x, B, events⟩
  have hvisit : A.visit c t = (Shelves.forgive c (some (g nothing)) x, B, events) := by
    rw [Shelves.visit, hc, hfallback]
  rw [hc] at hkeeps hagrees
  have hconfig : v.config.forgiving = c.forgiving := by
    have hv : v.config = c := hkeeps.config
    rw [hv]
  cases hagrees with
  | failed f =>
    have hpass : (∀ e, f ≠ .store e) → Visits c R slack A E s t (.error f, v) := by
      intro hne
      have hforgive : Shelves.forgive c (some (g nothing)) (.error f) = .error f := by
        cases f with
        | store e => exact absurd rfl (hne e)
        | _ => rfl
      rw [hforgive] at hvisit
      refine ⟨?_, ?_, hspares⟩
      · rw [hvisit]
        rfl
      · rw [hvisit, List.append_nil]
        exact hkeeps
    cases f with
    | store e =>
      cases hf : c.forgiving with
      | true =>
        have hforgive : Shelves.forgive c (some (g nothing)) (.error (.store e)) = .ok (g nothing) := by
          simp only [Shelves.forgive, hf]
        rw [hforgive] at hvisit
        simp only [Step.run_bind, Step.run_get, hconfig, hf, Bool.not_true, Bool.false_eq_true, if_false,
          Step.run_note, Step.run_pure]
        refine ⟨?_, ?_, hspares.trans (.log _ _ _)⟩
        · rw [hvisit]
          exact congrArg Except.ok (hbare nothing)
        · rw [hvisit, List.append_nil]
          exact hkeeps.weaken (.log _ _)
      | false =>
        have hforgive : Shelves.forgive c (some (g nothing)) (.error (.store e)) = .error (.store e) := by
          simp only [Shelves.forgive, hf]
        rw [hforgive] at hvisit
        simp only [Step.run_bind, Step.run_get, hconfig, hf, Bool.not_false, if_true, Step.run_throw]
        refine ⟨?_, ?_, hspares⟩
        · rw [hvisit]
          rfl
        · rw [hvisit, List.append_nil]
          exact hkeeps
    | emptyName => exact hpass (by simp)
    | os o => exact hpass (by simp)
    | db d => exact hpass (by simp)
    | textualBlob => exact hpass (by simp)
    | negativeBlob => exact hpass (by simp)
  | @answered b a _ hρ =>
    obtain ⟨rfl, rfl⟩ := hρ
    refine ⟨?_, ?_, hspares⟩
    · rw [hvisit]
      exact congrArg Except.ok (hbare b)
    · rw [hvisit, List.append_nil]
      exact hkeeps

/-! ## Tiles -/

/-- An address that fits is bound and worked on; one that does not is neither. -/
theorem bind_onTile (k : RowKey) (result : Answer × Holding × List Event) :
    (∃ f, Statement.bindKey k = .error f ∧ onTile k result = .error f) ∨
      (Statement.bindKey k = .ok () ∧ onTile k result = .ok result) := by
  by_cases hk : k.fits = true
  · right
    rw [Statement.bindKey, onTile, if_pos hk, if_pos hk]
    exact ⟨rfl, rfl⟩
  · left
    rw [Statement.bindKey, onTile, if_neg hk, if_neg hk]
    exact ⟨_, rfl, rfl⟩

/-- A file that a session works on has a time. -/
theorem modifiedAt_run (hw : Works c R slack E s m id A H u) :
    ∃ time, Step.outcome (modifiedAt (c.pathOf (safe m))) u = (.ok time, u) := by
  obtain ⟨h, -, hl⟩ := hw.leads
  have hfind : u.disk.find (c.pathOf (safe m)) = .ok (c.placeOf R (safe m), .file h.file) := by
    have hchild := Disk.find_child hw.keeps.disk.root (file_ne_dots hl.fits.named c.extension)
      (StoreConfig.room_ne_lacking.1 hl.fits.room)
    have hfile : u.disk.node? (R ++ [safe m ++ c.extension]) = some (.file h.file) := hl.file
    rw [hfile] at hchild
    exact hchild
  refine ⟨((u.disk.body? h.file).bind (·.time)).map Instant.ofFileTime, ?_⟩
  simp only [modifiedAt, Step.run_bind, Step.run_view, hfind, Step.run_pure]

theorem getTile_visits {key : TileKey} {t : Task} (ht : (Operation.getTile key).task? = some t)
    (hk : s.Keeps c R slack A E) (hcl : Clear slack A t.layer)
    (hy : s.staleAcquires ≠ 0 → s.Yielding t.layer) :
    Visits c R slack A E s t (Step.outcome (perform (.getTile key)) s) := by
  cases ht
  simp only [perform, getTile, bind_assoc]
  apply visits_of_session _ rfl hk hcl hy
    (ρ := fun (b : Option (Cell × Option Instant)) a events => events = [] ∧
      ∃ o : Option Blob, b.map Prod.fst = o.map Cell.blob ∧
        a = .tile (o.map (fun blob => ⟨key, blob, none⟩)))
  · intro id B H u hw
    dsimp only at hw ⊢
    have hpath : ∀ v, Works c R slack E s key.layer id B H v →
        Step.outcome (pathFor key.layer) v = (.ok (c.pathOf (safe key.layer)), v) := by
      intro v hv
      obtain ⟨h, -, hl⟩ := hv.leads
      exact hv.keeps.pathFor hl.fits.named
    have hrun := Holding.run_selectTile H key.row
    have hcheck : (Statement.selectTile key.row).check .full = .ok () := rfl
    rcases bind_onTile key.row (.tile ((H.tiles.get? key.row).map (fun b => ⟨key, b, none⟩)), H, [])
      with ⟨f, hb, hwork⟩ | ⟨hb, hwork⟩
    · obtain ⟨u', hu, hw'⟩ := exec_refused hw.engages (fun _ => by simp) hcheck hb
      rw [hwork, Step.run_bind, hu]
      exact ⟨rfl, hw'.works⟩
    · obtain ⟨u', hu, hw'⟩ := exec_read hw.engages (fun _ => by simp) hcheck hb hrun
      have hw' : Works c R slack E s key.layer id B H u' := hw'.works
      rw [hwork, Achieves, if_pos (.inl rfl), ← hw.shelf, Function.update_eq_self, Step.run_bind, hu]
      simp only [Step.run_bind, hpath u' hw']
      cases hget : H.tiles.get? key.row with
      | none => exact ⟨⟨none, rfl, trivial, none, rfl, rfl⟩, hw'⟩
      | some blob =>
        obtain ⟨time, htime⟩ := modifiedAt_run hw'
        simp only [Option.map_some, Step.run_bind, htime, Step.run_pure]
        exact ⟨⟨some (.blob blob, time), rfl, trivial, some blob, rfl, rfl⟩, hw'⟩
  · rintro b a events B v ⟨rfl, o, ho, rfl⟩ hv
    rw [List.append_nil]
    cases o with
    | none =>
      cases b with
      | none => exact ⟨_, v, rfl, rfl, hv, .refl _ v⟩
      | some x => cases ho
    | some blob =>
      cases b with
      | none => cases ho
      | some x =>
        obtain ⟨cell, time⟩ := x
        rw [Option.map_some, Option.map_some, Option.some.injEq] at ho
        dsimp only at ho
        subst ho
        exact ⟨_, v, rfl, rfl, hv, .refl _ v⟩

theorem putTile_visits {key : TileKey} {blob : Blob} {t : Task}
    (ht : (Operation.putTile key blob).task? = some t) (hk : s.Keeps c R slack A E)
    (hcl : Clear slack A t.layer) (hy : s.staleAcquires ≠ 0 → s.Yielding t.layer) :
    Visits c R slack A E s t (Step.outcome (perform (.putTile key blob)) s) := by
  cases ht
  simp only [perform, putTile, bind_assoc]
  apply visits_of_session _ rfl hk hcl hy
    (ρ := fun _ a events => a = .done ∧ events = [.tileStored key blob.size])
  · intro id B H u hw
    refine achieves_upsert hw ⟨rfl, rfl⟩ rfl rfl (H.tiles.has key.row) (H.putTile key.row blob) ?_
      (Holding.run_updateTile H key.row blob) ?_ ⟨rfl, rfl⟩
    · rcases bind_onTile key.row (.done, H.putTile key.row blob, [.tileStored key blob.size])
        with hrefused | ⟨hb, hwork⟩
      · exact .inl hrefused
      · exact .inr ⟨hb, hb, hwork⟩
    · intro hhas
      exact ⟨Holding.run_insertTile blob hhas, Holding.putTile_ne_self blob hhas⟩
  · rintro b a events B v ⟨rfl, rfl⟩ hv
    refine ⟨.done, _, rfl, rfl, ?_, ⟨Nat.le_refl _, Nat.le_refl _, fun _ _ e => .inl e,
      fun _ _ _ e => ⟨e, rfl⟩⟩⟩
    exact ⟨hv.config, hv.regular, hv.ddl, congrArg (· ++ _) hv.events, hv.disk, hv.handles⟩

theorem deleteTile_visits {key : TileKey} {t : Task} (ht : (Operation.deleteTile key).task? = some t)
    (hk : s.Keeps c R slack A E) (hcl : Clear slack A t.layer)
    (hy : s.staleAcquires ≠ 0 → s.Yielding t.layer) :
    Visits c R slack A E s t (Step.outcome (perform (.deleteTile key)) s) := by
  cases ht
  simp only [perform, deleteTile, bind_assoc]
  apply Visits.noted
  intro l
  apply visits_of_session _ rfl (hk.weaken (.log s l)) hcl hy
    (ρ := fun (n : Nat) a events => a = .flag (decide (n ≠ 0)) ∧
      events = if n ≠ 0 then [.tileDeleted key] else [])
  · intro id B H u hw
    have hrun := Holding.run_deleteTile H key.row
    have hflag : decide ((if H.tiles.has key.row then 1 else 0) ≠ 0) = H.tiles.has key.row := by
      cases H.tiles.has key.row <;> rfl
    refine achieves_exec hw rfl rfl (bind_onTile key.row _) hrun ⟨by rw [hflag], ?_⟩
    cases H.tiles.has key.row <;> rfl
  · rintro n a events B v ⟨rfl, rfl⟩ hv
    by_cases hn : n = 0
    · subst hn
      exact ⟨.flag false, v, rfl, rfl, by simpa using hv, .refl _ v⟩
    · rw [if_pos hn]
      simp only [if_pos hn, Step.run_bind, Step.run_announce, Step.run_pure]
      refine ⟨.flag (decide (n ≠ 0)), _, rfl, rfl, ?_, ⟨Nat.le_refl _, Nat.le_refl _,
        fun _ _ e => .inl e, fun _ _ _ e => ⟨e, rfl⟩⟩⟩
      exact ⟨hv.config, hv.regular, hv.ddl, congrArg (· ++ _) hv.events, hv.disk, hv.handles⟩

theorem deleteGridset_visits {layer grid : String} {t : Task}
    (ht : (Operation.deleteGridset layer grid).task? = some t) (hk : s.Keeps c R slack A E)
    (hcl : Clear slack A t.layer) (hy : s.staleAcquires ≠ 0 → s.Yielding t.layer) :
    Visits c R slack A E s t (Step.outcome (perform (.deleteGridset layer grid)) s) := by
  cases ht
  simp only [perform, deleteGridset, bind_assoc]
  apply Visits.noted
  intro l
  apply visits_of_session _ rfl (hk.weaken (.log s l)) hcl hy
    (ρ := fun (n : Nat) a events => a = .count n ∧
      events = if n = 0 then [] else [.gridsetDeleted layer grid])
  · intro id B H u hw
    exact achieves_exec hw rfl rfl (.inr ⟨rfl, rfl⟩) (Holding.run_deleteGrid H grid) ⟨rfl, rfl⟩
  · rintro n a events B v ⟨rfl, rfl⟩ hv
    by_cases hn : n = 0
    · subst hn
      exact ⟨.count 0, v, rfl, rfl, by simpa using hv, .refl _ v⟩
    · rw [if_neg hn]
      simp only [ne_eq, hn, not_false_eq_true, if_true, Step.run_bind, Step.run_announce, Step.run_pure]
      refine ⟨.count n, _, rfl, rfl, ?_, ⟨Nat.le_refl _, Nat.le_refl _,
        fun _ _ e => .inl e, fun _ _ _ e => ⟨e, rfl⟩⟩⟩
      exact ⟨hv.config, hv.regular, hv.ddl, congrArg (· ++ _) hv.events, hv.disk, hv.handles⟩

/-! ## Metadata -/

theorem getMetadata_visits {layer key : String} {t : Task}
    (ht : (Operation.getMetadata layer key).task? = some t) (hk : s.Keeps c R slack A E)
    (hcl : Clear slack A t.layer) (hy : s.staleAcquires ≠ 0 → s.Yielding t.layer) :
    Visits c R slack A E s t (Step.outcome (perform (.getMetadata layer key)) s) := by
  cases ht
  apply visits_of_forgiving _ none (g := Answer.value) rfl (fun _ => rfl) hk hcl hy
  intro id B H u hw
  exact achieves_read hw rfl rfl rfl (Holding.run_selectValue H key) ⟨rfl, rfl⟩

theorem metadataEntries_visits {layer : String} {t : Task}
    (ht : (Operation.metadataEntries layer).task? = some t) (hk : s.Keeps c R slack A E)
    (hcl : Clear slack A t.layer) (hy : s.staleAcquires ≠ 0 → s.Yielding t.layer) :
    Visits c R slack A E s t (Step.outcome (perform (.metadataEntries layer)) s) := by
  cases ht
  apply visits_of_forgiving _ [] (g := Answer.entries layer) rfl (fun _ => rfl) hk hcl hy
  intro id B H u hw
  exact achieves_read hw rfl rfl rfl (Holding.run_selectEntries H) ⟨rfl, rfl⟩

theorem allMetadata_visits {layer : String} {t : Task}
    (ht : (Operation.allMetadata layer).task? = some t) (hk : s.Keeps c R slack A E)
    (hcl : Clear slack A t.layer) (hy : s.staleAcquires ≠ 0 → s.Yielding t.layer) :
    Visits c R slack A E s t (Step.outcome (perform (.allMetadata layer)) s) := by
  cases ht
  simp only [perform, allMetadata, metadataEntries, bind_assoc, pure_bind]
  apply visits_of_forgiving _ [] (g := fun ps => .pairs (Ordered.ofPairs ps)) rfl
    (fun _ => rfl) hk hcl hy
  intro id B H u hw
  exact achieves_read hw rfl rfl rfl (Holding.run_selectEntries H)
    ⟨congrArg Answer.pairs (Holding.ofPairs_shownEntries H).symm, rfl⟩

theorem putMetadata_visits {layer key value : String} {t : Task}
    (ht : (Operation.putMetadata layer key value).task? = some t) (hk : s.Keeps c R slack A E)
    (hcl : Clear slack A t.layer) (hy : s.staleAcquires ≠ 0 → s.Yielding t.layer) :
    Visits c R slack A E s t (Step.outcome (perform (.putMetadata layer key value)) s) := by
  cases ht
  simp only [perform, putMetadata, bind_assoc]
  apply visits_of_session _ rfl hk hcl hy (ρ := fun _ a events => a = .done ∧ events = [])
  · intro id B H u hw
    refine achieves_upsert hw ⟨rfl, rfl⟩ rfl rfl (H.metadata.has key) (H.putValue key value)
      (.inr ⟨rfl, rfl, rfl⟩) (Holding.run_updateValue H key value) ?_ ⟨rfl, rfl⟩
    intro hhas
    exact ⟨Holding.run_insertValue value hhas, Holding.putValue_ne_self value hhas⟩
  · rintro b a events B v ⟨rfl, rfl⟩ hv
    rw [List.append_nil]
    exact ⟨.done, _, rfl, rfl, hv.weaken (.log v _), .log _ v _⟩

/-- An operation with a task comes to what carrying out and forgiving the task comes to. -/
theorem perform_task {o : Operation} {t : Task} (ht : o.task? = some t) (hk : s.Keeps c R slack A E)
    (hcl : Clear slack A t.layer) (hy : s.staleAcquires ≠ 0 → s.Yielding t.layer) :
    Visits c R slack A E s t (Step.outcome (perform o) s) := by
  cases o with
  | getTile key => exact getTile_visits ht hk hcl hy
  | putTile key blob => exact putTile_visits ht hk hcl hy
  | deleteTile key => exact deleteTile_visits ht hk hcl hy
  | deleteGridset layer grid => exact deleteGridset_visits ht hk hcl hy
  | getMetadata layer key => exact getMetadata_visits ht hk hcl hy
  | putMetadata layer key value => exact putMetadata_visits ht hk hcl hy
  | allMetadata layer => exact allMetadata_visits ht hk hcl hy
  | metadataEntries layer => exact metadataEntries_visits ht hk hcl hy
  | deleteRange range => cases ht
  | clear => cases ht
  | layerExists layer => cases ht
  | deleteLayer layer => cases ht
  | renameLayer source target => cases ht
  | destroy => cases ht

end Tasks

end TileDepot.Store
