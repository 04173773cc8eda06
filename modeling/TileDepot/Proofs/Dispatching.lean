import Mathlib.Data.List.ReduceOption
import TileDepot.Scenario.Perform

/-!
# What an event does to listeners

An event calls the listeners that are registered when it starts, each as often as it is registered and in
the order of registration.  Hooks change the list while the event is on its way and may fail in the end;
neither moves anybody into or out of the calls of this event.  What the calls altered is in force for the
next event.

The rules are stated without the dispatcher: `Alters` says what one alteration makes of a list of listeners,
`calls` who is called and what the hook then does, `Told` what an event comes to, and `Course` what a
sequence of events and alterations comes to.  What a hook does may depend on what happened before, so every
event has a `Mood`, which says how each listener behaves when its turn comes.

* `alters_iff` says that registering and removing make of a list what the rule says, and nothing else.
* `applyChanges_eq` says what a hook makes of the list before it fails.
* `told_iff` is the statement for one event and `course_iff` for a whole sequence; `emit_done` says that
  telling listeners always ends well.
-/

namespace TileDepot

namespace Notifier

/-! ## Alterations -/

/-- A listener is registered once more, or one is removed. -/
inductive Alteration where
  | add (l : Listener)
  | remove (l : Listener)

/-- What an alteration makes of a list of listeners.  One that is added stands at the end.  Of those that
equal a removed one the first goes, and if there is none the list stays as it is. -/
inductive Alters : Alteration → List Listener → List Listener → Prop where
  | added (l : Listener) (ls : List Listener) : Alters (.add l) ls (ls ++ [l])
  | removed {l r : Listener} {before after : List Listener} (hb : ∀ b ∈ before, b.same l = false)
      (hr : r.same l = true) : Alters (.remove l) (before ++ r :: after) (before ++ after)
  | missing {l : Listener} {ls : List Listener} (h : ∀ b ∈ ls, b.same l = false) :
      Alters (.remove l) ls ls

/-- Alterations one after the other. -/
inductive AltersAll : List Alteration → List Listener → List Listener → Prop where
  | nil (ls : List Listener) : AltersAll [] ls ls
  | cons {a : Alteration} {as : List Alteration} {ls ls' ls'' : List Listener} (first : Alters a ls ls')
      (rest : AltersAll as ls' ls'') : AltersAll (a :: as) ls ls''

/-- Carry an alteration out. -/
def altered (n : Notifier) : Alteration → Notifier
  | .add l => n.add l
  | .remove l => n.remove l

variable {n n' : Notifier} {ls : List Listener}

@[simp] theorem altered_directory (n : Notifier) (a : Alteration) :
    (n.altered a).directory = n.directory := by cases a <;> rfl

theorem alters_remove (n : Notifier) (l : Listener) :
    Alters (.remove l) n.registered (n.remove l).registered := by
  by_cases h : ∃ r ∈ n.registered, r.same l = true
  · obtain ⟨r, hr, hsame⟩ := h
    obtain ⟨r, before, after, hb, hr, hn, hleft⟩ :=
      List.exists_of_eraseP (p := fun r => r.same l) hr hsame
    have hremoved : (n.remove l).registered = before ++ after := hleft
    rw [hremoved, hn]
    exact .removed (fun b hm => by simpa using hb b hm) hr
  · have hnone : ∀ b ∈ n.registered, b.same l = false := by simpa using h
    have hremoved : (n.remove l).registered = n.registered :=
      List.eraseP_of_forall_not (fun b hm => by simp [hnone b hm])
    rw [hremoved]
    exact .missing hnone

/-- An alteration makes of the list what the rule says, and the rule leaves no choice. -/
theorem alters_iff {a : Alteration} : Alters a n.registered ls ↔ (n.altered a).registered = ls := by
  constructor
  · intro h
    generalize hn : n.registered = before at h
    cases h with
    | added l => simp [altered, add, hn]
    | removed hb hr => exact remove_registered n _ _ _ _ hn hb hr
    | missing h => simpa [altered, remove, hn] using h
  · rintro rfl
    cases a with
    | add l => exact .added l n.registered
    | remove l => exact alters_remove n l

theorem altersAll_iff {as : List Alteration} :
    AltersAll as n.registered ls ↔ (as.foldl altered n).registered = ls := by
  induction as generalizing n with
  | nil =>
    constructor
    · intro h
      cases h
      rfl
    · rintro rfl
      exact .nil _
  | cons a as ih =>
    rw [List.foldl_cons, ← ih]
    constructor
    · intro h
      cases h with
      | cons first rest => rwa [alters_iff.1 first]
    · exact fun h => .cons (alters_iff.2 rfl) h

theorem foldl_altered_directory (n : Notifier) (as : List Alteration) :
    (as.foldl altered n).directory = n.directory := by
  induction as generalizing n with
  | nil => rfl
  | cons a as ih => rw [List.foldl_cons, ih, altered_directory]

/-- Notifiers are equal when their lists are and labels name the same listeners. -/
theorem eq_foldl_altered_iff {as : List Alteration} :
    as.foldl altered n = n' ↔ n'.directory = n.directory ∧ AltersAll as n.registered n'.registered := by
  rw [altersAll_iff]
  constructor
  · rintro rfl
    exact ⟨foldl_altered_directory n as, rfl⟩
  · rintro ⟨hdirectory, hregistered⟩
    rw [← foldl_altered_directory n as] at hdirectory
    generalize as.foldl altered n = m at hdirectory hregistered
    cases m
    cases n'
    simp_all

/-! ## Calls -/

/-- The alteration that a hook asks for by a label, if the label names a listener. -/
def alteration? (directory : Ordered String Listener) : Change → Option Alteration
  | .add label => (directory.get? label).map .add
  | .remove label => (directory.get? label).map .remove

/-- What a hook alters: what it asks for, up to the first label that names nobody. -/
def alterations (directory : Ordered String Listener) (changes : List Change) : List Alteration :=
  ((changes.map (alteration? directory)).takeWhile Option.isSome).reduceOption

/-- A hook that was called: whose it is, whether it records the event, what it alters one after the other,
and whether it fails after that. -/
structure Call where
  listener : Listener
  records : Bool
  alterations : List Alteration
  fails : Bool

/-- What comes of calling the hook of a listener, unless there is no hook.  What cannot be called fails at
once, and so does a hook at a label that names nobody. -/
def callOf (directory : Ordered String Listener) (e : Event) (l : Listener) : Option Call :=
  match l.hook e.kind with
  | .absent => none
  | .broken => some ⟨l, false, [], true⟩
  | .callable records changes fails =>
      some ⟨l, records, alterations directory changes,
        fails || changes.any (fun c => (alteration? directory c).isNone)⟩

/-- What a called listener records. -/
def Call.deliveries (e : Event) (c : Call) : List Delivery :=
  if c.records then [⟨c.listener.label, e⟩] else []

/-- How listeners behave in the course of an event: the hooks that the listener at each place of the
snapshot has when its turn comes. -/
def Mood := Nat → Listener → EventKind → Hook

/-- Listeners behave as they were registered. -/
def Mood.settled : Mood := fun _ l => l.hook

/-- The listeners of a snapshot as they behave when their turn comes. -/
def Mood.cast (mood : Mood) (ls : List Listener) : List Listener :=
  ls.mapIdx (fun i l => { l with hook := mood i l })

/-- The calls of an event.  They are read off the listeners that are registered when it starts. -/
def calls (n : Notifier) (mood : Mood) (e : Event) : List Call :=
  (mood.cast n.registered).filterMap (callOf n.directory e)

/-- Hand an event to the listeners that are registered now, who behave by the mood. -/
def dispatchIn (n : Notifier) (mood : Mood) (e : Event) : Notifier × List Delivery × List LogRecord :=
  deliver e (mood.cast n.registered) n

theorem dispatchIn_settled (n : Notifier) (e : Event) : n.dispatchIn .settled e = n.dispatch e := by
  have hcast : Mood.settled.cast n.registered = n.registered := by
    simp [Mood.cast, Mood.settled, List.mapIdx_eq_zipIdx_map]
  simp [dispatchIn, dispatch, hcast]

/-- Everybody with a hook is called, in order and as often as registered. -/
theorem calls_listeners (n : Notifier) (mood : Mood) (e : Event) :
    (n.calls mood e).map Call.listener =
      (mood.cast n.registered).filter (fun l => decide (l.hook e.kind ≠ .absent)) := by
  unfold calls
  induction mood.cast n.registered with
  | nil => rfl
  | cons l ls ih =>
    cases h : l.hook e.kind <;> simp [callOf, h, ih]

theorem alterations_cons (directory : Ordered String Listener) (c : Change) (changes : List Change) :
    alterations directory (c :: changes) =
      (alteration? directory c).elim [] (fun a => a :: alterations directory changes) := by
  cases h : alteration? directory c with
  | none => simp [alterations, h, List.reduceOption]
  | some a => simp [alterations, h, List.reduceOption]

theorem applyChanges_cons (n : Notifier) (c : Change) (changes : List Change) :
    n.applyChanges (c :: changes) =
      (alteration? n.directory c).elim (n, false) (fun a => (n.altered a).applyChanges changes) := by
  cases c with
  | add label => cases h : n.directory.get? label <;> simp [applyChanges, alteration?, altered, h]
  | remove label => cases h : n.directory.get? label <;> simp [applyChanges, alteration?, altered, h]

/-- A hook carries out what it asks for until a label names nobody. -/
theorem applyChanges_eq (n : Notifier) (changes : List Change) :
    n.applyChanges changes =
      ((alterations n.directory changes).foldl altered n,
        !changes.any (fun c => (alteration? n.directory c).isNone)) := by
  induction changes generalizing n with
  | nil => rfl
  | cons c changes ih =>
    rw [applyChanges_cons, alterations_cons]
    cases h : alteration? n.directory c with
    | none => simp [h]
    | some a => simp [h, ih]

theorem call_uncalled {e : Event} {l : Listener} (h : callOf n.directory e l = none) :
    n.call (l.hook e.kind) = (n, false) ∧ deliveryOf e l = [] := by
  cases hhook : l.hook e.kind with
  | absent => simp [call, deliveryOf, hhook]
  | broken => simp [callOf, hhook] at h
  | callable records changes fails => simp [callOf, hhook] at h

/-- A hook does what its call says. -/
theorem call_called {e : Event} {l : Listener} {c : Call} (h : callOf n.directory e l = some c) :
    n.call (l.hook e.kind) = (c.alterations.foldl altered n, c.fails) ∧
      deliveryOf e l = c.deliveries e ∧ c.listener = l := by
  cases hhook : l.hook e.kind with
  | absent => simp [callOf, hhook] at h
  | broken =>
    obtain rfl : ⟨l, false, [], true⟩ = c := by simpa [callOf, hhook] using h
    simp [call, deliveryOf, Call.deliveries, hhook]
  | callable records changes fails =>
    simp only [callOf, hhook, Option.some.injEq] at h
    subst h
    refine ⟨?_, ?_, rfl⟩
    · rw [call, applyChanges_eq]
      simp only [Bool.not_not]
    · cases records <;> simp [deliveryOf, Call.deliveries, hhook]

/-- One hook after the other does what its call says, on the list as those before it left it. -/
theorem deliver_eq (e : Event) (ls : List Listener) (n : Notifier) :
    deliver e ls n =
      (((ls.filterMap (callOf n.directory e)).flatMap Call.alterations).foldl altered n,
        (ls.filterMap (callOf n.directory e)).flatMap (Call.deliveries e),
        ((ls.filterMap (callOf n.directory e)).filter Call.fails).map
          (fun c => failureRecord e c.listener)) := by
  induction ls generalizing n with
  | nil => rfl
  | cons l ls ih =>
    cases h : callOf n.directory e l with
    | none =>
      obtain ⟨hcall, hdelivery⟩ := call_uncalled h
      simp [deliver, hcall, hdelivery, h, ih]
    | some c =>
      obtain ⟨hcall, hdelivery, hlistener⟩ := call_called h
      have hdirectory := foldl_altered_directory n c.alterations
      cases hfails : c.fails <;>
        simp [deliver, hcall, hdelivery, hdirectory, hlistener, hfails, h, ih]

/-! ## Events -/

/-- What an event comes to.  What is recorded and what is complained of are those of its calls, in their
order, and the list afterwards is the list before with everything altered that the calls altered, in the
order in which they did.  Labels name what they named. -/
structure Told (mood : Mood) (e : Event) (n : Notifier) (ds : List Delivery) (rs : List LogRecord)
    (n' : Notifier) : Prop where
  deliveries : ds = (n.calls mood e).flatMap (Call.deliveries e)
  complaints : rs = ((n.calls mood e).filter Call.fails).map (fun c => failureRecord e c.listener)
  registered : AltersAll ((n.calls mood e).flatMap Call.alterations) n.registered n'.registered
  directory : n'.directory = n.directory

variable {mood : Mood} {e : Event} {ds : List Delivery} {rs : List LogRecord}

theorem told_iff : Told mood e n ds rs n' ↔ n.dispatchIn mood e = (n', ds, rs) := by
  have hrun : n.dispatchIn mood e =
      (((n.calls mood e).flatMap Call.alterations).foldl altered n,
        (n.calls mood e).flatMap (Call.deliveries e),
        ((n.calls mood e).filter Call.fails).map (fun c => failureRecord e c.listener)) :=
    deliver_eq e (mood.cast n.registered) n
  rw [hrun, Prod.mk.injEq, Prod.mk.injEq, eq_foldl_altered_iff]
  constructor
  · intro h
    exact ⟨⟨h.directory, h.registered⟩, h.deliveries.symm, h.complaints.symm⟩
  · rintro ⟨⟨hdirectory, hregistered⟩, hdeliveries, hcomplaints⟩
    exact ⟨hdeliveries.symm, hcomplaints.symm, hregistered, hdirectory⟩

/-! ## Sequences -/

/-- Something that happens to a notifier: an event in the course of which listeners behave by a mood, an
alteration from outside, or a label that is given to a listener. -/
inductive Occasion where
  | event (e : Event) (mood : Mood)
  | alteration (a : Alteration)
  | naming (label : String) (l : Listener)

/-- The rule for each occasion.  Only events are recorded and complained of. -/
inductive Occurs : Occasion → Notifier → List Delivery → List LogRecord → Notifier → Prop where
  | event {e : Event} {mood : Mood} {n n' : Notifier} {ds : List Delivery} {rs : List LogRecord}
      (h : Told mood e n ds rs n') : Occurs (.event e mood) n ds rs n'
  | alteration {a : Alteration} {n n' : Notifier} (h : Alters a n.registered n'.registered)
      (hdirectory : n'.directory = n.directory) : Occurs (.alteration a) n [] [] n'
  | naming (label : String) (l : Listener) (n : Notifier) :
      Occurs (.naming label l) n [] [] { n with directory := n.directory.put label l }

/-- The rule for a sequence.  Each occasion finds what the one before it left. -/
inductive Course : List Occasion → Notifier → List Delivery → List LogRecord → Notifier → Prop where
  | nil (n : Notifier) : Course [] n [] [] n
  | cons {o : Occasion} {os : List Occasion} {n n' n'' : Notifier} {ds ds' : List Delivery}
      {rs rs' : List LogRecord} (first : Occurs o n ds rs n') (rest : Course os n' ds' rs' n'') :
      Course (o :: os) n (ds ++ ds') (rs ++ rs') n''

/-- Let something happen. -/
def occur (n : Notifier) : Occasion → Notifier × List Delivery × List LogRecord
  | .event e mood => n.dispatchIn mood e
  | .alteration a => (n.altered a, [], [])
  | .naming label l => ({ n with directory := n.directory.put label l }, [], [])

/-- Let things happen one after the other. -/
def occurAll : List Occasion → Notifier → Notifier × List Delivery × List LogRecord
  | [], n => (n, [], [])
  | o :: os, n =>
      let (n, ds, rs) := n.occur o
      let (n, ds', rs') := occurAll os n
      (n, ds ++ ds', rs ++ rs')

theorem occurs_iff {o : Occasion} : Occurs o n ds rs n' ↔ n.occur o = (n', ds, rs) := by
  cases o with
  | event e mood =>
    rw [occur, ← told_iff]
    constructor
    · intro h
      cases h with
      | event h => exact h
    · exact .event
  | alteration a =>
    have haltered : n.altered a = n' ↔ n'.directory = n.directory ∧ Alters a n.registered n'.registered := by
      have hone : [a].foldl altered n = n' ↔ _ := eq_foldl_altered_iff
      rw [altersAll_iff] at hone
      rw [alters_iff]
      exact hone
    simp only [occur, Prod.mk.injEq, haltered]
    constructor
    · intro h
      cases h with
      | alteration h hdirectory => exact ⟨⟨hdirectory, h⟩, rfl, rfl⟩
    · rintro ⟨⟨hdirectory, h⟩, rfl, rfl⟩
      exact .alteration h hdirectory
  | naming label l =>
    simp only [occur, Prod.mk.injEq]
    constructor
    · intro h
      cases h with
      | naming => exact ⟨rfl, rfl, rfl⟩
    · rintro ⟨rfl, rfl, rfl⟩
      exact .naming label l n

theorem course_iff {os : List Occasion} : Course os n ds rs n' ↔ occurAll os n = (n', ds, rs) := by
  induction os generalizing n n' ds rs with
  | nil =>
    simp only [occurAll, Prod.mk.injEq]
    constructor
    · intro h
      cases h with
      | nil => exact ⟨rfl, rfl, rfl⟩
    · rintro ⟨rfl, rfl, rfl⟩
      exact .nil n
  | cons o os ih =>
    constructor
    · intro h
      cases h with
      | cons first rest => simp [occurAll, occurs_iff.1 first, ih.1 rest]
    · intro h
      have hcourse := Course.cons (occurs_iff (n := n) (o := o).2 rfl) (ih.2 rfl)
      simp only [occurAll, Prod.mk.injEq] at h
      obtain ⟨rfl, rfl, rfl⟩ := h
      exact hcourse

/-- Events that are dispatched one after the other are a sequence in which listeners behave as they were
registered. -/
theorem dispatchAll_eq (es : List Event) (n : Notifier) :
    dispatchAll es n = occurAll (es.map (fun e => .event e .settled)) n := by
  induction es generalizing n with
  | nil => rfl
  | cons e es ih => simp [dispatchAll, occurAll, occur, dispatchIn_settled, ih]

end Notifier

open Notifier

/-- The listeners of a service have been told of events, one after the other.  What they recorded is kept for
them, and the failures of hooks are in the log. -/
def Service.Tells (es : List Event) (v v' : Service) : Prop :=
  ∃ ds rs, Course (es.map (fun e => .event e .settled)) v.notifier ds rs v'.notifier ∧
    v'.deliveries = v.deliveries ++ ds ∧ v'.store.log = v.store.log ++ rs

/-- Telling listeners of an event always ends well, whatever their hooks do.  Events that were waiting go
first. -/
theorem emit_done (e : Event) (w : Scenario.World) :
    ∃ v, Scenario.Act.outcome (Scenario.perform (.emit e)) w = (.ok .done, w.withService v) ∧
      w.app.service.Tells (w.app.service.store.events ++ [e]) v := by
  refine ⟨_, rfl, _, _, course_iff.2 ?_, rfl, rfl⟩
  exact (dispatchAll_eq (w.app.service.store.events ++ [e]) w.app.service.notifier).symm

/-- An event goes to exactly those who are registered when it starts.  It calls everybody with a hook, in
order and as often as registered, whatever the hooks called before altered or failed at; it comes to what
these calls say, and to nothing else; telling never fails; and the rules leave no choice in any sequence of
events, alterations and namings: what is recorded, what is complained of and who is registered in the end
are determined by them. -/
theorem dispatch_determined :
    (∀ (n : Notifier) (mood : Mood) (e : Event), (n.calls mood e).map Call.listener =
      (mood.cast n.registered).filter (fun l => decide (l.hook e.kind ≠ .absent))) ∧
    (∀ (n n' : Notifier) (e : Event) (ds : List Delivery) (rs : List LogRecord),
      Told .settled e n ds rs n' ↔ n.dispatch e = (n', ds, rs)) ∧
    (∀ (n n' : Notifier) (mood : Mood) (e : Event) (ds : List Delivery) (rs : List LogRecord),
      Told mood e n ds rs n' ↔ deliver e (mood.cast n.registered) n = (n', ds, rs)) ∧
    (∀ (os : List Occasion) (n n' : Notifier) (ds : List Delivery) (rs : List LogRecord),
      Course os n ds rs n' ↔ occurAll os n = (n', ds, rs)) ∧
    (∀ (e : Event) (w : Scenario.World),
      ∃ v, Scenario.Act.outcome (Scenario.perform (.emit e)) w = (.ok .done, w.withService v) ∧
        w.app.service.Tells (w.app.service.store.events ++ [e]) v) := by
  refine ⟨calls_listeners, ?_, fun _ _ _ _ _ _ => told_iff, fun _ _ _ _ _ => course_iff, emit_done⟩
  intro n n' e ds rs
  rw [told_iff, dispatchIn_settled]

end TileDepot
