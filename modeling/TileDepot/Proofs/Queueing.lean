import Mathlib.Algebra.Order.BigOperators.Group.Finset
import Mathlib.Data.Fintype.Card
import Mathlib.Data.Fintype.EquivFin
import TileDepot.Proofs.LockOrder

/-!
# Callers that wait for each other's locks

Some callers, each with layers of its own, take the locks for their layers one after the other, do something,
and give the locks back, the last one first.  A lock is looked up by its path and made if there is none; it
is forgotten once nobody holds it or waits for it, and the next one to ask for the path makes a new one.  A
caller that was given a lock waits until nobody else holds it.  What a caller does while it has all of its
locks takes none but these again, which never makes it wait.  Whoever needs a single lock, as for opening a
layer or for closing its handles, is a caller with one layer.

A `Queue` is how far all callers have come, with the table of locks, and `Next` is what can happen in it.

* `Sound` lists what holds in every state that can be reached: every caller has taken the first of its locks in
  their order, everybody who asked for a path has the same lock in hand, and no two callers hold one.
  `Sound.next` is about one step and `sound_of_reachable` about runs.
* `paths_apart` says that two callers never hold locks of one path.
* `waitsFor_precedes` says that whoever is waited for waits for a later path, so that nobody waits for itself
  in the end (`waits_acyclic`), and `exists_advances` that somebody can go on.
* `ahead_lt` says that callers do not go on forever, and `drains` that all can come to their end.
* `locks_taken_in_order` is the statement about the locks of layers.
-/

namespace TileDepot

/-! ## Callers -/

/-- A lock: the path for which it was made, and its number, which tells it from all others. -/
structure Stripe where
  path : Path
  number : Nat
  deriving DecidableEq

/-- How far a caller has come.  It holds its first locks and is about to ask for the next one, or has all; it
has asked for the next one and waits for it; or it gives its locks back. -/
inductive Caller where
  | taking (held : List Stripe)
  | waiting (held : List Stripe) (next : Stripe)
  | giving (held : List Stripe)
  deriving DecidableEq

namespace Caller

/-- The locks that a caller holds, in the order in which it took them. -/
def held : Caller → List Stripe
  | taking held => held
  | waiting held _ => held
  | giving held => held

/-- The lock that a caller waits for. -/
def awaited : Caller → Option Stripe
  | waiting _ next => some next
  | _ => none

/-- The locks that a caller holds and the one that it waits for. -/
def inHand (c : Caller) : List Stripe := c.held ++ c.awaited.toList

@[simp] theorem inHand_taking (held : List Stripe) : (taking held).inHand = held := List.append_nil held

@[simp] theorem inHand_waiting (held : List Stripe) (s : Stripe) : (waiting held s).inHand = held ++ [s] := rfl

@[simp] theorem inHand_giving (held : List Stripe) : (giving held).inHand = held := List.append_nil held

theorem mem_inHand {c : Caller} {s : Stripe} : s ∈ c.inHand ↔ s ∈ c.held ∨ c.awaited = some s := by
  rw [inHand, List.mem_append, Option.mem_toList]

/-- A caller holds the lock with a number. -/
def Holds (c : Caller) (n : Nat) : Prop := ∃ s ∈ c.held, s.number = n

/-- A caller has given everything back. -/
def IsDone (c : Caller) : Prop := c = giving []

/-- How many moves are left to a caller that needs a number of locks. -/
def ahead (n : Nat) : Caller → Nat
  | taking held => 3 * n + 1 - 2 * held.length
  | waiting held _ => 3 * n - 2 * held.length
  | giving held => held.length

end Caller

/-- How far callers have come, the locks that can be looked up, and how many locks were made. -/
structure Queue (ι : Type) where
  callers : ι → Caller
  table : Ordered Path Nat
  made : Nat

namespace Queue

variable {ι : Type}

/-- Nobody has asked for anything yet. -/
def fresh : Queue ι := ⟨fun _ => .taking [], [], 0⟩

/-- A new lock is made for a path. -/
def enlist (σ : Queue ι) (p : Path) : Queue ι :=
  { σ with table := σ.table.put p σ.made, made := σ.made + 1 }

/-- A caller waits for a lock that another one holds. -/
def WaitsFor (σ : Queue ι) (i j : ι) : Prop :=
  ∃ s, (σ.callers i).awaited = some s ∧ (σ.callers j).Holds s.number

section Steps

variable [DecidableEq ι]

/-- A caller has come to another point. -/
def turn (σ : Queue ι) (i : ι) (c : Caller) : Queue ι := { σ with callers := Function.update σ.callers i c }

/-- What a caller that needs the locks of some paths can do: ask for the next one, of which there is a lock or
is none; take the lock that it waits for once nobody else holds it; go over to giving back when it has all; and
give the last one back. -/
inductive Advances (order : ι → List Path) (σ : Queue ι) (i : ι) : Queue ι → Prop
  | found {held : List Stripe} {p : Path} {n : Nat} : σ.callers i = .taking held →
      (order i)[held.length]? = some p → σ.table.get? p = some n →
      Advances order σ i (σ.turn i (.waiting held ⟨p, n⟩))
  | made {held : List Stripe} {p : Path} : σ.callers i = .taking held →
      (order i)[held.length]? = some p → σ.table.get? p = none →
      Advances order σ i ((σ.enlist p).turn i (.waiting held ⟨p, σ.made⟩))
  | took {held : List Stripe} {s : Stripe} : σ.callers i = .waiting held s →
      (∀ j, j ≠ i → ¬ (σ.callers j).Holds s.number) →
      Advances order σ i (σ.turn i (.taking (held ++ [s])))
  | full {held : List Stripe} : σ.callers i = .taking held → (order i)[held.length]? = none →
      Advances order σ i (σ.turn i (.giving held))
  | gave {held : List Stripe} {s : Stripe} : σ.callers i = .giving (held ++ [s]) →
      Advances order σ i (σ.turn i (.giving held))

/-- What can happen: a caller goes on, or a lock that nobody has in hand is forgotten. -/
inductive Next (order : ι → List Path) (σ : Queue ι) : Queue ι → Prop
  | advance {i : ι} {τ : Queue ι} : Advances order σ i τ → Next order σ τ
  | forget {p : Path} : (∀ i, ∀ s ∈ (σ.callers i).inHand, s.path ≠ p) →
      Next order σ { σ with table := σ.table.drop p }

/-- A state that the callers can come to. -/
def Reachable (order : ι → List Path) : Queue ι → Prop := Relation.ReflTransGen (Next order) fresh

end Steps

/-! ## What holds in every state -/

/-- Every caller has the first of its locks in hand, in their order, and they are those of the table, where
different paths have different locks; and nobody holds what another one holds. -/
structure Sound (order : ι → List Path) (σ : Queue ι) : Prop where
  first : ∀ i, (σ.callers i).inHand.map (·.path) <+: order i
  listed : ∀ i, ∀ s ∈ (σ.callers i).inHand, σ.table.get? s.path = some s.number
  distinct : ∀ p q n, σ.table.get? p = some n → σ.table.get? q = some n → p = q
  fewer : ∀ p n, σ.table.get? p = some n → n < σ.made
  apart : ∀ i j n, i ≠ j → (σ.callers i).Holds n → ¬ (σ.callers j).Holds n

section Sound

variable {order : ι → List Path} {σ τ : Queue ι} {i j : ι} {c : Caller} {p : Path}

theorem sound_fresh (order : ι → List Path) : Sound order fresh where
  first i := List.nil_prefix
  listed i s hs := by cases hs
  distinct p q n h := by cases h
  fewer p n h := by cases h
  apart i j n _ h := by
    obtain ⟨s, hs, -⟩ := h
    cases hs

theorem get?_enlist (σ : Queue ι) (p q : Path) :
    (σ.enlist p).table.get? q = if p = q then some σ.made else σ.table.get? q :=
  Ordered.get?_put σ.table p q σ.made

/-- A lock may be made for a path that has none. -/
theorem Sound.enlist (h : Sound order σ) (hp : σ.table.get? p = none) : Sound order (σ.enlist p) where
  first := h.first
  listed j s hs := by
    have hlisted := h.listed j s hs
    rw [get?_enlist, if_neg, hlisted]
    rintro rfl
    rw [hp] at hlisted
    cases hlisted
  distinct q r n hq hr := by
    -- The new number is larger than all in the table.
    have hnew : ∀ x, σ.table.get? x ≠ some σ.made := fun x hx => Nat.lt_irrefl _ (h.fewer x _ hx)
    rw [get?_enlist] at hq hr
    split at hq
    · cases hq
      split at hr
      · rename_i hpq hpr
        exact hpq.symm.trans hpr
      · exact absurd hr (hnew r)
    · split at hr
      · cases hr
        exact absurd hq (hnew q)
      · exact h.distinct q r n hq hr
  fewer q n hq := by
    rw [get?_enlist] at hq
    split at hq
    · cases hq
      exact Nat.lt_succ_self _
    · exact Nat.lt_succ_of_lt (h.fewer q n hq)
  apart := h.apart

/-- A lock may be forgotten that nobody has in hand. -/
theorem Sound.forget (h : Sound order σ) (hp : ∀ i, ∀ s ∈ (σ.callers i).inHand, s.path ≠ p) :
    Sound order { σ with table := σ.table.drop p } where
  first := h.first
  listed j s hs := (Ordered.get?_drop_of_ne _ (hp j s hs).symm).trans (h.listed j s hs)
  distinct q r n hq hr :=
    h.distinct q r n (Ordered.get?_of_get?_drop hq) (Ordered.get?_of_get?_drop hr)
  fewer q n hq := h.fewer q n (Ordered.get?_of_get?_drop hq)
  apart := h.apart

variable [DecidableEq ι]

theorem callers_turn (σ : Queue ι) (i j : ι) (c : Caller) :
    (σ.turn i c).callers j = if j = i then c else σ.callers j :=
  Function.update_apply σ.callers i c j

/-- A caller may come to any point where it has the first of its locks in hand, as they are in the table, and
holds no new one that another one holds. -/
theorem Sound.turn (h : Sound order σ) (hfirst : c.inHand.map (·.path) <+: order i)
    (hlisted : ∀ s ∈ c.inHand, s ∈ (σ.callers i).inHand ∨ σ.table.get? s.path = some s.number)
    (hapart : ∀ s ∈ c.held, s ∈ (σ.callers i).held ∨ ∀ j, j ≠ i → ¬ (σ.callers j).Holds s.number) :
    Sound order (σ.turn i c) := by
  have hothers : ∀ j n, j ≠ i → c.Holds n → ¬ (σ.callers j).Holds n := by
    rintro j n hj ⟨s, hs, rfl⟩
    rcases hapart s hs with hold | hnew
    · exact h.apart i j _ hj.symm ⟨s, hold, rfl⟩
    · exact hnew j hj
  refine ⟨fun j => ?_, fun j => ?_, h.distinct, h.fewer, fun j k n hjk hj hk => ?_⟩
  · rw [callers_turn]
    split
    · rename_i hj
      exact hj ▸ hfirst
    · exact h.first j
  · rw [callers_turn]
    split
    · exact fun s hs => (hlisted s hs).elim (h.listed i s) id
    · exact h.listed j
  · rw [callers_turn] at hj hk
    split at hj
    · rename_i hji
      have hki : k ≠ i := fun hki => hjk (hji.trans hki.symm)
      rw [if_neg hki] at hk
      exact hothers k n hki hj hk
    · rename_i hji
      split at hk
      · exact hothers j n hji hk hj
      · exact h.apart j k n hjk hj hk

/-- A caller that asks for its next lock has the first ones in hand, with the new one. -/
theorem Sound.asks {held : List Stripe} {s : Stripe} (h : Sound order σ) (hc : σ.callers i = .taking held)
    (hp : (order i)[held.length]? = some s.path) (hs : σ.table.get? s.path = some s.number) :
    Sound order (σ.turn i (.waiting held s)) := by
  have hfirst := h.first i
  rw [hc, Caller.inHand_taking] at hfirst
  rw [← List.length_map Stripe.path] at hp
  obtain ⟨hless, hpath⟩ := List.getElem?_eq_some_iff.1 hp
  refine h.turn ?_ (fun r hr => ?_) fun r hr => .inl (by rwa [hc])
  · rw [Caller.inHand_waiting, List.map_append, List.map_singleton, ← hpath]
    exact List.concat_get_prefix hfirst hless
  · rw [hc, Caller.inHand_taking]
    rcases List.mem_append.1 hr with hr | hr
    · exact .inl hr
    · cases List.mem_singleton.1 hr
      exact .inr hs

/-- What holds is kept when a caller goes on. -/
theorem Sound.advances (h : Sound order σ) (hi : Advances order σ i τ) : Sound order τ := by
  have hfirst := h.first i
  cases hi with
  | found hc hp hn => exact h.asks hc hp hn
  | made hc hp hn =>
    refine (h.enlist hn).asks hc hp ?_
    rw [get?_enlist, if_pos rfl]
  | took hc hfree =>
    rw [hc, Caller.inHand_waiting] at hfirst
    refine h.turn (by rwa [Caller.inHand_taking]) (fun r hr => .inl ?_) fun r hr => ?_
    · rw [hc, Caller.inHand_waiting]
      rwa [Caller.inHand_taking] at hr
    · rw [hc]
      rcases List.mem_append.1 hr with hr | hr
      · exact .inl hr
      · cases List.mem_singleton.1 hr
        exact .inr hfree
  | full hc _ =>
    rw [hc] at hfirst
    exact h.turn hfirst (fun r hr => .inl (by rwa [hc])) fun r hr => .inl (by rwa [hc])
  | @gave held s hc =>
    rw [hc, Caller.inHand_giving, List.map_append] at hfirst
    have hless : ∀ r ∈ held, r ∈ held ++ [s] := fun r hr => List.mem_append_left [s] hr
    refine h.turn ?_ (fun r hr => .inl ?_) fun r hr => .inl ?_
    · rw [Caller.inHand_giving]
      exact (List.prefix_append _ _).trans hfirst
    · rw [Caller.inHand_giving] at hr
      rw [hc, Caller.inHand_giving]
      exact hless r hr
    · rw [hc]
      exact hless r hr

theorem Sound.next (h : Sound order σ) (hnext : Next order σ τ) : Sound order τ := by
  cases hnext with
  | advance hi => exact h.advances hi
  | forget hp => exact h.forget hp

theorem sound_of_reachable (hσ : Reachable order σ) : Sound order σ := by
  induction hσ with
  | refl => exact sound_fresh order
  | tail _ hnext ih => exact ih.next hnext

/-- Two callers never hold locks of one path at a time, although locks are forgotten and made anew. -/
theorem paths_apart {s t : Stripe} (hσ : Reachable order σ) (hij : i ≠ j) (hs : s ∈ (σ.callers i).held)
    (ht : t ∈ (σ.callers j).held) : s.path ≠ t.path := by
  have h := sound_of_reachable hσ
  intro hpath
  have hnumbers : some s.number = some t.number := by
    rw [← h.listed i s (Caller.mem_inHand.2 (.inl hs)), hpath, h.listed j t (Caller.mem_inHand.2 (.inl ht))]
  exact h.apart i j s.number hij ⟨s, hs, rfl⟩ ⟨t, ht, (Option.some.inj hnumbers).symm⟩

end Sound

/-! ## Nobody waits for itself -/

section Waiting

variable {order : ι → List Path} {σ τ : Queue ι} {i j : ι} {s t : Stripe}

/-- Whoever holds a lock that is waited for waits for a later path, if for any. -/
theorem waitsFor_precedes (h : Sound order σ) (hinc : ∀ i, (order i).Pairwise Path.Precedes)
    (hs : (σ.callers i).awaited = some s) (hij : σ.WaitsFor i j) (ht : (σ.callers j).awaited = some t) :
    s.path.Precedes t.path := by
  obtain ⟨_, hs', r, hr, hnumber⟩ := hij
  cases hs.symm.trans hs'
  -- The lock that `j` holds is the one for the path that `i` asked for.
  have hlisted : σ.table.get? s.path = some s.number := h.listed i s (Caller.mem_inHand.2 (.inr hs))
  have hheld : σ.table.get? r.path = some s.number := by
    rw [h.listed j r (Caller.mem_inHand.2 (.inl hr)), hnumber]
  rw [h.distinct _ _ _ hlisted hheld]
  -- And `j` took it before the one that it waits for.
  have hfirst := (hinc j).sublist (h.first j).sublist
  rw [Caller.inHand, ht, List.map_append] at hfirst
  exact (List.pairwise_append.1 hfirst).2.2 _ (List.mem_map_of_mem hr) _ (List.mem_singleton_self _)

theorem precedes_of_transGen (h : Sound order σ) (hinc : ∀ i, (order i).Pairwise Path.Precedes)
    (hs : (σ.callers i).awaited = some s) (hij : Relation.TransGen σ.WaitsFor i j)
    (ht : (σ.callers j).awaited = some t) : s.path.Precedes t.path := by
  induction hij generalizing t with
  | single hij => exact waitsFor_precedes h hinc hs hij ht
  | tail _ hkj ih =>
    obtain ⟨r, hr, -⟩ := id hkj
    exact (ih hr).trans (waitsFor_precedes h hinc hr hkj ht)

/-- Where locks are taken in increasing order, nobody waits for itself, whether directly or through others. -/
theorem waits_acyclic (h : Sound order σ) (hinc : ∀ i, (order i).Pairwise Path.Precedes) (i : ι) :
    ¬ Relation.TransGen σ.WaitsFor i i := by
  intro hii
  obtain ⟨_, ⟨s, hs, -⟩, -⟩ := Relation.TransGen.head'_iff.1 hii
  exact Std.Irrefl.irrefl s.path (precedes_of_transGen h hinc hs hii hs)

/-- Among finitely many callers every chain of waiting ends. -/
theorem waits_wellFounded [Finite ι] (h : Sound order σ) (hinc : ∀ i, (order i).Pairwise Path.Precedes) :
    WellFounded (flip σ.WaitsFor) := by
  have htrans : IsTrans ι (Relation.TransGen (flip σ.WaitsFor)) := ⟨fun _ _ _ => Relation.TransGen.trans⟩
  have hirrefl : Std.Irrefl (Relation.TransGen (flip σ.WaitsFor)) :=
    ⟨fun i hi => waits_acyclic h hinc i (Relation.transGen_swap.1 hi)⟩
  exact Subrelation.wf Relation.TransGen.single (Finite.wellFounded_of_trans_of_irrefl _)

end Waiting

/-! ## Somebody goes on -/

section Progress

variable [DecidableEq ι] {order : ι → List Path} {σ τ : Queue ι} {i : ι}

/-- A caller that waits for nobody goes on until it is done. -/
theorem exists_advances_of_free (hfree : ∀ j, ¬ σ.WaitsFor i j) (hdone : ¬ (σ.callers i).IsDone) :
    ∃ τ, Advances order σ i τ := by
  cases hc : σ.callers i with
  | taking held =>
    cases hp : (order i)[held.length]? with
    | none => exact ⟨_, .full hc hp⟩
    | some p =>
      cases hn : σ.table.get? p with
      | none => exact ⟨_, .made hc hp hn⟩
      | some n => exact ⟨_, .found hc hp hn⟩
  | waiting held s =>
    refine ⟨_, .took hc fun j _ hj => hfree j ⟨s, ?_, hj⟩⟩
    rw [hc]
    rfl
  | giving held =>
    rcases List.eq_nil_or_concat held with rfl | ⟨held, s, rfl⟩
    · exact absurd hc hdone
    · exact ⟨_, .gave (hc.trans (by rw [List.concat_eq_append]))⟩

/-- Whoever is not done waits in the end for a caller that can go on, or can go on itself. -/
theorem exists_advances [Finite ι] (h : Sound order σ) (hinc : ∀ i, (order i).Pairwise Path.Precedes)
    (hdone : ¬ (σ.callers i).IsDone) :
    ∃ j τ, Relation.ReflTransGen σ.WaitsFor i j ∧ Advances order σ j τ := by
  induction i using (waits_wellFounded h hinc).induction with
  | _ i ih =>
    by_cases hfree : ∃ k, σ.WaitsFor i k
    · obtain ⟨k, hik⟩ := hfree
      obtain ⟨_, -, r, hr, -⟩ := id hik
      have hk : ¬ (σ.callers k).IsDone := by
        intro hk
        rw [hk] at hr
        cases hr
      obtain ⟨j, τ, hkj, hj⟩ := ih k hik hk
      exact ⟨j, τ, hkj.head hik, hj⟩
    · obtain ⟨τ, hτ⟩ := exists_advances_of_free (not_exists.1 hfree) hdone
      exact ⟨i, τ, .refl, hτ⟩

/-- A caller that goes on has a move less ahead of it, and nobody else has moved. -/
theorem Advances.ahead_lt (h : Sound order σ) (hi : Advances order σ i τ) :
    (τ.callers i).ahead (order i).length < (σ.callers i).ahead (order i).length := by
  have hlength := (h.first i).length_le
  rw [List.length_map] at hlength
  cases hi with
  | found hc hp _ | made hc hp _ =>
    have hmore := (List.getElem?_eq_some_iff.1 hp).1
    rw [callers_turn, if_pos rfl, hc, Caller.ahead, Caller.ahead]
    omega
  | took hc _ =>
    rw [hc, Caller.inHand_waiting, List.length_append, List.length_singleton] at hlength
    rw [callers_turn, if_pos rfl, hc, Caller.ahead, Caller.ahead, List.length_append, List.length_singleton]
    omega
  | full hc hp =>
    have hall := List.getElem?_eq_none_iff.1 hp
    rw [hc, Caller.inHand_taking] at hlength
    rw [callers_turn, if_pos rfl, hc, Caller.ahead, Caller.ahead]
    omega
  | gave hc =>
    rw [callers_turn, if_pos rfl, hc, Caller.ahead, Caller.ahead, List.length_append, List.length_singleton]
    omega

theorem Advances.callers_of_ne (hi : Advances order σ i τ) {j : ι} (hj : j ≠ i) :
    τ.callers j = σ.callers j := by
  cases hi with
  | found _ _ _ | made _ _ _ | took _ _ | full _ _ | gave _ => exact Function.update_of_ne hj _ _

variable [Fintype ι]

/-- How many moves are ahead of all callers together. -/
def ahead (order : ι → List Path) (σ : Queue ι) : Nat := ∑ i, (σ.callers i).ahead (order i).length

theorem ahead_lt (h : Sound order σ) (hi : Advances order σ i τ) : τ.ahead order < σ.ahead order := by
  refine Finset.sum_lt_sum (fun j _ => ?_) ⟨i, Finset.mem_univ i, hi.ahead_lt h⟩
  by_cases hj : j = i
  · exact hj ▸ (hi.ahead_lt h).le
  · rw [hi.callers_of_ne hj]

/-- Every state leads to one in which all callers are done. -/
theorem drains (hinc : ∀ i, (order i).Pairwise Path.Precedes) (h : Sound order σ) :
    ∃ τ, Relation.ReflTransGen (Next order) σ τ ∧ ∀ i, (τ.callers i).IsDone := by
  induction hn : σ.ahead order using Nat.strong_induction_on generalizing σ with
  | _ n ih =>
    by_cases hall : ∀ i, (σ.callers i).IsDone
    · exact ⟨σ, .refl, hall⟩
    · obtain ⟨i, hi⟩ := not_forall.1 hall
      obtain ⟨j, τ, -, hj⟩ := exists_advances h hinc hi
      obtain ⟨υ, hrun, hυ⟩ := ih _ (hn ▸ ahead_lt h hj) (h.advances hj) rfl
      exact ⟨υ, hrun.head (.advance hj), hυ⟩

end Progress

end Queue

/-! ## The locks of layers -/

namespace Store

open Layer

/-- The locks for some layers are those of their paths, each taken once, in increasing order, and they are the
same in the same order for all names with these paths.  However many callers take locks in this way, nobody
ever waits for itself, not even through others, and whoever is not done can go on or waits in the end for a
caller that can. -/
theorem locks_taken_in_order (c : StoreConfig) :
    (∀ (s : Store) (layers : List String), s.config = c → (∀ m ∈ layers, m ≠ "") →
      ∃ order, Step.outcome (lockOrder layers) s = (.ok order, s) ∧ LockOrder c layers order ∧
        ∀ (t : Store) (others : List String), t.config = c → (∀ m ∈ others, m ≠ "") →
          (∀ p, IsPathOf c layers p ↔ IsPathOf c others p) →
            Step.outcome (lockOrder others) t = (.ok order, t)) ∧
    ∀ (ι : Type) [Finite ι] [DecidableEq ι] (calls : ι → List String) (order : ι → List Path),
      (∀ i, ∀ m ∈ calls i, m ≠ "") →
      (∀ i, ∃ s : Store, s.config = c ∧ Step.outcome (lockOrder (calls i)) s = (.ok (order i), s)) →
      ∀ σ, Queue.Reachable order σ →
        (∀ i, (σ.callers i).inHand.map (·.path) <+: order i) ∧
        (∀ i, ¬ Relation.TransGen σ.WaitsFor i i) ∧
        ∀ i, ¬ (σ.callers i).IsDone →
          ∃ j τ, Relation.ReflTransGen σ.WaitsFor i j ∧ Queue.Advances order σ j τ := by
  refine ⟨?_, ?_⟩
  · rintro s layers rfl hne
    refine ⟨_, lockOrder_eq hne, lockOrder_ordered s layers, fun t others ht hothers hsame => ?_⟩
    rw [lockOrder_eq hothers, (lockOrder_ordered s layers).unique (ht ▸ lockOrder_ordered t others) hsame]
  · intro ι _ _ calls order hne horder σ hσ
    have hinc : ∀ i, (order i).Pairwise Path.Precedes := by
      intro i
      obtain ⟨s, -, hs⟩ := horder i
      rw [lockOrder_eq (hne i), Prod.mk.injEq, Except.ok.injEq] at hs
      exact hs.1 ▸ (lockOrder_ordered s (calls i)).increasing
    have hsound := Queue.sound_of_reachable hσ
    exact ⟨hsound.first, Queue.waits_acyclic hsound hinc, fun i => Queue.exists_advances hsound hinc⟩

/-- A store without files. -/
def crossingStore : Store :=
  fresh ⟨⟨.here, ["layers"]⟩, ".sqlite", true⟩ (Disk.ofDirectory "layers") ⟨false, false⟩

/-- Two callers that name the same two layers, each in its own way. -/
def crossingCalls : Fin 2 → List String
  | 0 => ["roads", "main streets"]
  | 1 => ["main/streets", "roads", "main_streets"]

/-- The paths of the two layers. -/
def crossingOrder : List Path :=
  [⟨.here, ["layers", "main_streets.sqlite"]⟩, ⟨.here, ["layers", "roads.sqlite"]⟩]

/-- The lock that both need first. -/
def crossingStripe : Stripe := ⟨⟨.here, ["layers", "main_streets.sqlite"]⟩, 0⟩

/-- The first caller has asked for this lock, which is a new one. -/
def crossingAsked : Queue (Fin 2) :=
  (Queue.fresh.enlist crossingStripe.path).turn 0 (.waiting [] crossingStripe)

/-- The first caller holds it, and the second one waits for it. -/
def crossingQueue : Queue (Fin 2) :=
  (crossingAsked.turn 0 (.taking [crossingStripe])).turn 1 (.waiting [] crossingStripe)

theorem crossingQueue_reachable : Queue.Reachable (fun _ => crossingOrder) crossingQueue := by
  have hasked : Queue.Advances (fun _ => crossingOrder) Queue.fresh 0 crossingAsked := .made rfl rfl rfl
  have htook : Queue.Advances (fun _ => crossingOrder) crossingAsked 0
      (crossingAsked.turn 0 (.taking [crossingStripe])) := by
    have hc : crossingAsked.callers 0 = .waiting [] crossingStripe := rfl
    refine .took hc ?_
    rintro j hj ⟨s, hs, -⟩
    obtain rfl : j = 1 := by omega
    cases hs
  have hfound : Queue.Advances (fun _ => crossingOrder) (crossingAsked.turn 0 (.taking [crossingStripe])) 1
      crossingQueue := .found rfl rfl rfl
  exact ((Relation.ReflTransGen.single (.advance hasked)).tail (.advance htook)).tail (.advance hfound)

/-- Both callers take the same locks, and while the second one waits for the first one, the first one goes on. -/
theorem crossingCalls_go_on :
    (∀ i, Step.outcome (lockOrder (crossingCalls i)) crossingStore = (.ok crossingOrder, crossingStore)) ∧
      crossingQueue.WaitsFor 1 0 ∧ ¬ crossingQueue.WaitsFor 0 1 ∧
      ∃ j τ, Relation.ReflTransGen crossingQueue.WaitsFor 1 j ∧
        Queue.Advances (fun _ => crossingOrder) crossingQueue j τ := by
  have hne : ∀ i, ∀ m ∈ crossingCalls i, m ≠ "" := by decide
  have hin : ∀ i, inOrder ((crossingCalls i).filterMap crossingStore.pathOf?) = crossingOrder := by
    decide +kernel
  have hpaths : ∀ i p, IsPathOf crossingStore.config (crossingCalls i) p ↔ p ∈ crossingOrder := by
    intro i p
    rw [← (lockOrder_ordered crossingStore (crossingCalls i)).mem, hin]
  obtain ⟨horders, hqueues⟩ := locks_taken_in_order crossingStore.config
  obtain ⟨order, hfirst, -, hothers⟩ := horders crossingStore (crossingCalls 0) rfl (hne 0)
  rw [lockOrder_eq (hne 0), hin, Prod.mk.injEq, Except.ok.injEq] at hfirst
  obtain ⟨rfl, -⟩ := hfirst
  have horder : ∀ i,
      Step.outcome (lockOrder (crossingCalls i)) crossingStore = (.ok crossingOrder, crossingStore) :=
    fun i => hothers crossingStore _ rfl (hne i) fun p => (hpaths 0 p).trans (hpaths i p).symm
  have hwaits : crossingQueue.WaitsFor 1 0 :=
    ⟨crossingStripe, rfl, crossingStripe, List.mem_singleton_self _, rfl⟩
  obtain ⟨-, hacyclic, hprogress⟩ := hqueues (Fin 2) crossingCalls (fun _ => crossingOrder) hne
    (fun i => ⟨crossingStore, rfl, horder i⟩) crossingQueue crossingQueue_reachable
  refine ⟨horder, hwaits, fun hback => hacyclic 1 ((Relation.TransGen.single hwaits).tail hback), ?_⟩
  exact hprogress 1 fun hdone => by cases hdone

end Store

end TileDepot
