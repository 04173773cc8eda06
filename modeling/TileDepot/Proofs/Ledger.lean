import Mathlib.Data.List.Nodup
import TileDepot.Ordered

/-!
# Finite maps

A `Ledger` is a list of pairs in insertion order whose keys are distinct, so that it is a finite map.
`put` replaces the value of a key that is there and appends any other, `drop` removes a key, and
`discard` removes all keys that pass a test.

* `get?_put`, `get?_drop` and `get?_discard` say what each of them does to every look-up, and `perm_of_get?`
  that look-ups determine the pairs up to their order.
* `map_update` says that rewriting every pair with a key is `put`, and `put_of_not_mem` that a new key
  is appended: this is what ties the map to a table without a unique index.
-/

namespace TileDepot

/-- A finite map as its pairs in insertion order. -/
structure Ledger (κ : Type) (ν : Type) where
  pairs : Ordered κ ν
  nodup : (Ordered.keys pairs).Nodup
  deriving DecidableEq

namespace Ordered

variable {κ ν : Type} [DecidableEq κ]

theorem get?_of_mem {m : Ordered κ ν} {key : κ} {value : ν} (h : m.keys.Nodup) (hm : (key, value) ∈ m) :
    m.get? key = some value := by
  induction m with
  | nil => cases hm
  | cons e m ih =>
    obtain ⟨k, v⟩ := e
    rw [keys, List.map_cons, List.nodup_cons] at h
    rcases List.mem_cons.1 hm with he | he
    · cases he
      rw [get?, if_pos rfl]
    · have hk : k ≠ key := by
        rintro rfl
        exact h.1 (List.mem_map.2 ⟨_, he, rfl⟩)
      rw [get?, if_neg hk]
      exact ih h.2 he

theorem mem_of_get? {m : Ordered κ ν} {key : κ} {value : ν} (h : m.get? key = some value) :
    (key, value) ∈ m := by
  induction m with
  | nil => cases h
  | cons e m ih =>
    obtain ⟨k, v⟩ := e
    rw [get?] at h
    split at h
    · rename_i hk
      cases h
      exact hk ▸ List.mem_cons_self
    · exact List.mem_cons_of_mem _ (ih h)

/-- There is one pair with a key at most, where keys are distinct. -/
theorem filter_key {m : Ordered κ ν} (h : m.keys.Nodup) (key : κ) :
    m.filter (fun e => decide (e.1 = key)) = ((m.get? key).map (fun v => (key, v))).toList := by
  induction m with
  | nil => rfl
  | cons e m ih =>
    obtain ⟨k, v⟩ := e
    have hn : k ∉ keys m ∧ (keys m).Nodup := List.nodup_cons.1 h
    by_cases hk : k = key
    · subst hk
      rw [List.filter_cons_of_pos (by simp), get?, if_pos rfl]
      refine congrArg _ (List.filter_eq_nil_iff.2 ?_)
      intro e he
      rw [decide_eq_true_iff]
      exact fun hk => hn.1 (hk ▸ List.mem_map_of_mem he)
    · rw [List.filter_cons_of_neg (by simpa using hk), get?, if_neg hk]
      exact ih hn.2

theorem has_iff_mem_keys {m : Ordered κ ν} {key : κ} : m.has key = true ↔ key ∈ m.keys := by
  induction m with
  | nil => simp [has, get?, keys]
  | cons e m ih =>
    obtain ⟨k, v⟩ := e
    by_cases hk : k = key
    · simp [has, get?, keys, hk]
    · have hk' : ¬ key = k := fun e => hk e.symm
      simp only [has, get?, keys, if_neg hk, List.map_cons, List.mem_cons, hk', false_or] at ih ⊢
      exact ih

theorem put_of_not_mem {m : Ordered κ ν} {key : κ} (value : ν) (h : key ∉ m.keys) :
    m.put key value = m ++ [(key, value)] := by
  induction m with
  | nil => rfl
  | cons e m ih =>
    obtain ⟨k, v⟩ := e
    have hk : k ≠ key := fun e => h (e ▸ List.mem_cons_self)
    rw [put, if_neg hk, ih (fun hm => h (List.mem_cons_of_mem _ hm)), List.cons_append]

theorem nodup_put {m : Ordered κ ν} (key : κ) (value : ν) (h : m.keys.Nodup) :
    (m.put key value).keys.Nodup := by
  rw [keys_put]
  split
  · exact h
  · rename_i hm
    exact List.nodup_append.2 ⟨h, List.nodup_singleton _, fun a ha b hb => by
      rw [List.mem_singleton.1 hb]
      exact fun e => hm (e ▸ ha)⟩

omit [DecidableEq κ] in
theorem nodup_filter {m : Ordered κ ν} (p : κ × ν → Bool) (h : m.keys.Nodup) :
    (Ordered.keys (m.filter p)).Nodup :=
  h.sublist (List.filter_sublist.map Prod.fst)

/-- Pairs with distinct keys are put one after the other as they are. -/
theorem ofPairs_of_nodup {m : Ordered κ ν} (h : m.keys.Nodup) : ofPairs m = m := by
  have key : ∀ (rest done : Ordered κ ν), (keys (done ++ rest)).Nodup →
      rest.foldl (fun m p => put m p.1 p.2) done = done ++ rest := by
    intro rest
    induction rest with
    | nil =>
      intro done _
      rw [List.append_nil]
      rfl
    | cons e rest ih =>
      intro done hd
      have hsplit : done ++ e :: rest = (done ++ [(e.1, e.2)]) ++ rest := by simp
      have hnot : e.1 ∉ keys done := by
        rw [keys, List.map_append, List.nodup_append] at hd
        intro hmem
        exact hd.2.2 e.1 hmem e.1 (by simp) rfl
      rw [List.foldl_cons, put_of_not_mem _ hnot, ih _ (hsplit ▸ hd), ← hsplit]
  exact key m [] h

theorem map_update_of_not_mem {m : Ordered κ ν} {key : κ} (value : ν) (hm : key ∉ m.keys) :
    m.map (fun e => if e.1 = key then (e.1, value) else e) = m := by
  conv_rhs => rw [← List.map_id m]
  apply List.map_congr_left
  intro e he
  have hk : e.1 ≠ key := by
    intro h
    rw [← h] at hm
    exact hm (List.mem_map_of_mem he)
  exact if_neg hk

/-- Rewriting the value of every pair with a key, where keys are distinct, is `put`. -/
theorem map_update {m : Ordered κ ν} {key : κ} (value : ν) (h : m.keys.Nodup) (hm : key ∈ m.keys) :
    m.map (fun e => if e.1 = key then (e.1, value) else e) = m.put key value := by
  induction m with
  | nil => exact absurd hm List.not_mem_nil
  | cons e m ih =>
    obtain ⟨k, v⟩ := e
    have hn : k ∉ Ordered.keys m ∧ (Ordered.keys m).Nodup := List.nodup_cons.1 h
    by_cases hk : k = key
    · subst hk
      rw [put, if_pos rfl, List.map_cons, if_pos rfl, map_update_of_not_mem value hn.1]
    · have hm' : key ∈ Ordered.keys m := by
        rcases List.mem_cons.1 hm with e | h'
        · exact absurd e.symm hk
        · exact h'
      rw [put, if_neg hk, List.map_cons, if_neg hk, ih hn.2 hm']

theorem get?_filter (m : Ordered κ ν) (p : κ → Bool) (key : κ) :
    Ordered.get? (m.filter (fun e => p e.1)) key = if p key then m.get? key else none := by
  induction m with
  | nil => simp [get?]
  | cons e m ih =>
    obtain ⟨k, v⟩ := e
    by_cases hk : k = key
    · subst hk
      by_cases hp : p k
      · simp [hp, get?]
      · simp [hp, ih]
    · by_cases hp : p k
      · simp [hp, get?, hk, ih]
      · simp [hp, get?, hk, ih]

/-- The number of pairs with a key, where keys are distinct. -/
theorem countP_key {m : Ordered κ ν} (key : κ) (h : m.keys.Nodup) :
    m.countP (fun e => decide (e.1 = key)) = if m.has key then 1 else 0 := by
  have hc : m.countP (fun e => decide (e.1 = key)) = m.keys.count key := by
    rw [keys, List.count, List.countP_map]
    rfl
  rw [hc]
  by_cases hm : key ∈ m.keys
  · rw [if_pos (has_iff_mem_keys.2 hm), List.count_eq_one_of_mem h hm]
  · rw [if_neg (fun e => hm (has_iff_mem_keys.1 e)), List.count_eq_zero.2 hm]

end Ordered

namespace Ledger

variable {κ ν : Type} [DecidableEq κ]

/-- The map without any pair. -/
def empty : Ledger κ ν := ⟨[], List.nodup_nil⟩

/-- The value of a key. -/
def get? (m : Ledger κ ν) (key : κ) : Option ν := m.pairs.get? key

/-- Whether a key has a value. -/
def has (m : Ledger κ ν) (key : κ) : Bool := m.pairs.has key

/-- Give a key a value. -/
def put (m : Ledger κ ν) (key : κ) (value : ν) : Ledger κ ν :=
  ⟨m.pairs.put key value, Ordered.nodup_put key value m.nodup⟩

/-- Remove the keys that pass a test. -/
def discard (m : Ledger κ ν) (p : κ → Bool) : Ledger κ ν :=
  ⟨m.pairs.filter (fun e => !p e.1), Ordered.nodup_filter _ m.nodup⟩

/-- Remove a key. -/
def drop (m : Ledger κ ν) (key : κ) : Ledger κ ν := m.discard (fun k => decide (k = key))

/-- The number of keys that pass a test. -/
def count (m : Ledger κ ν) (p : κ → Bool) : Nat := m.pairs.keys.countP p

omit [DecidableEq κ] in
theorem ext_pairs {m n : Ledger κ ν} (h : m.pairs = n.pairs) : m = n := by
  cases m
  cases n
  cases h
  rfl

/-- Maps with the same look-ups have the same pairs in some order. -/
theorem perm_of_get? {m n : Ledger κ ν} (h : ∀ key, m.get? key = n.get? key) : m.pairs.Perm n.pairs := by
  refine (List.perm_ext_iff_of_nodup m.nodup.of_map n.nodup.of_map).2 ?_
  rintro ⟨k, v⟩
  have hmem : ∀ l : Ledger κ ν, (k, v) ∈ l.pairs ↔ l.get? k = some v :=
    fun l => ⟨Ordered.get?_of_mem l.nodup, Ordered.mem_of_get?⟩
  rw [hmem, hmem, h]

theorem has_eq (m : Ledger κ ν) (key : κ) : m.has key = (m.get? key).isSome := rfl

theorem get?_put (m : Ledger κ ν) (key other : κ) (value : ν) :
    (m.put key value).get? other = if key = other then some value else m.get? other :=
  Ordered.get?_put m.pairs key other value

theorem get?_discard (m : Ledger κ ν) (p : κ → Bool) (key : κ) :
    (m.discard p).get? key = if p key then none else m.get? key := by
  have h := Ordered.get?_filter m.pairs (fun k => !p k) key
  rw [get?, discard, h]
  cases p key <;> rfl

theorem get?_drop (m : Ledger κ ν) (key other : κ) :
    (m.drop key).get? other = if other = key then none else m.get? other := by
  rw [drop, get?_discard]
  by_cases h : other = key <;> simp [h]

theorem put_ne_self {m : Ledger κ ν} {key : κ} (value : ν) (h : m.has key = false) :
    m.put key value ≠ m := by
  intro e
  have hg := get?_put m key key value
  rw [e, if_pos rfl] at hg
  rw [has_eq, hg] at h
  cases h

theorem count_eq_zero {m : Ledger κ ν} {p : κ → Bool} :
    m.count p = 0 ↔ ∀ key, m.has key = true → p key = false := by
  rw [count, List.countP_eq_zero]
  constructor
  · intro h key hk
    simpa using h key (Ordered.has_iff_mem_keys.1 hk)
  · intro h key hk
    simpa using h key (Ordered.has_iff_mem_keys.2 hk)

theorem discard_eq_self {m : Ledger κ ν} {p : κ → Bool} (h : m.count p = 0) : m.discard p = m := by
  apply ext_pairs
  apply List.filter_eq_self.2
  intro e he
  have hk : e.1 ∈ Ordered.keys m.pairs := List.mem_map_of_mem he
  simpa using count_eq_zero.1 h e.1 (Ordered.has_iff_mem_keys.2 hk)

theorem drop_eq_self {m : Ledger κ ν} {key : κ} (h : m.has key = false) : m.drop key = m := by
  apply discard_eq_self
  rw [count_eq_zero]
  intro k hk
  rw [decide_eq_false_iff_not]
  intro e
  rw [e, h] at hk
  cases hk

end Ledger

end TileDepot
