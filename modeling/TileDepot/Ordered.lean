/-!
# Maps that keep insertion order

An `Ordered κ ν` is a list of pairs.  The order of the pairs is the order in which the keys were first
added, and every answer that lists keys shows that order, so it belongs to the type.  `put` on a key
that is present replaces the value in place and `put` on a new key appends; `drop` removes a key, so
that a later `put` of it appends again.

* `get?_put_self` and `get?_put_of_ne`, and both in one as `get?_put`, say what a write does to every look-up.
* `get?_drop_self` and `get?_drop_of_ne` say the same of a removal.
* `keys_put` says that a write keeps the keys and their order, and appends a new one.
-/

namespace TileDepot

/-- A map as its pairs in insertion order. -/
abbrev Ordered (κ : Type) (ν : Type) := List (κ × ν)

namespace Ordered

variable {κ ν : Type} [DecidableEq κ]

/-- The value of the first pair with the key. -/
def get? : Ordered κ ν → κ → Option ν
  | [], _ => none
  | (k, v) :: rest, key => if k = key then some v else get? rest key

/-- The keys in insertion order. -/
def keys (m : Ordered κ ν) : List κ := m.map Prod.fst

/-- Replace the value of a key in place, or append the pair. -/
def put : Ordered κ ν → κ → ν → Ordered κ ν
  | [], key, value => [(key, value)]
  | (k, v) :: rest, key, value =>
      if k = key then (k, value) :: rest else (k, v) :: put rest key value

/-- Remove every pair with the key. -/
def drop (m : Ordered κ ν) (key : κ) : Ordered κ ν := m.filter (fun p => !decide (p.1 = key))

/-- Whether the key has a value. -/
def has (m : Ordered κ ν) (key : κ) : Bool := (m.get? key).isSome

/-- The pairs put one after the other, so that a repeated key keeps its first place and its last
value. -/
def ofPairs (ps : List (κ × ν)) : Ordered κ ν := ps.foldl (fun m p => put m p.1 p.2) []

theorem get?_put_self (m : Ordered κ ν) (key : κ) (value : ν) :
    (m.put key value).get? key = some value := by
  induction m with
  | nil => simp [put, get?]
  | cons p rest ih =>
      obtain ⟨k, v⟩ := p
      by_cases h : k = key <;> simp [put, get?, h, ih]

theorem get?_put_of_ne (m : Ordered κ ν) {key other : κ} (value : ν) (h : key ≠ other) :
    (m.put key value).get? other = m.get? other := by
  induction m with
  | nil => simp [put, get?, h]
  | cons p rest ih =>
      obtain ⟨k, v⟩ := p
      by_cases hk : k = key
      · subst hk
        simp [put, get?, h]
      · by_cases ho : k = other
        · subst ho
          simp [put, get?, hk]
        · simp [put, get?, hk, ho, ih]

theorem get?_drop_self (m : Ordered κ ν) (key : κ) : (m.drop key).get? key = none := by
  induction m with
  | nil => simp [drop, get?]
  | cons p rest ih =>
      obtain ⟨k, v⟩ := p
      by_cases hk : k = key
      · simpa [drop, hk] using ih
      · simpa [drop, get?, hk] using ih

theorem get?_drop_of_ne (m : Ordered κ ν) {key other : κ} (h : key ≠ other) :
    (m.drop key).get? other = m.get? other := by
  induction m with
  | nil => simp [drop, get?]
  | cons p rest ih =>
      obtain ⟨k, v⟩ := p
      by_cases hk : k = key
      · subst hk
        simpa [drop, get?, h] using ih
      · by_cases ho : k = other
        · subst ho
          simp [drop, get?, hk]
        · simpa [drop, get?, hk, ho] using ih

theorem get?_put (m : Ordered κ ν) (key other : κ) (value : ν) :
    (m.put key value).get? other = if key = other then some value else m.get? other := by
  by_cases h : key = other
  · subst h
    rw [if_pos rfl, get?_put_self]
  · rw [if_neg h, get?_put_of_ne _ _ h]

/-- What is found after a removal was there before. -/
theorem get?_of_get?_drop {m : Ordered κ ν} {key other : κ} {value : ν}
    (h : (m.drop key).get? other = some value) : m.get? other = some value := by
  by_cases hk : key = other
  · rw [← hk, get?_drop_self] at h
    cases h
  · rwa [get?_drop_of_ne _ hk] at h

theorem keys_put (m : Ordered κ ν) (key : κ) (value : ν) :
    (m.put key value).keys = if key ∈ m.keys then m.keys else m.keys ++ [key] := by
  induction m with
  | nil => simp [put, keys]
  | cons p rest ih =>
      obtain ⟨k, v⟩ := p
      by_cases hk : k = key
      · subst hk
        simp [put, keys]
      · have hk' : ¬ key = k := fun e => hk e.symm
        simp only [keys] at ih
        by_cases hm : key ∈ rest.map Prod.fst <;> simp [put, keys, hk, hk', hm, ih]

end Ordered

end TileDepot
