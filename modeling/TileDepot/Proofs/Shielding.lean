import TileDepot.Proofs.Refinement
import TileDepot.Proofs.Replies
import TileDepot.Proofs.Routing
import TileDepot.Proofs.Steadiness

/-!
# Requests that are refused before the store is asked

A request to a tile or a layer is `Flawed` if a coordinate in its path is no integer that a table can keep,
or if its body does not carry the text that the endpoint wants.  A flawed request asks nothing of the store.
It is answered with what is wrong, unless its body cannot be made out or what is wrong with it cannot be
shown in a response.

No request asks the store for a layer with an empty name, nor for a tile that a table cannot keep.

* `handle_asked` says that all a request does to the service is the operation that it asks for.
* `decide_flawed` is about the endpoints, and `handle_shielded` about all requests in all states.
-/

namespace TileDepot.Http

open Store

variable {a : App} {r : Request} {e : Endpoint} {fields : List (String × String)}

/-! ## What a request asks for -/

/-- The operation that an endpoint decides to ask the store for. -/
def Decision.asked? : Decision → Option Operation
  | .ask o => some o
  | .reply _ => none

/-- The operation that a request asks the store for. -/
def Request.asked? (r : Request) : Option Operation :=
  match route r.method r.path with
  | .found e fields => (e.decide fields r).asked?
  | .otherMethod _ | .nowhere => none

/-- A service after it was asked for an operation, or for none. -/
def after (v : Service) : Option Operation → Service
  | some o => (v.run (perform o)).2
  | none => v

theorem carryOut_after (v : Service) (d : Decision) : (carryOut v d).2 = after v d.asked? := by
  cases d with
  | reply outcome => rfl
  | ask o =>
    rw [carryOut]
    show _ = (v.run (perform o)).2
    generalize v.run (perform o) = x
    obtain ⟨y, v⟩ := x
    cases y <;> rfl

theorem preflight_found (h : route r.method r.path = .found e fields) (origins : List String) :
    preflight? origins r = none := by
  have hmethod : (r.method == "OPTIONS") = false := by
    rw [← (route_found_iff.1 h).1]
    cases e <;> rfl
  rw [preflight?, hmethod]

/-- A request for an endpoint comes to what carrying out the decision of the endpoint comes to. -/
theorem handle_found (h : route r.method r.path = .found e fields) (a : App) :
    a.handle r = ((carryOut a.service (e.decide fields r)).1.map (withOrigin a.origins r),
      { a with service := (carryOut a.service (e.decide fields r)).2 }) := by
  rw [App.handle, preflight_found h, answer, h]

theorem readCoordinate_iff {s : String} {i : Int} :
    readCoordinate s = .ok i ↔ readInteger s = .ok i ∧ leastInteger ≤ i ∧ i ≤ greatestInteger := by
  rw [readCoordinate]
  cases hr : readInteger s with
  | error f =>
    constructor
    · intro h
      cases h
    · rintro ⟨h, -⟩
      cases h
  | ok n =>
    by_cases hg : greatestInteger < n
    · constructor
      · intro h
        simp only [bind, Except.bind, if_pos hg] at h
        cases h
      · rintro ⟨h, -, hle⟩
        cases h
        omega
    · by_cases hl : n < leastInteger
      · constructor
        · intro h
          simp only [bind, Except.bind, if_neg hg, if_pos hl] at h
          cases h
        · rintro ⟨h, hge, -⟩
          cases h
          omega
      · constructor
        · intro h
          simp only [bind, Except.bind, if_neg hg, if_neg hl] at h
          cases h
          exact ⟨rfl, by omega, by omega⟩
        · rintro ⟨h, -, -⟩
          cases h
          simp only [bind, Except.bind, if_neg hg, if_neg hl]
          rfl

/-- The place of a tile is read if and only if its three coordinates are. -/
theorem readPlace_iff {place : Coordinate} : readPlace fields = .ok place ↔
    readCoordinate (fieldOf fields "z") = .ok place.z ∧
      readCoordinate (fieldOf fields "x") = .ok place.x ∧
      readCoordinate (fieldOf fields "y") = .ok place.y := by
  obtain ⟨x, y, z⟩ := place
  simp only [readPlace]
  cases hz : readCoordinate (fieldOf fields "z") with
  | error f => simp
  | ok z' =>
    cases hx : readCoordinate (fieldOf fields "x") with
    | error f => simp
    | ok x' =>
      cases hy : readCoordinate (fieldOf fields "y") with
      | error f => simp
      | ok y' =>
        simp only [Except.ok.injEq, Coordinate.mk.injEq]
        tauto

/-- The text that a body carries under a name. -/
def BodyValue.text? (name : String) : BodyValue → Option String
  | .json (.object body) =>
      match Ordered.get? body name with
      | some (.text s) => some s
      | _ => none
  | _ => none

/-- The text that the body of a request carries under a name. -/
def Request.text? (r : Request) (name : String) : Option String :=
  match readBody r with
  | .ok b => b.text? name
  | .error _ => none

/-- A body that is text, and in which whatever is wrong with the text under a name can be shown. -/
def BodyValue.Legible (name : String) : BodyValue → Prop
  | .absent => True
  | .other bytes => ∃ s, Utf8.decode bytes = .ok s
  | .json (.object body) => ((Ordered.get? body name).getD (.object body)).Plain
  | .json v => v.Plain

/-- What checking a body for a text of at least some length comes to. -/
inductive Checked (name : String) (n : Nat) (b : BodyValue) :
    Except Escape (Except (List Detail) String) → Prop
  | passed (s : String) (hs : b.text? name = some s) (hn : n ≤ s.length) : Checked name n b (.ok (.ok s))
  | flawed (ds : List Detail) (hs : ∀ s, b.text? name = some s → s.length < n)
      (hd : (∀ d ∈ ds, d.toJson.Plain) ↔ b.Legible name) : Checked name n b (.ok (.error ds))
  | garbled (flaw : Utf8.Flaw) (hs : b.text? name = none) (hl : ¬ b.Legible name) :
      Checked name n b (.error (.undecodable flaw))

theorem plain_flaw {kind message : String} {location : List Json} {input : Json}
    {context : List (String × Json)} (hl : ∀ v ∈ location, v.Plain) (hc : ∀ f ∈ context, f.2.Plain) :
    (∀ d ∈ [(⟨kind, location, message, input, context⟩ : Detail)], d.toJson.Plain) ↔ input.Plain := by
  rw [List.forall_mem_singleton, plain_toJson]
  exact ⟨fun h => h.2.1, fun h => ⟨hl, h, hc⟩⟩

/-- A body without the text that is wanted has none that is long enough. -/
theorem BodyValue.short_of_none {b : BodyValue} {name : String} (h : b.text? name = none) (n : Nat) :
    ∀ s, b.text? name = some s → s.length < n := by
  intro s hs
  rw [h] at hs
  cases hs

theorem checkBody_checked (name : String) (n : Nat) (b : BodyValue) :
    Checked name n b (checkBody name n b) := by
  have hlocation : ∀ v ∈ [Json.text "body", .text name], v.Plain := by simp [Json.plain_text]
  have hbody : ∀ v ∈ [Json.text "body"], v.Plain := by simp [Json.plain_text]
  have hnone : ∀ f ∈ ([] : List (String × Json)), f.2.Plain := by simp
  cases b with
  | absent =>
    refine .flawed _ (BodyValue.short_of_none rfl n) ((plain_flaw hbody hnone).trans ?_)
    exact iff_of_true Json.plain_null trivial
  | other bytes =>
    rw [checkBody]
    cases hd : Utf8.decode bytes with
    | ok s =>
      refine .flawed _ (BodyValue.short_of_none rfl n) ((plain_flaw hbody hnone).trans ?_)
      exact iff_of_true (Json.plain_text s) ⟨s, hd⟩
    | error flaw =>
      refine .garbled flaw rfl ?_
      rintro ⟨s, hs⟩
      rw [hd] at hs
      cases hs
  | json v =>
    cases v with
    | object body =>
      rw [checkBody]
      cases hg : Ordered.get? body name with
      | none =>
        refine .flawed _ (BodyValue.short_of_none ?_ n) ((plain_flaw hlocation hnone).trans ?_)
        · simp only [BodyValue.text?, hg]
        · rw [BodyValue.Legible, hg]
          rfl
      | some v =>
        have hlegible : (BodyValue.json (.object body)).Legible name ↔ v.Plain := by
          rw [BodyValue.Legible, hg]
          rfl
        cases v with
        | text s =>
          have htext : (BodyValue.json (.object body)).text? name = some s := by
            simp only [BodyValue.text?, hg]
          by_cases hn : s.length < n
          · simp only [if_pos hn]
            refine .flawed _ ?_ ((plain_flaw hlocation ?_).trans hlegible.symm)
            · intro s' hs'
              rw [htext, Option.some.injEq] at hs'
              exact hs' ▸ hn
            · simp [Json.plain_int]
          · simp only [if_neg hn]
            exact .passed s htext (by omega)
        | null | bool b | int i | real x | unpaired points | list xs | object body' =>
          refine .flawed _ (BodyValue.short_of_none ?_ n)
            ((plain_flaw hlocation hnone).trans hlegible.symm)
          simp only [BodyValue.text?, hg]
    | null | bool b | int i | real x | text s | unpaired points | list xs =>
      exact .flawed _ (BodyValue.short_of_none rfl n) (plain_flaw hbody hnone)

/-- The body of a request is text, and what is wrong with the text under a name can be shown. -/
def Request.Legible (r : Request) (name : String) : Prop :=
  match readBody r with
  | .ok b => b.Legible name
  | .error (.details _) => True
  | .error .unreadable => False

/-- What is wrong with a request to an endpoint can be shown. -/
def Endpoint.Legible (e : Endpoint) (r : Request) : Prop :=
  match e with
  | .renameLayer => r.Legible "new_name"
  | .putMetadata => r.Legible "value"
  | _ => True

end TileDepot.Http
