import TileDepot.Proofs.Addresses
import TileDepot.Proofs.Books
import TileDepot.Proofs.Shielding

/-!
# Requests that pose operations

A request poses an operation if its method and its path name the operation, with parts that have no slash
and coordinates in decimal digits, and its body carries what the operation needs.  Handling it does to the
service what the operation does, and the outcome is the translation of the operation's answer: a value is
answered with 200, something that is not there with 404, an error of the store with the status of its
category, and any other fault ends the request.

Files from elsewhere may have rows of metadata without a key or without a value.  Such rows make no mapping
from texts to texts, and the request for it ends like a fault; a store that made all its files has none.

* `asked_poses` says that a request asks for the operation that it poses.
* `Translates` is the translation, and `serve_poses` the statement about sequences.
* `mapping_answered` says that the metadata of a store over an empty directory always make a mapping.
-/

namespace TileDepot.Http

open Json Store

/-! ## Posing -/

/-- A path that names a tile: its parts are those of the key, and the coordinates are integers that a table
can keep, in the order of zoom, column and row. -/
structure TilePath (path : String) (key : TileKey) : Prop where
  layer : Segment key.layer
  grid : Segment key.grid
  format : Segment key.format
  undotted : '.' ∉ key.format.toList
  fits : key.row.fits
  spelled : ∃ z x y : String, Spells z.toList key.coordinate.z ∧ Spells x.toList key.coordinate.x ∧
    Spells y.toList key.coordinate.y ∧
    path = joinPath ["tiles", key.layer, key.grid, z, x, y ++ "." ++ key.format]

/-- A request names an operation and carries what it needs. -/
inductive Request.Poses (r : Request) : Operation → Prop
  | getTile (key : TileKey) (hm : r.method = "GET") (hp : TilePath r.path key) : Poses r (.getTile key)
  | putTile (key : TileKey) (hm : r.method = "PUT") (hp : TilePath r.path key) :
      Poses r (.putTile key r.body)
  | deleteTile (key : TileKey) (hm : r.method = "DELETE") (hp : TilePath r.path key) :
      Poses r (.deleteTile key)
  | deleteGridset (layer grid : String) (hm : r.method = "DELETE") (hl : Segment layer)
      (hg : Segment grid) (hp : r.path = joinPath ["tiles", layer, grid]) :
      Poses r (.deleteGridset layer grid)
  | layerExists (layer : String) (hm : r.method = "GET") (hl : Segment layer)
      (hp : r.path = joinPath ["api", "layers", layer]) : Poses r (.layerExists layer)
  | deleteLayer (layer : String) (hm : r.method = "DELETE") (hl : Segment layer)
      (hp : r.path = joinPath ["api", "layers", layer]) : Poses r (.deleteLayer layer)
  | renameLayer (layer target : String) (hm : r.method = "POST") (hl : Segment layer)
      (hp : r.path = joinPath ["api", "layers", layer, "rename"])
      (hb : r.text? "new_name" = some target) (ht : target ≠ "") : Poses r (.renameLayer layer target)
  | allMetadata (layer : String) (hm : r.method = "GET") (hl : Segment layer)
      (hp : r.path = joinPath ["api", "layers", layer, "metadata"]) : Poses r (.allMetadata layer)
  | getMetadata (layer key : String) (hm : r.method = "GET") (hl : Segment layer) (hk : Segment key)
      (hp : r.path = joinPath ["api", "layers", layer, "metadata", key]) :
      Poses r (.getMetadata layer key)
  | putMetadata (layer key value : String) (hm : r.method = "PUT") (hl : Segment layer)
      (hk : Segment key) (hp : r.path = joinPath ["api", "layers", layer, "metadata", key])
      (hb : r.text? "value" = some value) : Poses r (.putMetadata layer key value)

variable {r : Request} {o : Operation}

theorem readCoordinate_numeral {s : String} {i : Int} (h : Spells s.toList i)
    (hi : fitsInteger i = true) : readCoordinate s = .ok i := by
  rw [fitsInteger, Bool.and_eq_true, decide_eq_true_eq, decide_eq_true_eq] at hi
  exact readCoordinate_iff.2 ⟨readInteger_numeral h hi.1 hi.2, hi⟩

/-- A path that names a tile is read as the fields of the key, and its coordinates as the place. -/
theorem TilePath.found {path : String} {key : TileKey} (h : TilePath path key) {e : Endpoint}
    (he : e.template = Endpoint.tileParts) :
    ∃ fields, e.fields? path = some fields ∧ keyOf fields key.coordinate = key ∧
      readPlace fields = .ok key.coordinate := by
  obtain ⟨z, x, y, hz, hx, hy, rfl⟩ := h.spelled
  have hfits : fitsInteger key.coordinate.x = true ∧ fitsInteger key.coordinate.y = true ∧
      fitsInteger key.coordinate.z = true := by
    have hrow := h.fits
    simp only [RowKey.fits, TileKey.row, Bool.and_eq_true] at hrow
    exact ⟨hrow.1.1, hrow.1.2, hrow.2⟩
  have hne : ∀ {s : String} {i : Int}, Spells s.toList i → s ≠ "" := by
    rintro s i hs rfl
    exact hs.ne_nil rfl
  have hflat : ∀ p ∈ ["tiles", key.layer, key.grid, z, x, y ++ "." ++ key.format], '/' ∉ p.toList := by
    have hlast : '/' ∉ (y ++ "." ++ key.format).toList := by
      rw [String.toList_append, String.toList_append, List.mem_append, List.mem_append, not_or, not_or]
      exact ⟨⟨hy.not_mem (by simp), by decide⟩, h.format.flat⟩
    simp only [List.forall_mem_cons]
    exact ⟨by decide, h.layer.flat, h.grid.flat, hz.not_mem (by simp), hx.not_mem (by simp), hlast, by simp⟩
  refine ⟨[("layer", key.layer), ("grid_set_id", key.grid), ("z", z), ("x", x), ("y", y),
    ("fmt", key.format)], ?_, ?_, ?_⟩
  · rw [fields_joinPath hflat, he, Endpoint.tileParts]
    simp only [List.map_cons, List.map_nil]
    rw [matchParts_word (by simp), matchParts_field h.layer.nonempty, matchParts_field h.grid.nonempty,
      matchParts_field (hne hz), matchParts_field (hne hx),
      matchParts_dotted (hne hy) h.format.nonempty h.undotted]
    rfl
  · rfl
  · exact readPlace_iff.2 ⟨readCoordinate_numeral hz hfits.2.2, readCoordinate_numeral hx hfits.1,
      readCoordinate_numeral hy hfits.2.1⟩

/-- A request for a tile asks for the operation on the tile. -/
theorem asked_tile {key : TileKey} (h : TilePath r.path key) (e : Endpoint) (hm : e.method = r.method)
    (he : e.template = Endpoint.tileParts) (f : TileKey → Operation)
    (hd : ∀ fields, e.decide fields r = onTile fields f) :
    ∃ e fields, route r.method r.path = .found e fields ∧ e.decide fields r = .ask (f key) := by
  obtain ⟨fields, hfields, hkey, hplace⟩ := h.found he
  refine ⟨e, fields, route_found_iff.2 ⟨hm, hfields⟩, ?_⟩
  rw [hd, onTile, hplace]
  exact congrArg (fun k => Decision.ask (f k)) hkey

/-- A path of a layer, and what follows the layer, are read as their fields. -/
theorem route_layer {layer : String} {parts : List String} {fields : List (String × String)}
    (hl : Segment layer) (hparts : ∀ p ∈ parts, '/' ∉ p.toList)
    (hp : r.path = joinPath (["api", "layers", layer] ++ parts)) (e : Endpoint)
    (hm : e.method = r.method) (ps : List Part) (he : e.template = Endpoint.layerParts ++ ps)
    (hmatch : matchParts ps (parts.map String.toList) = some fields) :
    route r.method r.path = .found e (("layer", layer) :: fields) := by
  have hflat : ∀ p ∈ ["api", "layers", layer] ++ parts, '/' ∉ p.toList := by
    rw [List.forall_mem_append]
    simp only [List.forall_mem_cons]
    exact ⟨⟨by decide, by decide, hl.flat, nofun⟩, hparts⟩
  refine route_found_iff.2 ⟨hm, ?_⟩
  rw [hp, fields_joinPath hflat, he, Endpoint.layerParts]
  simp only [List.cons_append, List.nil_append, List.map_cons]
  rw [matchParts_word (by simp), matchParts_word (by simp), matchParts_field hl.nonempty, hmatch]
  rfl

/-- A body that carries the text that is wanted lets the operation be asked for. -/
theorem onBody_text {name s : String} {n : Nat} (h : r.text? name = some s) (hn : n ≤ s.length)
    (f : String → Operation) : onBody r name n f = .ask (f s) := by
  rw [Request.text?] at h
  rw [onBody]
  cases hb : readBody r with
  | error flaw =>
    rw [hb] at h
    cases h
  | ok b =>
    simp only [hb] at h ⊢
    have hchecked := checkBody_checked name n b
    generalize checkBody name n b = x at hchecked ⊢
    cases hchecked with
    | passed s' hs' _ =>
      rw [h, Option.some.injEq] at hs'
      subst hs'
      rfl
    | flawed ds hs _ => exact absurd (hs s h) (by omega)
    | garbled flaw hs _ =>
      rw [h] at hs
      cases hs

theorem one_le_length {s : String} (h : s ≠ "") : 1 ≤ s.length := by
  rw [Nat.one_le_iff_ne_zero]
  intro e
  exact h (by simpa using e)

/-- A request asks for the operation that it poses. -/
theorem asked_poses (h : r.Poses o) :
    ∃ e fields, route r.method r.path = .found e fields ∧ e.decide fields r = .ask o := by
  have hword : ∀ {w : String}, '/' ∉ w.toList → ∀ p ∈ [w], '/' ∉ p.toList := by
    intro w hw p hp
    rw [List.mem_singleton] at hp
    exact hp ▸ hw
  have hkey : ∀ {key : String}, Segment key → (∀ p ∈ ["metadata", key], '/' ∉ p.toList) ∧
      matchParts [.word "metadata", .field "key"] (["metadata", key].map String.toList) =
        some [("key", key)] := by
    intro key hk
    refine ⟨?_, ?_⟩
    · simp only [List.forall_mem_cons]
      exact ⟨by decide, hk.flat, by simp⟩
    · simp only [List.map_cons, List.map_nil]
      rw [matchParts_word (by simp), matchParts_field hk.nonempty]
      rfl
  cases h with
  | getTile key hm hp => exact asked_tile hp .getTile hm.symm rfl .getTile (fun _ => rfl)
  | putTile key hm hp =>
    exact asked_tile hp .putTile hm.symm rfl (fun key => .putTile key r.body) (fun _ => rfl)
  | deleteTile key hm hp => exact asked_tile hp .deleteTile hm.symm rfl .deleteTile (fun _ => rfl)
  | deleteGridset layer grid hm hl hg hp =>
    have hflat : ∀ p ∈ ["tiles", layer, grid], '/' ∉ p.toList := by
      simp only [List.forall_mem_cons]
      exact ⟨by decide, hl.flat, hg.flat, by simp⟩
    refine ⟨.deleteGridset, [("layer", layer), ("grid_set_id", grid)],
      route_found_iff.2 ⟨hm.symm, ?_⟩, rfl⟩
    rw [hp, fields_joinPath hflat, Endpoint.template]
    simp only [List.map_cons, List.map_nil]
    rw [matchParts_word (by simp), matchParts_field hl.nonempty, matchParts_field hg.nonempty]
    rfl
  | layerExists layer hm hl hp =>
    exact ⟨.describeLayer, _, route_layer hl (by simp) hp .describeLayer hm.symm [] rfl rfl, rfl⟩
  | deleteLayer layer hm hl hp =>
    exact ⟨.deleteLayer, _, route_layer hl (by simp) hp .deleteLayer hm.symm [] rfl rfl, rfl⟩
  | renameLayer layer target hm hl hp hb ht =>
    refine ⟨.renameLayer, _, route_layer hl (hword (by decide)) hp .renameLayer hm.symm
      [.word "rename"] rfl matchParts_last, ?_⟩
    exact onBody_text hb (one_le_length ht) _
  | allMetadata layer hm hl hp =>
    exact ⟨.allMetadata, _, route_layer hl (hword (by decide)) hp .allMetadata hm.symm
      [.word "metadata"] rfl matchParts_last, rfl⟩
  | getMetadata layer key hm hl hk hp =>
    exact ⟨.getMetadata, _, route_layer hl (hkey hk).1 hp .getMetadata hm.symm
      [.word "metadata", .field "key"] rfl (hkey hk).2, rfl⟩
  | putMetadata layer key value hm hl hk hp hb =>
    refine ⟨.putMetadata, _, route_layer hl (hkey hk).1 hp .putMetadata hm.symm
      [.word "metadata", .field "key"] rfl (hkey hk).2, ?_⟩
    exact onBody_text hb (Nat.zero_le _) _

/-! ## Translating -/

/-- A request is answered with a JSON value. -/
def Tells (status : Nat) (v : Json) (outcome : Outcome) : Prop :=
  ∃ response, outcome = .ok response ∧ response.status = status ∧
    ("content-type", "application/json") ∈ response.headers ∧
    response.body = (render compact v).toUTF8

/-- What a user is told where something went wrong or is missing. -/
def explanation (text : String) : Json := .object [("detail", .text text)]

/-- A map from texts to texts as JSON. -/
def mappingJson (texts : List (String × String)) : Json :=
  .object (texts.map (fun p => (p.1, .text p.2)))

/-- What a request comes to, given the answer of the operation that it poses.  Only pairs of texts make a
mapping. -/
inductive Translates : Operation → Except Fault Answer → Outcome → Prop
  | tile {key : TileKey} {record : TileRecord} {response : Response} (hs : response.status = 200)
      (hc : ("content-type", mediaType key.format) ∈ response.headers)
      (hm : lastModified record.modified ∈ response.headers) (hb : response.body = record.blob) :
      Translates (.getTile key) (.ok (.tile (some record))) (.ok response)
  | noTile {key : TileKey} {outcome : Outcome} (h : Tells 404 (explanation "Tile not found") outcome) :
      Translates (.getTile key) (.ok (.tile none)) outcome
  | stored {key : TileKey} {blob : Blob} {outcome : Outcome}
      (h : Tells 200 (.object [("layer", .text key.layer), ("grid_set_id", .text key.grid),
        ("size", .int blob.size)]) outcome) : Translates (.putTile key blob) (.ok .done) outcome
  | tileDeleted {key : TileKey} {outcome : Outcome}
      (h : Tells 200 (.object [("deleted", .bool true)]) outcome) :
      Translates (.deleteTile key) (.ok (.flag true)) outcome
  | noTileDeleted {key : TileKey} {outcome : Outcome}
      (h : Tells 404 (explanation "Tile not found") outcome) :
      Translates (.deleteTile key) (.ok (.flag false)) outcome
  | gridsetDeleted {layer grid : String} {n : Nat} {outcome : Outcome}
      (h : Tells 200 (.object [("layer", .text layer), ("grid_set_id", .text grid),
        ("deleted", .int n)]) outcome) : Translates (.deleteGridset layer grid) (.ok (.count n)) outcome
  | described {layer : String} {there : Bool} {outcome : Outcome}
      (h : Tells 200 (.object [("layer", .text layer), ("exists", .bool there)]) outcome) :
      Translates (.layerExists layer) (.ok (.flag there)) outcome
  | layerDeleted {layer : String} {outcome : Outcome}
      (h : Tells 200 (.object [("layer", .text layer), ("deleted", .bool true)]) outcome) :
      Translates (.deleteLayer layer) (.ok (.flag true)) outcome
  | noLayerDeleted {layer : String} {outcome : Outcome}
      (h : Tells 404 (explanation "Layer not found") outcome) :
      Translates (.deleteLayer layer) (.ok (.flag false)) outcome
  | layerRenamed {layer target : String} {renamed : Bool} {outcome : Outcome}
      (h : Tells 200 (.object [("layer", .text target), ("renamed", .bool renamed)]) outcome) :
      Translates (.renameLayer layer target) (.ok (.flag renamed)) outcome
  | mapping {layer : String} {texts : List (String × String)} {outcome : Outcome}
      (h : Tells 200 (mappingJson texts) outcome) :
      Translates (.allMetadata layer) (.ok (.pairs (texts.map (fun p => (some p.1, some p.2))))) outcome
  | noMapping {layer : String} {pairs : List (Option String × Option String)} {keys : List String}
      (h : ∃ p ∈ pairs, p.1 = none ∨ p.2 = none) :
      Translates (.allMetadata layer) (.ok (.pairs pairs)) (.error (.notMapping keys))
  | value {layer key value : String} {outcome : Outcome}
      (h : Tells 200 (.object [("key", .text key), ("value", .text value)]) outcome) :
      Translates (.getMetadata layer key) (.ok (.value (some value))) outcome
  | noValue {layer key : String} {outcome : Outcome}
      (h : Tells 404 (explanation "Metadata key not found") outcome) :
      Translates (.getMetadata layer key) (.ok (.value none)) outcome
  | valuePut {layer key value : String} {outcome : Outcome}
      (h : Tells 200 (.object [("key", .text key), ("value", .text value)]) outcome) :
      Translates (.putMetadata layer key value) (.ok .done) outcome
  | targetExists {o : Operation} {e : StoreError} {outcome : Outcome}
      (he : e.cause.category = .targetExists) (h : Tells 409 (explanation e.text) outcome) :
      Translates o (.error (.store e)) outcome
  | notImplemented {o : Operation} {e : StoreError} {outcome : Outcome}
      (he : e.cause.category = .notImplemented) (h : Tells 501 (explanation e.text) outcome) :
      Translates o (.error (.store e)) outcome
  | failed {o : Operation} {e : StoreError} {outcome : Outcome}
      (he : e.cause.category ≠ .targetExists) (he' : e.cause.category ≠ .notImplemented)
      (h : Tells 500 (explanation e.text) outcome) : Translates o (.error (.store e)) outcome
  | fault {o : Operation} {f : Fault} (hf : ∀ e, f ≠ .store e) :
      Translates o (.error f) (.error (.fault f))

variable {origins : List String}

theorem tells_respondJson {status : Nat} {v : Json} (h : v.Plain) :
    Tells status v ((respondJson status [] v).map (withOrigin origins r)) := by
  rw [respondJson_plain h]
  exact ⟨_, rfl, rfl, by simp [withOrigin], rfl⟩

theorem tells_respondDetail {status : Nat} (text : String) :
    Tells status (explanation text) ((respondDetail status [] text).map (withOrigin origins r)) :=
  tells_respondJson (plain_object_iff.2 (by simp [plain_text]))

/-- An error of the store is reported with the status of its category, and any other fault ends the
request. -/
theorem translates_fault (o : Operation) (f : Fault) :
    Translates o (.error f) ((respondFault f).map (withOrigin origins r)) := by
  cases f with
  | store e =>
    have htells : Tells e.cause.category.status (explanation e.text)
        ((respondFault (.store e)).map (withOrigin origins r)) := tells_respondDetail e.text
    cases hc : e.cause.category with
    | targetExists =>
      rw [hc] at htells
      exact .targetExists hc htells
    | notImplemented =>
      rw [hc] at htells
      exact .notImplemented hc htells
    | general | engineUnavailable | storageIO | schema | query =>
      rw [hc] at htells
      exact .failed (by rw [hc]; decide) (by rw [hc]; decide) htells
  | emptyName | os f | db f | textualBlob | negativeBlob =>
    refine .fault ?_
    intro e h
    cases h

theorem ok_of_map {α : Type} {x : Step α} {g : α → Answer} {s : Store} {a : Answer}
    (h : (Step.outcome (x >>= fun v => pure (g v)) s).1 = .ok a) : ∃ v, a = g v := by
  rw [Step.run_bind] at h
  rcases hr : Step.outcome x s with ⟨r, t⟩
  rw [hr] at h
  cases r with
  | ok v =>
    cases h
    exact ⟨v, rfl⟩
  | error f => cases h

/-- Pairs that may lack a part are pairs of texts, or one of them lacks a part. -/
theorem texts_or_missing (ps : List (Option String × Option String)) :
    (∃ texts : List (String × String), ps = texts.map (fun p => (some p.1, some p.2))) ∨
      ∃ p ∈ ps, p.1 = none ∨ p.2 = none := by
  induction ps with
  | nil => exact .inl ⟨[], rfl⟩
  | cons p ps ih =>
    obtain ⟨_ | k, _ | v⟩ := p
    · exact .inr ⟨_, List.mem_cons_self, .inl rfl⟩
    · exact .inr ⟨_, List.mem_cons_self, .inl rfl⟩
    · exact .inr ⟨_, List.mem_cons_self, .inr rfl⟩
    · obtain ⟨texts, rfl⟩ | ⟨p, hp, hmissing⟩ := ih
      · exact .inl ⟨(k, v) :: texts, rfl⟩
      · exact .inr ⟨p, List.mem_cons_of_mem _ hp, hmissing⟩

theorem mappingOf_texts (texts : List (String × String)) :
    mappingOf (texts.map (fun p => (some p.1, some p.2))) = respondJson 200 [] (mappingJson texts) := by
  have hnone : (texts.map (fun p => (some p.1, some p.2))).filter
      (fun p => p.1.isNone || p.2.isNone) = [] := by
    refine List.filter_eq_nil_iff.2 ?_
    intro p hp
    obtain ⟨q, -, rfl⟩ := List.mem_map.1 hp
    simp
  rw [mappingOf, hnone, if_pos List.isEmpty_nil, respondOk, mappingJson, List.map_map]
  rfl

theorem mappingOf_missing {ps : List (Option String × Option String)}
    (h : ∃ p ∈ ps, p.1 = none ∨ p.2 = none) : ∃ keys, mappingOf ps = .error (.notMapping keys) := by
  obtain ⟨p, hp, hnone⟩ := h
  have hbad : ps.filter (fun p => p.1.isNone || p.2.isNone) ≠ [] := by
    rw [← Option.isNone_iff_eq_none, ← Option.isNone_iff_eq_none, ← Bool.or_eq_true] at hnone
    exact List.ne_nil_of_mem (List.mem_filter.2 ⟨hp, hnone⟩)
  rw [mappingOf, if_neg (by simpa using hbad)]
  exact ⟨_, rfl⟩

theorem translates_mapping (layer : String) (ps : List (Option String × Option String)) :
    Translates (.allMetadata layer) (.ok (.pairs ps)) ((mappingOf ps).map (withOrigin origins r)) := by
  obtain ⟨texts, rfl⟩ | hmissing := texts_or_missing ps
  · rw [mappingOf_texts]
    refine .mapping (tells_respondJson (plain_object_iff.2 ?_))
    intro f hf
    obtain ⟨p, -, rfl⟩ := List.mem_map.1 hf
    exact plain_text _
  · obtain ⟨keys, hkeys⟩ := mappingOf_missing hmissing
    rw [hkeys]
    exact .noMapping hmissing

/-- An answer of the operation that a request poses is translated. -/
theorem translates_answer (h : r.Poses o) {s : Store} {a : Answer}
    (ha : (Step.outcome (perform o) s).1 = .ok a) :
    Translates o (.ok a) ((respondTo o a).map (withOrigin origins r)) := by
  have hobject : ∀ {fields : List (String × Json)}, (∀ f ∈ fields, f.2.Plain) →
      Tells 200 (.object fields) ((respondOk fields).map (withOrigin origins r)) :=
    fun hf => tells_respondJson (plain_object_iff.2 hf)
  cases h with
  | getTile key hm hp =>
    obtain ⟨found, rfl⟩ := ok_of_map ha
    cases found with
    | none => exact .noTile (tells_respondDetail "Tile not found")
    | some record => exact .tile rfl (by simp [withOrigin]) (by simp [withOrigin]) rfl
  | putTile key hm hp =>
    obtain ⟨-, rfl⟩ := ok_of_map ha
    exact .stored (hobject (by simp [plain_text, plain_int]))
  | deleteTile key hm hp =>
    obtain ⟨there, rfl⟩ := ok_of_map ha
    cases there with
    | true => exact .tileDeleted (hobject (by simp [plain_bool]))
    | false => exact .noTileDeleted (tells_respondDetail "Tile not found")
  | deleteGridset layer grid hm hl hg hp =>
    obtain ⟨n, rfl⟩ := ok_of_map ha
    exact .gridsetDeleted (hobject (by simp [plain_text, plain_int]))
  | layerExists layer hm hl hp =>
    obtain ⟨there, rfl⟩ := ok_of_map ha
    exact .described (hobject (by simp [plain_text, plain_bool]))
  | deleteLayer layer hm hl hp =>
    obtain ⟨there, rfl⟩ := ok_of_map ha
    cases there with
    | true => exact .layerDeleted (hobject (by simp [plain_text, plain_bool]))
    | false => exact .noLayerDeleted (tells_respondDetail "Layer not found")
  | renameLayer layer target hm hl hp hb ht =>
    obtain ⟨renamed, rfl⟩ := ok_of_map ha
    exact .layerRenamed (hobject (by simp [plain_text, plain_bool]))
  | allMetadata layer hm hl hp =>
    obtain ⟨ps, rfl⟩ := ok_of_map ha
    exact translates_mapping layer ps
  | getMetadata layer key hm hl hk hp =>
    obtain ⟨found, rfl⟩ := ok_of_map ha
    cases found with
    | none => exact .noValue (tells_respondDetail "Metadata key not found")
    | some value => exact .value (hobject (by simp [plain_text]))
  | putMetadata layer key value hm hl hk hp hb =>
    obtain ⟨-, rfl⟩ := ok_of_map ha
    exact .valuePut (hobject (by simp [plain_text]))

/-! ## What a status says -/

theorem status_taken_iff (c : Category) : c.status = 409 ↔ c = .targetExists := by
  cases c <;> decide

theorem status_unsupported_iff (c : Category) : c.status = 501 ↔ c = .notImplemented := by
  cases c <;> decide

theorem status_failed {c : Category} (h : c ≠ .targetExists) (h' : c ≠ .notImplemented) :
    c.status = 500 := by
  cases c with
  | targetExists => exact absurd rfl h
  | notImplemented => exact absurd rfl h'
  | general | engineUnavailable | storageIO | schema | query => rfl

/-- A request is answered with a status. -/
def Answers (status : Nat) (outcome : Outcome) : Prop :=
  ∃ response, outcome = .ok response ∧ response.status = status

/-- The answer that there is nothing to read, or that there was nothing to delete. -/
inductive Absent : Operation → Except Fault Answer → Prop
  | tile {key : TileKey} : Absent (.getTile key) (.ok (.tile none))
  | value {layer key : String} : Absent (.getMetadata layer key) (.ok (.value none))
  | tileDeleted {key : TileKey} : Absent (.deleteTile key) (.ok (.flag false))
  | layerDeleted {layer : String} : Absent (.deleteLayer layer) (.ok (.flag false))

/-- An operation ends with an error of the store of a category. -/
def Raises (category : Category) (answer : Except Fault Answer) : Prop :=
  ∃ e, answer = .error (.store e) ∧ e.cause.category = category

/-- The outcome of a request translates the answer of the operation, and its status tells apart what is
absent, the target that exists and what is not implemented. -/
structure Faithful (o : Operation) (answer : Except Fault Answer) (outcome : Outcome) : Prop where
  translated : Translates o answer outcome
  absent : Answers 404 outcome ↔ Absent o answer
  taken : Answers 409 outcome ↔ Raises .targetExists answer
  unsupported : Answers 501 outcome ↔ Raises .notImplemented answer

theorem not_tells {status : Nat} {v : Json} {e : Escape} : ¬ Tells status v (.error e) := nofun

theorem Tells.answers_iff {status n : Nat} {v : Json} {outcome : Outcome} (h : Tells status v outcome) :
    Answers n outcome ↔ status = n := by
  obtain ⟨response, rfl, hs, -, -⟩ := h
  constructor
  · rintro ⟨response', h, rfl⟩
    cases h
    exact hs.symm
  · rintro rfl
    exact ⟨response, rfl, hs⟩

theorem raises_store {category : Category} {e : StoreError} :
    Raises category (.error (.store e)) ↔ e.cause.category = category := by
  constructor
  · rintro ⟨e', h, hc⟩
    cases h
    exact hc
  · intro hc
    exact ⟨e, rfl, hc⟩

/-- An answer is no error of the store. -/
theorem not_raises {category : Category} {answer : Except Fault Answer}
    (h : ∀ e, answer ≠ .error (.store e)) : ¬ Raises category answer :=
  fun ⟨e, he, _⟩ => h e he

theorem not_raises_ok {category : Category} {a : Answer} : ¬ Raises category (.ok a) := by
  refine not_raises ?_
  intro e h
  cases h

theorem not_answers {status : Nat} {e : Escape} : ¬ Answers status (.error e) := nofun

/-- What the status of a translation tells about the answer. -/
inductive Signals (o : Operation) (outcome : Outcome) : Except Fault Answer → Prop
  | nothing {a : Answer} (ha : Absent o (.ok a)) (h : ∀ n, Answers n outcome ↔ 404 = n) :
      Signals o outcome (.ok a)
  | something {a : Answer} (ha : ¬ Absent o (.ok a)) (h : ∀ n, Answers n outcome → 200 = n) :
      Signals o outcome (.ok a)
  | error {e : StoreError} (h : ∀ n, Answers n outcome ↔ e.cause.category.status = n) :
      Signals o outcome (.error (.store e))
  | fault {f : Fault} (hf : ∀ e, f ≠ .store e) (h : ∀ n, ¬ Answers n outcome) :
      Signals o outcome (.error f)

variable {answer : Except Fault Answer} {outcome : Outcome}

theorem Translates.signals (h : Translates o answer outcome) : Signals o outcome answer := by
  cases h with
  | noTile h => exact .nothing .tile (fun _ => h.answers_iff)
  | noValue h => exact .nothing .value (fun _ => h.answers_iff)
  | noTileDeleted h => exact .nothing .tileDeleted (fun _ => h.answers_iff)
  | noLayerDeleted h => exact .nothing .layerDeleted (fun _ => h.answers_iff)
  | stored h | tileDeleted h | gridsetDeleted h | described h | layerDeleted h | layerRenamed h
    | mapping h | value h | valuePut h => exact .something nofun (fun _ => h.answers_iff.1)
  | tile hs hc hm hb =>
    refine .something nofun ?_
    rintro n ⟨response, h, rfl⟩
    cases h
    exact hs.symm
  | noMapping h => exact .something nofun (fun _ => not_answers.elim)
  | targetExists he h | notImplemented he h =>
    refine .error (fun n => ?_)
    rw [h.answers_iff, he]
    rfl
  | failed he he' h =>
    refine .error (fun n => ?_)
    rw [h.answers_iff, status_failed he he']
  | fault hf => exact .fault hf (fun _ => not_answers)

theorem Signals.absent_iff (h : Signals o outcome answer) : Answers 404 outcome ↔ Absent o answer := by
  cases h with
  | nothing ha h => exact iff_of_true ((h 404).2 rfl) ha
  | something ha h => exact iff_of_false (fun h' => absurd (h _ h') (by decide)) ha
  | @error e h =>
    have hstatus : e.cause.category.status ≠ 404 := by
      cases e.cause.category <;> decide
    exact iff_of_false (fun h' => hstatus ((h _).1 h')) nofun
  | fault hf h => exact iff_of_false (h _) nofun

/-- The status of a single category tells that the operation ended with an error of this category. -/
theorem Signals.raises_iff (h : Signals o outcome answer) {c : Category} (hc : ∀ c' : Category,
    c'.status = c.status ↔ c' = c) (hc' : c.status ≠ 200 ∧ c.status ≠ 404) :
    Answers c.status outcome ↔ Raises c answer := by
  cases h with
  | nothing ha h =>
    exact iff_of_false (fun h' => hc'.2 ((h _).1 h').symm) not_raises_ok
  | something ha h => exact iff_of_false (fun h' => hc'.1 (h _ h').symm) not_raises_ok
  | error h => rw [h, hc, raises_store]
  | fault hf h =>
    refine iff_of_false (h _) (not_raises ?_)
    intro e he
    exact hf e (Except.error.inj he)

/-- A translation is faithful. -/
theorem Translates.faithful (h : Translates o answer outcome) : Faithful o answer outcome :=
  ⟨h, h.signals.absent_iff, h.signals.raises_iff (c := .targetExists) status_taken_iff (by decide),
    h.signals.raises_iff (c := .notImplemented) status_unsupported_iff (by decide)⟩

/-! ## Sequences of requests -/

/-- Handle requests one after the other. -/
def App.serve (rs : List Request) (a : App) : App :=
  rs.foldl (fun a r => (a.handle r).2) a

/-- A request does to the service what the operation does that it poses, and is answered faithfully. -/
theorem handle_poses (a : App) (h : r.Poses o) :
    (a.handle r).2 = { a with service := (a.service.run (perform o)).2 } ∧
      Faithful o (a.service.run (perform o)).1 (a.handle r).1 := by
  obtain ⟨e, fields, hroute, hdecide⟩ := asked_poses h
  rw [handle_found hroute, hdecide, carryOut_after]
  refine ⟨rfl, Translates.faithful ?_⟩
  have hanswer : ∀ x, (a.service.run (perform o)).1 = .ok x →
      Translates o (.ok x) ((respondTo o x).map (withOrigin a.origins r)) :=
    fun x hx => translates_answer h hx
  rw [carryOut]
  generalize a.service.run (perform o) = ran at hanswer ⊢
  obtain ⟨answer, v⟩ := ran
  cases answer with
  | ok x => exact hanswer x rfl
  | error f => exact translates_fault o f

/-- Requests do to the service what the operations do that they pose. -/
theorem serve_service (a : App) {rs : List Request} {os : List Operation}
    (h : List.Forall₂ Request.Poses rs os) :
    a.serve rs = { a with service := a.service.runAll os } := by
  induction h generalizing a with
  | nil => rfl
  | cons hposes _ ih =>
    show App.serve _ (a.handle _).2 = _
    rw [(handle_poses a hposes).1, ih]
    rfl

/-- The metadata of a layer are texts in a store that keeps shelves. -/
theorem allMetadata_texts {c : StoreConfig} {R : Place} {A : Shelves} {v : Service} (hk : v.Keeps c R A)
    {layer : String} {ps : List (Option String × Option String)}
    (h : (v.run (perform (.allMetadata layer))).1 = .ok (.pairs ps)) :
    ∃ texts : List (String × String), ps = texts.map (fun p => (some p.1, some p.2)) := by
  have hanswer := (perform_undisturbed hk.store hk.idle (.allMetadata layer)).1.answer
  rw [Service.run_outcome] at h
  rw [h, Shelves.perform_of_task rfl, Shelves.visit] at hanswer
  have hcarried := Shelves.carryOut_carried c ⟨"get_metadata", layer,
    fun h => .ok (.pairs h.shownEntries, h, []), some (.pairs [])⟩ A
  generalize Shelves.carryOut c _ A = x at hanswer hcarried
  cases hcarried with
  | done hlend hwork =>
    cases hwork
    cases hanswer
    exact ⟨_, rfl⟩
  | @failed f B hB =>
    cases f with
    | store e =>
      cases hc : c.forgiving with
      | true =>
        simp only [Shelves.forgive, hc] at hanswer
        cases hanswer
        exact ⟨[], rfl⟩
      | false =>
        simp only [Shelves.forgive, hc] at hanswer
        cases hanswer
    | emptyName | os f | db f | textualBlob | negativeBlob => cases hanswer

/-- A store over an empty directory is never asked for metadata that make no mapping. -/
theorem mapping_answered {c : StoreConfig} {R : Place} (a : App) (hs : a.service.store.Vacant c R)
    {rs : List Request} {os : List Operation} (h : List.Forall₂ Request.Poses rs os) {layer : String}
    (hr : r.Poses (.allMetadata layer)) (keys : List String) :
    ((a.serve rs).handle r).1 ≠ .error (.notMapping keys) := by
  intro hend
  rw [serve_service a h] at hend
  have htranslated : Translates (.allMetadata layer)
      ((a.service.runAll os).run (perform (.allMetadata layer))).1 _ :=
    (handle_poses ⟨a.service.runAll os, a.origins⟩ hr).2.translated
  rw [hend] at htranslated
  obtain ⟨A, hk⟩ := Service.runAll_keeps hs os
  have htexts : ∀ ps, ((a.service.runAll os).run (perform (.allMetadata layer))).1 = .ok (.pairs ps) →
      ∃ texts : List (String × String), ps = texts.map (fun p => (some p.1, some p.2)) :=
    fun ps => allMetadata_texts hk
  generalize ((a.service.runAll os).run (perform (.allMetadata layer))).1 = answer at htranslated htexts
  cases htranslated with
  | noMapping hmissing =>
    obtain ⟨texts, rfl⟩ := htexts _ rfl
    obtain ⟨p, hp, hnone⟩ := hmissing
    obtain ⟨q, -, rfl⟩ := List.mem_map.1 hp
    simp at hnone
  | mapping h | targetExists he h | notImplemented he h | failed he he' h => exact not_tells h

end TileDepot.Http
