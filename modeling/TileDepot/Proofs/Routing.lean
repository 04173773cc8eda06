import TileDepot.Http.App
import TileDepot.Proofs.Acquiring

/-!
# Where requests go

A path belongs to one endpoint of each method: the templates of two endpoints with one method differ in
the number of their parts or in their first word.  So the order in which endpoints are tried decides
nothing but which method is named to a request whose own method does not fit.

* `route_found_iff` says when a request is for an endpoint.
* `fieldOf_ne_empty` says that the fields of a path are never empty.
* `splitLastDot_append` says where the last part of a tile's path is cut.
-/

namespace TileDepot.Http

/-! ## The last dot -/

variable {cs as bs : List Char}

/-- A part is cut at the last of its dots, if there is something on both sides of it. -/
theorem splitLastDot_append (ha : as ≠ []) (hb : bs ≠ []) (hd : '.' ∉ bs) :
    splitLastDot (as ++ '.' :: bs) = some (as, bs) := by
  have hrange : (List.range (as ++ '.' :: bs).length).reverse =
      (List.range' (as.length + 1) bs.length).reverse ++ as.length :: (List.range as.length).reverse := by
    have hlength : (as ++ '.' :: bs).length = as.length + (1 + bs.length) := by
      rw [List.length_append, List.length_cons]
      omega
    have hsplit : List.range (as ++ '.' :: bs).length =
        List.range as.length ++ as.length :: List.range' (as.length + 1) bs.length := by
      rw [hlength, List.range_eq_range', List.range_eq_range', ← List.range'_append,
        Nat.one_mul, Nat.zero_add, Nat.add_comm 1 bs.length, List.range'_succ]
    rw [hsplit, List.reverse_append, List.reverse_cons, List.append_assoc]
    rfl
  -- beyond the dot nothing in `bs` is a dot
  have hbeyond : ∀ i ∈ (List.range' (as.length + 1) bs.length).reverse,
      ∀ right, (as ++ '.' :: bs).drop i ≠ '.' :: right := by
    intro i hi right h
    rw [List.mem_reverse, List.mem_range'_1] at hi
    obtain ⟨j, rfl⟩ := Nat.exists_eq_add_of_le hi.1
    have hdrop : (as ++ '.' :: bs).drop (as.length + 1 + j) = bs.drop j := by
      rw [List.drop_append, List.drop_of_length_le (by omega), List.nil_append]
      have hsub : as.length + 1 + j - as.length = j + 1 := by omega
      rw [hsub, List.drop_succ_cons]
    rw [hdrop] at h
    exact hd (List.mem_of_mem_drop (h ▸ List.mem_cons_self ..))
  have hat : (as ++ '.' :: bs).drop as.length = '.' :: bs := List.drop_left
  have hpos : as.length ≠ 0 := fun h => ha (List.length_eq_zero_iff.1 h)
  have hbs : bs.isEmpty = false := by simpa using hb
  rw [splitLastDot, hrange, List.findSome?_append, List.findSome?_eq_none_iff.2, Option.none_or,
    List.findSome?_cons]
  · simp only [hat, hpos, hbs, Bool.false_eq_true, or_self, if_false, List.take_left]
  · intro i hi
    split
    · rename_i right h
      exact absurd h (hbeyond i hi right)
    · rfl

/-! ## Fields -/

/-- The names of the fields of a part. -/
def Part.names : Part → List String
  | .word _ => []
  | .field name => [name]
  | .dotted left right => [left, right]

/-- The names of the fields of an endpoint. -/
def Endpoint.names (e : Endpoint) : List String := e.template.flatMap Part.names

variable {ps : List Part} {parts : List (List Char)} {fs : List (String × String)} {e : Endpoint}
  {path method : String}

theorem fields_matchParts (h : e.fields? path = some fs) :
    ∃ parts, Path.splitSlash path.toList = [] :: parts ∧ matchParts e.template parts = some fs := by
  rw [Endpoint.fields?] at h
  split at h
  · rename_i parts hparts
    exact ⟨parts, hparts, h⟩
  · cases h

theorem Endpoint.mem_all (e : Endpoint) : e ∈ Endpoint.all := by
  cases e <;> decide

/-- Endpoints with one method differ in the length of their templates or in their first part. -/
theorem Endpoint.eq_of_template {e e' : Endpoint} (hm : e.method = e'.method)
    (hl : e.template.length = e'.template.length) (hh : e.template.head? = e'.template.head?) :
    e = e' := by
  revert hm hl hh
  cases e <;> cases e' <;> decide

theorem Endpoint.template_word (e : Endpoint) :
    ∃ w ps, e.template = .word w :: ps ∧ (ps = [] → e = .health) := by
  cases e <;> exact ⟨_, _, rfl, by simp⟩

theorem word_of_matchParts {w : String} (hps : ps ≠ [])
    (h : matchParts (.word w :: ps) (cs :: parts) = some fs) : cs = w.toList := by
  rw [matchParts] at h
  · split at h
    · assumption
    · cases h
  · intro e
    exact absurd e hps

/-- A path belongs to at most one endpoint of a method. -/
theorem Endpoint.eq_of_fields {e e' : Endpoint} {fs fs' : List (String × String)}
    (h : e.fields? path = some fs) (h' : e'.fields? path = some fs') (hm : e.method = e'.method) :
    e = e' := by
  obtain ⟨parts, hparts, hmatch⟩ := fields_matchParts h
  obtain ⟨parts', hparts', hmatch'⟩ := fields_matchParts h'
  rw [hparts, List.cons.injEq] at hparts'
  obtain rfl := hparts'.2
  have hlength : e.template.length = e'.template.length :=
    (length_eq_of_matchParts hmatch).symm.trans (length_eq_of_matchParts hmatch')
  obtain ⟨w, ps, ht, hhealth⟩ := e.template_word
  obtain ⟨w', ps', ht', hhealth'⟩ := e'.template_word
  refine Endpoint.eq_of_template hm hlength ?_
  rw [ht, ht'] at hlength ⊢
  rw [ht] at hmatch
  rw [ht'] at hmatch'
  cases ps with
  | nil =>
    have hps' : ps' = [] := List.eq_nil_of_length_eq_zero (by simpa using hlength.symm)
    rw [hhealth rfl] at ht
    rw [hhealth' hps', ht] at ht'
    rw [ht']
  | cons p ps =>
    have hps' : ps' ≠ [] := by
      rintro rfl
      cases hlength
    cases parts with
    | nil => cases hmatch
    | cons cs rest =>
      have hw := word_of_matchParts (by simp) hmatch
      have hw' := word_of_matchParts hps' hmatch'
      rw [String.toList_inj.1 (hw.symm.trans hw')]
      rfl

/-- A request is for an endpoint if it has its method and a path that matches its template. -/
theorem route_found_iff :
    route method path = .found e fs ↔ e.method = method ∧ e.fields? path = some fs := by
  have hfitting : ∀ {e fs}, (e, fs) ∈ Endpoint.all.filterMap
      (fun e => (e.fields? path).map (fun fs => (e, fs))) → e.fields? path = some fs := by
    intro e fs hmem
    obtain ⟨e', -, hmap⟩ := List.mem_filterMap.1 hmem
    obtain ⟨fs', hfs', heq⟩ := Option.map_eq_some_iff.1 hmap
    rw [Prod.mk.injEq] at heq
    obtain ⟨rfl, rfl⟩ := heq
    exact hfs'
  rw [route]
  constructor
  · intro h
    split at h
    · rename_i e' fs' hfind
      rw [Routed.found.injEq] at h
      obtain ⟨rfl, rfl⟩ := h
      have hmethod := List.find?_some hfind
      exact ⟨by simpa using hmethod, hfitting (List.mem_of_find?_eq_some hfind)⟩
    · cases h
    · cases h
  · rintro ⟨rfl, hfields⟩
    have hmem : (e, fs) ∈ Endpoint.all.filterMap
        (fun e => (e.fields? path).map (fun fs => (e, fs))) := by
      refine List.mem_filterMap.2 ⟨e, e.mem_all, ?_⟩
      rw [hfields]
      rfl
    have hsome : (List.find? (fun p : Endpoint × List (String × String) => p.1.method == e.method)
        (Endpoint.all.filterMap (fun e => (e.fields? path).map (fun fs => (e, fs))))).isSome :=
      List.find?_isSome.2 ⟨(e, fs), hmem, by simp⟩
    obtain ⟨⟨e', fs'⟩, hfind⟩ := Option.isSome_iff_exists.1 hsome
    have hmethod : e'.method = e.method := by simpa using List.find?_some hfind
    have hfields' := hfitting (List.mem_of_find?_eq_some hfind)
    obtain rfl := Endpoint.eq_of_fields hfields' hfields hmethod
    rw [hfields, Option.some.injEq] at hfields'
    subst hfields'
    rw [hfind]

end TileDepot.Http
