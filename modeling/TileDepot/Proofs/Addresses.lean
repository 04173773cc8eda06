import Mathlib.Data.List.TakeWhile
import Mathlib.Tactic.Ring
import TileDepot.Proofs.Descent
import TileDepot.Proofs.Routing

/-!
# Paths and numbers that requests spell

A path is spelled by its parts, each after a slash, and an integer by a sign and decimal digits.  What was
spelled is what is read, provided that no part has a slash; leading zeros and a plus do not matter.

* `splitSlash_joinPath` says that a path falls into the parts that it was made of.
* `readInteger_numeral` says that an integer is read as the number that its digits spell.
-/

namespace TileDepot.Http

open Json

/-! ## Paths -/

/-- The path with the given parts. -/
def joinPath : List String → String
  | [] => ""
  | p :: ps => "/" ++ p ++ joinPath ps

/-- A part of a path that can stand between slashes. -/
structure Segment (s : String) : Prop where
  nonempty : s ≠ ""
  flat : '/' ∉ s.toList

/-- A path falls into the parts that it was made of. -/
theorem splitSlash_joinPath {parts : List String} (h : ∀ p ∈ parts, '/' ∉ p.toList) :
    Path.splitSlash (joinPath parts).toList = [] :: parts.map String.toList := by
  induction parts with
  | nil => rfl
  | cons p ps ih =>
    rw [List.forall_mem_cons] at h
    have htoList : (joinPath (p :: ps)).toList = '/' :: (p.toList ++ (joinPath ps).toList) := by
      rw [joinPath, String.toList_append, String.toList_append]
      rfl
    rw [htoList, Path.splitSlash, if_pos rfl, Path.splitSlash_append_flat h.1, ih h.2, List.map_cons,
      List.headD_cons, List.tail_cons, List.append_nil]

/-! ## Integers -/

/-- Decimal digits, at least one. -/
structure Digits (ds : List Char) : Prop where
  nonempty : ds ≠ []
  digit : ∀ c ∈ ds, c.isDigit = true

/-- A text that spells an integer by an optional sign and decimal digits. -/
inductive Spells : List Char → Int → Prop
  | plain {ds : List Char} (h : Digits ds) : Spells ds (natOfDigits ds)
  | plus {ds : List Char} (h : Digits ds) : Spells ('+' :: ds) (natOfDigits ds)
  | minus {ds : List Char} (h : Digits ds) : Spells ('-' :: ds) (-(natOfDigits ds))

theorem isDigit_range {c : Char} (h : c.isDigit = true) : 48 ≤ c.toNat ∧ c.toNat ≤ 57 := by
  simp only [Char.isDigit, Bool.and_eq_true, decide_eq_true_eq] at h
  exact ⟨h.1, h.2⟩

theorem isWhite_digit {c : Char} (h : c.isDigit = true) : Text.isWhite c = false := by
  have := isDigit_range h
  simp only [Text.isWhite, Bool.or_eq_false_iff, Bool.and_eq_false_iff, decide_eq_false_iff_not,
    beq_eq_false_iff_ne]
  omega

theorem ne_of_isDigit {c d : Char} (h : c.isDigit = true) (hd : d.isDigit = false) : c ≠ d := by
  rintro rfl
  rw [h] at hd
  cases hd

theorem trimList_of_none {p : Char → Bool} {cs : List Char} (h : ∀ c ∈ cs, p c = false) :
    Text.trimList p cs = cs := by
  have hdrop : ∀ ds : List Char, (∀ c ∈ ds, p c = false) → ds.dropWhile p = ds := by
    intro ds hds
    cases ds with
    | nil => rfl
    | cons d ds => rw [List.dropWhile_cons_of_neg (by rw [hds d (List.mem_cons_self ..)]; simp)]
  rw [Text.trimList, hdrop cs h, hdrop cs.reverse (fun c hc => h c (List.mem_reverse.1 hc)),
    List.reverse_reverse]

theorem foldl_digits (ds : List Char) (n : Nat) :
    ds.foldl (fun n c => n * 10 + (c.toNat - 48)) n = n * 10 ^ ds.length + natOfDigits ds := by
  induction ds generalizing n with
  | nil => simp [natOfDigits]
  | cons d ds ih =>
    have hcons : natOfDigits (d :: ds) = (d.toNat - 48) * 10 ^ ds.length + natOfDigits ds := by
      rw [natOfDigits, List.foldl_cons, ih, Nat.zero_mul, Nat.zero_add]
    rw [List.foldl_cons, ih, hcons, List.length_cons, pow_succ]
    ring

theorem natOfDigits_cons (d : Char) (ds : List Char) :
    natOfDigits (d :: ds) = (d.toNat - 48) * 10 ^ ds.length + natOfDigits ds := by
  rw [natOfDigits, List.foldl_cons, foldl_digits, Nat.zero_mul, Nat.zero_add]

/-- Digits without a leading zero spell no less than their number of places says. -/
theorem le_natOfDigits {d : Char} {ds : List Char} (hd : d.isDigit = true) (h0 : d ≠ '0') :
    10 ^ ds.length ≤ natOfDigits (d :: ds) := by
  have hrange := isDigit_range hd
  have hne : d.toNat ≠ 48 := by
    intro e
    exact h0 (Char.toNat_inj.1 e)
  have hpos : 1 * 10 ^ ds.length ≤ (d.toNat - 48) * 10 ^ ds.length :=
    Nat.mul_le_mul_right _ (by omega)
  rw [natOfDigits_cons]
  omega

/-- Leading zeros are removed without changing the number, and one digit is left at least. -/
theorem dropZeros_digits {ds : List Char} (h : Digits ds) :
    ∃ es, dropZeros ds = some es ∧ Digits es ∧ natOfDigits es = natOfDigits ds ∧
      (es = ['0'] ∨ es.head? ≠ some '0') := by
  induction ds with
  | nil => exact absurd rfl h.nonempty
  | cons d ds ih =>
    have hd := h.digit d (List.mem_cons_self ..)
    by_cases h0 : d = '0'
    · subst h0
      cases ds with
      | nil => exact ⟨['0'], rfl, h, rfl, .inl rfl⟩
      | cons c rest =>
        have hc := h.digit c (by simp)
        obtain ⟨es, hes, hdigits, hnat, hhead⟩ :=
          ih ⟨by simp, fun x hx => h.digit x (List.mem_cons_of_mem _ hx)⟩
        have hdrop : dropZeros ('0' :: c :: rest) = dropZeros (c :: rest) := by
          have hbar : c ≠ '_' := ne_of_isDigit hc (by decide)
          have hdot : c ≠ '.' := ne_of_isDigit hc (by decide)
          rw [dropZeros]
          · intro _ e
            exact absurd e hbar
          · exact hbar
          · exact hdot
        refine ⟨es, hdrop.trans hes, hdigits, ?_, hhead⟩
        rw [hnat, natOfDigits_cons '0']
        simp
    · refine ⟨d :: ds, ?_, h, rfl, .inr (by simpa using h0)⟩
      rw [dropZeros, if_pos hd]
      all_goals
        intros
        exact h0 ‹d = '0'›

theorem dropFraction_digits {ds : List Char} (h : Digits ds) : dropFraction ds = ds := by
  have hnone : ds.dropWhile (· != '.') = [] := by
    rw [List.dropWhile_eq_nil_iff]
    intro c hc
    simpa using ne_of_isDigit (h.digit c hc) (d := '.') (by decide)
  rw [dropFraction, hnone]

theorem dropUnderscores_digits {ds : List Char} (h : Digits ds) : dropUnderscores ds = some ds := by
  have hbar : ∀ c ∈ ds, c ≠ '_' := fun c hc => ne_of_isDigit (h.digit c hc) (by decide)
  have hdouble : ∀ es : List Char, (∀ c ∈ es, c ≠ '_') → hasDoubleUnderscore es = false := by
    intro es hes
    induction es with
    | nil => rfl
    | cons c es ih =>
      rw [List.forall_mem_cons] at hes
      rw [hasDoubleUnderscore]
      · exact ih hes.2
      · intro rest e
        exact absurd e hes.1
  rw [dropUnderscores, if_neg, List.filter_eq_self.2 (fun c hc => by simpa using hbar c hc)]
  rw [not_or, not_or]
  refine ⟨?_, ?_, by rw [hdouble ds hbar]; simp⟩
  · intro e
    exact hbar _ (List.mem_of_head? e) rfl
  · intro e
    exact hbar _ (List.mem_of_getLast? e) rfl

/-- An integer that a table can keep has at most nineteen digits without leading zeros. -/
theorem length_digits {es : List Char} (h : Digits es) (hhead : es = ['0'] ∨ es.head? ≠ some '0')
    (hle : natOfDigits es ≤ 9223372036854775808) : es.length ≤ 19 := by
  rcases hhead with rfl | hhead
  · decide
  · cases es with
    | nil => exact absurd rfl h.nonempty
    | cons d ds =>
      have hpow : 10 ^ ds.length ≤ natOfDigits (d :: ds) :=
        le_natOfDigits (h.digit d (List.mem_cons_self ..)) (by simpa using hhead)
      by_contra hlong
      rw [List.length_cons] at hlong
      have hmono : 10 ^ 19 ≤ 10 ^ ds.length := Nat.pow_le_pow_right (by decide) (by omega)
      omega

/-- An integer is read as the number that its digits spell. -/
theorem readInteger_numeral {s : String} {i : Int} (h : Spells s.toList i) (hl : leastInteger ≤ i)
    (hg : i ≤ greatestInteger) : readInteger s = .ok i := by
  have hwhite : ∀ {ds}, Digits ds → ∀ c ∈ ds, Text.isWhite c = false :=
    fun hds c hc => isWhite_digit (hds.digit c hc)
  have hread : ∀ ds, Digits ds → natOfDigits ds ≤ 9223372036854775808 →
      ∃ es, (dropZeros ds).bind (fun cs => dropUnderscores (dropFraction cs)) = some es ∧
        (es.isEmpty || !es.all Char.isDigit) = false ∧ ¬ maxDigits < es.length ∧
        natOfDigits es = natOfDigits ds := by
    intro ds hds hle
    obtain ⟨es, hes, hd, hnat, hhead⟩ := dropZeros_digits hds
    have hlength := length_digits hd hhead (hnat ▸ hle)
    refine ⟨es, ?_, ?_, ?_, hnat⟩
    · rw [hes, Option.bind_some, dropFraction_digits hd, dropUnderscores_digits hd]
    · simpa [hd.nonempty] using hd.digit
    · show ¬ 4300 < es.length
      omega
  rw [leastInteger] at hl
  rw [greatestInteger] at hg
  rw [readInteger]
  generalize s.toList = cs at h
  cases h with
  | plain hds =>
    obtain ⟨es, hbind, hcheck, hlimit, hnat⟩ := hread _ hds (by omega)
    have hsign : takeSign cs = (false, cs) := by
      cases cs with
      | nil => rfl
      | cons c rest =>
        have hc := hds.digit c (List.mem_cons_self ..)
        rw [takeSign]
        · intro ds e
          exact ne_of_isDigit hc (by decide) (List.cons.inj e).1
        · intro ds e
          exact ne_of_isDigit hc (by decide) (List.cons.inj e).1
    rw [trimList_of_none (hwhite hds), hsign]
    simp only [hbind, hcheck, Bool.false_eq_true, if_false, if_neg hlimit, hnat]
    rfl
  | @plus ds hds =>
    obtain ⟨es, hbind, hcheck, hlimit, hnat⟩ := hread _ hds (by omega)
    have htrim : Text.trimList Text.isWhite ('+' :: ds) = '+' :: ds :=
      trimList_of_none (List.forall_mem_cons.2 ⟨by decide, hwhite hds⟩)
    rw [htrim, takeSign]
    simp only [hbind, hcheck, Bool.false_eq_true, if_false, if_neg hlimit, hnat]
    rfl
  | @minus ds hds =>
    obtain ⟨es, hbind, hcheck, hlimit, hnat⟩ := hread _ hds (by omega)
    have htrim : Text.trimList Text.isWhite ('-' :: ds) = '-' :: ds :=
      trimList_of_none (List.forall_mem_cons.2 ⟨by decide, hwhite hds⟩)
    rw [htrim, takeSign]
    simp only [hbind, hcheck, Bool.false_eq_true, if_false, if_neg hlimit, hnat, if_true]
    rfl

theorem Spells.ne_nil {cs : List Char} {i : Int} (h : Spells cs i) : cs ≠ [] := by
  cases h with
  | plain hds => exact hds.nonempty
  | plus hds => simp
  | minus hds => simp

/-- What spells an integer has no dot and no slash. -/
theorem Spells.not_mem {cs : List Char} {i : Int} (h : Spells cs i) {d : Char} (hd : d ∈ ['.', '/']) :
    d ∉ cs := by
  have hdigit : ∀ {ds}, Digits ds → d ∉ ds := by
    intro ds hds hmem
    have hisDigit := hds.digit d hmem
    simp only [List.mem_cons, List.not_mem_nil, or_false] at hd
    rcases hd with rfl | rfl <;> cases hisDigit
  have hsign : d ≠ '+' ∧ d ≠ '-' := by
    simp only [List.mem_cons, List.not_mem_nil, or_false] at hd
    rcases hd with rfl | rfl <;> decide
  cases h with
  | plain hds => exact hdigit hds
  | plus hds =>
    rw [List.mem_cons, not_or]
    exact ⟨hsign.1, hdigit hds⟩
  | minus hds =>
    rw [List.mem_cons, not_or]
    exact ⟨hsign.2, hdigit hds⟩

/-! ## Matching -/

section Matching

variable {ps : List Part} {rest : List (List Char)} {parts : List String} {w s a b name left right : String}
  {e : Endpoint}

theorem fields_joinPath (h : ∀ p ∈ parts, '/' ∉ p.toList) :
    e.fields? (joinPath parts) = matchParts e.template (parts.map String.toList) := by
  rw [Endpoint.fields?, splitSlash_joinPath h]

theorem matchParts_word (h : ps ≠ []) :
    matchParts (.word w :: ps) (w.toList :: rest) = matchParts ps rest := by
  rw [matchParts]
  · rw [if_pos rfl]
  · intro e
    exact absurd e h

theorem matchParts_last : matchParts [.word w] [w.toList] = some [] := by
  rw [matchParts, if_pos (.inl rfl)]

theorem matchParts_field (h : s ≠ "") : matchParts (.field name :: ps) (s.toList :: rest) =
    (matchParts ps rest).map ((name, s) :: ·) := by
  rw [matchParts, if_neg, String.ofList_toList]
  simpa using h

theorem matchParts_dotted (ha : a ≠ "") (hb : b ≠ "") (hd : '.' ∉ b.toList) :
    matchParts (.dotted left right :: ps) ((a ++ "." ++ b).toList :: rest) =
      (matchParts ps rest).map (fun fs => (left, a) :: (right, b) :: fs) := by
  have hsplit : splitLastDot (a ++ "." ++ b).toList = some (a.toList, b.toList) := by
    rw [String.toList_append, String.toList_append, List.append_assoc]
    exact splitLastDot_append (by simpa using ha) (by simpa using hb) hd
  rw [matchParts, hsplit]
  simp only [String.ofList_toList]

end Matching

end TileDepot.Http
