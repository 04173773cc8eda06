import TileDepot.Store.Connection

/-!
# Store files below a root

A layer's file is the child of the root whose name is the safe form of the layer's name followed by
the extension.  This holds for every extension that starts with a dot and has no slash, which is what
`StoreConfig.Regular` asks; a safe name is never empty, starts with no dot and has no slash, so neither
the whole nor a part of it can be taken for a separator, for the directory itself or for its parent.

* `storePath_eq` says which path a layer has, and `pathOf_inj` that two layers have one path exactly if
  their names have one safe form.
* `file_ne_sidecar` says that what a database keeps beside the file of one layer is the file of no
  layer.  The extension cannot end in a suffix of its own making, since the suffixes have no dot.
-/

namespace TileDepot

/-! ## Safe names -/

namespace Layer

/-- The safe form of a name. -/
def safe (name : String) : String := String.ofList (safeChars name.toList)

/-- A name that is its own safe form. -/
def IsSafe (f : String) : Prop := f ≠ "" ∧ safe f = f

theorem toList_safe (name : String) : (safe name).toList = safeChars name.toList := by
  simp [safe]

theorem safe_ofList (cs : List Char) : safe (String.ofList cs) = String.ofList (safeChars cs) := by
  rw [safe, String.toList_ofList]

theorem maskLeadingDots_head {cs : List Char} (h : cs ≠ []) :
    ∃ c rest, maskLeadingDots cs = c :: rest ∧ c ≠ '.' := by
  cases cs with
  | nil => exact absurd rfl h
  | cons c cs =>
    by_cases hc : c = '.'
    · subst hc
      exact ⟨'_', maskLeadingDots cs, rfl, by decide⟩
    · refine ⟨c, cs, ?_, hc⟩
      rw [maskLeadingDots.eq_def]
      split
      · rename_i heq
        exact absurd (List.cons.inj heq).1 hc
      · rfl

/-- A safe name begins with a safe character other than a dot. -/
theorem safeChars_head {cs : List Char} (h : cs ≠ []) :
    ∃ c rest, safeChars cs = c :: rest ∧ c ≠ '.' ∧ isSafe c = true := by
  have hr : replaceUnsafe cs ≠ [] := by
    rw [replaceUnsafe]
    exact fun e => h (List.map_eq_nil_iff.1 e)
  obtain ⟨c, rest, he, hc⟩ := maskLeadingDots_head hr
  have hs : safeChars cs = c :: rest := he
  have hmem : c ∈ safeChars cs := by
    rw [hs]
    exact List.mem_cons_self
  exact ⟨c, rest, hs, hc, isSafe_of_mem_safeChars hmem⟩

theorem toList_ne_nil {name : String} (h : name ≠ "") : name.toList ≠ [] := by
  intro e
  apply h
  rw [← String.toList_inj, e]
  rfl

theorem safe_ne_empty {name : String} (h : name ≠ "") : safe name ≠ "" := by
  obtain ⟨c, rest, he, -, -⟩ := safeChars_head (toList_ne_nil h)
  intro e
  have ht := toList_safe name
  rw [e, he] at ht
  exact List.cons_ne_nil _ _ ht.symm

theorem safe_safe (name : String) : safe (safe name) = safe name := by
  rw [safe, toList_safe, safeChars_idem]
  rfl

theorem isSafe_safe {name : String} (h : name ≠ "") : IsSafe (safe name) :=
  ⟨safe_ne_empty h, safe_safe name⟩

theorem safeName?_of_ne {name : String} (h : name ≠ "") : safeName? name = some (safe name) := by
  have he : name.isEmpty = false := by simpa using h
  simp [safeName?, he, safe]

end Layer

/-! ## Paths of store files -/

/-- Settings that the store vouches for: the extension starts with a dot and has no slash. -/
structure StoreConfig.Regular (c : StoreConfig) : Prop where
  dotted : c.extension.toList.head? = some '.'
  flat : '/' ∉ c.extension.toList

/-- The path of the file with a safe name. -/
def StoreConfig.pathOf (c : StoreConfig) (f : String) : Path := c.root.child (f ++ c.extension)

namespace Path

theorem splitSlash_of_flat {cs : List Char} (h : '/' ∉ cs) : splitSlash cs = [cs] := by
  induction cs with
  | nil => rfl
  | cons c cs ih =>
    rw [List.mem_cons, not_or] at h
    rw [splitSlash, if_neg (fun e => h.1 e.symm), ih h.2]

theorem anchorOf_of_head {cs : List Char} (h : cs.head? ≠ some '/') : anchorOf cs = .here := by
  cases cs with
  | nil => rfl
  | cons c cs =>
    have hc : c ≠ '/' := by simpa using h
    unfold anchorOf
    split <;> simp_all

/-- A text without slashes that is neither empty nor a dot adds itself as one name. -/
theorem join_of_flat {p : Path} {s : String} (hf : '/' ∉ s.toList) (he : s.toList ≠ [])
    (hd : s.toList ≠ ['.']) : p.join s = p.child s := by
  have ha : anchorOf s.toList = .here := by
    apply anchorOf_of_head
    intro e
    exact hf (List.mem_of_head? e)
  have hn : namesOf s = [s] := by
    simp [namesOf, splitSlash_of_flat hf, he, hd]
  rw [join, ha, hn]
  rfl

end Path

namespace Layer

variable {c : StoreConfig}

theorem file_flat (hc : c.Regular) (name : String) : '/' ∉ (safe name ++ c.extension).toList := by
  rw [String.toList_append, toList_safe, List.mem_append, not_or]
  refine ⟨fun h => ?_, hc.flat⟩
  exact absurd (isSafe_of_mem_safeChars h) (by decide)

theorem file_head {name : String} (h : name ≠ "") (ext : String) :
    ∃ ch rest, (safe name ++ ext).toList = ch :: rest ∧ ch ≠ '.' := by
  obtain ⟨ch, rest, he, hd, -⟩ := safeChars_head (toList_ne_nil h)
  refine ⟨ch, rest ++ ext.toList, ?_, hd⟩
  rw [String.toList_append, toList_safe, he, List.cons_append]

theorem file_ne_dots {name : String} (h : name ≠ "") (ext : String) : safe name ++ ext ≠ ".." := by
  obtain ⟨ch, rest, he, hd⟩ := file_head h ext
  intro e
  rw [e] at he
  exact hd (List.cons.inj he).1.symm

/-- The path of a layer. -/
theorem storePath_eq (hc : c.Regular) {name : String} (h : name ≠ "") :
    storePath? c.root c.extension name = some (c.pathOf (safe name)) := by
  obtain ⟨ch, rest, he, hd⟩ := file_head h c.extension
  have hj : c.root.join (safe name ++ c.extension) = c.root.child (safe name ++ c.extension) := by
    apply Path.join_of_flat (file_flat hc name)
    · rw [he]
      exact List.cons_ne_nil _ _
    · rw [he]
      intro e
      exact hd (List.cons.inj e).1
  rw [storePath?, safeName?_of_ne h, Option.map_some, hj]
  rfl

theorem storePath_empty : storePath? c.root c.extension "" = none := by
  simp [storePath?, safeName?]

end Layer

theorem StoreConfig.pathOf_inj {c : StoreConfig} {f g : String} : c.pathOf f = c.pathOf g ↔ f = g := by
  constructor
  · intro h
    have hn : (c.root.child (f ++ c.extension)).name = (c.root.child (g ++ c.extension)).name :=
      congrArg Path.name h
    rw [Path.child_name, Path.child_name] at hn
    exact (String.append_left_inj _).1 hn
  · exact fun h => h ▸ rfl

/-! ## What lies beside a store file -/

namespace Layer

/-- A text that starts with a dot is no suffix of what is left of a text without dots behind it: the
dots in the last characters would have to be there twice. -/
theorem append_ne_of_undotted {as bs ext tail : List Char} (hd : ext.head? = some '.')
    (hu : '.' ∉ tail) (hn : tail ≠ []) : as ++ ext ++ tail ≠ bs ++ ext := by
  intro h
  obtain ⟨rest, rfl⟩ : ∃ rest, ext = '.' :: rest := by
    cases ext with
    | nil => simp at hd
    | cons ch rest => exact ⟨rest, by simpa using hd⟩
  -- Both sides end in as many characters as the left one has from its dot on.
  have hlen := congrArg List.length h
  simp only [List.length_append, List.length_cons] at hlen
  have htail : 0 < tail.length := List.length_pos_iff.2 hn
  have hdrop := congrArg (List.drop as.length) h
  rw [List.append_assoc, List.drop_left, List.drop_append_of_le_length (by omega)] at hdrop
  have hcount := congrArg (List.count '.') hdrop
  simp only [List.count_append, List.count_cons, List.count_eq_zero.2 hu] at hcount
  -- The dot that begins the left side stands among the characters before the right one's extension.
  have hpos : 0 < List.count '.' (List.drop as.length bs) := by
    rw [List.count_pos_iff]
    have hne : List.drop as.length bs ≠ [] := by
      intro e
      have := congrArg List.length e
      rw [List.length_drop, List.length_nil] at this
      omega
    obtain ⟨ch, more, hm⟩ := List.exists_cons_of_ne_nil hne
    rw [hm, List.cons_append, List.cons_append] at hdrop
    rw [hm, ← (List.cons.inj hdrop).1]
    exact List.mem_cons_self
  omega

/-- What a database keeps beside a store file is no store file. -/
theorem file_ne_sidecar {ext suffix : String} (hd : ext.toList.head? = some '.')
    (hs : suffix ∈ Store.sidecarSuffixes) (f g : String) : f ++ ext ++ suffix ≠ g ++ ext := by
  intro h
  have ht := congrArg String.toList h
  simp only [String.toList_append] at ht
  simp only [Store.sidecarSuffixes, List.mem_cons, List.not_mem_nil, or_false] at hs
  refine append_ne_of_undotted hd ?_ ?_ ht <;> rcases hs with rfl | rfl | rfl <;> decide

end Layer

end TileDepot
