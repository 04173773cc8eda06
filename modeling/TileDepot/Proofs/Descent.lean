import TileDepot.Proofs.FileNames
import TileDepot.Settings.Values

/-!
# Where an extension with slashes leads

The check of an extension removes blanks and sees to a leading dot; it lets slashes pass.  Reading the
file name of a layer as a path cuts it at these slashes.  What stands before the first slash is the end
of the first name below the root, and what follows are further names: single dots and empty names
disappear, double dots stay.

* `storePath_dotted` says which path a layer has under any extension that starts with a dot.
* `storePath_direct_iff` says that the file of a layer is a child of the root with the expected name
  exactly if the extension has no slash.
-/

namespace TileDepot

namespace Path

/-- The names of a text are free of slashes. -/
theorem splitSlash_flat (cs : List Char) : ∀ w ∈ splitSlash cs, '/' ∉ w := by
  induction cs with
  | nil => simp [splitSlash]
  | cons c cs ih =>
    rw [splitSlash]
    by_cases hc : c = '/'
    · rw [if_pos hc]
      intro w hw
      rcases List.mem_cons.1 hw with rfl | hw
      · exact List.not_mem_nil
      · exact ih w hw
    · rw [if_neg hc]
      cases hs : splitSlash cs with
      | nil => exact absurd hs (splitSlash_ne_nil cs)
      | cons first rest =>
        rw [hs] at ih
        intro w hw
        rcases List.mem_cons.1 hw with rfl | hw
        · rw [List.mem_cons, not_or]
          exact ⟨fun e => hc e.symm, ih first List.mem_cons_self⟩
        · exact ih w (List.mem_cons_of_mem _ hw)

theorem namesOf_flat {s name : String} (h : name ∈ namesOf s) : '/' ∉ name.toList := by
  simp only [namesOf, List.mem_map, List.mem_filter] at h
  obtain ⟨w, ⟨hw, -⟩, rfl⟩ := h
  rw [String.toList_ofList]
  exact splitSlash_flat s.toList w hw

/-- A text without slashes in front of another lengthens the first name of it. -/
theorem splitSlash_append_flat {as : List Char} (h : '/' ∉ as) (bs : List Char) :
    splitSlash (as ++ bs) = (as ++ (splitSlash bs).headD []) :: (splitSlash bs).tail := by
  induction as with
  | nil =>
    cases hs : splitSlash bs with
    | nil => exact absurd hs (splitSlash_ne_nil bs)
    | cons w ws => rw [List.nil_append, hs]; rfl
  | cons a as ih =>
    rw [List.mem_cons, not_or] at h
    rw [List.cons_append, splitSlash, if_neg (fun e => h.1 e.symm), ih h.2]
    rfl

end Path

namespace Layer

/-- What an extension adds to the safe name of a layer: its characters up to the first slash. -/
def stem (extension : String) : String :=
  String.ofList ((Path.splitSlash extension.toList).headD [])

/-- The names that an extension adds behind the name of a layer. -/
def trail (extension : String) : List String :=
  ((Path.splitSlash extension.toList).tail.filter (fun w => !(w.isEmpty || w == ['.']))).map
    String.ofList

theorem stem_of_flat {ext : String} (h : '/' ∉ ext.toList) : stem ext = ext := by
  rw [stem, Path.splitSlash_of_flat h, List.headD_cons, String.ofList_toList]

theorem trail_of_flat {ext : String} (h : '/' ∉ ext.toList) : trail ext = [] := by
  rw [trail, Path.splitSlash_of_flat h]
  rfl

theorem safeChars_flat (cs : List Char) : '/' ∉ safeChars cs := fun h =>
  absurd (isSafe_of_mem_safeChars h) (by decide)

/-- The names that the file of a layer adds to the root. -/
theorem namesOf_file {name : String} (h : name ≠ "") (ext : String) :
    Path.namesOf (safe name ++ ext) = (safe name ++ stem ext) :: trail ext := by
  obtain ⟨ch, rest, he, hd, -⟩ := safeChars_head (toList_ne_nil h)
  have hkept : (!((safeChars name.toList ++ (Path.splitSlash ext.toList).headD []).isEmpty ||
      safeChars name.toList ++ (Path.splitSlash ext.toList).headD [] == ['.'])) = true := by
    rw [he]
    simp [hd]
  rw [Path.namesOf, String.toList_append, toList_safe,
    Path.splitSlash_append_flat (safeChars_flat _), List.filter_cons, if_pos hkept, List.map_cons,
    String.ofList_append]
  rfl

/-- The path of a layer: the root, the first name, and what the extension adds behind it. -/
theorem storePath_dotted (root : Path) (ext : String) {name : String} (h : name ≠ "") :
    storePath? root ext name =
      some { root with names := root.names ++ (safe name ++ stem ext) :: trail ext } := by
  have ha : Path.anchorOf (safe name ++ ext).toList = .here := by
    obtain ⟨ch, rest, he, -, hs⟩ := safeChars_head (toList_ne_nil h)
    apply Path.anchorOf_of_head
    rw [String.toList_append, toList_safe, he, List.cons_append, List.head?_cons]
    rintro ⟨rfl⟩
    exact absurd hs (by decide)
  rw [storePath?, safeName?_of_ne h, Option.map_some, Path.join, ha, namesOf_file h]

end Layer

namespace Text

theorem mem_dropWhile_iff {p : Char → Bool} {cs : List Char} {c : Char} (hc : p c = false) :
    c ∈ cs.dropWhile p ↔ c ∈ cs := by
  induction cs with
  | nil => simp
  | cons d cs ih =>
    by_cases hd : p d = true
    · have hne : c ≠ d := by
        rintro rfl
        exact absurd hd (by simp [hc])
      rw [List.dropWhile_cons_of_pos hd, ih, List.mem_cons, or_iff_right hne]
    · rw [List.dropWhile_cons_of_neg hd]

/-- Trimming only removes characters that satisfy the test. -/
theorem mem_trimList_iff {p : Char → Bool} {cs : List Char} {c : Char} (hc : p c = false) :
    c ∈ trimList p cs ↔ c ∈ cs := by
  rw [trimList, List.mem_reverse, mem_dropWhile_iff hc, List.mem_reverse, mem_dropWhile_iff hc]

end Text

namespace Settings

/-- An accepted extension has the slashes that were in the setting. -/
theorem dotted_slash_iff {cs ds : List Char} (h : dotted cs = some ds) : '/' ∈ ds ↔ '/' ∈ cs := by
  have ht : '/' ∈ Text.trimList Text.isBlank cs ↔ '/' ∈ cs := Text.mem_trimList_iff (by decide)
  rw [← ht]
  unfold dotted at h
  generalize Text.trimList Text.isBlank cs = kept at h
  simp only at h
  split at h
  · exact absurd h (by simp)
  · split at h
    · rw [Option.some.inj h]
    · rw [← Option.some.inj h, List.mem_cons, or_iff_right (by decide)]

theorem checkExtension_text {raw ext : String} (h : checkExtension (.text raw) = .ok ext) :
    dotted raw.toList = some ext.toList := by
  simp only [checkExtension, checkText, bind, Except.bind] at h
  cases hd : dotted raw.toList with
  | none =>
    rw [hd] at h
    cases h
  | some cs =>
    rw [hd] at h
    rw [← Except.ok.inj h, String.toList_ofList]

end Settings

namespace Layer

/-- With a setting that is accepted as an extension, the file of a layer is a child of the root whose
name is the safe name followed by the extension, exactly if the setting has no slash. -/
theorem storePath_direct_iff (root : Path) (raw ext name : String)
    (hv : Settings.checkExtension (.text raw) = .ok ext) (h : name ≠ "") :
    ∃ p, storePath? root ext name = some p ∧
      ((p.parent = root ∧ p.name = safe name ++ ext) ↔ '/' ∉ raw.toList) := by
  rw [← Settings.dotted_slash_iff (Settings.checkExtension_text hv)]
  refine ⟨_, storePath_dotted root ext h, ?_, ?_⟩
  · rintro ⟨-, hname⟩ hs
    -- The last name is one of the names of a text, and these have no slash.
    have hmem : (Path.mk root.anchor (root.names ++ (safe name ++ stem ext) :: trail ext)).name ∈
        Path.namesOf (safe name ++ ext) := by
      rw [Path.name, namesOf_file h, List.getLastD_eq_getLast?, List.getLast?_append,
        List.getLast?_eq_some_getLast (List.cons_ne_nil _ _), Option.some_or, Option.getD_some]
      exact List.getLast_mem _
    rw [hname] at hmem
    apply Path.namesOf_flat hmem
    rw [String.toList_append]
    exact List.mem_append_right _ hs
  · intro hf
    rw [stem_of_flat hf, trail_of_flat hf]
    exact ⟨Path.child_parent root _, Path.child_name root _⟩

/-- An extension that is accepted and climbs above the root. -/
theorem climbing_extension_not_direct :
    Settings.checkExtension (.text " /../../etc/x") = .ok "./../../etc/x" ∧ "roads" ≠ "" ∧
      ∃ p, storePath? (Path.ofString "/tmp/tiles") "./../../etc/x" "roads" = some p ∧
        ¬ (p.parent = Path.ofString "/tmp/tiles" ∧ p.name = safe "roads" ++ "./../../etc/x") := by
  have hv : Settings.checkExtension (.text " /../../etc/x") = .ok "./../../etc/x" := by rfl
  obtain ⟨p, hp, hi⟩ := storePath_direct_iff (Path.ofString "/tmp/tiles") _ _ "roads" hv (by decide)
  exact ⟨hv, by decide, p, hp, fun hd => absurd (hi.1 hd) (by decide)⟩

end Layer

end TileDepot
