import TileDepot.Proofs.Descent

/-!
# Names that share a file

Every character of a name has an `image`, which depends on the character and on whether anything but dots
stands before it.  The safe form of a name is made of these images one by one, so that it is known which
names have one safe form, and with an extension that has no slash these are the names with one file.

* `getElem?_safeChars` says that a safe name is made of the images of its characters.
* `sharing_iff` says what a safe name is like and which names share its file.
-/

namespace TileDepot.Layer

/-- What becomes of a character of a name, given the characters before it.  Letters and digits of ASCII,
underscores and minuses stay, and so does a dot that is not among the leading ones. -/
def image (before : List Char) (c : Char) : Char :=
  if c.isAlphanum || c == '_' || c == '-' || (c == '.' && before.any (· != '.')) then c else '_'

theorem isSafe_eq (c : Char) : isSafe c = (c.isAlphanum || c == '_' || c == '-' || c == '.') := by
  have hupper : (decide ('A' ≤ c) && decide (c ≤ 'Z')) = c.isUpper := (Bool.decide_and ..).symm
  have hlower : (decide ('a' ≤ c) && decide (c ≤ 'z')) = c.isLower := rfl
  have hdigit : (decide ('0' ≤ c) && decide (c ≤ '9')) = c.isDigit := rfl
  have halpha : c.isAlphanum = (c.isUpper || c.isLower || c.isDigit) := rfl
  rw [isSafe, hupper, hlower, hdigit, halpha, Bool.or_right_comm _ (c == '.')]

/-- A safe character is one of ASCII, and no separator. -/
theorem isSafe_plain {c : Char} (h : isSafe c = true) :
    c ≠ '/' ∧ c ≠ '\\' ∧ c ≠ '\x00' ∧ c.toNat < 128 := by
  refine ⟨?_, ?_, ?_, ?_⟩
  · rintro rfl
    revert h
    decide
  · rintro rfl
    revert h
    decide
  · rintro rfl
    revert h
    decide
  · simp only [isSafe, Bool.or_eq_true, Bool.and_eq_true, decide_eq_true_eq, beq_iff_eq] at h
    have hle : ∀ {d : Char}, c ≤ d → c.toNat ≤ d.toNat := fun h => h
    rcases h with ((((h | h) | h) | rfl) | rfl) | rfl
    · exact Nat.lt_of_le_of_lt (hle h.2) (by decide)
    · exact Nat.lt_of_le_of_lt (hle h.2) (by decide)
    · exact Nat.lt_of_le_of_lt (hle h.2) (by decide)
    · decide
    · decide
    · decide

/-- Of the dots, those that only dots precede are masked. -/
theorem getElem?_maskLeadingDots (cs : List Char) (i : Nat) :
    (maskLeadingDots cs)[i]? =
      cs[i]?.map (fun c => if c == '.' && !(cs.take i).any (· != '.') then '_' else c) := by
  induction cs generalizing i with
  | nil => rfl
  | cons c cs ih =>
    by_cases hc : c = '.'
    · subst hc
      cases i with
      | zero => rfl
      | succ i =>
        rw [maskLeadingDots, List.getElem?_cons_succ, List.getElem?_cons_succ, ih, List.take_succ_cons,
          List.any_cons]
        rfl
    · have hkept : maskLeadingDots (c :: cs) = c :: cs := by
        rw [maskLeadingDots.eq_def]
        split
        · rename_i heq
          exact absurd (List.cons.inj heq).1 hc
        · rfl
      rw [hkept]
      cases i with
      | zero => simp [hc]
      | succ i => simp [hc]

/-- A character is a dot after its replacement only if it was one before. -/
theorem replaced_eq_dot (c : Char) : (if isSafe c then c else '_') = '.' ↔ c = '.' := by
  constructor
  · intro h
    split at h
    · exact h
    · cases h
  · rintro rfl
    decide

theorem any_replaceUnsafe (cs : List Char) :
    (replaceUnsafe cs).any (· != '.') = cs.any (· != '.') := by
  rw [replaceUnsafe, List.any_map]
  congr 1
  funext c
  rw [Bool.eq_iff_iff, Function.comp_apply, bne_iff_ne, bne_iff_ne, Ne, Ne, replaced_eq_dot]

/-- Every character of a safe name is the image of the character at its position. -/
theorem getElem?_safeChars (cs : List Char) (i : Nat) :
    (safeChars cs)[i]? = cs[i]?.map (image (cs.take i)) := by
  have htake : ((replaceUnsafe cs).take i).any (· != '.') = (cs.take i).any (· != '.') := by
    rw [← any_replaceUnsafe (cs.take i), replaceUnsafe, replaceUnsafe, List.map_take]
  rw [safeChars, getElem?_maskLeadingDots, htake, replaceUnsafe, List.getElem?_map, Option.map_map]
  congr 1
  funext c
  rw [Function.comp_apply, image]
  by_cases hdot : c = '.'
  · subst hdot
    cases (cs.take i).any (· != '.') <;> rfl
  · have hsafe : isSafe c = (c.isAlphanum || c == '_' || c == '-') := by
      rw [isSafe_eq, beq_false_of_ne hdot, Bool.or_false]
    have hstays : ((if isSafe c then c else '_') == '.') = false :=
      beq_false_of_ne (mt (replaced_eq_dot c).1 hdot)
    rw [hstays, Bool.false_and, if_neg Bool.false_ne_true, hsafe, beq_false_of_ne hdot, Bool.false_and,
      Bool.or_false]

/-- Two names have one safe form if their characters have the same images. -/
theorem safe_inj_iff (a b : String) : safe a = safe b ↔ a.length = b.length ∧
    ∀ i, i < a.length →
      a.toList[i]?.map (image (a.toList.take i)) = b.toList[i]?.map (image (b.toList.take i)) := by
  rw [← String.toList_inj, toList_safe, toList_safe]
  simp only [← getElem?_safeChars]
  constructor
  · intro h
    have hlen := congrArg List.length h
    rw [length_safeChars, length_safeChars] at hlen
    exact ⟨hlen, fun i _ => by rw [h]⟩
  · rintro ⟨hlen, himages⟩
    have hlen' : a.toList.length = b.toList.length := hlen
    apply List.ext_getElem?
    intro i
    by_cases hi : i < a.length
    · exact himages i hi
    · have hi' : a.toList.length ≤ i := Nat.le_of_not_lt hi
      rw [List.getElem?_eq_none, List.getElem?_eq_none]
      · rw [length_safeChars, ← hlen']
        exact hi'
      · rw [length_safeChars]
        exact hi'

/-- With an extension that has no slash, the file of a layer is a child of the root. -/
theorem storePath_flat (root : Path) {ext name : String} (hflat : '/' ∉ ext.toList) (h : name ≠ "") :
    storePath? root ext name = some (root.child (safe name ++ ext)) := by
  rw [storePath_dotted root ext h, stem_of_flat hflat, trail_of_flat hflat]
  rfl

theorem storePath_inj_iff (root : Path) {ext a b : String} (hflat : '/' ∉ ext.toList) (ha : a ≠ "")
    (hb : b ≠ "") : storePath? root ext a = storePath? root ext b ↔ safe a = safe b := by
  rw [storePath_flat root hflat ha, storePath_flat root hflat hb, Option.some.injEq]
  exact StoreConfig.pathOf_inj (c := ⟨root, ext, false⟩)

/-- The safe form of a name is made of the images of its characters.  So it is as long as the name, it is not
empty and starts with no dot, it has no separator, no NUL and nothing beyond ASCII, and it is its own safe
form; and the names with its file are those with as many characters and the same images of them. -/
theorem sharing_iff (name : String) (h : name ≠ "") :
    ∃ f, safeName? name = some f ∧ f.length = name.length ∧
      (∀ i, f.toList[i]? = name.toList[i]?.map (image (name.toList.take i))) ∧
      f ≠ "" ∧ f.toList.head? ≠ some '.' ∧
      (∀ c ∈ f.toList, c ≠ '/' ∧ c ≠ '\\' ∧ c ≠ '\x00' ∧ c.toNat < 128) ∧
      safeName? f = some f ∧
      ∀ (root : Path) (ext : String), '/' ∉ ext.toList →
        storePath? root ext name = some (root.child (f ++ ext)) ∧
        storePath? root ext f = storePath? root ext name ∧
        ∀ other, other ≠ "" →
          (storePath? root ext name = storePath? root ext other ↔
            name.length = other.length ∧ ∀ i, i < name.length →
              name.toList[i]?.map (image (name.toList.take i)) =
                other.toList[i]?.map (image (other.toList.take i))) := by
  have hsafe := safe_ne_empty h
  refine ⟨safe name, safeName?_of_ne h, ?_, ?_, hsafe, ?_, ?_, ?_, ?_⟩
  · show (safe name).toList.length = name.toList.length
    rw [toList_safe, length_safeChars]
  · intro i
    rw [toList_safe, getElem?_safeChars]
  · obtain ⟨c, rest, hc, hdot, -⟩ := safeChars_head (toList_ne_nil h)
    rw [toList_safe, hc, List.head?_cons, Ne, Option.some.injEq]
    exact hdot
  · intro c hc
    rw [toList_safe] at hc
    exact isSafe_plain (isSafe_of_mem_safeChars hc)
  · rw [safeName?_of_ne hsafe, safe_safe]
  · intro root ext hflat
    refine ⟨storePath_flat root hflat h, ?_, fun other hother => ?_⟩
    · rw [storePath_inj_iff root hflat hsafe h, safe_safe]
    · rw [storePath_inj_iff root hflat h hother, safe_inj_iff]

/-- Of the dots of a name, the leading ones are masked; a name that has underscores there shares its file. -/
theorem dottedName_shares :
    ".a/.b" ≠ "" ∧ '/' ∉ ".sqlite".toList ∧ "_a_.b" ≠ "" ∧
      storePath? (Path.ofString "/tmp/tiles") ".sqlite" ".a/.b" =
        storePath? (Path.ofString "/tmp/tiles") ".sqlite" "_a_.b" := by
  obtain ⟨f, -, -, -, -, -, -, -, hshares⟩ := sharing_iff ".a/.b" (by decide)
  obtain ⟨-, -, hiff⟩ := hshares (Path.ofString "/tmp/tiles") ".sqlite" (by decide)
  refine ⟨by decide, by decide, by decide, (hiff "_a_.b" (by decide)).2 ⟨by decide, ?_⟩⟩
  decide

end TileDepot.Layer
