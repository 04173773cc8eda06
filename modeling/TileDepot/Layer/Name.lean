import TileDepot.Path

/-!
# Layer names and store files

Every layer keeps its rows in one file, and the name of the file is the name of the layer made safe: a
character other than an ASCII letter, a digit, an underscore, a dot or a minus becomes an underscore,
and then every leading dot does.  Different layer names may have the same safe form; they share a file.

* `length_safeChars` says that making a name safe keeps its length.
* `safeChars_idem` says that a safe name is its own safe form.
-/

namespace TileDepot.Layer

/-- Characters that a file name keeps. -/
def isSafe (c : Char) : Bool :=
  ('A' ≤ c && c ≤ 'Z') || ('a' ≤ c && c ≤ 'z') || ('0' ≤ c && c ≤ '9') ||
    c == '_' || c == '.' || c == '-'

/-- Put an underscore in place of every other character. -/
def replaceUnsafe (cs : List Char) : List Char := cs.map (fun c => if isSafe c then c else '_')

/-- Put an underscore in place of every leading dot. -/
def maskLeadingDots : List Char → List Char
  | '.' :: cs => '_' :: maskLeadingDots cs
  | cs => cs

/-- The safe form of the characters of a name. -/
def safeChars (cs : List Char) : List Char := maskLeadingDots (replaceUnsafe cs)

/-- The safe form of a name; the empty name has none. -/
def safeName? (name : String) : Option String :=
  if name.isEmpty then none else some (String.ofList (safeChars name.toList))

/-- The file of a layer below a root: its safe name followed by the extension. -/
def storePath? (root : Path) (extension name : String) : Option Path :=
  (safeName? name).map (fun safe => root.join (safe ++ extension))

theorem length_maskLeadingDots (cs : List Char) : (maskLeadingDots cs).length = cs.length := by
  fun_induction maskLeadingDots cs <;> simp_all

theorem length_safeChars (cs : List Char) : (safeChars cs).length = cs.length := by
  simp [safeChars, length_maskLeadingDots, replaceUnsafe]

theorem isSafe_of_mem_replaceUnsafe {cs : List Char} {c : Char} (h : c ∈ replaceUnsafe cs) :
    isSafe c = true := by
  simp only [replaceUnsafe, List.mem_map] at h
  obtain ⟨d, -, rfl⟩ := h
  by_cases hd : isSafe d = true
  · simp [hd]
  · rw [if_neg hd]
    decide

theorem isSafe_of_mem_mask {cs : List Char} (hs : ∀ c ∈ cs, isSafe c = true) :
    ∀ c ∈ maskLeadingDots cs, isSafe c = true := by
  fun_induction maskLeadingDots cs with
  | case1 cs ih =>
      intro c hc
      rcases List.mem_cons.1 hc with rfl | hc
      · decide
      · exact ih (fun d hd => hs d (List.mem_cons_of_mem _ hd)) c hc
  | case2 cs _ => exact hs

theorem replaceUnsafe_of_safe {cs : List Char} (hs : ∀ c ∈ cs, isSafe c = true) :
    replaceUnsafe cs = cs := by
  induction cs with
  | nil => rfl
  | cons c cs ih =>
      have hc := hs c (by simp)
      have := ih (fun d hd => hs d (List.mem_cons_of_mem _ hd))
      simp_all [replaceUnsafe]

theorem maskLeadingDots_idem (cs : List Char) :
    maskLeadingDots (maskLeadingDots cs) = maskLeadingDots cs := by
  fun_induction maskLeadingDots cs with
  | case1 cs ih => simp [maskLeadingDots]
  | case2 cs h =>
      cases cs with
      | nil => rfl
      | cons c cs =>
          have : c ≠ '.' := fun e => h cs (by rw [e])
          rw [maskLeadingDots.eq_def]
          split
          · simp_all
          · rfl

/-- Every character of a safe name is safe. -/
theorem isSafe_of_mem_safeChars {cs : List Char} {c : Char} (h : c ∈ safeChars cs) :
    isSafe c = true :=
  isSafe_of_mem_mask (fun _ hd => isSafe_of_mem_replaceUnsafe hd) c h

theorem safeChars_idem (cs : List Char) : safeChars (safeChars cs) = safeChars cs := by
  rw [safeChars, replaceUnsafe_of_safe (fun _ h => isSafe_of_mem_safeChars h), safeChars,
    maskLeadingDots_idem]

end TileDepot.Layer
