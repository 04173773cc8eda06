import TileDepot.Proofs.Shelves
import TileDepot.Proofs.Tree

/-!
# Disks that hold shelves

`Disk.Holds` ties a disk to the shelves of a store: the root leads to a directory, every file below it
is the file of a safe name and has the content of the name's volume, and no two names have one file
number.  Nobody holds a lock on such a file or on one that is still to be made.

* `Holds.node_none` says that a name without a volume has no file, and `Holds.node_beside` that nothing
  lies beside a store file.
* `Holds.change` says which shelves the disk holds after a change of store files; `Holds.commit`,
  `Holds.create`, `Holds.detach` and `Holds.move` are the four changes that a store makes.
-/

namespace TileDepot

open Layer Store

/-- The place of the file of a safe name, in a root that is at a place. -/
def StoreConfig.placeOf (c : StoreConfig) (R : Place) (f : String) : Place := R ++ [f ++ c.extension]

theorem StoreConfig.placeOf_ne_nil (c : StoreConfig) (R : Place) (f : String) :
    c.placeOf R f ≠ [] := by
  simp [StoreConfig.placeOf]

theorem StoreConfig.placeOf_inj {c : StoreConfig} {R : Place} {f g : String} :
    c.placeOf R f = c.placeOf R g ↔ f = g := by
  simp [StoreConfig.placeOf, String.append_left_inj]

theorem Store.beside_placeOf (c : StoreConfig) (R : Place) (f suffix : String) :
    beside (c.placeOf R f) suffix = R ++ [f ++ c.extension ++ suffix] := by
  simp [beside, StoreConfig.placeOf]

theorem StoreConfig.journalFits_placeOf {c : StoreConfig} {R : Place} {f : String} :
    journalFits (c.placeOf R f) = decide ((f ++ c.extension ++ "-journal").utf8ByteSize ≤ Disk.maxName) := by
  simp [journalFits, StoreConfig.placeOf]

/-- The content of the file at a place, if there is one. -/
def Disk.contentAt (d : Disk) (p : Place) : Option Content := (d.number? p).map (contentOf d)

/-- A disk whose root directory holds the files of shelves and nothing else. -/
structure Disk.Holds (c : StoreConfig) (R : Place) (A : Shelves) (d : Disk) : Prop where
  root : d.LeadsTo c.root R
  known : ∀ p, R <+: p → p ≠ R → d.node? p ≠ none → ∃ f, A f ≠ none ∧ p = c.placeOf R f
  named : ∀ f, A f ≠ none → IsSafe f ∧ (f ++ c.extension).utf8ByteSize ≤ Disk.maxName
  stored : ∀ f v, A f = some v → ∃ n, d.node? (c.placeOf R f) = some (.file n) ∧ n < d.next ∧
    d.locksOn n = [] ∧ contentOf d n = v.content
  apart : ∀ f g n, d.node? (c.placeOf R f) = some (.file n) →
    d.node? (c.placeOf R g) = some (.file n) → f = g
  free : ∀ n, d.next ≤ n → d.locksOn n = []
  writable : d.isSealed = false

namespace Disk.Holds

variable {c : StoreConfig} {R : Place} {A : Shelves} {d : Disk} {f g : String}

/-! ## What stands where -/

theorem node_none (h : d.Holds c R A) (hA : A f = none) : d.node? (c.placeOf R f) = none := by
  apply Classical.byContradiction
  intro hne
  obtain ⟨g, hg, hp⟩ := h.known (c.placeOf R f) (List.prefix_append _ _) (by simp [StoreConfig.placeOf]) hne
  rw [← StoreConfig.placeOf_inj.1 hp, hA] at hg
  exact hg rfl

theorem node_ne_directory (h : d.Holds c R A) : d.node? (c.placeOf R f) ≠ some .directory := by
  cases hA : A f with
  | none =>
    rw [h.node_none hA]
    exact fun e => by cases e
  | some v =>
    obtain ⟨n, hn, -⟩ := h.stored f v hA
    rw [hn]
    intro e
    cases e

/-- Nothing lies below a store file. -/
theorem node_below (h : d.Holds c R A) {q : Place} (hq : c.placeOf R f <+: q)
    (hne : q ≠ c.placeOf R f) : d.node? q = none := by
  apply Classical.byContradiction
  intro hnode
  have hR : R <+: q := (List.prefix_append _ _).trans hq
  have hqR : q ≠ R := by
    rintro rfl
    have hlen := hq.length_le
    rw [StoreConfig.placeOf, List.length_append, List.length_singleton] at hlen
    omega
  obtain ⟨g, -, rfl⟩ := h.known q hR hqR hnode
  have heq := hq.eq_of_length (by simp [StoreConfig.placeOf])
  exact hne heq.symm

/-- Nothing lies beside a store file. -/
theorem node_beside (h : d.Holds c R A) (hc : c.Regular) {suffix : String}
    (hs : suffix ∈ sidecarSuffixes) : d.node? (beside (c.placeOf R f) suffix) = none := by
  rw [beside_placeOf]
  apply Classical.byContradiction
  intro hne
  obtain ⟨g, -, hp⟩ := h.known _ (List.prefix_append _ _) (by simp) hne
  have hname : f ++ c.extension ++ suffix = g ++ c.extension := by
    simpa [StoreConfig.placeOf] using hp
  exact file_ne_sidecar hc.dotted hs f g hname

theorem number_beside (h : d.Holds c R A) (hc : c.Regular) {suffix : String}
    (hs : suffix ∈ sidecarSuffixes) : d.number? (beside (c.placeOf R f) suffix) = none := by
  rw [number?, h.node_beside hc hs]

theorem blocksSidecar_eq (h : d.Holds c R A) (hc : c.Regular) {suffix : String}
    (hs : suffix ∈ sidecarSuffixes) : blocksSidecar d (c.placeOf R f) suffix = false := by
  rw [blocksSidecar, h.node_beside hc hs]
  rfl

/-- A look into a store file takes nothing away. -/
theorem settle_eq (h : d.Holds c R A) (hc : c.Regular) (file : Nat) (changes : Bool) :
    settle d (c.placeOf R f) file changes = d :=
  settle_clean file changes (h.number_beside hc (by decide)) (h.number_beside hc (by decide))

/-- A connection to a store file meets the database that its content is. -/
theorem meet_eq (h : d.Holds c R A) (hc : c.Regular) {v : Volume} {n : Nat} (hA : A f = some v)
    (hn : d.node? (c.placeOf R f) = some (.file n)) :
    meet d (c.placeOf R f) n = v.content.view := by
  obtain ⟨m, hm, -, hlock, hcontent⟩ := h.stored f v hA
  have hmn : m = n := by
    rw [hm] at hn
    simpa using hn
  subst hmn
  have hobs : ∀ b, obstacle d (c.placeOf R f) b = .ok () := by
    intro b
    cases b <;> simp [obstacle, h.blocksSidecar_eq hc (show "-wal" ∈ sidecarSuffixes by decide),
      h.blocksSidecar_eq hc (show "-journal" ∈ sidecarSuffixes by decide)]
  simp only [meet, hlock, hobs, hcontent]
  rfl

/-- The content of every file is that of its volume. -/
theorem contentAt_eq (h : d.Holds c R A) (f : String) :
    d.contentAt (c.placeOf R f) = (A f).map Volume.content := by
  cases hA : A f with
  | none =>
    rw [contentAt, number?, h.node_none hA]
    rfl
  | some v =>
    obtain ⟨n, hn, -, -, hcontent⟩ := h.stored f v hA
    rw [contentAt, number?, hn, Option.map_some, hcontent]
    rfl

/-! ## Changes -/

theorem contentOf_setBody_self (d : Disk) (n : Nat) (b : Body) :
    contentOf (d.setBody n b) n = b.content := by
  rw [contentOf, Disk.body_setBody_self]
  rfl

theorem contentOf_setBody_of_ne (d : Disk) {n m : Nat} (b : Body) (h : n ≠ m) :
    contentOf (d.setBody n b) m = contentOf d m := by
  rw [contentOf, contentOf, Disk.body_setBody_of_ne d b h]

/-- A disk holds other shelves if it is changed at one store file: the file is gone, or it is one that
no other name has and that holds the new volume. -/
theorem change (h : d.Holds c R A) {d' : Disk} {x : Option Node} {v : Option Volume}
    (hnode : ∀ q, d'.node? q = if q = c.placeOf R f then x else d.node? q) (hnext : d.next ≤ d'.next)
    (hrest : ∀ n, x ≠ some (.file n) →
      d'.locksOn n = d.locksOn n ∧ contentOf d' n = contentOf d n)
    (hnone : v = none → x = none)
    (hsome : ∀ w, v = some w → IsSafe f ∧ (f ++ c.extension).utf8ByteSize ≤ Disk.maxName ∧
      ∃ n, x = some (.file n) ∧ n < d'.next ∧ d'.locksOn n = [] ∧ contentOf d' n = w.content ∧
        ∀ g, g ≠ f → d.node? (c.placeOf R g) ≠ some (.file n))
    (hfree : ∀ n, d'.next ≤ n → d'.locksOn n = []) (hw : d'.isSealed = false) :
    d'.Holds c R (Function.update A f v) := by
  have hself : d'.node? (c.placeOf R f) = x := by
    rw [hnode, if_pos rfl]
  have hother : ∀ g, g ≠ f → d'.node? (c.placeOf R g) = d.node? (c.placeOf R g) := by
    intro g hg
    rw [hnode, if_neg (fun e => hg (StoreConfig.placeOf_inj.1 e))]
  -- A file of another name is not the one that is changed.
  have halone : ∀ g n, g ≠ f → d.node? (c.placeOf R g) = some (.file n) → x ≠ some (.file n) := by
    intro g n hg hn hx
    cases hv : v with
    | none =>
      rw [hnone hv] at hx
      cases hx
    | some w =>
      obtain ⟨-, -, m, hm, -, -, -, hne⟩ := hsome w hv
      rw [hm] at hx
      exact hne g hg (hn.trans hx.symm)
  constructor
  · apply h.root.mono
    intro q hq
    have hqf : q ≠ c.placeOf R f := by
      rintro rfl
      exact h.node_ne_directory hq
    rw [hnode, if_neg hqf]
    exact hq
  · intro p hp hne hpn
    by_cases hpf : p = c.placeOf R f
    · refine ⟨f, ?_, hpf⟩
      rw [hpf, hself] at hpn
      rw [Function.update_self]
      exact fun hv => hpn (hnone hv)
    · rw [hnode, if_neg hpf] at hpn
      obtain ⟨g, hg, rfl⟩ := h.known p hp hne hpn
      have hgf : g ≠ f := fun e => hpf (e ▸ rfl)
      exact ⟨g, by rwa [Function.update_of_ne hgf], rfl⟩
  · intro g hg
    by_cases hgf : g = f
    · rw [hgf, Function.update_self] at hg
      obtain ⟨w, hv⟩ := Option.ne_none_iff_exists'.1 hg
      obtain ⟨hsafe, hlen, -⟩ := hsome w hv
      exact hgf ▸ ⟨hsafe, hlen⟩
    · rw [Function.update_of_ne hgf] at hg
      exact h.named g hg
  · intro g w hg
    by_cases hgf : g = f
    · rw [hgf, Function.update_self] at hg
      obtain ⟨-, -, n, hn, hlt, hlock, hcontent, -⟩ := hsome w hg
      exact ⟨n, by rw [hgf, hself, hn], hlt, hlock, hcontent⟩
    · rw [Function.update_of_ne hgf] at hg
      obtain ⟨n, hn, hlt, hlock, hcontent⟩ := h.stored g w hg
      obtain ⟨hlocks, hcontents⟩ := hrest n (halone g n hgf hn)
      exact ⟨n, by rw [hother g hgf, hn], Nat.lt_of_lt_of_le hlt hnext, by rw [hlocks, hlock],
        by rw [hcontents, hcontent]⟩
  · intro g g' n hg hg'
    by_cases hgf : g = f
    · by_cases hgf' : g' = f
      · exact hgf.trans hgf'.symm
      · rw [hgf, hself] at hg
        rw [hother g' hgf'] at hg'
        exact absurd hg (halone g' n hgf' hg')
    · rw [hother g hgf] at hg
      by_cases hgf' : g' = f
      · rw [hgf', hself] at hg'
        exact absurd hg' (halone g n hgf hg)
      · rw [hother g' hgf'] at hg'
        exact h.apart g g' n hg hg'
  · exact hfree
  · exact hw

/-- Writing the file of a name puts another volume on its shelf. -/
theorem commit (h : d.Holds c R A) {n : Nat} (v : Volume) (time : Option Int) (hA : A f ≠ none)
    (hn : d.node? (c.placeOf R f) = some (.file n)) :
    (d.setBody n ⟨v.content, time⟩).Holds c R (Function.update A f (some v)) := by
  refine h.change (x := some (.file n)) ?_ (Nat.le_refl _) ?_ (fun e => by cases e) ?_ h.free h.writable
  · intro q
    split
    · rename_i hq
      rw [hq]
      exact hn
    · rfl
  · intro m hm
    have hnm : n ≠ m := by
      rintro rfl
      exact hm rfl
    exact ⟨rfl, contentOf_setBody_of_ne d _ hnm⟩
  · intro w hw
    cases hw
    obtain ⟨u, hu⟩ := Option.ne_none_iff_exists'.1 hA
    obtain ⟨m, hm, hlt, hlock, -⟩ := h.stored f u hu
    rw [hn, Option.some.injEq, Node.file.injEq] at hm
    subst hm
    exact ⟨(h.named f hA).1, (h.named f hA).2, n, rfl, hlt, hlock, contentOf_setBody_self d n _,
      fun g hg e => hg (h.apart g f n e hn)⟩

/-- A new file of a safe name is blank. -/
theorem create (h : d.Holds c R A) (hf : IsSafe f)
    (hlen : (f ++ c.extension).utf8ByteSize ≤ Disk.maxName) :
    (d.createFile (c.placeOf R f) (.raw .empty)).2.Holds c R (Function.update A f (some .blank)) := by
  refine h.change (x := some (.file d.next)) ?_ (Nat.le_succ _) ?_ (fun e => by cases e) ?_
    (fun n hn => h.free n (Nat.le_of_succ_le hn)) h.writable
  · exact Disk.node_createFile d (c.placeOf_ne_nil R f) (.raw .empty)
  · intro n hn
    have hne : d.next ≠ n := by
      rintro rfl
      exact hn rfl
    exact ⟨rfl, contentOf_setBody_of_ne d _ hne⟩
  · intro w hw
    cases hw
    refine ⟨hf, hlen, d.next, rfl, Nat.lt_succ_self _, h.free _ (Nat.le_refl _),
      contentOf_setBody_self d d.next ⟨.raw .empty, none⟩, fun g _ e => ?_⟩
    -- Every file of a name has a number that has been given out.
    have hA : A g ≠ none := by
      intro hA
      rw [h.node_none hA] at e
      cases e
    obtain ⟨u, hu⟩ := Option.ne_none_iff_exists'.1 hA
    obtain ⟨m, hm, hlt, -⟩ := h.stored g u hu
    rw [hm, Option.some.injEq, Node.file.injEq] at e
    omega

/-- Taking the file of a name away leaves its shelf empty. -/
theorem detach (h : d.Holds c R A) :
    (d.detach (c.placeOf R f)).Holds c R (Function.update A f none) := by
  refine h.change (x := none) ?_ (Nat.le_refl _) (fun n _ => ⟨rfl, rfl⟩) (fun _ => rfl)
    (fun w hw => by cases hw) h.free h.writable
  exact Disk.node_detach d (c.placeOf_ne_nil R f)

/-- Moving the file of a name to a free name moves its volume. -/
theorem move (h : d.Holds c R A) (hfg : f ≠ g) (hf : A f ≠ none) (hsafe : IsSafe g)
    (hlen : (g ++ c.extension).utf8ByteSize ≤ Disk.maxName) :
    (d.moveTree (c.placeOf R f) (c.placeOf R g)).Holds c R
      (Function.update (Function.update A g (A f)) f none) := by
  have hplaces : c.placeOf R f ≠ c.placeOf R g := fun e => hfg (StoreConfig.placeOf_inj.1 e)
  have hnode := Disk.node_moveTree d (c.placeOf_ne_nil R f) (c.placeOf_ne_nil R g) hplaces
    (fun q hq hne => h.node_below hq hne)
  have hdetached := Disk.node_detach d (c.placeOf_ne_nil R f)
  obtain ⟨v, hv⟩ := Option.ne_none_iff_exists'.1 hf
  obtain ⟨n, hn, hlt, hlock, hcontent⟩ := h.stored f v hv
  rw [Function.update_comm (Ne.symm hfg)]
  -- The file is taken away, and then put under the other name.
  refine (h.detach (f := f)).change (x := some (.file n)) ?_ (Nat.le_refl _) (fun m _ => ⟨rfl, rfl⟩) ?_ ?_
    h.free h.writable
  · intro q
    rw [hnode, hdetached, hn]
  · intro e
    exact absurd e hf
  · intro w hw
    rw [hv, Option.some.injEq] at hw
    subst hw
    refine ⟨hsafe, hlen, n, rfl, hlt, hlock, hcontent, fun k _ hk => ?_⟩
    rw [hdetached] at hk
    split at hk
    · cases hk
    · rename_i hkf
      exact hkf (congrArg _ (h.apart k f n hk hn))

end Disk.Holds

end TileDepot
