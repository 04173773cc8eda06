import TileDepot.Proofs.Transactions
import TileDepot.Proofs.Tree

/-!
# What looking into a file takes away

A look into a database may take away files that lie beside it, and nothing else happens to the disk:
`Disk.Tidied` states this.  Directories stay, bodies stay, and a place that is beside no database keeps
what it holds.  So whatever is asked of a path that leads elsewhere is answered as before.

* `settle_tidied` and `commit_tidied` are about the two functions that take such files away.
* `consult_tidied` says that a statement does no more to the disk before it writes, and that of its
  handle it changes what is known and prepared and the transaction alone.
-/

namespace TileDepot

open Store

/-- A disk that is another one without some of the files beside a place. -/
structure Disk.Tidied (p : Place) (d e : Disk) : Prop where
  tree : e.tree ⊆ d.tree
  bodies : e.bodies = d.bodies
  next : e.next = d.next
  locks : e.locks = d.locks
  node : ∀ q, e.node? q = d.node? q ∨
    e.node? q = none ∧ (∃ k, d.node? q = some (.file k)) ∧
      ∃ suffix ∈ sidecarSuffixes, q = beside p suffix

/-- What is at a place is there in another disk as well, and if it is a file, with the same body. -/
def Disk.Retains (d e : Disk) (q : Place) : Prop :=
  ∀ node, d.node? q = some node → e.node? q = some node ∧ ∀ n, node = .file n → e.body? n = d.body? n

namespace Disk.Tidied

variable {p q : Place} {d e g : Disk}

theorem refl (p : Place) (d : Disk) : d.Tidied p d :=
  ⟨List.Subset.refl _, rfl, rfl, rfl, fun _ => .inl rfl⟩

theorem trans (a : d.Tidied p e) (b : e.Tidied p g) : d.Tidied p g where
  tree := List.Subset.trans b.tree a.tree
  bodies := b.bodies.trans a.bodies
  next := b.next.trans a.next
  locks := b.locks.trans a.locks
  node := by
    intro q
    rcases b.node q with hb | ⟨hb, ⟨k, hk⟩, hq⟩
    · rw [hb]
      exact a.node q
    · rcases a.node q with ha | ⟨ha, -, -⟩
      · exact .inr ⟨hb, ⟨k, ha ▸ hk⟩, hq⟩
      · rw [ha] at hk
        cases hk

/-- Directories stay where they are. -/
theorem directory (h : d.Tidied p e) :
    e.node? q = some .directory ↔ d.node? q = some .directory := by
  rcases h.node q with hq | ⟨hq, ⟨k, hk⟩, -⟩
  · rw [hq]
  · rw [hq, hk]
    exact ⟨nofun, nofun⟩

/-- Nothing new comes up. -/
theorem node_some {node : Node} (h : d.Tidied p e) (he : e.node? q = some node) : d.node? q = some node := by
  rcases h.node q with hq | ⟨hq, -, -⟩
  · rw [← hq, he]
  · rw [hq] at he
    cases he

/-- A place that is beside no database keeps what it holds. -/
theorem elsewhere (h : d.Tidied p e) (hq : ∀ suffix ∈ sidecarSuffixes, q ≠ beside p suffix) :
    e.node? q = d.node? q := by
  rcases h.node q with hn | ⟨-, -, suffix, hs, hb⟩
  · exact hn
  · exact absurd hb (hq suffix hs)

theorem contentOf_eq (h : d.Tidied p e) (n : Nat) : contentOf e n = contentOf d n := by
  rw [contentOf, contentOf, body?, body?, h.bodies]

theorem setBody (h : d.Tidied p e) (n : Nat) (b : Body) : (d.setBody n b).Tidied p (e.setBody n b) where
  tree := h.tree
  bodies := congrArg (fun x => Ordered.put x n b) h.bodies
  next := h.next
  locks := h.locks
  node := h.node

end Disk.Tidied

namespace Store

variable {d : Disk} {p : Place} {file : Nat}

theorem beside_ne_nil (p : Place) (suffix : String) : beside p suffix ≠ [] := by
  simp [beside]

/-! ## Taking files away -/

theorem detach_tidied {suffix : String} (hs : suffix ∈ sidecarSuffixes)
    (hn : (d.number? (beside p suffix)).isSome) : d.Tidied p (d.detach (beside p suffix)) := by
  refine ⟨List.filter_subset_self _, rfl, rfl, rfl, fun q => ?_⟩
  rw [Disk.node_detach d (beside_ne_nil p suffix)]
  by_cases hq : q = beside p suffix
  · rw [if_pos hq]
    refine .inr ⟨rfl, ?_, suffix, hs, hq⟩
    rw [Disk.number?, ← hq] at hn
    split at hn
    · rename_i k hk
      exact ⟨k, hk⟩
    · cases hn
  · rw [if_neg hq]
    exact .inl rfl

theorem detachBeside_tidied {suffix : String} (hs : suffix ∈ sidecarSuffixes) (d : Disk) (p : Place) :
    d.Tidied p (detachBeside d p suffix) := by
  rw [detachBeside]
  split
  · rename_i hn
    exact detach_tidied hs hn
  · exact .refl p d

theorem settleBeside_tidied {suffix : String} (hs : suffix ∈ sidecarSuffixes) (d : Disk) (p : Place)
    (goes : Nat → Bool) : d.Tidied p (settleBeside d p suffix goes) := by
  rw [settleBeside]
  split
  · rename_i hgo
    apply detach_tidied hs
    cases hn : d.number? (beside p suffix) with
    | none =>
      rw [firstBeside?, hn] at hgo
      cases hgo
    | some n => rfl
  · exact .refl p d

theorem settle_tidied (d : Disk) (p : Place) (file : Nat) (changes : Bool) :
    d.Tidied p (settle d p file changes) := by
  have hj : "-journal" ∈ sidecarSuffixes := by decide
  have hw : "-wal" ∈ sidecarSuffixes := by decide
  rw [settle]
  split
  · exact .refl p d
  split
  · exact .refl p d
  split
  · have hboth := (settleBeside_tidied hj d p (fun _ => true)).trans
      (settleBeside_tidied hw _ p (fun _ => true))
    dsimp only
    split
    · exact hboth.trans (detachBeside_tidied hj _ p)
    · exact hboth
  · exact settleBeside_tidied hj d p _

/-- Writing a database replaces one body, and takes away what lies beside the file. -/
theorem commit_tidied (d : Disk) (p : Place) (file : Nat) (db : Database) :
    (d.setBody file ⟨.database db, none⟩).Tidied p (commit d p file db) :=
  detachBeside_tidied (by decide) _ p

theorem contentOf_commit_self (d : Disk) (p : Place) (file : Nat) (db : Database) :
    contentOf (commit d p file db) file = .database db := by
  rw [(commit_tidied d p file db).contentOf_eq]
  exact Disk.Holds.contentOf_setBody_self d file _

theorem contentOf_commit_of_ne (d : Disk) (p : Place) {file n : Nat} (db : Database) (h : file ≠ n) :
    contentOf (commit d p file db) n = contentOf d n := by
  rw [(commit_tidied d p file db).contentOf_eq]
  exact Disk.Holds.contentOf_setBody_of_ne d _ h

/-! ## Statements -/

/-- A handle that differs from another one in what it knows and has prepared and in its transaction
alone. -/
def Kin (h k : Handle) : Prop :=
  k = { h with schema := k.schema, prepared := k.prepared, transaction := k.transaction }

theorem Kin.refl (h : Handle) : Kin h h := rfl

theorem Kin.trans {h k l : Handle} (a : Kin h k) (b : Kin k l) : Kin h l := by
  rw [Kin] at a b ⊢
  rw [b, a]

theorem prepare_kin {α : Type} (d : Disk) (h : Handle) (st : Statement α) :
    Kin h (prepare d h st).2 ∧ (prepare d h st).2.transaction = h.transaction := by
  rw [prepare]
  split
  · exact ⟨.refl h, rfl⟩
  · dsimp only
    split
    · exact ⟨rfl, rfl⟩
    · split
      · exact ⟨rfl, rfl⟩
      · exact ⟨rfl, rfl⟩

/-- A statement, before it writes, takes away files beside its database, and changes of its handle what
is known and prepared and the transaction alone.  Only one that changes rows begins a transaction. -/
theorem consult_tidied {α : Type} {d e : Disk} {h k : Handle} {st : Statement α}
    {r : Except DbFault (Effect α)} (hc : consult d h st = (r, e, k)) :
    d.Tidied h.place e ∧ Kin h k ∧
      (k.transaction = h.transaction ∨
        st.form.changesRows = true ∧ k.transaction = h.transaction.started) := by
  have hlook : d.Tidied h.place (if misses h st then settle d h.place h.file false else d) := by
    split
    · exact settle_tidied ..
    · exact .refl _ d
  obtain ⟨hkin, htrans⟩ := prepare_kin d h st
  rw [consult] at hc
  split at hc
  · cases hc
    exact ⟨.refl _ d, .refl h, .inl rfl⟩
  dsimp only at hc
  rcases hp : prepare d h st with ⟨ready, h₁⟩
  rw [hp] at hc hkin htrans
  dsimp only at hkin htrans
  cases ready with
  | error f =>
    cases hc
    exact ⟨hlook, hkin, .inl htrans⟩
  | ok _ =>
    dsimp only at hc
    -- Whether a transaction is begun depends on the form alone.
    have hready : ∀ k, k = (if st.form.changesRows = true then
          { h₁ with transaction := h₁.transaction.started } else h₁) →
        Kin h k ∧ (k.transaction = h.transaction ∨
          st.form.changesRows = true ∧ k.transaction = h.transaction.started) := by
      rintro k rfl
      split
      · rename_i hform
        exact ⟨hkin.trans rfl, .inr ⟨hform, congrArg Transaction.started htrans⟩⟩
      · exact ⟨hkin, .inl htrans⟩
    generalize (if st.form.changesRows = true then
      { h₁ with transaction := h₁.transaction.started } else h₁) = h₂ at hc hready
    obtain ⟨hkin₂, htrans₂⟩ := hready h₂ rfl
    split at hc
    · cases hc
      exact ⟨hlook, hkin₂, htrans₂⟩
    · cases hc
      exact ⟨hlook, hkin₂, htrans₂⟩
    · split at hc
      · cases hc
        exact ⟨hlook.trans (settle_tidied ..), hkin₂, htrans₂⟩
      · cases hc
        exact ⟨hlook.trans (settle_tidied ..), hkin₂.trans rfl, htrans₂⟩

/-- What comes after a test that was passed. -/
theorem unless_ok {ε α : Type} {b : Prop} [Decidable b] {f : ε} {refuse : Unit → Except ε α}
    {x : Except ε α} {a : α} (h : (if b then throw f >>= refuse else x) = .ok a) : ¬ b ∧ x = .ok a := by
  by_cases hb : b
  · rw [if_pos hb] at h
    cases h
  · rw [if_neg hb] at h
    exact ⟨hb, h⟩

theorem bind_ok {ε α β : Type} {x : Except ε α} {f : α → Except ε β} {b : β} (h : x >>= f = .ok b) :
    ∃ a, x = .ok a ∧ f a = .ok b := by
  cases x with
  | error e => cases h
  | ok a => exact ⟨a, rfl, h⟩

/-- Whoever meets a database sees the content of its file. -/
theorem meet_view {db : Database} (h : meet d p file = .ok db) : (contentOf d file).view = .ok db := by
  rw [meet] at h
  obtain ⟨-, h⟩ := unless_ok h
  obtain ⟨-, -, h⟩ := bind_ok h
  exact h

/-- What a statement is said to make of a database is what running it makes of it. -/
theorem runOn_ok {α : Type} {h : Handle} {db : Database} {st : Statement α} {effect : Effect α}
    (hr : runOn d h db st = .ok effect) : st.run db = .ok effect := by
  rw [runOn] at hr
  split at hr
  · cases hr
  · obtain ⟨-, -, hr⟩ := bind_ok hr
    obtain ⟨made, hmade, hr⟩ := bind_ok hr
    rw [hmade]
    dsimp only at hr
    split at hr
    · obtain ⟨-, -, hr⟩ := bind_ok hr
      exact hr
    · exact hr

/-- A statement that changes the database it meets is one that runs on it. -/
theorem consult_changed {α : Type} {d e : Disk} {h k : Handle} {st : Statement α} {a : α}
    {after : Option Database} (hc : consult d h st = (.ok ⟨a, after⟩, e, k)) :
    ∃ db, enter d h st = .ok db ∧ st.run db = .ok ⟨a, after⟩ := by
  rw [consult] at hc
  split at hc
  · cases hc
  dsimp only at hc
  split at hc
  · cases hc
  split at hc
  · cases hc
  · cases hc
  · split at hc
    · cases hc
    · rename_i db hdb
      exact ⟨db, hdb, runOn_ok (congrArg Prod.fst hc)⟩

end Store

end TileDepot
