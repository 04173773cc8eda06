import TileDepot.Path

/-!
# The order of locks

Whoever creates, removes or moves store files holds a lock for each of them.  Locks are taken in the
order of the paths, each path once, so that two callers that need the same locks take them in the same
order.

* `mem_inOrder` says that the paths in order are the given paths.
* `nodup_inOrder` says that each of them is there once.
-/

namespace TileDepot.Layer

/-- Insert a path into paths in order, unless it is there. -/
def insertPath (p : Path) : List Path → List Path
  | [] => [p]
  | q :: qs => if p = q then q :: qs else if p.le q then p :: q :: qs else q :: insertPath p qs

/-- The given paths in increasing order, each once. -/
def inOrder (ps : List Path) : List Path :=
  ps.foldr (fun p done => if p ∈ done then done else insertPath p done) []

theorem mem_insertPath {p q : Path} {qs : List Path} : q ∈ insertPath p qs ↔ q = p ∨ q ∈ qs := by
  induction qs with
  | nil => simp [insertPath]
  | cons r rs ih =>
      rw [insertPath]
      split
      · rename_i h
        subst h
        simp
      · split
        · simp
        · simp [ih, or_left_comm]

theorem nodup_insertPath {p : Path} {qs : List Path} (hp : p ∉ qs) (h : qs.Nodup) :
    (insertPath p qs).Nodup := by
  induction qs with
  | nil => simp [insertPath]
  | cons r rs ih =>
      simp only [List.mem_cons, not_or] at hp
      simp only [List.nodup_cons] at h
      rw [insertPath, if_neg hp.1]
      split
      · simp only [List.nodup_cons, List.mem_cons, not_or]
        exact ⟨hp, h⟩
      · simp only [List.nodup_cons, mem_insertPath, not_or]
        exact ⟨⟨fun e => hp.1 e.symm, h.1⟩, ih hp.2 h.2⟩

/-- Putting paths in order loses none and adds none. -/
theorem mem_inOrder {ps : List Path} {q : Path} : q ∈ inOrder ps ↔ q ∈ ps := by
  induction ps with
  | nil => simp [inOrder]
  | cons p ps ih =>
      simp only [inOrder, List.foldr_cons, List.mem_cons] at ih ⊢
      split
      · rename_i h
        constructor
        · exact fun hq => Or.inr (ih.1 hq)
        · rintro (rfl | hq)
          · exact h
          · exact ih.2 hq
      · rw [mem_insertPath, ih]

/-- No path is in the order twice. -/
theorem nodup_inOrder (ps : List Path) : (inOrder ps).Nodup := by
  induction ps with
  | nil => simp [inOrder]
  | cons p ps ih =>
      simp only [inOrder, List.foldr_cons] at ih ⊢
      split
      · exact ih
      · rename_i h
        exact nodup_insertPath h ih

end TileDepot.Layer
