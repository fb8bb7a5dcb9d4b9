import Mathlib.Data.List.Basic

/-!
# Hash chains

Each link of a chain carries an entry, the head before it and the head after it, which is
a function of both.  When the function has no collisions on what is in two chains and never
gives the start back, the last head determines a whole chain.
-/

namespace Foundation

variable {ε δ : Type*}

/-- An entry between two heads. -/
structure ChainLink (ε δ : Type*) where
  entry : ε
  previous : δ
  hash : δ

/-- Links that lead from one head to another. -/
inductive Chained (advance : δ → ε → δ) (start : δ) : List (ChainLink ε δ) → δ → Prop where
  | nil : Chained advance start [] start
  | snoc {links : List (ChainLink ε δ)} {head : δ} (earlier : Chained advance start links head)
      (entry : ε) : Chained advance start
        (links ++ [{ entry, previous := head, hash := advance head entry }]) (advance head entry)

variable {advance : δ → ε → δ} {start head : δ} {left right : List (ChainLink ε δ)}

/-- A chain can be extended in front. -/
theorem Chained.cons (entry : ε) (later : Chained advance (advance start entry) left head) :
    Chained advance start
      ({ entry, previous := start, hash := advance start entry } :: left) head := by
  induction later with
  | nil => exact .snoc .nil entry
  | snoc _ last ih => exact .snoc ih last

/-- Chains without collisions that end in the same head are the same. -/
theorem Chained.unique (leftChained : Chained advance start left head)
    (rightChained : Chained advance start right head)
    (injective : ∀ link ∈ left, ∀ link' ∈ right,
      advance link.previous link.entry = advance link'.previous link'.entry →
        link.previous = link'.previous ∧ link.entry = link'.entry)
    (fresh : ∀ link ∈ left ++ right, advance link.previous link.entry ≠ start) :
    left = right := by
  induction leftChained generalizing right with
  | nil =>
    generalize isHead : start = final at rightChained
    cases rightChained with
    | nil => rfl
    | snoc earlier entry =>
      exact absurd isHead.symm (fresh _ (List.mem_append_right _ (List.mem_append_right _
        (List.mem_singleton_self _))))
  | snoc earlier entry ih =>
    rename_i links before
    generalize isHead : advance before entry = final at rightChained
    cases rightChained with
    | nil =>
      exact absurd isHead (fresh _ (List.mem_append_left _ (List.mem_append_right _
        (List.mem_singleton_self _))))
    | snoc earlier' entry' =>
      rename_i links' before'
      obtain ⟨heads, entries⟩ := injective _ (List.mem_append_right _
        (List.mem_singleton_self _)) _ (List.mem_append_right _
        (List.mem_singleton_self _)) isHead
      dsimp only at heads entries
      subst heads entries
      rw [ih earlier'
        (fun link isLink link' isLink' => injective link (List.mem_append_left _ isLink) link'
          (List.mem_append_left _ isLink'))
        fun link isLink => fresh link (by
          simp only [List.mem_append] at isLink ⊢
          exact isLink.imp .inl .inl)]

end Foundation
