import Mathlib.Logic.Relation

namespace Search

variable {V : Type} {edge : V → V → Prop} {a b c : V} {m n : Nat}

/-- A walk of a given number of edges. -/
inductive Walk (edge : V → V → Prop) : Nat → V → V → Prop
  | refl (a : V) : Walk edge 0 a a
  | snoc {n : Nat} {a b c : V} (walk : Walk edge n a b) (last : edge b c) : Walk edge (n + 1) a c

theorem Walk.single (step : edge a b) : Walk edge 1 a b := (Walk.refl a).snoc step

theorem Walk.cons (step : edge a b) (walk : Walk edge n b c) : Walk edge (n + 1) a c := by
  induction walk with
  | refl => exact Walk.single step
  | snoc _ last ih => exact (ih step).snoc last

theorem Walk.reverse (walk : Walk edge n a b) : Walk (Function.swap edge) n b a := by
  induction walk with
  | refl a => exact Walk.refl a
  | snoc _ last ih => exact Walk.cons last ih

theorem walk_swap_iff : Walk (Function.swap edge) n b a ↔ Walk edge n a b := by
  constructor
  · intro walk
    exact walk.reverse
  · intro walk
    exact walk.reverse

theorem transGen_iff_walk : Relation.TransGen edge a b ↔ ∃ n, Walk edge (n + 1) a b := by
  constructor
  · intro reach
    induction reach with
    | single step => exact ⟨0, Walk.single step⟩
    | tail _ last ih =>
      have ⟨n, walk⟩ := ih
      exact ⟨n + 1, walk.snoc last⟩
  · intro held
    have ⟨n, walk⟩ := held
    clear held
    induction n generalizing b with
    | zero =>
      cases walk with
      | snoc start last =>
        cases start
        exact Relation.TransGen.single last
    | succ n ih =>
      cases walk with
      | snoc start last => exact (ih start).tail last

/-- The number of edges of a shortest walk that is not empty. -/
structure Shortest (edge : V → V → Prop) (n : Nat) (a b : V) : Prop where
  positive : 0 < n
  walk : Walk edge n a b
  least : ∀ m, 0 < m → Walk edge m a b → n ≤ m

theorem Shortest.unique (first : Shortest edge m a b) (second : Shortest edge n a b) : m = n :=
  Nat.le_antisymm (first.least n second.positive second.walk) (second.least m first.positive first.walk)

theorem shortest_swap_iff : Shortest (Function.swap edge) n b a ↔ Shortest edge n a b := by
  constructor
  · intro short
    exact ⟨short.positive, walk_swap_iff.mp short.walk, fun m positive walk => short.least m positive walk.reverse⟩
  · intro short
    exact ⟨short.positive, short.walk.reverse, fun m positive walk => short.least m positive (walk_swap_iff.mp walk)⟩

end Search
