import Mathlib.Logic.Relation

namespace Search

open Relation

variable {V W : Type} {edge other more : V → V → Prop} {a b x y : V}

/-- No way leads from anywhere back to where it began. -/
def Acyclic (edge : V → V → Prop) : Prop := ∀ k, ¬ TransGen edge k k

theorem Acyclic.mono (acyclic : Acyclic edge) (fewer : ∀ a b, other a b → edge a b) : Acyclic other := by
  intro k cycle
  exact acyclic k (TransGen.mono fewer k k cycle)

theorem Acyclic.ne (acyclic : Acyclic edge) (path : TransGen edge a b) : a ≠ b := by
  intro same
  rw [same] at path
  exact acyclic b path

theorem Acyclic.one_way (acyclic : Acyclic edge) (path : TransGen edge a b) : ¬ TransGen edge b a := by
  intro back
  exact acyclic a (path.trans back)

/-- With one edge more there are the old ways and those that pass it. -/
theorem transGen_join (grown : ∀ a b, more a b → edge a b ∨ a = x ∧ b = y) (path : TransGen more a b) :
    TransGen edge a b ∨ ReflTransGen edge a x ∧ ReflTransGen edge y b := by
  induction path with
  | single step =>
    rcases grown _ _ step with old | new
    · exact Or.inl (TransGen.single old)
    · rw [new.1, new.2]
      exact Or.inr ⟨ReflTransGen.refl, ReflTransGen.refl⟩
  | tail _ last ih =>
    rcases grown _ _ last with old | new
    · rcases ih with before | passed
      · exact Or.inl (before.tail old)
      · exact Or.inr ⟨passed.1, passed.2.tail old⟩
    · rw [new.2]
      refine Or.inr ⟨?_, ReflTransGen.refl⟩
      rw [← new.1]
      rcases ih with before | passed
      · exact before.to_reflTransGen
      · rw [new.1]
        exact passed.1

/-- An edge closes a way only where its end already leads to its beginning. -/
theorem Acyclic.join (acyclic : Acyclic edge) (grown : ∀ a b, more a b → edge a b ∨ a = x ∧ b = y)
    (apart : ¬ ReflTransGen edge y x) : Acyclic more := by
  intro k cycle
  rcases transGen_join grown cycle with old | passed
  · exact acyclic k old
  · exact apart (passed.2.trans passed.1)

/-- Edges on the one side of a line and edges on the other never meet. -/
theorem transGen_beside {low : V → Prop} (left : ∀ a b, edge a b → low a ∧ low b)
    (right : ∀ a b, other a b → ¬ low a ∧ ¬ low b) (grown : ∀ a b, more a b → edge a b ∨ other a b)
    (path : TransGen more a b) : TransGen edge a b ∧ low b ∨ TransGen other a b ∧ ¬ low b := by
  induction path with
  | single step =>
    rcases grown _ _ step with here | there
    · exact Or.inl ⟨TransGen.single here, (left _ _ here).2⟩
    · exact Or.inr ⟨TransGen.single there, (right _ _ there).2⟩
  | tail _ last ih =>
    rcases grown _ _ last with here | there
    · rcases ih with before | before
      · exact Or.inl ⟨before.1.tail here, (left _ _ here).2⟩
      · exact absurd (left _ _ here).1 before.2
    · rcases ih with before | before
      · exact absurd before.2 (right _ _ there).1
      · exact Or.inr ⟨before.1.tail there, (right _ _ there).2⟩

theorem Acyclic.beside {low : V → Prop} (acyclic : Acyclic edge) (too : Acyclic other)
    (left : ∀ a b, edge a b → low a ∧ low b) (right : ∀ a b, other a b → ¬ low a ∧ ¬ low b)
    (grown : ∀ a b, more a b → edge a b ∨ other a b) : Acyclic more := by
  intro k cycle
  rcases transGen_beside left right grown cycle with here | there
  · exact acyclic k here.1
  · exact too k there.1

/-- Under new names that tell the nodes apart, the ways are the old ones. -/
theorem transGen_map {name : V → W} (apart : ∀ a b c d, edge a b → edge c d → name b = name c → b = c) {u v : W}
    (path : TransGen (Relation.Map edge name name) u v) :
    ∃ a b c, name a = u ∧ edge c b ∧ name b = v ∧ TransGen edge a b := by
  induction path with
  | single step =>
    have ⟨a, b, held, first, last⟩ := step
    exact ⟨a, b, a, first, held, last, TransGen.single held⟩
  | tail _ step ih =>
    have ⟨a, b, c, first, into, middle, before⟩ := ih
    have ⟨d, e, held, start, last⟩ := step
    have same : b = d := apart c b d e into held (middle.trans start.symm)
    rw [← same] at held
    exact ⟨a, e, b, first, held, last, before.tail held⟩

theorem Acyclic.map {name : V → W} (acyclic : Acyclic edge)
    (apart : ∀ a b c d, edge a b → edge c d → name b = name c → b = c) : Acyclic (Relation.Map edge name name) := by
  intro k cycle
  have ⟨a, b, c, first, into, last, path⟩ := transGen_map apart cycle
  have ⟨d, next, _⟩ := TransGen.head'_iff.mp path
  have same : b = a := apart c b a d into next (last.trans first.symm)
  rw [same] at path
  exact acyclic a path

end Search
