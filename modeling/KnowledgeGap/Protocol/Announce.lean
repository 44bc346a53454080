import KnowledgeGap.Protocol.Runs
import Mathlib.Data.List.Induction

namespace Protocol

variable {α κ : Type} [DecidableEq κ]

/-- Says a key the first time it comes up, and remembers what it has said. -/
def sayOnce (said : List κ) : Option κ → List κ × Option κ
  | none => (said, none)
  | some k => if k ∈ said then (said, none) else (k :: said, some k)

/-- What has been said after a run, of which every action brings up at most one key. -/
def saidAfter (brings : α → Option κ) (actions : List α) : List κ :=
  run (fun said a => (sayOnce said (brings a)).1) [] actions

@[simp] theorem saidAfter_append (brings : α → Option κ) (actions : List α) (a : α) :
    saidAfter brings (actions ++ [a]) = (sayOnce (saidAfter brings actions) (brings a)).1 := by
  rw [saidAfter, run_append]
  rfl

theorem mem_sayOnce (said : List κ) (brought : Option κ) (k : κ) : k ∈ (sayOnce said brought).1 ↔ k ∈ said ∨ brought = some k := by
  cases brought with
  | none => simp [sayOnce]
  | some j =>
    by_cases known : j ∈ said
    · rw [sayOnce, if_pos known]
      constructor
      · exact Or.inl
      · rintro (there | same)
        · exact there
        · exact Option.some.inj same ▸ known
    · rw [sayOnce, if_neg known]
      simp only [List.mem_cons, Option.some.injEq]
      rw [or_comm, eq_comm]

theorem mem_saidAfter (brings : α → Option κ) (actions : List α) (k : κ) :
    k ∈ saidAfter brings actions ↔ ∃ a ∈ actions, brings a = some k := by
  induction actions using List.reverseRecOn with
  | nil => simp [saidAfter]
  | append_singleton actions a ih => simp [mem_sayOnce, ih, or_and_right, exists_or]

theorem sayOnce_eq_some {said : List κ} {brought : Option κ} {k : κ} :
    (sayOnce said brought).2 = some k ↔ brought = some k ∧ k ∉ said := by
  cases brought with
  | none => simp [sayOnce]
  | some j =>
    by_cases known : j ∈ said
    · rw [sayOnce, if_pos known]
      simp only [Option.some.injEq]
      constructor
      · intro none_
        cases none_
      · rintro ⟨rfl, new⟩
        exact absurd known new
    · rw [sayOnce, if_neg known]
      simp only [Option.some.injEq]
      exact ⟨fun same => ⟨same, same ▸ known⟩, fun both => both.1⟩

/-- A key is said by the first action that brings it up, and by no other. -/
theorem told_iff (brings : α → Option κ) (earlier : List α) (a : α) (k : κ) :
    (sayOnce (saidAfter brings earlier) (brings a)).2 = some k ↔ brings a = some k ∧ ∀ b ∈ earlier, brings b ≠ some k := by
  rw [sayOnce_eq_some, mem_saidAfter]
  simp only [not_exists, not_and]

/-- The first action of a run that brings a key up. -/
theorem exists_first {brings : α → Option κ} {k : κ} (earlier : List α) {a : α} (brought : brings a = some k) :
    ∃ first b rest, earlier ++ [a] = first ++ b :: rest ∧ brings b = some k ∧ ∀ c ∈ first, brings c ≠ some k := by
  induction earlier with
  | nil => exact ⟨[], a, [], rfl, brought, by simp⟩
  | cons c earlier ih =>
    by_cases here : brings c = some k
    · exact ⟨[], c, earlier ++ [a], rfl, here, by simp⟩
    · obtain ⟨first, b, rest, split, found, before⟩ := ih
      refine ⟨c :: first, b, rest, by rw [List.cons_append, split]; rfl, found, ?_⟩
      intro d listed
      rcases List.mem_cons.mp listed with rfl | later
      · exact here
      · exact before d later

/-- `f` and `g` bring up the same keys for the first time at the same actions. -/
def TellAlike (f g : α → Option κ) (actions : List α) : Prop :=
  ∀ earlier a later, actions = earlier ++ a :: later → ∀ k,
    (f a = some k ∧ ∀ b ∈ earlier, f b ≠ some k) ↔ (g a = some k ∧ ∀ b ∈ earlier, g b ≠ some k)

/-- Where the two differ, one of them brings up a key that the other has not brought up before. -/
def Parting (f g : α → Option κ) (actions : List α) : Prop :=
  ∀ earlier a later, actions = earlier ++ a :: later → f a ≠ g a →
    ∃ k, (f a = some k ∧ ∀ b ∈ earlier, g b ≠ some k) ∨ (g a = some k ∧ ∀ b ∈ earlier, f b ≠ some k)

omit [DecidableEq κ] in
theorem TellAlike.symm {f g : α → Option κ} {actions : List α} (alike : TellAlike f g actions) : TellAlike g f actions :=
  fun earlier a later split k => (alike earlier a later split k).symm

/-- What tells alike cannot have missed a key that the other one has brought up. -/
theorem TellAlike.caught {f g : α → Option κ} {earlier later : List α} {a : α} {k : κ}
    (alike : TellAlike f g (earlier ++ a :: later)) (brought : f a = some k) (missed : ∀ b ∈ earlier, g b ≠ some k) : g a = some k := by
  obtain ⟨first, b, rest, split, found, before⟩ := exists_first earlier brought
  have whole : earlier ++ a :: later = first ++ b :: (rest ++ later) := by
    calc
      earlier ++ a :: later = (earlier ++ [a]) ++ later := by simp
      _ = first ++ b :: (rest ++ later) := by rw [split]; simp
  have told := ((alike first b (rest ++ later) whole k).mp ⟨found, before⟩).1
  have listed : b ∈ earlier ++ [a] := split ▸ List.mem_append_right _ List.mem_cons_self
  rcases List.mem_append.mp listed with old | here
  · exact absurd told (missed b old)
  · rw [List.mem_singleton.mp here] at told
    exact told

theorem tellAlike_iff {f g : α → Option κ} {actions : List α} (parting : Parting f g actions) :
    TellAlike f g actions ↔ ∀ a ∈ actions, f a = g a := by
  constructor
  · intro alike a listed
    by_contra apart
    obtain ⟨earlier, later, split⟩ := List.append_of_mem listed
    subst split
    obtain ⟨k, only | only⟩ := parting earlier a later rfl apart
    · exact apart (only.1.trans (alike.caught only.1 only.2).symm)
    · exact apart ((alike.symm.caught only.1 only.2).trans only.1.symm)
  · intro same earlier a later split k
    subst split
    have before : ∀ b ∈ earlier, f b = g b := fun b listed => same b (List.mem_append_left _ listed)
    rw [same a (List.mem_append_right _ List.mem_cons_self)]
    constructor
    · rintro ⟨brought, new⟩
      exact ⟨brought, fun b listed => before b listed ▸ new b listed⟩
    · rintro ⟨brought, new⟩
      exact ⟨brought, fun b listed => (before b listed).symm ▸ new b listed⟩

end Protocol
