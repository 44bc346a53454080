import Mathlib.Data.List.Basic
import Mathlib.Data.List.Induction
import Mathlib.Data.List.Pairwise
import Mathlib.Data.List.Sort
import Mathlib.Tactic.Common

namespace Numeric

variable {τ μ : Type}

section
variable [DecidableEq τ]

/-- A reading taken at a moment replaces the one taken at that moment before; an undefined one leaves the record alone. -/
def record (recorded : List (τ × μ)) (reading : τ × Option μ) : List (τ × μ) :=
  match reading.2 with
  | none => recorded
  | some m =>
    match recorded.getLast? with
    | none => recorded ++ [(reading.1, m)]
    | some last =>
      if last.1 ≠ reading.1 then recorded ++ [(reading.1, m)] else recorded.dropLast ++ [(reading.1, m)]

def recordAll (readings : List (τ × Option μ)) : List (τ × μ) := readings.foldl record []

end

/-- `p` is what was read last at its moment. -/
def LastReading (readings : List (τ × Option μ)) (p : τ × μ) : Prop :=
  ∃ before after, readings = before ++ (p.1, some p.2) :: after ∧ ∀ r ∈ after, r.1 = p.1 → r.2 = none

theorem lastReading_append {readings : List (τ × Option μ)} {reading : τ × Option μ} {p : τ × μ} :
    LastReading (readings ++ [reading]) p ↔
      reading = (p.1, some p.2) ∨ (LastReading readings p ∧ (reading.1 = p.1 → reading.2 = none)) := by
  constructor
  · intro last
    rcases last with ⟨before, after, split, quiet⟩
    rcases List.eq_nil_or_concat after with empty | ⟨after', final, joined⟩
    · rw [empty] at split
      exact Or.inl (List.head_eq_of_cons_eq (List.append_inj' split rfl).2)
    · rw [joined, List.concat_eq_append, ← List.cons_append, ← List.append_assoc] at split
      obtain ⟨same, ends⟩ := List.append_inj' split rfl
      have here : reading = final := List.head_eq_of_cons_eq ends
      refine Or.inr ⟨⟨before, after', same, ?_⟩, ?_⟩
      · intro r listed
        exact quiet r (by rw [joined, List.concat_eq_append]; exact List.mem_append_left _ listed)
      · rw [here]
        exact quiet final (by rw [joined, List.concat_eq_append]; exact List.mem_append_right _ (List.mem_singleton_self _))
  · intro either
    rcases either with now | ⟨⟨before, after, split, quiet⟩, blank⟩
    · rw [now]
      exact ⟨readings, [], rfl, by simp⟩
    · refine ⟨before, after ++ [reading], by rw [split]; simp, ?_⟩
      intro r listed same
      rcases List.mem_append.mp listed with old | new
      · exact quiet r old same
      · rw [List.mem_singleton.mp new] at same ⊢
        exact blank same

variable [LinearOrder τ]

def Increasing (recorded : List (τ × μ)) : Prop := recorded.Pairwise (fun p q => p.1 < q.1)

/-- On a record that has not passed the moment, whatever stood at it gives way. -/
theorem record_some {recorded : List (τ × μ)} {t : τ} {m : μ} (increasing : Increasing recorded)
    (upto : ∀ p ∈ recorded, p.1 ≤ t) :
    record recorded (t, some m) = recorded.filter (fun p => decide (p.1 ≠ t)) ++ [(t, m)] := by
  rcases List.eq_nil_or_concat recorded with empty | ⟨front, last, joined⟩
  · rw [empty]
    rfl
  · rw [List.concat_eq_append] at joined
    rw [joined] at increasing upto ⊢
    obtain ⟨_, _, below⟩ := List.pairwise_append.mp increasing
    have earlier : ∀ p ∈ front, p.1 ≠ t := fun p listed =>
      ne_of_lt (lt_of_lt_of_le (below p listed last (List.mem_singleton_self last))
        (upto last (List.mem_append_right _ (List.mem_singleton_self last))))
    have kept : front.filter (fun p => decide (p.1 ≠ t)) = front :=
      List.filter_eq_self.mpr (fun p listed => decide_eq_true (earlier p listed))
    simp only [record, List.getLast?_concat, List.dropLast_concat, List.filter_append, kept]
    by_cases same : last.1 = t
    · simp [same]
    · simp [same]

theorem increasing_unique {recorded : List (τ × μ)} (increasing : Increasing recorded) {t : τ} {v w : μ}
    (left : (t, v) ∈ recorded) (right : (t, w) ∈ recorded) : v = w := by
  by_contra apart
  have distinct : ((t, v) : τ × μ) ≠ (t, w) := fun same => apart (Prod.mk.inj same).2
  have different : recorded.Pairwise (fun p q => p.1 ≠ q.1) := List.Pairwise.imp ne_of_lt increasing
  have symm : Std.Symm (fun p q : τ × μ => p.1 ≠ q.1) := ⟨fun _ _ other same => other same.symm⟩
  exact different.forall left right distinct rfl

theorem mem_record {recorded : List (τ × μ)} {reading : τ × Option μ} (increasing : Increasing recorded)
    (upto : ∀ p ∈ recorded, p.1 ≤ reading.1) (p : τ × μ) :
    p ∈ record recorded reading ↔
      reading = (p.1, some p.2) ∨ (p ∈ recorded ∧ (reading.1 = p.1 → reading.2 = none)) := by
  rcases reading with ⟨t, value⟩
  cases value with
  | none => simp [record]
  | some m =>
    rw [record_some increasing upto, List.mem_append, List.mem_filter, List.mem_singleton]
    rcases p with ⟨s, v⟩
    simp only [Prod.mk.injEq, decide_eq_true_eq, Option.some.injEq, reduceCtorEq, imp_false]
    constructor
    · intro either
      rcases either with ⟨old, other⟩ | ⟨same, equal⟩
      · exact Or.inr ⟨old, fun equal => other equal.symm⟩
      · exact Or.inl ⟨same.symm, equal.symm⟩
    · intro either
      rcases either with ⟨same, equal⟩ | ⟨old, other⟩
      · exact Or.inr ⟨same.symm, equal.symm⟩
      · exact Or.inl ⟨old, fun equal => other equal.symm⟩

theorem record_increasing {recorded : List (τ × μ)} {reading : τ × Option μ} (increasing : Increasing recorded)
    (upto : ∀ p ∈ recorded, p.1 ≤ reading.1) : Increasing (record recorded reading) := by
  rcases reading with ⟨t, value⟩
  cases value with
  | none => exact increasing
  | some m =>
    rw [record_some increasing upto]
    refine List.pairwise_append.mpr ⟨List.Pairwise.filter _ increasing, List.pairwise_singleton _ _, ?_⟩
    intro p left q right
    obtain ⟨old, other⟩ := List.mem_filter.mp left
    rw [List.mem_singleton.mp right]
    exact lt_of_le_of_ne (upto p old) (of_decide_eq_true other)

/-- Readings taken as time goes leave, at every moment, the last one that was defined. -/
theorem recordAll_spec {readings : List (τ × Option μ)} (sorted : readings.Pairwise (fun a b => a.1 ≤ b.1)) :
    Increasing (recordAll readings) ∧ ∀ p, p ∈ recordAll readings ↔ LastReading readings p := by
  induction readings using List.reverseRecOn with
  | nil => exact ⟨List.Pairwise.nil, fun p => by simp [recordAll, LastReading]⟩
  | append_singleton readings reading ih =>
    obtain ⟨before, _, ends⟩ := List.pairwise_append.mp sorted
    obtain ⟨increasing, read⟩ := ih before
    have upto : ∀ p ∈ recordAll readings, p.1 ≤ reading.1 := by
      intro p listed
      rcases (read p).mp listed with ⟨front, back, split, _⟩
      have member : (p.1, some p.2) ∈ readings := by
        rw [split]
        exact List.mem_append_right _ List.mem_cons_self
      exact ends _ member reading (List.mem_singleton_self reading)
    have step : recordAll (readings ++ [reading]) = record (recordAll readings) reading := List.foldl_append
    rw [step]
    refine ⟨record_increasing increasing upto, ?_⟩
    intro p
    rw [mem_record increasing upto, lastReading_append, read p]

/-- Where anything was read at a moment, the record has it. -/
theorem exists_lastReading {readings : List (τ × Option μ)} {t : τ} {m : μ} (read : (t, some m) ∈ readings) :
    ∃ v, LastReading readings (t, v) := by
  induction readings using List.reverseRecOn with
  | nil => cases read
  | append_singleton readings reading ih =>
    rcases reading with ⟨s, value⟩
    by_cases here : s = t ∧ value ≠ none
    · obtain ⟨v, found⟩ := Option.ne_none_iff_exists'.mp here.2
      exact ⟨v, lastReading_append.mpr (Or.inl (by rw [here.1, found]))⟩
    · have quiet : s = t → value = none := fun same => not_not.mp (fun some_ => here ⟨same, some_⟩)
      rcases List.mem_append.mp read with old | new
      · obtain ⟨v, last⟩ := ih old
        exact ⟨v, lastReading_append.mpr (Or.inr ⟨last, quiet⟩)⟩
      · have same := List.mem_singleton.mp new
        rw [Prod.mk.injEq] at same
        rw [quiet same.1.symm] at same
        cases same.2

end Numeric
