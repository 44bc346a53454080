import KnowledgeGap.Relational.Dict
import Mathlib.Algebra.BigOperators.Group.List.Basic
import Mathlib.Tactic.Abel

namespace Relational

namespace Dict

variable {κ α M : Type} [DecidableEq κ] [AddCommMonoid M]

/-- What the entries weigh together. -/
def total (weigh : α → M) (d : Dict κ α) : M := (d.entries.map (fun e => weigh e.2)).sum

theorem sum_grown (weigh : α → M) {entries : List (κ × α)} (nodup : (entries.map Prod.fst).Nodup) {k : κ} {old new : α}
    (listed : (k, old) ∈ entries) {extra : M} (grown : weigh new = weigh old + extra) :
    ((entries.map (fun e => if e.1 = k then (k, new) else e)).map (fun e => weigh e.2)).sum =
      (entries.map (fun e => weigh e.2)).sum + extra := by
  induction entries with
  | nil => cases listed
  | cons e entries ih =>
    rw [List.map_cons, List.nodup_cons] at nodup
    simp only [List.map_cons, List.sum_cons]
    rcases List.mem_cons.mp listed with here | later
    · subst here
      have rest : entries.map (fun e => if e.1 = k then (k, new) else e) = entries := by
        refine (List.map_congr_left ?_).trans (List.map_id _)
        intro e member
        refine if_neg ?_
        intro same
        exact nodup.1 (List.mem_map.mpr ⟨e, member, same⟩)
      rw [if_pos rfl, rest]
      simp only [grown]
      abel
    · have other : e.1 ≠ k := by
        rintro rfl
        exact nodup.1 (List.mem_map.mpr ⟨_, later, rfl⟩)
      rw [if_neg other, ih nodup.2 later, add_assoc]

theorem total_set_known (weigh : α → M) (d : Dict κ α) {k : κ} {old new : α} (found : d.get? k = some old) {extra : M}
    (grown : weigh new = weigh old + extra) : (d.set k new).total weigh = d.total weigh + extra := by
  have listed := (get?_eq_some_iff d k old).mp found
  have known : k ∈ d.entries.map Prod.fst := List.mem_map.mpr ⟨_, listed, rfl⟩
  have entries : (d.set k new).entries = d.entries.map (fun e => if e.1 = k then (k, new) else e) := if_pos known
  rw [total, total, entries]
  exact sum_grown weigh d.nodup listed grown

theorem total_set_new (weigh : α → M) (d : Dict κ α) {k : κ} (absent : d.get? k = none) (new : α) :
    (d.set k new).total weigh = d.total weigh + weigh new := by
  rw [total, entries_set_of_absent ((get?_eq_none_iff d k).mp absent)]
  simp [total]

/-- However the rows are grouped, the groups weigh together what the rows do. -/
theorem total_group (key : α → κ) (weigh : α → M) (rows : List α) :
    (group key rows).total (fun g => (g.map weigh).sum) = (rows.map weigh).sum := by
  induction rows using List.reverseRecOn with
  | nil => rfl
  | append_singleton rows x ih =>
    rw [group, List.foldl_append, List.foldl_cons, List.foldl_nil, ← group, List.map_append, List.sum_append, ← ih]
    cases found : (group key rows).get? (key x) with
    | none =>
      rw [total_set_new _ _ found, getD, found]
      simp
    | some old =>
      rw [getD, found]
      refine total_set_known (fun g => (g.map weigh).sum) _ found ?_
      rw [Option.getD_some, List.map_append, List.sum_append]

omit [AddCommMonoid M] in
/-- Keys that are all different keep their entries and their order. -/
theorem entries_ofList {pairs : List (κ × α)} (distinct : (pairs.map Prod.fst).Nodup) : (ofList pairs).entries = pairs := by
  induction pairs using List.reverseRecOn with
  | nil => rfl
  | append_singleton pairs e ih =>
    rw [List.map_append, List.nodup_append] at distinct
    have old := ih distinct.1
    have absent : e.1 ∉ (ofList pairs).keys := by
      rw [keys, old]
      intro listed
      exact distinct.2.2 e.1 listed e.1 (by simp) rfl
    rw [ofList, List.foldl_append, List.foldl_cons, List.foldl_nil, ← ofList, entries_set_of_absent absent, old]

omit [AddCommMonoid M] in
/-- A write adds what it weighs at most: a known key loses what it had. -/
theorem total_set_le (weigh : α → Nat) (d : Dict κ α) (k : κ) (v : α) : (d.set k v).total weigh ≤ d.total weigh + weigh v := by
  by_cases known : k ∈ d.entries.map Prod.fst
  · have entries : (d.set k v).entries = d.entries.map (fun e => if e.1 = k then (k, v) else e) := if_pos known
    have each : ∀ es : List (κ × α), (es.map Prod.fst).Nodup →
        ((es.map (fun e => if e.1 = k then (k, v) else e)).map (fun e => weigh e.2)).sum ≤ (es.map (fun e => weigh e.2)).sum + weigh v := by
      intro es nodup
      induction es with
      | nil => exact Nat.zero_le _
      | cons e es ih =>
        rw [List.map_cons, List.nodup_cons] at nodup
        have later := ih nodup.2
        simp only [List.map_cons, List.sum_cons]
        by_cases here : e.1 = k
        · have rest : es.map (fun e => if e.1 = k then (k, v) else e) = es := by
            refine (List.map_congr_left ?_).trans (List.map_id _)
            intro e' member
            refine if_neg ?_
            intro same
            exact nodup.1 (List.mem_map.mpr ⟨e', member, same.trans here.symm⟩)
          rw [if_pos here, rest]
          dsimp only
          omega
        · rw [if_neg here]
          omega
    rw [total, total, entries]
    exact each d.entries d.nodup
  · have entries := entries_set_of_absent (d := d) (v := v) known
    rw [total, total, entries]
    simp

omit [AddCommMonoid M] in
theorem total_ofList_le (weigh : α → Nat) (pairs : List (κ × α)) :
    (ofList pairs).total weigh ≤ (pairs.map (fun e => weigh e.2)).sum := by
  induction pairs using List.reverseRecOn with
  | nil => exact Nat.le_refl _
  | append_singleton pairs e ih =>
    have step := total_set_le weigh (ofList pairs) e.1 e.2
    rw [ofList, List.foldl_append, List.foldl_cons, List.foldl_nil, ← ofList]
    simp only [List.map_append, List.map_cons, List.map_nil, List.sum_append, List.sum_cons, List.sum_nil]
    omega

end Dict

end Relational
