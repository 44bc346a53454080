import Mathlib.Data.List.Nodup
import Mathlib.Data.List.Perm.Basic
import Mathlib.Tactic.Common

/-! A list around one of its elements: how the element is found, what is left when it is replaced, left out, swapped or
followed by another one. -/

namespace Relational.Focus

variable {α β κ : Type}

/-- The first answer, each element asked with its index. -/
def findSomeIdx (ask : Nat → α → Option β) (xs : List α) : Option β :=
  xs.zipIdx.findSome? (fun e => ask e.2 e.1)

theorem findSomeIdx_eq_some {ask : Nat → α → Option β} {xs : List α} {b : β} (found : findSomeIdx ask xs = some b) :
    ∃ before a after, xs = before ++ a :: after ∧ ask before.length a = some b := by
  obtain ⟨⟨a, i⟩, listed, answer⟩ := List.exists_of_findSome?_eq_some found
  have place := List.mem_zipIdx' listed
  refine ⟨xs.take i, a, xs.drop (i + 1), ?_, ?_⟩
  · rw [place.2, ← List.drop_eq_getElem_cons place.1, List.take_append_drop]
  · rw [List.length_take, Nat.min_eq_left (Nat.le_of_lt place.1)]
    exact answer

theorem sublist_flatMap (f : α → List β) {xs : List α} {a : α} (listed : a ∈ xs) : (f a).Sublist (xs.flatMap f) := by
  rw [List.flatMap_def]
  exact List.sublist_flatten_of_mem (List.mem_map_of_mem listed)

section
variable {before after : List α} {a : α}

theorem mapIdx_at (f : α → α) :
    (before ++ a :: after).mapIdx (fun i x => if i = before.length then f x else x) = before ++ f a :: after := by
  apply List.ext_getElem
  · simp
  · intro i _ _
    rw [List.getElem_mapIdx]
    rcases Nat.lt_trichotomy i before.length with left | here | right
    · rw [if_neg (Nat.ne_of_lt left), List.getElem_append_left left, List.getElem_append_left left]
    · subst here
      simp
    · rw [if_neg (Nat.ne_of_gt right), List.getElem_append_right (Nat.le_of_lt right),
        List.getElem_append_right (Nat.le_of_lt right), List.getElem_cons, List.getElem_cons]
      have later : i - before.length ≠ 0 := by omega
      rw [dif_neg later, dif_neg later]

/-- Two neighbours replaced at once. -/
theorem mapIdx_pair {p : α} (f g : α → α) :
    (before ++ p :: a :: after).mapIdx (fun i x =>
      if i = before.length + 1 then f x else if i = before.length then g x else x) = before ++ g p :: f a :: after := by
  calc
    _ = ((before ++ p :: a :: after).mapIdx (fun i x => if i = before.length then g x else x)).mapIdx
        (fun i x => if i = before.length + 1 then f x else x) := by
      rw [List.mapIdx_mapIdx]
      congr 1
      funext i x
      by_cases second : i = before.length + 1
      · subst second
        simp
      · simp only [Function.comp_apply, if_neg second]
    _ = (before ++ g p :: a :: after).mapIdx (fun i x => if i = before.length + 1 then f x else x) := by rw [mapIdx_at]
    _ = (before ++ [g p] ++ a :: after).mapIdx (fun i x => if i = (before ++ [g p]).length then f x else x) := by simp
    _ = before ++ g p :: f a :: after := by
      rw [mapIdx_at]
      simp

theorem insertIdx_next (b : α) : (before ++ a :: after).insertIdx (before.length + 1) b = before ++ a :: b :: after := by
  induction before with
  | nil => rfl
  | cons c before ih => simpa using ih

variable {key : α → κ}

theorem key_ne_before (distinct : ((before ++ a :: after).map key).Nodup) {x : α} (listed : x ∈ before) : key x ≠ key a := by
  rw [List.map_append, List.map_cons, List.nodup_append] at distinct
  exact distinct.2.2 (key x) (List.mem_map_of_mem listed) (key a) List.mem_cons_self

theorem key_ne_after (distinct : ((before ++ a :: after).map key).Nodup) {x : α} (listed : x ∈ after) : key x ≠ key a := by
  rw [List.map_append, List.map_cons, List.nodup_append, List.nodup_cons] at distinct
  intro same
  exact distinct.2.1.1 (same ▸ List.mem_map_of_mem listed)

variable [DecidableEq κ]

theorem map_untouched {xs : List α} {k : κ} (f : α → α) (absent : ∀ x ∈ xs, key x ≠ k) :
    xs.map (fun x => if key x = k then f x else x) = xs := by
  conv_rhs => rw [← List.map_id xs]
  exact List.map_congr_left (fun x listed => if_neg (absent x listed))

theorem map_keyed (f : α → α) (distinct : ((before ++ a :: after).map key).Nodup) :
    (before ++ a :: after).map (fun x => if key x = key a then f x else x) = before ++ f a :: after := by
  rw [List.map_append, List.map_cons, if_pos rfl, map_untouched f (fun x => key_ne_before distinct),
    map_untouched f (fun x => key_ne_after distinct)]

theorem filter_untouched {xs : List α} {k : κ} (absent : ∀ x ∈ xs, key x ≠ k) :
    xs.filter (fun x => decide (key x ≠ k)) = xs :=
  List.filter_eq_self.mpr (fun x listed => decide_eq_true (absent x listed))

theorem filter_keyed (distinct : ((before ++ a :: after).map key).Nodup) :
    (before ++ a :: after).filter (fun x => decide (key x ≠ key a)) = before ++ after := by
  rw [List.filter_append, List.filter_cons_of_neg (by simp), filter_untouched (fun x => key_ne_before distinct),
    filter_untouched (fun x => key_ne_after distinct)]

end

end Relational.Focus
