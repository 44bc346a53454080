import Mathlib.Algebra.BigOperators.Group.List.Basic
import Mathlib.Algebra.Order.Field.Basic
import Mathlib.Data.List.Forall2
import Mathlib.Tactic.Linarith
import Mathlib.Tactic.Ring

namespace Numeric

variable {K : Type} [Field K]

/-- The sum of the weights in a list of weights and values. -/
def mass (xs : List (K × K)) : K := (xs.map Prod.fst).sum

def moment (xs : List (K × K)) : K := (xs.map (fun x => x.1 * x.2)).sum

def weightedMean (xs : List (K × K)) : K := moment xs / mass xs

@[simp] theorem mass_nil : mass ([] : List (K × K)) = 0 := rfl

@[simp] theorem mass_cons (x : K × K) (xs : List (K × K)) : mass (x :: xs) = x.1 + mass xs := by
  simp [mass]

@[simp] theorem moment_nil : moment ([] : List (K × K)) = 0 := rfl

@[simp] theorem moment_cons (x : K × K) (xs : List (K × K)) : moment (x :: xs) = x.1 * x.2 + moment xs := by
  simp [moment]

theorem weightedMean_perm {xs ys : List (K × K)} (perm : xs.Perm ys) : weightedMean xs = weightedMean ys := by
  have masses : mass xs = mass ys := (perm.map Prod.fst).sum_eq
  have moments : moment xs = moment ys := (perm.map (fun x : K × K => x.1 * x.2)).sum_eq
  rw [weightedMean, weightedMean, moments, masses]

/-- Only the proportions of the weights count. -/
theorem weightedMean_scale {c : K} (nonzero : c ≠ 0) (xs : List (K × K)) :
    weightedMean (xs.map (fun x => (c * x.1, x.2))) = weightedMean xs := by
  have masses : mass (xs.map (fun x => (c * x.1, x.2))) = c * mass xs := by
    induction xs with
    | nil => simp
    | cons x xs ih =>
      rw [List.map_cons, mass_cons, mass_cons, ih]
      ring
  have moments : moment (xs.map (fun x => (c * x.1, x.2))) = c * moment xs := by
    clear masses
    induction xs with
    | nil => simp
    | cons x xs ih =>
      rw [List.map_cons, moment_cons, moment_cons, ih]
      ring
  rw [weightedMean, weightedMean, moments, masses, mul_div_mul_left _ _ nonzero]

section
variable [LinearOrder K] [IsStrictOrderedRing K]

def Weighted (xs : List (K × K)) : Prop := ∀ x ∈ xs, 0 < x.1

variable {xs : List (K × K)} {x : K × K} {c : K}

omit [IsStrictOrderedRing K] in
theorem weighted_cons : Weighted (x :: xs) ↔ 0 < x.1 ∧ Weighted xs := by
  simp [Weighted]

theorem mass_nonneg (weighted : Weighted xs) : 0 ≤ mass xs := by
  induction xs with
  | nil => exact le_refl _
  | cons x xs ih =>
    have ⟨first, rest⟩ := weighted_cons.mp weighted
    rw [mass_cons]
    linarith [ih rest]

theorem mass_pos (weighted : Weighted xs) (nonempty : xs ≠ []) : 0 < mass xs := by
  cases xs with
  | nil => exact absurd rfl nonempty
  | cons x xs =>
    have ⟨first, rest⟩ := weighted_cons.mp weighted
    rw [mass_cons]
    linarith [mass_nonneg rest]

theorem mul_mass_le (weighted : Weighted xs) (low : ∀ x ∈ xs, c ≤ x.2) : c * mass xs ≤ moment xs := by
  induction xs with
  | nil => simp
  | cons x xs ih =>
    have ⟨first, rest⟩ := weighted_cons.mp weighted
    have tail := ih rest (fun y listed => low y (List.mem_cons_of_mem _ listed))
    have head := mul_le_mul_of_nonneg_left (low x (List.mem_cons_self ..)) first.le
    rw [mass_cons, moment_cons]
    linarith

theorem le_mul_mass (weighted : Weighted xs) (high : ∀ x ∈ xs, x.2 ≤ c) : moment xs ≤ c * mass xs := by
  induction xs with
  | nil => simp
  | cons x xs ih =>
    have ⟨first, rest⟩ := weighted_cons.mp weighted
    have tail := ih rest (fun y listed => high y (List.mem_cons_of_mem _ listed))
    have head := mul_le_mul_of_nonneg_left (high x (List.mem_cons_self ..)) first.le
    rw [mass_cons, moment_cons]
    linarith

theorem le_weightedMean (weighted : Weighted xs) (nonempty : xs ≠ []) (low : ∀ x ∈ xs, c ≤ x.2) : c ≤ weightedMean xs := by
  rw [weightedMean, le_div_iff₀ (mass_pos weighted nonempty)]
  exact mul_mass_le weighted low

theorem weightedMean_le (weighted : Weighted xs) (nonempty : xs ≠ []) (high : ∀ x ∈ xs, x.2 ≤ c) : weightedMean xs ≤ c := by
  rw [weightedMean, div_le_iff₀ (mass_pos weighted nonempty)]
  exact le_mul_mass weighted high

/-- Higher values under the same weights give a higher mean. -/
theorem weightedMean_mono {ys : List (K × K)} (weighted : Weighted xs)
    (raised : List.Forall₂ (fun x y => x.1 = y.1 ∧ x.2 ≤ y.2) xs ys) : weightedMean xs ≤ weightedMean ys := by
  have masses : mass xs = mass ys := by
    clear weighted
    induction raised with
    | nil => rfl
    | cons each _ ih => rw [mass_cons, mass_cons, ih, each.1]
  have moments : moment xs ≤ moment ys := by
    clear masses
    induction raised with
    | nil => exact le_refl _
    | @cons x y xs ys each _ ih =>
      have ⟨first, rest⟩ := weighted_cons.mp weighted
      have head := mul_le_mul_of_nonneg_left each.2 first.le
      rw [moment_cons, moment_cons, ← each.1]
      linarith [ih rest]
  rw [weightedMean, weightedMean, ← masses]
  exact div_le_div_of_nonneg_right moments (mass_nonneg weighted)

/-- The mean of two values lies between them. -/
theorem blend_between {a b u v : K} (first : 0 < a) (second : 0 < b) :
    min u v ≤ (a * u + b * v) / (a + b) ∧ (a * u + b * v) / (a + b) ≤ max u v := by
  have blend : weightedMean [(a, u), (b, v)] = (a * u + b * v) / (a + b) := by simp [weightedMean]
  have weighted : Weighted [(a, u), (b, v)] := by simp [Weighted, first, second]
  rw [← blend]
  exact ⟨le_weightedMean weighted (List.cons_ne_nil _ _) (by simp), weightedMean_le weighted (List.cons_ne_nil _ _) (by simp)⟩

/-- A value more draws the mean to itself. -/
theorem weightedMean_cons_between (weighted : Weighted (x :: xs)) (nonempty : xs ≠ []) :
    min (weightedMean xs) x.2 ≤ weightedMean (x :: xs) ∧ weightedMean (x :: xs) ≤ max (weightedMean xs) x.2 := by
  have ⟨first, rest⟩ := weighted_cons.mp weighted
  have heavy := mass_pos rest nonempty
  have moments : moment xs = mass xs * weightedMean xs := by rw [weightedMean, mul_div_cancel₀ _ heavy.ne']
  have blend : weightedMean (x :: xs) = (mass xs * weightedMean xs + x.1 * x.2) / (mass xs + x.1) := by
    rw [weightedMean, moment_cons, mass_cons, moments, add_comm (x.1 * x.2), add_comm x.1]
  rw [blend]
  exact blend_between heavy first

end

end Numeric
