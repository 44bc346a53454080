import Mathlib.Algebra.Order.Floor.Ring
import Mathlib.Algebra.Order.Field.Basic
import Mathlib.Data.List.Forall2
import Mathlib.Data.List.Pairwise
import Mathlib.Tactic.Linarith
import Mathlib.Tactic.Ring

namespace Numeric

section
variable {α : Type}

/-- In a sorted list the entries with a property that goes down stand in front. -/
theorem lt_countP_iff {le : α → α → Prop} {xs : List α} (sorted : xs.Pairwise le) {p : α → Bool}
    (down : ∀ a b, le a b → p b = true → p a = true) (k : Nat) (inside : k < xs.length) :
    k < xs.countP p ↔ p xs[k] = true := by
  induction xs generalizing k with
  | nil => cases inside
  | cons x xs ih =>
    obtain ⟨least, rest⟩ := List.pairwise_cons.mp sorted
    by_cases first : p x = true
    · rw [List.countP_cons_of_pos first]
      cases k with
      | zero => simp [first]
      | succ k => simpa using ih rest k (by simpa using inside)
    · have none_ : xs.countP p = 0 := by
        rw [List.countP_eq_zero]
        intro y listed holds
        exact first (down x y (least y listed) holds)
      rw [List.countP_cons_of_neg first, none_]
      constructor
      · intro below
        exact absurd below (Nat.not_lt_zero k)
      · intro holds
        cases k with
        | zero => exact absurd holds first
        | succ k =>
          have within : k < xs.length := by simpa using inside
          have listed : xs[k] ∈ xs := List.getElem_mem within
          exact absurd (down x _ (least _ listed) holds) first

theorem lt_countP_iff_getElem? {le : α → α → Prop} {xs : List α} (sorted : xs.Pairwise le) {p : α → Bool}
    (down : ∀ a b, le a b → p b = true → p a = true) (k : Nat) : k < xs.countP p ↔ ∃ a, xs[k]? = some a ∧ p a = true := by
  rcases Nat.lt_or_ge k xs.length with inside | outside
  · rw [lt_countP_iff sorted down k inside, List.getElem?_eq_getElem inside]
    simp
  · have few : xs.countP p ≤ k := le_trans List.countP_le_length outside
    rw [List.getElem?_eq_none outside]
    simpa using few

/-- The entry of rank `k`; beyond the end the last one. -/
def ranked (xs : List α) (nonempty : xs ≠ []) (k : Nat) : α :=
  xs.get ⟨min k (xs.length - 1), by have := List.length_pos_iff.mpr nonempty; omega⟩

theorem ranked_mem (xs : List α) (nonempty : xs ≠ []) (k : Nat) : ranked xs nonempty k ∈ xs := List.get_mem _ _

theorem ranked_of_lt {xs : List α} (nonempty : xs ≠ []) {k : Nat} (inside : k < xs.length) :
    ranked xs nonempty k = xs[k] := by
  have clamped : min k (xs.length - 1) = k := by omega
  simp only [ranked, clamped, List.get_eq_getElem]

variable [LinearOrder α]

theorem ranked_monotone {xs : List α} (nonempty : xs ≠ []) (sorted : xs.Pairwise (fun a b => a ≤ b)) :
    Monotone (ranked xs nonempty) := by
  intro i j below
  have size := List.length_pos_iff.mpr nonempty
  rcases Nat.lt_or_ge (min i (xs.length - 1)) (min j (xs.length - 1)) with apart | meet
  · exact List.pairwise_iff_get.mp sorted _ _ apart
  · have same : min i (xs.length - 1) = min j (xs.length - 1) := by omega
    simp only [ranked, same, le_refl]

theorem countP_le_of_raised {xs ys : List α} (raised : List.Forall₂ (fun a b => a ≤ b) xs ys) (c : α) :
    ys.countP (fun y => decide (y ≤ c)) ≤ xs.countP (fun x => decide (x ≤ c)) := by
  induction raised with
  | nil => exact Nat.le_refl _
  | @cons a b as bs below rest ih =>
    rw [List.countP_cons, List.countP_cons]
    by_cases high : b ≤ c
    · have low := le_trans below high
      simp only [high, low, decide_true, ↓reduceIte]
      omega
    · simp only [high, decide_false, Bool.false_eq_true, ↓reduceIte]
      omega

/-- Raising entries raises every rank, wherever the entries move. -/
theorem ranked_le_ranked {xs ys xs' ys' : List α} (raised : List.Forall₂ (fun a b => a ≤ b) xs' ys') (left : xs.Perm xs')
    (right : ys.Perm ys') (nonempty : xs ≠ []) (full : ys ≠ []) (sorted : xs.Pairwise (fun a b => a ≤ b))
    (ordered : ys.Pairwise (fun a b => a ≤ b)) (k : Nat) : ranked xs nonempty k ≤ ranked ys full k := by
  have size : xs.length = ys.length := by rw [left.length_eq, right.length_eq, raised.length_eq]
  have positive := List.length_pos_iff.mpr nonempty
  let j := min k (xs.length - 1)
  have inside : j < xs.length := by omega
  have within : j < ys.length := by omega
  let c := ys[j]
  have down : ∀ a b : α, a ≤ b → decide (b ≤ c) = true → decide (a ≤ c) = true := by
    intro a b below holds
    exact decide_eq_true (le_trans below (of_decide_eq_true holds))
  have counted : ys.countP (fun y => decide (y ≤ c)) ≤ xs.countP (fun x => decide (x ≤ c)) := by
    rw [left.countP_eq, right.countP_eq]
    exact countP_le_of_raised raised c
  have upper : j < ys.countP (fun y => decide (y ≤ c)) :=
    (lt_countP_iff ordered down j within).mpr (decide_eq_true (le_refl c))
  have lower := (lt_countP_iff sorted down j inside).mp (Nat.lt_of_lt_of_le upper counted)
  have here : ranked ys full k = c := by
    simp only [ranked, c, j, size, List.get_eq_getElem]
  rw [here]
  exact of_decide_eq_true lower

end

section
variable {K : Type} [Field K] [LinearOrder K] [IsStrictOrderedRing K] [FloorRing K]

/-- The value at a position between two ranks. -/
def lerp (f : Nat → K) (pos : K) : K := f ⌊pos⌋.toNat * (1 - (pos - ⌊pos⌋)) + f ⌈pos⌉.toNat * (pos - ⌊pos⌋)

omit [IsStrictOrderedRing K] in
theorem lerp_eq (f : Nat → K) (pos : K) :
    lerp f pos = f ⌊pos⌋.toNat + (f ⌈pos⌉.toNat - f ⌊pos⌋.toNat) * (pos - ⌊pos⌋) := by
  unfold lerp
  ring

theorem floor_le_ceil_toNat (pos : K) : ⌊pos⌋.toNat ≤ ⌈pos⌉.toNat := Int.toNat_le_toNat (Int.floor_le_ceil pos)

theorem offset_bounds (pos : K) : 0 ≤ pos - ⌊pos⌋ ∧ pos - ⌊pos⌋ ≤ 1 := by
  have low := Int.floor_le pos
  have high := Int.lt_floor_add_one pos
  constructor <;> linarith

theorem le_lerp {f : Nat → K} (monotone : Monotone f) (pos : K) : f ⌊pos⌋.toNat ≤ lerp f pos := by
  have rise := monotone (floor_le_ceil_toNat pos)
  rw [lerp_eq]
  have added := mul_nonneg (sub_nonneg.mpr rise) (offset_bounds pos).1
  linarith

theorem lerp_le {f : Nat → K} (monotone : Monotone f) (pos : K) : lerp f pos ≤ f ⌈pos⌉.toNat := by
  have rise := monotone (floor_le_ceil_toNat pos)
  rw [lerp_eq]
  have most := mul_le_of_le_one_right (sub_nonneg.mpr rise) (offset_bounds pos).2
  linarith

theorem lerp_le_lerp {f g : Nat → K} (below : ∀ k, f k ≤ g k) (pos : K) : lerp f pos ≤ lerp g pos := by
  obtain ⟨low, high⟩ := offset_bounds pos
  exact add_le_add (mul_le_mul_of_nonneg_right (below _) (sub_nonneg.mpr high)) (mul_le_mul_of_nonneg_right (below _) low)

/-- The value rises with the position. -/
theorem lerp_monotone {f : Nat → K} (monotone : Monotone f) : Monotone (lerp f) := by
  intro a b below
  rcases lt_or_eq_of_le (Int.floor_mono below) with apart | same
  · have step : ⌈a⌉ ≤ ⌊b⌋ := le_trans (Int.ceil_le_floor_add_one a) apart
    exact le_trans (lerp_le monotone a) (le_trans (monotone (Int.toNat_le_toNat step)) (le_lerp monotone b))
  · have rise := monotone (floor_le_ceil_toNat a)
    have further : f ⌈a⌉.toNat ≤ f ⌈b⌉.toNat := monotone (Int.toNat_le_toNat (Int.ceil_mono below))
    have low := (offset_bounds a).1
    rw [lerp_eq, lerp_eq, ← same]
    have grown : (f ⌈a⌉.toNat - f ⌊a⌋.toNat) * (a - ⌊a⌋) ≤ (f ⌈b⌉.toNat - f ⌊a⌋.toNat) * (b - ⌊a⌋) :=
      mul_le_mul (by linarith) (by linarith) low (by linarith)
    linarith

end

end Numeric
