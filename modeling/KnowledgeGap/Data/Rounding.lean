import KnowledgeGap.Data.Number
import Mathlib.Algebra.BigOperators.Group.List.Basic
import Mathlib.Tactic.Linarith
import Mathlib.Algebra.Order.BigOperators.Group.List
import Mathlib.Data.Finset.Max
import Mathlib.Data.Finset.Dedup

namespace KnowledgeGap

variable {K : Type} [Field K] [LinearOrder K] [FloorRing K]

theorem floor_le_roundHalfEven (x : K) : ⌊x⌋ ≤ roundHalfEven x := by
  unfold roundHalfEven
  dsimp only
  split
  · omega
  · split
    · omega
    · split <;> omega

theorem roundHalfEven_le_floor_succ (x : K) : roundHalfEven x ≤ ⌊x⌋ + 1 := by
  unfold roundHalfEven
  dsimp only
  split
  · omega
  · split
    · omega
    · split <;> omega

variable [IsStrictOrderedRing K]

theorem roundHalfEven_mono {x y : K} (le : x ≤ y) : roundHalfEven x ≤ roundHalfEven y := by
  have floors : ⌊x⌋ ≤ ⌊y⌋ := Int.floor_mono le
  by_cases apart : ⌊x⌋ < ⌊y⌋
  · have upper := roundHalfEven_le_floor_succ x
    have lower := floor_le_roundHalfEven y
    omega
  · have same : ⌊x⌋ = ⌊y⌋ := by omega
    have rests : x - (⌊y⌋ : K) ≤ y - (⌊y⌋ : K) := by linarith
    unfold roundHalfEven
    dsimp only
    rw [same]
    generalize x - (⌊y⌋ : K) = a at rests
    generalize y - (⌊y⌋ : K) = b at rests
    split
    · split
      · omega
      · split
        · omega
        · split <;> omega
    · rename_i high
      have highB : ¬ b < ratio 1 2 := fun low => high (lt_of_le_of_lt rests low)
      rw [if_neg highB]
      split
      · rename_i above
        rw [if_pos (lt_of_lt_of_le above rests)]
      · split
        · split <;> omega
        · split <;> omega

theorem roundTo_mono (places : Nat) {x y : K} (le : x ≤ y) : roundTo places x ≤ roundTo places y := by
  have scale : (0 : K) < ((10 : Nat) : K) ^ places := by positivity
  have scaled : x * ((10 : Nat) : K) ^ places ≤ y * ((10 : Nat) : K) ^ places :=
    mul_le_mul_of_nonneg_right le (le_of_lt scale)
  unfold roundTo
  apply div_le_div_of_nonneg_right _ (le_of_lt scale)
  exact_mod_cast roundHalfEven_mono scaled

theorem roundHalfEven_intCast (n : Int) : roundHalfEven (n : K) = n := by
  have half : (0 : K) < ratio 1 2 := by
    unfold ratio
    positivity
  unfold roundHalfEven
  simp [half]

theorem roundTo_intCast (places : Nat) (n : Int) : roundTo places (n : K) = n := by
  have scale : ((10 : Nat) : K) ^ places ≠ 0 := by positivity
  have scaled : (n : K) * ((10 : Nat) : K) ^ places = ((n * 10 ^ places : Int) : K) := by push_cast; ring
  unfold roundTo
  rw [scaled, roundHalfEven_intCast, ← scaled, mul_div_assoc, div_self scale, mul_one]

omit [LinearOrder K] [FloorRing K] [IsStrictOrderedRing K] in
theorem pySum_eq_sum (values : List K) : pySum values = values.sum := by
  unfold pySum
  rw [List.sum_eq_foldl]

omit [FloorRing K] in
theorem mean_le {values : List K} {bound : K} (some : values ≠ []) (below : ∀ v ∈ values, v ≤ bound) :
    mean values ≤ bound := by
  have positive : (0 : K) < values.length := by exact_mod_cast List.length_pos_iff.mpr some
  have total := List.sum_le_card_nsmul values bound below
  rw [nsmul_eq_mul] at total
  rw [mean, pySum_eq_sum, div_le_iff₀ positive, mul_comm]
  exact total

omit [FloorRing K] in
theorem le_mean {values : List K} {bound : K} (some : values ≠ []) (above : ∀ v ∈ values, bound ≤ v) :
    bound ≤ mean values := by
  have positive : (0 : K) < values.length := by exact_mod_cast List.length_pos_iff.mpr some
  have total := List.card_nsmul_le_sum values bound above
  rw [nsmul_eq_mul] at total
  rw [mean, pySum_eq_sum, le_div_iff₀ positive, mul_comm]
  exact total

/-- Values that round alike round as their mean does. -/
theorem roundTo_mean (places : Nat) {values : List K} {common : K} (some : values ≠ [])
    (alike : ∀ v ∈ values, roundTo places v = common) : roundTo places (mean values) = common := by
  have any : values.toFinset.Nonempty := List.toFinset_nonempty_iff values |>.mpr some
  obtain ⟨low, lowest, least⟩ := values.toFinset.exists_min_image id any
  obtain ⟨high, highest, most⟩ := values.toFinset.exists_max_image id any
  simp only [List.mem_toFinset, id] at lowest least highest most
  have below := roundTo_mono places (le_mean some least)
  have above := roundTo_mono places (mean_le some most)
  rw [alike low lowest] at below
  rw [alike high highest] at above
  exact le_antisymm above below

end KnowledgeGap
