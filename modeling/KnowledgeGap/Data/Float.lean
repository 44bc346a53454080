import KnowledgeGap.Data.Rounding

namespace KnowledgeGap

/-- A float as the code meets it: a number, or one of the three values that are none. -/
inductive PyFloat (K : Type)
  | nan
  | negInf
  | posInf
  | fin (x : K)
  deriving DecidableEq, Repr

namespace PyFloat

variable {K : Type}

def isFinite : PyFloat K → Bool
  | .fin _ => true
  | _ => false

def toFinite : PyFloat K → Option K
  | .fin x => some x
  | _ => none

section
variable [Field K] [LinearOrder K]

/-- `<` of the language: false wherever `nan` is. -/
def lt : PyFloat K → PyFloat K → Bool
  | .fin x, .fin y => decide (x < y)
  | .negInf, .fin _ | .negInf, .posInf | .fin _, .posInf => true
  | _, _ => false

def le : PyFloat K → PyFloat K → Bool
  | .fin x, .fin y => decide (x ≤ y)
  | .negInf, .negInf | .negInf, .fin _ | .negInf, .posInf | .fin _, .posInf | .posInf, .posInf => true
  | _, _ => false

def add : PyFloat K → PyFloat K → PyFloat K
  | .fin x, .fin y => .fin (x + y)
  | .posInf, .fin _ | .fin _, .posInf | .posInf, .posInf => .posInf
  | .negInf, .fin _ | .fin _, .negInf | .negInf, .negInf => .negInf
  | _, _ => .nan

def neg : PyFloat K → PyFloat K
  | .fin x => .fin (-x)
  | .posInf => .negInf
  | .negInf => .posInf
  | .nan => .nan

def sub (x y : PyFloat K) : PyFloat K := x.add y.neg

def abs : PyFloat K → PyFloat K
  | .fin x => .fin (max x (-x))
  | .posInf | .negInf => .posInf
  | .nan => .nan

/-- `min(a, b)`: the second one only where it is smaller. -/
def pyMin (a b : PyFloat K) : PyFloat K := if b.lt a then b else a

def pyMax (a b : PyFloat K) : PyFloat K := if a.lt b then b else a

def sum (values : List (PyFloat K)) : PyFloat K := values.foldl add (.fin 0)

def round [FloorRing K] (places : Nat) : PyFloat K → PyFloat K
  | .fin x => .fin (roundTo places x)
  | x => x

omit [Field K] in
@[simp] theorem lt_fin (x y : K) : (fin x).lt (fin y) = decide (x < y) := rfl

omit [Field K] in
@[simp] theorem le_fin (x y : K) : (fin x).le (fin y) = decide (x ≤ y) := rfl

omit [LinearOrder K] in
@[simp] theorem add_fin (x y : K) : (fin x).add (fin y) = fin (x + y) := rfl

@[simp] theorem round_fin [FloorRing K] (places : Nat) (x : K) : (fin x).round places = fin (roundTo places x) := rfl

omit [LinearOrder K] in
theorem sum_fin_from (values : List K) (start : K) :
    (values.map fin).foldl add (fin start) = fin (values.foldl (· + ·) start) := by
  induction values generalizing start with
  | nil => rfl
  | cons x values ih => exact ih (start + x)

omit [LinearOrder K] in
theorem sum_map_fin (values : List K) : sum (values.map fin) = fin (pySum values) := sum_fin_from values 0

omit [LinearOrder K] in
theorem sum_finite {values : List (PyFloat K)} (finite : ∀ v ∈ values, v.isFinite = true) : ∃ x, sum values = fin x := by
  have numbers : ∃ xs : List K, values = xs.map fin := by
    induction values with
    | nil => exact ⟨[], rfl⟩
    | cons v values ih =>
      obtain ⟨xs, rest⟩ := ih (fun w member => finite w (List.mem_cons_of_mem v member))
      cases v with
      | fin x => exact ⟨x :: xs, by rw [rest]; rfl⟩
      | nan | negInf | posInf => cases finite _ List.mem_cons_self
  obtain ⟨xs, rfl⟩ := numbers
  exact ⟨_, sum_map_fin xs⟩

/-- What a clipped value is: inside the bounds, whatever it was before, unless it was `nan`. -/
theorem clip_fin {bound : K} (positive : 0 < bound) {x : PyFloat K} (number : x ≠ .nan) :
    ∃ y, pyMax (fin 0) (pyMin (fin bound) x) = fin y ∧ 0 ≤ y ∧ y ≤ bound := by
  unfold pyMax pyMin
  cases x with
  | nan => exact absurd rfl number
  | negInf => exact ⟨0, rfl, le_refl 0, le_of_lt positive⟩
  | posInf =>
    refine ⟨bound, ?_, le_of_lt positive, le_refl bound⟩
    simp [lt, positive]
  | fin x =>
    by_cases below : x < bound
    · by_cases above : 0 < x
      · exact ⟨x, by simp [below, above], le_of_lt above, le_of_lt below⟩
      · exact ⟨0, by simp [below, above], le_refl 0, le_of_lt positive⟩
    · exact ⟨bound, by simp [below, positive], le_of_lt positive, le_refl bound⟩

end

end PyFloat

section
variable {K : Type} [Field K] [LinearOrder K] [FloorRing K] [IsStrictOrderedRing K]

theorem roundHalfEven_near (x : K) : |(roundHalfEven x : K) - x| ≤ ratio 1 2 := by
  have low := Int.floor_le x
  have high := Int.lt_floor_add_one x
  have half : (ratio 1 2 : K) + ratio 1 2 = 1 := by
    unfold ratio
    norm_num
  unfold roundHalfEven
  dsimp only
  split
  · rename_i near
    rw [abs_le]
    constructor <;> linarith
  · rename_i far
    have beyond : ratio 1 2 ≤ x - (⌊x⌋ : K) := not_lt.mp far
    split
    · rename_i above
      push_cast
      rw [abs_le]
      constructor <;> linarith
    · rename_i middle
      have tie : x - (⌊x⌋ : K) ≤ ratio 1 2 := not_lt.mp middle
      split
      · rw [abs_le]
        constructor <;> linarith
      · push_cast
        rw [abs_le]
        constructor <;> linarith

/-- Rounding moves a number by half a unit of its last place at most. -/
theorem roundTo_near (places : Nat) (x : K) : |roundTo places x - x| ≤ ratio 1 2 / ((10 : Nat) : K) ^ places := by
  have scale : (0 : K) < ((10 : Nat) : K) ^ places := by positivity
  have near := roundHalfEven_near (x * ((10 : Nat) : K) ^ places)
  unfold roundTo
  rw [le_div_iff₀ scale, ← abs_of_pos scale, ← abs_mul, sub_mul, abs_of_pos scale, div_mul_cancel₀ _ (ne_of_gt scale)]
  exact near

end

end KnowledgeGap
